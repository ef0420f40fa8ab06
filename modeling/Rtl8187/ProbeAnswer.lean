/-
# Which probe requests are answered

`probe_rq_parse` looks for the first SSID element and compares it with
`current_network.ssid` by `strncmp`, bounded by the element's length. The walk
finds the element in every list of elements. But the comparison does not see that
the current SSID is longer, nor what is behind a NUL in both, so besides requests
for the current SSID those for one that it could be mistaken for are answered
(`probeAnswered_iff`).

Key definitions: `probeRqParseIn`, `probeAnswer`, `ProbeRequest`, `Addressed`, `MistakenFor`.
Key theorems: `findSsid_encode`, `probeAnswer_isSome_iff`, `rxFrameSoftmac_probeReq`, `probeAnswered_iff`.
-/
import Rtl8187.BeaconRoundTrip
import Rtl8187.Join
import Rtl8187.XmitFragments

namespace Rtl8187

open Bytes Station

variable {P : Type}

/-! ### The answer -/

/-- `probe_rq_parse`, where the memory at `current_network.ssid` holds `buf`. -/
def probeRqParseIn (env : Env) (buf : List UInt8) (skb : SkBuff) : Bool × Mac :=
  if skb.len < dataHdr3Len then (true, env.stack)
  else
    match findSsid skb dataHdr3Len with
    | none => (true, addr2 skb.data)
    | some i =>
      let ssidlen := (skb.byte (i + 1)).toNat
      (ssidlen == 0 || strncmpEq (skb.mem.drop (i + 2)) buf ssidlen, addr2 skb.data)

/-- The device is one that answers probe requests. -/
def AnswersProbes (d : Device P) : Prop :=
  d.softmacFeatures.probeRs = true ∧ (d.iwMode = .adhoc ∨ d.iwMode = .master) ∧ d.state = .linked

instance (d : Device P) : Decidable (AnswersProbes d) :=
  inferInstanceAs (Decidable (d.softmacFeatures.probeRs = true ∧ (d.iwMode = .adhoc ∨ d.iwMode = .master) ∧
    d.state = .linked))

/-- The probe response that `ieee80211_rx_frame_softmac` has `softmac_mgmt_xmit` send
when a probe request comes, where `tail` is behind the current SSID in its array. -/
def probeAnswer (env : Env) (tail : List UInt8) (d : Device P) (skb : SkBuff) : Option (SkBuff × Device P) :=
  let parsed := probeRqParseIn env (d.currentNetwork.ssid ++ tail) skb
  if d.protoStarted ∧ AnswersProbes d ∧ parsed.1 then
    probeResp env.skbAlloc (notePs env d stypeProbeReq) parsed.2
  else none

/-- The handler, where nothing but zeros is behind the SSID. -/
theorem rxFrameSoftmac_probeReq (env : Env) (d : Device P) (skb : SkBuff)
    (hstype : fcStype (frameCtl skb.data) = stypeProbeReq) (hstarted : d.protoStarted = true) :
    (rxFrameSoftmac env d skb).2 = xmitReply env (notePs env d stypeProbeReq) (probeAnswer env [] d skb) := by
  have hparse : probeRqParse env (notePs env d stypeProbeReq) skb = probeRqParseIn env (d.currentNetwork.ssid ++ []) skb := by
    rw [List.append_nil]
    rfl
  have hguard : AnswersProbes (notePs env d stypeProbeReq) ↔ AnswersProbes d := Iff.rfl
  unfold rxFrameSoftmac probeAnswer
  dsimp only
  rw [if_neg (not_not.mpr hstarted), hstype, if_neg (by decide), if_neg (by decide), if_neg (by decide), if_pos rfl]
  dsimp only
  by_cases hanswers : AnswersProbes d
  · have hcond := hguard.mpr hanswers
    unfold AnswersProbes at hcond
    rw [if_pos hcond, rxProbeRq, hparse]
    by_cases hparsed : (probeRqParseIn env (d.currentNetwork.ssid ++ []) skb).1 = true
    · rw [if_pos hparsed, if_pos ⟨hstarted, hanswers, hparsed⟩]
    · rw [if_neg hparsed, if_neg fun h => hparsed h.2.2]
      rfl
  · have hcond := mt hguard.mp hanswers
    unfold AnswersProbes at hcond
    rw [if_neg hcond, if_neg fun h => hanswers h.2.1]
    rfl

/-! ### The walk -/

/-- The body of the first SSID element. -/
def firstSsid (es : List (UInt8 × List UInt8)) : Option (List UInt8) :=
  (es.find? fun e => e.1 == mfieTypeSsid).map Prod.snd

/-- **The walk** comes to the first SSID element, whatever elements there are. -/
theorem findSsid_encode {skb : SkBuff} {es : List (UInt8 × List UInt8)} {rest : List UInt8} {off : ℕ}
    (hes : ∀ e ∈ es, e.2.length < 256) (hmem : skb.mem.drop off = encodeElements es ++ rest)
    (hend : off + (encodeElements es).length = skb.len) :
    match es.find? fun e => e.1 == mfieTypeSsid with
    | none => findSsid skb off = none
    | some e => ∃ i, findSsid skb off = some i ∧ ElementAt skb i e := by
  induction es generalizing off with
  | nil =>
    have hoff : off = skb.len := hend
    show findSsid skb off = none
    rw [findSsid, if_neg (by omega)]
  | cons e es ih =>
    obtain ⟨hlen, hes⟩ := List.forall_mem_cons.mp hes
    obtain ⟨hat, hrest⟩ := elementAt_encode hlen hmem
    rw [length_encodeElements_cons] at hend
    have hin : off + 1 < skb.len := by omega
    rw [List.find?_cons]
    by_cases hid : e.1 = mfieTypeSsid
    · rw [beq_iff_eq.mpr hid]
      refine ⟨off, ?_, hat⟩
      have htag : skb.byte off = 0 := hat.id.trans hid
      rw [findSsid, if_pos hin, if_pos htag]
    · rw [beq_false_of_ne hid]
      have hnext : findSsid skb off = findSsid skb (off + 2 + e.2.length) := by
        have htag : ¬ skb.byte off = 0 := hat.id.trans_ne hid
        rw [findSsid, if_pos hin, if_neg htag, hat.len]
      rw [hnext]
      exact ih hes hrest (by omega)

/-! ### The comparison -/

/-- Up to the length of `s`, or to a NUL in both, `buf` goes like `s`. -/
def GoesLike (buf s : List UInt8) : Prop :=
  s <+: buf ∨ ∃ k < s.length, s.take k = buf.take k ∧ at8 s k = 0 ∧ at8 buf k = 0

/-- The element is there to be compared. -/
theorem strncmpEq_element {skb : SkBuff} {i : ℕ} {e : UInt8 × List UInt8} (h : ElementAt skb i e)
    (buf : List UInt8) : strncmpEq (skb.mem.drop (i + 2)) buf e.2.length = true ↔ SameString buf e.2 := by
  have hbyte : ∀ j < e.2.length, at8 (skb.mem.drop (i + 2)) j = at8 e.2 j := by
    intro j hj
    rw [at8_drop]
    exact h.body j hj
  rw [strncmpEq_iff]
  constructor
  · rintro ⟨k, hk, heq, hend⟩
    refine ⟨k, hk, fun j hj => ?_, ?_⟩
    · rw [← heq j hj, hbyte j (hj.trans_le hk)]
    · rcases eq_or_lt_of_le hk with hlast | hlt
      · exact Or.inl hlast
      · rw [hbyte k hlt] at hend
        exact hend.imp id And.symm
  · rintro ⟨k, hk, heq, hend⟩
    refine ⟨k, hk, fun j hj => ?_, ?_⟩
    · rw [hbyte j (hj.trans_le hk), heq j hj]
    · rcases eq_or_lt_of_le hk with hlast | hlt
      · exact Or.inl hlast
      · rw [hbyte k hlt]
        exact hend.imp id And.symm

/-- Bytes that agree, list by list. -/
theorem take_eq_take_of_at8 {a b : List UInt8} {k : ℕ} (ha : k ≤ a.length) (hb : k ≤ b.length)
    (h : ∀ i < k, at8 a i = at8 b i) : a.take k = b.take k := by
  rw [← map_range_at8 ha, ← map_range_at8 hb]
  exact List.map_congr_left fun i hi => h i (List.mem_range.mp hi)

theorem sameString_iff (buf s : List UInt8) : SameString buf s ↔ GoesLike buf s := by
  constructor
  · rintro ⟨k, hk, heq, hend⟩
    rcases le_or_gt k buf.length with hin | hout
    · have htake : s.take k = buf.take k := take_eq_take_of_at8 hk hin fun i hi => (heq i hi).symm
      rcases hend with rfl | ⟨hbuf, hs⟩
      · rw [List.take_length] at htake
        exact Or.inl (htake ▸ List.take_prefix _ _)
      · rcases eq_or_lt_of_le hk with rfl | hlt
        · rw [List.take_length] at htake
          exact Or.inl (htake ▸ List.take_prefix _ _)
        · exact Or.inr ⟨k, hlt, htake, hs, hbuf⟩
    · -- the bytes of `s` behind the end of `buf` are zeros, as are those of `buf`
      have hzero : at8 buf buf.length = 0 := List.getD_eq_default _ _ le_rfl
      refine Or.inr ⟨buf.length, hout.trans_le hk, ?_, ?_, hzero⟩
      · exact take_eq_take_of_at8 (hout.le.trans hk) le_rfl fun i hi => (heq i (hi.trans hout)).symm
      · rw [← heq _ hout, hzero]
  · rintro (hstart | ⟨k, hk, htake, hs, hbuf⟩)
    · obtain ⟨rest, rfl⟩ := hstart
      exact ⟨s.length, le_rfl, fun i hi => at8_append_left rest hi, Or.inl rfl⟩
    · refine ⟨k, hk.le, fun i hi => ?_, Or.inr ⟨hbuf, hs⟩⟩
      rw [← at8_take hi, ← htake, at8_take hi]

/-! ### Probe requests -/

/-- A well-formed probe request: a header, and these elements. -/
structure ProbeRequest (skb : SkBuff) (es : List (UInt8 × List UInt8)) : Prop where
  stype : fcStype (frameCtl skb.data) = stypeProbeReq
  elements : ∃ hdr : List UInt8, hdr.length = dataHdr3Len ∧ skb.data = hdr ++ encodeElements es
  short : ∀ e ∈ es, e.2.length < 256

/-- The request is for any network, or for the one with this SSID. -/
def Addressed (ssid : List UInt8) (es : List (UInt8 × List UInt8)) : Prop :=
  ∀ s ∈ firstSsid es, s = [] ∨ s = ssid

/-- Another SSID, which the array that begins with the current one goes like. -/
def MistakenFor (ssid tail s : List UInt8) : Prop := s ≠ [] ∧ s ≠ ssid ∧ GoesLike (ssid ++ tail) s

section

variable {env : Env} {d : Device P} {skb : SkBuff} {es : List (UInt8 × List UInt8)}

/-- What the parser answers. -/
theorem probeRqParseIn_iff (hreq : ProbeRequest skb es) (buf : List UInt8) :
    (probeRqParseIn env buf skb).1 = true ↔ ∀ s ∈ firstSsid es, s = [] ∨ GoesLike buf s := by
  obtain ⟨hdr, hhdr, hdata⟩ := hreq.elements
  have hlen : skb.len = dataHdr3Len + (encodeElements es).length := by
    unfold SkBuff.len
    rw [hdata, List.length_append, hhdr]
  have hmem : skb.mem.drop dataHdr3Len = encodeElements es ++ skb.behind := by
    unfold SkBuff.mem
    rw [hdata, List.append_assoc, ← hhdr, List.drop_left]
  have hwalk := findSsid_encode hreq.short hmem hlen.symm
  unfold probeRqParseIn firstSsid
  rw [if_neg (not_lt.mpr (hlen ▸ Nat.le_add_right _ _))]
  cases hfirst : es.find? fun e => e.1 == mfieTypeSsid with
  | none =>
    rw [hfirst] at hwalk
    rw [hwalk]
    exact iff_of_true rfl nofun
  | some e =>
    rw [hfirst] at hwalk
    obtain ⟨i, hi, hat⟩ := hwalk
    rw [hi]
    simp only [hat.len, Bool.or_eq_true, beq_iff_eq, strncmpEq_element hat, sameString_iff, List.length_eq_zero_iff,
      Option.map_some, Option.mem_some_iff, forall_eq']

/-- **Which requests are answered**: those whose first SSID the array goes like. -/
theorem probeAnswer_isSome_iff (hstarted : d.protoStarted = true) (hanswers : AnswersProbes d)
    (halloc : env.skbAlloc = true) (hreq : ProbeRequest skb es) (tail : List UInt8) :
    (probeAnswer env tail d skb).isSome = true ↔
      ∀ s ∈ firstSsid es, s = [] ∨ GoesLike (d.currentNetwork.ssid ++ tail) s := by
  rw [← @probeRqParseIn_iff env skb es hreq]
  unfold probeAnswer
  dsimp only
  by_cases hparsed : (probeRqParseIn env (d.currentNetwork.ssid ++ tail) skb).1 = true
  · rw [if_pos ⟨hstarted, hanswers, hparsed⟩]
    refine iff_of_true ?_ hparsed
    unfold probeResp
    rw [halloc]
    rfl
  · rw [if_neg fun h => hparsed h.2.2]
    exact iff_of_false Bool.false_ne_true hparsed

/-- **When exactly the requests that are addressed are answered**: if the first SSID is
none that the current one is mistaken for. -/
theorem probeAnswered_iff (hstarted : d.protoStarted = true) (hanswers : AnswersProbes d)
    (halloc : env.skbAlloc = true) (hreq : ProbeRequest skb es) (tail : List UInt8) :
    ((probeAnswer env tail d skb).isSome = true ↔ Addressed d.currentNetwork.ssid es) ↔
      ∀ s ∈ firstSsid es, ¬ MistakenFor d.currentNetwork.ssid tail s := by
  rw [probeAnswer_isSome_iff hstarted hanswers halloc hreq]
  unfold Addressed MistakenFor
  cases firstSsid es with
  | none => exact iff_of_true (iff_of_true nofun nofun) nofun
  | some s =>
    simp only [Option.mem_some_iff, forall_eq']
    have hself : s = d.currentNetwork.ssid → GoesLike (d.currentNetwork.ssid ++ tail) s := by
      rintro rfl
      exact Or.inl (List.prefix_append _ _)
    tauto

end

/-- A linked station of an ad hoc cell with the SSID `ralink`. -/
def cellMember : Device Unit :=
  { Device.init Unit ⟨250, true⟩ ⟨2, 0, 0, 0, 0, 1⟩ with
    protoStarted := true
    iwMode := .adhoc
    state := .linked
    currentNetwork := ⟨⟨2, 0, 0, 0, 0, 9⟩, 1, [0x72, 0x61, 0x6c, 0x69, 0x6e, 0x6b], 2, [], [], 100, 0, [], [], false⟩ }

/-- A probe request with two elements, of which the second is this SSID. -/
def probeFor (s : List UInt8) : SkBuff :=
  ⟨0, dataHdr stypeProbeReq .broadcast ⟨2, 0, 0, 0, 0, 7⟩ .broadcast 0 ++
    encodeElements [(mfieTypeRates, [0x82]), (mfieTypeSsid, s)], []⟩

theorem probeFor_request {s : List UInt8} (h : s.length < 256) :
    ProbeRequest (probeFor s) [(mfieTypeRates, [0x82]), (mfieTypeSsid, s)] where
  stype := by
    unfold probeFor
    rw [frameCtl_dataHdr]
    decide
  elements := ⟨_, length_dataHdr .., rfl⟩
  short := by simp [h]

/-- The moment at which it comes. -/
def probeEnv : Env := ⟨1000, true, fun _ => false, ⟨0, 0, 0, 0, 0, 0⟩⟩

/-- A request for `rallye` is judged right. -/
theorem cellMember_answers :
    (probeAnswer probeEnv (List.replicate 27 0) cellMember (probeFor [0x72, 0x61, 0x6c, 0x6c, 0x79, 0x65])).isSome = true ↔
      Addressed cellMember.currentNetwork.ssid [(mfieTypeRates, [0x82]), (mfieTypeSsid, [0x72, 0x61, 0x6c, 0x6c, 0x79, 0x65])] := by
  refine (probeAnswered_iff rfl (by decide) rfl (probeFor_request (by decide)) _).mpr ?_
  rintro _ ⟨⟩ ⟨-, -, hstart | ⟨k, hk, htake, hs, -⟩⟩
  · exact absurd hstart (by decide)
  · have hnonzero : ∀ k < 6, at8 [0x72, 0x61, 0x6c, 0x6c, 0x79, 0x65] k ≠ 0 := by decide
    exact hnonzero k hk hs

/-- One for `ral` is answered. -/
theorem shorter_answered : ¬ ∀ (env : Env) (tail : List UInt8) (d : Device Unit) (skb : SkBuff)
    (es : List (UInt8 × List UInt8)), d.protoStarted = true → AnswersProbes d → env.skbAlloc = true →
    ProbeRequest skb es → ((probeAnswer env tail d skb).isSome = true ↔ Addressed d.currentNetwork.ssid es) := by
  intro h
  have hreq : ProbeRequest (probeFor [0x72, 0x61, 0x6c]) _ := probeFor_request (by decide)
  have haddressed := (h probeEnv [] cellMember _ _ rfl (by decide) rfl hreq).mp
    ((probeAnswer_isSome_iff rfl (by decide) rfl hreq []).mpr ?_)
  · exact absurd (haddressed _ rfl) (by decide)
  · rintro _ ⟨⟩
    exact Or.inr (Or.inl (by decide))

end Rtl8187

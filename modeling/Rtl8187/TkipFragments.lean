/-
# TKIP and fragments

The Michael MIC belongs to an MSDU, TKIP to each MPDU. `ieee80211_encrypt_fragment`
adds a MIC to every fragment that it encrypts, and `ieee80211_rx` takes one MIC
off the MSDU when it has put the fragments together. So the MSDU that is put
together is eight bytes too long for each fragment but one, and no frame in more
than one fragment is ever delivered as it was (`tkip_fragments_lost`). Under
countermeasures the fragments go out in clear, and what a peer takes off them is
payload.

Key definitions: `TkipOut`, `TkipSends`, `Drifts`, `TkipPeer`, `Partway`, `TkipLinked`.
Key theorems: `encryptBuilt_tkip`, `receive_part`, `run_parts`, `tkip_fragments_lost`.
-/
import Rtl8187.RoundTrip
import Rtl8187.TkipRoundTrip

namespace Rtl8187

open Bytes Chunks

/-! ### What decryption takes off -/

section

variable {prim : Primitives} {ops : CryptoOps Priv} {skb : SkBuff} {hdrLen : ℕ} {priv : Priv}

/-- Any module takes off eight bytes at least. -/
theorem module_opens (h : ops ∈ cipherModules prim) {op : MpduOp Priv} (hop : op ∈ ops.decryptMpdu)
    (hret : 0 ≤ (op skb hdrLen priv).ret) : (op skb hdrLen priv).skb.len + 8 ≤ skb.len := by
  simp only [cipherModules, List.mem_cons, List.not_mem_nil, or_false] at h
  rcases h with rfl | rfl | rfl | rfl
  · cases hop
  · cases hop
    refine onPriv_ok (fun b => b.len + 8 ≤ skb.len) (fun d hd => ?_) hret
    obtain ⟨hl, hdata⟩ := prism2WepDecrypt_data hd
    rw [SkBuff.len, hdata, List.length_append, List.length_take, List.length_take]
    omega
  · cases hop
    refine onPriv_ok (fun b => b.len + 8 ≤ skb.len) (fun d hd => ?_) hret
    obtain ⟨hl, hlen, -⟩ := tkipDecrypt_hdr hd
    omega
  · cases hop
    refine onPriv_ok (fun b => b.len + 8 ≤ skb.len) (fun d hd => ?_) hret
    obtain ⟨plain, hlen, hdata⟩ := ccmpDecrypt_data prim hd
    rw [SkBuff.len, hdata, List.length_append, List.length_take]
    omega

/-- TKIP takes off the IVs and the ICV. -/
theorem tkip_opens {op : MpduOp Priv} (hop : op ∈ (tkipOps prim).decryptMpdu) (hret : 0 ≤ (op skb hdrLen priv).ret) :
    (op skb hdrLen priv).skb.len + 12 = skb.len := by
  cases hop
  refine onPriv_ok (fun b => b.len + 12 = skb.len) (fun d hd => ?_) hret
  obtain ⟨hl, hlen, -⟩ := tkipDecrypt_hdr hd
  omega

/-- What checks the MIC of an MSDU takes off no more than that. -/
theorem module_checks (h : ops ∈ cipherModules prim) {op : MsduOp Priv} (hop : op ∈ ops.decryptMsdu) {keyidx : Int}
    (hret : 0 ≤ (op skb keyidx hdrLen priv).ret) : skb.len ≤ (op skb keyidx hdrLen priv).skb.len + michaelMicLen := by
  simp only [cipherModules, List.mem_cons, List.not_mem_nil, or_false] at h
  rcases h with rfl | rfl | rfl | rfl
  · cases hop
  · cases hop
  · cases hop
    refine onPriv_ok (fun b => skb.len ≤ b.len + michaelMicLen) (fun d hd => ?_) hret
    rcases michaelMicVerify_priv prim skb hdrLen d keyidx with ⟨-, -, hlen⟩ | ⟨hneg, -⟩
    · omega
    · exact absurd hd (not_le.mpr hneg)
  · cases hop

end

/-! ### The sender -/

/-- What is made of a fragment: under countermeasures nothing, else there are the
IVs, a MIC and the ICV besides, and the IVs name the slot. -/
def TkipOut (idx : KeyIdx) (stop : Bool) (hdr payload out : List UInt8) : Prop :=
  if stop then out = hdr ++ payload
  else ∃ rest, out = hdr ++ rest ∧ rest.length = payload.length + 20 ∧ keyIdxOf (at8 rest 3) = idx

/-- The device sends with a TKIP key. -/
structure TkipSends (prim : Primitives) (idx : KeyIdx) (stop : Bool) (d : Device Priv) : Prop where
  stops : d.countermeasuresStop (tkipOps prim) = stop
  keyidx : d.txKeyidx = idx
  slot : ∃ tkey : TkipData, d.cryptOps idx = some (tkipOps prim, .tkip tkey) ∧ tkey.keyIdx = idx

section

variable {prim : Primitives} {idx : KeyIdx} {stop : Bool} {d : Device Priv} {pl : XmitPlan} {frag skb : SkBuff}
  {hdr payload : List UInt8}

/-- What an encrypted frame has behind its header. -/
theorem tkipFrame_rest (tk : List UInt8) (ttak : Ttak) (iv32 : UInt32) (iv16 : UInt16) :
    ∃ rest, tkipFrame prim tk idx ttak iv32 iv16 hdr payload = hdr ++ rest ∧ rest.length = payload.length + 12 ∧
      keyIdxOf (at8 rest 3) = idx := by
  have hiv : ((tkipMixingPhase2 tk ttak iv16).take 3 ++ [keyIdxByte idx ||| extIv] ++ le32 iv32).length = 8 := rfl
  refine ⟨_, List.append_assoc .., ?_, ?_⟩
  · rw [List.length_append, hiv, length_arc4Crypt, List.length_append, Primitives.length_icv]
    omega
  · rw [at8_append_left _ (by rw [hiv]; decide)]
    exact keyIdxOf_byte_extIv idx

/-- **Every fragment has a MIC of its own.** -/
theorem encryptBuilt_tkip (h : TkipSends prim idx stop d) (hencrypt : pl.encrypt = true)
    (hdata : frag.data = hdr ++ payload) (hhdr : hdr.length = dataHdr3Len) (hhead : 8 ≤ frag.headroom)
    (htail : 16 ≤ frag.tailroom) :
    TkipOut idx stop hdr payload (encryptBuilt pl d frag).1.data ∧ TkipSends prim idx stop (encryptBuilt pl d frag).2 := by
  obtain ⟨hstop, htx, tkey, hslot, hidx⟩ := h
  have hcrypt : d.txCrypt = some (tkipOps prim, .tkip tkey) := by rw [Device.txCrypt, htx, hslot]
  unfold encryptBuilt encryptFragment TkipOut
  rw [if_pos hencrypt, hcrypt]
  dsimp only
  rw [hstop]
  cases stop with
  | true => exact ⟨hdata, hstop, htx, tkey, hslot, hidx⟩
  | false =>
    set mic := prim.michaelMic tkey.txMicKey (michaelMicHdr (hdr ++ payload) ++ payload)
    have h8 : mic.length = 8 := prim.length_michaelMic _ _
    have hadd : michaelMicAdd prim frag hdr.length tkey = ⟨0, frag.put mic, tkey⟩ :=
      michaelMicAdd_ok hdata (le_trans (by decide) htail)
    have hput : (frag.put mic).data = hdr ++ (payload ++ mic) := by rw [SkBuff.put_data, hdata, List.append_assoc]
    have hroom : 4 ≤ (frag.put mic).tailroom := by
      rw [SkBuff.tailroom_put, h8]
      omega
    obtain ⟨-, hpriv, hout⟩ := @tkipEncrypt_ok prim (frag.put mic) tkey _ _ hput hhead hroom
    have hmic : CryptRes.ofOp (tkipOps prim).encryptMsdu frag dataHdr3Len (.tkip tkey) =
        ⟨0, frag.put mic, .tkip tkey⟩ := by
      rw [← hhdr]
      exact congrArg (fun r : CryptRes TkipData => (⟨r.ret, r.skb, .tkip r.priv⟩ : CryptRes Priv)) hadd
    obtain ⟨rest, hframe, hlen, hbyte⟩ := @tkipFrame_rest prim idx hdr (payload ++ mic) tkey.key
      (tkey.txPhase1 (addr2 (frag.put mic).data)) tkey.txIv32 tkey.txIv16
    rw [hidx] at hout
    simp only [Bool.false_eq_true, if_false, hmic, if_true]
    rw [← hhdr]
    refine ⟨⟨rest, hout.trans hframe, ?_, hbyte⟩, hstop, htx, (tkipEncrypt prim (frag.put mic) hdr.length tkey).priv,
      ?_, (congrArg TkipData.keyIdx hpriv).trans hidx⟩
    · rw [hlen, List.length_append, h8]
    · rw [htx, cryptOps_setPriv, hslot]
      rfl

theorem outFragment_tkip (hpool : PoolReady d) (h : TkipSends prim idx stop d) (hfcs : d.configFcs = false)
    (hlen : (xmitPayload skb).len ≤ 1500) (hencrypt : d.encrypts (etherType skb) = true) {i : ℕ}
    (hi : i < (xmitPlan d skb).nrFrags) :
    TkipOut idx stop ((xmitPlan d skb).header i) (chunk (xmitPlan d skb).bytesPerFrag (xmitBody skb) i)
      (outFragment (xmitPlan d skb) d (xmitPayload skb) (poolFragments d) i).data := by
  have hbuild : BuildsSeals (xmitPlan d skb) (TkipSends prim idx stop) (TkipOut idx stop) := by
    intro d' frag hdr payload hsends hdata hhdr hhead htail
    exact encryptBuilt_tkip hsends hencrypt hdata hhdr (le_trans (by decide) hhead) htail
  exact hbuild.outFragment hpool hlen h hfcs hi

end

/-! ### Lengths -/

/-- Of `n` fragments there are `got` bytes for `want` of payload: eight too many for
each, or under countermeasures eight too few at least. -/
def Drifts (stop : Bool) (n got want : ℕ) : Prop := if stop then got + 8 * n ≤ want else got = want + 8 * n

theorem Drifts.add {stop : Bool} {n m got got' want want' : ℕ} (h : Drifts stop n got want)
    (h' : Drifts stop m got' want') : Drifts stop (n + m) (got + got') (want + want') := by
  unfold Drifts at h h' ⊢
  cases stop with
  | true =>
    simp only [if_true] at h h' ⊢
    omega
  | false =>
    simp only [Bool.false_eq_true, if_false] at h h' ⊢
    omega

/-! ### The peer -/

/-- The peer has TKIP in this slot, whatever the key, and modules of the driver in
the others. -/
structure TkipPeer (prim : Primitives) (idx : KeyIdx) (d : Device Priv) : Prop where
  slot : (d.cryptOps idx).map Prod.fst = some (tkipOps prim)
  host : d.hostDecrypt = true
  modules : ∀ idx, ∀ c ∈ d.cryptOps idx, c.1 ∈ cipherModules prim

section

variable {prim : Primitives} {idx : KeyIdx} {stop : Bool} {a : AirMsdu} {i : ℕ} {d d' : Device Priv} {skb : SkBuff}

theorem TkipPeer.congr (h : TkipPeer prim idx d) (hhost : d'.hostDecrypt = d.hostDecrypt)
    (hmod : ∀ idx, (d'.cryptOps idx).map Prod.fst = (d.cryptOps idx).map Prod.fst) : TkipPeer prim idx d' :=
  ⟨(hmod idx).trans h.slot, hhost.trans h.host, all_modules hmod h.modules⟩

/-- The slot that is to decrypt is the one that the frame names, and has a module
that does. -/
theorem decryptSlot_some {P : Type} {d : Device P} {idx : KeyIdx} (h : decryptSlot d skb = some idx) :
    (getHdrlen (frameCtl skb.data) + 3 ≤ skb.len →
        keyIdxOf (skb.byte (getHdrlen (frameCtl skb.data) + 3)) = idx) ∧
      ∃ c op, d.cryptOps idx = some c ∧ c.1.decryptMpdu = some op := by
  obtain ⟨hany, hidx⟩ := Option.ite_none_right_eq_some.mp h
  rw [Option.some.injEq] at hidx
  rw [hidx, Bool.and_eq_true, Option.any_eq_true] at hany
  obtain ⟨-, c, hc, hsome⟩ := hany
  obtain ⟨op, hop⟩ := Option.isSome_iff_exists.mp hsome
  refine ⟨fun hlen => ?_, c, op, hc, hop⟩
  rw [← hidx, if_pos hlen]

/-- What a module of a slot makes of a frame that it accepts. -/
theorem rxFrameDecrypt_op {P : Type} {d : Device P} {idx : KeyIdx} {c : CryptoOps P × P} {op : MpduOp P}
    (hslot : d.cryptOps idx = some c) (hop : c.1.decryptMpdu = some op)
    (h : 0 ≤ (rxFrameDecrypt d skb (some idx)).1) :
    let res := op skb (getHdrlen (frameCtl skb.data)) c.2
    0 ≤ res.ret ∧ (rxFrameDecrypt d skb (some idx)).2.1 = res.skb := by
  obtain ⟨ops, priv⟩ := c
  have hops : d.slotOps (some idx) = some (idx, ops, priv) := by
    unfold Device.slotOps
    rw [Option.bind_some, hslot]
    rfl
  unfold rxFrameDecrypt at h ⊢
  rw [hops] at h ⊢
  dsimp only at h hop ⊢
  rw [hop] at h ⊢
  dsimp only at h ⊢
  by_cases hstop : d.countermeasuresStop ops = true
  · rw [if_pos hstop] at h
    exact absurd h (by simp)
  · rw [if_neg hstop] at h ⊢
    refine ⟨?_, rfl⟩
    by_contra hneg
    rw [if_pos (not_le.mp hneg)] at h
    exact absurd h (by simp)

/-- Decryption leaves the modules. -/
theorem rxFrameDecrypt_modules {P : Type} (d : Device P) (skb : SkBuff) (slot : Option KeyIdx) :
    SameModules (rxFrameDecrypt d skb slot).2.2 d := by
  unfold rxFrameDecrypt
  split
  · exact .refl d
  · split
    · exact .refl d
    · rename_i idx ops priv _ _ op _
      by_cases hstop : d.countermeasuresStop ops = true
      · rw [if_pos hstop]
        exact .refl d
      · rw [if_neg hstop]
        exact .setPriv d _ _

/-- **A fragment that the peer decrypts** has lost too little, or too much. -/
theorem rxFrameDecrypt_tkip (h : TkipPeer prim idx d) {hdr payload : List UInt8}
    (hout : TkipOut idx stop hdr payload skb.data) (hhdr : hdr.length = dataHdr3Len)
    (hlen : getHdrlen (frameCtl skb.data) = dataHdr3Len) {slot : KeyIdx} (hslot : decryptSlot d skb = some slot)
    (hret : 0 ≤ (rxFrameDecrypt d skb (some slot)).1) :
    ∃ rest, (rxFrameDecrypt d skb (some slot)).2.1.data = hdr ++ rest ∧
      Drifts stop 1 rest.length payload.length := by
  obtain ⟨rest₀, hdata, hrest₀⟩ : ∃ rest, skb.data = hdr ++ rest ∧
      if stop then rest.length = payload.length
      else rest.length = payload.length + 20 ∧ keyIdxOf (at8 rest 3) = idx := by
    unfold TkipOut at hout
    cases stop with
    | true => exact ⟨payload, hout, rfl⟩
    | false => exact hout
  have hskb : skb.len = dataHdr3Len + rest₀.length := by rw [SkBuff.len, hdata, List.length_append, hhdr]
  obtain ⟨hge, htake⟩ := rxFrameDecrypt_hdr hret (by omega)
  obtain ⟨hname, c, op, hc, hop⟩ := decryptSlot_some hslot
  obtain ⟨hpos, hres⟩ := rxFrameDecrypt_op hc hop hret
  rw [hlen, hdata, ← hhdr, List.take_left] at htake
  set opened := (rxFrameDecrypt d skb (some slot)).2.1
  have hopened : opened.data = hdr ++ opened.data.drop hdr.length := by
    conv_lhs => rw [← List.take_append_drop hdr.length opened.data, htake]
  have hrest : dataHdr3Len + (opened.data.drop hdr.length).length = opened.len := by
    rw [List.length_drop, hhdr]
    rw [hlen] at hge
    exact Nat.add_sub_cancel' hge
  refine ⟨_, hopened, ?_⟩
  unfold Drifts
  cases stop with
  | true =>
    have hless := module_opens (h.modules slot c hc) hop hpos
    rw [← hres] at hless
    simp only [if_true] at hrest₀ ⊢
    omega
  | false =>
    simp only [Bool.false_eq_true, if_false] at hrest₀ ⊢
    obtain ⟨hlong, hbyte⟩ := hrest₀
    have hidx : slot = idx := by
      have hat : skb.byte (getHdrlen (frameCtl skb.data) + 3) = at8 rest₀ 3 := by
        have hread : skb.byte (dataHdr3Len + 3) = at8 skb.data (dataHdr3Len + 3) :=
          at8_append_left _ (by unfold SkBuff.len at hskb; omega)
        rw [hlen, hread, hdata, at8_append_right _ (by omega), hhdr, Nat.add_sub_cancel_left]
      rw [← hname (by omega), hat, hbyte]
    subst hidx
    have hops : c.1 = tkipOps prim := by
      have hmod := h.slot
      rw [hc] at hmod
      exact Option.some.inj hmod
    rw [hops] at hop
    have hless := tkip_opens hop hpos
    rw [← hres] at hless
    omega

theorem TkipOut.starts {hdr payload out : List UInt8} (h : TkipOut idx stop hdr payload out) :
    ∃ rest, out = hdr ++ rest := by
  unfold TkipOut at h
  cases stop with
  | true => exact ⟨payload, h⟩
  | false =>
    obtain ⟨rest, hout, -⟩ := h
    exact ⟨rest, hout⟩

/-- What a call of `ieee80211_rx` can come to for any other frame. -/
theorem rx_ordinary {P : Type} (mgt : RxMgt P) (env : RxEnv) (w : World P)
    (htype : fcType (frameCtl skb.data) ≠ ftypeMgmt) :
    let r := rx mgt env (w.arrive skb) w.nextBuf
    (∃ d, SameButFilter d w.dev ∧ r = (0, (w.arrive skb).setDev d)) ∨
      r = (1, (w.arrive skb).emit (.monitor w.nextBuf)) ∨
      ∃ d, rxAdmit env w.dev skb = .data d ∧ r = rxData env { w.arrive skb with dev := d } w.nextBuf := by
  intro r
  have hr : r = rx mgt env (w.arrive skb) w.nextBuf := rfl
  have hdup := isDuplicatePacket_same env w.dev skb.data
  have hdev : (w.arrive skb).dev = w.dev := rfl
  rw [rx, arrive_buf, hdev] at hr
  dsimp only at hr
  rcases rxAdmit_cases env w.dev skb with ha | ha | ha | ha | ⟨ha, -⟩
  · rw [ha] at hr
    exact Or.inl ⟨w.dev, .refl _, hr⟩
  · rw [ha] at hr
    exact Or.inr (Or.inl hr)
  · rw [ha] at hr
    exact Or.inl ⟨_, hdup, hr⟩
  · exact absurd (rxAdmit_mgmt ha) htype
  · rw [ha] at hr
    exact Or.inr (Or.inr ⟨_, ha, hr⟩)

/-- Nothing of a frame that came into `w` is kept. -/
structure Skipped {P : Type} (w w' : World P) : Prop where
  fragCache : w'.dev.fragCache = w.dev.fragCache
  msdus : w'.msdus = w.msdus
  heap : ∀ fb < w.nextBuf, w'.heap fb = w.heap fb
  nextBuf : w.nextBuf ≤ w'.nextBuf

/-- Fragment `i` came into the world `w`, and has been decrypted. -/
structure PartIn (prim : Primitives) (idx : KeyIdx) (stop : Bool) (a : AirMsdu) (i : ℕ) (w w' : World Priv)
    (last : LastFrame) : Prop extends Arrived w w' where
  peer : TkipPeer prim idx w'.dev
  data : ∃ rest, (w'.heap w.nextBuf).skb.data = a.header i ++ rest ∧ Drifts stop 1 rest.length (a.piece i).length
  frag : last.frag = i
  hdrlen : last.hdrlen = dataHdr3Len
  more : moreFrags last.fc = (i + 1 != a.nrFrags)

theorem Arrived.skipped {P : Type} {w w' : World P} (h : Arrived w w') : Skipped w w' :=
  ⟨h.fragCache, h.msdus, h.others, h.nextBuf ▸ Nat.le_succ _⟩

theorem skipped_arrive {P : Type} (w : World P) (skb : SkBuff) : Skipped w (w.arrive skb) :=
  ⟨rfl, rfl, fun _ hfb => Function.update_of_ne hfb.ne _ _, Nat.le_succ _⟩

/-- The peer after the duplicate filter. -/
theorem TkipPeer.filtered (h : TkipPeer prim idx d) (hsame : SameButFilter d' d) : TkipPeer prim idx d' :=
  h.congr (hsame.view Device.hostDecrypt fun _ _ _ _ => rfl) fun idx =>
    hsame.view (fun d => (d.cryptOps idx).map Prod.fst) fun _ _ _ _ => rfl

/-- And after a decryption. -/
theorem TkipPeer.opened {w : World Priv} (h : TkipPeer prim idx w.dev) (b : BufId) :
    TkipPeer prim idx (rxOpen w b).2.dev := by
  have hdev : (rxOpen w b).2.dev = (rxOpened w b).2.2 := rfl
  refine h.congr ((rxOpen_dev w b).view Device.hostDecrypt fun _ => rfl) fun idx => ?_
  rw [hdev, rxOpened]
  split_ifs
  · exact (rxFrameDecrypt_modules _ _ _).modules idx
  · rfl

/-- **One frame**: it is dropped, or goes on to reassembly. -/
theorem rx_part (mgt : RxMgt Priv) (env : RxEnv) {w : World Priv} (henc : a.encrypt = true) (hi : i < a.nrFrags)
    (hmany : a.nrFrags ≠ 1) (h : TkipPeer prim idx w.dev) (hout : TkipOut idx stop (a.header i) (a.piece i) skb.data) :
    let r := rx mgt env (w.arrive skb) w.nextBuf
    (Skipped w r.2 ∧ TkipPeer prim idx r.2.dev) ∨ ∃ (last : LastFrame) (w' : World Priv),
      PartIn prim idx stop a i w w' last ∧ r = (appendFragment env w' w.nextBuf last).finish env last := by
  intro r
  obtain ⟨rest, hdata⟩ := hout.starts
  obtain ⟨htype, -, hprot, hmore, -, hhdrlen⟩ := a.header_flags hi rest
  obtain ⟨-, -, -, hfrag⟩ := a.header_fields hi rest
  have hpart := a.isFragment_header hi rest
  rw [← hdata] at htype hprot hmore hhdrlen hfrag hpart
  have harrive := skipped_arrive w skb
  rcases rx_ordinary mgt env w (by rw [htype]; decide) with ⟨d, hd, hr⟩ | hr | ⟨d, ha, hr⟩
  · left
    have hr' : r = _ := hr
    rw [hr']
    exact ⟨⟨hd.fragCache, harrive.msdus, harrive.heap, harrive.nextBuf⟩, h.filtered hd⟩
  · left
    have hr' : r = _ := hr
    rw [hr']
    refine ⟨⟨rfl, ?_, harrive.heap, harrive.nextBuf⟩, h⟩
    exact List.filterMap_append.trans (List.append_nil _)
  · obtain ⟨hd, -, -, hkeyed⟩ := rxAdmit_data ha
    have hr' : r = _ := hr
    have harrived := arrived_rxOpen w skb hd
    set w₁ : World Priv := { w.arrive skb with dev := d }
    have hbuf : (w₁.heap w.nextBuf).skb = skb := congrArg RxBuf.skb (arrive_buf w skb)
    have hpeer : TkipPeer prim idx (rxOpen w₁ w.nextBuf).2.dev := TkipPeer.opened (h.filtered hd) _
    rcases rxData_cases env w₁ w.nextBuf with ⟨-, hdrop⟩ | ⟨-, hwhole, -⟩ | ⟨hpos, -, hgo⟩
    · left
      rw [hr', hdrop]
      exact ⟨harrived.skipped, hpeer⟩
    · rw [hbuf, hpart] at hwhole
      exact absurd hwhole (by simpa using hmany)
    · right
      have hopens : d.opens (frameCtl skb.data) = true := by
        rw [Device.opens, (h.filtered hd).host, hprot, henc]
        rfl
      have hsame : decryptSlot d skb = decryptSlot w.dev skb := hd.view (decryptSlot · skb) fun _ _ _ _ => rfl
      obtain ⟨slot, hslot⟩ := Option.ne_none_iff_exists'.mp (hkeyed h.host (hprot.trans henc))
      rw [← hsame] at hslot
      have hopened : rxOpened w₁ w.nextBuf = rxFrameDecrypt d skb (some slot) := by
        rw [rxOpened, hbuf]
        change (if d.opens (frameCtl skb.data) = true then rxFrameDecrypt d skb (decryptSlot d skb) else _) = _
        rw [if_pos hopens, hslot]
      rw [rxOpen_keyidx, hopened] at hpos
      have hlen := rxFrameDecrypt_tkip (h.filtered hd) hout (a.length_header i) hhdrlen hslot hpos
      refine ⟨(rxOpen w₁ w.nextBuf).1, (rxOpen w₁ w.nextBuf).2, ⟨harrived, hpeer, ?_, ?_, ?_, ?_⟩, ?_⟩
      · rw [rxOpen_heap, Function.update_self, openedSkb, hopened]
        exact hlen
      · change fragOf (w₁.heap w.nextBuf).skb.data = i
        rw [hbuf]
        exact hfrag
      · change getHdrlen (frameCtl (w₁.heap w.nextBuf).skb.data) = _
        rw [hbuf, hhdrlen]
      · change moreFrags (frameCtl (w₁.heap w.nextBuf).skb.data) = _
        rw [hbuf, hmore]
      · rw [hr', hgo]
        cases appendFragment env (rxOpen w₁ w.nextBuf).2 w.nextBuf (rxOpen w₁ w.nextBuf).1 <;> rfl

/-! ### Fragment by fragment -/

/-- The fragments before `j` have come in order: no entry gathers the MSDU, or one has
the fragments up to `k`. -/
def Partway (stop : Bool) (a : AirMsdu) (j : ℕ) (w : World Priv) : Prop :=
  Unheld a.fragKey w.dev.fragCache.entries ∨ ∃ fb t k rest, k < j ∧ Gathers a.fragKey fb t k w ∧
    (w.heap fb).skb.data = a.header 0 ++ rest ∧
      Drifts stop (k + 1) rest.length (a.body.take ((k + 1) * a.bytesPerFrag)).length

variable {env : RxEnv} {w w' : World Priv} {b : BufId} {last : LastFrame} {j : ℕ}

theorem Partway.skipped (h : Partway stop a j w) (hskip : Skipped w w') : Partway stop a j w' := by
  unfold Partway
  rw [hskip.fragCache]
  rcases h with hun | ⟨fb, t, k, rest, hk, hgathers, hdata, hdrift⟩
  · exact Or.inl hun
  · refine Or.inr ⟨fb, t, k, rest, hk, ⟨?_, hgathers.lt.trans_le hskip.nextBuf⟩, ?_, hdrift⟩
    · rw [hskip.fragCache]
      exact hgathers.entry
    · rw [hskip.heap fb hgathers.lt, hdata]

theorem Partway.succ (h : Partway stop a j w) : Partway stop a (j + 1) w := by
  rcases h with hun | ⟨fb, t, k, rest, hk, hrest⟩
  · exact Or.inl hun
  · exact Or.inr ⟨fb, t, k, rest, Nat.lt_succ_of_lt hk, hrest⟩

/-- **Reassembly of one fragment.** -/
theorem appendFragment_part (hj : j < a.nrFrags) (hmany : 1 < a.nrFrags) (h : Partway stop a j w) (hb : b < w.nextBuf)
    (hdata : ∃ rest, (w.heap b).skb.data = a.header j ++ rest ∧ Drifts stop 1 rest.length (a.piece j).length)
    (hfrag : last.frag = j) (hhdrlen : last.hdrlen = dataHdr3Len) (hmore : moreFrags last.fc = (j + 1 != a.nrFrags)) :
    match appendFragment env w b last with
    | .dropped w' => FromCache w' w ∧ Partway stop a (j + 1) w'
    | .stored w' => FromCache w' w ∧ Partway stop a (j + 1) w'
    | .complete fb w' => FromCache w' w ∧ j + 1 = a.nrFrags ∧ ∃ rest, (w'.heap fb).skb.data = a.header 0 ++ rest ∧
        Drifts stop a.nrFrags rest.length a.body.length := by
  obtain ⟨rest, hframe, hdrift⟩ := hdata
  obtain ⟨-, -, hkey, hnum⟩ := a.header_fields hj rest
  rw [← hframe] at hkey hnum
  have hof : fragOf (w.heap b).skb.data = j := hnum
  by_cases hzero : j = 0
  · -- the first fragment
    subst hzero
    have hun : Unheld a.fragKey w.dev.fragCache.entries :=
      h.resolve_right fun ⟨_, _, k, _, hk, _⟩ => Nat.not_lt_zero k hk
    have hmore' : moreFrags last.fc = true := by
      rw [hmore]
      simpa using hmany.ne
    rcases @appendFragment_first Priv env w b last _ hun hkey hof hb hmore' with
      ⟨-, -, w', hr, hfrom, hgathers, hskb⟩ | ⟨-, w', hr, hfrom, hun'⟩
    · rw [hr]
      have hbytes : last.bytes (w.heap b).skb = a.header 0 ++ rest := by rw [LastFrame.bytes, if_pos hfrag, hframe]
      refine ⟨hfrom, Or.inr ⟨w.nextBuf, env.now, 0, rest, Nat.one_pos, hgathers, ?_, ?_⟩⟩
      · rw [hskb, SkBuff.put_data, hbytes]
        rfl
      · rw [← a.piece_zero]
        exact hdrift
    · rw [hr]
      exact ⟨hfrom, Or.inl hun'⟩
  · have hne : fragOf (w.heap b).skb.data ≠ 0 := by
      rw [hof]
      exact hzero
    have hbytes : last.bytes (w.heap b).skb = rest := by
      rw [LastFrame.bytes, hfrag, if_neg hzero, hhdrlen, hframe, List.drop_left' (a.length_header j)]
    rcases h with hun | ⟨fb, t, k, old, hk, hgathers, hold, hsize⟩
    · obtain ⟨w', hr, hfrom, -, hun'⟩ := @appendFragment_stray Priv env w b last _ hun hkey hne
      rw [hr]
      exact ⟨hfrom, Or.inl hun'⟩
    · have hkept : ∀ bytes, FragKey.ofHdr ((w.heap fb).skb.data ++ bytes) = a.fragKey := by
        intro bytes
        rw [hold, List.append_assoc]
        exact (a.header_fields a.pos _).2.2.1
      rcases @appendFragment_next Priv env w b fb last _ _ _ hgathers hkey hne hkept with
        ⟨⟨-, hnext, -⟩, w', hfrom, hskb, hres⟩ | ⟨-, w', hr, hfrom, hheap, hres⟩
      · -- the one that was due
        have hdue : j = k + 1 := hof.symm.trans hnext
        have hpile : (w'.heap fb).skb.data = a.header 0 ++ (old ++ rest) := by
          rw [hskb, SkBuff.put_data, hold, hbytes, List.append_assoc]
        have htotal : Drifts stop (k + 1 + 1) (old ++ rest).length
            (a.body.take ((k + 1 + 1) * a.bytesPerFrag)).length := by
          rw [List.length_append, ← a.take_piece, List.length_append]
          rw [hdue] at hdrift
          exact hsize.add hdrift
        rw [hmore] at hres
        by_cases hlast : j + 1 = a.nrFrags
        · rw [if_neg (by simp [hlast])] at hres
          rw [hres.1]
          refine ⟨hfrom, hlast, old ++ rest, hpile, ?_⟩
          have hall : k + 1 + 1 = a.nrFrags := by omega
          rw [hall, a.take_all] at htotal
          exact htotal
        · rw [if_pos (by simpa using hlast)] at hres
          rw [hres.1]
          exact ⟨hfrom, Or.inr ⟨fb, t, k + 1, old ++ rest, by omega, hres.2, hpile, htotal⟩⟩
      · rw [hr]
        refine ⟨hfrom, hres.imp_right fun hstill => ?_⟩
        exact ⟨fb, t, k, old, Nat.lt_succ_of_lt hk, hstill, by rw [hheap, hold], hsize⟩

/-! ### The delivery -/

/-- What is put before the payload, or left out of it. -/
theorem length_etherPayload_le (payload : List UInt8) : payload.length ≤ (etherPayload payload).length + 6 := by
  unfold etherPayload
  dsimp only
  split_ifs
  · rw [List.length_drop]
    omega
  · rw [List.length_append]
    omega

theorem length_pull_le (skb : SkBuff) (n : ℕ) : (skb.pull n).len ≤ max (skb.len - n) n := by
  unfold SkBuff.pull
  split_ifs with hshort
  · exact hshort.le.trans (le_max_right _ _)
  · rw [SkBuff.len, List.length_drop]
    exact le_max_left _ _

theorem length_toEthernet_le (skb : SkBuff) (hdrlen : ℕ) (dst src : Mac) :
    (toEthernet skb hdrlen dst src).data.length ≤ 14 + max (skb.len - hdrlen) (hdrlen + 6) := by
  have hpull := length_pull_le skb hdrlen
  have hpull6 := length_pull_le skb (hdrlen + 6)
  have hbe : ∀ v : UInt16, (be16 v).length = 2 := fun _ => rfl
  unfold SkBuff.len at hpull hpull6 ⊢
  unfold toEthernet
  dsimp only
  split_ifs
  · simp only [SkBuff.push_data, List.length_append, Mac.length_toList]
    omega
  · simp only [SkBuff.push_data, List.length_append, Mac.length_toList, hbe]
    omega

/-- The check of the MIC takes off no more than a MIC. -/
theorem len_checkMsdu (h : TkipPeer prim idx w.dev) (hret : (checkMsdu w b last).1 = 0) :
    (w.heap b).skb.len ≤ (checkMsdu w b last).2.1.len + michaelMicLen := by
  unfold checkMsdu at hret ⊢
  split_ifs at hret ⊢ with hopens
  · unfold rxFrameDecryptMsdu at hret ⊢
    cases hops : w.dev.slotOps last.slot with
    | none => exact Nat.le_add_right _ _
    | some c =>
      obtain ⟨idx', ops, priv⟩ := c
      rw [hops] at hret
      dsimp only at hret ⊢
      cases hop : ops.decryptMsdu with
      | none => exact Nat.le_add_right _ _
      | some op =>
        rw [hop] at hret
        dsimp only at hret ⊢
        obtain ⟨slot, -, hc⟩ := Option.bind_eq_some_iff.mp hops
        obtain ⟨c, hslot, heq⟩ := Option.map_eq_some_iff.mp hc
        obtain ⟨-, rfl⟩ := Prod.mk.inj heq
        have hpos : 0 ≤ (op (w.heap b).skb last.keyidx (getHdrlen (frameCtl (w.heap b).skb.data)) priv).ret := by
          by_contra hneg
          rw [if_pos (not_le.mp hneg)] at hret
          cases hret
        exact module_checks (h.modules slot _ hslot) hop hpos
  · exact Nat.le_add_right _ _

/-- **What is delivered is of another length.** -/
theorem length_delivered (h : TkipPeer prim idx w.dev) {rest : List UInt8} (hdata : (w.heap b).skb.data = a.header 0 ++ rest)
    (hdrift : Drifts stop a.nrFrags rest.length a.body.length) (hmany : 1 < a.nrFrags) (hbody : 208 ≤ a.body.length)
    (hhdrlen : last.hdrlen = dataHdr3Len) (hret : (checkMsdu w b last).1 = 0) (reassembled : Bool) :
    (msduOf w b last reassembled).eth.length ≠ a.body.length + 6 := by
  have hcheck := len_checkMsdu h hret
  have hstart := checkMsdu_prefix w b last
  have hcut := hstart.length_le
  have hmic : michaelMicLen = 8 := rfl
  have hthree : dataHdr3Len = 24 := rfl
  have hwhole : (w.heap b).skb.len = dataHdr3Len + rest.length := by
    rw [SkBuff.len, hdata, List.length_append, a.length_header]
  change (toEthernet (checkMsdu w b last).2.1 last.hdrlen last.dst last.src).data.length ≠ _
  rw [hhdrlen]
  set checked := (checkMsdu w b last).2.1
  change checked.len ≤ (w.heap b).skb.len at hcut
  unfold Drifts at hdrift
  cases stop with
  | true =>
    -- payload has been taken for what encryption adds
    have hle := length_toEthernet_le checked dataHdr3Len last.dst last.src
    simp only [if_true] at hdrift
    omega
  | false =>
    -- the MICs of all fragments but one are in it
    simp only [Bool.false_eq_true, if_false] at hdrift
    have hge : dataHdr3Len ≤ checked.len := by omega
    have hpayload := length_etherPayload_le (checked.data.drop dataHdr3Len)
    rw [List.length_drop] at hpayload
    rw [toEthernet_data hge, List.length_append, List.length_append, Mac.length_toList, Mac.length_toList]
    unfold SkBuff.len at hcheck hwhole hge
    omega

/-- What is delivered from `w` to `w'`, if anything, is no frame of this MSDU's length. -/
def Undelivered (a : AirMsdu) (w w' : World Priv) : Prop :=
  ∃ ds : List (BufId × Msdu), w'.msdus = w.msdus ++ ds ∧ ∀ m ∈ ds, m.2.eth.length ≠ a.body.length + 6

theorem undelivered_of_msdus (h : w'.msdus = w.msdus) : Undelivered a w w' :=
  ⟨[], by rw [h, List.append_nil], nofun⟩

/-- Freeing the frame, or not, changes nothing else. -/
theorem receive_same (mgt : RxMgt Priv) (env : RxEnv) (w : World Priv) (skb : SkBuff) :
    let w' := (receive mgt env w skb).2
    let w'' := (rx mgt env (w.arrive skb) w.nextBuf).2
    w'.dev = w''.dev ∧ w'.heap = w''.heap ∧ w'.nextBuf = w''.nextBuf := by
  unfold receive
  dsimp only
  split_ifs
  · exact ⟨rfl, rfl, rfl⟩
  · exact ⟨rfl, rfl, rfl⟩

theorem Partway.congr (h : Partway stop a j w) (hdev : w'.dev = w.dev) (hheap : w'.heap = w.heap)
    (hnext : w'.nextBuf = w.nextBuf) : Partway stop a j w' := by
  unfold Partway at h ⊢
  rw [hdev, hheap]
  refine h.imp_right fun ⟨fb, t, k, rest, hk, hgathers, hrest⟩ => ⟨fb, t, k, rest, hk, ⟨?_, ?_⟩, hrest⟩
  · rw [hdev]
    exact hgathers.entry
  · rw [hnext]
    exact hgathers.lt

/-- **One frame, and then the next.** A fragment leaves the peer on its way; only the
last one can have it deliver something. -/
theorem receive_part (mgt : RxMgt Priv) (henc : a.encrypt = true) (hj : j < a.nrFrags) (hmany : 1 < a.nrFrags)
    (hbody : 208 ≤ a.body.length) (h : TkipPeer prim idx w.dev) (hway : Partway stop a j w)
    (hout : TkipOut idx stop (a.header j) (a.piece j) skb.data) :
    let w' := (receive mgt env w skb).2
    TkipPeer prim idx w'.dev ∧ Partway stop a (j + 1) w' ∧ w'.msdus = w.msdus ∨
      j + 1 = a.nrFrags ∧ Undelivered a w w' := by
  obtain ⟨hdev, hheap, hnext⟩ := receive_same mgt env w skb
  have hmsdus := msdus_receive mgt env w skb
  intro w'
  -- the peer goes on as `ieee80211_rx` left it
  have hgo : ∀ {w'' : World Priv}, (rx mgt env (w.arrive skb) w.nextBuf).2 = w'' → TkipPeer prim idx w''.dev →
      Partway stop a (j + 1) w'' → w''.msdus = w.msdus →
      TkipPeer prim idx w'.dev ∧ Partway stop a (j + 1) w' ∧ w'.msdus = w.msdus := by
    rintro w'' rfl hpeer hway' hsame
    exact ⟨hdev ▸ hpeer, hway'.congr hdev hheap hnext, hmsdus.trans hsame⟩
  rcases rx_part mgt env henc hj hmany.ne' h hout with ⟨hskip, hpeer⟩ | ⟨last, w₁, hpart, hr⟩
  · exact Or.inl (hgo rfl hpeer (hway.skipped hskip).succ hskip.msdus)
  · have hlt : w.nextBuf < w₁.nextBuf := by
      rw [hpart.nextBuf]
      exact Nat.lt_succ_self _
    have happ := @appendFragment_part stop a env w₁ w.nextBuf last j hj hmany
      (hway.skipped hpart.toArrived.skipped) hlt hpart.data hpart.frag hpart.hdrlen hpart.more
    have hpeer : ∀ {w₂ : World Priv}, FromCache w₂ w₁ → TkipPeer prim idx w₂.dev := by
      intro w₂ hfrom
      exact hpart.peer.congr (hfrom.view Device.hostDecrypt fun _ => rfl) fun idx =>
        hfrom.view (fun d => (d.cryptOps idx).map Prod.fst) fun _ => rfl
    cases hres : appendFragment env w₁ w.nextBuf last with
    | dropped w₂ =>
      rw [hres] at happ hr
      exact Or.inl (hgo (congrArg Prod.snd hr) (hpeer happ.1) happ.2 (happ.1.msdus.trans hpart.msdus))
    | stored w₂ =>
      rw [hres] at happ hr
      exact Or.inl (hgo (congrArg Prod.snd hr) (hpeer happ.1) happ.2 (happ.1.msdus.trans hpart.msdus))
    | complete fb w₂ =>
      rw [hres] at happ hr
      obtain ⟨hfrom, hlast, rest, hdata, hdrift⟩ := happ
      have hdeliver : w'.msdus = w.msdus ++ if Accepts w₂ fb last then [(fb, msduOf w₂ fb last true)] else [] := by
        calc w'.msdus = (deliver env w₂ fb last true).2.msdus := hmsdus.trans (congrArg (World.msdus ·.2) hr)
          _ = w₂.msdus ++ _ := deliver_msdus env w₂ fb last true
          _ = w.msdus ++ _ := by rw [hfrom.msdus, hpart.msdus]
      refine Or.inr ⟨hlast, _, hdeliver, fun m hm => ?_⟩
      split_ifs at hm with hacc
      · cases List.mem_singleton.mp hm
        exact length_delivered (hpeer hfrom) hdata hdrift hmany hbody hpart.hdrlen hacc.1 true
      · cases hm

/-- **All of them.** By induction on the frames that are still to come. -/
theorem run_parts (mgt : RxMgt Priv) (henc : a.encrypt = true) (hmany : 1 < a.nrFrags) (hbody : 208 ≤ a.body.length)
    {is : List (RxEnv × SkBuff)} (hair : OnAir (TkipOut idx stop) a j is) : ∀ {w : World Priv}, TkipPeer prim idx w.dev →
      Partway stop a j w → Undelivered a w (Run.run (World.step mgt) w (is.map frameInput)) := by
  induction hair with
  | @last j env skb hlast hout =>
    intro w h hway
    rcases receive_part mgt henc (by omega) hmany hbody h hway hout with ⟨-, -, hmsdus⟩ | ⟨-, hun⟩
    · exact undelivered_of_msdus hmsdus
    · exact hun
  | @more j env skb is hmore hout _ ih =>
    intro w h hway
    rcases receive_part mgt henc (by omega) hmany hbody h hway hout with ⟨h', hway', hmsdus⟩ | ⟨hlast, -⟩
    · obtain ⟨ds, hds, hne⟩ := ih h' hway'
      exact ⟨ds, hds.trans (congrArg (· ++ ds) hmsdus), hne⟩
    · omega

end

/-! ### No frame in fragments gets through -/

/-- A sender and a peer with TKIP in one slot, and the fragments of a frame that the
one encrypts come to the other, unchanged and in order. The peer gathers no MSDU of
this number. -/
structure TkipLinked (prim : Primitives) (idx : KeyIdx) (d : Device Priv) (env : Env) (eth : EtherFrame) (txb : Txb)
    (w : World Priv) (is : List (RxEnv × SkBuff)) : Prop where
  keyidx : d.txKeyidx = idx
  slot : ∃ tkey : TkipData, d.cryptOps idx = some (tkipOps prim, .tkip tkey) ∧ tkey.keyIdx = idx
  encrypts : d.encrypts (etherType eth.skb) = true
  configFcs : d.configFcs = false
  handed : txb ∈ (xmitTxb env d eth.skb).2.1
  many : 1 < txb.nrFrags
  fed : is.map (·.2.data) = txb.frames
  peer : TkipPeer prim idx w.dev
  unheld : Unheld (airMsdu d eth).fragKey w.dev.fragCache.entries

section

variable {prim : Primitives} {idx : KeyIdx} {d : Device Priv} {env : Env} {eth : EtherFrame} {txb : Txb}
  {w : World Priv} {is : List (RxEnv × SkBuff)}

theorem length_ether (d : Device Priv) (eth : EtherFrame) : eth.skb.data.length = (airMsdu d eth).body.length + 6 := by
  have hmin : 14 ≤ eth.skb.len := eth.min_le
  have hbody : (airMsdu d eth).body.length = (xmitPayload eth.skb).len + 8 := length_xmitBody
  have hpay : (xmitPayload eth.skb).data = eth.skb.data.drop 14 := SkBuff.pull_data hmin
  rw [hbody, SkBuff.len, hpay, List.length_drop]
  unfold SkBuff.len at hmin
  omega

/-- A frame in more than one fragment fills the first. -/
theorem le_length_body (hmany : 1 < (airMsdu d eth).nrFrags) : 208 ≤ (airMsdu d eth).body.length := by
  obtain ⟨-, hsum, -⟩ := xmitPlan_count d eth.skb
  have hper : 208 ≤ (xmitPlan d eth.skb).bytesPerFrag := bytesPerFrag_ge d _ _
  have hone : 1 ≤ (xmitPlan d eth.skb).nrFrags - 1 := Nat.le_sub_one_of_lt hmany
  calc 208 ≤ 1 * (xmitPlan d eth.skb).bytesPerFrag := by omega
    _ ≤ ((xmitPlan d eth.skb).nrFrags - 1) * (xmitPlan d eth.skb).bytesPerFrag := Nat.mul_le_mul_right _ hone
    _ ≤ (xmitBody eth.skb).length := by omega

/-- A sender that is ready does not get the frame through. -/
theorem TkipLinked.not_delivered (h : TkipLinked prim idx d env eth txb w is) (hready : SendReady prim d)
    (mgt : RxMgt Priv) : ¬ Delivers mgt w is eth := by
  have hmany := h.many
  rcases xmitTxb_some h.handed with hzero | ⟨htxb, -⟩
  · omega
  subst htxb
  have hsends : TkipSends prim idx (d.countermeasuresStop (tkipOps prim)) d := ⟨rfl, h.keyidx, h.slot⟩
  have hair := onAir_fragments (fun _ => outFragment_tkip hready.pool hsends h.configFcs eth.payload_le h.encrypts) h.fed
  obtain ⟨ds, hds, hne⟩ := run_parts mgt h.encrypts hmany (le_length_body hmany) hair h.peer (Or.inl h.unheld)
  rintro ⟨b, m, hm, heth⟩
  rw [hds] at hm
  have hmem : (b, m) ∈ ds := by
    rw [List.append_cancel_left hm]
    exact List.mem_singleton_self _
  exact hne _ hmem ((congrArg List.length heth).trans (length_ether d eth))

/-- **No frame in fragments gets through.** Whatever the sender has sent before,
whatever the keys and the peer, a frame that is encrypted with TKIP in more than one
fragment is not delivered as it was. -/
theorem tkip_fragments_lost (prim : Primitives) (kernel : KernelConfig) (devAddr : Mac)
    (sent : List (SendInput prim)) (idx : KeyIdx) (env : Env) (eth : EtherFrame) (txb : Txb) (mgt : RxMgt Priv)
    (w : World Priv) (is : List (RxEnv × SkBuff)) :
    let d := Run.run SendInput.step (Device.init Priv kernel devAddr) sent
    TkipLinked prim idx d env eth txb w is → ¬ Delivers mgt w is eth :=
  fun h => h.not_delivered (sendReady_run kernel devAddr sent) mgt

end

/-! ### Two fragments -/

section

private abbrev tkipData : CryptData Priv :=
  ⟨some (tkipOps linuxPrimitives), .tkip (tkipSetKey (List.replicate tkipKeyLen 7) none (tkipInit 0)).2⟩

private abbrev setTkip : SendInput linuxPrimitives :=
  .setKey 0 (some tkipData) fun _ hc _ hops => by
    cases hc
    cases hops
    exact List.mem_cons_of_mem _ (List.mem_cons_of_mem _ List.mem_cons_self)

private abbrev tkipInputs : List (SendInput linuxPrimitives) := [.setFrag false (some 256), setTkip]

private abbrev tkipSender : Device Priv := Run.run SendInput.step (Device.init Priv ⟨250, true⟩ homeMac) tkipInputs

private abbrev tkipPeer : World Priv := World.start { Device.init Priv ⟨250, true⟩ homeMac with
  crypt := Function.update (fun _ => none) 0 (some tkipData) }

private abbrev tkipTxb : Txb := (xmitFragments tkipSender (longFrame 8).skb).1

private theorem linked_tkip : TkipLinked linuxPrimitives 0 tkipSender earlyEnv.toEnv (longFrame 8) tkipTxb tkipPeer
    (feedFrames earlyEnv earlyEnv tkipTxb) where
  keyidx := rfl
  slot := ⟨_, rfl, rfl⟩
  encrypts := by decide +kernel
  configFcs := rfl
  handed := xmitTxb_of_encrypts ⟨rfl, rfl, by decide +kernel, by decide, by decide +kernel⟩
  many := by decide +kernel
  fed := feedFrames_data _ _ _
  peer := by
    refine ⟨rfl, rfl, fun idx c hc => ?_⟩
    by_cases hidx : idx = 0
    · subst hidx
      cases hc
      exact List.mem_cons_of_mem _ (List.mem_cons_of_mem _ List.mem_cons_self)
    · have hnone : tkipPeer.dev.crypt idx = none := by
        change Function.update (fun _ => none) 0 (some tkipData) idx = none
        rw [Function.update_of_ne hidx]
      rw [Device.cryptOps, hnone] at hc
      cases hc
  unheld e he := by
    cases List.eq_of_mem_replicate he
    exact nofun

/-- A peer with the sender's keys. -/
theorem twoTkip_lost : ¬ Delivers (fun _ _ => .idle Priv) tkipPeer (feedFrames earlyEnv earlyEnv tkipTxb) (longFrame 8) :=
  tkip_fragments_lost linuxPrimitives ⟨250, true⟩ homeMac tkipInputs 0 earlyEnv.toEnv (longFrame 8) tkipTxb
    (fun _ _ => .idle Priv) tkipPeer (feedFrames earlyEnv earlyEnv tkipTxb) linked_tkip

/-- Both have one key, whose Michael keys are the same both ways; the frame comes in
two fragments, and is not recovered. -/
theorem twoTkip_not_recovered : tkipTxb.nrFrags = 2 ∧
    TkipLinked linuxPrimitives 0 tkipSender earlyEnv.toEnv (longFrame 8) tkipTxb tkipPeer
      (feedFrames earlyEnv earlyEnv tkipTxb) ∧ tkipPeer.dev.crypt 0 = some tkipData ∧
    ¬ Delivers (fun _ _ => .idle Priv) tkipPeer (feedFrames earlyEnv earlyEnv tkipTxb) (longFrame 8) :=
  ⟨by decide +kernel, linked_tkip, rfl, linked_tkip.not_delivered (sendReady_run _ _ tkipInputs) _⟩

end

end Rtl8187

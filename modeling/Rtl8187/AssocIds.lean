/-
# Association ids

In master mode `ieee80211_rx_frame_softmac` answers an association request with
an id from a counter, which `ieee80211_start_master_bss` sets to one
(`ieee80211_softmac.c`). The ids of an access point are 1 to 2007; the counter
goes back at 0x2007, which is 8199, and to zero. So the ids are right as long as
no more than 2007 requests have been heard that get a response (`aids_iff`), and
repeat themselves after 8200.

Key definitions: `assocAnswer`, `isAnswered`, `nextAid`, `aids`.
Key theorems: `rxFrameSoftmac_answer`, `rxFrameSoftmac_serves`, `aids_length`, `aids_getElem`,
`aids_iff`.
-/
import Rtl8187.Works
import Rtl8187.Lib.Run

namespace Rtl8187

open Bytes

variable {P : Type}

/-! ### The answers -/

/-- The response to a frame: what `ieee80211_assoc_resp` returns, when it is
called. -/
def assocAnswer (env : Env) (d : Device P) (skb : SkBuff) : Option SkBuff :=
  let stype := fcStype (frameCtl skb.data)
  if d.protoStarted ∧ (stype = stypeAssocReq ∨ stype = stypeReassocReq) ∧
      d.softmacFeatures.associate ∧ d.iwMode = .master then
    (assocRqParse skb).bind fun dest =>
      (assocResp env.skbAlloc (notePs env d stype) dest).map Prod.fst
  else none

/-- A frame that an access point answers: a request to associate that is not
too short, when there is memory for the response. -/
def isAnswered (d : Device P) (frame : Env × SkBuff) : Bool :=
  let stype := fcStype (frameCtl frame.2.data)
  d.protoStarted && (stype == stypeAssocReq || stype == stypeReassocReq) &&
    d.softmacFeatures.associate && (assocRqParse frame.2).isSome && frame.1.skbAlloc

/-- The counter after a response. -/
def nextAid (id : UInt16) : UInt16 := if id = 0x2007 then 0 else id + 1

/-- What answering a frame leaves of the device, but for the counter. -/
structure Serves (d' d : Device P) : Prop where
  iwMode : d'.iwMode = d.iwMode
  protoStarted : d'.protoStarted = d.protoStarted
  features : d'.softmacFeatures = d.softmacFeatures

/-- The same, with the counter. -/
structure ServesId (d' d : Device P) : Prop extends Serves d' d where
  assocId : d'.assocId = d.assocId

section

variable {env : Env} {d d' d'' : Device P} {skb reply : SkBuff}

theorem ServesId.refl (d : Device P) : ServesId d d := ⟨⟨rfl, rfl, rfl⟩, rfl⟩

theorem ServesId.trans (h : ServesId d'' d') (h' : ServesId d' d) : ServesId d'' d :=
  ⟨⟨h.iwMode.trans h'.iwMode, h.protoStarted.trans h'.protoStarted, h.features.trans h'.features⟩,
    h.assocId.trans h'.assocId⟩

theorem queueWork_serves (d : Device P) (w : Work) : ServesId (d.queueWork w) d := by
  unfold Device.queueWork
  split_ifs
  · exact ServesId.refl d
  · exact ⟨⟨rfl, rfl, rfl⟩, rfl⟩

theorem staWakeup_serves (d : Device P) : ServesId d.staWakeup d := by
  have hqueue := queueWork_serves d .hwWakeup
  unfold Device.staWakeup
  split_ifs
  · exact ServesId.refl d
  · exact ⟨⟨hqueue.iwMode, hqueue.protoStarted, hqueue.features⟩, hqueue.assocId⟩
  · exact ⟨⟨rfl, rfl, rfl⟩, rfl⟩

theorem softmacMgmtXmit_serves (env : Env) (d : Device P) (skb : SkBuff) :
    ServesId (softmacMgmtXmit env d skb) d := by
  refine ServesId.trans ?_ (staWakeup_serves d)
  unfold softmacMgmtXmit
  dsimp only
  split_ifs
  · exact ⟨⟨rfl, rfl, rfl⟩, rfl⟩
  · exact ⟨⟨rfl, rfl, rfl⟩, rfl⟩
  · exact ⟨⟨rfl, rfl, rfl⟩, rfl⟩

theorem rxProbeRq_serves (env : Env) (d : Device P) (skb : SkBuff) :
    ServesId (rxProbeRq env d skb) d := by
  unfold rxProbeRq xmitReply
  split_ifs
  · unfold probeResp
    cases env.skbAlloc with
    | false => exact ServesId.refl d
    | true => exact (softmacMgmtXmit_serves env _ _).trans ⟨⟨rfl, rfl, rfl⟩, rfl⟩
  · exact ServesId.refl d

theorem rxAuthRq_serves (env : Env) (d : Device P) (skb : SkBuff) : ServesId (rxAuthRq env d skb) d := by
  unfold rxAuthRq
  rcases authRqParse skb with _ | ⟨status, dest⟩
  · exact ServesId.refl d
  · unfold xmitReply authResp
    cases env.skbAlloc with
    | false => exact ServesId.refl d
    | true => exact softmacMgmtXmit_serves env _ _

theorem assocAnswer_isSome (hmode : d.iwMode = .master) :
    (assocAnswer env d skb).isSome = isAnswered d (env, skb) := by
  unfold assocAnswer isAnswered
  dsimp only
  split_ifs with hserves
  · obtain ⟨hproto, hstype, hassoc, -⟩ := hserves
    have hreq : (fcStype (frameCtl skb.data) == stypeAssocReq ||
        fcStype (frameCtl skb.data) == stypeReassocReq) = true := by
      simpa using hstype
    rw [hproto, hreq, hassoc]
    cases assocRqParse skb with
    | none => rfl
    | some dest =>
      unfold assocResp
      cases env.skbAlloc <;> rfl
  · rw [Option.isSome_none]
    symm
    by_contra hanswered
    simp only [Bool.not_eq_false, Bool.and_eq_true, Bool.or_eq_true, beq_iff_eq] at hanswered
    obtain ⟨⟨⟨⟨hproto, hstype⟩, hassoc⟩, -⟩, -⟩ := hanswered
    exact hserves ⟨hproto, hstype, hassoc, hmode⟩

theorem Serves.isAnswered (h : Serves d' d) (frame : Env × SkBuff) :
    isAnswered d' frame = isAnswered d frame := by
  unfold Rtl8187.isAnswered
  rw [h.protoStarted, h.features]

/-- The response has the id, and moves the counter on. -/
theorem assocResp_id {alloc : Bool} {dest : Mac} (h : assocResp alloc d dest = some (reply, d')) :
    get16 reply.data 28 = d.assocId ∧ Serves d' d ∧ d'.assocId = nextAid d.assocId := by
  cases alloc with
  | false => cases h
  | true =>
    cases h
    refine ⟨?_, ⟨rfl, rfl, rfl⟩, rfl⟩
    rw [SkBuff.put_data]
    simp [mgmtHdr, le16, get16, at8, SkBuff.devAllocSkb, Mac.toList]

/-- **A frame that is answered**: the response has the id the counter had, and
is sent. -/
theorem rxFrameSoftmac_answer (h : assocAnswer env d skb = some reply) :
    get16 reply.data 28 = d.assocId ∧ ∃ d', Serves d' d ∧ d'.assocId = nextAid d.assocId ∧
      (rxFrameSoftmac env d skb).2 = softmacMgmtXmit env d' reply := by
  unfold assocAnswer at h
  dsimp only at h
  split_ifs at h with hserves
  obtain ⟨hproto, hstype, hassoc, hmode⟩ := hserves
  obtain ⟨dest, hdest, hmap⟩ := Option.bind_eq_some_iff.mp h
  obtain ⟨⟨reply', d'⟩, hresp, rfl⟩ := Option.map_eq_some_iff.mp hmap
  obtain ⟨hid, hkept, hnext⟩ := assocResp_id hresp
  refine ⟨hid, d', ⟨hkept.iwMode, hkept.protoStarted, hkept.features⟩, hnext, ?_⟩
  have hnot : ¬ (fcStype (frameCtl skb.data) = stypeAssocResp ∨
      fcStype (frameCtl skb.data) = stypeReassocResp) := by
    rcases hstype with heq | heq
    · rw [heq]
      decide
    · rw [heq]
      decide
  have hparse : (assocRqParse skb).isSome = true := by rw [hdest]; rfl
  unfold rxFrameSoftmac
  dsimp only
  rw [if_neg (not_not_intro hproto), if_neg hnot, if_pos hstype, if_pos ⟨hassoc, hmode⟩]
  unfold rxAssocRq
  rw [hdest]
  dsimp only
  rw [hresp]
  rfl

/-- **A frame that is not answered** leaves the counter, in master mode. -/
theorem rxFrameSoftmac_silent (hmode : d.iwMode = .master) (h : assocAnswer env d skb = none) :
    ServesId (rxFrameSoftmac env d skb).2 d := by
  have hinfra : d.iwMode ≠ .infra := by
    rw [hmode]
    decide
  have hnote : ServesId (notePs env d (fcStype (frameCtl skb.data))) d := ⟨⟨rfl, rfl, rfl⟩, rfl⟩
  unfold assocAnswer at h
  unfold rxFrameSoftmac
  dsimp only at h ⊢
  by_cases hproto : d.protoStarted = true
  · rw [if_neg (not_not_intro hproto)]
    refine iteInduction (motive := fun r : Int × Device P => ServesId r.2 d) (fun _ => ?_) (fun _ => ?_)
    · rw [if_neg fun hresp => hinfra hresp.2.2]
      exact hnote
    refine iteInduction (motive := fun r : Int × Device P => ServesId r.2 d) (fun hreq => ?_) (fun _ => ?_)
    · by_cases hassoc : d.softmacFeatures.associate = true
      · rw [if_pos ⟨hproto, hreq, hassoc, hmode⟩] at h
        rw [if_pos ⟨hassoc, hmode⟩]
        unfold rxAssocRq
        cases hparse : assocRqParse skb with
        | none => exact hnote
        | some dest =>
          rw [hparse, Option.bind_some, Option.map_eq_none_iff] at h
          dsimp only
          rw [h]
          exact hnote
      · rw [if_neg fun hresp => hassoc hresp.1]
        exact hnote
    refine iteInduction (motive := fun r : Int × Device P => ServesId r.2 d) (fun _ => ?_) (fun _ => ?_)
    · refine ServesId.trans ?_ hnote
      dsimp only
      split_ifs with h1 h2 h3
      · exact absurd h2.2 hinfra
      · exact rxAuthRq_serves env _ skb
      · exact ServesId.refl _
      · exact ServesId.refl _
    refine iteInduction (motive := fun r : Int × Device P => ServesId r.2 d) (fun _ => ?_) (fun _ => ?_)
    · refine ServesId.trans ?_ hnote
      dsimp only
      split_ifs
      · exact rxProbeRq_serves env _ skb
      · exact ServesId.refl _
    refine iteInduction (motive := fun r : Int × Device P => ServesId r.2 d) (fun _ => ?_) (fun _ => hnote)
    rw [if_neg fun hresp => hinfra hresp.2.2]
    exact hnote
  · rw [if_pos hproto]
    exact ServesId.refl d

/-- **One frame**, in master mode. -/
theorem rxFrameSoftmac_serves (hmode : d.iwMode = .master) :
    Serves (rxFrameSoftmac env d skb).2 d ∧ (rxFrameSoftmac env d skb).2.assocId =
      if (assocAnswer env d skb).isSome then nextAid d.assocId else d.assocId := by
  cases h : assocAnswer env d skb with
  | none =>
    have hsilent := rxFrameSoftmac_silent hmode h
    exact ⟨hsilent.toServes, hsilent.assocId⟩
  | some reply =>
    obtain ⟨-, d', hkept, hnext, hsent⟩ := rxFrameSoftmac_answer h
    have hxmit := softmacMgmtXmit_serves env d' reply
    rw [hsent]
    exact ⟨⟨hxmit.iwMode.trans hkept.iwMode, hxmit.protoStarted.trans hkept.protoStarted,
      hxmit.features.trans hkept.features⟩, hxmit.assocId.trans hnext⟩

end

/-! ### The ids of a run -/

/-- The device after a management frame. -/
def heard (d : Device P) (frame : Env × SkBuff) : Device P := (rxFrameSoftmac frame.1 d frame.2).2

/-- The ids in the responses to the frames, in order. -/
def aids (d : Device P) (frames : List (Env × SkBuff)) : List UInt16 :=
  Run.outputs heard (fun d frame => (assocAnswer frame.1 d frame.2).map fun reply =>
    get16 reply.data 28) d frames

section

variable {d : Device P}

/-- The ids are those the counter goes through. -/
theorem aids_eq : ∀ {d : Device P} (frames : List (Env × SkBuff)), d.iwMode = .master →
    aids d frames = (List.range (aids d frames).length).map fun k => nextAid^[k] d.assocId
  | _, [], _ => rfl
  | d, frame :: frames, hmode => by
    obtain ⟨hkept, hid⟩ := @rxFrameSoftmac_serves P frame.1 d frame.2 hmode
    have ih := aids_eq (d := heard d frame) frames (hkept.iwMode.trans hmode)
    have hsplit : aids d (frame :: frames) =
        ((assocAnswer frame.1 d frame.2).map fun reply => get16 reply.data 28).toList ++
          aids (heard d frame) frames := rfl
    rw [hsplit]
    cases h : assocAnswer frame.1 d frame.2 with
    | none =>
      rw [h] at hid
      have hsame : (heard d frame).assocId = d.assocId := hid
      rw [hsame] at ih
      exact ih
    | some reply =>
      rw [h] at hid
      have hnext : (heard d frame).assocId = nextAid d.assocId := hid
      rw [hnext] at ih
      have hfirst := (rxFrameSoftmac_answer h).1
      show get16 reply.data 28 :: aids (heard d frame) frames = (List.range
        ((aids (heard d frame) frames).length + 1)).map fun k => nextAid^[k] d.assocId
      rw [List.range_succ_eq_map, List.map_cons, List.map_map, hfirst]
      exact congrArg _ ih

/-- There are as many as frames that are answered. -/
theorem aids_length (hmode : d.iwMode = .master) (frames : List (Env × SkBuff)) :
    (aids d frames).length = frames.countP (isAnswered d) := by
  have hkeep : ∀ (d' : Device P) (frame : Env × SkBuff), Serves d' d → Serves (heard d' frame) d := by
    intro d' frame h
    have hkept := (@rxFrameSoftmac_serves P frame.1 d' frame.2 (h.iwMode.trans hmode)).1
    exact ⟨hkept.iwMode.trans h.iwMode, hkept.protoStarted.trans h.protoStarted,
      hkept.features.trans h.features⟩
  refine Run.length_outputs hkeep (fun d' frame h => ?_) d frames ⟨rfl, rfl, rfl⟩
  rw [Option.isSome_map, assocAnswer_isSome (h.iwMode.trans hmode)]
  exact h.isAnswered frame

/-- From one, the counter is back at zero after 8199. -/
theorem nextAid_iterate (k : ℕ) : (nextAid^[k] 1).toNat = (k + 1) % 8200 := by
  induction k with
  | zero => rfl
  | succ k ih =>
    rw [Function.iterate_succ_apply']
    generalize nextAid^[k] 1 = id at ih
    unfold nextAid
    by_cases hlast : id = 0x2007
    · rw [hlast] at ih
      have hnum : (8199 : ℕ) = (k + 1) % 8200 := ih
      rw [if_pos hlast]
      show 0 = (k + 1 + 1) % 8200
      omega
    · have hne : id.toNat ≠ 8199 := fun h => hlast (UInt16.toNat_inj.mp h)
      rw [if_neg hlast, UInt16.toNat_add]
      show (id.toNat + 1) % 65536 = _
      omega

theorem aids_getElem (hmode : d.iwMode = .master) (hstart : d.assocId = 1)
    (frames : List (Env × SkBuff)) {k : ℕ} (hk : k < (aids d frames).length) :
    ((aids d frames)[k]).toNat = (k + 1) % 8200 := by
  have hids := aids_eq frames hmode
  rw [hstart] at hids
  have hget : (aids d frames)[k]? = some (nextAid^[k] 1) := by
    rw [hids, List.getElem?_map, List.getElem?_range hk]
    rfl
  rw [List.getElem?_eq_getElem hk, Option.some_inj] at hget
  rw [hget]
  exact nextAid_iterate k

/-- Any 8200 in a row are different. -/
theorem nodup_of_counts {ids w : List UInt16}
    (hids : ∀ k (hk : k < ids.length), (ids[k]).toNat = (k + 1) % 8200) (hw : w <:+: ids)
    (hlength : w.length ≤ 8200) : w.Nodup := by
  obtain ⟨front, back, rfl⟩ := hw
  rw [List.Nodup, List.pairwise_iff_getElem]
  intro i j hi hj hij heq
  have hread : ∀ k (hk : k < w.length), (w[k]).toNat = (front.length + k + 1) % 8200 := by
    intro k hk
    rw [← hids (front.length + k) (by simp; omega)]
    simp [hk]
  have hcounts : (w[i]).toNat = (w[j]).toNat := congrArg _ heq
  rw [hread i hi, hread j hj] at hcounts
  omega

/-- Ids that are counted from one are ids of an access point as long as there
are no more than 2007. -/
theorem valid_iff {ids : List UInt16}
    (hids : ∀ k (hk : k < ids.length), (ids[k]).toNat = (k + 1) % 8200) :
    (∀ id ∈ ids, 1 ≤ id.toNat ∧ id.toNat ≤ 2007) ↔ ids.length ≤ 2007 := by
  constructor
  · intro h
    by_contra hmany
    have hlt : 2007 < ids.length := by omega
    have hlast := (h _ (List.getElem_mem hlt)).2
    rw [hids 2007 hlt] at hlast
    omega
  · intro hfew id hid
    obtain ⟨k, hk, rfl⟩ := List.mem_iff_getElem.mp hid
    rw [hids k hk]
    omega

/-! ### From the start of the BSS -/

theorem startMasterBss_device (st : Station P) : st.startMasterBss.toDevice.assocId = 1 ∧
    st.startMasterBss.toDevice.iwMode = st.iwMode := by
  unfold Station.startMasterBss Station.defaultSsid
  dsimp only
  split_ifs
  · exact ⟨rfl, rfl⟩
  · exact ⟨rfl, rfl⟩

/-- **The ids of a BSS.** In master mode, with `ieee80211_start_master_bss`, the
ids in the responses all lie in 1 to 2007, with any 2007 in a row different,
exactly when no more than 2007 of the frames are answered; any 8200 in a row are
different anyway. -/
theorem aids_iff {st : Station P} (hmode : st.iwMode = .master) (frames : List (Env × SkBuff)) :
    ((∀ id ∈ aids st.startMasterBss.toDevice frames, 1 ≤ id.toNat ∧ id.toNat ≤ 2007) ∧
        (∀ w, w <:+: aids st.startMasterBss.toDevice frames → w.length = 2007 → w.Nodup) ↔
      frames.countP (isAnswered st.startMasterBss.toDevice) ≤ 2007) ∧
    ∀ w, w <:+: aids st.startMasterBss.toDevice frames → w.length ≤ 8200 → w.Nodup := by
  obtain ⟨hstart, hsame⟩ := startMasterBss_device st
  have hids : ∀ k (hk : k < (aids st.startMasterBss.toDevice frames).length),
      ((aids st.startMasterBss.toDevice frames)[k]).toNat = (k + 1) % 8200 :=
    fun _ hk => aids_getElem (hsame.trans hmode) hstart frames hk
  refine ⟨?_, fun w hw hlength => nodup_of_counts hids hw hlength⟩
  rw [valid_iff hids, aids_length (hsame.trans hmode)]
  refine and_iff_left fun w hw hlength => nodup_of_counts hids hw ?_
  omega

/-! ### Requests without end -/

/-- An access point that serves. -/
def masterStation : Station Unit :=
  let st := Station.init Unit ⟨250, true⟩ ⟨2, 0, 0, 0, 0, 1⟩ fun _ => true
  { st with toDevice := { st.toDevice with iwMode := .master, protoStarted := true } }

/-- An association request of the station that ends in `k`, at a moment with memory. -/
def request (k : UInt8) : Env × SkBuff :=
  (⟨0, true, fun _ => false, ⟨0, 0, 0, 0, 0, 0⟩⟩,
    ⟨0, List.replicate 10 0 ++ [2, 0, 0, 0, 1, k] ++ List.replicate 12 0, []⟩)

/-- Three stations, the first of which asks again. -/
theorem aids_iff_three : masterStation.iwMode = .master ∧
    ((∀ id ∈ aids masterStation.startMasterBss.toDevice ([1, 2, 3, 1].map request),
          1 ≤ id.toNat ∧ id.toNat ≤ 2007) ∧
        (∀ w, w <:+: aids masterStation.startMasterBss.toDevice ([1, 2, 3, 1].map request) →
          w.length = 2007 → w.Nodup) ↔
      ([1, 2, 3, 1].map request).countP (isAnswered masterStation.startMasterBss.toDevice) ≤ 2007) ∧
    ∀ w, w <:+: aids masterStation.startMasterBss.toDevice ([1, 2, 3, 1].map request) →
      w.length ≤ 8200 → w.Nodup :=
  ⟨rfl, aids_iff rfl ([1, 2, 3, 1].map request)⟩

/-- The 2008th request is answered with the id 2008. -/
theorem aid_out_of_range : ¬ ∀ (st : Station Unit) (frames : List (Env × SkBuff)),
    st.iwMode = .master →
    (∀ id ∈ aids st.startMasterBss.toDevice frames, 1 ≤ id.toNat ∧ id.toNat ≤ 2007) ∧
      ∀ w, w <:+: aids st.startMasterBss.toDevice frames → w.length = 2007 → w.Nodup := by
  intro h
  have hanswered : isAnswered masterStation.startMasterBss.toDevice (request 1) = true := by decide
  have hvalid := (h masterStation (List.replicate 2008 (request 1)) rfl).1
  rw [valid_iff fun _ hk => aids_getElem rfl rfl _ hk, aids_length rfl, List.countP_replicate,
    if_pos hanswered] at hvalid
  exact absurd hvalid (by decide)

end

end Rtl8187

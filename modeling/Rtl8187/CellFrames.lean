/-
# What the association puts on the air

A frame on the air is its bytes; the association reads of it the subtype, two
addresses and three words (`AirFrame`), none of which the sequence number touches. Of a
device, `Out` are the frames it has handed to the hardware and those in the slots of
its queue, from where they may still go out, and more than once. What each step of the
association adds to them is said by `Utters`: a request, a response, or nothing.

Key definitions: `AirFrame`, `Device.sent`, `Device.Out`, `Utters`, `AuthReq`, `AssocReq`, `AuthReply`,
`AssocReply`.
Key theorems: `softmacMgmtXmit_utters`, `associateStep1_utters`, `associateStep2_utters`,
`rxAuthRq_utters`, `rxAssocRq_utters`, `rxFrameSoftmac_master`.
-/
import Rtl8187.AssocIds

namespace Rtl8187

open Bytes

variable {P : Type}

/-- What the association reads of a frame; its kind is its type and subtype. -/
structure AirFrame where
  kind : UInt16
  dest : Mac
  src : Mac
  w24 : UInt16
  w26 : UInt16
  w28 : UInt16
  length : ℕ

namespace AirFrame

def kindOf (fc : UInt16) : UInt16 := fc &&& 0x00fc

def of (f : List UInt8) : AirFrame :=
  ⟨kindOf (frameCtl f), addr1 f, addr2 f, get16 f 24, get16 f 26, get16 f 28, f.length⟩

/-- The kinds of the association: they are management frames. -/
def kinds : List UInt16 :=
  [stypeAssocReq, stypeAssocResp, stypeReassocReq, stypeReassocResp, stypeAuth, stypeDisassoc,
    stypeDeauth]

/-- A frame of the association. -/
def Associates (v : AirFrame) : Prop := v.kind ∈ kinds

theorem Associates.mgmt {v : AirFrame} (h : v.Associates) : fcType v.kind = ftypeMgmt := by
  rw [Associates] at h
  simp only [kinds, List.mem_cons, List.not_mem_nil, or_false] at h
  rcases h with h | h | h | h | h | h | h
  all_goals
    rw [h]
    rfl

/-- The type is a part of the kind. -/
theorem fcType_kindOf (fc : UInt16) : fcType (kindOf fc) = fcType fc := by
  have hbits : (0x00fc : UInt16) &&& 0x000c = 0x000c := by decide
  rw [fcType, fcType, kindOf, UInt16.and_assoc, hbits]

theorem mgmt_of_kind {f : List UInt8} {k : UInt16} (h : (of f).kind = k) (hk : fcType k = ftypeMgmt) :
    fcType (frameCtl f) = ftypeMgmt := by
  rw [← hk, ← h, of, fcType_kindOf]

/-- The kind of a management frame is its subtype. -/
theorem kindOf_of_mgmt {fc : UInt16} (h : fcType fc = ftypeMgmt) : kindOf fc = fcStype fc := by
  have hbits : (0x00fc : UInt16) = 0x000c ||| 0x00f0 := by decide
  have hmgmt : fc &&& 0x000c = 0 := h
  have hdistrib : fc &&& (0x000c ||| 0x00f0) = (fc &&& 0x000c) ||| (fc &&& 0x00f0) :=
    UInt16.toBitVec_inj.mp BitVec.and_or_distrib_left
  rw [kindOf, hbits, hdistrib, hmgmt, UInt16.zero_or, fcStype]

/-- A frame with a three-address header. -/
theorem of_mgmtHdr (fc duration : UInt16) (a1 a2 a3 : Mac) (rest : List UInt8) :
    of (mgmtHdr fc duration a1 a2 a3 ++ rest) =
      ⟨kindOf fc, a1, a2, get16 rest 0, get16 rest 2, get16 rest 4, 24 + rest.length⟩ := by
  have hlen : (mgmtHdr fc duration a1 a2 a3).length = 24 := rfl
  have hbody : ∀ i, at8 (mgmtHdr fc duration a1 a2 a3 ++ rest) (24 + i) = at8 rest i := by
    intro i
    rw [at8_append_right rest (by omega), hlen, Nat.add_sub_cancel_left]
  have hword : ∀ i, get16 (mgmtHdr fc duration a1 a2 a3 ++ rest) (24 + i) = get16 rest i := by
    intro i
    rw [get16, get16, Nat.add_assoc, hbody, hbody]
  have hfc : frameCtl (mgmtHdr fc duration a1 a2 a3 ++ rest) = fc := by
    have hfront : mgmtHdr fc duration a1 a2 a3 ++ rest =
        le16 fc ++ (le16 duration ++ a1.toList ++ a2.toList ++ a3.toList ++ le16 0 ++ rest) := by
      simp [mgmtHdr, List.append_assoc]
    rw [frameCtl, hfront]
    simp [get16, le16, at8]
  rw [of, hfc, List.length_append, hlen]
  have h0 := hword 0
  have h2 := hword 2
  have h4 := hword 4
  rw [Nat.add_zero] at h0
  rw [h0, h2, h4]
  rfl

/-- The sequence number is no part of it. -/
theorem of_setSeqCtl {skb : SkBuff} (h : 24 ≤ skb.len) (n : UInt16) :
    of (skb.setSeqCtl n).data = of skb.data := by
  have htake : (skb.data.take 22).length = 22 := by
    rw [List.length_take]
    unfold SkBuff.len at h
    omega
  have hfront : ∀ i < 22, at8 (skb.setSeqCtl n).data i = at8 skb.data i := by
    intro i hi
    rw [SkBuff.setSeqCtl]
    dsimp only
    rw [List.append_assoc, at8_append_left _ (by omega), at8_take hi]
  have hback : ∀ i, at8 (skb.setSeqCtl n).data (24 + i) = at8 skb.data (24 + i) := by
    intro i
    have h24 : (skb.data.take 22 ++ le16 (n <<< 4)).length = 24 := by
      rw [List.length_append, htake]
      rfl
    rw [SkBuff.setSeqCtl]
    dsimp only
    rw [at8_append_right _ (by omega), h24, Nat.add_sub_cancel_left, at8_drop]
  have hlen : (skb.setSeqCtl n).data.length = skb.data.length := by
    have hle : (le16 (n <<< 4)).length = 2 := rfl
    unfold SkBuff.len at h
    rw [SkBuff.setSeqCtl]
    dsimp only
    rw [List.length_append, List.length_append, htake, hle, List.length_drop]
    omega
  have h24 := hback 0
  have h25 := hback 1
  have h26 := hback 2
  have h27 := hback 3
  have h28 := hback 4
  have h29 := hback 5
  simp only [Nat.reduceAdd] at h24 h25 h26 h27 h28 h29
  simp only [of, frameCtl, addr1, addr2, Mac.read, get16, Nat.reduceAdd, h24, h25, h26, h27, h28, h29,
    hlen, hfront 0 (by omega), hfront 1 (by omega), hfront 4 (by omega), hfront 5 (by omega),
    hfront 6 (by omega), hfront 7 (by omega), hfront 8 (by omega), hfront 9 (by omega),
    hfront 10 (by omega), hfront 11 (by omega), hfront 12 (by omega), hfront 13 (by omega),
    hfront 14 (by omega), hfront 15 (by omega)]

end AirFrame

/-- The buffer that was handed over. -/
def Handed.skb : Handed → SkBuff
  | .data skb _ => skb
  | .mgmt skb => skb

namespace Device

/-- What the device has put on the air, in order. -/
def sent (d : Device P) : List (List UInt8) := d.handed.map fun h => h.skb.data

/-- A frame of the device that is on the air or may still get there: what waits gets its
number when it goes. -/
def Out (d : Device P) (v : AirFrame) : Prop :=
  (∃ f ∈ d.sent, AirFrame.of f = v) ∨
    ∃ i skb n, d.mgmtQueue.ring i = some skb ∧ AirFrame.of (skb.setSeqCtl n).data = v

end Device

open Device

/-- After a step the device has out what it had, and else frames with `Q`; who it is
stays. -/
structure Utters (Q : AirFrame → Prop) (d' d : Device P) : Prop where
  out : ∀ v, d'.Out v → d.Out v ∨ Q v
  sent : ∀ f ∈ d.sent, f ∈ d'.sent
  devAddr : d'.devAddr = d.devAddr
  iwMode : d'.iwMode = d.iwMode
  openWep : d'.openWep = d.openWep
  bssid : d'.currentNetwork.bssid = d.currentNetwork.bssid

section

variable {Q R : AirFrame → Prop} {d d' d'' : Device P}

theorem Utters.refl (Q : AirFrame → Prop) (d : Device P) : Utters Q d d :=
  ⟨fun _ h => Or.inl h, fun _ h => h, rfl, rfl, rfl, rfl⟩

theorem Utters.trans (h : Utters Q d'' d') (h' : Utters Q d' d) : Utters Q d'' d := by
  refine ⟨fun v hv => ?_, fun f hf => h.sent f (h'.sent f hf), h.devAddr.trans h'.devAddr,
    h.iwMode.trans h'.iwMode, h.openWep.trans h'.openWep, h.bssid.trans h'.bssid⟩
  rcases h.out v hv with hold | hnew
  · exact h'.out v hold
  · exact Or.inr hnew

theorem Utters.mono (h : Utters Q d' d) (himp : ∀ v, Q v → R v) : Utters R d' d :=
  ⟨fun v hv => (h.out v hv).imp_right (himp v), h.sent, h.devAddr, h.iwMode, h.openWep, h.bssid⟩

/-- A step that leaves the frames and who the device is. -/
theorem Utters.of_eq (hhanded : d'.handed = d.handed) (hqueue : d'.mgmtQueue = d.mgmtQueue)
    (haddr : d'.devAddr = d.devAddr) (hmode : d'.iwMode = d.iwMode) (hopen : d'.openWep = d.openWep)
    (hbssid : d'.currentNetwork.bssid = d.currentNetwork.bssid) : Utters Q d' d := by
  have hsent : d'.sent = d.sent := by rw [Device.sent, hhanded, Device.sent]
  refine ⟨fun v hv => Or.inl ?_, fun f hf => hsent ▸ hf, haddr, hmode, hopen, hbssid⟩
  rwa [Out, hsent, hqueue] at hv

/-- What a step changes besides is no part of it. -/
theorem Utters.and_eq (h : Utters Q d' d) (hhanded : d''.handed = d'.handed)
    (hqueue : d''.mgmtQueue = d'.mgmtQueue) (haddr : d''.devAddr = d'.devAddr)
    (hmode : d''.iwMode = d'.iwMode) (hopen : d''.openWep = d'.openWep)
    (hbssid : d''.currentNetwork.bssid = d'.currentNetwork.bssid) : Utters Q d'' d :=
  (Utters.of_eq hhanded hqueue haddr hmode hopen hbssid).trans h

theorem queueWork_utters (d : Device P) (w : Work) : Utters Q (d.queueWork w) d := by
  unfold Device.queueWork
  split_ifs
  · exact Utters.refl Q d
  · exact Utters.of_eq rfl rfl rfl rfl rfl rfl

theorem staWakeup_utters (d : Device P) : Utters Q d.staWakeup d := by
  have hqueue : Utters Q (d.queueWork .hwWakeup) d := queueWork_utters d .hwWakeup
  unfold Device.staWakeup
  by_cases hsleep : d.staSleep = 0
  · rw [if_pos hsleep]
    exact Utters.refl Q d
  · rw [if_neg hsleep]
    by_cases hone : d.staSleep = 1
    · rw [if_pos hone]
      exact hqueue.and_eq rfl rfl rfl rfl rfl rfl
    · rw [if_neg hone]
      exact Utters.of_eq rfl rfl rfl rfl rfl rfl

/-- A frame handed over. -/
theorem sent_append (d : Device P) (h : Handed) :
    ({ d with handed := d.handed ++ [h] } : Device P).sent = d.sent ++ [h.skb.data] := by
  simp [Device.sent]

/-- What is out after a frame has been handed over. -/
theorem hand_utters (d : Device P) (h : Handed) (hQ : Q (AirFrame.of h.skb.data)) :
    Utters Q { d with handed := d.handed ++ [h] } d := by
  refine ⟨fun v hv => ?_, fun f hf => ?_, rfl, rfl, rfl, rfl⟩
  · rw [Out, sent_append] at hv
    rcases hv with ⟨f, hf, hv⟩ | hring
    · rcases List.mem_append.mp hf with hold | hnew
      · exact Or.inl (Or.inl ⟨f, hold, hv⟩)
      · rw [List.mem_singleton.mp hnew] at hv
        exact Or.inr (hv ▸ hQ)
    · exact Or.inl (Or.inr hring)
  · rw [sent_append]
    exact List.mem_append_left _ hf

/-- What is out stays the same when a frame of it is handed over. -/
theorem hand_out (d : Device P) (h : Handed) (hout : d.Out (AirFrame.of h.skb.data)) :
    Utters Q { d with handed := d.handed ++ [h] } d := by
  have hutters : Utters (fun v => v = AirFrame.of h.skb.data) { d with handed := d.handed ++ [h] } d :=
    hand_utters d h rfl
  refine ⟨fun v hv => Or.inl ?_, hutters.sent, rfl, rfl, rfl, rfl⟩
  rcases hutters.out v hv with hold | rfl
  · exact hold
  · exact hout

/-- What is out after a frame has been queued. -/
theorem enqueue_utters (d : Device P) (skb : SkBuff) (hQ : ∀ n, Q (AirFrame.of (skb.setSeqCtl n).data)) :
    Utters Q { d with mgmtQueue := (d.mgmtQueue.enqueueMgmt skb).2 } d := by
  refine ⟨fun v hv => ?_, fun f hf => hf, rfl, rfl, rfl, rfl⟩
  rcases hv with hsent | ⟨i, skb', n, hring, hv⟩
  · exact Or.inl (Or.inl hsent)
  · dsimp only at hring
    unfold MgmtQueue.enqueueMgmt at hring
    dsimp only at hring
    split_ifs at hring
    · exact Or.inl (Or.inr ⟨i, skb', n, hring, hv⟩)
    · dsimp only at hring
      by_cases hi : i = d.mgmtQueue.head + 1
      · rw [hi, Function.update_self] at hring
        obtain rfl := Option.some.inj hring
        exact Or.inr (hv ▸ hQ n)
      · rw [Function.update_of_ne hi] at hring
        exact Or.inl (Or.inr ⟨i, skb', n, hring, hv⟩)

/-- What waits stays the same when the ends of the queue move. -/
theorem ends_utters (d : Device P) {q : MgmtQueue SkBuff} (hring : q.ring = d.mgmtQueue.ring) :
    Utters Q { d with mgmtQueue := q } d := by
  refine ⟨fun v hv => Or.inl ?_, fun f hf => hf, rfl, rfl, rfl, rfl⟩
  rcases hv with hsent | ⟨i, skb, n, hat, hv⟩
  · exact Or.inl hsent
  · exact Or.inr ⟨i, skb, n, hring ▸ hat, hv⟩

/-- **A frame that is transmitted** is out, whether it is handed over or waits. -/
theorem softmacMgmtXmit_utters (env : Env) (d : Device P) {skb : SkBuff} (hlen : 24 ≤ skb.len)
    (hQ : Q (AirFrame.of skb.data)) : Utters Q (softmacMgmtXmit env d skb) d := by
  have hQ' : ∀ n, Q (AirFrame.of (skb.setSeqCtl n).data) := by
    intro n
    rwa [AirFrame.of_setSeqCtl hlen]
  apply Utters.trans _ (staWakeup_utters d)
  unfold softmacMgmtXmit
  extract_lets d₁ numbered
  have hnumbered : Utters Q numbered d₁ := Utters.of_eq rfl rfl rfl rfl rfl rfl
  split_ifs
  · exact enqueue_utters d₁ skb hQ'
  · have hhand := (hand_utters numbered (.data (skb.setSeqCtl d₁.seqCtrl) d₁.basicRate) (hQ' _)).trans
      hnumbered
    exact hhand.and_eq rfl rfl rfl rfl rfl rfl
  · exact (hand_utters numbered (.mgmt (skb.setSeqCtl d₁.seqCtrl)) (hQ' _)).trans hnumbered

theorem delAssociateTimer_utters (d : Device P) : Utters Q d.delAssociateTimer d :=
  Utters.of_eq rfl rfl rfl rfl rfl rfl

theorem modAssociateTimer_utters (env : Env) (d : Device P) : Utters Q (d.modAssociateTimer env) d :=
  Utters.of_eq rfl rfl rfl rfl rfl rfl

theorem associateAbort_utters (d : Device P) : Utters Q (associateAbort d) d :=
  (queueWork_utters _ _).trans (Utters.of_eq rfl rfl rfl rfl rfl rfl)

theorem notePs_utters (env : Env) (d : Device P) (stype : UInt16) : Utters Q (notePs env d stype) d :=
  Utters.of_eq rfl rfl rfl rfl rfl rfl

/-! ### The requests -/

/-- A request of authentication of this station. -/
structure AuthReq (d : Device P) (v : AirFrame) : Prop where
  kind : v.kind = stypeAuth
  dest : v.dest = d.currentNetwork.bssid
  src : v.src = d.devAddr
  algorithm : v.w24 = if d.openWep then wlanAuthOpen else wlanAuthSharedKey
  length : 28 ≤ v.length

/-- A request of association of this station. -/
structure AssocReq (d : Device P) (v : AirFrame) : Prop where
  kind : v.kind = stypeAssocReq
  dest : v.dest = d.currentNetwork.bssid
  src : v.src = d.devAddr
  length : 28 ≤ v.length

theorem get16_le16 (v : UInt16) (rest : List UInt8) : get16 (le16 v ++ rest) 0 = v := by
  simp [get16, le16, at8]

/-- The frame of `authentication_req`. -/
theorem authenticationReq_frame {d d' : Device P} {skb : SkBuff}
    (h : authenticationReq true d 0 = some (skb, d')) :
    AuthReq d (AirFrame.of skb.data) ∧ 24 ≤ skb.len ∧ d' = { d with associateSeq := d.associateSeq + 1 } := by
  obtain ⟨rfl, rfl⟩ := Prod.mk.inj (Option.some.inj h)
  have hfc : AirFrame.kindOf (stypeAuth ||| (if 0 < 0 then fctlWep else 0) ||| if d.ps ≠ 0 then fctlPm else 0) =
      stypeAuth := by
    split_ifs <;> rfl
  refine ⟨?_, ?_, rfl⟩
  · rw [SkBuff.put_data, SkBuff.devAllocSkb, List.nil_append, List.append_assoc, List.append_assoc,
      AirFrame.of_mgmtHdr, hfc, get16_le16]
    exact ⟨rfl, rfl, rfl, rfl, by simp [le16]⟩
  · simp [SkBuff.len, SkBuff.devAllocSkb, mgmtHdr, le16, Mac.toList]

/-- The frame of `association_req`. -/
theorem associationReq_frame {d d' : Device P} {skb : SkBuff}
    (h : associationReq true d = some (skb, d')) :
    AssocReq d (AirFrame.of skb.data) ∧ 24 ≤ skb.len ∧ d' = { d with apMacAddr := d.currentNetwork.bssid } := by
  obtain ⟨rfl, rfl⟩ := Prod.mk.inj (Option.some.inj h)
  refine ⟨?_, ?_, rfl⟩
  · rw [SkBuff.put_data, SkBuff.devAllocSkb, List.nil_append]
    simp only [List.append_assoc]
    rw [AirFrame.of_mgmtHdr]
    exact ⟨rfl, rfl, rfl, by simp [le16]; omega⟩
  · simp [SkBuff.len, SkBuff.devAllocSkb, mgmtHdr, le16, Mac.toList]

theorem associateStep1_utters (env : Env) (d : Device P) :
    Utters (AuthReq d) (associateStep1 env d) d := by
  unfold associateStep1
  cases hskb : env.skbAlloc with
  | false => exact associateAbort_utters d
  | true =>
    cases hreq : authenticationReq true d 0 with
    | none => cases hreq
    | some r =>
      obtain ⟨skb, d'⟩ := r
      obtain ⟨hframe, hlen, rfl⟩ := authenticationReq_frame hreq
      dsimp only
      exact (modAssociateTimer_utters env _).trans ((softmacMgmtXmit_utters env _ hlen hframe).trans
        (Utters.of_eq rfl rfl rfl rfl rfl rfl))

theorem associateStep2_utters (env : Env) (d : Device P) :
    Utters (AssocReq d) (associateStep2 env d) d := by
  unfold associateStep2
  dsimp only
  cases hskb : env.skbAlloc with
  | false => exact (associateAbort_utters _).trans (delAssociateTimer_utters d)
  | true =>
    cases hreq : associationReq true d.delAssociateTimer with
    | none => cases hreq
    | some r =>
      obtain ⟨skb, d'⟩ := r
      obtain ⟨⟨hstype, hdest, hsrc, hlength⟩, hlen, rfl⟩ := associationReq_frame hreq
      have hframe : AssocReq d (AirFrame.of skb.data) := ⟨hstype, hdest, hsrc, hlength⟩
      exact (modAssociateTimer_utters env _).trans ((softmacMgmtXmit_utters env _ hlen hframe).trans
        (Utters.of_eq rfl rfl rfl rfl rfl rfl))

/-! ### The replies -/

/-- The reply to a request of authentication. -/
structure AuthReply (d : Device P) (req v : AirFrame) : Prop where
  kind : v.kind = stypeAuth
  dest : v.dest = req.src
  src : v.src = d.devAddr
  status : v.w28 = if req.w24 = wlanAuthOpen then wlanStatusSuccess else wlanStatusNotSupportedAuthAlg
  length : v.length = 30

/-- The reply to a request of association. -/
structure AssocReply (d : Device P) (req v : AirFrame) : Prop where
  kind : v.kind = stypeAssocResp
  dest : v.dest = req.src
  src : v.src = d.devAddr
  status : v.w26 = wlanStatusSuccess
  id : v.w28 = d.assocId
  length : 32 ≤ v.length

/-- The frame of `auth_resp`. -/
theorem authResp_frame {d d' : Device P} {status : UInt16} {dest : Mac} {skb : SkBuff}
    (h : authResp true d status dest = some (skb, d')) :
    AirFrame.of skb.data = ⟨stypeAuth, dest, d.devAddr, wlanAuthOpen, 2, status, 30⟩ ∧ d' = d := by
  obtain ⟨rfl, rfl⟩ := Prod.mk.inj (Option.some.inj h)
  refine ⟨?_, rfl⟩
  rw [SkBuff.put_data, SkBuff.devAllocSkb, List.nil_append]
  simp only [List.append_assoc]
  rw [AirFrame.of_mgmtHdr]
  have h0 : get16 (le16 wlanAuthOpen ++ (le16 2 ++ le16 status)) 0 = wlanAuthOpen := by
    simp [get16, le16, at8]
  have h2 : get16 (le16 wlanAuthOpen ++ (le16 2 ++ le16 status)) 2 = 2 := by
    simp [get16, le16, at8]
  have h4 : get16 (le16 wlanAuthOpen ++ (le16 2 ++ le16 status)) 4 = status := by
    simp [get16, le16, at8]
  rw [h0, h2, h4]
  rfl

/-- The frame of `assoc_resp`. -/
theorem assocResp_frame {d d' : Device P} {dest : Mac} {skb : SkBuff}
    (h : assocResp true d dest = some (skb, d')) (req : AirFrame) (hdest : dest = req.src) :
    AssocReply d req (AirFrame.of skb.data) ∧ d' = { d with assocId := nextAid d.assocId } := by
  obtain ⟨rfl, rfl⟩ := Prod.mk.inj (Option.some.inj h)
  refine ⟨?_, rfl⟩
  rw [SkBuff.put_data, SkBuff.devAllocSkb, List.nil_append]
  simp only [List.append_assoc]
  rw [AirFrame.of_mgmtHdr]
  refine ⟨rfl, hdest, rfl, ?_, ?_, ?_⟩
  · simp [get16, le16, at8, wlanStatusSuccess]
  · simp [get16, le16, at8]
  · simp [le16]
    omega

/-- A frame with a whole header. -/
theorem len_of_length {skb : SkBuff} {n : ℕ} (h : n ≤ (AirFrame.of skb.data).length) : n ≤ skb.len := h

theorem authRqParse_some {skb : SkBuff} {status : UInt16} {dest : Mac}
    (h : authRqParse skb = some (status, dest)) :
    status = (if get16 skb.data 24 = wlanAuthOpen then wlanStatusSuccess
      else wlanStatusNotSupportedAuthAlg) ∧ dest = addr2 skb.data := by
  unfold authRqParse at h
  split_ifs at h with hlen halg
  · obtain ⟨rfl, rfl⟩ := Prod.mk.inj (Option.some.inj h)
    exact ⟨(if_neg halg).symm, rfl⟩
  · obtain ⟨rfl, rfl⟩ := Prod.mk.inj (Option.some.inj h)
    exact ⟨(if_pos (not_not.mp halg)).symm, rfl⟩

theorem assocRqParse_some {skb : SkBuff} {dest : Mac} (h : assocRqParse skb = some dest) :
    dest = addr2 skb.data := by
  unfold assocRqParse at h
  split_ifs at h
  exact (Option.some.inj h).symm

theorem rxAuthRq_utters (env : Env) (d : Device P) (skb : SkBuff) :
    Utters (AuthReply d (AirFrame.of skb.data)) (rxAuthRq env d skb) d := by
  unfold rxAuthRq
  cases hparse : authRqParse skb with
  | none => exact Utters.refl _ d
  | some r =>
    obtain ⟨status, dest⟩ := r
    obtain ⟨hstatus, hdest⟩ := authRqParse_some hparse
    dsimp only
    cases hskb : env.skbAlloc with
    | false => exact Utters.refl _ d
    | true =>
      cases hresp : authResp true d status dest with
      | none => cases hresp
      | some r =>
        obtain ⟨reply, d'⟩ := r
        obtain ⟨hframe, rfl⟩ := authResp_frame hresp
        have hlong : (AirFrame.of reply.data).length = 30 := by rw [hframe]
        have hlen : 24 ≤ reply.len := len_of_length ((by decide : 24 ≤ 30).trans_eq hlong.symm)
        apply softmacMgmtXmit_utters env d' hlen
        rw [hframe]
        exact ⟨rfl, hdest, rfl, hstatus, rfl⟩

theorem rxAssocRq_utters (env : Env) (d : Device P) (skb : SkBuff) :
    Utters (AssocReply d (AirFrame.of skb.data)) (rxAssocRq env d skb) d ∧
      ((rxAssocRq env d skb).assocId = d.assocId ∧ Utters (fun _ => False) (rxAssocRq env d skb) d ∨
        (rxAssocRq env d skb).assocId = nextAid d.assocId) := by
  unfold rxAssocRq
  cases hparse : assocRqParse skb with
  | none => exact ⟨Utters.refl _ d, Or.inl ⟨rfl, Utters.refl _ d⟩⟩
  | some dest =>
    have hdest := assocRqParse_some hparse
    dsimp only
    cases hskb : env.skbAlloc with
    | false => exact ⟨Utters.refl _ d, Or.inl ⟨rfl, Utters.refl _ d⟩⟩
    | true =>
      cases hresp : assocResp true d dest with
      | none => cases hresp
      | some r =>
        obtain ⟨reply, d'⟩ := r
        obtain ⟨hframe, rfl⟩ := assocResp_frame hresp (AirFrame.of skb.data) hdest
        have hlen : 24 ≤ reply.len := len_of_length ((by decide : 24 ≤ 32).trans hframe.length)
        refine ⟨?_, Or.inr (softmacMgmtXmit_serves env _ _).assocId⟩
        exact (softmacMgmtXmit_utters env _ hlen hframe).trans (Utters.of_eq rfl rfl rfl rfl rfl rfl)

/-- A probe response is no frame of the association. -/
theorem rxProbeRq_utters (env : Env) (d : Device P) (skb : SkBuff) :
    Utters (fun v => ¬ v.Associates) (rxProbeRq env d skb) d := by
  unfold rxProbeRq
  split_ifs
  · unfold xmitReply probeResp
    cases env.skbAlloc with
    | false => exact Utters.refl _ d
    | true =>
      refine Utters.trans (softmacMgmtXmit_utters env _ ?_ ?_) (Utters.of_eq rfl rfl rfl rfl rfl rfl)
      · simp only [SkBuff.len, SkBuff.put_data, SkBuff.devAllocSkb, List.nil_append, List.length_append]
        simp [mgmtHdr, le16, Mac.toList]
        omega
      · rw [SkBuff.put_data, SkBuff.devAllocSkb, List.nil_append]
        simp only [List.append_assoc]
        rw [AirFrame.of_mgmtHdr]
        have hkind : AirFrame.kindOf stypeProbeResp ∉ AirFrame.kinds := by decide
        exact hkind
  · exact Utters.refl _ d

/-! ### The handler -/

/-- What a frame does to an access point. -/
inductive ApStep (d' d : Device P) (v : AirFrame) : Prop where
  | silent (h : Utters (fun w => ¬ w.Associates) d' d) (hid : d'.assocId = d.assocId)
  | auth (hstype : v.kind = stypeAuth) (h : Utters (AuthReply d v) d' d) (hid : d'.assocId = d.assocId)
  | assoc (hstype : v.kind = stypeAssocReq ∨ v.kind = stypeReassocReq)
    (h : Utters (AssocReply d v) d' d) (hid : d'.assocId = nextAid d.assocId)

theorem rxFrameSoftmac_master (env : Env) {d : Device P} {skb : SkBuff} (hmode : d.iwMode = .master)
    (hmgmt : fcType (frameCtl skb.data) = ftypeMgmt) :
    ApStep (rxFrameSoftmac env d skb).2 d (AirFrame.of skb.data) := by
  have hkind : (AirFrame.of skb.data).kind = fcStype (frameCtl skb.data) := AirFrame.kindOf_of_mgmt hmgmt
  have hinfra : d.iwMode ≠ .infra := by
    rw [hmode]
    decide
  unfold rxFrameSoftmac
  extract_lets stype d₁ associate
  have hnote : ∀ {Q : AirFrame → Prop}, Utters Q d₁ d := notePs_utters env d stype
  split_ifs with hproto hassoc hwaits hreq hmaster hauth hfeat hwaits' hmaster' hprobe hlinked hdis hlinked'
  · exact absurd hwaits.2.2 hinfra
  · exact .silent hnote rfl
  · obtain ⟨hutters, hid⟩ := rxAssocRq_utters env d₁ skb
    rcases hid with ⟨hsame, hnone⟩ | hnext
    · exact .silent ((hnone.trans hnote).mono fun _ h => h.elim) hsame
    · refine .assoc (hreq.imp hkind.trans hkind.trans) ((hutters.mono fun v h => ?_).trans hnote) hnext
      exact ⟨h.kind, h.dest, h.src, h.status, h.id, h.length⟩
  · exact .silent hnote rfl
  · exact absurd hwaits'.2 hinfra
  · refine .auth (hkind.trans hauth) (((rxAuthRq_utters env d₁ skb).mono fun v h => ?_).trans hnote)
      (rxAuthRq_serves env d₁ skb).assocId
    exact ⟨h.kind, h.dest, h.src, h.status, h.length⟩
  · exact .silent hnote rfl
  · exact .silent hnote rfl
  · exact .silent ((rxProbeRq_utters env d₁ skb).trans hnote) (rxProbeRq_serves env d₁ skb).assocId
  · exact .silent hnote rfl
  · exact absurd hlinked'.2.2 hinfra
  · exact .silent hnote rfl
  · exact .silent hnote rfl
  · exact .silent (Utters.refl _ d) rfl

/-- LINKED, or LINKED and scanning. -/
def State.up : State → Bool
  | .linked => true
  | .linkedScanning => true
  | _ => false

/-- An attempt leads below authentication. -/
theorem associateStep1_below (env : Env) (d : Device P) :
    (associateStep1 env d).state ≠ .associatingAuthenticated ∧ (associateStep1 env d).state.up = false := by
  have hstate : (associateStep1 env d).state = .associatingAuthenticating ∨
      (associateStep1 env d).state = .associatingRetry := by
    unfold associateStep1 authenticationReq
    dsimp only
    cases env.skbAlloc with
    | false => exact Or.inr (associateAbort_state d)
    | true => exact Or.inl (softmacMgmtXmit_state env _ _)
  rcases hstate with hs | hs
  · rw [hs]
    decide
  · rw [hs]
    decide

/-- What a frame does to a station. -/
inductive StaStep (d' d : Device P) (v : AirFrame) : Prop where
  | silent (h : Utters (fun _ => False) d' d) (hid : d'.assocId = d.assocId)
      (hauth : d'.state = .associatingAuthenticated → d.state = .associatingAuthenticated)
      (hup : d'.state.up = true → d.state.up = true)
  | auth (hstype : v.kind = stypeAuth) (hstatus : v.w28 = wlanStatusSuccess)
      (h : Utters (AssocReq d) d' d) (hid : d'.assocId = d.assocId) (hup : d'.state.up = false)
  | assoc (hstype : v.kind = stypeAssocResp ∨ v.kind = stypeReassocResp)
      (hstatus : v.w26 = wlanStatusSuccess) (hstate : d.state = .associatingAuthenticated)
      (h : Utters (fun _ => False) d' d) (hid : d'.assocId = v.w28 &&& 0x3fff) (hlinked : d'.state = .linked)

variable {v : AirFrame}

theorem associateAbort_assocId (d : Device P) : (associateAbort d).assocId = d.assocId :=
  (queueWork_serves _ _).assocId

theorem associateAbort_step (d : Device P) : StaStep (associateAbort d) d v := by
  have hstate := associateAbort_state d
  refine .silent (associateAbort_utters d) (associateAbort_assocId d) (fun h => ?_) (fun h => ?_)
  · rw [hstate] at h
    cases h
  · rw [hstate] at h
    cases h

theorem rxDisassoc_step (d : Device P) : StaStep (rxDisassoc d) d v := by
  have hstate := rxDisassoc_state d
  have hutters : Utters (fun _ => False) (rxDisassoc d) d :=
    (queueWork_utters _ _).trans (Utters.of_eq rfl rfl rfl rfl rfl rfl)
  refine .silent hutters (queueWork_serves _ _).assocId (fun h => ?_) (fun h => ?_)
  · rw [hstate] at h
    cases h
  · rw [hstate] at h
    cases h

/-- An association response, in the state that waits for it. -/
theorem rxAssocResp_step {d : Device P} {skb : SkBuff} (hstate : d.state = .associatingAuthenticated)
    (hlen : 32 ≤ skb.len)
    (hstype : (AirFrame.of skb.data).kind = stypeAssocResp ∨ (AirFrame.of skb.data).kind = stypeReassocResp) :
    StaStep (rxAssocResp d skb) d (AirFrame.of skb.data) := by
  have hparse : assocParse skb = (get16 skb.data 26, get16 skb.data 28 &&& 0x3fff) := by
    rw [assocParse, if_neg (by omega)]
  rw [rxAssocResp, hparse]
  dsimp only
  by_cases hok : get16 skb.data 26 = wlanStatusSuccess
  · rw [if_pos hok]
    refine .assoc hstype hok hstate ?_ (queueWork_serves _ _).assocId (associateComplete_state _)
    exact (queueWork_utters _ _).trans (Utters.of_eq rfl rfl rfl rfl rfl rfl)
  · rw [if_neg hok]
    exact associateAbort_step d

theorem associateStep2_assocId (env : Env) (d : Device P) : (associateStep2 env d).assocId = d.assocId := by
  unfold associateStep2 associationReq
  dsimp only
  cases env.skbAlloc with
  | false => exact associateAbort_assocId _
  | true => exact (softmacMgmtXmit_serves env _ _).assocId

/-- An authentication response without a challenge, in the state that waits for it. -/
theorem rxAuthResp_step (env : Env) {d : Device P} {skb : SkBuff} (hlen : skb.len = 30)
    (hstype : (AirFrame.of skb.data).kind = stypeAuth) :
    StaStep (rxAuthResp env d skb) d (AirFrame.of skb.data) := by
  have hword : get16 skb.mem 28 = get16 skb.data 28 := by
    unfold SkBuff.len at hlen
    rw [SkBuff.mem, get16, get16, at8_append_left _ (by omega), at8_append_left _ (by omega)]
  have hparse : authParse skb = (get16 skb.data 28, none) := by
    rw [authParse, if_neg (by omega), if_neg (by omega), hword]
  rw [rxAuthResp, hparse]
  dsimp only
  by_cases hok : get16 skb.data 28 = wlanStatusSuccess
  · rw [if_pos hok]
    have hutters := associateStep2_utters env { d with state := .associatingAuthenticated }
    refine .auth hstype hok ((hutters.mono fun v h => ?_).trans ?_) (associateStep2_assocId env _) ?_
    · exact ⟨h.kind, h.dest, h.src, h.length⟩
    · exact Utters.of_eq rfl rfl rfl rfl rfl rfl
    · rcases associateStep2_state env { d with state := .associatingAuthenticated } with hs | hs
      · rw [hs]
        rfl
      · rw [hs]
        rfl
  · rw [if_neg hok]
    exact associateAbort_step d

/-- What `ieee80211_rx_frame_softmac` does whatever the subtype is, is nothing here. -/
theorem StaStep.of_note {env : Env} {d : Device P} {stype : UInt16} (h : StaStep d' (notePs env d stype) v) :
    StaStep d' d v := by
  have hnote : ∀ {Q : AirFrame → Prop}, Utters Q (notePs env d stype) d := notePs_utters env d stype
  rcases h with ⟨h, hid, hauth, hup⟩ | ⟨hstype, hstatus, h, hid, hup⟩ |
    ⟨hstype, hstatus, hstate, h, hid, hlinked⟩
  · exact .silent (h.trans hnote) hid hauth hup
  · refine .auth hstype hstatus ((h.mono fun w hw => ?_).trans hnote) hid hup
    exact ⟨hw.kind, hw.dest, hw.src, hw.length⟩
  · exact .assoc hstype hstatus hstate (h.trans hnote) hid hlinked

theorem StaStep.refl (d : Device P) (v : AirFrame) : StaStep d d v := .silent (Utters.refl _ d) rfl id id

/-- A frame from an access point like this one, heard by a station. -/
theorem rxFrameSoftmac_infra (env : Env) {d : Device P} {skb : SkBuff} (hmode : d.iwMode = .infra)
    (hmgmt : fcType (frameCtl skb.data) = ftypeMgmt)
    (hauth : (AirFrame.of skb.data).kind = stypeAuth → skb.len = 30)
    (hresp : (AirFrame.of skb.data).kind = stypeAssocResp ∨ (AirFrame.of skb.data).kind = stypeReassocResp →
      32 ≤ skb.len) :
    StaStep (rxFrameSoftmac env d skb).2 d (AirFrame.of skb.data) := by
  have hkind : (AirFrame.of skb.data).kind = fcStype (frameCtl skb.data) := AirFrame.kindOf_of_mgmt hmgmt
  have hmaster : d.iwMode ≠ .master := by
    rw [hmode]
    decide
  have hadhoc : d.iwMode ≠ .adhoc := by
    rw [hmode]
    decide
  unfold rxFrameSoftmac
  extract_lets stype d₁ associate
  have hnote : StaStep d₁ d (AirFrame.of skb.data) := (StaStep.refl d₁ _).of_note
  split_ifs with hproto hassoc hwaits hreq hserves hstype hfeat hwaits' hmaster' hprobe hlinked hdis hlinked'
  · have hassoc' := hassoc.imp hkind.trans hkind.trans
    exact (rxAssocResp_step hwaits.2.1 (hresp hassoc') hassoc').of_note
  · exact hnote
  · exact absurd hserves.2 hmaster
  · exact hnote
  · have hstype' := hkind.trans hstype
    exact (rxAuthResp_step env (hauth hstype') hstype').of_note
  · exact absurd hmaster' hmaster
  · exact hnote
  · exact hnote
  · rcases hlinked.2.1 with h | h
    · exact absurd h hadhoc
    · exact absurd h hmaster
  · exact hnote
  · exact (rxDisassoc_step d₁).of_note
  · exact hnote
  · exact hnote
  · exact StaStep.refl d _

end

end Rtl8187

/-
# The soft-MAC on a received management frame

`ieee80211_rx_frame_softmac` and what it calls in `ieee80211_softmac.c`: the
parsers of the frames, the steps of the association procedure they drive, and
the transmission of the replies.

The handler compares no address of the frame. So a frame of another
network moves the association on exactly when one of ours would
(`foreignInert_iff`).

Key definitions: `softmacMgmtXmit`, `associateAbort`, `associateStep2`,
`authChallenge`, `associateComplete`, `rxFrameSoftmac`, `SameAssociation`.
Key theorems: `rxFrameSoftmac_same_iff`, `foreignInert_iff`.
-/
import Rtl8187.MgmtFrames

namespace Rtl8187

open Bytes

variable {P : Type}

/-- What the moment of a call settles. -/
structure Env where
  /-- `jiffies` -/
  now : UInt64
  /-- Whether `dev_alloc_skb` succeeds. -/
  skbAlloc : Bool
  /-- Whether the hardware stops the queue with the `n`-th frame it is handed. -/
  stops : ℕ → Bool
  /-- What an address on the stack holds before it is written. -/
  stack : Mac

namespace Device

/-- `queue_work`: a work that is pending is not queued again. -/
def queueWork (d : Device P) (w : Work) : Device P :=
  if w ∈ d.works then d else { d with works := d.works ++ [w] }

/-- `del_timer_sync(&ieee->associate_timer)` -/
def delAssociateTimer (d : Device P) : Device P := { d with associateTimer := none }

/-- `mod_timer(&ieee->associate_timer, jiffies + HZ/2)` -/
def modAssociateTimer (env : Env) (d : Device P) : Device P :=
  { d with associateTimer := some (env.now + d.kernel.hz / 2) }

/-- `ieee80211_sta_wakeup` with second argument zero. -/
def staWakeup (d : Device P) : Device P :=
  if d.staSleep = 0 then d
  else
    let d := if d.staSleep = 1 then d.queueWork .hwWakeup else d
    { d with staSleep := 0 }

/-- `softmac_data_hard_start_xmit`, which may stop the queue. -/
def dataHardStartXmit (env : Env) (d : Device P) (skb : SkBuff) (rate : ℕ) : Device P :=
  { d with
    handed := d.handed ++ [.data skb rate]
    queueStop := d.queueStop || env.stops d.handed.length
    transStart := env.now }

/-- The sequence number after this one. -/
def nextSeqCtrl (seqCtrl : UInt16) : UInt16 := if seqCtrl = 0xFFF then 0 else seqCtrl + 1

end Device

open Device

/-- `header->seq_ctl = cpu_to_le16(seq_ctrl << 4)` -/
def SkBuff.setSeqCtl (skb : SkBuff) (seqCtrl : UInt16) : SkBuff :=
  { skb with data := skb.data.take 22 ++ le16 (seqCtrl <<< 4) ++ skb.data.drop 24 }

/-- `softmac_mgmt_xmit` -/
def softmacMgmtXmit (env : Env) (d : Device P) (skb : SkBuff) : Device P :=
  let d := d.staWakeup
  let numbered := { d with seqCtrl := nextSeqCtrl d.seqCtrl }
  if d.softmacFeatures.singleQueue then
    if d.queueStop then { d with mgmtQueue := (d.mgmtQueue.enqueueMgmt skb).2 }
    else numbered.dataHardStartXmit env (skb.setSeqCtl d.seqCtrl) d.basicRate
  else { numbered with handed := d.handed ++ [.mgmt (skb.setSeqCtl d.seqCtrl)] }

/-! ### The association procedure -/

/-- `ieee80211_associate_abort` -/
def associateAbort (d : Device P) : Device P :=
  { d with associateSeq := d.associateSeq + 1, state := .associatingRetry }.queueWork .associateRetry

/-- `ieee80211_associate_step2` -/
def associateStep2 (env : Env) (d : Device P) : Device P :=
  let d := d.delAssociateTimer
  match associationReq env.skbAlloc d with
  | none => associateAbort d
  | some (skb, d) => (softmacMgmtXmit env d skb).modAssociateTimer env

/-- `ieee80211_auth_challenge`. When `ieee80211_encrypt_fragment` meets no
module, nothing comes after it. -/
def authChallenge (env : Env) (d : Device P) (challenge : List UInt8) : Device P :=
  let d := { d with associateSeq := d.associateSeq + 1 }
  match authenticationReq env.skbAlloc d (challenge.length + 2) with
  | none => associateAbort d
  | some (skb, d) =>
    match encryptFragment d (skb.put (infoElement mfieTypeChallenge challenge)) dataHdr3Len with
    | none => d
    | some (_, skb, d) => (softmacMgmtXmit env d skb).modAssociateTimer env

/-- `ieee80211_associate_complete` -/
def associateComplete (d : Device P) : Device P :=
  { d.delAssociateTimer with seqCtrl := 0, state := .linked }.queueWork .associateComplete

/-! ### Parsers -/

/-- What a parser answers to a frame that is too short. -/
def invalidLen : UInt16 := 0xcafe

/-- `auth_parse`: the status, and the challenge text if there is one. Nothing
checks that the text ends inside the frame; its `kmalloc` succeeds. -/
def authParse (skb : SkBuff) : UInt16 × Option (List UInt8) :=
  if skb.len < 28 then (invalidLen, none)
  else if 33 < skb.len ∧ skb.byte 30 = mfieTypeChallenge then
    (get16 skb.mem 28, some ((List.range (skb.byte 31).toNat).map fun i => skb.byte (32 + i)))
  else (get16 skb.mem 28, none)

/-- `assoc_parse`: the status and the association id. -/
def assocParse (skb : SkBuff) : UInt16 × UInt16 :=
  if skb.len < 32 then (invalidLen, 0)
  else (get16 skb.data 26, get16 skb.data 28 &&& 0x3fff)

/-- `auth_rq_parse`: the status to answer, and to whom. -/
def authRqParse (skb : SkBuff) : Option (UInt16 × Mac) :=
  if skb.len < 28 then none
  else if get16 skb.data 24 ≠ wlanAuthOpen then some (wlanStatusNotSupportedAuthAlg, addr2 skb.data)
  else some (wlanStatusSuccess, addr2 skb.data)

/-- `assoc_rq_parse` -/
def assocRqParse (skb : SkBuff) : Option Mac :=
  if skb.len < 28 then none else some (addr2 skb.data)

/-- The loop of `probe_rq_parse`: the offset of the first tag 0 from `i` on. -/
def findSsid (skb : SkBuff) (i : ℕ) : Option ℕ :=
  if i + 1 < skb.len then
    if skb.byte i = 0 then some i else findSsid skb (i + 2 + (skb.byte (i + 1)).toNat)
  else none
termination_by skb.len - i

/-- `strncmp` finds no difference. -/
def strncmpEq : List UInt8 → List UInt8 → ℕ → Bool
  | _, _, 0 => true
  | a, b, n + 1 =>
    if at8 a 0 ≠ at8 b 0 then false
    else if at8 a 0 = 0 then true
    else strncmpEq a.tail b.tail n

/-- `probe_rq_parse`: whether to answer, and to whom. A frame without a whole
header is answered too, to an address that was never written. -/
def probeRqParse (env : Env) (d : Device P) (skb : SkBuff) : Bool × Mac :=
  if skb.len < dataHdr3Len then (true, env.stack)
  else
    match findSsid skb dataHdr3Len with
    | none => (true, addr2 skb.data)
    | some i =>
      let ssidlen := (skb.byte (i + 1)).toNat
      let ssid := skb.mem.drop (i + 2)
      (ssidlen == 0 || strncmpEq ssid d.currentNetwork.ssid ssidlen, addr2 skb.data)

/-! ### Replies -/

/-- A reply, if it could be built. -/
def xmitReply (env : Env) (d : Device P) (reply : Option (SkBuff × Device P)) : Device P :=
  match reply with
  | none => d
  | some (skb, d) => softmacMgmtXmit env d skb

/-- `ieee80211_rx_probe_rq` -/
def rxProbeRq (env : Env) (d : Device P) (skb : SkBuff) : Device P :=
  if (probeRqParse env d skb).1 then
    xmitReply env d (probeResp env.skbAlloc d (probeRqParse env d skb).2)
  else d

/-- `ieee80211_rx_auth_rq` -/
def rxAuthRq (env : Env) (d : Device P) (skb : SkBuff) : Device P :=
  match authRqParse skb with
  | none => d
  | some (status, dest) => xmitReply env d (authResp env.skbAlloc d status dest)

/-- `ieee80211_rx_assoc_rq` -/
def rxAssocRq (env : Env) (d : Device P) (skb : SkBuff) : Device P :=
  match assocRqParse skb with
  | none => d
  | some dest => xmitReply env d (assocResp env.skbAlloc d dest)

/-! ### The handler -/

/-- An association response, in the mode and the state that wait for it. -/
def rxAssocResp (d : Device P) (skb : SkBuff) : Device P :=
  if (assocParse skb).1 = wlanStatusSuccess then
    associateComplete { d with state := .linked, assocId := (assocParse skb).2 }
  else associateAbort d

/-- An authentication response, in the mode and the state that wait for it. -/
def rxAuthResp (env : Env) (d : Device P) (skb : SkBuff) : Device P :=
  if (authParse skb).1 = wlanStatusSuccess then
    match (authParse skb).2 with
    | none => associateStep2 env { d with state := .associatingAuthenticated }
    | some challenge =>
      if d.openWep then associateStep2 env { d with state := .associatingAuthenticated }
      else authChallenge env d challenge
  else associateAbort d

/-- A disassociation or a deauthentication, in the mode and the state it ends. -/
def rxDisassoc (d : Device P) : Device P :=
  { d with state := .associating }.queueWork .associateProcedure

/-- What `ieee80211_rx_frame_softmac` does whatever the subtype is. -/
def notePs (env : Env) (d : Device P) (stype : UInt16) : Device P :=
  { d with
    psTask := d.psTask || (d.staSleep != 0 || (d.ps != 0 && d.iwMode == .infra && d.state == .linked))
    lastRxPsTime :=
      if stype ≠ stypeProbeResp ∧ stype ≠ stypeBeacon then env.now else d.lastRxPsTime }

/-- `ieee80211_rx_frame_softmac` -/
def rxFrameSoftmac (env : Env) (d : Device P) (skb : SkBuff) : Int × Device P :=
  let stype := fcStype (frameCtl skb.data)
  if ¬ d.protoStarted then (0, d)
  else
    let d := notePs env d stype
    let associate := d.softmacFeatures.associate
    if stype = stypeAssocResp ∨ stype = stypeReassocResp then
      (0, if associate ∧ d.state = .associatingAuthenticated ∧ d.iwMode = .infra then rxAssocResp d skb
        else d)
    else if stype = stypeAssocReq ∨ stype = stypeReassocReq then
      (0, if associate ∧ d.iwMode = .master then rxAssocRq env d skb else d)
    else if stype = stypeAuth then
      (0, if associate then
          if d.state = .associatingAuthenticating ∧ d.iwMode = .infra then rxAuthResp env d skb
          else if d.iwMode = .master then rxAuthRq env d skb
          else d
        else d)
    else if stype = stypeProbeReq then
      (0, if d.softmacFeatures.probeRs ∧ (d.iwMode = .adhoc ∨ d.iwMode = .master) ∧ d.state = .linked
        then rxProbeRq env d skb else d)
    else if stype = stypeDisassoc ∨ stype = stypeDeauth then
      (0, if associate ∧ d.state = .linked ∧ d.iwMode = .infra then rxDisassoc d else d)
    else (-1, d)

/-! ### What a transmission leaves alone -/

section

variable (env : Env) (d : Device P) (w : Work) (skb : SkBuff)

@[simp] theorem queueWork_state : (d.queueWork w).state = d.state := by
  unfold queueWork
  split_ifs <;> rfl

@[simp] theorem queueWork_associateSeq : (d.queueWork w).associateSeq = d.associateSeq := by
  unfold queueWork
  split_ifs <;> rfl

@[simp] theorem staWakeup_state : d.staWakeup.state = d.state := by
  unfold staWakeup
  split_ifs <;> simp

@[simp] theorem staWakeup_associateSeq : d.staWakeup.associateSeq = d.associateSeq := by
  unfold staWakeup
  split_ifs <;> simp

@[simp] theorem softmacMgmtXmit_state : (softmacMgmtXmit env d skb).state = d.state := by
  unfold softmacMgmtXmit
  dsimp only
  split_ifs <;> simp [dataHardStartXmit]

@[simp] theorem softmacMgmtXmit_associateSeq :
    (softmacMgmtXmit env d skb).associateSeq = d.associateSeq := by
  unfold softmacMgmtXmit
  dsimp only
  split_ifs <;> simp [dataHardStartXmit]

/-! ### Where each step of the procedure leads -/

theorem associateAbort_state : (associateAbort d).state = .associatingRetry := queueWork_state _ _

theorem associateComplete_state : (associateComplete d).state = .linked := queueWork_state _ _

theorem rxDisassoc_state : (rxDisassoc d).state = .associating := queueWork_state _ _

theorem associateStep2_state : (associateStep2 env d).state = d.state ∨
    (associateStep2 env d).state = .associatingRetry := by
  unfold associateStep2 associationReq
  cases env.skbAlloc with
  | false => exact Or.inr (associateAbort_state _)
  | true =>
    left
    simp [modAssociateTimer, delAssociateTimer]

theorem encryptFragment_associateSeq {frag frag' : SkBuff} {hdrLen : ℕ} {ret : Int} {d' : Device P}
    (h : encryptFragment d frag hdrLen = some (ret, frag', d')) :
    d'.associateSeq = d.associateSeq := by
  rcases encryptFragment_cases h with rfl | ⟨priv, rfl⟩
  · rfl
  · rfl

/-- A challenge is answered with two transactions counted, or the procedure is
aborted. -/
theorem authChallenge_moves (challenge : List UInt8) :
    (authChallenge env d challenge).associateSeq = d.associateSeq + 1 + 1 ∨
      (authChallenge env d challenge).state = .associatingRetry := by
  unfold authChallenge authenticationReq
  cases env.skbAlloc with
  | false => exact Or.inr (associateAbort_state _)
  | true =>
    left
    simp only [if_true]
    split
    · rfl
    · rename_i he
      simpa [modAssociateTimer] using encryptFragment_associateSeq _ he

end

/-! ### Foreign frames -/

/-- The state of the association, as far as a foreign frame must not touch it. -/
structure SameAssociation (d' d : Device P) : Prop where
  state : d'.state = d.state
  assocId : d'.assocId = d.assocId
  associateSeq : d'.associateSeq = d.associateSeq
  associateTimer : d'.associateTimer = d.associateTimer
  works : d'.works = d.works
  network : d'.currentNetwork = d.currentNetwork
  rate : d'.rate = d.rate
  basicRate : d'.basicRate = d.basicRate
  shortSlot : d'.shortSlot = d.shortSlot
  cckModulation : d'.cckModulation = d.cckModulation
  ofdmModulation : d'.ofdmModulation = d.ofdmModulation

/-- An authentication, (re)association response, disassociation or
deauthentication frame. -/
def IsAssociationFrame (skb : SkBuff) : Prop :=
  fcStype (frameCtl skb.data) ∈
    [stypeAuth, stypeAssocResp, stypeReassocResp, stypeDisassoc, stypeDeauth]

/-- Transmitter or BSSID is not that of our network. -/
def Foreign (d : Device P) (skb : SkBuff) : Prop :=
  addr2 skb.data ≠ d.currentNetwork.bssid ∨ addr3 skb.data ≠ d.currentNetwork.bssid

/-- A foreign frame is inert. -/
def ForeignInert (env : Env) (d : Device P) (skb : SkBuff) : Prop :=
  d.iwMode = .infra → IsAssociationFrame skb → Foreign d skb →
    SameAssociation (rxFrameSoftmac env d skb).2 d

/-- The state in which a subtype moves the association on. -/
def actsIn (stype : UInt16) : State :=
  if stype = stypeAssocResp ∨ stype = stypeReassocResp then .associatingAuthenticated
  else if stype = stypeAuth then .associatingAuthenticating
  else .linked

/-- The step the handler takes on one of the five subtypes. -/
def assocStep (env : Env) (d : Device P) (skb : SkBuff) : Device P :=
  if fcStype (frameCtl skb.data) = stypeAssocResp ∨ fcStype (frameCtl skb.data) = stypeReassocResp then
    rxAssocResp d skb
  else if fcStype (frameCtl skb.data) = stypeAuth then rxAuthResp env d skb
  else rxDisassoc d

/-- The soft-MAC runs the association, and this is the subtype its state waits for. -/
def ActsOn (d : Device P) (skb : SkBuff) : Prop :=
  d.protoStarted = true ∧ d.softmacFeatures.associate = true ∧
    d.state = actsIn (fcStype (frameCtl skb.data))

section

variable {env : Env} {d : Device P} {skb : SkBuff}

theorem same_notePs (stype : UInt16) : SameAssociation (notePs env d stype) d := by
  constructor <;> rfl

/-- An association response leaves the state that waited for it. -/
theorem rxAssocResp_state (h : d.state = .associatingAuthenticated) :
    (rxAssocResp d skb).state ≠ d.state := by
  rw [h]
  unfold rxAssocResp
  split_ifs with hs
  · rw [associateComplete_state]
    decide
  · rw [associateAbort_state]
    decide

/-- An authentication response leaves the state that waited for it, or
transactions have been counted. -/
theorem rxAuthResp_moves (h : d.state = .associatingAuthenticating) :
    (rxAuthResp env d skb).state ≠ d.state ∨ (rxAuthResp env d skb).associateSeq ≠ d.associateSeq := by
  have hstep : ∀ d' : Device P, d'.state = .associatingAuthenticated →
      (associateStep2 env d').state ≠ d.state := by
    intro d' hd'
    rw [h]
    rcases associateStep2_state env d' with hs | hs
    · rw [hs, hd']
      decide
    · rw [hs]
      decide
  by_cases hs : (authParse skb).1 = wlanStatusSuccess
  · rw [rxAuthResp, if_pos hs]
    cases (authParse skb).2 with
    | none => exact Or.inl (hstep _ rfl)
    | some challenge =>
      dsimp only
      by_cases ho : d.openWep = true
      · rw [if_pos ho]
        exact Or.inl (hstep _ rfl)
      · rw [if_neg ho]
        rcases authChallenge_moves env d challenge with hm | hm
        · right
          rw [hm, UInt16.add_assoc]
          intro heq
          exact absurd (UInt16.add_eq_left.mp heq) (by decide)
        · left
          rw [hm, h]
          decide
  · left
    rw [rxAuthResp, if_neg hs, associateAbort_state, h]
    decide

/-- In infrastructure mode, what a frame of the five subtypes comes to. -/
theorem rxFrameSoftmac_started (hproto : d.protoStarted = true) (hmode : d.iwMode = .infra)
    (hframe : IsAssociationFrame skb) :
    (rxFrameSoftmac env d skb).2 =
      let stype := fcStype (frameCtl skb.data)
      let d' := notePs env d stype
      if d.softmacFeatures.associate = true ∧ d.state = actsIn stype then assocStep env d' skb
      else d' := by
  have hmode' : ∀ stype, (notePs env d stype).iwMode = .infra := fun _ => hmode
  have hstate : ∀ stype, (notePs env d stype).state = d.state := fun _ => rfl
  have hfeat : ∀ stype, (notePs env d stype).softmacFeatures = d.softmacFeatures := fun _ => rfl
  simp only [IsAssociationFrame, List.mem_cons, List.not_mem_nil, or_false] at hframe
  unfold rxFrameSoftmac actsIn assocStep
  rcases hframe with hst | hst | hst | hst | hst <;>
    simp [hst, hproto, hmode', hstate, hfeat, stypeAuth, stypeAssocResp, stypeReassocResp,
      stypeDisassoc, stypeDeauth, stypeAssocReq, stypeReassocReq, stypeProbeReq, ite_and]

/-- What the state waits for moves the association on. -/
theorem assocStep_moves (hstate : d.state = actsIn (fcStype (frameCtl skb.data))) :
    (assocStep env d skb).state ≠ d.state ∨ (assocStep env d skb).associateSeq ≠ d.associateSeq := by
  unfold actsIn at hstate
  unfold assocStep
  split_ifs at hstate ⊢ with hresp hauth
  · exact Or.inl (rxAssocResp_state hstate)
  · exact rxAuthResp_moves hstate
  · left
    rw [rxDisassoc_state, hstate]
    decide

/-- In infrastructure mode, a frame of the five subtypes leaves the association
alone exactly if the state does not wait for it. -/
theorem rxFrameSoftmac_same_iff (hmode : d.iwMode = .infra) (hframe : IsAssociationFrame skb) :
    SameAssociation (rxFrameSoftmac env d skb).2 d ↔ ¬ ActsOn d skb := by
  unfold ActsOn
  by_cases hproto : d.protoStarted = true
  · rw [rxFrameSoftmac_started hproto hmode hframe]
    dsimp only
    by_cases hacts : d.softmacFeatures.associate = true ∧ d.state = actsIn (fcStype (frameCtl skb.data))
    · rw [if_pos hacts]
      refine iff_of_false (fun hsame => ?_) (fun h => h ⟨hproto, hacts⟩)
      have hstate : (notePs env d (fcStype (frameCtl skb.data))).state =
          actsIn (fcStype (frameCtl skb.data)) := hacts.2
      rcases @assocStep_moves P env _ skb hstate with hm | hm
      · exact hm hsame.state
      · exact hm hsame.associateSeq
    · rw [if_neg hacts]
      exact iff_of_true (same_notePs _) (fun h => hacts h.2)
  · have hnone : (rxFrameSoftmac env d skb).2 = d := by simp [rxFrameSoftmac, hproto]
    rw [hnone]
    refine iff_of_true ?_ (fun h => hproto h.1)
    constructor <;> rfl

/-- **When foreign management frames are inert.** Exactly when none of ours
would have been waited for either: no address is compared. -/
theorem foreignInert_iff (env : Env) (d : Device P) (skb : SkBuff) :
    ForeignInert env d skb ↔
      ¬ (d.iwMode = .infra ∧ IsAssociationFrame skb ∧ Foreign d skb ∧ ActsOn d skb) := by
  constructor
  · intro h ⟨hmode, hframe, hforeign, hacts⟩
    exact (rxFrameSoftmac_same_iff hmode hframe).mp (h hmode hframe hforeign) hacts
  · intro h hmode hframe hforeign
    exact (rxFrameSoftmac_same_iff hmode hframe).mpr fun hacts => h ⟨hmode, hframe, hforeign, hacts⟩

/-- A linked station that hears a deauthentication between two strangers
starts to associate again. -/
theorem deauth_of_strangers : ¬ ∀ (env : Env) (d : Device Unit) (skb : SkBuff), ForeignInert env d skb := by
  intro h
  let env : Env := ⟨0, true, fun _ => false, ⟨0, 0, 0, 0, 0, 0⟩⟩
  let init := Device.init Unit ⟨250, true⟩ ⟨2, 0, 0, 0, 0, 1⟩
  let d : Device Unit := { init with
    state := .linked
    protoStarted := true
    currentNetwork := { init.currentNetwork with bssid := ⟨2, 0, 0, 0, 0, 5⟩ } }
  let skb := (SkBuff.devAllocSkb 26).put
    (mgmtHdr stypeDeauth 0 d.devAddr ⟨2, 0, 0, 0, 0, 8⟩ ⟨2, 0, 0, 0, 0, 9⟩ ++ [1, 0])
  have hframe : IsAssociationFrame skb := by
    unfold IsAssociationFrame
    decide
  have hforeign : Foreign d skb := Or.inl (by decide)
  have hstate := (h env d skb rfl hframe hforeign).state
  exact absurd hstate (by decide)

end

end Rtl8187

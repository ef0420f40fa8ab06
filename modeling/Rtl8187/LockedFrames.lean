/-
# Sending and receiving, with the locks

The calls of the soft-MAC that send a management frame or react to one, with the
spin locks they take (`ieee80211_softmac.c`, `r8187_core.c`). Each does to the
device what its model without the locks does, and none of them comes to
`ieee->lock` while it holds it. `ieee80211_associate_abort` and
`softmac_mgmt_xmit` take the lock, so who calls them must not hold it;
`ieee80211_sta_wakeup` and the driver's callback do not.

Key definitions: `SpinLock`, `Locked.staWakeup`, `Locked.softmacMgmtXmit`,
`Locked.rxFrameSoftmac`.
Key theorems: `Locked.softmacMgmtXmit_keeps`, `Locked.rxFrameSoftmac_keeps`.
-/
import Rtl8187.Softmac
import Rtl8187.Lib.Locks

namespace Rtl8187

open Bytes Locks Device Call

variable {P : Type}

/-- The spin locks the soft-MAC comes to. -/
inductive SpinLock where
  /-- `ieee->lock` -/
  | ieee
  /-- `ieee->mgmt_tx_lock` -/
  | mgmtTx
  /-- `ieee->beacon_lock` -/
  | beacon
  /-- `priv->tx_lock` of the driver -/
  | tx
  deriving DecidableEq

/-- `IEEE80211_STYPE_NULLFUNC` -/
def stypeNullfunc : UInt16 := 0x0040

/-- `ieee80211_null_func` -/
def nullFunc (alloc : Bool) (d : Device P) (pwr : Bool) : Option SkBuff :=
  let fc := ftypeData ||| stypeNullfunc ||| fctlTods ||| (if pwr then fctlPm else 0)
  let bssid := d.currentNetwork.bssid
  if alloc then some ((SkBuff.devAllocSkb 24).put (mgmtHdr fc 0 bssid d.devAddr bssid)) else none

namespace Locked

/-! ### Handing a frame to the driver -/

/-- `softmac_data_hard_start_xmit`: the driver's `rtl8180_hard_data_xmit`. -/
def dataHardStartXmit (env : Env) (skb : SkBuff) (rate : ℕ) : Call SpinLock (Device P) Unit :=
  locked .tx (act fun d => d.dataHardStartXmit env skb rate)

/-- `softmac_ps_mgmt_xmit` -/
def softmacPsMgmtXmit (env : Env) (skb : SkBuff) : Call SpinLock (Device P) Unit := do
  let d ← read
  act fun d => { d with seqCtrl := nextSeqCtrl d.seqCtrl }
  if d.softmacFeatures.singleQueue then
    dataHardStartXmit env (skb.setSeqCtl d.seqCtrl) d.basicRate
  else
    act fun d' => { d' with handed := d'.handed ++ [.mgmt (skb.setSeqCtl d.seqCtrl)] }

/-- `ieee80211_sta_ps_send_null_frame` -/
def staPsSendNullFrame (env : Env) (pwr : Bool) : Call SpinLock (Device P) Unit := do
  let d ← read
  match nullFunc env.skbAlloc d pwr with
  | none => pure ()
  | some buf => softmacPsMgmtXmit env buf

/-- `ieee80211_sta_wakeup` -/
def staWakeup (env : Env) (nl : Bool) : Call SpinLock (Device P) Unit := do
  let d ← read
  if d.staSleep = 0 then
    onlyIf nl (staPsSendNullFrame env false)
  else
    onlyIf (d.staSleep = 1) (act fun d => d.queueWork .hwWakeup)
    act fun d => { d with staSleep := 0 }
    onlyIf nl (staPsSendNullFrame env false)

/-- `softmac_mgmt_xmit` -/
def softmacMgmtXmit (env : Env) (skb : SkBuff) : Call SpinLock (Device P) Unit := do
  acquire .ieee
  staWakeup env false
  let d ← read
  if d.softmacFeatures.singleQueue then
    if d.queueStop then
      act fun d => { d with mgmtQueue := (d.mgmtQueue.enqueueMgmt skb).2 }
      release .ieee
    else
      act fun d => { d with seqCtrl := nextSeqCtrl d.seqCtrl }
      dataHardStartXmit env (skb.setSeqCtl d.seqCtrl) d.basicRate
      release .ieee
  else
    release .ieee
    acquire .mgmtTx
    act fun d' => { d' with
      seqCtrl := nextSeqCtrl d'.seqCtrl
      handed := d'.handed ++ [.mgmt (skb.setSeqCtl d.seqCtrl)] }
    release .mgmtTx

/-! ### The association procedure -/

/-- `ieee80211_associate_abort` -/
def associateAbort : Call SpinLock (Device P) Unit := locked .ieee (act Rtl8187.associateAbort)

/-- The request of a step of the association, and what comes with it; the
procedure is aborted if there is no buffer. -/
def sendRequest (env : Env) (request : Option (SkBuff × Device P)) : Call SpinLock (Device P) Unit :=
  match request with
  | none => associateAbort
  | some (skb, d) => do
    act fun _ => d
    softmacMgmtXmit env skb
    act (modAssociateTimer env)

/-- `ieee80211_associate_step1` -/
def associateStep1 (env : Env) : Call SpinLock (Device P) Unit := do
  let d ← read
  sendRequest env ((authenticationReq env.skbAlloc d 0).map fun (skb, d) =>
    (skb, { d with state := .associatingAuthenticating }))

/-- `ieee80211_associate_step2` -/
def associateStep2 (env : Env) : Call SpinLock (Device P) Unit := do
  act delAssociateTimer
  let d ← read
  sendRequest env (associationReq env.skbAlloc d)

/-- `ieee80211_auth_challenge` -/
def authChallenge (env : Env) (challenge : List UInt8) : Call SpinLock (Device P) Unit := do
  act fun d => { d with associateSeq := d.associateSeq + 1 }
  let d ← read
  match authenticationReq env.skbAlloc d (challenge.length + 2) with
  | none => associateAbort
  | some (skb, d) =>
    match encryptFragment d (skb.put (infoElement mfieTypeChallenge challenge)) dataHdr3Len with
    | none => act fun _ => d
    | some (_, skb, d) => sendRequest env (some (skb, d))

/-! ### Replies -/

/-- A reply, if it could be built. -/
def xmitReply (env : Env) (reply : Option (SkBuff × Device P)) : Call SpinLock (Device P) Unit :=
  match reply with
  | none => pure ()
  | some (skb, d) => do
    act fun _ => d
    softmacMgmtXmit env skb

/-- `ieee80211_rx_probe_rq` -/
def rxProbeRq (env : Env) (skb : SkBuff) : Call SpinLock (Device P) Unit := do
  let d ← read
  onlyIf (probeRqParse env d skb).1 (xmitReply env (probeResp env.skbAlloc d (probeRqParse env d skb).2))

/-- `ieee80211_rx_auth_rq` -/
def rxAuthRq (env : Env) (skb : SkBuff) : Call SpinLock (Device P) Unit := do
  let d ← read
  match authRqParse skb with
  | none => pure ()
  | some (status, dest) => xmitReply env (authResp env.skbAlloc d status dest)

/-- `ieee80211_rx_assoc_rq` -/
def rxAssocRq (env : Env) (skb : SkBuff) : Call SpinLock (Device P) Unit := do
  let d ← read
  match assocRqParse skb with
  | none => pure ()
  | some dest => xmitReply env (assocResp env.skbAlloc d dest)

/-! ### The handler -/

/-- An association response, in the mode and the state that wait for it. -/
def rxAssocResp (skb : SkBuff) : Call SpinLock (Device P) Unit :=
  if (assocParse skb).1 = wlanStatusSuccess then
    act fun d => associateComplete { d with state := .linked, assocId := (assocParse skb).2 }
  else associateAbort

/-- An authentication response, in the mode and the state that wait for it. -/
def rxAuthResp (env : Env) (skb : SkBuff) : Call SpinLock (Device P) Unit := do
  let d ← read
  if (authParse skb).1 = wlanStatusSuccess then
    match (authParse skb).2 with
    | none => rxAuthOk env
    | some challenge => if d.openWep then rxAuthOk env else authChallenge env challenge
  else associateAbort
where
  /-- The way to `ieee80211_associate_step2`. -/
  rxAuthOk (env : Env) : Call SpinLock (Device P) Unit := do
    act fun d => { d with state := .associatingAuthenticated }
    associateStep2 env

/-- `ieee80211_rx_frame_softmac` -/
def rxFrameSoftmac (env : Env) (skb : SkBuff) : Call SpinLock (Device P) Unit := do
  let d ← read
  let stype := fcStype (frameCtl skb.data)
  if ¬ d.protoStarted then pure ()
  else
    act fun d => notePs env d stype
    let associate := d.softmacFeatures.associate
    if stype = stypeAssocResp ∨ stype = stypeReassocResp then
      onlyIf (associate ∧ d.state = .associatingAuthenticated ∧ d.iwMode = .infra) (rxAssocResp skb)
    else if stype = stypeAssocReq ∨ stype = stypeReassocReq then
      onlyIf (associate ∧ d.iwMode = .master) (rxAssocRq env skb)
    else if stype = stypeAuth then
      onlyIf associate
        (if d.state = .associatingAuthenticating ∧ d.iwMode = .infra then rxAuthResp env skb
        else onlyIf (d.iwMode = .master) (rxAuthRq env skb))
    else if stype = stypeProbeReq then
      onlyIf (d.softmacFeatures.probeRs ∧ (d.iwMode = .adhoc ∨ d.iwMode = .master) ∧ d.state = .linked)
        (rxProbeRq env skb)
    else if stype = stypeDisassoc ∨ stype = stypeDeauth then
      onlyIf (associate ∧ d.state = .linked ∧ d.iwMode = .infra) (act rxDisassoc)
    else pure ()

/-! ### What keeps the discipline -/

section

variable (env : Env) (skb : SkBuff)

theorem dataHardStartXmit_passes (rate : ℕ) :
    Passes .ieee (dataHardStartXmit env skb rate) fun d : Device P => d.dataHardStartXmit env skb rate :=
  fun _ _ => .locked_of_ne (by decide) (.act _)

theorem staWakeup_passes : Passes .ieee (staWakeup env false) (Device.staWakeup : Device P → Device P) := by
  intro d held
  have hquiet : ∀ d : Device P,
      Runs .ieee (onlyIf (false = true) (staPsSendNullFrame env false)) d held () d held := fun d => .pure ()
  unfold staWakeup Device.staWakeup
  refine .bind .read (.ite (fun _ => hquiet d) fun _ => ?_)
  exact .bind (.onlyIf fun _ => .act _) (.bind (.act _) (hquiet _))

/-- `softmac_mgmt_xmit` releases the lock on each of its ways. -/
theorem softmacMgmtXmit_keeps :
    Keeps .ieee (softmacMgmtXmit env skb) fun d : Device P => Rtl8187.softmacMgmtXmit env d skb := by
  intro d
  unfold softmacMgmtXmit Rtl8187.softmacMgmtXmit
  refine .bind .acquire (.bind (staWakeup_passes env d true) (.bind .read ?_))
  dsimp only
  split_ifs
  · exact .bind (.act _) .release
  · exact .bind (.act _) (.bind (dataHardStartXmit_passes env _ _ _ _) .release)
  · refine .bind .release (.bind (.acquire_of_ne (by decide)) ?_)
    exact .bind (.act _) (.release_of_ne (by decide))

theorem associateAbort_keeps :
    Keeps .ieee associateAbort (Rtl8187.associateAbort : Device P → Device P) :=
  (passes_act _).locked

/-- A request is sent without the lock held, or the procedure is aborted without. -/
theorem sendRequest_runs (request : Option (SkBuff × Device P)) (d : Device P) :
    Runs .ieee (sendRequest env request) d false ()
      (match request with
        | none => Rtl8187.associateAbort d
        | some (skb, d) => (Rtl8187.softmacMgmtXmit env d skb).modAssociateTimer env) false := by
  cases request with
  | none => exact associateAbort_keeps d
  | some request => exact .bind (.act _) (.bind (softmacMgmtXmit_keeps env _ _) (.act _))

theorem associateStep2_keeps :
    Keeps .ieee (associateStep2 env) fun d : Device P => Rtl8187.associateStep2 env d :=
  fun _ => .bind (.act _) (.bind .read (sendRequest_runs env _ _))

theorem authChallenge_keeps (challenge : List UInt8) :
    Keeps .ieee (authChallenge env challenge) fun d : Device P => Rtl8187.authChallenge env d challenge := by
  intro d
  unfold authChallenge Rtl8187.authChallenge
  refine .bind (.act _) (.bind .read ?_)
  dsimp only
  cases authenticationReq env.skbAlloc { d with associateSeq := d.associateSeq + 1 } (challenge.length + 2) with
  | none => exact associateAbort_keeps _
  | some request =>
    dsimp only
    cases encryptFragment request.2 (request.1.put (infoElement mfieTypeChallenge challenge)) dataHdr3Len with
    | none => exact .act _
    | some sealed => exact sendRequest_runs env (some sealed.2) _

theorem xmitReply_runs (reply : Option (SkBuff × Device P)) (d : Device P) :
    Runs .ieee (xmitReply env reply) d false () (Rtl8187.xmitReply env d reply) false := by
  cases reply with
  | none => exact .pure ()
  | some reply => exact .bind (.act _) (softmacMgmtXmit_keeps env _ _)

theorem rxProbeRq_keeps :
    Keeps .ieee (rxProbeRq env skb) fun d : Device P => Rtl8187.rxProbeRq env d skb :=
  fun d => .bind .read (.onlyIf fun _ => xmitReply_runs env _ d)

theorem rxAuthRq_keeps :
    Keeps .ieee (rxAuthRq env skb) fun d : Device P => Rtl8187.rxAuthRq env d skb := by
  intro d
  unfold rxAuthRq Rtl8187.rxAuthRq
  refine .bind .read ?_
  cases authRqParse skb with
  | none => exact .pure ()
  | some request => exact xmitReply_runs env _ _

theorem rxAssocRq_keeps :
    Keeps .ieee (rxAssocRq env skb) fun d : Device P => Rtl8187.rxAssocRq env d skb := by
  intro d
  unfold rxAssocRq Rtl8187.rxAssocRq
  refine .bind .read ?_
  cases assocRqParse skb with
  | none => exact .pure ()
  | some dest => exact xmitReply_runs env _ _

theorem rxAssocResp_keeps : Keeps .ieee (rxAssocResp skb) fun d : Device P => Rtl8187.rxAssocResp d skb := by
  intro d
  unfold rxAssocResp Rtl8187.rxAssocResp
  split_ifs
  · exact .act _
  · exact associateAbort_keeps d

theorem rxAuthResp_keeps :
    Keeps .ieee (rxAuthResp env skb) fun d : Device P => Rtl8187.rxAuthResp env d skb := by
  have hok : ∀ d : Device P, Runs .ieee (rxAuthResp.rxAuthOk env) d false ()
      (Rtl8187.associateStep2 env { d with state := .associatingAuthenticated }) false :=
    fun _ => .bind (.act _) (associateStep2_keeps env _)
  intro d
  unfold rxAuthResp Rtl8187.rxAuthResp
  refine .bind .read (.ite (fun _ => ?_) fun _ => associateAbort_keeps d)
  cases (authParse skb).2 with
  | none => exact hok d
  | some challenge => exact .ite (fun _ => hok d) fun _ => authChallenge_keeps env challenge d

/-- **Frame reception.** The handler acts on a frame without the lock held. -/
theorem rxFrameSoftmac_keeps :
    Keeps .ieee (rxFrameSoftmac env skb) fun d : Device P => (Rtl8187.rxFrameSoftmac env d skb).2 := by
  intro d
  unfold rxFrameSoftmac Rtl8187.rxFrameSoftmac
  refine .bind .read ?_
  dsimp only
  iterate 6 rw [apply_ite Prod.snd]
  refine .ite (fun _ => .pure ()) fun _ => .bind (.act _) ?_
  refine .ite (fun _ => .onlyIf fun _ => rxAssocResp_keeps skb _) fun _ => ?_
  refine .ite (fun _ => .onlyIf fun _ => rxAssocRq_keeps env skb _) fun _ => ?_
  refine .ite (fun _ => .onlyIf fun _ => .ite (fun _ => rxAuthResp_keeps env skb _) fun _ => ?_) fun _ => ?_
  · exact .onlyIf fun _ => rxAuthRq_keeps env skb _
  refine .ite (fun _ => .onlyIf fun _ => rxProbeRq_keeps env skb _) fun _ => ?_
  exact .ite (fun _ => .onlyIf fun _ => .act _) fun _ => .pure ()

end

end Locked

end Rtl8187

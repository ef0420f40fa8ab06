/-
# The works and the protocol, with the locks

The calls of the station (`Works`, `StationRun`) with the spin locks they take:
the survey of a received network, the scans, the beacons, the works, and starting
and stopping the protocol. `ieee80211_softmac_new_net` and
`ieee80211_start_scan` run with `ieee->lock` held and take no lock; all that
sends a frame runs without it.

A piece of a job ends where the job waits, so no job waits with `ieee->lock`.

Key definitions: `Locked.onDev`, `Locked.processProbeResponse`,
`Locked.startProtocol`, `Locked.stopProtocol`, `Locked.advance`, `Locked.station`.
Key theorems: `Locked.advance_gives`, `Locked.station_keeps`.
-/
import Rtl8187.StationRun
import Rtl8187.LockedFrames

namespace Rtl8187

open Bytes Locks Call

variable {P : Type}

namespace Locked

/-- A call of the soft-MAC on its device. -/
def onDev {α : Type} (p : Call SpinLock (Device P) α) : Call SpinLock (Station P) α :=
  p.zoom Station.toDevice fun st d => { st with toDevice := d }

/-! ### Received networks -/

/-- `ieee80211_process_probe_response` -/
def processProbeResponse (env : Env) (skb : SkBuff) (stats : RxStats) (stack : HeardNetwork) :
    Call SpinLock (Station P) Unit := do
  let st ← read
  match networkInit env st.toDevice skb stats stack with
  | none => pure ()
  | some net => locked .ieee (act fun st => st.processNetwork env skb (some net))

/-- `ieee80211_softmac_check_all_nets` -/
def checkAllNets : Call SpinLock (Station P) Unit := locked .ieee (act Station.checkAllNets)

/-- The end of `ieee80211_start_bss` and of `ieee80211_associate_retry_wq`: a scan
is started if no network was joined. -/
def scanUnjoined : Call SpinLock (Station P) Unit := do
  acquire .ieee
  let st ← read
  onlyIf (st.state = .nolink) (act Station.startScan)
  release .ieee

/-! ### Scans and beacons -/

/-- `ieee80211_send_probe` -/
def sendProbe (env : Env) : Call SpinLock (Station P) Unit := do
  let st ← read
  onDev (xmitReply env ((probeReq env.skbAlloc st.toDevice).map fun skb => (skb, st.toDevice)))

/-- `ieee80211_send_probe_requests` -/
def sendProbeRequests (env : Env) : Call SpinLock (Station P) Unit := do
  let st ← read
  onlyIf st.activeScan (do
    sendProbe env
    sendProbe env)

/-- A turn of the loop of `ieee80211_softmac_scan_syncro`. -/
def scanTurn (env : Env) (ch : ℕ) : Call SpinLock (Station P) (Option ℕ) := do
  let st ← read
  let out : Call SpinLock (Station P) (Option ℕ) :=
    compute fun st => (none, { st with syncScanHurryup := false })
  match st.nextChannel ch with
  | none => out
  | some ch =>
    if st.state = .linked then out
    else
      sendProbeRequests env
      let st ← read
      if st.syncScanHurryup then out else pure (some ch)

/-- `ieee80211_softmac_scan_wq` -/
def softmacScanWq (env : Env) : Call SpinLock (Station P) Unit := do
  let st ← read
  if ¬ st.scanning then act fun st => { st with scanWatchdog := 0 }
  else
    let next := Station.scanAdvance st.channelMap (maxChannelNumber + 1 - st.scanWatchdog)
      st.currentNetwork.channel.toNat
    act fun st => st.mapDev fun d =>
      { d with currentNetwork := { d.currentNetwork with channel := UInt8.ofNat next.1 } }
    onlyIf next.2 (do
      sendProbeRequests env
      act fun st => st.queueDelayed .softmacScan)
    act fun st => { st with scanWatchdog := 0 }

/-- `ieee80211_send_beacon` -/
def sendBeacon (env : Env) : Call SpinLock (Station P) Unit := do
  let st ← read
  onDev (xmitReply env (getBeacon env.skbAlloc st.toDevice))
  let st ← read
  onlyIf st.beaconTxing (act fun st => { st with beaconTimer := some (env.now + st.beaconDelay) })

/-- `ieee80211_beacons_start`, to which `ieee80211_start_send_beacons` comes. -/
def startSendBeacons (env : Env) : Call SpinLock (Station P) Unit :=
  locked .beacon (do
    act fun st => { st with beaconTxing := true }
    sendBeacon env)

/-- `ieee80211_beacons_stop`, to which `ieee80211_stop_send_beacons` comes. -/
def stopSendBeacons : Call SpinLock (Station P) Unit := locked .beacon (act Station.stopSendBeacons)

/-! ### The protocol -/

/-- `ieee80211_reset_queue` -/
def resetQueue : Call SpinLock (Device P) Unit :=
  locked .ieee (act fun d =>
    { d with mgmtQueue := d.mgmtQueue.resetQueue.2, txPending := none, queueStop := false })

/-- `ieee80211_disassociate` -/
def disassociate : Call SpinLock (Station P) Unit := do
  let st ← read
  onlyIf st.softmacFeatures.txQueue (onDev resetQueue)
  act fun st => { st.mapDev fun d => { d with state := .nolink } with wapSet := false, ssidSet := false }

/-- `ieee80211_stop_protocol` up to `ieee80211_stop_scan`. -/
def stopTimers : Call SpinLock (Station P) Unit := do
  act fun st => st.mapDev fun d => { d with protoStarted := false }
  stopSendBeacons
  act fun st =>
    ((st.mapDev fun d => d.delAssociateTimer).cancelDelayed .associateRetry).cancelDelayed .startIbss

/-- `ieee80211_stop_protocol` from `ieee80211_stop_scan` on. -/
def stopLink : Call SpinLock (Station P) Unit := do
  act Station.stopScan
  disassociate
  act fun st => st.mapDev fun d =>
    { d with currentNetwork := { d.currentNetwork with bssid := ⟨0x22, 0x22, 0x22, 0x22, 0x22, 0x22⟩ } }

/-- `ieee80211_stop_protocol` -/
def stopProtocol : Call SpinLock (Station P) Unit := do
  let st ← read
  if ¬ st.protoStarted then pure ()
  else
    stopTimers
    stopLink

/-- `ieee80211_start_bss` -/
def startBss : Call SpinLock (Station P) Unit := do
  checkAllNets
  scanUnjoined

/-- `ieee80211_start_protocol` once the channel is settled. -/
def startMode : Call SpinLock (Station P) Unit := do
  act fun st => st.mapDev fun d =>
    { d with
      currentNetwork := { d.currentNetwork with
        beaconInterval :=
          if d.currentNetwork.beaconInterval = 0 then 100 else d.currentNetwork.beaconInterval }
      lastSeqNum := 0xFFFF
      lastFragNum := 0xFFFF
      lastPacketTime := 0 }
  let st ← read
  match st.iwMode with
  | .infra => startBss
  | .adhoc => act fun st => st.queueDelayed .startIbss
  | .master => act Station.startMasterBss
  | _ => pure ()

/-- `ieee80211_start_protocol` -/
def startProtocol : Call SpinLock (Station P) Unit := do
  let st ← read
  if st.protoStarted then pure ()
  else
    act fun st => st.mapDev fun d => { d with protoStarted := true }
    if st.currentNetwork.channel = 0 then
      match st.nextChannel 0 with
      | none => pure ()
      | some ch =>
        act fun st => st.mapDev fun d =>
          { d with currentNetwork := { d.currentNetwork with channel := UInt8.ofNat ch } }
        startMode
    else startMode

/-! ### Works and jobs -/

/-- A work begins, up to where it waits first. -/
def beginWork (env : Env) (w : Work) : Call SpinLock (Station P) Unit := do
  let st ← read
  match w with
  | .softmacScan =>
    if st.scanSem then pure ()
    else
      act fun st => st.takeWork w
      softmacScanWq env
  | .wxSyncScan =>
    act fun st => st.takeWork w
    stopSendBeacons
    act fun st' =>
      { st'.mapDev fun d => { d with state := .linkedScanning } with
        syncScanHurryup := false
        jobs := st.jobs ++ [.syncScan 0] }
  | _ => act fun st => Station.beginWork env st w

/-- `ieee80211_associate_procedure_wq` after `set_chan`. -/
def leaveProcedure (env : Env) : Call SpinLock (Station P) (Option Job) := do
  act fun st => st.mapDev fun d => { d with associateSeq := 1 }
  onDev (associateStep1 env)
  compute fun st => (none, { st with wxSem := false })

/-- `ieee80211_associate_retry_wq` once the state is NOLINK. -/
def leaveRetry : Call SpinLock (Station P) (Option Job) := do
  checkAllNets
  scanUnjoined
  compute fun st => (none, { st with wxSem := false })

/-- `ieee80211_start_ibss_wq`, which has `wx_sem`. -/
def enterIbss (env : StationEnv) : Call SpinLock (Station P) (Option Job) := do
  act fun st => { st with wxSem := true }.defaultSsid (Station.defaultTxEssid ++ [0])
  checkAllNets
  compute fun st =>
    if st.state = .nolink then (some (.ibssScan 0), { st with syncScanHurryup := false })
    else (some .ibssBeacons, st.ibssLink env)

/-- `ieee80211_start_ibss_wq` in its scan. -/
def ibssTurn (env : StationEnv) (ch : ℕ) : Call SpinLock (Station P) (Option Job) := do
  match ← scanTurn env.toEnv ch with
  | some ch => pure (some (.ibssScan ch))
  | none => compute fun st => (some .ibssBeacons, st.ibssLink env)

/-- `ieee80211_start_ibss_wq` after `set_chan`. -/
def leaveIbss (env : Env) : Call SpinLock (Station P) (Option Job) := do
  startSendBeacons env
  compute fun st => (none, { st with wxSem := false })

/-- `ieee80211_wx_sync_scan_wq` in its scan. -/
def syncTurn (env : Env) (ch : ℕ) : Call SpinLock (Station P) (Option Job) := do
  match ← scanTurn env ch with
  | some ch => pure (some (.syncScan ch))
  | none => pure (some .syncRestore)

/-- `ieee80211_wx_sync_scan_wq` after `set_chan`. -/
def leaveSync (env : Env) : Call SpinLock (Station P) (Option Job) := do
  act fun st => st.mapDev fun d => { d with state := .linked }
  let st ← read
  onlyIf (st.iwMode = .adhoc ∨ st.iwMode = .master) (startSendBeacons env)
  compute fun st => (none, { st with wxSem := false })

/-- The scan of `r8180_wx_set_scan`. -/
def userTurn (env : Env) (ch : ℕ) : Call SpinLock (Station P) (Option Job) := do
  let next ← scanTurn env ch
  pure (next.map .userScan)

/-- The setting itself: the SSID and the access point are written with the lock held. -/
def applyChange : Change → Call SpinLock (Station P) Unit
  | .mode mode => act fun st => st.applyChange (.mode mode)
  | c => locked .ieee (act fun st => st.applyChange c)

/-- A setting, with the protocol stopped. -/
def leaveChange (c : Change) (restart : Bool) : Call SpinLock (Station P) (Option Job) := do
  applyChange c
  onlyIf restart startProtocol
  compute fun st => (none, { st with wxSem := false })

/-- The setting of the modulation, from `ieee80211_stop_scan` on. -/
def stopModulation (cck ofdm : Bool) : Call SpinLock (Station P) (Option Job) := do
  stopLink
  compute fun st => (some .modulationStart, st.mapDev fun d =>
    { d with cckModulation := cck, ofdmModulation := ofdm })

/-- A job goes on. -/
def advance (env : StationEnv) : Job → Call SpinLock (Station P) (Option Job)
  | .waiting .startIbss => enterIbss env
  | .waiting w => compute fun st => st.advance env (.waiting w)
  | .procedure => leaveProcedure env.toEnv
  | .retry => leaveRetry
  | .ibssScan ch => ibssTurn env ch
  | .ibssBeacons => leaveIbss env.toEnv
  | .syncScan ch => syncTurn env.toEnv ch
  | .syncRestore => leaveSync env.toEnv
  | .userScan ch => userTurn env.toEnv ch
  | .change c restart => leaveChange c restart
  | .modulationStop cck ofdm => stopModulation cck ofdm
  | .modulationStart => do
    startProtocol
    pure none

/-- The job `j`, in place `i`, goes on. -/
def goOn (env : StationEnv) (i : ℕ) (j : Job) : Call SpinLock (Station P) Unit := do
  act fun st => { st with jobs := st.jobs.eraseIdx i }
  let next ← advance env j
  act fun st => { st with jobs := st.jobs ++ next.toList }

/-! ### Frames, timers and requests -/

/-- `ieee80211_rx_frame_mgmt` -/
def rxFrameMgmt (env : Env) (skb : SkBuff) (stats : RxStats) (stack : HeardNetwork) :
    Call SpinLock (Station P) Unit := do
  onlyIf (fcStype (frameCtl skb.data) = stypeBeacon ∨ fcStype (frameCtl skb.data) = stypeProbeResp)
    (processProbeResponse env skb stats stack)
  let st ← read
  if addr1 skb.data ≠ st.devAddr then pure () else onDev (rxFrameSoftmac env skb)

/-- `ieee80211_associate_abort_cb` -/
def associateAbortCb : Call SpinLock (Station P) Unit := do
  let st ← read
  if st.associateTimer = none then pure ()
  else
    act fun st => st.mapDev fun d => d.delAssociateTimer
    onDev associateAbort

/-- `ieee80211_send_beacon_cb` -/
def sendBeaconCb (env : Env) : Call SpinLock (Station P) Unit := do
  let st ← read
  if st.beaconTimer = none then pure ()
  else
    act fun st => { st with beaconTimer := none }
    sendBeacon env

/-- The queue runs a work. -/
def runWork (env : Env) (w : Work) : Call SpinLock (Station P) Unit := do
  let st ← read
  onlyIf (st.runnable w) (beginWork env w)

/-- The job in place `i` goes on, if it can. -/
def resume (env : StationEnv) (i : ℕ) : Call SpinLock (Station P) Unit := do
  let st ← read
  match st.jobs[i]? with
  | none => pure ()
  | some j => onlyIf (st.ready j) (goOn env i j)

/-- `ieee80211_wx_set_essid`, `_set_wap` and `_set_mode` up to where the protocol is stopped. -/
def wxSet (c : Change) (ifup : Bool) : Call SpinLock (Station P) Unit := do
  let st ← read
  let restart : Bool := match c with
    | .wap _ => ifup
    | _ => st.protoStarted
  if st.wxSem || st.scanSem then pure ()
  else
    act fun st => { st with syncScanHurryup := true }
    onlyIf (st.accepts c) (do
      onlyIf restart stopProtocol
      act fun st' => { st' with wxSem := true, jobs := st.jobs ++ [.change c restart] })

/-- The setting of the modulation in `r8180_wx.c`. -/
def setModulation (cck ofdm : Bool) : Call SpinLock (Station P) Unit := do
  let st ← read
  if st.protoStarted then
    stopTimers
    act fun st' => { st' with jobs := st.jobs ++ [.modulationStop cck ofdm] }
  else
    act fun st => st.mapDev fun d => { d with cckModulation := cck, ofdmModulation := ofdm }

/-- `ieee80211_wx_set_freq` on a channel. -/
def setFreq (env : Env) (chan : UInt8) : Call SpinLock (Station P) Unit := do
  let st ← read
  if st.wxSem ∨ st.iwMode = .infra ∨ chan < 1 ∨ 14 < chan then pure ()
  else
    act fun st => st.mapDev fun d => { d with currentNetwork := { d.currentNetwork with channel := chan } }
    onlyIf ((st.iwMode = .adhoc ∨ st.iwMode = .master) ∧ st.state = .linked) (do
      stopSendBeacons
      startSendBeacons env)

/-- `ieee80211_softmac_start_protocol` -/
def softmacStartProtocol : Call SpinLock (Station P) Unit := do
  let st ← read
  if st.wxSem then pure ()
  else
    act fun st => { st with syncScanHurryup := false }
    startProtocol

/-- `ieee80211_softmac_stop_protocol` -/
def softmacStopProtocol : Call SpinLock (Station P) Unit := do
  let st ← read
  if st.wxSem || st.scanSem then pure ()
  else
    act fun st => { st with syncScanHurryup := true }
    stopProtocol

/-- One step of the station. -/
def station : Event P → Call SpinLock (Station P) Unit
  | .rx env skb stats stack => rxFrameMgmt env skb stats stack
  | .associateTimer => associateAbortCb
  | .beaconTimer env => sendBeaconCb env
  | .begin env w => runWork env w
  | .goOn env i => resume env i
  | .request c ifup => wxSet c ifup
  | .setModulation cck ofdm => setModulation cck ofdm
  | .disassociate => disassociate
  | .startProtocol => softmacStartProtocol
  | .stopProtocol => softmacStopProtocol
  | .setFreq env chan => setFreq env chan
  | e => act fun st => st.step e

/-! ### What keeps the discipline -/

section

variable (env : Env)

theorem onDev_keeps {p : Call SpinLock (Device P) Unit} {f : Device P → Device P} (h : Keeps .ieee p f) :
    Keeps .ieee (onDev p) fun st => st.mapDev f := h.zoom

theorem onDev_runs {p : Call SpinLock (Device P) Unit} {st : Station P} {d : Device P}
    (h : Runs .ieee p st.toDevice false () d false) :
    Runs .ieee (onDev p) st false () { st with toDevice := d } false := h.zoom

theorem processProbeResponse_keeps (skb : SkBuff) (stats : RxStats) (stack : HeardNetwork) :
    Keeps .ieee (processProbeResponse env skb stats stack) fun st : Station P =>
      st.processProbeResponse env skb stats stack := by
  intro st
  unfold processProbeResponse Station.processProbeResponse
  refine .bind .read ?_
  beta_reduce
  cases networkInit env st.toDevice skb stats stack with
  | none => exact .pure ()
  | some net =>
    have hpass : Passes SpinLock.ieee _ fun st : Station P => st.processNetwork env skb (some net) := passes_act _
    exact hpass.locked st

theorem checkAllNets_keeps : Keeps .ieee checkAllNets (Station.checkAllNets : Station P → Station P) :=
  (passes_act _).locked

theorem scanUnjoined_keeps : Keeps .ieee scanUnjoined fun st : Station P =>
    if st.state = .nolink then st.startScan else st :=
  fun _ => .bind .acquire (.bind .read (.bind (.onlyIf fun _ => .act _) .release))

theorem sendProbe_keeps : Keeps .ieee (sendProbe env) fun st : Station P => st.sendProbe env :=
  fun _ => .bind .read (onDev_runs (xmitReply_runs env _ _))

theorem sendProbeRequests_keeps :
    Keeps .ieee (sendProbeRequests env) fun st : Station P => st.sendProbeRequests env :=
  fun _ => .bind .read (.onlyIf fun _ => .bind (sendProbe_keeps env _) (sendProbe_keeps env _))

theorem scanTurn_gives (ch : ℕ) : Gives .ieee (scanTurn env ch) fun st : Station P => st.scanTurn env ch := by
  intro st
  unfold scanTurn Station.scanTurn
  refine .bind .read ?_
  beta_reduce
  cases st.nextChannel ch with
  | none => exact .compute _
  | some ch =>
    refine .iteGives (fun _ => .compute _) fun _ => ?_
    refine .bind (sendProbeRequests_keeps env st) (.bind .read ?_)
    exact .iteGives (fun _ => .compute _) fun _ => .pure _

theorem softmacScanWq_keeps : Keeps .ieee (softmacScanWq env) fun st : Station P => st.softmacScanWq env := by
  intro st
  unfold softmacScanWq Station.softmacScanWq
  refine .bind .read (.ite (fun _ => .act _) fun _ => .bind (.act _) (.bind (.onlyIf fun _ => ?_) (.act _)))
  exact .bind (sendProbeRequests_keeps env _) (.act _)

theorem sendBeacon_keeps : Keeps .ieee (sendBeacon env) fun st : Station P => st.sendBeacon env :=
  fun _ => .bind .read (.bind (onDev_runs (xmitReply_runs env _ _)) (.bind .read (.onlyIf fun _ => .act _)))

theorem startSendBeacons_keeps :
    Keeps .ieee (startSendBeacons env) fun st : Station P => st.startSendBeacons env :=
  fun _ => .locked_of_ne (by decide) (.bind (.act _) (sendBeacon_keeps env _))

theorem stopSendBeacons_keeps :
    Keeps .ieee stopSendBeacons (Station.stopSendBeacons : Station P → Station P) :=
  fun _ => .locked_of_ne (by decide) (.act _)

theorem disassociate_keeps : Keeps .ieee disassociate (Station.disassociate : Station P → Station P) := by
  intro st
  unfold disassociate Station.disassociate Rtl8187.disassociate
  refine .bind .read ?_
  by_cases htx : st.softmacFeatures.txQueue = true
  · simp only [htx, if_true, onlyIf, Station.mapDev]
    exact .bind (onDev_keeps (passes_act _).locked st) (.act _)
  · simp only [htx, onlyIf, Station.mapDev]
    exact .bind (.pure ()) (.act _)

theorem stopTimers_keeps : Keeps .ieee stopTimers (Station.stopTimers : Station P → Station P) :=
  fun _ => .bind (.act _) (.bind (stopSendBeacons_keeps _) (.act _))

theorem stopLink_keeps : Keeps .ieee stopLink (Station.stopLink : Station P → Station P) :=
  fun _ => .bind (.act _) (.bind (disassociate_keeps _) (.act _))

theorem stopProtocol_keeps : Keeps .ieee stopProtocol (Station.stopProtocol : Station P → Station P) :=
  fun _ => .bind .read (.ite (fun _ => .pure ()) fun _ => .bind (stopTimers_keeps _) (stopLink_keeps _))

theorem startBss_keeps : Keeps .ieee startBss (Station.startBss : Station P → Station P) :=
  fun _ => .bind (checkAllNets_keeps _) (scanUnjoined_keeps _)

theorem startMode_keeps : Keeps .ieee startMode (Station.startMode : Station P → Station P) := by
  intro st
  unfold startMode Station.startMode
  refine .bind (.act _) (.bind .read ?_)
  dsimp only [Station.mapDev_toDevice]
  cases st.iwMode with
  | infra => exact startBss_keeps _
  | adhoc => exact .act _
  | master => exact .act _
  | _ => exact .pure ()

theorem startProtocol_keeps : Keeps .ieee startProtocol (Station.startProtocol : Station P → Station P) := by
  intro st
  unfold startProtocol Station.startProtocol
  refine .bind .read (.ite (fun _ => .pure ()) fun _ => .bind (.act _) (.ite (fun _ => ?_) fun _ => ?_))
  · have hnext : (st.mapDev fun d => { d with protoStarted := true }).nextChannel 0 = st.nextChannel 0 := rfl
    rw [hnext]
    cases st.nextChannel 0 with
    | none => exact .pure ()
    | some ch => exact .bind (.act _) (startMode_keeps _)
  · exact startMode_keeps _

/-! The pieces of the jobs. -/

theorem associateStep1_keeps :
    Keeps .ieee (associateStep1 env) fun d : Device P => Rtl8187.associateStep1 env d := by
  intro d
  unfold associateStep1 Rtl8187.associateStep1
  refine .bind .read ?_
  beta_reduce
  cases authenticationReq env.skbAlloc d 0 with
  | none => exact associateAbort_keeps d
  | some request =>
    exact sendRequest_runs env (some (request.1, { request.2 with state := .associatingAuthenticating })) d

theorem beginWork_keeps (w : Work) : Keeps .ieee (beginWork env w) fun st : Station P => st.beginWork env w := by
  intro st
  unfold beginWork
  refine .bind .read ?_
  cases w with
  | softmacScan => exact .ite (fun _ => .pure ()) fun _ => .bind (.act _) (softmacScanWq_keeps env _)
  | wxSyncScan => exact .bind (.act _) (.bind (stopSendBeacons_keeps _) (.act _))
  | _ => exact .act _

theorem leaveProcedure_gives :
    Gives .ieee (leaveProcedure env) fun st : Station P => st.leaveProcedure env :=
  fun _ => .bind (.act _) (.bind (onDev_keeps (associateStep1_keeps env) _) (.compute _))

theorem leaveRetry_gives : Gives .ieee leaveRetry (Station.leaveRetry : Station P → _) :=
  fun _ => .bind (checkAllNets_keeps _) (.bind (scanUnjoined_keeps _) (.compute _))

theorem enterIbss_gives (env : StationEnv) :
    Gives .ieee (enterIbss env) fun st : Station P => st.enterIbss env :=
  fun _ => .bind (.act _) (.bind (checkAllNets_keeps _) (.compute _))

theorem ibssTurn_gives (env : StationEnv) (ch : ℕ) :
    Gives .ieee (ibssTurn env ch) fun st : Station P => st.ibssTurn env ch := by
  intro st
  unfold ibssTurn Station.ibssTurn
  refine .bind (scanTurn_gives env.toEnv ch st) ?_
  beta_reduce
  cases st.scanTurn env.toEnv ch with
  | mk next st' =>
    cases next with
    | none => exact .compute _
    | some ch => exact .pure _

theorem leaveIbss_gives : Gives .ieee (leaveIbss env) fun st : Station P => st.leaveIbss env :=
  fun _ => .bind (startSendBeacons_keeps env _) (.compute _)

theorem syncTurn_gives (ch : ℕ) : Gives .ieee (syncTurn env ch) fun st : Station P => st.syncTurn env ch := by
  intro st
  unfold syncTurn Station.syncTurn
  refine .bind (scanTurn_gives env ch st) ?_
  beta_reduce
  cases st.scanTurn env ch with
  | mk next st' =>
    cases next with
    | none => exact .pure _
    | some ch => exact .pure _

theorem leaveSync_gives : Gives .ieee (leaveSync env) fun st : Station P => st.leaveSync env :=
  fun _ => .bind (.act _) (.bind .read (.bind (.onlyIf fun _ => startSendBeacons_keeps env _) (.compute _)))

theorem userTurn_gives (ch : ℕ) : Gives .ieee (userTurn env ch) fun st : Station P => st.userTurn env ch :=
  fun _ => .bind (scanTurn_gives env ch _) (.pure _)

theorem applyChange_keeps (c : Change) :
    Keeps .ieee (applyChange c) fun st : Station P => st.applyChange c := by
  cases c with
  | essid flags extra => exact (passes_act fun st : Station P => st.applyChange (.essid flags extra)).locked
  | wap addr => exact (passes_act fun st : Station P => st.applyChange (.wap addr)).locked
  | mode mode => exact (passes_act fun st : Station P => st.applyChange (.mode mode)).keeps

theorem leaveChange_gives (c : Change) (restart : Bool) :
    Gives .ieee (leaveChange c restart) fun st : Station P => st.leaveChange c restart :=
  fun _ => .bind (applyChange_keeps c _) (.bind (.onlyIf fun _ => startProtocol_keeps _) (.compute _))

theorem stopModulation_gives (cck ofdm : Bool) :
    Gives .ieee (stopModulation cck ofdm) fun st : Station P => st.stopModulation cck ofdm :=
  fun _ => .bind (stopLink_keeps _) (.compute _)

/-- **The jobs.** Each piece of a job starts and ends without the lock. -/
theorem advance_gives (env : StationEnv) (j : Job) :
    Gives .ieee (advance env j) fun st : Station P => st.advance env j := by
  cases j with
  | waiting w =>
    cases w with
    | startIbss => exact enterIbss_gives env
    | _ => exact fun _ => .compute _
  | procedure => exact leaveProcedure_gives env.toEnv
  | retry => exact leaveRetry_gives
  | ibssScan ch => exact ibssTurn_gives env ch
  | ibssBeacons => exact leaveIbss_gives env.toEnv
  | syncScan ch => exact syncTurn_gives env.toEnv ch
  | syncRestore => exact leaveSync_gives env.toEnv
  | userScan ch => exact userTurn_gives env.toEnv ch
  | change c restart => exact leaveChange_gives c restart
  | modulationStop cck ofdm => exact stopModulation_gives cck ofdm
  | modulationStart => exact fun _ => .bind (startProtocol_keeps _) (.pure _)

theorem goOn_keeps (env : StationEnv) (i : ℕ) (j : Job) :
    Keeps .ieee (goOn env i j) fun st : Station P => st.goOn env i j :=
  fun _ => .bind (.act _) (.bind (advance_gives env j _) (.act _))

/-! The steps. -/

theorem rxFrameMgmt_keeps (skb : SkBuff) (stats : RxStats) (stack : HeardNetwork) :
    Keeps .ieee (rxFrameMgmt env skb stats stack) fun st : Station P => st.rxFrameMgmt env skb stats stack :=
  fun _ => .bind (.onlyIf fun _ => processProbeResponse_keeps env skb stats stack _)
    (.bind .read (.ite (fun _ => .pure ()) fun _ => onDev_keeps (rxFrameSoftmac_keeps env skb) _))

theorem associateAbortCb_keeps :
    Keeps .ieee associateAbortCb (Station.associateAbortCb : Station P → Station P) :=
  fun _ => .bind .read (.ite (fun _ => .pure ()) fun _ => .bind (.act _) (onDev_keeps associateAbort_keeps _))

theorem sendBeaconCb_keeps : Keeps .ieee (sendBeaconCb env) fun st : Station P => st.sendBeaconCb env :=
  fun _ => .bind .read (.ite (fun _ => .pure ()) fun _ => .bind (.act _) (sendBeacon_keeps env _))

theorem runWork_keeps (w : Work) : Keeps .ieee (runWork env w) fun st : Station P => st.runWork env w :=
  fun _ => .bind .read (.onlyIf fun _ => beginWork_keeps env w _)

theorem resume_keeps (env : StationEnv) (i : ℕ) :
    Keeps .ieee (resume env i) fun st : Station P => st.resume env i := by
  intro st
  unfold resume Station.resume
  refine .bind .read ?_
  beta_reduce
  cases st.jobs[i]? with
  | none => exact .pure ()
  | some j => exact .onlyIf fun _ => goOn_keeps env i j st

theorem wxSet_keeps (c : Change) (ifup : Bool) :
    Keeps .ieee (wxSet c ifup) fun st : Station P => st.wxSet c ifup := by
  intro st
  unfold wxSet Station.wxSet Station.request
  refine .bind .read (.ite (fun _ => .pure ()) fun _ => .bind (.act _) ?_)
  exact .onlyIf fun _ => .bind (.onlyIf fun _ => stopProtocol_keeps _) (.act _)

theorem setModulation_keeps (cck ofdm : Bool) :
    Keeps .ieee (setModulation cck ofdm) fun st : Station P => st.setModulation cck ofdm :=
  fun _ => .bind .read (.ite (fun _ => .bind (stopTimers_keeps _) (.act _)) fun _ => .act _)

theorem setFreq_keeps (chan : UInt8) :
    Keeps .ieee (setFreq env chan) fun st : Station P => st.setFreq env chan := by
  intro st
  unfold setFreq Station.setFreq
  refine .bind .read (.ite (fun _ => .pure ()) fun _ => .bind (.act _) ?_)
  exact .onlyIf fun _ => .bind (stopSendBeacons_keeps _) (startSendBeacons_keeps env _)

theorem softmacStartProtocol_keeps :
    Keeps .ieee softmacStartProtocol (Station.softmacStartProtocol : Station P → Station P) :=
  fun _ => .bind .read (.ite (fun _ => .pure ()) fun _ => .bind (.act _) (startProtocol_keeps _))

theorem softmacStopProtocol_keeps :
    Keeps .ieee softmacStopProtocol (Station.softmacStopProtocol : Station P → Station P) :=
  fun _ => .bind .read (.ite (fun _ => .pure ()) fun _ => .bind (.act _) (stopProtocol_keeps _))

/-- **The station.** A step with the locks does what the step does, and keeps the
discipline of `ieee->lock`. -/
theorem station_keeps (e : Event P) : Keeps .ieee (station e) fun st => st.step e := by
  cases e with
  | rx env skb stats stack => exact rxFrameMgmt_keeps env skb stats stack
  | associateTimer => exact associateAbortCb_keeps
  | beaconTimer env => exact sendBeaconCb_keeps env
  | begin env w => exact runWork_keeps env w
  | goOn env i => exact resume_keeps env i
  | request c ifup => exact wxSet_keeps c ifup
  | setModulation cck ofdm => exact setModulation_keeps cck ofdm
  | disassociate => exact disassociate_keeps
  | startProtocol => exact softmacStartProtocol_keeps
  | stopProtocol => exact softmacStopProtocol_keeps
  | setFreq env chan => exact setFreq_keeps env chan
  | _ => exact fun _ => .act _

end

end Locked

end Rtl8187

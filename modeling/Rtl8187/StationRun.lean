/-
# The station step by step

What may happen to a station, in any order: a received management frame, a
timer, a delay that is over, a work that begins, a job that goes on from where
it waited, a request of the user. An event that cannot happen (its semaphore
is held, its work is not pending) changes nothing; a call that has to wait for
a semaphore happens when it gets it.

Key definitions: `Event`, `beginWork`, `advance`, `step`, `Reachable`.
-/
import Rtl8187.Works

namespace Rtl8187

open Bytes

variable {P : Type}

/-- What the rest of the driver does to the device (data frames, keys, power
save): nothing to the association. -/
structure Bystander (P : Type) where
  run : Device P → Device P
  state_eq : ∀ d, (run d).state = d.state
  iwMode_eq : ∀ d, (run d).iwMode = d.iwMode
  syncScan_eq : ∀ d, (run d).works.count .wxSyncScan = d.works.count .wxSyncScan

/-- What may happen to a station. -/
inductive Event (P : Type) where
  | rx (env : Env) (skb : SkBuff) (stats : RxStats) (stack : HeardNetwork)
  | associateTimer
  | beaconTimer (env : Env)
  | delayOver (w : Work)
  | begin (env : Env) (w : Work)
  | goOn (env : StationEnv) (i : ℕ)
  | hurry
  | request (c : Change) (ifup : Bool)
  | setModulation (cck ofdm : Bool)
  | wxSetScan
  | userScan
  | scanEssid (essid : List UInt8)
  | disassociate
  | startProtocol
  | stopProtocol
  | down
  | setFreq (env : Env) (chan : UInt8)
  | supplicantAdhoc
  | other (act : Bystander P)

namespace Station

/-! ### Works and jobs -/

/-- A work begins, up to where it waits first. -/
def beginWork (env : Env) (st : Station P) (w : Work) : Station P :=
  let taken := st.takeWork w
  match w with
  | .softmacScan => if st.scanSem then st else softmacScanWq env taken
  | .startIbss => { taken with jobs := st.jobs ++ [.waiting .startIbss] }
  | .associateRetry => { taken with jobs := st.jobs ++ [.waiting .associateRetry] }
  | .associateComplete => taken.mapDev associateCompleteWq
  | .associateProcedure =>
    { taken with syncScanHurryup := true, jobs := st.jobs ++ [.waiting .associateProcedure] }
  | .wxSyncScan =>
    { taken.stopSendBeacons.mapDev fun d => { d with state := .linkedScanning } with
      syncScanHurryup := false
      jobs := st.jobs ++ [.syncScan 0] }
  | .hwWakeup => taken
  | .hwSleep => taken

/-- What the job waits for is there. -/
def ready (st : Station P) : Job → Bool
  | .waiting .associateProcedure => !st.wxSem && !st.scanSem
  | .waiting _ => !st.wxSem
  | .ibssScan ch => ch != 0 || !st.scanSem
  | .syncScan ch => ch != 0 || !st.scanSem
  | .userScan ch => ch != 0 || !st.scanSem
  | .modulationStop _ _ => !st.scanSem
  | _ => true

/-! The pieces of the jobs: where each waits next, if it does not end. -/

/-- `ieee80211_associate_procedure_wq`, which has `wx_sem`. -/
def enterProcedure (st : Station P) : Option Job × Station P :=
  (some .procedure, { st with wxSem := true }.stopScan)

/-- `ieee80211_associate_procedure_wq` after `set_chan`. -/
def leaveProcedure (env : Env) (st : Station P) : Option Job × Station P :=
  (none, { st.mapDev fun d => associateStep1 env { d with associateSeq := 1 } with wxSem := false })

/-- `ieee80211_associate_retry_wq`, which has `wx_sem`. -/
def enterRetry (st : Station P) : Option Job × Station P :=
  if st.protoStarted ∧ st.state = .associatingRetry then
    (some .retry, { st.mapDev fun d => { d with state := .nolink } with wxSem := true })
  else (none, st)

/-- `ieee80211_associate_retry_wq` once the state is NOLINK. -/
def leaveRetry (st : Station P) : Option Job × Station P :=
  let st := st.checkAllNets
  (none, { if st.state = .nolink then st.startScan else st with wxSem := false })

/-- `ieee80211_start_ibss_wq`, which has `wx_sem`. -/
def enterIbss (env : StationEnv) (st : Station P) : Option Job × Station P :=
  let st := ({ st with wxSem := true }.defaultSsid (defaultTxEssid ++ [0])).checkAllNets
  if st.state = .nolink then (some (.ibssScan 0), { st with syncScanHurryup := false })
  else (some .ibssBeacons, ibssLink env st)

/-- `ieee80211_start_ibss_wq` in its scan. -/
def ibssTurn (env : StationEnv) (st : Station P) (ch : ℕ) : Option Job × Station P :=
  match scanTurn env.toEnv st ch with
  | (some ch, st) => (some (.ibssScan ch), st)
  | (none, st) => (some .ibssBeacons, ibssLink env st)

/-- `ieee80211_start_ibss_wq` after `set_chan`. -/
def leaveIbss (env : Env) (st : Station P) : Option Job × Station P :=
  (none, { startSendBeacons env st with wxSem := false })

/-- `ieee80211_wx_sync_scan_wq` in its scan. -/
def syncTurn (env : Env) (st : Station P) (ch : ℕ) : Option Job × Station P :=
  match scanTurn env st ch with
  | (some ch, st) => (some (.syncScan ch), st)
  | (none, st) => (some .syncRestore, st)

/-- `ieee80211_wx_sync_scan_wq` after `set_chan`. -/
def leaveSync (env : Env) (st : Station P) : Option Job × Station P :=
  let st := st.mapDev fun d => { d with state := .linked }
  (none, { if st.iwMode = .adhoc ∨ st.iwMode = .master then startSendBeacons env st else st with
    wxSem := false })

/-- The scan of `r8180_wx_set_scan`. -/
def userTurn (env : Env) (st : Station P) (ch : ℕ) : Option Job × Station P :=
  ((scanTurn env st ch).1.map .userScan, (scanTurn env st ch).2)

/-- A setting, with the protocol stopped. -/
def leaveChange (st : Station P) (c : Change) (restart : Bool) : Option Job × Station P :=
  (none, { if restart then (st.applyChange c).startProtocol else st.applyChange c with wxSem := false })

/-- The setting of the modulation, from `ieee80211_stop_scan` on. -/
def stopModulation (st : Station P) (cck ofdm : Bool) : Option Job × Station P :=
  (some .modulationStart, st.stopLink.mapDev fun d =>
    { d with cckModulation := cck, ofdmModulation := ofdm })

/-- A job goes on. -/
def advance (env : StationEnv) (st : Station P) : Job → Option Job × Station P
  | .waiting .associateProcedure => enterProcedure st
  | .waiting .associateRetry => enterRetry st
  | .waiting .startIbss => enterIbss env st
  | .waiting _ => (none, st)
  | .procedure => leaveProcedure env.toEnv st
  | .retry => leaveRetry st
  | .ibssScan ch => ibssTurn env st ch
  | .ibssBeacons => leaveIbss env.toEnv st
  | .syncScan ch => syncTurn env.toEnv st ch
  | .syncRestore => leaveSync env.toEnv st
  | .userScan ch => userTurn env.toEnv st ch
  | .change c restart => leaveChange st c restart
  | .modulationStop cck ofdm => stopModulation st cck ofdm
  | .modulationStart => (none, st.startProtocol)

/-- The job `j`, in place `i`, goes on. -/
def goOn (env : StationEnv) (st : Station P) (i : ℕ) (j : Job) : Station P :=
  let next := advance env { st with jobs := st.jobs.eraseIdx i } j
  { next.2 with jobs := next.2.jobs ++ next.1.toList }

/-! ### Frames and requests -/

/-- `ieee80211_rx_mgt` -/
def rxMgt (env : Env) (st : Station P) (skb : SkBuff) (stats : RxStats) (stack : HeardNetwork) :
    Station P :=
  if fcStype (frameCtl skb.data) = stypeBeacon ∨ fcStype (frameCtl skb.data) = stypeProbeResp then
    processProbeResponse env st skb stats stack
  else st

/-- `ieee80211_rx_frame_mgmt` -/
def rxFrameMgmt (env : Env) (st : Station P) (skb : SkBuff) (stats : RxStats) (stack : HeardNetwork) :
    Station P :=
  let st := rxMgt env st skb stats stack
  if addr1 skb.data ≠ st.devAddr then st else st.mapDev fun d => (rxFrameSoftmac env d skb).2

/-- `ieee80211_wx_set_essid`, `_set_wap` and `_set_mode` up to where the
protocol is stopped. `_set_wap` has looked at `proto_started` before it waited
for `wx_sem`. -/
def request (st : Station P) (c : Change) (ifup : Bool) : Station P :=
  let restart := match c with
    | .wap _ => ifup
    | _ => st.protoStarted
  let hurried := { st with syncScanHurryup := true }
  if st.accepts c then
    let stopped := if restart then hurried.stopProtocol else hurried
    { stopped with wxSem := true, jobs := st.jobs ++ [.change c restart] }
  else hurried

/-- The setting of the modulation in `r8180_wx.c`, which does not take
`wx_sem`. -/
def setModulation (st : Station P) (cck ofdm : Bool) : Station P :=
  if st.protoStarted then { st.stopTimers with jobs := st.jobs ++ [.modulationStop cck ofdm] }
  else st.mapDev fun d => { d with cckModulation := cck, ofdmModulation := ofdm }

/-- `ieee80211_wx_set_scan`, which keeps `wx_sem` for the work it queues. -/
def wxSetScan (st : Station P) : Station P :=
  if ¬ st.wxSem ∧ st.iwMode ≠ .monitor ∧ st.protoStarted ∧ st.state = .linked ∧
      Work.wxSyncScan ∉ st.works then
    { st.mapDev fun d => { d with works := d.works ++ [.wxSyncScan] } with wxSem := true }
  else st

/-- `ieee80211_wx_set_freq` on a channel. -/
def setFreq (env : Env) (st : Station P) (chan : UInt8) : Station P :=
  if st.wxSem ∨ st.iwMode = .infra ∨ chan < 1 ∨ 14 < chan then st
  else
    let st := st.mapDev fun d => { d with currentNetwork := { d.currentNetwork with channel := chan } }
    if (st.iwMode = .adhoc ∨ st.iwMode = .master) ∧ st.state = .linked then
      startSendBeacons env st.stopSendBeacons
    else st

/-! ### Steps -/

/-- `ieee80211_associate_abort_cb`, when the timer expires. -/
def associateAbortCb (st : Station P) : Station P :=
  if st.associateTimer = none then st else st.mapDev fun d => associateAbort d.delAssociateTimer

/-- `ieee80211_send_beacon_cb`, when the timer expires. -/
def sendBeaconCb (env : Env) (st : Station P) : Station P :=
  if st.beaconTimer = none then st else sendBeacon env { st with beaconTimer := none }

/-- The delay of a work is over. -/
def delayOver (st : Station P) (w : Work) : Station P :=
  if w.delayed ∧ w ∈ st.works ∧ w ∉ st.due then { st with due := st.due ++ [w] } else st

/-- The queue runs a work. -/
def runWork (env : Env) (st : Station P) (w : Work) : Station P :=
  if st.runnable w then beginWork env st w else st

/-- The job in place `i` goes on, if it can. -/
def resume (env : StationEnv) (st : Station P) (i : ℕ) : Station P :=
  match st.jobs[i]? with
  | none => st
  | some j => if st.ready j then goOn env st i j else st

/-- A setting, once the semaphores are free. -/
def wxSet (st : Station P) (c : Change) (ifup : Bool) : Station P :=
  if st.wxSem || st.scanSem then st else st.request c ifup

/-- The scan of `r8180_wx_set_scan` begins. -/
def startUserScan (st : Station P) : Station P :=
  if st.state = .linked then st
  else { st with scanning := false, syncScanHurryup := false, jobs := st.jobs ++ [.userScan 0] }

/-- `r8180_wx_set_scan` asked to look for an SSID. One of more than 33 bytes makes
`ssidBuf` longer here, with the length asked for; the copy of the source runs over the
fields behind the array, `ssid_len` first, which is then the 34th byte copied. Either way
it has left the array. -/
def scanEssid (st : Station P) (essid : List UInt8) : Station P :=
  if essid = [] then st
  else st.setCurrent (st.current.setSsid (essid ++ st.current.ssidBuf.drop essid.length) essid.length)

/-- `ieee80211_softmac_start_protocol` -/
def softmacStartProtocol (st : Station P) : Station P :=
  if st.wxSem then st else { st with syncScanHurryup := false }.startProtocol

/-- `ieee80211_softmac_stop_protocol` -/
def softmacStopProtocol (st : Station P) : Station P :=
  if st.wxSem || st.scanSem then st else { st with syncScanHurryup := true }.stopProtocol

/-- The end of `rtl8180_down`. -/
def clearNetwork (st : Station P) : Station P :=
  (st.setCurrent .zeroed).mapDev fun d => { d with state := .nolink }

/-- The supplicant sets a pairwise key while no access point is known. -/
def supplicantAdhoc (st : Station P) : Station P :=
  if st.wxSem ∨ st.apMacAddr ≠ ⟨0, 0, 0, 0, 0, 0⟩ then st
  else st.mapDev fun d => { d with iwMode := .adhoc }

/-- One step. -/
def step (st : Station P) : Event P → Station P
  | .rx env skb stats stack => rxFrameMgmt env st skb stats stack
  | .associateTimer => st.associateAbortCb
  | .beaconTimer env => sendBeaconCb env st
  | .delayOver w => st.delayOver w
  | .begin env w => runWork env st w
  | .goOn env i => resume env st i
  | .hurry => { st with syncScanHurryup := true }
  | .request c ifup => st.wxSet c ifup
  | .setModulation cck ofdm => st.setModulation cck ofdm
  | .wxSetScan => st.wxSetScan
  | .userScan => st.startUserScan
  | .scanEssid essid => st.scanEssid essid
  | .disassociate => st.disassociate
  | .startProtocol => st.softmacStartProtocol
  | .stopProtocol => st.softmacStopProtocol
  | .down => st.clearNetwork
  | .setFreq env chan => setFreq env st chan
  | .supplicantAdhoc => st.supplicantAdhoc
  | .other act => st.mapDev act.run

/-- A run from the driver's set-up leads to the station. -/
def Reachable (st : Station P) : Prop :=
  ∃ kernel devAddr channelMap es, st = Run.run step (init P kernel devAddr channelMap) es

end Station

end Rtl8187

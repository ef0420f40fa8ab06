/-
# The works and the protocol

What `ieee80211_softmac.c` and `ieee80211_softmac_wx.c` do outside the receive
path: the scans, the beacons, the bodies of the works, and starting and
stopping the protocol. A body that waits or sleeps is cut there; the pieces
are put together by the station's steps.

`cancel_delayed_work` cancels a work only while its delay lasts: once the
delay is over (`due`), the work runs.

Key definitions: `queueDelayed`, `cancelDelayed`, `scanTurn`,
`softmacScanWq`, `sendBeacon`, `associateStep1`, `ibssLink`, `stopProtocol`,
`startProtocol`, `applyChange`.
-/
import Rtl8187.Join
import Rtl8187.Rx

namespace Rtl8187

open Bytes

variable {P : Type}

/-- What the moment of a step settles, with the bytes `get_random_bytes` gives. -/
structure StationEnv extends Env where
  random : Mac

/-- The works that are queued with a delay. -/
def Work.delayed : Work → Bool
  | .softmacScan => true
  | .startIbss => true
  | .associateRetry => true
  | _ => false

/-- `ieee80211_associate_step1` -/
def associateStep1 (env : Env) (d : Device P) : Device P :=
  match authenticationReq env.skbAlloc d 0 with
  | none => associateAbort d
  | some (skb, d) =>
    (softmacMgmtXmit env { d with state := .associatingAuthenticating } skb).modAssociateTimer env

/-- `ieee80211_associate_complete_wq` -/
def associateCompleteWq (d : Device P) : Device P :=
  { d with rate := if d.currentNetwork.is54g && d.ofdmModulation then 540 else 110 }

namespace Station

/-! ### Queued works -/

/-- `queue_delayed_work` with a delay. -/
def queueDelayed (st : Station P) (w : Work) : Station P := st.mapDev (·.queueWork w)

/-- `queue_delayed_work` without a delay. -/
def queueNow (st : Station P) (w : Work) : Station P :=
  if w ∈ st.works then st else { st.queueDelayed w with due := st.due ++ [w] }

/-- `cancel_delayed_work` -/
def cancelDelayed (st : Station P) (w : Work) : Station P :=
  if w ∈ st.due then st else st.mapDev fun d => { d with works := d.works.filter (· ≠ w) }

/-- The work is pending, and its delay, if it has one, is over. -/
def runnable (st : Station P) (w : Work) : Bool := w ∈ st.works && (!w.delayed || w ∈ st.due)

/-- A work that begins to run is pending no longer. -/
def takeWork (st : Station P) (w : Work) : Station P :=
  { st.mapDev fun d => { d with works := d.works.filter (· ≠ w) } with due := st.due.filter (· ≠ w) }

/-! ### Scans -/

/-- `ieee80211_send_probe` -/
def sendProbe (env : Env) (st : Station P) : Station P :=
  st.mapDev fun d => xmitReply env d ((probeReq env.skbAlloc d).map fun skb => (skb, d))

/-- `ieee80211_send_probe_requests` -/
def sendProbeRequests (env : Env) (st : Station P) : Station P :=
  if st.activeScan then sendProbe env (sendProbe env st) else st

/-- The next channel of a syncro scan, from `ch` on. -/
def nextChannel (st : Station P) (ch : ℕ) : Option ℕ :=
  (List.range' (ch + 1) (maxChannelNumber - ch)).find? st.channelMap

/-- A turn of the loop of `ieee80211_softmac_scan_syncro`: the channel at which
it sleeps, if it does not leave the loop. -/
def scanTurn (env : Env) (st : Station P) (ch : ℕ) : Option ℕ × Station P :=
  match st.nextChannel ch with
  | none => (none, { st with syncScanHurryup := false })
  | some ch =>
    if st.state = .linked then (none, { st with syncScanHurryup := false })
    else
      let st := sendProbeRequests env st
      if st.syncScanHurryup then (none, { st with syncScanHurryup := false }) else (some ch, st)

/-- The loop of `ieee80211_softmac_scan_wq`, with so many turns left before the
watchdog: the channel, and whether it is an allowed one. -/
def scanAdvance (channelMap : ℕ → Bool) : ℕ → ℕ → ℕ × Bool
  | 0, chan => ((chan + 1) % maxChannelNumber, false)
  | turns + 1, chan =>
    let chan := (chan + 1) % maxChannelNumber
    if channelMap chan then (chan, true) else scanAdvance channelMap turns chan

/-- `ieee80211_softmac_scan_wq` -/
def softmacScanWq (env : Env) (st : Station P) : Station P :=
  if ¬ st.scanning then { st with scanWatchdog := 0 }
  else
    let next := scanAdvance st.channelMap (maxChannelNumber + 1 - st.scanWatchdog)
      st.currentNetwork.channel.toNat
    let st := st.mapDev fun d =>
      { d with currentNetwork := { d.currentNetwork with channel := UInt8.ofNat next.1 } }
    let st := if next.2 then (sendProbeRequests env st).queueDelayed .softmacScan else st
    { st with scanWatchdog := 0 }

/-- `ieee80211_softmac_stop_scan` -/
def stopScan (st : Station P) : Station P :=
  if st.scanning then { st.cancelDelayed .softmacScan with scanning := false, scanWatchdog := 0 } else st

/-- `ieee80211_start_scan` -/
def startScan (st : Station P) : Station P :=
  if st.scanning then st else { st with scanning := true }.queueNow .softmacScan

/-! ### Beacons -/

/-- `MSECS(current_network.beacon_interval - 5)`, as an unsigned number of ticks. -/
def beaconDelay (st : Station P) : UInt64 :=
  let t : Int := (st.currentNetwork.beaconInterval.toNat : Int) - 5
  let hz : Int := st.kernel.hz.toNat
  UInt64.ofInt (hz * t.tdiv 1000 + (hz * t.tmod 1000).tdiv 1000)

/-- `ieee80211_send_beacon` -/
def sendBeacon (env : Env) (st : Station P) : Station P :=
  let st := st.mapDev fun d => xmitReply env d (getBeacon env.skbAlloc d)
  if st.beaconTxing then { st with beaconTimer := some (env.now + st.beaconDelay) } else st

/-- `ieee80211_start_send_beacons` -/
def startSendBeacons (env : Env) (st : Station P) : Station P :=
  sendBeacon env { st with beaconTxing := true }

/-- `ieee80211_stop_send_beacons` -/
def stopSendBeacons (st : Station P) : Station P :=
  { st with beaconTxing := false, beaconTimer := none }

/-! ### An ad hoc cell -/

/-- `IEEE80211_DEFAULT_TX_ESSID` -/
def defaultTxEssid : List UInt8 := [0x50, 0x65, 0x6E, 0x67, 0x75, 0x69, 0x6E]

/-- The SSID a station gets that has none. -/
def defaultSsid (st : Station P) (essid : List UInt8) : Station P :=
  if st.currentNetwork.ssid = [] then
    { st.setCurrent (st.current.setSsid (essid ++ st.current.ssidBuf.drop essid.length) defaultTxEssid.length)
      with ssidSet := true }
  else st

/-- `ieee80211_randomize_cell` -/
def randomizeCell (random : Mac) : Mac := { random with b0 := (random.b0 &&& ~~~1) ||| 2 }

/-- The new cell of `ieee80211_start_ibss_wq`. -/
def createCell (env : StationEnv) (st : Station P) : Station P :=
  st.mapDev fun d =>
    { d with
      rate := if d.ofdmModulation then 540 else 110
      currentNetwork := { d.currentNetwork with
        bssid := if st.wapSet then d.currentNetwork.bssid else randomizeCell env.random
        rates := if d.cckModulation then [0x82, 0x84, 0x8B, 0x96] else []
        ratesEx :=
          if d.ofdmModulation then [0x8C, 0x92, 0x98, 0xA4, 0xB0, 0xC8, 0xE0, 0xEC] else []
        atimWindow := 0
        capability := wlanCapabilityIbss ||| capFlag d.shortSlot wlanCapabilityShortSlot } }

/-- `ieee80211_start_ibss_wq` after its scan. -/
def ibssLink (env : StationEnv) (st : Station P) : Station P :=
  (if st.state = .nolink then createCell env st else st).mapDev fun d => { d with state := .linked }

/-! ### The protocol -/

/-- `ieee80211_disassociate` -/
def disassociate (st : Station P) : Station P :=
  { st.mapDev Rtl8187.disassociate with wapSet := false, ssidSet := false }

/-- `ieee80211_stop_protocol` up to `ieee80211_stop_scan`. -/
def stopTimers (st : Station P) : Station P :=
  let st := (st.mapDev fun d => { d with protoStarted := false }).stopSendBeacons
  ((st.mapDev (·.delAssociateTimer)).cancelDelayed .associateRetry).cancelDelayed .startIbss

/-- `ieee80211_stop_protocol` from `ieee80211_stop_scan` on. -/
def stopLink (st : Station P) : Station P :=
  st.stopScan.disassociate.mapDev fun d =>
    { d with currentNetwork := { d.currentNetwork with bssid := ⟨0x22, 0x22, 0x22, 0x22, 0x22, 0x22⟩ } }

/-- `ieee80211_stop_protocol` -/
def stopProtocol (st : Station P) : Station P :=
  if ¬ st.protoStarted then st else st.stopTimers.stopLink

/-- `ieee80211_start_bss` -/
def startBss (st : Station P) : Station P :=
  let st := st.checkAllNets
  if st.state = .nolink then st.startScan else st

/-- `ieee80211_start_master_bss` -/
def startMasterBss (st : Station P) : Station P :=
  let st := st.mapDev fun d => { d with assocId := 1 }
  (st.defaultSsid (strncpy defaultTxEssid iwEssidMaxSize)).mapDev fun d =>
    { d with currentNetwork := { d.currentNetwork with bssid := d.devAddr }, state := .linked }

/-- `ieee80211_start_protocol` once the channel is settled. -/
def startMode (st : Station P) : Station P :=
  let st := st.mapDev fun d =>
    { d with
      currentNetwork := { d.currentNetwork with
        beaconInterval :=
          if d.currentNetwork.beaconInterval = 0 then 100 else d.currentNetwork.beaconInterval }
      lastSeqNum := 0xFFFF
      lastFragNum := 0xFFFF
      lastPacketTime := 0 }
  match st.iwMode with
  | .infra => st.startBss
  | .adhoc => st.queueDelayed .startIbss
  | .master => st.startMasterBss
  | _ => st

/-- `ieee80211_start_protocol` -/
def startProtocol (st : Station P) : Station P :=
  if st.protoStarted then st
  else
    let st := st.mapDev fun d => { d with protoStarted := true }
    if st.currentNetwork.channel = 0 then
      match st.nextChannel 0 with
      | none => st
      | some ch =>
        (st.mapDev fun d =>
          { d with currentNetwork := { d.currentNetwork with channel := UInt8.ofNat ch } }).startMode
    else st.startMode

/-! ### Settings -/

/-- What `ieee80211_wx_set_essid`, `_set_wap` and `_set_mode` refuse, or have
nothing to do for. -/
def accepts (st : Station P) : Change → Bool
  | .essid _ extra => extra.length ≤ iwEssidMaxSize && st.iwMode != .monitor
  | .wap _ => st.iwMode != .master
  | .mode mode => mode != st.iwMode

/-- The setting itself. -/
def applyChange (st : Station P) : Change → Station P
  | .essid flags extra =>
    if flags ∧ extra ≠ [] then
      let buf := List.replicate st.current.ssid.length 0 ++ st.current.ssidTail
      { st.setCurrent (st.current.setSsid
          (strncpy extra extra.length ++ buf.drop extra.length) extra.length) with ssidSet := true }
    else
      { st.setCurrent (st.current.setSsid (0 :: st.current.ssidBuf.tail) 0) with ssidSet := false }
  | .wap addr =>
    { st.mapDev fun d => { d with currentNetwork := { d.currentNetwork with bssid := addr } } with
      wapSet := addr ≠ ⟨0, 0, 0, 0, 0, 0⟩ }
  | .mode mode => st.mapDev fun d => { d with iwMode := mode }

end Station

end Rtl8187

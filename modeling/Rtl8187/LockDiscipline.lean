/-
# The discipline of `ieee->lock`

Everything that takes `ieee->lock`, in any order: the station's steps, the calls
of the kernel and of the driver's interrupts, the tasklet, the timer that takes
contexts down, the ioctls. Each of them acquires the lock only while it does not
hold it and releases it as often, but for the power-save tasklet where it puts the
station to sleep (`entry_disciplined_iff`); a run of such steps is
`lock_disciplined_iff`.

The kernel's own queue is left out: the kernel may call whenever it likes.

Key definitions: `Entry`, `Locked.entry`, `SoftMac.step`, `SoftMac.init`,
`Entry.PutsToSleep`.
Key theorems: `entry_disciplined_iff`, `lock_disciplined_iff`.
-/
import Rtl8187.Handshake
import Rtl8187.PowerSave
import Rtl8187.LockedTx
import Rtl8187.LockedKeys

namespace Rtl8187

open Bytes Locks Call

variable {P : Type}

/-- `IW_POWER_MODE` -/
def iwPowerMode : UInt16 := 0x0F00

/-- `IW_POWER_ON` -/
def iwPowerOn : UInt16 := 0

/-- `IW_POWER_UNICAST_R` -/
def iwPowerUnicastR : UInt16 := 0x0100

/-- `IW_POWER_ALL_R` -/
def iwPowerAllR : UInt16 := 0x0300

/-- `IW_POWER_PERIOD` -/
def iwPowerPeriod : UInt16 := 0x1000

/-- `IW_POWER_TIMEOUT` -/
def iwPowerTimeout : UInt16 := 0x2000

/-- `struct iw_param` of a `SIOCSIWPOWER`. -/
structure PowerRequest where
  disabled : Bool
  flags : UInt16
  value : ℤ

namespace SoftMac

/-- A setting of `ps`. -/
def setPs (s : SoftMac P) (ps : UInt16) : SoftMac P := { s with toDevice := { s.toDevice with ps := ps } }

/-- The `ps` that a mode stands for. -/
def psOf (mode : UInt16) : Option UInt16 :=
  if mode = iwPowerUnicastR then some dtimUcast.toUInt16
  else if mode = iwPowerAllR then some (dtimUcast ||| dtimMbcast).toUInt16
  else if mode = iwPowerOn then some 0
  else none

/-- `ieee80211_wx_set_power`, which has `wx_sem`. -/
def wxSetPower (s : SoftMac P) (req : PowerRequest) : Int × SoftMac P :=
  if req.disabled then (0, s.setPs 0)
  else
    match psOf (req.flags &&& iwPowerMode) with
    | none => (einval, s)
    | some ps =>
      let s := s.setPs ps
      let s := if req.flags &&& iwPowerTimeout ≠ 0 then { s with psTimeout := req.value.tdiv 1000 } else s
      if req.flags &&& iwPowerPeriod ≠ 0 then (eopnotsupp, s) else (0, s)

/-- The settings of the station, as the calls that set keys see them. -/
def keyConfig (s : SoftMac P) : KeyConfig :=
  { s.keys with
    txKeyidx := s.txKeyidx
    iwMode := s.iwMode
    hostEncrypt := s.hostEncrypt
    hostDecrypt := s.hostDecrypt
    openWep := s.openWep
    apMacAddr := s.apMacAddr }

/-- The keys and settings after such a call. -/
def setKeyConfig (s : SoftMac P) (k : KeyConfig) : SoftMac P :=
  { s with
    keys := k
    toDevice := { s.toDevice with
      txKeyidx := k.txKeyidx
      iwMode := k.iwMode
      hostEncrypt := k.hostEncrypt
      hostDecrypt := k.hostDecrypt
      openWep := k.openWep
      apMacAddr := k.apMacAddr } }

/-- The transmit side, no TXB being on its way. -/
def txSide (s : SoftMac P) : TxSide P ℕ where
  dev := s.toDevice
  hard := s.handed.length
  netStopped := s.queueStop
  sending := none
  pendingEntry := none
  accepted := []
  given := []

end SoftMac

/-- The hardware may stop the queue with any frame it is handed. -/
def Env.hardXmit (env : Env) : HardXmit ℕ := fun n _ _ => (env.stops n, n + 1)

/-- What takes `ieee->lock`, or has a part in when it is taken. -/
inductive Entry (P : Type) where
  | station (e : Event P)
  /-- `ieee80211_xmit` -/
  | xmit (env : Env) (skb : SkBuff)
  /-- `rtl8180_try_wake_queue` -/
  | tryWakeQueue (env : Env) (enoughDesc : Bool)
  /-- `ieee80211_reset_queue` -/
  | resetQueue
  /-- The tasklet `ps_task`. -/
  | psTask (env : Env) (queueEmpty : Bool)
  /-- `ieee80211_ps_tx_ack`, which is exported. -/
  | psTxAck (env : Env) (success : Bool)
  /-- `crypt_deinit_timer` -/
  | deinitTimer
  | setEncode (env : KeyEnv) (req : EncodeRequest)
  | setEncodeExt (env : KeyEnv) (req : EncodeExtRequest)
  | setEncryption (env : KeyEnv) (param : EncryptionParam)
  | getScan
  | getWap
  | getEssid
  | setPower (req : PowerRequest)

namespace Locked

/-- A call of the station. -/
def onStation {α : Type} (p : Call SpinLock (Station P) α) : Call SpinLock (SoftMac P) α :=
  p.zoom SoftMac.toStation fun s st => { s with toStation := st }

/-- A call of the transmit side. -/
def onTx {α : Type} (p : Call SpinLock (TxSide P ℕ) α) : Call SpinLock (SoftMac P) α :=
  p.zoom SoftMac.txSide fun s t => { s with toDevice := t.dev }

/-- A call that sets keys. -/
def onKeys {α : Type} (p : Call SpinLock KeyConfig α) : Call SpinLock (SoftMac P) α :=
  p.zoom SoftMac.keyConfig SoftMac.setKeyConfig

/-- `ieee80211_wx_get_scan`, without the text it writes; it waits for `wx_sem`. -/
def wxGetScan : Call SpinLock (SoftMac P) Unit := do
  let s ← read
  onlyIf (¬ s.wxSem) (locked .ieee (pure ()))

/-- `ieee80211_wx_get_wap` -/
def wxGetWap : Call SpinLock (SoftMac P) (Option Mac) := do
  let s ← read
  if s.iwMode = .monitor then pure none
  else
    acquire .ieee
    let s ← read
    release .ieee
    pure (some (if s.state ≠ .linked ∧ s.state ≠ .linkedScanning ∧ ¬ s.wapSet then ⟨0, 0, 0, 0, 0, 0⟩
      else s.currentNetwork.bssid))

/-- `ieee80211_wx_get_essid` -/
def wxGetEssid : Call SpinLock (SoftMac P) (Option (List UInt8)) := do
  let s ← read
  if s.iwMode = .monitor then pure none
  else
    acquire .ieee
    let s ← read
    if s.current.ssidBuf.head? = some 0 ∨ s.currentNetwork.ssid.length = 0 then
      release .ieee
      pure none
    else if s.state ≠ .linked ∧ s.state ≠ .linkedScanning ∧ ¬ s.ssidSet then
      release .ieee
      pure none
    else
      release .ieee
      pure (some (strncpy s.currentNetwork.ssid))
where
  /-- `strncpy` of as many bytes as there are. -/
  strncpy (ssid : List UInt8) : List UInt8 :=
    let copied := ssid.takeWhile (· != 0)
    copied ++ List.replicate (ssid.length - copied.length) 0

/-- `r8180_wx_set_power`; it waits for `wx_sem`. -/
def wxSetPower (req : PowerRequest) : Call SpinLock (SoftMac P) Unit := do
  let s ← read
  onlyIf (¬ s.wxSem) (act fun s => (s.wxSetPower req).2)

/-- The tasklet, if it is scheduled. -/
def runPsTask (env : Env) (queueEmpty : Bool) : Call SpinLock (SoftMac P) Unit := do
  let s ← read
  onlyIf s.psTask (do
    onDevice (act fun d => { d with psTask := false })
    staPs env queueEmpty)

/-- The timer, if it is pending. -/
def expireDeinitTimer : Call SpinLock KeyConfig Unit := do
  let k ← read
  onlyIf k.deinitTimer (do
    act fun k => { k with deinitTimer := false }
    deinitHandler)

/-- What an entry does. -/
def entry : Entry P → Call SpinLock (SoftMac P) Unit
  | .station e => onStation (station e)
  | .xmit env skb => onTx (xmit env.hardXmit env skb)
  | .tryWakeQueue env enoughDesc => onTx (tryWakeQueue env.hardXmit env enoughDesc)
  | .resetQueue => onDevice resetQueue
  | .psTask env queueEmpty => runPsTask env queueEmpty
  | .psTxAck env success => psTxAck env success
  | .deinitTimer => onKeys expireDeinitTimer
  | .setEncode env req => do let _ ← onKeys (wxSetEncode env req)
  | .setEncodeExt env req => do let _ ← onKeys (wxSetEncodeExt env req)
  | .setEncryption env param => do let _ ← onKeys (setEncryptionCmd env param)
  | .getScan => wxGetScan
  | .getWap => do let _ ← wxGetWap
  | .getEssid => do let _ ← wxGetEssid
  | .setPower req => wxSetPower req

end Locked

namespace SoftMac

/-- An entry is called; nothing else happens before it returns. -/
def step (s : SoftMac P) (e : Entry P) : SoftMac P := (Locked.entry e).final s

/-- The soft-MAC as the driver sets it up. -/
def init (P : Type) (kernel : KernelConfig) (devAddr : Mac) (channelMap : ℕ → Bool) (msecs : ℤ → UInt64) :
    SoftMac P where
  toStation := Station.init P kernel devAddr channelMap
  msecs := msecs
  psTimeout := 0
  psTh := 0
  psTl := 0
  keys :=
    { crypt := fun _ => none
      contexts := fun _ => ⟨.null, 0⟩
      nextCtx := 0
      cryptDeinitList := []
      deinitTimer := false
      deinits := []
      txKeyidx := 0
      pairwiseKeyType := 0
      iwMode := .infra
      hostEncrypt := true
      hostDecrypt := true
      openWep := true
      apMacAddr := ⟨0, 0, 0, 0, 0, 0⟩ }

end SoftMac

/-- The tasklet runs, and puts the station to sleep. -/
def Entry.PutsToSleep (s : SoftMac P) : Entry P → Prop
  | .psTask env queueEmpty => s.psTask = true ∧ s.FallsAsleep env queueEmpty
  | _ => False

namespace Locked

section

variable (s : SoftMac P)

/-- A call that sets keys, whatever it returns. -/
theorem onKeys_runs {α : Type} {p : Call SpinLock KeyConfig α} {f : KeyConfig → α × KeyConfig} (h : Gives .ieee p f) :
    Runs .ieee (do let _ ← onKeys p : Call SpinLock (SoftMac P) Unit) s false ()
      (s.setKeyConfig (f s.keyConfig).2) false := .bind (.zoom (h _)) (.pure ())

theorem onTx_runs {p : Call SpinLock (TxSide P ℕ) Unit} {t : TxSide P ℕ} (h : Runs .ieee p s.txSide false () t false) :
    Runs .ieee (onTx p) s false () { s with toDevice := t.dev } false := .zoom h

/-- A step of the station is one of the soft-MAC. -/
theorem station_runs (e : Event P) :
    Runs .ieee (entry (.station e)) s false () { s with toStation := s.toStation.step e } false := by
  show Runs .ieee (onStation (station e)) s false () _ false
  exact .zoom (station_keeps e s.toStation)

/-- A run of the station is one of the soft-MAC. -/
theorem run_station (es : List (Event P)) :
    Run.run SoftMac.step s (es.map .station) = { s with toStation := Run.run Station.step s.toStation es } := by
  induction es generalizing s with
  | nil => rfl
  | cons e es ih =>
    have hstep : s.step (.station e) = { s with toStation := s.toStation.step e } := (station_runs s e).final
    rw [List.map_cons, Run.run_cons, Run.run_cons, hstep]
    exact ih _

theorem resetQueue_disciplined : Disciplined .ieee ((entry .resetQueue).ops s) := by
  show Disciplined .ieee ((onDevice resetQueue).ops s)
  exact Runs.disciplined (.zoom (.locked (.act _)))

theorem deinitTimer_disciplined : Disciplined .ieee ((entry .deinitTimer).ops s) := by
  show Disciplined .ieee ((onKeys expireDeinitTimer).ops s)
  exact Runs.disciplined (.zoom (.bind .read (.onlyIf fun _ => .bind (.act _) (deinitHandler_keeps _))))

theorem getWap_disciplined : Disciplined .ieee ((entry .getWap).ops s) := by
  have hread : Moves .ieee false (wxGetWap (P := P)) false :=
    .read fun _ => .ite (.pure _) (.bind .acquire fun _ => .read fun _ => .bind .release fun _ => .pure _)
  exact (hread.bind fun _ => .pure ()).disciplined s

/-- The lock is released on each of the ways out. -/
theorem getEssid_disciplined : Disciplined .ieee ((entry .getEssid).ops s) := by
  have hout : ∀ r : Option (List UInt8),
      Moves .ieee true (do release .ieee; pure r : Call SpinLock (SoftMac P) _) false :=
    fun r => .bind .release fun _ => .pure r
  have hread : Moves .ieee false (wxGetEssid (P := P)) false :=
    .read fun _ => .ite (.pure _) (.bind .acquire fun _ => .read fun _ => .ite (hout _) (.ite (hout _) (hout _)))
  exact (hread.bind fun _ => .pure ()).disciplined s

theorem psTask_disciplined_iff (env : Env) (queueEmpty : Bool) :
    Disciplined .ieee ((entry (.psTask env queueEmpty)).ops s) ↔
      ¬ (s.psTask = true ∧ s.FallsAsleep env queueEmpty) := by
  have hdown : { s with toDevice := { s.toDevice with psTask := false } }.FallsAsleep env queueEmpty ↔
      s.FallsAsleep env queueEmpty :=
    ⟨fun h => ⟨h.heard, h.quiet, h.sent, h.received, h.mgmt, h.awake, h.queue⟩,
      fun h => ⟨h.heard, h.quiet, h.sent, h.received, h.mgmt, h.awake, h.queue⟩⟩
  have hops : (entry (.psTask env queueEmpty)).ops s = if s.psTask = true then
      (staPs env queueEmpty).ops { s with toDevice := { s.toDevice with psTask := false } } else [] :=
    apply_ite (fun p : Call SpinLock (SoftMac P) Unit => p.ops s) _ _ _
  rw [hops]
  split_ifs with htask
  · rw [staPs_disciplined_iff, hdown]
    simp only [htask, true_and]
  · exact iff_of_true ((disciplined_iff _ _).mpr rfl) fun h => htask h.1

/-- **An entry keeps the discipline exactly if it is not the tasklet that puts the
station to sleep.** -/
theorem entry_disciplined_iff (e : Entry P) :
    Disciplined .ieee ((entry e).ops s) ↔ ¬ e.PutsToSleep s := by
  cases e with
  | psTask env queueEmpty => exact psTask_disciplined_iff s env queueEmpty
  | station e => exact iff_of_true (station_runs s e).disciplined id
  | xmit env skb => exact iff_of_true (onTx_runs s (xmit_runs env.hardXmit env skb _ rfl)).disciplined id
  | tryWakeQueue env enoughDesc =>
    exact iff_of_true (onTx_runs s (tryWakeQueue_keeps env.hardXmit env enoughDesc _)).disciplined id
  | resetQueue => exact iff_of_true (resetQueue_disciplined s) id
  | psTxAck env success => exact iff_of_true (psTxAck_runs env success s).disciplined id
  | deinitTimer => exact iff_of_true (deinitTimer_disciplined s) id
  | setEncode env req => exact iff_of_true (onKeys_runs s (wxSetEncode_gives env req)).disciplined id
  | setEncodeExt env req => exact iff_of_true (onKeys_runs s (wxSetEncodeExt_gives env req)).disciplined id
  | setEncryption env param => exact iff_of_true (onKeys_runs s (setEncryptionCmd_gives env param)).disciplined id
  | getScan => exact iff_of_true (Runs.disciplined (.bind .read (.onlyIf fun _ => .locked (.pure ())))) id
  | getWap => exact iff_of_true (getWap_disciplined s) id
  | getEssid => exact iff_of_true (getEssid_disciplined s) id
  | setPower req => exact iff_of_true (Runs.disciplined (.bind .read (.onlyIf fun _ => .act _))) id

end

end Locked

/-- **The discipline of `ieee->lock`.** In exactly those runs in which the tasklet
never puts the station to sleep, every entry acquires the lock only while it does not
hold it, and releases it once for each acquisition. -/
theorem lock_disciplined_iff (kernel : KernelConfig) (devAddr : Mac) (channelMap : ℕ → Bool) (msecs : ℤ → UInt64)
    (es : List (Entry P)) :
    Run.AllSteps SoftMac.step (fun s e => Disciplined .ieee ((Locked.entry e).ops s))
        (SoftMac.init P kernel devAddr channelMap msecs) es ↔
      Run.AllSteps SoftMac.step (fun s e => ¬ e.PutsToSleep s)
        (SoftMac.init P kernel devAddr channelMap msecs) es :=
  Run.allSteps_congr (fun s e => Locked.entry_disciplined_iff s e) _ es

/-! ### A station that goes to sleep -/

/-- `msecs_to_jiffies`, at 250 jiffies a second. -/
def msecsToJiffies (t : ℤ) : UInt64 := UInt64.ofNat ((t.toNat + 3) / 4)

/-- A soft-MAC that may use channel 1. -/
def SoftMac.onChannelOne : SoftMac Unit :=
  SoftMac.init Unit ⟨250, true⟩ ⟨2, 0, 0, 0, 0, 1⟩ (· == 1) msecsToJiffies

/-- The request `r8180_wx_set_power` makes of any that does not disable power save. -/
def powerOn : PowerRequest := ⟨false, iwPowerAllR ||| iwPowerTimeout, 1000⟩

/-- The access point announces that it has nothing for the station, and answers a probe. -/
def announcing : List (Event Unit) :=
  let ap : Mac := ⟨2, 0, 0, 0, 0, 9⟩
  let body : List UInt8 := [0, 0, 0, 0, 0, 0, 0, 0, 100, 0, 1, 0] ++ infoElement 0 [0x6F] ++
    infoElement mfieTypeTim [0, 1, 0, 0]
  let frame (fc : UInt16) (dest : Mac) : Event Unit :=
    .rx ⟨0, true, fun _ => false, ⟨0, 0, 0, 0, 0, 0⟩⟩
      ((SkBuff.devAllocSkb 64).put (mgmtHdr fc 0 dest ap ap ++ body)) ⟨1, 1, (0, 0)⟩ .zeroed
  [frame stypeBeacon .broadcast, frame stypeProbeResp Station.onChannelOne.devAddr]

/-- Two jiffies later. -/
def idleEnv : Env := ⟨2, true, fun _ => false, ⟨0, 0, 0, 0, 0, 0⟩⟩

/-- A station joins, is told to save power, and has nothing to send or to receive. -/
def dozing : List (Entry Unit) :=
  Station.joining.map .station ++ [.setPower powerOn] ++ announcing.map .station ++ [.psTask idleEnv true]

/-- The state in which its tasklet runs. -/
def SoftMac.idle : SoftMac Unit :=
  let s : SoftMac Unit := { onChannelOne with toStation := Run.run Station.step Station.onChannelOne Station.joining }
  let s := (s.wxSetPower powerOn).2
  { s with toStation := Run.run Station.step s.toStation announcing }

theorem idle_fallsAsleep : SoftMac.idle.FallsAsleep idleEnv true where
  heard := by decide +kernel
  quiet := by decide +kernel
  sent := by decide +kernel
  received := by decide +kernel
  mgmt := by decide +kernel
  awake := by decide +kernel
  queue := rfl

/-- The tasklet waits for itself. -/
theorem dozing_not_disciplined :
    ¬ Run.AllSteps SoftMac.step (fun s e => Disciplined .ieee ((Locked.entry e).ops s))
      SoftMac.onChannelOne dozing := by
  intro h
  have hlast := (Run.allSteps_append.mp h).2.1
  have hpower : ∀ s : SoftMac Unit, s.step (.setPower powerOn) = if ¬ s.wxSem then (s.wxSetPower powerOn).2 else s :=
    fun s => final_onlyIf s _ _
  rw [Run.run_append, Run.run_append, Locked.run_station, Locked.run_station, Run.run_cons, Run.run_nil, hpower,
    if_pos (by decide +kernel)] at hlast
  exact (Locked.entry_disciplined_iff SoftMac.idle _).mp hlast ⟨by decide +kernel, idle_fallsAsleep⟩

end Rtl8187

/-
# Power save

The soft-MAC's side of power save in `ieee80211_softmac.c`: `ieee80211_sta_ps`,
which the tasklet runs with `ieee->lock` held to the end, and
`ieee80211_ps_tx_ack`, which takes that lock. The one calls the other when it puts
the station to sleep: it waits for itself (`staPs_disciplined_iff`).

A null frame is handed to the driver by `softmac_ps_mgmt_xmit`, which takes no
lock but the driver's own.

Key definitions: `SoftMac`, `SoftMac.staPsSleep`, `SoftMac.FallsAsleep`,
`Locked.staPs`, `Locked.psTxAck`.
Key theorems: `Locked.fallsAsleep_iff`, `Locked.staPs_disciplined_iff`.
-/
import Rtl8187.LockedWorks
import Rtl8187.KeyConfig

namespace Rtl8187

open Bytes Locks Call

variable {P : Type}

/-- The station, with what power save and the keys add to it. -/
structure SoftMac (P : Type) extends Station P where
  /-- `MSECS`, which the kernel gives. -/
  msecs : ℤ → UInt64
  psTimeout : ℤ
  psTh : UInt32
  psTl : UInt32
  /-- The slots and contexts as the calls that set keys see them. -/
  keys : KeyConfig

namespace SoftMac

/-- When the station is to wake up: the next DTIM after the last one it heard. -/
def wakeTime (s : SoftMac P) : UInt32 × UInt32 :=
  let last := s.currentHeard.lastDtimStaTime
  let tl := last.1 + UInt32.ofNat (s.currentNetwork.beaconInterval.toNat * s.currentHeard.dtimPeriod.toNat * 1000)
  (tl, if tl < last.1 then last.2 + 1 else last.2)

/-- `ieee80211_sta_ps_sleep`: 2 to wake up, 1 to sleep, 0 to do nothing. -/
def staPsSleep (env : Env) (s : SoftMac P) : ℕ × SoftMac P :=
  let timeout := s.msecs s.psTimeout
  let dtim := s.currentHeard.dtimData
  if dtim &&& dtimValid = 0 then (0, s)
  else
    let s := { s with currentHeard := { s.currentHeard with dtimData := 0 } }
    if dtim.toUInt16 &&& ((dtimUcast ||| dtimMbcast).toUInt16 &&& s.ps) ≠ 0 then (2, s)
    else if ¬ timeAfter env.now (s.transStart + timeout) then (0, s)
    else if ¬ timeAfter env.now (s.lastRxPsTime + timeout) then (0, s)
    else if s.softmacFeatures.singleQueue ∧ s.mgmtQueue.tail ≠ s.mgmtQueue.head then (0, s)
    else (1, { s with psTl := s.wakeTime.1, psTh := s.wakeTime.2 })

/-- Power save is off, or there is no access point to sleep at. -/
def NoPs (s : SoftMac P) : Prop := s.ps = 0 ∨ s.iwMode ≠ .infra ∨ s.state ≠ .linked

instance (s : SoftMac P) : Decidable s.NoPs := inferInstanceAs (Decidable (_ ∨ _ ∨ _))

/-- When the last frame was sent, for `ieee80211_sta_ps_sleep`: where there is no
power save, a null frame goes out first. -/
def lastSent (env : Env) (s : SoftMac P) : UInt64 :=
  if s.NoPs ∧ env.skbAlloc ∧ s.softmacFeatures.singleQueue then env.now else s.transStart

/-- The station goes to sleep: it is awake, the last beacon was heard to announce no
traffic for it, nothing was sent or received for so long, and nothing waits to
be sent. -/
structure FallsAsleep (env : Env) (queueEmpty : Bool) (s : SoftMac P) : Prop where
  heard : s.currentHeard.dtimData &&& dtimValid ≠ 0
  quiet : s.currentHeard.dtimData.toUInt16 &&& ((dtimUcast ||| dtimMbcast).toUInt16 &&& s.ps) = 0
  sent : timeAfter env.now (s.lastSent env + s.msecs s.psTimeout) = true
  received : timeAfter env.now (s.lastRxPsTime + s.msecs s.psTimeout) = true
  mgmt : s.softmacFeatures.singleQueue = true → s.mgmtQueue.tail = s.mgmtQueue.head
  awake : s.NoPs ∨ s.staSleep = 0
  queue : queueEmpty = true

end SoftMac

namespace Locked

/-- A call on the device. -/
def onDevice {α : Type} (p : Call SpinLock (Device P) α) : Call SpinLock (SoftMac P) α :=
  p.zoom (fun s => s.toDevice) fun s d => { s with toDevice := d }

/-- `ieee80211_ps_tx_ack` -/
def psTxAck (env : Env) (success : Bool) : Call SpinLock (SoftMac P) Unit :=
  locked .ieee (do
    let s ← read
    if s.staSleep = 2 then
      onlyIf success (onDevice (act fun d => { d with staSleep := 1 }.queueWork .hwSleep))
    else
      onlyIf (s.staSleep = 0 ∧ ¬ success) (locked .mgmtTx (onDevice (staPsSendNullFrame env false))))

/-- What `ieee80211_sta_ps` does once the queue was found empty. -/
def fallAsleep (env : Env) : Call SpinLock (SoftMac P) Unit := do
  let s ← read
  onDevice (act fun d => { d with staSleep := 2 })
  onDevice (staPsSendNullFrame env true)
  onDevice (staPsSendNullFrame env true)
  act fun s' => { s' with psTh := s.psTh, psTl := s.psTl }
  psTxAck env true

/-- The first branch of `ieee80211_sta_ps`. -/
def staPsWake (env : Env) : Call SpinLock (SoftMac P) Unit := do
  let s ← read
  onlyIf s.NoPs (locked .mgmtTx (onDevice (staWakeup env true)))

/-- `ieee80211_sta_ps` once it is known what to do. -/
def staPsTurn (env : Env) (queueEmpty : Bool) (sleep : ℕ) : Call SpinLock (SoftMac P) Unit := do
  let s ← read
  if sleep = 1 then
    if s.staSleep = 1 then onDevice (act fun d => d.queueWork .hwSleep)
    else onlyIf (s.staSleep = 0) (locked .mgmtTx (onlyIf queueEmpty (fallAsleep env)))
  else onlyIf (sleep = 2) (locked .mgmtTx (onDevice (staWakeup env true)))

/-- `ieee80211_sta_ps`; `queueEmpty` is what `ps_is_queue_empty` answers. -/
def staPs (env : Env) (queueEmpty : Bool) : Call SpinLock (SoftMac P) Unit :=
  locked .ieee (do
    staPsWake env
    let sleep ← compute fun s => s.staPsSleep env
    staPsTurn env queueEmpty sleep)

section

variable (env : Env)

/-! ### What does not come to the lock -/

theorem softmacPsMgmtXmit_quiet (skb : SkBuff) :
    Quiet .ieee (softmacPsMgmtXmit env skb : Call SpinLock (Device P) Unit) :=
  .read fun _ => .bind (.act _) fun _ => .ite (.locked_of_ne (by decide) (.act _)) (.act _)

theorem staPsSendNullFrame_quiet (pwr : Bool) :
    Quiet .ieee (staPsSendNullFrame env pwr : Call SpinLock (Device P) Unit) := by
  refine .read fun d => ?_
  cases nullFunc env.skbAlloc d pwr with
  | none => exact .pure ()
  | some buf => exact softmacPsMgmtXmit_quiet env buf

theorem staWakeup_quiet (nl : Bool) : Quiet .ieee (staWakeup env nl : Call SpinLock (Device P) Unit) := by
  have hsend : Quiet .ieee (onlyIf nl (staPsSendNullFrame env false) : Call SpinLock (Device P) Unit) :=
    .onlyIf (staPsSendNullFrame_quiet env false)
  refine .read fun _ => .ite hsend ?_
  exact .bind (.onlyIf (.act _)) fun _ => .bind (.act _) fun _ => hsend

/-- `ieee80211_ps_tx_ack` takes the lock itself. -/
theorem psTxAck_runs (success : Bool) (s : SoftMac P) :
    Runs .ieee (psTxAck env success) s false () ((psTxAck env success).final s) false := by
  refine Quiet.locked ?_ s
  refine .read fun _ => .ite (.onlyIf (.zoom (.act _))) ?_
  exact .onlyIf (.locked_of_ne (by decide) (.zoom (staPsSendNullFrame_quiet env false)))

/-- So it is not called with the lock held. -/
theorem psTxAck_hangs (success : Bool) (s : SoftMac P) : Hangs .ieee (psTxAck env success) s true :=
  .bind_left _ .acquire

/-- A station that is put to sleep waits for itself. -/
theorem fallAsleep_hangs (s : SoftMac P) : Hangs .ieee (fallAsleep env) s true := by
  have hnull : Quiet .ieee (onDevice (staPsSendNullFrame env true) : Call SpinLock (SoftMac P) Unit) :=
    .zoom (staPsSendNullFrame_quiet env true)
  have hflag : Quiet .ieee (onDevice (act fun d => { d with staSleep := 2 }) : Call SpinLock (SoftMac P) Unit) :=
    .zoom (.act _)
  refine .bind_right .read (.bind_right (hflag.runs _ _) ?_)
  exact .bind_right (hnull.runs _ _) (.bind_right (hnull.runs _ _) (.bind_right (.act _) (psTxAck_hangs env true _)))

/-! ### What a null frame changes -/

/-- The device after null frames, as far as `ieee80211_sta_ps_sleep` looks at it. -/
structure SentNull (d' d : Device P) : Prop where
  ps : d'.ps = d.ps
  lastRxPsTime : d'.lastRxPsTime = d.lastRxPsTime
  features : d'.softmacFeatures = d.softmacFeatures
  mgmtQueue : d'.mgmtQueue = d.mgmtQueue
  transStart : d'.transStart = if env.skbAlloc ∧ d.softmacFeatures.singleQueue then env.now else d.transStart

theorem softmacPsMgmtXmit_sent (skb : SkBuff) (halloc : env.skbAlloc = true) (d : Device P) :
    SentNull env ((softmacPsMgmtXmit env skb).final d) d ∧
      ((softmacPsMgmtXmit env skb).final d).staSleep = d.staSleep := by
  by_cases hsingle : d.softmacFeatures.singleQueue = true
  · simp only [softmacPsMgmtXmit, dataHardStartXmit, final_bind, result_read, final_read, final_act, hsingle, if_true,
      final_locked]
    exact ⟨⟨rfl, rfl, rfl, rfl, (if_pos ⟨halloc, hsingle⟩).symm⟩, rfl⟩
  · simp only [softmacPsMgmtXmit, final_bind, result_read, final_read, final_act, hsingle]
    exact ⟨⟨rfl, rfl, rfl, rfl, (if_neg fun h => hsingle h.2).symm⟩, rfl⟩

theorem staPsSendNullFrame_sent (pwr : Bool) (d : Device P) :
    SentNull env ((staPsSendNullFrame env pwr).final d) d ∧
      ((staPsSendNullFrame env pwr).final d).staSleep = d.staSleep := by
  by_cases halloc : env.skbAlloc = true
  · simp only [staPsSendNullFrame, nullFunc, final_bind, result_read, final_read, halloc, if_true]
    exact softmacPsMgmtXmit_sent env _ halloc d
  · simp only [staPsSendNullFrame, nullFunc, final_bind, result_read, final_read, halloc]
    exact ⟨⟨rfl, rfl, rfl, rfl, (if_neg fun h => halloc h.1).symm⟩, rfl⟩

/-- With its second argument set, `ieee80211_sta_wakeup` sends a null frame in any case. -/
theorem staWakeup_runs (d : Device P) (held : Bool) :
    Runs .ieee (staWakeup env true) d held () ((staPsSendNullFrame env false).final d.staWakeup) held := by
  have hsend : ∀ d : Device P, Runs .ieee (onlyIf (true = true) (staPsSendNullFrame env false)) d held ()
      ((staPsSendNullFrame env false).final d) held := fun d => (staPsSendNullFrame_quiet env false).runs d held
  unfold staWakeup Device.staWakeup
  rw [apply_ite (staPsSendNullFrame env false).final]
  refine .bind .read (.ite (fun _ => hsend d) fun _ => ?_)
  exact .bind (.onlyIf fun _ => .act _) (.bind (.act _) (hsend _))

/-- Woken up, a station is awake, whatever it was. -/
theorem staWakeup_sent (d : Device P) :
    SentNull env ((staWakeup env true).final d) d ∧ ((staWakeup env true).final d).staSleep = 0 := by
  have hsent := staPsSendNullFrame_sent env false d.staWakeup
  have hawake : d.staWakeup.staSleep = 0 ∧ d.staWakeup.ps = d.ps ∧
      d.staWakeup.lastRxPsTime = d.lastRxPsTime ∧ d.staWakeup.softmacFeatures = d.softmacFeatures ∧
      d.staWakeup.mgmtQueue = d.mgmtQueue ∧ d.staWakeup.transStart = d.transStart := by
    unfold Device.staWakeup Device.queueWork
    dsimp only
    split_ifs with hzero
    · exact ⟨hzero, rfl, rfl, rfl, rfl, rfl⟩
    all_goals exact ⟨rfl, rfl, rfl, rfl, rfl, rfl⟩
  obtain ⟨hzero, hps, hrx, hfeat, hqueue, htrans⟩ := hawake
  rw [(staWakeup_runs env d false).final]
  refine ⟨⟨hsent.1.ps.trans hps, hsent.1.lastRxPsTime.trans hrx, hsent.1.features.trans hfeat,
    hsent.1.mgmtQueue.trans hqueue, ?_⟩, hsent.2.trans hzero⟩
  rw [hsent.1.transStart, hfeat, htrans]

/-! ### The tasklet -/

theorem staPsSleep_one_iff (s : SoftMac P) :
    (s.staPsSleep env).1 = 1 ↔
      s.currentHeard.dtimData &&& dtimValid ≠ 0 ∧
        s.currentHeard.dtimData.toUInt16 &&& ((dtimUcast ||| dtimMbcast).toUInt16 &&& s.ps) = 0 ∧
        timeAfter env.now (s.transStart + s.msecs s.psTimeout) = true ∧
        timeAfter env.now (s.lastRxPsTime + s.msecs s.psTimeout) = true ∧
        (s.softmacFeatures.singleQueue = true → s.mgmtQueue.tail = s.mgmtQueue.head) := by
  unfold SoftMac.staPsSleep
  dsimp only
  rw [apply_ite Prod.fst, apply_ite Prod.fst, apply_ite Prod.fst, apply_ite Prod.fst, apply_ite Prod.fst]
  split_ifs with hheard hquiet hsent hrx hmgmt
  · exact iff_of_false id fun h => h.1 hheard
  · exact iff_of_false (by simp) fun h => hquiet h.2.1
  · exact iff_of_false id fun h => hmgmt.2 (h.2.2.2.2 hmgmt.1)
  · refine iff_of_true rfl ⟨hheard, not_not.mp hquiet, hsent, hrx, fun hsingle => ?_⟩
    exact not_not.mp fun hne => hmgmt ⟨hsingle, hne⟩
  · exact iff_of_false id fun h => hrx h.2.2.2.1
  · exact iff_of_false id fun h => hsent h.2.2.1

theorem staPsSleep_staSleep (s : SoftMac P) : (s.staPsSleep env).2.staSleep = s.staSleep := by
  unfold SoftMac.staPsSleep
  dsimp only
  split_ifs <;> rfl

/-- The state in which it is asked whether the station may sleep. -/
def asked (s : SoftMac P) : SoftMac P :=
  if s.NoPs then { s with toDevice := (staWakeup env true).final s.toDevice } else s

/-- **When the station is put to sleep**, from the state before the tasklet runs. -/
theorem fallsAsleep_iff (queueEmpty : Bool) (s : SoftMac P) :
    s.FallsAsleep env queueEmpty ↔
      ((asked env s).staPsSleep env).1 = 1 ∧ (asked env s).staSleep = 0 ∧ queueEmpty = true := by
  rw [staPsSleep_one_iff]
  unfold asked
  by_cases hps : s.NoPs
  · obtain ⟨hsent, hawake⟩ := staWakeup_sent env s.toDevice
    have hlast : s.lastSent env = ((staWakeup env true).final s.toDevice).transStart := by
      rw [hsent.transStart]
      simp only [SoftMac.lastSent, hps, true_and]
    simp only [hps, if_true, hsent.ps, hsent.lastRxPsTime, hsent.features, hsent.mgmtQueue, hawake, ← hlast, true_and]
    constructor
    · intro h
      exact ⟨⟨h.heard, h.quiet, h.sent, h.received, h.mgmt⟩, h.queue⟩
    · rintro ⟨⟨hheard, hquiet, hsent, hrx, hmgmt⟩, hqueue⟩
      exact ⟨hheard, hquiet, hsent, hrx, hmgmt, .inl hps, hqueue⟩
  · have hlast : s.lastSent env = s.transStart := by simp only [SoftMac.lastSent, hps, false_and, if_false]
    simp only [hps, if_false, ← hlast]
    constructor
    · intro h
      exact ⟨⟨h.heard, h.quiet, h.sent, h.received, h.mgmt⟩, h.awake.resolve_left hps, h.queue⟩
    · rintro ⟨⟨hheard, hquiet, hsent, hrx, hmgmt⟩, hawake, hqueue⟩
      exact ⟨hheard, hquiet, hsent, hrx, hmgmt, .inr hawake, hqueue⟩

theorem staPsWake_runs (s : SoftMac P) (held : Bool) : Runs .ieee (staPsWake env) s held () (asked env s) held := by
  have hwake : Runs .ieee (locked .mgmtTx (onDevice (staWakeup env true))) s held ()
      { s with toDevice := (staWakeup env true).final s.toDevice } held :=
    .locked_of_ne (by decide) (.zoom ((staWakeup_quiet env true).runs _ _))
  exact .bind .read (.onlyIf fun _ => hwake)

/-- What the tasklet then does has nothing to do with the lock, unless the station is put to sleep. -/
theorem staPsTurn_runs (queueEmpty : Bool) (sleep : ℕ) (s : SoftMac P) (held : Bool)
    (h : ¬ (sleep = 1 ∧ s.staSleep = 0 ∧ queueEmpty = true)) :
    ∃ s', Runs .ieee (staPsTurn env queueEmpty sleep) s held () s' held := by
  have hwork : Quiet .ieee (onDevice (act fun d => d.queueWork .hwSleep) : Call SpinLock (SoftMac P) Unit) :=
    .zoom (.act _)
  have hwake : Quiet .ieee (locked .mgmtTx (onDevice (staWakeup env true)) : Call SpinLock (SoftMac P) Unit) :=
    .locked_of_ne (by decide) (.zoom (staWakeup_quiet env true))
  have hasleep : sleep = 1 → s.staSleep = 0 →
      Runs .ieee (locked .mgmtTx (onlyIf queueEmpty (fallAsleep env))) s held () s held := by
    intro hsleep hawake
    have hqueue : ¬ queueEmpty = true := fun hqueue => h ⟨hsleep, hawake, hqueue⟩
    rw [onlyIf, if_neg hqueue]
    exact .locked_of_ne (by decide) (.pure ())
  exact ⟨_, .bind .read (.ite (fun hsleep => .ite (fun _ => hwork.runs s held) fun _ =>
    .onlyIf (hasleep hsleep)) fun _ => (Quiet.onlyIf hwake).runs s held)⟩

theorem staPsTurn_hangs (s : SoftMac P) (hawake : s.staSleep = 0) : Hangs .ieee (staPsTurn env true 1) s true := by
  refine .bind_right .read ?_
  simp only [hawake, zero_ne_one, if_true, if_false]
  exact .bind_right (.acquire_of_ne (by decide)) (.bind_left _ (fallAsleep_hangs env s))

/-- **The power-save tasklet keeps the discipline exactly if it does not put the
station to sleep.** -/
theorem staPs_disciplined_iff (queueEmpty : Bool) (s : SoftMac P) :
    Disciplined .ieee ((staPs env queueEmpty).ops s) ↔ ¬ s.FallsAsleep env queueEmpty := by
  have hwake := staPsWake_runs env s true
  have hsleep : Runs SpinLock.ieee (compute fun s => s.staPsSleep env) (asked env s) true
      ((asked env s).staPsSleep env).1 ((asked env s).staPsSleep env).2 true := .compute _
  constructor
  · intro hd hsleeps
    obtain ⟨hone, hawake, hqueue⟩ := (fallsAsleep_iff env queueEmpty s).mp hsleeps
    subst hqueue
    refine Hangs.not_disciplined (.bind_right .acquire (.bind_left _ ?_)) hd
    refine .bind_right hwake (.bind_right hsleep ?_)
    rw [hone]
    exact staPsTurn_hangs env _ ((staPsSleep_staSleep env _).trans hawake)
  · intro hno
    obtain ⟨s', hturn⟩ := staPsTurn_runs env queueEmpty _ _ true fun h =>
      hno ((fallsAsleep_iff env queueEmpty s).mpr ⟨h.1, (staPsSleep_staSleep env _).symm.trans h.2.1, h.2.2⟩)
    exact Runs.disciplined (.bind .acquire (.bind (.bind hwake (.bind hsleep hturn)) .release))

end

end Locked

end Rtl8187

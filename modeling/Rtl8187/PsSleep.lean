/-
# How long a station sleeps

The two halves of a sleep: `ieee80211_sta_ps_sleep` (`ieee80211_softmac.c`) keeps in
two words when the station is to wake up, and `rtl8180_hw_sleep` (`r8187_core.c`),
a work of its own, arms the wake-up timer from the low word and the hardware's clock.

The time is the DTIM's plus the sleep as long as the product of beacon interval and DTIM
period fits a word (`psPair_iff`). The length of the sleep is the distance to the
wake-up time whichever of the two comes first, so a work that runs late puts the
station to sleep past that time (`hwSleep_ahead_iff`).

Key definitions: `SoftMac.DecidesToSleep`, `hwSleep`, `FiresInTime`, `AheadOfWake`.
Key theorems: `psPair_iff`, `hwSleep_ahead_iff`, `psSleep_iff`.
-/
import Rtl8187.PowerSave

namespace Rtl8187

variable {P R : Type}

/-! ### When the station is to wake up -/

/-- A time that is kept in two words, the low one first. -/
def time64 (t : UInt32 × UInt32) : ℕ := t.2.toNat * 2 ^ 32 + t.1.toNat

theorem time64_lt (t : UInt32 × UInt32) : time64 t < 2 ^ 64 := by
  have hlow := t.1.toNat_lt
  have hhigh := t.2.toNat_lt
  unfold time64
  omega

/-- The hand-made carry is right: a word is added, and what does not fit goes to the
high word. -/
theorem time64_add (t : UInt32 × UInt32) (n : ℕ) :
    time64 (t.1 + UInt32.ofNat n, if t.1 + UInt32.ofNat n < t.1 then t.2 + 1 else t.2) =
      (time64 t + n % 2 ^ 32) % 2 ^ 64 := by
  have hlow := t.1.toNat_lt
  have hhigh := t.2.toNat_lt
  have hsum : (t.1 + UInt32.ofNat n).toNat = (t.1.toNat + n % 2 ^ 32) % 2 ^ 32 := by
    rw [UInt32.toNat_add, UInt32.toNat_ofNat']
  unfold time64
  by_cases hcarry : t.1 + UInt32.ofNat n < t.1
  · have hlt := UInt32.lt_iff_toNat_lt.mp hcarry
    have hone : (1 : UInt32).toNat = 1 := rfl
    rw [hsum] at hlt
    dsimp only
    rw [if_pos hcarry, UInt32.toNat_add, hsum, hone]
    omega
  · have hge := Nat.not_lt.mp fun h => hcarry (UInt32.lt_iff_toNat_lt.mpr h)
    rw [hsum] at hge
    dsimp only
    rw [if_neg hcarry, hsum]
    omega

namespace SoftMac

/-- How long the station may sleep after a DTIM: to the next one, in microseconds. -/
def dtimSpan (s : SoftMac P) : ℕ :=
  s.currentNetwork.beaconInterval.toNat * s.currentHeard.dtimPeriod.toNat * 1000

/-- What `ieee80211_sta_ps_sleep` asks before it says 1: a DTIM was heard that
announces nothing for the station, nothing was sent or received for so long, and no
management frame waits. -/
structure DecidesToSleep (env : Env) (s : SoftMac P) : Prop where
  heard : s.currentHeard.dtimData &&& dtimValid ≠ 0
  quiet : s.currentHeard.dtimData.toUInt16 &&& ((dtimUcast ||| dtimMbcast).toUInt16 &&& s.ps) = 0
  sent : timeAfter env.now (s.transStart + s.msecs s.psTimeout) = true
  received : timeAfter env.now (s.lastRxPsTime + s.msecs s.psTimeout) = true
  mgmt : s.softmacFeatures.singleQueue = true → s.mgmtQueue.tail = s.mgmtQueue.head

theorem decidesToSleep_iff (env : Env) (s : SoftMac P) : s.DecidesToSleep env ↔ (s.staPsSleep env).1 = 1 := by
  rw [Locked.staPsSleep_one_iff]
  constructor
  · intro h
    exact ⟨h.heard, h.quiet, h.sent, h.received, h.mgmt⟩
  · rintro ⟨hheard, hquiet, hsent, hrx, hmgmt⟩
    exact ⟨hheard, hquiet, hsent, hrx, hmgmt⟩

/-- The only thing a decision to sleep leaves behind, with the DTIM used up, is the time. -/
theorem staPsSleep_of_decides {env : Env} {s : SoftMac P} (h : s.DecidesToSleep env) :
    s.staPsSleep env = (1, { s with
      currentHeard := { s.currentHeard with dtimData := 0 }
      psTl := s.wakeTime.1
      psTh := s.wakeTime.2 }) := by
  have hmgmt : ¬ (s.softmacFeatures.singleQueue = true ∧ s.mgmtQueue.tail ≠ s.mgmtQueue.head) := by
    rintro ⟨hsingle, hne⟩
    exact hne (h.mgmt hsingle)
  unfold staPsSleep
  dsimp only
  rw [if_neg h.heard, if_neg (not_not.mpr h.quiet), if_neg (not_not.mpr h.sent), if_neg (not_not.mpr h.received),
    if_neg hmgmt]
  rfl

/-- The product is what a word keeps of it. -/
theorem time64_wakeTime (s : SoftMac P) :
    time64 s.wakeTime = (time64 s.currentHeard.lastDtimStaTime + s.dtimSpan % 2 ^ 32) % 2 ^ 64 :=
  time64_add _ _

/-- The pair `ieee80211_sta_ps_sleep` leaves is the timestamp plus the span. -/
def PairIsSum (env : Env) (s : SoftMac P) : Prop :=
  (s.staPsSleep env).1 = 1 →
    time64 ((s.staPsSleep env).2.psTl, (s.staPsSleep env).2.psTh) =
      (time64 s.currentHeard.lastDtimStaTime + s.dtimSpan) % 2 ^ 64

/-- **A station that decides to sleep has the right time exactly if the span fits a
word.** -/
theorem psPair_iff (env : Env) (s : SoftMac P) :
    s.PairIsSum env ↔ (s.DecidesToSleep env → s.dtimSpan < 2 ^ 32) := by
  unfold PairIsSum
  rw [← decidesToSleep_iff]
  refine forall_congr' fun h => ?_
  have hspan : s.dtimSpan < 2 ^ 64 := by
    have hinterval := s.currentNetwork.beaconInterval.toNat_lt
    have hperiod := s.currentHeard.dtimPeriod.toNat_lt
    calc s.dtimSpan ≤ 2 ^ 16 * 2 ^ 8 * 1000 := Nat.mul_le_mul_right _ (Nat.mul_le_mul hinterval.le hperiod.le)
      _ < 2 ^ 64 := by decide
  have hlast := time64_lt s.currentHeard.lastDtimStaTime
  rw [staPsSleep_of_decides h]
  dsimp only
  rw [Prod.mk.eta, time64_wakeTime]
  omega

end SoftMac

/-! ### The wake-up timer -/

/-- What of the driver's `r8180_priv` a sleep is about. -/
structure PsPriv (R : Type) where
  psSleepFinish : UInt8
  /-- When `ps_timer` fires, if it is armed. -/
  psTimer : Option UInt64
  /-- `rf_sleep`, where a radio has one. -/
  rfSleep : Option (R → R)
  radio : R

/-- `MIN_SLEEP_TIME` -/
def minSleepTime : UInt32 := 50000

/-- `MAX_SLEEP_TIME` -/
def maxSleepTime : UInt32 := 10000000

/-- `HW_WAKE_DELAY`, in milliseconds -/
def hwWakeDelay : UInt32 := 5

/-- `rtl8180_hw_sleep`, where `rb` is what `TSFTR` reads. -/
def hwSleep (env : Env) (rb psTl : UInt32) (p : PsPriv R) : PsPriv R :=
  if p.psSleepFinish ≠ 0 then p
  else
    let tl := psTl - hwWakeDelay * 1000
    let tl := if tl = 0 then 1 else tl
    if (rb < tl ∧ tl - rb < minSleepTime) ∨ (rb > tl ∧ rb - tl < minSleepTime) then p
    else if (tl > rb ∧ tl - rb > maxSleepTime) ∨ (tl < rb ∧ rb - tl > maxSleepTime) then p
    else
      let timeout := if rb > tl then (rb - tl) >>> 10 else (tl - rb) >>> 10
      { p with
        psTimer := some (env.now + timeout.toUInt64)
        radio := (p.rfSleep.getD id) p.radio
        psSleepFinish := 1 }

/-- The time the timer is to fire at: the wake-up time less the wake delay. -/
def wakeBy (psTl : UInt32) : UInt32 := psTl - hwWakeDelay * 1000

/-- A sleep begins, with the timer armed for so many jiffies from now. -/
structure Arms (env : Env) (p p' : PsPriv R) (timeout : UInt32) : Prop where
  awake : p.psSleepFinish = 0
  asleep : p'.psSleepFinish ≠ 0
  timer : p'.psTimer = some (env.now + timeout.toUInt64)

/-- If the timer is armed then for a time that is not past, and that is not later than
`wakeBy`. -/
def FiresInTime (env : Env) (rb psTl : UInt32) (p : PsPriv R) : Prop :=
  ∀ timeout : UInt32, Arms env p (hwSleep env rb psTl p) timeout →
    rb ≤ wakeBy psTl ∧ timeout.toNat * 1024 ≤ (wakeBy psTl - rb).toNat

/-- The value `tl` of `rtl8180_hw_sleep`, which is never 0. -/
def wakeLow (psTl : UInt32) : UInt32 := if wakeBy psTl = 0 then 1 else wakeBy psTl

/-- `rtl8180_hw_sleep` is not late, or it is so late, or so little, that it does not
put the station to sleep. -/
def AheadOfWake (rb psTl : UInt32) (p : PsPriv R) : Prop :=
  p.psSleepFinish ≠ 0 ∨ rb ≤ wakeBy psTl ∨
    rb ≠ wakeLow psTl ∧ (rb - wakeLow psTl < minSleepTime ∨ maxSleepTime < rb - wakeLow psTl)

/-- The absolute difference of two times. -/
def distance (rb tl : UInt32) : UInt32 := if rb > tl then rb - tl else tl - rb

theorem distance_of_lt {rb tl : UInt32} (h : tl < rb) : distance rb tl = rb - tl := if_pos h

theorem distance_of_le {rb tl : UInt32} (h : rb ≤ tl) : distance rb tl = tl - rb :=
  if_neg fun hlt => absurd (UInt32.lt_of_lt_of_le hlt h) (UInt32.lt_irrefl _)

/-- The distance is one to sleep for. -/
def InReach (rb tl : UInt32) : Prop :=
  rb ≠ tl → minSleepTime ≤ distance rb tl ∧ distance rb tl ≤ maxSleepTime

/-- The two tests of `rtl8180_hw_sleep` together. -/
theorem inReach_iff (rb tl : UInt32) :
    InReach rb tl ↔
      ¬ ((rb < tl ∧ tl - rb < minSleepTime) ∨ (rb > tl ∧ rb - tl < minSleepTime)) ∧
        ¬ ((tl > rb ∧ tl - rb > maxSleepTime) ∨ (tl < rb ∧ rb - tl > maxSleepTime)) := by
  unfold InReach
  by_cases heq : rb = tl
  · simp [heq]
  rcases UInt32.lt_or_lt_of_ne heq with hlt | hlt
  · have hnot : ¬ tl < rb := UInt32.lt_asymm hlt
    simp [distance_of_le (UInt32.le_of_lt hlt), hlt, hnot, heq]
  · have hnot : ¬ rb < tl := UInt32.lt_asymm hlt
    simp [distance_of_lt hlt, hlt, hnot, heq]

/-- The station is put to sleep for the distance, if that is one to sleep for. -/
theorem hwSleep_of_reach {env : Env} {rb psTl : UInt32} {p : PsPriv R} (hawake : p.psSleepFinish = 0)
    (h : InReach rb (wakeLow psTl)) :
    hwSleep env rb psTl p = { p with
      psTimer := some (env.now + (distance rb (wakeLow psTl) >>> 10).toUInt64)
      radio := (p.rfSleep.getD id) p.radio
      psSleepFinish := 1 } := by
  have hshift : (if rb > wakeLow psTl then (rb - wakeLow psTl) >>> 10 else (wakeLow psTl - rb) >>> 10) =
      distance rb (wakeLow psTl) >>> 10 := (apply_ite (· >>> (10 : UInt32)) _ _ _).symm
  obtain ⟨hmin, hmax⟩ := (inReach_iff _ _).mp h
  unfold hwSleep
  rw [if_neg (not_not.mpr hawake)]
  refine (if_neg hmin).trans ((if_neg hmax).trans ?_)
  rw [← hshift]
  rfl

/-- Otherwise nothing happens. -/
theorem hwSleep_of_not_reach {env : Env} {rb psTl : UInt32} {p : PsPriv R} (h : ¬ InReach rb (wakeLow psTl)) :
    hwSleep env rb psTl p = p := by
  unfold hwSleep
  by_cases hasleep : p.psSleepFinish ≠ 0
  · rw [if_pos hasleep]
  · rw [if_neg hasleep]
    refine ite_eq_left_iff.mpr fun hmin => ?_
    exact if_pos (not_not.mp fun hmax => h ((inReach_iff _ _).mpr ⟨hmin, hmax⟩))

/-- The timer is armed in one case, and for one timeout. -/
theorem arms_iff (env : Env) (rb psTl : UInt32) (p : PsPriv R) (timeout : UInt32) :
    Arms env p (hwSleep env rb psTl p) timeout ↔
      p.psSleepFinish = 0 ∧ InReach rb (wakeLow psTl) ∧ timeout = distance rb (wakeLow psTl) >>> 10 := by
  constructor
  · intro h
    by_cases hreach : InReach rb (wakeLow psTl)
    · refine ⟨h.awake, hreach, ?_⟩
      have htimer := h.timer
      rw [hwSleep_of_reach h.awake hreach] at htimer
      have hsame := (UInt64.add_right_inj _).mp (Option.some.inj htimer)
      exact (UInt32.toUInt64_inj.mp hsame).symm
    · have hasleep := h.asleep
      rw [hwSleep_of_not_reach hreach] at hasleep
      exact absurd h.awake hasleep
  · rintro ⟨hawake, hreach, rfl⟩
    rw [hwSleep_of_reach hawake hreach]
    exact ⟨hawake, show (1 : UInt8) ≠ 0 by decide, rfl⟩

/-- A sleep that begins in time ends in time. -/
theorem timeout_le {rb psTl : UInt32} (h : rb ≤ wakeBy psTl) (hreach : InReach rb (wakeLow psTl)) :
    (distance rb (wakeLow psTl) >>> 10).toNat * 1024 ≤ (wakeBy psTl - rb).toNat := by
  have hlow : wakeLow psTl = wakeBy psTl := by
    refine if_neg fun hzero => ?_
    rw [hzero] at h
    have hrb : rb = 0 := UInt32.le_antisymm h (UInt32.zero_le)
    rw [wakeLow, if_pos hzero, hrb] at hreach
    exact absurd (hreach (by decide)).1 (by decide)
  rw [hlow, distance_of_le h, UInt32.toNat_shiftRight, Nat.shiftRight_eq_div_pow]
  exact Nat.div_mul_le_self _ _

/-- **The station is not kept asleep past its time exactly if the work runs ahead of
it.** -/
theorem hwSleep_ahead_iff (env : Env) (rb psTl : UInt32) (p : PsPriv R) :
    FiresInTime env rb psTl p ↔ AheadOfWake rb psTl p := by
  have hfires : FiresInTime env rb psTl p ↔
      (p.psSleepFinish = 0 → InReach rb (wakeLow psTl) → rb ≤ wakeBy psTl) := by
    constructor
    · intro h hawake hreach
      exact (h _ ((arms_iff env rb psTl p _).mpr ⟨hawake, hreach, rfl⟩)).1
    · intro h timeout harms
      obtain ⟨hawake, hreach, rfl⟩ := (arms_iff env rb psTl p timeout).mp harms
      exact ⟨h hawake hreach, timeout_le (h hawake hreach) hreach⟩
  have hlate : ¬ rb ≤ wakeBy psTl → (¬ InReach rb (wakeLow psTl) ↔
      rb ≠ wakeLow psTl ∧ (rb - wakeLow psTl < minSleepTime ∨ maxSleepTime < rb - wakeLow psTl)) := by
    intro h
    have hle : wakeLow psTl ≤ rb := by
      unfold wakeLow
      split_ifs with hzero
      · rw [hzero] at h
        rw [UInt32.le_iff_toNat_le] at h ⊢
        have hone : (1 : UInt32).toNat = 1 := rfl
        have hz : (0 : UInt32).toNat = 0 := rfl
        omega
      · exact UInt32.le_of_lt (UInt32.not_le.mp h)
    have hdist : rb ≠ wakeLow psTl → distance rb (wakeLow psTl) = rb - wakeLow psTl := fun hne =>
      distance_of_lt (UInt32.lt_of_le_of_ne hle hne.symm)
    unfold InReach
    rw [Classical.not_imp]
    refine and_congr_right fun hne => ?_
    rw [hdist hne, not_and_or, UInt32.not_le, UInt32.not_le]
  rw [hfires]
  unfold AheadOfWake
  by_cases hin : rb ≤ wakeBy psTl
  · simp only [hin, implies_true, true_or, or_true]
  · rw [← hlate hin]
    simp only [hin, false_or, imp_false]
    exact imp_iff_not_or

/-- **The station is to wake up at the right time exactly if the span fits a word, and
wakes up in time exactly if the work that puts it to sleep is not late.** -/
theorem psSleep_iff (env : Env) (s : SoftMac P) (rb psTl : UInt32) (p : PsPriv R) :
    (s.PairIsSum env ↔ (s.DecidesToSleep env → s.dtimSpan < 2 ^ 32)) ∧
      (FiresInTime env rb psTl p ↔ AheadOfWake rb psTl p) :=
  ⟨SoftMac.psPair_iff env s, hwSleep_ahead_iff env rb psTl p⟩

/-- A driver that is awake and has a radio it need not put to sleep. -/
def PsPriv.awake : PsPriv Unit := ⟨0, none, none, ()⟩

/-- A tenth of a second late, the station sleeps for a tenth of a second. -/
theorem lateWork_sleeps : ¬ FiresInTime ⟨0, true, fun _ => false, ⟨0, 0, 0, 0, 0, 0⟩⟩ 1100000 1005000 PsPriv.awake := by
  intro h
  exact absurd (h 97 ⟨rfl, by decide, rfl⟩).1 (by decide)

end Rtl8187

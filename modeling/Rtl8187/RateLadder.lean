/-
# The rate ladder and the retry rate

`sta_rateadaptive8187` (`r8187_core.c`) keeps the rate in units of 500 kb/s
(`CurrentOperaRate`) and gives it back as `ieee->rate`. From a supported rate,
with no trial begun, it never leaves the twelve rates that have a code
(`rate_supported`): what it goes back to after a trial is the rate the trial
began at, 36 or 11 Mb/s.

What it decides by is the retry rate since the last step. Of the frames sent the
step keeps eight bits, and of the quotient sixteen, so with more than 255 frames,
or with more than 655 retries for each frame, it decides by another number
(`retryRate_exact_iff`).

Key definitions: `OnLadder`, `RateReadings.sent`, `CutsHarmless`.
Key theorems: `onLadder_step`, `rate_supported`, `retryRate_toNat`, `retryRate_exact_iff`.
-/
import Rtl8187.RateAdaptive
import Rtl8187.TxTime

namespace Rtl8187

namespace RateAdapter

variable {r r' : RateReadings} {rr : UInt16} {s : RateAdapter}

/-! ### The ladder -/

/-- The supported rates in units of 500 kb/s, as `CurrentOperaRate` has them. -/
def LadderOpera (rate : UInt8) : Prop :=
  rate ∈ ([2, 4, 11, 22, 12, 18, 24, 36, 48, 72, 96, 108] : List UInt8)

instance (rate : UInt8) : Decidable (LadderOpera rate) := inferInstanceAs (Decidable (_ ∈ _))

/-- The rate is a supported one, and so is the one a trial goes back to. -/
structure OnLadder (s : RateAdapter) : Prop where
  opera : LadderOpera s.currentOperaRate
  trial : s.tryuping = true → LadderOpera s.currTxRate

/-- What the branches of a step can do: they stay on the ladder, leave the
counters as they were read, and set no other gain than 3, 4 or 5. -/
structure Moves (s t : RateAdapter) : Prop where
  ladder : OnLadder s → OnLadder t
  lastRetryCnt : t.lastRetryCnt = s.lastRetryCnt
  lastTxokCnt : t.lastTxokCnt = s.lastTxokCnt
  gain : t.initialGain = s.initialGain ∨ t.initialGain ∈ ([3, 4, 5] : List UInt8)

theorem Moves.refl (s : RateAdapter) : Moves s s := ⟨id, rfl, rfl, Or.inl rfl⟩

theorem Moves.trans {t u : RateAdapter} (h : Moves s t) (h' : Moves t u) : Moves s u where
  ladder := h'.ladder ∘ h.ladder
  lastRetryCnt := h'.lastRetryCnt.trans h.lastRetryCnt
  lastTxokCnt := h'.lastTxokCnt.trans h.lastTxokCnt
  gain := by
    rcases h'.gain with heq | hset
    · rw [heq]
      exact h.gain
    · exact Or.inr hset

/-- The twelve rates divided by five, and multiplied by five again. -/
theorem mem_rtlRate_mul (k : UInt8) : k.toNat * 5 ∈ rtlRate ↔ LadderOpera k := by
  simp only [rtlRate, LadderOpera, List.mem_cons, List.not_mem_nil, or_false, ← UInt8.toNat_inj]
  simp
  omega

theorem ladderOpera_div : ∀ {rate : ℕ}, rate ∈ rtlRate → LadderOpera (UInt8.ofNat (rate / 5)) := by
  simp only [rtlRate, List.forall_mem_cons]
  decide

theorem moves_setGain {g : UInt8} (hg : g ∈ ([3, 4, 5] : List UInt8)) : Moves s (s.setGain g) := by
  unfold setGain
  refine iteInduction (fun _ => ?_) (fun _ => Moves.refl s)
  exact ⟨fun h => ⟨h.opera, h.trial⟩, rfl, rfl, Or.inr hg⟩

/-- A trial goes back to the rate it began at. -/
theorem moves_tryUp {next : UInt8} (hnext : LadderOpera next) : Moves s (s.tryUp rr next) := by
  unfold tryUp
  refine iteInduction (fun _ => ?_) (fun _ => ?_)
  · exact ⟨fun h => ⟨hnext, fun _ => h.opera⟩, rfl, rfl, Or.inl rfl⟩
  · exact ⟨fun h => ⟨h.opera, h.trial⟩, rfl, rfl, Or.inl rfl⟩

theorem ladderOpera_rateUp {k : UInt8} (h : LadderOpera k) : LadderOpera (rateUp k) := by
  unfold rateUp
  split_ifs
  · decide
  · decide
  · decide
  · decide
  · decide
  · decide
  · decide
  · decide
  · exact h

theorem ladderOpera_rateDown (k : UInt8) : LadderOpera (rateDown k) := by
  unfold rateDown
  split_ifs <;> decide

/-- **A step with data**, at each rate of the ladder. -/
theorem moves_adapt : Moves s (s.adapt rr) := by
  have stay : Moves s s := Moves.refl s
  -- a rung is changed with the count of bad steps, and the gain may be set after it
  have goes : ∀ k n : UInt8, LadderOpera k →
      Moves s { s with currentOperaRate := k, tryDownCountLowData := n } :=
    fun k n hk => ⟨fun h => ⟨hk, h.trial⟩, rfl, rfl, Or.inl rfl⟩
  have goesGain : ∀ k n g : UInt8, LadderOpera k → g ∈ ([3, 4, 5] : List UInt8) →
      Moves s (setGain { s with currentOperaRate := k, tryDownCountLowData := n } g) :=
    fun k n g hk hg => (goes k n hk).trans (moves_setGain hg)
  have count : ∀ n : UInt8, Moves s { s with tryDownCountLowData := n } :=
    fun n => ⟨fun h => ⟨h.opera, h.trial⟩, rfl, rfl, Or.inl rfl⟩
  unfold adapt
  refine iteInduction (fun _ => ?_) (fun _ => ?_)
  · exact iteInduction (fun _ => goes 96 _ (by decide)) (fun _ => stay)
  refine iteInduction (fun _ => ?_) (fun _ => ?_)
  · refine iteInduction (fun _ => goes 72 _ (by decide)) (fun _ => ?_)
    exact iteInduction (fun _ => goes 108 _ (by decide)) (fun _ => stay)
  refine iteInduction (fun _ => ?_) (fun _ => ?_)
  · refine iteInduction (fun _ => goes 48 _ (by decide)) (fun _ => ?_)
    exact iteInduction (fun _ => moves_tryUp (by decide)) (fun _ => stay)
  refine iteInduction (fun _ => ?_) (fun _ => ?_)
  · refine iteInduction (fun _ => goesGain 36 _ 4 (by decide) (by decide)) (fun _ => ?_)
    exact iteInduction (fun _ => goes 72 _ (by decide)) (fun _ => stay)
  refine iteInduction (fun _ => ?_) (fun _ => ?_)
  · refine iteInduction (fun _ => goesGain 22 _ 4 (by decide) (by decide)) (fun _ => ?_)
    exact iteInduction (fun _ => goesGain 48 _ 5 (by decide) (by decide)) (fun _ => stay)
  refine iteInduction (fun _ => ?_) (fun _ => ?_)
  · refine iteInduction (fun _ => ?_) (fun _ => ?_)
    · exact iteInduction (fun _ => goesGain 11 _ 3 (by decide) (by decide)) (fun _ => count _)
    · exact iteInduction (fun _ => (count _).trans (moves_tryUp (by decide))) (fun _ => stay)
  refine iteInduction (fun _ => ?_) (fun _ => ?_)
  · refine iteInduction (fun _ => ?_) (fun _ => ?_)
    · exact iteInduction (fun _ => goesGain 4 _ 3 (by decide) (by decide)) (fun _ => count _)
    · exact iteInduction (fun _ => goesGain 22 _ 4 (by decide) (by decide)) (fun _ => stay)
  refine iteInduction (fun _ => ?_) (fun _ => ?_)
  · refine iteInduction (fun _ => ?_) (fun _ => ?_)
    · exact iteInduction (fun _ => goesGain 2 _ 3 (by decide) (by decide)) (fun _ => count _)
    · exact iteInduction (fun _ => goes 11 _ (by decide)) (fun _ => stay)
  refine iteInduction (fun _ => ?_) (fun _ => stay)
  exact iteInduction (fun _ => goes 4 _ (by decide)) (fun _ => stay)

theorem moves_endTry : Moves s s.endTry := by
  unfold endTry
  refine iteInduction (fun _ => ?_) (fun _ => Moves.refl s)
  exact ⟨fun h => ⟨h.opera, fun hoff => absurd hoff Bool.false_ne_true⟩, rfl, rfl, Or.inl rfl⟩

theorem moves_noData : Moves s s.noData := by
  unfold noData
  refine iteInduction (fun _ => ?_) (fun _ => ?_)
  · exact ⟨fun h => ⟨ladderOpera_rateUp h.opera, h.trial⟩, rfl, rfl, Or.inl rfl⟩
  · exact ⟨fun h => ⟨h.opera, h.trial⟩, rfl, rfl, Or.inl rfl⟩

theorem moves_withData {tx : UInt8} : Moves s (s.withData rr tx) := by
  have hdata : Moves s { s with tryupingCountNoData := 0 } :=
    ⟨fun h => ⟨h.opera, h.trial⟩, rfl, rfl, Or.inl rfl⟩
  have hend := hdata.trans moves_endTry
  unfold withData
  refine iteInduction (fun hgives => ?_) (fun _ => ?_)
  · exact ⟨fun h => ⟨h.trial hgives.1, (hend.ladder h).trial⟩, hend.lastRetryCnt,
      hend.lastTxokCnt, hend.gain⟩
  refine iteInduction (fun _ => ?_) (fun _ => hend.trans moves_adapt)
  exact ⟨fun h => ⟨ladderOpera_rateDown _, (hend.ladder h).trial⟩, hend.lastRetryCnt,
    hend.lastTxokCnt, hend.gain⟩

/-- The branches of a step, after the readings. -/
theorem staRateadaptive8187_moves : ∃ t, Moves (s.takeReadings r) t ∧ s.staRateadaptive8187 r =
    { t with lastRetryRate := s.retryRate r, rate := t.currentOperaRate.toNat * 5 } := by
  refine ⟨_, ?_, rfl⟩
  exact iteInduction (fun _ => moves_noData) (fun _ => moves_withData)

/-- What holds between two steps. -/
def Supported (s : RateAdapter) : Prop :=
  s.rate ∈ rtlRate ∧ (s.tryuping = true → LadderOpera s.currTxRate)

/-- **One step.** -/
theorem supported_step (h : s.Supported) : (s.staRateadaptive8187 r).Supported := by
  have hread : OnLadder (s.takeReadings r) := by
    refine ⟨?_, h.2⟩
    show LadderOpera (if 85 < r.signalstrength then 108 else UInt8.ofNat (s.rate / 5))
    exact iteInduction (fun _ => by decide) (fun _ => ladderOpera_div h.1)
  obtain ⟨t, hmoves, hstep⟩ := @staRateadaptive8187_moves r s
  rw [hstep]
  exact ⟨(mem_rtlRate_mul _).mpr (hmoves.ladder hread).opera, (hmoves.ladder hread).trial⟩

/-- **The rate ladder is closed.** From any of the twelve supported rates, with
no trial begun, every step leaves one of them: it has a `case` of its own in
`ieeerate2rtlrate`, and `rtl8180_rate2rate` gives it back. -/
theorem rate_supported (s : RateAdapter) (rs : List RateReadings) (hrate : s.rate ∈ rtlRate)
    (hclear : s.tryuping = false) :
    (Run.run staRateadaptive8187 s rs).rate ∈ rtlRate ∧
    rtlCode? (Run.run staRateadaptive8187 s rs).rate ≠ none ∧
    rate2rate (ieeerate2rtlrate (Run.run staRateadaptive8187 s rs).rate) =
      (Run.run staRateadaptive8187 s rs).rate := by
  have hstart : s.Supported := ⟨hrate, fun htry => absurd (hclear.symm.trans htry) (by decide)⟩
  have hrun : (Run.run staRateadaptive8187 s rs).Supported :=
    Run.inv_run (fun s r (h : s.Supported) _ => supported_step h) s rs hstart (Run.allSteps_true s rs)
  obtain ⟨code, hcode, hback⟩ := rtlCode?_of_mem hrun.1
  refine ⟨hrun.1, by simp [hcode], ?_⟩
  unfold ieeerate2rtlrate
  rw [hcode]
  exact hback

theorem rate_supported_init : init.rate ∈ rtlRate ∧ init.tryuping = false ∧
    (Run.run staRateadaptive8187 init (List.replicate 30 idleReadings)).rate ∈ rtlRate ∧
    rtlCode? (Run.run staRateadaptive8187 init (List.replicate 30 idleReadings)).rate ≠ none ∧
    rate2rate (ieeerate2rtlrate (Run.run staRateadaptive8187 init (List.replicate 30 idleReadings)).rate) =
      (Run.run staRateadaptive8187 init (List.replicate 30 idleReadings)).rate :=
  ⟨by decide, rfl, rate_supported init (List.replicate 30 idleReadings) (by decide) rfl⟩

end RateAdapter

/-! ### The retry rate -/

/-- The frames the statistics count as sent. -/
def RateReadings.sent (r : RateReadings) : ℕ :=
  r.txbeaconokint.toNat + r.txnpokint.toNat + r.txhpokint.toNat + r.txlpokint.toNat

/-- The retries between two readings of the hardware's counter, which wraps. -/
def RateReadings.retries (r r' : RateReadings) : ℕ := (r'.tallyCnt - r.tallyCnt).toNat

/-- The frames sent between two readings. -/
def RateReadings.frames (r r' : RateReadings) : ℕ := r'.sent - r.sent

namespace RateAdapter

variable {r r' : RateReadings} {s : RateAdapter}

/-- Neither cut shows in the retry rate: there are few frames, and few retries
for each; or the quotient by the low byte of the number of frames is still zero
when it should be; or it is too large by a multiple of what the second cut takes
away. -/
def CutsHarmless (retries frames : ℕ) : Prop :=
  if frames < 2 ^ 8 then frames = 0 ∨ 100 * retries < 2 ^ 16 * frames
  else if frames % 2 ^ 8 = 0 then 100 * retries < frames
  else 100 * retries < frames % 2 ^ 8 ∨
    ∃ k, 0 < k ∧ 100 * retries / (frames % 2 ^ 8) = 100 * retries / frames + 2 ^ 16 * k

theorem lastRetryCnt_step : (s.staRateadaptive8187 r).lastRetryCnt = r.tallyCnt := by
  obtain ⟨t, hmoves, hstep⟩ := @staRateadaptive8187_moves r s
  rw [hstep]
  exact hmoves.lastRetryCnt

theorem lastTxokCnt_step : (s.staRateadaptive8187 r).lastTxokCnt = r.txok := by
  obtain ⟨t, hmoves, hstep⟩ := @staRateadaptive8187_moves r s
  rw [hstep]
  exact hmoves.lastTxokCnt

theorem txok_toNat (r : RateReadings) : r.txok.toNat = r.sent % 2 ^ 64 := by
  unfold RateReadings.txok RateReadings.sent
  simp only [UInt64.toNat_add]
  omega

/-- Of the frames sent the step keeps the low byte. -/
theorem currTxokCnt_toNat (hsent : r.sent ≤ r'.sent) :
    ((s.staRateadaptive8187 r).currTxokCnt r').toNat = r.frames r' % 2 ^ 8 := by
  unfold currTxokCnt RateReadings.frames
  rw [lastTxokCnt_step, UInt64.toNat_toUInt8, UInt64.toNat_sub, txok_toNat, txok_toNat]
  omega

/-- **What the step decides by.** -/
theorem retryRate_toNat (hsent : r.sent ≤ r'.sent) :
    ((s.staRateadaptive8187 r).retryRate r').toNat =
      100 * r.retries r' / (r.frames r' % 2 ^ 8) % 2 ^ 16 := by
  have hcut := @currTxokCnt_toNat r r' s hsent
  unfold retryRate
  rw [lastRetryCnt_step, ← hcut, mul_comm 100]
  by_cases hsome : 0 < (s.staRateadaptive8187 r).currTxokCnt r'
  · rw [if_pos hsome]
    exact UInt16.toNat_ofNat'
  · have hzero : ((s.staRateadaptive8187 r).currTxokCnt r').toNat = 0 := by
      rw [UInt8.lt_iff_toNat_lt] at hsome
      simpa using hsome
    rw [if_neg hsome, hzero, Nat.div_zero]
    rfl

/-- A quotient whose divisor loses a multiple of 256 stays the same only when
it is zero. -/
theorem div_lowByte_iff (n : ℕ) {frames : ℕ} (hmany : 2 ^ 8 ≤ frames) (hlow : 0 < frames % 2 ^ 8) :
    n / (frames % 2 ^ 8) = n / frames ↔ n < frames % 2 ^ 8 := by
  have hlt : frames % 2 ^ 8 + 2 ^ 8 ≤ frames := by omega
  have hbyte : frames % 2 ^ 8 < 2 ^ 8 := Nat.mod_lt _ (by decide)
  generalize frames % 2 ^ 8 = g at hlow hlt hbyte ⊢
  refine ⟨fun heq => ?_, fun hsmall => ?_⟩
  · by_contra hge
    have hone : 1 ≤ n / g := (Nat.one_le_div_iff hlow).mpr (by omega)
    have hover : n < n / g * g + g := Nat.lt_div_mul_add hlow
    have hunder : n / g * frames ≤ n := heq ▸ Nat.div_mul_le_self n frames
    have hmore : n / g * g + n / g * 2 ^ 8 ≤ n / g * frames := by
      rw [← Nat.mul_add]
      exact Nat.mul_le_mul_left _ hlt
    omega
  · rw [Nat.div_eq_of_lt hsmall, Nat.div_eq_of_lt (by omega)]

/-- The two cuts and the quotient. -/
theorem cuts_iff {retries frames : ℕ} (hretries : retries < 2 ^ 16) :
    100 * retries / (frames % 2 ^ 8) % 2 ^ 16 = 100 * retries / frames ↔
      CutsHarmless retries frames := by
  unfold CutsHarmless
  by_cases hfew : frames < 2 ^ 8
  · rw [if_pos hfew, Nat.mod_eq_of_lt hfew]
    rcases Nat.eq_zero_or_pos frames with rfl | hpos
    · simp
    · rw [Nat.mod_eq_iff_lt (by decide), Nat.div_lt_iff_lt_mul hpos]
      exact (or_iff_right hpos.ne').symm
  · rw [if_neg hfew]
    by_cases hlow : frames % 2 ^ 8 = 0
    · rw [if_pos hlow, hlow, Nat.div_zero, Nat.zero_mod, eq_comm, Nat.div_eq_zero_iff]
      omega
    · rw [if_neg hlow, ← div_lowByte_iff _ (by omega) (by omega)]
      have hfits : 100 * retries / frames < 2 ^ 16 := by
        rw [Nat.div_lt_iff_lt_mul (by omega)]
        omega
      generalize 100 * retries / (frames % 2 ^ 8) = q
      generalize 100 * retries / frames = x at hfits ⊢
      constructor
      · intro heq
        rcases Nat.eq_zero_or_pos (q / 2 ^ 16) with hzero | hpos
        · exact Or.inl (by omega)
        · exact Or.inr ⟨q / 2 ^ 16, hpos, by omega⟩
      · rintro (heq | ⟨k, -, heq⟩)
        · omega
        · omega

/-- **The retry rate.** Between two readings it is the floor of the exact rate
exactly when the cuts are harmless, and zero, then, only without frames or
retries exactly when there is a retry for each hundred frames. -/
theorem retryRate_exact_iff (s : RateAdapter) (r r' : RateReadings) (hsent : r.sent ≤ r'.sent) :
    (((s.staRateadaptive8187 r).retryRate r').toNat = 100 * r.retries r' / r.frames r' ↔
      CutsHarmless (r.retries r') (r.frames r')) ∧
    (((s.staRateadaptive8187 r).retryRate r').toNat = 100 * r.retries r' / r.frames r' ∧
        ((s.staRateadaptive8187 r).retryRate r' = 0 → r.frames r' = 0 ∨ r.retries r' = 0) ↔
      CutsHarmless (r.retries r') (r.frames r') ∧
        (r.frames r' = 0 ∨ r.retries r' = 0 ∨ r.frames r' ≤ 100 * r.retries r')) := by
  have hretries : r.retries r' < 2 ^ 16 := UInt16.toNat_lt _
  have hexact := @retryRate_toNat r r' s hsent
  have hiff := @cuts_iff (r.retries r') (r.frames r') hretries
  rw [← hexact] at hiff
  refine ⟨hiff, ?_⟩
  rw [← hiff]
  refine and_congr_right fun heq => ?_
  have hzero : (s.staRateadaptive8187 r).retryRate r' = 0 ↔ 100 * r.retries r' / r.frames r' = 0 := by
    rw [← UInt16.toNat_inj, heq]
    rfl
  rw [hzero, Nat.div_eq_zero_iff]
  omega

/-- Readings after 200 frames and 100 retries. -/
def calmReadings : RateReadings := ⟨100, 0, 0, 0, 200, 0, 40⟩

/-- Readings after 257 frames and 100 retries. -/
def busyReadings : RateReadings := ⟨100, 0, 0, 0, 257, 0, 40⟩

/-- The rate is right after 200 frames; after 257 the cuts do harm. -/
theorem retryRate_exact_calm_busy :
    (((init.staRateadaptive8187 idleReadings).retryRate calmReadings).toNat =
        100 * idleReadings.retries calmReadings / idleReadings.frames calmReadings ∧
      ((init.staRateadaptive8187 idleReadings).retryRate calmReadings = 0 →
        idleReadings.frames calmReadings = 0 ∨ idleReadings.retries calmReadings = 0)) ∧
    ¬ CutsHarmless (idleReadings.retries busyReadings) (idleReadings.frames busyReadings) := by
  have hcalm : CutsHarmless (idleReadings.retries calmReadings) (idleReadings.frames calmReadings) := by
    rw [CutsHarmless, if_pos (by decide)]
    exact Or.inr (by decide)
  refine ⟨(retryRate_exact_iff init idleReadings calmReadings (by decide)).2.mpr ⟨hcalm, ?_⟩, fun hbusy => ?_⟩
  · exact Or.inr (Or.inr (by decide))
  · exact absurd ((retryRate_exact_iff init idleReadings busyReadings (by decide)).1.mpr hbusy) (by decide)

/-- 100 retries for 257 frames are taken for ten thousand for each hundred. -/
theorem retryRate_of_many : ¬ ∀ (s : RateAdapter) (r r' : RateReadings), r.sent ≤ r'.sent →
    ((s.staRateadaptive8187 r).retryRate r').toNat = 100 * r.retries r' / r.frames r' ∧
      ((s.staRateadaptive8187 r).retryRate r' = 0 → r.frames r' = 0 ∨ r.retries r' = 0) := by
  intro h
  exact absurd (h init idleReadings busyReadings (by decide)).1 (by decide)

end RateAdapter

end Rtl8187

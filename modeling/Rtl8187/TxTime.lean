/-
# Rates and frame times

`ieeerate2rtlrate`, `rtl8180_rate2rate` and `ComputeTxTime` (`r8187_core.c`):
the two codes of a rate, and the time in microseconds a frame takes on the air,
which goes into the duration of an RTS frame.

At the rates of 802.11b the time of a frame is taken at a whole number of
Mb/s, so a frame at 5.5 Mb/s is timed as if it were sent at 5
(`computeTxTime_iff`).

Key definitions: `ieeerate2rtlrate`, `rate2rate`, `computeTxTime`, `txTime`.
Key theorems: `computeTxTime_ofdm`, `computeTxTime_cck`, `computeTxTime_iff`.
-/
import Mathlib.Algebra.Order.Floor.Div
import Mathlib.Tactic.IntervalCases
import Mathlib.Tactic.SplitIfs

namespace Rtl8187

/-! ### The codes of a rate -/

/-- The `case`s of `ieeerate2rtlrate`, for a rate in units of 100 kb/s. -/
def rtlCode? : ℤ → Option ℕ
  | 10 => some 0
  | 20 => some 1
  | 55 => some 2
  | 110 => some 3
  | 60 => some 4
  | 90 => some 5
  | 120 => some 6
  | 180 => some 7
  | 240 => some 8
  | 360 => some 9
  | 480 => some 10
  | 540 => some 11
  | _ => none

/-- `ieeerate2rtlrate` -/
def ieeerate2rtlrate (rate : ℤ) : ℕ := (rtlCode? rate).getD 3

/-- `rtl_rate` -/
def rtlRate : List ℕ := [10, 20, 55, 110, 60, 90, 120, 180, 240, 360, 480, 540]

/-- `rtl8180_rate2rate` -/
def rate2rate (rate : ℕ) : ℕ := if 11 < rate then 0 else rtlRate.getD rate 0

theorem rtlCode?_lt {rate : ℤ} {code : ℕ} (h : rtlCode? rate = some code) : code < 12 := by
  unfold rtlCode? at h
  split at h <;> simp at h <;> omega

/-- Whatever `ieee->rate` holds, it has one of the twelve codes. -/
theorem ieeerate2rtlrate_lt (rate : ℤ) : ieeerate2rtlrate rate < 12 := by
  unfold ieeerate2rtlrate
  cases hcode : rtlCode? rate with
  | none => simp
  | some code => simpa using rtlCode?_lt hcode

theorem rate2rate_mem {code : ℕ} (h : code < 12) : rate2rate code ∈ rtlRate := by
  have hlt : code < rtlRate.length := h
  unfold rate2rate
  rw [if_neg (by omega), List.getD_eq_getElem?_getD, List.getElem?_eq_getElem hlt]
  exact List.getElem_mem hlt

/-- A supported rate has a code of its own. -/
theorem rtlCode?_of_mem : ∀ {rate : ℕ}, rate ∈ rtlRate →
    ∃ code, rtlCode? rate = some code ∧ rate2rate code = rate := by
  simp only [rtlRate, List.forall_mem_cons]
  decide

/-! ### The time of a frame -/

/-- `rtl8180_IsWirelessBMode` -/
def isWirelessBMode (rate : ℕ) : Bool :=
  (decide (rate ≤ 110) && decide (rate ≠ 60) && decide (rate ≠ 90)) || decide (rate = 220)

/-- `N_DBPSOfRate` -/
def nDbpsOfRate : ℕ → ℕ
  | 60 => 24
  | 90 => 36
  | 120 => 48
  | 180 => 72
  | 240 => 96
  | 360 => 144
  | 480 => 192
  | 540 => 216
  | _ => 24

/-- A value put into a `u16`. -/
def toU16 (n : ℕ) : ℕ := n % 2 ^ 16

/-- `ComputeTxTime`, where `cut` is what a variable of type `u16` keeps of a
value. There is no time when the division is by zero. -/
def computeTxTimeWith (cut : ℕ → ℕ) (frameLength dataRate : ℕ)
    (bManagementFrame bShortPreamble : Bool) : Option ℕ :=
  if isWirelessBMode dataRate then
    if dataRate / 10 = 0 then none
    else
      let frameTime :=
        if bManagementFrame || !bShortPreamble || decide (dataRate = 10) then
          cut (144 + 48 + frameLength * 8 / (dataRate / 10))
        else cut (72 + 24 + frameLength * 8 / (dataRate / 10))
      if frameLength * 8 % (dataRate / 10) ≠ 0 then some (cut (frameTime + 1)) else some frameTime
  else
    let nDbps := nDbpsOfRate dataRate
    let ceiling := cut ((16 + 8 * frameLength + 6) / nDbps +
      if (16 + 8 * frameLength + 6) % nDbps ≠ 0 then 1 else 0)
    some (cut (16 + 4 + 4 * ceiling + 6))

/-- `ComputeTxTime` -/
def computeTxTime : ℕ → ℕ → Bool → Bool → Option ℕ := computeTxTimeWith toU16

/-! ### What the standard has -/

/-- The rates of the OFDM PHY, in units of 100 kb/s. -/
def ofdmRates : List ℕ := [60, 90, 120, 180, 240, 360, 480, 540]

/-- The preamble and the header. The short ones are for data at more than
1 Mb/s; an OFDM frame has 16 us of preamble, 4 of header and 6 of signal
extension. -/
def plcpOverhead (rate : ℕ) (management shortPreamble : Bool) : ℕ :=
  if rate ∈ ofdmRates then 16 + 4 + 6
  else if shortPreamble = true ∧ management = false ∧ rate ≠ 10 then 96
  else 192

/-- The time of the frame's bits: at the rates of 802.11b rounded up to a whole
microsecond, else in symbols of 4 us, with 16 bits of service and 6 of tail. -/
def bitTime (rate length : ℕ) : ℕ :=
  if rate ∈ ofdmRates then 4 * ((16 + 8 * length + 6) ⌈/⌉ (rate * 4 / 10))
  else 8 * length * 10 ⌈/⌉ rate

/-- The time of a frame. -/
def txTime (length rate : ℕ) (management shortPreamble : Bool) : ℕ :=
  plcpOverhead rate management shortPreamble + bitTime rate length

/-! ### The times compared -/

section

variable {cut : ℕ → ℕ} {length rate : ℕ} (management shortPreamble : Bool)

/-- A quotient with a one added for a rest is the ceiling. -/
theorem div_add_rest (n : ℕ) {k : ℕ} (hk : 0 < k) :
    n / k + (if n % k ≠ 0 then 1 else 0) = n ⌈/⌉ k := by
  rw [Nat.ceilDiv_eq_add_pred_div]
  have hdiv : k * (n / k) + n % k = n := Nat.div_add_mod n k
  have hlt : n % k < k := Nat.mod_lt n hk
  have hsplit : n + k - 1 = (n % k + k - 1) + k * (n / k) := by omega
  rw [hsplit, Nat.add_mul_div_left _ _ hk, add_comm]
  congr 1
  by_cases hrest : n % k = 0
  · rw [if_neg (not_not_intro hrest), hrest, Nat.div_eq_of_lt (by omega)]
  · rw [if_pos hrest]
    have hone : n % k + k - 1 = (n % k - 1) + k * 1 := by omega
    rw [hone, Nat.add_mul_div_left _ _ hk, Nat.div_eq_of_lt (by omega)]

/-- A frame is no longer than a bit of 1 Mb/s for each bit of it. -/
theorem ceilDiv_le_self (n : ℕ) {k : ℕ} (hk : 0 < k) : n ⌈/⌉ k ≤ n := by
  rw [ceilDiv_le_iff_le_mul hk]
  exact Nat.le_mul_of_pos_left n hk

theorem nDbpsOfRate_ofdm : ∀ {rate : ℕ}, rate ∈ ofdmRates →
    nDbpsOfRate rate = rate * 4 / 10 ∧ 24 ≤ rate * 4 / 10 ∧ isWirelessBMode rate = false := by
  simp only [ofdmRates, List.forall_mem_cons]
  decide

theorem isWirelessBMode_cck : ∀ {rate : ℕ}, rate ∈ rtlRate → rate ∉ ofdmRates →
    isWirelessBMode rate = true ∧ 0 < rate / 10 ∧ (rate = 55 ∨ rate = rate / 10 * 10) := by
  simp only [rtlRate, List.forall_mem_cons]
  simp [ofdmRates, isWirelessBMode]

theorem toU16_of_lt {n : ℕ} (h : n < 2 ^ 16) : toU16 n = n := Nat.mod_eq_of_lt h

/-- The quotient and the one added, where no cut takes anything away. -/
theorem cut_ceilDiv (hcut : ∀ n < 2 ^ 16, cut n = n) (overhead n : ℕ) {k : ℕ} (hk : 0 < k)
    (hfits : overhead + n < 2 ^ 16) :
    (if n % k ≠ 0 then some (cut (cut (overhead + n / k) + 1))
      else some (cut (overhead + n / k))) = some (overhead + n ⌈/⌉ k) := by
  have hle := ceilDiv_le_self n hk
  have hceil := div_add_rest n hk
  by_cases hrest : n % k ≠ 0
  · rw [if_pos hrest] at hceil ⊢
    rw [hcut (overhead + n / k) (by omega), hcut _ (by omega), ← hceil]
    rfl
  · rw [if_neg hrest] at hceil ⊢
    rw [hcut (overhead + n / k) (by omega), ← hceil]
    rfl

/-- **The OFDM rates.** The time is that of the standard. -/
theorem computeTxTime_ofdm (hcut : ∀ n < 2 ^ 16, cut n = n) (hlength : length ≤ 2346)
    (hrate : rate ∈ ofdmRates) : computeTxTimeWith cut length rate management shortPreamble =
      some (txTime length rate management shortPreamble) := by
  obtain ⟨hbits, hmin, hmode⟩ := nDbpsOfRate_ofdm hrate
  have hpos : 0 < rate * 4 / 10 := by omega
  have hle : (16 + 8 * length + 6) ⌈/⌉ (rate * 4 / 10) ≤ 1024 := by
    rw [ceilDiv_le_iff_le_mul hpos]
    calc 16 + 8 * length + 6 ≤ 24 * 1024 := by omega
      _ ≤ rate * 4 / 10 * 1024 := Nat.mul_le_mul_right _ hmin
  unfold computeTxTimeWith
  simp only [hmode, Bool.false_eq_true, if_false, hbits, div_add_rest _ hpos]
  unfold txTime plcpOverhead bitTime
  rw [if_pos hrate, if_pos hrate, hcut (_ ⌈/⌉ _) (by omega), hcut _ (by omega)]
  congr 1
  omega

/-- **The rates of 802.11b.** The time is that of a frame at a whole number of
Mb/s. -/
theorem computeTxTime_cck (hcut : ∀ n < 2 ^ 16, cut n = n) (hlength : length ≤ 2346)
    (hrate : rate ∈ rtlRate) (hcck : rate ∉ ofdmRates) :
    computeTxTimeWith cut length rate management shortPreamble =
      some (plcpOverhead rate management shortPreamble + 8 * length ⌈/⌉ (rate / 10)) := by
  obtain ⟨hmode, hpos, -⟩ := isWirelessBMode_cck hrate hcck
  have hlong : (management || !shortPreamble || decide (rate = 10)) =
      !decide (shortPreamble = true ∧ management = false ∧ rate ≠ 10) := by
    cases management <;> cases shortPreamble <;> simp
  unfold computeTxTimeWith plcpOverhead
  rw [if_neg hcck]
  by_cases hshort : shortPreamble = true ∧ management = false ∧ rate ≠ 10
  · rw [decide_eq_true hshort] at hlong
    simp only [hmode, if_true, if_neg hpos.ne', hlong, mul_comm length 8, Bool.not_true,
      Bool.false_eq_true, if_false, if_pos hshort]
    exact cut_ceilDiv hcut 96 _ hpos (by omega)
  · rw [decide_eq_false hshort] at hlong
    simp only [hmode, if_true, if_neg hpos.ne', hlong, mul_comm length 8, Bool.not_false,
      if_neg hshort]
    exact cut_ceilDiv hcut 192 _ hpos (by omega)

/-- No cut takes anything away from the time of a frame. -/
theorem computeTxTime_uncut (hlength : length ≤ 2346) (hrate : rate ∈ rtlRate) :
    computeTxTime length rate management shortPreamble =
      computeTxTimeWith id length rate management shortPreamble := by
  have hid : ∀ n < 2 ^ 16, id n = n := fun _ _ => rfl
  unfold computeTxTime
  by_cases hofdm : rate ∈ ofdmRates
  · rw [computeTxTime_ofdm _ _ (fun _ => toU16_of_lt) hlength hofdm,
      computeTxTime_ofdm _ _ hid hlength hofdm]
  · rw [computeTxTime_cck _ _ (fun _ => toU16_of_lt) hlength hrate hofdm,
      computeTxTime_cck _ _ hid hlength hrate hofdm]

/-- There is a time at every rate that has a code. -/
theorem computeTxTime_isSome (length : ℕ) {rate : ℕ} (hrate : rate ∈ rtlRate) :
    (computeTxTime length rate management shortPreamble).isSome = true := by
  have hpos : rate / 10 ≠ 0 := by
    revert rate
    simp [rtlRate]
  unfold computeTxTime computeTxTimeWith
  dsimp only
  rw [if_neg hpos]
  split_ifs <;> rfl

/-- The time of the bits at a whole number of Mb/s is that at the rate itself,
unless the rate is 5.5 Mb/s. -/
theorem bitTime_cck_iff (hrate : rate ∈ rtlRate) (hcck : rate ∉ ofdmRates) :
    8 * length ⌈/⌉ (rate / 10) = bitTime rate length ↔ (rate = 55 → length ∈ [0, 1, 3, 5]) := by
  obtain ⟨-, hpos, hwhole⟩ := isWirelessBMode_cck hrate hcck
  unfold bitTime
  rw [if_neg hcck]
  rcases hwhole with rfl | hwhole
  · simp only [Nat.ceilDiv_eq_add_pred_div, forall_const]
    by_cases hshort : length ≤ 6
    · interval_cases length <;> decide
    · refine iff_of_false ?_ ?_
      · omega
      · simp only [List.mem_cons, List.not_mem_nil, or_false]
        omega
  · have hne : rate ≠ 55 := by omega
    refine iff_of_true ?_ fun h => absurd h hne
    apply eq_of_forall_ge_iff
    intro c
    rw [ceilDiv_le_iff_le_mul hpos, ceilDiv_le_iff_le_mul (by omega)]
    generalize rate / 10 = k at hwhole ⊢
    calc 8 * length ≤ k * c ↔ 8 * length * 10 ≤ k * c * 10 :=
          (Nat.mul_le_mul_right_iff (Nat.succ_pos 9)).symm
      _ ↔ 8 * length * 10 ≤ rate * c := by rw [hwhole, mul_right_comm k c]

/-- **The time of a frame.** It is that of the standard exactly when the rate is
not 5.5 Mb/s or the frame has 0, 1, 3 or 5 bytes; it always fits its 16 bits, and
no division is by zero, whatever `ieee->rate` holds. -/
theorem computeTxTime_iff (hlength : length ≤ 2346) (hrate : rate ∈ rtlRate) :
    (computeTxTime length rate management shortPreamble =
        some (txTime length rate management shortPreamble) ↔
      (rate = 55 → length ∈ [0, 1, 3, 5])) ∧
    computeTxTime length rate management shortPreamble =
      computeTxTimeWith id length rate management shortPreamble ∧
    ∀ (length : ℕ) (rate : ℤ), (computeTxTime length (rate2rate (ieeerate2rtlrate rate))
      management shortPreamble).isSome = true := by
  refine ⟨?_, computeTxTime_uncut _ _ hlength hrate, fun length rate =>
    computeTxTime_isSome _ _ _ (rate2rate_mem (ieeerate2rtlrate_lt rate))⟩
  unfold computeTxTime
  by_cases hofdm : rate ∈ ofdmRates
  · have hne : rate ≠ 55 := by
      rintro rfl
      exact absurd hofdm (by decide)
    rw [computeTxTime_ofdm _ _ (fun _ => toU16_of_lt) hlength hofdm]
    exact iff_of_true rfl fun h => absurd h hne
  · rw [computeTxTime_cck _ _ (fun _ => toU16_of_lt) hlength hrate hofdm, txTime,
      Option.some_inj, Nat.add_left_cancel_iff]
    exact bitTime_cck_iff hrate hofdm

theorem computeTxTime_iff_long : 1504 ≤ 2346 ∧ 540 ∈ rtlRate ∧
    (computeTxTime 1504 540 false false = some (txTime 1504 540 false false) ↔
      (540 = 55 → 1504 ∈ [0, 1, 3, 5])) ∧
    computeTxTime 1504 540 false false = computeTxTimeWith id 1504 540 false false ∧
    ∀ (length : ℕ) (rate : ℤ), (computeTxTime length (rate2rate (ieeerate2rtlrate rate))
      false false).isSome = true :=
  ⟨by decide, by decide, computeTxTime_iff false false (by decide) (by decide)⟩

/-- A frame of 1504 bytes at 5.5 Mb/s takes 2380 us, and is timed at 2599. -/
theorem computeTxTime_short_of_rate : ¬ ∀ (length rate : ℕ) (management shortPreamble : Bool),
    length ≤ 2346 → rate ∈ rtlRate →
    computeTxTime length rate management shortPreamble =
      some (txTime length rate management shortPreamble) := by
  intro h
  exact absurd (h 1504 55 false false (by decide) (by decide)) (by decide)

end

end Rtl8187

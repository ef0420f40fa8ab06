/-
# Rate adaptation

`sta_rateadaptive8187` (`r8187_core.c`): a step every 300 ms, on the hardware's
retry counter and the driver's statistics, that may move `ieee->rate` up or
down its ladder.

`ieee80211_associate_complete_wq` sets a rate of 11 Mb/s ("Using B rates") for a
network without OFDM rates. The ladder does not know of the network, and leads
on to the OFDM rates: after a while without data, after a while with few
retries, at once with a strong signal, and when a trial that was begun at an
OFDM rate is taken back (`bRates_iff`).

Key definitions: `RateReadings`, `RateAdapter`, `staRateadaptive8187`, `IsOfdm`,
`StaysB`.
Key theorems: `adapt_isOfdm`, `staRateadaptive8187_isOfdm`, `bRates_iff`.
-/
import Rtl8187.Works
import Rtl8187.Lib.Run

namespace Rtl8187

/-- What a step reads: the hardware's retry counter, the counts of frames sent
and received, and the signal strength of `current_network`. -/
structure RateReadings where
  tallyCnt : UInt16
  txbeaconokint : UInt64
  txnpokint : UInt64
  txhpokint : UInt64
  txlpokint : UInt64
  rxok : UInt64
  signalstrength : UInt8

/-- `ieee->rate`, in units of 100 kb/s, and the fields of `struct r8180_priv` the
adapter keeps. `gains` are the gains `UpdateInitialGain` was called with. -/
structure RateAdapter where
  rate : ℕ
  scanAllowedNow : Bool
  currRetryCnt : UInt16
  lastRetryCnt : UInt16
  lastTxokCnt : UInt64
  lastRxokCnt : UInt64
  lastRetryRate : UInt16
  tryuping : Bool
  currTxRate : UInt8
  currRetryRate : UInt16
  tryupingCount : UInt16
  tryDownCountLowData : UInt8
  tryupingCountNoData : UInt8
  currentOperaRate : UInt8
  initialGain : UInt8
  gains : List UInt8
  deriving DecidableEq

/-- All frames sent. -/
def RateReadings.txok (r : RateReadings) : UInt64 :=
  r.txbeaconokint + r.txnpokint + r.txhpokint + r.txlpokint

namespace RateAdapter

/-- The adapter after `rtl8180_init`. -/
def init : RateAdapter where
  rate := 110
  scanAllowedNow := true
  currRetryCnt := 0
  lastRetryCnt := 0
  lastTxokCnt := 0
  lastRxokCnt := 0
  lastRetryRate := 0
  tryuping := false
  currTxRate := 0
  currRetryRate := 0
  tryupingCount := 0
  tryDownCountLowData := 0
  tryupingCountNoData := 0
  currentOperaRate := 22
  initialGain := 0
  gains := []

/-! ### The step -/

section

variable (r : RateReadings) (rr : UInt16) (s : RateAdapter)

/-- `CurrTxokCnt`, of type `u8`. -/
def currTxokCnt : UInt8 := (r.txok - s.lastTxokCnt).toUInt8

/-- `CurrRxokCnt`, of type `u8`. -/
def currRxokCnt : UInt8 := (r.rxok - s.lastRxokCnt).toUInt8

/-- The local `CurrRetryRate`: the retries for each hundred frames sent. -/
def retryRate : UInt16 :=
  if 0 < s.currTxokCnt r then
    UInt16.ofNat ((r.tallyCnt - s.lastRetryCnt).toNat * 100 / (s.currTxokCnt r).toNat)
  else 0

/-- The counters taken over, and the rate the step starts from. -/
def takeReadings : RateAdapter :=
  { s with
    scanAllowedNow := !(decide (50 < s.currTxokCnt r) || decide (50 < s.currRxokCnt r))
    currRetryCnt := 0
    lastRetryCnt := r.tallyCnt
    lastTxokCnt := r.txok
    lastRxokCnt := r.rxok
    currentOperaRate := if 85 < r.signalstrength then 108 else UInt8.ofNat (s.rate / 5) }

/-- The next rate up, for a step without data. -/
def rateUp (rate : UInt8) : UInt8 :=
  if rate = 96 then 108
  else if rate = 72 then 96
  else if rate = 48 then 72
  else if rate = 36 then 48
  else if rate = 22 then 36
  else if rate = 11 then 22
  else if rate = 4 then 11
  else if rate = 2 then 4
  else rate

/-- The next rate down, for a step in which nothing was sent. -/
def rateDown (rate : UInt8) : UInt8 :=
  if rate = 108 then 96
  else if rate = 96 then 72
  else if rate = 72 then 48
  else if rate = 48 then 36
  else if rate = 36 then 24
  else 22

/-- A step in which nothing was sent, or nothing again. -/
def noData : RateAdapter :=
  let s := { s with tryupingCountNoData := s.tryupingCountNoData + 1 }
  if 10 < s.tryupingCountNoData then
    { s with tryupingCountNoData := 0, currentOperaRate := rateUp s.currentOperaRate }
  else s

/-- `if (priv->InitialGain != g) { priv->InitialGain = g; UpdateInitialGain(dev); }` -/
def setGain (g : UInt8) : RateAdapter :=
  if s.initialGain ≠ g then { s with initialGain := g, gains := s.gains ++ [g] } else s

/-- After twenty good steps, the rate `next` is tried. -/
def tryUp (next : UInt8) : RateAdapter :=
  let s := { s with tryupingCount := s.tryupingCount + 1 }
  if s.tryuping = false ∧ 20 < s.tryupingCount then
    { s with
      tryupingCount := 0
      tryuping := true
      currTxRate := s.currentOperaRate
      currRetryRate := rr
      currentOperaRate := next }
  else s

/-- The ladder of a step with data, for each rate. -/
def adapt : RateAdapter :=
  if s.currentOperaRate = 108 then
    if 40 < rr ∧ 40 < s.lastRetryRate then { s with currentOperaRate := 96 } else s
  else if s.currentOperaRate = 96 then
    if 40 < rr ∧ 40 < s.lastRetryRate then { s with currentOperaRate := 72 }
    else if rr < 15 ∧ s.lastRetryRate < 15 then { s with currentOperaRate := 108 }
    else s
  else if s.currentOperaRate = 72 then
    if 99 < rr ∧ 99 < s.lastRetryRate then { s with currentOperaRate := 48 }
    else if rr < 15 then s.tryUp rr 96
    else s
  else if s.currentOperaRate = 48 then
    if 99 < rr ∧ 99 < s.lastRetryRate then { s with currentOperaRate := 36 }.setGain 4
    else if rr < 15 ∧ s.lastRetryRate < 15 then { s with currentOperaRate := 72 }
    else s
  else if s.currentOperaRate = 36 then
    if 99 < rr ∧ 99 < s.lastRetryRate then { s with currentOperaRate := 22 }.setGain 4
    else if rr < 15 ∧ s.lastRetryRate < 15 then { s with currentOperaRate := 48 }.setGain 5
    else s
  else if s.currentOperaRate = 22 then
    if 299 < rr then
      let s := { s with tryDownCountLowData := s.tryDownCountLowData + 1 }
      if 3 < s.tryDownCountLowData then
        { s with tryDownCountLowData := 0, currentOperaRate := 11 }.setGain 3
      else s
    else if rr < 45 then { s with tryDownCountLowData := 0 }.tryUp rr 36
    else s
  else if s.currentOperaRate = 11 then
    if 199 < rr then
      let s := { s with tryDownCountLowData := s.tryDownCountLowData + 1 }
      if 3 < s.tryDownCountLowData then
        { s with tryDownCountLowData := 0, currentOperaRate := 4 }.setGain 3
      else s
    else if rr < 30 ∧ s.lastRetryRate < 30 then
      { s with tryDownCountLowData := 0, currentOperaRate := 22 }.setGain 4
    else s
  else if s.currentOperaRate = 4 then
    if 99 < rr ∧ 99 < s.lastRetryRate then
      -- the count is not set back here
      let s := { s with tryDownCountLowData := s.tryDownCountLowData + 1 }
      if 3 < s.tryDownCountLowData then { s with currentOperaRate := 2 }.setGain 3 else s
    else if rr < 50 ∧ s.lastRetryRate < 50 then
      { s with tryDownCountLowData := 0, currentOperaRate := 11 }
    else s
  else if s.currentOperaRate = 2 then
    if rr < 50 ∧ s.lastRetryRate < 50 then { s with currentOperaRate := 4 } else s
  else s

/-- The rate on trial is given up: the retries went up with it. -/
def givesUp : Prop := s.tryuping = true ∧ 15 < rr ∧ s.currRetryRate < rr

instance : Decidable (s.givesUp rr) := inferInstanceAs (Decidable (_ ∧ _ ∧ _))

/-- The end of a trial. -/
def endTry : RateAdapter :=
  if s.tryuping = true then { s with tryuping := false, tryupingCount := 0 } else s

/-- A step with data, in which `tx` frames were sent. -/
def withData (tx : UInt8) : RateAdapter :=
  let s := { s with tryupingCountNoData := 0 }
  if s.givesUp rr then { s.endTry with currentOperaRate := s.currTxRate }
  else if tx < 1 ∧ 100 < rr then { s.endTry with currentOperaRate := rateDown s.currentOperaRate }
  else s.endTry.adapt rr

/-- `sta_rateadaptive8187` -/
def staRateadaptive8187 (r : RateReadings) : RateAdapter :=
  let rr := s.retryRate r
  let tx := s.currTxokCnt r
  let s := s.takeReadings r
  let s := if tx = 0 ∨ rr = 0 then s.noData else s.withData rr tx
  { s with lastRetryRate := rr, rate := s.currentOperaRate.toNat * 5 }

end

/-! ### The OFDM rates -/

/-- The OFDM rates, as `ieee->rate` has them. -/
def IsOfdm (rate : ℕ) : Prop := rate ∈ [60, 90, 120, 180, 240, 360, 480, 540]

instance (rate : ℕ) : Decidable (IsOfdm rate) := inferInstanceAs (Decidable (_ ∈ _))

/-- The OFDM rates in units of 500 kb/s, as `CurrentOperaRate` has them. -/
def OfdmOpera (rate : UInt8) : Prop := rate ∈ ([12, 18, 24, 36, 48, 72, 96, 108] : List UInt8)

/-- The step is to leave the rate among those of 802.11b, or leave a trial that
began there: no strong signal, no eleventh step without data and no
twenty-first good one at 11 Mb/s; and a trial that is given up began at a rate
that is not an OFDM rate. -/
def StaysB (s : RateAdapter) (r : RateReadings) : Prop :=
  let rr := s.retryRate r
  if s.currTxokCnt r = 0 ∨ rr = 0 then
    ¬ 85 < r.signalstrength ∧ ¬ (s.rate = 110 ∧ 10 < s.tryupingCountNoData + 1)
  else if s.givesUp rr then ¬ IsOfdm (s.currTxRate.toNat * 5)
  else ¬ 85 < r.signalstrength ∧
    ¬ (s.rate = 110 ∧ rr < 45 ∧ s.tryuping = false ∧ 20 < s.tryupingCount + 1)

instance (s : RateAdapter) (r : RateReadings) : Decidable (s.StaysB r) := by
  unfold StaysB
  infer_instance

section

variable {r : RateReadings} {rr : UInt16} {s : RateAdapter}

theorem isOfdm_mul (k : UInt8) : IsOfdm (k.toNat * 5) ↔ OfdmOpera k := by
  simp only [IsOfdm, OfdmOpera, List.mem_cons, List.not_mem_nil, or_false, ← UInt8.toNat_inj]
  simp
  omega

@[simp] theorem setGain_currentOperaRate (g : UInt8) :
    (s.setGain g).currentOperaRate = s.currentOperaRate := by
  unfold setGain
  split_ifs <;> rfl

theorem tryUp_currentOperaRate (next : UInt8) : (s.tryUp rr next).currentOperaRate =
    if s.tryuping = false ∧ 20 < s.tryupingCount + 1 then next else s.currentOperaRate := by
  unfold tryUp
  dsimp only
  split_ifs <;> rfl

/-- **A step with data** leads to an OFDM rate only by a trial at 11 Mb/s. -/
theorem adapt_ofdm (hs : ¬ OfdmOpera s.currentOperaRate) :
    OfdmOpera (s.adapt rr).currentOperaRate ↔
      s.currentOperaRate = 22 ∧ rr < 45 ∧ s.tryuping = false ∧ 20 < s.tryupingCount + 1 := by
  have hne := hs
  simp only [OfdmOpera, List.mem_cons, List.not_mem_nil, or_false, not_or] at hne
  obtain ⟨-, -, -, h36, h48, h72, h96, h108⟩ := hne
  unfold adapt
  rw [if_neg h108, if_neg h96, if_neg h72, if_neg h48, if_neg h36]
  by_cases h22 : s.currentOperaRate = 22
  · rw [if_pos h22]
    by_cases hretry : 299 < rr
    · have hno : ¬ rr < 45 := by
        rw [UInt16.lt_iff_toNat_lt] at hretry ⊢
        simp at hretry ⊢
        omega
      rw [if_pos hretry]
      dsimp only
      split_ifs
      · simp [OfdmOpera, hno]
      · simp [hs, hno]
    · rw [if_neg hretry]
      by_cases hlow : rr < 45
      · rw [if_pos hlow, tryUp_currentOperaRate]
        by_cases htry : s.tryuping = false ∧ 20 < s.tryupingCount + 1
        · simp [OfdmOpera, h22, hlow, htry]
        · simp [OfdmOpera, h22, htry]
      · simp [hs, hlow]
  · simp only [h22, if_false, false_and, iff_false]
    split_ifs <;> simp_all [OfdmOpera]

/-- **A step without data** does so when it is the eleventh. -/
theorem noData_ofdm (hs : ¬ OfdmOpera s.currentOperaRate) :
    OfdmOpera s.noData.currentOperaRate ↔ s.currentOperaRate = 22 ∧ 10 < s.tryupingCountNoData + 1 := by
  unfold noData
  dsimp only
  by_cases hmany : 10 < s.tryupingCountNoData + 1
  · have hne := hs
    simp only [OfdmOpera, List.mem_cons, List.not_mem_nil, or_false, not_or] at hne
    obtain ⟨-, -, -, h36, h48, h72, h96, -⟩ := hne
    simp only [hmany, if_true, and_true]
    unfold rateUp
    rw [if_neg h96, if_neg h72, if_neg h48, if_neg h36]
    by_cases h22 : s.currentOperaRate = 22
    · simp [OfdmOpera, h22]
    · simp only [h22, if_false, iff_false]
      split_ifs
      · simp [OfdmOpera]
      · simp [OfdmOpera]
      · simp [OfdmOpera]
      · exact hs
  · simp [hs, hmany]

/-- From the highest rate no step leads to a rate of 802.11b. -/
theorem noData_of_strong (hs : s.currentOperaRate = 108) : OfdmOpera s.noData.currentOperaRate := by
  have hup : rateUp 108 = 108 := by decide
  have hofdm : OfdmOpera 108 := by simp [OfdmOpera]
  unfold noData
  dsimp only
  split_ifs
  · show OfdmOpera (rateUp s.currentOperaRate)
    rwa [hs, hup]
  · show OfdmOpera s.currentOperaRate
    rwa [hs]

theorem adapt_of_strong (hs : s.currentOperaRate = 108) : OfdmOpera (s.adapt rr).currentOperaRate := by
  unfold adapt
  rw [if_pos hs]
  split_ifs <;> simp [OfdmOpera, hs]

/-- `ieee->rate` is a rate the adapter can hold in its byte. -/
def Held (s : RateAdapter) : Prop := ∃ k : UInt8, s.rate = k.toNat * 5

theorem held_step (s : RateAdapter) (r : RateReadings) : (s.staRateadaptive8187 r).Held := ⟨_, rfl⟩

/-- The rate a step starts from. -/
theorem takeReadings_currentOperaRate {k : UInt8} (hk : s.rate = k.toNat * 5) :
    (s.takeReadings r).currentOperaRate = if 85 < r.signalstrength then 108 else k := by
  unfold takeReadings
  dsimp only
  rw [hk, Nat.mul_div_cancel _ (by decide), UInt8.ofNat_toNat]

/-- A step with data, where the rate on trial is given up or not. -/
theorem withData_of_givesUp {tx : UInt8} (h : s.givesUp rr) :
    (s.withData rr tx).currentOperaRate = s.currTxRate := by
  have h' : ({ s with tryupingCountNoData := 0 } : RateAdapter).givesUp rr := h
  unfold withData
  dsimp only
  rw [if_pos h']

theorem withData_of_keeps {tx : UInt8} (h : ¬ s.givesUp rr) (htx : tx ≠ 0) :
    s.withData rr tx = ({ s with tryupingCountNoData := 0 } : RateAdapter).endTry.adapt rr := by
  have h' : ¬ ({ s with tryupingCountNoData := 0 } : RateAdapter).givesUp rr := h
  have hsent : ¬ (tx < 1 ∧ 100 < rr) := by
    rintro ⟨hlt, -⟩
    rw [UInt8.lt_iff_toNat_lt] at hlt
    exact htx (UInt8.toNat_inj.mp (by simpa using hlt))
  unfold withData
  dsimp only
  rw [if_neg h', if_neg hsent]

/-- A trial that ends leaves a count that is far from twenty. -/
theorem endTry_counts : s.endTry.tryuping = false ∧ (20 < s.endTry.tryupingCount + 1 ↔
    s.tryuping = false ∧ 20 < s.tryupingCount + 1) ∧ s.endTry.currentOperaRate = s.currentOperaRate := by
  unfold endTry
  cases htry : s.tryuping
  · simp [htry]
  · simp

/-- **One step** keeps to the rates that are not OFDM rates exactly when it meets
`StaysB`. -/
theorem staRateadaptive8187_stays_iff (hs : s.Held) (hb : ¬ IsOfdm s.rate) :
    ¬ IsOfdm (s.staRateadaptive8187 r).rate ↔ s.StaysB r := by
  obtain ⟨k, hk⟩ := hs
  rw [hk, isOfdm_mul] at hb
  have hopera := @takeReadings_currentOperaRate r s k hk
  have h22 : k = 22 ↔ s.rate = 110 := by
    rw [hk, ← UInt8.toNat_inj]
    simp
    omega
  set t := s.takeReadings r with ht
  have hrate : (s.staRateadaptive8187 r).rate =
      (if s.currTxokCnt r = 0 ∨ s.retryRate r = 0 then t.noData
        else t.withData (s.retryRate r) (s.currTxokCnt r)).currentOperaRate.toNat * 5 := rfl
  rw [hrate, isOfdm_mul]
  unfold StaysB
  dsimp only
  by_cases hnone : s.currTxokCnt r = 0 ∨ s.retryRate r = 0
  · rw [if_pos hnone, if_pos hnone]
    by_cases hstrong : 85 < r.signalstrength
    · rw [if_pos hstrong] at hopera
      exact iff_of_false (not_not_intro (noData_of_strong hopera)) fun h => h.1 hstrong
    · rw [if_neg hstrong] at hopera
      rw [noData_ofdm (hopera ▸ hb), hopera, h22]
      exact (and_iff_right hstrong).symm
  · rw [if_neg hnone, if_neg hnone]
    have htx : s.currTxokCnt r ≠ 0 := fun h => hnone (Or.inl h)
    by_cases hgives : s.givesUp (s.retryRate r)
    · have hgives' : t.givesUp (s.retryRate r) := hgives
      rw [if_pos hgives, withData_of_givesUp hgives', isOfdm_mul]
      rfl
    · have hgives' : ¬ t.givesUp (s.retryRate r) := hgives
      obtain ⟨hoff, hcount, hsame⟩ :=
        @endTry_counts ({ t with tryupingCountNoData := 0 } : RateAdapter)
      have hopera' := hsame.trans hopera
      rw [if_neg hgives, withData_of_keeps hgives' htx]
      by_cases hstrong : 85 < r.signalstrength
      · rw [if_pos hstrong] at hopera'
        exact iff_of_false (not_not_intro (adapt_of_strong hopera'))
          fun h => h.1 hstrong
      · rw [if_neg hstrong] at hopera'
        rw [adapt_ofdm (hopera' ▸ hb), hopera', h22, hoff, hcount]
        simp only [true_and]
        exact (and_iff_right hstrong).symm

end

/-! ### An association -/

/-- The adapter, with what it kept from before, when an association is complete. -/
def atAssociation {P : Type} (s : RateAdapter) (d : Device P) : RateAdapter :=
  { s with rate := (associateCompleteWq d).rate }

/-- **The rate adapter in a network without OFDM rates.** It never comes to one
exactly in the runs all of whose steps meet `StaysB`. -/
theorem bRates_iff {P : Type} (d : Device P) (s : RateAdapter) (rs : List RateReadings)
    (hnet : d.currentNetwork.is54g = false) :
    (∀ k, ¬ IsOfdm (Run.run staRateadaptive8187 (s.atAssociation d) (rs.take k)).rate) ↔
      Run.AllSteps staRateadaptive8187 StaysB (s.atAssociation d) rs := by
  have hrate : (s.atAssociation d).rate = 110 := by
    unfold atAssociation associateCompleteWq
    simp [hnet]
  have hb : ¬ IsOfdm (s.atAssociation d).rate := by
    rw [hrate]
    decide
  exact Run.forall_take_iff (fun s r (_ : s.Held) => held_step s r)
    (fun s r hs hb => staRateadaptive8187_stays_iff hs hb) _ _ ⟨22, hrate⟩ hb

/-- Readings of an idle station. -/
def idleReadings : RateReadings := ⟨0, 0, 0, 0, 0, 0, 40⟩

theorem bRates_idle : (Device.init Unit ⟨250, true⟩ ⟨2, 0, 0, 0, 0, 1⟩).currentNetwork.is54g = false ∧
    ∀ k, ¬ IsOfdm (Run.run staRateadaptive8187
      (init.atAssociation (Device.init Unit ⟨250, true⟩ ⟨2, 0, 0, 0, 0, 1⟩))
      ((List.replicate 10 idleReadings).take k)).rate :=
  ⟨rfl, (bRates_iff (Device.init Unit ⟨250, true⟩ ⟨2, 0, 0, 0, 0, 1⟩) init _ rfl).mpr (by decide +kernel)⟩

/-- Eleven steps without data lead to 18 Mb/s. -/
theorem idle_leaves_bRates : ¬ ∀ (d : Device Unit) (s : RateAdapter) (rs : List RateReadings),
    d.currentNetwork.is54g = false →
    ∀ k, ¬ IsOfdm (Run.run staRateadaptive8187 (s.atAssociation d) (rs.take k)).rate := by
  intro h
  have hidle := h (Device.init Unit ⟨250, true⟩ ⟨2, 0, 0, 0, 0, 1⟩) init
    (List.replicate 11 idleReadings) rfl 11
  exact absurd hidle (by decide +kernel)

end RateAdapter

end Rtl8187

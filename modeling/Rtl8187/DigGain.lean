/-
# The dynamic initial gain

`DIG_Zebra` (`r8180_dm.c`) moves `InitialGain` by votes on the false alarms: a
reading above both thresholds votes for more gain, one below both for less. The
rate adapter writes the same gain. `digGain_run` is about any interleaving of the
two on an RTL8187.

Between two runs of `DIG_Zebra` there is at most one vote for more gain and at
most nine for less, and each has its readings behind it (`Backed`): the readings
since the votes were last acted on are kept beside the state for that, and
nothing decides by them.

Key definitions: `DigCard`, `DigState.digZebra`, `GainWatch`, `Backed`, `Justified`, `Outcome`.
Key theorems: `outcome_digZebra`, `backed_outcome`, `justified_outcome`, `digGain_run`.
-/
import Rtl8187.RateLadder
import Rtl8187.RfPower

namespace Rtl8187

/-! ### The run -/

/-- `nic_t` -/
inductive Nic where
  | nic8187
  | nic8187B
  deriving DecidableEq

/-- `VERSION_8187` -/
inductive Version8187 where
  | v8187B
  | v8187D
  | v8187BB
  | v8187BD
  | v8187BE
  deriving DecidableEq

/-- The card, and the thresholds of `struct r8180_priv`. -/
structure DigCard where
  card8187 : Nic
  bversion : Version8187
  rfChip : RfChip
  regBModeGainStage : UInt8
  regDigOfdmFaUpTh : UInt8

namespace DigCard

variable (c : DigCard)

/-- `OFDMFalseAlarm` -/
def ofdmFalseAlarm (falseAlarm : UInt32) : UInt16 :=
  if c.bversion = .v8187BB then falseAlarm.toUInt16 else (falseAlarm >>> 16).toUInt16

/-- `OfdmFA1` -/
def ofdmFA1 : UInt16 :=
  if c.card8187 = .nic8187 then if c.bversion = .v8187BB then 0x01 else 0x15
  else if c.bversion = .v8187BB then 0x01 else 0x20

/-- `OfdmFA2` -/
def ofdmFA2 : UInt16 :=
  if c.bversion = .v8187BB then c.regDigOfdmFaUpTh.toUInt16 else c.regDigOfdmFaUpTh.toUInt16 <<< 8

/-- `InitialGainStep` -/
def initialGainStep : UInt8 := if c.card8187 = .nic8187 then 7 else 8

/-- `LowestGainStage` -/
def lowestGainStage : UInt8 := if c.card8187 = .nic8187 then 4 else c.regBModeGainStage

/-- The gain before the votes: one is chosen when there is none. -/
def startGain (gain : UInt8) : UInt8 :=
  if c.card8187 = .nic8187 then
    let gain := if gain = 0 then match c.rfChip with
      | .zebra => 5
      | .zebra2 => 4
      | .unknown => 5
      else gain
    if 7 < gain then 5 else gain
  else if gain = 0 then 4 else gain

/-- A reading above both thresholds. -/
def Over (falseAlarm : UInt32) : Prop :=
  c.ofdmFA1 < c.ofdmFalseAlarm falseAlarm ∧ c.ofdmFA2 < c.ofdmFalseAlarm falseAlarm

/-- A reading that is not above the first. -/
def Quiet (falseAlarm : UInt32) : Prop := ¬ c.ofdmFA1 < c.ofdmFalseAlarm falseAlarm

instance (falseAlarm : UInt32) : Decidable (c.Over falseAlarm) := inferInstanceAs (Decidable (_ ∧ _))

instance (falseAlarm : UInt32) : Decidable (c.Quiet falseAlarm) := inferInstanceAs (Decidable (¬ _))

end DigCard

/-- The gain, which the rate adapter has too, and the votes. -/
structure DigState where
  adapter : RateAdapter
  fallbackVote : UInt8
  upgradeVote : UInt8
  deriving DecidableEq

namespace DigState

variable (c : DigCard) (s : DigState)

/-- `InitialGain` -/
def gain : UInt8 := s.adapter.initialGain

/-- The gain set, without `UpdateInitialGain`. -/
def withGain (g : UInt8) : DigState := { s with adapter := { s.adapter with initialGain := g } }

/-- The gain set, with `UpdateInitialGain`. -/
def updateGain (g : UInt8) : DigState :=
  { s with adapter := { s.adapter with initialGain := g, gains := s.adapter.gains ++ [g] } }

/-- `if (priv->DIG_NumberFallbackVote) priv->DIG_NumberFallbackVote--;` -/
def voteBack : DigState :=
  if s.fallbackVote ≠ 0 then { s with fallbackVote := s.fallbackVote - 1 } else s

/-- The votes are acted on. -/
def clearVotes : DigState := { s with fallbackVote := 0, upgradeVote := 0 }

/-- A vote for more gain. -/
def voteFallback : DigState :=
  let s := { s with fallbackVote := s.fallbackVote + 1 }
  if 1 < s.fallbackVote then
    (if s.gain < c.initialGainStep then s.updateGain (s.gain + 1) else s).clearVotes
  else s

/-- A vote for less. -/
def voteUpgrade : DigState :=
  let s := { s with upgradeVote := s.upgradeVote + 1 }
  if 9 < s.upgradeVote then
    (if c.lowestGainStage < s.gain then s.updateGain (s.gain - 1) else s).clearVotes
  else s

/-- `DIG_Zebra` -/
def digZebra (falseAlarm : UInt32) : DigState :=
  let s := s.withGain (c.startGain s.gain)
  if c.ofdmFA1 < c.ofdmFalseAlarm falseAlarm then
    let s := if c.ofdmFA2 < c.ofdmFalseAlarm falseAlarm then s.voteFallback c else s.voteBack
    { s with upgradeVote := 0 }
  else s.voteBack.voteUpgrade c

/-- The run acts on the votes. -/
def Decides (falseAlarm : UInt32) : Prop :=
  c.Over falseAlarm ∧ 1 < s.fallbackVote + 1 ∨ c.Quiet falseAlarm ∧ 9 < s.upgradeVote + 1

instance (falseAlarm : UInt32) : Decidable (s.Decides c falseAlarm) :=
  inferInstanceAs (Decidable (_ ∨ _))

end DigState

/-! ### The votes and the readings behind them -/

/-- A run of `DIG_Zebra` on a reading, or a step of the rate adapter. -/
inductive GainInput where
  | dig (falseAlarm : UInt32)
  | rate (r : RateReadings)

/-- The state, with the readings since the votes were last acted on. -/
structure GainWatch where
  dig : DigState
  since : List UInt32

namespace GainWatch

/-- The state after `rtl8180_init`. -/
def init (a : RateAdapter) : GainWatch := ⟨⟨{ a with initialGain := 0 }, 0, 0⟩, []⟩

def step (c : DigCard) (w : GainWatch) : GainInput → GainWatch
  | .dig falseAlarm =>
    { dig := w.dig.digZebra c falseAlarm
      since := if w.dig.Decides c falseAlarm then [] else w.since ++ [falseAlarm] }
  | .rate r => { w with dig := { w.dig with adapter := w.dig.adapter.staRateadaptive8187 r } }

/-- Of some of the last readings, `k` more were above both thresholds than not. -/
def NetOver (c : DigCard) (past : List UInt32) (k : ℕ) : Prop :=
  ∃ last, last <:+ past ∧
    last.countP (fun fa => c.Over fa) = last.countP (fun fa => !decide (c.Over fa)) + k

/-- The last `k` readings were quiet. -/
def QuietFor (c : DigCard) (past : List UInt32) (k : ℕ) : Prop :=
  ∃ last, last <:+ past ∧ last.length = k ∧ ∀ fa ∈ last, c.Quiet fa

/-- The gains there are. -/
def GainOk (gain : UInt8) : Prop := gain ∈ ([0, 3, 4, 5, 6, 7] : List UInt8)

instance (gain : UInt8) : Decidable (GainOk gain) := inferInstanceAs (Decidable (_ ∈ _))

/-- **The invariant**, of a gain, its votes and the readings since they were
last acted on. -/
structure Backed (c : DigCard) (g up down : UInt8) (past : List UInt32) : Prop where
  gain : GainOk g
  fallback : up ≤ 1
  upgrade : down ≤ 9
  net : NetOver c past up.toNat
  quiet : QuietFor c past down.toNat

/-- What a run may do to a gain: one stage up with two net votes, or one stage
down, to no less than stage 4, after ten quiet readings. -/
structure Justified (c : DigCard) (past : List UInt32) (gain gain' : UInt8) : Prop where
  near : gain'.toNat ≤ gain.toNat + 1 ∧ gain.toNat ≤ gain'.toNat + 1
  raised : gain < gain' → NetOver c past 2
  lowered : gain' < gain → 4 ≤ gain' ∧ QuietFor c past 10

section

variable {c : DigCard} {past : List UInt32} {fa : UInt32} {k : ℕ}

theorem suffix_snoc {last : List UInt32} (h : last <:+ past) (fa : UInt32) :
    last ++ [fa] <:+ past ++ [fa] := by
  obtain ⟨front, rfl⟩ := h
  exact ⟨front, (List.append_assoc front last [fa]).symm⟩

theorem netOver_zero (past : List UInt32) : NetOver c past 0 := ⟨[], List.nil_suffix, rfl⟩

theorem quietFor_zero (past : List UInt32) : QuietFor c past 0 :=
  ⟨[], List.nil_suffix, rfl, fun _ h => absurd h List.not_mem_nil⟩

theorem NetOver.over (h : NetOver c past k) (hover : c.Over fa) :
    NetOver c (past ++ [fa]) (k + 1) := by
  obtain ⟨last, hlast, hcount⟩ := h
  refine ⟨last ++ [fa], suffix_snoc hlast fa, ?_⟩
  simp [List.countP_append, hcount, hover]
  omega

theorem NetOver.other (h : NetOver c past (k + 1)) (hother : ¬ c.Over fa) :
    NetOver c (past ++ [fa]) k := by
  obtain ⟨last, hlast, hcount⟩ := h
  refine ⟨last ++ [fa], suffix_snoc hlast fa, ?_⟩
  simp [List.countP_append, hcount, hother]
  omega

theorem QuietFor.quiet (h : QuietFor c past k) (hquiet : c.Quiet fa) :
    QuietFor c (past ++ [fa]) (k + 1) := by
  obtain ⟨last, hlast, hlength, hall⟩ := h
  refine ⟨last ++ [fa], suffix_snoc hlast fa, by simp [hlength], ?_⟩
  intro x hx
  rcases List.mem_append.mp hx with hold | hnew
  · exact hall x hold
  · rw [List.mem_singleton.mp hnew]
    exact hquiet

end

/-! ### One run of `DIG_Zebra` -/

/-- `DIG_NumberFallbackVote` after a reading that is not above both thresholds. -/
def backVote (fallback : UInt8) : UInt8 := if fallback ≠ 0 then fallback - 1 else fallback

/-- What a run of `DIG_Zebra` does to the gain, the votes and the readings kept. -/
inductive Outcome (c : DigCard) (s : DigState) (past : List UInt32) (fa : UInt32) :
    UInt8 → UInt8 → UInt8 → List UInt32 → Prop where
  | raise : c.Over fa → 1 < s.fallbackVote + 1 → Outcome c s past fa
      (if c.startGain s.gain < c.initialGainStep then c.startGain s.gain + 1 else c.startGain s.gain)
      0 0 []
  | voteUp : c.Over fa → ¬ 1 < s.fallbackVote + 1 →
      Outcome c s past fa (c.startGain s.gain) (s.fallbackVote + 1) 0 (past ++ [fa])
  | between : ¬ c.Over fa → ¬ c.Quiet fa →
      Outcome c s past fa (c.startGain s.gain) (backVote s.fallbackVote) 0 (past ++ [fa])
  | lower : c.Quiet fa → 9 < s.upgradeVote + 1 → Outcome c s past fa
      (if c.lowestGainStage < c.startGain s.gain then c.startGain s.gain - 1 else c.startGain s.gain)
      0 0 []
  | voteDown : c.Quiet fa → ¬ 9 < s.upgradeVote + 1 →
      Outcome c s past fa (c.startGain s.gain) (backVote s.fallbackVote) (s.upgradeVote + 1)
        (past ++ [fa])

theorem not_over_of_quiet {c : DigCard} {fa : UInt32} (h : c.Quiet fa) : ¬ c.Over fa :=
  fun hover => h hover.1

theorem voteBack_votes (s : DigState) : s.voteBack.gain = s.gain ∧
    s.voteBack.fallbackVote = backVote s.fallbackVote ∧ s.voteBack.upgradeVote = s.upgradeVote := by
  unfold DigState.voteBack backVote
  split_ifs
  · exact ⟨rfl, rfl, rfl⟩
  · exact ⟨rfl, rfl, rfl⟩

theorem voteFallback_of_many {c : DigCard} {s : DigState} (h : 1 < s.fallbackVote + 1) :
    (s.voteFallback c).gain = (if s.gain < c.initialGainStep then s.gain + 1 else s.gain) ∧
      (s.voteFallback c).fallbackVote = 0 := by
  have hvote : s.voteFallback c = (if s.gain < c.initialGainStep then
      DigState.updateGain { s with fallbackVote := s.fallbackVote + 1 } (s.gain + 1)
      else { s with fallbackVote := s.fallbackVote + 1 }).clearVotes := if_pos h
  rw [hvote]
  split_ifs
  · exact ⟨rfl, rfl⟩
  · exact ⟨rfl, rfl⟩

theorem voteUpgrade_of_many {c : DigCard} {s : DigState} (h : 9 < s.upgradeVote + 1) :
    (s.voteUpgrade c).gain = (if c.lowestGainStage < s.gain then s.gain - 1 else s.gain) ∧
      (s.voteUpgrade c).fallbackVote = 0 ∧ (s.voteUpgrade c).upgradeVote = 0 := by
  have hvote : s.voteUpgrade c = (if c.lowestGainStage < s.gain then
      DigState.updateGain { s with upgradeVote := s.upgradeVote + 1 } (s.gain - 1)
      else { s with upgradeVote := s.upgradeVote + 1 }).clearVotes := if_pos h
  rw [hvote]
  split_ifs
  · exact ⟨rfl, rfl, rfl⟩
  · exact ⟨rfl, rfl, rfl⟩

/-- **One run.** -/
theorem outcome_digZebra (c : DigCard) (s : DigState) (past : List UInt32) (fa : UInt32) :
    Outcome c s past fa (s.digZebra c fa).gain (s.digZebra c fa).fallbackVote
      (s.digZebra c fa).upgradeVote (if s.Decides c fa then [] else past ++ [fa]) := by
  by_cases hquiet : c.Quiet fa
  · have hnot := not_over_of_quiet hquiet
    have hrun : s.digZebra c fa =
        ((s.withGain (c.startGain s.gain)).voteBack).voteUpgrade c := if_neg hquiet
    obtain ⟨hgain, hback, hup⟩ := voteBack_votes (s.withGain (c.startGain s.gain))
    have hgain' : (s.withGain (c.startGain s.gain)).voteBack.gain = c.startGain s.gain := hgain
    have hup' : (s.withGain (c.startGain s.gain)).voteBack.upgradeVote = s.upgradeVote := hup
    rw [hrun]
    by_cases hmany : 9 < s.upgradeVote + 1
    · obtain ⟨hlower, hzero, hzero'⟩ :=
        @voteUpgrade_of_many c (s.withGain (c.startGain s.gain)).voteBack (hup' ▸ hmany)
      have hdecides : s.Decides c fa := Or.inr ⟨hquiet, hmany⟩
      rw [if_pos hdecides, hlower, hzero, hzero', hgain']
      exact Outcome.lower hquiet hmany
    · have hwaits : ¬ s.Decides c fa := by
        rintro (h | h)
        · exact hnot h.1
        · exact hmany h.2
      have hfew : (s.withGain (c.startGain s.gain)).voteBack.voteUpgrade c =
          { (s.withGain (c.startGain s.gain)).voteBack with
            upgradeVote := (s.withGain (c.startGain s.gain)).voteBack.upgradeVote + 1 } :=
        if_neg (hup' ▸ hmany)
      rw [if_neg hwaits, hfew]
      show Outcome c s past fa (s.withGain (c.startGain s.gain)).voteBack.gain
        (s.withGain (c.startGain s.gain)).voteBack.fallbackVote
        ((s.withGain (c.startGain s.gain)).voteBack.upgradeVote + 1) (past ++ [fa])
      rw [hgain', hback, hup']
      exact Outcome.voteDown hquiet hmany
  · have hfirst : c.ofdmFA1 < c.ofdmFalseAlarm fa := not_not.mp hquiet
    by_cases hover : c.Over fa
    · have hrun : s.digZebra c fa = { (s.withGain (c.startGain s.gain)).voteFallback c with
          upgradeVote := 0 } := by
        unfold DigState.digZebra
        dsimp only
        rw [if_pos hfirst, if_pos hover.2]
      rw [hrun]
      by_cases hmany : 1 < s.fallbackVote + 1
      · obtain ⟨hgain, hback⟩ := @voteFallback_of_many c (s.withGain (c.startGain s.gain)) hmany
        have hdecides : s.Decides c fa := Or.inl ⟨hover, hmany⟩
        show Outcome c s past fa ((s.withGain (c.startGain s.gain)).voteFallback c).gain
          ((s.withGain (c.startGain s.gain)).voteFallback c).fallbackVote 0 _
        rw [if_pos hdecides, hgain, hback]
        exact Outcome.raise hover hmany
      · have hwaits : ¬ s.Decides c fa := by
          rintro (h | h)
          · exact hmany h.2
          · exact hquiet h.1
        have hfew : (s.withGain (c.startGain s.gain)).voteFallback c =
            { s.withGain (c.startGain s.gain) with fallbackVote := s.fallbackVote + 1 } := if_neg hmany
        rw [if_neg hwaits, hfew]
        exact Outcome.voteUp hover hmany
    · have hsecond : ¬ c.ofdmFA2 < c.ofdmFalseAlarm fa := fun h => hover ⟨hfirst, h⟩
      have hrun : s.digZebra c fa = { (s.withGain (c.startGain s.gain)).voteBack with
          upgradeVote := 0 } := by
        unfold DigState.digZebra
        dsimp only
        rw [if_pos hfirst, if_neg hsecond]
      have hwaits : ¬ s.Decides c fa := by
        rintro (h | h)
        · exact hover h.1
        · exact hquiet h.1
      obtain ⟨hgain, hback, -⟩ := voteBack_votes (s.withGain (c.startGain s.gain))
      rw [hrun, if_neg hwaits]
      show Outcome c s past fa (s.withGain (c.startGain s.gain)).voteBack.gain
        (s.withGain (c.startGain s.gain)).voteBack.fallbackVote 0 (past ++ [fa])
      rw [hgain, hback]
      exact Outcome.between hover hquiet

section

variable {c : DigCard} {s : DigState} {past past' : List UInt32} {fa : UInt32} {g up down : UInt8}

/-- The gains of an RTL8187 that has one. -/
def Stage (g : UInt8) : Prop := g ∈ ([3, 4, 5, 6, 7] : List UInt8)

instance (g : UInt8) : Decidable (Stage g) := inferInstanceAs (Decidable (_ ∈ _))

theorem stage_iff : Stage g ↔ 3 ≤ g.toNat ∧ g.toNat ≤ 7 := by
  simp only [Stage, List.mem_cons, List.not_mem_nil, or_false, ← UInt8.toNat_inj]
  simp
  omega

theorem gainOk_iff : GainOk g ↔ g = 0 ∨ Stage g := by
  simp only [GainOk, Stage, List.mem_cons, List.not_mem_nil, or_false]

theorem startGain_of_stage (hcard : c.card8187 = .nic8187) (h : Stage g) : c.startGain g = g := by
  obtain ⟨hlow, hhigh⟩ := stage_iff.mp h
  have hne : g ≠ 0 := by
    rintro rfl
    exact absurd hlow (by decide)
  have hle : ¬ 7 < g := by
    rw [UInt8.lt_iff_toNat_lt]
    exact not_lt.mpr hhigh
  unfold DigCard.startGain
  dsimp only
  rw [if_pos hcard, if_neg hne, if_neg hle]

theorem stage_startGain (hcard : c.card8187 = .nic8187) (h : GainOk g) : Stage (c.startGain g) := by
  rcases gainOk_iff.mp h with rfl | hstage
  · unfold DigCard.startGain
    rw [if_pos hcard]
    rcases c.rfChip with _ | _ | _
    · decide
    · decide
    · decide
  · rwa [startGain_of_stage hcard hstage]

/-- A vote that is acted on is the second, or the tenth. -/
theorem last_vote {k limit : UInt8} (hlimit : limit ≤ 9) (hle : k ≤ limit) (hmany : limit < k + 1) :
    k = limit := by
  rw [UInt8.le_iff_toNat_le] at hlimit hle
  rw [UInt8.lt_iff_toNat_lt, UInt8.toNat_add] at hmany
  rw [← UInt8.toNat_inj]
  simp at hlimit hmany
  omega

/-- A vote that is not acted on is counted. -/
theorem next_vote {k limit : UInt8} (hlimit : limit ≤ 9) (hle : k ≤ limit) (hfew : ¬ limit < k + 1) :
    k + 1 ≤ limit ∧ (k + 1).toNat = k.toNat + 1 := by
  rw [UInt8.le_iff_toNat_le] at hlimit hle ⊢
  rw [UInt8.lt_iff_toNat_lt, UInt8.toNat_add] at hfew
  rw [UInt8.toNat_add]
  simp at hlimit hfew ⊢
  omega

/-- A reading that is not above both thresholds takes a vote back. -/
theorem net_backVote (hnet : NetOver c past up.toNat) (hother : ¬ c.Over fa) :
    NetOver c (past ++ [fa]) (backVote up).toNat := by
  unfold backVote
  by_cases hzero : up = 0
  · rw [if_neg (not_not_intro hzero), hzero]
    exact netOver_zero _
  · have hpos : up.toNat ≠ 0 := fun h => hzero (UInt8.toNat_inj.mp h)
    have hlt : up.toNat < 256 := UInt8.toNat_lt up
    have hpred : (up - 1).toNat + 1 = up.toNat := by
      rw [UInt8.toNat_sub]
      simp
      omega
    rw [if_pos hzero]
    rw [← hpred] at hnet
    exact hnet.other hother

theorem backVote_le (h : up ≤ 1) : backVote up ≤ 1 := by
  unfold backVote
  rw [UInt8.le_iff_toNat_le] at h ⊢
  split_ifs with hzero
  · rw [UInt8.toNat_sub]
    have hpos : up.toNat ≠ 0 := fun h => hzero (UInt8.toNat_inj.mp h)
    simp at h ⊢
    omega
  · exact h

/-- One stage up, and one down. -/
theorem stage_up (hcard : c.card8187 = .nic8187) (h : Stage g) :
    Stage (if g < c.initialGainStep then g + 1 else g) ∧
      (if g < c.initialGainStep then g + 1 else g).toNat ≤ g.toNat + 1 ∧
      g.toNat ≤ (if g < c.initialGainStep then g + 1 else g).toNat := by
  obtain ⟨hlow, hhigh⟩ := stage_iff.mp h
  have hstep : c.initialGainStep = 7 := if_pos hcard
  rw [hstep]
  split_ifs with hlt
  · have hlt' : g.toNat < 7 := UInt8.lt_iff_toNat_lt.mp hlt
    have hnext : (g + 1).toNat = g.toNat + 1 := by
      rw [UInt8.toNat_add]
      simp
      omega
    exact ⟨stage_iff.mpr (by omega), by omega, by omega⟩
  · exact ⟨h, by omega, le_rfl⟩

theorem stage_down (hcard : c.card8187 = .nic8187) (h : Stage g) :
    Stage (if c.lowestGainStage < g then g - 1 else g) ∧
      (if c.lowestGainStage < g then g - 1 else g).toNat ≤ g.toNat ∧
      g.toNat ≤ (if c.lowestGainStage < g then g - 1 else g).toNat + 1 ∧
      ((if c.lowestGainStage < g then g - 1 else g) < g →
        4 ≤ if c.lowestGainStage < g then g - 1 else g) := by
  obtain ⟨hlow, hhigh⟩ := stage_iff.mp h
  have hstage : c.lowestGainStage = 4 := if_pos hcard
  rw [hstage]
  split_ifs with hlt
  · have hlt' : 4 < g.toNat := UInt8.lt_iff_toNat_lt.mp hlt
    have hpred : (g - 1).toNat = g.toNat - 1 := by
      rw [UInt8.toNat_sub]
      simp
      omega
    refine ⟨stage_iff.mpr (by omega), by omega, by omega, fun _ => ?_⟩
    rw [UInt8.le_iff_toNat_le, hpred]
    exact Nat.le_sub_one_of_lt hlt'
  · exact ⟨h, le_rfl, by omega, fun hless => absurd hless (UInt8.lt_irrefl g)⟩

/-- **A run of `DIG_Zebra` keeps the invariant.** -/
theorem backed_outcome (hcard : c.card8187 = .nic8187)
    (hv : Backed c s.gain s.fallbackVote s.upgradeVote past)
    (h : Outcome c s past fa g up down past') : Backed c g up down past' := by
  have hstage := stage_startGain hcard hv.gain
  cases h with
  | raise =>
    exact ⟨gainOk_iff.mpr (Or.inr (stage_up hcard hstage).1), by decide, by decide, netOver_zero _,
      quietFor_zero _⟩
  | voteUp hover hfew =>
    obtain ⟨hle, hcount⟩ := next_vote (by decide) hv.fallback hfew
    exact ⟨gainOk_iff.mpr (Or.inr hstage), hle, by decide, hcount ▸ hv.net.over hover,
      quietFor_zero _⟩
  | between hother =>
    exact ⟨gainOk_iff.mpr (Or.inr hstage), backVote_le hv.fallback, by decide,
      net_backVote hv.net hother, quietFor_zero _⟩
  | lower =>
    exact ⟨gainOk_iff.mpr (Or.inr (stage_down hcard hstage).1), by decide, by decide, netOver_zero _,
      quietFor_zero _⟩
  | voteDown hquiet hfew =>
    obtain ⟨hle, hcount⟩ := next_vote (by decide) hv.upgrade hfew
    exact ⟨gainOk_iff.mpr (Or.inr hstage), backVote_le hv.fallback, hle,
      net_backVote hv.net (not_over_of_quiet hquiet), hcount ▸ hv.quiet.quiet hquiet⟩

/-- A run that leaves the gain asks for no votes. -/
theorem justified_refl (past : List UInt32) (g : UInt8) : Justified c past g g :=
  ⟨⟨by omega, by omega⟩, fun h => absurd h (UInt8.lt_irrefl g), fun h => absurd h (UInt8.lt_irrefl g)⟩

/-- **What a run does to a gain that is not zero.** -/
theorem justified_outcome (hcard : c.card8187 = .nic8187)
    (hv : Backed c s.gain s.fallbackVote s.upgradeVote past) (hgain : s.gain ≠ 0)
    (h : Outcome c s past fa g up down past') : Justified c (past ++ [fa]) s.gain g := by
  have hstage : Stage s.gain := (gainOk_iff.mp hv.gain).resolve_left hgain
  have hstart := startGain_of_stage hcard hstage
  cases h with
  | raise hover hmany =>
    rw [hstart]
    obtain ⟨-, hle, hge⟩ := stage_up hcard hstage
    have hone : NetOver c past 1 := by
      have hnet := hv.net
      rwa [last_vote (by decide) hv.fallback hmany] at hnet
    refine ⟨⟨hle, by omega⟩, fun _ => hone.over hover, fun hless => ?_⟩
    exact absurd (UInt8.lt_iff_toNat_lt.mp hless) (by omega)
  | voteUp =>
    rw [hstart]
    exact justified_refl _ _
  | between =>
    rw [hstart]
    exact justified_refl _ _
  | lower hquiet hmany =>
    rw [hstart]
    obtain ⟨-, hle, hge, hlow⟩ := stage_down hcard hstage
    have hnine : QuietFor c past 9 := by
      have hlast := hv.quiet
      rwa [last_vote (by decide) hv.upgrade hmany] at hlast
    refine ⟨⟨by omega, hge⟩, fun hmore => ?_, fun hless => ⟨hlow hless, hnine.quiet hquiet⟩⟩
    exact absurd (UInt8.lt_iff_toNat_lt.mp hmore) (by omega)
  | voteDown =>
    rw [hstart]
    exact justified_refl _ _

end

/-! ### Runs -/

/-- The invariant, of the state watched. -/
def Voted (c : DigCard) (w : GainWatch) : Prop :=
  Backed c w.dig.gain w.dig.fallbackVote w.dig.upgradeVote w.since

theorem voted_init (c : DigCard) (a : RateAdapter) : (init a).Voted c := by
  show Backed c 0 0 0 []
  exact ⟨by decide, by decide, by decide, netOver_zero _, quietFor_zero _⟩

/-- **One step**, of either of the two. -/
theorem voted_step {c : DigCard} (hcard : c.card8187 = .nic8187) {w : GainWatch} (hw : w.Voted c)
    (i : GainInput) : (w.step c i).Voted c := by
  cases i with
  | dig fa => exact backed_outcome hcard hw (outcome_digZebra c w.dig w.since fa)
  | rate r =>
    obtain ⟨t, hmoves, hstep⟩ := @RateAdapter.staRateadaptive8187_moves r w.dig.adapter
    have hgain : (w.step c (.rate r)).dig.gain = t.initialGain := by
      show (w.dig.adapter.staRateadaptive8187 r).initialGain = t.initialGain
      rw [hstep]
    refine ⟨?_, hw.fallback, hw.upgrade, hw.net, hw.quiet⟩
    rw [hgain]
    rcases hmoves.gain with hsame | hset
    · rw [hsame]
      exact hw.gain
    · have hsub : ([3, 4, 5] : List UInt8) ⊆ [0, 3, 4, 5, 6, 7] := by decide
      exact hsub hset

/-- The readings of `DIG_Zebra`. -/
def readings (is : List GainInput) : List UInt32 :=
  is.filterMap fun i => match i with
    | .dig fa => some fa
    | .rate _ => none

theorem since_step {c : DigCard} {w : GainWatch} {past : List UInt32} (h : w.since <:+ past)
    (i : GainInput) : (w.step c i).since <:+ past ++ readings [i] := by
  cases i with
  | dig fa =>
    show (if w.dig.Decides c fa then [] else w.since ++ [fa]) <:+ past ++ [fa]
    split_ifs
    · exact List.nil_suffix
    · exact suffix_snoc h fa
  | rate r =>
    show w.since <:+ past ++ []
    rwa [List.append_nil]

/-- The readings kept are the last ones. -/
theorem since_run (c : DigCard) : ∀ (w : GainWatch) (past : List UInt32) (is : List GainInput),
    w.since <:+ past → (Run.run (step c) w is).since <:+ past ++ readings is
  | w, past, [], h => by
    show w.since <:+ past ++ []
    rwa [List.append_nil]
  | w, past, i :: is, h => by
    have ih := since_run c (w.step c i) (past ++ readings [i]) is (since_step h i)
    have hsplit : readings ([i] ++ is) = readings [i] ++ readings is := List.filterMap_append
    rw [List.singleton_append] at hsplit
    rwa [hsplit, ← List.append_assoc]

/-- **The initial gain under both controllers.** After any interleaving of runs
of `DIG_Zebra` and steps of the rate adapter the gain is one of 0, 3, 4, 5, 6 and
7 and the votes are few; and what the next run does to a gain that is not zero
is justified by the readings since the votes were last acted on. -/
theorem digGain_run {c : DigCard} (hcard : c.card8187 = .nic8187) (a : RateAdapter)
    (is : List GainInput) (fa : UInt32) :
    GainOk (Run.run (step c) (init a) is).dig.gain ∧
    (Run.run (step c) (init a) is).dig.fallbackVote ≤ 1 ∧
    (Run.run (step c) (init a) is).dig.upgradeVote ≤ 9 ∧
    (Run.run (step c) (init a) is).since <:+ readings is ∧
    ((Run.run (step c) (init a) is).dig.gain ≠ 0 →
      Justified c ((Run.run (step c) (init a) is).since ++ [fa])
        (Run.run (step c) (init a) is).dig.gain
        ((Run.run (step c) (init a) is).dig.digZebra c fa).gain) := by
  have hrun : (Run.run (step c) (init a) is).Voted c :=
    Run.inv_run (fun w i (h : w.Voted c) _ => voted_step hcard h i) _ is (voted_init c a)
      (Run.allSteps_true _ is)
  refine ⟨hrun.gain, hrun.fallback, hrun.upgrade, since_run c _ [] is List.nil_suffix, fun hgain => ?_⟩
  exact justified_outcome hcard hrun hgain (outcome_digZebra c _ _ fa)

/-- An RTL8187 with the thresholds of `rtl8180_init`. -/
def rtl8187Card : DigCard := ⟨.nic8187, .v8187D, .zebra2, 2, 0x0c⟩

/-- Two readings above both thresholds, on a gain the first has chosen. -/
theorem digGain_two : rtl8187Card.card8187 = .nic8187 ∧
    GainOk (Run.run (step rtl8187Card) (init .init) [.dig 0x20000000]).dig.gain ∧
    (Run.run (step rtl8187Card) (init .init) [.dig 0x20000000]).dig.fallbackVote ≤ 1 ∧
    (Run.run (step rtl8187Card) (init .init) [.dig 0x20000000]).dig.upgradeVote ≤ 9 ∧
    (Run.run (step rtl8187Card) (init .init) [.dig 0x20000000]).since <:+
      readings [.dig 0x20000000] ∧
    ((Run.run (step rtl8187Card) (init .init) [.dig 0x20000000]).dig.gain ≠ 0 →
      Justified rtl8187Card
        ((Run.run (step rtl8187Card) (init .init) [.dig 0x20000000]).since ++ [0x20000000])
        (Run.run (step rtl8187Card) (init .init) [.dig 0x20000000]).dig.gain
        ((Run.run (step rtl8187Card) (init .init) [.dig 0x20000000]).dig.digZebra rtl8187Card
          0x20000000).gain) :=
  ⟨rfl, digGain_run rfl .init [.dig 0x20000000] 0x20000000⟩

end GainWatch

end Rtl8187

/-
# The LED that shows the link

In modes 0 and 3 one LED shows the link. A blink in progress always has a timer or a work
item to go on, and when neither is under way the LED is lit if the last that was said of
the link is that it is there. The power going off says that it is not; after the power went
on nothing is claimed until something is said. In mode 0 a work item may be left over from a blink that was
given up; it meets no blink of its own then (`Showing`).

Key definitions: `wanted`, `Led.UnderWay`, `Led.final`, `Showing`.
Key theorems: `Showing.start`, `Showing.next`, `Showing.stop`, `shows_swLedBlink`, `showing_step`,
`led_shows_link`.
-/
import Rtl8187.Led
import Rtl8187.Lib.Run

namespace Rtl8187

namespace Leds

/-- What the last action that says something of the link has said of it. The power going
off counts as no link. The power going on takes back what was said: the LED is lit then in
mode 0 and dark in mode 3, whatever the link is. -/
def wanted (w : Option Bool) : LedEvent → Option Bool
  | .control .link => some true
  | .control .noLink => some false
  | .control .powerOff => some false
  | .control .powerOn => none
  | _ => w

/-- The pin shows what the driver takes the LED for. -/
def Agrees (s : Leds) : Prop := s.nic 0xFF90 = if (s.led .gpio0).bLedOn then 0 else 1

end Leds

namespace Led

/-- A timer is pending, or a work item is queued. -/
def UnderWay (l : Led) : Prop := l.blinkTimer.isSome = true ∨ l.workItem = true

instance (l : Led) : Decidable l.UnderWay := inferInstanceAs (Decidable (_ ∨ _))

/-- A blink that ends by itself. -/
def Blinks (l : Led) : Prop := l.currLedState = .blinkNormal ∨ l.currLedState = .blinkCm3

/-- What the LED is when such a blink has ended. -/
def final (l : Led) : Bool :=
  if l.blinkTimes.toNat % 2 = 0 then l.blinkingLedState ≠ .on else l.blinkingLedState = .on

end Led

/-- The LED in modes 0 and 3, when the link is said to be as in `w`. -/
structure Showing (l : Led) (agrees : Prop) (w : Option Bool) : Prop where
  hang : l.bLedBlinkInProgress = true → l.UnderWay
  slow : l.currLedState = .blinkSlowly → l.bLedBlinkInProgress = true
  settled : l.bLedBlinkInProgress = false → ∀ b ∈ w, l.bLedOn = b ∧ agrees
  idle : l.Blinks → l.bLedBlinkInProgress = false → ¬ l.UnderWay
  busy : l.Blinks → l.bLedBlinkInProgress = true → l.blinkTimes ≠ 0 ∧
    (l.blinkTimes = 1 → l.blinkTimer.isSome = true → l.workItem = false) ∧ ∀ b ∈ w, l.final = b
  on : l.currLedState = .on → ∀ b ∈ w, b = true
  off : l.currLedState = .off → ∀ b ∈ w, b = false
  other : ∀ b ∈ w, l.Blinks ∨ l.currLedState = .on ∨ l.currLedState = .off ∨ l.currLedState = .blinkSlowly

section

variable {l l' : Led} {agrees agrees' : Prop} {w : Option Bool}

/-- The turns of a blink lead where they led before. -/
theorem final_turned (h : l.blinkTimes ≠ 0) {lit : Bool} {timer : Option ℕ} {work : Bool} :
    Led.final { l with
      bLedOn := lit
      workItem := work
      blinkTimes := l.blinkTimes - 1
      blinkingLedState := l.turned
      blinkTimer := timer } = l.final := by
  have hpos : 1 ≤ l.blinkTimes.toNat := by
    rcases Nat.eq_zero_or_pos l.blinkTimes.toNat with hz | hpos
    · exact absurd (UInt32.toNat_inj.mp hz) h
    · exact hpos
  have hpred : (l.blinkTimes - 1).toNat = l.blinkTimes.toNat - 1 :=
    UInt32.toNat_sub_of_le l.blinkTimes 1 (UInt32.le_iff_toNat_le.mpr hpos)
  have hturn : (l.turned = .on) ↔ ¬ (l.blinkingLedState = .on) := by
    rw [Led.turned]
    split_ifs with hon
    · simp [hon]
    · simp [hon]
  unfold Led.final
  dsimp only
  rw [hpred]
  by_cases heven : l.blinkTimes.toNat % 2 = 0
  · rw [if_neg (by omega), if_pos heven]
    exact decide_eq_decide.mpr hturn
  · rw [if_pos (by omega), if_neg heven, decide_eq_decide, ne_eq, hturn, not_not]

/-- A blink begins that ends by itself. -/
theorem Showing.start (h : Showing l agrees w) (hidle : l.bLedBlinkInProgress = false) {curr : LedState}
    (hcurr : curr = .blinkNormal ∨ curr = .blinkCm3) {times : UInt32} (htimes : times ≠ 0)
    (heven : times.toNat % 2 = 0) (delay : ℕ) : Showing (l.startBlink curr times delay) agrees' w where
  hang _ := Or.inl rfl
  slow hs := by
    have hs' : curr = .blinkSlowly := hs
    rcases hcurr with rfl | rfl
    · cases hs'
    · cases hs'
  settled hi := by cases hi
  idle _ hi := by cases hi
  busy _ _ := by
    refine ⟨htimes, fun hone => ?_, fun b hb => ?_⟩
    · have hone' : times = 1 := hone
      rw [hone'] at heven
      exact absurd heven (by decide)
    · have hlit := (h.settled hidle b hb).1
      have hfinal : (l.startBlink curr times delay).final = decide (l.opposite ≠ .on) := if_pos heven
      rw [hfinal, ← hlit, Led.opposite]
      cases l.bLedOn with
      | true => rfl
      | false => rfl
  on hs := by
    have hs' : curr = .on := hs
    rcases hcurr with rfl | rfl
    · cases hs'
    · cases hs'
  off hs := by
    have hs' : curr = .off := hs
    rcases hcurr with rfl | rfl
    · cases hs'
    · cases hs'
  other _ _ := Or.inl hcurr

/-- What an LED that is to be on or off shows. -/
theorem Showing.of_said {b : Bool} (hcurr : l.currLedState = if b then .on else .off)
    (hhang : l.bLedBlinkInProgress = true → l.UnderWay)
    (hdone : l.bLedBlinkInProgress = false → l.bLedOn = b ∧ agrees) : Showing l agrees (some b) := by
  have hblinks : ¬ l.Blinks := by
    rw [Led.Blinks, hcurr]
    cases b with
    | true => decide
    | false => decide
  refine ⟨hhang, fun hs => ?_, fun hi b' hb => ?_, fun hb => absurd hb hblinks, fun hb => absurd hb hblinks,
    fun hs b' hb => ?_, fun hs b' hb => ?_, fun _ _ => ?_⟩
  · rw [hcurr] at hs
    cases b with
    | true => cases hs
    | false => cases hs
  · obtain rfl := Option.some.inj hb
    exact hdone hi
  · obtain rfl := Option.some.inj hb
    rw [hcurr] at hs
    cases b with
    | true => rfl
    | false => cases hs
  · obtain rfl := Option.some.inj hb
    rw [hcurr] at hs
    cases b with
    | true => cases hs
    | false => rfl
  · rw [hcurr]
    cases b with
    | true => exact Or.inr (Or.inl rfl)
    | false => exact Or.inr (Or.inr (Or.inl rfl))

/-- Nothing is said of the link. -/
theorem Showing.of_powerOn (hcurr : l.currLedState = .powerOnBlink)
    (hhang : l.bLedBlinkInProgress = true → l.UnderWay) : Showing l agrees none := by
  have hblinks : ¬ l.Blinks := by
    rw [Led.Blinks, hcurr]
    decide
  refine ⟨hhang, fun hs => ?_, fun _ b hb => (by cases hb), fun hb => absurd hb hblinks,
    fun hb => absurd hb hblinks, fun _ b hb => (by cases hb), fun _ b hb => (by cases hb),
    fun b hb => (by cases hb)⟩
  rw [hcurr] at hs
  cases hs

/-- A slow blink begins, which only an action ends. -/
theorem Showing.of_slow (hcurr : l.currLedState = .blinkSlowly) (hbusy : l.bLedBlinkInProgress = true)
    (hway : l.UnderWay) : Showing l agrees w := by
  have hblinks : ¬ l.Blinks := by
    rw [Led.Blinks, hcurr]
    decide
  refine ⟨fun _ => hway, fun _ => hbusy, fun hi => ?_, fun hb => absurd hb hblinks,
    fun hb => absurd hb hblinks, fun hs => ?_, fun hs => ?_, fun _ _ => Or.inr (Or.inr (Or.inr hcurr))⟩
  · rw [hbusy] at hi
    cases hi
  · rw [hcurr] at hs
    cases hs
  · rw [hcurr] at hs
    cases hs

/-- The timer runs out. -/
theorem Showing.timer (h : Showing l agrees w) (harmed : l.blinkTimer.isSome = true) :
    Showing { l with blinkTimer := none, workItem := true } agrees w where
  hang _ := Or.inr rfl
  slow := h.slow
  settled := h.settled
  idle hb hi := absurd (Or.inl harmed) (h.idle hb hi)
  busy hb hi := by
    obtain ⟨htimes, -, hfinal⟩ := h.busy hb hi
    exact ⟨htimes, fun _ hn => (by cases hn), hfinal⟩
  on := h.on
  off := h.off
  other := h.other

/-- A blink goes on. -/
theorem Showing.next (h : Showing l agrees w) (hb : l.Blinks) (hbusy : l.bLedBlinkInProgress = true)
    (hmore : l.blinkTimes - 1 ≠ 0) (delay : ℕ) :
    Showing { l with
      bLedOn := l.blinkingLedState = .on
      workItem := false
      blinkTimes := l.blinkTimes - 1
      blinkingLedState := l.turned
      blinkTimer := some delay } agrees' w := by
  obtain ⟨htimes, -, hfinal⟩ := h.busy hb hbusy
  have hslow : l.currLedState ≠ .blinkSlowly ∧ l.currLedState ≠ .on ∧ l.currLedState ≠ .off := by
    rcases hb with hb | hb
    · rw [hb]
      decide
    · rw [hb]
      decide
  refine ⟨fun _ => Or.inl rfl, fun hs => absurd hs hslow.1, fun hi => ?_, fun _ hi => ?_, fun _ _ => ?_,
    fun hs => absurd hs hslow.2.1, fun hs => absurd hs hslow.2.2, h.other⟩
  · rw [hbusy] at hi
    cases hi
  · rw [hbusy] at hi
    cases hi
  · refine ⟨hmore, fun _ _ => rfl, fun b hb => ?_⟩
    rw [← hfinal b hb]
    exact final_turned htimes

/-- A blink ends. -/
theorem Showing.stop (h : Showing l agrees w) {lit : Bool} {times : UInt32}
    (hlit : ∀ b ∈ w, lit = b) (hagrees : agrees') (hlast : l.Blinks → l.blinkTimer = none)
    (hslow : l.currLedState ≠ .blinkSlowly) :
    Showing { l with
      bLedOn := lit, workItem := false, blinkTimes := times, bLedBlinkInProgress := false } agrees' w where
  hang hi := by cases hi
  slow hs := absurd hs hslow
  settled _ b hb := ⟨hlit b hb, hagrees⟩
  idle hb _ := by
    rintro (harmed | hwork)
    · dsimp only at harmed
      rw [hlast hb] at harmed
      cases harmed
    · cases hwork
  busy _ hi := by cases hi
  on := h.on
  off := h.off
  other := h.other

end

namespace Leds

section

variable (s : Leds) {w : Option Bool}

theorem swLedOn_led : (s.swLedOn .gpio0).led .gpio0 = { s.led .gpio0 with bLedOn := true } :=
  setLed_led ((s.writeNicByte 0xFF91 0x01).writeNicByte 0xFF90 0x00) .gpio0 _

theorem swLedOff_led : (s.swLedOff .gpio0).led .gpio0 = { s.led .gpio0 with bLedOn := false } :=
  setLed_led ((s.writeNicByte 0xFF91 0x01).writeNicByte 0xFF90 0x01) .gpio0 _

theorem swLedOn_agrees : (s.swLedOn .gpio0).Agrees := by
  rw [Agrees, swLedOn_led]
  show Function.update (Function.update s.nic 0xFF91 0x01) 0xFF90 0x00 0xFF90 = 0
  rw [Function.update_self]

theorem swLedOff_agrees : (s.swLedOff .gpio0).Agrees := by
  rw [Agrees, swLedOff_led]
  show Function.update (Function.update s.nic 0xFF91 0x01) 0xFF90 0x01 0xFF90 = 1
  rw [Function.update_self]

/-- What the driver takes the LED for is all that counts. -/
theorem setLed_agrees {l : Led} (hl : l.bLedOn = (s.led .gpio0).bLedOn) :
    (s.setLed .gpio0 l).Agrees ↔ s.Agrees := by
  rw [Agrees, setLed_led, hl]
  rfl

theorem blinkTo_led : (s.blinkTo .gpio0).led .gpio0 =
    { s.led .gpio0 with bLedOn := (s.led .gpio0).blinkingLedState = .on } := by
  unfold blinkTo
  split_ifs with hon
  · rw [swLedOn_led, decide_eq_true hon]
  · rw [swLedOff_led, decide_eq_false hon]

theorem blinkTo_agrees : (s.blinkTo .gpio0).Agrees := by
  unfold blinkTo
  split_ifs
  · exact swLedOn_agrees s
  · exact swLedOff_agrees s

/-- The LED is as it is to be when a blink ends. -/
theorem stopBlink_said (hagrees : s.Agrees) : (s.stopBlink .gpio0).Agrees ∧
    ∃ lit, (s.stopBlink .gpio0).led .gpio0 = { s.led .gpio0 with
        bLedOn := lit, blinkTimes := 0, bLedBlinkInProgress := false } ∧
      ((s.led .gpio0).currLedState = .on → lit = true) ∧ ((s.led .gpio0).currLedState = .off → lit = false) ∧
      ((s.led .gpio0).currLedState ≠ .on → (s.led .gpio0).currLedState ≠ .off → lit = (s.led .gpio0).bLedOn) := by
  unfold stopBlink
  dsimp only
  by_cases hon : (s.led .gpio0).currLedState = .on ∧ (s.led .gpio0).bLedOn = false
  · rw [if_pos hon]
    refine ⟨(setLed_agrees _ rfl).mpr (swLedOn_agrees s), true, ?_, fun _ => rfl, fun h => ?_, fun h => ?_⟩
    · rw [setLed_led, swLedOn_led]
    · rw [hon.1] at h
      cases h
    · exact absurd hon.1 h
  · rw [if_neg hon]
    by_cases hoff : (s.led .gpio0).currLedState = .off ∧ (s.led .gpio0).bLedOn = true
    · rw [if_pos hoff]
      refine ⟨(setLed_agrees _ rfl).mpr (swLedOff_agrees s), false, ?_, fun h => ?_, fun _ => rfl, fun _ h => ?_⟩
      · rw [setLed_led, swLedOff_led]
      · rw [hoff.1] at h
        cases h
      · exact absurd hoff.1 h
    · rw [if_neg hoff]
      refine ⟨(setLed_agrees _ rfl).mpr hagrees, (s.led .gpio0).bLedOn, ?_, fun h => ?_, fun h => ?_,
        fun _ _ => rfl⟩
      · rw [setLed_led]
      · by_contra hdark
        exact hon ⟨h, Bool.eq_false_iff.mpr hdark⟩
      · by_contra hlit
        exact hoff ⟨h, Bool.not_eq_false _ ▸ hlit⟩

/-- What the LED shows. -/
def Shows (s : Leds) (w : Option Bool) : Prop := Showing (s.led .gpio0) s.Agrees w

/-- A slow blink goes on. -/
theorem nextBlink_slow {l : Led} (hcurr : l.currLedState = .blinkSlowly) : (nextBlink l).currLedState = .blinkSlowly ∧
    (nextBlink l).bLedBlinkInProgress = l.bLedBlinkInProgress ∧ (nextBlink l).UnderWay := by
  unfold nextBlink
  rw [hcurr]
  dsimp only
  split_ifs
  · exact ⟨rfl, rfl, Or.inl rfl⟩
  · exact ⟨rfl, rfl, Or.inl rfl⟩

theorem nextBlink_blinks {l : Led} (hb : l.Blinks) :
    ∃ delay, nextBlink l = { l with blinkingLedState := l.turned, blinkTimer := some delay } := by
  unfold nextBlink
  rcases hb with hb | hb
  · rw [hb]
    exact ⟨_, rfl⟩
  · rw [hb]
    exact ⟨_, rfl⟩

/-- **A work item** keeps what the LED shows. -/
theorem shows_swLedBlink (h : s.Shows w) (hwork : (s.led .gpio0).workItem = true) :
    ((s.setLed .gpio0 { s.led .gpio0 with workItem := false }).swLedBlink .gpio0).Shows w := by
  obtain ⟨l, hl⟩ : ∃ l, l = s.led .gpio0 := ⟨_, rfl⟩
  obtain ⟨s₁, hs₁⟩ : ∃ s₁, s₁ = (s.setLed .gpio0 { s.led .gpio0 with workItem := false }).blinkTo .gpio0 := ⟨_, rfl⟩
  have hled : s₁.led .gpio0 = { l with workItem := false, bLedOn := l.blinkingLedState = .on } := by
    rw [hs₁, blinkTo_led, setLed_led, hl]
  have hagrees : s₁.Agrees := hs₁ ▸ blinkTo_agrees _
  rw [Shows, ← hl] at h
  rw [← hl] at hwork
  unfold swLedBlink
  rw [← hs₁]
  dsimp only
  rw [hled]
  by_cases hslow : l.currLedState = .blinkSlowly
  · rw [if_pos hslow, Shows, setLed_led]
    obtain ⟨hcurr, hbusy, hway⟩ := @nextBlink_slow
      { l with workItem := false, bLedOn := l.blinkingLedState = .on } hslow
    exact Showing.of_slow hcurr (hbusy.trans (h.slow hslow)) hway
  · rw [if_neg hslow]
    obtain ⟨s₂, hs₂⟩ : ∃ s₂, s₂ = s₁.setLed .gpio0 { l with
      workItem := false, bLedOn := l.blinkingLedState = .on, blinkTimes := l.blinkTimes - 1 } := ⟨_, rfl⟩
    have hled₂ : s₂.led .gpio0 = { l with
        workItem := false, bLedOn := l.blinkingLedState = .on, blinkTimes := l.blinkTimes - 1 } := by
      rw [hs₂, setLed_led]
    have hagrees₂ : s₂.Agrees := hs₂ ▸ (setLed_agrees s₁ (by rw [hled])).mpr hagrees
    obtain ⟨hsaid, lit, hstop, hon, hoff, hkept⟩ := stopBlink_said s₂ hagrees₂
    rw [hled₂] at hstop hon hoff hkept
    dsimp only
    rw [← hs₂]
    by_cases hb : l.Blinks
    · have hbusy : l.bLedBlinkInProgress = true := by
        by_contra hidle
        exact h.idle hb (Bool.eq_false_iff.mpr hidle) (Or.inr hwork)
      obtain ⟨htimes, hone, hfinal⟩ := h.busy hb hbusy
      have hcurr : l.currLedState ≠ .on ∧ l.currLedState ≠ .off := by
        rcases hb with hb | hb
        · rw [hb]
          decide
        · rw [hb]
          decide
      by_cases hlast : l.blinkTimes - 1 = 0
      · rw [if_pos (Or.inl hlast), Shows, hstop]
        have htimes' : l.blinkTimes = 1 := by
          have hback : l.blinkTimes - 1 + 1 = l.blinkTimes := UInt32.sub_add_cancel _ _
          rw [← hback, hlast]
          rfl
        apply h.stop
        · intro b hb'
          rw [hkept hcurr.1 hcurr.2, ← hfinal b hb', Led.final, htimes', if_neg (by decide)]
        · exact hsaid
        · intro _
          by_contra harmed
          have hnone := hone htimes' (Option.isSome_iff_ne_none.mpr harmed)
          rw [hwork] at hnone
          cases hnone
        · exact hslow
      · have hgoes : ¬ (l.blinkTimes - 1 = 0 ∨ l.currLedState ≠ .blinkNormal ∧ l.currLedState ≠ .blinkCm3) := by
          rintro (hz | ⟨hn, hc⟩)
          · exact hlast hz
          · exact hb.elim hn hc
        rw [if_neg hgoes, Shows, setLed_led]
        obtain ⟨delay, hnext⟩ := @nextBlink_blinks
          { l with workItem := false, bLedOn := l.blinkingLedState = .on, blinkTimes := l.blinkTimes - 1 } hb
        rw [hnext]
        exact h.next hb hbusy hlast delay
    · have hends : l.blinkTimes - 1 = 0 ∨ l.currLedState ≠ .blinkNormal ∧ l.currLedState ≠ .blinkCm3 :=
        Or.inr ⟨fun hn => hb (Or.inl hn), fun hc => hb (Or.inr hc)⟩
      rw [if_pos hends, Shows, hstop]
      apply h.stop
      · intro b hb'
        rcases h.other b hb' with hblinks | hcurr | hcurr | hcurr
        · exact absurd hblinks hb
        · rw [hon hcurr, h.on hcurr b hb']
        · rw [hoff hcurr, h.off hcurr b hb']
        · exact absurd hcurr hslow
      · exact hsaid
      · exact fun hblinks => absurd hblinks hb
      · exact hslow

/-! ### The actions -/

/-- The LED is to be on or off, at once if no blink is in progress. -/
theorem shows_wantOn (h : s.Shows w) : (s.wantOn .gpio0).Shows (some true) := by
  have hled : (s.setCurr .gpio0 .on).led .gpio0 = { s.led .gpio0 with currLedState := .on } := setLed_led ..
  unfold wantOn Shows
  dsimp only
  rw [hled]
  by_cases hbusy : (s.led .gpio0).bLedBlinkInProgress = true
  · rw [if_pos hbusy, hled]
    refine Showing.of_said rfl (fun _ => h.hang hbusy) fun hidle => ?_
    rw [hbusy] at hidle
    cases hidle
  · rw [if_neg hbusy, swLedOn_led, hled]
    exact Showing.of_said rfl (fun hb => absurd hb hbusy) fun _ => ⟨rfl, swLedOn_agrees _⟩

theorem shows_wantOff (h : s.Shows w) : (s.wantOff .gpio0).Shows (some false) := by
  have hled : (s.setCurr .gpio0 .off).led .gpio0 = { s.led .gpio0 with currLedState := .off } := setLed_led ..
  unfold wantOff Shows
  dsimp only
  rw [hled]
  by_cases hbusy : (s.led .gpio0).bLedBlinkInProgress = true
  · rw [if_pos hbusy, hled]
    refine Showing.of_said rfl (fun _ => h.hang hbusy) fun hidle => ?_
    rw [hbusy] at hidle
    cases hidle
  · rw [if_neg hbusy, swLedOff_led, hled]
    exact Showing.of_said rfl (fun hb => absurd hb hbusy) fun _ => ⟨rfl, swLedOff_agrees _⟩

/-- A blink begins, unless one is in progress. -/
theorem shows_blinkUnlessBusy (h : s.Shows w) {curr : LedState} (hcurr : curr = .blinkNormal ∨ curr = .blinkCm3)
    {times : UInt32} (htimes : times ≠ 0) (heven : times.toNat % 2 = 0) (delay : ℕ) :
    (s.blinkUnlessBusy .gpio0 curr times delay).Shows w := by
  unfold blinkUnlessBusy
  by_cases hbusy : (s.led .gpio0).bLedBlinkInProgress = true
  · rw [if_pos hbusy]
    exact h
  · rw [if_neg hbusy, Shows, setLed_led]
    exact h.start (Bool.eq_false_iff.mpr hbusy) hcurr htimes heven delay

theorem shows_mode3 (h : s.Shows w) (a : LedCtl) :
    (s.swLedControlMode3 a).Shows (wanted w (.control a)) := by
  cases a with
  | tx => exact shows_blinkUnlessBusy s h (Or.inr rfl) (by decide) (by decide) _
  | rx => exact shows_blinkUnlessBusy s h (Or.inr rfl) (by decide) (by decide) _
  | siteSurvey => exact shows_blinkUnlessBusy s h (Or.inr rfl) (by decide) (by decide) _
  | link => exact shows_wantOn s h
  | noLink => exact shows_wantOff s h
  | powerOff => exact shows_wantOff s h
  | powerOn =>
    have hled : (s.setCurr .gpio0 .powerOnBlink).led .gpio0 =
        { s.led .gpio0 with currLedState := .powerOnBlink } := setLed_led ..
    rw [Shows, swLedControlMode3, swLedOff_led, swLedOn_led, hled]
    exact Showing.of_powerOn rfl h.hang

/-- In mode 0 the LED is off at once. -/
theorem shows_mode0_off :
    ((s.setLed .gpio0 { s.led .gpio0 with currLedState := .off }).mode0Does).Shows (some false) := by
  unfold mode0Does
  dsimp only
  rw [setLed_led]
  dsimp only
  by_cases hbusy : (s.led .gpio0).bLedBlinkInProgress = true
  · rw [if_pos hbusy, Shows, swLedOff_led, setLed_led]
    exact Showing.of_said rfl (fun hb => (by cases hb)) fun _ => ⟨rfl, swLedOff_agrees _⟩
  · rw [if_neg hbusy, Shows, swLedOff_led, setLed_led]
    exact Showing.of_said rfl (fun hb => absurd hb hbusy) fun _ => ⟨rfl, swLedOff_agrees _⟩

/-- A blink of mode 0. -/
theorem shows_mode0_blink (h : s.Shows w) (hidle : (s.led .gpio0).bLedBlinkInProgress = false) :
    ((s.setLed .gpio0 { s.led .gpio0 with currLedState := .blinkNormal, blinkTimes := 2 }).mode0Does).Shows w := by
  unfold mode0Does
  dsimp only
  rw [setLed_led]
  dsimp only
  rw [hidle, if_neg Bool.false_ne_true, Shows, setLed_led]
  exact h.start hidle (Or.inl rfl) (by decide) (by decide) _

/-- In mode 0 a blink is not begun while one is in progress. -/
theorem mode0_unlessBusy (a : LedCtl) (ha : a = .tx ∨ a = .rx) : s.swLedControlMode0 a =
    if (s.led .gpio0).bLedBlinkInProgress then s
    else (s.setLed .gpio0 { s.led .gpio0 with currLedState := .blinkNormal, blinkTimes := 2 }).mode0Does := by
  unfold swLedControlMode0 mode0Wants
  rcases ha with rfl | rfl
  · dsimp only
    split_ifs <;> rfl
  · dsimp only
    split_ifs <;> rfl

theorem shows_mode0 (h : s.Shows w) (a : LedCtl) :
    (s.swLedControlMode0 a).Shows (wanted w (.control a)) := by
  have hblink : ∀ a, a = .tx ∨ a = .rx → (s.swLedControlMode0 a).Shows w := by
    intro a ha
    rw [mode0_unlessBusy s a ha]
    split_ifs with hbusy
    · exact h
    · exact shows_mode0_blink s h (Bool.eq_false_iff.mpr hbusy)
  cases a with
  | noLink => exact shows_mode0_off s
  | powerOff => exact shows_mode0_off s
  | tx => exact hblink .tx (Or.inl rfl)
  | rx => exact hblink .rx (Or.inr rfl)
  | link =>
    have hsame : s.swLedControlMode0 .link = s.wantOn .gpio0 := by
      unfold swLedControlMode0 mode0Wants mode0Does wantOn setCurr
      dsimp only
      rw [setLed_led]
    rw [hsame]
    exact shows_wantOn s h
  | powerOn =>
    have hsame : s.swLedControlMode0 .powerOn = (s.setCurr .gpio0 .powerOnBlink).swLedOn .gpio0 := by
      unfold swLedControlMode0 mode0Wants mode0Does setCurr
      dsimp only
      rw [setLed_led]
    rw [hsame, Shows, swLedOn_led, setCurr, setLed_led]
    exact Showing.of_powerOn rfl h.hang
  | siteSurvey =>
    unfold swLedControlMode0 mode0Wants
    dsimp only
    split_ifs with hbusy
    · exact h
    · unfold mode0Does
      dsimp only
      rw [setLed_led]
      dsimp only
      rw [if_neg hbusy, Shows, setLed_led]
      exact Showing.of_slow rfl rfl (Or.inl rfl)

theorem shows_setLed {l : Led} (hl : l.bLedOn = (s.led .gpio0).bLedOn) (h : Showing l s.Agrees w) :
    (s.setLed .gpio0 l).Shows w := by
  rw [Shows, setLed_led, propext (setLed_agrees s hl)]
  exact h

/-- The other LEDs are no part of it. -/
theorem shows_setLed_other {p : LedPin} (hp : p ≠ .gpio0) (l : Led) : (s.setLed p l).Shows w ↔ s.Shows w := by
  have hled : (s.setLed p l).led .gpio0 = s.led .gpio0 := Function.update_of_ne hp.symm _ _
  have hagrees : (s.setLed p l).Agrees ↔ s.Agrees := by
    rw [Agrees, hled]
    rfl
  rw [Shows, Shows, hled, propext hagrees]

/-- **A step** keeps what the LED shows. -/
theorem showing_step (h : s.Shows w) (hmode : s.ledStrategy = .swLedMode0 ∨ s.ledStrategy = .swLedMode3)
    (hon : s.bEnableLedCtrl = true) (e : LedEvent) : (s.step e).Shows (wanted w e) := by
  cases e with
  | control a =>
    rw [step, ledControl8187, if_neg (not_not_intro hon)]
    rcases hmode with hmode | hmode
    · rw [hmode]
      exact shows_mode0 s h a
    · rw [hmode]
      exact shows_mode3 s h a
  | blinkTimer p =>
    rw [step]
    split_ifs with harmed
    · by_cases hp : p = .gpio0
      · subst hp
        exact shows_setLed s rfl (h.timer harmed)
      · exact (shows_setLed_other s hp _).mpr h
    · exact h
  | workItem p =>
    rw [step]
    split_ifs with hwork
    · cases p with
      | gpio0 =>
        have hblink := shows_swLedBlink s h hwork
        have hstrategy : ∀ s' : Leds, s'.ledStrategy = s.ledStrategy →
            s'.workItemCallback .gpio0 = s'.swLedBlink .gpio0 := by
          intro s' hs'
          unfold workItemCallback
          rcases hmode with hmode | hmode
          · rw [hs', hmode]
          · rw [hs', hmode]
        rw [hstrategy (s.setLed .gpio0 { s.led .gpio0 with workItem := false }) rfl]
        exact hblink
      | led0 => exact (shows_setLed_other s (by decide) _).mpr h
      | led1 => exact (shows_setLed_other s (by decide) _).mpr h
    · exact h
  | radio off => exact h

theorem showing_init (nic : ℕ → UInt8) (usValue : UInt16) (off : Bool) :
    (initSwLeds nic usValue off).Shows none := by
  refine ⟨fun h => (by cases h), fun h => (by cases h), fun _ b hb => (by cases hb), fun h => ?_, fun h => ?_,
    fun _ b hb => (by cases hb), fun _ b hb => (by cases hb), fun b hb => (by cases hb)⟩
  · rcases h with h | h
    · cases h
    · cases h
  · rcases h with h | h
    · cases h
    · cases h

end

theorem showing_run (nic : ℕ → UInt8) (usValue : UInt16) (off : Bool) (es : List LedEvent)
    (hmode : ledStrategyOf usValue = .swLedMode0 ∨ ledStrategyOf usValue = .swLedMode3) :
    (Run.run step (initSwLeds nic usValue off) es).Shows (es.foldl wanted none) ∧
      SameCard (Run.run step (initSwLeds nic usValue off) es) (initSwLeds nic usValue off) := by
  induction es using List.reverseRecOn with
  | nil => exact ⟨showing_init nic usValue off, SameCard.refl _⟩
  | append_singleton es e ih =>
    obtain ⟨hshows, hcard⟩ := ih
    have hmode' : (Run.run step (initSwLeds nic usValue off) es).ledStrategy = .swLedMode0 ∨
        (Run.run step (initSwLeds nic usValue off) es).ledStrategy = .swLedMode3 := by
      rw [hcard.ledStrategy]
      exact hmode
    rw [List.foldl_append, Run.run_append]
    exact ⟨showing_step _ hshows hmode' hcard.bEnableLedCtrl e, (step_card _ e).trans hcard⟩

/-- **The LED shows the link** in modes 0 and 3. Whatever happens, a blink in progress has its
timer or its work item to go on; and when neither is under way, the pin is lit if the last
that was said of the link is that it is there, and dark if it is that it is not, or that
the power goes off. -/
theorem led_shows_link (nic : ℕ → UInt8) (usValue : UInt16) (off : Bool) (es : List LedEvent)
    (hmode : ledStrategyOf usValue = .swLedMode0 ∨ ledStrategyOf usValue = .swLedMode3) :
    let s := Run.run step (initSwLeds nic usValue off) es
    ((s.led .gpio0).bLedBlinkInProgress = true → (s.led .gpio0).UnderWay) ∧
      (¬ (s.led .gpio0).UnderWay → ∀ b ∈ es.foldl wanted none, s.nic 0xFF90 = if b then 0 else 1) := by
  obtain ⟨hshows, -⟩ := showing_run nic usValue off es hmode
  intro s
  refine ⟨hshows.hang, fun hquiet b hb => ?_⟩
  have hidle : (s.led .gpio0).bLedBlinkInProgress = false := by
    by_contra hbusy
    exact hquiet (hshows.hang (Bool.not_eq_false _ ▸ hbusy))
  obtain ⟨hlit, hagrees⟩ := hshows.settled hidle b hb
  rw [hagrees, hlit]

/-- The link comes while a card of mode 0 scans. -/
theorem led_shows_link_scan :
    (Run.run step (initSwLeds (fun _ => 0xFF) 0 false)
      [.control .siteSurvey, .control .link, .blinkTimer .gpio0, .workItem .gpio0]).nic 0xFF90 = 0 :=
  (led_shows_link (fun _ => 0xFF) 0 false
    [.control .siteSurvey, .control .link, .blinkTimer .gpio0, .workItem .gpio0] (Or.inl (by decide))).2
    (by decide) true rfl

end Leds

end Rtl8187

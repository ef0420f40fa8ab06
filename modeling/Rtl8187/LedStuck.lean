/-
# The LED that gets stuck

In mode 1 the work item of LED 0 is empty, so a blink that is begun never ends, and what is
said of the link is put off until it does. From the first frame sent or the first scan on,
LED 0 only ever goes dark (`led0_stuck`).

Key definitions: `isPower`, `blinksLed0`, `led0Dark`, `SameLed0`, `Led0Step`.
Key theorems: `power_dark`, `stuck_step`, `led0_run`, `led0_stuck`.
-/
import Rtl8187.Led
import Rtl8187.Lib.Run
import Rtl8187.Lib.Words

namespace Rtl8187

namespace Leds

/-- The power goes on or off. -/
def isPower : LedEvent → Bool
  | .control .powerOn => true
  | .control .powerOff => true
  | _ => false

/-- A blink of LED 0 is begun, unless one is in progress. -/
def blinksLed0 : LedEvent → Bool
  | .control .tx => true
  | .control .siteSurvey => true
  | _ => false

/-- The pin of LED 0 is dark when its bit is set. -/
def led0Dark (s : Leds) : Bool := s.nic psr &&& 0x10 ≠ 0

/-- LED 0 and the register of its pin are as they were. -/
structure SameLed0 (s' s : Leds) : Prop where
  led : s'.led .led0 = s.led .led0
  psrValue : s'.psrValue = s.psrValue
  nic : s'.nic psr = s.nic psr

theorem SameLed0.refl (s : Leds) : SameLed0 s s := ⟨rfl, rfl, rfl⟩

theorem SameLed0.trans {s'' s' s : Leds} (h : SameLed0 s'' s') (h' : SameLed0 s' s) : SameLed0 s'' s :=
  ⟨h.led.trans h'.led, h.psrValue.trans h'.psrValue, h.nic.trans h'.nic⟩

/-- The driver knows what is in the register. -/
def Known (s : Leds) : Prop := s.psrValue = s.nic psr

section

variable {s s' : Leds}

theorem SameLed0.known (h : SameLed0 s' s) (hs : s.Known) : s'.Known := by
  rw [Known, h.psrValue, h.nic]
  exact hs

theorem SameLed0.dark (h : SameLed0 s' s) : s'.led0Dark = s.led0Dark := by
  rw [led0Dark, led0Dark, h.nic]

theorem setLed_apart {p : LedPin} (hp : p ≠ .led0) (l : Led) : SameLed0 (s.setLed p l) s :=
  ⟨Function.update_of_ne hp.symm _ _, rfl, rfl⟩

theorem swLedOn_apart (s : Leds) : SameLed0 (s.swLedOn .gpio0) s := by
  refine SameLed0.trans (setLed_apart (by decide) _) ⟨rfl, rfl, ?_⟩
  show Function.update (Function.update s.nic 0xFF91 0x01) 0xFF90 0x00 psr = s.nic psr
  rw [Function.update_of_ne (by decide), Function.update_of_ne (by decide)]

theorem swLedOff_apart (s : Leds) : SameLed0 (s.swLedOff .gpio0) s := by
  refine SameLed0.trans (setLed_apart (by decide) _) ⟨rfl, rfl, ?_⟩
  show Function.update (Function.update s.nic 0xFF91 0x01) 0xFF90 0x01 psr = s.nic psr
  rw [Function.update_of_ne (by decide), Function.update_of_ne (by decide)]

theorem blinkTo_apart (s : Leds) : SameLed0 (s.blinkTo .gpio0) s := by
  unfold blinkTo
  split_ifs
  · exact swLedOn_apart s
  · exact swLedOff_apart s

theorem stopBlink_apart (s : Leds) : SameLed0 (s.stopBlink .gpio0) s := by
  unfold stopBlink
  dsimp only
  refine SameLed0.trans (setLed_apart (by decide) _) ?_
  split_ifs
  · exact swLedOn_apart s
  · exact swLedOff_apart s
  · exact SameLed0.refl s

theorem swLedBlink_apart (s : Leds) : SameLed0 (s.swLedBlink .gpio0) s := by
  have hne : LedPin.gpio0 ≠ .led0 := by decide
  unfold swLedBlink
  dsimp only
  split_ifs
  · exact (setLed_apart hne _).trans (blinkTo_apart s)
  · exact (stopBlink_apart _).trans ((setLed_apart hne _).trans (blinkTo_apart s))
  · exact (setLed_apart hne _).trans ((setLed_apart hne _).trans (blinkTo_apart s))

theorem writePsr_known (s : Leds) (b : UInt8) : (s.writePsr b).Known := by
  rw [Known, writePsr, writeNicByte]
  dsimp only
  rw [Function.update_self]

/-- An LED of the register is switched. -/
theorem swLed_known (hs : s.Known) (p : LedPin) : (s.swLedOn p).Known ∧ (s.swLedOff p).Known := by
  cases p with
  | gpio0 => exact ⟨(swLedOn_apart s).known hs, (swLedOff_apart s).known hs⟩
  | led0 => exact ⟨writePsr_known s _, writePsr_known s _⟩
  | led1 => exact ⟨writePsr_known s _, writePsr_known s _⟩

/-- **The power's actions** leave LED 0 dark, and its blink as it was. -/
theorem power_dark (s : Leds) {a : LedCtl} (ha : a = .powerOn ∨ a = .powerOff) :
    (s.swLedControlMode1 a).Known ∧ (s.swLedControlMode1 a).led0Dark = true ∧
      ((s.swLedControlMode1 a).led .led0).bLedBlinkInProgress = (s.led .led0).bLedBlinkInProgress := by
  have hon : ∀ b : UInt8, ((b ||| 0x10) &&& ~~~0x20) &&& 0x10 = 0x10 := Words.forall_byte (by decide +kernel)
  have hoff : ∀ b : UInt8, ((b ||| 0x10) ||| 0x20) &&& 0x10 = 0x10 := Words.forall_byte (by decide +kernel)
  rcases ha with rfl | rfl
  · have hnic : (s.swLedControlMode1 .powerOn).nic psr = (s.psrValue ||| 0x10) &&& ~~~0x20 := rfl
    refine ⟨?_, ?_, rfl⟩
    · rw [Known, hnic]
      rfl
    · rw [led0Dark, hnic, hon]
      rfl
  · have hnic : (s.swLedControlMode1 .powerOff).nic psr = (s.psrValue ||| 0x10) ||| 0x20 := rfl
    refine ⟨?_, ?_, rfl⟩
    · rw [Known, hnic]
      rfl
    · rw [led0Dark, hnic, hoff]
      rfl

/-- What a step in mode 1 does to LED 0. -/
structure Led0Step (s' s : Leds) (e : LedEvent) : Prop where
  known : s'.Known
  busy : (s.led .led0).bLedBlinkInProgress = true → (s'.led .led0).bLedBlinkInProgress = true
  begins : blinksLed0 e = true → (s'.led .led0).bLedBlinkInProgress = true
  dark : (s.led .led0).bLedBlinkInProgress = true → s'.led0Dark = (s.led0Dark || isPower e)

/-- A step that leaves LED 0 alone. -/
theorem Led0Step.apart (h : SameLed0 s' s) (hs : s.Known) {e : LedEvent} (hno : blinksLed0 e = false)
    (hpower : isPower e = false) : Led0Step s' s e := by
  refine ⟨h.known hs, fun hbusy => ?_, fun hblinks => ?_, fun _ => ?_⟩
  · rw [h.led]
    exact hbusy
  · rw [hno] at hblinks
    cases hblinks
  · rw [h.dark, hpower, Bool.or_false]

/-- A blink that is begun unless one is in progress. -/
theorem Led0Step.blink (hs : s.Known) {e : LedEvent} (hpower : isPower e = false) (curr : LedState)
    (times : UInt32) (delay : ℕ) : Led0Step (s.blinkUnlessBusy .led0 curr times delay) s e := by
  have hbusy : ((s.blinkUnlessBusy .led0 curr times delay).led .led0).bLedBlinkInProgress = true := by
    unfold blinkUnlessBusy
    split_ifs with hbusy
    · exact hbusy
    · rw [setLed_led]
      rfl
  have hnic : (s.blinkUnlessBusy .led0 curr times delay).nic = s.nic ∧
      (s.blinkUnlessBusy .led0 curr times delay).psrValue = s.psrValue := by
    unfold blinkUnlessBusy
    split_ifs
    · exact ⟨rfl, rfl⟩
    · exact ⟨rfl, rfl⟩
  refine ⟨?_, fun _ => hbusy, fun _ => hbusy, fun _ => ?_⟩
  · rw [Known, hnic.1, hnic.2]
    exact hs
  · rw [led0Dark, led0Dark, hnic.1, hpower, Bool.or_false]

/-- LED 0 is not switched. -/
theorem Led0Step.held (hs : s.Known) {l : Led}
    (hl : l.bLedBlinkInProgress = (s.led .led0).bLedBlinkInProgress) {e : LedEvent} (hno : blinksLed0 e = false)
    (hpower : isPower e = false) : Led0Step (s.setLed .led0 l) s e := by
  refine ⟨hs, fun hbusy => ?_, fun hblinks => ?_, fun _ => ?_⟩
  · rw [setLed_led, hl]
    exact hbusy
  · rw [hno] at hblinks
    cases hblinks
  · rw [hpower, Bool.or_false]
    rfl

/-- What the link is said to be is shown unless a blink is in progress. -/
theorem Led0Step.link (hs : s.Known) {a : LedCtl} (ha : a = .link ∨ a = .noLink) :
    Led0Step (s.swLedControlMode1 a) s (.control a) := by
  by_cases hbusy : (s.led .led0).bLedBlinkInProgress = true
  · have hheld : ∀ curr, ((s.setCurr .led0 curr).led .led0).bLedBlinkInProgress = true := by
      intro curr
      rw [setCurr, setLed_led]
      exact hbusy
    rcases ha with rfl | rfl
    · have hstays : s.swLedControlMode1 .link = s.setCurr .led0 .on := if_pos (hheld .on)
      rw [hstays]
      apply Led0Step.held hs
      all_goals rfl
    · have hstays : s.swLedControlMode1 .noLink = s.setCurr .led0 .off := if_pos (hheld .off)
      rw [hstays]
      apply Led0Step.held hs
      all_goals rfl
  · have hcurr : ∀ curr, ((s.setCurr .led0 curr).led .led0).bLedBlinkInProgress ≠ true := by
      intro curr
      rw [setCurr, setLed_led]
      exact hbusy
    rcases ha with rfl | rfl
    · have hsw : s.swLedControlMode1 .link = (s.setCurr .led0 .on).swLedOn .led0 := if_neg (hcurr .on)
      rw [hsw]
      exact ⟨(swLed_known hs .led0).1, fun h => absurd h hbusy, fun h => (by cases h), fun h => absurd h hbusy⟩
    · have hsw : s.swLedControlMode1 .noLink = (s.setCurr .led0 .off).swLedOff .led0 := if_neg (hcurr .off)
      rw [hsw]
      exact ⟨(swLed_known hs .led0).2, fun h => absurd h hbusy, fun h => (by cases h), fun h => absurd h hbusy⟩

/-- **A step in mode 1**. -/
theorem stuck_step (hs : s.Known) (hmode : s.ledStrategy = .swLedMode1) (hon : s.bEnableLedCtrl = true)
    (e : LedEvent) : Led0Step (s.step e) s e := by
  cases e with
  | control a =>
    rw [step, ledControl8187, if_neg (not_not_intro hon), hmode]
    dsimp only
    cases a with
    | tx => exact .blink hs rfl _ _ _
    | siteSurvey => exact .blink hs rfl _ _ _
    | link => exact .link hs (Or.inl rfl)
    | noLink => exact .link hs (Or.inr rfl)
    | rx => exact .apart (SameLed0.refl s) hs rfl rfl
    | powerOn =>
      obtain ⟨hknown, hdark, hbusy⟩ := power_dark s (Or.inl rfl)
      refine ⟨hknown, fun h => hbusy.trans h, fun h => (by cases h), fun _ => ?_⟩
      rw [hdark]
      exact (Bool.or_true _).symm
    | powerOff =>
      obtain ⟨hknown, hdark, hbusy⟩ := power_dark s (Or.inr rfl)
      refine ⟨hknown, fun h => hbusy.trans h, fun h => (by cases h), fun _ => ?_⟩
      rw [hdark]
      exact (Bool.or_true _).symm
  | blinkTimer p =>
    rw [step]
    split_ifs
    · by_cases hp : p = .led0
      · rw [hp]
        apply Led0Step.held hs
        all_goals rfl
      · exact .apart (setLed_apart hp _) hs rfl rfl
    · exact .apart (SameLed0.refl s) hs rfl rfl
  | workItem p =>
    rw [step]
    split_ifs
    · cases p with
      | gpio0 =>
        have hblink : (s.setLed .gpio0 { s.led .gpio0 with workItem := false }).workItemCallback .gpio0 =
            (s.setLed .gpio0 { s.led .gpio0 with workItem := false }).swLedBlink .gpio0 := by
          unfold workItemCallback
          rw [show (s.setLed .gpio0 { s.led .gpio0 with workItem := false }).ledStrategy = .swLedMode1 from hmode]
        rw [hblink]
        exact .apart ((swLedBlink_apart _).trans (setLed_apart (by decide) _)) hs rfl rfl
      | led0 =>
        apply Led0Step.held hs
        all_goals rfl
      | led1 => exact .apart (setLed_apart (by decide) _) hs rfl rfl
    · exact .apart (SameLed0.refl s) hs rfl rfl
  | radio off =>
    have hsame : SameLed0 (s.step (.radio off)) s := ⟨rfl, rfl, rfl⟩
    exact .apart hsame hs rfl rfl

end

/-- What is known of LED 0 after a run in mode 1. -/
theorem led0_run (nic : ℕ → UInt8) (usValue : UInt16) (off : Bool) (es : List LedEvent)
    (hmode : ledStrategyOf usValue = .swLedMode1) :
    (Run.run step (initSwLeds nic usValue off) es).Known ∧
      SameCard (Run.run step (initSwLeds nic usValue off) es) (initSwLeds nic usValue off) ∧
      ((∃ e ∈ es, blinksLed0 e = true) →
        ((Run.run step (initSwLeds nic usValue off) es).led .led0).bLedBlinkInProgress = true) := by
  induction es using List.reverseRecOn with
  | nil => exact ⟨rfl, SameCard.refl _, fun ⟨e, he, _⟩ => absurd he List.not_mem_nil⟩
  | append_singleton es e ih =>
    obtain ⟨hknown, hcard, hbusy⟩ := ih
    have hstep := stuck_step hknown (hcard.ledStrategy.trans hmode) hcard.bEnableLedCtrl e
    rw [Run.run_append]
    refine ⟨hstep.known, (step_card _ e).trans hcard, ?_⟩
    rintro ⟨e', he', hblinks⟩
    rcases List.mem_append.mp he' with hmem | hmem
    · exact hstep.busy (hbusy ⟨e', hmem, hblinks⟩)
    · rw [List.mem_singleton.mp hmem] at hblinks
      exact hstep.begins hblinks

/-- **LED 0 does not follow the link any more** in mode 1, once something has been sent or
scanned: whatever happens then, its blink stays in progress, and it stays as it is until
the power goes on or off and is dark for good after that. -/
theorem led0_stuck (nic : ℕ → UInt8) (usValue : UInt16) (off : Bool) (es es' : List LedEvent)
    (hmode : ledStrategyOf usValue = .swLedMode1) (hblinks : ∃ e ∈ es, blinksLed0 e = true) :
    let s := Run.run step (initSwLeds nic usValue off) es
    ((Run.run step s es').led .led0).bLedBlinkInProgress = true ∧
      (Run.run step s es').led0Dark = (s.led0Dark || es'.any isPower) := by
  intro s
  obtain ⟨hknown, hcard, hbusy⟩ := led0_run nic usValue off es hmode
  have hinv : (Run.run step s es').Known ∧ SameCard (Run.run step s es') (initSwLeds nic usValue off) ∧
      ((Run.run step s es').led .led0).bLedBlinkInProgress = true ∧
      (Run.run step s es').led0Dark = (s.led0Dark || es'.any isPower) := by
    induction es' using List.reverseRecOn with
    | nil => exact ⟨hknown, hcard, hbusy hblinks, (Bool.or_false _).symm⟩
    | append_singleton es' e ih =>
      obtain ⟨hknown', hcard', hbusy', hdark⟩ := ih
      have hstep := stuck_step hknown' (hcard'.ledStrategy.trans hmode) hcard'.bEnableLedCtrl e
      rw [Run.run_append, List.any_append, ← Bool.or_assoc, ← hdark]
      refine ⟨hstep.known, (step_card _ e).trans hcard', hstep.busy hbusy', ?_⟩
      rw [Run.run_cons, Run.run_nil, hstep.dark hbusy', List.any_cons, List.any_nil, Bool.or_false]
  exact hinv.2.2

/-- It was dark, and the link comes. -/
theorem led0_stuck_link :
    let s := Run.run step (Run.run step (initSwLeds (fun _ => 0xFF) 0x0001 false)
      [.control .powerOn, .control .siteSurvey]) [.blinkTimer .led0, .workItem .led0, .control .link]
    (s.led .led0).bLedBlinkInProgress = true ∧ s.led0Dark = true := by
  intro s
  obtain ⟨hbusy, hdark⟩ := led0_stuck (fun _ => 0xFF) 0x0001 false [.control .powerOn, .control .siteSurvey]
    [.blinkTimer .led0, .workItem .led0, .control .link] (by decide) ⟨.control .siteSurvey, by decide, rfl⟩
  exact ⟨hbusy, hdark.trans (by decide)⟩

end Leds

end Rtl8187

/-
# The LEDs

`r8187_led.c`: the actions of `LedControl8187` in its four modes, the blink timers, and
the work items they queue, in which an LED is switched. Actions, timers and work items
come in any order; a timer that is deleted may have queued its work item before.

The card's EEPROM picks the mode; no value of it picks mode 2.

Key definitions: `Led`, `Leds`, `ledControl8187`, `swLedBlink`, `LedEvent`, `Leds.step`.
Key theorems: `step_card`.
-/
import Mathlib.Data.Nat.Notation
import Mathlib.Logic.Function.Basic
import Mathlib.Tactic.SplitIfs

namespace Rtl8187

/-- `LED_STATE_8187` -/
inductive LedState where
  | unknown
  | on
  | off
  | blinkNormal
  | blinkSlowly
  | powerOnBlink
  | scanBlink
  | noLinkBlink
  | blinkCm3
  deriving DecidableEq, Repr

/-- `LED_STRATEGY_8187` -/
inductive LedStrategy where
  | swLedMode0
  | swLedMode1
  | swLedMode2
  | swLedMode3
  | hwLed
  deriving DecidableEq, Repr

/-- `LED_PIN_8187` -/
inductive LedPin where
  | gpio0
  | led0
  | led1
  deriving DecidableEq, Repr

/-- `LED_CTL_MODE` -/
inductive LedCtl where
  | powerOn
  | powerOff
  | link
  | noLink
  | tx
  | rx
  | siteSurvey
  deriving DecidableEq, Repr

/-- `LED_8187`: `blinkTimer` is the delay the timer was last armed with, while it is
pending; `workItem` says whether the LED's work item is queued. -/
structure Led where
  currLedState : LedState
  bLedOn : Bool
  bLedBlinkInProgress : Bool
  blinkTimes : UInt32
  blinkingLedState : LedState
  blinkTimer : Option ℕ
  workItem : Bool
  deriving DecidableEq

/-- `InitLed8187` -/
def initLed8187 : Led := ⟨.off, false, false, 0, .off, none, false⟩

/-- The LEDs of `struct r8180_priv`, with the registers of the card. `radioOff` is what
`SwLedCm2Blink` asks of the radio: that it is off, and not to save power. -/
structure Leds where
  bEnableLedCtrl : Bool
  ledStrategy : LedStrategy
  psrValue : UInt8
  nic : ℕ → UInt8
  radioOff : Bool
  led : LedPin → Led

/-- `PSR` -/
def psr : ℕ := 0x5E

/-- `LED_BLINK_NORMAL_INTERVAL` -/
def ledBlinkNormalInterval : ℕ := 100

/-- `LED_BLINK_SLOWLY_INTERVAL` -/
def ledBlinkSlowlyInterval : ℕ := 200

/-- `LED_CM2_BLINK_ON_INTERVAL` -/
def ledCm2BlinkOnInterval : ℕ := 250

/-- `LED_CM2_BLINK_OFF_INTERVAL` -/
def ledCm2BlinkOffInterval : ℕ := 4750

/-- `LED_CM3_BLINK_INTERVAL` -/
def ledCm3BlinkInterval : ℕ := 1500

/-- The strategy `InitSwLeds` takes from the EEPROM's word with the customer's id. -/
def ledStrategyOf (usValue : UInt16) : LedStrategy :=
  match usValue &&& 0x00FF with
  | 0x01 => .swLedMode1
  | 0x02 => .swLedMode3
  | 0x03 => .hwLed
  | _ => .swLedMode0

/-- `InitSwLeds` -/
def initSwLeds (nic : ℕ → UInt8) (usValue : UInt16) (radioOff : Bool) : Leds where
  bEnableLedCtrl := true
  ledStrategy := ledStrategyOf usValue
  psrValue := nic psr
  nic := nic
  radioOff := radioOff
  led _ := initLed8187

namespace Led

/-- The state a blink goes to from here. -/
def opposite (l : Led) : LedState := if l.bLedOn then .off else .on

/-- A blink begins. -/
def startBlink (l : Led) (curr : LedState) (times : UInt32) (delay : ℕ) : Led :=
  { l with
    currLedState := curr
    blinkTimes := times
    bLedBlinkInProgress := true
    blinkingLedState := l.opposite
    blinkTimer := some delay }

/-- `BlinkingLedState` is turned around. -/
def turned (l : Led) : LedState := if l.blinkingLedState = .on then .off else .on

end Led

namespace Leds

def setLed (s : Leds) (p : LedPin) (l : Led) : Leds := { s with led := Function.update s.led p l }

/-- `write_nic_byte` -/
def writeNicByte (s : Leds) (reg : ℕ) (b : UInt8) : Leds := { s with nic := Function.update s.nic reg b }

/-- An LED of the PSR register is written. -/
def writePsr (s : Leds) (b : UInt8) : Leds := { s with psrValue := b }.writeNicByte psr b

/-- `SwLedOn` -/
def swLedOn (s : Leds) (p : LedPin) : Leds :=
  let s :=
    match p with
    | .gpio0 => (s.writeNicByte 0xFF91 0x01).writeNicByte 0xFF90 0x00
    | .led0 => s.writePsr (s.psrValue &&& ~~~0x10)
    | .led1 => s.writePsr (s.psrValue &&& ~~~0x20)
  s.setLed p { s.led p with bLedOn := true }

/-- `SwLedOff` -/
def swLedOff (s : Leds) (p : LedPin) : Leds :=
  let s :=
    match p with
    | .gpio0 => (s.writeNicByte 0xFF91 0x01).writeNicByte 0xFF90 0x01
    | .led0 => s.writePsr (s.psrValue ||| 0x10)
    | .led1 => s.writePsr (s.psrValue ||| 0x20)
  s.setLed p { s.led p with bLedOn := false }

/-! ### The actions -/

/-- The first `switch` of `SwLedControlMode0`; none where it returns. -/
def mode0Wants (l : Led) : LedCtl → Option Led
  | .tx | .rx =>
    if l.bLedBlinkInProgress then none else some { l with currLedState := .blinkNormal, blinkTimes := 2 }
  | .siteSurvey => if l.bLedBlinkInProgress then none else some { l with currLedState := .blinkSlowly }
  | .link => some { l with currLedState := .on }
  | .noLink => some { l with currLedState := .off }
  | .powerOn => some { l with currLedState := .powerOnBlink }
  | .powerOff => some { l with currLedState := .off }

/-- The second `switch` of `SwLedControlMode0`. -/
def mode0Does (s : Leds) : Leds :=
  let l := s.led .gpio0
  match l.currLedState with
  | .on => if l.bLedBlinkInProgress then s else s.swLedOn .gpio0
  | .off =>
    let s :=
      if l.bLedBlinkInProgress then
        s.setLed .gpio0 { l with blinkTimer := none, bLedBlinkInProgress := false }
      else s
    s.swLedOff .gpio0
  | .blinkNormal =>
    if l.bLedBlinkInProgress then s
    else s.setLed .gpio0 (l.startBlink .blinkNormal l.blinkTimes ledBlinkNormalInterval)
  | .blinkSlowly =>
    if l.bLedBlinkInProgress then s
    else s.setLed .gpio0 { l with
      bLedBlinkInProgress := true
      blinkingLedState := .off
      blinkTimer := some ledBlinkSlowlyInterval }
  | .powerOnBlink => s.swLedOn .gpio0
  | _ => s

/-- `SwLedControlMode0` -/
def swLedControlMode0 (s : Leds) (a : LedCtl) : Leds :=
  match mode0Wants (s.led .gpio0) a with
  | none => s
  | some l => (s.setLed .gpio0 l).mode0Does

/-- A blink begins, unless one is in progress. -/
def blinkUnlessBusy (s : Leds) (p : LedPin) (curr : LedState) (times : UInt32) (delay : ℕ) : Leds :=
  if (s.led p).bLedBlinkInProgress then s else s.setLed p ((s.led p).startBlink curr times delay)

def setCurr (s : Leds) (p : LedPin) (curr : LedState) : Leds :=
  s.setLed p { s.led p with currLedState := curr }

/-- The LED is to be on, at once if no blink is in progress. -/
def wantOn (s : Leds) (p : LedPin) : Leds :=
  let s := s.setCurr p .on
  if (s.led p).bLedBlinkInProgress then s else s.swLedOn p

/-- The LED is to be off, at once if no blink is in progress. -/
def wantOff (s : Leds) (p : LedPin) : Leds :=
  let s := s.setCurr p .off
  if (s.led p).bLedBlinkInProgress then s else s.swLedOff p

/-- `SwLedControlMode1` -/
def swLedControlMode1 (s : Leds) : LedCtl → Leds
  | .tx => s.blinkUnlessBusy .led0 .blinkNormal 2 ledBlinkNormalInterval
  | .link => s.wantOn .led0
  | .noLink => s.wantOff .led0
  | .powerOn => (((s.setCurr .led0 .off).swLedOff .led0).setCurr .led1 .on).swLedOn .led1
  | .powerOff => (((s.setCurr .led0 .off).swLedOff .led0).setCurr .led1 .off).swLedOff .led1
  | .siteSurvey => s.blinkUnlessBusy .led0 .blinkSlowly 10 ledBlinkSlowlyInterval
  | .rx => s

/-- The delay of a blink of mode 2. -/
def cm2Delay (l : Led) : ℕ := if l.bLedOn then ledCm2BlinkOnInterval else ledCm2BlinkOffInterval

/-- `SwLedControlMode2` -/
def swLedControlMode2 (s : Leds) : LedCtl → Leds
  | .tx | .rx => s.blinkUnlessBusy .gpio0 .blinkNormal 2 ledBlinkNormalInterval
  | .siteSurvey =>
    if (s.led .gpio0).bLedBlinkInProgress then
      if (s.led .gpio0).currLedState = .noLinkBlink then s else s.setCurr .gpio0 .scanBlink
    else s.setLed .gpio0 ((s.led .gpio0).startBlink .scanBlink 4 (cm2Delay (s.led .gpio0)))
  | .noLink =>
    if (s.led .gpio0).bLedBlinkInProgress then s.setCurr .gpio0 .noLinkBlink
    else s.setLed .gpio0 ((s.led .gpio0).startBlink .noLinkBlink 24 (cm2Delay (s.led .gpio0)))
  | .link => s.wantOn .gpio0
  | .powerOff => s.wantOff .gpio0
  | .powerOn => s

/-- `SwLedControlMode3` -/
def swLedControlMode3 (s : Leds) : LedCtl → Leds
  | .tx | .rx => s.blinkUnlessBusy .gpio0 .blinkCm3 2 ledCm3BlinkInterval
  | .siteSurvey => s.blinkUnlessBusy .gpio0 .blinkCm3 10 ledCm3BlinkInterval
  | .link => s.wantOn .gpio0
  | .noLink => s.wantOff .gpio0
  | .powerOn => ((s.setCurr .gpio0 .powerOnBlink).swLedOn .gpio0).swLedOff .gpio0
  | .powerOff => s.wantOff .gpio0

/-- `LedControl8187` -/
def ledControl8187 (s : Leds) (a : LedCtl) : Leds :=
  if ¬ s.bEnableLedCtrl then s
  else
    match s.ledStrategy with
    | .swLedMode0 => s.swLedControlMode0 a
    | .swLedMode1 => s.swLedControlMode1 a
    | .swLedMode2 => s.swLedControlMode2 a
    | .swLedMode3 => s.swLedControlMode3 a
    | .hwLed => s

/-! ### The work items -/

/-- The LED is switched to what the blink has come to. -/
def blinkTo (s : Leds) (p : LedPin) : Leds :=
  if (s.led p).blinkingLedState = .on then s.swLedOn p else s.swLedOff p

/-- The end of a blink in `SwLedBlink`. -/
def stopBlink (s : Leds) (p : LedPin) : Leds :=
  let l := s.led p
  let s :=
    if l.currLedState = .on ∧ l.bLedOn = false then s.swLedOn p
    else if l.currLedState = .off ∧ l.bLedOn = true then s.swLedOff p
    else s
  s.setLed p { s.led p with blinkTimes := 0, bLedBlinkInProgress := false }

/-- A blink of `SwLedBlink` goes on. -/
def nextBlink (l : Led) : Led :=
  match l.currLedState with
  | .blinkNormal => { l with blinkingLedState := l.turned, blinkTimer := some ledBlinkNormalInterval }
  | .blinkSlowly =>
    if l.bLedOn then { l with blinkTimer := some (ledBlinkSlowlyInterval + 50), blinkingLedState := .off }
    else { l with blinkTimer := some 5000, blinkingLedState := .on }
  | .blinkCm3 => { l with blinkingLedState := l.turned, blinkTimer := some ledCm3BlinkInterval }
  | _ => { l with blinkingLedState := l.turned, blinkTimer := some ledBlinkSlowlyInterval }

/-- `SwLedBlink` -/
def swLedBlink (s : Leds) (p : LedPin) : Leds :=
  let s := s.blinkTo p
  let l := s.led p
  if l.currLedState = .blinkSlowly then s.setLed p (nextBlink l)
  else
    let l := { l with blinkTimes := l.blinkTimes - 1 }
    let s := s.setLed p l
    if l.blinkTimes = 0 ∨ (l.currLedState ≠ .blinkNormal ∧ l.currLedState ≠ .blinkCm3) then s.stopBlink p
    else s.setLed p (nextBlink l)

/-- A blink of `SwLedCm2Blink` goes on. -/
def nextCm2Blink (l : Led) : Led :=
  let l := { l with blinkingLedState := l.turned }
  match l.currLedState with
  | .blinkNormal => { l with blinkTimer := some ledBlinkNormalInterval }
  | .scanBlink | .noLinkBlink => { l with blinkTimer := some (cm2Delay l) }
  | _ => { l with blinkTimer := some ledBlinkSlowlyInterval }

/-- `SwLedCm2Blink` -/
def swLedCm2Blink (s : Leds) (p : LedPin) : Leds :=
  if s.radioOff then
    let s := s.swLedOff p
    s.setLed p { s.led p with blinkTimer := some ledCm2BlinkOnInterval }
  else
    let s := s.blinkTo p
    let l := s.led p
    let l := { l with blinkTimes := if 0 < l.blinkTimes then l.blinkTimes - 1 else l.blinkTimes }
    if l.currLedState = .blinkNormal ∧ l.blinkTimes ≠ 0 then s.setLed p (nextCm2Blink l)
    else s.setLed p { l with blinkTimes := 0, bLedBlinkInProgress := false }

/-- `Gpio0LedWorkItemCallback`, `SwLed0WorkItemCallback` and `SwLed1WorkItemCallback`; the last
two are empty. -/
def workItemCallback (s : Leds) : LedPin → Leds
  | .gpio0 =>
    match s.ledStrategy with
    | .swLedMode2 => s.swLedCm2Blink .gpio0
    | _ => s.swLedBlink .gpio0
  | .led0 => s
  | .led1 => s

end Leds

/-- What may happen: an action, a blink timer that runs out, a work item that runs, a
change of the radio. -/
inductive LedEvent where
  | control (a : LedCtl)
  | blinkTimer (p : LedPin)
  | workItem (p : LedPin)
  | radio (off : Bool)
  deriving DecidableEq

namespace Leds

/-- One step. A timer that runs out queues its work item (`PlatformSwLedBlink`), unless it is
queued. -/
def step (s : Leds) : LedEvent → Leds
  | .control a => s.ledControl8187 a
  | .blinkTimer p =>
    if (s.led p).blinkTimer.isSome then s.setLed p { s.led p with blinkTimer := none, workItem := true } else s
  | .workItem p =>
    if (s.led p).workItem then (s.setLed p { s.led p with workItem := false }).workItemCallback p else s
  | .radio off => { s with radioOff := off }

/-! ### What stays -/

/-- The strategy and the switch of the LEDs are as they were. -/
structure SameCard (s' s : Leds) : Prop where
  ledStrategy : s'.ledStrategy = s.ledStrategy
  bEnableLedCtrl : s'.bEnableLedCtrl = s.bEnableLedCtrl

theorem SameCard.refl (s : Leds) : SameCard s s := ⟨rfl, rfl⟩

theorem SameCard.trans {s'' s' s : Leds} (h : SameCard s'' s') (h' : SameCard s' s) : SameCard s'' s :=
  ⟨h.ledStrategy.trans h'.ledStrategy, h.bEnableLedCtrl.trans h'.bEnableLedCtrl⟩

section

variable (s : Leds) (p : LedPin)

@[simp] theorem setLed_led (l : Led) : (s.setLed p l).led p = l := Function.update_self ..

theorem setLed_card (l : Led) : SameCard (s.setLed p l) s := ⟨rfl, rfl⟩

theorem setCurr_card (curr : LedState) : SameCard (s.setCurr p curr) s := ⟨rfl, rfl⟩

theorem swLedOn_card : SameCard (s.swLedOn p) s := by
  cases p with
  | _ => exact ⟨rfl, rfl⟩

theorem swLedOff_card : SameCard (s.swLedOff p) s := by
  cases p with
  | _ => exact ⟨rfl, rfl⟩

theorem wantOn_card : SameCard (s.wantOn p) s := by
  unfold wantOn
  dsimp only
  split_ifs
  · exact setCurr_card s p _
  · exact (swLedOn_card _ p).trans (setCurr_card s p _)

theorem wantOff_card : SameCard (s.wantOff p) s := by
  unfold wantOff
  dsimp only
  split_ifs
  · exact setCurr_card s p _
  · exact (swLedOff_card _ p).trans (setCurr_card s p _)

theorem blinkUnlessBusy_card (curr : LedState) (times : UInt32) (delay : ℕ) :
    SameCard (s.blinkUnlessBusy p curr times delay) s := by
  unfold blinkUnlessBusy
  split_ifs
  · exact SameCard.refl s
  · exact setLed_card s p _

theorem mode0Does_card : SameCard s.mode0Does s := by
  unfold mode0Does
  dsimp only
  split
  · split_ifs
    · exact SameCard.refl s
    · exact swLedOn_card s _
  · split_ifs
    · exact (swLedOff_card _ _).trans (setLed_card s _ _)
    · exact swLedOff_card s _
  · split_ifs
    · exact SameCard.refl s
    · exact setLed_card s _ _
  · split_ifs
    · exact SameCard.refl s
    · exact setLed_card s _ _
  · exact swLedOn_card s _
  · exact SameCard.refl s

theorem swLedControlMode0_card (a : LedCtl) : SameCard (s.swLedControlMode0 a) s := by
  unfold swLedControlMode0
  split
  · exact SameCard.refl s
  · exact (mode0Does_card _).trans (setLed_card s _ _)

theorem swLedControlMode1_card (a : LedCtl) : SameCard (s.swLedControlMode1 a) s := by
  cases a with
  | tx => exact blinkUnlessBusy_card s _ _ _ _
  | siteSurvey => exact blinkUnlessBusy_card s _ _ _ _
  | link => exact wantOn_card s _
  | noLink => exact wantOff_card s _
  | powerOn =>
    rw [swLedControlMode1]
    exact (swLedOn_card _ _).trans ((setCurr_card _ _ _).trans ((swLedOff_card _ _).trans (setCurr_card s _ _)))
  | powerOff =>
    rw [swLedControlMode1]
    exact (swLedOff_card _ _).trans ((setCurr_card _ _ _).trans ((swLedOff_card _ _).trans (setCurr_card s _ _)))
  | rx => exact SameCard.refl s

theorem swLedControlMode2_card (a : LedCtl) : SameCard (s.swLedControlMode2 a) s := by
  cases a with
  | tx => exact blinkUnlessBusy_card s _ _ _ _
  | rx => exact blinkUnlessBusy_card s _ _ _ _
  | siteSurvey =>
    unfold swLedControlMode2
    dsimp only
    split_ifs
    · exact SameCard.refl s
    · exact setCurr_card s _ _
    · exact setLed_card s _ _
  | noLink =>
    unfold swLedControlMode2
    dsimp only
    split_ifs
    · exact setCurr_card s _ _
    · exact setLed_card s _ _
  | link => exact wantOn_card s _
  | powerOff => exact wantOff_card s _
  | powerOn => exact SameCard.refl s

theorem swLedControlMode3_card (a : LedCtl) : SameCard (s.swLedControlMode3 a) s := by
  cases a with
  | tx => exact blinkUnlessBusy_card s _ _ _ _
  | rx => exact blinkUnlessBusy_card s _ _ _ _
  | siteSurvey => exact blinkUnlessBusy_card s _ _ _ _
  | link => exact wantOn_card s _
  | noLink => exact wantOff_card s _
  | powerOff => exact wantOff_card s _
  | powerOn =>
    rw [swLedControlMode3]
    exact (swLedOff_card _ _).trans ((swLedOn_card _ _).trans (setCurr_card s _ _))

theorem blinkTo_card : SameCard (s.blinkTo p) s := by
  unfold blinkTo
  split_ifs
  · exact swLedOn_card s p
  · exact swLedOff_card s p

theorem stopBlink_card : SameCard (s.stopBlink p) s := by
  unfold stopBlink
  dsimp only
  split_ifs
  · exact (setLed_card _ p _).trans (swLedOn_card s p)
  · exact (setLed_card _ p _).trans (swLedOff_card s p)
  · exact setLed_card s p _

theorem swLedBlink_card : SameCard (s.swLedBlink p) s := by
  unfold swLedBlink
  dsimp only
  split_ifs
  · exact (setLed_card _ p _).trans (blinkTo_card s p)
  · exact (stopBlink_card _ p).trans ((setLed_card _ p _).trans (blinkTo_card s p))
  · exact (setLed_card _ p _).trans ((setLed_card _ p _).trans (blinkTo_card s p))

theorem swLedCm2Blink_card : SameCard (s.swLedCm2Blink p) s := by
  unfold swLedCm2Blink
  extract_lets off s' l l'
  split_ifs
  · exact (setLed_card _ p _).trans (swLedOff_card s p)
  · exact (setLed_card _ p _).trans (blinkTo_card s p)
  · exact (setLed_card _ p _).trans (blinkTo_card s p)

theorem step_card (e : LedEvent) : SameCard (s.step e) s := by
  cases e with
  | control a =>
    rw [step, ledControl8187]
    split_ifs
    · split
      · exact swLedControlMode0_card s a
      · exact swLedControlMode1_card s a
      · exact swLedControlMode2_card s a
      · exact swLedControlMode3_card s a
      · exact SameCard.refl s
    · exact SameCard.refl s
  | blinkTimer p =>
    rw [step]
    split_ifs
    · exact setLed_card s p _
    · exact SameCard.refl s
  | workItem p =>
    rw [step]
    split_ifs
    · refine SameCard.trans ?_ (setLed_card s p { s.led p with workItem := false })
      unfold workItemCallback
      split
      · split
        · exact swLedCm2Blink_card _ _
        · exact swLedBlink_card _ _
      · exact SameCard.refl _
      · exact SameCard.refl _
    · exact SameCard.refl s
  | radio off => exact ⟨rfl, rfl⟩

end

end Leds

end Rtl8187

/-
# Radio power

`MgntActSet_RF_State` (`r8187_core.c`) switches the radio for three sources (the
user, the hardware switch, power saving), each of which has a bit of
`RfOffReason`. It keeps requests apart by `RFChangeInProgress`; `rtl8180_down`
switches the radio off at any moment. The steps of a request are steps of a
machine here, so that the others may come between them.

`ieee80211_disassociate`, which a request to switch the radio off calls, touches
nothing of this; nor do the LEDs.

Key definitions: `RfPower`, `RfPower.arbitrate`, `mgntActSetRFState`, `RfEvent`,
`RfMachine.step`, `RfMachine.Sound`.
Key theorems: `run_call`, `step_sound`, `radio_arbitrated`.
-/
import Rtl8187.Lib.Run

namespace Rtl8187

/-- `RT_RF_POWER_STATE`, with the values that are none of it. -/
inductive RfPowerState where
  | on
  | sleep
  | off
  | unknown
  deriving DecidableEq, Repr

/-- `rf_chip` -/
inductive RfChip where
  | zebra
  | zebra2
  | unknown
  deriving DecidableEq, Repr

/-- `RF_CHANGE_BY_SW` -/
def rfChangeBySw : UInt32 := 0x80000000

/-- `RF_CHANGE_BY_HW` -/
def rfChangeByHw : UInt32 := 0x40000000

/-- The fields of `struct r8180_priv` the radio's power depends on. -/
structure RfPower where
  rfChip : RfChip
  eRFPowerState : RfPowerState
  rfOffReason : UInt32
  rfChangeInProgress : Bool
  up : Bool
  bHwRadioOff : Bool
  deriving DecidableEq

namespace RfPower

variable (s : RfPower)

/-- `SetZebraRFPowerState8187` -/
def setZebraRFPowerState8187 (st : RfPowerState) : Bool × RfPower :=
  if st = .unknown then (false, s) else (true, { s with eRFPowerState := st })

/-- `SetRFPowerState` -/
def setRFPowerState (st : RfPowerState) : Bool × RfPower :=
  if st = s.eRFPowerState then (false, s)
  else match s.rfChip with
    | .zebra | .zebra2 => s.setZebraRFPowerState8187 st
    | .unknown => (false, s)

/-- The `switch` of `MgntActSet_RF_State`: whether the radio may be switched, and
the reasons. -/
def arbitrate (st : RfPowerState) (changeSource : UInt32) : Bool × RfPower :=
  match st with
  | .on =>
    let s := { s with rfOffReason := s.rfOffReason &&& ~~~changeSource }
    (s.rfOffReason == 0, s)
  | .off | .sleep => (true, { s with rfOffReason := s.rfOffReason ||| changeSource })
  | .unknown => (false, s)

/-- `MgntActSet_RF_State` while nothing else runs: no one ends a change that is in
progress, so that the wait for it is in vain. -/
def mgntActSetRFState (st : RfPowerState) (changeSource : UInt32) : Bool × RfPower :=
  if s.rfChangeInProgress then (false, s)
  else
    let (allowed, s) := s.arbitrate st changeSource
    (allowed, if allowed then (s.setRFPowerState st).2 else s)

/-- `rtl8180_down` -/
def down : RfPower :=
  if s.up then
    let s := { s with up := false }
    if s.bHwRadioOff then s else (s.setZebraRFPowerState8187 .off).2
  else s

end RfPower

/-! ### Requests step by step -/

/-- How far the request has come that holds `RFChangeInProgress`. -/
inductive RfTurn where
  | asked (st : RfPowerState) (changeSource : UInt32)
  | decided (st : RfPowerState) (allowed : Bool)
  | done (allowed : Bool)
  deriving DecidableEq

/-- What may happen: a request gets its turn, or waits too long for it; it
decides, switches and returns; the interface goes down or up; the hardware
switch is seen to have moved. -/
inductive RfEvent where
  | acquire (st : RfPowerState) (changeSource : UInt32)
  | refuse
  | arbitrate
  | switch
  | release
  | down
  | up
  | hwSwitch (off : Bool)
  deriving DecidableEq

structure RfMachine extends RfPower where
  turn : Option RfTurn
  deriving DecidableEq

namespace RfMachine

/-- A step; one that is not possible changes nothing. -/
def step (m : RfMachine) : RfEvent → RfMachine
  | .acquire st src =>
    if m.rfChangeInProgress then m
    else { m with rfChangeInProgress := true, turn := some (.asked st src) }
  | .refuse => m
  | .arbitrate =>
    match m.turn with
    | some (.asked st src) =>
      { toRfPower := (m.toRfPower.arbitrate st src).2
        turn := some (.decided st (m.toRfPower.arbitrate st src).1) }
    | _ => m
  | .switch =>
    match m.turn with
    | some (.decided st allowed) =>
      { toRfPower := if allowed then (m.toRfPower.setRFPowerState st).2 else m.toRfPower
        turn := some (.done allowed) }
    | _ => m
  | .release =>
    match m.turn with
    | some (.done _) => { m with rfChangeInProgress := false, turn := none }
    | _ => m
  | .down => { m with toRfPower := m.toRfPower.down }
  | .up => { m with up := true }
  | .hwSwitch off => { m with bHwRadioOff := off }

/-- The radio after `rtl8180_init`. -/
def init (chip : RfChip) : RfMachine := ⟨⟨chip, .off, 0, false, false, false⟩, none⟩

/-- The steps of a call without anything between them. -/
def call (st : RfPowerState) (src : UInt32) : List RfEvent := [.acquire st src, .arbitrate, .switch, .release]

/-- They are the call. -/
theorem run_call {m : RfMachine} (hfree : m.rfChangeInProgress = false) (st : RfPowerState) (src : UInt32) :
    (Run.run step m (call st src)).toRfPower = (m.toRfPower.mgntActSetRFState st src).2 ∧
      (Run.run step m (call st src)).turn = none := by
  obtain ⟨⟨chip, power, reason, inProgress, up, hwOff⟩, turn⟩ := m
  cases hfree
  simp only [Run.run, call, List.foldl_cons, List.foldl_nil, step, RfPower.mgntActSetRFState,
    Bool.false_eq_true, if_false]
  refine ⟨?_, trivial⟩
  cases st with
  | unknown => rfl
  | on =>
    simp only [RfPower.arbitrate, RfPower.setRFPowerState, RfPower.setZebraRFPowerState8187]
    cases chip <;> split_ifs <;> rfl
  | sleep =>
    simp only [RfPower.arbitrate, RfPower.setRFPowerState, RfPower.setZebraRFPowerState8187]
    cases chip <;> split_ifs <;> rfl
  | off =>
    simp only [RfPower.arbitrate, RfPower.setRFPowerState, RfPower.setZebraRFPowerState8187]
    cases chip <;> split_ifs <;> rfl

/-! ### What holds in every state -/

/-- A request that switches the radio off or to sleep has noted its reason and is
about to switch. -/
def SwitchesOff (m : RfMachine) : Prop :=
  m.turn = some (.decided .off true) ∨ m.turn = some (.decided .sleep true)

/-- The radio is one that can be switched; `RFChangeInProgress` says whether a
request is being carried out. Whenever the radio is on there is no reason
against it, but where a request is about to switch it off; and there is none
where one is about to switch it on. -/
structure Sound (m : RfMachine) : Prop where
  chip : m.rfChip ≠ .unknown
  inProgress : m.rfChangeInProgress = m.turn.isSome
  on : m.eRFPowerState = .on → m.rfOffReason = 0 ∨ m.SwitchesOff
  turnsOn : m.turn = some (.decided .on true) → m.rfOffReason = 0
  known : m.turn ≠ some (.decided .unknown true)

theorem sound_init {chip : RfChip} (h : chip ≠ .unknown) : Sound (init chip) where
  chip := h
  inProgress := rfl
  on := nofun
  turnsOn := nofun
  known := nofun

/-- Unless a request is between its decision and the switch, a radio that is on has
no reason against it. -/
theorem Sound.calm {m : RfMachine} (h : m.Sound) (hturn : ∀ st allowed, m.turn ≠ some (.decided st allowed))
    (hon : m.eRFPowerState = .on) : m.rfOffReason = 0 := by
  rcases h.on hon with hzero | hoff | hsleep
  · exact hzero
  · exact absurd hoff (hturn _ _)
  · exact absurd hsleep (hturn _ _)

theorem down_eRFPowerState (s : RfPower) : s.down.eRFPowerState = .on → s.eRFPowerState = .on := by
  unfold RfPower.down RfPower.setZebraRFPowerState8187
  cases s.up <;> cases s.bHwRadioOff <;> simp

theorem down_same (s : RfPower) : s.down.rfChip = s.rfChip ∧ s.down.rfOffReason = s.rfOffReason ∧
    s.down.rfChangeInProgress = s.rfChangeInProgress := by
  unfold RfPower.down RfPower.setZebraRFPowerState8187
  dsimp only
  split_ifs <;> exact ⟨rfl, rfl, rfl⟩

/-- A radio that can be switched is in the state asked for. -/
theorem setRFPowerState_eq {s : RfPower} (hchip : s.rfChip ≠ .unknown) {st : RfPowerState}
    (hst : st ≠ .unknown) : (s.setRFPowerState st).2 = { s with eRFPowerState := st } := by
  unfold RfPower.setRFPowerState RfPower.setZebraRFPowerState8187
  by_cases hsame : st = s.eRFPowerState
  · rw [if_pos hsame, hsame]
  · rw [if_neg hsame]
    cases hc : s.rfChip with
    | unknown => exact absurd hc hchip
    | zebra => exact congrArg Prod.snd (if_neg hst)
    | zebra2 => exact congrArg Prod.snd (if_neg hst)

/-- **One step** keeps this. -/
theorem step_sound {m : RfMachine} (h : m.Sound) (e : RfEvent) : (m.step e).Sound := by
  have hchip := h.chip
  have hprog := h.inProgress
  cases e with
  | acquire st src =>
    unfold step
    dsimp only
    split_ifs with hbusy
    · exact h
    · -- no request is being carried out
      have hidle : m.turn = none := by
        rw [hprog] at hbusy
        simpa using hbusy
      exact ⟨hchip, rfl, fun hpow => Or.inl (h.calm (by simp [hidle]) hpow), nofun, nofun⟩
  | refuse => exact h
  | arbitrate =>
    unfold step
    dsimp only
    split
    · rename_i st src hturn
      have hnow : m.eRFPowerState = .on → m.rfOffReason = 0 := h.calm (by simp [hturn])
      have hbusy : m.rfChangeInProgress = true := by rw [hprog, hturn]; rfl
      cases st with
      | on =>
        refine ⟨hchip, hbusy, fun hpow => Or.inl ?_, fun hdec => ?_, nofun⟩
        · show m.rfOffReason &&& ~~~src = 0
          rw [hnow hpow]
          simp
        · have hallowed : (m.rfOffReason &&& ~~~src == 0) = true := by
            simpa [RfPower.arbitrate] using hdec
          exact beq_iff_eq.mp hallowed
      | sleep => exact ⟨hchip, hbusy, fun _ => Or.inr (Or.inr rfl), nofun, nofun⟩
      | off => exact ⟨hchip, hbusy, fun _ => Or.inr (Or.inl rfl), nofun, nofun⟩
      | unknown => exact ⟨hchip, hbusy, fun hpow => Or.inl (hnow hpow), nofun, nofun⟩
    · exact h
  | switch =>
    unfold step
    dsimp only
    split
    · rename_i st allowed hturn
      have hbusy : m.rfChangeInProgress = true := by rw [hprog, hturn]; rfl
      cases allowed with
      | false =>
        -- nothing is switched, and only requests that are allowed switch off
        refine ⟨hchip, hbusy, fun hpow => Or.inl ?_, nofun, nofun⟩
        rcases h.on hpow with hzero | hoff | hsleep
        · exact hzero
        · simp [hturn] at hoff
        · simp [hturn] at hsleep
      | true =>
        have hst : st ≠ .unknown := fun hst => h.known (hst ▸ hturn)
        simp only [if_true, setRFPowerState_eq hchip hst]
        refine ⟨hchip, hbusy, fun hpow => Or.inl ?_, nofun, nofun⟩
        obtain rfl : st = .on := hpow
        exact h.turnsOn hturn
    · exact h
  | release =>
    unfold step
    dsimp only
    split
    · rename_i allowed hturn
      exact ⟨hchip, rfl, fun hpow => Or.inl (h.calm (by simp [hturn]) hpow), nofun, nofun⟩
    · exact h
  | down =>
    obtain ⟨hsame, hreason, hbusy⟩ := down_same m.toRfPower
    refine ⟨hsame.trans_ne hchip, hbusy.trans hprog, fun hpow => ?_, fun hturn => ?_, h.known⟩
    · exact (h.on (down_eRFPowerState _ hpow)).imp hreason.trans id
    · exact hreason.trans (h.turnsOn hturn)
  | up => exact ⟨h.chip, h.inProgress, h.on, h.turnsOn, h.known⟩
  | hwSwitch off => exact ⟨h.chip, h.inProgress, h.on, h.turnsOn, h.known⟩

/-! ### A request that is refused -/

/-- A request to switch the radio on, by `src`, that is refused since the reasons of
the others, `others`, remain. -/
structure Refused (src others : UInt32) (m : RfMachine) : Prop where
  chip : m.rfChip ≠ .unknown
  inProgress : m.rfChangeInProgress = true
  turn : m.turn = some (.asked .on src) ∨ m.turn = some (.decided .on false) ∨ m.turn = some (.done false)
  off : m.eRFPowerState ≠ .on
  reasons : m.rfOffReason &&& ~~~src = others

/-- It stays so until the request returns. -/
theorem step_refused {m : RfMachine} {src others : UInt32} (h : m.Refused src others) (hne : others ≠ 0)
    {e : RfEvent} (he : e ≠ .release) : (m.step e).Refused src others := by
  cases e with
  | acquire st src' =>
    unfold step
    dsimp only
    rw [if_pos h.inProgress]
    exact h
  | refuse => exact h
  | arbitrate =>
    unfold step
    dsimp only
    split
    · rename_i st src' hturn
      rcases h.turn with hasked | hdec | hdone
      · rw [hasked] at hturn
        cases hturn
        have hno : (m.rfOffReason &&& ~~~src == 0) = false := by
          rw [h.reasons]
          simpa using hne
        refine ⟨h.chip, h.inProgress, Or.inr (Or.inl ?_), h.off, ?_⟩
        · simp [RfPower.arbitrate, hno]
        · show m.rfOffReason &&& ~~~src &&& ~~~src = others
          rw [UInt32.and_assoc, UInt32.and_self]
          exact h.reasons
      · simp [hdec] at hturn
      · simp [hdone] at hturn
    · exact h
  | switch =>
    unfold step
    dsimp only
    split
    · rename_i st allowed hturn
      rcases h.turn with hasked | hdec | hdone
      · simp [hasked] at hturn
      · rw [hdec] at hturn
        cases hturn
        exact ⟨h.chip, h.inProgress, Or.inr (Or.inr rfl), h.off, h.reasons⟩
      · simp [hdone] at hturn
    · exact h
  | release => exact absurd rfl he
  | down =>
    obtain ⟨hsame, hreason, hbusy⟩ := down_same m.toRfPower
    refine ⟨hsame.trans_ne h.chip, hbusy.trans h.inProgress, h.turn, fun hpow => ?_, ?_⟩
    · exact h.off (down_eRFPowerState _ hpow)
    · show m.toRfPower.down.rfOffReason &&& ~~~src = others
      rw [hreason]
      exact h.reasons
  | up => exact ⟨h.chip, h.inProgress, h.turn, h.off, h.reasons⟩
  | hwSwitch off => exact ⟨h.chip, h.inProgress, h.turn, h.off, h.reasons⟩

/-! ### Runs -/

theorem run_sound {chip : RfChip} (hchip : chip ≠ .unknown) (es : List RfEvent) :
    (Run.run step (init chip) es).Sound :=
  Run.inv_run (fun (m : RfMachine) e (h : m.Sound) (_ : True) => step_sound h e) _ es (sound_init hchip) (Run.allSteps_true _ es)

theorem run_refused {m : RfMachine} {src others : UInt32} (h : m.Refused src others) (hne : others ≠ 0)
    {es : List RfEvent} (hes : .release ∉ es) : (Run.run step m es).Refused src others := by
  induction es generalizing m with
  | nil => exact h
  | cons e es ih =>
    rw [List.mem_cons, not_or] at hes
    exact ih (step_refused h hne (Ne.symm hes.1)) hes.2

/-- **The radio's power is arbitrated.** Between requests the radio is on only while
no reason against it is noted, and within one only where it is about to switch
it off. A request to switch it on neither does so nor touches another source's
reason, as long as such a reason is noted. -/
theorem radio_arbitrated (chip : RfChip) (hchip : chip = .zebra ∨ chip = .zebra2) (es : List RfEvent) :
    let m := Run.run step (init chip) es
    (m.turn = none → m.eRFPowerState = .on → m.rfOffReason = 0) ∧
      (m.eRFPowerState = .on → m.rfOffReason = 0 ∨ m.SwitchesOff) ∧
      ∀ src, m.turn = some (.asked .on src) → m.rfOffReason &&& ~~~src ≠ 0 →
        ∀ es', .release ∉ es' →
          let m' := Run.run step m es'
          m'.eRFPowerState ≠ .on ∧ m'.rfOffReason &&& ~~~src = m.rfOffReason &&& ~~~src := by
  intro m
  have hne : chip ≠ .unknown := by rcases hchip with rfl | rfl <;> decide
  have hsound : m.Sound := run_sound hne es
  refine ⟨fun hidle => hsound.calm (by simp [hidle]), hsound.on, fun src hturn hothers es' hes' => ?_⟩
  have hoff : m.eRFPowerState ≠ .on := by
    intro hpow
    rw [hsound.calm (by simp [hturn]) hpow] at hothers
    simp at hothers
  have hbusy : m.rfChangeInProgress = true := by rw [hsound.inProgress, hturn]; rfl
  have href := run_refused ⟨hsound.chip, hbusy, Or.inl hturn, hoff, rfl⟩ hothers hes'
  exact ⟨href.off, href.reasons⟩

/-- Switched off by the hardware switch, the radio stays off when the user wants it
on. -/
theorem hwOff_stays : (Run.run step (Run.run step (init .zebra2)
    (call .on rfChangeBySw ++ call .off rfChangeByHw ++ [.acquire .on rfChangeBySw]))
    [.arbitrate, .switch]).eRFPowerState ≠ .on :=
  ((radio_arbitrated .zebra2 (Or.inr rfl) _).2.2 rfChangeBySw (by decide) (by decide) _ (by decide)).1

end RfMachine

end Rtl8187

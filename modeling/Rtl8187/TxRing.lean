/-
# The ring of transmit URBs

`rtl8180_tx` and the completion callbacks (`r8187_core.c`). A call takes the
next of `MAX_TX_URB` URBs, fills it and submits it. Whether the URB is still
in flight is not looked at: what is tested is the number of URBs in flight at
the priority of the call, and that test lets one too many pass. A submission
that fails takes a URB too, and counts nothing.

`allSteps_sound_iff` says in which runs this does not show: when no URB stays
in flight for `MAX_TX_URB` calls.

Key definitions: `TxRing`, `TxRing.tx`, `TxRing.complete`, `TxHistory`,
`TxHistory.NoneOverdue`.
Key theorems: `good_step`, `allSteps_sound_iff`.
-/
import Rtl8187.Lib.Slots
import Rtl8187.Lib.Run
import Mathlib.Algebra.GroupWithZero.Nat

namespace Rtl8187

/-- `MAX_TX_URB` -/
def maxTxUrb : ℕ := 16

instance : NeZero maxTxUrb := ⟨by decide⟩

/-- `priority_t` -/
inductive Priority where
  | low
  | norm
  deriving DecidableEq, Repr

/-- `struct tx_urb_context`: a transmit buffer and its URB. -/
structure TxContext (B : Type) where
  buf : B
  /-- The endpoint and the callback `usb_fill_bulk_urb` gave the URB last. -/
  priority : Priority
  /-- The endpoint it was submitted to, while it is in flight. -/
  inFlight : Option Priority

structure TxRing (B : Type) where
  txContext : Fin maxTxUrb → TxContext B
  txUrbIndex : Fin maxTxUrb
  /-- `tx_np_pending` and `tx_lp_pending` -/
  pending : Priority → ℤ

/-- A call of `rtl8180_tx`, or the completion of a URB. -/
inductive TxCall (B : Type) where
  /-- What the call writes into its buffer is `fill`. Of the result of
  `usb_submit_urb`, `accepts` is what does not depend on the URB. -/
  | tx (priority : Priority) (fill : B → B) (accepts : Bool)
  | complete (i : Fin maxTxUrb)

namespace TxRing

variable {B : Type}

/-- The ring as `rtl8187_usb_initendpoints` leaves it. -/
def init (bufs : Fin maxTxUrb → B) : TxRing B where
  txContext i := ⟨bufs i, .low, none⟩
  txUrbIndex := 0
  pending _ := 0

/-- `check_nic_enought_desc` -/
def enoughDesc (r : TxRing B) (priority : Priority) : Bool :=
  decide (r.pending priority < maxTxUrb)

/-- `usb_submit_urb`, which refuses a URB that is in flight. -/
def submitUrb (accepts : Bool) (urb : TxContext B) : Bool := accepts && urb.inFlight.isNone

/-- `usb_fill_bulk_urb`, after the buffer was filled. -/
def fillUrb (priority : Priority) (fill : B → B) (urb : TxContext B) : TxContext B :=
  { urb with buf := fill urb.buf, priority := priority }

/-- `rtl8180_tx`: whether it returns zero, and the ring. -/
def tx (r : TxRing B) (priority : Priority) (fill : B → B) (accepts : Bool) : Bool × TxRing B :=
  if maxTxUrb < r.pending priority then (false, r)
  else
    let urb := fillUrb priority fill (r.txContext r.txUrbIndex)
    if submitUrb accepts urb then
      (true,
        { txContext := Function.update r.txContext r.txUrbIndex { urb with inFlight := some priority }
          txUrbIndex := r.txUrbIndex + 1
          pending := Function.update r.pending priority (r.pending priority + 1) })
    else
      (false,
        { r with
          txContext := Function.update r.txContext r.txUrbIndex urb
          txUrbIndex := r.txUrbIndex + 1 })

/-- `rtl8187_lptx_isr` or `rtl8187_nptx_isr`, as the URB has it, up to the wake-up
of the queue. -/
def complete (r : TxRing B) (i : Fin maxTxUrb) : TxRing B :=
  let urb := r.txContext i
  if urb.inFlight.isNone then r
  else { r with
    txContext := Function.update r.txContext i { urb with inFlight := none }
    pending := Function.update r.pending urb.priority (r.pending urb.priority - 1) }

def step (r : TxRing B) : TxCall B → TxRing B
  | .tx priority fill accepts => (r.tx priority fill accepts).2
  | .complete i => r.complete i

/-- What is in flight in each URB. -/
def held (r : TxRing B) (i : Fin maxTxUrb) : Option Priority := (r.txContext i).inFlight

/-- A call that takes a URB takes one that is not in flight. -/
def FillsFree (r : TxRing B) : TxCall B → Prop
  | .tx priority _ _ => r.pending priority ≤ maxTxUrb → r.held r.txUrbIndex = none
  | .complete _ => True

/-- The counters are those of the URBs in flight. -/
def Counted (r : TxRing B) : Prop := ∀ priority, r.pending priority = Slots.count r.held priority

/-- The step takes no URB in flight, and the counters are right after it. -/
def Sound (r : TxRing B) (e : TxCall B) : Prop := r.FillsFree e ∧ (r.step e).Counted

end TxRing

/-! ### The age of what is in flight -/

/-- The ring, with how many calls have taken a URB and which of them submitted
each. -/
structure TxHistory (B : Type) where
  ring : TxRing B
  calls : ℕ
  since : Fin maxTxUrb → ℕ

namespace TxHistory

variable {B : Type}

def init (bufs : Fin maxTxUrb → B) : TxHistory B := ⟨.init bufs, 0, fun _ => 0⟩

def step (s : TxHistory B) (e : TxCall B) : TxHistory B :=
  match e with
  | .tx priority fill accepts =>
    if maxTxUrb < s.ring.pending priority then s
    else
      { ring := (s.ring.tx priority fill accepts).2
        calls := s.calls + 1
        since := if (s.ring.tx priority fill accepts).1 then
          Function.update s.since s.ring.txUrbIndex s.calls else s.since }
  | .complete i => { s with ring := s.ring.complete i }

/-- Of the URBs in flight when a call takes one, each was submitted by one of
the last `MAX_TX_URB - 1` calls. -/
def NoneOverdue (s : TxHistory B) : TxCall B → Prop
  | .tx priority _ _ => s.ring.pending priority ≤ maxTxUrb →
      ∀ i, s.ring.held i ≠ none → s.calls < s.since i + maxTxUrb
  | .complete _ => True

/-- The URBs in flight are counted, and have the callback they were submitted
with. -/
structure Good (s : TxHistory B) : Prop where
  index : (s.ring.txUrbIndex : ℕ) = s.calls % maxTxUrb
  aligned : Slots.Aligned s.ring.held s.since s.calls
  counted : s.ring.Counted
  callback : ∀ i p, s.ring.held i = some p → (s.ring.txContext i).priority = p

end TxHistory

/-! ### One call -/

namespace TxRing

variable {B : Type} {r : TxRing B} {priority : Priority} {fill : B → B} {accepts : Bool}

theorem held_update (ctx : Fin maxTxUrb → TxContext B) (i : Fin maxTxUrb) (urb : TxContext B) :
    (fun j => (Function.update ctx i urb j).inFlight) =
      Function.update (fun j => (ctx j).inFlight) i urb.inFlight := by
  funext j
  by_cases hj : j = i
  · simp [hj]
  · simp [hj]

/-- A call that is refused for the number of URBs in flight does nothing. -/
theorem tx_full (h : maxTxUrb < r.pending priority) : r.tx priority fill accepts = (false, r) :=
  if_pos h

/-- What a call does with a URB that is not in flight. -/
theorem tx_free (hp : ¬ maxTxUrb < r.pending priority) (hfree : r.held r.txUrbIndex = none) :
    let urb := fillUrb priority fill (r.txContext r.txUrbIndex)
    r.tx priority fill accepts =
      (accepts,
        { txContext := Function.update r.txContext r.txUrbIndex
            { urb with inFlight := if accepts then some priority else none }
          txUrbIndex := r.txUrbIndex + 1
          pending := Function.update r.pending priority
            (r.pending priority + if accepts then 1 else 0) }) := by
  intro urb
  have hurb : urb.inFlight = none := hfree
  have hsubmit : submitUrb accepts urb = accepts := by simp [submitUrb, hurb]
  unfold tx
  rw [if_neg hp]
  dsimp only
  change (if submitUrb accepts urb = true then _ else _) = _
  rw [hsubmit]
  cases accepts with
  | true => rfl
  | false =>
    have hsame : { urb with inFlight := none } = urb := by rw [← hurb]
    simp only [Bool.false_eq_true, if_false, hsame, Int.add_zero, Function.update_eq_self]
    rfl

theorem held_complete (r : TxRing B) (i : Fin maxTxUrb) :
    (r.complete i).held = Function.update r.held i none := by
  unfold complete
  by_cases hnone : (r.txContext i).inFlight.isNone = true
  · rw [if_pos hnone]
    have hi : r.held i = none := Option.isNone_iff_eq_none.mp hnone
    rw [← hi, Function.update_eq_self]
  · rw [if_neg hnone]
    exact held_update r.txContext i _

theorem complete_index (r : TxRing B) (i : Fin maxTxUrb) :
    (r.complete i).txUrbIndex = r.txUrbIndex := by
  unfold complete
  dsimp only
  split_ifs <;> rfl

theorem complete_priority (r : TxRing B) (i j : Fin maxTxUrb) :
    ((r.complete i).txContext j).priority = (r.txContext j).priority := by
  unfold complete
  dsimp only
  split_ifs
  · rfl
  · by_cases hj : j = i
    · subst hj
      simp
    · simp [hj]

/-- A completion keeps a counter right, if the URB has the callback it was
submitted with. -/
theorem pending_complete {q : Priority} (hq : r.pending q = Slots.count r.held q) {i : Fin maxTxUrb}
    (hcall : ∀ p, r.held i = some p → (r.txContext i).priority = p) :
    (r.complete i).pending q = Slots.count (r.complete i).held q := by
  rw [held_complete]
  cases hi : r.held i with
  | none =>
    have hnone : (r.txContext i).inFlight.isNone = true := Option.isNone_iff_eq_none.mpr hi
    unfold complete
    rw [if_pos hnone, ← hi, Function.update_eq_self]
    exact hq
  | some p =>
    have hsome : ¬ (r.txContext i).inFlight.isNone = true := by
      change ¬ (r.held i).isNone = true
      simp [hi]
    have hcount := Slots.count_empty hi q
    unfold complete
    rw [if_neg hsome]
    dsimp only
    rw [hcall p hi]
    by_cases hpq : p = q
    · subst hpq
      rw [if_pos rfl] at hcount
      rw [Function.update_self, hq]
      omega
    · rw [if_neg hpq] at hcount
      rw [Function.update_of_ne (Ne.symm hpq), hq]
      omega

end TxRing

/-! ### Runs -/

namespace TxHistory

open TxRing

variable {B : Type} {s : TxHistory B} {e : TxCall B}

theorem step_ring (s : TxHistory B) (e : TxCall B) : (s.step e).ring = s.ring.step e := by
  cases e with
  | tx priority fill accepts =>
    unfold step TxRing.step
    dsimp only
    by_cases hp : maxTxUrb < s.ring.pending priority
    · rw [if_pos hp, tx_full hp]
    · rw [if_neg hp]
  | complete i => rfl

/-- No URB is overdue exactly if the one the call takes is free. -/
theorem noneOverdue_iff (h : s.Good) : s.NoneOverdue e ↔ s.ring.FillsFree e := by
  cases e with
  | tx priority fill accepts =>
    exact imp_congr_right fun _ => (h.aligned.turn_free_iff h.index).symm
  | complete i => exact Iff.rfl

/-- A call that takes a free URB keeps what is said of the URBs in flight. -/
theorem good_tx (h : s.Good) {priority : Priority} {fill : B → B} {accepts : Bool}
    (hfree : s.ring.FillsFree (.tx priority fill accepts)) :
    (s.step (.tx priority fill accepts)).Good := by
  unfold step
  dsimp only
  by_cases hp : maxTxUrb < s.ring.pending priority
  · rw [if_pos hp]
    exact h
  rw [if_neg hp]
  have hslot : s.ring.held s.ring.txUrbIndex = none := hfree (not_lt.mp hp)
  have hindex : ((s.ring.txUrbIndex + 1 : Fin maxTxUrb) : ℕ) = (s.calls + 1) % maxTxUrb := by
    rw [Fin.val_add, h.index]
    simp [Nat.add_mod]
  rw [tx_free hp hslot]
  dsimp only
  have hheld := held_update s.ring.txContext s.ring.txUrbIndex
    { fillUrb priority fill (s.ring.txContext s.ring.txUrbIndex) with
      inFlight := if accepts then some priority else none }
  refine ⟨hindex, ?_, ?_, ?_⟩
  · -- the ages
    unfold TxRing.held
    rw [hheld]
    cases accepts with
    | true => exact h.aligned.fill h.index hslot priority
    | false =>
      have hskip := h.aligned.skip h.index hslot
      dsimp only
      rw [if_neg Bool.false_ne_true, if_neg Bool.false_ne_true]
      rw [← hslot]
      change Slots.Aligned (Function.update s.ring.held s.ring.txUrbIndex
        (s.ring.held s.ring.txUrbIndex)) s.since (s.calls + 1)
      rwa [Function.update_eq_self]
  · -- the counters
    intro q
    unfold TxRing.held
    dsimp only
    rw [hheld]
    have hq := h.counted q
    cases accepts with
    | true =>
      have hcount := Slots.count_fill hslot priority q
      change Function.update s.ring.pending priority (s.ring.pending priority + 1) q =
        Slots.count (Function.update s.ring.held s.ring.txUrbIndex (some priority)) q
      rw [hcount]
      by_cases hpq : priority = q
      · subst hpq
        rw [Function.update_self, if_pos rfl, hq]
        rfl
      · rw [Function.update_of_ne (Ne.symm hpq), if_neg hpq, hq]
        rfl
    | false =>
      change Function.update s.ring.pending priority (s.ring.pending priority + 0) q =
        Slots.count (Function.update s.ring.held s.ring.txUrbIndex none) q
      rw [Int.add_zero, Function.update_eq_self, ← hslot, Function.update_eq_self]
      exact hq
  · -- the callbacks
    intro i p hi
    unfold TxRing.held at hi
    dsimp only at hi ⊢
    by_cases hidx : i = s.ring.txUrbIndex
    · subst hidx
      rw [Function.update_self] at hi ⊢
      cases accepts with
      | true => exact Option.some.inj hi
      | false => cases hi
    · rw [Function.update_of_ne hidx] at hi ⊢
      exact h.callback i p hi

theorem good_complete (h : s.Good) (i : Fin maxTxUrb) : (s.step (.complete i)).Good := by
  refine ⟨?_, ?_, fun q => pending_complete (h.counted q) (h.callback i), ?_⟩
  · change ((s.ring.complete i).txUrbIndex : ℕ) = _
    rw [complete_index]
    exact h.index
  · change Slots.Aligned (s.ring.complete i).held s.since s.calls
    rw [held_complete]
    exact h.aligned.empty i
  · intro j p hj
    change (s.ring.complete i).held j = some p at hj
    change ((s.ring.complete i).txContext j).priority = p
    rw [complete_priority]
    rw [held_complete] at hj
    by_cases hji : j = i
    · subst hji
      rw [Function.update_self] at hj
      cases hj
    · rw [Function.update_of_ne hji] at hj
      exact h.callback j p hj

/-- What one step keeps. -/
theorem good_step (h : s.Good) (hfree : s.ring.FillsFree e) : (s.step e).Good := by
  cases e with
  | tx priority fill accepts => exact good_tx h hfree
  | complete i => exact good_complete h i

theorem good_init (bufs : Fin maxTxUrb → B) : (init bufs).Good where
  index := rfl
  aligned := .of_free fun _ => rfl
  counted priority := by
    change (0 : ℤ) = (Slots.count (fun _ => none) priority : ℕ)
    rw [Slots.count_none]
    rfl
  callback i p h := by cases h

theorem noneOverdue_iff_sound (h : s.Good) : s.NoneOverdue e ↔ s.ring.Sound e := by
  rw [noneOverdue_iff h]
  refine ⟨fun hfree => ⟨hfree, ?_⟩, And.left⟩
  rw [← step_ring]
  exact (good_step h hfree).counted

end TxHistory

open TxHistory

/-- **When the ring is sound.** In a run no call fills or submits a URB in
flight, with the counters right in every state, exactly if at every call that
takes a URB those in flight were submitted by the last `MAX_TX_URB - 1` calls. -/
theorem allSteps_sound_iff {B : Type} (bufs : Fin maxTxUrb → B) (is : List (TxCall B)) :
    Run.AllSteps TxHistory.step NoneOverdue (.init bufs) is ↔
      Run.AllSteps TxRing.step TxRing.Sound (.init bufs) is :=
  Run.allSteps_proj_iff TxHistory.ring step_ring
    (fun _ _ h hok => good_step h ((noneOverdue_iff h).mp hok)) (fun _ _ h => noneOverdue_iff_sound h)
    (.init bufs) is (good_init bufs)

/-- Sixteen data frames that do not complete, then one for power save: its
call passes the test and fills the first frame's URB. -/
theorem powerSave_fills_urb_in_flight :
    ¬ ∀ (bufs : Fin maxTxUrb → ℕ) (is : List (TxCall ℕ)),
      Run.AllSteps TxRing.step TxRing.Sound (.init bufs) is := by
  intro h
  let data : TxCall ℕ := .tx .low (fun _ => 1) true
  let nullFrame : TxCall ℕ := .tx .low (fun _ => 2) true
  have hall := h (fun _ => 0) (List.replicate 16 data ++ [nullFrame])
  have hlast := (Run.allSteps_append.mp hall).2.1.1
  have hpend : (Run.run TxRing.step (.init fun _ => 0) (List.replicate 16 data)).pending .low ≤ maxTxUrb := by
    decide +kernel
  have hfree := hlast hpend
  revert hfree
  decide +kernel

end Rtl8187

/-
# The management queue

The ring of management frames waiting for the transmitter
(`ieee80211_softmac.c`): `mgmt_queue_ring` with `mgmt_queue_head` and
`mgmt_queue_tail`, and the loop of `ieee80211_reset_queue` over it. A run of
calls leaves a trace of what each call did (`Obs`), and `Conforms` says when a
trace is that of a FIFO.

`enqueue_mgmt` writes the slot after `head` and then moves `head` there, so
the oldest waiting frame is in the slot after `tail`. `dequeue_mgmt` reads the
slot `tail` itself before it moves on, one slot behind. `trace_conforms_iff`
says in which runs this does not show.

Key definitions: `MgmtQueue`, `enqueueMgmt`, `dequeueMgmt`, `resetQueue`, `Conforms`.
Key theorems: `drain_ends`, `trace_conforms_iff`.
-/
import Rtl8187.Lib.Ring
import Rtl8187.Lib.Run

namespace Rtl8187

/-- `MGMT_QUEUE_NUM`. -/
def mgmtQueueNum : ℕ := 5

instance : NeZero mgmtQueueNum := ⟨by decide⟩

/-- The queue's fields of `struct ieee80211_device`. -/
structure MgmtQueue (S : Type) where
  ring : Fin mgmtQueueNum → Option S
  head : Fin mgmtQueueNum
  tail : Fin mgmtQueueNum

namespace MgmtQueue

variable {S : Type}

/-- The queue of a fresh device, whose memory is zeroed. -/
def zeroed : MgmtQueue S := ⟨fun _ => none, 0, 0⟩

/-- `init_mgmt_queue`. The slots keep what they held. -/
def initMgmtQueue (q : MgmtQueue S) : MgmtQueue S := { q with head := 0, tail := 0 }

/-- `enqueue_mgmt`: whether the frame was accepted. A refused frame is freed. -/
def enqueueMgmt (q : MgmtQueue S) (skb : S) : Bool × MgmtQueue S :=
  let nh := q.head + 1
  if nh = q.tail then (false, q)
  else (true, { q with head := nh, ring := Function.update q.ring nh (some skb) })

/-- `dequeue_mgmt`. -/
def dequeueMgmt (q : MgmtQueue S) : Option S × MgmtQueue S :=
  if q.tail = q.head then (none, q)
  else (q.ring q.tail, { q with tail := q.tail + 1 })

/-- The loop of `ieee80211_reset_queue`: what its calls of `dequeue_mgmt`
returned, up to the first NULL. -/
def drain : ℕ → MgmtQueue S → List (Option S) × MgmtQueue S
  | 0, q => ([], q)
  | fuel + 1, q =>
    match q.dequeueMgmt with
    | (none, q') => ([none], q')
    | (some skb, q') => (some skb :: (drain fuel q').1, (drain fuel q').2)

/-- The queue's part of `ieee80211_reset_queue`. -/
def resetQueue (q : MgmtQueue S) : List (Option S) × MgmtQueue S :=
  ((drain mgmtQueueNum q).1, (drain mgmtQueueNum q).2.initMgmtQueue)

/-! ### Runs of calls -/

/-- The calls on the queue. -/
inductive Op (S : Type) where
  | init
  | enqueue (skb : S)
  | dequeue
  | reset

/-- What the queue did: a frame accepted or refused, a result of
`dequeue_mgmt`, an `init_mgmt_queue`. -/
inductive Obs (S : Type) where
  | accepted (skb : S)
  | refused (skb : S)
  | returned (ret : Option S)
  | cleared
  deriving DecidableEq

/-- One call. The frames `ieee80211_reset_queue` frees are those its calls of
`dequeue_mgmt` return. -/
def step (q : MgmtQueue S) : Op S → List (Obs S) × MgmtQueue S
  | .init => ([.cleared], q.initMgmtQueue)
  | .enqueue skb =>
    ([if (q.enqueueMgmt skb).1 then .accepted skb else .refused skb], (q.enqueueMgmt skb).2)
  | .dequeue => ([.returned q.dequeueMgmt.1], q.dequeueMgmt.2)
  | .reset => (q.resetQueue.1.map .returned ++ [.cleared], q.resetQueue.2)

/-- What a run of calls did, in order. -/
def trace : MgmtQueue S → List (Op S) → List (Obs S)
  | _, [] => []
  | q, op :: ops => (q.step op).1 ++ trace (q.step op).2 ops

/-- The traces of a FIFO in which the frames `w` wait, oldest first: the frame
returned is the oldest one, none is returned only when none waits, and a
frame is refused only when `cap` or more wait. -/
def Conforms (cap : ℕ) : List S → List (Obs S) → Prop
  | _, [] => True
  | w, .accepted skb :: tr => Conforms cap (w ++ [skb]) tr
  | w, .refused _ :: tr => cap ≤ w.length ∧ Conforms cap w tr
  | w, .returned ret :: tr => ret = w.head? ∧ Conforms cap w.tail tr
  | _, .cleared :: tr => Conforms cap [] tr

/-- The slot `dequeue_mgmt` reads holds the oldest waiting frame, or no frame
waits. -/
def ReadsOldest (q : MgmtQueue S) : Prop := q.tail = q.head ∨ q.ring q.tail = q.ring (q.tail + 1)

/-- Every turn of the loop of `ieee80211_reset_queue` meets `ReadsOldest`. -/
def DrainReadsOldest : ℕ → MgmtQueue S → Prop
  | 0, _ => True
  | fuel + 1, q => q.ReadsOldest ∧
      (q.dequeueMgmt.1 ≠ none → DrainReadsOldest fuel q.dequeueMgmt.2)

/-- Every call of `dequeue_mgmt` in the step meets `ReadsOldest`. -/
def StepReadsOldest (q : MgmtQueue S) : Op S → Prop
  | .dequeue => q.ReadsOldest
  | .reset => q.DrainReadsOldest mgmtQueueNum
  | .init => True
  | .enqueue _ => True

/-- The queue after a call. -/
def next (q : MgmtQueue S) (op : Op S) : MgmtQueue S := (q.step op).2

/-! ### The loop of `ieee80211_reset_queue` -/

theorem sub_succ_lt : ∀ h t : Fin mgmtQueueNum, t ≠ h → (h - (t + 1)).val < (h - t).val := by
  decide

theorem drain_ends_of_lt : ∀ (fuel : ℕ) (q : MgmtQueue S),
    (q.head - q.tail).val < fuel → (drain fuel q).1.getLast? = some none
  | 0, _, h => absurd h (Nat.not_lt_zero _)
  | fuel + 1, q, h => by
    unfold drain dequeueMgmt
    by_cases he : q.tail = q.head
    · rw [if_pos he]
      rfl
    · rw [if_neg he]
      cases hr : q.ring q.tail with
      | none => rfl
      | some skb =>
        have hlt := sub_succ_lt q.head q.tail he
        have ih := drain_ends_of_lt fuel { q with tail := q.tail + 1 } (by simp only; omega)
        simp only [List.getLast?_cons, ih, Option.getD_some]

/-- The loop ends: it meets a NULL within `MGMT_QUEUE_NUM` turns. -/
theorem drain_ends (q : MgmtQueue S) : (drain mgmtQueueNum q).1.getLast? = some none :=
  drain_ends_of_lt _ q (q.head - q.tail).isLt

/-! ### The trace of a run -/

/-- The frames `w` wait in the queue, oldest first. -/
def Waiting (q : MgmtQueue S) (w : List S) : Prop := Ring.Holds q.ring q.head q.tail w

theorem waiting_init (q : MgmtQueue S) : q.initMgmtQueue.Waiting [] := rfl

theorem waiting_dequeue {q : MgmtQueue S} {w : List S} (h : q.Waiting w) :
    q.dequeueMgmt.2.Waiting w.tail := by
  unfold dequeueMgmt
  by_cases he : q.tail = q.head
  · rw [if_pos he, h.eq_nil_iff.mpr he]
    exact he
  · rw [if_neg he]
    exact h.pop he

/-- `dequeue_mgmt` returns the oldest waiting frame exactly if it reads it. -/
theorem dequeue_eq_head?_iff {q : MgmtQueue S} {w : List S} (h : q.Waiting w) :
    q.dequeueMgmt.1 = w.head? ↔ q.ReadsOldest := by
  unfold dequeueMgmt ReadsOldest
  by_cases he : q.tail = q.head
  · rw [if_pos he, h.eq_nil_iff.mpr he]
    simp [he]
  · rw [if_neg he, h.head?_eq he]
    simp [he]

/-- An accepted frame waits behind the others. -/
theorem waiting_enqueue {q : MgmtQueue S} {w : List S} (h : q.Waiting w) (skb : S)
    (hnf : q.head + 1 ≠ q.tail) : (q.enqueueMgmt skb).2.Waiting (w ++ [skb]) := by
  rw [enqueueMgmt, if_neg hnf]
  exact h.push skb hnf

theorem drain_conforms_iff (tr : List (Obs S)) : ∀ (fuel : ℕ) {q : MgmtQueue S} {w : List S},
    q.Waiting w → (Conforms (mgmtQueueNum - 1) w ((drain fuel q).1.map .returned ++ .cleared :: tr) ↔
      q.DrainReadsOldest fuel ∧ Conforms (mgmtQueueNum - 1) [] tr)
  | 0, _, _, _ => by simp [drain, DrainReadsOldest, Conforms]
  | fuel + 1, q, w, h => by
    have hread := dequeue_eq_head?_iff h
    have ih := drain_conforms_iff tr fuel (waiting_dequeue h)
    unfold drain DrainReadsOldest
    cases hd : q.dequeueMgmt with
    | mk ret q' =>
      rw [hd] at hread ih
      cases ret with
      | none => simp [Conforms, ← hread]
      | some skb =>
        simp only [List.map_cons, List.cons_append, Conforms, hread, ih]
        simp [and_assoc]

theorem trace_conforms_of_waiting : ∀ (ops : List (Op S)) {q : MgmtQueue S} {w : List S},
    q.Waiting w → (Conforms (mgmtQueueNum - 1) w (trace q ops) ↔
      Run.AllSteps next StepReadsOldest q ops)
  | [], _, _, _ => by simp [trace, Conforms, Run.AllSteps]
  | .init :: ops, q, w, _ => by
    have ih := trace_conforms_of_waiting ops (waiting_init q)
    simpa [trace, step, next, Conforms, Run.AllSteps, StepReadsOldest] using ih
  | .enqueue skb :: ops, q, w, h => by
    by_cases hf : q.head + 1 = q.tail
    · have hcap := h.length_of_full hf
      have ih := trace_conforms_of_waiting ops h
      have hstep : q.step (.enqueue skb) = ([.refused skb], q) := by simp [step, enqueueMgmt, hf]
      simp only [trace, hstep, next, List.singleton_append, Conforms, Run.AllSteps, StepReadsOldest,
        true_and, ih]
      exact and_iff_right hcap
    · have ih := trace_conforms_of_waiting ops (waiting_enqueue h skb hf)
      have hacc : (q.enqueueMgmt skb).1 = true := by simp [enqueueMgmt, hf]
      simpa [trace, step, next, hacc, Conforms, Run.AllSteps, StepReadsOldest] using ih
  | .dequeue :: ops, q, w, h => by
    have ih := trace_conforms_of_waiting ops (waiting_dequeue h)
    simp only [trace, step, List.singleton_append, Conforms, dequeue_eq_head?_iff h, Run.AllSteps,
      StepReadsOldest, next, ih]
  | .reset :: ops, q, w, h => by
    have ih := trace_conforms_of_waiting ops (waiting_init (drain mgmtQueueNum q).2)
    have hdrain := drain_conforms_iff (trace (drain mgmtQueueNum q).2.initMgmtQueue ops) mgmtQueueNum h
    simp only [trace, step, resetQueue, List.append_assoc, List.singleton_append, hdrain, ih,
      Run.AllSteps, StepReadsOldest, next]

/-- **When the queue is a FIFO.** From an initialised queue, a run is that of
a FIFO of `MGMT_QUEUE_NUM - 1` frames exactly if every call of `dequeue_mgmt`
in it finds the queue empty, or the oldest waiting frame already in the slot
before its own. -/
theorem trace_conforms_iff (q : MgmtQueue S) (ops : List (Op S)) :
    Conforms (mgmtQueueNum - 1) [] (trace q.initMgmtQueue ops) ↔
      Run.AllSteps next StepReadsOldest q.initMgmtQueue ops :=
  trace_conforms_of_waiting ops (waiting_init q)

/-- A fresh queue that accepts a frame returns NULL for it. -/
theorem trace_enqueue_dequeue :
    ¬ Conforms (mgmtQueueNum - 1) []
      (trace (zeroed : MgmtQueue ℕ).initMgmtQueue [.enqueue 1, .dequeue]) := by
  have htr : trace (zeroed : MgmtQueue ℕ).initMgmtQueue [.enqueue 1, .dequeue] =
      [.accepted 1, .returned none] := rfl
  rw [htr]
  simp [Conforms]

end MgmtQueue

end Rtl8187

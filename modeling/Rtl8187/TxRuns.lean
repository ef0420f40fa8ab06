/-
# Runs of the transmit queue

Which fragments a run hands to the hardware, and what it does to the pool of
TXBs. `ieee80211_alloc_txb` leaves `nr_frags` zero, so the fragment of a raw
frame is never handed on; and `ieee80211_softmac_xmit` counts such a TXB out
of the pool though `ieee80211_xmit` did not count it in. In the runs without
raw frames every fragment is handed on once and in order (`fragments_in_order`),
and the pool's counter and its parked TXB are right (`pool_sound`).

Key definitions: `TxSide.Start`, `InOrder`, `Pooled`, `PoolSound`.
Key theorems: `inOrder_step`, `fragments_in_order`, `pooled_step`, `pool_sound`.
-/
import Rtl8187.TxSteps

namespace Rtl8187

variable {P H : Type}

namespace TxSide

/-- Nothing has been sent yet. -/
structure Start (s : TxSide P H) : Prop where
  txPending : s.dev.txPending = none
  sending : s.sending = none
  counter : s.dev.txPendingTxb = 0
  stop : s.dev.queueStop = true → s.netStopped = true
  accepted : s.accepted = []
  given : s.given = []

/-- The event makes no TXB for a raw frame. -/
def NotRaw (s : TxSide P H) : TxEvent P H → Prop
  | .xmit env skb => ¬ RawAccepted env s.dev skb
  | _ => True

/-- The fragments that are not handed on yet, in order. -/
def waiting (s : TxSide P H) : List SkBuff :=
  parkedFragments s.dev.txPending ++ s.sending.elim [] fun t => t.1.fragmentsFrom 0

end TxSide

open TxSide

/-- What is known of the hardware when it may do anything. -/
abbrev Anything : H → Prop := fun _ => True

theorem orderly_start {s : TxSide P H} (h : s.Start) : Orderly Anything Anything s := by
  refine ⟨⟨trivial, fun hs => ⟨h.stop hs, trivial⟩⟩, ?_, Or.inl h.sending, ?_⟩
  · intro hp
    rw [h.txPending] at hp
    cases hp
  · rw [h.counter, h.sending]
    exact le_rfl

/-! ### The order of the fragments -/

/-- The fragments of the TXBs made, one TXB after the other, are those handed to
the hardware and then those that wait. -/
def InOrder (s : TxSide P H) : Prop := s.accepted.flatten = s.given ++ s.waiting

section

variable {hx : HardXmit H} {s s' : TxSide P H} {e : TxEvent P H}

theorem inOrder_start (h : s.Start) : InOrder s := by
  simp [InOrder, waiting, h.accepted, h.given, h.txPending, h.sending, parkedFragments]

theorem inOrder_handing (h : InOrder s) (hh : Handing hx [] s' s) : InOrder s' := by
  unfold InOrder waiting at h ⊢
  rw [hh.accepted, hh.given, hh.txPending, hh.sending, List.append_nil]
  exact h

theorem inOrder_xmit (h : InOrder s) (ho : Orderly Anything Anything s) {env : Env} {skb : SkBuff}
    (hcall : s.Called (.xmit env skb)) (hraw : s.NotRaw (.xmit env skb)) :
    InOrder (s.xmit env skb) := by
  have hout := s.xmit_outcome env skb
  generalize s.xmit env skb = s' at hout ⊢
  cases hout with
  | ignored => exact h
  | failed hwhy => exact h
  | raw txb frags hacc hzero => exact absurd hacc hraw
  | cooked txb d hraw hp hstop hc ha =>
    obtain ⟨hnet, hsend⟩ := hcall
    have hpend := (ho.awake hnet).2
    have hall : s.accepted.flatten = s.given := by
      simpa [InOrder, waiting, hpend, hsend, parkedFragments] using h
    simp [InOrder, waiting, hp, hpend, parkedFragments, hall]

theorem inOrder_handOff (h : InOrder s) (ho : Orderly Anything Anything s) (env : Env) :
    InOrder (s.handOff hx env) := by
  unfold TxSide.handOff
  cases hsend : s.sending with
  | none => exact h
  | some t =>
    obtain ⟨txb, entry⟩ := t
    have hpend : s.dev.txPending = none := ho.pending_none hsend
    have hall : s.accepted.flatten = s.given ++ txb.fragmentsFrom 0 := by
      simpa [InOrder, waiting, hpend, hsend, parkedFragments] using h
    obtain ⟨sent, pend, t, hhand, hparks, heq⟩ :=
      softmacXmit_spec hx env { s with sending := none } txb entry hpend
    have hacc : t.accepted = s.accepted := hhand.accepted
    have hgiven : t.given = s.given ++ sent := hhand.given
    have hnone : t.sending = none := hhand.sending
    dsimp only
    rw [heq]
    calc t.accepted.flatten = s.given ++ (sent ++ parkedFragments pend) := by
          rw [hacc, hall, hparks.split]
      _ = t.given ++ (parkedFragments pend ++ []) := by
          rw [hgiven, List.append_assoc, List.append_nil]
      _ = t.given ++ (parkedFragments pend ++ t.sending.elim [] fun t => t.1.fragmentsFrom 0) := by
          rw [hnone]
          rfl

theorem inOrder_wakeQueue (h : InOrder s) (env : Env) : InOrder (s.wakeQueue hx env) := by
  by_cases hq : s.dev.queueStop = true
  case neg =>
    rw [TxSide.wakeQueue, if_pos hq]
    exact h
  obtain ⟨sent, pend, t, hhand, hsplit, -, -, heq⟩ := wakeQueue_spec hx env s hq
  have hacc : t.accepted = s.accepted := hhand.accepted
  have hgiven : t.given = s.given ++ sent := hhand.given
  have hsend : t.sending = s.sending := hhand.sending
  have hall : s.accepted.flatten = s.given ++
      (parkedFragments s.dev.txPending ++ s.sending.elim [] fun t => t.1.fragmentsFrom 0) := h
  rw [heq]
  calc t.accepted.flatten = s.given ++ ((sent ++ parkedFragments pend) ++
        s.sending.elim [] fun t => t.1.fragmentsFrom 0) := by rw [hacc, hall, hsplit]
    _ = t.given ++ (parkedFragments pend ++ t.sending.elim [] fun t => t.1.fragmentsFrom 0) := by
        rw [hgiven, hsend]
        simp only [List.append_assoc]

/-- A step other than a reset keeps the order. -/
theorem inOrder_step (h : InOrder s) (ho : Orderly Anything Anything s) (hcall : s.Called e)
    (hraw : s.NotRaw e) (hreset : e ≠ .resetQueue) : InOrder (s.step hx e) := by
  cases e with
  | xmit env skb => exact inOrder_xmit h ho hcall hraw
  | handOff env => exact inOrder_handOff h ho env
  | mgmtXmit env skb => exact inOrder_handing h (mgmtXmit_handing hx env s skb)
  | psMgmtXmit env skb => exact inOrder_handing h (psMgmtXmit_handing hx env s skb)
  | stopQueue => exact h
  | wakeQueue env => exact inOrder_wakeQueue h env
  | resetQueue => exact absurd rfl hreset
  | other d hard => exact h

end

/-- What the transmit queue is for: while something is parked the queue is
stopped, and as long as it has not been reset it has handed on every fragment
that does not wait, once and in order. -/
def QueueKept (hx : HardXmit H) (s : TxSide P H) (is : List (TxEvent P H)) : Prop :=
  ((Run.run (step hx) s is).dev.txPending.isSome = true →
      (Run.run (step hx) s is).dev.queueStop = true) ∧
    ((∀ e ∈ is, e ≠ .resetQueue) → InOrder (Run.run (step hx) s is))

/-- **The order of the fragments.** In a run without raw frames the queue loses
and reorders none. -/
theorem fragments_in_order (hx : HardXmit H) (s : TxSide P H) (is : List (TxEvent P H)) (hs : s.Start)
    (hrun : Run.AllSteps (step hx) (fun s e => s.Called e ∧ s.NotRaw e) s is) : QueueKept hx s is := by
  have ho := orderly_start hs
  constructor
  · have hend := Run.inv_run (fun _ _ h hok => orderly_step h hok.1) s is ho hrun
    exact hend.parked
  · intro hreset
    have hstep : ∀ (s : TxSide P H) (e : TxEvent P H), Orderly Anything Anything s ∧ InOrder s →
        (s.Called e ∧ s.NotRaw e) ∧ e ≠ .resetQueue →
        Orderly Anything Anything (s.step hx e) ∧ InOrder (s.step hx e) :=
      fun s e h hok =>
        ⟨orderly_step h.1 hok.1.1, inOrder_step h.2 h.1 hok.1.1 hok.1.2 hok.2⟩
    have hall := hrun.and (Run.allSteps_of_forall s hreset)
    exact (Run.inv_run hstep s is ⟨ho, inOrder_start hs⟩ hall).2

/-- Hardware that stops the queue with every frame. -/
def stoppingHard : HardXmit Unit := fun h _ _ => (true, h)

def stillEnv : Env := ⟨0, true, fun _ => false, ⟨0, 0, 0, 0, 0, 0⟩⟩

/-- A station without keys that has sent nothing. -/
def openSide (rawTx : Bool) : TxSide Unit Unit where
  dev := { Device.init Unit ⟨250, true⟩ ⟨2, 0, 0, 0, 0, 1⟩ with rawTx := rawTx }
  hard := ()
  netStopped := false
  sending := none
  pendingEntry := none
  accepted := []
  given := []

theorem openSide_start (rawTx : Bool) : (openSide rawTx).Start :=
  ⟨rfl, rfl, rfl, fun h => absurd h Bool.false_ne_true, rfl, rfl⟩

/-- A frame of 34 bytes, which is an Ethernet frame and may be a raw one. -/
def smallFrame : SkBuff :=
  (SkBuff.devAllocSkb 64).put
    ([2, 0, 0, 0, 0, 9] ++ [2, 0, 0, 0, 0, 1] ++ [0x08, 0x00] ++ List.replicate 20 7)

theorem smallFrame_in_order : QueueKept stoppingHard (openSide false)
    [.xmit stillEnv smallFrame, .handOff stillEnv, .wakeQueue stillEnv] :=
  fragments_in_order _ _ _ (openSide_start false)
    ⟨⟨⟨rfl, rfl⟩, fun h => absurd h.2.1 Bool.false_ne_true⟩, ⟨trivial, trivial⟩, ⟨trivial, trivial⟩, trivial⟩

/-- The fragment of a raw frame is not handed on. -/
theorem raw_fragment_lost :
    ¬ ∀ (hx : HardXmit Unit) (s : TxSide Unit Unit) (is : List (TxEvent Unit Unit)), s.Start →
      Run.AllSteps (step hx) Called s is → QueueKept hx s is := by
  intro h
  have hkept := (h stoppingHard (openSide true) [.xmit stillEnv smallFrame, .handOff stillEnv]
    (openSide_start true) ⟨⟨rfl, rfl⟩, trivial, trivial⟩).2
  have horder := hkept (by simp)
  have hlen := congrArg List.length horder
  revert hlen
  decide +kernel

/-! ### The pool -/

/-- The counter counts the TXB that is being sent, and what is sent or parked is
what its entry of the pool holds. -/
structure Pooled (s : TxSide P H) : Prop where
  counter : s.dev.txPendingTxb = if s.sending.isSome then 1 else 0
  sending : ∀ txb entry, s.sending = some (txb, entry) →
    ∃ k, entry = some k ∧ s.dev.allocTxb k = txb
  parked : ∀ txb i, s.dev.txPending = some (txb, i) →
    i < txb.nrFrags ∧ ∃ k, s.pendingEntry = some k ∧ s.dev.allocTxb k = txb

section

variable {hx : HardXmit H} {s s' : TxSide P H} {e : TxEvent P H}

theorem pooled_start (h : s.Start) : Pooled s := by
  refine ⟨by rw [h.counter, h.sending]; rfl, fun txb entry hs => ?_, fun txb i hp => ?_⟩
  · rw [h.sending] at hs
    cases hs
  · rw [h.txPending] at hp
    cases hp

theorem pooled_handing (h : Pooled s) (hh : Handing hx [] s' s) : Pooled s' := by
  refine ⟨?_, ?_, ?_⟩
  · rw [hh.txPendingTxb, hh.sending]
    exact h.counter
  · rw [hh.sending, hh.allocTxb]
    exact h.sending
  · rw [hh.txPending, hh.pendingEntry, hh.allocTxb]
    exact h.parked

theorem pooled_xmit (h : Pooled s) (ho : Orderly Anything Anything s) {env : Env} {skb : SkBuff}
    (hcall : s.Called (.xmit env skb)) (hraw : s.NotRaw (.xmit env skb)) :
    Pooled (s.xmit env skb) := by
  have hout := s.xmit_outcome env skb
  generalize s.xmit env skb = s' at hout ⊢
  cases hout with
  | ignored => exact h
  | failed hwhy => exact ⟨h.counter, h.sending, h.parked⟩
  | raw txb frags hacc hzero => exact absurd hacc hraw
  | cooked txb d hraw hp hstop hc ha =>
    obtain ⟨hnet, hsend⟩ := hcall
    have hpend := (ho.awake hnet).2
    have hcount := h.counter
    rw [hsend] at hcount
    refine ⟨?_, ?_, ?_⟩
    · dsimp only
      rw [hc, hcount]
      rfl
    · intro txb' entry hs
      cases hs
      exact ⟨_, rfl, by rw [ha, Function.update_self]⟩
    · intro txb' i hs
      dsimp only at hs
      rw [hp, hpend] at hs
      cases hs

theorem pooled_handOff (h : Pooled s) (ho : Orderly Anything Anything s) (env : Env) :
    Pooled (s.handOff hx env) := by
  unfold TxSide.handOff
  cases hsend : s.sending with
  | none => exact h
  | some t =>
    obtain ⟨txb, entry⟩ := t
    have hpend : s.dev.txPending = none := ho.pending_none hsend
    have hcount := h.counter
    rw [hsend] at hcount
    obtain ⟨k, hentry, hk⟩ := h.sending txb entry hsend
    obtain ⟨sent, pend, t, hhand, hparks, heq⟩ :=
      softmacXmit_spec hx env { s with sending := none } txb entry hpend
    have hcount' : t.dev.txPendingTxb = s.dev.txPendingTxb := hhand.txPendingTxb
    have halloc : t.dev.allocTxb = s.dev.allocTxb := hhand.allocTxb
    have hnone : t.sending = none := hhand.sending
    dsimp only
    rw [heq]
    refine ⟨?_, ?_, ?_⟩
    · dsimp only
      rw [hcount', hcount, hnone]
      rfl
    · intro txb' entry' hs
      dsimp only at hs
      rw [hnone] at hs
      cases hs
    · intro txb' i hs
      dsimp only at hs
      subst hs
      obtain ⟨rfl, hlt⟩ := hparks.same _ rfl
      exact ⟨hlt, k, hentry, by rw [halloc, hk]⟩

theorem pooled_wakeQueue (h : Pooled s) (env : Env) : Pooled (s.wakeQueue hx env) := by
  by_cases hq : s.dev.queueStop = true
  case neg =>
    rw [TxSide.wakeQueue, if_pos hq]
    exact h
  obtain ⟨sent, pend, t, hhand, -, -, hfrom, heq⟩ := wakeQueue_spec hx env s hq
  have hcount : t.dev.txPendingTxb = s.dev.txPendingTxb := hhand.txPendingTxb
  have halloc : t.dev.allocTxb = s.dev.allocTxb := hhand.allocTxb
  have hsend : t.sending = s.sending := hhand.sending
  have hentry : t.pendingEntry = s.pendingEntry := hhand.pendingEntry
  rw [heq]
  refine ⟨?_, ?_, ?_⟩
  · dsimp only
    rw [hcount, hsend]
    exact h.counter
  · dsimp only
    rw [hsend, halloc]
    exact h.sending
  · intro txb i hp
    dsimp only at hp ⊢
    rw [hentry, halloc]
    obtain ⟨⟨txb', i'⟩, hmem, rfl, hlt⟩ := hfrom _ hp
    obtain ⟨hlt', k, hk, hpool⟩ := h.parked txb i' hmem
    exact ⟨hlt hlt', k, hk, hpool⟩

theorem pooled_step (h : Pooled s) (ho : Orderly Anything Anything s) (hcall : s.Called e)
    (hraw : s.NotRaw e) : Pooled (s.step hx e) := by
  cases e with
  | xmit env skb => exact pooled_xmit h ho hcall hraw
  | handOff env => exact pooled_handOff h ho env
  | mgmtXmit env skb => exact pooled_handing h (mgmtXmit_handing hx env s skb)
  | psMgmtXmit env skb => exact pooled_handing h (psMgmtXmit_handing hx env s skb)
  | stopQueue => exact ⟨h.counter, h.sending, h.parked⟩
  | wakeQueue env => exact pooled_wakeQueue h env
  | resetQueue => exact ⟨h.counter, h.sending, fun txb i hp => by cases hp⟩
  | other d hard => exact ⟨h.counter, h.sending, h.parked⟩

end

/-- `ieee80211_xmit` picks the entry `k` of the pool and fills it. -/
def Picks (s : TxSide P H) (k : Fin maxTxSkb) : TxEvent P H → Prop
  | .xmit env skb => (xmitTxb env s.dev skb).2.1.isSome = true ∧ s.dev.rawTx = false ∧
      s.dev.txSkbIndex = k
  | _ => False

/-- The counter stays in range and comes back to zero, and a parked TXB keeps its
entry of the pool to itself. -/
structure PoolSound (s : TxSide P H) : Prop where
  nonneg : 0 ≤ s.dev.txPendingTxb
  le : s.dev.txPendingTxb ≤ maxTxSkb
  idle : s.sending = none → s.dev.txPending = none → s.dev.txPendingTxb = 0
  kept : ∀ txb i, s.dev.txPending = some (txb, i) → i < txb.nrFrags →
    ∃ k, s.pendingEntry = some k ∧ s.dev.allocTxb k = txb ∧ ∀ e, s.Called e → ¬ Picks s k e

theorem Pooled.sound {s : TxSide P H} (h : Pooled s) (ho : Orderly Anything Anything s) :
    PoolSound s := by
  have hrange : s.dev.txPendingTxb = 0 ∨ s.dev.txPendingTxb = 1 := by
    rw [h.counter]
    split_ifs
    · exact Or.inr rfl
    · exact Or.inl rfl
  have hpool : (maxTxSkb : ℤ) = 16 := rfl
  refine ⟨by omega, by omega, ?_, ?_⟩
  · intro hs _
    rw [h.counter, hs]
    rfl
  · intro txb i hp _
    obtain ⟨-, k, hk, hentry⟩ := h.parked txb i hp
    refine ⟨k, hk, hentry, fun e hcall hpick => ?_⟩
    cases e with
    | xmit env skb =>
      have hnone := (ho.awake hcall.1).2
      rw [hp] at hnone
      cases hnone
    | _ => exact hpick

/-- **The pool.** In a run without raw frames the pool is accounted for. -/
theorem pool_sound (hx : HardXmit H) (s : TxSide P H) (is : List (TxEvent P H)) (hs : s.Start)
    (hrun : Run.AllSteps (step hx) (fun s e => s.Called e ∧ s.NotRaw e) s is) :
    PoolSound (Run.run (step hx) s is) := by
  have hstep : ∀ (s : TxSide P H) (e : TxEvent P H), Orderly Anything Anything s ∧ Pooled s →
      s.Called e ∧ s.NotRaw e → Orderly Anything Anything (s.step hx e) ∧ Pooled (s.step hx e) :=
    fun s e h hok => ⟨orderly_step h.1 hok.1, pooled_step h.2 h.1 hok.1 hok.2⟩
  have hend := Run.inv_run hstep s is ⟨orderly_start hs, pooled_start hs⟩ hrun
  exact hend.2.sound hend.1

theorem smallFrame_pool_sound : PoolSound (Run.run (step stoppingHard) (openSide false)
    [.xmit stillEnv smallFrame, .handOff stillEnv]) :=
  pool_sound _ _ _ (openSide_start false)
    ⟨⟨⟨rfl, rfl⟩, fun h => absurd h.2.1 Bool.false_ne_true⟩, ⟨trivial, trivial⟩, trivial⟩

/-- A raw frame is counted out of the pool it does not come from. -/
theorem raw_frame_uncounted :
    ¬ ∀ (hx : HardXmit Unit) (s : TxSide Unit Unit) (is : List (TxEvent Unit Unit)), s.Start →
      Run.AllSteps (step hx) Called s is → PoolSound (Run.run (step hx) s is) := by
  intro h
  have hnonneg := (h stoppingHard (openSide true) [.xmit stillEnv smallFrame, .handOff stillEnv]
    (openSide_start true) ⟨⟨rfl, rfl⟩, trivial, trivial⟩).nonneg
  revert hnonneg
  decide +kernel

end Rtl8187

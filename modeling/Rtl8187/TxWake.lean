/-
# Waking the transmit queue

The transmit side over the ring of URBs: `rtl8180_hard_data_xmit` stops the
queue when sixteen URBs are in flight, and the completion of a URB wakes it
again (`r8187_core.c`). The kernel's queue stays stopped for ever if nothing
is in flight, or if `queue_stop` is clear, since `ieee80211_wake_queue` then
does nothing. `ieee80211_disassociate` clears it under a stopped queue, and
`ieee80211_xmit` stops the kernel's queue alone when it has no memory for a raw
frame. In the runs without these the queue is always woken (`queue_wakes`).

Frames of the priority `NORM_PRIORITY` are not among the events: their only
sender, `rtl8187_beacon_tx`, is never called.

Key definitions: `UsbHard`, `rtl8180HardDataXmit`, `UsbEvent`, `usbStep`, `QueueWakes`.
Key theorems: `lowOnly_tx`, `hardRules_usb`, `woken_step`, `queue_wakes`.
-/
import Rtl8187.TxRuns
import Rtl8187.TxRing

namespace Rtl8187

variable {P B : Type}

/-! ### The hardware -/

structure UsbHard (B : Type) where
  ring : TxRing B
  /-- `bHwRadioOff` -/
  radioOff : Bool
  /-- The completion callbacks that have counted their URB and not yet tried to
  wake the queue. -/
  completing : ℕ
  /-- What `usb_submit_urb` makes of the submissions to come, by number. -/
  accepts : ℕ → Bool
  submits : ℕ

/-- `rtl8180_hard_data_xmit`. What `rtl8180_tx` writes into its buffer is `image`. -/
def rtl8180HardDataXmit (image : SkBuff → ℕ → B → B) : HardXmit (UsbHard B) := fun h skb rate =>
  if h.radioOff then (false, h)
  else
    let noSlot := !h.ring.enoughDesc .low
    let ring := (h.ring.tx .low (image skb rate) (h.accepts h.submits)).2
    (noSlot || !ring.enoughDesc .low, { h with ring := ring, submits := h.submits + 1 })

/-- The ring has only seen frames of low priority, and its counter is right. -/
structure LowOnly (r : TxRing B) : Prop where
  callback : ∀ i, (r.txContext i).priority = .low
  held : ∀ i p, r.held i = some p → p = .low
  counted : r.pending .low = Slots.count r.held .low

section

variable {r : TxRing B} {fill : B → B} {accepts : Bool}

open TxRing

/-- What a call does with a URB that is in flight: it is filled, and refused. -/
theorem tx_busy {priority : Priority} (hp : ¬ maxTxUrb < r.pending priority)
    (hbusy : r.held r.txUrbIndex ≠ none) :
    r.tx priority fill accepts =
      (false,
        { r with
          txContext := Function.update r.txContext r.txUrbIndex
            (fillUrb priority fill (r.txContext r.txUrbIndex))
          txUrbIndex := r.txUrbIndex + 1 }) := by
  have hsome : (fillUrb priority fill (r.txContext r.txUrbIndex)).inFlight.isNone = false := by
    rw [← Bool.not_eq_true, Option.isNone_iff_eq_none]
    exact hbusy
  unfold tx
  rw [if_neg hp]
  dsimp only
  rw [submitUrb, hsome, Bool.and_false, if_neg Bool.false_ne_true]

theorem lowOnly_tx (h : LowOnly r) : LowOnly (r.tx .low fill accepts).2 := by
  by_cases hp : maxTxUrb < r.pending .low
  · rw [tx_full hp]
    exact h
  have hcallback : ∀ (urb : TxContext B) (i : Fin maxTxUrb), urb.priority = .low →
      (Function.update r.txContext r.txUrbIndex urb i).priority = .low := by
    intro urb i hurb
    by_cases hi : i = r.txUrbIndex
    · rw [hi, Function.update_self]
      exact hurb
    · rw [Function.update_of_ne hi]
      exact h.callback i
  cases hslot : r.held r.txUrbIndex with
  | none =>
    rw [tx_free hp hslot]
    have hheld := held_update r.txContext r.txUrbIndex
      { fillUrb .low fill (r.txContext r.txUrbIndex) with inFlight := if accepts then some .low else none }
    refine ⟨fun i => hcallback _ i rfl, fun i p hi => ?_, ?_⟩
    · unfold TxRing.held at hi
      dsimp only at hi
      rw [congrFun hheld i] at hi
      by_cases hidx : i = r.txUrbIndex
      · rw [hidx, Function.update_self] at hi
        cases accepts with
        | true => exact (Option.some.inj hi).symm
        | false => cases hi
      · rw [Function.update_of_ne hidx] at hi
        exact h.held i p hi
    · unfold TxRing.held
      dsimp only
      rw [hheld, Function.update_self, h.counted]
      cases accepts with
      | true => exact congrArg Nat.cast (Slots.count_fill hslot Priority.low Priority.low).symm
      | false =>
        change (Slots.count r.held .low : ℤ) + 0 =
          Slots.count (Function.update r.held r.txUrbIndex none) .low
        rw [← hslot, Function.update_eq_self, add_zero]
  | some p =>
    rw [tx_busy hp (by simp [hslot])]
    have hheld := held_update r.txContext r.txUrbIndex (fillUrb .low fill (r.txContext r.txUrbIndex))
    have hsame : (fun j => (Function.update r.txContext r.txUrbIndex
        (fillUrb .low fill (r.txContext r.txUrbIndex)) j).inFlight) = r.held := by
      rw [hheld]
      exact Function.update_eq_self r.txUrbIndex r.held
    refine ⟨fun i => hcallback _ i rfl, fun i p hi => ?_, ?_⟩
    · exact h.held i p ((congrFun hsame i).symm.trans hi)
    · rw [h.counted]
      exact congrArg (fun held => (Slots.count held Priority.low : ℤ)) hsame.symm

/-- A call counts nothing out. -/
theorem pending_tx (r : TxRing B) (priority : Priority) (fill : B → B) (accepts : Bool) :
    r.pending priority ≤ (r.tx priority fill accepts).2.pending priority := by
  unfold tx
  dsimp only
  split_ifs
  · exact le_rfl
  · dsimp only
    rw [Function.update_self]
    omega
  · exact le_rfl

theorem lowOnly_complete (h : LowOnly r) (i : Fin maxTxUrb) : LowOnly (r.complete i) := by
  refine ⟨fun j => (complete_priority r i j).trans (h.callback j), fun j p hj => ?_, ?_⟩
  · rw [held_complete] at hj
    by_cases hji : j = i
    · rw [hji, Function.update_self] at hj
      cases hj
    · rw [Function.update_of_ne hji] at hj
      exact h.held j p hj
  · apply pending_complete h.counted
    intro p hp
    rw [h.callback i, h.held i p hp]

/-- A URB whose callback runs is counted out. -/
theorem complete_pending (h : LowOnly r) {i : Fin maxTxUrb} (hi : r.held i ≠ none) :
    (r.complete i).pending .low = r.pending .low - 1 := by
  have hsome : ¬ (r.txContext i).inFlight.isNone = true := by
    rw [Option.isNone_iff_eq_none]
    exact hi
  unfold complete
  rw [if_neg hsome]
  dsimp only
  rw [h.callback i, Function.update_self]

end

/-- The ring of the hardware has only seen frames of low priority. -/
def UsbOk (h : UsbHard B) : Prop := LowOnly h.ring

/-- As many callbacks are to come, or have not tried to wake the queue yet, as
there are URBs. -/
def Owed (h : UsbHard B) : Prop := (maxTxUrb : ℤ) ≤ h.ring.pending .low + h.completing

theorem hardRules_usb (image : SkBuff → ℕ → B → B) :
    HardRules (rtl8180HardDataXmit image) UsbOk Owed := by
  have hpend := fun (h : UsbHard B) (skb : SkBuff) (rate : ℕ) =>
    pending_tx h.ring .low (image skb rate) (h.accepts h.submits)
  refine ⟨fun h skb rate hok => ?_, fun h skb rate _ howed => ?_, fun h skb rate _ hstop => ?_⟩
  · unfold rtl8180HardDataXmit
    by_cases hoff : h.radioOff = true
    · rw [if_pos hoff]
      exact hok
    · rw [if_neg hoff]
      exact lowOnly_tx hok
  · unfold rtl8180HardDataXmit
    by_cases hoff : h.radioOff = true
    · rw [if_pos hoff]
      exact howed
    · rw [if_neg hoff]
      have hle := hpend h skb rate
      unfold Owed at howed ⊢
      dsimp only
      omega
  · unfold rtl8180HardDataXmit at hstop ⊢
    by_cases hoff : h.radioOff = true
    · rw [if_pos hoff] at hstop
      cases hstop
    · rw [if_neg hoff] at hstop ⊢
      have hle := hpend h skb rate
      simp only [TxRing.enoughDesc, Bool.or_eq_true, Bool.not_eq_true', decide_eq_false_iff_not,
        not_lt] at hstop
      unfold Owed
      dsimp only
      omega

/-! ### What may happen while the interface is up -/

inductive UsbEvent (P : Type) where
  | xmit (env : Env) (skb : SkBuff)
  | handOff (env : Env)
  | mgmtXmit (env : Env) (skb : SkBuff)
  | psMgmtXmit (env : Env) (skb : SkBuff)
  | disassociate
  /-- The rest of the driver changes the device. -/
  | configure (d : Device P)
  | radio (off : Bool)
  /-- A callback runs, up to `rtl8180_try_wake_queue`. -/
  | complete (i : Fin maxTxUrb)
  /-- The `rtl8180_try_wake_queue` of a callback. -/
  | tryWakeQueue (env : Env)

/-- `ieee80211_disassociate` -/
def TxSide.disassociate {H : Type} (s : TxSide P H) : TxSide P H :=
  (if s.dev.softmacFeatures.txQueue then s.resetQueue else s).mapDev fun d => { d with state := .nolink }

/-- `rtl8187_lptx_isr` or `rtl8187_nptx_isr`, up to `rtl8180_try_wake_queue`. -/
def UsbHard.isr (h : UsbHard B) (i : Fin maxTxUrb) : UsbHard B :=
  if (h.ring.held i).isNone then h
  else
    { h with
      ring := h.ring.complete i
      completing := if (h.ring.txContext i).priority = .low then h.completing + 1 else h.completing }

/-- `rtl8180_try_wake_queue`, if a callback has come to it. -/
def tryWakeQueue (image : SkBuff → ℕ → B → B) (env : Env) (s : TxSide P (UsbHard B)) :
    TxSide P (UsbHard B) :=
  if s.hard.completing = 0 then s
  else
    let s := { s with hard := { s.hard with completing := s.hard.completing - 1 } }
    if s.hard.ring.enoughDesc .low then s.wakeQueue (rtl8180HardDataXmit image) env else s

def usbStep (image : SkBuff → ℕ → B → B) (s : TxSide P (UsbHard B)) :
    UsbEvent P → TxSide P (UsbHard B)
  | .xmit env skb => s.xmit env skb
  | .handOff env => s.handOff (rtl8180HardDataXmit image) env
  | .mgmtXmit env skb => s.mgmtXmit (rtl8180HardDataXmit image) env skb
  | .psMgmtXmit env skb => s.psMgmtXmit (rtl8180HardDataXmit image) env skb
  | .disassociate => s.disassociate
  | .configure d => s.configure d
  | .radio off => { s with hard := { s.hard with radioOff := off } }
  | .complete i => { s with hard := s.hard.isr i }
  | .tryWakeQueue env => tryWakeQueue image env s

/-- The kernel calls `ieee80211_xmit` while its queue is awake, and not before the
last call has returned. -/
def UsbCalled (s : TxSide P (UsbHard B)) : UsbEvent P → Prop
  | .xmit _ _ => s.netStopped = false ∧ s.sending = none
  | _ => True

/-- No raw frame is without memory, and no association ends under a stopped queue. -/
def KeepsStop (s : TxSide P (UsbHard B)) : UsbEvent P → Prop
  | .xmit env skb => ¬ RawFails env s.dev skb
  | .disassociate => s.netStopped = false
  | _ => True

/-- The interface has just come up. -/
structure Up (s : TxSide P (UsbHard B)) : Prop where
  netStopped : s.netStopped = false
  queueStop : s.dev.queueStop = false
  txPending : s.dev.txPending = none
  sending : s.sending = none
  counter : s.dev.txPendingTxb ≤ 0
  ring : LowOnly s.hard.ring

/-- A stopped queue will be woken: `queue_stop` is set, and a callback that will
wake the queue is still to come. -/
def QueueWakes (s : TxSide P (UsbHard B)) : Prop :=
  s.netStopped = true → s.dev.queueStop = true ∧
    1 ≤ Slots.count s.hard.ring.held .low + s.hard.completing

/-! ### Runs -/

section

variable {image : SkBuff → ℕ → B → B} {s : TxSide P (UsbHard B)} {e : UsbEvent P}

/-- What every step keeps. -/
structure Woken (s : TxSide P (UsbHard B)) : Prop where
  orderly : Orderly UsbOk Owed s
  netOk : NetOk s

theorem Woken.queueWakes (h : Woken s) : QueueWakes s := by
  intro hnet
  have hstop := h.netOk hnet
  have howed := (h.orderly.stopOk.stop hstop).2
  unfold Owed at howed
  rw [h.orderly.stopOk.hard.counted] at howed
  have hurbs : (maxTxUrb : ℤ) = 16 := rfl
  exact ⟨hstop, by omega⟩

theorem woken_up (h : Up s) : Woken s := by
  refine ⟨⟨⟨h.ring, fun hs => ?_⟩, fun hp => ?_, Or.inl h.sending, ?_⟩, fun hn => ?_⟩
  · rw [h.queueStop] at hs
    cases hs
  · rw [h.txPending] at hp
    cases hp
  · rw [h.sending]
    exact h.counter
  · rw [h.netStopped] at hn
    cases hn

theorem woken_handing {s' : TxSide P (UsbHard B)} {sent : List SkBuff} (h : Woken s)
    (hh : Handing (rtl8180HardDataXmit image) sent s' s) : Woken s' :=
  ⟨h.orderly.handing (hardRules_usb image) hh, hh.netOk h.netOk⟩

theorem woken_xmit (h : Woken s) {env : Env} {skb : SkBuff} (hcall : UsbCalled s (.xmit env skb))
    (hmem : ¬ RawFails env s.dev skb) : Woken (s.xmit env skb) := by
  refine ⟨h.orderly.xmit env skb hcall, ?_⟩
  have hout := s.xmit_outcome env skb
  generalize s.xmit env skb = s' at hout ⊢
  have hnet : ∀ t : TxSide P (UsbHard B), t.netStopped = s.netStopped → NetOk t := by
    intro t ht hn
    rw [ht, hcall.1] at hn
    cases hn
  cases hout with
  | ignored => exact h.netOk
  | failed hwhy =>
    -- the pool is never full
    have hcount := h.orderly.counter
    rw [hcall.2] at hcount
    have hzero : s.dev.txPendingTxb ≤ 0 := hcount
    have hpool : (maxTxSkb : ℤ) = 16 := rfl
    rcases hwhy with hraw | hfull
    · exact absurd hraw hmem
    · omega
  | raw txb frags hraw hfrags => exact hnet _ rfl
  | cooked txb d hraw hp hstop hc ha => exact hnet _ rfl

theorem netOk_handOff (h : NetOk s) (hpend : s.sending = none ∨ s.dev.txPending = none) (env : Env) :
    NetOk (s.handOff (rtl8180HardDataXmit image) env) := by
  unfold TxSide.handOff
  cases hsend : s.sending with
  | none => exact h
  | some t =>
    have hnone : s.dev.txPending = none := hpend.resolve_left (hsend ▸ Option.some_ne_none t)
    obtain ⟨sent, pend, t', hhand, -, heq⟩ :=
      TxSide.softmacXmit_spec (rtl8180HardDataXmit image) env { s with sending := none } t.1 t.2 hnone
    have hnet : NetOk t' := hhand.netOk h
    dsimp only
    rw [heq]
    exact hnet

theorem woken_disassociate (h : Woken s) (hawake : s.netStopped = false) : Woken s.disassociate := by
  have hnet : s.disassociate.netStopped = false := by
    unfold TxSide.disassociate
    split_ifs <;> exact hawake
  refine ⟨?_, fun hn => ?_⟩
  · unfold TxSide.disassociate
    split_ifs
    · have hreset := h.orderly.resetQueue
      exact ⟨⟨hreset.stopOk.hard, hreset.stopOk.stop⟩, hreset.parked, hreset.single, hreset.counter⟩
    · exact ⟨⟨h.orderly.stopOk.hard, h.orderly.stopOk.stop⟩, h.orderly.parked, h.orderly.single,
        h.orderly.counter⟩
  · rw [hnet] at hn
    cases hn

theorem woken_complete (h : Woken s) (i : Fin maxTxUrb) :
    Woken { s with hard := s.hard.isr i } := by
  have hhard := h.orderly.stopOk.hard
  unfold UsbHard.isr
  by_cases hi : (s.hard.ring.held i).isNone = true
  · rw [if_pos hi]
    exact h
  rw [if_neg hi]
  have hcount := complete_pending hhard (fun hn => hi (Option.isNone_iff_eq_none.mpr hn))
  refine ⟨⟨⟨lowOnly_complete hhard i, fun hs => ⟨(h.orderly.stopOk.stop hs).1, ?_⟩⟩,
    h.orderly.parked, h.orderly.single, h.orderly.counter⟩, h.netOk⟩
  have howed := (h.orderly.stopOk.stop hs).2
  unfold Owed at howed ⊢
  dsimp only
  rw [if_pos (hhard.callback i), hcount]
  push_cast
  omega

theorem woken_tryWakeQueue (h : Woken s) (env : Env) : Woken (tryWakeQueue image env s) := by
  unfold tryWakeQueue
  by_cases hzero : s.hard.completing = 0
  · rw [if_pos hzero]
    exact h
  rw [if_neg hzero]
  dsimp only
  set s' : TxSide P (UsbHard B) :=
    { s with hard := { s.hard with completing := s.hard.completing - 1 } } with hs'
  have hany : Orderly UsbOk (fun _ => True) s' :=
    ⟨⟨h.orderly.stopOk.hard, fun hs => ⟨(h.orderly.stopOk.stop hs).1, trivial⟩⟩,
      h.orderly.parked, h.orderly.single, h.orderly.counter⟩
  by_cases henough : s'.hard.ring.enoughDesc .low = true
  · rw [if_pos henough]
    refine ⟨hany.wakeQueue (hardRules_usb image) env, ?_⟩
    by_cases hq : s'.dev.queueStop = true
    case neg =>
      rw [TxSide.wakeQueue, if_pos hq]
      exact h.netOk
    obtain ⟨sent, pend, t, -, -, -, -, heq⟩ :=
      TxSide.wakeQueue_spec (rtl8180HardDataXmit image) env s' hq
    rw [heq]
    intro hnet
    exact (Bool.and_eq_true_iff.mp hnet).1
  · -- as many URBs are still in flight as there are
    rw [if_neg henough]
    refine ⟨⟨⟨h.orderly.stopOk.hard, fun hs => ⟨(h.orderly.stopOk.stop hs).1, ?_⟩⟩,
      h.orderly.parked, h.orderly.single, h.orderly.counter⟩, h.netOk⟩
    have hfull : (maxTxUrb : ℤ) ≤ s.hard.ring.pending .low := by
      simpa [TxRing.enoughDesc] using henough
    change (maxTxUrb : ℤ) ≤ s.hard.ring.pending .low + ((s.hard.completing - 1 : ℕ) : ℤ)
    omega

/-- One step keeps what wakes the queue. -/
theorem woken_step (h : Woken s) (hcall : UsbCalled s e) (hstop : KeepsStop s e) :
    Woken (usbStep image s e) := by
  have hr := hardRules_usb image
  cases e with
  | xmit env skb => exact woken_xmit h hcall hstop
  | handOff env =>
    exact ⟨h.orderly.handOff hr env, netOk_handOff h.netOk h.orderly.single env⟩
  | mgmtXmit env skb => exact woken_handing h (TxSide.mgmtXmit_handing _ env s skb)
  | psMgmtXmit env skb => exact woken_handing h (TxSide.psMgmtXmit_handing _ env s skb)
  | disassociate => exact woken_disassociate h hstop
  | configure d => exact ⟨h.orderly.configure d h.orderly.stopOk.hard id, h.netOk⟩
  | radio off =>
    exact ⟨⟨⟨h.orderly.stopOk.hard, h.orderly.stopOk.stop⟩, h.orderly.parked, h.orderly.single,
      h.orderly.counter⟩, h.netOk⟩
  | complete i => exact woken_complete h i
  | tryWakeQueue env => exact woken_tryWakeQueue h env

end

/-- **No stuck queue.** In a run that does not end an association under a stopped
queue, and has memory for its raw frames, a stopped queue is always woken. -/
theorem queue_wakes (image : SkBuff → ℕ → B → B) (s : TxSide P (UsbHard B)) (is : List (UsbEvent P))
    (hs : Up s)
    (hrun : Run.AllSteps (usbStep image) (fun s e => UsbCalled s e ∧ KeepsStop s e) s is) :
    QueueWakes (Run.run (usbStep image) s is) :=
  (Run.inv_run (fun _ _ h hok => woken_step h hok.1 hok.2) s is (woken_up hs) hrun).queueWakes

/-- A station without keys whose interface has come up. -/
def upSide : TxSide Unit (UsbHard Unit) where
  dev := Device.init Unit ⟨250, true⟩ ⟨2, 0, 0, 0, 0, 1⟩
  hard := ⟨.init fun _ => (), false, 0, fun _ => true, 0⟩
  netStopped := false
  sending := none
  pendingEntry := none
  accepted := []
  given := []

theorem upSide_up : Up upSide where
  netStopped := rfl
  queueStop := rfl
  txPending := rfl
  sending := rfl
  counter := le_rfl
  ring := ⟨fun _ => rfl, fun i p h => (Option.some_ne_none p h.symm).elim, by decide +kernel⟩

theorem smallFrame_wakes : QueueWakes (Run.run (usbStep fun _ _ b => b) upSide
    [.xmit stillEnv smallFrame, .handOff stillEnv, .complete 0, .tryWakeQueue stillEnv]) :=
  queue_wakes _ _ _ upSide_up
    ⟨⟨⟨rfl, rfl⟩, fun h => Bool.false_ne_true h.2.1⟩, ⟨trivial, trivial⟩, ⟨trivial, trivial⟩,
      ⟨trivial, trivial⟩, trivial⟩

/-- An association ends with sixteen frames in flight: `queue_stop` is cleared, and
the kernel's queue stays stopped. -/
theorem disassociate_stuck :
    ¬ ∀ (image : SkBuff → ℕ → Unit → Unit) (s : TxSide Unit (UsbHard Unit)) (is : List (UsbEvent Unit)),
      Up s → Run.AllSteps (usbStep image) UsbCalled s is →
        QueueWakes (Run.run (usbStep image) s is) := by
  intro h
  let is : List (UsbEvent Unit) := List.replicate 16 (.mgmtXmit stillEnv smallFrame) ++ [.disassociate]
  have hcalled : Run.AllSteps (usbStep fun _ _ b => b) UsbCalled upSide is := by
    refine Run.allSteps_append.mpr ⟨?_, trivial, trivial⟩
    exact (Run.allSteps_of_forall (P := fun e => ∃ env skb, e = .mgmtXmit env skb) _ fun e he =>
      ⟨_, _, List.eq_of_mem_replicate he⟩).imp fun s e he => by
        obtain ⟨env, skb, rfl⟩ := he
        trivial
  have hwakes := h _ _ _ upSide_up hcalled
  have hnet : (Run.run (usbStep fun _ _ b => b) upSide is).netStopped = true := by decide +kernel
  have hstop := (hwakes hnet).1
  revert hstop
  decide +kernel

end Rtl8187

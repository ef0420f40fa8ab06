/-
# The transmit queue, with the locks

`ieee80211_xmit` makes its TXB with `ieee->lock` held and lets go of it, on each
of its ways, before `ieee80211_softmac_xmit` takes it again. `ieee80211_resume_tx`
is called with the lock held, by `ieee80211_wake_queue`; the driver's callback, to
which all of them hand their frames, takes the lock of the driver alone.

Key definitions: `Locked.softmacXmit`, `Locked.xmit`, `Locked.wakeQueue`.
Key theorems: `Locked.handLoop_runs`, `Locked.xmit_keeps`, `Locked.wakeQueue_keeps`.
-/
import Rtl8187.LockedWorks
import Rtl8187.TxQueue

namespace Rtl8187

open Locks Call

variable {P H : Type}

namespace Locked

variable (hx : HardXmit H) (env : Env)

/-- A frame is handed to the hardware by `rtl8180_hard_data_xmit`. -/
def dataHardXmit (skb : SkBuff) (rate : ℕ) : Call SpinLock (TxSide P H) Unit :=
  locked .tx (act fun s => s.dataHardXmit hx skb rate)

/-- A fragment is handed to the hardware. -/
def handFragment (frag : SkBuff) : Call SpinLock (TxSide P H) Unit := do
  let s ← read
  dataHardXmit hx frag s.dev.rate
  act fun s => { s.stampTrans env with given := s.given ++ [frag] }

/-- The loop over the fragments from `i` on with `n` to go: the fragment at which
the queue was found stopped, if any. -/
def handLoop (frags : ℕ → SkBuff) : (n i : ℕ) → Call SpinLock (TxSide P H) (Option ℕ)
  | 0, _ => pure none
  | n + 1, i => do
    let s ← read
    if s.dev.queueStop then pure (some i)
    else
      handFragment hx env (frags i)
      handLoop frags n (i + 1)

/-- The fragments of a TXB are handed on, and the TXB kept if some are left over. -/
def handTxb (txb : Txb) (entry : Option (Fin maxTxSkb)) : Call SpinLock (TxSide P H) Unit := do
  let left ← handLoop hx env txb.fragments txb.nrFrags 0
  match left with
  | none => pure ()
  | some i => act fun s => { s with dev := { s.dev with txPending := some (txb, i) }, pendingEntry := entry }

/-- `ieee80211_softmac_xmit` -/
def softmacXmit (txb : Txb) (entry : Option (Fin maxTxSkb)) : Call SpinLock (TxSide P H) Unit :=
  locked .ieee (do
    let s ← read
    (if s.dev.queueStop ∧ s.dev.txPending.isSome then pure ()
    else do
      act fun s => s.mapDev Device.staWakeup
      handTxb hx env txb entry)
    act fun s => s.mapDev fun d => { d with txPendingTxb := d.txPendingTxb - 1 })

/-- `ieee80211_resume_tx`, called with the lock held. -/
def resumeTx : Call SpinLock (TxSide P H) Unit := do
  let s ← read
  match s.dev.txPending with
  | none => pure ()
  | some (txb, frag) =>
    let left ← handLoop hx env txb.fragments (txb.nrFrags - frag) frag
    act fun s => s.mapDev fun d => { d with txPending := left.map fun i => (txb, i) }

/-- The loop of `ieee80211_wake_queue` over the management queue. -/
def drainMgmt : ℕ → Call SpinLock (TxSide P H) Unit
  | 0 => pure ()
  | fuel + 1 => do
    let s ← read
    if s.dev.queueStop then pure ()
    else
      match s.dev.mgmtQueue.dequeueMgmt with
      | (none, q) => act fun s => s.mapDev fun d => { d with mgmtQueue := q }
      | (some skb, q) =>
        act fun s => (s.mapDev fun d => { d with mgmtQueue := q }).nextSeq
        dataHardXmit hx (skb.setSeqCtl s.dev.seqCtrl) s.dev.basicRate
        drainMgmt fuel

/-- `ieee80211_wake_queue` -/
def wakeQueue : Call SpinLock (TxSide P H) Unit :=
  locked .ieee (do
    let s ← read
    if ¬ s.dev.queueStop then pure ()
    else
      act fun s => s.mapDev fun d => { d with queueStop := false }
      let s ← read
      onlyIf s.dev.softmacFeatures.singleQueue (drainMgmt hx mgmtQueueNum)
      let s ← read
      onlyIf (¬ s.dev.queueStop ∧ s.dev.txPending.isSome) (resumeTx hx env)
      let s ← read
      onlyIf (¬ s.dev.queueStop ∧ s.netStopped) (act fun s => { s with netStopped := false }))

/-- `rtl8180_try_wake_queue`; `enoughDesc` is what `check_nic_enought_desc` answers. -/
def tryWakeQueue (enoughDesc : Bool) : Call SpinLock (TxSide P H) Unit := do
  acquire .tx
  release .tx
  onlyIf enoughDesc (wakeQueue hx env)

/-- `ieee80211_xmit` -/
def xmit (skb : SkBuff) : Call SpinLock (TxSide P H) Unit := do
  acquire .ieee
  let s ← read
  match xmitTxb env s.dev skb with
  | (0, none, d) =>
    act fun s => { s with dev := d }
    release .ieee
  | (0, some txb, d) =>
    act fun s => { s with dev := d, accepted := s.accepted ++ [TxSide.madeFragments s.dev txb] }
    release .ieee
    softmacXmit hx env txb (if s.dev.rawTx then none else some s.dev.txSkbIndex)
  | (_ + 1, _, d) =>
    act fun s => { s with dev := d }
    release .ieee
    act fun s => { s with netStopped := true }

theorem dataHardXmit_passes (skb : SkBuff) (rate : ℕ) :
    Passes .ieee (dataHardXmit hx skb rate) fun s : TxSide P H => s.dataHardXmit hx skb rate :=
  fun _ _ => .locked_of_ne (by decide) (.act _)

/-- The loop does not come to the lock, whether it is held or not. -/
theorem handLoop_runs (frags : ℕ → SkBuff) (held : Bool) : ∀ (n i : ℕ) (s : TxSide P H),
    Runs .ieee (handLoop hx env frags n i) s held (TxSide.handLoop hx env frags n i s).1
      (TxSide.handLoop hx env frags n i s).2 held
  | 0, _, _ => .pure none
  | n + 1, i, s => by
    have hfrag : Runs .ieee (handFragment hx env (frags i)) s held () (s.handFragment hx env (frags i)) held :=
      .bind .read (.bind (dataHardXmit_passes hx _ _ s held) (.act _))
    have ih := handLoop_runs frags held n (i + 1) (s.handFragment hx env (frags i))
    unfold handLoop TxSide.handLoop
    exact .bind .read (.iteGives (fun _ => .pure (some i)) fun _ => .bind hfrag ih)

theorem softmacXmit_keeps (txb : Txb) (entry : Option (Fin maxTxSkb)) :
    Keeps .ieee (softmacXmit hx env txb entry) fun s : TxSide P H => s.softmacXmit hx env txb entry := by
  intro s
  unfold softmacXmit TxSide.softmacXmit
  refine .locked (.bind .read (.bind (.ite (fun _ => .pure ()) fun _ => .bind (.act _) ?_) (.act _)))
  -- the fragments, and what is left of them
  refine .bind (handLoop_runs hx env txb.fragments true _ 0 _) ?_
  rcases TxSide.handLoop hx env txb.fragments txb.nrFrags 0 _ with ⟨left, s'⟩
  rcases left with _ | i
  · exact .pure ()
  · exact .act _

theorem resumeTx_runs (s : TxSide P H) : Runs .ieee (resumeTx hx env) s true () (s.resumeTx hx env) true := by
  unfold resumeTx TxSide.resumeTx
  refine .bind .read ?_
  cases s.dev.txPending with
  | none => exact .pure ()
  | some pending =>
    have hloop := handLoop_runs hx env pending.1.fragments true (pending.1.nrFrags - pending.2) pending.2 s
    dsimp only
    cases hleft : TxSide.handLoop hx env pending.1.fragments (pending.1.nrFrags - pending.2) pending.2 s with
    | mk left s' =>
      rw [hleft] at hloop
      refine .bind hloop ?_
      cases left with
      | none => exact .act _
      | some i => exact .act _

theorem drainMgmt_runs : ∀ (fuel : ℕ) (s : TxSide P H),
    Runs .ieee (drainMgmt hx fuel) s true () (s.drainMgmt hx fuel) true
  | 0, _ => .pure ()
  | fuel + 1, s => by
    unfold drainMgmt TxSide.drainMgmt
    refine .bind .read (.ite (fun _ => .pure ()) fun _ => ?_)
    cases s.dev.mgmtQueue.dequeueMgmt with
    | mk skb q =>
      cases skb with
      | none => exact .act _
      | some skb => exact .bind (.act _) (.bind (dataHardXmit_passes hx _ _ _ true) (drainMgmt_runs fuel _))

/-- **Wake queue.** Whatever waits is handed on with the lock held, and then it is let go of. -/
theorem wakeQueue_keeps : Keeps .ieee (wakeQueue hx env) fun s : TxSide P H => s.wakeQueue hx env := by
  intro s
  unfold wakeQueue TxSide.wakeQueue
  refine .locked (.bind .read (.ite (fun _ => .pure ()) fun _ => ?_))
  refine .bind (.act _) (.bind .read (.bind (.onlyIf fun _ => drainMgmt_runs hx _ _) ?_))
  exact .bind .read (.bind (.onlyIf fun _ => resumeTx_runs hx env _) (.bind .read (.onlyIf fun _ => .act _)))

theorem tryWakeQueue_keeps (enoughDesc : Bool) :
    Keeps .ieee (tryWakeQueue hx env enoughDesc) fun s : TxSide P H =>
      if enoughDesc then s.wakeQueue hx env else s :=
  fun s => .bind (.acquire_of_ne (by decide)) (.bind (.release_of_ne (by decide))
    (.onlyIf fun _ => wakeQueue_keeps hx env s))

/-- **Data transmit.** No TXB is on its way when the kernel calls. -/
theorem xmit_runs (skb : SkBuff) (s : TxSide P H) (hsending : s.sending = none) :
    Runs .ieee (xmit hx env skb) s false () ((s.xmit env skb).handOff hx env) false := by
  obtain ⟨dev, hard, netStopped, sending, pendingEntry, accepted, given⟩ := s
  subst hsending
  unfold xmit TxSide.xmit
  refine .bind .acquire (.bind .read ?_)
  obtain ⟨ret, txb, d⟩ := xmitTxb env dev skb
  cases ret with
  | zero =>
    cases txb with
    | none => exact .bind (.act _) .release
    | some txb => exact .bind (.act _) (.bind .release (softmacXmit_keeps hx env txb _ _))
  | succ n => exact .bind (.act _) (.bind .release (.act _))

end Locked

end Rtl8187

/-
# The transmit queue

The transmit side of the soft-MAC (`ieee80211_tx.c`, `ieee80211_softmac.c`) with
what lies above and below it: the kernel's queue, which is stopped or awake, and
the hardware, which may stop it with any frame it is handed. A TXB is made by
`ieee80211_xmit`, which lets go of `ieee->lock` before
`ieee80211_softmac_xmit` takes it again; a fragment the hardware does not want
yet leaves its TXB in `tx_pending`, from where `ieee80211_wake_queue` takes it up.

`Handing` is what holds when frames have been handed on: only the stop flags and
the hardware have moved.

Key definitions: `TxSide`, `softmacXmit`, `resumeTx`, `wakeQueue`, `TxSide.step`,
`TxSide.Called`, `Handing`.
Key theorems: `handLoop_handing`, `handLoop_given`, `drainMgmt_ends`, `xmitTxb_cases`.
-/
import Rtl8187.Tx
import Rtl8187.Lib.Run

namespace Rtl8187

variable {P H : Type}

/-- `softmac_data_hard_start_xmit`: whether it stops the queue, and the hardware
after it. -/
abbrev HardXmit (H : Type) := H → SkBuff → ℕ → Bool × H

structure TxSide (P H : Type) where
  dev : Device P
  hard : H
  /-- `netif_queue_stopped` -/
  netStopped : Bool
  /-- The TXB `ieee80211_xmit` has made and not handed on yet, with its entry of
  the pool. A TXB for a raw frame is not from the pool. -/
  sending : Option (Txb × Option (Fin maxTxSkb))
  /-- The entry of `tx_pending.txb`. -/
  pendingEntry : Option (Fin maxTxSkb)
  /-- The fragments of each TXB made, in order. -/
  accepted : List (List SkBuff)
  /-- The fragments handed to the hardware, in order. -/
  given : List SkBuff

namespace TxSide

/-- A change of the device alone. -/
def mapDev (f : Device P → Device P) (s : TxSide P H) : TxSide P H := { s with dev := f s.dev }

/-- The next management frame gets the next sequence number. -/
def nextSeq (s : TxSide P H) : TxSide P H :=
  s.mapDev fun d => { d with seqCtrl := Device.nextSeqCtrl d.seqCtrl }

/-- `dev->trans_start = jiffies` -/
def stampTrans (env : Env) (s : TxSide P H) : TxSide P H :=
  s.mapDev fun d => { d with transStart := env.now }

/-- `ieee80211_stop_queue` -/
def stopQueue (s : TxSide P H) : TxSide P H :=
  { s with netStopped := true, dev := { s.dev with queueStop := true } }

variable (hx : HardXmit H)

/-- A frame is handed to the hardware. -/
def dataHardXmit (s : TxSide P H) (skb : SkBuff) (rate : ℕ) : TxSide P H :=
  let out := hx s.hard skb rate
  let s := { s with hard := out.2, dev := { s.dev with handed := s.dev.handed ++ [.data skb rate] } }
  if out.1 then s.stopQueue else s

/-- A fragment is handed to the hardware. -/
def handFragment (env : Env) (s : TxSide P H) (frag : SkBuff) : TxSide P H :=
  let s := (s.dataHardXmit hx frag s.dev.rate).stampTrans env
  { s with given := s.given ++ [frag] }

/-- The loop over the fragments from `i` on with `n` to go: the fragment at which
the queue was found stopped, if any. -/
def handLoop (env : Env) (frags : ℕ → SkBuff) : (n i : ℕ) → TxSide P H → Option ℕ × TxSide P H
  | 0, _, s => (none, s)
  | n + 1, i, s =>
    if s.dev.queueStop then (some i, s)
    else handLoop env frags n (i + 1) (s.handFragment hx env (frags i))

/-- `ieee80211_softmac_xmit` -/
def softmacXmit (env : Env) (s : TxSide P H) (txb : Txb) (entry : Option (Fin maxTxSkb)) :
    TxSide P H :=
  let s' :=
    if s.dev.queueStop ∧ s.dev.txPending.isSome then s
    else
      match handLoop hx env txb.fragments txb.nrFrags 0 (s.mapDev Device.staWakeup) with
      | (none, s) => s
      | (some i, s) => { s with dev := { s.dev with txPending := some (txb, i) }, pendingEntry := entry }
  s'.mapDev fun d => { d with txPendingTxb := d.txPendingTxb - 1 }

/-- `ieee80211_resume_tx` -/
def resumeTx (env : Env) (s : TxSide P H) : TxSide P H :=
  match s.dev.txPending with
  | none => s
  | some (txb, frag) =>
    match handLoop hx env txb.fragments (txb.nrFrags - frag) frag s with
    | (none, s) => s.mapDev fun d => { d with txPending := none }
    | (some i, s) => s.mapDev fun d => { d with txPending := some (txb, i) }

/-- The loop of `ieee80211_wake_queue` over the management queue. -/
def drainMgmt : ℕ → TxSide P H → TxSide P H
  | 0, s => s
  | fuel + 1, s =>
    if s.dev.queueStop then s
    else
      match s.dev.mgmtQueue.dequeueMgmt with
      | (none, q) => s.mapDev fun d => { d with mgmtQueue := q }
      | (some skb, q) =>
        let dequeued := s.mapDev fun d => { d with mgmtQueue := q }
        drainMgmt fuel (dequeued.nextSeq.dataHardXmit hx (skb.setSeqCtl s.dev.seqCtrl) s.dev.basicRate)

/-- `ieee80211_wake_queue` -/
def wakeQueue (env : Env) (s : TxSide P H) : TxSide P H :=
  if ¬ s.dev.queueStop then s
  else
    let s := s.mapDev fun d => { d with queueStop := false }
    let s := if s.dev.softmacFeatures.singleQueue then drainMgmt hx mgmtQueueNum s else s
    let s := if ¬ s.dev.queueStop ∧ s.dev.txPending.isSome then resumeTx hx env s else s
    if ¬ s.dev.queueStop ∧ s.netStopped then { s with netStopped := false } else s

/-- `ieee80211_reset_queue` -/
def resetQueue (s : TxSide P H) : TxSide P H :=
  s.mapDev fun d =>
    { d with mgmtQueue := d.mgmtQueue.resetQueue.2, txPending := none, queueStop := false }

/-- `softmac_mgmt_xmit` -/
def mgmtXmit (env : Env) (s : TxSide P H) (skb : SkBuff) : TxSide P H :=
  let s := s.mapDev Device.staWakeup
  let skb' := skb.setSeqCtl s.dev.seqCtrl
  if s.dev.softmacFeatures.singleQueue then
    if s.dev.queueStop then s.mapDev fun d => { d with mgmtQueue := (d.mgmtQueue.enqueueMgmt skb).2 }
    else (s.nextSeq.stampTrans env).dataHardXmit hx skb' s.dev.basicRate
  else s.nextSeq.mapDev fun d => { d with handed := d.handed ++ [.mgmt skb'] }

/-- `softmac_ps_mgmt_xmit`, which does not look whether the queue is stopped. -/
def psMgmtXmit (env : Env) (s : TxSide P H) (skb : SkBuff) : TxSide P H :=
  let skb' := skb.setSeqCtl s.dev.seqCtrl
  if s.dev.softmacFeatures.singleQueue then
    (s.nextSeq.stampTrans env).dataHardXmit hx skb' s.dev.basicRate
  else s.nextSeq.mapDev fun d => { d with handed := d.handed ++ [.mgmt skb'] }

/-- The fragments `ieee80211_xmit` put into the TXB it made: a raw frame is one. -/
def madeFragments (d : Device P) (txb : Txb) : List SkBuff :=
  (List.range (if d.rawTx then 1 else txb.nrFrags)).map txb.fragments

/-- `ieee80211_xmit` up to its hand-off. -/
def xmit (env : Env) (s : TxSide P H) (skb : SkBuff) : TxSide P H :=
  match xmitTxb env s.dev skb with
  | (0, none, d) => { s with dev := d }
  | (0, some txb, d) =>
    { s with
      dev := d
      sending := some (txb, if s.dev.rawTx then none else some s.dev.txSkbIndex)
      accepted := s.accepted ++ [madeFragments s.dev txb] }
  | (_ + 1, _, d) => { s with dev := d, netStopped := true }

/-- The hand-off of `ieee80211_xmit`. -/
def handOff (env : Env) (s : TxSide P H) : TxSide P H :=
  match s.sending with
  | none => s
  | some (txb, entry) => softmacXmit hx env { s with sending := none } txb entry

/-- The rest of the driver has changed the device into `d`: the transmit side is
as it was. -/
def configure (s : TxSide P H) (d : Device P) : TxSide P H :=
  s.mapDev fun d' => { d with
    allocTxb := d'.allocTxb
    txSkbIndex := d'.txSkbIndex
    txPendingTxb := d'.txPendingTxb
    txPending := d'.txPending
    queueStop := d'.queueStop
    mgmtQueue := d'.mgmtQueue
    handed := d'.handed }

end TxSide

/-- What may happen to the transmit side. -/
inductive TxEvent (P H : Type) where
  | xmit (env : Env) (skb : SkBuff)
  | handOff (env : Env)
  | mgmtXmit (env : Env) (skb : SkBuff)
  | psMgmtXmit (env : Env) (skb : SkBuff)
  | stopQueue
  | wakeQueue (env : Env)
  | resetQueue
  /-- The rest of the driver, or the hardware by itself. -/
  | other (d : Device P) (hard : H)

namespace TxSide

def step (hx : HardXmit H) (s : TxSide P H) : TxEvent P H → TxSide P H
  | .xmit env skb => s.xmit env skb
  | .handOff env => s.handOff hx env
  | .mgmtXmit env skb => s.mgmtXmit hx env skb
  | .psMgmtXmit env skb => s.psMgmtXmit hx env skb
  | .stopQueue => s.stopQueue
  | .wakeQueue env => s.wakeQueue hx env
  | .resetQueue => s.resetQueue
  | .other d hard => { s.configure d with hard := hard }

/-- The kernel calls `ieee80211_xmit` while its queue is awake, and not before the
last call has returned. -/
def Called (s : TxSide P H) : TxEvent P H → Prop
  | .xmit _ _ => s.netStopped = false ∧ s.sending = none
  | _ => True

end TxSide

/-! ### What the hand-off of frames leaves as it was -/

/-- What holds of the hardware whatever it is handed (`I`), and from when it has
stopped the queue (`Q`). -/
structure HardRules (hx : HardXmit H) (I Q : H → Prop) : Prop where
  inv : ∀ h skb rate, I h → I (hx h skb rate).2
  keeps : ∀ h skb rate, I h → Q h → Q (hx h skb rate).2
  stops : ∀ h skb rate, I h → (hx h skb rate).1 = true → Q (hx h skb rate).2

/-- While the soft-MAC has the queue stopped, the kernel has too. -/
structure StopOk (I Q : H → Prop) (s : TxSide P H) : Prop where
  hard : I s.hard
  stop : s.dev.queueStop = true → s.netStopped = true ∧ Q s.hard

/-- The kernel's queue is only stopped while the soft-MAC has it stopped. -/
def NetOk (s : TxSide P H) : Prop := s.netStopped = true → s.dev.queueStop = true

/-- `s'` is `s` after frames were handed on, `sent` being the fragments among
them. -/
structure Handing (hx : HardXmit H) (sent : List SkBuff) (s' s : TxSide P H) : Prop where
  txPending : s'.dev.txPending = s.dev.txPending
  txPendingTxb : s'.dev.txPendingTxb = s.dev.txPendingTxb
  allocTxb : s'.dev.allocTxb = s.dev.allocTxb
  sending : s'.sending = s.sending
  pendingEntry : s'.pendingEntry = s.pendingEntry
  accepted : s'.accepted = s.accepted
  given : s'.given = s.given ++ sent
  queueStop : s.dev.queueStop = true → s'.dev.queueStop = true
  stopOk : ∀ {I Q : H → Prop}, HardRules hx I Q → StopOk I Q s → StopOk I Q s'
  netOk : NetOk s → NetOk s'

namespace Handing

variable {hx : HardXmit H} {sent sent' : List SkBuff} {s s' s'' : TxSide P H}

theorem refl (s : TxSide P H) : Handing hx [] s s :=
  ⟨rfl, rfl, rfl, rfl, rfl, rfl, (List.append_nil _).symm, id, fun _ h => h, id⟩

theorem trans (h : Handing hx sent' s'' s') (h' : Handing hx sent s' s) :
    Handing hx (sent ++ sent') s'' s where
  txPending := h.txPending.trans h'.txPending
  txPendingTxb := h.txPendingTxb.trans h'.txPendingTxb
  allocTxb := h.allocTxb.trans h'.allocTxb
  sending := h.sending.trans h'.sending
  pendingEntry := h.pendingEntry.trans h'.pendingEntry
  accepted := h.accepted.trans h'.accepted
  given := by rw [h.given, h'.given, List.append_assoc]
  queueStop hs := h.queueStop (h'.queueStop hs)
  stopOk hr hs := h.stopOk hr (h'.stopOk hr hs)
  netOk hs := h.netOk (h'.netOk hs)

theorem after (h : Handing hx sent s'' s') (h' : Handing hx [] s' s) : Handing hx sent s'' s :=
  h.trans h'

/-- A change of the device that has nothing to do with the queue. -/
theorem of_dev {f : Device P → Device P} (hp : (f s.dev).txPending = s.dev.txPending)
    (hc : (f s.dev).txPendingTxb = s.dev.txPendingTxb) (ha : (f s.dev).allocTxb = s.dev.allocTxb)
    (hq : (f s.dev).queueStop = s.dev.queueStop) : Handing hx [] (s.mapDev f) s := by
  refine ⟨hp, hc, ha, rfl, rfl, rfl, (List.append_nil _).symm, hq.trans, fun _ hs => ⟨hs.hard, ?_⟩,
    fun hs => ?_⟩
  · intro hstop
    exact hs.stop (hq.symm.trans hstop)
  · intro hnet
    exact hq.trans (hs hnet)

end Handing

namespace TxSide

variable (hx : HardXmit H) (env : Env) (s : TxSide P H)

theorem dataHardXmit_handing (skb : SkBuff) (rate : ℕ) :
    Handing hx [] (s.dataHardXmit hx skb rate) s := by
  unfold dataHardXmit
  dsimp only
  cases hstop : (hx s.hard skb rate).1 with
  | true =>
    refine ⟨rfl, rfl, rfl, rfl, rfl, rfl, (List.append_nil _).symm, fun _ => rfl,
      fun hr hs => ⟨?_, fun _ => ⟨rfl, ?_⟩⟩, fun _ _ => rfl⟩
    · exact hr.inv _ _ _ hs.hard
    · exact hr.stops _ _ _ hs.hard hstop
  | false =>
    refine ⟨rfl, rfl, rfl, rfl, rfl, rfl, (List.append_nil _).symm, id,
      fun hr hs => ⟨?_, fun hq => ?_⟩, fun hs => hs⟩
    · exact hr.inv _ _ _ hs.hard
    · exact ⟨(hs.stop hq).1, hr.keeps _ _ _ hs.hard (hs.stop hq).2⟩

theorem nextSeq_handing : Handing hx [] s.nextSeq s := .of_dev rfl rfl rfl rfl

theorem stampTrans_handing : Handing hx [] (s.stampTrans env) s := .of_dev rfl rfl rfl rfl

theorem staWakeup_handing : Handing hx [] (s.mapDev Device.staWakeup) s := by
  have hsame : s.dev.staWakeup.txPending = s.dev.txPending ∧
      s.dev.staWakeup.txPendingTxb = s.dev.txPendingTxb ∧
      s.dev.staWakeup.allocTxb = s.dev.allocTxb ∧ s.dev.staWakeup.queueStop = s.dev.queueStop := by
    unfold Device.staWakeup Device.queueWork
    dsimp only
    split_ifs <;> exact ⟨rfl, rfl, rfl, rfl⟩
  exact .of_dev hsame.1 hsame.2.1 hsame.2.2.1 hsame.2.2.2

theorem mgmtXmit_handing (skb : SkBuff) : Handing hx [] (s.mgmtXmit hx env skb) s := by
  unfold mgmtXmit
  dsimp only
  split_ifs
  · exact (Handing.of_dev rfl rfl rfl rfl).after (staWakeup_handing hx s)
  · exact (dataHardXmit_handing hx _ _ _).after
      ((stampTrans_handing hx env _).after ((nextSeq_handing hx _).after (staWakeup_handing hx s)))
  · exact (Handing.of_dev rfl rfl rfl rfl).after
      ((nextSeq_handing hx _).after (staWakeup_handing hx s))

theorem psMgmtXmit_handing (skb : SkBuff) : Handing hx [] (s.psMgmtXmit hx env skb) s := by
  unfold psMgmtXmit
  dsimp only
  split_ifs
  · exact (dataHardXmit_handing hx _ _ _).after
      ((stampTrans_handing hx env _).after (nextSeq_handing hx s))
  · exact (Handing.of_dev rfl rfl rfl rfl).after (nextSeq_handing hx s)

theorem drainMgmt_handing : ∀ (fuel : ℕ) (s : TxSide P H), Handing hx [] (drainMgmt hx fuel s) s
  | 0, s => .refl s
  | fuel + 1, s => by
    unfold drainMgmt
    split_ifs
    · exact .refl s
    · split
      · exact .of_dev rfl rfl rfl rfl
      · exact (drainMgmt_handing fuel _).after
          ((dataHardXmit_handing hx _ _ _).after
            ((nextSeq_handing hx _).after (.of_dev rfl rfl rfl rfl)))

/-- The loop over the management queue has ended when its turns are used up. -/
theorem drainMgmt_ends : ∀ (fuel : ℕ) (s : TxSide P H),
    (s.dev.mgmtQueue.head - s.dev.mgmtQueue.tail).val < fuel →
      drainMgmt hx (fuel + 1) s = drainMgmt hx fuel s
  | 0, _, h => absurd h (Nat.not_lt_zero _)
  | fuel + 1, s, h => by
    rw [drainMgmt]
    conv_rhs => rw [drainMgmt]
    by_cases hstop : s.dev.queueStop = true
    · rw [if_pos hstop, if_pos hstop]
    rw [if_neg hstop, if_neg hstop]
    by_cases hempty : s.dev.mgmtQueue.tail = s.dev.mgmtQueue.head
    · rw [MgmtQueue.dequeueMgmt, if_pos hempty]
    · rw [MgmtQueue.dequeueMgmt, if_neg hempty]
      cases hslot : s.dev.mgmtQueue.ring s.dev.mgmtQueue.tail with
      | none => rfl
      | some skb =>
        apply drainMgmt_ends
        have hlt := MgmtQueue.sub_succ_lt _ _ hempty
        have hqueue : ∀ (t : TxSide P H) (skb : SkBuff) (rate : ℕ),
            (t.dataHardXmit hx skb rate).dev.mgmtQueue = t.dev.mgmtQueue := by
          intro t skb rate
          unfold dataHardXmit
          dsimp only
          split_ifs <;> rfl
        rw [hqueue]
        change (s.dev.mgmtQueue.head - (s.dev.mgmtQueue.tail + 1)).val < fuel
        omega

/-! ### The loop over the fragments -/

theorem handFragment_handing (frag : SkBuff) :
    Handing hx [frag] (s.handFragment hx env frag) s := by
  have hdata := (stampTrans_handing hx env _).after (dataHardXmit_handing hx s frag s.dev.rate)
  have hgiven := hdata.given
  rw [List.append_nil] at hgiven
  exact { hdata with
    given := congrArg (· ++ [frag]) hgiven
    queueStop := hdata.queueStop
    stopOk hr hs := ⟨(hdata.stopOk hr hs).hard, (hdata.stopOk hr hs).stop⟩
    netOk := hdata.netOk }

/-- The fragments among `i, …, i + n - 1` that are left when the loop ends. -/
def leftOver (frags : ℕ → SkBuff) (i n : ℕ) : Option ℕ → List SkBuff
  | none => []
  | some j => (List.range' j (i + n - j)).map frags

/-- The loop hands on the fragments in order, up to those that are left; it leaves
some only if it has found the queue stopped. -/
theorem handLoop_handing (frags : ℕ → SkBuff) : ∀ (n i : ℕ) (s : TxSide P H),
    let ended := handLoop hx env frags n i s
    ∃ sent, Handing hx sent ended.2 s ∧
      sent ++ leftOver frags i n ended.1 = (List.range' i n).map frags ∧
      ∀ j ∈ ended.1, ended.2.dev.queueStop = true ∧ i ≤ j ∧ j < i + n
  | 0, i, s => ⟨[], .refl s, rfl, fun j hj => by cases hj⟩
  | n + 1, i, s => by
    intro ended
    by_cases hstop : s.dev.queueStop = true
    · have hended : ended = (some i, s) := if_pos hstop
      rw [hended]
      refine ⟨[], .refl s, ?_, ?_⟩
      · simp [leftOver]
      · intro j hj
        cases hj
        exact ⟨hstop, le_rfl, by omega⟩
    · have hended : ended = handLoop hx env frags n (i + 1) (s.handFragment hx env (frags i)) :=
        if_neg hstop
      obtain ⟨sent, hhand, hsplit, hleft⟩ :=
        handLoop_handing frags n (i + 1) (s.handFragment hx env (frags i))
      rw [hended]
      refine ⟨[frags i] ++ sent, hhand.trans (handFragment_handing hx env s (frags i)), ?_, ?_⟩
      · rw [List.range'_succ, List.map_cons, ← hsplit, List.append_assoc, List.singleton_append]
        congr 2
        cases (handLoop hx env frags n (i + 1) (s.handFragment hx env (frags i))).1 with
        | none => rfl
        | some j => simp only [leftOver, show i + (n + 1) - j = i + 1 + n - j by omega]
      · intro j hj
        obtain ⟨hq, hle, hlt⟩ := hleft j hj
        exact ⟨hq, by omega, by omega⟩

end TxSide

end Rtl8187

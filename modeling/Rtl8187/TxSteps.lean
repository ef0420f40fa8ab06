/-
# The steps of the transmit queue

One lemma for each thing that may happen to the transmit side says all it does
(`softmacXmit_spec`, `resumeTx_spec`, `wakeQueue_spec`, `xmit_outcome`). From
these, what every step keeps whatever it is handed (`Orderly`): a TXB is parked
only while the queue is stopped, and never while another one is being sent.

Key definitions: `Parks`, `XmitOutcome`, `Orderly`.
Key theorems: `softmacXmit_spec`, `wakeQueue_spec`, `xmit_outcome`, `orderly_step`,
`xmit_handOff_dev`.
-/
import Rtl8187.TxQueue

namespace Rtl8187

variable {P H : Type}

/-- The fragments of a TXB from number `i` on. -/
def Txb.fragmentsFrom (txb : Txb) (i : ℕ) : List SkBuff :=
  (List.range' i (txb.nrFrags - i)).map txb.fragments

/-- The fragments of what is parked in `tx_pending`. -/
def parkedFragments : Option (Txb × ℕ) → List SkBuff
  | none => []
  | some (txb, i) => txb.fragmentsFrom i

namespace TxSide

variable (hx : HardXmit H) (env : Env) (s : TxSide P H)

/-- `tx_pending` when the fragments `sent` of a TXB have been handed on, from
number `i` on: what is left is parked, and only while the queue is stopped. -/
structure Parks (txb : Txb) (i : ℕ) (sent : List SkBuff) (pend : Option (Txb × ℕ)) (stopped : Bool) :
    Prop where
  split : sent ++ parkedFragments pend = txb.fragmentsFrom i
  stop : pend.isSome = true → stopped = true
  same : ∀ p ∈ pend, p.1 = txb ∧ p.2 < txb.nrFrags

/-- The loop over the fragments of a TXB from number `i` on. -/
theorem handLoop_parks (txb : Txb) (i : ℕ) :
    let ended := handLoop hx env txb.fragments (txb.nrFrags - i) i s
    ∃ sent, Handing hx sent ended.2 s ∧
      Parks txb i sent (ended.1.map fun j => (txb, j)) ended.2.dev.queueStop := by
  intro ended
  obtain ⟨sent, hhand, hsplit, hleft⟩ :=
    handLoop_handing hx env txb.fragments (txb.nrFrags - i) i s
  refine ⟨sent, hhand, ?_, ?_, ?_⟩
  · rw [Txb.fragmentsFrom, ← hsplit]
    congr 1
    change parkedFragments (ended.1.map fun j => (txb, j)) = leftOver txb.fragments i _ ended.1
    cases hended : ended.1 with
    | none => rfl
    | some j =>
      obtain ⟨_, hle, hlt⟩ := hleft j hended
      change txb.fragmentsFrom j = leftOver txb.fragments i _ (some j)
      rw [Txb.fragmentsFrom, leftOver, show i + (txb.nrFrags - i) - j = txb.nrFrags - j by omega]
  · intro hsome
    rw [Option.isSome_map] at hsome
    obtain ⟨j, hj⟩ := Option.isSome_iff_exists.mp hsome
    exact (hleft j hj).1
  · intro p hp
    obtain ⟨j, hj, rfl⟩ := Option.mem_map.mp hp
    obtain ⟨_, hle, hlt⟩ := hleft j hj
    exact ⟨rfl, by omega⟩

/-- What `ieee80211_softmac_xmit` does when nothing is parked. -/
theorem softmacXmit_spec (txb : Txb) (entry : Option (Fin maxTxSkb)) (hnone : s.dev.txPending = none) :
    ∃ sent pend t, Handing hx sent t s ∧ Parks txb 0 sent pend t.dev.queueStop ∧
      s.softmacXmit hx env txb entry =
        { t with
          dev := { t.dev with txPending := pend, txPendingTxb := t.dev.txPendingTxb - 1 }
          pendingEntry := if pend.isSome then entry else t.pendingEntry } := by
  obtain ⟨sent, hhand, hparks⟩ := handLoop_parks hx env (s.mapDev Device.staWakeup) txb 0
  have hhand := hhand.after (staWakeup_handing hx s)
  refine ⟨sent, _, _, hhand, hparks, ?_⟩
  unfold softmacXmit
  rw [Nat.sub_zero] at hhand ⊢
  have hfree : ¬ (s.dev.queueStop = true ∧ s.dev.txPending.isSome = true) := by simp [hnone]
  rw [if_neg hfree]
  cases hended : handLoop hx env txb.fragments txb.nrFrags 0 (s.mapDev Device.staWakeup) with
  | mk left t =>
    rw [hended] at hhand
    cases left with
    | none =>
      have htx : t.dev.txPending = none := hhand.txPending.trans hnone
      have hsame : { t.dev with txPending := none, txPendingTxb := t.dev.txPendingTxb - 1 } =
          { t.dev with txPendingTxb := t.dev.txPendingTxb - 1 } := by rw [← htx]
      exact congrArg (fun d : Device P => { t with dev := d }) hsame.symm
    | some i => rfl

/-- What `ieee80211_resume_tx` does. -/
theorem resumeTx_spec {txb : Txb} {i : ℕ} (hp : s.dev.txPending = some (txb, i)) :
    ∃ sent pend t, Handing hx sent t s ∧ Parks txb i sent pend t.dev.queueStop ∧
      s.resumeTx hx env = t.mapDev fun d => { d with txPending := pend } := by
  obtain ⟨sent, hhand, hparks⟩ := handLoop_parks hx env s txb i
  refine ⟨sent, _, _, hhand, hparks, ?_⟩
  unfold resumeTx
  rw [hp]
  dsimp only
  cases handLoop hx env txb.fragments (txb.nrFrags - i) i s with
  | mk left t => cases left <;> rfl

/-- What `ieee80211_wake_queue` does with a stopped queue: some of the fragments
parked are handed on, and the kernel's queue is awake if none is left. -/
theorem wakeQueue_spec (hstop : s.dev.queueStop = true) :
    ∃ sent pend t, Handing hx sent t (s.mapDev fun d => { d with queueStop := false }) ∧
      sent ++ parkedFragments pend = parkedFragments s.dev.txPending ∧
      (pend.isSome = true → t.dev.queueStop = true) ∧
      (∀ p ∈ pend, ∃ q ∈ s.dev.txPending, p.1 = q.1 ∧ (q.2 < q.1.nrFrags → p.2 < q.1.nrFrags)) ∧
      s.wakeQueue hx env =
        { t with
          dev := { t.dev with txPending := pend }
          netStopped := t.dev.queueStop && t.netStopped } := by
  unfold wakeQueue
  rw [if_neg (not_not_intro hstop)]
  dsimp only
  set s₀ := s.mapDev fun d => { d with queueStop := false } with hs₀
  set s₁ := if s₀.dev.softmacFeatures.singleQueue = true then drainMgmt hx mgmtQueueNum s₀ else s₀
    with hs₁
  have hdrain : Handing hx [] s₁ s₀ := by
    rw [hs₁]
    split_ifs
    · exact drainMgmt_handing hx _ _
    · exact .refl _
  have hpend : s₁.dev.txPending = s.dev.txPending := hdrain.txPending
  -- the kernel's queue
  have hwake : ∀ t : TxSide P H, (if ¬ t.dev.queueStop = true ∧ t.netStopped = true then
      { t with netStopped := false } else t) = { t with netStopped := t.dev.queueStop && t.netStopped } := by
    intro t
    cases hq : t.dev.queueStop <;> cases hn : t.netStopped <;> simp [← hn]
  rw [hwake]
  by_cases hres : ¬ s₁.dev.queueStop = true ∧ s₁.dev.txPending.isSome = true
  · rw [if_pos hres]
    obtain ⟨⟨txb, i⟩, hp⟩ := Option.isSome_iff_exists.mp hres.2
    obtain ⟨sent, pend, t, hhand, hparks, hres⟩ := resumeTx_spec hx env s₁ hp
    refine ⟨sent, pend, t, hhand.after hdrain, ?_, hparks.stop, ?_, ?_⟩
    · rw [← hpend, hp]
      exact hparks.split
    · intro p hpmem
      refine ⟨(txb, i), hpend.symm.trans hp, (hparks.same p hpmem).1, fun _ => (hparks.same p hpmem).2⟩
    · rw [hres]
      rfl
  · rw [if_neg hres]
    refine ⟨[], s.dev.txPending, s₁, hdrain, rfl, ?_, ?_, ?_⟩
    · intro hsome
      rw [← hpend] at hsome
      by_contra hq
      exact hres ⟨hq, hsome⟩
    · exact fun p hp => ⟨p, hp, rfl, id⟩
    · rw [← hpend]

end TxSide

/-! ### What `ieee80211_xmit` makes -/

section

variable {d : Device P} {pl : XmitPlan}

theorem encryptFragment_crypt {frag frag' : SkBuff} {hdrLen : ℕ} {ret : Int} {d' : Device P}
    (h : encryptFragment d frag hdrLen = some (ret, frag', d')) : ∃ c, d' = { d with crypt := c } := by
  rcases encryptFragment_cases h with rfl | ⟨priv, rfl⟩
  · exact ⟨d'.crypt, rfl⟩
  · exact ⟨_, rfl⟩

theorem encryptBuilt_crypt (frag : SkBuff) : ∃ c, (encryptBuilt pl d frag).2 = { d with crypt := c } := by
  unfold encryptBuilt
  by_cases he : pl.encrypt = true
  · rw [if_pos he]
    cases h : encryptFragment d frag dataHdr3Len with
    | none => exact ⟨d.crypt, rfl⟩
    | some r => exact encryptFragment_crypt h
  · rw [if_neg he]
    exact ⟨d.crypt, rfl⟩

/-- The loop moves the state of the cipher only. -/
theorem fillFragments_crypt : ∀ (n i : ℕ) (d : Device P) (skb : SkBuff) (frags : ℕ → SkBuff),
    ∃ c, (fillFragments pl n i d skb frags).2 = { d with crypt := c }
  | 0, _, d, _, _ => ⟨d.crypt, rfl⟩
  | n + 1, i, d, skb, frags => by
    obtain ⟨c, hc⟩ := @encryptBuilt_crypt P d pl (buildFragment pl i (frags i) skb).1
    unfold fillFragments
    dsimp only
    rw [hc]
    exact fillFragments_crypt n (i + 1) { d with crypt := c } _ _

/-- `ieee80211_xmit` takes a raw frame. -/
def RawAccepted (env : Env) (d : Device P) (skb : SkBuff) : Prop :=
  d.softmacFeatures.txQueue = true ∧ d.rawTx = true ∧ dataHdr3Len ≤ skb.len ∧ env.skbAlloc = true

/-- It has no memory for a raw frame. -/
def RawFails (env : Env) (d : Device P) (skb : SkBuff) : Prop :=
  d.softmacFeatures.txQueue = true ∧ d.rawTx = true ∧ dataHdr3Len ≤ skb.len ∧ env.skbAlloc = false

end

namespace TxSide

/-- What a call of `ieee80211_xmit` comes to. -/
inductive XmitOutcome (env : Env) (s : TxSide P H) (skb : SkBuff) : TxSide P H → Prop where
  /-- The frame is not sent. -/
  | ignored : XmitOutcome env s skb s
  | failed : RawFails env s.dev skb ∨ (maxTxSkb - 1 : Int) < s.dev.txPendingTxb →
      XmitOutcome env s skb { s with netStopped := true }
  /-- A TXB that says it has no fragments. -/
  | raw (txb : Txb) (frags : List SkBuff) : RawAccepted env s.dev skb → txb.nrFrags = 0 →
      XmitOutcome env s skb
        { s with sending := some (txb, none), accepted := s.accepted ++ [frags] }
  | cooked (txb : Txb) (d : Device P) : s.dev.rawTx = false → d.txPending = s.dev.txPending →
      d.queueStop = s.dev.queueStop → d.txPendingTxb = s.dev.txPendingTxb + 1 →
      d.allocTxb = Function.update s.dev.allocTxb s.dev.txSkbIndex txb →
      XmitOutcome env s skb
        { s with
          dev := d
          sending := some (txb, some s.dev.txSkbIndex)
          accepted := s.accepted ++ [txb.fragmentsFrom 0] }

theorem xmit_outcome (env : Env) (s : TxSide P H) (skb : SkBuff) :
    XmitOutcome env s skb (s.xmit env skb) := by
  unfold xmit xmitTxb
  by_cases hq : s.dev.softmacFeatures.txQueue = true
  case neg =>
    rw [if_pos hq]
    exact .ignored
  rw [if_neg (not_not_intro hq)]
  cases hraw : s.dev.rawTx with
  | true =>
    rw [if_pos rfl]
    by_cases hlen : skb.len < dataHdr3Len
    · rw [if_pos hlen]
      exact .ignored
    rw [if_neg hlen]
    cases halloc : env.skbAlloc with
    | true => exact .raw _ _ ⟨hq, hraw, not_lt.mp hlen, halloc⟩ rfl
    | false => exact .failed (Or.inl ⟨hq, hraw, not_lt.mp hlen, halloc⟩)
  | false =>
    rw [if_neg Bool.false_ne_true]
    by_cases hlen : skb.len < snapLen
    · rw [if_pos hlen]
      exact .ignored
    rw [if_neg hlen]
    by_cases hdrop : s.dev.dropsUnencrypted (etherType skb) = true
    · rw [if_pos hdrop]
      exact .ignored
    rw [if_neg hdrop]
    by_cases hfull : (maxTxSkb - 1 : Int) < s.dev.txPendingTxb
    · rw [if_pos hfull]
      exact .failed (Or.inr hfull)
    rw [if_neg hfull]
    have hmade : madeFragments s.dev (xmitFragments s.dev skb).1 =
        (xmitFragments s.dev skb).1.fragmentsFrom 0 := by
      rw [madeFragments, hraw, Txb.fragmentsFrom, List.range_eq_range', Nat.sub_zero]
      rfl
    dsimp only
    rw [hmade]
    obtain ⟨c, hc⟩ := @fillFragments_crypt P (xmitPlan s.dev skb) (xmitPlan s.dev skb).nrFrags 0 s.dev
      (xmitPayload skb) (poolFragments s.dev)
    apply XmitOutcome.cooked _ _ hraw
    · simp [xmitFragments, hc]
    · simp [xmitFragments, hc]
    · simp [xmitFragments]
    · simp [xmitFragments]

end TxSide

/-! ### What every step keeps -/

/-- What is parked or being sent, in a transmit side whose hardware meets `I`, and
`Q` while it has the queue stopped. -/
structure Orderly (I Q : H → Prop) (s : TxSide P H) : Prop where
  stopOk : StopOk I Q s
  parked : s.dev.txPending.isSome = true → s.dev.queueStop = true
  single : s.sending = none ∨ s.dev.txPending = none
  counter : s.dev.txPendingTxb ≤ if s.sending.isSome then 1 else 0

namespace Orderly

variable {hx : HardXmit H} {I Q : H → Prop} {s s' : TxSide P H}

/-- Frames are handed on. -/
theorem handing {sent : List SkBuff} (h : Orderly I Q s) (hr : HardRules hx I Q)
    (hh : Handing hx sent s' s) : Orderly I Q s' := by
  refine ⟨hh.stopOk hr h.stopOk, ?_, ?_, ?_⟩
  · intro hp
    rw [hh.txPending] at hp
    exact hh.queueStop (h.parked hp)
  · rw [hh.sending, hh.txPending]
    exact h.single
  · rw [hh.txPendingTxb, hh.sending]
    exact h.counter

/-- While the kernel's queue is awake nothing is parked. -/
theorem awake (h : Orderly I Q s) (hnet : s.netStopped = false) :
    s.dev.queueStop = false ∧ s.dev.txPending = none := by
  have hq : s.dev.queueStop = false := by
    by_contra hq
    have hstop := (h.stopOk.stop (by simpa using hq)).1
    rw [hnet] at hstop
    cases hstop
  refine ⟨hq, ?_⟩
  by_contra hp
  have hparked := h.parked (Option.isSome_iff_ne_none.mpr hp)
  rw [hq] at hparked
  cases hparked

theorem xmit (h : Orderly I Q s) (env : Env) (skb : SkBuff) (hcall : s.Called (.xmit env skb)) :
    Orderly I Q (s.xmit env skb) := by
  obtain ⟨hnet, hsend⟩ := hcall
  have hcount : s.dev.txPendingTxb ≤ 0 := by
    have hc := h.counter
    rwa [hsend] at hc
  obtain ⟨hq, hpend⟩ := h.awake hnet
  have hout := s.xmit_outcome env skb
  generalize s.xmit env skb = s' at hout ⊢
  cases hout with
  | ignored => exact h
  | failed hwhy =>
    refine ⟨⟨h.stopOk.hard, fun hstop => ⟨rfl, (h.stopOk.stop hstop).2⟩⟩, h.parked, h.single, h.counter⟩
  | raw txb frags hraw hzero =>
    refine ⟨⟨h.stopOk.hard, h.stopOk.stop⟩, h.parked, Or.inr hpend, ?_⟩
    exact hcount.trans Int.one_nonneg
  | cooked txb d hraw hp hstop hc ha =>
    refine ⟨⟨h.stopOk.hard, ?_⟩, ?_, Or.inr (hp.trans hpend), ?_⟩
    · intro hd
      exact h.stopOk.stop (hstop.symm.trans hd)
    · intro hd
      dsimp only at hd
      rw [hp, hpend] at hd
      cases hd
    · change d.txPendingTxb ≤ 1
      omega

/-- Nothing is parked while a frame is handed off. -/
theorem pending_none (h : Orderly I Q s) {t : Txb × Option (Fin maxTxSkb)} (hsend : s.sending = some t) :
    s.dev.txPending = none :=
  h.single.resolve_left (hsend ▸ Option.some_ne_none t)

theorem handOff (h : Orderly I Q s) (hr : HardRules hx I Q) (env : Env) :
    Orderly I Q (s.handOff hx env) := by
  unfold TxSide.handOff
  cases hsend : s.sending with
  | none => exact h
  | some t =>
    obtain ⟨txb, entry⟩ := t
    have hpend : s.dev.txPending = none := h.pending_none hsend
    have hcount : s.dev.txPendingTxb ≤ 1 := by
      have hc := h.counter
      rwa [hsend] at hc
    obtain ⟨sent, pend, t, hhand, hparks, heq⟩ :=
      TxSide.softmacXmit_spec hx env { s with sending := none } txb entry hpend
    have hstop := hhand.stopOk hr ⟨h.stopOk.hard, h.stopOk.stop⟩
    dsimp only
    rw [heq]
    refine ⟨⟨hstop.hard, hstop.stop⟩, hparks.stop, Or.inl hhand.sending, ?_⟩
    change t.dev.txPendingTxb - 1 ≤ if t.sending.isSome then 1 else 0
    have hsame : t.dev.txPendingTxb = s.dev.txPendingTxb := hhand.txPendingTxb
    rw [hhand.sending, hsame]
    change s.dev.txPendingTxb - 1 ≤ 0
    omega

/-- The reason for which the queue was stopped may be gone when it is woken. -/
theorem wakeQueue {Q' : H → Prop} (h : Orderly I Q' s) (hr : HardRules hx I Q) (env : Env) :
    Orderly I Q (s.wakeQueue hx env) := by
  by_cases hq : s.dev.queueStop = true
  case neg =>
    rw [TxSide.wakeQueue, if_pos hq]
    exact ⟨⟨h.stopOk.hard, fun hs => absurd hs hq⟩, h.parked, h.single, h.counter⟩
  obtain ⟨sent, pend, t, hhand, hsplit, hstop, hfrom, heq⟩ := TxSide.wakeQueue_spec hx env s hq
  have hok := hhand.stopOk hr ⟨h.stopOk.hard, fun hf => absurd hf Bool.false_ne_true⟩
  rw [heq]
  refine ⟨⟨hok.hard, fun hs => ⟨?_, (hok.stop hs).2⟩⟩, hstop, ?_, ?_⟩
  · exact Bool.and_eq_true_iff.mpr ⟨hs, (hok.stop hs).1⟩
  · have hsend : t.sending = s.sending := hhand.sending
    change t.sending = none ∨ pend = none
    rw [hsend]
    rcases h.single with hnone | hnone
    · exact Or.inl hnone
    · right
      cases pend with
      | none => rfl
      | some p =>
        obtain ⟨q, hmem, _⟩ := hfrom p rfl
        rw [hnone] at hmem
        cases hmem
  · change t.dev.txPendingTxb ≤ if t.sending.isSome then 1 else 0
    have hsend : t.sending = s.sending := hhand.sending
    have hcount : t.dev.txPendingTxb = s.dev.txPendingTxb := hhand.txPendingTxb
    rw [hsend, hcount]
    exact h.counter

theorem resetQueue (h : Orderly I Q s) : Orderly I Q s.resetQueue :=
  ⟨⟨h.stopOk.hard, fun hf => absurd hf Bool.false_ne_true⟩, fun hf => absurd hf Bool.false_ne_true,
    Or.inr rfl, h.counter⟩

theorem configure (h : Orderly I Q s) (d : Device P) {hard : H} (hI : I hard) (hQ : Q s.hard → Q hard) :
    Orderly I Q { s.configure d with hard := hard } :=
  ⟨⟨hI, fun hs => ⟨(h.stopOk.stop hs).1, hQ (h.stopOk.stop hs).2⟩⟩, h.parked, h.single, h.counter⟩

end Orderly

/-- Whatever the hardware does. -/
theorem hardRules_true (hx : HardXmit H) : HardRules hx (fun _ => True) fun _ => True :=
  ⟨fun _ _ _ _ => trivial, fun _ _ _ _ _ => trivial, fun _ _ _ _ _ => trivial⟩

/-- What one step keeps, whatever the hardware does. -/
theorem orderly_step {hx : HardXmit H} {s : TxSide P H} {e : TxEvent P H}
    (h : Orderly (fun _ => True) (fun _ => True) s) (hcall : s.Called e) :
    Orderly (fun _ => True) (fun _ => True) (s.step hx e) := by
  have hr := hardRules_true hx
  cases e with
  | xmit env skb => exact h.xmit env skb hcall
  | handOff env => exact h.handOff hr env
  | mgmtXmit env skb => exact h.handing hr (TxSide.mgmtXmit_handing hx env s skb)
  | psMgmtXmit env skb => exact h.handing hr (TxSide.psMgmtXmit_handing hx env s skb)
  | stopQueue =>
    exact ⟨⟨trivial, fun _ => ⟨rfl, trivial⟩⟩, fun _ => rfl, h.single, h.counter⟩
  | wakeQueue env => exact h.wakeQueue hr env
  | resetQueue => exact h.resetQueue
  | other d hard => exact h.configure d trivial fun _ => trivial

namespace TxSide

/-! ### The device alone -/

/-- Hardware that stops the queue when an `Env` says so, by the number of the frame. -/
def hardOf (env : Env) : HardXmit ℕ := fun n _ _ => (env.stops n, n + 1)

variable {env : Env} {s : TxSide P ℕ}

theorem handFragment_dev (hn : s.hard = s.dev.handed.length) (frag : SkBuff) :
    (s.handFragment (hardOf env) env frag).dev = s.dev.dataHardStartXmit env frag s.dev.rate ∧
      (s.handFragment (hardOf env) env frag).hard =
        (s.handFragment (hardOf env) env frag).dev.handed.length := by
  unfold handFragment dataHardXmit hardOf Device.dataHardStartXmit
  dsimp only
  rw [hn]
  cases hstop : env.stops s.dev.handed.length with
  | true => simp [stampTrans, mapDev, stopQueue]
  | false => simp [stampTrans, mapDev]

theorem handLoop_dev (txb : Txb) : ∀ (n i : ℕ) (s : TxSide P ℕ), s.hard = s.dev.handed.length →
    handFragments env txb n i s.dev =
      match handLoop (hardOf env) env txb.fragments n i s with
      | (none, t) => t.dev
      | (some j, t) => { t.dev with txPending := some (txb, j) }
  | 0, _, _, _ => rfl
  | n + 1, i, s, hn => by
    obtain ⟨hdev, hhard⟩ := handFragment_dev hn (txb.fragments i)
    have ih := handLoop_dev txb n (i + 1) _ hhard
    unfold handFragments handLoop
    by_cases hstop : s.dev.queueStop = true
    · rw [if_pos hstop, if_pos hstop]
    · rw [if_neg hstop, if_neg hstop, ← hdev]
      exact ih

theorem softmacXmit_dev (hn : s.hard = s.dev.handed.length) (txb : Txb)
    (entry : Option (Fin maxTxSkb)) :
    (s.softmacXmit (hardOf env) env txb entry).dev = Rtl8187.softmacXmit env s.dev txb := by
  have hhanded : s.dev.staWakeup.handed = s.dev.handed := by
    unfold Device.staWakeup Device.queueWork
    dsimp only
    split_ifs <;> rfl
  have hloop := @handLoop_dev P env txb txb.nrFrags 0 (s.mapDev Device.staWakeup)
    (hn.trans (congrArg List.length hhanded.symm))
  unfold softmacXmit Rtl8187.softmacXmit
  by_cases hlost : s.dev.queueStop = true ∧ s.dev.txPending.isSome = true
  · rw [if_pos hlost, if_pos hlost]
    rfl
  · rw [if_neg hlost, if_neg hlost]
    change handFragments env txb txb.nrFrags 0 s.dev.staWakeup = _ at hloop
    rw [hloop]
    cases handLoop (hardOf env) env txb.fragments txb.nrFrags 0 (s.mapDev Device.staWakeup) with
    | mk left t => cases left <;> rfl

theorem handOff_none (h : s.sending = none) : s.handOff (hardOf env) env = s := by
  unfold handOff
  rw [h]

theorem xmitFragments_handed (d : Device P) (skb : SkBuff) : (xmitFragments d skb).2.handed = d.handed := by
  obtain ⟨c, hc⟩ := @fillFragments_crypt P (xmitPlan d skb) (xmitPlan d skb).nrFrags 0 d
    (xmitPayload skb) (poolFragments d)
  simp [xmitFragments, hc]

/-- With such hardware the device goes through `ieee80211_xmit` as it does by itself. -/
theorem xmit_handOff_dev (hn : s.hard = s.dev.handed.length) (hsend : s.sending = none) (skb : SkBuff) :
    ((s.xmit env skb).handOff (hardOf env) env).dev = (Rtl8187.xmit env s.dev skb).2 := by
  have hignored : ∀ t : TxSide P ℕ, t.sending = none → t.dev = s.dev →
      (t.handOff (hardOf env) env).dev = s.dev := by
    intro t ht hdev
    rw [handOff_none ht, hdev]
  have hmade : ∀ (t : TxSide P ℕ) (txb : Txb) (entry : Option (Fin maxTxSkb)),
      t.sending = some (txb, entry) → t.hard = t.dev.handed.length →
      (t.handOff (hardOf env) env).dev = Rtl8187.softmacXmit env t.dev txb := by
    intro t txb entry ht hn
    unfold handOff
    rw [ht]
    exact @softmacXmit_dev P env { t with sending := none } hn txb entry
  have hlen := hn.trans (congrArg List.length (xmitFragments_handed s.dev skb).symm)
  unfold Rtl8187.xmit xmit xmitTxb
  split_ifs
  · exact hignored _ hsend rfl
  · exact hmade _ _ _ rfl hn
  · exact hignored _ hsend rfl
  · exact hignored _ hsend rfl
  · exact hignored _ hsend rfl
  · exact hignored _ hsend rfl
  · exact hmade _ _ _ rfl hlen
  · exact hignored _ hsend rfl
  · exact hignored _ hsend rfl

/-- And through `softmac_mgmt_xmit`. -/
theorem mgmtXmit_dev (hn : s.hard = s.dev.handed.length) (skb : SkBuff) :
    (s.mgmtXmit (hardOf env) env skb).dev = softmacMgmtXmit env s.dev skb := by
  have hhanded : s.dev.staWakeup.handed = s.dev.handed := by
    unfold Device.staWakeup Device.queueWork
    dsimp only
    split_ifs <;> rfl
  unfold mgmtXmit softmacMgmtXmit mapDev
  dsimp only
  split_ifs
  · rfl
  · unfold dataHardXmit hardOf Device.dataHardStartXmit
    rw [hn, ← hhanded]
    dsimp only [stampTrans, nextSeq, mapDev]
    cases hstop : env.stops s.dev.staWakeup.handed.length with
    | true => simp [stopQueue]
    | false => simp
  · rfl

end TxSide

end Rtl8187

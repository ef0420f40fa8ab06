/-
# Raw transmission

With `raw_tx` on, `ieee80211_xmit` (`ieee80211_tx.c`) is given 802.11 frames
and makes a TXB for each with `ieee80211_alloc_txb`, where the others take one
of the pool. A call leaves a list of what was done with the TXB: it was
allocated, a fragment of it was handed to `softmac_data_hard_start_xmit`, it
was freed.

`ieee80211_alloc_txb` does not store the number of fragments, and the raw path
does not either, so `ieee80211_softmac_xmit` finds none to hand on; nor does it
free the TXB (`xmitEvents_raw`).

Key definitions: `allocTxb`, `TxbEvent`, `xmitEvents`, `RawDelivered`.
Key theorems: `handed_xmit_raw`, `xmitEvents_raw`, `raw_not_delivered`.
-/
import Rtl8187.Tx

namespace Rtl8187

variable {P : Type}

/-- `ieee80211_alloc_txb`, with all its buffers or none. `nr_frags` is one of
the fields the `memset` leaves zero. -/
def allocTxb (skbAlloc : Bool) (txbSize : ℕ) : Option Txb :=
  if skbAlloc then some ⟨0, false, 0, fun _ => SkBuff.devAllocSkb txbSize⟩ else none

/-- The TXB of a raw frame. -/
def rawTxb (env : Env) (skb : SkBuff) : Option Txb :=
  (allocTxb env.skbAlloc skb.len).map fun txb =>
    { txb with payloadSize := skb.len, fragments := fun i => (txb.fragments i).put skb.data }

/-- What is done with a TXB. -/
inductive TxbEvent where
  | alloc
  | hand (frag : SkBuff) (rate : ℕ)
  | free

/-- What the hardware gets by it. -/
def TxbEvent.handed? : TxbEvent → Option Handed
  | .hand frag rate => some (.data frag rate)
  | _ => none

/-- The loop of `ieee80211_softmac_xmit`, from fragment `i` on with `n` to go. -/
def handEvents (env : Env) (txb : Txb) : (n i : ℕ) → Device P → List TxbEvent
  | 0, _, _ => []
  | n + 1, i, d =>
    if d.queueStop then []
    else .hand (txb.fragments i) d.rate ::
      handEvents env txb n (i + 1) (d.dataHardStartXmit env (txb.fragments i) d.rate)

/-- `ieee80211_softmac_xmit`, which frees no TXB. -/
def softmacXmitEvents (env : Env) (d : Device P) (txb : Txb) : List TxbEvent :=
  if d.queueStop ∧ d.txPending.isSome then [] else handEvents env txb txb.nrFrags 0 d.staWakeup

/-- `ieee80211_xmit`: a raw frame has a TXB made, the others have one of the
pool. The call of `ieee80211_txb_free` belongs to the other hand-off. -/
def xmitEvents (env : Env) (d : Device P) (skb : SkBuff) : List TxbEvent :=
  match xmitTxb env d skb with
  | (_, none, _) => []
  | (_, some txb, d') => (if d.rawTx then [.alloc] else []) ++ softmacXmitEvents env d' txb

/-- Raw transmission delivers a frame: one buffer with its bytes is handed to
the hardware, and the TXB is freed behind it. -/
def RawDelivered (env : Env) (d : Device P) (skb : SkBuff) : Prop :=
  ∃ frag rate, frag.data = skb.data ∧ xmitEvents env d skb = [.alloc, .hand frag rate, .free]

section

variable {env : Env} {d : Device P} {skb : SkBuff}

/-- The raw path of `ieee80211_xmit` makes this TXB. -/
theorem xmitTxb_raw (hraw : d.rawTx = true) (hlen : dataHdr3Len ≤ skb.len) :
    xmitTxb env d skb =
      if d.softmacFeatures.txQueue then (if env.skbAlloc then 0 else 1, rawTxb env skb, d)
      else (0, none, d) := by
  unfold xmitTxb rawTxb allocTxb
  rw [if_pos hraw, if_neg (Nat.not_lt.mpr hlen)]
  cases d.softmacFeatures.txQueue <;> cases env.skbAlloc <;> rfl

theorem staWakeup_handed (d : Device P) : d.staWakeup.handed = d.handed := by
  unfold Device.staWakeup Device.queueWork
  dsimp only
  split_ifs <;> rfl

/-- The loop hands on what its events say. -/
theorem handed_handFragments (env : Env) (txb : Txb) : ∀ (n i : ℕ) (d : Device P),
    (handFragments env txb n i d).handed =
      d.handed ++ (handEvents env txb n i d).filterMap TxbEvent.handed?
  | 0, _, d => (List.append_nil _).symm
  | n + 1, i, d => by
    unfold handFragments handEvents
    by_cases hstop : d.queueStop = true
    · rw [if_pos hstop, if_pos hstop]
      exact (List.append_nil _).symm
    · rw [if_neg hstop, if_neg hstop, handed_handFragments env txb n]
      exact List.append_assoc _ _ _

theorem handed_softmacXmit (env : Env) (d : Device P) (txb : Txb) :
    (softmacXmit env d txb).handed =
      d.handed ++ (softmacXmitEvents env d txb).filterMap TxbEvent.handed? := by
  unfold softmacXmit softmacXmitEvents
  by_cases hlost : d.queueStop = true ∧ d.txPending.isSome = true
  · rw [if_pos hlost, if_pos hlost]
    exact (List.append_nil _).symm
  · rw [if_neg hlost, if_neg hlost, ← staWakeup_handed d]
    exact handed_handFragments env txb _ _ _

/-- The events of a raw frame are what the hardware gets of it. -/
theorem handed_xmit_raw (hraw : d.rawTx = true) (hlen : dataHdr3Len ≤ skb.len) :
    (xmit env d skb).2.handed = d.handed ++ (xmitEvents env d skb).filterMap TxbEvent.handed? := by
  unfold xmit xmitEvents
  rw [xmitTxb_raw hraw hlen, hraw]
  cases d.softmacFeatures.txQueue with
  | false => exact (List.append_nil _).symm
  | true =>
    rcases hmade : rawTxb env skb with _ | txb
    · exact (List.append_nil _).symm
    · exact handed_softmacXmit env d txb

/-- A raw frame has its TXB made, and nothing more is done with that. -/
theorem xmitEvents_raw (hraw : d.rawTx = true) (hlen : dataHdr3Len ≤ skb.len) :
    xmitEvents env d skb = if d.softmacFeatures.txQueue ∧ env.skbAlloc then [.alloc] else [] := by
  unfold xmitEvents
  rw [xmitTxb_raw hraw hlen, hraw]
  unfold rawTxb allocTxb
  cases d.softmacFeatures.txQueue with
  | false => rfl
  | true =>
    cases env.skbAlloc with
    | false => rfl
    | true =>
      -- the loop has no turn: the TXB says that it has no fragments
      have hnone : softmacXmitEvents env d ⟨0, false, skb.len, fun _ =>
          (SkBuff.devAllocSkb skb.len).put skb.data⟩ = [] := by
        unfold softmacXmitEvents
        split_ifs <;> rfl
      exact congrArg ([TxbEvent.alloc] ++ ·) hnone

/-- **Raw transmission delivers nothing**, whatever the frame and the device. -/
theorem raw_not_delivered (hraw : d.rawTx = true) (hlen : dataHdr3Len ≤ skb.len) :
    ¬ RawDelivered env d skb := by
  rintro ⟨frag, rate, -, hevents⟩
  have hlength := congrArg List.length hevents
  rw [xmitEvents_raw hraw hlen] at hlength
  split_ifs at hlength
  all_goals simp at hlength

end

/-- A device with raw transmission on, and its queue awake. -/
def rawDevice : Device Unit := { Device.init Unit ⟨250, true⟩ ⟨2, 0, 0, 0, 0, 1⟩ with rawTx := true }

/-- A raw frame of 26 bytes. -/
def rawFrame : SkBuff := ⟨16, 0x08 :: List.replicate 25 0, []⟩

/-- It is not delivered. -/
theorem rawFrame_not_delivered :
    rawDevice.rawTx = true ∧ ¬ RawDelivered ⟨0, true, fun _ => false, ⟨0, 0, 0, 0, 0, 0⟩⟩ rawDevice rawFrame :=
  ⟨rfl, raw_not_delivered rfl (by decide)⟩

/-- Its TXB is made, and that is all. -/
theorem rawFrame_lost : ¬ ∀ (env : Env) (d : Device Unit) (skb : SkBuff), d.rawTx = true →
    d.queueStop = false → dataHdr3Len ≤ skb.len → RawDelivered env d skb := by
  intro h
  obtain ⟨frag, rate, -, hevents⟩ :=
    h ⟨0, true, fun _ => false, ⟨0, 0, 0, 0, 0, 0⟩⟩ rawDevice rawFrame rfl rfl (by decide)
  rw [xmitEvents_raw rfl (by decide), if_pos ⟨rfl, rfl⟩] at hevents
  cases hevents

end Rtl8187

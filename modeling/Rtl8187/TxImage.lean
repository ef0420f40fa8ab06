/-
# The image of a transmit URB

What `rtl8180_tx` writes into the buffer of a URB (`r8187_core.c`): a descriptor
of twelve bytes and the frame behind it. The frame is copied in words, from a
buffer with the same alignment; the descriptor is put together by assignments
and by ORs into what the buffer held before.

A URB whose length is a multiple of 64 gets one byte more, so that the device sees
a short packet. Two things are lost: of a frame at alignment 3 with two bytes
over a multiple of four the last one is not copied (`lastByte_kept`), and the bytes
of the descriptor that are never assigned show what was there (`image_descriptor`).

Key definitions: `TxArgs`, `TxConfig`, `TxSlot`, `txStores`, `descriptor`, `Unassigned`.
Key theorems: `ring_filled`, `copyStores_eq`, `image_descriptor`, `image_frame`,
`lastByte_kept`, `urb_image`.
-/
import Rtl8187.Lib.MemOps
import Rtl8187.TxRing
import Rtl8187.TxTime

namespace Rtl8187

open MemOps

/-- `TX_URB_SIZE` -/
def txUrbSize : ℕ := 0x9c4

/-- The arguments of `rtl8180_tx`. The memory from `txbuf` on is `src`, of which the
frame is the first `len` bytes, and `seg` is `txbuf % 4`. -/
structure TxArgs where
  src : ℕ → UInt8
  len : ℕ
  seg : ℕ
  aligned : seg < 4
  priority : Priority
  morefrag : Bool
  rate : ℕ

/-- What `rtl8180_tx` reads of the device. -/
structure TxConfig where
  /-- `WLAN_CAPABILITY_SHORT_PREAMBLE` in the capability of `current_network`. -/
  shortPreamble : Bool
  plcpPreambleMode : ℤ
  rts : ℕ
  basicRate : ℤ

/-- The buffer of a URB. The memory is given by offsets from `transfer_buffer`, and
`ptalign_buf` is the first of them that is a multiple of four as an address. -/
structure TxSlot where
  mem : ℕ → UInt8
  ptalignBuf : ℕ
  aligned : ptalignBuf < 4

namespace TxArgs

variable (cfg : TxConfig) (a : TxArgs)

/-- The frame. -/
def frame : List UInt8 := (List.range a.len).map a.src

/-- The frame goes out with the short preamble. -/
def usesShortPreamble : Bool :=
  cfg.shortPreamble && decide (cfg.plcpPreambleMode = 1) && decide (a.rate ≠ 0)

/-- The frame goes out behind an RTS frame. -/
def usesRts : Bool :=
  decide (cfg.rts < a.len) && decide (cfg.rts ≠ 0) && decide (a.priority = .low)

/-- `duration` -/
def duration : Option ℕ := do
  let ackCtsTime ← computeTxTime 14 10 false false
  let frameTime ← computeTxTime (toU16 (a.len + 4)) (rate2rate a.rate) false (a.usesShortPreamble cfg)
  pure (toU16 (frameTime + 3 * 10 + 2 * ackCtsTime))

/-- The bytes the prologue of the copy takes, up to an address that is a multiple of
four. -/
def prologue : ℕ := if a.seg = 0 then 0 else 4 - a.seg

/-- The words the loop takes. -/
def words : ℕ := (a.len + 4 - a.seg) / 4

end TxArgs

/-- `tx[i] |= b` -/
def orStore (i : ℕ) (b : UInt8) : Store UInt8 := ⟨i, fun old => old ||| b⟩

section

variable (cfg : TxConfig) (a : TxArgs) (tx : ℕ)

/-- The copy of the frame to `tx + 12`. -/
def copyStores : List (Store UInt8) :=
  copy (tx + 12) a.prologue a.src ++
    (List.range a.words).flatMap fun i => (List.range 4).map fun j =>
      Store.set (tx + 12 + a.prologue + (4 * i + j)) (a.src (a.prologue + (4 * i + j)))

/-- The descriptor, where `duration` is that of the RTS frame, if there is one. -/
def descriptorStores (duration : Option ℕ) : List (Store UInt8) :=
  [Store.set (tx + 2) 0, Store.set (tx + 3) 0, Store.set tx (UInt8.ofNat a.len),
    Store.set (tx + 1) (UInt8.ofNat (a.len / 256 % 16)), orStore (tx + 1) 0x80] ++
  (if a.usesShortPreamble cfg then [orStore (tx + 2) 1] else []) ++
  (match duration with
    | some d => [orStore (tx + 2) 0x80, orStore (tx + 4) (UInt8.ofNat d),
        orStore (tx + 5) (UInt8.ofNat (d / 256))]
    | none => [Store.set (tx + 4) 0, Store.set (tx + 5) 0]) ++
  (if a.morefrag then [orStore (tx + 2) 0x02] else []) ++
  [orStore (tx + 2) (UInt8.ofNat (ieeerate2rtlrate cfg.basicRate * 8)), orStore (tx + 3) (UInt8.ofNat a.rate),
    Store.set (tx + 8) 3, orStore (tx + 8) 0x70, orStore (tx + 9) 11]

/-- What `rtl8180_tx` writes, if no division is by zero. -/
def txStores : Option (List (Store UInt8)) :=
  if a.usesRts cfg then
    (a.duration cfg).map fun d => copyStores a tx ++ descriptorStores cfg a tx (some d)
  else some (copyStores a tx ++ descriptorStores cfg a tx none)

end

/-- `urb_len` -/
def urbLen (len : ℕ) : ℕ :=
  if (len + 4 * 3) % 64 = 0 ∨ (len + 4 * 3) % 512 = 0 then len + 4 * 3 + 1 else len + 4 * 3

/-- `tx` -/
def TxSlot.tx (slot : TxSlot) (a : TxArgs) : ℕ := slot.ptalignBuf + a.seg

/-- The `n` bytes from an address on. -/
def bytesAt (mem : ℕ → UInt8) (addr n : ℕ) : List UInt8 := (List.range n).map fun i => mem (addr + i)

/-- `rtl8180_tx`, as far as the URB's buffer is concerned: the buffer and the
bytes submitted. -/
def TxSlot.fill (cfg : TxConfig) (a : TxArgs) (slot : TxSlot) : Option (TxSlot × List UInt8) :=
  (txStores cfg a (slot.tx a)).map fun prog =>
    let slot := { slot with mem := run slot.mem prog }
    (slot, bytesAt slot.mem (slot.tx a) (urbLen a.len))

/-- The buffer after a call, which keeps it when a division is by zero. -/
def TxSlot.filled (cfg : TxConfig) (a : TxArgs) (slot : TxSlot) : TxSlot :=
  ((slot.fill cfg a).map Prod.fst).getD slot

/-- In the ring, the buffer of the URB that a call takes is filled, and no other is
touched. -/
theorem ring_filled {r : TxRing TxSlot} (cfg : TxConfig) (a : TxArgs) (accepts : Bool)
    (hfree : ¬ maxTxUrb < r.pending a.priority) :
    ((r.tx a.priority (TxSlot.filled cfg a) accepts).2.txContext r.txUrbIndex).buf =
      (r.txContext r.txUrbIndex).buf.filled cfg a ∧
    ∀ i ≠ r.txUrbIndex,
      (r.tx a.priority (TxSlot.filled cfg a) accepts).2.txContext i = r.txContext i := by
  unfold TxRing.tx
  rw [if_neg hfree]
  dsimp only
  split_ifs
  · exact ⟨congrArg TxContext.buf (Function.update_self r.txUrbIndex _ r.txContext), fun i hi => Function.update_of_ne hi ..⟩
  · exact ⟨congrArg TxContext.buf (Function.update_self r.txUrbIndex _ r.txContext), fun i hi => Function.update_of_ne hi ..⟩

/-! ### What the URB is to be -/

section

variable (cfg : TxConfig) (a : TxArgs)

/-- The duration in the descriptor. -/
def descDuration : ℕ := if a.usesRts cfg then (a.duration cfg).getD 0 else 0

/-- The flags in the third byte. -/
def descFlags : UInt8 :=
  (if a.usesShortPreamble cfg then 1 else 0) ||| (if a.usesRts cfg then 0x80 else 0) |||
    (if a.morefrag then 0x02 else 0) ||| UInt8.ofNat (ieeerate2rtlrate cfg.basicRate * 8)

/-- The descriptor, of the arguments and the device alone. -/
def descriptor : List UInt8 :=
  [UInt8.ofNat a.len, UInt8.ofNat (a.len / 256 % 16) ||| 0x80, descFlags cfg a, UInt8.ofNat a.rate,
    UInt8.ofNat (descDuration cfg a), UInt8.ofNat (descDuration cfg a / 256), 0, 0, 0x73, 11, 0, 0]

/-- What the buffer holds where `rtl8180_tx` does not assign does not show. -/
structure Unassigned (mem : ℕ → UInt8) (tx : ℕ) : Prop where
  byte6 : mem (tx + 6) = 0
  byte7 : mem (tx + 7) = 0
  byte9 : mem (tx + 9) ||| 11 = 11
  byte10 : mem (tx + 10) = 0
  byte11 : mem (tx + 11) = 0
  rts : a.usesRts cfg = true →
    mem (tx + 4) ||| UInt8.ofNat (descDuration cfg a) = UInt8.ofNat (descDuration cfg a) ∧
    mem (tx + 5) ||| UInt8.ofNat (descDuration cfg a / 256) = UInt8.ofNat (descDuration cfg a / 256)

end

/-! ### The copy -/

section

variable {cfg : TxConfig} {a : TxArgs} {tx : ℕ} {mem : ℕ → UInt8}

/-- The prologue and the words are one copy. -/
theorem copyStores_eq : copyStores a tx = copy (tx + 12) (a.prologue + 4 * a.words) a.src := by
  have hwords := range_words 4 a.words fun k =>
    Store.set (tx + 12 + a.prologue + k) (a.src (a.prologue + k))
  unfold copyStores
  rw [hwords]
  exact copy_append (tx + 12) a.prologue (4 * a.words) a.src

/-- The copy takes the frame, but for the last byte of some. -/
theorem copied_of_kept (h : ¬ (a.seg = 3 ∧ a.len % 4 = 2)) : a.len ≤ a.prologue + 4 * a.words := by
  have hseg := a.aligned
  unfold TxArgs.prologue TxArgs.words
  split_ifs with hzero
  · omega
  · omega

theorem copied_of_lost (h : a.seg = 3 ∧ a.len % 4 = 2) : a.prologue + 4 * a.words + 1 = a.len := by
  unfold TxArgs.prologue TxArgs.words
  split_ifs with hzero
  · omega
  · omega

/-- It takes some bytes behind the frame too. -/
theorem copied_le : a.seg + (a.prologue + 4 * a.words) ≤ a.len + 7 := by
  have hseg := a.aligned
  unfold TxArgs.prologue TxArgs.words
  split_ifs with hzero
  · omega
  · omega

/-! ### The descriptor -/

theorem addr_descriptor (duration : Option ℕ) :
    ∀ st ∈ descriptorStores cfg a tx duration, tx ≤ st.addr ∧ st.addr < tx + 12 := by
  unfold descriptorStores
  rcases duration with _ | d <;> cases a.usesShortPreamble cfg <;> cases a.morefrag <;>
    simp [orStore, Store.set]

/-- A flag that is not set is merged in as zero. -/
theorem run_orIf (mem : ℕ → UInt8) (c : Bool) (i : ℕ) (b : UInt8) (prog : List (Store UInt8)) :
    run mem ((if c then [orStore i b] else []) ++ prog) = run mem (orStore i (if c then b else 0) :: prog) := by
  cases c with
  | true => rfl
  | false =>
    have hsame : (orStore i 0).apply mem = mem := by
      unfold Store.apply orStore
      dsimp only
      rw [UInt8.or_zero, Function.update_eq_self]
    rw [if_neg Bool.false_ne_true, if_neg Bool.false_ne_true, run_cons, hsame, List.nil_append]

/-- **The descriptor**, byte for byte. -/
theorem run_descriptor (duration : Option ℕ) :
    bytesAt (run mem (descriptorStores cfg a tx duration)) tx 12 =
      [UInt8.ofNat a.len, UInt8.ofNat (a.len / 256 % 16) ||| 0x80,
        (if a.usesShortPreamble cfg then 1 else 0) ||| (if duration.isSome then 0x80 else 0) |||
          (if a.morefrag then 0x02 else 0) ||| UInt8.ofNat (ieeerate2rtlrate cfg.basicRate * 8),
        UInt8.ofNat a.rate,
        duration.elim 0 fun d => mem (tx + 4) ||| UInt8.ofNat d,
        duration.elim 0 fun d => mem (tx + 5) ||| UInt8.ofNat (d / 256),
        mem (tx + 6), mem (tx + 7), 0x73, mem (tx + 9) ||| 11, mem (tx + 10), mem (tx + 11)] := by
  have hbytes : ∀ m : ℕ → UInt8, bytesAt m tx 12 = [m tx, m (tx + 1), m (tx + 2), m (tx + 3),
      m (tx + 4), m (tx + 5), m (tx + 6), m (tx + 7), m (tx + 8), m (tx + 9), m (tx + 10), m (tx + 11)] :=
    fun _ => rfl
  have hbyte8 : (3 : UInt8) ||| 0x70 = 0x73 := by decide
  rw [hbytes]
  unfold descriptorStores
  rcases duration with _ | d
  · simp only [List.append_assoc, List.cons_append, List.nil_append, run_cons, run_orIf]
    simp [orStore, Store.set, Store.apply, hbyte8]
  · simp only [List.append_assoc, List.cons_append, List.nil_append, run_cons, run_orIf]
    simp [orStore, Store.set, Store.apply, hbyte8]

/-! ### The image -/

/-- The duration is put in behind an RTS frame only. -/
def rtsDuration (cfg : TxConfig) (a : TxArgs) : Option ℕ :=
  if a.usesRts cfg then some (descDuration cfg a) else none

/-- At a rate that has a code no division is by zero. -/
theorem txStores_eq (hrate : a.rate ≤ 11) (tx : ℕ) : txStores cfg a tx =
    some (copyStores a tx ++ descriptorStores cfg a tx (rtsDuration cfg a)) := by
  unfold txStores rtsDuration
  by_cases hrts : a.usesRts cfg = true
  · have hack : computeTxTime 14 10 false false = some 304 := by decide
    have hmem : rate2rate a.rate ∈ rtlRate := rate2rate_mem (by omega)
    obtain ⟨time, htime⟩ := Option.isSome_iff_exists.mp
      (computeTxTime_isSome false (a.usesShortPreamble cfg) (toU16 (a.len + 4)) hmem)
    have hduration : a.duration cfg = some (toU16 (time + 3 * 10 + 2 * 304)) := by
      unfold TxArgs.duration
      rw [hack, htime]
      rfl
    have hdesc : descDuration cfg a = toU16 (time + 3 * 10 + 2 * 304) := by
      unfold descDuration
      rw [if_pos hrts, hduration]
      rfl
    rw [if_pos hrts, if_pos hrts, hduration, hdesc]
    rfl
  · rw [if_neg hrts, if_neg hrts]

/-- The copy stays behind the descriptor. -/
theorem run_copyStores (mem : ℕ → UInt8) {k : ℕ} (hk : k < 12) :
    run mem (copyStores a tx) (tx + k) = mem (tx + k) := by
  rw [copyStores_eq]
  refine run_of_not_mem fun st hst => ?_
  have hlow := (addr_copy hst).1
  omega

/-- **The descriptor in the buffer** is that of the arguments exactly when the
buffer held nothing that shows. -/
theorem image_descriptor : bytesAt (run mem (copyStores a tx ++
      descriptorStores cfg a tx (rtsDuration cfg a))) tx 12 = descriptor cfg a ↔
    Unassigned cfg a mem tx := by
  have hkeep : ∀ k < 12, run mem (copyStores a tx) (tx + k) = mem (tx + k) :=
    fun k hk => run_copyStores mem hk
  rw [run_append, run_descriptor, hkeep 4 (by decide), hkeep 5 (by decide), hkeep 6 (by decide),
    hkeep 7 (by decide), hkeep 9 (by decide), hkeep 10 (by decide), hkeep 11 (by decide)]
  unfold descriptor descFlags rtsDuration
  by_cases hrts : a.usesRts cfg = true
  · simp only [hrts, if_true, Option.isSome_some, Option.elim_some, List.cons.injEq, true_and, and_true]
    constructor
    · rintro ⟨h4, h5, h6, h7, h9, h10, h11⟩
      exact ⟨h6, h7, h9, h10, h11, fun _ => ⟨h4, h5⟩⟩
    · intro h
      exact ⟨(h.rts hrts).1, (h.rts hrts).2, h.byte6, h.byte7, h.byte9, h.byte10, h.byte11⟩
  · have hzero : descDuration cfg a = 0 := if_neg hrts
    simp only [hrts, hzero, if_false, Option.isSome_none, Option.elim_none, List.cons.injEq, true_and,
      and_true, Bool.false_eq_true]
    constructor
    · rintro ⟨-, -, h6, h7, h9, h10, h11⟩
      exact ⟨h6, h7, h9, h10, h11, fun h => absurd h hrts⟩
    · intro h
      exact ⟨rfl, rfl, h.byte6, h.byte7, h.byte9, h.byte10, h.byte11⟩

/-- The rate is assigned whatever the buffer held. -/
theorem image_rate (duration : Option ℕ) :
    run mem (copyStores a tx ++ descriptorStores cfg a tx duration) (tx + 3) = UInt8.ofNat a.rate := by
  rw [run_append]
  have hbyte := congrArg (List.getD · 3 0) (@run_descriptor cfg a tx (run mem (copyStores a tx)) duration)
  exact hbyte

/-- Behind the descriptor the buffer holds what was copied. -/
theorem image_copied (duration : Option ℕ) {k : ℕ} (hk : k < a.prologue + 4 * a.words) :
    run mem (copyStores a tx ++ descriptorStores cfg a tx duration) (tx + 12 + k) = a.src k := by
  rw [run_append, run_of_not_mem fun st hst => ?_, copyStores_eq]
  · exact run_copy mem (tx + 12) a.src hk
  · have hhigh := (addr_descriptor duration st hst).2
    omega

/-- **The frame in the buffer**, unless its last byte is lost. -/
theorem image_frame (duration : Option ℕ) (hkept : ¬ (a.seg = 3 ∧ a.len % 4 = 2)) :
    bytesAt (run mem (copyStores a tx ++ descriptorStores cfg a tx duration)) (tx + 12) a.len =
      a.frame := by
  have hcopied := copied_of_kept hkept
  unfold bytesAt TxArgs.frame
  apply List.map_congr_left
  intro k hk
  exact image_copied duration ((List.mem_range.mp hk).trans_le hcopied)

/-- **The last byte is lost**: at alignment 3, with two bytes over a multiple of
four, the buffer keeps what it held there. -/
theorem lastByte_kept (duration : Option ℕ) (hlost : a.seg = 3 ∧ a.len % 4 = 2) :
    run mem (copyStores a tx ++ descriptorStores cfg a tx duration) (tx + 12 + (a.len - 1)) =
      mem (tx + 12 + (a.len - 1)) := by
  have hcopied := copied_of_lost hlost
  rw [copyStores_eq]
  refine run_of_not_mem fun st hst => ?_
  rcases List.mem_append.mp hst with hcopy | hdesc
  · have hhigh := (addr_copy hcopy).2
    omega
  · have hhigh := (addr_descriptor duration st hdesc).2
    omega

/-- Every store is to the buffer. -/
theorem addr_lt (slot : TxSlot) (duration : Option ℕ) (hfits : a.len + 22 ≤ txUrbSize) :
    ∀ st ∈ copyStores a (slot.tx a) ++ descriptorStores cfg a (slot.tx a) duration,
      st.addr < txUrbSize := by
  intro st hst
  have hslot := slot.aligned
  have hcopied := @copied_le a
  have htx : slot.tx a = slot.ptalignBuf + a.seg := rfl
  rcases List.mem_append.mp hst with hcopy | hdesc
  · rw [copyStores_eq] at hcopy
    have hhigh := (addr_copy hcopy).2
    omega
  · have hhigh := (addr_descriptor duration st hdesc).2
    have hseg := a.aligned
    omega

theorem urbLen_eq (len : ℕ) : urbLen len = 12 + len + if (12 + len) % 64 = 0 then 1 else 0 := by
  unfold urbLen
  split_ifs <;> omega

theorem length_bytesAt (mem : ℕ → UInt8) (addr n : ℕ) : (bytesAt mem addr n).length = n := by
  unfold bytesAt
  rw [List.length_map, List.length_range]

theorem bytesAt_add (mem : ℕ → UInt8) (addr m n : ℕ) :
    bytesAt mem addr (m + n) = bytesAt mem addr m ++ bytesAt mem (addr + m) n := by
  unfold bytesAt
  rw [List.range_add, List.map_append, List.map_map]
  congr 1
  apply List.map_congr_left
  intro k _
  exact congrArg mem (Nat.add_assoc addr m k).symm

theorem take_bytesAt (mem : ℕ → UInt8) (addr : ℕ) {m n : ℕ} (h : m ≤ n) :
    (bytesAt mem addr n).take m = bytesAt mem addr m := by
  obtain ⟨k, rfl⟩ := Nat.exists_eq_add_of_le h
  rw [bytesAt_add, List.take_left' (length_bytesAt mem addr m)]

/-- **The image of a URB.** For every call at one of the twelve rates, with a
frame that leaves room for the alignment: nothing is written or submitted outside
the buffer; the URB has twelve bytes and those of the frame, and one more when
that is a multiple of 64; it begins with the descriptor and the frame, unless
the last byte is lost or what the buffer held shows; and its rate field is the
rate in any case. -/
theorem urb_image (cfg : TxConfig) (a : TxArgs) (slot : TxSlot) (hrate : a.rate ≤ 11)
    (hfits : a.len + 22 ≤ txUrbSize) :
    ∃ prog slot' urb, txStores cfg a (slot.tx a) = some prog ∧ slot.fill cfg a = some (slot', urb) ∧
      (∀ st ∈ prog, st.addr < txUrbSize) ∧ slot.tx a + urb.length ≤ txUrbSize ∧
      urb.length = 12 + a.len + (if (12 + a.len) % 64 = 0 then 1 else 0) ∧
      (¬ (a.seg = 3 ∧ a.len % 4 = 2) → Unassigned cfg a slot.mem (slot.tx a) →
        urb.take (12 + a.len) = descriptor cfg a ++ a.frame) ∧
      urb.getD 3 0 = UInt8.ofNat a.rate ∧ (urb.getD 3 0).toNat ≤ 11 := by
  have hprog := @txStores_eq cfg a hrate (slot.tx a)
  have hlen := urbLen_eq a.len
  have hroom : slot.tx a + urbLen a.len ≤ txUrbSize := by
    have hslot := slot.aligned
    have hseg := a.aligned
    have htx : slot.tx a = slot.ptalignBuf + a.seg := rfl
    rw [hlen]
    split_ifs <;> omega
  have hbyte : (bytesAt (run slot.mem (copyStores a (slot.tx a) ++
      descriptorStores cfg a (slot.tx a) (rtsDuration cfg a))) (slot.tx a) (urbLen a.len)).getD 3 0 =
        UInt8.ofNat a.rate := by
    have hin : 3 < urbLen a.len := by omega
    unfold bytesAt
    rw [List.getD_eq_getElem?_getD, List.getElem?_map, List.getElem?_range hin]
    exact image_rate _
  refine ⟨_, _, _, hprog, by rw [TxSlot.fill, hprog]; rfl, addr_lt slot _ hfits, ?_, ?_, ?_, hbyte, ?_⟩
  · rwa [length_bytesAt]
  · rw [length_bytesAt, hlen]
  · intro hkept hclean
    rw [take_bytesAt _ _ (by omega), bytesAt_add]
    exact congrArg₂ (· ++ ·) (image_descriptor.mpr hclean) (image_frame _ hkept)
  · rw [hbyte, UInt8.toNat_ofNat']
    omega

end

/-- A device without RTS and short preamble. -/
def plainConfig : TxConfig := ⟨false, 2, 0, 10⟩

/-- A data frame of 52 zeros at 11 Mb/s. -/
def plainCall : TxArgs := ⟨fun _ => 0, 52, 0, by decide, .low, false, 3⟩

/-- A buffer of zeros. -/
def blankSlot : TxSlot := ⟨fun _ => 0, 0, by decide⟩

theorem urb_image_plain : plainCall.rate ≤ 11 ∧ plainCall.len + 22 ≤ txUrbSize ∧
    ∃ prog slot' urb, txStores plainConfig plainCall (blankSlot.tx plainCall) = some prog ∧
      blankSlot.fill plainConfig plainCall = some (slot', urb) ∧
      (∀ st ∈ prog, st.addr < txUrbSize) ∧ blankSlot.tx plainCall + urb.length ≤ txUrbSize ∧
      urb.length = 12 + plainCall.len + (if (12 + plainCall.len) % 64 = 0 then 1 else 0) ∧
      (¬ (plainCall.seg = 3 ∧ plainCall.len % 4 = 2) →
        Unassigned plainConfig plainCall blankSlot.mem (blankSlot.tx plainCall) →
        urb.take (12 + plainCall.len) = descriptor plainConfig plainCall ++ plainCall.frame) ∧
      urb.getD 3 0 = UInt8.ofNat plainCall.rate ∧ (urb.getD 3 0).toNat ≤ 11 :=
  ⟨by decide, by decide, urb_image plainConfig plainCall blankSlot (by decide) (by decide)⟩

/-- Descriptor and frame are 64 bytes then, and the URB has 65. -/
theorem urb_padded : ¬ ∃ desc : TxConfig → TxArgs → List UInt8,
    (∀ cfg a, (desc cfg a).length = 12) ∧
    ∀ (cfg : TxConfig) (a : TxArgs) (slot : TxSlot), a.rate ≤ 11 → a.len + 22 ≤ txUrbSize →
      ∃ slot', slot.fill cfg a = some (slot', desc cfg a ++ a.frame) := by
  rintro ⟨desc, hdesc, h⟩
  obtain ⟨slot', hfill⟩ := h plainConfig plainCall blankSlot (by decide) (by decide)
  rw [TxSlot.fill, txStores_eq (by decide), Option.map_some, Option.some_inj, Prod.mk.injEq] at hfill
  have hlength := congrArg List.length hfill.2
  rw [length_bytesAt, List.length_append, hdesc, TxArgs.frame, List.length_map, List.length_range] at hlength
  exact absurd hlength (by decide)

end Rtl8187

/-
# A serial memory on three wires

The 93Cx6 family of serial memories: while the chip is selected, each rising edge
of its clock takes in one data bit, and after a read command each one gives
out the next bit of the word, the highest first. `w` is the width of an address and
`n` that of a word. A chip powers up with its writing disabled, and changes its
memory only when it is deselected after a whole command that does so.

Key definitions: `bits`, `ofBits`, `firstBits`, `Pins`, `Chip`, `clock`, `move`.
Key theorems: `ofBits_bits`, `firstBits_succ`, `move_cycle`, `move_mem`, `clocks_read`, `clock_reading`.
-/
import Mathlib.Data.List.Basic
import Mathlib.Algebra.Order.Ring.Nat

namespace Microwire

/-! ### Bits, the highest first -/

/-- The low `n` bits of `x`. -/
def bits (x : ℕ) : ℕ → List Bool
  | 0 => []
  | n + 1 => x.testBit n :: bits x n

/-- The number that a list of bits spells. -/
def ofBits (bs : List Bool) : ℕ := bs.foldl (fun acc b => 2 * acc + b.toNat) 0

@[simp] theorem length_bits (x n : ℕ) : (bits x n).length = n := by
  induction n with
  | zero => rfl
  | succ n ih => rw [bits, List.length_cons, ih]

theorem foldl_bits (x : ℕ) : ∀ n acc : ℕ,
    (bits x n).foldl (fun acc b => 2 * acc + b.toNat) acc = acc * 2 ^ n + x % 2 ^ n
  | 0, acc => by simp [bits, Nat.mod_one]
  | n + 1, acc => by
    have hmod : x % 2 ^ (n + 1) = x % 2 ^ n + 2 ^ n * (x.testBit n).toNat := by
      rw [Nat.mod_pow_succ, Nat.toNat_testBit]
    rw [bits, List.foldl_cons, foldl_bits x n]
    calc (2 * acc + (x.testBit n).toNat) * 2 ^ n + x % 2 ^ n
        = acc * (2 ^ n * 2) + (x % 2 ^ n + 2 ^ n * (x.testBit n).toNat) := by
          rw [Nat.add_mul, Nat.mul_comm 2 acc, Nat.mul_assoc, Nat.mul_comm 2 (2 ^ n),
            Nat.mul_comm (x.testBit n).toNat]
          omega
      _ = acc * 2 ^ (n + 1) + x % 2 ^ (n + 1) := by rw [hmod, Nat.pow_succ]

theorem ofBits_bits (x n : ℕ) : ofBits (bits x n) = x % 2 ^ n := by
  rw [ofBits, foldl_bits, Nat.zero_mul, Nat.zero_add]

/-- What a reader has of the low `n` bits once it has placed the first `i` of them. -/
def firstBits (x n i : ℕ) : ℕ := (x % 2 ^ n) >>> (n - i) <<< (n - i)

theorem testBit_firstBits (x n i j : ℕ) :
    (firstBits x n i).testBit j = (decide (n - i ≤ j) && (decide (j < n) && x.testBit j)) := by
  rw [firstBits, Nat.testBit_shiftLeft, Nat.testBit_shiftRight, Nat.testBit_mod_two_pow]
  rcases Nat.lt_or_ge j (n - i) with hj | hj
  · rw [decide_eq_false (Nat.not_le.mpr hj), Bool.false_and, Bool.false_and]
  · rw [Nat.add_sub_of_le hj]

theorem firstBits_zero (x n : ℕ) : firstBits x n 0 = 0 := by
  have h : x % 2 ^ n < 2 ^ n := Nat.mod_lt _ (Nat.two_pow_pos n)
  rw [firstBits, Nat.sub_zero, Nat.shiftRight_eq_div_pow, Nat.div_eq_of_lt h, Nat.zero_shiftLeft]

theorem firstBits_self (x n : ℕ) : firstBits x n n = x % 2 ^ n := by
  rw [firstBits, Nat.sub_self, Nat.shiftRight_zero, Nat.shiftLeft_zero]

theorem firstBits_succ {x n i : ℕ} (h : i < n) :
    firstBits x n (i + 1) = firstBits x n i ||| (x.testBit (n - 1 - i)).toNat <<< (n - 1 - i) := by
  apply Nat.eq_of_testBit_eq
  intro j
  rw [Nat.testBit_or, testBit_firstBits, testBit_firstBits, Nat.testBit_shiftLeft, Nat.testBit_bool_toNat]
  rcases Nat.lt_trichotomy j (n - 1 - i) with hj | hj | hj
  · simp only [decide_eq_false (show ¬ n - (i + 1) ≤ j by omega), decide_eq_false (show ¬ n - i ≤ j by omega),
      decide_eq_false (show ¬ n - 1 - i ≤ j by omega), Bool.false_and, Bool.or_self]
  · subst hj
    simp only [decide_eq_true (show n - (i + 1) ≤ n - 1 - i by omega),
      decide_eq_false (show ¬ n - i ≤ n - 1 - i by omega), decide_eq_true (show n - 1 - i < n by omega), Nat.sub_self, Nat.le_refl, decide_true, Bool.true_and,
      Bool.false_and, Bool.false_or]
  · simp only [decide_eq_true (show n - (i + 1) ≤ j by omega), decide_eq_true (show n - i ≤ j by omega),
      decide_eq_false (show ¬ j - (n - 1 - i) = 0 by omega), Bool.true_and, Bool.false_and, Bool.and_false,
      Bool.or_false]

/-! ### The chip -/

/-- The levels of the wires to the chip: select, clock and data. -/
structure Pins where
  cs : Bool
  ck : Bool
  di : Bool
  deriving DecidableEq, Repr

/-- Where the chip is in a command. A command that stores has the address it stores
at, or none where it stores at all of them. -/
inductive Phase where
  | standby
  | waiting
  | command (got : List Bool)
  | reading (left : List Bool)
  | loading (addr : Option ℕ) (got : List Bool)
  | armed (addr : Option ℕ) (word : ℕ)
  | spent
  deriving DecidableEq, Repr

structure Chip (w n : ℕ) where
  mem : ℕ → ℕ
  enabled : Bool
  phase : Phase
  dout : Bool
  pins : Pins

namespace Chip

variable {w n : ℕ}

/-- What the chip does with a whole command: an opcode of two bits and an address. -/
def decode (c : Chip w n) : List Bool → Chip w n
  | true :: false :: addr =>
    { c with dout := false, phase := .reading (bits (c.mem (ofBits addr)) n) }
  | false :: true :: addr => { c with phase := .loading (some (ofBits addr)) [] }
  | true :: true :: addr => { c with phase := .armed (some (ofBits addr)) (2 ^ n - 1) }
  | false :: false :: true :: true :: _ => { c with enabled := true, phase := .spent }
  | false :: false :: false :: false :: _ => { c with enabled := false, phase := .spent }
  | false :: false :: true :: false :: _ => { c with phase := .armed none (2 ^ n - 1) }
  | false :: false :: false :: true :: _ => { c with phase := .loading none [] }
  | _ => { c with phase := .spent }

/-- A rising edge of the clock while the chip is selected. -/
def clock (c : Chip w n) (di : Bool) : Chip w n :=
  match c.phase with
  | .waiting => if di then { c with phase := .command [] } else c
  | .command got =>
    if got.length + 1 < w + 2 then { c with phase := .command (got ++ [di]) }
    else c.decode (got ++ [di])
  | .reading (b :: left) => { c with dout := b, phase := .reading left }
  | .loading addr got =>
    if got.length + 1 < n then { c with phase := .loading addr (got ++ [di]) }
    else { c with phase := .armed addr (ofBits (got ++ [di])) }
  | _ => c

/-- The chip stores when it is deselected. -/
def deselect (c : Chip w n) : Chip w n :=
  match c.phase with
  | .armed addr word =>
    { c with
      mem := if c.enabled then fun a => if addr = none ∨ addr = some a then word else c.mem a else c.mem
      phase := .standby }
  | _ => { c with phase := .standby }

/-- The wires take new levels. -/
def move (c : Chip w n) (p : Pins) : Chip w n :=
  if p.cs then
    if c.pins.cs then
      if p.ck && !c.pins.ck then { c.clock p.di with pins := p } else { c with pins := p }
    else { c with phase := .waiting, pins := p }
  else { c.deselect with pins := p }

/-! ### What one edge does -/

theorem decode_pins (c : Chip w n) (got : List Bool) : (c.decode got).pins = c.pins := by
  unfold decode
  split <;> rfl

theorem decode_mem (c : Chip w n) (got : List Bool) : (c.decode got).mem = c.mem := by
  unfold decode
  split <;> rfl

theorem clock_pins (c : Chip w n) (di : Bool) : (c.clock di).pins = c.pins := by
  unfold clock
  split
  · split <;> rfl
  · split
    · rfl
    · exact c.decode_pins _
  · rfl
  · split <;> rfl
  · rfl

theorem clock_mem (c : Chip w n) (di : Bool) : (c.clock di).mem = c.mem := by
  unfold clock
  split
  · split <;> rfl
  · split
    · rfl
    · exact c.decode_mem _
  · rfl
  · split <;> rfl
  · rfl

/-- A clock edge reads nothing of the levels but the data bit. -/
theorem clock_setPins (c : Chip w n) (p : Pins) (di : Bool) :
    ({ c with pins := p } : Chip w n).clock di = { c.clock di with pins := p } := by
  have hdecode : ∀ got, ({ c with pins := p } : Chip w n).decode got = { c.decode got with pins := p } := by
    intro got
    unfold decode
    split <;> rfl
  obtain ⟨mem, enabled, phase, dout, pins⟩ := c
  cases phase with
  | waiting => cases di <;> rfl
  | command got =>
    simp only [clock]
    split
    · rfl
    · exact hdecode _
  | loading addr got =>
    simp only [clock]
    split <;> rfl
  | reading left => cases left <;> rfl
  | standby => rfl
  | armed addr word => rfl
  | spent => rfl

theorem deselect_mem {c : Chip w n} (h : c.enabled = false) : c.deselect.mem = c.mem := by
  unfold deselect
  split
  · simp [h]
  · rfl

theorem deselect_enabled (c : Chip w n) : c.deselect.enabled = c.enabled := by
  unfold deselect
  split <;> rfl

/-- A chip whose writing is disabled keeps its memory, whatever the wires do. -/
theorem move_mem {c : Chip w n} (h : c.enabled = false) (p : Pins) : (c.move p).mem = c.mem := by
  unfold move
  split
  · split
    · split
      · exact c.clock_mem _
      · rfl
    · rfl
  · exact deselect_mem h

/-- A chip enables its writing only while it is selected. -/
theorem move_unselected_enabled (c : Chip w n) {p : Pins} (h : p.cs = false) :
    (c.move p).enabled = c.enabled := by
  rw [move, h]
  exact c.deselect_enabled

theorem move_select {c : Chip w n} (h : c.pins.cs = false) {p : Pins} (hp : p.cs = true) :
    c.move p = { c with phase := .waiting, pins := p } := by
  simp [move, h, hp]

/-- The data wire changes between two edges. -/
theorem move_data {c : Chip w n} {d : Bool} (h : c.pins = ⟨true, false, d⟩) (d' : Bool) :
    c.move ⟨true, false, d'⟩ = { c with pins := ⟨true, false, d'⟩ } := by
  simp [move, h]

/-- The clock goes up and down while the data wire stays. -/
theorem move_cycle {c : Chip w n} {d : Bool} (h : c.pins = ⟨true, false, d⟩) :
    (c.move ⟨true, true, d⟩).move ⟨true, false, d⟩ = c.clock d := by
  have hp := c.clock_pins d
  simp only [move, h, Bool.not_false, Bool.and_true, Bool.not_true, Bool.and_false, if_true,
    Bool.false_eq_true, if_false]
  rw [← h, ← hp]

/-! ### The read command -/

theorem decode_phase (c : Chip w n) (ph : Phase) (got : List Bool) :
    ({ c with phase := ph } : Chip w n).decode got = c.decode got := by
  unfold decode
  split <;> rfl

/-- The bits of a command are kept until the last one. -/
theorem clocks_command {c : Chip w n} : ∀ {bs got : List Bool}, c.phase = .command got →
    got.length + bs.length < w + 2 →
    bs.foldl clock c = { c with phase := .command (got ++ bs) }
  | [], got, hc, _ => by
    rw [List.foldl_nil, List.append_nil, ← hc]
  | b :: bs, got, hc, hl => by
    have hstep : c.clock b = { c with phase := .command (got ++ [b]) } := by
      rw [clock, hc]
      simp only [List.length_cons] at hl
      exact if_pos (by omega)
    rw [List.foldl_cons, hstep,
      @clocks_command { c with phase := .command (got ++ [b]) } bs (got ++ [b]) rfl (by
        simp only [List.length_append, List.length_cons, List.length_nil] at hl ⊢
        omega),
      List.append_assoc, List.singleton_append]

/-- A whole command is decoded at its last bit. -/
theorem clocks_decode {c : Chip w n} {bs : List Bool} (hc : c.phase = .command [])
    (hl : bs.length = w + 2) : bs.foldl clock c = c.decode bs := by
  obtain ⟨init, b, rfl⟩ : ∃ init b, bs = init ++ [b] := by
    rcases List.eq_nil_or_concat bs with rfl | ⟨init, b, rfl⟩
    · simp at hl
    · exact ⟨init, b, List.concat_eq_append⟩
  rw [List.length_append, List.length_singleton] at hl
  have hinit := @clocks_command w n c init [] hc (by rw [List.length_nil]; omega)
  rw [List.foldl_append, hinit, List.nil_append, List.foldl_cons, List.foldl_nil, clock]
  exact (if_neg (by omega)).trans (decode_phase c _ _)

/-- From its selection a chip waits through clocks with the data low, and takes a start
bit, the read opcode and an address; it then has the word at that address to give out. -/
theorem clocks_read {c : Chip w n} (hc : c.phase = .waiting) (addr : ℕ) :
    (false :: true :: true :: false :: bits addr w).foldl clock c =
      { c with dout := false, phase := .reading (bits (c.mem (addr % 2 ^ w)) n) } := by
  have hwait : c.clock false = c := by rw [clock, hc]; rfl
  have hstart : c.clock true = { c with phase := .command [] } := by rw [clock, hc]; rfl
  have hcommand := @clocks_decode w n { c with phase := .command [] } (true :: false :: bits addr w) rfl (by simp)
  rw [List.foldl_cons, hwait, List.foldl_cons, hstart, hcommand, decode_phase, decode, ofBits_bits]

/-- Each further edge gives out the next bit of the word. -/
theorem clock_reading {c : Chip w n} {x k : ℕ} (hc : c.phase = .reading (bits x (k + 1))) (di : Bool) :
    c.clock di = { c with dout := x.testBit k, phase := .reading (bits x k) } := by
  rw [clock, hc]
  rfl

end Chip

end Microwire

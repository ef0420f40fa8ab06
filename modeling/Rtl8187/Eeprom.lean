/-
# Reading the card's EEPROM

`r8180_93cx6.c`: the EPROM_CMD register drives the wires of a serial EEPROM while its
mode bits say so, and `eprom_read` clocks a read command out and a word in, one
register write at a time.

Key definitions: `EpromPort`, `epromRead`, `epromReads`.
Key theorems: `epromRead_eq`, `eprom_reads`.
-/
import Rtl8187.Lib.Microwire
import Rtl8187.Lib.Run
import Mathlib.Data.Nat.Bitwise

namespace Rtl8187

open Microwire

/-! ### The port and the functions on it -/

/-- `EPROM_93c46` and `EPROM_93c56` -/
inductive EpromType where
  | e93c46
  | e93c56
  deriving DecidableEq, Repr

/-- `addr_len` -/
def EpromType.addrLen : EpromType → ℕ
  | .e93c46 => 6
  | .e93c56 => 8

def epromCmdNormal : UInt8 := 0
def epromCmdProgram : UInt8 := 2
def epromCmdOperatingModeShift : UInt8 := 6
def epromCsShift : UInt8 := 3
def epromCkShift : UInt8 := 2
def epromWShift : UInt8 := 1
def epromRShift : UInt8 := 0

/-- The EPROM_CMD register as it was written last, and the chip behind it. Its type is
the one that RCR reports, `priv->epromtype`. -/
structure EpromPort (t : EpromType) where
  cmd : UInt8
  chip : Chip t.addrLen 16

namespace EpromPort

variable {t : EpromType}

/-- The card drives the wires from the register in programming mode alone. -/
def wires (cmd : UInt8) : Pins :=
  if cmd >>> epromCmdOperatingModeShift = epromCmdProgram then
    { cs := cmd &&& (1 <<< epromCsShift) ≠ 0
      ck := cmd &&& (1 <<< epromCkShift) ≠ 0
      di := cmd &&& (1 <<< epromWShift) ≠ 0 }
  else ⟨false, false, false⟩

/-- `write_nic_byte(dev, EPROM_CMD, …)`; the bit that reads the chip is not written. -/
def writeNicByte (port : EpromPort t) (val : UInt8) : EpromPort t :=
  let cmd := val &&& ~~~(1 <<< epromRShift)
  { cmd := cmd, chip := port.chip.move (wires cmd) }

/-- `read_nic_byte(dev, EPROM_CMD)` -/
def readNicByte (port : EpromPort t) : UInt8 :=
  port.cmd ||| if port.chip.dout then 1 <<< epromRShift else 0

/-- How the functions below set or clear one bit of the register. -/
def epromLine (shift : UInt8) (port : EpromPort t) (bit : ℕ) : EpromPort t :=
  if bit ≠ 0 then port.writeNicByte ((1 <<< shift) ||| port.readNicByte)
  else port.writeNicByte (port.readNicByte &&& ~~~(1 <<< shift))

def epromCs (port : EpromPort t) (bit : ℕ) : EpromPort t := epromLine epromCsShift port bit

def epromCkCycle (port : EpromPort t) : EpromPort t :=
  epromLine epromCkShift (epromLine epromCkShift port 1) 0

def epromW (port : EpromPort t) (bit : ℕ) : EpromPort t := epromLine epromWShift port bit

def epromR (port : EpromPort t) : ℕ :=
  if port.readNicByte &&& (1 <<< epromRShift) ≠ 0 then 1 else 0

def epromSendBitsString (port : EpromPort t) (b : List ℕ) : EpromPort t :=
  b.foldl (fun port bit => (port.epromW bit).epromCkCycle) port

/-- The start bit and the opcode of a read. -/
def readCmd : List ℕ := [1, 1, 0]

/-- `addr_str`, its first `addr_len` entries. -/
def addrStr (addr : ℕ) : EpromType → List ℕ
  | .e93c56 => [addr &&& 1 <<< 7, addr &&& 1 <<< 6, addr &&& 1 <<< 5, addr &&& 1 <<< 4,
      addr &&& 1 <<< 3, addr &&& 1 <<< 2, addr &&& 1 <<< 1, addr &&& 1]
  | .e93c46 => [addr &&& 1 <<< 5, addr &&& 1 <<< 4, addr &&& 1 <<< 3, addr &&& 1 <<< 2,
      addr &&& 1 <<< 1, addr &&& 1]

/-- One turn of the loop that reads the word. -/
def readBit (s : ℕ × EpromPort t) (i : ℕ) : ℕ × EpromPort t :=
  let port := s.2.epromCkCycle
  (s.1 ||| port.epromR <<< (15 - i), port)

def epromRead (port : EpromPort t) (addr : ℕ) : ℕ × EpromPort t :=
  let port := port.writeNicByte (epromCmdProgram <<< epromCmdOperatingModeShift)
  let port := port.epromCs 1
  let port := port.epromCkCycle
  let port := port.epromSendBitsString readCmd
  let port := port.epromSendBitsString (addrStr addr t)
  let port := port.epromW 0
  let (ret, port) := (List.range' 0 16).foldl readBit (0, port)
  let port := port.epromCs 0
  let port := port.epromCkCycle
  (ret, port.writeNicByte (epromCmdNormal <<< epromCmdOperatingModeShift))

/-- Reads one after the other, and the words they give. -/
def epromReads (port : EpromPort t) : List ℕ → List ℕ × EpromPort t
  | [] => ([], port)
  | addr :: addrs =>
    let (word, port) := port.epromRead addr
    let (words, port) := port.epromReads addrs
    (word :: words, port)

/-! ### The wires -/

/-- The register that shows `p` in programming mode. -/
def cmdOf (p : Pins) : UInt8 :=
  (epromCmdProgram <<< epromCmdOperatingModeShift) ||| (if p.cs then 1 <<< epromCsShift else 0) |||
    (if p.ck then 1 <<< epromCkShift else 0) ||| if p.di then 1 <<< epromWShift else 0

/-- A port in programming mode. -/
def showing (p : Pins) (c : Chip t.addrLen 16) : EpromPort t := ⟨cmdOf p, c⟩

theorem wires_cmdOf (p : Pins) : wires (cmdOf p) = p := by
  have h : ∀ cs ck di : Bool, wires (cmdOf ⟨cs, ck, di⟩) = ⟨cs, ck, di⟩ := by decide
  exact h p.cs p.ck p.di

theorem writeNicByte_showing (p q : Pins) (c : Chip t.addrLen 16) {val : UInt8}
    (h : val &&& ~~~(1 <<< epromRShift) = cmdOf q) :
    (showing p c).writeNicByte val = showing q (c.move q) := by
  rw [writeNicByte, h]
  exact congrArg (fun pins => (⟨cmdOf q, c.move pins⟩ : EpromPort t)) (wires_cmdOf q)

/-- What a register bit that drives one wire does, where setting and clearing it are right. -/
theorem epromLine_showing {shift : UInt8} {line : Pins → Bool → Pins}
    (hset : ∀ cs ck di d : Bool, ((1 <<< shift) ||| (cmdOf ⟨cs, ck, di⟩ ||| if d then 1 <<< epromRShift else 0))
      &&& ~~~(1 <<< epromRShift) = cmdOf (line ⟨cs, ck, di⟩ true))
    (hclear : ∀ cs ck di d : Bool, ((cmdOf ⟨cs, ck, di⟩ ||| if d then 1 <<< epromRShift else 0) &&&
      ~~~(1 <<< shift)) &&& ~~~(1 <<< epromRShift) = cmdOf (line ⟨cs, ck, di⟩ false))
    (p : Pins) (c : Chip t.addrLen 16) (bit : ℕ) :
    epromLine shift (showing p c) bit =
      showing (line p (decide (bit ≠ 0))) (c.move (line p (decide (bit ≠ 0)))) := by
  unfold epromLine
  split
  · next h =>
    rw [decide_eq_true h]
    exact writeNicByte_showing p _ c (hset p.cs p.ck p.di c.dout)
  · next h =>
    rw [decide_eq_false h]
    exact writeNicByte_showing p _ c (hclear p.cs p.ck p.di c.dout)

theorem epromCs_showing (p : Pins) (c : Chip t.addrLen 16) (bit : ℕ) :
    (showing p c).epromCs bit =
      showing { p with cs := decide (bit ≠ 0) } (c.move { p with cs := decide (bit ≠ 0) }) :=
  @epromLine_showing t epromCsShift (fun p level => { p with cs := level }) (by decide) (by decide) p c bit

theorem epromW_showing (p : Pins) (c : Chip t.addrLen 16) (bit : ℕ) :
    (showing p c).epromW bit =
      showing { p with di := decide (bit ≠ 0) } (c.move { p with di := decide (bit ≠ 0) }) :=
  @epromLine_showing t epromWShift (fun p level => { p with di := level }) (by decide) (by decide) p c bit

theorem epromCkCycle_showing (p : Pins) (c : Chip t.addrLen 16) :
    (showing p c).epromCkCycle =
      showing { p with ck := false } ((c.move { p with ck := true }).move { p with ck := false }) := by
  have hline : ∀ (p : Pins) (c : Chip t.addrLen 16) (bit : ℕ), epromLine epromCkShift (showing p c) bit =
      showing { p with ck := decide (bit ≠ 0) } (c.move { p with ck := decide (bit ≠ 0) }) :=
    @epromLine_showing t epromCkShift (fun p level => { p with ck := level }) (by decide) (by decide)
  rw [epromCkCycle, hline, hline]
  rfl

theorem epromR_showing (p : Pins) (c : Chip t.addrLen 16) : (showing p c).epromR = c.dout.toNat := by
  have hbit : ∀ cs ck di d : Bool, (if (cmdOf ⟨cs, ck, di⟩ ||| if d then 1 <<< epromRShift else 0) &&&
      (1 <<< epromRShift) ≠ 0 then 1 else 0) = d.toNat := by decide
  exact hbit p.cs p.ck p.di c.dout

/-! ### A selected chip -/

/-- The chip is selected, its clock is low and its data wire at `d`. -/
def selected (d : Bool) (c : Chip t.addrLen 16) : EpromPort t :=
  showing ⟨true, false, d⟩ { c with pins := ⟨true, false, d⟩ }

theorem epromW_selected (d : Bool) (c : Chip t.addrLen 16) (bit : ℕ) :
    (selected d c).epromW bit = selected (decide (bit ≠ 0)) c := by
  have hmove := @Chip.move_data t.addrLen 16 { c with pins := ⟨true, false, d⟩ } d rfl (decide (bit ≠ 0))
  rw [selected, epromW_showing, hmove, selected]

theorem epromCkCycle_selected (d : Bool) (c : Chip t.addrLen 16) :
    (selected d c).epromCkCycle = selected d (c.clock d) := by
  have hcycle := @Chip.move_cycle t.addrLen 16 { c with pins := ⟨true, false, d⟩ } d rfl
  rw [selected, epromCkCycle_showing, hcycle, Chip.clock_setPins, selected]

theorem epromSendBitsString_selected (b : List ℕ) : ∀ (d : Bool) (c : Chip t.addrLen 16),
    ∃ d', (selected d c).epromSendBitsString b =
      selected d' ((b.map fun bit => decide (bit ≠ 0)).foldl Chip.clock c) := by
  induction b with
  | nil => exact fun d c => ⟨d, rfl⟩
  | cons bit b ih =>
    intro d c
    have hstep : ((selected d c).epromW bit).epromCkCycle =
        selected (decide (bit ≠ 0)) (c.clock (decide (bit ≠ 0))) := by
      rw [epromW_selected, epromCkCycle_selected]
    obtain ⟨d', hd'⟩ := ih (decide (bit ≠ 0)) (c.clock (decide (bit ≠ 0)))
    refine ⟨d', ?_⟩
    rw [List.map_cons, List.foldl_cons, ← hd', ← hstep]
    rfl

theorem addrStr_bits (addr : ℕ) (t : EpromType) :
    (addrStr addr t).map (fun bit => decide (bit ≠ 0)) = bits addr t.addrLen := by
  have hbit : ∀ i, decide (addr &&& 1 <<< i ≠ 0) = addr.testBit i := by
    intro i
    rw [Nat.one_shiftLeft, Nat.and_two_pow]
    cases addr.testBit i with
    | true => simp
    | false => simp
  have hbit0 : decide (addr &&& 1 ≠ 0) = addr.testBit 0 := hbit 0
  cases t with
  | e93c46 => simp only [addrStr, List.map_cons, List.map_nil, hbit, hbit0]; rfl
  | e93c56 => simp only [addrStr, List.map_cons, List.map_nil, hbit, hbit0]; rfl

/-- The loop that reads the word: each turn places the chip's next bit. -/
theorem readBits_selected {c : Chip t.addrLen 16} {x : ℕ} (hc : c.phase = .reading (bits x 16)) (d : Bool) :
    ∃ b, (List.range' 0 16).foldl readBit (0, selected d c) =
      (x % 2 ^ 16, selected d { c with dout := b, phase := .reading [] }) := by
  have hloop := @Run.inv_count _ readBit
    (fun i s => s.1 = firstBits x 16 i ∧
      ∃ b, s.2 = selected d ({ c with dout := b, phase := .reading (bits x (16 - i)) } : Chip t.addrLen 16)) 0 16
    (0, selected d c) ⟨(firstBits_zero x 16).symm, c.dout, by rw [← hc]⟩ (by
      rintro i - hi ⟨ret, port⟩ ⟨hret, b, hport⟩
      have hrest : 16 - i = 15 - i + 1 := by omega
      have hclock := @Chip.clock_reading t.addrLen 16
        { c with dout := b, phase := .reading (bits x (16 - i)) } x (15 - i) (by rw [hrest]) d
      have hnext : 16 - (i + 1) = 15 - i := by omega
      simp only at hret hport
      rw [readBit]
      dsimp only
      rw [hport, hret, epromCkCycle_selected, hclock, hnext]
      refine ⟨?_, x.testBit (15 - i), rfl⟩
      rw [firstBits_succ hi]
      exact congrArg (fun bit => firstBits x 16 i ||| bit <<< (15 - i)) (epromR_showing _ _))
  obtain ⟨hret, b, hport⟩ := hloop
  exact ⟨b, Prod.ext (hret.trans (firstBits_self x 16)) hport⟩

/-! ### A whole read -/

/-- A write that leaves the chip unselected changes neither its memory nor whether it may. -/
theorem move_unselected {c : Chip t.addrLen 16} (h : c.enabled = false) {p : Pins} (hp : p.cs = false) :
    (c.move p).mem = c.mem ∧ (c.move p).enabled = false :=
  ⟨Chip.move_mem h p, (c.move_unselected_enabled hp).trans h⟩

/-- The writes from the selection of the chip to the last address bit. -/
theorem command_selected {c : Chip t.addrLen 16} (hc : c.phase = .waiting) (addr : ℕ) :
    (((selected false c).epromCkCycle.epromSendBitsString readCmd).epromSendBitsString (addrStr addr t)).epromW 0 =
      selected false { c with dout := false, phase := .reading (bits (c.mem (addr % 2 ^ t.addrLen)) 16) } := by
  obtain ⟨d₁, hopcode⟩ := epromSendBitsString_selected readCmd false (c.clock false)
  obtain ⟨d₂, haddr⟩ := epromSendBitsString_selected (addrStr addr t) d₁
    ((readCmd.map fun bit => decide (bit ≠ 0)).foldl Chip.clock (c.clock false))
  rw [addrStr_bits] at haddr
  have hcommand := Chip.clocks_read hc addr
  rw [epromCkCycle_selected, hopcode, haddr, epromW_selected]
  exact congrArg (selected false) hcommand

/-- The writes after the word: the chip is let go and the register is back in normal mode. -/
theorem release_selected {c : Chip t.addrLen 16} (hc : c.enabled = false) :
    ∃ chip, (((selected false c).epromCs 0).epromCkCycle).writeNicByte
        (epromCmdNormal <<< epromCmdOperatingModeShift) = ⟨epromCmdNormal, chip⟩ ∧
      chip.mem = c.mem ∧ chip.enabled = false := by
  obtain ⟨hmem₁, hen₁⟩ := @move_unselected t { c with pins := ⟨true, false, false⟩ } hc ⟨false, false, false⟩ rfl
  obtain ⟨hmem₂, hen₂⟩ := @move_unselected t _ hen₁ ⟨false, true, false⟩ rfl
  obtain ⟨hmem₃, hen₃⟩ := @move_unselected t _ hen₂ ⟨false, false, false⟩ rfl
  obtain ⟨hmem₄, hen₄⟩ := @move_unselected t _ hen₃ ⟨false, false, false⟩ rfl
  rw [selected, epromCs_showing, epromCkCycle_showing]
  exact ⟨_, rfl, hmem₄.trans (hmem₃.trans (hmem₂.trans hmem₁)), hen₄⟩

/-- The chip is selected out of whatever phase of a command it was in. -/
theorem select_selected {port : EpromPort t} (h : port.chip.enabled = false) :
    ∃ c, (port.writeNicByte (epromCmdProgram <<< epromCmdOperatingModeShift)).epromCs 1 = selected false c ∧
      c.phase = .waiting ∧ c.mem = port.chip.mem ∧ c.enabled = false := by
  obtain ⟨hmem, hen⟩ := @move_unselected t port.chip h ⟨false, false, false⟩ rfl
  have hprogram : port.writeNicByte (epromCmdProgram <<< epromCmdOperatingModeShift) =
      showing ⟨false, false, false⟩ (port.chip.move ⟨false, false, false⟩) := rfl
  refine ⟨{ port.chip.move ⟨false, false, false⟩ with phase := .waiting }, ?_, rfl, hmem, hen⟩
  rw [hprogram, epromCs_showing, Chip.move_select rfl rfl]
  rfl

/-- A read gives the word at the address and leaves the register in normal mode; it
neither changes the memory nor enables writing. -/
theorem epromRead_eq {port : EpromPort t} (h : port.chip.enabled = false) (addr : ℕ) :
    ∃ chip, port.epromRead addr = (port.chip.mem (addr % 2 ^ t.addrLen) % 2 ^ 16, ⟨epromCmdNormal, chip⟩) ∧
      chip.mem = port.chip.mem ∧ chip.enabled = false := by
  obtain ⟨c, hselect, hphase, hmem, hen⟩ := select_selected h
  have hcommand := command_selected hphase addr
  obtain ⟨b, hword⟩ := @readBits_selected t
    { c with dout := false, phase := .reading (bits (c.mem (addr % 2 ^ t.addrLen)) 16) } _ rfl false
  obtain ⟨chip, hrelease, hchip, hchipen⟩ := @release_selected t { c with dout := b, phase := .reading [] } hen
  refine ⟨chip, ?_, hchip.trans hmem, hchipen⟩
  rw [epromRead, hselect, hcommand, hword, ← hmem]
  exact congrArg (Prod.mk _) hrelease

/-- **Reads give the words of the memory**, one after the other, and never write it. -/
theorem eprom_reads {port : EpromPort t} (h : port.chip.enabled = false) (addrs : List ℕ) :
    (port.epromReads addrs).1 = addrs.map (fun addr => port.chip.mem (addr % 2 ^ t.addrLen) % 2 ^ 16) ∧
      (port.epromReads addrs).2.chip.mem = port.chip.mem ∧ (port.epromReads addrs).2.chip.enabled = false := by
  induction addrs generalizing port with
  | nil => exact ⟨rfl, rfl, h⟩
  | cons addr addrs ih =>
    obtain ⟨chip, hread, hmem, hen⟩ := epromRead_eq h addr
    obtain ⟨hwords, hmem', hen'⟩ := @ih ⟨epromCmdNormal, chip⟩ hen
    rw [epromReads, hread]
    refine ⟨?_, hmem'.trans hmem, hen'⟩
    rw [List.map_cons]
    dsimp only
    rw [hwords, hmem]

/-- A chip that would erase everything at the end of its command, were it enabled. -/
def erasing : EpromPort .e93c46 where
  cmd := epromCmdNormal
  chip := { mem := fun addr => 257 * addr, enabled := false, phase := .armed none 0xffff, dout := true,
            pins := ⟨true, false, true⟩ }

theorem eprom_reads_armed :
    (erasing.epromReads [7, 64 + 61]).1 = [257 * 7, 257 * 61] ∧
      (erasing.epromReads [7, 64 + 61]).2.chip.mem = erasing.chip.mem ∧
      (erasing.epromReads [7, 64 + 61]).2.chip.enabled = false :=
  @eprom_reads .e93c46 erasing rfl [7, 64 + 61]

end EpromPort

end Rtl8187

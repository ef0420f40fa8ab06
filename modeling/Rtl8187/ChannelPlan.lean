/-
# Channel plans

Which channels the device may use is settled by a plan: by `rtl8180_init`
(`r8187_core.c`) from a byte of the EEPROM, and by `r8180_wx_set_channelplan`
(`r8180_wx.c`) from a number user space gives. Each of the two files has a table of
plans of its own.

A call is what it reads of the table and the stores to `channel_map` it makes. A plan
that is in its table is taken over exactly where its channels are in the map, which is so
for all of one table and for all but the first of the other
(`setChannelplan_iff`, `initChannelplan_iff`).

Key definitions: `ChannelList`, `wxChannelPlan`, `coreChannelPlan`, `setChannelplan`,
`initChannelplan`, `TakesOver`.
Key theorems: `wxChannelPlan_fits`, `coreChannelPlan_fits`, `channelPlan_iff`.
-/
import Rtl8187.Lib.MemOps
import Rtl8187.Station

namespace Rtl8187

open MemOps

/-- `CHANNEL_LIST`: what `Channel` begins with, and `Len`. -/
structure ChannelList where
  channel : List UInt8
  len : UInt8

/-- `Channel[i]`; the array has `maxChannelNumber + 1` places, filled up with zeroes. -/
def ChannelList.at (plan : ChannelList) (i : ℕ) : ℕ := (plan.channel.getD i 0).toNat

/-- The channels of a plan. -/
def ChannelList.channels (plan : ChannelList) : List ℕ := (List.range plan.len.toNat).map plan.at

/-- `DefaultChannelPlan` of `r8180_wx.c` -/
def wxChannelPlan : List ChannelList := [
  ⟨[1, 2, 3, 4, 5, 6, 7, 8, 9, 10, 11, 12, 13, 14], 14⟩,
  ⟨[1, 2, 3, 4, 5, 6, 7, 8, 9, 10, 11, 36, 40, 44, 48, 52, 56, 60, 64], 19⟩,
  ⟨[1, 2, 3, 4, 5, 6, 7, 8, 9, 10, 11], 11⟩,
  ⟨[1, 2, 3, 4, 5, 6, 7, 8, 9, 10, 11, 12, 13, 36, 40, 44, 48, 52, 56, 60, 64], 21⟩,
  ⟨[1, 2, 3, 4, 5, 6, 7, 8, 9, 10, 11, 12, 13, 36, 40, 44, 48, 52, 56, 60, 64], 21⟩,
  ⟨[1, 2, 3, 4, 5, 6, 7, 8, 9, 10, 11, 12, 13, 36, 40, 44, 48, 52, 56, 60, 64], 21⟩,
  ⟨[14, 36, 40, 44, 48, 52, 56, 60, 64], 9⟩,
  ⟨[1, 2, 3, 4, 5, 6, 7, 8, 9, 10, 11, 12, 13, 14, 36, 40, 44, 48, 52, 56, 60, 64], 22⟩,
  ⟨[1, 2, 3, 4, 5, 6, 7, 8, 9, 10, 11, 12, 13, 36, 40, 44, 48, 52, 56, 60, 64], 21⟩,
  ⟨[1, 2, 3, 4, 5, 6, 7, 8, 9, 10, 11, 12, 13, 34, 38, 42, 46], 17⟩]

/-- `DefaultChannelPlan` of `r8187_core.c` -/
def coreChannelPlan : List ChannelList := [
  ⟨[1, 2, 3, 4, 5, 6, 7, 8, 9, 10, 11, 36, 40, 44, 48, 52, 56, 60, 64, 149, 153, 157, 161, 165], 24⟩,
  ⟨[1, 2, 3, 4, 5, 6, 7, 8, 9, 10, 11], 11⟩,
  ⟨[1, 2, 3, 4, 5, 6, 7, 8, 9, 10, 11, 12, 13, 36, 40, 44, 48, 52, 56, 60, 64], 21⟩,
  ⟨[1, 2, 3, 4, 5, 6, 7, 8, 9, 10, 11, 12, 13], 13⟩,
  ⟨[1, 2, 3, 4, 5, 6, 7, 8, 9, 10, 11, 12, 13], 13⟩,
  ⟨[1, 2, 3, 4, 5, 6, 7, 8, 9, 10, 11, 12, 13, 14, 36, 40, 44, 48, 52, 56, 60, 64], 22⟩,
  ⟨[1, 2, 3, 4, 5, 6, 7, 8, 9, 10, 11, 12, 13, 14, 36, 40, 44, 48, 52, 56, 60, 64], 22⟩,
  ⟨[1, 2, 3, 4, 5, 6, 7, 8, 9, 10, 11, 12, 13], 13⟩,
  ⟨[1, 2, 3, 4, 5, 6, 7, 8, 9, 10, 11, 12, 13, 14, 36, 40, 44, 48, 52, 56, 60, 64], 22⟩]

/-- What the row of a table holds; around the table lies what lies there. -/
def planRow (table : List ChannelList) (around : ℤ → ChannelList) : ℤ → ChannelList
  | .ofNat i => table.getD i (around i)
  | .negSucc i => around (.negSucc i)

/-- A read of a table of plans. -/
inductive PlanRead where
  | len (row : ℤ)
  | channel (row : ℤ) (i : ℕ)

/-- The read is of a row the table has, and within its array. -/
def PlanRead.InBounds (table : List ChannelList) : PlanRead → Prop
  | .len row => 0 ≤ row ∧ row < table.length
  | .channel row i => 0 ≤ row ∧ row < table.length ∧ i ≤ maxChannelNumber

/-- What a call does: its reads of the table, its stores to `channel_map`,
`channel_plan` if it sets that, and the result. -/
structure PlanCall where
  reads : List PlanRead
  stores : List (Store Bool)
  channelPlan : Option UInt8
  ret : ℤ

/-- The loop that allows the channels of a plan. -/
def allow (plan : ChannelList) : List (Store Bool) := plan.channels.map (Store.set · true)

/-- Its reads. -/
def allowReads (row : ℤ) (plan : ChannelList) : List PlanRead :=
  ((List.range plan.len.toNat).flatMap fun i => [.len row, .channel row i]) ++ [.len row]

/-- `r8180_wx_set_channelplan` -/
def setChannelplan (around : ℤ → ChannelList) (bHwRadioOff : Bool) (val : ℤ) : PlanCall :=
  if bHwRadioOff then ⟨[], [], none, 0⟩
  else
    let plan := planRow wxChannelPlan around val
    if plan.len ≠ 0 then
      ⟨.len val :: allowReads val plan, copy 1 maxChannelNumber (fun _ => false) ++ allow plan,
        some (UInt8.ofInt val), 0⟩
    else ⟨[.len val], [], none, 0⟩

/-- The channels of a bit mask. -/
def maskChannels (channels : UInt32) : List (Store Bool) :=
  copy 1 14 fun i => channels.toNat.testBit i

/-- The part of `rtl8180_init` that is about the plan, where `chanPlanIndex` is the byte it
read. It goes on where it does not return -1. -/
def initChannelplan (around : ℤ → ChannelList) (channels : UInt32) (chanPlanIndex : UInt8) : PlanCall :=
  if chanPlanIndex &&& 0x80 ≠ 0 then
    let index : ℤ := (chanPlanIndex &&& 0x7F).toNat
    let plan := planRow coreChannelPlan around index
    -- the length is read before the index is compared
    if plan.len ≠ 0 ∧ index < coreChannelPlan.length then ⟨.len index :: allowReads index plan, allow plan, none, 0⟩
    else ⟨[.len index], [], none, -1⟩
  else if channels = 0 then ⟨[], [], none, -1⟩
  else ⟨[], maskChannels channels, none, 0⟩

/-- What a call is held to: it reads within the table, it stores within the map, and
the map has the selected channels, or the call is one that refuses. -/
structure TakesOver (table : List ChannelList) (selected : Option (List ℕ)) (map : ℕ → Bool) (refuses : Prop)
    (call : PlanCall) : Prop where
  reads : ∀ r ∈ call.reads, r.InBounds table
  stores : ∀ st ∈ call.stores, st.addr ≤ maxChannelNumber
  map : (∃ plan, selected = some plan ∧
    ∀ c, 1 ≤ c → c ≤ maxChannelNumber → (run map call.stores c = true ↔ c ∈ plan)) ∨ refuses

/-- The channels of a row, if the table has it. -/
def selectedRow (table : List ChannelList) : ℤ → Option (List ℕ)
  | .ofNat i => table[i]?.map ChannelList.channels
  | .negSucc _ => none

/-- `r8180_wx_set_channelplan` takes the plan over, or leaves the map unchanged. -/
def SetsChannelplan (around : ℤ → ChannelList) (bHwRadioOff : Bool) (val : ℤ) (map : ℕ → Bool) : Prop :=
  let call := setChannelplan around bHwRadioOff val
  TakesOver wxChannelPlan (selectedRow wxChannelPlan val) map (run map call.stores = map) call

/-- The channels the EEPROM's byte stands for: those of a row, or of the mask. -/
def selectedByte (channels : UInt32) (chanPlanIndex : UInt8) : Option (List ℕ) :=
  if chanPlanIndex &&& 0x80 ≠ 0 then selectedRow coreChannelPlan (chanPlanIndex &&& 0x7F).toNat
  else some ((List.range' 1 14).filter fun c => channels.toNat.testBit (c - 1))

/-- `rtl8180_init` takes the plan over into the map, which was allocated zeroed, or fails. -/
def InitsChannelplan (around : ℤ → ChannelList) (channels : UInt32) (chanPlanIndex : UInt8) : Prop :=
  let call := initChannelplan around channels chanPlanIndex
  TakesOver coreChannelPlan (selectedByte channels chanPlanIndex) (fun _ => false) (call.ret = -1) call

/-! ### The plans -/

/-- A plan a map has room for. -/
def ChannelList.Fits (plan : ChannelList) : Prop :=
  plan.len ≠ 0 ∧ plan.len.toNat ≤ maxChannelNumber + 1 ∧ ∀ c ∈ plan.channels, c ≤ maxChannelNumber

instance : DecidablePred ChannelList.Fits := fun _ => inferInstanceAs (Decidable (_ ∧ _ ∧ _))

theorem wxChannelPlan_fits : ∀ plan ∈ wxChannelPlan, plan.Fits := by decide

/-- All but the first, which has channel 165. -/
theorem coreChannelPlan_fits : ∀ plan ∈ coreChannelPlan.tail, plan.Fits := by decide

/-! ### The loops -/

section

variable {plan : ChannelList} {table : List ChannelList} {row : ℤ} {map : ℕ → Bool}

theorem run_allow (c : ℕ) : run map (allow plan) c = true ↔ c ∈ plan.channels ∨ map c = true := by
  unfold allow
  rw [run_map_set]
  by_cases hin : c ∈ plan.channels
  · simp [hin]
  · simp [hin]

theorem allow_stores (h : plan.Fits) : ∀ st ∈ allow plan, st.addr ≤ maxChannelNumber := by
  intro st hst
  obtain ⟨c, hc, rfl⟩ := List.mem_map.mp hst
  exact h.2.2 c hc

theorem allowReads_inBounds (h : plan.Fits) (hrow : 0 ≤ row ∧ row < table.length) :
    ∀ r ∈ allowReads row plan, r.InBounds table := by
  intro r hr
  rcases List.mem_append.mp hr with hloop | hlast
  · obtain ⟨i, hi, hr⟩ := List.mem_flatMap.mp hloop
    have hlt := List.mem_range.mp hi
    have hlen := h.2.1
    rcases List.mem_cons.mp hr with rfl | hr
    · exact hrow
    · rw [List.mem_singleton.mp hr]
      exact ⟨hrow.1, hrow.2, by omega⟩
  · rw [List.mem_singleton.mp hlast]
    exact hrow

/-- With the map cleared first, it has the channels of the plan and no others. -/
theorem run_clear_allow (c : ℕ) (hpos : 1 ≤ c) (hle : c ≤ maxChannelNumber) :
    run map (copy 1 maxChannelNumber (fun _ => false) ++ allow plan) c = true ↔ c ∈ plan.channels := by
  have hclear : run map (copy 1 maxChannelNumber fun _ => false) c = false := by
    obtain ⟨k, rfl⟩ := Nat.exists_eq_add_of_le hpos
    exact run_copy map 1 _ (by omega)
  rw [run_append, run_allow, hclear]
  simp

/-- The mask's channels are the only ones allowed. -/
theorem run_maskChannels (channels : UInt32) (c : ℕ) (hpos : 1 ≤ c) :
    run (fun _ => false) (maskChannels channels) c = true ↔
      c ∈ (List.range' 1 14).filter fun c => channels.toNat.testBit (c - 1) := by
  obtain ⟨k, rfl⟩ := Nat.exists_eq_add_of_le hpos
  unfold maskChannels
  by_cases hk : k < 14
  · have hlt : 1 + k < 15 := by omega
    rw [run_copy _ 1 _ hk]
    simp [hlt]
  · rw [run_of_not_mem fun st hst => ?_]
    · simp
      omega
    · have haddr := addr_copy hst
      omega

end

theorem planRow_of_lt (table : List ChannelList) (around : ℤ → ChannelList) {i : ℕ} (h : i < table.length) :
    planRow table around i = table[i] := by
  show table.getD i (around i) = table[i]
  rw [List.getD_eq_getElem?_getD, List.getElem?_eq_getElem h, Option.getD_some]

theorem selectedRow_of_lt {table : List ChannelList} {i : ℕ} (h : i < table.length) :
    selectedRow table i = some table[i].channels := by
  show table[i]?.map ChannelList.channels = some table[i].channels
  rw [List.getElem?_eq_getElem h, Option.map_some]

/-- Every call with the radio on reads the length of the row it was given. -/
theorem len_mem_setChannelplan (around : ℤ → ChannelList) (val : ℤ) :
    PlanRead.len val ∈ (setChannelplan around false val).reads := by
  unfold setChannelplan
  dsimp only
  rw [if_neg Bool.false_ne_true]
  split_ifs
  · exact List.mem_cons_self
  · exact List.mem_cons_self

/-- **The number user space gives is a plan exactly if the table has it.** -/
theorem setChannelplan_iff (around : ℤ → ChannelList) (bHwRadioOff : Bool) (val : ℤ) (map : ℕ → Bool) :
    SetsChannelplan around bHwRadioOff val map ↔ bHwRadioOff = true ∨ 0 ≤ val ∧ val < 10 := by
  cases bHwRadioOff with
  | true =>
    refine iff_of_true ?_ (.inl rfl)
    exact ⟨fun _ h => absurd h List.not_mem_nil, fun _ h => absurd h List.not_mem_nil, .inr rfl⟩
  | false =>
    constructor
    · intro h
      exact .inr (h.reads _ (len_mem_setChannelplan around val))
    · rintro (h | ⟨hpos, hlt⟩)
      · exact absurd h Bool.false_ne_true
      obtain ⟨i, rfl⟩ := Int.eq_ofNat_of_zero_le hpos
      have hi : i < wxChannelPlan.length := Int.ofNat_lt.mp hlt
      have hfits := wxChannelPlan_fits _ (List.getElem_mem hi)
      have hcall : setChannelplan around false i =
          ⟨.len i :: allowReads i wxChannelPlan[i],
            copy 1 maxChannelNumber (fun _ => false) ++ allow wxChannelPlan[i], some (UInt8.ofInt i), 0⟩ := by
        unfold setChannelplan
        dsimp only
        rw [if_neg Bool.false_ne_true, planRow_of_lt wxChannelPlan around hi, if_pos hfits.1]
      unfold SetsChannelplan
      dsimp only
      rw [hcall, selectedRow_of_lt hi]
      refine ⟨?_, ?_, .inl ⟨_, rfl, fun c => run_clear_allow c⟩⟩
      · exact List.forall_mem_cons.mpr ⟨⟨hpos, hlt⟩, allowReads_inBounds hfits ⟨hpos, hlt⟩⟩
      · intro st hst
        rcases List.mem_append.mp hst with hclear | hallow
        · have haddr := addr_copy hclear
          omega
        · exact allow_stores hfits st hallow

/-- The top bit of the byte says that it is a row. -/
theorem top_bit_iff (b : UInt8) : b &&& 0x80 ≠ 0 ↔ 128 ≤ b.toNat := by
  have hall : ∀ n < 256, n &&& 128 ≠ 0 ↔ 128 ≤ n := by decide +kernel
  rw [← UInt8.toNat_inj.ne, UInt8.toNat_and]
  exact hall _ b.toNat_lt

/-- And the others say which. -/
theorem low_bits {b : UInt8} (h : 128 ≤ b.toNat) : (b &&& 0x7F).toNat = b.toNat - 128 := by
  have hmask : (0x7F : UInt8).toNat = 2 ^ 7 - 1 := rfl
  have hlt := b.toNat_lt
  rw [UInt8.toNat_and, hmask, Nat.and_two_pow_sub_one_eq_mod]
  omega

/-- A byte with the top bit takes the row. -/
theorem initChannelplan_of_lt (around : ℤ → ChannelList) (channels : UInt32) {b : UInt8} {i : ℕ}
    (hb : b.toNat = 128 + i) (h : i < coreChannelPlan.length) (hlen : coreChannelPlan[i].len ≠ 0) :
    initChannelplan around channels b =
      ⟨.len i :: allowReads i coreChannelPlan[i], allow coreChannelPlan[i], none, 0⟩ := by
  have hindex : (b &&& 0x7F).toNat = i := by
    rw [low_bits (by omega), hb, Nat.add_sub_cancel_left]
  unfold initChannelplan
  dsimp only
  rw [if_pos ((top_bit_iff b).mpr (by omega)), hindex, planRow_of_lt coreChannelPlan around h,
    if_pos ⟨hlen, Int.ofNat_lt.mpr h⟩]

/-- The first row of the table in `r8187_core.c` is stored beyond the map. -/
theorem firstRow_stores (around : ℤ → ChannelList) (channels : UInt32) {b : UInt8} (hb : b.toNat = 128) :
    Store.set 165 true ∈ (initChannelplan around channels b).stores := by
  have hlen : coreChannelPlan[0].len ≠ 0 := by decide
  have hrow : 165 ∈ coreChannelPlan[0].channels := by decide
  rw [initChannelplan_of_lt around channels (i := 0) hb (by decide) hlen]
  exact List.mem_map_of_mem hrow

/-- **The EEPROM's byte is a plan exactly if it is a mask's, or one of the eight rows that
fit the map.** -/
theorem initChannelplan_iff (around : ℤ → ChannelList) (channels : UInt32) (b : UInt8) :
    InitsChannelplan around channels b ↔ b.toNat < 0x80 ∨ 0x81 ≤ b.toNat ∧ b.toNat ≤ 0x88 := by
  by_cases hmask : b.toNat < 0x80
  · refine iff_of_true ?_ (.inl hmask)
    have hbit : ¬ b &&& 0x80 ≠ 0 := fun h => absurd ((top_bit_iff b).mp h) (by omega)
    unfold InitsChannelplan initChannelplan selectedByte
    dsimp only
    rw [if_neg hbit, if_neg hbit]
    split_ifs with hzero
    · exact ⟨fun _ h => absurd h List.not_mem_nil, fun _ h => absurd h List.not_mem_nil, .inr rfl⟩
    · refine ⟨fun _ h => absurd h List.not_mem_nil, fun st hst => ?_,
        .inl ⟨_, rfl, fun c hpos _ => run_maskChannels channels c hpos⟩⟩
      have haddr := addr_copy hst
      unfold maxChannelNumber
      omega
  · obtain ⟨i, hi⟩ := Nat.exists_eq_add_of_le (Nat.not_lt.mp hmask)
    have hindex : (b &&& 0x7F).toNat = i := by
      rw [low_bits (by omega), hi, Nat.add_sub_cancel_left]
    have hbit : b &&& 0x80 ≠ 0 := (top_bit_iff b).mpr (by omega)
    constructor
    · intro h
      refine .inr ?_
      by_cases hrow : i < coreChannelPlan.length
      · have hlt : i < 9 := hrow
        refine ⟨Nat.lt_of_not_le fun hle => ?_, by omega⟩
        -- the first row
        exact absurd (h.stores _ (firstRow_stores around channels (by omega))) (by decide)
      · have hread : PlanRead.len i ∈ (initChannelplan around channels b).reads := by
          unfold initChannelplan
          dsimp only
          rw [if_pos hbit, hindex]
          split_ifs
          · exact List.mem_cons_self
          · exact List.mem_cons_self
        exact absurd (Int.ofNat_lt.mp (h.reads _ hread).2) hrow
    · rintro (h | ⟨hpos, hlt⟩)
      · exact absurd h hmask
      have hrow : i < coreChannelPlan.length := by
        show i < 9
        omega
      have hmem : coreChannelPlan[i] ∈ coreChannelPlan.tail := by
        obtain ⟨j, rfl⟩ : ∃ j, i = j + 1 := ⟨i - 1, by omega⟩
        exact List.getElem_mem (l := coreChannelPlan.tail) (n := j) (by show j < 8; omega)
      have hfits := coreChannelPlan_fits _ hmem
      unfold InitsChannelplan selectedByte
      dsimp only
      rw [initChannelplan_of_lt around channels hi hrow hfits.1, if_pos hbit, hindex, selectedRow_of_lt hrow]
      refine ⟨?_, allow_stores hfits, .inl ⟨_, rfl, fun c _ _ => ?_⟩⟩
      · have hin : (0 : ℤ) ≤ i ∧ (i : ℤ) < coreChannelPlan.length := ⟨Int.natCast_nonneg i, Int.ofNat_lt.mpr hrow⟩
        exact List.forall_mem_cons.mpr ⟨hin, allowReads_inBounds hfits hin⟩
      · rw [run_allow]
        simp

/-- **When a channel plan is taken over**, for both calls, whatever lies around the
tables. -/
theorem channelPlan_iff (around : ℤ → ChannelList) :
    (∀ bHwRadioOff val map, SetsChannelplan around bHwRadioOff val map ↔ bHwRadioOff = true ∨ 0 ≤ val ∧ val < 10) ∧
      ∀ channels b, InitsChannelplan around channels b ↔ b.toNat < 0x80 ∨ 0x81 ≤ b.toNat ∧ b.toNat ≤ 0x88 :=
  ⟨setChannelplan_iff around, initChannelplan_iff around⟩

/-- The byte of the first row allows a channel the map does not have. -/
theorem firstRow_not_taken : ¬ InitsChannelplan (fun _ => ⟨[], 0⟩) 0x3fff 0x80 := by
  intro h
  exact absurd (h.stores _ (firstRow_stores _ _ rfl)) (by decide)

end Rtl8187

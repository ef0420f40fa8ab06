/-
# Scatterlists

`scatterwalk.c`: a string that lies in memory in segments, walked a page at a time. A
walk stands for the addresses still to come; `scatterwalk_copychunks` moves bytes
between them, in order, and a buffer, however they fall on segments and pages
(`copyLoop_copies`).

Memory is flat: a page and an offset in it are an address, as `kmap` gives it. The list
of entries ends where the array does; a walk that reads past it gives nothing.

Key definitions: `Scatterlist`, `ScatterWalk`, `scatterwalkStart`, `scatterwalkPagedone`,
`scatterwalkCopychunks`, `ScatterWalk.addrs`.
Key theorems: `scatterwalkPagedone_addrs`, `copyLoop_copies`, `scatterwalkDone_addrs`.
-/
import Rtl8187.Lib.Gather
import Rtl8187.Lib.Bytes

namespace Rtl8187

open Bytes Gather

/-- `PAGE_SIZE`, and `PAGE_CACHE_SIZE` -/
def pageSize : ℕ := 4096

/-- The bytes of memory. -/
abbrev Memory : Type := ℕ → UInt8

/-- `struct scatterlist` -/
structure Scatterlist where
  page : ℕ
  offset : ℕ
  length : ℕ
  offset_lt : offset < pageSize

/-- Where a segment starts. -/
def Scatterlist.addr (sg : Scatterlist) : ℕ := sg.page * pageSize + sg.offset

/-- The addresses of a segment. -/
def Scatterlist.addrs (sg : Scatterlist) : List ℕ := List.range' sg.addr sg.length

/-- The addresses of the segments. -/
def sgAddrs (sgs : List Scatterlist) : List ℕ := sgs.flatMap Scatterlist.addrs

/-- The entry of a buffer at an address: `virt_to_page`, `offset_in_page` and a length. -/
def Scatterlist.ofBuf (p length : ℕ) : Scatterlist :=
  ⟨p / pageSize, p % pageSize, length, Nat.mod_lt p (by decide)⟩

theorem Scatterlist.addr_ofBuf (p length : ℕ) : (Scatterlist.ofBuf p length).addr = p := by
  rw [addr, ofBuf, Nat.mul_comm]
  exact Nat.div_add_mod p pageSize

/-- `struct scatter_walk`: the entry that is walked and those behind it. -/
structure ScatterWalk where
  sg : List Scatterlist
  page : ℕ
  lenThisPage : ℕ
  lenThisSegment : ℕ
  offset : ℕ

namespace ScatterWalk

/-- `data`, as `scatterwalk_map` sets it. -/
def data (w : ScatterWalk) : ℕ := w.page * pageSize + w.offset

end ScatterWalk

/-- `scatterwalk_start` -/
def scatterwalkStart : List Scatterlist → Option ScatterWalk
  | [] => none
  | sg :: sgs => some ⟨sg :: sgs, sg.page, min sg.length (pageSize - sg.offset % pageSize), sg.length,
      sg.offset⟩

/-- `scatterwalk_pagedone` -/
def scatterwalkPagedone (w : ScatterWalk) (more : Bool) : Option ScatterWalk :=
  if more then
    let seg := w.lenThisSegment - w.lenThisPage
    if seg ≠ 0 then some ⟨w.sg, w.page + 1, min seg pageSize, seg, 0⟩
    else scatterwalkStart w.sg.tail
  else some w

/-- `scatterwalk_done` -/
def scatterwalkDone (w : ScatterWalk) (more : Bool) : Option ScatterWalk :=
  if w.lenThisPage = 0 ∨ ¬ more then scatterwalkPagedone w more else some w

/-- `scatterwalk_whichbuf`: `walk->data`, or nothing for the scratch buffer. -/
def scatterwalkWhichbuf (w : ScatterWalk) (nbytes : ℕ) : Option ℕ :=
  if nbytes ≤ w.lenThisPage ∧ w.data % pageSize + nbytes ≤ pageSize then some w.data else none

/-- `scatterwalk_samebuf` -/
def scatterwalkSamebuf (walkIn walkOut : ScatterWalk) (srcP dstP : Option ℕ) : Bool :=
  walkIn.page = walkOut.page ∧ walkIn.offset = walkOut.offset ∧ some walkIn.data = srcP ∧
    some walkOut.data = dstP

/-- Bytes copied between addresses and the buffer from `i` on. -/
def copyDir (out : Bool) (c : Memory × List UInt8) (i : ℕ) (as : List ℕ) : Memory × List UInt8 :=
  if out then (scatter c.1 as (slice i as.length c.2), c.2)
  else (c.1, c.2.take i ++ gather c.1 as ++ c.2.drop (i + as.length))

/-- `memcpy_dir` -/
def memcpyDir (out : Bool) (c : Memory × List UInt8) (i addr nbytes : ℕ) : Memory × List UInt8 :=
  copyDir out c i (List.range' addr nbytes)

/-- A page that is done with brings down the entries, or the bytes of the segment, or
it was empty and the next is not. -/
theorem scatterwalkPagedone_decreases {w w' : ScatterWalk} (h : scatterwalkPagedone w true = some w') :
    w'.sg.length < w.sg.length ∨ w'.sg.length = w.sg.length ∧
      (w'.lenThisSegment < w.lenThisSegment ∨ w'.lenThisSegment = w.lenThisSegment ∧
        (if w'.lenThisPage = 0 then 1 else 0) < if w.lenThisPage = 0 then 1 else 0) := by
  rw [scatterwalkPagedone, if_pos rfl] at h
  dsimp only at h
  by_cases hseg : w.lenThisSegment - w.lenThisPage ≠ 0
  · rw [if_pos hseg] at h
    obtain rfl := Option.some.inj h
    refine Or.inr ⟨rfl, ?_⟩
    have hpos : ¬ min (w.lenThisSegment - w.lenThisPage) pageSize = 0 := by
      unfold pageSize
      omega
    by_cases h0 : w.lenThisPage = 0
    · refine Or.inr ⟨by rw [h0]; rfl, ?_⟩
      rw [if_neg hpos, if_pos h0]
      decide
    · left
      show w.lenThisSegment - w.lenThisPage < w.lenThisSegment
      omega
  · rw [if_neg hseg] at h
    left
    match hsg : w.sg, h with
    | [], h => cases h
    | [_], h => cases h
    | _ :: _ :: _, h =>
      obtain rfl := Option.some.inj h
      exact Nat.lt_succ_self _

/-- The loop of `scatterwalk_copychunks` and the copy after it: memory and buffer, the
walk and the bytes that were left for its page. -/
def copyLoop (out : Bool) (c : Memory × List UInt8) (i : ℕ) (w : ScatterWalk) (nbytes : ℕ) :
    Option ((Memory × List UInt8) × ScatterWalk × ℕ) :=
  if w.lenThisPage < nbytes then
    match _hw : scatterwalkPagedone w true with
    | none => none
    | some w' =>
      copyLoop out (memcpyDir out c i w.data w.lenThisPage) (i + w.lenThisPage) w'
        (nbytes - w.lenThisPage)
  else some (memcpyDir out c i w.data nbytes, w, nbytes)
termination_by (w.sg.length, w.lenThisSegment, if w.lenThisPage = 0 then 1 else 0)
decreasing_by
  rcases scatterwalkPagedone_decreases _hw with h | ⟨h, h' | ⟨h', h''⟩⟩
  · exact Prod.Lex.left _ _ h
  · rw [h]
    exact Prod.Lex.right _ (Prod.Lex.left _ _ h')
  · rw [h, h']
    exact Prod.Lex.right _ (Prod.Lex.right _ h'')

namespace ScatterWalk

/-- `nbytes` of the page gone past. -/
def advance (w : ScatterWalk) (nbytes : ℕ) : ScatterWalk :=
  ⟨w.sg, w.page, w.lenThisPage - nbytes, w.lenThisSegment - nbytes, w.offset + nbytes⟩

end ScatterWalk

/-- `scatterwalk_copychunks`, on the page itself when the buffer is `walk->data`. -/
def scatterwalkCopychunks (out : Bool) (buf : Option ℕ) (c : Memory × List UInt8) (w : ScatterWalk)
    (nbytes : ℕ) : Option ((Memory × List UInt8) × ScatterWalk) :=
  if buf = some w.data then some (c, w.advance nbytes)
  else (copyLoop out c 0 w nbytes).map fun r => (r.1, r.2.1.advance r.2.2)

/-! ### The addresses of a walk -/

namespace ScatterWalk

/-- The addresses still to come. -/
def addrs (w : ScatterWalk) : List ℕ := List.range' w.data w.lenThisSegment ++ sgAddrs w.sg.tail

/-- Where the segment goes on behind the page, the page goes up to its end. -/
structure Inside (w : ScatterWalk) : Prop where
  le : w.lenThisPage ≤ w.lenThisSegment
  end_le : w.offset + w.lenThisPage ≤ pageSize
  page : w.lenThisPage < w.lenThisSegment → w.offset + w.lenThisPage = pageSize

end ScatterWalk

theorem scatterwalkStart_addrs {sgs : List Scatterlist} {w : ScatterWalk}
    (h : scatterwalkStart sgs = some w) : w.Inside ∧ w.addrs = sgAddrs sgs := by
  match sgs, h with
  | sg :: sgs, h =>
    obtain rfl := Option.some.inj h
    have hlt := sg.offset_lt
    have hmod : sg.offset % pageSize = sg.offset := Nat.mod_eq_of_lt hlt
    refine ⟨⟨Nat.min_le_left _ _, ?_, ?_⟩, rfl⟩
    · show sg.offset + min sg.length (pageSize - sg.offset % pageSize) ≤ pageSize
      rw [hmod]
      omega
    · show min sg.length (pageSize - sg.offset % pageSize) < sg.length →
        sg.offset + min sg.length (pageSize - sg.offset % pageSize) = pageSize
      rw [hmod]
      omega

theorem scatterwalkStart_some {sgs : List Scatterlist} (h : sgs ≠ []) :
    ∃ w, scatterwalkStart sgs = some w := by
  match sgs, h with
  | sg :: sgs, _ => exact ⟨_, rfl⟩

/-- A page that is done with is gone from the addresses; there is a next one as long as
there is an address behind it. -/
theorem scatterwalkPagedone_addrs {w : ScatterWalk} (hw : w.Inside)
    (hmore : w.lenThisPage < w.addrs.length) :
    ∃ w', scatterwalkPagedone w true = some w' ∧ w'.Inside ∧ w'.addrs = w.addrs.drop w.lenThisPage := by
  obtain ⟨hle, hend, hpage⟩ := hw
  rw [scatterwalkPagedone, if_pos rfl]
  dsimp only
  by_cases hseg : w.lenThisSegment - w.lenThisPage ≠ 0
  · rw [if_pos hseg]
    have hfull := hpage (by omega)
    refine ⟨_, rfl, ⟨Nat.min_le_left _ _, ?_, ?_⟩, ?_⟩
    · show 0 + min _ pageSize ≤ pageSize
      omega
    · show min (w.lenThisSegment - w.lenThisPage) pageSize < w.lenThisSegment - w.lenThisPage →
        0 + min (w.lenThisSegment - w.lenThisPage) pageSize = pageSize
      omega
    · have hdata : (w.page + 1) * pageSize + 0 = w.data + w.lenThisPage := by
        rw [ScatterWalk.data, Nat.add_assoc, hfull, Nat.succ_mul, Nat.add_zero]
      show List.range' ((w.page + 1) * pageSize + 0) (w.lenThisSegment - w.lenThisPage) ++ _ = _
      rw [hdata, ScatterWalk.addrs, List.drop_append_of_le_length (by rw [List.length_range']; exact hle),
        List.drop_range']
      rw [Nat.mul_one]
  · rw [if_neg hseg]
    have heq : w.lenThisPage = w.lenThisSegment := by omega
    have hlen : (List.range' w.data w.lenThisSegment).length = w.lenThisPage := by
      rw [List.length_range', heq]
    have htail : w.sg.tail ≠ [] := by
      intro hnil
      rw [ScatterWalk.addrs, hnil, List.length_append, hlen] at hmore
      exact absurd hmore (Nat.lt_irrefl _)
    obtain ⟨w', hw'⟩ := scatterwalkStart_some htail
    obtain ⟨hin, haddrs⟩ := scatterwalkStart_addrs hw'
    refine ⟨w', hw', hin, ?_⟩
    rw [haddrs, ScatterWalk.addrs, List.drop_left' hlen]

/-! ### Copies -/

theorem length_copyDir {out : Bool} {c : Memory × List UInt8} {i : ℕ} {as : List ℕ}
    (h : i + as.length ≤ c.2.length) : (copyDir out c i as).2.length = c.2.length := by
  cases out with
  | true => rfl
  | false =>
    show (c.2.take i ++ gather c.1 as ++ c.2.drop (i + as.length)).length = _
    rw [List.length_append, List.length_append, List.length_take, List.length_drop, length_gather]
    omega

theorem copyDir_append {out : Bool} {c : Memory × List UInt8} {i : ℕ} {as as' : List ℕ}
    (h : i + as.length + as'.length ≤ c.2.length) :
    copyDir out (copyDir out c i as) (i + as.length) as' = copyDir out c i (as ++ as') := by
  cases out with
  | true =>
    have hlen : as.length = (slice i as.length c.2).length := by
      rw [slice, List.length_take, List.length_drop]
      omega
    show (scatter (scatter c.1 as (slice i as.length c.2)) as'
      (slice (i + as.length) as'.length c.2), c.2) = (scatter c.1 (as ++ as') _, c.2)
    rw [List.length_append, slice_add, scatter_append c.1 hlen]
  | false =>
    have hfirst : (c.2.take i ++ gather c.1 as).length = i + as.length := by
      rw [List.length_append, List.length_take, length_gather]
      omega
    show (c.1, (c.2.take i ++ gather c.1 as ++ c.2.drop (i + as.length)).take (i + as.length) ++
      gather c.1 as' ++ (c.2.take i ++ gather c.1 as ++ c.2.drop (i + as.length)).drop
        (i + as.length + as'.length)) = (c.1, _ ++ gather c.1 (as ++ as') ++ _)
    rw [List.take_left' hfirst, ← List.drop_drop, List.drop_left' hfirst, List.drop_drop, gather_append,
      List.length_append, Nat.add_assoc]
    simp only [List.append_assoc]

/-- A walk after `n` of its addresses. -/
structure ScatterWalk.After (w : ScatterWalk) (n : ℕ) (w' : ScatterWalk) : Prop where
  inside : w'.Inside
  addrs : w'.addrs = w.addrs.drop n

theorem ScatterWalk.Inside.advance {w : ScatterWalk} (h : w.Inside) {n : ℕ} (hn : n ≤ w.lenThisPage) :
    w.After n (w.advance n) := by
  obtain ⟨hle, hend, hpage⟩ := h
  refine ⟨⟨?_, ?_, ?_⟩, ?_⟩
  · show w.lenThisPage - n ≤ w.lenThisSegment - n
    omega
  · show w.offset + n + (w.lenThisPage - n) ≤ pageSize
    omega
  · show w.lenThisPage - n < w.lenThisSegment - n → w.offset + n + (w.lenThisPage - n) = pageSize
    omega
  · have hdata : (w.advance n).data = w.data + n * 1 := by
      rw [Nat.mul_one]
      exact (Nat.add_assoc _ _ _).symm
    rw [addrs, addrs, hdata, List.drop_append_of_le_length (by rw [List.length_range']; omega),
      List.drop_range']
    rfl

/-- A turn of the loop. -/
theorem copyLoop_pagedone {out : Bool} {c : Memory × List UInt8} {i n : ℕ} {w w' : ScatterWalk}
    (hlt : w.lenThisPage < n) (hw : scatterwalkPagedone w true = some w') :
    copyLoop out c i w n = copyLoop out (memcpyDir out c i w.data w.lenThisPage)
      (i + w.lenThisPage) w' (n - w.lenThisPage) := by
  rw [copyLoop, if_pos hlt]
  split
  next hnone => rw [hw] at hnone; cases hnone
  next w'' hsome => rw [Option.some.inj (hw.symm.trans hsome)]

/-- The bytes of the page are the next of the walk. -/
theorem ScatterWalk.Inside.take {w : ScatterWalk} (h : w.Inside) {n : ℕ} (hn : n ≤ w.lenThisPage) :
    w.addrs.take n = List.range' w.data n := by
  have hle := h.le
  rw [addrs, List.take_append_of_le_length (by rw [List.length_range']; omega), List.take_range'_of_length_ge]
  omega

/-- **The loop copies the next addresses of the walk**, whatever pages and segments they
fall on. -/
theorem copyLoop_copies (out : Bool) (c : Memory × List UInt8) (i : ℕ) (w : ScatterWalk) (n : ℕ)
    (hw : w.Inside) (hn : n ≤ w.addrs.length) (hbuf : i + n ≤ c.2.length) :
    ∃ w' n', copyLoop out c i w n = some (copyDir out c i (w.addrs.take n), w', n') ∧
      w.After n (w'.advance n') := by
  induction c, i, w, n using copyLoop.induct out with
  | case1 c i w n hlt hnone =>
    obtain ⟨w', hw', -⟩ := scatterwalkPagedone_addrs hw (by omega)
    rw [hw'] at hnone
    cases hnone
  | case2 c i w n hlt w' hw' ih =>
    obtain ⟨w'', hw'', hin, haddrs⟩ := scatterwalkPagedone_addrs hw (by omega)
    obtain rfl := Option.some.inj (hw'.symm.trans hw'')
    have htake := hw.take (Nat.le_refl w.lenThisPage)
    have hlen : (List.range' w.data w.lenThisPage).length = w.lenThisPage := List.length_range'
    have hcopied : (memcpyDir out c i w.data w.lenThisPage).2.length = c.2.length :=
      length_copyDir (by rw [hlen]; omega)
    obtain ⟨v, m, hloop, hinv, hv⟩ := ih hin (by rw [haddrs, List.length_drop]; omega)
      (by rw [hcopied]; omega)
    refine ⟨v, m, ?_, hinv, ?_⟩
    · have hrest : w'.addrs.take (n - w.lenThisPage) = (w.addrs.drop w.lenThisPage).take (n - w.lenThisPage) := by
        rw [haddrs]
      have hsplit : List.range' w.data w.lenThisPage ++ w'.addrs.take (n - w.lenThisPage) =
          w.addrs.take n := by
        rw [← htake, hrest, ← List.take_add, Nat.add_sub_cancel' (Nat.le_of_lt hlt)]
      have happ := @copyDir_append out c i (List.range' w.data w.lenThisPage)
        (w'.addrs.take (n - w.lenThisPage)) (by rw [hlen, List.length_take]; omega)
      rw [hlen, hsplit] at happ
      rw [copyLoop_pagedone hlt hw', hloop, memcpyDir, happ]
    · rw [hv, haddrs, List.drop_drop, Nat.add_sub_cancel' (Nat.le_of_lt hlt)]
  | case3 c i w n hlt =>
    have hle : n ≤ w.lenThisPage := Nat.le_of_not_lt hlt
    refine ⟨w, n, ?_, hw.advance hle⟩
    rw [copyLoop, if_neg hlt, memcpyDir, hw.take hle]

/-- Done with a block: the next page, when there is more to come. -/
theorem scatterwalkDone_addrs {w : ScatterWalk} (hw : w.Inside) {more : Bool}
    (hmore : more → w.addrs ≠ []) :
    ∃ w', scatterwalkDone w more = some w' ∧ (more → w'.Inside ∧ w'.addrs = w.addrs) := by
  rw [scatterwalkDone]
  cases more with
  | false =>
    rw [if_pos (Or.inr (by decide))]
    exact ⟨w, rfl, fun h => absurd h (by decide)⟩
  | true =>
    by_cases h0 : w.lenThisPage = 0
    · have hpos : w.lenThisPage < w.addrs.length := by
        rw [h0]
        exact List.length_pos_of_ne_nil (hmore rfl)
      obtain ⟨w', hw', hin, haddrs⟩ := scatterwalkPagedone_addrs hw hpos
      rw [if_pos (Or.inl h0)]
      rw [h0, List.drop_zero] at haddrs
      exact ⟨w', hw', fun _ => ⟨hin, haddrs⟩⟩
    · rw [if_neg (by simp [h0])]
      exact ⟨w, rfl, fun _ => ⟨hw, rfl⟩⟩

end Rtl8187

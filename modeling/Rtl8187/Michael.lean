/-
# Michael

`michael_mic.c`: a word at a time is added to a pair of words and mixed in; bytes
that do not make a word wait in `pending`. However a message is handed over, the
digest is that of its words with the padding behind it (`michaelDigest_eq`). Every
step of the mixing can be undone, so the key follows from any message and its
digest (`michael_key_recovered`).

Key definitions: `MichaelCtx`, `michaelBlock`, `michaelUpdate`, `michaelFinal`, `michael`,
`michaelKeyOf`.
Key theorems: `michaelUpdate_holds`, `michaelFinal_holds`, `michaelDigest_eq`, `michael_key_recovered`.
-/
import Rtl8187.Lib.Buffered
import Rtl8187.Lib.Words
import Mathlib.Tactic.Set

namespace Rtl8187

open Bytes Words

/-- `xswap` -/
def xswap (val : UInt32) : UInt32 := ((val &&& 0x00ff00ff) <<< 8) ||| ((val &&& 0xff00ff00) >>> 8)

/-- `michael_block` -/
def michaelBlock (s : UInt32 × UInt32) : UInt32 × UInt32 :=
  let l := s.1
  let r := s.2 ^^^ rotl l 17
  let l := l + r
  let r := r ^^^ xswap l
  let l := l + r
  let r := r ^^^ rotl l 3
  let l := l + r
  let r := r ^^^ rotr l 2
  let l := l + r
  (l, r)

/-- `get_le32` -/
def getLe32 (p : List UInt8) (i : ℕ) : UInt32 :=
  ofBytes4 (at8 p i) (at8 p (i + 1)) (at8 p (i + 2)) (at8 p (i + 3))

theorem getLe32_append {a : List UInt8} (b : List UInt8) (h : a.length = 4) :
    getLe32 (a ++ b) 0 = getLe32 a 0 := by
  rw [getLe32, getLe32, at8_append_left b (by omega), at8_append_left b (by omega),
    at8_append_left b (by omega), at8_append_left b (by omega)]

/-- `struct michael_mic_ctx` -/
structure MichaelCtx where
  pending : List UInt8
  pendingLen : ℕ
  l : UInt32
  r : UInt32

/-- A word added and mixed in: `l ^= …; michael_block(l, r);` -/
def michaelWord (s : UInt32 × UInt32) (w : UInt32) : UInt32 × UInt32 := michaelBlock (s.1 ^^^ w, s.2)

/-- `michael_init` -/
def michaelInit (ctx : MichaelCtx) : MichaelCtx := { ctx with pendingLen := 0 }

/-- `michael_setkey`: the return value, what is assigned to `*flags`, and the context. -/
def michaelSetKey (ctx : MichaelCtx) (key : List UInt8) : ℤ × Option UInt32 × MichaelCtx :=
  if key.length ≠ 8 then (-22, some 0x00200000, ctx)
  else (0, none, { ctx with l := getLe32 key 0, r := getLe32 key 4 })

/-- The loop over the whole words of `data`: the pair, and what is left of `data`. -/
def michaelWords (s : UInt32 × UInt32) : List UInt8 → (UInt32 × UInt32) × List UInt8
  | a :: b :: c :: d :: data => michaelWords (michaelWord s (getLe32 [a, b, c, d] 0)) data
  | data => (s, data)

/-- The last part of `michael_update`: the whole words, and the rest to `pending`. -/
def michaelRest (ctx : MichaelCtx) (data : List UInt8) : MichaelCtx :=
  let w := michaelWords (ctx.l, ctx.r) data
  if 0 < w.2.length then
    ⟨w.2 ++ ctx.pending.drop w.2.length, w.2.length, w.1.1, w.1.2⟩
  else ⟨ctx.pending, ctx.pendingLen, w.1.1, w.1.2⟩

/-- `michael_update` -/
def michaelUpdate (ctx : MichaelCtx) (data : List UInt8) : MichaelCtx :=
  if ctx.pendingLen ≠ 0 then
    let flen := min (4 - ctx.pendingLen) data.length
    let pending := ctx.pending.take ctx.pendingLen ++ data.take flen ++
      ctx.pending.drop (ctx.pendingLen + flen)
    let pendingLen := ctx.pendingLen + flen
    let data := data.drop flen
    if pendingLen < 4 then ⟨pending, pendingLen, ctx.l, ctx.r⟩
    else
      let s := michaelWord (ctx.l, ctx.r) (getLe32 pending 0)
      michaelRest ⟨pending, 0, s.1, s.2⟩ data
  else michaelRest ctx data

/-- The last word with the padding: `0x5a` behind the bytes that wait. -/
def michaelLast (ctx : MichaelCtx) : UInt32 :=
  let data := ctx.pending
  match ctx.pendingLen with
  | 0 => 0x5a
  | 1 => (at8 data 0).toUInt32 ||| 0x5a00
  | 2 => (at8 data 0).toUInt32 ||| ((at8 data 1).toUInt32 <<< 8) ||| 0x5a0000
  | 3 => (at8 data 0).toUInt32 ||| ((at8 data 1).toUInt32 <<< 8) |||
      ((at8 data 2).toUInt32 <<< 16) ||| 0x5a000000
  | _ => 0

/-- `michael_final`: the context and the digest. -/
def michaelFinal (ctx : MichaelCtx) : MichaelCtx × List UInt8 :=
  let s := michaelBlock (michaelWord (ctx.l, ctx.r) (michaelLast ctx))
  (⟨ctx.pending, ctx.pendingLen, s.1, s.2⟩, le32 s.1 ++ le32 s.2)

/-! ### The digest as a function of the message -/

/-- A message with its padding: `0x5a`, then zeros, at least four, up to a word. -/
def michaelPad (data : List UInt8) : List UInt8 :=
  data ++ 0x5a :: List.replicate (7 - data.length % 4) 0

/-- A word of four bytes taken in. -/
def michaelTake (s : UInt32 × UInt32) (b : List UInt8) : UInt32 × UInt32 :=
  michaelWord s (getLe32 b 0)

/-- The pair after the words of a string. -/
def michaelRun (s : UInt32 × UInt32) (data : List UInt8) : UInt32 × UInt32 :=
  (Buffered.absorb 4 michaelTake s data).1

/-- The digest of a message under a key. -/
def michael (key data : List UInt8) : List UInt8 :=
  let s := michaelRun (getLe32 key 0, getLe32 key 4) (michaelPad data)
  le32 s.1 ++ le32 s.2

theorem michaelWords_eq : ∀ (s : UInt32 × UInt32) (data : List UInt8),
    michaelWords s data = Buffered.absorb 4 michaelTake s data
  | s, a :: b :: c :: d :: data => by
    have h := @Buffered.absorb_block _ _ 4 michaelTake [a, b, c, d] (by decide) rfl s data
    rw [michaelWords, michaelWords_eq _ data]
    exact h.symm
  | s, [] => (Buffered.absorb_short (by decide) s).symm
  | s, [_] => (Buffered.absorb_short (by simp) s).symm
  | s, [_, _] => (Buffered.absorb_short (by simp) s).symm
  | s, [_, _, _] => (Buffered.absorb_short (by simp) s).symm

/-- A context that has taken in `data` from the pair `s`. -/
structure MichaelCtx.Holds (s : UInt32 × UInt32) (data : List UInt8) (ctx : MichaelCtx) : Prop where
  length : ctx.pending.length = 4
  lt : ctx.pendingLen < 4
  absorbed : Buffered.absorb 4 michaelTake s data = ((ctx.l, ctx.r), ctx.pending.take ctx.pendingLen)

theorem michaelRest_holds {s : UInt32 × UInt32} {data d0 : List UInt8} {ctx : MichaelCtx}
    (hlen : ctx.pending.length = 4) (h0 : ctx.pendingLen = 0)
    (hd : Buffered.absorb 4 michaelTake s d0 = Buffered.absorb 4 michaelTake (ctx.l, ctx.r) data) :
    (michaelRest ctx data).Holds s d0 := by
  have hrest := @Buffered.length_absorb_rest _ _ 4 michaelTake (by decide) (ctx.l, ctx.r) data
  rw [michaelRest, michaelWords_eq]
  have hlt := Nat.mod_lt data.length (by decide : 4 > 0)
  rw [← hrest] at hlt
  rw [← hd] at hlt ⊢
  by_cases h : 0 < (Buffered.absorb 4 michaelTake s d0).2.length
  · rw [if_pos h]
    refine ⟨?_, hlt, ?_⟩
    · rw [List.length_append, List.length_drop, hlen]
      omega
    · rw [List.take_left' rfl]
  · rw [if_neg h]
    have hnil : (Buffered.absorb 4 michaelTake s d0).2 = [] :=
      List.eq_nil_of_length_eq_zero (by omega)
    refine ⟨hlen, by rw [h0]; decide, ?_⟩
    rw [h0, List.take_zero, ← hnil]

/-- An update takes in what it is given, whatever waits. -/
theorem michaelUpdate_holds {s : UInt32 × UInt32} {d : List UInt8} {ctx : MichaelCtx}
    (h : ctx.Holds s d) (data : List UInt8) : (michaelUpdate ctx data).Holds s (d ++ data) := by
  obtain ⟨hlen, hlt, habs⟩ := h
  have happ := @Buffered.absorb_append _ _ 4 michaelTake (by decide) s d data
  rw [habs] at happ
  dsimp only at happ
  rw [michaelUpdate]
  by_cases h0 : ctx.pendingLen ≠ 0
  · rw [if_pos h0]
    dsimp only
    set flen := min (4 - ctx.pendingLen) data.length with hflen
    have hwait : (ctx.pending.take ctx.pendingLen).length = ctx.pendingLen := by
      rw [List.length_take]
      omega
    have hpend : (ctx.pending.take ctx.pendingLen ++ data.take flen).length = ctx.pendingLen + flen := by
      rw [List.length_append, hwait, List.length_take]
      omega
    have htotal : (ctx.pending.take ctx.pendingLen ++ data.take flen ++
        ctx.pending.drop (ctx.pendingLen + flen)).length = 4 := by
      rw [List.length_append, hpend, List.length_drop]
      omega
    by_cases h4 : ctx.pendingLen + flen < 4
    · -- all of it waits
      rw [if_pos h4]
      have hall : data.take flen = data := List.take_of_length_le (by omega)
      refine ⟨htotal, h4, ?_⟩
      rw [happ, List.take_left' hpend, hall]
      apply Buffered.absorb_short
      rw [← hall, hpend]
      exact h4
    · -- a word is complete
      rw [if_neg h4]
      have hfull : (ctx.pending.take ctx.pendingLen ++ data.take flen).length = 4 := by omega
      have hword := getLe32_append (ctx.pending.drop (ctx.pendingLen + flen)) hfull
      apply michaelRest_holds htotal rfl
      rw [happ, hword]
      calc Buffered.absorb 4 michaelTake (ctx.l, ctx.r) (ctx.pending.take ctx.pendingLen ++ data)
          = Buffered.absorb 4 michaelTake (ctx.l, ctx.r)
              ((ctx.pending.take ctx.pendingLen ++ data.take flen) ++ data.drop flen) := by
            rw [List.append_assoc, List.take_append_drop]
        _ = _ := Buffered.absorb_block (by decide) hfull _ _
  · rw [if_neg h0]
    have hz : ctx.pendingLen = 0 := by omega
    rw [hz, List.take_zero, List.nil_append] at happ
    exact michaelRest_holds hlen hz happ

/-- Pieces taken in one after the other. -/
theorem michaelUpdates_hold {s : UInt32 × UInt32} (chunks : List (List UInt8)) :
    ∀ {ctx : MichaelCtx} {d : List UInt8}, ctx.Holds s d →
      (chunks.foldl michaelUpdate ctx).Holds s (d ++ chunks.flatten) := by
  induction chunks with
  | nil =>
    intro ctx d h
    simpa using h
  | cons b chunks ih =>
    intro ctx d h
    rw [List.foldl_cons, List.flatten_cons, ← List.append_assoc]
    exact ih (michaelUpdate_holds h b)

/-- Two words taken in. -/
theorem absorb_two (s : UInt32 × UInt32) {a b : List UInt8} (ha : a.length = 4) (hb : b.length = 4) :
    (Buffered.absorb 4 michaelTake s (a ++ b)).1 = michaelTake (michaelTake s a) b := by
  have hb' := @Buffered.absorb_block _ _ 4 michaelTake b (by decide) hb (michaelTake s a) []
  rw [List.append_nil] at hb'
  rw [Buffered.absorb_block (by decide) ha, hb', Buffered.absorb_short (by decide)]

/-- The last word, as the bytes it stands for. -/
theorem michaelLast_eq {ctx : MichaelCtx} (hlen : ctx.pending.length = 4) (hlt : ctx.pendingLen < 4) :
    michaelLast ctx =
      getLe32 (ctx.pending.take ctx.pendingLen ++ 0x5a :: List.replicate (3 - ctx.pendingLen) 0) 0 := by
  obtain ⟨pending, pendingLen, l, r⟩ := ctx
  have h8 : (0x5a : UInt32) <<< 8 = 0x5a00 := rfl
  have h16 : (0x5a : UInt32) <<< 16 = 0x5a0000 := rfl
  have h24 : (0x5a : UInt32) <<< 24 = 0x5a000000 := rfl
  match pending, hlen, pendingLen, hlt with
  | [_, _, _, _], _, 0, _ | [_, _, _, _], _, 1, _ | [_, _, _, _], _, 2, _ | [_, _, _, _], _, 3, _ =>
    simp [michaelLast, getLe32, ofBytes4, at8, h8, h16, h24]

/-- `michael_final` gives the digest of all that was taken in. -/
theorem michaelFinal_holds {s : UInt32 × UInt32} {data : List UInt8} {ctx : MichaelCtx}
    (h : ctx.Holds s data) : (michaelFinal ctx).2 =
      le32 (michaelRun s (michaelPad data)).1 ++ le32 (michaelRun s (michaelPad data)).2 := by
  obtain ⟨hlen, hlt, habs⟩ := h
  have hmod : data.length % 4 = ctx.pendingLen := by
    rw [← @Buffered.length_absorb_rest _ _ 4 michaelTake (by decide) s data, habs, List.length_take]
    omega
  have hpad : (0x5a : UInt8) :: List.replicate (7 - ctx.pendingLen) 0 =
      (0x5a :: List.replicate (3 - ctx.pendingLen) 0) ++ List.replicate 4 0 := by
    rw [List.cons_append, List.replicate_append_replicate]
    congr 2
    omega
  have hrun : michaelRun s (michaelPad data) =
      michaelBlock (michaelWord (ctx.l, ctx.r) (michaelLast ctx)) := by
    have hfirst : (ctx.pending.take ctx.pendingLen ++
        0x5a :: List.replicate (3 - ctx.pendingLen) 0).length = 4 := by
      rw [List.length_append, List.length_take, List.length_cons, List.length_replicate]
      omega
    rw [michaelRun, michaelPad, Buffered.absorb_append (by decide), habs, hmod, hpad,
      ← List.append_assoc, absorb_two _ hfirst rfl, michaelLast_eq hlen hlt]
    have hzero : getLe32 (List.replicate 4 0) 0 = 0 := rfl
    rw [michaelTake, hzero, michaelWord, UInt32.xor_zero]
    rfl
  rw [hrun, michaelFinal]

/-- The digest of a message handed over in pieces: `michael_init`, `michael_setkey`,
a `michael_update` for each, `michael_final`. -/
def michaelDigest (ctx : MichaelCtx) (key : List UInt8) (chunks : List (List UInt8)) : List UInt8 :=
  (michaelFinal (chunks.foldl michaelUpdate (michaelSetKey (michaelInit ctx) key).2.2)).2

/-- Whatever the context held and however the message is cut, the digest is that of
the message. -/
theorem michaelDigest_eq {ctx : MichaelCtx} (hctx : ctx.pending.length = 4) {key : List UInt8}
    (hkey : key.length = 8) (chunks : List (List UInt8)) :
    michaelDigest ctx key chunks = michael key chunks.flatten := by
  have hset : (michaelSetKey (michaelInit ctx) key).2.2.Holds (getLe32 key 0, getLe32 key 4) [] := by
    rw [michaelSetKey, if_neg (by omega)]
    exact ⟨hctx, Nat.zero_lt_succ 3, Buffered.absorb_short (by decide) _⟩
  rw [michaelDigest, michaelFinal_holds (michaelUpdates_hold chunks hset), List.nil_append, michael]

-- the example of the standard with one byte
example : michaelDigest ⟨[0, 0, 0, 0], 0, 0, 0⟩ [0x82, 0x92, 0x5c, 0x1c, 0xa1, 0xd1, 0x30, 0xb8] [[0x4d]] =
    [0x43, 0x47, 0x21, 0xca, 0x40, 0x63, 0x9b, 0x3f] := by
  decide +kernel

/-! ### The key from a digest -/

/-- `michael_block`, undone. -/
def michaelUnblock (s : UInt32 × UInt32) : UInt32 × UInt32 :=
  let l := s.1 - s.2
  let r := s.2 ^^^ rotr l 2
  let l := l - r
  let r := r ^^^ rotl l 3
  let l := l - r
  let r := r ^^^ xswap l
  let l := l - r
  let r := r ^^^ rotl l 17
  (l, r)

theorem michaelUnblock_block (s : UInt32 × UInt32) : michaelUnblock (michaelBlock s) = s := by
  simp only [michaelUnblock, michaelBlock, UInt32.add_sub_cancel, UInt32.xor_assoc, UInt32.xor_self,
    UInt32.xor_zero]

theorem michaelBlock_unblock (s : UInt32 × UInt32) : michaelBlock (michaelUnblock s) = s := by
  simp only [michaelUnblock, michaelBlock, UInt32.sub_add_cancel, UInt32.xor_assoc, UInt32.xor_self,
    UInt32.xor_zero]

/-- The pair before a word was taken in. -/
def michaelUntake (s : UInt32 × UInt32) (w : UInt32) : UInt32 × UInt32 :=
  ((michaelUnblock s).1 ^^^ w, (michaelUnblock s).2)

/-- The pair before the words of a string were. -/
def michaelUnrun (s : UInt32 × UInt32) : List UInt8 → UInt32 × UInt32
  | a :: b :: c :: d :: data => michaelUntake (michaelUnrun s data) (getLe32 [a, b, c, d] 0)
  | _ => s

theorem michaelUnrun_run : ∀ (s : UInt32 × UInt32) (data : List UInt8),
    michaelUnrun (michaelRun s data) data = s
  | s, a :: b :: c :: d :: data => by
    have hrun : michaelRun s (a :: b :: c :: d :: data) =
        michaelRun (michaelWord s (getLe32 [a, b, c, d] 0)) data :=
      congrArg Prod.fst (@Buffered.absorb_block _ _ 4 michaelTake [a, b, c, d] (by decide) rfl s data)
    rw [hrun, michaelUnrun, michaelUnrun_run, michaelUntake, michaelWord, michaelUnblock_block,
      UInt32.xor_assoc, UInt32.xor_self, UInt32.xor_zero]
  | s, [] => congrArg Prod.fst (Buffered.absorb_short (by decide) s)
  | s, [_] => congrArg Prod.fst (Buffered.absorb_short (by simp) s)
  | s, [_, _] => congrArg Prod.fst (Buffered.absorb_short (by simp) s)
  | s, [_, _, _] => congrArg Prod.fst (Buffered.absorb_short (by simp) s)

theorem michaelRun_unrun : ∀ (s : UInt32 × UInt32) (data : List UInt8),
    michaelRun (michaelUnrun s data) data = s
  | s, a :: b :: c :: d :: data => by
    have hrun : ∀ t, michaelRun t (a :: b :: c :: d :: data) =
        michaelRun (michaelWord t (getLe32 [a, b, c, d] 0)) data := fun t =>
      congrArg Prod.fst (@Buffered.absorb_block _ _ 4 michaelTake [a, b, c, d] (by decide) rfl t data)
    rw [hrun, michaelUnrun, michaelUntake, michaelWord, UInt32.xor_assoc, UInt32.xor_self,
      UInt32.xor_zero, michaelBlock_unblock, michaelRun_unrun]
  | s, [] => congrArg Prod.fst (Buffered.absorb_short (by decide) s)
  | s, [_] => congrArg Prod.fst (Buffered.absorb_short (by simp) s)
  | s, [_, _] => congrArg Prod.fst (Buffered.absorb_short (by simp) s)
  | s, [_, _, _] => congrArg Prod.fst (Buffered.absorb_short (by simp) s)

/-- The key that gives a message its digest. -/
def michaelKeyOf (data mic : List UInt8) : List UInt8 :=
  let s := michaelUnrun (getLe32 mic 0, getLe32 mic 4) (michaelPad data)
  le32 s.1 ++ le32 s.2

theorem getLe32_le32 (l r : UInt32) :
    getLe32 (le32 l ++ le32 r) 0 = l ∧ getLe32 (le32 l ++ le32 r) 4 = r :=
  ⟨le32_read l, le32_read r⟩

theorem le32_ofBytes4 (a b c d : UInt8) : le32 (ofBytes4 a b c d) = [a, b, c, d] := by
  have hle : ∀ v : UInt32, le32 v = [byteOf v 0, byteOf v 1, byteOf v 2, byteOf v 3] := fun v => rfl
  rw [hle, byteOf_ofBytes4, byteOf_ofBytes4, byteOf_ofBytes4, byteOf_ofBytes4]

theorem le32_getLe32 : ∀ {d : List UInt8}, d.length = 8 → le32 (getLe32 d 0) ++ le32 (getLe32 d 4) = d
  | [_, _, _, _, _, _, _, _], _ => by
    rw [getLe32, getLe32, le32_ofBytes4, le32_ofBytes4]
    rfl

/-! ### Messages that differ in one word -/

theorem michaelRun_append {a : List UInt8} (h : a.length % 4 = 0) (s : UInt32 × UInt32) (b : List UInt8) :
    michaelRun s (a ++ b) = michaelRun (michaelRun s a) b := by
  have hrest := @Buffered.length_absorb_rest _ _ 4 michaelTake (by decide) s a
  rw [h] at hrest
  rw [michaelRun, Buffered.absorb_append (by decide), List.eq_nil_of_length_eq_zero hrest, List.nil_append]
  rfl

theorem michaelRun_word {w : List UInt8} (h : w.length = 4) (s : UInt32 × UInt32) :
    michaelRun s w = michaelTake s w := by
  have hblock := @Buffered.absorb_block _ _ 4 michaelTake w (by decide) h s []
  have hnone : Buffered.absorb 4 michaelTake (michaelTake s w) [] = (michaelTake s w, []) :=
    Buffered.absorb_short (by decide) _
  rw [List.append_nil, hnone] at hblock
  rw [michaelRun, hblock]

/-- From one pair, different words lead to different pairs. -/
theorem michaelTake_inj {s : UInt32 × UInt32} {w w' : List UInt8} (hw : w.length = 4)
    (hw' : w'.length = 4) (h : michaelTake s w = michaelTake s w') : w = w' := by
  have hback := congrArg michaelUnblock h
  simp only [michaelTake, michaelWord, michaelUnblock_block, Prod.mk.injEq, and_true] at hback
  have hword := (UInt32.xor_right_inj s.1).mp hback
  match w, hw, w', hw', hword with
  | [a, b, c, d], _, [a', b', c', d'], _, hword =>
    have hle := congrArg le32 hword
    have hleft : getLe32 [a, b, c, d] 0 = ofBytes4 a b c d := rfl
    have hright : getLe32 [a', b', c', d'] 0 = ofBytes4 a' b' c' d' := rfl
    rwa [hleft, hright, le32_ofBytes4, le32_ofBytes4] at hle

theorem length_michaelPad (data : List UInt8) : (michaelPad data).length % 4 = 0 := by
  rw [michaelPad, List.length_append, List.length_cons, List.length_replicate]
  omega

/-- Two strings of whole words that differ in one word only lead to different pairs. -/
theorem michaelRun_word_ne {s : UInt32 × UInt32} {a w w' b : List UInt8} (ha : a.length % 4 = 0)
    (hw : w.length = 4) (hw' : w'.length = 4) (hne : w ≠ w') :
    michaelRun s (a ++ w ++ b) ≠ michaelRun s (a ++ w' ++ b) := by
  have hsplit : ∀ v : List UInt8, v.length = 4 →
      michaelRun s (a ++ v ++ b) = michaelRun (michaelTake (michaelRun s a) v) b := by
    intro v hv
    rw [michaelRun_append (by rw [List.length_append]; omega), michaelRun_append ha, michaelRun_word hv]
  intro h
  rw [hsplit w hw, hsplit w' hw'] at h
  have hback := congrArg (fun t => michaelUnrun t b) h
  simp only [michaelUnrun_run] at hback
  exact hne (michaelTake_inj hw hw' hback)

/-- Messages of one length that differ inside one word only have different digests. -/
theorem michael_word_ne {key d d' : List UInt8} {k : ℕ} (hlen : d.length = d'.length)
    (hsame : ∀ i, i / 4 ≠ k → d[i]? = d'[i]?) (hne : d ≠ d') : michael key d ≠ michael key d' := by
  set p := michaelPad d with hp
  set p' := michaelPad d' with hp'
  have hplen : p.length = p'.length := by
    simp [hp, hp', michaelPad, hlen]
  have hpne : p ≠ p' := by
    intro h
    rw [hp, hp', michaelPad, michaelPad, hlen] at h
    exact hne (List.append_cancel_right h)
  have hpsame : ∀ i, i / 4 ≠ k → p[i]? = p'[i]? := by
    intro i hi
    rw [hp, hp', michaelPad, michaelPad, List.getElem?_append, List.getElem?_append, hlen, hsame i hi]
  have hfront : p.take (4 * k) = p'.take (4 * k) := by
    apply List.ext_getElem?
    intro i
    rw [List.getElem?_take, List.getElem?_take]
    by_cases hi : i < 4 * k
    · rw [if_pos hi, if_pos hi]
      exact hpsame i (by omega)
    · rw [if_neg hi, if_neg hi]
  have hback : p.drop (4 * k + 4) = p'.drop (4 * k + 4) := by
    apply List.ext_getElem?
    intro i
    rw [List.getElem?_drop, List.getElem?_drop]
    exact hpsame _ (by omega)
  have hsplit : ∀ q : List UInt8, q = q.take (4 * k) ++ (q.drop (4 * k)).take 4 ++ q.drop (4 * k + 4) := by
    intro q
    rw [List.append_assoc, ← List.drop_drop, List.take_append_drop, List.take_append_drop]
  have hword : (p.drop (4 * k)).take 4 ≠ (p'.drop (4 * k)).take 4 := by
    intro h
    apply hpne
    rw [hsplit p, hsplit p', hfront, h, hback]
  have hmod := length_michaelPad d
  rw [← hp] at hmod
  have hinside : 4 * k + 4 ≤ p.length := by
    by_contra hout
    apply hword
    rw [List.drop_of_length_le (by omega), List.drop_of_length_le (by omega)]
  have hw : ((p.drop (4 * k)).take 4).length = 4 := by
    rw [List.length_take, List.length_drop]
    omega
  have hw' : ((p'.drop (4 * k)).take 4).length = 4 := by
    rw [List.length_take, List.length_drop]
    omega
  have ha : (p'.take (4 * k)).length % 4 = 0 := by
    rw [List.length_take]
    omega
  intro h
  have hread := congrArg (fun m => (getLe32 m 0, getLe32 m 4)) h
  simp only [michael, (getLe32_le32 _ _).1, (getLe32_le32 _ _).2] at hread
  rw [← hp, ← hp', hsplit p, hsplit p', hfront, hback] at hread
  exact michaelRun_word_ne ha hw hw' hword hread

/-! ### The key -/

/-- **A message and its digest give the key**, and every eight bytes are the digest of a
message under some key. -/
theorem michael_key_recovered {ctx : MichaelCtx} (hctx : ctx.pending.length = 4)
    (chunks : List (List UInt8)) :
    (∀ key, key.length = 8 → michaelKeyOf chunks.flatten (michaelDigest ctx key chunks) = key) ∧
    ∀ mic, mic.length = 8 → michaelDigest ctx (michaelKeyOf chunks.flatten mic) chunks = mic := by
  refine ⟨fun key hkey => ?_, fun mic hmic => ?_⟩
  · rw [michaelDigest_eq hctx hkey, michaelKeyOf, michael, (getLe32_le32 _ _).1, (getLe32_le32 _ _).2,
      michaelUnrun_run, le32_getLe32 hkey]
  · rw [michaelDigest_eq hctx rfl, michael, michaelKeyOf, (getLe32_le32 _ _).1, (getLe32_le32 _ _).2,
      michaelRun_unrun, le32_getLe32 hmic]

/-- Nine bytes in three chunks, cut inside words. -/
theorem michael_key_recovered_chunks :
    (∀ key, key.length = 8 → michaelKeyOf [1, 2, 3, 4, 5, 6, 7, 8, 9]
      (michaelDigest ⟨[0, 0, 0, 0], 0, 0, 0⟩ key [[1, 2, 3], [4], [5, 6, 7, 8, 9]]) = key) ∧
    ∀ mic, mic.length = 8 → michaelDigest ⟨[0, 0, 0, 0], 0, 0, 0⟩
      (michaelKeyOf [1, 2, 3, 4, 5, 6, 7, 8, 9] mic) [[1, 2, 3], [4], [5, 6, 7, 8, 9]] = mic :=
  @michael_key_recovered ⟨[0, 0, 0, 0], 0, 0, 0⟩ rfl [[1, 2, 3], [4], [5, 6, 7, 8, 9]]

end Rtl8187

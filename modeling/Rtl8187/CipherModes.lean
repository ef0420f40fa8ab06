/-
# Ciphers over scatterlists

`cipher.c`: `crypt` takes a block at a time from the source walk to the destination
walk, straight on the pages where a block lies on one, by way of a scratch buffer where
it does not, and in place where the two are the same. However the bytes fall, what
reaches the destination is the mode run over the bytes of the source, and nothing else
in memory changes (`crypt_runs`).

The vector of a chained mode is a buffer of its own, apart from the memory walked.

Key definitions: `CryptSt`, `ecbProcess`, `cbcProcess`, `cryptLoop`, `crypt`, `Implements`.
Key theorems: `ecb_implements`, `cbcEncrypt_implements`, `cbcDecrypt_implements`,
`cryptLoop_runs`, `crypt_runs`.
-/
import Rtl8187.ScatterWalk
import Rtl8187.Lib.BlockModes
import Mathlib.Tactic.Set

namespace Rtl8187

open Bytes Gather BlockModes

/-- What `crypt` works on: the context of the cipher, memory, the vector and the two
scratch buffers. -/
structure CryptSt (σ : Type*) where
  ctx : σ
  mem : Memory
  iv : Option (List UInt8)
  tmpSrc : List UInt8
  tmpDst : List UInt8

namespace CryptSt

variable {σ : Type*}

/-- The block at a pointer: on a page, or in `tmp`. -/
def fetch (st : CryptSt σ) (tmp : List UInt8) (bs : ℕ) : Option ℕ → List UInt8
  | some a => gather st.mem (List.range' a bs)
  | none => tmp

/-- A block written to the destination. -/
def store (st : CryptSt σ) (bs : ℕ) (b : List UInt8) : Option ℕ → CryptSt σ
  | some a => { st with mem := scatter st.mem (List.range' a bs) b }
  | none => { st with tmpDst := b }

end CryptSt

section

variable {σ : Type*} (fn : Mode σ) (bs : ℕ)

/-- `procfn_t`: whether it is in place, the destination, the source. -/
abbrev ProcFn (σ : Type*) : Type _ := Bool → Option ℕ → Option ℕ → CryptSt σ → CryptSt σ

/-- `ecb_process` -/
def ecbProcess : ProcFn σ := fun _ dst src st =>
  let r := fn st.ctx (st.fetch st.tmpSrc bs src)
  { st with ctx := r.1 }.store bs r.2 dst

/-- `cbc_process` -/
def cbcProcess (enc : Bool) : ProcFn σ := fun inPlace dst src st =>
  match st.iv with
  | none => st
  | some iv =>
    if enc then
      let r := fn st.ctx (xorBytes iv (st.fetch st.tmpSrc bs src))
      let st := { st with ctx := r.1 }.store bs r.2 dst
      { st with iv := some (st.fetch st.tmpDst bs dst) }
    else if inPlace then
      let r := fn st.ctx (st.fetch st.tmpSrc bs src)
      { st with ctx := r.1, iv := some (st.fetch st.tmpSrc bs src) }.store bs (xorBytes r.2 iv) dst
    else
      let r := fn st.ctx (st.fetch st.tmpSrc bs src)
      let st := { st with ctx := r.1 }.store bs r.2 dst
      let st := st.store bs (xorBytes (st.fetch st.tmpDst bs dst) iv) dst
      { st with iv := some (st.fetch st.tmpSrc bs src) }

/-- A turn of the loop of `crypt`, `more` telling whether bytes are left behind it. -/
def cryptBlock (prfn : ProcFn σ) (more : Bool) (walkIn walkOut : ScatterWalk) (st : CryptSt σ) :
    Option (ScatterWalk × ScatterWalk × CryptSt σ) :=
  let srcP := scatterwalkWhichbuf walkIn bs
  let dstP := scatterwalkWhichbuf walkOut bs
  let inPlace := scatterwalkSamebuf walkIn walkOut srcP dstP
  match scatterwalkCopychunks false srcP (st.mem, st.tmpSrc) walkIn bs with
  | none => none
  | some (c, walkIn) =>
    let st := prfn inPlace dstP srcP { st with mem := c.1, tmpSrc := c.2 }
    match scatterwalkDone walkIn more, scatterwalkCopychunks true dstP (st.mem, st.tmpDst) walkOut bs with
    | some walkIn, some (c, walkOut) =>
      match scatterwalkDone walkOut more with
      | none => none
      | some walkOut => some (walkIn, walkOut, { st with mem := c.1, tmpDst := c.2 })
    | _, _ => none

/-- The loop of `crypt`, over `n` blocks. -/
def cryptLoop (prfn : ProcFn σ) : ℕ → ScatterWalk → ScatterWalk → CryptSt σ → Option (CryptSt σ)
  | 0, _, _, st => some st
  | n + 1, walkIn, walkOut, st =>
    match cryptBlock bs prfn (n ≠ 0) walkIn walkOut st with
    | none => none
    | some (walkIn, walkOut, st) => cryptLoop prfn n walkIn walkOut st

/-- `CRYPTO_TFM_RES_BAD_BLOCK_LEN` -/
def tfmResBadBlockLen : UInt32 := 0x00800000

/-- `crypt`: the return value, `crt_flags` and what was worked on; nothing when it reads
past the end of a list. -/
def crypt (prfn : ProcFn σ) (flags : UInt32) (dst src : List Scatterlist) (nbytes : ℕ)
    (st : CryptSt σ) : Option (ℤ × UInt32 × CryptSt σ) :=
  if nbytes = 0 then some (0, flags, st)
  else if nbytes % bs ≠ 0 then some (-22, flags ||| tfmResBadBlockLen, st)
  else
    match scatterwalkStart src, scatterwalkStart dst with
    | some walkIn, some walkOut =>
      (cryptLoop bs prfn (nbytes / bs) walkIn walkOut st).map fun st => (0, flags, st)
    | _, _ => none

end

/-! ### What a mode does to a block -/

section

variable {σ τ : Type*} {bs : ℕ}

/-- A `procfn` does with a block what the mode does, which is a block, wherever source and destination
lie, as long as they are told to be the same when they are and share nothing
otherwise. `R` says what of the mode's state is in context and vector. -/
def Implements (bs : ℕ) (prfn : ProcFn σ) (g : Mode τ) (R : σ → Option (List UInt8) → τ → Prop) : Prop :=
  ∀ (inPlace : Bool) (dst src : Option ℕ) (st : CryptSt σ) (t : τ),
    R st.ctx st.iv t → (st.fetch st.tmpSrc bs src).length = bs →
    (inPlace = false → ∀ a b, dst = some a → src = some b →
      ∀ x ∈ List.range' b bs, x ∉ List.range' a bs) →
    ∃ ctx iv, R ctx iv (g t (st.fetch st.tmpSrc bs src)).1 ∧
      (g t (st.fetch st.tmpSrc bs src)).2.length = bs ∧
      prfn inPlace dst src st =
        { st with ctx := ctx, iv := iv }.store bs (g t (st.fetch st.tmpSrc bs src)).2 dst

variable {fn : Mode σ}

theorem ecb_implements (hfn : Blockwise fn bs) :
    Implements bs (ecbProcess fn bs) fn fun ctx _ t => ctx = t := by
  intro _ dst src st t hR hsrc _
  subst hR
  exact ⟨_, st.iv, rfl, hfn _ _ hsrc, rfl⟩

/-- The state of a chained mode: the context and a vector of the size of a block. -/
def ChainState (bs : ℕ) (ctx : σ) (iv : Option (List UInt8)) (t : σ × List UInt8) : Prop :=
  ctx = t.1 ∧ iv = some t.2 ∧ t.2.length = bs

theorem fetch_store {st : CryptSt σ} {b : List UInt8} (hb : b.length = bs) :
    ∀ dst : Option ℕ, (st.store bs b dst).fetch (st.store bs b dst).tmpDst bs dst = b
  | some a => gather_scatter List.nodup_range' (by rw [List.length_range', hb])
  | none => rfl

theorem store_store {st : CryptSt σ} {b b' : List UInt8} (hb' : b'.length = bs) :
    ∀ dst : Option ℕ, (st.store bs b dst).store bs b' dst = st.store bs b' dst
  | some a => by
    rw [CryptSt.store, CryptSt.store, CryptSt.store,
      scatter_scatter List.nodup_range' (by rw [List.length_range', hb'])]
  | none => rfl

theorem store_ctx_iv (st : CryptSt σ) (b : List UInt8) : ∀ dst : Option ℕ,
    (st.store bs b dst).ctx = st.ctx ∧ (st.store bs b dst).iv = st.iv ∧
    (st.store bs b dst).tmpSrc = st.tmpSrc
  | some _ | none => ⟨rfl, rfl, rfl⟩

theorem store_with_iv (st : CryptSt σ) (iv : Option (List UInt8)) (b : List UInt8) :
    ∀ dst : Option ℕ, { st.store bs b dst with iv := iv } = ({ st with iv := iv }).store bs b dst
  | some _ | none => rfl

/-- A block stored elsewhere leaves the source. -/
theorem fetch_src_store {st : CryptSt σ} {b : List UInt8} {dst src : Option ℕ}
    (h : ∀ a c, dst = some a → src = some c → ∀ x ∈ List.range' c bs, x ∉ List.range' a bs) :
    (st.store bs b dst).fetch (st.store bs b dst).tmpSrc bs src = st.fetch st.tmpSrc bs src := by
  match dst, src with
  | none, none | none, some _ | some _, none => rfl
  | some a, some c => exact gather_scatter_of_disjoint (h a c rfl rfl)

theorem cbcEncrypt_implements (hfn : Blockwise fn bs) :
    Implements bs (cbcProcess fn bs true) (cbcEncrypt fn) (ChainState bs) := by
  intro inPlace dst src st t hR hsrc _
  obtain ⟨hctx, hiv, hlen⟩ := hR
  have hxor : (xorBytes t.2 (st.fetch st.tmpSrc bs src)).length = bs := by
    rw [length_xorBytes, hlen, hsrc, Nat.min_self]
  have hblock := hfn t.1 _ hxor
  refine ⟨_, _, ⟨rfl, rfl, hblock⟩, hblock, ?_⟩
  rw [cbcProcess, hiv]
  dsimp only
  rw [if_pos rfl, hctx, fetch_store hblock, store_with_iv]
  rfl

theorem cbcDecrypt_implements (hfn : Blockwise fn bs) :
    Implements bs (cbcProcess fn bs false) (cbcDecrypt fn) (ChainState bs) := by
  intro inPlace dst src st t hR hsrc hapart
  obtain ⟨hctx, hiv, hlen⟩ := hR
  have hblock := hfn t.1 _ hsrc
  have hxor : (xorBytes (fn t.1 (st.fetch st.tmpSrc bs src)).2 t.2).length = bs := by
    rw [length_xorBytes, hlen, hblock, Nat.min_self]
  refine ⟨_, _, ⟨rfl, rfl, hsrc⟩, hxor, ?_⟩
  rw [cbcProcess, hiv]
  dsimp only
  rw [if_neg (by decide), hctx]
  cases inPlace with
  | true =>
    rw [if_pos rfl]
    rfl
  | false =>
    rw [if_neg (by decide), fetch_store hblock, store_store hxor, fetch_src_store (hapart rfl),
      store_with_iv]
    rfl

/-! ### A block, and all of them -/

/-- The scratch buffers are blocks. -/
structure CryptSt.Scratch (bs : ℕ) (st : CryptSt σ) : Prop where
  src : st.tmpSrc.length = bs
  dst : st.tmpDst.length = bs

theorem whichbuf_some {w : ScatterWalk} {n a : ℕ} (h : scatterwalkWhichbuf w n = some a) :
    n ≤ w.lenThisPage ∧ a = w.data := by
  unfold scatterwalkWhichbuf at h
  split_ifs at h with hle
  exact ⟨hle.1, (Option.some.inj h).symm⟩

theorem whichbuf_ne {w : ScatterWalk} {n : ℕ} (h : scatterwalkWhichbuf w n ≠ some w.data) :
    scatterwalkWhichbuf w n = none := by
  cases hbuf : scatterwalkWhichbuf w n with
  | none => rfl
  | some a => exact absurd (by rw [hbuf, (whichbuf_some hbuf).2]) h

/-- The source of a block after the copy: its bytes are the next of the walk. -/
theorem copychunks_src {st : CryptSt σ} {w : ScatterWalk} (hw : w.Inside) (hn : bs ≤ w.addrs.length)
    (htmp : st.tmpSrc.length = bs) :
    ∃ c w', scatterwalkCopychunks false (scatterwalkWhichbuf w bs) (st.mem, st.tmpSrc) w bs =
        some (c, w') ∧ c.1 = st.mem ∧ c.2.length = bs ∧ w.After bs w' ∧
      { st with mem := c.1, tmpSrc := c.2 }.fetch c.2 bs (scatterwalkWhichbuf w bs) =
        gather st.mem (w.addrs.take bs) := by
  rw [scatterwalkCopychunks]
  by_cases hdirect : scatterwalkWhichbuf w bs = some w.data
  · obtain ⟨hle, -⟩ := whichbuf_some hdirect
    rw [if_pos hdirect, hdirect, hw.take hle]
    exact ⟨_, _, rfl, rfl, htmp, hw.advance hle, rfl⟩
  · obtain ⟨w', n', hloop, hafter⟩ := copyLoop_copies false (st.mem, st.tmpSrc) 0 w bs hw hn
      (by rw [Nat.zero_add]; exact htmp.ge)
    have htake : (w.addrs.take bs).length = bs := List.length_take_of_le hn
    have hbuf : (st.tmpSrc.take 0 ++ gather st.mem (w.addrs.take bs) ++
        st.tmpSrc.drop (0 + (w.addrs.take bs).length)) = gather st.mem (w.addrs.take bs) := by
      rw [List.take_zero, List.nil_append, htake, Nat.zero_add, List.drop_of_length_le htmp.le,
        List.append_nil]
    rw [if_neg hdirect, hloop, whichbuf_ne hdirect]
    refine ⟨_, _, rfl, rfl, ?_, hafter, ?_⟩
    · show (st.tmpSrc.take 0 ++ gather st.mem (w.addrs.take bs) ++
        st.tmpSrc.drop (0 + (w.addrs.take bs).length)).length = bs
      rw [hbuf, length_gather, htake]
    · exact hbuf

/-- The destination of a block after the copy: its bytes are at the next of the walk. -/
theorem copychunks_dst {st : CryptSt σ} {w : ScatterWalk} (hw : w.Inside) (hn : bs ≤ w.addrs.length)
    (htmp : st.tmpDst.length = bs) {b : List UInt8} (hb : b.length = bs) :
    ∃ c w', scatterwalkCopychunks true (scatterwalkWhichbuf w bs)
        ((st.store bs b (scatterwalkWhichbuf w bs)).mem,
          (st.store bs b (scatterwalkWhichbuf w bs)).tmpDst) w bs = some (c, w') ∧
      c.1 = scatter st.mem (w.addrs.take bs) b ∧ c.2.length = bs ∧ w.After bs w' := by
  rw [scatterwalkCopychunks]
  by_cases hdirect : scatterwalkWhichbuf w bs = some w.data
  · obtain ⟨hle, -⟩ := whichbuf_some hdirect
    rw [if_pos hdirect, hdirect, hw.take hle]
    exact ⟨_, _, rfl, rfl, htmp, hw.advance hle⟩
  · rw [if_neg hdirect, whichbuf_ne hdirect]
    obtain ⟨w', n', hloop, hafter⟩ := copyLoop_copies true (st.mem, b) 0 w bs hw hn
      (by rw [Nat.zero_add]; exact hb.ge)
    have htake : (w.addrs.take bs).length = bs := List.length_take_of_le hn
    have hslice : slice 0 (w.addrs.take bs).length b = b := by
      rw [slice, List.drop_zero, htake, List.take_of_length_le hb.le]
    refine ⟨(scatter st.mem (w.addrs.take bs) b, b), _, ?_, rfl, hb, hafter⟩
    show (copyLoop true (st.mem, b) 0 w bs).map _ = _
    rw [hloop]
    show some (((scatter st.mem _ (slice 0 _ b), b), _)) = _
    rw [hslice]

/-- Source and destination of a block: the same addresses, or none in common. -/
def SameOrApart (src dst : List ℕ) : Prop := src = dst ∨ ∀ x ∈ src, x ∉ dst

/-- Where `samebuf` says no, two blocks on pages share nothing. -/
theorem samebuf_apart (hbs : 0 < bs) {walkIn walkOut : ScatterWalk} (hin : walkIn.Inside)
    (hout : walkOut.Inside) (hshare : SameOrApart (walkIn.addrs.take bs) (walkOut.addrs.take bs))
    (hsame : scatterwalkSamebuf walkIn walkOut (scatterwalkWhichbuf walkIn bs)
      (scatterwalkWhichbuf walkOut bs) = false) (a b : ℕ)
    (hdst : scatterwalkWhichbuf walkOut bs = some a) (hsrc : scatterwalkWhichbuf walkIn bs = some b) :
    ∀ x ∈ List.range' b bs, x ∉ List.range' a bs := by
  obtain ⟨hleOut, rfl⟩ := whichbuf_some hdst
  obtain ⟨hleIn, rfl⟩ := whichbuf_some hsrc
  rw [hin.take hleIn, hout.take hleOut] at hshare
  rcases hshare with heq | hapart
  · -- the same addresses are the same page and offset
    have hdata : walkIn.data = walkOut.data := by
      have hhead := congrArg (·.head?) heq
      rw [List.head?_range', List.head?_range', if_neg (by omega), if_neg (by omega)] at hhead
      exact Option.some.inj hhead
    have hoffIn : walkIn.offset < pageSize := by
      have := hin.end_le
      omega
    have hoffOut : walkOut.offset < pageSize := by
      have := hout.end_le
      omega
    have hpos : 0 < pageSize := by decide
    have hpage : walkIn.page = walkOut.page := by
      have h := congrArg (· / pageSize) hdata
      simp only [ScatterWalk.data] at h
      rwa [Nat.mul_comm, Nat.mul_add_div hpos, Nat.mul_comm walkOut.page, Nat.mul_add_div hpos,
        Nat.div_eq_of_lt hoffIn, Nat.div_eq_of_lt hoffOut, Nat.add_zero, Nat.add_zero] at h
    have hoffset : walkIn.offset = walkOut.offset := by
      have h := hdata
      rw [ScatterWalk.data, ScatterWalk.data, hpage] at h
      exact Nat.add_left_cancel h
    rw [scatterwalkSamebuf, hsrc, hdst] at hsame
    exact absurd hsame (by simp [hpage, hoffset])
  · exact hapart

variable {g : Mode τ} {R : σ → Option (List UInt8) → τ → Prop} {prfn : ProcFn σ}

/-- What a turn of the loop leaves. -/
structure BlockDone (bs : ℕ) (g : Mode τ) (R : σ → Option (List UInt8) → τ → Prop) (more : Bool)
    (walkIn walkOut : ScatterWalk) (st : CryptSt σ) (t : τ)
    (r : ScatterWalk × ScatterWalk × CryptSt σ) : Prop where
  src : more → walkIn.After bs r.1
  dst : more → walkOut.After bs r.2.1
  mem : r.2.2.mem = scatter st.mem (walkOut.addrs.take bs) (g t (gather st.mem (walkIn.addrs.take bs))).2
  state : R r.2.2.ctx r.2.2.iv (g t (gather st.mem (walkIn.addrs.take bs))).1
  out : (g t (gather st.mem (walkIn.addrs.take bs))).2.length = bs
  scratch : r.2.2.Scratch bs

theorem cryptBlock_done (hbs : 0 < bs) (himp : Implements bs prfn g R) {more : Bool} {walkIn walkOut : ScatterWalk} {st : CryptSt σ} {t : τ} (hin : walkIn.Inside)
    (hout : walkOut.Inside) (hst : st.Scratch bs) (hR : R st.ctx st.iv t)
    (hlenIn : bs ≤ walkIn.addrs.length) (hlenOut : bs ≤ walkOut.addrs.length)
    (hmoreIn : more → bs < walkIn.addrs.length) (hmoreOut : more → bs < walkOut.addrs.length)
    (hshare : SameOrApart (walkIn.addrs.take bs) (walkOut.addrs.take bs)) :
    ∃ r, cryptBlock bs prfn more walkIn walkOut st = some r ∧
      BlockDone bs g R more walkIn walkOut st t r := by
  obtain ⟨c, walkIn', hsrc, hmem, htmp, hafterIn, hfetch⟩ := copychunks_src hin hlenIn hst.src
  set block := gather st.mem (walkIn.addrs.take bs) with hblock
  have hblocklen : block.length = bs := by
    rw [hblock, length_gather, List.length_take_of_le hlenIn]
  have hnonempty : ∀ {w w' : ScatterWalk}, w.After bs w' → (more → bs < w.addrs.length) →
      more → w'.addrs ≠ [] := by
    intro w w' hafter hlt hm hnil
    have hlen := congrArg List.length (hafter.addrs.symm.trans hnil)
    rw [List.length_drop, List.length_nil] at hlen
    have := hlt hm
    omega
  obtain ⟨walkIn'', hdoneIn, hnextIn⟩ := scatterwalkDone_addrs hafterIn.inside (hnonempty hafterIn hmoreIn)
  obtain ⟨ctx, iv, hR', hout', hprfn⟩ := himp
    (scatterwalkSamebuf walkIn walkOut (scatterwalkWhichbuf walkIn bs) (scatterwalkWhichbuf walkOut bs))
    (scatterwalkWhichbuf walkOut bs) (scatterwalkWhichbuf walkIn bs)
    { st with mem := c.1, tmpSrc := c.2 } t hR (by rw [hfetch, hblocklen])
    (fun h a b => samebuf_apart hbs hin hout hshare h a b)
  rw [hfetch] at hR' hout' hprfn
  set st1 : CryptSt σ := { st with mem := c.1, tmpSrc := c.2, ctx := ctx, iv := iv } with hst1
  set st2 := st1.store bs (g t block).2 (scatterwalkWhichbuf walkOut bs) with hst2
  obtain ⟨d, walkOut', hdst, hdmem, hdtmp, hafterOut⟩ :=
    @copychunks_dst σ bs st1 walkOut hout hlenOut hst.dst (g t block).2 hout'
  obtain ⟨walkOut'', hdoneOut, hnextOut⟩ :=
    scatterwalkDone_addrs hafterOut.inside (hnonempty hafterOut hmoreOut)
  obtain ⟨hctx, hiv, htmpSrc⟩ :=
    @store_ctx_iv σ bs st1 (g t block).2 (scatterwalkWhichbuf walkOut bs)
  refine ⟨(walkIn'', walkOut'', { st2 with mem := d.1, tmpDst := d.2 }), ?_, ?_⟩
  · rw [cryptBlock]
    dsimp only
    rw [hsrc]
    dsimp only
    rw [← hst2] at hdst
    rw [hprfn, hdoneIn, hdst]
    dsimp only
    rw [hdoneOut]
  · refine ⟨fun hm => ?_, fun hm => ?_, ?_, ?_, hout', ?_, hdtmp⟩
    · obtain ⟨hi, ha⟩ := hnextIn hm
      exact ⟨hi, ha.trans hafterIn.addrs⟩
    · obtain ⟨hi, ha⟩ := hnextOut hm
      exact ⟨hi, ha.trans hafterOut.addrs⟩
    · rw [← hblock, ← hmem]
      exact hdmem
    · show R st2.ctx st2.iv _
      rw [hst2, hctx, hiv]
      exact hR'
    · show st2.tmpSrc.length = bs
      rw [hst2, htmpSrc]
      exact htmp

theorem SameOrApart.append {a a' b b' : List ℕ} (h : SameOrApart (a ++ a') (b ++ b'))
    (hlen : a.length = b.length) : SameOrApart a b ∧ SameOrApart a' b' := by
  rcases h with h | h
  · obtain ⟨h1, h2⟩ := List.append_inj h hlen
    exact ⟨Or.inl h1, Or.inl h2⟩
  · exact ⟨Or.inr fun x hx hb => h x (List.mem_append_left _ hx) (List.mem_append_left _ hb),
      Or.inr fun x hx hb => h x (List.mem_append_right _ hx) (List.mem_append_right _ hb)⟩

/-- What later blocks read, earlier ones have not written. -/
theorem SameOrApart.later {a a' b b' : List ℕ} (h : SameOrApart (a ++ a') (b ++ b'))
    (hlen : a.length = b.length) (hnodup : (b ++ b').Nodup) : ∀ x ∈ a', x ∉ b := by
  intro x hx hb
  rcases h with h | h
  · obtain ⟨-, h2⟩ := List.append_inj h hlen
    exact (List.nodup_append.mp hnodup).2.2 x hb x (h2 ▸ hx) rfl
  · exact h x (List.mem_append_right _ hx) (List.mem_append_left _ hb)

/-- **The loop runs the mode** over the bytes of the source walk. -/
theorem cryptLoop_runs (hbs : 0 < bs) (himp : Implements bs prfn g R) :
    ∀ (n : ℕ) (walkIn walkOut : ScatterWalk) (st : CryptSt σ) (t : τ), walkIn.Inside → walkOut.Inside →
      st.Scratch bs → R st.ctx st.iv t → n * bs ≤ walkIn.addrs.length →
      n * bs ≤ walkOut.addrs.length → (walkOut.addrs.take (n * bs)).Nodup →
      SameOrApart (walkIn.addrs.take (n * bs)) (walkOut.addrs.take (n * bs)) →
      ∃ st', cryptLoop bs prfn n walkIn walkOut st = some st' ∧
        st'.mem = scatter st.mem (walkOut.addrs.take (n * bs))
          (run g bs n t (gather st.mem (walkIn.addrs.take (n * bs)))).2 ∧
        R st'.ctx st'.iv (run g bs n t (gather st.mem (walkIn.addrs.take (n * bs)))).1
  | 0, walkIn, walkOut, st, t, _, _, _, hR, _, _, _, _ => by
    rw [Nat.zero_mul, List.take_zero, List.take_zero]
    exact ⟨st, rfl, rfl, hR⟩
  | n + 1, walkIn, walkOut, st, t, hin, hout, hst, hR, hlenIn, hlenOut, hnodup, hshare => by
    have hcount : (n + 1) * bs = bs + n * bs := by rw [Nat.succ_mul, Nat.add_comm]
    rw [hcount] at hlenIn hlenOut hnodup hshare ⊢
    simp only [List.take_add] at hnodup hshare ⊢
    set A := walkIn.addrs.take bs with hA
    set B := walkOut.addrs.take bs with hB
    set A' := (walkIn.addrs.drop bs).take (n * bs) with hA'
    set B' := (walkOut.addrs.drop bs).take (n * bs) with hB'
    have hAlen : A.length = bs := List.length_take_of_le (by omega)
    have hBlen : B.length = bs := List.length_take_of_le (by omega)
    have hABlen : A.length = B.length := hAlen.trans hBlen.symm
    have hmore : ∀ {w : ScatterWalk}, bs + n * bs ≤ w.addrs.length → (decide (n ≠ 0) = true) →
        bs < w.addrs.length := by
      intro w hlen hn
      have hpos : 0 < n * bs := Nat.mul_pos (Nat.pos_of_ne_zero (of_decide_eq_true hn)) hbs
      omega
    obtain ⟨r, hblock, hdone⟩ := cryptBlock_done hbs himp hin hout hst hR (by omega) (by omega)
      (hmore hlenIn) (hmore hlenOut) (hshare.append hABlen).1
    obtain ⟨hsrc, hdst, hmem, hstate, hlen, hscratch⟩ := hdone
    have hfirst : (gather st.mem A ++ gather st.mem A').take bs = gather st.mem A :=
      List.take_left' (by rw [length_gather, hAlen])
    have hrest : (gather st.mem A ++ gather st.mem A').drop bs = gather st.mem A' :=
      List.drop_left' (by rw [length_gather, hAlen])
    have houtlen : B.length = (g t (gather st.mem A)).2.length := by
      rw [hlen, hBlen]
    have hread : gather r.2.2.mem A' = gather st.mem A' := by
      rw [hmem]
      exact gather_scatter_of_disjoint (hshare.later hABlen hnodup)
    rw [cryptLoop, hblock, gather_append, run, hfirst, hrest]
    dsimp only
    rw [scatter_append st.mem houtlen]
    cases n with
    | zero =>
      have hA0 : A' = [] := by rw [hA', Nat.zero_mul, List.take_zero]
      have hB0 : B' = [] := by rw [hB', Nat.zero_mul, List.take_zero]
      rw [hB0]
      exact ⟨r.2.2, rfl, hmem, hstate⟩
    | succ n =>
      have hsrc' := hsrc (by simp)
      have hdst' := hdst (by simp)
      obtain ⟨st', hloop, hmem', hstate'⟩ := cryptLoop_runs hbs himp (n + 1) r.1 r.2.1 r.2.2 _
        hsrc'.inside hdst'.inside hscratch hstate
        (by rw [hsrc'.addrs, List.length_drop]; omega) (by rw [hdst'.addrs, List.length_drop]; omega)
        (by rw [hdst'.addrs]; exact (List.nodup_append.mp hnodup).2.1)
        (by rw [hsrc'.addrs, hdst'.addrs]; exact (hshare.append hABlen).2)
      rw [hsrc'.addrs, hdst'.addrs, ← hA', ← hB', hread, hmem] at hmem'
      rw [hsrc'.addrs, ← hA', hread] at hstate'
      exact ⟨st', hloop, hmem', hstate'⟩

/-- `nbytes` of two scatterlists: they are there, those written differ from each other,
and source and destination are the same or share none. -/
structure Segments (dst src : List Scatterlist) (nbytes : ℕ) : Prop where
  srcLen : nbytes ≤ (sgAddrs src).length
  dstLen : nbytes ≤ (sgAddrs dst).length
  nodup : ((sgAddrs dst).take nbytes).Nodup
  share : SameOrApart ((sgAddrs src).take nbytes) ((sgAddrs dst).take nbytes)

/-- **`crypt` runs the mode over the bytes of the source**, and changes nothing but the
bytes of the destination. -/
theorem crypt_runs (hbs : 0 < bs) (himp : Implements bs prfn g R)
    {dst src : List Scatterlist} {n : ℕ} {st : CryptSt σ} {t : τ} (flags : UInt32)
    (hst : st.Scratch bs) (hR : R st.ctx st.iv t) (hseg : Segments dst src (n * bs)) :
    ∃ st', crypt bs prfn flags dst src (n * bs) st = some (0, flags, st') ∧
      st'.mem = scatter st.mem ((sgAddrs dst).take (n * bs))
        (run g bs n t (gather st.mem ((sgAddrs src).take (n * bs)))).2 ∧
      R st'.ctx st'.iv (run g bs n t (gather st.mem ((sgAddrs src).take (n * bs)))).1 := by
  obtain ⟨hsrc, hdst, hnodup, hshare⟩ := hseg
  rw [crypt]
  by_cases h0 : n * bs = 0
  · rw [if_pos h0, h0, List.take_zero, List.take_zero]
    have hn : n = 0 := by
      rcases Nat.mul_eq_zero.mp h0 with h | h
      · exact h
      · omega
    rw [hn]
    exact ⟨st, rfl, rfl, hR⟩
  · have hne : ∀ {sgs : List Scatterlist}, n * bs ≤ (sgAddrs sgs).length → sgs ≠ [] := by
      intro sgs hlen hnil
      rw [hnil] at hlen
      exact h0 (Nat.le_zero.mp hlen)
    obtain ⟨walkIn, hstartIn⟩ := scatterwalkStart_some (hne hsrc)
    obtain ⟨walkOut, hstartOut⟩ := scatterwalkStart_some (hne hdst)
    obtain ⟨hin, haddrsIn⟩ := scatterwalkStart_addrs hstartIn
    obtain ⟨hout, haddrsOut⟩ := scatterwalkStart_addrs hstartOut
    rw [← haddrsIn] at hsrc hshare ⊢
    rw [← haddrsOut] at hdst hnodup hshare ⊢
    obtain ⟨st', hloop, hmem, hstate⟩ :=
      cryptLoop_runs hbs himp n walkIn walkOut st t hin hout hst hR hsrc hdst hnodup hshare
    rw [if_neg h0, if_neg (by rw [Nat.mul_mod_left]; exact fun h => h rfl), hstartIn, hstartOut,
      Nat.mul_div_cancel n hbs]
    dsimp only
    rw [hloop]
    exact ⟨st', rfl, hmem, hstate⟩

end

end Rtl8187

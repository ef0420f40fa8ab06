/-
# The ciphers behind the frames

A transform of `cipher.c` is an algorithm and its context; the frames are encrypted
through one in ECB mode, on the bytes where they lie. For CCMP that is AES, a block from
anywhere in memory to anywhere else or onto itself (`ccmp_aes_block`); for WEP and TKIP
it is ARC4 with blocks of one byte, which in place over a payload is its key stream added
to the payload (`arc4_in_place`). The scratch buffers of `crypt` are on the stack and
hold anything.

Key definitions: `CipherAlg`, `CipherTfm`, `cipherSetkey`, `ecbEncrypt`, `cbcEncryptIv`,
`aesAlg`, `arc4Alg`, `ccmpAesEncrypt`.
Key theorems: `ecb_runs`, `ccmp_aes_block`, `arc4_in_place`, `cbc_aes_restores`.
-/
import Rtl8187.CipherModes
import Rtl8187.AesCipher
import Rtl8187.Arc4

namespace Rtl8187

open Bytes Gather BlockModes Rijndael

/-- `struct cipher_alg`, with the block size of the `struct crypto_alg` around it. -/
structure CipherAlg (σ : Type*) where
  blocksize : ℕ
  minKeysize : ℕ
  maxKeysize : ℕ
  setkey : σ → List UInt8 → UInt32 → ℤ × UInt32 × σ
  encrypt : Mode σ
  decrypt : Mode σ

/-- `aes_alg` -/
def aesAlg : CipherAlg AesCtx :=
  ⟨16, 16, 32, aesSetKey, keyed aesEncrypt, keyed aesDecrypt⟩

/-- `arc4_crypt` on a byte. -/
def arc4Byte : Mode Arc4Ctx := fun ctx b =>
  let r := arc4Next ctx
  (r.1, [at8 b 0 ^^^ r.2])

/-- `arc4_alg` -/
def arc4Alg : CipherAlg Arc4Ctx :=
  ⟨1, 1, 256, fun _ key flags => (0, flags, arc4SetKey key), arc4Byte, arc4Byte⟩

/-- `struct crypto_tfm` of a cipher: `crt_flags` and the context. -/
structure CipherTfm (σ : Type*) where
  crtFlags : UInt32
  ctx : σ

/-- What the stack holds where `crypt` has its two scratch buffers. -/
structure Stack (bs : ℕ) where
  tmpSrc : List UInt8
  tmpDst : List UInt8
  length_src : tmpSrc.length = bs
  length_dst : tmpDst.length = bs

section

variable {σ : Type*} (alg : CipherAlg σ)

/-- `setkey` of `cipher.c`: the return value and the transform. -/
def cipherSetkey (tfm : CipherTfm σ) (key : List UInt8) : ℤ × CipherTfm σ :=
  if key.length < alg.minKeysize ∨ alg.maxKeysize < key.length then
    (-22, { tfm with crtFlags := tfm.crtFlags ||| tfmResBadKeyLen })
  else
    let r := alg.setkey tfm.ctx key tfm.crtFlags
    (r.1, ⟨r.2.1, r.2.2⟩)

/-- A call of `crypt` on a transform: the return value, the transform, and memory. -/
def tfmCrypt (prfn : ProcFn σ) (iv : Option (List UInt8)) (stack : Stack alg.blocksize)
    (tfm : CipherTfm σ) (mem : Memory) (dst src : List Scatterlist) (nbytes : ℕ) :
    Option (ℤ × CipherTfm σ × Memory) :=
  (crypt alg.blocksize prfn tfm.crtFlags dst src nbytes
    ⟨tfm.ctx, mem, iv, stack.tmpSrc, stack.tmpDst⟩).map fun r => (r.1, ⟨r.2.1, r.2.2.ctx⟩, r.2.2.mem)

/-- `ecb_encrypt` -/
def ecbEncrypt := tfmCrypt alg (ecbProcess alg.encrypt alg.blocksize) none

/-- `ecb_decrypt` -/
def ecbDecrypt := tfmCrypt alg (ecbProcess alg.decrypt alg.blocksize) none

/-- `cbc_encrypt_iv`; `cbc_encrypt` is the same on the vector of the transform. -/
def cbcEncryptIv (iv : List UInt8) :=
  tfmCrypt alg (cbcProcess alg.encrypt alg.blocksize true) (some iv)

/-- `cbc_decrypt_iv`; `cbc_decrypt` is the same on the vector of the transform. -/
def cbcDecryptIv (iv : List UInt8) :=
  tfmCrypt alg (cbcProcess alg.decrypt alg.blocksize false) (some iv)

end

/-- `ieee80211_ccmp_aes_encrypt` -/
def ccmpAesEncrypt (stack : Stack aesAlg.blocksize) (tfm : CipherTfm AesCtx) (mem : Memory)
    (pt ct : ℕ) : Option (CipherTfm AesCtx × Memory) :=
  (ecbEncrypt aesAlg stack tfm mem [Scatterlist.ofBuf ct 16] [Scatterlist.ofBuf pt 16] 16).map
    Prod.snd

/-! ### ECB -/

section

variable {σ : Type*} {alg : CipherAlg σ}

/-- A call runs the mode of its block function over the bytes of the source. -/
theorem tfmCrypt_runs {τ : Type*} {prfn : ProcFn σ} {g : Mode τ}
    {R : σ → Option (List UInt8) → τ → Prop} (hbs : 0 < alg.blocksize)
    (himp : Implements alg.blocksize prfn g R) {iv : Option (List UInt8)} (stack : Stack alg.blocksize)
    (tfm : CipherTfm σ) (mem : Memory) {t : τ} (hR : R tfm.ctx iv t) {dst src : List Scatterlist} {n : ℕ}
    (hseg : Segments dst src (n * alg.blocksize)) :
    ∃ ctx iv', tfmCrypt alg prfn iv stack tfm mem dst src (n * alg.blocksize) =
        some (0, ⟨tfm.crtFlags, ctx⟩, scatter mem ((sgAddrs dst).take (n * alg.blocksize))
          (run g alg.blocksize n t (gather mem ((sgAddrs src).take (n * alg.blocksize)))).2) ∧
      R ctx iv' (run g alg.blocksize n t (gather mem ((sgAddrs src).take (n * alg.blocksize)))).1 := by
  obtain ⟨st, hcrypt, hmem, hstate⟩ := @crypt_runs _ _ alg.blocksize g R prfn hbs himp dst src n
    ⟨tfm.ctx, mem, iv, stack.tmpSrc, stack.tmpDst⟩ t tfm.crtFlags
    ⟨stack.length_src, stack.length_dst⟩ hR hseg
  refine ⟨st.ctx, st.iv, ?_, hstate⟩
  rw [tfmCrypt, hcrypt, ← hmem]
  rfl

/-- In ECB mode the mode is the block function itself. -/
theorem ecb_runs {fn : Mode σ} (hbs : 0 < alg.blocksize) (hfn : Blockwise fn alg.blocksize)
    (stack : Stack alg.blocksize) (tfm : CipherTfm σ) (mem : Memory) {dst src : List Scatterlist} {n : ℕ}
    (hseg : Segments dst src (n * alg.blocksize)) :
    let r := run fn alg.blocksize n tfm.ctx (gather mem ((sgAddrs src).take (n * alg.blocksize)))
    tfmCrypt alg (ecbProcess fn alg.blocksize) none stack tfm mem dst src (n * alg.blocksize) =
      some (0, ⟨tfm.crtFlags, r.1⟩, scatter mem ((sgAddrs dst).take (n * alg.blocksize)) r.2) := by
  obtain ⟨ctx, iv, hcrypt, rfl⟩ := tfmCrypt_runs hbs (ecb_implements hfn) stack tfm mem rfl hseg
  exact hcrypt

/-- The addresses of one buffer. -/
theorem sgAddrs_ofBuf (p n : ℕ) : sgAddrs [Scatterlist.ofBuf p n] = List.range' p n := by
  have hlen : (Scatterlist.ofBuf p n).length = n := rfl
  simp [sgAddrs, Scatterlist.addrs, Scatterlist.addr_ofBuf, hlen]

theorem take_sgAddrs_ofBuf {p len n : ℕ} (h : n ≤ len) :
    (sgAddrs [Scatterlist.ofBuf p len]).take n = List.range' p n := by
  rw [sgAddrs_ofBuf, List.take_range'_of_length_ge h]

/-- Two buffers, the same or apart, as source and destination. -/
theorem segments_ofBuf {pt ct n : ℕ}
    (h : SameOrApart (List.range' pt n) (List.range' ct n)) :
    Segments [Scatterlist.ofBuf ct n] [Scatterlist.ofBuf pt n] n := by
  have hsrc := @take_sgAddrs_ofBuf pt n n (Nat.le_refl n)
  have hdst := @take_sgAddrs_ofBuf ct n n (Nat.le_refl n)
  refine ⟨?_, ?_, ?_, ?_⟩
  · simp [sgAddrs_ofBuf]
  · simp [sgAddrs_ofBuf]
  · rw [hdst]
    exact List.nodup_range'
  · rw [hsrc, hdst]
    exact h

end

/-! ### AES -/

theorem length_u32Out (b : AesBlock) : (u32Out b).length = 16 := rfl

theorem aesEncrypt_blockwise : Blockwise (keyed aesEncrypt) 16 := fun _ _ _ => length_u32Out _

theorem aesDecrypt_blockwise : Blockwise (keyed aesDecrypt) 16 := fun _ _ _ => length_u32Out _

/-- The key of a transform. -/
theorem cipherSetkey_aes (tfm : CipherTfm AesCtx) {key : List UInt8}
    (hkey : key.length = 16 ∨ key.length = 24 ∨ key.length = 32) :
    ∃ ctx : AesCtx, cipherSetkey aesAlg tfm key = (0, ⟨tfm.crtFlags, ctx⟩) ∧ ctx.Expanded key := by
  obtain ⟨ctx, hset, hexp⟩ := aesSetKey_expanded tfm.ctx tfm.crtFlags hkey
  refine ⟨ctx, ?_, hexp⟩
  have hsize : ¬ (key.length < aesAlg.minKeysize ∨ aesAlg.maxKeysize < key.length) := by
    have hmin : aesAlg.minKeysize = 16 := rfl
    have hmax : aesAlg.maxKeysize = 32 := rfl
    omega
  have haes : aesAlg.setkey tfm.ctx key tfm.crtFlags = (0, tfm.crtFlags, ctx) := hset
  rw [cipherSetkey, if_neg hsize, haes]

theorem blocksize_aes : aesAlg.blocksize = 16 := rfl

/-- Two buffers of `n` bytes that are the same or do not reach into each other. -/
theorem sameOrApart_range' {p q n : ℕ} (h : p = q ∨ p + n ≤ q ∨ q + n ≤ p) :
    SameOrApart (List.range' p n) (List.range' q n) := by
  rcases h with rfl | hle
  · exact Or.inl rfl
  · right
    intro x hx hy
    simp only [List.mem_range'_1] at hx hy
    omega

/-- **A block of CCMP is a block of AES**: wherever the two buffers lie, across pages or
not, the same or apart, and whatever the stack held, the cipher of the one is put in the
other and nothing else changes. -/
theorem ccmp_aes_block (tfm : CipherTfm AesCtx) {key : List UInt8}
    (hkey : key.length = 16 ∨ key.length = 24 ∨ key.length = 32) (stack : Stack aesAlg.blocksize)
    (mem : Memory) {pt ct : ℕ} (hapart : pt = ct ∨ pt + 16 ≤ ct ∨ ct + 16 ≤ pt) :
    let tfm' := (cipherSetkey aesAlg tfm key).2
    ccmpAesEncrypt stack tfm' mem pt ct =
      some (tfm', scatter mem (List.range' ct 16) (cipher key (gather mem (List.range' pt 16)))) := by
  obtain ⟨ctx, hset, hexp⟩ := cipherSetkey_aes tfm hkey
  intro tfm'
  have htfm : tfm' = ⟨tfm.crtFlags, ctx⟩ := congrArg Prod.snd hset
  have hseg := segments_ofBuf (sameOrApart_range' hapart)
  have hone : 1 * aesAlg.blocksize = 16 := rfl
  have hrun := @ecb_runs _ aesAlg _ (by decide) aesEncrypt_blockwise stack tfm' mem
    [Scatterlist.ofBuf ct 16] [Scatterlist.ofBuf pt 16] 1 hseg
  rw [hone, take_sgAddrs_ofBuf (Nat.le_refl 16), take_sgAddrs_ofBuf (Nat.le_refl 16)] at hrun
  have hblock : (run (keyed aesEncrypt) aesAlg.blocksize 1 tfm'.ctx (gather mem (List.range' pt 16))) =
      (tfm'.ctx, cipher key (gather mem (List.range' pt 16))) := by
    have htake : (gather mem (List.range' pt 16)).take 16 = gather mem (List.range' pt 16) :=
      List.take_of_length_le (by simp)
    rw [blocksize_aes, run, run, htake, keyed, List.append_nil, htfm, hexp.encrypt hkey]
  dsimp only at hrun
  rw [hblock] at hrun
  rw [ccmpAesEncrypt, ecbEncrypt]
  exact congrArg (Option.map Prod.snd) hrun

/-- A context of zeros. -/
def zeroAesTfm : CipherTfm AesCtx := ⟨0, 0, ⟨List.replicate 120 0, rfl⟩⟩

/-- A stack of zeros. -/
def zeroStack (bs : ℕ) : Stack bs := ⟨List.replicate bs 0, List.replicate bs 0, by simp, by simp⟩

/-- A block that lies across the end of a page. -/
theorem ccmp_aes_block_pages :
    let tfm' := (cipherSetkey aesAlg zeroAesTfm (counted 16)).2
    ccmpAesEncrypt (zeroStack 16) tfm' UInt8.ofNat 4090 8192 =
      some (tfm', scatter UInt8.ofNat (List.range' 8192 16)
        (cipher (counted 16) (gather UInt8.ofNat (List.range' 4090 16)))) :=
  ccmp_aes_block zeroAesTfm (Or.inl rfl) (zeroStack 16) UInt8.ofNat (Or.inr (Or.inl (by decide)))

/-- **Chained AES is undone**: what is encrypted from `src` to `mid` and then decrypted from
`mid'`, other segments of the same bytes, to `dst`, is at `dst` what it was at `src`, in
whatever segments each lies; and outside of `mid` and `dst` nothing changes. -/
theorem cbc_aes_restores (tfm : CipherTfm AesCtx) {key iv : List UInt8}
    (hkey : key.length = 16 ∨ key.length = 24 ∨ key.length = 32) (hiv : iv.length = 16)
    (stack stack' : Stack aesAlg.blocksize) (mem : Memory) {dst mid' mid src : List Scatterlist} {n : ℕ}
    (hseg : Segments mid src (n * 16)) (hseg' : Segments dst mid' (n * 16))
    (hmid : (sgAddrs mid').take (n * 16) = (sgAddrs mid).take (n * 16)) :
    let tfm' := (cipherSetkey aesAlg tfm key).2
    ∃ mem1, cbcEncryptIv aesAlg iv stack tfm' mem mid src (n * 16) = some (0, tfm', mem1) ∧
      (∀ x ∉ (sgAddrs mid).take (n * 16), mem1 x = mem x) ∧
      ∃ mem2, cbcDecryptIv aesAlg iv stack' tfm' mem1 dst mid' (n * 16) = some (0, tfm', mem2) ∧
        (∀ x ∉ (sgAddrs dst).take (n * 16), mem2 x = mem1 x) ∧
        gather mem2 ((sgAddrs dst).take (n * 16)) = gather mem ((sgAddrs src).take (n * 16)) := by
  obtain ⟨ctx, hset, hexp⟩ := cipherSetkey_aes tfm hkey
  intro tfm'
  have htfm : tfm' = ⟨tfm.crtFlags, ctx⟩ := congrArg Prod.snd hset
  rw [htfm]
  set plain := gather mem ((sgAddrs src).take (n * 16)) with hplain
  have hplainlen : plain.length = n * 16 := by
    rw [hplain, length_gather, List.length_take_of_le hseg.srcLen]
  have hE : ∀ b, b.length = 16 → (aesEncrypt ctx b).length = 16 := fun b _ => length_u32Out _
  have hinv : ∀ b, b.length = 16 → aesDecrypt ctx (aesEncrypt ctx b) = b := by
    intro b hb
    rw [hexp.encrypt hkey, hexp.decrypt hkey, invCipher_cipher key hb]
  set sealed := run (cbcEncrypt (keyed aesEncrypt)) 16 n (ctx, iv) plain with hsealed
  have hsealedlen : sealed.2.length = n * 16 := by
    apply @length_run _ (cbcEncrypt (keyed aesEncrypt)) 16 (fun s => s.2.length = 16)
    · intro s b _ _
      exact ⟨length_u32Out _, length_u32Out _⟩
    · exact hiv
    · exact hplainlen
  obtain ⟨ctx1, iv1, hrun1, hstate1⟩ := @tfmCrypt_runs _ aesAlg _ _ _ _ (by decide)
    (cbcEncrypt_implements aesEncrypt_blockwise) (some iv) stack ⟨tfm.crtFlags, ctx⟩ mem (ctx, iv)
    ⟨rfl, rfl, hiv⟩ mid src n hseg
  rw [blocksize_aes, ← hplain, ← hsealed] at hrun1
  have hctx1 : ctx1 = ctx := hstate1.1.trans (ctx_cbcEncrypt aesEncrypt 16 n ctx iv _)
  rw [hctx1] at hrun1
  set mem1 := scatter mem ((sgAddrs mid).take (n * 16)) sealed.2 with hmem1
  have hread : gather mem1 ((sgAddrs mid').take (n * 16)) = sealed.2 := by
    rw [hmem1, hmid]
    apply gather_scatter hseg.nodup
    rw [hsealedlen, List.length_take_of_le hseg.dstLen]
  obtain ⟨ctx2, iv2, hrun2, hstate2⟩ := @tfmCrypt_runs _ aesAlg _ _ _ _ (by decide)
    (cbcDecrypt_implements aesDecrypt_blockwise) (some iv) stack' ⟨tfm.crtFlags, ctx⟩ mem1 (ctx, iv)
    ⟨rfl, rfl, hiv⟩ dst mid' n hseg'
  have hopen := run_cbcDecrypt hE hinv n iv plain hiv hplainlen
  rw [← hsealed] at hopen
  dsimp only [blocksize_aes] at hrun2 hstate2
  rw [hread, hopen] at hrun2 hstate2
  have hctx2 : ctx2 = ctx := by
    rw [hstate2.1, hsealed]
    exact ctx_cbcEncrypt aesEncrypt 16 n ctx iv _
  rw [hctx2] at hrun2
  refine ⟨mem1, hrun1, fun x hx => scatter_of_not_mem hx, _, hrun2, fun x hx => scatter_of_not_mem hx, ?_⟩
  apply gather_scatter hseg'.nodup
  rw [hplainlen, List.length_take_of_le hseg'.dstLen]

/-- Two blocks from page 1 to page 3, and back to where they were, under the longest key. -/
theorem cbc_aes_restores_pages :
    let tfm' := (cipherSetkey aesAlg zeroAesTfm (counted 32)).2
    let src := [Scatterlist.ofBuf 4090 32]
    let mid := [Scatterlist.ofBuf 12288 32]
    ∃ mem1, cbcEncryptIv aesAlg (counted 16) (zeroStack 16) tfm' UInt8.ofNat mid src (2 * 16) =
        some (0, tfm', mem1) ∧
      (∀ x ∉ (sgAddrs mid).take (2 * 16), mem1 x = UInt8.ofNat x) ∧
      ∃ mem2, cbcDecryptIv aesAlg (counted 16) (zeroStack 16) tfm' mem1 src mid (2 * 16) =
          some (0, tfm', mem2) ∧
        (∀ x ∉ (sgAddrs src).take (2 * 16), mem2 x = mem1 x) ∧
        gather mem2 ((sgAddrs src).take (2 * 16)) = gather UInt8.ofNat ((sgAddrs src).take (2 * 16)) := by
  have hto : SameOrApart (List.range' 4090 32) (List.range' 12288 32) :=
    sameOrApart_range' (Or.inr (Or.inl (by decide)))
  have hback : SameOrApart (List.range' 12288 32) (List.range' 4090 32) :=
    sameOrApart_range' (Or.inr (Or.inr (by decide)))
  exact cbc_aes_restores zeroAesTfm (Or.inr (Or.inr rfl)) rfl (zeroStack 16) (zeroStack 16) UInt8.ofNat
    (segments_ofBuf hto) (segments_ofBuf hback) rfl

/-! ### ARC4 -/

theorem arc4Byte_blockwise : Blockwise arc4Byte 1 := fun _ _ _ => rfl

/-- The mode run a byte at a time is the stream cipher. -/
theorem run_arc4Byte : ∀ (n : ℕ) (ctx : Arc4Ctx) (d : List UInt8), d.length = n →
    (run arc4Byte 1 n ctx d).2 = StreamCipher.crypt arc4Next ctx d
  | 0, _, [], _ => rfl
  | n + 1, ctx, b :: d, h => by
    have ih := run_arc4Byte n (arc4Next ctx).1 d (Nat.succ.inj h)
    have hfirst : (b :: d).take 1 = [b] := rfl
    have hrest : (b :: d).drop 1 = d := rfl
    rw [run, hfirst, hrest, StreamCipher.crypt, ← ih]
    rfl

/-- The key of a transform. -/
theorem cipherSetkey_arc4 (tfm : CipherTfm Arc4Ctx) {key : List UInt8} (h1 : 1 ≤ key.length)
    (h2 : key.length ≤ 256) :
    cipherSetkey arc4Alg tfm key = (0, ⟨tfm.crtFlags, arc4SetKey key⟩) := by
  have hsize : ¬ (key.length < arc4Alg.minKeysize ∨ arc4Alg.maxKeysize < key.length) := by
    have hmin : arc4Alg.minKeysize = 1 := rfl
    have hmax : arc4Alg.maxKeysize = 256 := rfl
    omega
  rw [cipherSetkey, if_neg hsize]
  rfl

/-- A string encrypted where it lies. -/
theorem arc4_runs (tfm : CipherTfm Arc4Ctx) {key : List UInt8} (h1 : 1 ≤ key.length)
    (h2 : key.length ≤ 256) (stack : Stack arc4Alg.blocksize) (mem : Memory) {p len n : ℕ} (hn : n ≤ len) :
    ∃ tfm', ecbEncrypt arc4Alg stack (cipherSetkey arc4Alg tfm key).2 mem [Scatterlist.ofBuf p len]
        [Scatterlist.ofBuf p len] n = some (0, tfm', scatter mem (List.range' p n)
          (arc4Crypt key (gather mem (List.range' p n)))) := by
  have hcount : n * arc4Alg.blocksize = n := Nat.mul_one n
  have htake := @take_sgAddrs_ofBuf p len n hn
  have hseg : Segments [Scatterlist.ofBuf p len] [Scatterlist.ofBuf p len] (n * arc4Alg.blocksize) := by
    rw [hcount]
    refine ⟨?_, ?_, ?_, Or.inl rfl⟩
    · simp [sgAddrs_ofBuf, hn]
    · simp [sgAddrs_ofBuf, hn]
    · rw [htake]
      exact List.nodup_range'
  have hrun := @ecb_runs _ arc4Alg arc4Byte (by decide) arc4Byte_blockwise stack
    (cipherSetkey arc4Alg tfm key).2 mem _ _ n hseg
  rw [hcount, htake, cipherSetkey_arc4 tfm h1 h2] at hrun
  have hcrypt : (run arc4Byte arc4Alg.blocksize n (arc4SetKey key) (gather mem (List.range' p n))).2 =
      arc4Crypt key (gather mem (List.range' p n)) :=
    run_arc4Byte n _ _ (by simp)
  dsimp only at hrun
  rw [hcrypt] at hrun
  rw [cipherSetkey_arc4 tfm h1 h2]
  exact ⟨_, hrun⟩

/-- **A payload encrypted where it lies is its key stream added to it**, and decrypted
with the same key set up again it is what it was, with all of memory. -/
theorem arc4_in_place (tfm : CipherTfm Arc4Ctx) {key : List UInt8} (h1 : 1 ≤ key.length)
    (h2 : key.length ≤ 256) (stack stack' : Stack arc4Alg.blocksize) (mem : Memory) {p len n : ℕ}
    (hn : n ≤ len) :
    let sg := [Scatterlist.ofBuf p len]
    let sealed := scatter mem (List.range' p n) (arc4Crypt key (gather mem (List.range' p n)))
    ∃ tfm1, ecbEncrypt arc4Alg stack (cipherSetkey arc4Alg tfm key).2 mem sg sg n =
        some (0, tfm1, sealed) ∧
      ∃ tfm2, ecbDecrypt arc4Alg stack' (cipherSetkey arc4Alg tfm1 key).2 sealed sg sg n =
        some (0, tfm2, mem) := by
  intro sg sealed
  obtain ⟨tfm1, hrun1⟩ := @arc4_runs tfm key h1 h2 stack mem p len n hn
  obtain ⟨tfm2, hrun2⟩ := @arc4_runs tfm1 key h1 h2 stack' sealed p len n hn
  have hlen : (List.range' p n).length = (arc4Crypt key (gather mem (List.range' p n))).length := by simp
  have hread : gather sealed (List.range' p n) = arc4Crypt key (gather mem (List.range' p n)) :=
    gather_scatter List.nodup_range' hlen
  have hback : scatter sealed (List.range' p n)
      (arc4Crypt key (gather sealed (List.range' p n))) = mem := by
    calc scatter sealed (List.range' p n) (arc4Crypt key (gather sealed (List.range' p n)))
        = scatter sealed (List.range' p n) (gather mem (List.range' p n)) := by
          rw [hread, arc4Crypt_arc4Crypt]
      _ = scatter mem (List.range' p n) (gather mem (List.range' p n)) :=
          scatter_scatter List.nodup_range' (by simp)
      _ = mem := scatter_gather mem _
  rw [hback] at hrun2
  exact ⟨tfm1, hrun1, tfm2, hrun2⟩

/-- Twenty bytes across the end of a page. -/
theorem arc4_in_place_pages :
    let tfm : CipherTfm Arc4Ctx := ⟨0, [], 0, 0⟩
    let sg := [Scatterlist.ofBuf 4090 24]
    let sealed := scatter UInt8.ofNat (List.range' 4090 20)
      (arc4Crypt [1, 2, 3, 4, 5] (gather UInt8.ofNat (List.range' 4090 20)))
    ∃ tfm1, ecbEncrypt arc4Alg (zeroStack 1) (cipherSetkey arc4Alg tfm [1, 2, 3, 4, 5]).2 UInt8.ofNat sg
        sg 20 = some (0, tfm1, sealed) ∧
      ∃ tfm2, ecbDecrypt arc4Alg (zeroStack 1) (cipherSetkey arc4Alg tfm1 [1, 2, 3, 4, 5]).2 sealed sg
        sg 20 = some (0, tfm2, UInt8.ofNat) :=
  @arc4_in_place ⟨0, [], 0, 0⟩ [1, 2, 3, 4, 5] (by decide) (by decide) (zeroStack 1) (zeroStack 1)
    UInt8.ofNat 4090 24 20 (by decide)

end Rtl8187

/-
# Digests over scatterlists

`digest.c`: `update` hands a digest the bytes of each segment a page at a time, `digest`
a segment at a time. A digest that does not mind where its input is cut, as Michael does
not, gives the same for both, and for any segments with the same bytes
(`digestUpdate_chunks`). So the MIC of a frame is Michael of its bytes wherever header
and payload lie (`tkip_michael_mic`), and a frame changed inside one word of its payload is found out
(`michael_mic_verify_word`).

Key definitions: `DigestAlg`, `updatePages`, `digestUpdate`, `digestDigest`, `michaelAlg`,
`tkipMichaelMic`, `driverPrimitives`, `linuxPrimitives`.
Key theorems: `digestUpdate_chunks`, `digest_michael`, `tkip_michael_mic`, `michael_word_ne`.
-/
import Rtl8187.ScatterWalk
import Rtl8187.Michael
import Rtl8187.Lib.RijndaelNumbers
import Rtl8187.CryptTkip

namespace Rtl8187

open Bytes Gather Words Rijndael

/-- `struct digest_alg` -/
structure DigestAlg (σ : Type*) where
  init : σ → σ
  update : σ → List UInt8 → σ
  final : σ → σ × List UInt8
  setkey : σ → List UInt8 → ℤ × Option UInt32 × σ

/-- `michael_mic_alg` -/
def michaelAlg : DigestAlg MichaelCtx := ⟨michaelInit, michaelUpdate, michaelFinal, michaelSetKey⟩

section

variable {σ : Type*} (alg : DigestAlg σ) (mem : Memory)

/-- The `do`-`while` of `update`, over the pages of a segment. -/
def updatePages (page offset l : ℕ) (ctx : σ) : σ :=
  let bytesFromPage := min l (pageSize - offset)
  let ctx := alg.update ctx (gather mem (List.range' (page * pageSize + offset) bytesFromPage))
  if 0 < l - bytesFromPage then updatePages (page + 1) 0 (l - bytesFromPage) ctx else ctx
termination_by (l, offset)
decreasing_by
  by_cases hpage : offset < pageSize
  · apply Prod.Lex.left
    omega
  · have hnone : l - min l (pageSize - offset) = l := by omega
    have hpos : 0 < offset := by
      unfold pageSize at hpage
      omega
    rw [hnone]
    exact Prod.Lex.right _ hpos

/-- `update` of `digest.c` -/
def digestUpdate (ctx : σ) (sgs : List Scatterlist) : σ :=
  sgs.foldl (fun ctx sg => updatePages alg mem sg.page sg.offset sg.length ctx) ctx

/-- `digest` of `digest.c`: the context and the digest. -/
def digestDigest (ctx : σ) (sgs : List Scatterlist) : σ × List UInt8 :=
  alg.final (sgs.foldl (fun ctx sg => alg.update ctx (gather mem sg.addrs)) (alg.init ctx))

/-- A segment is handed over in pieces, in order. -/
theorem updatePages_chunks (page offset l : ℕ) (ctx : σ) (hoff : offset < pageSize) :
    ∃ chunks : List (List UInt8), updatePages alg mem page offset l ctx = chunks.foldl alg.update ctx ∧
      chunks.flatten = gather mem (List.range' (page * pageSize + offset) l) := by
  induction page, offset, l, ctx using updatePages.induct alg mem with
  | case1 page offset l ctx bytes ctx' hmore ih =>
    have hfull : bytes = pageSize - offset := by
      have hbytes : bytes = min l (pageSize - offset) := rfl
      omega
    obtain ⟨chunks, hrest, hflat⟩ := ih (by decide)
    refine ⟨gather mem (List.range' (page * pageSize + offset) bytes) :: chunks, ?_, ?_⟩
    · rw [updatePages, if_pos hmore]
      exact hrest
    · -- the next page goes on where this one ends
      have hnext : (page + 1) * pageSize + 0 = page * pageSize + offset + 1 * bytes := by
        rw [Nat.succ_mul]
        omega
      have hsplit : bytes + (l - bytes) = l := by omega
      calc (gather mem (List.range' (page * pageSize + offset) bytes) :: chunks).flatten
          = gather mem (List.range' (page * pageSize + offset) bytes) ++
              gather mem (List.range' (page * pageSize + offset + 1 * bytes) (l - bytes)) := by
            rw [List.flatten_cons, hflat, hnext]
        _ = gather mem (List.range' (page * pageSize + offset) l) := by
            rw [← gather_append, List.range'_append, hsplit]
  | case2 page offset l ctx bytes hmore =>
    have hall : bytes = l := by
      have hbytes : bytes = min l (pageSize - offset) := rfl
      omega
    refine ⟨[gather mem (List.range' (page * pageSize + offset) bytes)], ?_, ?_⟩
    · rw [updatePages, if_neg hmore]
      rfl
    · rw [hall]
      simp

/-- **An update hands over the bytes of the segments**, in pieces and in order. -/
theorem digestUpdate_chunks (sgs : List Scatterlist) (ctx : σ) :
    ∃ chunks : List (List UInt8), digestUpdate alg mem ctx sgs = chunks.foldl alg.update ctx ∧
      chunks.flatten = gather mem (sgAddrs sgs) := by
  induction sgs generalizing ctx with
  | nil => exact ⟨[], rfl, rfl⟩
  | cons sg sgs ih =>
    obtain ⟨first, hfirst, hflat⟩ := updatePages_chunks alg mem sg.page sg.offset sg.length ctx sg.offset_lt
    obtain ⟨rest, hrest, hflats⟩ := ih (first.foldl alg.update ctx)
    refine ⟨first ++ rest, ?_, ?_⟩
    · rw [List.foldl_append, ← hrest, ← hfirst]
      rfl
    · have haddrs : sgAddrs (sg :: sgs) = sg.addrs ++ sgAddrs sgs := List.flatMap_cons
      rw [List.flatten_append, hflat, hflats, haddrs, gather_append]
      rfl

end

/-- `michael_mic` of `ieee80211_crypt_tkip.c`: the context of `tfm_michael` and `mic`. -/
def tkipMichaelMic (ctx : MichaelCtx) (mem : Memory) (key : List UInt8) (hdr data dataLen : ℕ) :
    MichaelCtx × List UInt8 :=
  let sg := [Scatterlist.ofBuf hdr 16, Scatterlist.ofBuf data dataLen]
  let ctx := (michaelAlg.setkey (michaelAlg.init ctx) key).2.2
  michaelAlg.final (digestUpdate michaelAlg mem ctx sg)

/-! ### The MIC of a frame -/

/-- **The MIC is Michael of the header and the payload**, wherever they lie, whatever the
context held. -/
theorem tkip_michael_mic {ctx : MichaelCtx} (hctx : ctx.pending.length = 4) (mem : Memory)
    {key : List UInt8} (hkey : key.length = 8) (hdr data dataLen : ℕ) :
    (tkipMichaelMic ctx mem key hdr data dataLen).2 =
      michael key (gather mem (List.range' hdr 16) ++ gather mem (List.range' data dataLen)) := by
  obtain ⟨chunks, hupdate, hflat⟩ := digestUpdate_chunks michaelAlg mem
    [Scatterlist.ofBuf hdr 16, Scatterlist.ofBuf data dataLen]
    (michaelAlg.setkey (michaelAlg.init ctx) key).2.2
  have hbytes : chunks.flatten =
      gather mem (List.range' hdr 16) ++ gather mem (List.range' data dataLen) := by
    rw [hflat, ← gather_append]
    simp only [sgAddrs, List.flatMap_cons, List.flatMap_nil, List.append_nil, Scatterlist.addrs,
      Scatterlist.addr_ofBuf]
    rfl
  have hmic := michaelDigest_eq hctx hkey chunks
  rw [hbytes] at hmic
  rw [tkipMichaelMic, hupdate, ← hmic]
  rfl

/-- A payload across the end of a page. -/
theorem tkip_michael_mic_pages :
    (tkipMichaelMic ⟨[0, 0, 0, 0], 0, 0, 0⟩ UInt8.ofNat [1, 2, 3, 4, 5, 6, 7, 8] 64 4090 20).2 =
      michael [1, 2, 3, 4, 5, 6, 7, 8] (gather UInt8.ofNat (List.range' 64 16) ++
        gather UInt8.ofNat (List.range' 4090 20)) :=
  @tkip_michael_mic ⟨[0, 0, 0, 0], 0, 0, 0⟩ rfl UInt8.ofNat [1, 2, 3, 4, 5, 6, 7, 8] rfl 64 4090 20

/-- **Segments with the same bytes have the same digest**, whether they are handed over a
page at a time or a segment at a time. -/
theorem digest_michael {ctx : MichaelCtx} (hctx : ctx.pending.length = 4) {mem mem' : Memory}
    {sgs sgs' : List Scatterlist} (hbytes : gather mem (sgAddrs sgs) = gather mem' (sgAddrs sgs')) :
    (michaelAlg.final (digestUpdate michaelAlg mem (michaelAlg.init ctx) sgs)).2 =
      (digestDigest michaelAlg mem' ctx sgs').2 := by
  have hinit : (michaelInit ctx).Holds (ctx.l, ctx.r) [] :=
    ⟨hctx, Nat.zero_lt_succ 3, Buffered.absorb_short (by decide) _⟩
  obtain ⟨chunks, hupdate, hflat⟩ := digestUpdate_chunks michaelAlg mem sgs (michaelAlg.init ctx)
  have hpages := michaelUpdates_hold chunks hinit
  have hsegments := michaelUpdates_hold (sgs'.map fun sg => gather mem' sg.addrs) hinit
  have hwhole : (sgs'.map fun sg => gather mem' sg.addrs).flatten = gather mem' (sgAddrs sgs') := by
    rw [sgAddrs, gather, List.map_flatMap]
    rfl
  rw [List.foldl_map, hwhole, ← hbytes] at hsegments
  rw [hflat] at hpages
  have hdigest : (digestDigest michaelAlg mem' ctx sgs').2 = (michaelFinal
      (sgs'.foldl (fun ctx sg => michaelUpdate ctx (gather mem' sg.addrs)) (michaelInit ctx))).2 := rfl
  rw [hupdate, hdigest, michaelFinal_holds hsegments]
  exact michaelFinal_holds hpages

/-- Eight bytes in one segment, and in two. -/
theorem digest_michael_split :
    (michaelAlg.final (digestUpdate michaelAlg UInt8.ofNat (michaelAlg.init ⟨[0, 0, 0, 0], 0, 0, 0⟩)
      [Scatterlist.ofBuf 4092 8])).2 =
      (digestDigest michaelAlg UInt8.ofNat ⟨[0, 0, 0, 0], 0, 0, 0⟩
        [Scatterlist.ofBuf 4092 3, Scatterlist.ofBuf 4095 5]).2 :=
  @digest_michael ⟨[0, 0, 0, 0], 0, 0, 0⟩ rfl UInt8.ofNat UInt8.ofNat _ _ rfl

/-! ### The primitives -/

theorem length_michael (key data : List UInt8) : (michael key data).length = michaelMicLen := rfl

/-- The primitives as the driver brings them: its own AES and Michael, and the CRC of the
kernel. -/
def driverPrimitives (crc32Le : UInt32 → List UInt8 → UInt32) : Primitives where
  crc32Le := crc32Le
  aes := cipher
  michaelMic := michael
  length_aes := length_cipher
  length_michaelMic := length_michael

/-- A bit of `crc32_le`: the polynomial is reflected. -/
def crc32Bit (crc : UInt32) : UInt32 := (crc >>> 1) ^^^ (if crc &&& 1 = 0 then 0 else 0xEDB88320)

/-- `crc32_le` of the kernel, a bit at a time. -/
def crc32Le (crc : UInt32) (bs : List UInt8) : UInt32 :=
  bs.foldl (fun crc b => crc32Bit^[8] (crc ^^^ b.toUInt32)) crc

-- the check value of the CRC: the digits from 1 to 9
example : ~~~(crc32Le 0xFFFFFFFF [0x31, 0x32, 0x33, 0x34, 0x35, 0x36, 0x37, 0x38, 0x39]) = 0xCBF43926 := by
  decide +kernel

/-- The driver's primitives with that CRC and an AES that evaluates. -/
def linuxPrimitives : Primitives where
  crc32Le := crc32Le
  aes := evalCipher
  michaelMic := michael
  length_aes key block := by rw [evalCipher_eq, length_cipher]
  length_michaelMic := length_michael

theorem linuxPrimitives_eq : linuxPrimitives = driverPrimitives crc32Le := by
  have haes : evalCipher = cipher := funext₂ evalCipher_eq
  unfold linuxPrimitives driverPrimitives
  simp only [haes]

/-! ### A word of the payload -/

theorem length_michaelMicHdr (d : List UInt8) : (michaelMicHdr d).length = 16 := by
  simp [michaelMicHdr, Mac.toList]

/-- What is digested of a frame that ends with its MIC. -/
theorem michaelMicVerify_frame (prim : Primitives) {skb : SkBuff} {hdr body mic : List UInt8}
    (hd : skb.data = hdr ++ body ++ mic) (hmic : mic.length = michaelMicLen) (hlen : skb.len < 2 ^ 32)
    (keyidx : Int) {tkey : TkipData} (hset : tkey.keySet = true) :
    michaelMicVerify prim skb keyidx hdr.length tkey =
      if prim.michaelMic tkey.rxMicKey (michaelMicHdr skb.data ++ body) ≠ mic then
        ⟨-1, skb, { tkey with localMicFailures := tkey.localMicFailures + 1 }⟩
      else ⟨0, skb.trim (skb.len - michaelMicLen),
        { tkey with rxIv32 := tkey.rxIv32New, rxIv16 := tkey.rxIv16New }⟩ := by
  have htotal : skb.len = hdr.length + body.length + michaelMicLen := by
    rw [SkBuff.len, hd, List.length_append, List.length_append, hmic]
  have hcount : micDataLen skb.len hdr.length = body.length := by
    rw [micDataLen, htotal]
    omega
  have hbody : slice hdr.length body.length (skb.data ++ skb.behind) = body := by
    rw [slice, hd, List.append_assoc, List.append_assoc, List.drop_left' rfl, List.take_left' rfl]
  have htail : skb.data.drop (skb.len - michaelMicLen) = mic := by
    rw [hd, htotal, Nat.add_sub_cancel, List.drop_left' (by rw [List.length_append])]
  rw [michaelMicVerify, if_neg (by simp [hset]), hcount, hbody, htail]

/-- **A frame changed inside one word is found out.** Of two frames with the same
addresses and the same MIC whose payloads differ in bytes of one word only, counted from
the start of the payload, at most one verifies: when the one does, the other is refused
and counted. -/
theorem michael_mic_verify_word (crc32Le : UInt32 → List UInt8 → UInt32) {skb skb' : SkBuff}
    {hdr hdr' body body' mic : List UInt8} {k : ℕ} (hd : skb.data = hdr ++ body ++ mic)
    (hd' : skb'.data = hdr' ++ body' ++ mic) (hmic : mic.length = michaelMicLen)
    (hlen : skb.len < 2 ^ 32) (hhdr : hdr'.length = hdr.length)
    (haddrs : michaelMicHdr skb'.data = michaelMicHdr skb.data) (hbody : body'.length = body.length)
    (hsame : ∀ i, i / 4 ≠ k → body'[i]? = body[i]?) (hne : body' ≠ body) (keyidx : Int)
    {tkey : TkipData} (hok : (michaelMicVerify (driverPrimitives crc32Le) skb keyidx hdr.length tkey).ret = 0) :
    michaelMicVerify (driverPrimitives crc32Le) skb' keyidx hdr'.length tkey =
      ⟨-1, skb', { tkey with localMicFailures := tkey.localMicFailures + 1 }⟩ := by
  have hset : tkey.keySet = true := by
    by_contra hunset
    rw [michaelMicVerify, if_pos (by simp [hunset])] at hok
    cases hok
  have hlen' : skb'.len < 2 ^ 32 := by
    have htotal : skb'.len = skb.len := by
      rw [SkBuff.len, SkBuff.len, hd, hd']
      simp [hhdr, hbody]
    omega
  have hprim : (driverPrimitives crc32Le).michaelMic = michael := rfl
  rw [michaelMicVerify_frame _ hd hmic hlen keyidx hset, hprim] at hok
  have hgood : michael tkey.rxMicKey (michaelMicHdr skb.data ++ body) = mic := by
    by_contra hbad
    rw [if_pos hbad] at hok
    cases hok
  -- the header of the digest is four words, so the words of the payload are words of it
  have hdigest : michael tkey.rxMicKey (michaelMicHdr skb'.data ++ body') ≠ mic := by
    rw [← hgood, haddrs]
    apply @michael_word_ne _ _ _ (k + 4)
    · simp [hbody]
    · intro i hi
      rw [List.getElem?_append, List.getElem?_append, length_michaelMicHdr]
      by_cases hfront : i < 16
      · rw [if_pos hfront, if_pos hfront]
      · rw [if_neg hfront, if_neg hfront]
        exact hsame _ (by omega)
    · intro h
      exact hne (List.append_cancel_left h)
  rw [michaelMicVerify_frame _ hd' hmic hlen' keyidx hset, hprim]
  exact if_pos hdigest

/-- A frame of three bytes with its MIC is accepted, the same with the second byte changed
is not. -/
theorem michael_mic_verify_word_second :
    let tkey : TkipData := { TkipData.cleared 0 with keySet := true }
    let hdr : List UInt8 := List.replicate 24 0
    let mic := michael tkey.rxMicKey (List.replicate 16 0 ++ [0, 0, 0])
    let skb' := (SkBuff.devAllocSkb 64).put (hdr ++ [0, 1, 0] ++ mic)
    michaelMicVerify (driverPrimitives crc32Le) skb' 0 24 tkey =
      ⟨-1, skb', { tkey with localMicFailures := 1 }⟩ := by
  intro tkey hdr mic skb'
  let skb := (SkBuff.devAllocSkb 64).put (hdr ++ [0, 0, 0] ++ mic)
  have hmic : mic.length = michaelMicLen := length_michael _ _
  have hd : ∀ body mic : List UInt8, ((SkBuff.devAllocSkb 64).put (hdr ++ body ++ mic)).data =
      hdr ++ body ++ mic := fun _ _ => rfl
  have haddrs : ∀ body mic : List UInt8,
      michaelMicHdr (List.replicate 24 0 ++ body ++ mic) = List.replicate 16 0 := by
    intro body mic
    have h0 : at8 (List.replicate 24 0 ++ body ++ mic) 0 = 0 := rfl
    have h1 : at8 (List.replicate 24 0 ++ body ++ mic) (0 + 1) = 0 := rfl
    have hfc : frameCtl (List.replicate 24 0 ++ body ++ mic) = 0 := by
      rw [frameCtl, get16, h0, h1]
      rfl
    rw [michaelMicHdr, hfc]
    rfl
  have hlen : skb.len < 2 ^ 32 := by
    rw [SkBuff.len, hd, List.length_append, hmic]
    decide
  have hok : (michaelMicVerify (driverPrimitives crc32Le) skb 0 hdr.length tkey).ret = 0 := by
    have hdigest : michaelMicHdr skb.data = List.replicate 16 0 := by
      rw [hd]
      exact haddrs [0, 0, 0] mic
    rw [@michaelMicVerify_frame _ skb hdr [0, 0, 0] mic (hd _ _) hmic hlen 0 tkey rfl, if_neg]
    rw [hdigest]
    exact fun h => h rfl
  have hsame : ∀ i, i / 4 ≠ 0 → ([0, 1, 0] : List UInt8)[i]? = ([0, 0, 0] : List UInt8)[i]? := by
    intro i hi
    rw [List.getElem?_eq_none, List.getElem?_eq_none]
    · show 3 ≤ i
      omega
    · show 3 ≤ i
      omega
  exact @michael_mic_verify_word crc32Le skb skb' hdr hdr [0, 0, 0] [0, 1, 0] mic 0 (hd _ _) (hd _ _) hmic
    hlen rfl (by rw [hd, hd, haddrs, haddrs]) rfl hsame (by decide) 0 tkey hok

end Rtl8187

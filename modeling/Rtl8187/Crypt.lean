/-
# Cipher modules

A cipher module is a table of operations (`struct ieee80211_crypto_ops`): MIC
operations on whole MSDUs, encryption on each MPDU. Either may be missing. The
table carries what every module of the driver keeps to: a decrypted MPDU has
the header it came with, a verified MSDU lost bytes at its end only, and an
encrypted frame has grown.

The block cipher and the keyed digest come through the crypto layer, the CRC from
the kernel; the modules only rely on the lengths of what they return, and these are
a parameter here. `driverPrimitives` has the driver's own.

Key definitions: `CryptRes`, `CryptoOps`, `CryptData`, `Primitives`.
-/
import Rtl8187.SkBuff

namespace Rtl8187

open Bytes

/-- What an operation leaves: its result, the buffer and its context. -/
structure CryptRes (P : Type) where
  ret : Int
  skb : SkBuff
  priv : P

/-- The operations on an MPDU, or of `encrypt_msdu`: buffer, header length, context. -/
abbrev MpduOp (P : Type) := SkBuff → ℕ → P → CryptRes P

/-- `decrypt_msdu`: buffer, key index, header length, context. -/
abbrev MsduOp (P : Type) := SkBuff → Int → ℕ → P → CryptRes P

/-- A key slot; there are `WEP_KEYS` of them. -/
abbrev KeyIdx := Fin 4

instance instNeZeroKeys : NeZero 4 := ⟨by decide⟩

/-- The byte with which a frame names a slot: `key_idx << 6`. -/
def keyIdxByte (idx : KeyIdx) : UInt8 := UInt8.ofNat idx <<< 6

/-- The slot a byte names: `byte >> 6`. -/
def keyIdxOf (b : UInt8) : KeyIdx := ⟨(b >>> 6).toNat, by
  have h6 : UInt8.toNat 6 % 8 = 6 := rfl
  have h := b.toNat_lt
  simp only [UInt8.toNat_shiftRight, h6, Nat.shiftRight_eq_div_pow]
  omega⟩

/-- `1 << 5`: an extended IV follows. -/
def extIv : UInt8 := 0x20

@[simp] theorem keyIdxOf_byte : ∀ idx : KeyIdx, keyIdxOf (keyIdxByte idx) = idx := by decide

@[simp] theorem keyIdxOf_byte_extIv : ∀ idx : KeyIdx, keyIdxOf (keyIdxByte idx ||| extIv) = idx := by
  decide

theorem byte_extIv_ne : ∀ idx : KeyIdx, (keyIdxByte idx ||| extIv) &&& extIv ≠ 0 := by decide

/-- The bytes of a Michael MIC. -/
def michaelMicLen : ℕ := 8

/-- `struct ieee80211_crypto_ops` -/
structure CryptoOps (P : Type) where
  name : String
  encryptMpdu : Option (MpduOp P)
  decryptMpdu : Option (MpduOp P)
  encryptMsdu : Option (MpduOp P)
  decryptMsdu : Option (MsduOp P)
  extraPrefixLen : ℕ
  extraPostfixLen : ℕ
  /-- What a module adds to a fragment leaves room in the smallest one. -/
  extra_le : extraPrefixLen + extraPostfixLen ≤ 20
  /-- A decrypted MPDU starts with the header it came with. -/
  decryptMpdu_hdr : ∀ op ∈ decryptMpdu, ∀ skb hdrLen priv, 0 ≤ (op skb hdrLen priv).ret →
    hdrLen ≤ (op skb hdrLen priv).skb.len ∧
      (op skb hdrLen priv).skb.data.take hdrLen = skb.data.take hdrLen
  /-- The MIC is cut off at the end. -/
  decryptMsdu_prefix : ∀ op ∈ decryptMsdu, ∀ skb keyidx hdrLen priv,
    (op skb keyidx hdrLen priv).skb.data <+: skb.data
  /-- The MIC is appended, or nothing is done. -/
  encryptMsdu_prefix : ∀ op ∈ encryptMsdu, ∀ skb hdrLen priv,
    skb.data <+: (op skb hdrLen priv).skb.data ∧
      (op skb hdrLen priv).skb.len ≤ skb.len + michaelMicLen
  encryptMsdu_len : ∀ op ∈ encryptMsdu, ∀ skb hdrLen priv, (op skb hdrLen priv).ret = 0 →
    (op skb hdrLen priv).skb.len = skb.len + michaelMicLen
  /-- A fragment that is not encrypted is left as it is. -/
  encryptMpdu_fail : ∀ op ∈ encryptMpdu, ∀ skb hdrLen priv, (op skb hdrLen priv).ret < 0 →
    (op skb hdrLen priv).skb.data = skb.data
  /-- An encrypted fragment has grown. -/
  encryptMpdu_grow : ∀ op ∈ encryptMpdu, ∀ skb hdrLen priv, 0 ≤ (op skb hdrLen priv).ret →
    skb.len < (op skb hdrLen priv).skb.len

/-- `struct ieee80211_crypt_data`: a key slot's module and context. -/
structure CryptData (P : Type) where
  ops : Option (CryptoOps P)
  priv : P

/-- What the cipher modules are given. -/
structure Primitives where
  /-- `crc32_le`: initial value, data. -/
  crc32Le : UInt32 → List UInt8 → UInt32
  /-- The AES block function: key, block. -/
  aes : List UInt8 → List UInt8 → List UInt8
  /-- The Michael digest: key, data. -/
  michaelMic : List UInt8 → List UInt8 → List UInt8
  length_aes : ∀ key block, (aes key block).length = 16
  length_michaelMic : ∀ key data, (michaelMic key data).length = michaelMicLen

namespace Primitives

variable (prim : Primitives)

/-- The ICV of WEP and TKIP: `~crc32_le(~0, …)`, little-endian. -/
def icv (bs : List UInt8) : List UInt8 := le32 (~~~(prim.crc32Le 0xFFFFFFFF bs))

@[simp] theorem length_icv (bs : List UInt8) : (prim.icv bs).length = 4 := rfl

end Primitives

end Rtl8187

/-
# Receive counters

What the decryptors do with the numbers of the frames they accept. Both write
the number down and neither compares it (the comparisons are compiled out), so
a frame that was accepted is accepted again right away. The record is kept all
the same: it is the number of the last frame accepted.

A run of the CCMP decryptor is a list of frames. A run of the TKIP decryptor
mixes frames with the MIC checks of whole MSDUs, as the receive path makes
them, in any order.

Key definitions: `Mpdu`, `ccmpRx`, `TkipInput`, `tkipRx`, `Pn.toNat`, `tsc`.
Key theorems: `rx_counters_recorded`.
-/
import Rtl8187.CryptTkip
import Rtl8187.CryptCcmp
import Rtl8187.Digest
import Rtl8187.Lib.Recorder

namespace Rtl8187

open Bytes

/-- A frame, with its header length. -/
structure Mpdu where
  skb : SkBuff
  hdrLen : ℕ

section

variable (prim : Primitives)

/-! ### CCMP -/

def ccmpRx (key : CcmpData) (f : Mpdu) : CcmpData := (ccmpDecrypt prim f.skb f.hdrLen key).priv

/-- Whether a frame is accepted: the result is a key index. -/
def ccmpAccepts (key : CcmpData) (f : Mpdu) : Bool :=
  decide (0 ≤ (ccmpDecrypt prim f.skb f.hdrLen key).ret)

/-- The PN of a frame, as a number. -/
def mpduPn (f : Mpdu) : ℕ := (Pn.ofHdr f.skb.data f.hdrLen).toNat

/-- The PNs of the accepted frames, in order. -/
def ccmpAccepted : CcmpData → List Mpdu → List ℕ :=
  Recorder.accepted (ccmpRx prim) (ccmpAccepts prim) mpduPn

theorem ccmpRx_records :
    Recorder.Records (ccmpRx prim) (ccmpAccepts prim) mpduPn fun key => key.rxPn.toNat := by
  intro key f
  unfold ccmpRx ccmpAccepts
  rcases ccmpDecrypt_priv prim f.skb f.hdrLen key with ⟨hret, hpriv⟩ | ⟨hret, _, _, hpriv⟩
  · rw [if_pos (decide_eq_true hret), hpriv, mpduPn]
  · rw [if_neg (by simpa using hret), hpriv]

/-- A frame gives the same result in the state it leaves. -/
theorem ccmpDecrypt_again (key : CcmpData) (f : Mpdu) :
    (ccmpDecrypt prim f.skb f.hdrLen (ccmpRx prim key f)).ret =
      (ccmpDecrypt prim f.skb f.hdrLen key).ret ∧
    (ccmpDecrypt prim f.skb f.hdrLen (ccmpRx prim key f)).skb =
      (ccmpDecrypt prim f.skb f.hdrLen key).skb := by
  have hkeep : (ccmpRx prim key f).keyIdx = key.keyIdx ∧ (ccmpRx prim key f).keySet = key.keySet ∧
      (ccmpRx prim key f).tfm = key.tfm := by
    unfold ccmpRx
    rcases ccmpDecrypt_priv prim f.skb f.hdrLen key with ⟨-, hpriv⟩ | ⟨-, _, _, hpriv⟩ <;>
      rw [hpriv] <;> exact ⟨rfl, rfl, rfl⟩
  exact ccmpDecrypt_congr prim hkeep.1 hkeep.2.1 hkeep.2.2

/-! ### TKIP -/

/-- What the receive path asks of TKIP: to decrypt a frame, or to check the
MIC of an MSDU. -/
inductive TkipInput where
  | mpdu (f : Mpdu)
  | msdu (skb : SkBuff) (keyidx : Int) (hdrLen : ℕ)

/-- The 48-bit number of two counters. -/
def tsc (iv32 : UInt32) (iv16 : UInt16) : ℕ := iv32.toNat * 65536 + iv16.toNat

def tkipRx (tkey : TkipData) : TkipInput → TkipData
  | .mpdu f => (tkipDecrypt prim f.skb f.hdrLen tkey).priv
  | .msdu skb keyidx hdrLen => (michaelMicVerify prim skb keyidx hdrLen tkey).priv

/-- Whether a frame is accepted: the result is a key index. -/
def tkipAccepts (tkey : TkipData) : TkipInput → Bool
  | .mpdu f => decide (0 ≤ (tkipDecrypt prim f.skb f.hdrLen tkey).ret)
  | .msdu _ _ _ => false

/-- The TSC of a frame, as a number. -/
def inputTsc : TkipInput → ℕ
  | .mpdu f => tsc (hdrIv32 f.skb.data f.hdrLen) (hdrIv16 f.skb.data f.hdrLen)
  | .msdu _ _ _ => 0

/-- The TSCs of the accepted frames, in order. -/
def tkipAccepted : TkipData → List TkipInput → List ℕ :=
  Recorder.accepted (tkipRx prim) (tkipAccepts prim) inputTsc

/-- The number recorded when a frame is decrypted. -/
def tscNew (tkey : TkipData) : ℕ := tsc tkey.rxIv32New tkey.rxIv16New

theorem tkipRx_records : Recorder.Records (tkipRx prim) (tkipAccepts prim) inputTsc tscNew := by
  intro tkey i
  unfold tkipRx tkipAccepts
  cases i with
  | mpdu f =>
    dsimp only
    rcases tkipDecrypt_priv prim f.skb f.hdrLen tkey with ⟨hret, hpriv⟩ | ⟨hret, _, _, _, hpriv⟩
    · rw [if_pos (decide_eq_true hret), hpriv]
      rfl
    · rw [if_neg (by simpa using hret), hpriv]
      rfl
  | msdu skb keyidx hdrLen =>
    dsimp only
    rcases michaelMicVerify_priv prim skb hdrLen tkey keyidx with ⟨-, hpriv, -⟩ | ⟨-, _, hpriv⟩ <;>
      rw [hpriv] <;> rfl

/-- An accepted frame gives the same result in the state it leaves: the first
phase it used is either kept with it or computed again. -/
theorem tkipDecrypt_again (tkey : TkipData) (f : Mpdu)
    (h : 0 ≤ (tkipDecrypt prim f.skb f.hdrLen tkey).ret) :
    (tkipDecrypt prim f.skb f.hdrLen (tkipRx prim tkey (.mpdu f))).ret =
      (tkipDecrypt prim f.skb f.hdrLen tkey).ret ∧
    (tkipDecrypt prim f.skb f.hdrLen (tkipRx prim tkey (.mpdu f))).skb =
      (tkipDecrypt prim f.skb f.hdrLen tkey).skb := by
  have hpriv := (tkipDecrypt_priv prim f.skb f.hdrLen tkey).resolve_right fun hneg => by omega
  have hrx : tkipRx prim tkey (.mpdu f) = _ := hpriv.2
  rw [hrx]
  refine tkipDecrypt_congr rfl rfl rfl ?_
  unfold TkipData.rxPhase1
  dsimp only
  split_ifs <;> simp_all

/-! ### The counters over a run -/

/-- The initial receive sequence of a `set_key`, as a number. -/
def initialNumber : Option (List UInt8) → ℕ
  | some seq => (Pn.ofSeq seq).toNat
  | none => 0

/-- What a CCMP frame gives: the result and the plaintext. -/
def ccmpOut (key : CcmpData) (f : Mpdu) : Int × SkBuff :=
  ((ccmpDecrypt prim f.skb f.hdrLen key).ret, (ccmpDecrypt prim f.skb f.hdrLen key).skb)

/-- What a TKIP input gives: the result and the plaintext. -/
def tkipOut (tkey : TkipData) : TkipInput → Int × SkBuff
  | .mpdu f => ((tkipDecrypt prim f.skb f.hdrLen tkey).ret, (tkipDecrypt prim f.skb f.hdrLen tkey).skb)
  | .msdu skb keyidx hdrLen => ((michaelMicVerify prim skb keyidx hdrLen tkey).ret,
      (michaelMicVerify prim skb keyidx hdrLen tkey).skb)

/-- **What the receive counters do.** For either cipher, from every `set_key`
on: a frame that was accepted is accepted again in the state it leaves, with
the same plaintext; the record is the number of the last frame accepted; and
in a run whose accepted frames carry, each, a number above the initial one and
above the record, the accepted numbers increase. -/
theorem rx_counters_recorded (ccmpKey tkipKey : List UInt8) (seq : Option (List UInt8))
    (c : CcmpData) (t : TkipData) :
    Recorder.Unchecked (ccmpRx prim) (ccmpAccepts prim) (ccmpOut prim) mpduPn
      (fun key => key.rxPn.toNat) (initialNumber seq) (ccmpSetKey ccmpKey seq c).2 ∧
    Recorder.Unchecked (tkipRx prim) (tkipAccepts prim) (tkipOut prim) inputTsc
      tscNew (initialNumber seq) (tkipSetKey tkipKey seq t).2 := by
  constructor
  · refine Recorder.unchecked (ccmpRx_records prim) (fun key f h => ?_) _ _
    obtain ⟨hret, hskb⟩ := ccmpDecrypt_again prim key f
    refine ⟨?_, Prod.ext hret hskb⟩
    rw [ccmpAccepts, hret]
    exact h
  · refine Recorder.unchecked (tkipRx_records prim) (fun tkey i h => ?_) _ _
    cases i with
    | msdu => exact absurd h (by simp [tkipAccepts])
    | mpdu f =>
      obtain ⟨hret, hskb⟩ := tkipDecrypt_again prim tkey f (of_decide_eq_true h)
      refine ⟨?_, Prod.ext hret hskb⟩
      rw [tkipAccepts, hret]
      exact h

/-! ### A frame sent twice -/

/-- A frame the other side sealed is accepted as often as it comes. -/
theorem ccmpAccepted_twice {key : CcmpData} {f : Mpdu} {hdr payload : List UInt8} {pn : Pn}
    (hset : key.keySet = true) (hhdr : 24 ≤ hdr.length) (hlen : f.hdrLen = hdr.length)
    (hd : f.skb.data = ccmpFrame prim key.tfm pn key.keyIdx hdr payload) :
    ccmpAccepted prim key [f, f] = [pn.toNat, pn.toNat] := by
  obtain ⟨hret, hpriv, -⟩ := @ccmpDecrypt_encrypted prim _ key _ _ _ hhdr hset hd
  have hacc : ccmpAccepts prim key f = true := by
    rw [ccmpAccepts, hlen, hret]
    exact decide_eq_true (Int.natCast_nonneg _)
  have hagain : ccmpAccepts prim (ccmpRx prim key f) f = true := by
    rw [ccmpAccepts, (ccmpDecrypt_again prim key f).1]
    exact hacc
  have hrx : (ccmpRx prim key f).rxPn = pn := by rw [ccmpRx, hlen, hpriv]
  have hnum : mpduPn f = pn.toNat := by
    calc mpduPn f = (ccmpRx prim key f).rxPn.toNat := (if_pos hacc).symm.trans (ccmpRx_records prim key f).symm
      _ = pn.toNat := by rw [hrx]
  have hkeep : ∀ key', ccmpAccepts prim key' f = true →
      ∀ fs, ccmpAccepted prim key' (f :: fs) = pn.toNat :: ccmpAccepted prim (ccmpRx prim key' f) fs := by
    intro key' h fs
    rw [← hnum]
    exact if_pos h
  rw [hkeep _ hacc, hkeep _ hagain]
  rfl

end

/-- A frame of number 1, as `ccmpEncrypt` seals it. -/
def replayedMpdu : Mpdu where
  skb := ⟨0, ccmpFrame linuxPrimitives (counted 16) ⟨[0, 0, 0, 0, 0, 1], rfl⟩ 0 (List.replicate 24 2)
    [1, 2, 3], []⟩
  hdrLen := 24

/-- A replayed CCMP frame is accepted: the accepted numbers are 1 and 1. -/
theorem replayed_mpdu_accepted :
    ¬ (initialNumber none :: ccmpAccepted linuxPrimitives
      (ccmpSetKey (counted 16) none (ccmpInit 0)).2 [replayedMpdu, replayedMpdu]).Pairwise (· < ·) := by
  rw [@ccmpAccepted_twice _ (ccmpSetKey (counted 16) none (ccmpInit 0)).2 replayedMpdu (List.replicate 24 2) [1, 2, 3]
    ⟨[0, 0, 0, 0, 0, 1], rfl⟩ rfl (by decide) rfl rfl]
  decide

end Rtl8187

/-
# CCMP packet numbers

The carry loop counts a 48-bit number up by one, and the eight bytes of the
CCMP header give the number back. So the frames encrypted after a `set_key`
carry the numbers 1, 2, 3, … and no two of them have the same nonce.

Key definitions: `Sent`, `ccmpSent`, `ccmpNonce`, `NumbersFrames`.
Key theorems: `Pn.toNat_incr`, `ccmpTx_counts`, `ccmp_numbers_frames`.
-/
import Rtl8187.Replay
import Rtl8187.Lib.Epochs

namespace Rtl8187

open Bytes

/-! ### The carry loop -/

/-- The number big-endian bytes stand for. -/
def beNat : List UInt8 → ℕ
  | [] => 0
  | b :: bs => b.toNat * 256 ^ bs.length + beNat bs

theorem beNat_lt : ∀ bs, beNat bs < 256 ^ bs.length
  | [] => Nat.one_pos
  | b :: bs => by
    have hb := b.toNat_lt
    have ih := beNat_lt bs
    rw [beNat, List.length_cons, Nat.pow_succ]
    calc b.toNat * 256 ^ bs.length + beNat bs < b.toNat * 256 ^ bs.length + 256 ^ bs.length :=
          Nat.add_lt_add_left ih _
      _ = (b.toNat + 1) * 256 ^ bs.length := (Nat.succ_mul _ _).symm
      _ ≤ 256 * 256 ^ bs.length := Nat.mul_le_mul_right _ hb
      _ = 256 ^ bs.length * 256 := Nat.mul_comm _ _

/-- The loop adds one, and its carry is what does not fit. -/
theorem beNat_incrBytes : ∀ bs,
    beNat (incrBytes bs).1 + (if (incrBytes bs).2 then 256 ^ bs.length else 0) = beNat bs + 1
  | [] => rfl
  | b :: bs => by
    have ih := beNat_incrBytes bs
    have hlen := length_incrBytes bs
    rw [incrBytes, beNat]
    cases hcarry : (incrBytes bs).2 with
    | false =>
      rw [hcarry, if_neg Bool.false_ne_true, Nat.add_zero] at ih
      simp only [Bool.false_eq_true, if_false, beNat, hlen]
      omega
    | true =>
      rw [hcarry, if_pos rfl] at ih
      have hb : (b + 1).toNat = (b.toNat + 1) % 256 := by simp
      have hbyte := b.toNat_lt
      simp only [if_true, beNat, hlen, List.length_cons]
      by_cases hwrap : b.toNat = 255
      · have hzero : b + 1 = 0 := UInt8.toNat_inj.mp (by rw [hb, hwrap]; rfl)
        rw [hzero, if_pos (by rfl), hwrap, Nat.pow_succ]
        have hz : UInt8.toNat 0 = 0 := rfl
        rw [hz]
        omega
      · have hne : (b + 1 == 0) = false := by
          rw [beq_eq_false_iff_ne]
          intro heq
          rw [heq] at hb
          have hz : UInt8.toNat 0 = 0 := rfl
          omega
        rw [hne, hb, Nat.mod_eq_of_lt (by omega), Nat.succ_mul]
        simp only [Bool.false_eq_true, if_false]
        omega

theorem foldl_eq_beNat : ∀ (bs : List UInt8) (n : ℕ),
    bs.foldl (fun n b => 256 * n + b.toNat) n = n * 256 ^ bs.length + beNat bs
  | [], n => by simp [beNat]
  | b :: bs, n => by
    rw [List.foldl_cons, foldl_eq_beNat bs, beNat, List.length_cons, Nat.pow_succ]
    ring

/-- Numbers of the same length are the same bytes. -/
theorem beNat_inj : ∀ {bs bs' : List UInt8}, bs.length = bs'.length → beNat bs = beNat bs' → bs = bs'
  | [], [], _, _ => rfl
  | b :: bs, b' :: bs', hlen, h => by
    rw [List.length_cons, List.length_cons] at hlen
    have hlen' : bs.length = bs'.length := Nat.succ.inj hlen
    have h1 := beNat_lt bs
    have h2 := beNat_lt bs'
    rw [beNat, beNat, hlen'] at h
    rw [hlen'] at h1
    have hpos : 0 < 256 ^ bs'.length := Nat.pow_pos (by decide)
    have hhead : b.toNat = b'.toNat := by
      have hdiv : ∀ {a r : ℕ}, r < 256 ^ bs'.length →
          (a * 256 ^ bs'.length + r) / 256 ^ bs'.length = a := by
        intro a r hr
        rw [Nat.add_comm, Nat.add_mul_div_right _ _ hpos, Nat.div_eq_of_lt hr, Nat.zero_add]
      calc b.toNat = _ := (hdiv h1).symm
        _ = _ := congrArg (· / 256 ^ bs'.length) h
        _ = b'.toNat := hdiv h2
    rw [hhead] at h
    rw [UInt8.toNat_inj.mp hhead, beNat_inj hlen' (Nat.add_left_cancel h)]

namespace Pn

theorem toNat_eq (pn : Pn) : pn.toNat = beNat pn.bytes := by
  rw [toNat, foldl_eq_beNat, Nat.zero_mul, Nat.zero_add]

theorem toNat_lt (pn : Pn) : pn.toNat < 2 ^ 48 := by
  have h := beNat_lt pn.bytes
  rw [pn.length_eq] at h
  rw [toNat_eq]
  exact h

/-- The carry loop counts a 48-bit number up. -/
theorem toNat_incr (pn : Pn) : pn.incr.toNat = (pn.toNat + 1) % 2 ^ 48 := by
  have h := beNat_incrBytes pn.bytes
  have hlt := pn.incr.toNat_lt
  have hlt' := pn.toNat_lt
  rw [pn.length_eq] at h
  rw [toNat_eq] at hlt hlt' ⊢
  rw [toNat_eq pn]
  have hincr : pn.incr.bytes = (incrBytes pn.bytes).1 := rfl
  rw [hincr] at hlt ⊢
  split_ifs at h <;> omega

theorem toNat_inj {pn pn' : Pn} (h : pn.toNat = pn'.toNat) : pn = pn' := by
  obtain ⟨bs, hbs⟩ := pn
  obtain ⟨bs', hbs'⟩ := pn'
  rw [toNat_eq, toNat_eq] at h
  have hbytes : bs = bs' := beNat_inj (hbs.trans hbs'.symm) h
  subst hbytes
  rfl

end Pn

/-! ### Frames sent -/

/-- A frame given to a cipher, and what came out of it. -/
structure Sent where
  frame : Mpdu
  out : SkBuff

namespace Sent

variable (x : Sent)

def hdr : List UInt8 := x.frame.skb.data.take x.frame.hdrLen

def payload : List UInt8 := x.frame.skb.data.drop x.frame.hdrLen

/-- The packet number, as `ieee80211_ccmp_decrypt` reads it. -/
def pn : Pn := Pn.ofHdr x.out.data x.frame.hdrLen

end Sent

/-- The nonce `ccmp_init_blocks` makes: the QoS control, the transmitter, the
packet number. -/
def ccmpNonce (hdr : List UInt8) (pn : Pn) : List UInt8 :=
  let fc := frameCtl hdr
  let a4 := decide (dsBits fc = fctlTods ||| fctlFromds)
  let qcIncluded := decide (fcType fc = ftypeData ∧ fcStype fc &&& 0x80 ≠ 0)
  (if qcIncluded then at8 hdr (if a4 then 30 else 24) &&& 0x0f else 0) :: (addr2 hdr).toList ++ pn.bytes

section

variable (prim : Primitives)

/-- The context after a frame was encrypted, or refused. -/
def ccmpTx (key : CcmpData) (f : Mpdu) : CcmpData := (ccmpEncrypt prim f.skb f.hdrLen key).priv

def ccmpSend (key : CcmpData) (f : Mpdu) : Option Sent :=
  if (ccmpEncrypt prim f.skb f.hdrLen key).ret = 0 then
    some ⟨f, (ccmpEncrypt prim f.skb f.hdrLen key).skb⟩
  else none

/-- The frames a run of calls encrypts, in order. -/
def ccmpSent (key : CcmpData) (fs : List Mpdu) : List Sent :=
  Run.outputs (ccmpTx prim) (ccmpSend prim) key fs

/-- The nonce a frame is encrypted under. The packet number stands in the frame
when it is made, and counts as part of a header that is too short. -/
def Sent.nonce (idx : KeyIdx) (x : Sent) : List UInt8 :=
  ccmpNonce (x.hdr ++ x.pn.ccmpHdr idx ++ x.payload) x.pn

/-! ### One call -/

/-- A call of `ieee80211_ccmp_encrypt` refuses the buffer, and nothing changes;
or it makes a frame with the next number. -/
theorem ccmpEncrypt_cases (f : Mpdu) (key : CcmpData) :
    ((ccmpEncrypt prim f.skb f.hdrLen key).ret = -1 ∧
      (ccmpEncrypt prim f.skb f.hdrLen key).skb = f.skb ∧ ccmpTx prim key f = key) ∨
    ((ccmpEncrypt prim f.skb f.hdrLen key).ret = 0 ∧
      ccmpTx prim key f = { key with txPn := key.txPn.incr } ∧
      ∃ hdr payload, hdr.length = f.hdrLen ∧ f.skb.data = hdr ++ payload ∧
        (ccmpEncrypt prim f.skb f.hdrLen key).skb.data =
          ccmpFrame prim key.tfm key.txPn.incr key.keyIdx hdr payload) := by
  by_cases hc : f.skb.headroom < ccmpHdrLen ∨ f.skb.tailroom < ccmpMicLen ∨ f.skb.len < f.hdrLen
  · left
    unfold ccmpTx
    rw [ccmpEncrypt, if_pos hc]
    exact ⟨rfl, rfl, rfl⟩
  · right
    have hroom : ccmpHdrLen ≤ f.skb.headroom ∧ ccmpMicLen ≤ f.skb.tailroom ∧ f.hdrLen ≤ f.skb.len := by
      omega
    have hhdr : (f.skb.data.take f.hdrLen).length = f.hdrLen := List.length_take_of_le hroom.2.2
    have hsplit := (List.take_append_drop f.hdrLen f.skb.data).symm
    have hok := ccmpEncrypt_ok prim key hsplit hroom.1 hroom.2.1
    rw [hhdr] at hok
    exact ⟨hok.1, hok.2.1, _, _, hhdr, hsplit, hok.2.2⟩

/-- The number of a frame is read where it was written. -/
theorem ofHdr_ccmpFrame (tfm : List UInt8) (pn : Pn) (idx : KeyIdx) (hdr payload : List UInt8) :
    Pn.ofHdr (ccmpFrame prim tfm pn idx hdr payload) hdr.length = pn := by
  have h8 : (pn.ccmpHdr idx).length = 8 := rfl
  have hbyte : ∀ k < 8, at8 (ccmpFrame prim tfm pn idx hdr payload) (hdr.length + k) =
      at8 (pn.ccmpHdr idx) k := by
    intro k hk
    rw [ccmpFrame, at8_append_left _ (by rw [List.length_append]; omega),
      at8_append_right _ (by omega), Nat.add_sub_cancel_left]
  rw [Pn.ofHdr_shift hbyte, Pn.ofHdr_ccmpHdr]

/-- A frame that was sent carries the number the context steps to, and is
encrypted under it. -/
theorem ccmpSend_some {key : CcmpData} {f : Mpdu} {x : Sent} (h : ccmpSend prim key f = some x) :
    x.frame = f ∧ x.pn = key.txPn.incr ∧
      x.out.data = ccmpFrame prim key.tfm x.pn key.keyIdx x.hdr x.payload := by
  unfold ccmpSend at h
  split_ifs at h with hret
  cases h
  rcases ccmpEncrypt_cases prim f key with ⟨hneg, -, -⟩ | ⟨-, -, hdr, payload, hlen, hd, hout⟩
  · rw [hneg] at hret
    cases hret
  · have hpn : Pn.ofHdr (ccmpEncrypt prim f.skb f.hdrLen key).skb.data f.hdrLen = key.txPn.incr := by
      rw [hout, ← hlen, ofHdr_ccmpFrame]
    have hhdr : f.skb.data.take f.hdrLen = hdr := by rw [hd, List.take_left' hlen]
    have hpayload : f.skb.data.drop f.hdrLen = payload := by rw [hd, List.drop_left' hlen]
    refine ⟨rfl, hpn, ?_⟩
    simp only [Sent.pn, Sent.hdr, Sent.payload, hpn, hhdr, hpayload]
    exact hout

/-! ### Runs -/

/-- What a call does to key and number: it uses the next number, or nothing. -/
def ccmpEvent (key : CcmpData) (f : Mpdu) : Epochs.Event (List UInt8) :=
  if (ccmpEncrypt prim f.skb f.hdrLen key).ret = 0 then .use else .rest

theorem ccmpEvent_or (key : CcmpData) (f : Mpdu) :
    ccmpEvent prim key f = .use ∨ ccmpEvent prim key f = .rest := by
  unfold ccmpEvent
  split_ifs
  · exact Or.inl rfl
  · exact Or.inr rfl

/-- A frame goes out where a number is used. -/
theorem ccmpSend_isSome (key : CcmpData) (f : Mpdu) :
    (ccmpSend prim key f).isSome = true ↔ ccmpEvent prim key f = .use := by
  unfold ccmpSend ccmpEvent
  split_ifs <;> simp

/-- Its number is the one the counter steps to. -/
theorem ccmpSend_pn {key : CcmpData} {f : Mpdu} (hlt : key.txPn.toNat < 2 ^ 48 - 1)
    (huse : ccmpEvent prim key f = .use) :
    (ccmpSend prim key f).map (·.pn.toNat) = some (1 + key.txPn.toNat) := by
  obtain ⟨x, hx⟩ := Option.isSome_iff_exists.mp ((ccmpSend_isSome prim key f).mpr huse)
  obtain ⟨-, hpn, -⟩ := ccmpSend_some prim hx
  rw [hx, Option.map_some, hpn, Pn.toNat_incr, Nat.mod_eq_of_lt (by omega), Nat.add_comm]

theorem ccmpSend_none {key : CcmpData} {f : Mpdu} (h : ccmpEvent prim key f = .rest) :
    ccmpSend prim key f = none := by
  simpa [h] using ccmpSend_isSome prim key f

theorem ccmpTx_counts : Epochs.Counts (ccmpTx prim) (ccmpEvent prim) (fun s => some s.tfm) (·.txPn.toNat) 0
    (2 ^ 48 - 1) where
  install := by
    intro key f k h
    unfold ccmpEvent at h
    split_ifs at h
  remove := by
    intro key f h
    unfold ccmpEvent at h
    split_ifs at h
  use := by
    intro key f h hlt
    rcases ccmpEncrypt_cases prim f key with ⟨hneg, -, -⟩ | ⟨-, htx, -⟩
    · rw [ccmpEvent, hneg] at h
      cases h
    · rw [htx, Pn.toNat_incr, Nat.mod_eq_of_lt (by omega)]
      exact ⟨rfl, rfl⟩
  rest := by
    intro key f h
    rcases ccmpEncrypt_cases prim f key with ⟨-, -, htx⟩ | ⟨hret, -, -⟩
    · rw [htx]
      exact ⟨rfl, rfl⟩
    · rw [ccmpEvent, hret] at h
      cases h

/-- What a run of calls from a context makes: the frames carry the
numbers 1, 2, 3, …, as the receiver reads them, and are encrypted under these;
no two have one nonce; and a call that fails changes nothing. -/
structure NumbersFrames (key : CcmpData) (fs : List Mpdu) : Prop where
  numbers : (ccmpSent prim key fs).map (·.pn.toNat) = List.range' 1 (ccmpSent prim key fs).length
  frames : ∀ x ∈ ccmpSent prim key fs,
    x.out.data = ccmpFrame prim key.tfm x.pn key.keyIdx x.hdr x.payload
  nonces : ((ccmpSent prim key fs).map (Sent.nonce key.keyIdx)).Nodup
  failed : ∀ pre f, let key' := Run.run (ccmpTx prim) key pre
    (ccmpEncrypt prim f.skb f.hdrLen key').ret ≠ 0 →
      (ccmpEncrypt prim f.skb f.hdrLen key').ret = -1 ∧
      (ccmpEncrypt prim f.skb f.hdrLen key').skb = f.skb ∧ ccmpTx prim key' f = key'

variable {key : CcmpData} {fs : List Mpdu}

theorem ccmpSent_numbers (hzero : key.txPn = Pn.zero) (hlen : fs.length < 2 ^ 48) :
    (ccmpSent prim key fs).map (·.pn.toNat) = List.range' 1 (ccmpSent prim key fs).length := by
  have hnum : key.txPn.toNat = 0 := by rw [hzero]; rfl
  have huses := @Epochs.uses_events_le _ _ _ (ccmpTx prim) (ccmpEvent prim) key fs
  have hlength : (ccmpSent prim key fs).length = _ :=
    Epochs.length_outputs (ccmpSend_isSome prim) key fs
  have hmap : (ccmpSent prim key fs).map (·.pn.toNat) =
      (List.range' key.txPn.toNat (Epochs.uses (Epochs.events (ccmpTx prim) (ccmpEvent prim) key fs))).map
        (1 + ·) :=
    (ccmpTx_counts prim).outputs_eq (ccmpEvent_or prim) (fun _ _ => ccmpSend_pn prim)
      (fun _ _ => ccmpSend_none prim) key fs (by omega)
  rw [hmap, hnum, List.map_add_range', hlength]

/-- The calls keep key and slot. -/
theorem ccmpTx_same (s : CcmpData) (f : Mpdu) :
    (ccmpTx prim s f).tfm = s.tfm ∧ (ccmpTx prim s f).keyIdx = s.keyIdx ∧
      (ccmpTx prim s f).keySet = s.keySet := by
  rcases ccmpEncrypt_cases prim f s with ⟨-, -, htx⟩ | ⟨-, htx, -⟩
  · rw [htx]
    exact ⟨rfl, rfl, rfl⟩
  · rw [htx]
    exact ⟨rfl, rfl, rfl⟩

theorem ccmpSent_frames : ∀ x ∈ ccmpSent prim key fs,
    x.out.data = ccmpFrame prim key.tfm x.pn key.keyIdx x.hdr x.payload := by
  let inv : CcmpData → Prop := fun s => s.tfm = key.tfm ∧ s.keyIdx = key.keyIdx
  have hstep : ∀ s f, inv s → True → inv (ccmpTx prim s f) := by
    intro s f hinv _
    obtain ⟨htfm, hidx, -⟩ := ccmpTx_same prim s f
    exact ⟨htfm.trans hinv.1, hidx.trans hinv.2⟩
  refine Run.forall_outputs hstep (fun s f hinv _ x hx => ?_) key fs ⟨rfl, rfl⟩
    (Run.allSteps_true _ _)
  have hout := (ccmpSend_some prim hx).2.2
  rwa [hinv.1, hinv.2] at hout

/-- Different numbers make different nonces. -/
theorem nonces_nodup {xs : List Sent} (idx : KeyIdx) (h : (xs.map (·.pn.toNat)).Nodup) :
    (xs.map (Sent.nonce idx)).Nodup := by
  refine List.Nodup.of_map (fun nonce => beNat (nonce.drop 7)) ?_
  have hnum : ∀ x : Sent, beNat ((x.nonce idx).drop 7) = x.pn.toNat := by
    intro x
    rw [Pn.toNat_eq]
    rfl
  rw [List.map_map]
  simpa [Function.comp_def, hnum] using h

/-- **Packet numbers count the frames**, from any `set_key` on. -/
theorem ccmp_numbers_frames (k : List UInt8) (seq : Option (List UInt8)) (c : CcmpData)
    (fs : List Mpdu) (hlen : fs.length < 2 ^ 48) :
    NumbersFrames prim (ccmpSetKey k seq c).2 fs := by
  have hzero : (ccmpSetKey k seq c).2.txPn = Pn.zero := by
    unfold ccmpSetKey
    dsimp only
    split_ifs <;> rfl
  have hnumbers := ccmpSent_numbers prim hzero hlen
  refine ⟨hnumbers, ccmpSent_frames prim, nonces_nodup _ ?_, ?_⟩
  · rw [hnumbers]
    exact List.nodup_range'
  · intro pre f key' hfail
    rcases ccmpEncrypt_cases prim f key' with h | ⟨hret, -, -⟩
    · exact h
    · exact absurd hret hfail

/-- Two frames, and a buffer without room between them. -/
theorem ccmp_numbers_two : NumbersFrames linuxPrimitives
    (ccmpSetKey (List.replicate ccmpTkLen 7) none (ccmpInit 1)).2
    [⟨⟨8, List.replicate 28 0, List.replicate 8 0⟩, 24⟩, ⟨⟨0, List.replicate 28 0, []⟩, 24⟩,
      ⟨⟨8, List.replicate 24 0, List.replicate 8 0⟩, 24⟩] :=
  ccmp_numbers_frames linuxPrimitives _ _ _ _ (by decide)

end

end Rtl8187

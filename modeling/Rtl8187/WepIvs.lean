/-
# The IVs of WEP

The discipline of `prism2_wep_encrypt` over a run: no IV it sends is one of the
weak ones of its key length, and none is sent twice before all of the others
have been. Only the low 24 bits of the counter go out, so the run is followed on
natural numbers, of which the counter shows the remainder (`Rtl8187.Lib.Skip`).

Key definitions: `WeakIv`, `sentIvs`, `RoundTrips`, `IvDiscipline`.
Key theorems: `count_allowed`, `sentIvs_eq`, `wep_roundTrips_and_ivs`.
-/
import Rtl8187.CryptWep
import Rtl8187.Lib.Skip
import Rtl8187.Lib.Run

namespace Rtl8187

open Bytes

namespace WepData

/-- The IV `iv`, as it is sent, is weak for a key of this length: (B, 0xff, N)
with 3 ≤ B < 3 + `key_len`. -/
def WeakIv (keyLen : ℕ) (iv : List UInt8) : Prop :=
  ∃ B N : UInt8, 3 ≤ B.toNat ∧ B.toNat < 3 + keyLen ∧ iv = [B, 0xff, N]

/-- The same of the counter, as a natural number. -/
def Weak (keyLen x : ℕ) : Prop :=
  x / 256 % 256 = 255 ∧ 3 ≤ x / 65536 % 256 ∧ x / 65536 % 256 < 3 + keyLen

instance (keyLen x : ℕ) : Decidable (Weak keyLen x) := by
  unfold Weak
  infer_instance

/-- A number that is not weak. -/
def Allowed (keyLen x : ℕ) : Prop := ¬ Weak keyLen x

instance (keyLen x : ℕ) : Decidable (Allowed keyLen x) := inferInstanceAs (Decidable (¬ Weak keyLen x))

/-- How many values the part of the counter has that is sent. -/
def ivPeriod : ℕ := 2 ^ 24

/-- The counter after a frame, on natural numbers. -/
def nextNat (keyLen x : ℕ) : ℕ := if Weak keyLen (x + 1) then x + 1 + 256 else x + 1

/-! ### The numbers that are not weak -/

theorem allowed_periodic (keyLen : ℕ) : Function.Periodic (Allowed keyLen) ivPeriod := by
  intro x
  have hmid : (x + ivPeriod) / 256 % 256 = x / 256 % 256 := by
    unfold ivPeriod
    omega
  have htop : (x + ivPeriod) / 65536 % 256 = x / 65536 % 256 := by
    unfold ivPeriod
    omega
  simp only [Allowed, Weak, hmid, htop]

/-- The counter goes from one allowed number to the next. -/
theorem isNext_nextNat (keyLen x : ℕ) (hx : Allowed keyLen x) :
    Skip.IsNext (Allowed keyLen) x (nextNat keyLen x) := by
  unfold nextNat
  by_cases hw : Weak keyLen (x + 1)
  · rw [if_pos hw]
    unfold Allowed Weak at *
    -- the weak number after one that is not is the first of its 256
    have hfirst : (x + 1) % 256 = 0 := by omega
    constructor <;> intros <;> omega
  · rw [if_neg hw]
    exact ⟨Nat.lt_succ_self x, hw, fun z hz hlt => by omega⟩

/-- Whatever the counter starts from, it goes to an allowed number. -/
theorem allowed_nextNat (keyLen x : ℕ) : Allowed keyLen (nextNat keyLen x) := by
  unfold nextNat
  by_cases hw : Weak keyLen (x + 1)
  · rw [if_pos hw]
    unfold Allowed Weak at *
    omega
  · rw [if_neg hw]
    exact hw

section

variable {p : ℕ → Prop} [DecidablePred p] {a n : ℕ}

theorem count_all (h : ∀ i < n, p (a + i)) : Nat.count p (a + n) = Nat.count p a + n := by
  rw [Nat.count_add, Nat.count_of_forall h]

theorem count_none (h : ∀ i < n, ¬ p (a + i)) : Nat.count p (a + n) = Nat.count p a := by
  rw [Nat.count_add, Nat.count_of_forall_not h, Nat.add_zero]

end

/-- Of the numbers with the first bytes below `b`, each weak first byte takes
away 256. -/
theorem count_blocks (keyLen : ℕ) : ∀ b ≤ 256,
    Nat.count (Allowed keyLen) (65536 * b) + 256 * min (b - 3) keyLen = 65536 * b
  | 0, _ => by simp
  | b + 1, hb => by
    have ih := count_blocks keyLen b (by omega)
    have hlow : ∀ i < 65280, Allowed keyLen (65536 * b + i) := by
      intro i hi
      unfold Allowed Weak
      omega
    have hstart := count_all hlow
    rw [show 65536 * (b + 1) = 65536 * b + 65280 + 256 by omega]
    by_cases hin : 3 ≤ b ∧ b < 3 + keyLen
    · have hhigh : ∀ i < 256, ¬ Allowed keyLen (65536 * b + 65280 + i) := by
        intro i hi
        unfold Allowed Weak
        omega
      rw [count_none hhigh, hstart]
      omega
    · have hhigh : ∀ i < 256, Allowed keyLen (65536 * b + 65280 + i) := by
        intro i hi
        unfold Allowed Weak
        omega
      rw [count_all hhigh, hstart]
      omega

/-- In a period, all numbers are allowed but 256 for each byte of the key. -/
theorem count_allowed {keyLen : ℕ} (h : keyLen ≤ wepKeyLen) :
    Nat.count (Allowed keyLen) ivPeriod = ivPeriod - 256 * keyLen := by
  have hblocks := count_blocks keyLen 256 le_rfl
  have hperiod : ivPeriod = 65536 * 256 := rfl
  unfold wepKeyLen at h
  rw [min_eq_right (by omega), ← hperiod] at hblocks
  omega

/-! ### The counter -/

/-- Where the bits 8 to 15 are all set. -/
theorem and_ff00 (iv : UInt32) : iv &&& 0xff00 = 0xff00 ↔ iv.toNat / 256 % 256 = 255 := by
  have hbits : (iv &&& 0xff00).toNat = iv.toNat / 256 % 256 * 256 := by
    apply Nat.eq_of_testBit_eq
    intro i
    have hmask : UInt32.toNat 0xff00 = (2 ^ 8 - 1) * 2 ^ 8 := rfl
    have hdiv : iv.toNat / 256 % 256 * 256 = iv.toNat / 2 ^ 8 % 2 ^ 8 * 2 ^ 8 := rfl
    rw [UInt32.toNat_and, hmask, hdiv]
    simp only [Nat.testBit_and, Nat.testBit_mul_two_pow, Nat.testBit_two_pow_sub_one,
      Nat.testBit_mod_two_pow, Nat.testBit_div_two_pow]
    grind
  rw [← UInt32.toNat_inj, hbits]
  have hff : UInt32.toNat 0xff00 = 255 * 256 := rfl
  omega

theorem toNat_B (iv : UInt32) : ((iv >>> 16) &&& 0xff).toNat = iv.toNat / 65536 % 256 := by
  have hmask : UInt32.toNat 0xff = 2 ^ 8 - 1 := rfl
  rw [UInt32.toNat_and, hmask, Nat.and_two_pow_sub_one_eq_mod, UInt32.toNat_shiftRight,
    Nat.shiftRight_eq_div_pow]
  rfl

/-- The counter shows the natural number, up to a multiple of the period. -/
theorem nextIv_mod (wep : WepData) {x : ℕ} (h : wep.iv.toNat % ivPeriod = x % ivPeriod) :
    wep.nextIv.toNat % ivPeriod = nextNat wep.key.length x % ivPeriod := by
  have hone : (wep.iv + 1).toNat % ivPeriod = (x + 1) % ivPeriod := by
    rw [UInt32.toNat_add]
    unfold ivPeriod at *
    have h1 : UInt32.toNat 1 = 1 := rfl
    omega
  unfold nextIv nextNat
  simp only [and_ff00, toNat_B]
  by_cases hw : Weak wep.key.length (x + 1)
  · rw [if_pos hw, if_pos, UInt32.toNat_add]
    · have h256 : UInt32.toNat 0x0100 = 256 := rfl
      unfold ivPeriod at *
      omega
    · unfold Weak at hw
      unfold ivPeriod at hone
      omega
  · rw [if_neg hw, if_neg]
    · exact hone
    · unfold Weak at hw
      unfold ivPeriod at hone
      omega

/-- The counter moved on. -/
def advance (wep : WepData) : WepData := { wep with iv := wep.nextIv }

theorem iterate_advance_key (wep : WepData) : ∀ n, (advance^[n] wep).key = wep.key
  | 0 => rfl
  | n + 1 => by
    rw [Function.iterate_succ_apply']
    exact iterate_advance_key wep n

/-- The natural number after `n` more frames than one. -/
def numberAt (wep : WepData) (n : ℕ) : ℕ :=
  (nextNat wep.key.length)^[n] (nextNat wep.key.length wep.iv.toNat)

theorem numberAt_succ (wep : WepData) (n : ℕ) :
    numberAt wep (n + 1) = nextNat wep.key.length (numberAt wep n) := Function.iterate_succ_apply' ..

theorem iterate_advance_mod (wep : WepData) : ∀ n,
    (advance^[n + 1] wep).iv.toNat % ivPeriod = numberAt wep n % ivPeriod
  | 0 => nextIv_mod wep rfl
  | n + 1 => by
    have ih := iterate_advance_mod wep n
    have hnext := nextIv_mod (advance^[n + 1] wep) ih
    rw [iterate_advance_key] at hnext
    rw [Function.iterate_succ_apply', numberAt_succ]
    exact hnext

/-! ### The IV as it is sent -/

theorem ivBytes_inj {iv iv' : UInt32} (h : ivBytes iv = ivBytes iv') :
    iv.toNat % ivPeriod = iv'.toNat % ivPeriod := by
  simp only [ivBytes, List.cons.injEq, and_true, ← UInt8.toNat_inj, UInt32.toNat_toUInt8,
    UInt32.toNat_shiftRight, Nat.shiftRight_eq_div_pow] at h
  obtain ⟨h16, h8, h0⟩ := h
  have e16 : UInt32.toNat 16 % 32 = 16 := rfl
  have e8 : UInt32.toNat 8 % 32 = 8 := rfl
  rw [e16] at h16
  rw [e8] at h8
  unfold ivPeriod
  omega

theorem weakIv_ivBytes {keyLen : ℕ} {iv : UInt32} (h : WeakIv keyLen (ivBytes iv)) :
    Weak keyLen iv.toNat := by
  obtain ⟨B, N, hlo, hhi, heq⟩ := h
  simp only [ivBytes, List.cons.injEq, and_true] at heq
  obtain ⟨rfl, hmid, -⟩ := heq
  have e16 : UInt32.toNat 16 % 32 = 16 := rfl
  have e8 : UInt32.toNat 8 % 32 = 8 := rfl
  have hff : UInt8.toNat 0xff = 255 := rfl
  rw [← UInt8.toNat_inj, UInt32.toNat_toUInt8, UInt32.toNat_shiftRight, Nat.shiftRight_eq_div_pow, e8,
    hff] at hmid
  rw [UInt32.toNat_toUInt8, UInt32.toNat_shiftRight, Nat.shiftRight_eq_div_pow, e16] at hlo hhi
  exact ⟨hmid, hlo, hhi⟩

end WepData

open WepData

/-! ### Runs -/

section

variable (prim : Primitives)

/-- A call of `prism2_wep_encrypt`, on a buffer with a header of so many bytes. -/
abbrev WepCall : Type := SkBuff × ℕ

/-- The context after a call. -/
def wepStep (wep : WepData) (call : WepCall) : WepData :=
  (prism2WepEncrypt prim call.1 call.2 wep).priv

/-- The IV in the frame a call makes, if it makes one. -/
def sentIv (wep : WepData) (call : WepCall) : Option (List UInt8) :=
  if (prism2WepEncrypt prim call.1 call.2 wep).ret = 0 then
    some (slice call.2 3 (prism2WepEncrypt prim call.1 call.2 wep).skb.data)
  else none

/-- The IVs a run of calls sends, in order. -/
def sentIvs (wep : WepData) (calls : List WepCall) : List (List UInt8) :=
  Run.outputs (wepStep prim) (sentIv prim) wep calls

/-- `prism2_wep_decrypt` under the same key and in the same slot takes back what
`prism2_wep_encrypt` did to a buffer that has the room it asks for. -/
def RoundTrips (wep : WepData) : Prop :=
  ∀ (rx : WepData) (skb : SkBuff) (hdr payload : List UInt8),
    rx.key = wep.key → rx.keyIdx = wep.keyIdx → skb.data = hdr ++ payload →
    4 ≤ skb.headroom → 4 ≤ skb.tailroom →
    let sent := prism2WepEncrypt prim skb hdr.length wep
    let received := prism2WepDecrypt prim sent.skb hdr.length rx
    sent.ret = 0 ∧ received.ret = 0 ∧ received.priv = rx ∧ received.skb.data = hdr ++ payload

/-- In every run of fewer frames than there are IVs that are not weak, no weak
IV is sent, and none twice. -/
def IvDiscipline (wep : WepData) : Prop :=
  ∀ calls : List WepCall, (sentIvs prim wep calls).length < 2 ^ 24 - 256 * wep.key.length →
    (∀ iv ∈ sentIvs prim wep calls, ¬ WeakIv wep.key.length iv) ∧ (sentIvs prim wep calls).Nodup

variable {prim}

/-- A call makes a frame with the next IV, or does nothing. -/
theorem wepStep_cases (wep : WepData) (call : WepCall) :
    (wepStep prim wep call = advance wep ∧ sentIv prim wep call = some (ivBytes wep.nextIv)) ∨
    (wepStep prim wep call = wep ∧ sentIv prim wep call = none) := by
  obtain ⟨skb, hdrLen⟩ := call
  unfold wepStep sentIv
  by_cases hroom : skb.headroom < 4 ∨ skb.tailroom < 4 ∨ skb.len < hdrLen
  · right
    rw [prism2WepEncrypt, if_pos hroom]
    exact ⟨rfl, rfl⟩
  · left
    have hhdr : (skb.data.take hdrLen).length = hdrLen := by
      apply List.length_take_of_le
      unfold SkBuff.len at hroom
      omega
    obtain ⟨hret, hpriv, hdata⟩ := prism2WepEncrypt_ok prim wep
      (List.take_append_drop hdrLen skb.data).symm (by omega) (by omega)
    rw [hhdr] at hret hpriv hdata
    refine ⟨hpriv, ?_⟩
    dsimp only
    rw [if_pos hret, hdata, wepFrame, slice, List.append_assoc, List.drop_left' hhdr]
    rfl

/-- **The IVs of a run**, one for each frame that is sent. -/
theorem sentIvs_eq : ∀ (wep : WepData) (calls : List WepCall),
    sentIvs prim wep calls =
      (List.range (sentIvs prim wep calls).length).map fun i => ivBytes (advance^[i + 1] wep).iv
  | _, [] => rfl
  | wep, call :: calls => by
    unfold sentIvs
    rcases @wepStep_cases prim wep call with ⟨hstep, hsent⟩ | ⟨hstep, hsent⟩
    · have ih := sentIvs_eq (advance wep) calls
      rw [Run.outputs, hsent, hstep, Option.toList_some, List.singleton_append, List.length_cons,
        List.range_succ_eq_map, List.map_cons, List.map_map]
      exact congrArg _ ih
    · have ih := sentIvs_eq wep calls
      rw [Run.outputs, hsent, hstep]
      exact ih

theorem roundTrips (wep : WepData) : RoundTrips prim wep := by
  intro rx skb hdr payload hkey hidx hd hh ht sent received
  obtain ⟨hret, -, hdata⟩ := prism2WepEncrypt_ok prim wep hd hh ht
  rw [← hkey, ← hidx] at hdata
  have hback := prism2WepDecrypt_encrypted rfl hdata
  exact ⟨hret, hback⟩

theorem ivDiscipline (wep : WepData) : IvDiscipline prim wep := by
  intro calls hlen
  have hallowed : ∀ n, Allowed wep.key.length (numberAt wep n)
    | 0 => allowed_nextNat _ _
    | n + 1 => by
      rw [numberAt_succ]
      exact allowed_nextNat _ _
  rw [sentIvs_eq]
  constructor
  · intro iv hiv hweak
    obtain ⟨n, -, rfl⟩ := List.mem_map.mp hiv
    have hmod := iterate_advance_mod wep n
    have hperiod := (allowed_periodic wep.key.length).map_mod_nat
    have hsame : Allowed wep.key.length (advance^[n + 1] wep).iv.toNat := by
      rw [← hperiod, hmod, hperiod]
      exact hallowed n
    exact hsame (weakIv_ivBytes hweak)
  · apply List.Nodup.map_on _ List.nodup_range
    -- two numbers that show the same are a whole period apart
    have hfar : ∀ i j, i < j → j < (sentIvs prim wep calls).length →
        ivBytes (advance^[i + 1] wep).iv ≠ ivBytes (advance^[j + 1] wep).iv := by
      intro i j hij hj heq
      have hmod := ivBytes_inj heq
      rw [iterate_advance_mod, iterate_advance_mod] at hmod
      have hgap := Skip.count_le_of_mod_eq (hallowed 0)
        (fun n hn => numberAt_succ wep n ▸ isNext_nextNat _ _ hn)
        (allowed_periodic wep.key.length) hij hmod
      rw [count_allowed wep.key_le, ivPeriod] at hgap
      omega
    intro i hi j hj heq
    rw [List.mem_range] at hi hj
    rcases lt_trichotomy i j with hij | hij | hij
    · exact absurd heq (hfar i j hij hj)
    · exact hij
    · exact absurd heq.symm (hfar j i hij hi)

end

/-- **WEP round trip and IV discipline**, for every key and every value of the
counter. -/
theorem wep_roundTrips_and_ivs (prim : Primitives) (wep : WepData) :
    RoundTrips prim wep ∧ IvDiscipline prim wep := ⟨roundTrips wep, ivDiscipline wep⟩

end Rtl8187

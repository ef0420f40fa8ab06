/-
# TKIP sequence counters

The counter is kept in two halves, counted up by hand, and the first phase of
the key mixing is kept with the upper one. The halves together count by one,
and whenever a first phase is kept it is that of the upper half: so after a
`set_key` the frames of a transmitter carry 1, 2, 3, …, each encrypted under
the key its number gives.

Key definitions: `tkipSent`, `TxKept`, `TkipNumbered`.
Key theorems: `tsc_next`, `tkipTx_counts`, `tkip_counter_frames`.
-/
import Rtl8187.CcmpNumbers

namespace Rtl8187

open Bytes

/-! ### The counter -/

/-- The upper half of a counter. -/
def tscHi (n : ℕ) : UInt32 := UInt32.ofNat (n / 65536)

/-- The lower half. -/
def tscLo (n : ℕ) : UInt16 := UInt16.ofNat (n % 65536)

section

variable (iv32 : UInt32) (iv16 : UInt16)

theorem tscHi_tsc : tscHi (tsc iv32 iv16) = iv32 := by
  have h16 := iv16.toNat_lt
  have hdiv : tsc iv32 iv16 / 65536 = iv32.toNat := by
    unfold tsc
    omega
  rw [tscHi, hdiv]
  exact UInt32.ofNat_toNat

theorem tscLo_tsc : tscLo (tsc iv32 iv16) = iv16 := by
  have h16 := iv16.toNat_lt
  have hmod : tsc iv32 iv16 % 65536 = iv16.toNat := by
    unfold tsc
    omega
  rw [tscLo, hmod]
  exact UInt16.ofNat_toNat

/-- The halves count by one, also where the lower one wraps. -/
theorem tsc_next (h : tsc iv32 iv16 < 2 ^ 48 - 1) :
    tsc (if iv16 + 1 = 0 then iv32 + 1 else iv32) (iv16 + 1) = tsc iv32 iv16 + 1 := by
  have h32 := iv32.toNat_lt
  have h16 := iv16.toNat_lt
  have hlo : (iv16 + 1).toNat = (iv16.toNat + 1) % 65536 := by simp
  have hhi : (iv32 + 1).toNat = (iv32.toNat + 1) % 4294967296 := by simp
  have hzero : iv16 + 1 = 0 ↔ (iv16.toNat + 1) % 65536 = 0 := by
    rw [← hlo, ← UInt16.toNat_inj]
    simp
  unfold tsc at h ⊢
  rw [hlo]
  split_ifs with hwrap
  · rw [hzero] at hwrap
    rw [hhi, Nat.mod_eq_of_lt (by omega)]
    omega
  · rw [hzero] at hwrap
    omega

end

/-! ### Frames sent -/

namespace Sent

variable (x : Sent)

/-- The upper half of the counter, as `ieee80211_tkip_decrypt` reads it. -/
def iv32 : UInt32 := hdrIv32 x.out.data x.frame.hdrLen

/-- The lower half. -/
def iv16 : UInt16 := hdrIv16 x.out.data x.frame.hdrLen

/-- The TSC of a frame, as a number. -/
def tsc : ℕ := Rtl8187.tsc x.iv32 x.iv16

end Sent

section

variable (prim : Primitives)

/-- The context after a frame was encrypted, or refused. -/
def tkipTx (tkey : TkipData) (f : Mpdu) : TkipData := (tkipEncrypt prim f.skb f.hdrLen tkey).priv

def tkipSend (tkey : TkipData) (f : Mpdu) : Option Sent :=
  if (tkipEncrypt prim f.skb f.hdrLen tkey).ret = 0 then
    some ⟨f, (tkipEncrypt prim f.skb f.hdrLen tkey).skb⟩
  else none

/-- The frames a run of calls encrypts, in order. -/
def tkipSent (tkey : TkipData) (fs : List Mpdu) : List Sent :=
  Run.outputs (tkipTx prim) (tkipSend prim) tkey fs

/-- The temporal key of a context. -/
def TkipData.tk (tkey : TkipData) : List UInt8 := tkey.key.take 16

/-- A first phase that is kept is that of the transmitter and the counter. -/
def TxKept (ta : Mac) (tkey : TkipData) : Prop :=
  tkey.txPhase1Done = true → tkey.txTtak = tkipMixingPhase1 tkey.key ta tkey.txIv32

/-- So the first phase is that, kept or computed. -/
theorem TxKept.txPhase1 {ta : Mac} {tkey : TkipData} (h : TxKept ta tkey) :
    tkey.txPhase1 ta = tkipMixingPhase1 tkey.key ta tkey.txIv32 := by
  unfold TkipData.txPhase1
  split_ifs with hdone
  · exact h hdone
  · rfl

/-! ### One call -/

/-- A call of `ieee80211_tkip_encrypt` refuses the buffer, and nothing changes;
or it makes a frame with the present counter, and counts. -/
theorem tkipEncrypt_cases (f : Mpdu) (tkey : TkipData) :
    ((tkipEncrypt prim f.skb f.hdrLen tkey).ret = -1 ∧ tkipTx prim tkey f = tkey) ∨
    ((tkipEncrypt prim f.skb f.hdrLen tkey).ret = 0 ∧
      tkipTx prim tkey f = { tkey with
        txTtak := tkey.txPhase1 (addr2 f.skb.data)
        txPhase1Done := tkey.txIv16 + 1 != 0
        txIv16 := tkey.txIv16 + 1
        txIv32 := if tkey.txIv16 + 1 = 0 then tkey.txIv32 + 1 else tkey.txIv32 } ∧
      ∃ hdr payload, hdr.length = f.hdrLen ∧ f.skb.data = hdr ++ payload ∧
        (tkipEncrypt prim f.skb f.hdrLen tkey).skb.data =
          tkipFrame prim tkey.key tkey.keyIdx (tkey.txPhase1 (addr2 f.skb.data)) tkey.txIv32
            tkey.txIv16 hdr payload) := by
  by_cases hc : f.skb.headroom < 8 ∨ f.skb.tailroom < 4 ∨ f.skb.len < f.hdrLen
  · left
    unfold tkipTx
    rw [tkipEncrypt, if_pos hc]
    exact ⟨rfl, rfl⟩
  · right
    have hroom : 8 ≤ f.skb.headroom ∧ 4 ≤ f.skb.tailroom ∧ f.hdrLen ≤ f.skb.len := by omega
    have hhdr : (f.skb.data.take f.hdrLen).length = f.hdrLen := List.length_take_of_le hroom.2.2
    have hsplit := (List.take_append_drop f.hdrLen f.skb.data).symm
    have hok := @tkipEncrypt_ok prim f.skb tkey _ _ hsplit hroom.1 hroom.2.1
    rw [hhdr] at hok
    exact ⟨hok.1, hok.2.1, _, _, hhdr, hsplit, hok.2.2⟩

/-- A frame that was sent carries the counter of the context, and is encrypted
under the key of it. -/
theorem tkipSend_some {tkey : TkipData} {f : Mpdu} {x : Sent} (h : tkipSend prim tkey f = some x) :
    x.iv32 = tkey.txIv32 ∧ x.iv16 = tkey.txIv16 ∧
      x.out.data = tkipFrame prim tkey.key tkey.keyIdx (tkey.txPhase1 (addr2 f.skb.data)) x.iv32
        x.iv16 x.hdr x.payload := by
  unfold tkipSend at h
  split_ifs at h with hret
  cases h
  obtain ⟨hneg, -⟩ | ⟨-, -, hdr, payload, hlen, hd, hout⟩ := tkipEncrypt_cases prim f tkey
  · rw [hneg] at hret
    cases hret
  · obtain ⟨h16, h32⟩ := @hdrIv_tkipFrame prim tkey.keyIdx tkey.key
      (tkey.txPhase1 (addr2 f.skb.data)) tkey.txIv32 tkey.txIv16 hdr payload
    rw [← hout, hlen] at h16 h32
    have hhdr : f.skb.data.take f.hdrLen = hdr := by rw [hd, List.take_left' hlen]
    have hpayload : f.skb.data.drop f.hdrLen = payload := by rw [hd, List.drop_left' hlen]
    refine ⟨h32, h16, ?_⟩
    simp only [Sent.iv32, Sent.iv16, Sent.hdr, Sent.payload, h32, h16, hhdr, hpayload]
    exact hout

/-- The calls keep key and slot. -/
theorem tkipTx_same (tkey : TkipData) (f : Mpdu) :
    (tkipTx prim tkey f).key = tkey.key ∧ (tkipTx prim tkey f).keyIdx = tkey.keyIdx ∧
      (tkipTx prim tkey f).keySet = tkey.keySet := by
  obtain ⟨-, htx⟩ | ⟨-, htx, -⟩ := tkipEncrypt_cases prim f tkey
  · rw [htx]
    exact ⟨rfl, rfl, rfl⟩
  · rw [htx]
    exact ⟨rfl, rfl, rfl⟩

/-- They keep what is known of the first phase. -/
theorem TxKept.tkipTx {ta : Mac} {tkey : TkipData} (h : TxKept ta tkey) {f : Mpdu}
    (hta : addr2 f.skb.data = ta) : TxKept ta (tkipTx prim tkey f) := by
  obtain ⟨-, htx⟩ | ⟨-, htx, -⟩ := tkipEncrypt_cases prim f tkey
  · rw [htx]
    exact h
  · rw [htx, hta, h.txPhase1]
    intro hdone
    -- a phase that stays has not seen the lower half wrap
    have hwrap : tkey.txIv16 + 1 ≠ 0 := by simpa using hdone
    show _ = tkipMixingPhase1 tkey.key ta (if tkey.txIv16 + 1 = 0 then _ else _)
    rw [if_neg hwrap]

/-! ### Runs -/

/-- What a call does to key and number: it uses the present number, or nothing. -/
def tkipEvent (tkey : TkipData) (f : Mpdu) : Epochs.Event (List UInt8) :=
  if (tkipEncrypt prim f.skb f.hdrLen tkey).ret = 0 then .use else .rest

theorem tkipEvent_or (tkey : TkipData) (f : Mpdu) :
    tkipEvent prim tkey f = .use ∨ tkipEvent prim tkey f = .rest := by
  unfold tkipEvent
  split_ifs
  · exact Or.inl rfl
  · exact Or.inr rfl

/-- A frame goes out where a number is used. -/
theorem tkipSend_isSome (tkey : TkipData) (f : Mpdu) :
    (tkipSend prim tkey f).isSome = true ↔ tkipEvent prim tkey f = .use := by
  unfold tkipSend tkipEvent
  split_ifs <;> simp

/-- It carries that number. -/
theorem tkipSend_tsc {tkey : TkipData} {f : Mpdu} (huse : tkipEvent prim tkey f = .use) :
    (tkipSend prim tkey f).map Sent.tsc = some (tsc tkey.txIv32 tkey.txIv16) := by
  obtain ⟨x, hx⟩ := Option.isSome_iff_exists.mp ((tkipSend_isSome prim tkey f).mpr huse)
  obtain ⟨h32, h16, -⟩ := tkipSend_some prim hx
  rw [hx, Option.map_some, Sent.tsc, h32, h16]

theorem tkipSend_none {tkey : TkipData} {f : Mpdu} (h : tkipEvent prim tkey f = .rest) :
    tkipSend prim tkey f = none := by
  simpa [h] using tkipSend_isSome prim tkey f

theorem tkipTx_counts : Epochs.Counts (tkipTx prim) (tkipEvent prim) (fun tkey => some tkey.tk)
    (fun tkey => tsc tkey.txIv32 tkey.txIv16) 1 (2 ^ 48 - 1) where
  install := by
    intro tkey f k h
    unfold tkipEvent at h
    split_ifs at h
  remove := by
    intro tkey f h
    unfold tkipEvent at h
    split_ifs at h
  use := by
    intro tkey f h hlt
    obtain ⟨hneg, -⟩ | ⟨-, htx, -⟩ := tkipEncrypt_cases prim f tkey
    · rw [tkipEvent, hneg] at h
      cases h
    · rw [htx]
      exact ⟨rfl, tsc_next _ _ hlt⟩
  rest := by
    intro tkey f h
    obtain ⟨-, htx⟩ | ⟨hret, -, -⟩ := tkipEncrypt_cases prim f tkey
    · rw [htx]
      exact ⟨rfl, rfl⟩
    · rw [tkipEvent, hret] at h
      cases h

/-- Frames of one transmitter: the `k`-th carries the TSC `k`, as the receiver
reads it, and is encrypted under the key of that; and no two have one TSC. -/
structure TkipNumbered (tk : List UInt8) (idx : KeyIdx) (ta : Mac) (xs : List Sent) : Prop where
  frames : ∀ k x, xs[k]? = some x → x.tsc = k + 1 ∧
    x.out.data = tkipFrame prim tk idx (tkipMixingPhase1 tk ta (tscHi (k + 1))) (tscHi (k + 1))
      (tscLo (k + 1)) x.hdr x.payload
  distinct : (xs.map Sent.tsc).Nodup

variable {tkey : TkipData} {fs : List Mpdu}

theorem tkipSent_numbers (hone : tsc tkey.txIv32 tkey.txIv16 = 1)
    (hlen : (tkipSent prim tkey fs).length < 2 ^ 48 - 1) :
    (tkipSent prim tkey fs).map Sent.tsc = List.range' 1 (tkipSent prim tkey fs).length := by
  have hlength : (tkipSent prim tkey fs).length = _ :=
    Epochs.length_outputs (tkipSend_isSome prim) tkey fs
  have hmap : (tkipSent prim tkey fs).map Sent.tsc =
      (List.range' (tsc tkey.txIv32 tkey.txIv16)
        (Epochs.uses (Epochs.events (tkipTx prim) (tkipEvent prim) tkey fs))).map fun n => n :=
    (tkipTx_counts prim).outputs_eq (tkipEvent_or prim) (fun _ _ _ => tkipSend_tsc prim)
      (fun _ _ => tkipSend_none prim) tkey fs (by rw [← hlength, hone]; omega)
  rw [hmap, hone, ← hlength, List.map_id']

theorem tkipSent_frames {ta : Mac} (hta : ∀ f ∈ fs, addr2 f.skb.data = ta) (hkept : TxKept ta tkey) :
    ∀ x ∈ tkipSent prim tkey fs, x.out.data = tkipFrame prim tkey.key tkey.keyIdx
      (tkipMixingPhase1 tkey.key ta x.iv32) x.iv32 x.iv16 x.hdr x.payload := by
  let inv : TkipData → Prop := fun s => s.key = tkey.key ∧ s.keyIdx = tkey.keyIdx ∧ TxKept ta s
  have hstep : ∀ s f, inv s → addr2 f.skb.data = ta → inv (tkipTx prim s f) := by
    intro s f hinv hf
    obtain ⟨hkey, hidx, -⟩ := tkipTx_same prim s f
    exact ⟨hkey.trans hinv.1, hidx.trans hinv.2.1, hinv.2.2.tkipTx prim hf⟩
  refine Run.forall_outputs hstep (fun s f hinv hf x hx => ?_) tkey fs ⟨rfl, rfl, hkept⟩
    (Run.allSteps_of_forall _ hta)
  obtain ⟨h32, -, hout⟩ := tkipSend_some prim hx
  rw [hf, hinv.2.2.txPhase1, ← h32, hinv.1, hinv.2.1] at hout
  exact hout

/-- **The transmit counter counts the frames**, and the first phase is that of
each frame's counter. -/
theorem tkip_counter_frames (ta : Mac) (tk : List UInt8) (hk : tk.length = tkipKeyLen)
    (seq : Option (List UInt8)) (t : TkipData) (fs : List Mpdu)
    (hta : ∀ f ∈ fs, addr2 f.skb.data = ta)
    (hn : (tkipSent prim (tkipSetKey tk seq t).2 fs).length < 2 ^ 48 - 1) :
    TkipNumbered prim tk t.keyIdx ta (tkipSent prim (tkipSetKey tk seq t).2 fs) := by
  have hset : (tkipSetKey tk seq t).2.key = tk ∧ (tkipSetKey tk seq t).2.keyIdx = t.keyIdx ∧
      tsc (tkipSetKey tk seq t).2.txIv32 (tkipSetKey tk seq t).2.txIv16 = 1 ∧
      TxKept ta (tkipSetKey tk seq t).2 := by
    unfold tkipSetKey
    dsimp only
    rw [if_pos hk]
    exact ⟨rfl, rfl, (by decide : tsc 0 1 = 1), fun hdone => by cases hdone⟩
  obtain ⟨hkey, hidx, hone, hkept⟩ := hset
  have hnumbers := tkipSent_numbers prim hone hn
  have hframes := tkipSent_frames prim hta hkept
  rw [hkey, hidx] at hframes
  refine ⟨fun k x hx => ?_, ?_⟩
  · have htsc : x.tsc = k + 1 := by
      have hget := congrArg (·[k]?) hnumbers
      simp only [List.getElem?_map, hx, Option.map_some] at hget
      rw [List.getElem?_range' (List.getElem?_eq_some_iff.mp hx).1] at hget
      have := Option.some.inj hget
      omega
    refine ⟨htsc, ?_⟩
    have hout := hframes x (List.mem_of_getElem? hx)
    rw [← htsc, Sent.tsc, tscHi_tsc, tscLo_tsc]
    exact hout
  · rw [hnumbers]
    exact List.nodup_range'

/-- Two frames under a key, the second after a refused buffer. -/
theorem tkip_counter_two : TkipNumbered linuxPrimitives (List.replicate tkipKeyLen 7) 1
    ⟨3, 3, 3, 3, 3, 3⟩ (tkipSent linuxPrimitives
      (tkipSetKey (List.replicate tkipKeyLen 7) none (tkipInit 1)).2
      [⟨⟨8, List.replicate 28 3, List.replicate 8 0⟩, 24⟩, ⟨⟨0, List.replicate 28 3, []⟩, 24⟩,
        ⟨⟨8, List.replicate 24 3, List.replicate 8 0⟩, 24⟩]) :=
  tkip_counter_frames linuxPrimitives ⟨3, 3, 3, 3, 3, 3⟩ _ (by decide) none (tkipInit 1) _ (by decide)
    (Nat.lt_of_le_of_lt (Run.length_outputs_le _ _) (by decide))

end

end Rtl8187

/-
# The transmit counter `get_key` reports

A supplicant asks for the number of the last frame that was sent under a key.
The context of CCMP keeps this number, that of TKIP the next one; so
`ieee80211_tkip_get_key` steps its counter back, and then writes the counter
it has not stepped.

Key definitions: `tkipGetKey`, `ccmpGetKey`, `Transmitter`, `Reports`.
Key theorems: `tkip_next`, `ccmp_last`, `reports_iff`, `lastTsc_tkip`.
-/
import Rtl8187.TkipNumbers

namespace Rtl8187

open Bytes

/-! ### The operations -/

/-- What `get_key` returns, the two buffers after it, and the context. -/
structure GetKeyRes (P : Type) where
  ret : Int
  key : List UInt8
  seq : Option (List UInt8)
  priv : P

/-- The bytes written over the start of a buffer. -/
def overwrite (bs buf : List UInt8) : List UInt8 := bs ++ buf.drop bs.length

/-- `iv32` and `iv16` of `ieee80211_tkip_get_key`, the counter stepped back. -/
def TkipData.lastTsc (tkey : TkipData) : UInt32 × UInt16 :=
  (if tkey.txIv16 = 0 then tkey.txIv32 - 1 else tkey.txIv32, tkey.txIv16 - 1)

/-- `ieee80211_tkip_get_key`. It computes `lastTsc`, which it does not write. -/
def tkipGetKey (key : List UInt8) (len : Int) (seq : Option (List UInt8)) (tkey : TkipData) :
    GetKeyRes TkipData :=
  if len < tkipKeyLen then ⟨-1, key, seq, tkey⟩
  else if !tkey.keySet then ⟨0, key, seq, tkey⟩
  else ⟨tkipKeyLen, overwrite tkey.key key,
    seq.map (overwrite (le16 tkey.txIv16 ++ le32 tkey.txIv32)), tkey⟩

/-- `ieee80211_ccmp_get_key` -/
def ccmpGetKey (key : List UInt8) (len : Int) (seq : Option (List UInt8)) (data : CcmpData) :
    GetKeyRes CcmpData :=
  if len < ccmpTkLen then ⟨-1, key, seq, data⟩
  else if !data.keySet then ⟨0, key, seq, data⟩
  else ⟨ccmpTkLen, overwrite data.key key, seq.map (overwrite data.txPn.bytes.reverse), data⟩

/-- A cipher that numbers its frames. -/
structure Transmitter (C : Type) where
  keyLen : ℕ
  setKey : List UInt8 → Option (List UInt8) → C → Int × C
  tx : C → Mpdu → C
  send : C → Mpdu → Option Sent
  /-- The counter of a frame, as a receiver reads it. -/
  number : Sent → ℕ
  getKey : List UInt8 → Int → Option (List UInt8) → C → GetKeyRes C

def tkipTransmitter (prim : Primitives) : Transmitter TkipData where
  keyLen := tkipKeyLen
  setKey := tkipSetKey
  tx := tkipTx prim
  send := tkipSend prim
  number := Sent.tsc
  getKey := tkipGetKey

def ccmpTransmitter (prim : Primitives) : Transmitter CcmpData where
  keyLen := ccmpTkLen
  setKey := ccmpSetKey
  tx := ccmpTx prim
  send := ccmpSend prim
  number x := x.pn.toNat
  getKey := ccmpGetKey

namespace Transmitter

variable {C : Type} (T : Transmitter C)

/-- The context after a `set_key` and calls of `encrypt_mpdu`. -/
def after (key : List UInt8) (rsc : Option (List UInt8)) (c : C) (fs : List Mpdu) : C :=
  Run.run T.tx (T.setKey key rsc c).2 fs

/-- The frames these encrypt. -/
def sent (key : List UInt8) (rsc : Option (List UInt8)) (c : C) (fs : List Mpdu) : List Sent :=
  Run.outputs T.tx T.send (T.setKey key rsc c).2 fs

/-- `get_key` after them writes the counter of the last frame to the six bytes of
`seq`, least significant byte first, and leaves the context alone. -/
def Reports (key : List UInt8) (rsc : Option (List UInt8)) (c : C) (fs : List Mpdu)
    (keybuf : List UInt8) (len : Int) (seq : List UInt8) : Prop :=
  let res := T.getKey keybuf len (some seq) (T.after key rsc c fs)
  ∃ x out, (T.sent key rsc c fs).getLast? = some x ∧ res.seq = some out ∧
    pack (out.take 6) = T.number x ∧ out.drop 6 = seq.drop 6 ∧ res.priv = T.after key rsc c fs

end Transmitter

/-- The two ciphers with a transmit counter. -/
inductive CounterCipher where
  | tkip
  | ccmp

namespace CounterCipher

abbrev Ctx : CounterCipher → Type
  | tkip => TkipData
  | ccmp => CcmpData

def transmitter (prim : Primitives) : (cipher : CounterCipher) → Transmitter cipher.Ctx
  | tkip => tkipTransmitter prim
  | ccmp => ccmpTransmitter prim

end CounterCipher

/-! ### The six bytes -/

/-- Big-endian bytes, the other way round. -/
theorem pack_reverse : ∀ bs : List UInt8, pack bs.reverse = beNat bs
  | [] => rfl
  | b :: bs => by
    have ih := pack_reverse bs
    have hone : pack [b] = b.toNat := by simp [pack]
    rw [List.reverse_cons, pack_append, ih, hone, List.length_reverse, beNat]
    ring

theorem pack_tsc (iv32 : UInt32) (iv16 : UInt16) : pack (le16 iv16 ++ le32 iv32) = tsc iv32 iv16 := by
  have hlo : pack (le16 iv16) = iv16.toNat := by
    have h := hi8_toNat iv16
    have h' := lo8_toNat iv16
    simp only [le16, pack, h, h']
    omega
  have hhi : pack (le32 iv32) = iv32.toNat := by
    have hlt := iv32.toNat_lt
    simp [le32, pack, Nat.shiftRight_eq_div_pow]
    omega
  rw [pack_append, hlo, hhi, tsc]
  simp [le16]
  ring

/-! ### The last frame -/

/-- The halves of the counter count up modulo 2⁴⁸. -/
theorem tsc_next_mod (iv32 : UInt32) (iv16 : UInt16) :
    tsc (if iv16 + 1 = 0 then iv32 + 1 else iv32) (iv16 + 1) = (tsc iv32 iv16 + 1) % 2 ^ 48 := by
  have h32 := iv32.toNat_lt
  have h16 := iv16.toNat_lt
  by_cases hlast : tsc iv32 iv16 < 2 ^ 48 - 1
  · rw [tsc_next iv32 iv16 hlast, Nat.mod_eq_of_lt (by omega)]
  · have hmax : iv32.toNat = 2 ^ 32 - 1 ∧ iv16.toNat = 2 ^ 16 - 1 := by
      unfold tsc at hlast
      omega
    have hiv32 : iv32 = 0xFFFFFFFF := UInt32.toNat_inj.mp hmax.1
    have hiv16 : iv16 = 0xFFFF := UInt16.toNat_inj.mp hmax.2
    rw [hiv32, hiv16]
    decide

section

variable (prim : Primitives)

/-- The context of TKIP holds the number after that of its last frame. -/
theorem tkip_next (s : TkipData) (fs : List Mpdu) {x : Sent}
    (h : (tkipSent prim s fs).getLast? = some x) :
    tsc (Run.run (tkipTx prim) s fs).txIv32 (Run.run (tkipTx prim) s fs).txIv16 =
      (x.tsc + 1) % 2 ^ 48 := by
  refine @Run.getLast_outputs _ _ (tkipTx prim) _ (tkipSend prim)
    (fun s x => tsc s.txIv32 s.txIv16 = (x.tsc + 1) % 2 ^ 48) ?_ ?_ s fs x h
  · intro s f x hx
    obtain ⟨h32, h16, -⟩ := tkipSend_some prim hx
    rcases tkipEncrypt_cases prim f s with ⟨hneg, -⟩ | ⟨-, htx, -⟩
    · rw [tkipSend, hneg] at hx
      cases hx
    · rw [htx, Sent.tsc, h32, h16]
      exact tsc_next_mod s.txIv32 s.txIv16
  · intro s f x hx hs
    rcases tkipEncrypt_cases prim f s with ⟨-, htx⟩ | ⟨hret, -, -⟩
    · rw [htx]
      exact hs
    · rw [tkipSend, hret] at hx
      cases hx

/-- That of CCMP holds the number itself. -/
theorem ccmp_last (s : CcmpData) (fs : List Mpdu) {x : Sent}
    (h : (ccmpSent prim s fs).getLast? = some x) : (Run.run (ccmpTx prim) s fs).txPn = x.pn := by
  refine @Run.getLast_outputs _ _ (ccmpTx prim) _ (ccmpSend prim) (fun s x => s.txPn = x.pn) ?_ ?_ s fs x h
  · intro s f x hx
    obtain ⟨-, hpn, -⟩ := ccmpSend_some prim hx
    rcases ccmpEncrypt_cases prim f s with ⟨hneg, -, -⟩ | ⟨-, htx, -⟩
    · rw [ccmpSend, hneg] at hx
      cases hx
    · rw [htx, hpn]
  · intro s f x hx hs
    rcases ccmpEncrypt_cases prim f s with ⟨-, -, htx⟩ | ⟨hret, -, -⟩
    · rw [htx]
      exact hs
    · rw [ccmpSend, hret] at hx
      cases hx

theorem tsc_lt (iv32 : UInt32) (iv16 : UInt16) : tsc iv32 iv16 < 2 ^ 48 := by
  have h32 := iv32.toNat_lt
  have h16 := iv16.toNat_lt
  unfold tsc
  omega

/-- The counter `ieee80211_tkip_get_key` steps back, and drops, is that of the
last frame. -/
theorem lastTsc_tkip (s : TkipData) (fs : List Mpdu) {x : Sent}
    (h : (tkipSent prim s fs).getLast? = some x) :
    tsc (Run.run (tkipTx prim) s fs).lastTsc.1 (Run.run (tkipTx prim) s fs).lastTsc.2 = x.tsc := by
  have hnext := tkip_next prim s fs h
  set c := Run.run (tkipTx prim) s fs
  have hiv16 : c.lastTsc.2 + 1 = c.txIv16 := UInt16.sub_add_cancel c.txIv16 1
  have hiv32 : (if c.txIv16 = 0 then c.lastTsc.1 + 1 else c.lastTsc.1) = c.txIv32 := by
    unfold TkipData.lastTsc
    by_cases hzero : c.txIv16 = 0
    · rw [if_pos hzero, if_pos hzero]
      exact UInt32.sub_add_cancel c.txIv32 1
    · rw [if_neg hzero, if_neg hzero]
  have hstep := tsc_next_mod c.lastTsc.1 c.lastTsc.2
  rw [hiv16, hiv32, hnext] at hstep
  have hx := tsc_lt x.iv32 x.iv16
  have hlast := tsc_lt c.lastTsc.1 c.lastTsc.2
  unfold Sent.tsc at hstep ⊢
  omega

/-! ### What `get_key` reports -/

/-- The calls after a `set_key` keep the key. -/
theorem keySet_tkip {key : List UInt8} (hkey : key.length = tkipKeyLen) (rsc : Option (List UInt8))
    (c : TkipData) (fs : List Mpdu) :
    (Run.run (tkipTx prim) (tkipSetKey key rsc c).2 fs).keySet = true := by
  have hset : (tkipSetKey key rsc c).2.keySet = true := by
    unfold tkipSetKey
    dsimp only
    rw [if_pos hkey]
  exact Run.inv_run (fun s f (h : s.keySet = true) _ => (tkipTx_same prim s f).2.2.trans h) _ fs hset
    (Run.allSteps_true _ fs)

theorem keySet_ccmp {key : List UInt8} (hkey : key.length = ccmpTkLen) (rsc : Option (List UInt8))
    (c : CcmpData) (fs : List Mpdu) :
    (Run.run (ccmpTx prim) (ccmpSetKey key rsc c).2 fs).keySet = true := by
  have hset : (ccmpSetKey key rsc c).2.keySet = true := by
    unfold ccmpSetKey
    dsimp only
    rw [if_pos hkey]
  exact Run.inv_run (fun s f (h : s.keySet = true) _ => (ccmpTx_same prim s f).2.2.trans h) _ fs hset
    (Run.allSteps_true _ fs)

theorem overwrite_take {bs buf : List UInt8} {n : ℕ} (h : bs.length = n) :
    (overwrite bs buf).take n = bs := List.take_left' h

theorem overwrite_drop {bs buf : List UInt8} {n : ℕ} (h : bs.length = n) :
    (overwrite bs buf).drop n = buf.drop n := by
  rw [overwrite, List.drop_left' h, h]

variable {keybuf seq : List UInt8} {len : Int}

/-- With a key and room for it, `get_key` writes the counter of the context. -/
theorem tkipGetKey_set {tkey : TkipData} (hset : tkey.keySet = true) (hlen : (tkipKeyLen : Int) ≤ len) :
    tkipGetKey keybuf len (some seq) tkey = ⟨tkipKeyLen, overwrite tkey.key keybuf,
      some (overwrite (le16 tkey.txIv16 ++ le32 tkey.txIv32) seq), tkey⟩ := by
  rw [tkipGetKey, if_neg (not_lt.mpr hlen), if_neg (by simp [hset]), Option.map_some]

theorem ccmpGetKey_set {data : CcmpData} (hset : data.keySet = true) (hlen : (ccmpTkLen : Int) ≤ len) :
    ccmpGetKey keybuf len (some seq) data = ⟨ccmpTkLen, overwrite data.key keybuf,
      some (overwrite data.txPn.bytes.reverse seq), data⟩ := by
  rw [ccmpGetKey, if_neg (not_lt.mpr hlen), if_neg (by simp [hset]), Option.map_some]

/-- CCMP reports the number of its last frame. -/
theorem ccmp_reports {key : List UInt8} (hkey : key.length = ccmpTkLen) (rsc : Option (List UInt8))
    (c : CcmpData) (fs : List Mpdu) (hsent : (ccmpTransmitter prim).sent key rsc c fs ≠ [])
    (hlen : (ccmpTkLen : Int) ≤ len) :
    (ccmpTransmitter prim).Reports key rsc c fs keybuf len seq := by
  obtain ⟨x, hx⟩ := Option.isSome_iff_exists.mp (List.getLast?_isSome.mpr hsent)
  have hpn := ccmp_last prim (ccmpSetKey key rsc c).2 fs hx
  have hget := @ccmpGetKey_set keybuf seq len _ (keySet_ccmp prim hkey rsc c fs) hlen
  have hsix : x.pn.bytes.reverse.length = 6 := by rw [List.length_reverse, x.pn.length_eq]
  rw [hpn] at hget
  refine ⟨x, overwrite x.pn.bytes.reverse seq, hx, congrArg GetKeyRes.seq hget, ?_, overwrite_drop hsix,
    congrArg GetKeyRes.priv hget⟩
  calc pack ((overwrite x.pn.bytes.reverse seq).take 6) = pack x.pn.bytes.reverse := by
        rw [overwrite_take hsix]
    _ = beNat x.pn.bytes := pack_reverse _
    _ = x.pn.toNat := x.pn.toNat_eq.symm

/-- TKIP never does: it writes the number after that. -/
theorem tkip_not_reports {key : List UInt8} (hkey : key.length = tkipKeyLen) (rsc : Option (List UInt8))
    (c : TkipData) (fs : List Mpdu) (hlen : (tkipKeyLen : Int) ≤ len) :
    ¬ (tkipTransmitter prim).Reports key rsc c fs keybuf len seq := by
  rintro ⟨x, out, hx, hout, hpack, -, -⟩
  have hnext := tkip_next prim (tkipSetKey key rsc c).2 fs hx
  have hget := @tkipGetKey_set keybuf seq len _ (keySet_tkip prim hkey rsc c fs) hlen
  set s := Run.run (tkipTx prim) (tkipSetKey key rsc c).2 fs
  have hwritten : overwrite (le16 s.txIv16 ++ le32 s.txIv32) seq = out :=
    Option.some.inj ((congrArg GetKeyRes.seq hget).symm.trans hout)
  have hsix : (le16 s.txIv16 ++ le32 s.txIv32).length = 6 := rfl
  have hlt := tsc_lt x.iv32 x.iv16
  rw [← hwritten, overwrite_take hsix, pack_tsc, hnext] at hpack
  replace hpack : (x.tsc + 1) % 2 ^ 48 = x.tsc := hpack
  unfold Sent.tsc at hpack
  omega

/-- **The reported counter.** After a `set_key` and frames sent, `get_key` reports
the counter of the last one exactly where the cipher is CCMP. -/
theorem reports_iff (cipher : CounterCipher) {key : List UInt8}
    (hkey : key.length = (cipher.transmitter prim).keyLen) (rsc : Option (List UInt8)) (c : cipher.Ctx)
    (fs : List Mpdu) (hsent : (cipher.transmitter prim).sent key rsc c fs ≠ [])
    (hlen : ((cipher.transmitter prim).keyLen : Int) ≤ len) :
    (cipher.transmitter prim).Reports key rsc c fs keybuf len seq ↔ cipher = .ccmp := by
  cases cipher with
  | tkip => exact iff_of_false (tkip_not_reports prim hkey rsc c fs hlen) (fun h => by cases h)
  | ccmp => exact iff_of_true (ccmp_reports prim hkey rsc c fs hsent hlen) rfl

end

/-- A frame of 24 bytes of header and four of payload, with room around it. -/
def roomyMpdu : Mpdu := ⟨⟨8, List.replicate 28 3, List.replicate 8 0⟩, 24⟩

/-- One frame under a key of CCMP. -/
theorem reports_iff_ccmp :
    ((CounterCipher.transmitter linuxPrimitives .ccmp).Reports (List.replicate 16 7) none (ccmpInit 0)
      [roomyMpdu] (List.replicate 32 0) 32 (List.replicate 6 0) ↔ CounterCipher.ccmp = .ccmp) :=
  reports_iff linuxPrimitives .ccmp (by decide) none (ccmpInit 0) [roomyMpdu] (by decide +kernel) (by decide)

/-- One frame under a key of TKIP. -/
theorem tkip_unreported : ¬ ∀ (prim : Primitives) (cipher : CounterCipher) (key : List UInt8)
    (rsc : Option (List UInt8)) (c : cipher.Ctx) (fs : List Mpdu) (keybuf : List UInt8) (len : Int)
    (seq : List UInt8), key.length = (cipher.transmitter prim).keyLen →
      (cipher.transmitter prim).sent key rsc c fs ≠ [] →
        ((cipher.transmitter prim).keyLen : Int) ≤ len →
          (cipher.transmitter prim).Reports key rsc c fs keybuf len seq := by
  intro h
  have hone := h linuxPrimitives .tkip (List.replicate 32 7) none (tkipInit 0) [roomyMpdu]
    (List.replicate 32 0) 32 (List.replicate 6 0) (by decide) (by intro h; cases h) (by decide)
  exact tkip_not_reports linuxPrimitives (by decide) none (tkipInit 0) [roomyMpdu] (by decide) hone

end Rtl8187

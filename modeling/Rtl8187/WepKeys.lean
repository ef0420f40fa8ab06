/-
# WEP keys set and read back

`ieee80211_wx_set_encode` copies the key of a request into a row of its own
`struct ieee80211_security`, pads it with zeros to 5 or 13 bytes, and gives these
to `prism2_wep_set_key`; `ieee80211_wx_get_encode` reads the copy of the cipher.
The rows have 32 bytes, and the length of a request goes up to
`IW_ENCODING_TOKEN_MAX`, which is 64: nothing compares the two.

What is written is a list of stores, to `sec.keys` by the offset in it, and to
`wep->key` (`encodeStores`). What the stores leave in `wep->key` is the key the
model of `KeyConfig` has (`wepKey_image`).

Key definitions: `wxGetEncode`, `encodeStores`, `CopiesKey`, `EncodeKept`.
Key theorems: `wxSetEncode_sets`, `wepKey_image`, `readsBack`, `encodeKept_iff`.
-/
import Rtl8187.Lib.MemOps
import Rtl8187.KeyAtomic
import Rtl8187.KeyCounters

namespace Rtl8187

open Bytes MemOps

/-! ### `ieee80211_wx_get_encode` -/

/-- `IW_ENCODE_ENABLED` -/
def iwEncodeEnabled : UInt16 := 0x0000

/-- `IW_ENCODE_OPEN` -/
def iwEncodeOpen : UInt16 := 0x2000

/-- `prism2_wep_get_key` -/
def prism2WepGetKey (key : List UInt8) (len : Int) (seq : Option (List UInt8)) (wep : WepData) :
    GetKeyRes WepData :=
  if len < wep.key.length then ⟨-1, key, seq, wep⟩
  else ⟨wep.key.length, overwrite wep.key key, seq, wep⟩

/-- What `SIOCGIWENCODE` returns, and the `struct iw_point` and the bytes behind it
after it. -/
structure EncodeAnswer where
  ret : Int
  flags : UInt16
  length : ℕ
  keybuf : List UInt8
  deriving DecidableEq

/-- `ieee80211_wx_get_encode`. In monitor mode it answers nothing. -/
def KeyConfig.wxGetEncode (k : KeyConfig) (flags : UInt16) (length : ℕ) (keybuf : List UInt8) :
    EncodeAnswer :=
  if k.iwMode = .monitor then ⟨-1, flags, length, keybuf⟩
  else
    match namedSlot flags k.txKeyidx with
    | none => ⟨einval, flags, length, keybuf⟩
    | some key =>
      let flags := UInt16.ofNat (key + 1)
      match (k.slot key).map (·.priv) with
      | none => ⟨0, flags ||| iwEncodeDisabled, 0, keybuf⟩
      | some (.wep d) =>
        let res := prism2WepGetKey keybuf wepKeyLen none d
        ⟨0, flags ||| iwEncodeEnabled ||| (if k.openWep then iwEncodeOpen else iwEncodeRestricted),
          if 0 ≤ res.ret then res.ret.toNat else 0, res.key⟩
      -- only WEP is supported with wireless extensions
      | some _ => ⟨0, flags ||| iwEncodeEnabled, 0, keybuf⟩

/-! ### What `ieee80211_wx_set_encode` stores -/

/-- `ALG_KEY_LEN` -/
def algKeyLen : ℕ := 32

/-- The offset of `sec.keys[key]` in `sec.keys`. -/
def rowOf (key : KeyIdx) : ℕ := key * algKeyLen

/-- `memcpy` of the key to its row, and `memset` of what is missing to `len`. -/
def rowStores (key : KeyIdx) (bytes : List UInt8) (len : ℕ) : List (Store UInt8) :=
  copy (rowOf key) bytes.length (at8 bytes) ++
    copy (rowOf key + bytes.length) (len - bytes.length) fun _ => 0

/-- `memcpy` of `prism2_wep_set_key`, if the key is not too long for it. -/
def wepKeyStores (len : ℕ) (src : ℕ → UInt8) : List (Store UInt8) :=
  if len ≤ wepKeyLen then copy 0 len src else []

/-- The stores to `sec.keys`, and those to the `key` of the cipher context. -/
structure EncodeStores where
  keys : List (Store UInt8)
  wepKey : List (Store UInt8)

/-- The key of a WEP context. -/
def Priv.wepKey : Priv → List UInt8
  | .wep d => d.key
  | _ => []

namespace KeyConfig

/-- A context of another module leaves the slot. -/
def dropOther (k : KeyConfig) (key : KeyIdx) : KeyConfig :=
  if (k.slot key).any (·.priv.cipher.name != "WEP") then k.delayedDeinit key else k

/-- What a row holds when `set_key` gets it; `sec` starts as zeros. -/
def rowAfter (keys : List (Store UInt8)) (key : KeyIdx) (i : ℕ) : UInt8 :=
  run (fun _ => 0) keys (rowOf key + i)

/-- `ieee80211_wx_set_encode`, of which only the stores to the two arrays. -/
def encodeStores (env : KeyEnv) (k : KeyConfig) (req : EncodeRequest) : EncodeStores :=
  match namedSlot req.flags k.txKeyidx with
  | none => ⟨[], []⟩
  | some key =>
    if req.flags &&& iwEncodeDisabled ≠ 0 then ⟨[], []⟩
    else
      let (ret, k) := takeWep env (k.dropOther key) key
      if ret ≠ 0 then ⟨[], []⟩
      else if 0 < req.key.length then
        let len := if req.key.length ≤ 5 then 5 else 13
        let keys := rowStores key req.key len
        ⟨keys, wepKeyStores len (rowAfter keys key)⟩
      else
        -- `get_key` into the row
        let old := (k.slot key).elim [] (·.priv.wepKey)
        let keys := copy (rowOf key) old.length (at8 old)
        if old.length = 0 then
          let keys := keys ++ copy (rowOf key) 13 fun _ => 0
          ⟨keys, wepKeyStores 13 (rowAfter keys key)⟩
        else ⟨keys, []⟩

/-! ### WEP in the slot -/

/-- The slot has a WEP context, or one can be made. -/
def CanTakeWep (env : KeyEnv) (k : KeyConfig) (key : KeyIdx) : Prop :=
  k.Has key .wep ∨ env.alloc = true ∧ env.registered .wep = true ∧ env.init = true

section

variable {env : KeyEnv} {k : KeyConfig} {key : KeyIdx}

theorem name_wep_iff (cipher : Cipher) : (cipher.name != "WEP") = true ↔ cipher ≠ .wep := by
  cases cipher <;> decide

theorem wep_of_cipher {priv : Priv} (h : priv.cipher = .wep) : ∃ d, priv = .wep d := by
  cases priv with
  | wep d => exact ⟨d, rfl⟩
  | null => cases h
  | tkip d => cases h
  | ccmp d => cases h

/-- A WEP context stays in its slot. -/
theorem dropOther_wep (h : k.Has key .wep) : k.dropOther key = k := by
  obtain ⟨c, hc, hcipher⟩ := h
  unfold dropOther
  rw [Option.mem_def.mp hc, if_neg]
  simp [hcipher, Cipher.name]

/-- Any other leaves it empty. -/
theorem crypt_dropOther (h : ¬ k.Has key .wep) : (k.dropOther key).crypt key = none := by
  unfold dropOther
  cases hslot : k.slot key with
  | none =>
    have hnone : k.crypt key = none := Option.map_eq_none_iff.mp hslot
    simpa using hnone
  | some c =>
    have hother : c.priv.cipher ≠ .wep := fun hwep => h ⟨c, hslot, hwep⟩
    have hany : (some c).any (·.priv.cipher.name != "WEP") = true := (name_wep_iff _).mpr hother
    rw [if_pos hany]
    exact crypt_delayedDeinit k key

theorem settings_dropOther (k : KeyConfig) (key : KeyIdx) : (k.dropOther key).iwMode = k.iwMode := by
  unfold dropOther delayedDeinit
  split_ifs
  · split <;> rfl
  · rfl

theorem iwMode_takeWep (env : KeyEnv) (k : KeyConfig) (key : KeyIdx) :
    (takeWep env k key).2.iwMode = k.iwMode := by
  unfold takeWep
  split_ifs <;> rfl

/-- Where WEP can be taken into use, the slot then has a context of it. -/
theorem takeWep_ok (h : CanTakeWep env k key) : (takeWep env (k.dropOther key) key).1 = 0 ∧
    ∃ i d, (takeWep env (k.dropOther key) key).2.crypt key = some i ∧
      ((takeWep env (k.dropOther key) key).2.contexts i).priv = .wep d := by
  by_cases hhas : k.Has key .wep
  · rw [dropOther_wep hhas]
    obtain ⟨c, hc, hcipher⟩ := hhas
    obtain ⟨i, hi, rfl⟩ := Option.map_eq_some_iff.mp hc
    obtain ⟨d, hd⟩ := wep_of_cipher hcipher
    have hsome : (k.crypt key).isSome = true := by rw [hi]; rfl
    rw [takeWep, if_pos hsome]
    exact ⟨rfl, i, d, hi, hd⟩
  · obtain ⟨halloc, hreg, hinit⟩ := h.resolve_left hhas
    have hnone := crypt_dropOther hhas
    rw [takeWep, hnone, if_neg (by simp), if_neg (by simp [halloc]), if_neg (by simp [hreg, hinit])]
    refine ⟨rfl, (k.dropOther key).nextCtx, ⟨env.iv, [], key, Nat.zero_le _⟩, Function.update_self .., ?_⟩
    show (Function.update (k.dropOther key).contexts (k.dropOther key).nextCtx _ _).priv = _
    rw [Function.update_self]
    rfl

/-- Where it cannot, the request fails. -/
theorem takeWep_fails (h : ¬ CanTakeWep env k key) : (takeWep env (k.dropOther key) key).1 ≠ 0 := by
  obtain ⟨hhas, hmake⟩ := not_or.mp h
  have hnone := crypt_dropOther hhas
  rw [takeWep, hnone, if_neg (by simp)]
  split_ifs with halloc hinit
  · exact (by decide : enomem ≠ 0)
  · exact (by decide : eopnotsupp ≠ 0)
  · refine absurd ⟨by simpa using halloc, ?_⟩ hmake
    simpa using hinit

end

/-! ### The key the cipher gets -/

/-- The key of a request, padded with zeros to 5 or 13 bytes. -/
def padded (key : List UInt8) : List UInt8 :=
  (key ++ List.replicate 13 0).take (if key.length ≤ 5 then 5 else 13)

theorem length_padded (key : List UInt8) :
    (padded key).length = if key.length ≤ 5 then 5 else 13 := by
  unfold padded
  rw [List.length_take, List.length_append, List.length_replicate]
  split_ifs <;> omega

section

variable {env : KeyEnv} {k : KeyConfig} {req : EncodeRequest} {key : KeyIdx}

/-- The key of the request reaches the row of its slot. -/
def CopiesKey (env : KeyEnv) (k : KeyConfig) (req : EncodeRequest) : Prop :=
  ∃ key, namedSlot req.flags k.txKeyidx = some key ∧ req.flags &&& iwEncodeDisabled = 0 ∧
    CanTakeWep env k key ∧ 0 < req.key.length

/-- A request that sets a key succeeds, and the slot is then that for sending and
has the padded key. -/
theorem wxSetEncode_sets (hkey : namedSlot req.flags k.txKeyidx = some key)
    (hon : req.flags &&& iwEncodeDisabled = 0) (htake : CanTakeWep env k key) (hpos : 0 < req.key.length) :
    (wxSetEncode env k req).1 = 0 ∧ (wxSetEncode env k req).2.txKeyidx = key ∧
      (wxSetEncode env k req).2.iwMode = k.iwMode ∧
      ∃ d, ((wxSetEncode env k req).2.slot key).map (·.priv) = some (.wep d) ∧ d.key = padded req.key := by
  obtain ⟨hok, i, d, hi, hd⟩ := takeWep_ok htake
  have hmode := (iwMode_takeWep env (k.dropOther key) key).trans (settings_dropOther k key)
  have heq : wxSetEncode env k req =
      (0, { ((takeWep env (k.dropOther key) key).2.setKey key (padded req.key) none).2 with
        txKeyidx := key, openWep := req.flags &&& iwEncodeRestricted == 0 }) := by
    unfold wxSetEncode
    rw [hkey]
    dsimp only
    rw [if_neg (not_not.mpr hon)]
    show (if (takeWep env (k.dropOther key) key).1 ≠ 0 then _ else _) = _
    rw [if_neg (not_not.mpr hok), if_pos hpos]
    rfl
  have hlen : (padded req.key).length ≤ wepKeyLen := by
    rw [length_padded]
    split_ifs <;> decide
  have hset : (takeWep env (k.dropOther key) key).2.setKey key (padded req.key) none =
      (0, (takeWep env (k.dropOther key) key).2.setPriv i
        (.wep { d with key := padded req.key, key_le := hlen })) := by
    rw [setKey, hi]
    dsimp only
    rw [hd, Priv.setKey, prism2WepSetKey, dif_pos hlen]
  rw [heq, hset]
  refine ⟨rfl, rfl, hmode, { d with key := padded req.key, key_le := hlen }, ?_, rfl⟩
  have hslot := slot_setPriv hi (.wep { d with key := padded req.key, key_le := hlen })
  show ((setPriv _ i _).slot key).map (·.priv) = _
  rw [hslot, Option.map_some]

/-- A request for a slot that does not succeed in setting one fails, if it is not
to disable it. -/
theorem wxSetEncode_fails (hkey : namedSlot req.flags k.txKeyidx = some key)
    (hon : req.flags &&& iwEncodeDisabled = 0) (htake : ¬ CanTakeWep env k key) :
    (wxSetEncode env k req).1 ≠ 0 := by
  have hfail := takeWep_fails htake
  unfold wxSetEncode
  rw [hkey]
  dsimp only
  rw [if_neg (not_not.mpr hon)]
  show (if (takeWep env (k.dropOther key) key).1 ≠ 0 then _ else _ : Int × KeyConfig).1 ≠ 0
  rw [if_pos hfail]
  exact hfail

/-- The stores of a request that sets a key. -/
theorem encodeStores_sets (hkey : namedSlot req.flags k.txKeyidx = some key)
    (hon : req.flags &&& iwEncodeDisabled = 0) (htake : CanTakeWep env k key) (hpos : 0 < req.key.length) :
    encodeStores env k req = ⟨rowStores key req.key (padded req.key).length,
      wepKeyStores (padded req.key).length
        (rowAfter (rowStores key req.key (padded req.key).length) key)⟩ := by
  have hok := (takeWep_ok htake).1
  unfold encodeStores
  rw [hkey]
  dsimp only
  rw [if_neg (not_not.mpr hon)]
  show (if (takeWep env (k.dropOther key) key).1 ≠ 0 then _ else _) = _
  rw [if_neg (not_not.mpr hok), if_pos hpos, length_padded]

/-! ### Through the memory -/

theorem at8_padded (bytes : List UInt8) {i : ℕ} (hi : i < (padded bytes).length) :
    at8 (padded bytes) i = if i < bytes.length then at8 bytes i else 0 := by
  have hlen := length_padded bytes
  rw [hlen] at hi
  unfold padded
  rw [at8_take hi]
  by_cases hin : i < bytes.length
  · rw [if_pos hin, at8_append_left _ hin]
  · rw [if_neg hin, at8_append_right _ (not_lt.mp hin), at8, List.getD_replicate]
    split_ifs at hi <;> omega

/-- The row holds the padded key, also where a longer one ran over its end. -/
theorem rowAfter_padded (key : KeyIdx) (bytes : List UInt8) {i : ℕ} (hi : i < (padded bytes).length) :
    rowAfter (rowStores key bytes (padded bytes).length) key i = at8 (padded bytes) i := by
  rw [at8_padded bytes hi]
  unfold rowAfter rowStores
  rw [run_append]
  by_cases hin : i < bytes.length
  · rw [if_pos hin, run_of_not_mem, run_copy _ _ _ hin]
    intro st hst
    have haddr := addr_copy hst
    omega
  · have hoff : rowOf key + i = rowOf key + bytes.length + (i - bytes.length) := by omega
    rw [if_neg hin, hoff, run_copy _ _ _ (by omega)]

/-- **The cipher's copy.** What the stores leave in `wep->key` is the key of the
context in the slot. -/
theorem wepKey_image (hkey : namedSlot req.flags k.txKeyidx = some key)
    (hon : req.flags &&& iwEncodeDisabled = 0) (htake : CanTakeWep env k key) (hpos : 0 < req.key.length)
    (mem : ℕ → UInt8) :
    ∃ d, ((wxSetEncode env k req).2.slot key).map (·.priv) = some (.wep d) ∧
      ∀ i < d.key.length, run mem (encodeStores env k req).wepKey i = at8 d.key i := by
  obtain ⟨-, -, -, d, hslot, hd⟩ := wxSetEncode_sets hkey hon htake hpos
  refine ⟨d, hslot, fun i hi => ?_⟩
  rw [hd] at hi ⊢
  have hle : (padded req.key).length ≤ wepKeyLen := by
    rw [length_padded]
    split_ifs <;> decide
  rw [encodeStores_sets hkey hon htake hpos, wepKeyStores, if_pos hle]
  calc run mem (copy 0 _ _) i = run mem (copy 0 _ _) (0 + i) := by rw [Nat.zero_add]
    _ = rowAfter _ key i := run_copy _ _ _ hi
    _ = at8 (padded req.key) i := rowAfter_padded key req.key hi

/-! ### What a request keeps to -/

/-- The request writes inside the row of its slot, and inside the 13 bytes of the
cipher's key. -/
def StaysInside (env : KeyEnv) (k : KeyConfig) (req : EncodeRequest) : Prop :=
  (∀ st ∈ (encodeStores env k req).keys, ∃ key, namedSlot req.flags k.txKeyidx = some key ∧
    rowOf key ≤ st.addr ∧ st.addr < rowOf key + algKeyLen) ∧
  ∀ st ∈ (encodeStores env k req).wepKey, st.addr < wepKeyLen

/-- After a request that succeeded in setting a key of 1 to 13 bytes, the slot
gives them back, with zeros up to 5 or 13. In monitor mode any request for a key is
refused, and changes nothing. -/
def ReadsBack (env : KeyEnv) (k : KeyConfig) (req : EncodeRequest) : Prop :=
  ∀ key, namedSlot req.flags k.txKeyidx = some key → req.flags &&& iwEncodeDisabled = 0 →
    (wxSetEncode env k req).1 = 0 → 1 ≤ req.key.length → req.key.length ≤ 13 →
      ∀ flags length keybuf, namedSlot flags (wxSetEncode env k req).2.txKeyidx = some key →
        let answer := (wxSetEncode env k req).2.wxGetEncode flags length keybuf
        if k.iwMode = .monitor then answer = ⟨-1, flags, length, keybuf⟩
        else answer.ret = 0 ∧ answer.length = (if req.key.length ≤ 5 then 5 else 13) ∧
          answer.keybuf.take answer.length =
            req.key ++ List.replicate (answer.length - req.key.length) 0

/-- What is promised of a request. -/
structure EncodeKept (env : KeyEnv) (k : KeyConfig) (req : EncodeRequest) : Prop where
  inside : StaysInside env k req
  readsBack : ReadsBack env k req

theorem padded_of_le {bytes : List UInt8} (h : bytes.length ≤ 13) :
    padded bytes = bytes ++ List.replicate ((padded bytes).length - bytes.length) 0 := by
  have hlen := length_padded bytes
  rw [hlen]
  unfold padded
  rw [List.take_append, List.take_of_length_le, List.take_replicate]
  · congr 2
    split_ifs <;> omega
  · split_ifs <;> omega

theorem readsBack (env : KeyEnv) (k : KeyConfig) (req : EncodeRequest) : ReadsBack env k req := by
  intro key hkey hon hret hpos hle flags length keybuf hget
  have htake : CanTakeWep env k key := by
    by_contra hcannot
    exact wxSetEncode_fails hkey hon hcannot hret
  obtain ⟨-, htx, hmode, d, hslot, hd⟩ := wxSetEncode_sets hkey hon htake hpos
  dsimp only
  by_cases hmon : k.iwMode = .monitor
  · rw [if_pos hmon, wxGetEncode, if_pos (hmode.trans hmon)]
  have hroom : ¬ (wepKeyLen : Int) < d.key.length := by
    have h := d.key_le
    omega
  have hanswer : ((wxSetEncode env k req).2.wxGetEncode flags length keybuf).ret = 0 ∧
      ((wxSetEncode env k req).2.wxGetEncode flags length keybuf).length = d.key.length ∧
      ((wxSetEncode env k req).2.wxGetEncode flags length keybuf).keybuf = overwrite d.key keybuf := by
    rw [wxGetEncode, if_neg fun h => hmon (hmode.symm.trans h), hget]
    dsimp only
    rw [hslot]
    dsimp only
    rw [prism2WepGetKey, if_neg hroom, if_pos (Int.natCast_nonneg _)]
    exact ⟨rfl, rfl, rfl⟩
  obtain ⟨hok, hlength, hbuf⟩ := hanswer
  rw [if_neg hmon, hok, hlength, hbuf, hd, overwrite_take rfl]
  exact ⟨rfl, length_padded req.key, padded_of_le hle⟩

theorem wepKeyStores_inside {len : ℕ} {src : ℕ → UInt8} {st : Store UInt8}
    (hst : st ∈ wepKeyStores len src) : st.addr < wepKeyLen := by
  unfold wepKeyStores at hst
  split_ifs at hst with hlen
  · have haddr := addr_copy hst
    omega
  · cases hst

/-- The key of a context fits in a row. -/
theorem length_wepKey (priv : Priv) : priv.wepKey.length ≤ 13 := by
  cases priv with
  | wep d => exact d.key_le
  | null => exact Nat.zero_le _
  | tkip d => exact Nat.zero_le _
  | ccmp d => exact Nat.zero_le _

/-- A request that copies no key stays inside. -/
theorem staysInside_of_not_copies (h : ¬ CopiesKey env k req) : StaysInside env k req := by
  unfold StaysInside encodeStores
  cases hkey : namedSlot req.flags k.txKeyidx with
  | none => exact ⟨List.forall_mem_nil _, List.forall_mem_nil _⟩
  | some key =>
    dsimp only
    by_cases hoff : req.flags &&& iwEncodeDisabled ≠ 0
    · rw [if_pos hoff]
      exact ⟨List.forall_mem_nil _, List.forall_mem_nil _⟩
    rw [if_neg hoff]
    show (∀ st ∈ (if (takeWep env (k.dropOther key) key).1 ≠ 0 then _ else _ : EncodeStores).keys, _) ∧
      ∀ st ∈ (if (takeWep env (k.dropOther key) key).1 ≠ 0 then _ else _ : EncodeStores).wepKey, _
    by_cases htake : CanTakeWep env k key
    · have hempty : ¬ 0 < req.key.length := fun hpos => h ⟨key, hkey, not_not.mp hoff, htake, hpos⟩
      rw [if_neg (not_not.mpr (takeWep_ok htake).1), if_neg hempty]
      -- the key that was there is read into the row, and zeros if there was none
      set old := ((takeWep env (k.dropOther key) key).2.slot key).elim [] (·.priv.wepKey)
      have hold : old.length ≤ 13 := by
        cases hslot : (takeWep env (k.dropOther key) key).2.slot key with
        | none => simp [old, hslot]
        | some c => simpa [old, hslot] using length_wepKey c.priv
      have hrow : ∀ {n : ℕ} {src : ℕ → UInt8} {st : Store UInt8}, n ≤ 13 → st ∈ copy (rowOf key) n src →
          ∃ key', some key = some key' ∧ rowOf key' ≤ st.addr ∧ st.addr < rowOf key' + algKeyLen := by
        intro n src st hn hst
        have haddr := addr_copy hst
        unfold algKeyLen
        exact ⟨key, rfl, haddr.1, by omega⟩
      by_cases hunset : old.length = 0
      · rw [if_pos hunset]
        refine ⟨fun st hst => ?_, fun st (hst : st ∈ wepKeyStores 13 _) => wepKeyStores_inside hst⟩
        rcases List.mem_append.mp hst with hst | hst
        · exact hrow hold hst
        · exact hrow le_rfl hst
      · rw [if_neg hunset]
        exact ⟨fun st hst => hrow hold hst, List.forall_mem_nil _⟩
    · rw [if_pos (takeWep_fails htake)]
      exact ⟨List.forall_mem_nil _, List.forall_mem_nil _⟩

/-- One that does needs a key no longer than the row. -/
theorem staysInside_copies_iff (h : CopiesKey env k req) :
    StaysInside env k req ↔ req.key.length ≤ algKeyLen := by
  obtain ⟨key, hkey, hon, htake, hpos⟩ := h
  have hlen := length_padded req.key
  have hpad : (padded req.key).length ≤ 13 := by
    rw [hlen]
    split_ifs <;> decide
  unfold StaysInside
  rw [encodeStores_sets hkey hon htake hpos]
  constructor
  · rintro ⟨hrow, -⟩
    -- the last byte of the key
    have hlast : Store.set (rowOf key + (req.key.length - 1)) (at8 req.key (req.key.length - 1)) ∈
        rowStores key req.key (padded req.key).length :=
      List.mem_append_left _ (List.mem_map_of_mem (List.mem_range.mpr (by omega)))
    obtain ⟨key', hkey', -, hlt⟩ := hrow _ hlast
    cases hkey.symm.trans hkey'
    replace hlt : rowOf key + (req.key.length - 1) < rowOf key + algKeyLen := hlt
    omega
  · intro hle
    refine ⟨fun st hst => ⟨key, hkey, ?_⟩, fun st hst => wepKeyStores_inside hst⟩
    unfold algKeyLen at *
    rcases List.mem_append.mp hst with hst | hst
    · have haddr := addr_copy hst
      omega
    · have haddr := addr_copy hst
      omega

/-- **WEP keys set and read back.** A request keeps to its row, and gives its key
back, exactly if it copies no key or one of at most 32 bytes. -/
theorem encodeKept_iff (env : KeyEnv) (k : KeyConfig) (req : EncodeRequest) :
    EncodeKept env k req ↔ (CopiesKey env k req → req.key.length ≤ algKeyLen) := by
  constructor
  · intro h hcopies
    exact (staysInside_copies_iff hcopies).mp h.inside
  · intro h
    refine ⟨?_, readsBack env k req⟩
    by_cases hcopies : CopiesKey env k req
    · exact (staysInside_copies_iff hcopies).mpr (h hcopies)
    · exact staysInside_of_not_copies hcopies

end

/-- Three bytes come back as five. -/
example : ((liveCcmp.wxSetEncode ⟨true, fun _ => true, true, 0⟩ ⟨1, [1, 2, 3]⟩).2.wxGetEncode 1 0 []).keybuf =
    [1, 2, 3, 0, 0] := by decide

/-- A key of 33 bytes for the first slot is written over the end of its row. -/
theorem longKey_not_kept : ¬ ∀ (env : KeyEnv) (k : KeyConfig) (req : EncodeRequest),
    req.key.length ≤ 64 → EncodeKept env k req := by
  intro h
  have hkept := h ⟨true, fun _ => true, true, 0⟩ liveCcmp ⟨1, List.replicate 33 7⟩ (by decide)
  have hcopies : CopiesKey ⟨true, fun _ => true, true, 0⟩ liveCcmp ⟨1, List.replicate 33 7⟩ :=
    ⟨0, by decide, by decide, Or.inr ⟨rfl, rfl, rfl⟩, by decide⟩
  exact absurd ((staysInside_copies_iff hcopies).mp hkept.inside) (by decide)

end KeyConfig

end Rtl8187

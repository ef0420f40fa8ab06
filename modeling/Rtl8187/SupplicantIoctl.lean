/-
# The ioctl of the supplicant

`ieee80211_wpa_supplicant_ioctl` (`ieee80211_softmac.c`) and the handlers it calls,
with the bytes of the request they read. A request is `struct ieee_param`, a union
that ends in an array without a length: the WPA element, or the key. Both lengths
are fields of the request.

The key's is compared with the length of the request, so the key is read inside it;
but what is copied into the 32 bytes of a row of `sec.keys` is as long as the
key, which nobody has looked at if no module's `set_key` was called. The element's is
compared with 64 only (`supplicantIoctl_iff`). The name of the algorithm is compared
with constants that are shorter than its array.

What the request holds when it is copied back is left out.

Key definitions: `ParamBuffer`, `wpaSetWpaIe`, `runWpaSetEncryption`,
`wpaSupplicantIoctl`, `IoctlSafe`, `SkipsKeyCheck`.
Key theorems: `runWpaSetEncryption_value`, `runWpaSetEncryption_safe`,
`wpaSetWpaIe_safe_iff`, `requestStores_inRow_iff`, `supplicantIoctl_iff`.
-/
import Rtl8187.Lib.CStrings
import Rtl8187.LockDiscipline
import Rtl8187.WepKeys

namespace Rtl8187

open Bytes CStrings KeyConfig MemOps

variable {P : Type}

/-! ### `struct ieee_param` -/

/-- `sizeof(struct ieee_param)` -/
def sizeofIeeeParam : ℕ := 48

/-- `IEEE_CRYPT_ALG_NAME_LEN` -/
def ieeeCryptAlgNameLen : ℕ := 16

def ieeeCmdSetWpaParam : UInt32 := 1
def ieeeCmdSetWpaIe : UInt32 := 2
def ieeeCmdSetEncryption : UInt32 := 3
def ieeeCmdMlme : UInt32 := 4

def ieeeParamWpaEnabled : UInt8 := 1
def ieeeParamTkipCountermeasures : UInt8 := 2
def ieeeParamDropUnencrypted : UInt8 := 3
def ieeeParamPrivacyInvoked : UInt8 := 4
def ieeeParamAuthAlgs : UInt8 := 5
def ieeeParamIeee8021x : UInt8 := 6

def ieeeMlmeStaDeauth : UInt32 := 1
def ieeeMlmeStaDisassoc : UInt32 := 2

/-- The copy of a request, `struct ieee_param` from its first byte on: `cmd` is at 0,
`sta_addr` at 4 and the union at 12, which has `name` and `value` (at 16), or `len`, 32 bytes
and `data`, or `command` and `reason_code` (at 16), or `alg`, `set_tx` (at 28), `err` (at 32),
`idx` (at 36), `seq` (at 37), `key_len` (at 46) and `key`. It has a length; the memory goes on
behind it. -/
structure ParamBuffer where
  len : ℕ
  mem : ℕ → UInt8

namespace ParamBuffer

variable (b : ParamBuffer)

/-- The 16 bits at `i`. -/
def word16 (i : ℕ) : UInt16 := mk16 (b.mem (i + 1)) (b.mem i)

/-- The 32 bits at `i`. -/
def word32 (i : ℕ) : UInt32 := UInt32.ofNat (pack [b.mem i, b.mem (i + 1), b.mem (i + 2), b.mem (i + 3)])

/-- The `n` bytes from `i` on. -/
def bytes (i n : ℕ) : List UInt8 := (List.range' i n).map b.mem

/-- The request with the command `IEEE_CMD_SET_ENCRYPTION`. The last byte of the name
is not looked at: it is made the end of it. -/
def encryption : EncryptionParam where
  staAddr := ⟨b.mem 4, b.mem 5, b.mem 6, b.mem 7, b.mem 8, b.mem 9⟩
  alg := charsOf (text b.mem 12 (ieeeCryptAlgNameLen - 1))
  setTx := b.mem 28
  idx := b.mem 36
  seq := b.bytes 37 8
  keyLen := b.word16 46
  key := b.bytes 48 (b.len - 48)

/-- A byte is written. -/
def write (i : ℕ) (v : UInt8) : ParamBuffer := { b with mem := Function.update b.mem i v }

/-- `err` is cleared, and the name of the algorithm ended. -/
def terminated : ParamBuffer :=
  ((((b.write 32 0).write 33 0).write 34 0).write 35 0).write (12 + ieeeCryptAlgNameLen - 1) 0

/-! Reading it. -/

/-- The byte at `i`. -/
def read (i : ℕ) : Traced UInt8 := Traced.ofLog [.read i 0 b.len] (b.mem i)

/-- The `n` bytes from `i` on are read, which give `a`. -/
def readField {α : Type} (i n : ℕ) (a : α) : Traced α :=
  Traced.ofLog ((List.range' i n).map fun j => .read j 0 b.len) a

/-- A byte of `alg`, which is to lie in that array. -/
def readAlg (i : ℕ) : Traced UInt8 :=
  Traced.ofLog [.read i 12 (min (12 + ieeeCryptAlgNameLen) b.len)] (b.mem i)

/-- `strcmp` of `alg` with a name. -/
def algIs (name : String) : Traced Bool := strcmp b.readAlg 12 (bytesOf name)

end ParamBuffer

/-! ### The handlers -/

/-- The station, with the two settings that only the ioctls use. -/
structure WpaStation (P : Type) extends SoftMac P where
  wpaEnabled : UInt32
  privacyInvoked : UInt32

/-- What the ioctl meets: `alloc` is whether a handler gets memory. -/
structure SupplicantEnv extends KeyEnv where
  /-- Whether there is memory for the request. -/
  paramAlloc : Bool
  /-- Whether `copy_from_user` succeeds. -/
  copyFrom : Bool
  /-- Whether `copy_to_user` succeeds. -/
  copyTo : Bool
  /-- The modules that are registered only when `request_module` was called. -/
  late : Cipher → Bool

namespace WpaStation

/-- A change of the device. -/
def mapDevice (s : WpaStation P) (f : Device P → Device P) : WpaStation P :=
  { s with toDevice := f s.toDevice }

/-- `ieee80211_disassociate` -/
def disassociate (s : WpaStation P) : WpaStation P := { s with toStation := s.toStation.disassociate }

/-- The keys after a call. -/
def setKeys (s : WpaStation P) (k : KeyConfig) : WpaStation P :=
  { s with toSoftMac := s.toSoftMac.setKeyConfig k }

/-- `ieee80211_wpa_enable` -/
def wpaEnable (s : WpaStation P) (value : UInt32) : Int × WpaStation P := (0, { s with wpaEnabled := value })

/-- `ieee80211_wpa_assoc_frame` -/
def wpaAssocFrame (s : WpaStation P) : WpaStation P := (s.wpaEnable 1).2.disassociate

/-- `ieee80211_wpa_mlme` -/
def wpaMlme (s : WpaStation P) (command : UInt32) : Int × WpaStation P :=
  if command = ieeeMlmeStaDeauth then (0, s)
  else if command = ieeeMlmeStaDisassoc then (0, s.disassociate)
  else (eopnotsupp, s)

/-- `ieee80211_wpa_set_auth_algs`; there is no `set_security`. -/
def wpaSetAuthAlgs (s : WpaStation P) (value : UInt32) : Int × WpaStation P :=
  -- `AUTH_ALG_SHARED_KEY`
  (eopnotsupp, s.mapDevice fun d => { d with openWep := value &&& 2 == 0 })

/-- `ieee80211_wpa_set_param` -/
def wpaSetParam (s : WpaStation P) (name : UInt8) (value : UInt32) : Int × WpaStation P :=
  if name = ieeeParamWpaEnabled then s.wpaEnable value
  else if name = ieeeParamTkipCountermeasures then
    (0, s.mapDevice fun d => { d with tkipCountermeasures := value != 0 })
  else if name = ieeeParamDropUnencrypted then
    (0, s.mapDevice fun d => { d with dropUnencrypted := value != 0 })
  else if name = ieeeParamPrivacyInvoked then (0, { s with privacyInvoked := value })
  else if name = ieeeParamAuthAlgs then s.wpaSetAuthAlgs value
  else if name = ieeeParamIeee8021x then (0, s.mapDevice fun d => { d with ieee8021x := value != 0 })
  else (eopnotsupp, s)

/-- `ieee80211_wpa_set_wpa_ie`, which does not look at the length of the request. -/
def wpaSetWpaIe (env : SupplicantEnv) (s : WpaStation P) (b : ParamBuffer) : Traced (Int × WpaStation P) := do
  let len ← b.readField 12 4 (b.word32 12).toNat
  if maxWpaIeLen < len then pure (einval, s)
  else if len ≠ 0 then
    if !env.alloc then pure (enomem, s)
    else do
      let ie ← b.readField 48 len (b.bytes 48 len)
      pure (0, (s.mapDevice fun d => { d with wpaIe := ie }).wpaAssocFrame)
  else pure (0, (s.mapDevice fun d => { d with wpaIe := [] }).wpaAssocFrame)

end WpaStation

/-- The registered modules, of which those in `reg` are, are searched for the name. -/
def findCryptoOps (b : ParamBuffer) (reg : Cipher → Bool) : List Cipher → Traced (Option Cipher)
  | [] => pure none
  | c :: cs =>
    if reg c then do
      let same ← b.algIs c.name
      if same then pure (some c) else findCryptoOps b reg cs
    else findCryptoOps b reg cs

/-- The modules that are ever registered. The list that `ieee80211_get_crypto_ops` walks
has the last registered first, which is not the order here; it plays no part, as no two
modules have one name and every comparison stays inside `alg` (`findCryptoOps_safe`). -/
def cryptoAlgs : List Cipher := [.null, .wep, .tkip, .ccmp]

/-- The modules that are registered before one is requested; "NULL" always is. -/
def SupplicantEnv.early (env : SupplicantEnv) (c : Cipher) : Bool :=
  env.registered c && (c == .null || !env.late c)

/-- The two calls of `ieee80211_get_crypto_ops`, with `request_module` between them. -/
def getCryptoOps (env : SupplicantEnv) (b : ParamBuffer) : Traced (Option Cipher) := do
  let ops ← findCryptoOps b env.early cryptoAlgs
  match ops with
  | some c => pure (some c)
  | none => do
    let wep ← b.algIs "WEP"
    if wep then findCryptoOps b env.registered cryptoAlgs
    else do
      let tkip ← b.algIs "TKIP"
      if tkip then findCryptoOps b env.registered cryptoAlgs
      else do
        let ccmp ← b.algIs "CCMP"
        if ccmp then findCryptoOps b env.registered cryptoAlgs else pure none

/-- What a module's `set_key` reads of the request: nothing if it refuses the key. -/
def Cipher.readKey (b : ParamBuffer) (keyLen : ℕ) : Cipher → Traced Unit
  | .null => pure ()
  | .wep => if keyLen ≤ wepKeyLen then b.readField 48 keyLen () else pure ()
  | .tkip =>
    if keyLen = tkipKeyLen then do
      b.readField 48 tkipKeyLen ()
      b.readField 37 6 ()
    else pure ()
  | .ccmp =>
    if keyLen = ccmpTkLen then do
      b.readField 48 ccmpTkLen ()
      b.readField 37 6 ()
    else pure ()

/-- What `ieee80211_wpa_set_encryption` returns, the keys after it, and its stores to
`sec.keys`. -/
structure EncryptionEnd where
  ret : Int
  keys : KeyConfig
  stores : List (Store UInt8)

/-- The level of security, which nothing reads. -/
def secLevel (b : ParamBuffer) : Traced (Option ℕ) := do
  let wep ← b.algIs "WEP"
  if wep then pure (some 1)
  else do
    let tkip ← b.algIs "TKIP"
    if tkip then pure (some 2)
    else do
      let ccmp ← b.algIs "CCMP"
      pure (if ccmp then some 3 else none)

/-- `ieee80211_wpa_set_encryption` from `skip_host_crypt` on. -/
def skipHostCrypt (b : ParamBuffer) (k : KeyConfig) (idx : KeyIdx) (keyLen : ℕ) : Traced EncryptionEnd := do
  let setTx ← b.read 28
  b.readField 48 keyLen ()
  let _ ← secLevel b
  pure ⟨0, if setTx ≠ 0 then { k with txKeyidx := idx } else k,
    copy (rowOf idx) keyLen fun i => b.mem (48 + i)⟩

/-- `ieee80211_wpa_set_encryption` from the choice of the slot on. -/
def encryptSlot (env : SupplicantEnv) (k : KeyConfig) (b : ParamBuffer) (idx : KeyIdx) (keyLen : ℕ) :
    Traced EncryptionEnd := do
  let off ← b.algIs "none"
  if off then pure ⟨0, k.delayedDeinit idx, []⟩
  else do
    let skip ← (if k.hostEncrypt || k.hostDecrypt then pure false else (!·) <$> b.algIs "TKIP")
    if skip then skipHostCrypt b k idx keyLen
    else do
      let ops ← getCryptoOps env b
      match ops with
      | none => pure ⟨einval, k, []⟩
      | some cipher => do
        let r := putKey env.toKeyEnv k idx cipher b.encryption.key b.encryption.seq
        -- `set_key`, if there is a context
        (if (takeCipher env.toKeyEnv k idx cipher).1 = 0 then cipher.readKey b keyLen else pure ())
        if r.1 ≠ 0 then pure ⟨r.1, r.2, []⟩ else skipHostCrypt b r.2 idx keyLen

/-- `ieee80211_wpa_set_encryption`, with its accesses. -/
def runWpaSetEncryption (env : SupplicantEnv) (k : KeyConfig) (param : ParamBuffer) : Traced EncryptionEnd := do
  let b := param.terminated
  let keyLen ← b.readField 46 2 (b.word16 46).toNat
  if b.len ≠ 48 + keyLen then pure ⟨einval, k, []⟩
  else do
    let broadcast ← compare b.read 4 Mac.broadcast.toList
    if !broadcast then pure ⟨einval, k, []⟩
    else do
      let idx ← b.read 36
      if h : idx.toNat < 4 then encryptSlot env k b ⟨idx.toNat, h⟩ keyLen
      else pure ⟨einval, k, []⟩

/-- The pairwise key type; the name is compared before its end is set. -/
def readPairwiseKeyType (k : KeyConfig) (b : ParamBuffer) : Traced ℕ := do
  let ccmp ← b.algIs "CCMP"
  if ccmp then pure keyTypeCcmp
  else do
    let tkip ← b.algIs "TKIP"
    if tkip then pure keyTypeTkip
    else do
      let wep ← b.algIs "WEP"
      if wep then do
        let keyLen ← b.readField 46 2 (b.word16 46)
        pure (if keyLen = 13 then keyTypeWep104 else if keyLen = 5 then keyTypeWep40 else k.pairwiseKeyType)
      else pure keyTypeNa

/-- The case `IEEE_CMD_SET_ENCRYPTION`, with its accesses. -/
def runSetEncryptionCmd (env : SupplicantEnv) (k : KeyConfig) (b : ParamBuffer) : Traced EncryptionEnd := do
  let setTx ← b.read 28
  if setTx = 0 then runWpaSetEncryption env k b
  else do
    let type ← readPairwiseKeyType k b
    let adhoc := type ≠ keyTypeNa ∧ k.apMacAddr = ⟨0, 0, 0, 0, 0, 0⟩
    runWpaSetEncryption env
      { k with pairwiseKeyType := type, iwMode := if adhoc then .adhoc else k.iwMode } b

/-! ### The ioctl -/

/-- `struct iw_point`, with the memory it is copied to as it is then. -/
structure IwPoint where
  /-- Whether `pointer` is not null. -/
  pointer : Bool
  length : UInt16
  mem : ℕ → UInt8

/-- The copy of the request. -/
def IwPoint.param (p : IwPoint) : ParamBuffer := ⟨p.length.toNat, p.mem⟩

/-- What the ioctl returns, the station after it, and its stores to `sec.keys`. -/
structure SupplicantEnd (P : Type) where
  ret : Int
  station : WpaStation P
  stores : List (Store UInt8)

def efault : Int := -14

/-- The dispatch of `ieee80211_wpa_supplicant_ioctl`. -/
def supplicantCmd (env : SupplicantEnv) (s : WpaStation P) (b : ParamBuffer) : Traced (SupplicantEnd P) := do
  let cmd ← b.readField 0 4 (b.word32 0)
  if cmd = ieeeCmdSetWpaParam then do
    let name ← b.read 12
    let value ← b.readField 16 4 (b.word32 16)
    let r := s.wpaSetParam name value
    pure ⟨r.1, r.2, []⟩
  else if cmd = ieeeCmdSetWpaIe then do
    let r ← s.wpaSetWpaIe env b
    pure ⟨r.1, r.2, []⟩
  else if cmd = ieeeCmdSetEncryption then do
    let e ← runSetEncryptionCmd env s.keyConfig b
    pure ⟨e.ret, s.setKeys e.keys, e.stores⟩
  else if cmd = ieeeCmdMlme then do
    let command ← b.readField 12 4 (b.word32 12)
    -- the reason is passed on, and not used
    b.readField 16 4 ()
    let r := s.wpaMlme command
    pure ⟨r.1, r.2, []⟩
  else pure ⟨eopnotsupp, s, []⟩

/-- `ieee80211_wpa_supplicant_ioctl`, which has `wx_sem`. -/
def wpaSupplicantIoctl (env : SupplicantEnv) (s : WpaStation P) (p : IwPoint) : Traced (SupplicantEnd P) :=
  if p.length.toNat < sizeofIeeeParam ∨ !p.pointer then pure ⟨einval, s, []⟩
  else if !env.paramAlloc then pure ⟨enomem, s, []⟩
  else if !env.copyFrom then pure ⟨efault, s, []⟩
  else do
    let e ← supplicantCmd env s p.param
    if e.ret = 0 then do
      -- `copy_to_user`
      p.param.readField 0 p.param.len ()
      pure (if env.copyTo then e else { e with ret := efault })
    else pure e

/-! ### The name of the algorithm -/

/-- A constant that the name is compared with: it leaves room for its end. -/
structure AlgName (name : String) : Prop where
  nonzero : 0 ∉ bytesOf name
  short : (bytesOf name).length < ieeeCryptAlgNameLen - 1
  chars : charsOf (bytesOf name) = name

theorem algName_none : AlgName "none" := ⟨by decide, by decide, by decide⟩

theorem algName_cipher (c : Cipher) : AlgName c.name := by
  cases c <;> exact ⟨by decide, by decide, by decide⟩

theorem algName_wep : AlgName "WEP" := algName_cipher .wep

theorem algName_tkip : AlgName "TKIP" := algName_cipher .tkip

theorem algName_ccmp : AlgName "CCMP" := algName_cipher .ccmp

namespace ParamBuffer

variable {b : ParamBuffer} {name : String}

theorem algIs_iff (h : AlgName name) : (b.algIs name).value = true ↔ b.encryption.alg = name :=
  (strcmp_iff h.nonzero h.short).trans (charsOf_eq_iff h.chars).symm

theorem value_algIs (h : AlgName name) : (b.algIs name).value = decide (b.encryption.alg = name) := by
  rw [Bool.eq_iff_iff, algIs_iff h, decide_eq_true_iff]

/-- The comparison stays inside the array. -/
theorem algIs_safe (hlen : sizeofIeeeParam ≤ b.len) (h : AlgName name) : (b.algIs name).All Access.Safe := by
  apply strcmp_all
  intro k hk
  have hshort := h.short
  unfold sizeofIeeeParam at hlen
  unfold ieeeCryptAlgNameLen at hshort
  have hin : 12 ≤ 12 + k ∧ 12 + k < min (12 + ieeeCryptAlgNameLen) b.len := by
    unfold ieeeCryptAlgNameLen
    omega
  exact List.forall_mem_singleton.mpr hin

theorem read_safe {i : ℕ} (h : i < b.len) : (b.read i).All Access.Safe :=
  List.forall_mem_singleton.mpr ⟨Nat.zero_le i, h⟩

/-- A field is read inside the request if it ends there. -/
theorem readField_safe_iff {α : Type} {i n : ℕ} (a : α) :
    (b.readField i n a).All Access.Safe ↔ n = 0 ∨ i + n ≤ b.len := by
  unfold readField Traced.All Traced.ofLog
  rw [List.forall_mem_map]
  constructor
  · intro h
    by_cases hn : n = 0
    · exact .inl hn
    · have hlast : 0 ≤ i + (n - 1) ∧ i + (n - 1) < b.len := h _ (List.mem_range'_1.mpr (by omega))
      exact .inr (by omega)
  · intro h j hj
    have hrange := List.mem_range'_1.mp hj
    exact ⟨Nat.zero_le j, by omega⟩

theorem readField_safe {α : Type} {i n : ℕ} {a : α} (h : i + n ≤ b.len) : (b.readField i n a).All Access.Safe :=
  (readField_safe_iff a).mpr (.inr h)

@[simp] theorem value_readField {α : Type} (i n : ℕ) (a : α) : (b.readField i n a).value = a := rfl

@[simp] theorem value_read (i : ℕ) : (b.read i).value = b.mem i := rfl

@[simp] theorem len_terminated : b.terminated.len = b.len := rfl

/-- The stores leave the other fields as they are. -/
theorem mem_terminated {j : ℕ} (hname : j ≠ 27) (herr : j < 32 ∨ 36 ≤ j) : b.terminated.mem j = b.mem j := by
  unfold terminated write ieeeCryptAlgNameLen
  dsimp only
  rw [Function.update_of_ne (by omega), Function.update_of_ne (by omega), Function.update_of_ne (by omega),
    Function.update_of_ne (by omega), Function.update_of_ne (by omega)]

theorem bytes_terminated {i n : ℕ} (hi : 36 ≤ i) : b.terminated.bytes i n = b.bytes i n := by
  apply List.map_congr_left
  intro j hj
  have hle := (List.mem_range'_1.mp hj).1
  exact mem_terminated (by omega) (by omega)

theorem encryption_terminated (b : ParamBuffer) : b.terminated.encryption = b.encryption := by
  have hname : text b.terminated.mem 12 (ieeeCryptAlgNameLen - 1) = text b.mem 12 (ieeeCryptAlgNameLen - 1) := by
    apply text_congr
    intro j _ hlt
    unfold ieeeCryptAlgNameLen at hlt
    exact mem_terminated (by omega) (by omega)
  unfold encryption word16
  rw [hname, bytes_terminated (by decide), bytes_terminated (by decide), len_terminated]
  simp only [mem_terminated, ne_eq, Nat.reduceEqDiff, not_false_eq_true, Nat.reduceLT, Nat.reduceLeDiff,
    true_or, or_true, Nat.reduceAdd]

theorem length_key (b : ParamBuffer) : b.encryption.key.length = b.len - 48 := by
  show ((List.range' 48 (b.len - 48)).map b.mem).length = b.len - 48
  rw [List.length_map, List.length_range']

/-- Whether the address is the broadcast address. -/
theorem compare_broadcast :
    (compare b.read 4 Mac.broadcast.toList).value = decide (b.encryption.staAddr = Mac.broadcast) := by
  rw [Bool.eq_iff_iff, compare_iff, decide_eq_true_iff]
  show _ ↔ (⟨b.mem 4, b.mem 5, b.mem 6, b.mem 7, b.mem 8, b.mem 9⟩ : Mac) = _
  constructor
  · intro h
    exact Mac.mk.injEq .. |>.mpr ⟨h 0 (by decide), h 1 (by decide), h 2 (by decide), h 3 (by decide),
      h 4 (by decide), h 5 (by decide)⟩
  · intro h k hk
    obtain ⟨h0, h1, h2, h3, h4, h5⟩ := Mac.mk.injEq .. |>.mp h
    have hlt : k < 6 := hk
    obtain rfl | rfl | rfl | rfl | rfl | rfl : k = 0 ∨ k = 1 ∨ k = 2 ∨ k = 3 ∨ k = 4 ∨ k = 5 := by omega
    · exact h0
    · exact h1
    · exact h2
    · exact h3
    · exact h4
    · exact h5

end ParamBuffer

/-! ### The module -/

section

variable {env : SupplicantEnv} {b : ParamBuffer} {reg : Cipher → Bool}

theorem Cipher.name_inj {c c' : Cipher} (h : c.name = c'.name) : c = c' := by
  revert h
  cases c <;> cases c' <;> decide

theorem findCryptoOps_value (b : ParamBuffer) (reg : Cipher → Bool) (cs : List Cipher) :
    (findCryptoOps b reg cs).value = cs.find? fun c => reg c && c.name == b.encryption.alg := by
  induction cs with
  | nil => rfl
  | cons c cs ih =>
    rw [findCryptoOps, List.find?_cons]
    by_cases hreg : reg c = true
    · rw [if_pos hreg, hreg, Bool.true_and, Traced.value_bind, Traced.value_ite,
        ParamBuffer.value_algIs (algName_cipher c), ih]
      by_cases hname : c.name = b.encryption.alg
      · rw [if_pos (decide_eq_true hname.symm), beq_iff_eq.mpr hname]
        rfl
      · have hne : (c.name == b.encryption.alg) = false := beq_eq_false_iff_ne.mpr hname
        rw [if_neg (by simpa using Ne.symm hname), hne]
    · rw [if_neg hreg, ih]
      simp [hreg]

/-- The search finds the module with that name, if it is registered. -/
theorem findCryptoOps_eq_some_iff {c : Cipher} :
    (findCryptoOps b reg cryptoAlgs).value = some c ↔ reg c = true ∧ c.name = b.encryption.alg := by
  rw [findCryptoOps_value]
  have hall : ∀ c : Cipher, c ∈ cryptoAlgs := fun c => by cases c <;> decide
  constructor
  · intro h
    have hfound := List.find?_some h
    simpa using hfound
  · rintro ⟨hreg, hname⟩
    cases hfind : cryptoAlgs.find? fun c => reg c && c.name == b.encryption.alg with
    | none =>
      have hnot := List.find?_eq_none.mp hfind c (hall c)
      simp [hreg, hname] at hnot
    | some c' =>
      have hfound := List.find?_some hfind
      simp only [Bool.and_eq_true, beq_iff_eq] at hfound
      rw [Cipher.name_inj (hfound.2.trans hname.symm)]

/-- **The module is that of `KeyEnv.getCryptoOps`**, whether it was there or was
requested. -/
theorem getCryptoOps_value (env : SupplicantEnv) (b : ParamBuffer) :
    (getCryptoOps env b).value = env.toKeyEnv.getCryptoOps b.encryption.alg := by
  have hall : env.toKeyEnv.getCryptoOps b.encryption.alg = (findCryptoOps b env.registered cryptoAlgs).value :=
    (findCryptoOps_value b env.registered cryptoAlgs).symm
  rw [hall, getCryptoOps, Traced.value_bind]
  cases hfirst : (findCryptoOps b env.early cryptoAlgs).value with
  | some c =>
    obtain ⟨hearly, hname⟩ := findCryptoOps_eq_some_iff.mp hfirst
    have hreg := (Bool.and_eq_true_iff.mp hearly).1
    exact (findCryptoOps_eq_some_iff.mpr ⟨hreg, hname⟩).symm
  | none =>
    simp only [Traced.value_bind, Traced.value_ite, Traced.value_pure, ParamBuffer.value_algIs algName_wep,
      ParamBuffer.value_algIs algName_tkip, ParamBuffer.value_algIs algName_ccmp, decide_eq_true_eq]
    split_ifs with hwep htkip hccmp
    · rfl
    · rfl
    · rfl
    · -- only "NULL" is left, which would have been found
      refine Eq.symm (Option.eq_none_iff_forall_ne_some.mpr fun c hc => ?_)
      obtain ⟨hreg, hname⟩ := findCryptoOps_eq_some_iff.mp hc
      cases c with
      | null =>
        have hearly : env.early .null = true := by
          unfold SupplicantEnv.early
          rw [hreg]
          rfl
        rw [findCryptoOps_eq_some_iff.mpr ⟨hearly, hname⟩] at hfirst
        cases hfirst
      | wep => exact hwep hname.symm
      | tkip => exact htkip hname.symm
      | ccmp => exact hccmp hname.symm

theorem findCryptoOps_safe (hlen : sizeofIeeeParam ≤ b.len) (cs : List Cipher) :
    (findCryptoOps b reg cs).All Access.Safe := by
  induction cs with
  | nil => exact Traced.pure_all _
  | cons c cs ih =>
    rw [findCryptoOps, Traced.all_ite, Traced.all_bind, Traced.all_ite]
    exact ⟨fun _ => ⟨b.algIs_safe hlen (algName_cipher c), fun _ => Traced.pure_all _, fun _ => ih⟩, fun _ => ih⟩

theorem getCryptoOps_safe (env : SupplicantEnv) (hlen : sizeofIeeeParam ≤ b.len) :
    (getCryptoOps env b).All Access.Safe := by
  have hfind : ∀ reg, (findCryptoOps b reg cryptoAlgs).All Access.Safe := fun reg => findCryptoOps_safe hlen _
  rw [getCryptoOps, Traced.all_bind]
  refine ⟨hfind _, ?_⟩
  cases (findCryptoOps b env.early cryptoAlgs).value with
  | some c => exact Traced.pure_all _
  | none =>
    simp only [Traced.all_bind, Traced.all_ite, Traced.all_pure, hfind, b.algIs_safe hlen algName_wep,
      b.algIs_safe hlen algName_tkip, b.algIs_safe hlen algName_ccmp, implies_true, and_self]

theorem secLevel_safe (hlen : sizeofIeeeParam ≤ b.len) : (secLevel b).All Access.Safe := by
  simp only [secLevel, Traced.all_bind, Traced.all_ite, Traced.all_pure, b.algIs_safe hlen algName_wep,
    b.algIs_safe hlen algName_tkip, b.algIs_safe hlen algName_ccmp, implies_true, and_self]

/-- A module reads a key that it takes, which ends where the request does. -/
theorem readKey_safe {keyLen : ℕ} (hlen : b.len = 48 + keyLen) (c : Cipher) :
    (c.readKey b keyLen).All Access.Safe := by
  cases c with
  | null => exact Traced.pure_all _
  | wep =>
    rw [Cipher.readKey, Traced.all_ite]
    exact ⟨fun _ => b.readField_safe hlen.ge, fun _ => Traced.pure_all _⟩
  | tkip =>
    rw [Cipher.readKey, Traced.all_ite, Traced.all_bind]
    exact ⟨fun hkey => ⟨b.readField_safe (by omega), b.readField_safe (by omega)⟩, fun _ => Traced.pure_all _⟩
  | ccmp =>
    rw [Cipher.readKey, Traced.all_ite, Traced.all_bind]
    exact ⟨fun hkey => ⟨b.readField_safe (by omega), b.readField_safe (by omega)⟩, fun _ => Traced.pure_all _⟩

/-! ### `ieee80211_wpa_set_encryption` -/

variable {k : KeyConfig} {idx : KeyIdx} {keyLen : ℕ}

/-- A request that ends with its key has all of the structure. -/
theorem sizeof_le_len (hlen : b.len = 48 + keyLen) : sizeofIeeeParam ≤ b.len := by
  rw [hlen]
  exact Nat.le_add_right 48 keyLen

theorem skipHostCrypt_safe (k : KeyConfig) (idx : KeyIdx) (hlen : b.len = 48 + keyLen) :
    (skipHostCrypt b k idx keyLen).All Access.Safe := by
  have hsize := sizeof_le_len hlen
  rw [skipHostCrypt, Traced.all_bind, Traced.all_bind, Traced.all_bind]
  exact ⟨b.read_safe (by omega), b.readField_safe hlen.ge, secLevel_safe hsize, Traced.pure_all _⟩

theorem encryptSlot_safe (env : SupplicantEnv) (k : KeyConfig) (idx : KeyIdx) (hlen : b.len = 48 + keyLen) :
    (encryptSlot env k b idx keyLen).All Access.Safe := by
  have hsize := sizeof_le_len hlen
  have hskip : ∀ k', (skipHostCrypt b k' idx keyLen).All Access.Safe := fun k' => skipHostCrypt_safe k' idx hlen
  rw [encryptSlot, Traced.all_bind, Traced.all_ite]
  refine ⟨b.algIs_safe hsize algName_none, fun _ => Traced.pure_all _, fun _ => ?_⟩
  rw [Traced.all_bind, Traced.all_ite, Traced.all_map, Traced.all_ite]
  refine ⟨⟨fun _ => Traced.pure_all _, fun _ => b.algIs_safe hsize algName_tkip⟩, fun _ => hskip k, fun _ => ?_⟩
  rw [Traced.all_bind]
  refine ⟨getCryptoOps_safe env hsize, ?_⟩
  cases (getCryptoOps env b).value with
  | none => exact Traced.pure_all _
  | some cipher =>
    dsimp only
    rw [Traced.all_bind, Traced.all_ite, Traced.all_ite]
    exact ⟨⟨fun _ => readKey_safe hlen cipher, fun _ => Traced.pure_all _⟩, fun _ => Traced.pure_all _, fun _ => hskip _⟩

/-- **The request for a key is read inside it**, with any length of the key. -/
theorem runWpaSetEncryption_safe (env : SupplicantEnv) (k : KeyConfig) (hsize : sizeofIeeeParam ≤ b.len) :
    (runWpaSetEncryption env k b).All Access.Safe := by
  unfold sizeofIeeeParam at hsize
  rw [runWpaSetEncryption, Traced.all_bind, Traced.all_ite]
  refine ⟨b.terminated.readField_safe hsize, fun _ => Traced.pure_all _, fun hkey => ?_⟩
  rw [Traced.all_bind, Traced.all_ite]
  refine ⟨compare_all fun i hi => b.terminated.read_safe ?_, fun _ => Traced.pure_all _, fun _ => ?_⟩
  · replace hi : i < 6 := hi
    rw [ParamBuffer.len_terminated]
    omega
  rw [Traced.all_bind]
  refine ⟨b.terminated.read_safe (Nat.lt_of_lt_of_le (by decide) hsize), ?_⟩
  split_ifs
  · exact encryptSlot_safe env k _ (not_not.mp hkey)
  · exact Traced.pure_all _

/-- The stores of the key to the row of its index. -/
def keyStores (b : ParamBuffer) (idx : KeyIdx) : List (Store UInt8) :=
  copy (rowOf idx) b.encryption.keyLen.toNat fun i => b.mem (48 + i)

/-- **What a call for a slot comes to**: what the model of the keys says, and the key
is stored if there is one to set and no error. -/
theorem encryptSlot_value (env : SupplicantEnv) (k : KeyConfig) (hslot : encryptionSlot b.encryption = some idx) :
    (encryptSlot env k b idx b.encryption.keyLen.toNat).value =
      let r := wpaSetEncryption env.toKeyEnv k b.encryption
      ⟨r.1, r.2, if r.1 = 0 ∧ b.encryption.alg ≠ "none" then keyStores b idx else []⟩ := by
  have hskip : ∀ k', (skipHostCrypt b k' idx b.encryption.keyLen.toNat).value =
      ⟨0, setTx k' b.encryption idx, keyStores b idx⟩ := fun k' => rfl
  have hneg : ((!·) <$> b.algIs "TKIP").value = (b.encryption.alg != "TKIP") := by
    rw [Traced.value_map, b.value_algIs algName_tkip]
    rfl
  have hleft : (if k.hostEncrypt || k.hostDecrypt then pure false else (!·) <$> b.algIs "TKIP").value =
      (!(k.hostEncrypt || k.hostDecrypt) && b.encryption.alg != "TKIP") := by
    rw [Traced.value_ite, Traced.value_pure, hneg]
    cases k.hostEncrypt || k.hostDecrypt <;> rfl
  rw [wpaSetEncryption_some env.toKeyEnv k hslot, encryptSlot, Traced.value_bind, Traced.value_ite,
    b.value_algIs algName_none]
  by_cases hoff : b.encryption.alg = "none"
  · rw [if_pos (decide_eq_true hoff), if_pos hoff]
    simp [hoff]
  rw [if_neg (by simpa using hoff), if_neg hoff, Traced.value_bind, Traced.value_ite, hleft]
  by_cases hskips : (!(k.hostEncrypt || k.hostDecrypt) && b.encryption.alg != "TKIP") = true
  · rw [if_pos hskips, if_pos hskips, hskip]
    simp [hoff]
  rw [if_neg hskips, if_neg hskips, Traced.value_bind, getCryptoOps_value]
  cases env.toKeyEnv.getCryptoOps b.encryption.alg with
  | none =>
    have hne : einval ≠ 0 := by decide
    simp [hne]
  | some cipher =>
    dsimp only
    rw [Traced.value_bind, Traced.value_ite, hskip, Traced.value_pure]
    by_cases hret : (putKey env.toKeyEnv k idx cipher b.encryption.key b.encryption.seq).1 ≠ 0
    · rw [if_pos hret, if_pos hret]
      simp [hret]
    · rw [if_neg hret, if_neg hret]
      simp [hoff]

theorem keyStores_terminated (b : ParamBuffer) (idx : KeyIdx) : keyStores b.terminated idx = keyStores b idx := by
  unfold keyStores
  rw [b.encryption_terminated]
  congr 1
  funext i
  exact b.mem_terminated (by omega) (by omega)

/-- The stores of a request, where `ret` is what the call returns. -/
def requestStores (b : ParamBuffer) (ret : Int) : List (Store UInt8) :=
  match encryptionSlot b.encryption with
  | none => []
  | some idx => if ret = 0 ∧ b.encryption.alg ≠ "none" then keyStores b idx else []

/-- **The handler with its accesses is the model of the keys**, with the stores beside it. -/
theorem runWpaSetEncryption_value (env : SupplicantEnv) (k : KeyConfig) (hsize : sizeofIeeeParam ≤ b.len) :
    (runWpaSetEncryption env k b).value =
      let r := wpaSetEncryption env.toKeyEnv k b.encryption
      ⟨r.1, r.2, requestStores b r.1⟩ := by
  unfold sizeofIeeeParam at hsize
  have hkeyLen : b.terminated.word16 46 = b.encryption.keyLen := by
    show b.terminated.encryption.keyLen = _
    rw [b.encryption_terminated]
  have hidx : b.terminated.mem 36 = b.encryption.idx := b.mem_terminated (by decide) (by decide)
  have hnone : encryptionSlot b.encryption = none → (⟨einval, k, []⟩ : EncryptionEnd) =
      let r := wpaSetEncryption env.toKeyEnv k b.encryption
      ⟨r.1, r.2, requestStores b r.1⟩ := by
    intro hslot
    unfold requestStores
    rw [wpaSetEncryption_none env.toKeyEnv k hslot, hslot]
  have hfits : b.terminated.len ≠ 48 + b.encryption.keyLen.toNat ↔
      b.encryption.key.length ≠ b.encryption.keyLen.toNat := by
    rw [b.length_key, b.len_terminated]
    omega
  rw [runWpaSetEncryption, Traced.value_bind, Traced.value_ite, ParamBuffer.value_readField, hkeyLen]
  by_cases hlen : b.encryption.key.length ≠ b.encryption.keyLen.toNat
  · rw [if_pos (hfits.mpr hlen)]
    exact hnone (by rw [encryptionSlot, if_pos (.inl hlen)])
  rw [if_neg fun h => hlen (hfits.mp h), Traced.value_bind, Traced.value_ite, ParamBuffer.compare_broadcast,
    b.encryption_terminated]
  by_cases hsta : b.encryption.staAddr ≠ Mac.broadcast
  · rw [if_pos (by simpa using hsta)]
    exact hnone (by rw [encryptionSlot, if_pos (.inr hsta)])
  rw [if_neg (by simpa using hsta), Traced.value_bind, ParamBuffer.value_read, hidx]
  by_cases hin : b.encryption.idx.toNat < 4
  · have hslot : encryptionSlot b.encryption = some ⟨b.encryption.idx.toNat, hin⟩ := by
      rw [encryptionSlot, if_neg (not_or.mpr ⟨hlen, hsta⟩), dif_pos hin]
    have hvalue := @encryptSlot_value b.terminated ⟨b.encryption.idx.toNat, hin⟩ env k
      (by rw [b.encryption_terminated, hslot])
    rw [b.encryption_terminated, keyStores_terminated] at hvalue
    unfold requestStores
    rw [dif_pos hin, hvalue, hslot]
  · rw [dif_neg hin]
    exact hnone (by rw [encryptionSlot, if_neg (not_or.mpr ⟨hlen, hsta⟩), dif_neg hin])

theorem readPairwiseKeyType_value (k : KeyConfig) (b : ParamBuffer) :
    (readPairwiseKeyType k b).value = newPairwiseKeyType k b.encryption := by
  simp only [readPairwiseKeyType, Traced.value_bind, Traced.value_ite, Traced.value_pure,
    b.value_algIs algName_wep, b.value_algIs algName_tkip, b.value_algIs algName_ccmp, decide_eq_true_eq]
  rfl

theorem readPairwiseKeyType_safe (k : KeyConfig) (hsize : sizeofIeeeParam ≤ b.len) :
    (readPairwiseKeyType k b).All Access.Safe := by
  have hkeyLen : (b.readField 46 2 (b.word16 46)).All Access.Safe := b.readField_safe hsize
  simp only [readPairwiseKeyType, Traced.all_bind, Traced.all_ite, Traced.all_pure, hkeyLen,
    b.algIs_safe hsize algName_wep, b.algIs_safe hsize algName_tkip, b.algIs_safe hsize algName_ccmp,
    implies_true, and_self]

theorem runSetEncryptionCmd_safe (env : SupplicantEnv) (k : KeyConfig) (hsize : sizeofIeeeParam ≤ b.len) :
    (runSetEncryptionCmd env k b).All Access.Safe := by
  rw [runSetEncryptionCmd, Traced.all_bind, Traced.all_ite, Traced.all_bind]
  exact ⟨b.read_safe (Nat.lt_of_lt_of_le (by decide) hsize), fun _ => runWpaSetEncryption_safe env k hsize,
    fun _ => ⟨readPairwiseKeyType_safe k hsize, runWpaSetEncryption_safe env _ hsize⟩⟩

theorem runSetEncryptionCmd_value (env : SupplicantEnv) (k : KeyConfig) (hsize : sizeofIeeeParam ≤ b.len) :
    (runSetEncryptionCmd env k b).value =
      let r := setEncryptionCmd env.toKeyEnv k b.encryption
      ⟨r.1, r.2, requestStores b r.1⟩ := by
  rw [runSetEncryptionCmd, Traced.value_bind, Traced.value_ite, Traced.value_bind, readPairwiseKeyType_value,
    runWpaSetEncryption_value env k hsize, runWpaSetEncryption_value env _ hsize, setEncryptionCmd]
  by_cases hset : b.encryption.setTx = 0
  · rw [if_pos hset]
    exact if_pos hset
  · rw [if_neg hset]
    exact if_neg hset

/-! ### The key and its row -/

/-- No module looks at the key before it is copied to its row: it is left to the
hardware, or to the module "NULL", which has no `set_key`. -/
def SkipsKeyCheck (env : KeyEnv) (k : KeyConfig) (param : EncryptionParam) : Prop :=
  (encryptionSlot param).isSome = true ∧ param.alg ≠ "none" ∧
    ((!(k.hostEncrypt || k.hostDecrypt) && param.alg != "TKIP") = true ∨
      ∃ idx ∈ encryptionSlot param, env.getCryptoOps param.alg = some .null ∧
        (k.Has idx .null ∨ env.alloc = true ∧ env.init = true))

/-- A store goes to the row of the key's index. -/
def InRow (b : ParamBuffer) (st : Store UInt8) : Prop :=
  ∃ idx : KeyIdx, idx.val = (b.mem 36).toNat ∧ rowOf idx ≤ st.addr ∧ st.addr < rowOf idx + algKeyLen

/-- A key longer than a row fits only where it is not looked at. -/
theorem fits_long_iff {key : List UInt8} (hlong : algKeyLen < key.length) (c : Cipher) :
    c.Fits key ↔ c = .null := by
  unfold algKeyLen at hlong
  cases c with
  | null => exact iff_of_true trivial rfl
  | wep =>
    refine iff_of_false (fun h => ?_) nofun
    have hle : key.length ≤ 13 := h
    omega
  | tkip =>
    refine iff_of_false (fun h => ?_) nofun
    have heq : key.length = 32 ∨ key.length = 0 := h
    omega
  | ccmp =>
    refine iff_of_false (fun h => ?_) nofun
    have heq : key.length = 16 ∨ key.length = 0 := h
    omega

/-- Such a key is copied exactly if no module looks at it. -/
theorem accepted_long_iff (env : KeyEnv) (k : KeyConfig) {param : EncryptionParam}
    (hlong : algKeyLen < param.key.length) :
    Accepted env k param ∧ param.alg ≠ "none" ↔ SkipsKeyCheck env k param := by
  constructor
  · rintro ⟨⟨hslot, hset⟩, hoff⟩
    refine ⟨hslot, hoff, ?_⟩
    rcases hset with (hnone | hskip) | ⟨t, ht, hfits, hready⟩
    · exact absurd hnone hoff
    · exact .inl hskip
    · rw [encryptionTarget] at ht
      split_ifs at ht
      · cases ht
      · obtain ⟨idx, hidx, ht⟩ := Option.bind_eq_some_iff.mp ht
        obtain ⟨c, hc, rfl⟩ := Option.map_eq_some_iff.mp ht
        obtain rfl := (fits_long_iff hlong c).mp hfits
        exact .inr ⟨idx, hidx, hc, hready⟩
  · rintro ⟨hslot, hoff, hskip⟩
    by_cases hnone : SetsNone k param
    · exact ⟨⟨hslot, .inl hnone⟩, hoff⟩
    rcases hskip with hskip | ⟨idx, hidx, hc, hready⟩
    · exact absurd (.inr hskip) hnone
    · refine ⟨⟨hslot, .inr ⟨(idx, .null), ?_, trivial, hready⟩⟩, hoff⟩
      rw [encryptionTarget, if_neg hnone, Option.mem_def.mp hidx, Option.bind_some, hc]
      rfl

/-- The call for a request accepts what the handler does; the settings before it do not
count. -/
theorem setEncryptionCmd_ok_iff (env : KeyEnv) (k : KeyConfig) (param : EncryptionParam) :
    (setEncryptionCmd env k param).1 = 0 ↔ Accepted env k param := by
  unfold setEncryptionCmd
  split_ifs
  · exact wpaSetEncryption_ok_iff env k param
  · exact wpaSetEncryption_ok_iff env _ param

theorem encryptionSlot_some {param : EncryptionParam} (h : encryptionSlot param = some idx) :
    idx.val = param.idx.toNat ∧ param.key.length = param.keyLen.toNat := by
  unfold encryptionSlot at h
  split_ifs at h with hbad hin
  obtain ⟨hlen, -⟩ := not_or.mp hbad
  obtain rfl := Option.some.inj h
  exact ⟨rfl, not_not.mp hlen⟩

/-- The stores of a key stay in its row exactly if the key is not longer. -/
theorem keyStores_inRow_iff (hidx : idx.val = (b.mem 36).toNat) :
    (∀ st ∈ keyStores b idx, InRow b st) ↔ b.encryption.keyLen.toNat ≤ algKeyLen := by
  constructor
  · intro h
    by_contra hlong
    -- the last byte of the key
    obtain ⟨idx', hidx', -, hlt⟩ := h _ (List.mem_map_of_mem (List.mem_range.mpr (Nat.sub_one_lt_of_lt (not_le.mp hlong))))
    obtain rfl : idx' = idx := Fin.ext (hidx'.trans hidx.symm)
    replace hlt : rowOf idx' + (b.encryption.keyLen.toNat - 1) < rowOf idx' + algKeyLen := hlt
    omega
  · intro hle st hst
    have haddr := addr_copy hst
    exact ⟨idx, hidx, haddr.1, by omega⟩

/-- **When the key stays in its row**: a module has looked at it, or it is not longer. -/
theorem requestStores_inRow_iff (env : KeyEnv) (k : KeyConfig) (b : ParamBuffer) :
    (∀ st ∈ requestStores b (setEncryptionCmd env k b.encryption).1, InRow b st) ↔
      (SkipsKeyCheck env k b.encryption → b.encryption.keyLen.toNat ≤ algKeyLen) := by
  unfold requestStores
  cases hslot : encryptionSlot b.encryption with
  | none =>
    refine iff_of_true (List.forall_mem_nil _) fun h => ?_
    have hsome := h.1
    rw [hslot] at hsome
    cases hsome
  | some idx =>
    obtain ⟨hidx, hlen⟩ := encryptionSlot_some hslot
    dsimp only
    by_cases hlong : algKeyLen < b.encryption.key.length
    · have hcopied : (setEncryptionCmd env k b.encryption).1 = 0 ∧ b.encryption.alg ≠ "none" ↔
          SkipsKeyCheck env k b.encryption := by
        rw [setEncryptionCmd_ok_iff]
        exact accepted_long_iff env k hlong
      split_ifs with hcopy
      · rw [keyStores_inRow_iff hidx]
        exact (imp_iff_right (hcopied.mp hcopy)).symm
      · exact iff_of_true (List.forall_mem_nil _) fun h => absurd (hcopied.mpr h) hcopy
    · rw [hlen] at hlong
      have hle := not_lt.mp hlong
      refine iff_of_true ?_ fun _ => hle
      split_ifs
      · exact (keyStores_inRow_iff hidx).mpr hle
      · exact List.forall_mem_nil _

/-! ### The ioctl -/

/-- An element that is stored lies inside the request. -/
def ElementFits (env : SupplicantEnv) (b : ParamBuffer) : Prop :=
  (b.word32 12).toNat ≤ maxWpaIeLen → env.alloc = true → 48 + (b.word32 12).toNat ≤ b.len

/-- **When the element is read inside the request.** -/
theorem wpaSetWpaIe_safe_iff (env : SupplicantEnv) (s : WpaStation P) (hsize : sizeofIeeeParam ≤ b.len) :
    (s.wpaSetWpaIe env b).All Access.Safe ↔ ElementFits env b := by
  unfold sizeofIeeeParam at hsize
  have hlen : (b.readField 12 4 (b.word32 12).toNat).All Access.Safe := b.readField_safe (by omega)
  rw [WpaStation.wpaSetWpaIe, Traced.all_bind, and_iff_right hlen, ParamBuffer.value_readField]
  unfold ElementFits
  split_ifs with hlong hzero halloc
  · exact iff_of_true (Traced.pure_all _) fun hle => absurd hle (not_le.mpr hlong)
  · exact iff_of_true (Traced.pure_all _) fun _ h => by simp [h] at halloc
  · rw [Traced.all_bind, and_iff_left (Traced.pure_all _), ParamBuffer.readField_safe_iff, or_iff_right hzero]
    exact ⟨fun h _ _ => h, fun h => h (not_lt.mp hlong) (by simpa using halloc)⟩
  · exact iff_of_true (Traced.pure_all _) fun _ _ => by omega

/-- The dispatch reads inside the request, but for the element. -/
theorem supplicantCmd_safe_iff (env : SupplicantEnv) (s : WpaStation P) (hsize : sizeofIeeeParam ≤ b.len) :
    (supplicantCmd env s b).All Access.Safe ↔ (b.word32 0 = ieeeCmdSetWpaIe → ElementFits env b) := by
  have hword : ∀ {α : Type} {i : ℕ} {a : α}, i + 4 ≤ sizeofIeeeParam → (b.readField i 4 a).All Access.Safe :=
    fun h => b.readField_safe (h.trans hsize)
  have hname : (b.read 12).All Access.Safe := b.read_safe (Nat.lt_of_lt_of_le (by decide) hsize)
  rw [supplicantCmd, Traced.all_bind, and_iff_right (hword (by decide)), ParamBuffer.value_readField]
  by_cases hie : b.word32 0 = ieeeCmdSetWpaIe
  · have hparam : ¬ b.word32 0 = ieeeCmdSetWpaParam := by
      rw [hie]
      decide
    rw [if_neg hparam, if_pos hie, Traced.all_bind, and_iff_left (Traced.pure_all _), wpaSetWpaIe_safe_iff env s hsize]
    exact (imp_iff_right hie).symm
  · refine iff_of_true ?_ fun h => absurd h hie
    rw [if_neg hie, Traced.all_ite, Traced.all_ite, Traced.all_ite]
    refine ⟨fun _ => ?_, fun _ => ⟨fun _ => ?_, fun _ => ⟨fun _ => ?_, fun _ => Traced.pure_all _⟩⟩⟩
    · rw [Traced.all_bind, Traced.all_bind]
      exact ⟨hname, hword (by decide), Traced.pure_all _⟩
    · rw [Traced.all_bind]
      exact ⟨runSetEncryptionCmd_safe env s.keyConfig hsize, Traced.pure_all _⟩
    · rw [Traced.all_bind, Traced.all_bind]
      exact ⟨hword (by decide), hword (by decide), Traced.pure_all _⟩

/-- The stores are those of a request for a key. -/
theorem stores_supplicantCmd (env : SupplicantEnv) (s : WpaStation P) (hsize : sizeofIeeeParam ≤ b.len) :
    (supplicantCmd env s b).value.stores =
      if b.word32 0 = ieeeCmdSetEncryption then
        requestStores b (setEncryptionCmd env.toKeyEnv s.keyConfig b.encryption).1
      else [] := by
  rw [supplicantCmd, Traced.value_bind, ParamBuffer.value_readField]
  by_cases henc : b.word32 0 = ieeeCmdSetEncryption
  · have hparam : ¬ b.word32 0 = ieeeCmdSetWpaParam := by
      rw [henc]
      decide
    have hie : ¬ b.word32 0 = ieeeCmdSetWpaIe := by
      rw [henc]
      decide
    rw [if_neg hparam, if_neg hie, if_pos henc, if_pos henc, Traced.value_bind,
      runSetEncryptionCmd_value env s.keyConfig hsize]
    rfl
  · rw [if_neg henc, if_neg henc]
    split_ifs <;> rfl

/-- The request is copied, and so looked at. -/
structure Copied (env : SupplicantEnv) (p : IwPoint) : Prop where
  length : sizeofIeeeParam ≤ p.length.toNat
  pointer : p.pointer = true
  alloc : env.paramAlloc = true
  copied : env.copyFrom = true

/-- The ioctl reads inside the request, and the name of the algorithm inside its array;
it writes the key inside the row of its index. -/
structure IoctlSafe (env : SupplicantEnv) (s : WpaStation P) (p : IwPoint) : Prop where
  reads : (wpaSupplicantIoctl env s p).All Access.Safe
  row : ∀ st ∈ (wpaSupplicantIoctl env s p).value.stores, InRow p.param st

/-- A request that is not copied is not read. -/
theorem ioctlSafe_of_not_copied (s : WpaStation P) {p : IwPoint} (h : ¬ Copied env p) : IoctlSafe env s p := by
  have hrefused : ∃ ret, wpaSupplicantIoctl env s p = pure ⟨ret, s, []⟩ := by
    unfold wpaSupplicantIoctl
    by_cases hshort : p.length.toNat < sizeofIeeeParam ∨ (!p.pointer) = true
    · exact ⟨einval, if_pos hshort⟩
    rw [if_neg hshort]
    by_cases halloc : (!env.paramAlloc) = true
    · exact ⟨enomem, if_pos halloc⟩
    rw [if_neg halloc]
    by_cases hcopy : (!env.copyFrom) = true
    · exact ⟨efault, if_pos hcopy⟩
    obtain ⟨hlen, hpointer⟩ := not_or.mp hshort
    exact absurd ⟨not_lt.mp hlen, by simpa using hpointer, by simpa using halloc, by simpa using hcopy⟩ h
  obtain ⟨ret, heq⟩ := hrefused
  constructor
  · rw [heq]
    exact Traced.pure_all _
  · rw [heq]
    exact List.forall_mem_nil _

/-- One that is copied is dispatched; the answer is the copy, from end to end. -/
theorem ioctlSafe_copied_iff (s : WpaStation P) {p : IwPoint} (h : Copied env p) :
    IoctlSafe env s p ↔ (supplicantCmd env s p.param).All Access.Safe ∧
      ∀ st ∈ (supplicantCmd env s p.param).value.stores, InRow p.param st := by
  have heq : wpaSupplicantIoctl env s p = (do
      let e ← supplicantCmd env s p.param
      if e.ret = 0 then do
        p.param.readField 0 p.param.len ()
        pure (if env.copyTo then e else { e with ret := efault })
      else pure e) := by
    unfold wpaSupplicantIoctl
    rw [if_neg (by simp [h.pointer, h.length]), if_neg (by simp [h.alloc]), if_neg (by simp [h.copied])]
  have hback : (p.param.readField 0 p.param.len ()).All Access.Safe := p.param.readField_safe (Nat.zero_add _).le
  have hstores : (wpaSupplicantIoctl env s p).value.stores = (supplicantCmd env s p.param).value.stores := by
    rw [heq, Traced.value_bind, Traced.value_ite]
    by_cases hret : (supplicantCmd env s p.param).value.ret = 0
    · rw [if_pos hret, Traced.value_bind, Traced.value_pure]
      split_ifs <;> rfl
    · rw [if_neg hret, Traced.value_pure]
  have hreads : (wpaSupplicantIoctl env s p).All Access.Safe ↔ (supplicantCmd env s p.param).All Access.Safe := by
    rw [heq, Traced.all_bind]
    refine and_iff_left ?_
    rw [Traced.all_ite, Traced.all_bind]
    exact ⟨fun _ => ⟨hback, Traced.pure_all _⟩, fun _ => Traced.pure_all _⟩
  constructor
  · rintro ⟨hr, hs⟩
    rw [hstores] at hs
    exact ⟨hreads.mp hr, hs⟩
  · rintro ⟨hr, hs⟩
    rw [← hstores] at hs
    exact ⟨hreads.mpr hr, hs⟩

/-- What a request must keep to: an element that is stored lies inside it, and a key
that no module looks at is not longer than a row. -/
structure RequestOk (env : SupplicantEnv) (s : WpaStation P) (b : ParamBuffer) : Prop where
  element : b.word32 0 = ieeeCmdSetWpaIe → ElementFits env b
  key : b.word32 0 = ieeeCmdSetEncryption → SkipsKeyCheck env.toKeyEnv s.keyConfig b.encryption →
    b.encryption.keyLen.toNat ≤ algKeyLen

/-- **When the ioctl keeps to the request and the row.** -/
theorem supplicantIoctl_iff (env : SupplicantEnv) (s : WpaStation P) (p : IwPoint) :
    IoctlSafe env s p ↔ (Copied env p → RequestOk env s p.param) := by
  by_cases hcopied : Copied env p
  · have hsize : sizeofIeeeParam ≤ p.param.len := hcopied.length
    rw [imp_iff_right hcopied, ioctlSafe_copied_iff s hcopied, supplicantCmd_safe_iff env s hsize,
      stores_supplicantCmd env s hsize]
    have hrow : (∀ st ∈ (if p.param.word32 0 = ieeeCmdSetEncryption then
          requestStores p.param (setEncryptionCmd env.toKeyEnv s.keyConfig p.param.encryption).1
        else []), InRow p.param st) ↔
        (p.param.word32 0 = ieeeCmdSetEncryption → SkipsKeyCheck env.toKeyEnv s.keyConfig p.param.encryption →
          p.param.encryption.keyLen.toNat ≤ algKeyLen) := by
      split_ifs with henc
      · rw [imp_iff_right henc]
        exact requestStores_inRow_iff env.toKeyEnv s.keyConfig p.param
      · exact iff_of_true (List.forall_mem_nil _) fun h => absurd h henc
    rw [hrow]
    exact ⟨fun h => ⟨h.1, h.2⟩, fun h => ⟨h.element, h.key⟩⟩
  · exact iff_of_true (ioctlSafe_of_not_copied s hcopied) fun h => absurd h hcopied

end

/-- Where everything is there that is asked for. -/
def supplicantEnv : SupplicantEnv :=
  { alloc := true, registered := fun _ => true, init := true, iv := 0
    paramAlloc := true, copyFrom := true, copyTo := true, late := fun _ => false }

/-- A request that ends where an element of 64 bytes is to begin. -/
def elementRequest : IwPoint := ⟨true, 48, at8 (le32 ieeeCmdSetWpaIe ++ List.replicate 8 0 ++ le32 64)⟩

/-- The element is read behind the request. -/
theorem elementRequest_not_safe : ¬ ∀ (env : SupplicantEnv) (s : WpaStation Unit) (p : IwPoint),
    sizeofIeeeParam ≤ p.length.toNat → IoctlSafe env s p := by
  intro h
  have hcopied : Copied supplicantEnv elementRequest := ⟨by decide, rfl, rfl, rfl⟩
  have hsafe := h supplicantEnv ⟨SoftMac.onChannelOne, 0, 0⟩ elementRequest (by decide)
  have hreads := ((ioctlSafe_copied_iff _ hcopied).mp hsafe).1
  have hfits := (supplicantCmd_safe_iff supplicantEnv _ (by decide)).mp hreads (by decide)
  exact absurd (hfits (by decide) rfl) (by decide)

/-- A request for a key of 33 bytes, for the module without `set_key`. -/
def nullRequest : ParamBuffer :=
  ⟨81, at8 (le32 ieeeCmdSetEncryption ++ Mac.broadcast.toList ++ [0, 0] ++ bytesOf "NULL" ++ List.replicate 30 0 ++
    le16 33 ++ List.replicate 33 7)⟩

/-- It is written over the end of its row. -/
example : ¬ ∀ st ∈ requestStores nullRequest
    (setEncryptionCmd supplicantEnv.toKeyEnv SoftMac.onChannelOne.keyConfig nullRequest.encryption).1,
      InRow nullRequest st := by
  rw [requestStores_inRow_iff]
  intro h
  have hskips : SkipsKeyCheck supplicantEnv.toKeyEnv SoftMac.onChannelOne.keyConfig nullRequest.encryption :=
    ⟨by decide +kernel, by decide +kernel, .inr ⟨0, by decide +kernel, by decide +kernel, .inr ⟨rfl, rfl⟩⟩⟩
  exact absurd (h hskips) (by decide +kernel)

end Rtl8187

/-
# Setting keys

The ioctls that put cipher contexts into the key slots: `ieee80211_wx_set_encode`
and `ieee80211_wx_set_encode_ext` of `ieee80211_wx.c`, and
`ieee80211_wpa_set_encryption` of `ieee80211_softmac.c`, which
`ieee80211_wpa_supplicant_ioctl` calls. A context is known by its number
(`CtxId`). One that leaves its slot goes to the list `crypt_deinit_list`
(`delayedDeinit`), from where the handler of a timer takes it (`deinitHandler`).

The callbacks `set_security` and `reset_port` are set nowhere, so they are left
out, with the `sec` that the first is given. So is the `err` of a request, which
is not copied back when there is one.

Key definitions: `Cipher`, `CryptContext`, `KeyConfig`, `wxSetEncode`,
`wxSetEncodeExt`, `wpaSetEncryption`, `setEncryptionCmd`, `deinitHandler`,
`freeIeee80211`.
-/
import Rtl8187.CryptTable
import Rtl8187.MgmtFrames

namespace Rtl8187

/-! ### Cipher modules -/

/-- The modules that can be registered. -/
inductive Cipher where
  | null
  | wep
  | tkip
  | ccmp
  deriving DecidableEq

/-- `ops->name` -/
def Cipher.name : Cipher → String
  | .null => "NULL"
  | .wep => "WEP"
  | .tkip => "TKIP"
  | .ccmp => "CCMP"

/-- The module's table. -/
def Cipher.ops (prim : Primitives) : Cipher → CryptoOps Priv
  | .null => nullOps
  | .wep => wepOps prim
  | .tkip => tkipOps prim
  | .ccmp => ccmpOps prim

/-- `ops->init`, when it succeeds; `iv` is the random start of WEP's counter. -/
def Cipher.init (idx : KeyIdx) (iv : UInt32) : Cipher → Priv
  | .null => .null
  | .wep => .wep ⟨iv, [], idx, Nat.zero_le _⟩
  | .tkip => .tkip (tkipInit idx)
  | .ccmp => .ccmp (ccmpInit idx)

namespace Priv

/-- The module whose context this is. -/
def cipher : Priv → Cipher
  | .null => .null
  | .wep _ => .wep
  | .tkip _ => .tkip
  | .ccmp _ => .ccmp

/-- `ops->set_key`; the module that is registered as "NULL" has none. -/
def setKey (key : List UInt8) (seq : Option (List UInt8)) : Priv → Int × Priv
  | .null => (0, .null)
  | .wep d => ((prism2WepSetKey key d).1, .wep (prism2WepSetKey key d).2)
  | .tkip d => ((tkipSetKey key seq d).1, .tkip (tkipSetKey key seq d).2)
  | .ccmp d => ((ccmpSetKey key seq d).1, .ccmp (ccmpSetKey key seq d).2)

/-- `prism2_wep_get_key`, of which only the length matters. -/
def wepKeyLength : Priv → ℕ
  | .wep d => d.key.length
  | _ => 0

end Priv

/-! ### The state -/

/-- The name of a context. -/
abbrev CtxId := ℕ

/-- `struct ieee80211_crypt_data`; its `ops` are those of the module whose context
`priv` is. -/
structure CryptContext where
  priv : Priv
  refcnt : ℕ

/-- A run of `ops->deinit`. -/
structure Deinit where
  ctx : CtxId
  forced : Bool
  /-- `refcnt` at that moment. -/
  refcnt : ℕ

/-- The fields of `struct ieee80211_device` that the ioctls use. -/
structure KeyConfig where
  crypt : KeyIdx → Option CtxId
  /-- The memory of the contexts. -/
  contexts : CtxId → CryptContext
  /-- The next context that is allocated. -/
  nextCtx : CtxId
  cryptDeinitList : List CtxId
  /-- Whether `crypt_deinit_timer` is pending. -/
  deinitTimer : Bool
  /-- The contexts that were taken down, in order. -/
  deinits : List Deinit
  txKeyidx : KeyIdx
  pairwiseKeyType : ℕ
  iwMode : IwMode
  hostEncrypt : Bool
  hostDecrypt : Bool
  openWep : Bool
  apMacAddr : Mac

/-- What the ioctls meet. -/
structure KeyEnv where
  /-- Whether `kmalloc` succeeds. -/
  alloc : Bool
  /-- The modules that are registered, at least once their module was asked for. -/
  registered : Cipher → Bool
  /-- Whether `try_module_get` and `ops->init` succeed. -/
  init : Bool
  /-- What `get_random_bytes` returns. -/
  iv : UInt32

/-- `ieee80211_get_crypto_ops`, once `request_module` was called if need be. -/
def KeyEnv.getCryptoOps (env : KeyEnv) (name : String) : Option Cipher :=
  [Cipher.null, .wep, .tkip, .ccmp].find? fun c => env.registered c && c.name == name

namespace KeyConfig

variable (k : KeyConfig) (idx : KeyIdx)

/-- What a slot holds. -/
def slot : Option CryptContext := (k.crypt idx).map k.contexts

/-- The device that encrypts and decrypts with these keys. -/
def toDevice (prim : Primitives) (d : Device Priv) : Device Priv :=
  { d with
    crypt := fun idx => (k.slot idx).map fun c => ⟨some (c.priv.cipher.ops prim), c.priv⟩
    txKeyidx := k.txKeyidx
    iwMode := k.iwMode
    hostEncrypt := k.hostEncrypt
    hostDecrypt := k.hostDecrypt
    openWep := k.openWep
    apMacAddr := k.apMacAddr }

/-- `ieee80211_crypt_delayed_deinit` -/
def delayedDeinit : KeyConfig :=
  match k.crypt idx with
  | none => k
  | some i =>
    { k with
      crypt := Function.update k.crypt idx none
      cryptDeinitList := i :: k.cryptDeinitList
      deinitTimer := true }

/-- A new context in a slot. -/
def install (priv : Priv) : KeyConfig :=
  { k with
    crypt := Function.update k.crypt idx (some k.nextCtx)
    contexts := Function.update k.contexts k.nextCtx ⟨priv, 0⟩
    nextCtx := k.nextCtx + 1 }

/-- A context with its `priv` changed. -/
def setPriv (i : CtxId) (priv : Priv) : KeyConfig :=
  { k with contexts := Function.update k.contexts i { k.contexts i with priv := priv } }

/-- `ops->set_key` on the context of a slot. -/
def setKey (key : List UInt8) (seq : Option (List UInt8)) : Int × KeyConfig :=
  match k.crypt idx with
  | none => (0, k)
  | some i => (((k.contexts i).priv.setKey key seq).1, k.setPriv i ((k.contexts i).priv.setKey key seq).2)

/-! ### `ieee80211_wx_set_encode` -/

end KeyConfig

/-- `IW_ENCODE_INDEX` -/
def iwEncodeIndex : UInt16 := 0x00FF

/-- `IW_ENCODE_DISABLED` -/
def iwEncodeDisabled : UInt16 := 0x8000

/-- `IW_ENCODE_RESTRICTED` -/
def iwEncodeRestricted : UInt16 := 0x4000

def einval : Int := -22
def enomem : Int := -12
def eopnotsupp : Int := -95

/-- The slot that flags name: number 1 to `WEP_KEYS`, or `default` for 0. -/
def namedSlot (flags : UInt16) (default : KeyIdx) : Option KeyIdx :=
  let n := (flags &&& iwEncodeIndex).toNat
  if n = 0 then some default
  else if h : n ≤ 4 ∧ n ≠ 0 then some ⟨n - 1, by omega⟩
  else none

/-- `struct iw_point` of a `SIOCSIWENCODE`, with the bytes behind it. -/
structure EncodeRequest where
  flags : UInt16
  key : List UInt8

namespace KeyConfig

/-- WEP is taken into use in a slot, unless it is. -/
def takeWep (env : KeyEnv) (k : KeyConfig) (idx : KeyIdx) : Int × KeyConfig :=
  if (k.crypt idx).isSome then (0, k)
  else if !env.alloc then (enomem, k)
  else if !env.registered .wep || !env.init then (eopnotsupp, k)
  else (0, k.install idx (Cipher.wep.init idx env.iv))

/-- `ieee80211_wx_set_encode` -/
def wxSetEncode (env : KeyEnv) (k : KeyConfig) (req : EncodeRequest) : Int × KeyConfig :=
  match namedSlot req.flags k.txKeyidx with
  | none => (einval, k)
  | some key =>
    let provided := req.flags &&& iwEncodeIndex ≠ 0
    let openWep := req.flags &&& iwEncodeRestricted == 0
    if req.flags &&& iwEncodeDisabled ≠ 0 then
      -- the slot that is named, or all of them
      let k := if provided then k.delayedDeinit key else (List.finRange 4).foldl delayedDeinit k
      (0, { k with openWep := openWep })
    else
      let k := if (k.slot key).any (·.priv.cipher.name != "WEP") then k.delayedDeinit key else k
      let (ret, k) := takeWep env k key
      if ret ≠ 0 then (ret, k)
      else if 0 < req.key.length then
        let len := if req.key.length ≤ 5 then 5 else 13
        let k := (k.setKey key ((req.key ++ List.replicate 13 0).take len) none).2
        (0, { k with txKeyidx := key, openWep := openWep })
      else
        let unset := (k.slot key).any (·.priv.wepKeyLength == 0)
        let k := if unset then (k.setKey key (List.replicate 13 0) none).2 else k
        (0, { k with txKeyidx := if provided then key else k.txKeyidx, openWep := openWep })

end KeyConfig

/-! ### `ieee80211_wx_set_encode_ext` -/

/-- `IW_ENCODE_EXT_GROUP_KEY` -/
def iwEncodeExtGroupKey : UInt32 := 4

/-- `IW_ENCODE_EXT_SET_TX_KEY` -/
def iwEncodeExtSetTxKey : UInt32 := 8

def iwEncodeAlgNone : UInt16 := 0
def iwEncodeAlgWep : UInt16 := 1
def iwEncodeAlgTkip : UInt16 := 2
def iwEncodeAlgCcmp : UInt16 := 3

/-- `struct iw_encode_ext`, with the flags of the `struct iw_point` it comes with. -/
structure EncodeExtRequest where
  flags : UInt16
  extFlags : UInt32
  alg : UInt16
  rxSeq : List UInt8
  key : List UInt8

/-- The names of the algorithms. -/
def extAlg (alg : UInt16) : Option String :=
  if alg = iwEncodeAlgWep then some "WEP"
  else if alg = iwEncodeAlgTkip then some "TKIP"
  else if alg = iwEncodeAlgCcmp then some "CCMP"
  else none

namespace KeyConfig

/-- The slot has a context of this module, or gets a new one: the old one, if
there is one, is gone whether the new one can be made or not. -/
def takeCipher (env : KeyEnv) (k : KeyConfig) (idx : KeyIdx) (cipher : Cipher) : Int × KeyConfig :=
  if (k.slot idx).any (·.priv.cipher == cipher) then (0, k)
  else
    let k := k.delayedDeinit idx
    if !env.alloc then (enomem, k)
    else if !env.init then (einval, k)
    else (0, k.install idx (cipher.init idx env.iv))

/-- A slot gets a context of this module, and the context gets the key. -/
def putKey (env : KeyEnv) (k : KeyConfig) (idx : KeyIdx) (cipher : Cipher) (key seq : List UInt8) :
    Int × KeyConfig :=
  let (ret, k) := takeCipher env k idx cipher
  if ret ≠ 0 then (ret, k)
  else if key.length = 0 then (0, k)
  else
    let (ret, k) := k.setKey idx key (some seq)
    if ret < 0 then (einval, k) else (0, k)

/-- `ieee80211_wx_set_encode_ext` -/
def wxSetEncodeExt (env : KeyEnv) (k : KeyConfig) (req : EncodeExtRequest) : Int × KeyConfig :=
  match namedSlot req.flags k.txKeyidx with
  | none => (einval, k)
  | some idx =>
    let groupKey := req.extFlags &&& iwEncodeExtGroupKey ≠ 0
    if ¬ groupKey ∧ (idx ≠ 0 ∧ req.alg ≠ iwEncodeAlgWep) then (einval, k)
    else if ¬ groupKey ∧ k.iwMode ≠ .infra then (einval, k)
    else if req.flags &&& iwEncodeDisabled ≠ 0 ∨ req.alg = iwEncodeAlgNone then (0, k.delayedDeinit idx)
    else
      match (extAlg req.alg).bind env.getCryptoOps with
      | none => (einval, k)
      | some cipher =>
        let (ret, k) := putKey env k idx cipher req.key req.rxSeq
        if ret ≠ 0 then (ret, k)
        else if req.extFlags &&& iwEncodeExtSetTxKey ≠ 0 then (0, { k with txKeyidx := idx })
        else (0, k)

end KeyConfig

/-! ### `ieee80211_wpa_set_encryption` -/

/-- `struct ieee_param` with the command `IEEE_CMD_SET_ENCRYPTION`. -/
structure EncryptionParam where
  staAddr : Mac
  /-- The name, as far as the array holds one. -/
  alg : String
  setTx : UInt8
  idx : UInt8
  seq : List UInt8
  /-- `key_len` -/
  keyLen : UInt16
  /-- The bytes behind the structure, as many as the length of the request says. -/
  key : List UInt8

def keyTypeNa : ℕ := 0
def keyTypeWep40 : ℕ := 1
def keyTypeTkip : ℕ := 2
def keyTypeCcmp : ℕ := 4
def keyTypeWep104 : ℕ := 5

namespace KeyConfig

/-- `ieee80211_wpa_set_encryption` -/
def wpaSetEncryption (env : KeyEnv) (k : KeyConfig) (param : EncryptionParam) : Int × KeyConfig :=
  if param.key.length ≠ param.keyLen.toNat then (einval, k)
  else if param.staAddr ≠ Mac.broadcast then (einval, k)
  else if h : param.idx.toNat < 4 then
    let idx : KeyIdx := ⟨param.idx.toNat, h⟩
    let skipHostCrypt (k : KeyConfig) : Int × KeyConfig :=
      (0, if param.setTx ≠ 0 then { k with txKeyidx := idx } else k)
    if param.alg = "none" then (0, k.delayedDeinit idx)
    else if !(k.hostEncrypt || k.hostDecrypt) && param.alg != "TKIP" then skipHostCrypt k
    else
      match env.getCryptoOps param.alg with
      | none => (einval, k)
      | some cipher =>
        let (ret, k) := putKey env k idx cipher param.key param.seq
        if ret ≠ 0 then (ret, k) else skipHostCrypt k
  else (einval, k)

/-- The pairwise key type that `ieee80211_wpa_supplicant_ioctl` sets before the call. -/
def newPairwiseKeyType (k : KeyConfig) (param : EncryptionParam) : ℕ :=
  if param.alg = "CCMP" then keyTypeCcmp
  else if param.alg = "TKIP" then keyTypeTkip
  else if param.alg = "WEP" then
    if param.keyLen = 13 then keyTypeWep104 else if param.keyLen = 5 then keyTypeWep40 else k.pairwiseKeyType
  else keyTypeNa

/-- The case `IEEE_CMD_SET_ENCRYPTION` of `ieee80211_wpa_supplicant_ioctl`. -/
def setEncryptionCmd (env : KeyEnv) (k : KeyConfig) (param : EncryptionParam) : Int × KeyConfig :=
  if param.setTx = 0 then wpaSetEncryption env k param
  else
    let type := newPairwiseKeyType k param
    let adhoc := type ≠ keyTypeNa ∧ k.apMacAddr = ⟨0, 0, 0, 0, 0, 0⟩
    wpaSetEncryption env
      { k with pairwiseKeyType := type, iwMode := if adhoc then .adhoc else k.iwMode } param

/-! ### Taking contexts down -/

/-- A turn of the loop of `ieee80211_crypt_deinit_entries`. -/
def deinitEntry (force : Bool) (k : KeyConfig) (i : CtxId) : KeyConfig :=
  if (k.contexts i).refcnt ≠ 0 ∧ ¬ force then k
  else
    { k with
      cryptDeinitList := k.cryptDeinitList.erase i
      deinits := k.deinits ++ [⟨i, force, (k.contexts i).refcnt⟩] }

/-- `ieee80211_crypt_deinit_entries` -/
def deinitEntries (force : Bool) (k : KeyConfig) : KeyConfig :=
  k.cryptDeinitList.foldl (deinitEntry force) k

/-- `ieee80211_crypt_deinit_handler` -/
def deinitHandler (k : KeyConfig) : KeyConfig :=
  let k := k.deinitEntries false
  if k.cryptDeinitList ≠ [] then { k with deinitTimer := true } else k

/-- A turn of the loop over the slots in `free_ieee80211`. -/
def freeSlot (k : KeyConfig) (idx : KeyIdx) : KeyConfig :=
  match k.crypt idx with
  | none => k
  | some i =>
    { k with
      crypt := Function.update k.crypt idx none
      deinits := k.deinits ++ [⟨i, true, (k.contexts i).refcnt⟩] }

/-- `free_ieee80211`, as far as the keys go. -/
def freeIeee80211 (k : KeyConfig) : KeyConfig :=
  (List.finRange 4).foldl freeSlot ({ k with deinitTimer := false }.deinitEntries true)

end KeyConfig

end Rtl8187

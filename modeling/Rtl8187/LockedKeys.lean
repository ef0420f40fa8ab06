/-
# The calls that set keys, with the locks

`ieee80211_crypt_delayed_deinit` takes `ieee->lock` for the list it puts a context
on, if the slot has one, and the timer takes the lock for its walk over that list.
Else the calls that set keys do not come to it.

Key definitions: `Locked.delayedDeinit`, `Locked.putKey`, `Locked.wxSetEncode`,
`Locked.wxSetEncodeExt`, `Locked.setEncryptionCmd`.
Key theorems: `Locked.wxSetEncode_gives`, `Locked.wxSetEncodeExt_gives`,
`Locked.setEncryptionCmd_gives`.
-/
import Rtl8187.LockedFrames
import Rtl8187.KeyConfig

namespace Rtl8187

open Locks Call

namespace Locked

/-- `ieee80211_crypt_delayed_deinit` -/
def delayedDeinit (idx : KeyIdx) : Call SpinLock KeyConfig Unit := do
  let k ← read
  match k.crypt idx with
  | none => pure ()
  | some i =>
    act fun k => { k with crypt := Function.update k.crypt idx none }
    locked .ieee (act fun k => { k with cryptDeinitList := i :: k.cryptDeinitList, deinitTimer := true })

/-- All slots are emptied. -/
def deinitSlots : List KeyIdx → Call SpinLock KeyConfig Unit
  | [] => pure ()
  | idx :: rest => do
    delayedDeinit idx
    deinitSlots rest

/-- `ieee80211_crypt_deinit_handler` -/
def deinitHandler : Call SpinLock KeyConfig Unit := locked .ieee (act KeyConfig.deinitHandler)

variable (env : KeyEnv)

/-- `ieee80211_wx_set_encode` once the slot has the context it is to have. -/
def putWep (req : EncodeRequest) (key : KeyIdx) (k : KeyConfig) : Int × KeyConfig :=
  let provided := req.flags &&& iwEncodeIndex ≠ 0
  let openWep := req.flags &&& iwEncodeRestricted == 0
  let (ret, k) := KeyConfig.takeWep env k key
  if ret ≠ 0 then (ret, k)
  else if 0 < req.key.length then
    let len := if req.key.length ≤ 5 then 5 else 13
    let k := (k.setKey key ((req.key ++ List.replicate 13 0).take len) none).2
    (0, { k with txKeyidx := key, openWep := openWep })
  else
    let unset := (k.slot key).any (·.priv.wepKeyLength == 0)
    let k := if unset then (k.setKey key (List.replicate 13 0) none).2 else k
    (0, { k with txKeyidx := if provided then key else k.txKeyidx, openWep := openWep })

/-- `ieee80211_wx_set_encode` -/
def wxSetEncode (req : EncodeRequest) : Call SpinLock KeyConfig Int := do
  let k ← read
  match namedSlot req.flags k.txKeyidx with
  | none => pure einval
  | some key =>
    if req.flags &&& iwEncodeDisabled ≠ 0 then
      deinitSlots (if req.flags &&& iwEncodeIndex ≠ 0 then [key] else List.finRange 4)
      compute fun k => (0, { k with openWep := req.flags &&& iwEncodeRestricted == 0 })
    else
      onlyIf ((k.slot key).any (·.priv.cipher.name != "WEP")) (delayedDeinit key)
      compute (putWep env req key)

/-- The slot has a context of this module, or gets a new one. -/
def takeCipher (idx : KeyIdx) (cipher : Cipher) : Call SpinLock KeyConfig Int := do
  let k ← read
  if (k.slot idx).any (·.priv.cipher == cipher) then pure 0
  else
    delayedDeinit idx
    if !env.alloc then pure enomem
    else if !env.init then pure einval
    else compute fun k => (0, k.install idx (cipher.init idx env.iv))

/-- A slot gets a context of this module, and the context gets the key. -/
def putKey (idx : KeyIdx) (cipher : Cipher) (key seq : List UInt8) : Call SpinLock KeyConfig Int := do
  let ret ← takeCipher env idx cipher
  if ret ≠ 0 then pure ret
  else if key.length = 0 then pure 0
  else
    compute fun k =>
      let (ret, k) := k.setKey idx key (some seq)
      if ret < 0 then (einval, k) else (0, k)

/-- `ieee80211_wx_set_encode_ext` -/
def wxSetEncodeExt (req : EncodeExtRequest) : Call SpinLock KeyConfig Int := do
  let k ← read
  match namedSlot req.flags k.txKeyidx with
  | none => pure einval
  | some idx =>
    let groupKey := req.extFlags &&& iwEncodeExtGroupKey ≠ 0
    if ¬ groupKey ∧ (idx ≠ 0 ∧ req.alg ≠ iwEncodeAlgWep) then pure einval
    else if ¬ groupKey ∧ k.iwMode ≠ .infra then pure einval
    else if req.flags &&& iwEncodeDisabled ≠ 0 ∨ req.alg = iwEncodeAlgNone then
      delayedDeinit idx
      pure 0
    else
      match (extAlg req.alg).bind env.getCryptoOps with
      | none => pure einval
      | some cipher =>
        let ret ← putKey env idx cipher req.key req.rxSeq
        if ret ≠ 0 then pure ret
        else if req.extFlags &&& iwEncodeExtSetTxKey ≠ 0 then compute fun k => (0, { k with txKeyidx := idx })
        else pure 0

/-- `ieee80211_wpa_set_encryption` -/
def wpaSetEncryption (param : EncryptionParam) : Call SpinLock KeyConfig Int := do
  let k ← read
  if param.key.length ≠ param.keyLen.toNat then pure einval
  else if param.staAddr ≠ Mac.broadcast then pure einval
  else if h : param.idx.toNat < 4 then
    let idx : KeyIdx := ⟨param.idx.toNat, h⟩
    let skipHostCrypt : Call SpinLock KeyConfig Int :=
      compute fun k => (0, if param.setTx ≠ 0 then { k with txKeyidx := idx } else k)
    if param.alg = "none" then
      delayedDeinit idx
      pure 0
    else if !(k.hostEncrypt || k.hostDecrypt) && param.alg != "TKIP" then skipHostCrypt
    else
      match env.getCryptoOps param.alg with
      | none => pure einval
      | some cipher =>
        let ret ← putKey env idx cipher param.key param.seq
        if ret ≠ 0 then pure ret else skipHostCrypt
  else pure einval

/-- The case `IEEE_CMD_SET_ENCRYPTION` of `ieee80211_wpa_supplicant_ioctl`. -/
def setEncryptionCmd (param : EncryptionParam) : Call SpinLock KeyConfig Int := do
  let k ← read
  if param.setTx = 0 then wpaSetEncryption env param
  else
    let type := KeyConfig.newPairwiseKeyType k param
    let adhoc := type ≠ keyTypeNa ∧ k.apMacAddr = ⟨0, 0, 0, 0, 0, 0⟩
    act fun k => { k with pairwiseKeyType := type, iwMode := if adhoc then .adhoc else k.iwMode }
    wpaSetEncryption env param

theorem delayedDeinit_keeps (idx : KeyIdx) :
    Keeps .ieee (delayedDeinit idx) fun k => k.delayedDeinit idx := by
  intro k
  unfold delayedDeinit KeyConfig.delayedDeinit
  refine .bind .read ?_
  beta_reduce
  cases k.crypt idx with
  | none => exact .pure ()
  | some i => exact .bind (.act _) (.locked (.act _))

theorem deinitSlots_keeps : ∀ slots : List KeyIdx,
    Keeps .ieee (deinitSlots slots) fun k => slots.foldl KeyConfig.delayedDeinit k
  | [], _ => .pure ()
  | idx :: rest, k => .bind (delayedDeinit_keeps idx k) (deinitSlots_keeps rest _)

theorem deinitHandler_keeps : Keeps .ieee deinitHandler KeyConfig.deinitHandler := (passes_act _).locked

theorem wxSetEncode_gives (req : EncodeRequest) :
    Gives .ieee (wxSetEncode env req) fun k => k.wxSetEncode env req := by
  intro k
  unfold wxSetEncode KeyConfig.wxSetEncode
  refine .bind .read ?_
  beta_reduce
  cases namedSlot req.flags k.txKeyidx with
  | none => exact .pure einval
  | some key =>
    have hslots : Runs .ieee (deinitSlots (if req.flags &&& iwEncodeIndex ≠ 0 then [key] else List.finRange 4))
        k false () (if req.flags &&& iwEncodeIndex ≠ 0 then k.delayedDeinit key
          else (List.finRange 4).foldl KeyConfig.delayedDeinit k) false := by
      split_ifs
      · exact deinitSlots_keeps [key] k
      · exact deinitSlots_keeps (List.finRange 4) k
    refine .iteGives (fun _ => .bind hslots (.compute _)) fun _ => ?_
    exact .bind (.onlyIf fun _ => delayedDeinit_keeps key k) (.compute _)

theorem takeCipher_gives (idx : KeyIdx) (cipher : Cipher) :
    Gives .ieee (takeCipher env idx cipher) fun k => k.takeCipher env idx cipher :=
  fun k => .bind .read (.iteGives (fun _ => .pure 0) fun _ => .bind (delayedDeinit_keeps idx k)
    (.iteGives (fun _ => .pure enomem) fun _ => .iteGives (fun _ => .pure einval) fun _ => .compute _))

theorem putKey_gives (idx : KeyIdx) (cipher : Cipher) (key seq : List UInt8) :
    Gives .ieee (putKey env idx cipher key seq) fun k => k.putKey env idx cipher key seq :=
  fun k => .bind (takeCipher_gives env idx cipher k)
    (.iteGives (fun _ => .pure _) fun _ => .iteGives (fun _ => .pure 0) fun _ => .compute _)

theorem wxSetEncodeExt_gives (req : EncodeExtRequest) :
    Gives .ieee (wxSetEncodeExt env req) fun k => k.wxSetEncodeExt env req := by
  intro k
  unfold wxSetEncodeExt KeyConfig.wxSetEncodeExt
  refine .bind .read ?_
  beta_reduce
  cases namedSlot req.flags k.txKeyidx with
  | none => exact .pure einval
  | some idx =>
    refine .iteGives (fun _ => .pure einval) fun _ => .iteGives (fun _ => .pure einval) fun _ => ?_
    refine .iteGives (fun _ => .bind (delayedDeinit_keeps idx k) (.pure 0)) fun _ => ?_
    cases (extAlg req.alg).bind env.getCryptoOps with
    | none => exact .pure einval
    | some cipher =>
      refine .bind (putKey_gives env idx cipher req.key req.rxSeq k) ?_
      exact .iteGives (fun _ => .pure _) fun _ => .iteGives (fun _ => .compute _) fun _ => .pure 0

theorem wpaSetEncryption_gives (param : EncryptionParam) :
    Gives .ieee (wpaSetEncryption env param) fun k => k.wpaSetEncryption env param := by
  intro k
  unfold wpaSetEncryption KeyConfig.wpaSetEncryption
  refine .bind .read (.iteGives (fun _ => .pure einval) fun _ => .iteGives (fun _ => .pure einval) fun _ => ?_)
  by_cases hidx : param.idx.toNat < 4
  · simp only [dif_pos hidx]
    have hskip : ∀ k : KeyConfig, Runs SpinLock.ieee (compute fun k : KeyConfig =>
        ((0 : Int), if param.setTx ≠ 0 then { k with txKeyidx := ⟨param.idx.toNat, hidx⟩ } else k))
        k false 0 (if param.setTx ≠ 0 then { k with txKeyidx := ⟨param.idx.toNat, hidx⟩ } else k) false :=
      fun _ => .compute _
    refine .iteGives (fun _ => .bind (delayedDeinit_keeps _ k) (.pure 0)) fun _ => ?_
    refine .iteGives (fun _ => hskip k) fun _ => ?_
    cases env.getCryptoOps param.alg with
    | none => exact .pure einval
    | some cipher =>
      refine .bind (putKey_gives env _ cipher param.key param.seq k) ?_
      exact .iteGives (fun _ => .pure _) fun _ => hskip _
  · simp only [dif_neg hidx]
    exact .pure einval

theorem setEncryptionCmd_gives (param : EncryptionParam) :
    Gives .ieee (setEncryptionCmd env param) fun k => k.setEncryptionCmd env param :=
  fun k => .bind .read (.iteGives (fun _ => wpaSetEncryption_gives env param k)
    fun _ => .bind (.act _) (wpaSetEncryption_gives env param _))

end Locked

end Rtl8187

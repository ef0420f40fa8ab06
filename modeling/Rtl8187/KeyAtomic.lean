/-
# Requests that are refused

Whether an ioctl that refuses to set a key leaves the keys as they were. It does if
it fails before it touches the slot. But a context of another module leaves the
slot before the new one can be made, and `set_key` of TKIP and CCMP clears the
context before it looks at the length of the key (`putKey_keeps_iff`).

Key definitions: `SameKeys`, `KeepsOnError`, `Settable`, `Harmless`, `extTarget`,
`encryptionTarget`, `Accepted`.
Key theorems: `putKey_keeps_iff`, `wpaSetEncryption_ok_iff`, `keys_kept_iff`.
-/
import Rtl8187.CryptLife

namespace Rtl8187

/-! ### The key of a module -/

/-- Whether `set_key` takes the key. -/
def Cipher.Fits (key : List UInt8) : Cipher → Prop
  | .null => True
  | .wep => key.length ≤ wepKeyLen
  | .tkip => key.length = tkipKeyLen ∨ key.length = 0
  | .ccmp => key.length = ccmpTkLen ∨ key.length = 0

namespace Priv

/-- What `set_key` leaves of a context when it refuses the key. -/
def cleared : Priv → Priv
  | .null => .null
  | .wep d => .wep d
  | .tkip d => .tkip (TkipData.cleared d.keyIdx)
  | .ccmp d => .ccmp (CcmpData.cleared d.keyIdx d.tfm)

theorem cipher_cleared (priv : Priv) : priv.cleared.cipher = priv.cipher := by
  cases priv <;> rfl

theorem setKey_takes (priv : Priv) {key : List UInt8} (h : priv.cipher.Fits key) (seq : Option (List UInt8)) :
    (priv.setKey key seq).1 = 0 := by
  cases priv with
  | null => rfl
  | wep d =>
    have hlen : key.length ≤ wepKeyLen := h
    simp [setKey, prism2WepSetKey, hlen]
  | tkip d =>
    rcases h with h | h
    · simp [setKey, tkipSetKey, h]
    · simp [setKey, tkipSetKey, h, tkipKeyLen]
  | ccmp d =>
    rcases h with h | h
    · simp [setKey, ccmpSetKey, h]
    · simp [setKey, ccmpSetKey, h, ccmpTkLen]

theorem setKey_refuses (priv : Priv) {key : List UInt8} (h : ¬ priv.cipher.Fits key) (seq : Option (List UInt8)) :
    priv.setKey key seq = (-1, priv.cleared) := by
  cases priv with
  | null => exact absurd trivial h
  | wep d =>
    have hlen : ¬ key.length ≤ wepKeyLen := h
    simp [setKey, prism2WepSetKey, hlen, cleared]
  | tkip d =>
    obtain ⟨hlen, hzero⟩ := not_or.mp h
    simp only [setKey, tkipSetKey, if_neg hlen, if_neg hzero, cleared]
  | ccmp d =>
    obtain ⟨hlen, hzero⟩ := not_or.mp h
    simp only [setKey, ccmpSetKey, if_neg hlen, if_neg hzero, cleared]

end Priv

theorem Cipher.fits_nil {key : List UInt8} (h : key.length = 0) (cipher : Cipher) : cipher.Fits key := by
  cases cipher with
  | null => trivial
  | wep => exact h.le.trans (Nat.zero_le _)
  | tkip => exact Or.inr h
  | ccmp => exact Or.inr h

theorem Cipher.cipher_init (idx : KeyIdx) (iv : UInt32) (cipher : Cipher) : (cipher.init idx iv).cipher = cipher := by
  cases cipher <;> rfl

namespace KeyConfig

variable {env : KeyEnv} {k k' : KeyConfig}

/-! ### What is to be kept -/

/-- The slots, the contexts in them, the slot for sending and the type of the
pairwise key are as they were. -/
structure SameKeys (k k' : KeyConfig) : Prop where
  crypt : k'.crypt = k.crypt
  contexts : ∀ idx i, k.crypt idx = some i → k'.contexts i = k.contexts i
  txKeyidx : k'.txKeyidx = k.txKeyidx
  pairwiseKeyType : k'.pairwiseKeyType = k.pairwiseKeyType

/-- If there is an error, the keys are as they were. -/
def KeepsOnError (k : KeyConfig) (r : Int × KeyConfig) : Prop := r.1 ≠ 0 → SameKeys k r.2

theorem SameKeys.refl (k : KeyConfig) : SameKeys k k := ⟨rfl, fun _ _ _ => rfl, rfl, rfl⟩

theorem SameKeys.slot (h : SameKeys k k') (idx : KeyIdx) : k'.slot idx = k.slot idx := by
  unfold KeyConfig.slot
  rw [h.crypt]
  cases hi : k.crypt idx with
  | none => rfl
  | some i => exact congrArg some (h.contexts idx i hi)

/-- Then frames are encrypted and decrypted as before. -/
theorem SameKeys.toDevice (h : SameKeys k k') (prim : Primitives) (d : Device Priv) :
    (k'.toDevice prim d).crypt = (k.toDevice prim d).crypt ∧
      (k'.toDevice prim d).txKeyidx = (k.toDevice prim d).txKeyidx := by
  refine ⟨funext fun idx => ?_, h.txKeyidx⟩
  unfold KeyConfig.toDevice
  dsimp only
  rw [h.slot]

theorem keepsOnError_iff (k : KeyConfig) (r : Int × KeyConfig) : KeepsOnError k r ↔ r.1 = 0 ∨ SameKeys k r.2 :=
  or_iff_not_imp_left.symm

theorem keepsOnError_ok (k k' : KeyConfig) : KeepsOnError k (0, k') := fun h => absurd rfl h

theorem keepsOnError_same (k : KeyConfig) (ret : Int) : KeepsOnError k (ret, k) := fun _ => .refl k

/-! ### A key for a slot -/

/-- The slot has a context of this module. -/
def Has (k : KeyConfig) (idx : KeyIdx) (cipher : Cipher) : Prop := ∃ c ∈ k.slot idx, c.priv.cipher = cipher

/-- The key can be set. -/
def Settable (env : KeyEnv) (k : KeyConfig) (idx : KeyIdx) (cipher : Cipher) (key : List UInt8) : Prop :=
  cipher.Fits key ∧ (k.Has idx cipher ∨ env.alloc = true ∧ env.init = true)

/-- Nothing is lost when it cannot: there is no context, and none can be made; or
the one there is is as a refused key leaves it. -/
def Harmless (env : KeyEnv) (k : KeyConfig) (idx : KeyIdx) (cipher : Cipher) : Prop :=
  match k.slot idx with
  | none => ¬ (env.alloc = true ∧ env.init = true)
  | some c => c.priv.cipher = cipher ∧ c.priv.cleared = c.priv

theorem takeCipher_has {idx : KeyIdx} {cipher : Cipher} (h : k.Has idx cipher) :
    takeCipher env k idx cipher = (0, k) := by
  obtain ⟨c, hc, hcipher⟩ := h
  have hany : (k.slot idx).any (·.priv.cipher == cipher) = true := by
    rw [Option.mem_def.mp hc]
    simp [hcipher]
  unfold takeCipher
  rw [if_pos hany]

theorem takeCipher_hasNot {idx : KeyIdx} {cipher : Cipher} (h : ¬ k.Has idx cipher) :
    takeCipher env k idx cipher =
      if !env.alloc then (enomem, k.delayedDeinit idx)
      else if !env.init then (einval, k.delayedDeinit idx)
      else (0, (k.delayedDeinit idx).install idx (cipher.init idx env.iv)) := by
  have hany : ¬ (k.slot idx).any (·.priv.cipher == cipher) = true := by
    intro hany
    obtain ⟨c, hc, hcipher⟩ := Option.any_eq_true .. |>.mp hany
    exact h ⟨c, hc, by simpa using hcipher⟩
  unfold takeCipher
  rw [if_neg hany]

/-- What a key does to the context that the slot has then. -/
theorem putKey_taken {k₁ : KeyConfig} {idx : KeyIdx} {cipher : Cipher} {i : CtxId}
    (htake : takeCipher env k idx cipher = (0, k₁)) (hi : k₁.crypt idx = some i)
    (hcipher : (k₁.contexts i).priv.cipher = cipher) (key seq : List UInt8) :
    (cipher.Fits key → (putKey env k idx cipher key seq).1 = 0) ∧
      (¬ cipher.Fits key →
        putKey env k idx cipher key seq = (einval, k₁.setPriv i (k₁.contexts i).priv.cleared)) := by
  have hset : k₁.setKey idx key (some seq) =
      (((k₁.contexts i).priv.setKey key (some seq)).1,
        k₁.setPriv i ((k₁.contexts i).priv.setKey key (some seq)).2) := by
    rw [setKey, hi]
  subst hcipher
  unfold putKey
  rw [htake]
  dsimp only
  rw [if_neg (not_not.mpr rfl), hset]
  constructor
  · intro hfits
    rw [(k₁.contexts i).priv.setKey_takes hfits]
    by_cases hlen : key.length = 0
    · rw [if_pos hlen]
    · rw [if_neg hlen, if_neg (lt_irrefl 0)]
  · intro hfits
    have hlen : ¬ key.length = 0 := fun h => hfits (Cipher.fits_nil h _)
    rw [if_neg hlen, (k₁.contexts i).priv.setKey_refuses hfits]
    rfl

/-- Where no new context can be made, the slot is empty. -/
theorem putKey_cannot {idx : KeyIdx} {cipher : Cipher} (hnot : ¬ k.Has idx cipher)
    (hmake : ¬ (env.alloc = true ∧ env.init = true)) (key seq : List UInt8) :
    (putKey env k idx cipher key seq).1 ≠ 0 ∧ (putKey env k idx cipher key seq).2 = k.delayedDeinit idx := by
  obtain ⟨ret, hret, htake⟩ : ∃ ret ≠ 0, takeCipher env k idx cipher = (ret, k.delayedDeinit idx) := by
    rw [takeCipher_hasNot hnot]
    split_ifs with halloc hinit
    · exact ⟨enomem, by decide, rfl⟩
    · exact ⟨einval, by decide, rfl⟩
    · exact absurd ⟨by simpa using halloc, by simpa using hinit⟩ hmake
  unfold putKey
  rw [htake]
  dsimp only
  rw [if_pos hret]
  exact ⟨hret, rfl⟩

/-- Where one can, it is new. -/
theorem takeCipher_new {idx : KeyIdx} {cipher : Cipher} (hnot : ¬ k.Has idx cipher)
    (hmake : env.alloc = true ∧ env.init = true) :
    takeCipher env k idx cipher = (0, (k.delayedDeinit idx).install idx (cipher.init idx env.iv)) := by
  rw [takeCipher_hasNot hnot, hmake.1, hmake.2]
  rfl

theorem has_install (k : KeyConfig) (idx : KeyIdx) (cipher : Cipher) (iv : UInt32) :
    (k.install idx (cipher.init idx iv)).crypt idx = some k.nextCtx ∧
      ((k.install idx (cipher.init idx iv)).contexts k.nextCtx).priv.cipher = cipher := by
  constructor
  · exact Function.update_self ..
  · simp [install, Cipher.cipher_init]

/-- A key is set exactly if it can be. -/
theorem putKey_ok_iff (idx : KeyIdx) (cipher : Cipher) (key seq : List UInt8) :
    (putKey env k idx cipher key seq).1 = 0 ↔ Settable env k idx cipher key := by
  have hfit : ∀ {k₁ : KeyConfig} {i : CtxId}, takeCipher env k idx cipher = (0, k₁) → k₁.crypt idx = some i →
      (k₁.contexts i).priv.cipher = cipher → (k.Has idx cipher ∨ env.alloc = true ∧ env.init = true) →
      ((putKey env k idx cipher key seq).1 = 0 ↔ Settable env k idx cipher key) := by
    intro k₁ i htake hi hcipher hready
    obtain ⟨htakes, hrefuses⟩ := putKey_taken htake hi hcipher key seq
    by_cases hfits : cipher.Fits key
    · exact iff_of_true (htakes hfits) ⟨hfits, hready⟩
    · have herror : (putKey env k idx cipher key seq).1 ≠ 0 := by
        rw [hrefuses hfits]
        exact (by decide : einval ≠ 0)
      exact iff_of_false herror fun hset => hfits hset.1
  by_cases hhas : k.Has idx cipher
  · obtain ⟨c, hc, hcipher⟩ := hhas
    obtain ⟨i, hi, rfl⟩ := Option.map_eq_some_iff.mp hc
    exact hfit (takeCipher_has ⟨_, hc, hcipher⟩) hi hcipher (Or.inl ⟨_, hc, hcipher⟩)
  by_cases hmake : env.alloc = true ∧ env.init = true
  · obtain ⟨hi, hcipher⟩ := has_install (k.delayedDeinit idx) idx cipher env.iv
    exact hfit (takeCipher_new hhas hmake) hi hcipher (Or.inr hmake)
  · exact iff_of_false (putKey_cannot hhas hmake key seq).1 fun hset => hset.2.elim hhas hmake

/-- Without such a context, nothing is lost only if there is none, and none can be
made. -/
theorem harmless_iff {idx : KeyIdx} {cipher : Cipher} (hnot : ¬ k.Has idx cipher) :
    Harmless env k idx cipher ↔ k.crypt idx = none ∧ ¬ (env.alloc = true ∧ env.init = true) := by
  unfold Harmless
  cases hslot : k.slot idx with
  | none =>
    have hnone : k.crypt idx = none := Option.map_eq_none_iff.mp hslot
    simp [hnone]
  | some c =>
    refine iff_of_false (fun h => hnot ⟨c, hslot, h.1⟩) fun h => ?_
    rw [slot, h.1] at hslot
    cases hslot

theorem slot_setPriv {idx : KeyIdx} {i : CtxId} (hi : k.crypt idx = some i) (priv : Priv) :
    (k.setPriv i priv).slot idx = some { k.contexts i with priv := priv } := by
  unfold slot setPriv
  dsimp only
  rw [hi, Option.map_some, Function.update_self]

theorem sameKeys_setPriv {idx : KeyIdx} {i : CtxId} (hi : k.crypt idx = some i) (priv : Priv) :
    SameKeys k (k.setPriv i priv) ↔ priv = (k.contexts i).priv := by
  constructor
  · intro h
    have hsame := congrArg CryptContext.priv (h.contexts idx i hi)
    simpa [setPriv] using hsame
  · rintro rfl
    refine ⟨rfl, fun _ j _ => ?_, rfl, rfl⟩
    exact congrFun (Function.update_eq_self i k.contexts) j

theorem sameKeys_delayedDeinit (idx : KeyIdx) : SameKeys k (k.delayedDeinit idx) ↔ k.crypt idx = none := by
  constructor
  · intro h
    rw [← h.crypt]
    exact crypt_delayedDeinit k idx
  · intro hnone
    have hsame : k.delayedDeinit idx = k := by
      unfold delayedDeinit
      rw [hnone]
    rw [hsame]
    exact .refl k

/-- The keys survive a refusal exactly if nothing was lost before. -/
theorem putKey_keeps_iff (idx : KeyIdx) (cipher : Cipher) (key seq : List UInt8) :
    KeepsOnError k (putKey env k idx cipher key seq) ↔
      Settable env k idx cipher key ∨ Harmless env k idx cipher := by
  rw [keepsOnError_iff, putKey_ok_iff]
  apply or_congr_right'
  intro hset
  by_cases hhas : k.Has idx cipher
  · obtain ⟨c, hc, hcipher⟩ := hhas
    have hfits : ¬ cipher.Fits key := fun hfits => hset ⟨hfits, Or.inl ⟨c, hc, hcipher⟩⟩
    obtain ⟨i, hi, rfl⟩ := Option.map_eq_some_iff.mp hc
    have hput := (@putKey_taken env k k idx cipher i (takeCipher_has ⟨_, hc, hcipher⟩) hi hcipher key seq).2 hfits
    rw [hput, sameKeys_setPriv hi, Harmless, Option.mem_def.mp hc]
    exact (and_iff_right hcipher).symm
  rw [harmless_iff hhas]
  by_cases hmake : env.alloc = true ∧ env.init = true
  · -- the new context stays, without a key
    have hfits : ¬ cipher.Fits key := fun hfits => hset ⟨hfits, Or.inr hmake⟩
    obtain ⟨hi, hcipher⟩ := has_install (k.delayedDeinit idx) idx cipher env.iv
    have hput := (putKey_taken (takeCipher_new hhas hmake) hi hcipher key seq).2 hfits
    refine iff_of_false (fun hsame => hhas ?_) fun h => h.2 hmake
    rw [hput] at hsame
    have hslot := hsame.slot idx
    rw [slot_setPriv hi] at hslot
    exact ⟨_, hslot.symm, (Priv.cipher_cleared _).trans hcipher⟩
  · rw [(putKey_cannot hhas hmake key seq).2, sameKeys_delayedDeinit]
    exact (and_iff_left hmake).symm

/-! ### The requests -/

/-- The slot and the module of a request that sets a key, as `ieee80211_wx_set_encode_ext`
finds them. -/
def extTarget (env : KeyEnv) (k : KeyConfig) (req : EncodeExtRequest) : Option (KeyIdx × Cipher) :=
  (namedSlot req.flags k.txKeyidx).bind fun idx =>
    let groupKey := req.extFlags &&& iwEncodeExtGroupKey ≠ 0
    if ¬ groupKey ∧ (idx ≠ 0 ∧ req.alg ≠ iwEncodeAlgWep) then none
    else if ¬ groupKey ∧ k.iwMode ≠ .infra then none
    else if req.flags &&& iwEncodeDisabled ≠ 0 ∨ req.alg = iwEncodeAlgNone then none
    else ((extAlg req.alg).bind env.getCryptoOps).map (idx, ·)

/-- The slot of a request to `ieee80211_wpa_set_encryption`. -/
def encryptionSlot (param : EncryptionParam) : Option KeyIdx :=
  if param.key.length ≠ param.keyLen.toNat ∨ param.staAddr ≠ Mac.broadcast then none
  else if h : param.idx.toNat < 4 then some ⟨param.idx.toNat, h⟩ else none

/-- A request that sets no key: it removes one, or only names the slot for sending. -/
def SetsNone (k : KeyConfig) (param : EncryptionParam) : Prop :=
  param.alg = "none" ∨ (!(k.hostEncrypt || k.hostDecrypt) && param.alg != "TKIP") = true

instance (k : KeyConfig) (param : EncryptionParam) : Decidable (SetsNone k param) :=
  inferInstanceAs (Decidable (_ ∨ _))

/-- The slot and the module of a request that sets a key, as
`ieee80211_wpa_set_encryption` finds them. -/
def encryptionTarget (env : KeyEnv) (k : KeyConfig) (param : EncryptionParam) : Option (KeyIdx × Cipher) :=
  if SetsNone k param then none
  else (encryptionSlot param).bind fun idx => (env.getCryptoOps param.alg).map (idx, ·)

/-- `ieee80211_wpa_set_encryption` has nothing to refuse. -/
def Accepted (env : KeyEnv) (k : KeyConfig) (param : EncryptionParam) : Prop :=
  (encryptionSlot param).isSome = true ∧
    (SetsNone k param ∨ ∃ t ∈ encryptionTarget env k param, Settable env k t.1 t.2 param.key)

/-- A change of the slot for sending comes when there is no error any more. -/
theorem keepsOnError_then {k : KeyConfig} {r : Int × KeyConfig} {f : KeyConfig → Int × KeyConfig}
    (hf : ∀ k', (f k').1 = 0) :
    KeepsOnError k (if r.1 ≠ 0 then (r.1, r.2) else f r.2) ↔ KeepsOnError k r := by
  by_cases hr : r.1 = 0
  · rw [if_neg (not_not.mpr hr)]
    exact iff_of_true (fun h => absurd (hf r.2) h) fun h => absurd hr h
  · rw [if_pos hr]

theorem wxSetEncodeExt_keeps_iff (env : KeyEnv) (k : KeyConfig) (req : EncodeExtRequest) :
    KeepsOnError k (wxSetEncodeExt env k req) ↔ ∀ t ∈ extTarget env k req,
      Settable env k t.1 t.2 req.key ∨ Harmless env k t.1 t.2 := by
  have hnone : ∀ {r : Int × KeyConfig}, KeepsOnError k r → (KeepsOnError k r ↔
      ∀ t ∈ (none : Option (KeyIdx × Cipher)), Settable env k t.1 t.2 req.key ∨ Harmless env k t.1 t.2) :=
    fun h => iff_of_true h nofun
  unfold wxSetEncodeExt extTarget
  cases namedSlot req.flags k.txKeyidx with
  | none => exact hnone (keepsOnError_same k einval)
  | some idx =>
    rw [Option.bind_some]
    dsimp only
    by_cases hpairwise : ¬ req.extFlags &&& iwEncodeExtGroupKey ≠ 0 ∧ (idx ≠ 0 ∧ req.alg ≠ iwEncodeAlgWep)
    · rw [if_pos hpairwise, if_pos hpairwise]
      exact hnone (keepsOnError_same k einval)
    by_cases hmode : ¬ req.extFlags &&& iwEncodeExtGroupKey ≠ 0 ∧ k.iwMode ≠ .infra
    · rw [if_neg hpairwise, if_neg hpairwise, if_pos hmode, if_pos hmode]
      exact hnone (keepsOnError_same k einval)
    by_cases hremove : req.flags &&& iwEncodeDisabled ≠ 0 ∨ req.alg = iwEncodeAlgNone
    · rw [if_neg hpairwise, if_neg hpairwise, if_neg hmode, if_neg hmode, if_pos hremove, if_pos hremove]
      exact hnone (keepsOnError_ok k _)
    rw [if_neg hpairwise, if_neg hpairwise, if_neg hmode, if_neg hmode, if_neg hremove, if_neg hremove]
    cases (extAlg req.alg).bind env.getCryptoOps with
    | none => exact hnone (keepsOnError_same k einval)
    | some cipher =>
      have hthen := @keepsOnError_then k (putKey env k idx cipher req.key req.rxSeq)
        (fun k' => if req.extFlags &&& iwEncodeExtSetTxKey ≠ 0 then (0, { k' with txKeyidx := idx }) else (0, k'))
        (by intro k'; split_ifs <;> rfl)
      refine hthen.trans ((putKey_keeps_iff idx cipher req.key req.rxSeq).trans ?_)
      simp

theorem wpaSetEncryption_none (env : KeyEnv) (k : KeyConfig) {param : EncryptionParam}
    (h : encryptionSlot param = none) : wpaSetEncryption env k param = (einval, k) := by
  unfold encryptionSlot at h
  unfold wpaSetEncryption
  split_ifs at h ⊢ with h1 h2 h3
  all_goals grind

/-- The slot for sending, if the request names it. -/
def setTx (k : KeyConfig) (param : EncryptionParam) (idx : KeyIdx) : KeyConfig :=
  if param.setTx ≠ 0 then { k with txKeyidx := idx } else k

theorem wpaSetEncryption_some (env : KeyEnv) (k : KeyConfig) {param : EncryptionParam} {idx : KeyIdx}
    (h : encryptionSlot param = some idx) : wpaSetEncryption env k param =
      if param.alg = "none" then (0, k.delayedDeinit idx)
      else if !(k.hostEncrypt || k.hostDecrypt) && param.alg != "TKIP" then (0, setTx k param idx)
      else
        match env.getCryptoOps param.alg with
        | none => (einval, k)
        | some cipher =>
          if (putKey env k idx cipher param.key param.seq).1 ≠ 0 then
            ((putKey env k idx cipher param.key param.seq).1, (putKey env k idx cipher param.key param.seq).2)
          else (0, setTx (putKey env k idx cipher param.key param.seq).2 param idx) := by
  unfold encryptionSlot at h
  split_ifs at h with hbad hidx
  obtain ⟨hlen, hsta⟩ := not_or.mp hbad
  obtain rfl := Option.some_inj.mp h
  unfold wpaSetEncryption
  rw [if_neg hlen, if_neg hsta, dif_pos hidx]
  rfl

theorem wpaSetEncryption_keeps_iff (env : KeyEnv) (k : KeyConfig) (param : EncryptionParam) :
    KeepsOnError k (wpaSetEncryption env k param) ↔ ∀ t ∈ encryptionTarget env k param,
      Settable env k t.1 t.2 param.key ∨ Harmless env k t.1 t.2 := by
  have hnone : ∀ {r : Int × KeyConfig}, KeepsOnError k r → (KeepsOnError k r ↔
      ∀ t ∈ (none : Option (KeyIdx × Cipher)), Settable env k t.1 t.2 param.key ∨ Harmless env k t.1 t.2) :=
    fun h => iff_of_true h nofun
  unfold encryptionTarget
  cases hslot : encryptionSlot param with
  | none =>
    rw [wpaSetEncryption_none env k hslot, Option.bind_none, ite_self]
    exact hnone (keepsOnError_same k einval)
  | some idx =>
    rw [wpaSetEncryption_some env k hslot, Option.bind_some]
    by_cases hremove : param.alg = "none"
    · have hsets : SetsNone k param := Or.inl hremove
      rw [if_pos hremove, if_pos hsets]
      exact hnone (keepsOnError_ok k _)
    by_cases hskip : (!(k.hostEncrypt || k.hostDecrypt) && param.alg != "TKIP") = true
    · have hsets : SetsNone k param := Or.inr hskip
      rw [if_neg hremove, if_pos hskip, if_pos hsets]
      exact hnone (keepsOnError_ok k _)
    have hsets : ¬ SetsNone k param := not_or.mpr ⟨hremove, hskip⟩
    rw [if_neg hremove, if_neg hskip, if_neg hsets]
    cases env.getCryptoOps param.alg with
    | none => exact hnone (keepsOnError_same k einval)
    | some cipher =>
      have hthen := @keepsOnError_then k (putKey env k idx cipher param.key param.seq)
        (fun k' => (0, setTx k' param idx)) fun _ => rfl
      refine hthen.trans ((putKey_keeps_iff idx cipher param.key param.seq).trans ?_)
      simp

/-- There is no error exactly if there is nothing to refuse. -/
theorem wpaSetEncryption_ok_iff (env : KeyEnv) (k : KeyConfig) (param : EncryptionParam) :
    (wpaSetEncryption env k param).1 = 0 ↔ Accepted env k param := by
  unfold Accepted encryptionTarget
  cases hslot : encryptionSlot param with
  | none =>
    rw [wpaSetEncryption_none env k hslot]
    exact iff_of_false (by decide : einval ≠ 0) fun h => absurd h.1 Bool.false_ne_true
  | some idx =>
    rw [wpaSetEncryption_some env k hslot, Option.bind_some]
    by_cases hremove : param.alg = "none"
    · rw [if_pos hremove]
      exact iff_of_true rfl ⟨rfl, Or.inl (Or.inl hremove)⟩
    by_cases hskip : (!(k.hostEncrypt || k.hostDecrypt) && param.alg != "TKIP") = true
    · rw [if_neg hremove, if_pos hskip]
      exact iff_of_true rfl ⟨rfl, Or.inl (Or.inr hskip)⟩
    have hsets : ¬ SetsNone k param := not_or.mpr ⟨hremove, hskip⟩
    rw [if_neg hremove, if_neg hskip, if_neg hsets]
    cases env.getCryptoOps param.alg with
    | none =>
      refine iff_of_false (by decide : einval ≠ 0) ?_
      rintro ⟨-, hnone | ⟨t, ht, -⟩⟩
      · exact hsets hnone
      · cases ht
    | some cipher =>
      have hput := @putKey_ok_iff env k idx cipher param.key param.seq
      dsimp only
      by_cases hret : (putKey env k idx cipher param.key param.seq).1 = 0
      · rw [if_neg (not_not.mpr hret)]
        exact iff_of_true rfl ⟨rfl, Or.inr ⟨(idx, cipher), rfl, hput.mp hret⟩⟩
      · rw [if_pos hret]
        refine iff_of_false hret ?_
        rintro ⟨-, hnone | ⟨t, ht, hset⟩⟩
        · exact hsets hnone
        · obtain rfl := Option.some_inj.mp ht
          exact hret (hput.mpr hset)

theorem pairwise_delayedDeinit (k : KeyConfig) (idx : KeyIdx) :
    (k.delayedDeinit idx).pairwiseKeyType = k.pairwiseKeyType := by
  unfold delayedDeinit
  split <;> rfl

theorem pairwise_putKey (env : KeyEnv) (k : KeyConfig) (idx : KeyIdx) (cipher : Cipher) (key seq : List UInt8) :
    (putKey env k idx cipher key seq).2.pairwiseKeyType = k.pairwiseKeyType := by
  have htake : (takeCipher env k idx cipher).2.pairwiseKeyType = k.pairwiseKeyType := by
    unfold takeCipher
    dsimp only
    split_ifs
    · rfl
    · exact pairwise_delayedDeinit k idx
    · exact pairwise_delayedDeinit k idx
    · exact pairwise_delayedDeinit k idx
  have hset : ∀ k' : KeyConfig, (k'.setKey idx key (some seq)).2.pairwiseKeyType = k'.pairwiseKeyType := by
    intro k'
    unfold KeyConfig.setKey
    split <;> rfl
  unfold putKey
  dsimp only
  split_ifs
  · exact htake
  · exact htake
  · exact (hset _).trans htake
  · exact (hset _).trans htake

/-- The call leaves the type of the pairwise key. -/
theorem pairwise_wpaSetEncryption (env : KeyEnv) (k : KeyConfig) (param : EncryptionParam) :
    (wpaSetEncryption env k param).2.pairwiseKeyType = k.pairwiseKeyType := by
  have htx : ∀ (k' : KeyConfig) (idx : KeyIdx), (setTx k' param idx).pairwiseKeyType = k'.pairwiseKeyType := by
    intro k' idx
    unfold setTx
    split_ifs <;> rfl
  cases hslot : encryptionSlot param with
  | none => rw [wpaSetEncryption_none env k hslot]
  | some idx =>
    rw [wpaSetEncryption_some env k hslot]
    cases env.getCryptoOps param.alg with
    | none =>
      dsimp only
      split_ifs
      · exact pairwise_delayedDeinit k idx
      · exact htx k idx
      · rfl
    | some cipher =>
      have hput := pairwise_putKey env k idx cipher param.key param.seq
      dsimp only
      split_ifs
      · exact pairwise_delayedDeinit k idx
      · exact htx k idx
      · exact hput
      · exact (htx _ idx).trans hput

/-- A refused call leaves the keys exactly if it is harmless. -/
theorem wpaSetEncryption_sameKeys_iff (env : KeyEnv) (k : KeyConfig) {param : EncryptionParam}
    (h : ¬ Accepted env k param) : SameKeys k (wpaSetEncryption env k param).2 ↔
      ∀ t ∈ encryptionTarget env k param, Harmless env k t.1 t.2 := by
  have hkeeps := wpaSetEncryption_keeps_iff env k param
  rw [keepsOnError_iff, wpaSetEncryption_ok_iff, or_iff_right h] at hkeeps
  rw [hkeeps]
  refine forall₂_congr fun t ht => or_iff_right fun hset => h ⟨?_, Or.inr ⟨t, ht, hset⟩⟩
  unfold encryptionTarget at ht
  cases hslot : encryptionSlot param with
  | none =>
    rw [hslot, Option.bind_none, ite_self] at ht
    cases ht
  | some idx => rfl

theorem setEncryptionCmd_keeps_iff (env : KeyEnv) (k : KeyConfig) (param : EncryptionParam) :
    KeepsOnError k (setEncryptionCmd env k param) ↔ Accepted env k param ∨
      (param.setTx = 0 ∨ newPairwiseKeyType k param = k.pairwiseKeyType) ∧
        ∀ t ∈ encryptionTarget env k param, Harmless env k t.1 t.2 := by
  unfold setEncryptionCmd
  by_cases htx : param.setTx = 0
  · rw [if_pos htx, keepsOnError_iff, wpaSetEncryption_ok_iff]
    apply or_congr_right'
    intro hacc
    rw [wpaSetEncryption_sameKeys_iff env k hacc]
    exact (and_iff_right (Or.inl htx)).symm
  · rw [if_neg htx]
    dsimp only
    set type := newPairwiseKeyType k param
    set mode := if type ≠ keyTypeNa ∧ k.apMacAddr = ⟨0, 0, 0, 0, 0, 0⟩ then IwMode.adhoc else k.iwMode
    -- the call sees a configuration with the same slots
    set k₁ : KeyConfig := { k with pairwiseKeyType := type, iwMode := mode }
    have hsame : SameKeys k (wpaSetEncryption env k₁ param).2 ↔
        type = k.pairwiseKeyType ∧ SameKeys k₁ (wpaSetEncryption env k₁ param).2 := by
      have htype : (wpaSetEncryption env k₁ param).2.pairwiseKeyType = type :=
        pairwise_wpaSetEncryption env k₁ param
      constructor
      · intro h
        exact ⟨htype.symm.trans h.pairwiseKeyType, h.crypt, h.contexts, h.txKeyidx, htype⟩
      · rintro ⟨heq, h⟩
        exact ⟨h.crypt, h.contexts, h.txKeyidx, htype.trans heq⟩
    rw [keepsOnError_iff, wpaSetEncryption_ok_iff]
    apply or_congr_right'
    intro hacc
    rw [hsame, wpaSetEncryption_sameKeys_iff env k₁ hacc]
    exact and_congr_left fun _ => (or_iff_right htx).symm

end KeyConfig

/-- When a refused request leaves the keys as they were. -/
theorem keys_kept_iff (env : KeyEnv) (k : KeyConfig) :
    (∀ req, k.KeepsOnError (k.wxSetEncodeExt env req) ↔ ∀ t ∈ KeyConfig.extTarget env k req,
      KeyConfig.Settable env k t.1 t.2 req.key ∨ KeyConfig.Harmless env k t.1 t.2) ∧
    (∀ param, k.KeepsOnError (k.wpaSetEncryption env param) ↔ ∀ t ∈ KeyConfig.encryptionTarget env k param,
      KeyConfig.Settable env k t.1 t.2 param.key ∨ KeyConfig.Harmless env k t.1 t.2) ∧
    ∀ param, k.KeepsOnError (k.setEncryptionCmd env param) ↔ KeyConfig.Accepted env k param ∨
      (param.setTx = 0 ∨ k.newPairwiseKeyType param = k.pairwiseKeyType) ∧
        ∀ t ∈ KeyConfig.encryptionTarget env k param, KeyConfig.Harmless env k t.1 t.2 :=
  ⟨KeyConfig.wxSetEncodeExt_keeps_iff env k, KeyConfig.wpaSetEncryption_keeps_iff env k,
    KeyConfig.setEncryptionCmd_keeps_iff env k⟩

/-- A device with a CCMP key in slot 0. -/
def liveCcmp : KeyConfig where
  crypt := Function.update (fun _ => none) 0 (some 0)
  contexts _ := ⟨.ccmp (ccmpSetKey (List.replicate ccmpTkLen 7) none (ccmpInit 0)).2, 0⟩
  nextCtx := 1
  cryptDeinitList := []
  deinitTimer := false
  deinits := []
  txKeyidx := 0
  pairwiseKeyType := keyTypeCcmp
  iwMode := .infra
  hostEncrypt := true
  hostDecrypt := true
  openWep := true
  apMacAddr := ⟨2, 0, 0, 0, 0, 7⟩

/-- A request with a CCMP key that is one byte short. -/
def shortKey : EncryptionParam :=
  ⟨Mac.broadcast, "CCMP", 1, 0, List.replicate 8 0, 15, List.replicate 15 9⟩

/-- It is refused, and the key that was there is gone. -/
theorem shortKey_clears :
    let r := liveCcmp.wpaSetEncryption ⟨true, fun _ => true, true, 0⟩ shortKey
    r.1 = einval ∧ (r.2.contexts 0).priv = .ccmp (CcmpData.cleared 0 (List.replicate ccmpTkLen 7)) ∧
      ¬ liveCcmp.KeepsOnError r := by
  intro r
  have hret : r.1 = einval := by decide
  have hctx : (r.2.contexts 0).priv = .ccmp (CcmpData.cleared 0 (List.replicate ccmpTkLen 7)) := rfl
  refine ⟨hret, hctx, fun hkeeps => ?_⟩
  have hsame := (hkeeps (by decide)).contexts 0 0 rfl
  rw [hsame] at hctx
  have hset : true = false := congrArg CcmpData.keySet (Priv.ccmp.inj hctx)
  cases hset

end Rtl8187

/-
# The cipher modules of the driver

The four tables of operations: WEP, TKIP, CCMP and the empty one that is
registered as "NULL". A key slot's context is that of one of the modules, and
a module only ever gets its own.

Key definitions: `Priv`, `wepOps`, `tkipOps`, `ccmpOps`, `nullOps`.
-/
import Rtl8187.CryptWep
import Rtl8187.CryptTkip
import Rtl8187.CryptCcmp

namespace Rtl8187

/-- The context of a key slot. -/
inductive Priv where
  | null
  | wep (d : WepData)
  | tkip (d : TkipData)
  | ccmp (d : CcmpData)

/-- An operation on one module's contexts, as an operation on all of them. -/
def onPriv {D : Type} (get : Priv → Option D) (mk : D → Priv) (op : MpduOp D) : MpduOp Priv :=
  fun skb hdrLen priv =>
    match get priv with
    | some d => ⟨(op skb hdrLen d).ret, (op skb hdrLen d).skb, mk (op skb hdrLen d).priv⟩
    | none => ⟨-1, skb, priv⟩

namespace Priv

def wep? : Priv → Option WepData
  | .wep d => some d
  | _ => none

def tkip? : Priv → Option TkipData
  | .tkip d => some d
  | _ => none

def ccmp? : Priv → Option CcmpData
  | .ccmp d => some d
  | _ => none

end Priv

section

variable {D : Type} {get : Priv → Option D} {mk : D → Priv} {op : MpduOp D}
  {skb : SkBuff} {hdrLen : ℕ} {priv : Priv}

/-- What holds of a successful operation on a module's own contexts holds on all. -/
theorem onPriv_ok (Q : SkBuff → Prop) (hop : ∀ d, 0 ≤ (op skb hdrLen d).ret → Q (op skb hdrLen d).skb)
    (h : 0 ≤ (onPriv get mk op skb hdrLen priv).ret) : Q (onPriv get mk op skb hdrLen priv).skb := by
  unfold onPriv at h ⊢
  cases hg : get priv with
  | none =>
    rw [hg] at h
    exact absurd h (by simp)
  | some d =>
    rw [hg] at h
    exact hop d h

/-- So does what holds of a failed one, if it holds of the buffer as it was. -/
theorem onPriv_fail (Q : SkBuff → Prop)
    (hop : ∀ d, (op skb hdrLen d).ret < 0 → Q (op skb hdrLen d).skb) (hskb : Q skb) (h : (onPriv get mk op skb hdrLen priv).ret < 0) :
    Q (onPriv get mk op skb hdrLen priv).skb := by
  unfold onPriv at h ⊢
  cases hg : get priv with
  | none => exact hskb
  | some d =>
    rw [hg] at h
    exact hop d h

/-- And what holds in either case. -/
theorem onPriv_skb (Q : SkBuff → Prop) (hop : ∀ d, Q (op skb hdrLen d).skb) (hskb : Q skb) :
    Q (onPriv get mk op skb hdrLen priv).skb := by
  unfold onPriv
  cases get priv with
  | none => exact hskb
  | some d => exact hop d

end

/-- `ieee80211_crypt_null` -/
def nullOps : CryptoOps Priv where
  name := "NULL"
  encryptMpdu := none
  decryptMpdu := none
  encryptMsdu := none
  decryptMsdu := none
  extraPrefixLen := 0
  extraPostfixLen := 0
  extra_le := by decide
  decryptMpdu_hdr := by simp
  decryptMsdu_prefix := by simp
  encryptMsdu_prefix := by simp
  encryptMsdu_len := by simp
  encryptMpdu_fail := by simp
  encryptMpdu_grow := by simp

section

variable (prim : Primitives)

/-- `ieee80211_crypt_wep` -/
def wepOps : CryptoOps Priv where
  name := "WEP"
  encryptMpdu := some (onPriv Priv.wep? .wep (prism2WepEncrypt prim))
  decryptMpdu := some (onPriv Priv.wep? .wep (prism2WepDecrypt prim))
  encryptMsdu := none
  decryptMsdu := none
  extraPrefixLen := 4
  extraPostfixLen := 4
  extra_le := by decide
  decryptMpdu_hdr := by
    rintro _ ⟨⟩ skb hdrLen priv h
    exact onPriv_ok (fun b => hdrLen ≤ b.len ∧ b.data.take hdrLen = skb.data.take hdrLen)
      (fun d hd => prism2WepDecrypt_hdr hd) h
  decryptMsdu_prefix := by simp
  encryptMsdu_prefix := by simp
  encryptMsdu_len := by simp
  encryptMpdu_fail := by
    rintro _ ⟨⟩ skb hdrLen priv h
    exact onPriv_fail (·.data = skb.data)
      (fun d hd => congrArg SkBuff.data (prism2WepEncrypt_fail hd)) rfl h
  encryptMpdu_grow := by
    rintro _ ⟨⟩ skb hdrLen priv h
    exact onPriv_ok (skb.len < ·.len) (fun d hd => prism2WepEncrypt_grow hd) h

theorem tkip_extra_le : 8 + 12 ≤ 20 := by decide

/-- `ieee80211_crypt_tkip` -/
def tkipOps : CryptoOps Priv where
  name := "TKIP"
  encryptMpdu := some (onPriv Priv.tkip? .tkip (tkipEncrypt prim))
  decryptMpdu := some (onPriv Priv.tkip? .tkip (tkipDecrypt prim))
  encryptMsdu := some (onPriv Priv.tkip? .tkip (michaelMicAdd prim))
  decryptMsdu := some fun skb keyidx =>
    onPriv Priv.tkip? .tkip (fun skb => michaelMicVerify prim skb keyidx) skb
  extraPrefixLen := 8
  extraPostfixLen := 12
  extra_le := tkip_extra_le
  decryptMpdu_hdr := by
    rintro _ ⟨⟩ skb hdrLen priv h
    refine onPriv_ok (fun b => hdrLen ≤ b.len ∧ b.data.take hdrLen = skb.data.take hdrLen)
      (fun d hd => ?_) h
    obtain ⟨hl, hlen, hhdr⟩ := tkipDecrypt_hdr hd
    exact ⟨by omega, hhdr⟩
  decryptMsdu_prefix := by
    rintro _ ⟨⟩ skb keyidx hdrLen priv
    exact onPriv_skb (·.data <+: skb.data) (fun d => michaelMicVerify_prefix keyidx)
      (List.prefix_refl _)
  encryptMsdu_prefix := by
    rintro _ ⟨⟩ skb hdrLen priv
    refine onPriv_skb (fun b => skb.data <+: b.data ∧ b.len ≤ skb.len + michaelMicLen)
      (fun d => ?_) ⟨List.prefix_refl _, Nat.le_add_right _ _⟩
    unfold SkBuff.len
    rcases michaelMicAdd_data with ⟨hd, -⟩ | ⟨⟨mic, hmic, hd⟩, -⟩
    · rw [hd]
      exact ⟨List.prefix_refl _, Nat.le_add_right _ _⟩
    · rw [hd, List.length_append, hmic]
      exact ⟨List.prefix_append _ _, Nat.le_refl _⟩
  encryptMsdu_len := by
    rintro _ ⟨⟩ skb hdrLen priv h
    refine onPriv_ok (·.len = skb.len + michaelMicLen) (fun d hd => ?_) h.ge
    rcases @michaelMicAdd_data prim skb hdrLen d with ⟨-, hr⟩ | ⟨⟨mic, hmic, hdata⟩, -⟩
    · rw [hr] at hd
      cases hd
    · rw [SkBuff.len, hdata, List.length_append, hmic]
      rfl
  encryptMpdu_fail := by
    rintro _ ⟨⟩ skb hdrLen priv h
    exact onPriv_fail (·.data = skb.data)
      (fun d hd => congrArg SkBuff.data (tkipEncrypt_fail hd)) rfl h
  encryptMpdu_grow := by
    rintro _ ⟨⟩ skb hdrLen priv h
    refine onPriv_ok (skb.len < ·.len) (fun d hd => ?_) h
    rw [tkipEncrypt_len hd]
    exact Nat.lt_add_of_pos_right (by decide)

/-- `ieee80211_crypt_ccmp` -/
def ccmpOps : CryptoOps Priv where
  name := "CCMP"
  encryptMpdu := some (onPriv Priv.ccmp? .ccmp (ccmpEncrypt prim))
  decryptMpdu := some (onPriv Priv.ccmp? .ccmp (ccmpDecrypt prim))
  encryptMsdu := none
  decryptMsdu := none
  extraPrefixLen := 8
  extraPostfixLen := 8
  extra_le := by decide
  decryptMpdu_hdr := by
    rintro _ ⟨⟩ skb hdrLen priv h
    exact onPriv_ok (fun b => hdrLen ≤ b.len ∧ b.data.take hdrLen = skb.data.take hdrLen)
      (fun d hd => ccmpDecrypt_hdr prim hd) h
  decryptMsdu_prefix := by simp
  encryptMsdu_prefix := by simp
  encryptMsdu_len := by simp
  encryptMpdu_fail := by
    rintro _ ⟨⟩ skb hdrLen priv h
    exact onPriv_fail (·.data = skb.data)
      (fun d hd => congrArg SkBuff.data (ccmpEncrypt_fail prim hd)) rfl h
  encryptMpdu_grow := by
    rintro _ ⟨⟩ skb hdrLen priv h
    exact onPriv_ok (skb.len < ·.len) (fun d hd => ccmpEncrypt_grow prim hd) h

end

end Rtl8187

/-
# Encrypting a fragment

`ieee80211_encrypt_fragment`: the MIC and the encryption of the transmit key's
module, one after the other, on one fragment.

Key definitions: `Device.txCrypt`, `encryptFragment`.
-/
import Rtl8187.Device

namespace Rtl8187

variable {P : Type}

namespace Device

/-- The module and the context of a slot, if it has both. -/
def cryptOps (d : Device P) (idx : KeyIdx) : Option (CryptoOps P × P) :=
  match d.crypt idx with
  | some ⟨some ops, priv⟩ => some (ops, priv)
  | _ => none

/-- Those of the transmit key. -/
def txCrypt (d : Device P) : Option (CryptoOps P × P) := d.cryptOps d.txKeyidx

/-- The device with another context in a slot. -/
def setPriv (d : Device P) (idx : KeyIdx) (priv : P) : Device P :=
  { d with crypt := Function.update d.crypt idx ((d.crypt idx).map fun c => { c with priv := priv }) }

/-- TKIP countermeasures are on, and stop this module. -/
def countermeasuresStop (d : Device P) (ops : CryptoOps P) : Bool :=
  d.kernel.cryptTkip && d.tkipCountermeasures && ops.name == "TKIP"

end Device

/-- An operation that the module may lack: what it leaves, or a success that
leaves everything. -/
def CryptRes.ofOp (op : Option (MpduOp P)) (skb : SkBuff) (hdrLen : ℕ) (priv : P) : CryptRes P :=
  match op with
  | some f => f skb hdrLen priv
  | none => ⟨0, skb, priv⟩

theorem CryptRes.ofOp_some (f : MpduOp P) (skb : SkBuff) (hdrLen : ℕ) (priv : P) :
    ofOp (some f) skb hdrLen priv = f skb hdrLen priv := rfl

/-- `ieee80211_encrypt_fragment`: the result, the fragment and the device. The
fragment is not encrypted if the MIC failed. There is nothing to return when
the transmit slot has no module, whose table would be dereferenced. -/
def encryptFragment (d : Device P) (frag : SkBuff) (hdrLen : ℕ) : Option (Int × SkBuff × Device P) :=
  match d.txCrypt with
  | none => none
  | some (ops, priv) =>
    if d.countermeasuresStop ops then some (-1, frag, d)
    else
      let mic := CryptRes.ofOp ops.encryptMsdu frag hdrLen priv
      let res := if mic.ret = 0 then CryptRes.ofOp ops.encryptMpdu mic.skb hdrLen mic.priv else mic
      some (if res.ret < 0 then -1 else 0, res.skb, d.setPriv d.txKeyidx res.priv)

/-- Encrypting changes the context of the transmit key alone. -/
theorem encryptFragment_cases {d d' : Device P} {frag frag' : SkBuff} {hdrLen : ℕ} {ret : Int}
    (h : encryptFragment d frag hdrLen = some (ret, frag', d')) :
    d' = d ∨ ∃ priv, d' = d.setPriv d.txKeyidx priv := by
  unfold encryptFragment at h
  cases hc : d.txCrypt with
  | none =>
    rw [hc] at h
    cases h
  | some c =>
    rw [hc] at h
    dsimp only at h
    by_cases hstop : d.countermeasuresStop c.1 = true
    · rw [if_pos hstop] at h
      cases h
      exact Or.inl rfl
    · rw [if_neg hstop] at h
      cases h
      exact Or.inr ⟨_, rfl⟩

end Rtl8187

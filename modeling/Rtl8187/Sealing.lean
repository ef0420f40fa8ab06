/-
# One key on both sides

The ciphers of a link as `ieee80211_xmit` and `ieee80211_rx` see them: none, WEP
or CCMP, with one key in one slot. What the sender hands on of a fragment is a
seal of it (`outFragment_sealed`), whatever the IVs and the packet numbers, and
the receiver opens any seal of the key (`rxFrameDecrypt_sealed`). Both keep the key.

Key definitions: `LinkKey`, `LinkKey.Seals`, `LinkKey.Sends`, `LinkKey.Opens`, `BuildsSeals`.
Key theorems: `outFragment_sealed`, `decryptSlot_sealed`, `rxFrameDecrypt_sealed`.
-/
import Rtl8187.FragmentSizing
import Rtl8187.RxSteps

namespace Rtl8187

open Bytes Chunks

/-- No encryption, or a slot and the key in it. For CCMP the key is what the block
cipher was given. -/
inductive LinkKey where
  | clear
  | wep (idx : KeyIdx) (key : List UInt8)
  | ccmp (idx : KeyIdx) (tfm : List UInt8)
  deriving DecidableEq

/-- The slot, if there is encryption. -/
def LinkKey.slot : LinkKey → Option KeyIdx
  | .clear => none
  | .wep idx _ => some idx
  | .ccmp idx _ => some idx

section

variable (prim : Primitives)

/-- The key is in its slot; without encryption there is none in any. -/
def LinkKey.Held : LinkKey → Device Priv → Prop
  | .clear, d => ∀ idx, d.cryptOps idx = none
  | .wep idx key, d => ∃ wep : WepData, d.cryptOps idx = some (wepOps prim, .wep wep) ∧ wep.key = key ∧ wep.keyIdx = idx
  | .ccmp idx tfm, d => ∃ ccmp : CcmpData, d.cryptOps idx = some (ccmpOps prim, .ccmp ccmp) ∧
      ccmp.tfm = tfm ∧ ccmp.keyIdx = idx ∧ ccmp.keySet = true

/-- The device sends with this key. -/
def LinkKey.Sends (key : LinkKey) (d : Device Priv) : Prop :=
  match key.slot with
  | none => d.txCrypt = none
  | some idx => key.Held prim d ∧ d.txKeyidx = idx ∧ d.hostEncrypt = true

/-- The device receives with this key. -/
structure LinkKey.Opens (key : LinkKey) (d : Device Priv) : Prop where
  held : key.Held prim d
  host : key.slot.isSome = true → d.hostDecrypt = true

/-- `out` is a frame with this header and payload, encrypted with the key. -/
def LinkKey.Seals : LinkKey → (hdr payload out : List UInt8) → Prop
  | .clear, hdr, payload, out => out = hdr ++ payload
  | .wep idx key, hdr, payload, out => ∃ iv, iv.length = 3 ∧ out = wepFrame prim key iv idx hdr payload
  | .ccmp idx tfm, hdr, payload, out => ∃ pn, out = ccmpFrame prim tfm pn idx hdr payload

end

/-! ### The context of a slot -/

section

variable {P : Type}

/-- A new context in a slot. -/
theorem cryptOps_setPriv (d : Device P) (idx : KeyIdx) (priv : P) :
    (d.setPriv idx priv).cryptOps idx = (d.cryptOps idx).map fun c => (c.1, priv) := by
  unfold Device.setPriv Device.cryptOps
  simp only [Function.update_self]
  cases d.crypt idx with
  | none => rfl
  | some c =>
    obtain ⟨ops, _⟩ := c
    cases ops <;> rfl

variable {prim : Primitives} {key : LinkKey} {d d' : Device Priv}

/-- The slots are all that counts. -/
theorem LinkKey.Held.congr (h : key.Held prim d) (hcrypt : d'.crypt = d.crypt) : key.Held prim d' := by
  have hops : ∀ idx, d'.cryptOps idx = d.cryptOps idx := by
    intro idx
    unfold Device.cryptOps
    rw [hcrypt]
  cases key with
  | clear => exact fun idx => (hops idx).trans (h idx)
  | wep idx k =>
    obtain ⟨wep, hslot, hkey⟩ := h
    exact ⟨wep, (hops idx).trans hslot, hkey⟩
  | ccmp idx tfm =>
    obtain ⟨ccmp, hslot, hkey⟩ := h
    exact ⟨ccmp, (hops idx).trans hslot, hkey⟩

theorem LinkKey.Opens.congr (h : key.Opens prim d) (hcrypt : d'.crypt = d.crypt)
    (hhost : d'.hostDecrypt = d.hostDecrypt) : key.Opens prim d' :=
  ⟨h.held.congr hcrypt, fun hslot => hhost.trans (h.host hslot)⟩

end

/-! ### The sender -/

section

variable {prim : Primitives} {key : LinkKey} {d : Device Priv} {pl : XmitPlan} {frag : SkBuff}
  {hdr payload : List UInt8}

/-- A module without a MIC encrypts. -/
theorem encryptBuilt_module {P : Type} {d : Device P} {ops : CryptoOps P} {priv : P} {op : MpduOp P}
    (hencrypt : pl.encrypt = true) (hslot : d.txCrypt = some (ops, priv)) (hname : (ops.name == "TKIP") = false)
    (hmsdu : ops.encryptMsdu = none) (hmpdu : ops.encryptMpdu = some op) (frag : SkBuff) :
    encryptBuilt pl d frag = ((op frag dataHdr3Len priv).skb, d.setPriv d.txKeyidx (op frag dataHdr3Len priv).priv) := by
  have hgo : d.countermeasuresStop ops = false := by rw [Device.countermeasuresStop, hname, Bool.and_false]
  unfold encryptBuilt encryptFragment
  rw [if_pos hencrypt, hslot]
  simp only [hgo, hmsdu, hmpdu, Bool.false_eq_true, if_false]
  rfl

/-- **A fragment is sealed**, and the key stays. -/
theorem encryptBuilt_sealed (h : key.Sends prim d) (hencrypt : pl.encrypt = key.slot.isSome)
    (hdata : frag.data = hdr ++ payload) (hhdr : hdr.length = dataHdr3Len) (hhead : 8 ≤ frag.headroom)
    (htail : 8 ≤ frag.tailroom) :
    key.Seals prim hdr payload (encryptBuilt pl d frag).1.data ∧ key.Sends prim (encryptBuilt pl d frag).2 := by
  cases key with
  | clear =>
    have hno : ¬ pl.encrypt = true := by
      rw [hencrypt]
      decide
    unfold encryptBuilt
    rw [if_neg hno]
    exact ⟨hdata, h⟩
  | wep idx k =>
    obtain ⟨⟨wep, hslot, hkey, hidx⟩, htx, hhost⟩ := h
    have hcrypt : d.txCrypt = some (wepOps prim, .wep wep) := by rw [Device.txCrypt, htx, hslot]
    obtain ⟨-, hpriv, hout⟩ := prism2WepEncrypt_ok prim wep hdata (by omega) (by omega)
    have hname : ("WEP" == "TKIP") = false := by decide
    rw [encryptBuilt_module hencrypt hcrypt hname rfl rfl frag, htx, ← hhdr]
    refine ⟨⟨WepData.ivBytes wep.nextIv, rfl, ?_⟩, ⟨{ wep with iv := wep.nextIv }, ?_, hkey, hidx⟩, htx, hhost⟩
    · rw [← hkey, ← hidx]
      exact hout
    · rw [cryptOps_setPriv, hslot]
      exact congrArg (fun wep => some (wepOps prim, Priv.wep wep)) hpriv
  | ccmp idx tfm =>
    obtain ⟨⟨ccmp, hslot, hkey, hidx, hset⟩, htx, hhost⟩ := h
    have hcrypt : d.txCrypt = some (ccmpOps prim, .ccmp ccmp) := by rw [Device.txCrypt, htx, hslot]
    obtain ⟨-, hpriv, hout⟩ := ccmpEncrypt_ok prim ccmp hdata hhead htail
    have hname : ("CCMP" == "TKIP") = false := by decide
    rw [encryptBuilt_module hencrypt hcrypt hname rfl rfl frag, htx, ← hhdr]
    refine ⟨⟨ccmp.txPn.incr, ?_⟩, ⟨{ ccmp with txPn := ccmp.txPn.incr }, ?_, hkey, hidx, hset⟩, htx, hhost⟩
    · rw [← hkey, ← hidx]
      exact hout
    · rw [cryptOps_setPriv, hslot]
      exact congrArg (fun ccmp => some (ccmpOps prim, Priv.ccmp ccmp)) hpriv

/-- The frame is sent encrypted if there is a key. -/
theorem encrypts_sends (h : key.Sends prim d) {proto : UInt16} (heapol : key.slot.isSome = true → proto ≠ ethPPae) :
    d.encrypts proto = key.slot.isSome := by
  have hone : ∀ {idx : KeyIdx} {c : CryptoOps Priv × Priv}, proto ≠ ethPPae → d.cryptOps idx = some c →
      d.txKeyidx = idx → d.hostEncrypt = true → d.encrypts proto = true := by
    intro idx c hproto hslot htx hhost
    have hcrypt : d.txCrypt = some c := by rw [Device.txCrypt, htx, hslot]
    simp [Device.encrypts, hproto, hcrypt, hhost]
  cases key with
  | clear =>
    have hno : d.txCrypt = none := h
    rw [Device.encrypts, hno]
    exact Bool.and_false _
  | wep idx k =>
    obtain ⟨⟨wep, hslot, -⟩, htx, hhost⟩ := h
    exact hone (heapol rfl) hslot htx hhost
  | ccmp idx tfm =>
    obtain ⟨⟨ccmp, hslot, -⟩, htx, hhost⟩ := h
    exact hone (heapol rfl) hslot htx hhost

variable {skb : SkBuff}

/-- A fragment is built with room for any cipher. -/
theorem plainFragment_room (hpool : PoolReady d) (hlen : (xmitPayload skb).len ≤ 1500) {i : ℕ}
    (hi : i < (xmitPlan d skb).nrFrags) :
    let plain := plainFragment (xmitPlan d skb) (xmitPayload skb) (poolFragments d) i
    16 ≤ plain.headroom ∧ 16 ≤ plain.tailroom := by
  intro plain
  obtain ⟨hsize, hhead, hplain, -⟩ := plainFragment_inside hpool hlen hi
  have hcipher := cipher_le d (xmitPlan d skb).encrypt
  have hpay := fragPayload_le hi
  have hthree : dataHdr3Len = 24 := rfl
  change plain.size = 2368 at hsize
  change plain.headroom = _ at hhead
  change plain.len = _ at hplain
  unfold SkBuff.size at hsize
  constructor
  · omega
  · omega

theorem length_xmitHeader (d : Device Priv) (skb : SkBuff) (i : ℕ) : ((xmitPlan d skb).header i).length = dataHdr3Len := by
  rw [xmitPlan_header]
  exact length_dataHdr ..

section

variable {S : Device Priv → Prop} {Seal : List UInt8 → List UInt8 → List UInt8 → Prop}

/-- `S` is kept from one fragment to the next, and what is made of a fragment is a
`Seal` of its header and payload. -/
def BuildsSeals (pl : XmitPlan) (S : Device Priv → Prop) (Seal : List UInt8 → List UInt8 → List UInt8 → Prop) : Prop :=
  ∀ {d : Device Priv} {frag : SkBuff} {hdr payload : List UInt8}, S d → frag.data = hdr ++ payload →
    hdr.length = dataHdr3Len → 16 ≤ frag.headroom → 16 ≤ frag.tailroom →
    Seal hdr payload (encryptBuilt pl d frag).1.data ∧ S (encryptBuilt pl d frag).2

/-- Every fragment of a frame finds it so. -/
theorem BuildsSeals.devAt (hbuild : BuildsSeals (xmitPlan d skb) S Seal) (hpool : PoolReady d)
    (hlen : (xmitPayload skb).len ≤ 1500) (h : S d) : ∀ i ≤ (xmitPlan d skb).nrFrags,
    S (devAt (xmitPlan d skb) d (xmitPayload skb) (poolFragments d) i)
  | 0, _ => h
  | i + 1, hi => by
    have ih := hbuild.devAt hpool hlen h i (Nat.le_of_succ_le hi)
    obtain ⟨hhead, htail⟩ := plainFragment_room hpool hlen hi
    have hdata := plainFragment_data hi (hpool.clean.poolFragments i)
    exact (hbuild ih hdata (length_xmitHeader d skb i) hhead htail).2

/-- **What is handed on of a fragment** is a seal of it. -/
theorem BuildsSeals.outFragment (hbuild : BuildsSeals (xmitPlan d skb) S Seal) (hpool : PoolReady d)
    (hlen : (xmitPayload skb).len ≤ 1500) (h : S d) (hfcs : d.configFcs = false) {i : ℕ}
    (hi : i < (xmitPlan d skb).nrFrags) :
    Seal ((xmitPlan d skb).header i) (chunk (xmitPlan d skb).bytesPerFrag (xmitBody skb) i)
      (outFragment (xmitPlan d skb) d (xmitPayload skb) (poolFragments d) i).data := by
  have hsame := devAt_sameModules (xmitPlan d skb) d (xmitPayload skb) (poolFragments d) i
  obtain ⟨hhead, htail⟩ := plainFragment_room hpool hlen hi
  have hdata := plainFragment_data hi (hpool.clean.poolFragments i)
  have hno : ¬ (Rtl8187.devAt (xmitPlan d skb) d (xmitPayload skb) (poolFragments d) i).configFcs = true := by
    rw [hsame.configFcs, hfcs]
    decide
  rw [Rtl8187.outFragment, putFcs, if_neg hno]
  exact (hbuild (hbuild.devAt hpool hlen h i hi.le) hdata (length_xmitHeader d skb i) hhead htail).1

end

theorem outFragment_sealed (hpool : PoolReady d) (h : key.Sends prim d) (hfcs : d.configFcs = false)
    (hlen : (xmitPayload skb).len ≤ 1500) (heapol : key.slot.isSome = true → etherType skb ≠ ethPPae) {i : ℕ}
    (hi : i < (xmitPlan d skb).nrFrags) :
    key.Seals prim ((xmitPlan d skb).header i) (chunk (xmitPlan d skb).bytesPerFrag (xmitBody skb) i)
      (outFragment (xmitPlan d skb) d (xmitPayload skb) (poolFragments d) i).data := by
  have hencrypt : (xmitPlan d skb).encrypt = key.slot.isSome := encrypts_sends h heapol
  have hbuild : BuildsSeals (xmitPlan d skb) (key.Sends prim) (key.Seals prim) := by
    intro d' frag hdr payload hsends hdata hhdr hhead htail
    exact encryptBuilt_sealed hsends hencrypt hdata hhdr (le_trans (by decide) hhead) (le_trans (by decide) htail)
  exact hbuild.outFragment hpool hlen h hfcs hi

end

/-! ### The receiver -/

section

variable {prim : Primitives} {key : LinkKey} {d : Device Priv} {skb : SkBuff} {hdr payload : List UInt8}

/-- A seal starts with the header it was made of. -/
theorem LinkKey.Seals.starts {out : List UInt8} (h : key.Seals prim hdr payload out) :
    ∃ rest, out = hdr ++ rest := by
  cases key with
  | clear => exact ⟨payload, h⟩
  | wep idx k =>
    obtain ⟨iv, -, rfl⟩ := h
    exact ⟨_, List.append_assoc ..⟩
  | ccmp idx tfm =>
    obtain ⟨pn, rfl⟩ := h
    exact ⟨_, List.append_assoc ..⟩

theorem LinkKey.Seals.take {out : List UInt8} (h : key.Seals prim hdr payload out) : out.take hdr.length = hdr := by
  obtain ⟨rest, rfl⟩ := h.starts
  exact List.take_left

/-- The slot that a frame names behind its header. -/
theorem decryptSlot_names (hhost : d.hostDecrypt = true) {idx : KeyIdx} {c : CryptoOps Priv × Priv}
    (hslot : d.cryptOps idx = some c) (hmpdu : c.1.decryptMpdu.isSome = true)
    (hlen : getHdrlen (frameCtl skb.data) + 4 ≤ skb.len)
    (hbyte : keyIdxOf (at8 skb.data (getHdrlen (frameCtl skb.data) + 3)) = idx) : decryptSlot d skb = some idx := by
  have hread : skb.byte (getHdrlen (frameCtl skb.data) + 3) = at8 skb.data (getHdrlen (frameCtl skb.data) + 3) :=
    at8_append_left _ (by unfold SkBuff.len at hlen; omega)
  have hle : getHdrlen (frameCtl skb.data) + 3 ≤ skb.len := by omega
  unfold decryptSlot
  dsimp only
  rw [if_pos hle, hread, hbyte, hslot]
  simp [hhost, hmpdu]

/-- **The slot of a sealed frame** is the key's. -/
theorem decryptSlot_sealed (h : key.Opens prim d) (hseal : key.Seals prim hdr payload skb.data)
    (hhdr : hdr.length = dataHdr3Len) (hlen : getHdrlen (frameCtl skb.data) = dataHdr3Len) :
    decryptSlot d skb = key.slot := by
  cases key with
  | clear =>
    have hnone : ∀ idx, d.cryptOps idx = none := h.held
    unfold decryptSlot
    simp [hnone, LinkKey.slot]
  | wep idx k =>
    obtain ⟨wep, hslot, -⟩ := h.held
    obtain ⟨iv, hiv, hdata⟩ := hseal
    have hfront : (hdr ++ (iv ++ [keyIdxByte idx])).length = dataHdr3Len + 4 := by
      simp [hhdr, hiv]
    refine decryptSlot_names (h.host rfl) hslot rfl ?_ ?_
    · rw [hlen, SkBuff.len, hdata, wepFrame, List.length_append, hfront]
      exact Nat.le_add_right _ _
    · have hat : at8 skb.data (dataHdr3Len + 3) = keyIdxByte idx := by
        rw [hdata, wepFrame, at8_append_left _ (by omega), at8_append_right _ (by omega), hhdr,
          Nat.add_sub_cancel_left, at8_append_right _ (by omega), hiv]
        rfl
      rw [hlen, hat, keyIdxOf_byte]
  | ccmp idx tfm =>
    obtain ⟨ccmp, hslot, -⟩ := h.held
    obtain ⟨pn, hdata⟩ := hseal
    have hfront : (hdr ++ pn.ccmpHdr idx).length = dataHdr3Len + 8 := by
      rw [List.length_append, hhdr]
      rfl
    refine decryptSlot_names (h.host rfl) hslot rfl ?_ ?_
    · rw [hlen, SkBuff.len, hdata, ccmpFrame, List.length_append, hfront]
      omega
    · have hat : at8 skb.data (dataHdr3Len + 3) = keyIdxByte idx ||| extIv := by
        rw [hdata, ccmpFrame, at8_append_left _ (by omega), at8_append_right _ (by omega), hhdr,
          Nat.add_sub_cancel_left]
        rfl
      rw [hlen, hat, keyIdxOf_byte_extIv]

/-- A module of a slot decrypts. -/
theorem rxFrameDecrypt_module {P : Type} {d : Device P} {idx : KeyIdx} {ops : CryptoOps P} {priv : P}
    {op : MpduOp P} (hslot : d.cryptOps idx = some (ops, priv)) (hname : (ops.name == "TKIP") = false)
    (hmpdu : ops.decryptMpdu = some op) (skb : SkBuff)
    (hret : 0 ≤ (op skb (getHdrlen (frameCtl skb.data)) priv).ret) :
    rxFrameDecrypt d skb (some idx) =
      let res := op skb (getHdrlen (frameCtl skb.data)) priv
      (res.ret, res.skb, d.setPriv idx res.priv) := by
  have hgo : ¬ d.countermeasuresStop ops = true := by
    rw [Device.countermeasuresStop, hname, Bool.and_false]
    decide
  have hops : d.slotOps (some idx) = some (idx, ops, priv) := by
    unfold Device.slotOps
    rw [Option.bind_some, hslot]
    rfl
  unfold rxFrameDecrypt
  rw [hops]
  dsimp only
  rw [hmpdu]
  dsimp only
  rw [if_neg hgo, if_neg (not_lt.mpr hret)]

/-- **A seal of the key opens**, and the key stays. -/
theorem rxFrameDecrypt_sealed (h : key.Opens prim d) (hseal : key.Seals prim hdr payload skb.data)
    (hhdr : hdr.length = dataHdr3Len) (hlen : getHdrlen (frameCtl skb.data) = dataHdr3Len) :
    let r := rxFrameDecrypt d skb key.slot
    0 ≤ r.1 ∧ r.2.1.data = hdr ++ payload ∧ key.Opens prim r.2.2 := by
  cases key with
  | clear => exact ⟨le_rfl, hseal, h⟩
  | wep idx k =>
    obtain ⟨wep, hslot, hkey, hidx⟩ := h.held
    obtain ⟨iv, hiv, hdata⟩ := hseal
    have hname : ("WEP" == "TKIP") = false := by decide
    rw [← hkey, ← hidx] at hdata
    obtain ⟨hret, hpriv, hopen⟩ := prism2WepDecrypt_encrypted hiv hdata
    rw [hhdr, ← hlen] at hret hpriv hopen
    intro r
    have hr : r = _ := rxFrameDecrypt_module hslot hname rfl skb hret.ge
    rw [hr]
    refine ⟨hret.ge, hopen, ⟨wep, ?_, hkey, hidx⟩, h.host⟩
    rw [cryptOps_setPriv, hslot]
    exact congrArg (fun wep => some (wepOps prim, Priv.wep wep)) hpriv
  | ccmp idx tfm =>
    obtain ⟨ccmp, hslot, hkey, hidx, hset⟩ := h.held
    obtain ⟨pn, hdata⟩ := hseal
    have hname : ("CCMP" == "TKIP") = false := by decide
    have hlong : 24 ≤ hdr.length := hhdr.ge
    rw [← hkey, ← hidx] at hdata
    obtain ⟨hret, hpriv, hopen⟩ := ccmpDecrypt_encrypted prim hlong hset hdata
    rw [hhdr, ← hlen] at hret hpriv hopen
    have hpos : 0 ≤ (ccmpDecrypt prim skb (getHdrlen (frameCtl skb.data)) ccmp).ret := by
      rw [hret]
      exact Int.natCast_nonneg _
    intro r
    have hr : r = _ := rxFrameDecrypt_module hslot hname rfl skb hpos
    rw [hr]
    refine ⟨hpos, hopen, ⟨{ ccmp with rxPn := pn }, ?_, hkey, hidx, hset⟩, h.host⟩
    rw [cryptOps_setPriv, hslot]
    exact congrArg (fun ccmp => some (ccmpOps prim, Priv.ccmp ccmp)) hpriv

/-- There is no MIC of the MSDU to check. -/
theorem rxFrameDecryptMsdu_key (h : key.Held prim d) (skb : SkBuff) (keyidx : Int) :
    rxFrameDecryptMsdu d skb keyidx key.slot = (0, skb, d) := by
  have hone : ∀ {idx : KeyIdx} {ops : CryptoOps Priv} {priv : Priv}, d.cryptOps idx = some (ops, priv) →
      ops.decryptMsdu = none → rxFrameDecryptMsdu d skb keyidx (some idx) = (0, skb, d) := by
    intro idx ops priv hslot hmsdu
    have hops : d.slotOps (some idx) = some (idx, ops, priv) := by
      unfold Device.slotOps
      rw [Option.bind_some, hslot]
      rfl
    unfold rxFrameDecryptMsdu
    rw [hops]
    dsimp only
    rw [hmsdu]
  cases key with
  | clear => rfl
  | wep idx k =>
    obtain ⟨wep, hslot, -⟩ := h
    exact hone hslot rfl
  | ccmp idx tfm =>
    obtain ⟨ccmp, hslot, -⟩ := h
    exact hone hslot rfl

end

end Rtl8187

/-
# Transmission

`ieee80211_xmit` (`ieee80211_tx.c`): the decision to encrypt, the header, the
split into fragments, the encryption of each, and the hand-off to
`ieee80211_softmac_xmit` and from there to the hardware.

The loop ignores the result of `ieee80211_encrypt_fragment`. So a fragment
the cipher refused is handed on as it is, its Protected bit set
(`encryptOrDrop_iff`).

Key definitions: `XmitPlan`, `buildFragment`, `fillFragments`, `xmitTxb`,
`softmacXmit`, `xmit`.
Key theorems: `fillFragments_frags`, `encryptOrDrop_iff`.
-/
import Rtl8187.Softmac
import Rtl8187.CryptTable
import Rtl8187.Digest

namespace Rtl8187

open Bytes

variable {P : Type}

/-! ### What is decided before the fragments are built -/

/-- `sizeof(struct ethhdr)` -/
def ethHlen : ℕ := 14

/-- `SNAP_SIZE + sizeof(u16)` -/
def snapLen : ℕ := 8

/-- `IEEE80211_FCS_LEN` -/
def fcsLen : ℕ := 4

/-- `MAX_FRAG_THRESHOLD` -/
def maxFragThreshold : ℕ := 2346

/-- `ieee80211_put_snap` -/
def putSnap (hProto : UInt16) : List UInt8 :=
  let oui : List UInt8 := if hProto = 0x8137 ∨ hProto = 0x80f3 then [0x00, 0x00, 0xf8] else [0, 0, 0]
  [0xaa, 0xaa, 0x03] ++ oui ++ be16 hProto

@[simp] theorem length_putSnap (hProto : UInt16) : (putSnap hProto).length = snapLen := by
  unfold putSnap
  split_ifs <;> rfl

/-- `h_proto` of an Ethernet frame. -/
def etherType (skb : SkBuff) : UInt16 := getBe16 skb.mem 12

/-- Whether the frame is to be encrypted. -/
def Device.encrypts (d : Device P) (proto : UInt16) : Bool :=
  !(proto == ethPPae && d.ieee8021x) && d.hostEncrypt && d.txCrypt.isSome

/-- Whether it is dropped for not being encrypted. -/
def Device.dropsUnencrypted (d : Device P) (proto : UInt16) : Bool :=
  !d.encrypts proto && d.ieee8021x && d.dropUnencrypted && proto != ethPPae

/-- The frame control of the last fragment. -/
def xmitFc (d : Device P) (encrypt : Bool) : UInt16 :=
  ftypeData ||| stypeData ||| (if encrypt then fctlWep else 0) |||
    (if d.iwMode = .infra then fctlTods else 0)

/-- The three addresses. -/
def xmitAddrs (d : Device P) (dest src : Mac) : List UInt8 :=
  let bssid := d.currentNetwork.bssid
  match d.iwMode with
  | .infra => bssid.toList ++ src.toList ++ dest.toList
  | .adhoc => dest.toList ++ src.toList ++ bssid.toList
  | _ => List.replicate 18 0

/-- The bytes a module adds to an MPDU. -/
def CryptoOps.extraLen (ops : CryptoOps P) : ℕ := ops.extraPrefixLen + ops.extraPostfixLen

/-- The local variables of `ieee80211_xmit` from which the fragments are built. -/
structure XmitPlan where
  proto : UInt16
  encrypt : Bool
  fc : UInt16
  addrs : List UInt8
  /-- What `skb_reserve` sets aside for the cipher. -/
  reserved : ℕ
  bytesPerFrag : ℕ
  nrFrags : ℕ
  bytesLastFrag : ℕ
  seqCtrl : UInt16

/-- The payload of the frame, `bytes` less the SNAP header. -/
def xmitPayload (skb : SkBuff) : SkBuff := skb.pull ethHlen

/-- `bytes_per_frag`. Multicasts are not split at the threshold. -/
def bytesPerFrag (d : Device P) (encrypt : Bool) (dest : Mac) : ℕ :=
  let fragSize := if dest.isMulticast then maxFragThreshold else d.fts.val
  fragSize - dataHdr3Len - (if d.configFcs then fcsLen else 0) -
    (if encrypt then d.txCrypt.elim 0 (·.1.extraLen) else 0)

def xmitPlan (d : Device P) (skb : SkBuff) : XmitPlan :=
  let proto := etherType skb
  let encrypt := d.encrypts proto
  let dest := Mac.read skb.mem 0
  let src := Mac.read skb.mem 6
  let bytes := (xmitPayload skb).len + snapLen
  let perFrag := bytesPerFrag d encrypt dest
  { proto := proto
    encrypt := encrypt
    fc := xmitFc d encrypt
    addrs := xmitAddrs d dest src
    reserved := if encrypt then d.txCrypt.elim 0 (·.1.extraPrefixLen) else 0
    bytesPerFrag := perFrag
    nrFrags := if bytes % perFrag = 0 then bytes / perFrag else bytes / perFrag + 1
    bytesLastFrag := if bytes % perFrag = 0 then perFrag else bytes % perFrag
    seqCtrl := d.seqCtrl }

/-! ### The fragments -/

namespace XmitPlan

variable (pl : XmitPlan)

/-- The header of fragment `i`. -/
def header (i : ℕ) : List UInt8 :=
  le16 (if i + 1 = pl.nrFrags then pl.fc else pl.fc ||| fctlMorefrags) ++ le16 0 ++ pl.addrs ++
    le16 (pl.seqCtrl <<< 4 ||| UInt16.ofNat i)

/-- The bytes of the payload that go into fragment `i`, whose first one has the
SNAP header too. -/
def bytes (i : ℕ) : ℕ :=
  (if i + 1 = pl.nrFrags then pl.bytesLastFrag else pl.bytesPerFrag) - (if i = 0 then snapLen else 0)

/-- The SNAP header, which only the first fragment has. -/
def snap (i : ℕ) : List UInt8 := if i = 0 then putSnap pl.proto else []

end XmitPlan

/-- A fragment before its encryption, and what is left of the payload. -/
def buildFragment (pl : XmitPlan) (i : ℕ) (frag skb : SkBuff) : SkBuff × SkBuff :=
  let frag := if pl.encrypt then frag.reserve pl.reserved else frag
  (((frag.put (pl.header i)).put (pl.snap i)).put (skb.mem.take (pl.bytes i)), skb.pull (pl.bytes i))

/-- The encryption of a fragment. Its result is not looked at. -/
def encryptBuilt (pl : XmitPlan) (d : Device P) (frag : SkBuff) : SkBuff × Device P :=
  if pl.encrypt then
    match encryptFragment d frag dataHdr3Len with
    | some (_, frag, d) => (frag, d)
    | none => (frag, d) -- not reached: the plan only encrypts with a module in the slot
  else (frag, d)

/-- `skb_put(skb_frag, 4)` where the hardware leaves the FCS to the host. Nothing
is written there. -/
def putFcs (d : Device P) (frag : SkBuff) : SkBuff :=
  if d.configFcs then frag.put ((frag.behind ++ List.replicate fcsLen 0).take fcsLen) else frag

/-- The loop of `ieee80211_xmit`, from fragment `i` on with `n` to go. -/
def fillFragments (pl : XmitPlan) : (n i : ℕ) → Device P → SkBuff → (ℕ → SkBuff) →
    (ℕ → SkBuff) × Device P
  | 0, _, d, _, frags => (frags, d)
  | n + 1, i, d, skb, frags =>
    let built := buildFragment pl i (frags i) skb
    let enc := encryptBuilt pl d built.1
    fillFragments pl n (i + 1) enc.2 built.2 (Function.update frags i (putFcs d enc.1))

/-- A buffer of the pool as at its first use. -/
def SkBuff.reset (skb : SkBuff) : SkBuff :=
  ⟨16, [], List.replicate (skb.headroom - 16) 0 ++ skb.data ++ skb.behind⟩

/-- The buffers of the pool's next entry, those of its last use reset. -/
def poolFragments (d : Device P) : ℕ → SkBuff :=
  let txb := d.allocTxb d.txSkbIndex
  fun i => if i < txb.nrFrags then (txb.fragments i).reset else txb.fragments i

/-! ### `ieee80211_xmit` up to the hand-off -/

/-- The part for Ethernet frames, once the frame is accepted. -/
def xmitFragments (d : Device P) (skb : SkBuff) : Txb × Device P :=
  let pl := xmitPlan d skb
  let filled := fillFragments pl pl.nrFrags 0 d (xmitPayload skb) (poolFragments d)
  let txb : Txb := ⟨pl.nrFrags, pl.encrypt, (xmitPayload skb).len + snapLen, filled.1⟩
  (txb, { filled.2 with
    txPendingTxb := d.txPendingTxb + 1
    allocTxb := Function.update d.allocTxb d.txSkbIndex txb
    txSkbIndex := d.txSkbIndex + 1
    seqCtrl := Device.nextSeqCtrl d.seqCtrl })

/-- What `ieee80211_xmit` returns, and the buffer it hands to
`ieee80211_softmac_xmit`. The other hand-off, `hard_start_xmit`, is a handler
this driver does not have. The buffer made for a raw frame says that it has no
fragments. -/
def xmitTxb (env : Env) (d : Device P) (skb : SkBuff) : ℕ × Option Txb × Device P :=
  if ¬ d.softmacFeatures.txQueue then (0, none, d)
  else if d.rawTx then
    if skb.len < dataHdr3Len then (0, none, d)
    else if env.skbAlloc then
      (0, some ⟨0, false, skb.len, fun _ => (SkBuff.devAllocSkb skb.len).put skb.data⟩, d)
    else (1, none, d)
  else if skb.len < snapLen then (0, none, d)
  else if d.dropsUnencrypted (etherType skb) then (0, none, d)
  else if (maxTxSkb - 1 : Int) < d.txPendingTxb then (1, none, d)
  else (0, some (xmitFragments d skb).1, (xmitFragments d skb).2)

/-! ### The hand-off -/

/-- The loop of `ieee80211_softmac_xmit`, from fragment `i` on with `n` to go. -/
def handFragments (env : Env) (txb : Txb) : (n i : ℕ) → Device P → Device P
  | 0, _, d => d
  | n + 1, i, d =>
    if d.queueStop then { d with txPending := some (txb, i) }
    else handFragments env txb n (i + 1) (d.dataHardStartXmit env (txb.fragments i) d.rate)

/-- `ieee80211_softmac_xmit` -/
def softmacXmit (env : Env) (d : Device P) (txb : Txb) : Device P :=
  let d' := if d.queueStop ∧ d.txPending.isSome then d
    else handFragments env txb txb.nrFrags 0 d.staWakeup
  { d' with txPendingTxb := d'.txPendingTxb - 1 }

/-- `ieee80211_xmit` -/
def xmit (env : Env) (d : Device P) (skb : SkBuff) : ℕ × Device P :=
  match xmitTxb env d skb with
  | (ret, none, d) => (ret, d)
  | (ret, some txb, d) => (ret, softmacXmit env d txb)

/-! ### The fragments one by one -/

section

variable (pl : XmitPlan) (d : Device P) (skb : SkBuff) (frags : ℕ → SkBuff)

/-- What is left of the payload before fragment `i`. -/
def restAt : ℕ → SkBuff
  | 0 => skb
  | i + 1 => (restAt i).pull (pl.bytes i)

/-- Fragment `i` before its encryption. -/
def plainFragment (i : ℕ) : SkBuff := (buildFragment pl i (frags i) (restAt pl skb i)).1

/-- The device when fragment `i` is encrypted: the cipher's context moves on. -/
def devAt : ℕ → Device P
  | 0 => d
  | i + 1 => (encryptBuilt pl (devAt i) (plainFragment pl skb frags i)).2

/-- Fragment `i` as it is handed on. -/
def outFragment (i : ℕ) : SkBuff :=
  putFcs (devAt pl d skb frags i)
    (encryptBuilt pl (devAt pl d skb frags i) (plainFragment pl skb frags i)).1

/-- The loop builds its fragments one by one, and touches no others. -/
theorem fillFragments_eq : ∀ (n i : ℕ) (fr : ℕ → SkBuff), (∀ k, i ≤ k → fr k = frags k) →
    fillFragments pl n i (devAt pl d skb frags i) (restAt pl skb i) fr =
      (fun k => if i ≤ k ∧ k < i + n then outFragment pl d skb frags k else fr k,
        devAt pl d skb frags (i + n))
  | 0, i, fr, _ => by
    have hnone : ∀ k, ¬ (i ≤ k ∧ k < i) := by omega
    simp only [fillFragments, Nat.add_zero, hnone, if_false]
  | n + 1, i, fr, hfr => by
    have hstep : ∀ k, i + 1 ≤ k →
        Function.update fr i (outFragment pl d skb frags i) k = frags k := by
      intro k hk
      rw [Function.update_of_ne (by omega), hfr k (by omega)]
    have ih := fillFragments_eq n (i + 1) _ hstep
    rw [fillFragments, hfr i le_rfl]
    refine ih.trans (Prod.ext (funext fun k => ?_) ?_)
    · dsimp only
      by_cases hk : k = i
      · subst hk
        rw [if_neg (by omega), if_pos (by omega), Function.update_self]
      · rw [Function.update_of_ne hk]
        by_cases hin : i + 1 ≤ k ∧ k < i + 1 + n
        · rw [if_pos hin, if_pos (by omega)]
        · rw [if_neg hin, if_neg (by omega)]
    · rw [show i + 1 + n = i + (n + 1) by omega]

/-- The fragments that are handed on, and the buffers that are left out. -/
theorem xmitFragments_fragments (i : ℕ) : (xmitFragments d skb).1.fragments i =
    if i < (xmitPlan d skb).nrFrags then
      outFragment (xmitPlan d skb) d (xmitPayload skb) (poolFragments d) i
    else poolFragments d i := by
  have hfill := fillFragments_eq (xmitPlan d skb) d (xmitPayload skb) (poolFragments d)
    (xmitPlan d skb).nrFrags 0 _ fun _ _ => rfl
  have hfrag := congrFun (congrArg Prod.fst hfill) i
  simp only [Nat.zero_le, true_and, Nat.zero_add] at hfrag
  exact hfrag

/-- The device that is left: the cipher's context has moved on, the buffer is in
the pool, and the next one and the next number are chosen. -/
theorem xmitFragments_dev : (xmitFragments d skb).2 =
    { devAt (xmitPlan d skb) d (xmitPayload skb) (poolFragments d) (xmitPlan d skb).nrFrags with
      txPendingTxb := d.txPendingTxb + 1
      allocTxb := Function.update d.allocTxb d.txSkbIndex (xmitFragments d skb).1
      txSkbIndex := d.txSkbIndex + 1
      seqCtrl := Device.nextSeqCtrl d.seqCtrl } := by
  have hfill := fillFragments_eq (xmitPlan d skb) d (xmitPayload skb) (poolFragments d)
    (xmitPlan d skb).nrFrags 0 _ fun _ _ => rfl
  rw [Nat.zero_add] at hfill
  have hsnd : (fillFragments (xmitPlan d skb) (xmitPlan d skb).nrFrags 0 d (xmitPayload skb)
      (poolFragments d)).2 =
      devAt (xmitPlan d skb) d (xmitPayload skb) (poolFragments d) (xmitPlan d skb).nrFrags :=
    congrArg Prod.snd hfill
  unfold xmitFragments
  dsimp only
  rw [hsnd]

/-- Fragment `i` of the buffer handed on. -/
theorem xmitFragments_frag {i : ℕ} (h : i < (xmitPlan d skb).nrFrags) :
    (xmitFragments d skb).1.fragments i =
      outFragment (xmitPlan d skb) d (xmitPayload skb) (poolFragments d) i := by
  rw [xmitFragments_fragments, if_pos h]

end

/-! ### Encrypt or drop -/

/-- What a module with a MIC adds to a fragment before its encryption. -/
def Device.micLen (d : Device P) : ℕ :=
  if d.txCrypt.any (·.1.encryptMsdu.isSome) then michaelMicLen else 0

/-- A fragment is handed on as it was built, with at most a MIC and an FCS
behind it. (A fragment without its MIC is among them: the cipher is only
tried when the MIC was added.) -/
def StillClear (d : Device P) (plain out : SkBuff) : Prop :=
  plain.data <+: out.data ∧ out.len ≤ plain.len + d.micLen + (if d.configFcs then fcsLen else 0)

/-- The cipher does its work on a fragment: the module is not stopped by TKIP
countermeasures, it has an encryption, its MIC operation returns zero and its
encryption no error. -/
def CipherOk (d : Device P) (frag : SkBuff) : Prop :=
  ∃ ops priv op, d.txCrypt = some (ops, priv) ∧ d.countermeasuresStop ops = false ∧
    ops.encryptMpdu = some op ∧
    (CryptRes.ofOp ops.encryptMsdu frag dataHdr3Len priv).ret = 0 ∧
    0 ≤ (op (CryptRes.ofOp ops.encryptMsdu frag dataHdr3Len priv).skb dataHdr3Len
      (CryptRes.ofOp ops.encryptMsdu frag dataHdr3Len priv).priv).ret

section

variable {d : Device P} {ops : CryptoOps P} {priv : P} {frag out : SkBuff} {ret : Int}
  {d' : Device P}

theorem ofOp_msdu_prefix (ops : CryptoOps P) (frag : SkBuff) (hdrLen : ℕ) (priv : P) :
    frag.data <+: (CryptRes.ofOp ops.encryptMsdu frag hdrLen priv).skb.data ∧
      (CryptRes.ofOp ops.encryptMsdu frag hdrLen priv).skb.len ≤
        frag.len + (if ops.encryptMsdu.isSome then michaelMicLen else 0) := by
  cases hop : ops.encryptMsdu with
  | none => exact ⟨List.prefix_refl _, Nat.le_refl _⟩
  | some op => exact ops.encryptMsdu_prefix op hop frag hdrLen priv

theorem ofOp_msdu_len {hdrLen : ℕ}
    (h : (CryptRes.ofOp ops.encryptMsdu frag hdrLen priv).ret = 0) :
    (CryptRes.ofOp ops.encryptMsdu frag hdrLen priv).skb.len =
      frag.len + (if ops.encryptMsdu.isSome then michaelMicLen else 0) := by
  cases hop : ops.encryptMsdu with
  | none => rfl
  | some op =>
    rw [hop] at h
    exact ops.encryptMsdu_len op hop frag hdrLen priv h

theorem micLen_eq (hc : d.txCrypt = some (ops, priv)) :
    d.micLen = if ops.encryptMsdu.isSome then michaelMicLen else 0 := by
  simp [Device.micLen, hc]

/-- What `ieee80211_encrypt_fragment` does with a module in the slot that is not
stopped. -/
theorem encryptFragment_running (hc : d.txCrypt = some (ops, priv))
    (hstop : d.countermeasuresStop ops = false) {hdrLen : ℕ} :
    encryptFragment d frag hdrLen =
      let mic := CryptRes.ofOp ops.encryptMsdu frag hdrLen priv
      let res := if mic.ret = 0 then CryptRes.ofOp ops.encryptMpdu mic.skb hdrLen mic.priv else mic
      some (if res.ret < 0 then -1 else 0, res.skb, d.setPriv d.txKeyidx res.priv) := by
  unfold encryptFragment
  rw [hc]
  dsimp only
  rw [hstop]
  rfl

/-- A fragment on which the cipher does its work comes out longer than with a MIC. -/
theorem encryptFragment_len (h : encryptFragment d frag dataHdr3Len = some (ret, out, d'))
    (hok : CipherOk d frag) : frag.len + d.micLen < out.len := by
  obtain ⟨ops, priv, op, hc, hstop, hop, hmic, hret⟩ := hok
  have hlen := ofOp_msdu_len hmic
  have hgrow := ops.encryptMpdu_grow op hop _ _ _ hret
  rw [encryptFragment_running hc hstop] at h
  dsimp only at h
  rw [if_pos hmic, hop, CryptRes.ofOp_some] at h
  cases h
  rw [micLen_eq hc]
  omega

/-- Any other comes out as it was, with at most a MIC. -/
theorem encryptFragment_clear (h : encryptFragment d frag dataHdr3Len = some (ret, out, d'))
    (hno : ¬ CipherOk d frag) : frag.data <+: out.data ∧ out.len ≤ frag.len + d.micLen := by
  cases hc : d.txCrypt with
  | none =>
    rw [encryptFragment, hc] at h
    cases h
  | some c =>
    obtain ⟨ops, priv⟩ := c
    obtain ⟨hpre, hle⟩ := ofOp_msdu_prefix ops frag dataHdr3Len priv
    rw [← micLen_eq hc] at hle
    cases hstop : d.countermeasuresStop ops with
    | true =>
      rw [encryptFragment, hc] at h
      dsimp only at h
      rw [if_pos hstop] at h
      cases h
      exact ⟨List.prefix_refl _, Nat.le_add_right _ _⟩
    | false =>
      rw [encryptFragment_running hc hstop] at h
      dsimp only at h
      by_cases hmic : (CryptRes.ofOp ops.encryptMsdu frag dataHdr3Len priv).ret = 0
      · rw [if_pos hmic] at h
        cases hop : ops.encryptMpdu with
        | none =>
          rw [hop] at h
          cases h
          exact ⟨hpre, hle⟩
        | some op =>
          have hret := fun hge => hno ⟨ops, priv, op, hc, hstop, hop, hmic, hge⟩
          have hsame := ops.encryptMpdu_fail op hop _ _ _ (not_le.mp hret)
          rw [hop, CryptRes.ofOp_some] at h
          cases h
          rw [SkBuff.len, hsame]
          exact ⟨hpre, hle⟩
      · rw [if_neg hmic] at h
        cases h
        exact ⟨hpre, hle⟩

/-- What the encryption of a fragment leaves as it is. -/
structure SameCipher (d' d : Device P) : Prop where
  isSome : d'.txCrypt.isSome = d.txCrypt.isSome
  micLen : d'.micLen = d.micLen
  configFcs : d'.configFcs = d.configFcs

theorem SameCipher.rfl' (d : Device P) : SameCipher d d := ⟨rfl, rfl, rfl⟩

theorem SameCipher.trans {d₁ d₂ d₃ : Device P} (h : SameCipher d₁ d₂) (h' : SameCipher d₂ d₃) :
    SameCipher d₁ d₃ :=
  ⟨h.isSome.trans h'.isSome, h.micLen.trans h'.micLen, h.configFcs.trans h'.configFcs⟩

theorem txCrypt_setPriv (d : Device P) (priv : P) :
    (d.setPriv d.txKeyidx priv).txCrypt = d.txCrypt.map fun c => (c.1, priv) := by
  unfold Device.setPriv Device.txCrypt Device.cryptOps
  simp only [Function.update_self]
  cases d.crypt d.txKeyidx with
  | none => rfl
  | some c =>
    obtain ⟨ops, priv⟩ := c
    cases ops <;> rfl

theorem sameCipher_setPriv (d : Device P) (priv : P) : SameCipher (d.setPriv d.txKeyidx priv) d := by
  refine ⟨?_, ?_, rfl⟩
  · rw [txCrypt_setPriv, Option.isSome_map]
  · unfold Device.micLen
    rw [txCrypt_setPriv]
    cases d.txCrypt <;> rfl

theorem sameCipher_encryptFragment {hdrLen : ℕ}
    (h : encryptFragment d frag hdrLen = some (ret, out, d')) : SameCipher d' d := by
  rcases encryptFragment_cases h with rfl | ⟨priv, rfl⟩
  · exact .rfl' d'
  · exact sameCipher_setPriv d priv

theorem sameCipher_encryptBuilt (pl : XmitPlan) (d : Device P) (frag : SkBuff) :
    SameCipher (encryptBuilt pl d frag).2 d := by
  unfold encryptBuilt
  by_cases he : pl.encrypt = true
  · rw [if_pos he]
    cases h : encryptFragment d frag dataHdr3Len with
    | none => exact .rfl' d
    | some r =>
      obtain ⟨ret, out, d'⟩ := r
      exact sameCipher_encryptFragment h
  · rw [if_neg he]
    exact .rfl' d

theorem sameCipher_devAt (pl : XmitPlan) (d : Device P) (skb : SkBuff) (frags : ℕ → SkBuff) :
    ∀ i, SameCipher (devAt pl d skb frags i) d
  | 0 => .rfl' d
  | i + 1 => (sameCipher_encryptBuilt pl _ _).trans (sameCipher_devAt pl d skb frags i)

theorem encryptFragment_isSome {hdrLen : ℕ} (h : d.txCrypt.isSome) :
    ∃ ret out d', encryptFragment d frag hdrLen = some (ret, out, d') := by
  obtain ⟨c, hc⟩ := Option.isSome_iff_exists.mp h
  unfold encryptFragment
  rw [hc]
  dsimp only
  by_cases hstop : d.countermeasuresStop c.1 = true
  · rw [if_pos hstop]
    exact ⟨_, _, _, rfl⟩
  · rw [if_neg hstop]
    exact ⟨_, _, _, rfl⟩

theorem prefix_putFcs (d : Device P) (frag : SkBuff) : frag.data <+: (putFcs d frag).data := by
  unfold putFcs
  by_cases hf : d.configFcs = true
  · rw [if_pos hf]
    exact List.prefix_append _ _
  · rw [if_neg hf]

theorem putFcs_len (d : Device P) (frag : SkBuff) :
    (putFcs d frag).len = frag.len + if d.configFcs then fcsLen else 0 := by
  unfold putFcs SkBuff.len
  by_cases hf : d.configFcs = true
  · rw [if_pos hf, if_pos hf, SkBuff.put_data, List.length_append, List.length_take]
    simp
  · rw [if_neg hf, if_neg hf, Nat.add_zero]

/-- When the plan encrypts, a fragment is handed on clear exactly if the cipher
did not do its work on it. -/
theorem outFragment_clear_iff (pl : XmitPlan) (skb : SkBuff) (frags : ℕ → SkBuff) (i : ℕ)
    (he : pl.encrypt = true) (hc : d.txCrypt.isSome) :
    StillClear d (plainFragment pl skb frags i) (outFragment pl d skb frags i) ↔
      ¬ CipherOk (devAt pl d skb frags i) (plainFragment pl skb frags i) := by
  have hsame := sameCipher_devAt pl d skb frags i
  obtain ⟨ret, out, d', henc⟩ := @encryptFragment_isSome P (devAt pl d skb frags i)
    (plainFragment pl skb frags i) dataHdr3Len (hsame.isSome.trans hc)
  have hbuilt : (encryptBuilt pl (devAt pl d skb frags i) (plainFragment pl skb frags i)).1 = out := by
    unfold encryptBuilt
    rw [if_pos he, henc]
  have hlen := putFcs_len (devAt pl d skb frags i) out
  rw [hsame.configFcs] at hlen
  unfold StillClear outFragment
  rw [hbuilt, hlen, ← hsame.micLen]
  constructor
  · intro ⟨_, hle⟩ hok
    have hlonger := encryptFragment_len henc hok
    omega
  · intro hno
    obtain ⟨hpre, hle⟩ := encryptFragment_clear henc hno
    exact ⟨hpre.trans (prefix_putFcs _ _), by omega⟩

/-- The fragments handed to `ieee80211_softmac_xmit`: none is still clear when
the frame was to be encrypted; and where unencrypted frames are to be dropped
and there is a key, each is of an EAPOL frame or encrypted. -/
def EncryptOrDrop (env : Env) (d : Device P) (skb : SkBuff) : Prop :=
  ∀ txb ∈ (xmitTxb env d skb).2.1, ∀ i < txb.nrFrags,
    let pl := xmitPlan d skb
    let clear := StillClear d (plainFragment pl (xmitPayload skb) (poolFragments d) i) (txb.fragments i)
    (pl.encrypt = true → ¬ clear) ∧
      (d.ieee8021x = true → d.dropUnencrypted = true → (∃ idx, (d.cryptOps idx).isSome = true) →
        pl.proto = ethPPae ∨ pl.encrypt = true ∧ ¬ clear)

/-- `ieee80211_xmit` accepts the frame, and is to encrypt it. -/
def EncryptsFrame (d : Device P) (skb : SkBuff) : Prop :=
  d.softmacFeatures.txQueue = true ∧ d.rawTx = false ∧ snapLen ≤ skb.len ∧
    d.txPendingTxb ≤ (maxTxSkb - 1 : Int) ∧ d.encrypts (etherType skb) = true

/-- What is handed on has no fragments, or those of the plan. -/
theorem xmitTxb_some {env : Env} {d : Device P} {skb : SkBuff} {txb : Txb}
    (h : txb ∈ (xmitTxb env d skb).2.1) :
    txb.nrFrags = 0 ∨ txb = (xmitFragments d skb).1 ∧ d.softmacFeatures.txQueue = true ∧
      d.rawTx = false ∧ snapLen ≤ skb.len ∧ d.txPendingTxb ≤ (maxTxSkb - 1 : Int) ∧
      d.dropsUnencrypted (etherType skb) = false := by
  unfold xmitTxb at h
  by_cases hq : d.softmacFeatures.txQueue = true
  case neg => simp [hq] at h
  rw [if_neg (not_not_intro hq)] at h
  by_cases hraw : d.rawTx = true
  · left
    rw [if_pos hraw] at h
    split_ifs at h with hlen halloc
    · cases h
    · cases h
      rfl
    · cases h
  · right
    rw [if_neg hraw] at h
    split_ifs at h with hlen hdrop hpend
    · cases h
    · cases h
    · cases h
    · cases h
      exact ⟨rfl, hq, by simpa using hraw, not_lt.mp hlen, not_lt.mp hpend, by simpa using hdrop⟩

/-- And those of the plan are handed on, unless the frame is dropped. -/
theorem xmitTxb_of_accepts {env : Env} {d : Device P} {skb : SkBuff} (hq : d.softmacFeatures.txQueue = true)
    (hraw : d.rawTx = false) (hlen : snapLen ≤ skb.len) (hpend : d.txPendingTxb ≤ (maxTxSkb - 1 : Int))
    (hdrop : d.dropsUnencrypted (etherType skb) = false) : (xmitFragments d skb).1 ∈ (xmitTxb env d skb).2.1 := by
  unfold xmitTxb
  rw [if_neg (not_not_intro hq), hraw, if_neg Bool.false_ne_true, if_neg (not_lt.mpr hlen), hdrop,
    if_neg Bool.false_ne_true, if_neg (not_lt.mpr hpend)]
  rfl

/-- A frame that is to be encrypted is handed on. -/
theorem xmitTxb_of_encrypts {env : Env} {d : Device P} {skb : SkBuff} (h : EncryptsFrame d skb) :
    (xmitFragments d skb).1 ∈ (xmitTxb env d skb).2.1 := by
  obtain ⟨hq, hraw, hlen, hpend, henc⟩ := h
  have hdrop : d.dropsUnencrypted (etherType skb) = false := by simp [Device.dropsUnencrypted, henc]
  exact xmitTxb_of_accepts hq hraw hlen hpend hdrop

theorem isSome_of_encrypts {d : Device P} {proto : UInt16} (h : d.encrypts proto = true) :
    d.txCrypt.isSome = true := by
  simp only [Device.encrypts, Bool.and_eq_true] at h
  exact h.2

/-- **When `ieee80211_xmit` encrypts or drops.** Exactly when the cipher does its
work on every fragment of a frame that is to be encrypted. -/
theorem encryptOrDrop_iff (env : Env) (d : Device P) (skb : SkBuff) :
    EncryptOrDrop env d skb ↔
      (EncryptsFrame d skb → ∀ i < (xmitPlan d skb).nrFrags,
        CipherOk (devAt (xmitPlan d skb) d (xmitPayload skb) (poolFragments d) i)
          (plainFragment (xmitPlan d skb) (xmitPayload skb) (poolFragments d) i)) := by
  have hclear : ∀ i < (xmitPlan d skb).nrFrags, (xmitPlan d skb).encrypt = true →
      (StillClear d (plainFragment (xmitPlan d skb) (xmitPayload skb) (poolFragments d) i)
          ((xmitFragments d skb).1.fragments i) ↔
        ¬ CipherOk (devAt (xmitPlan d skb) d (xmitPayload skb) (poolFragments d) i)
          (plainFragment (xmitPlan d skb) (xmitPayload skb) (poolFragments d) i)) := by
    intro i hi henc
    rw [xmitFragments_frag d skb hi]
    exact outFragment_clear_iff _ _ _ i henc (isSome_of_encrypts henc)
  constructor
  · intro h hframe i hi
    have henc : (xmitPlan d skb).encrypt = true := hframe.2.2.2.2
    have hfrag := (h _ (xmitTxb_of_encrypts hframe) i hi).1 henc
    rwa [hclear i hi henc, not_not] at hfrag
  · intro h txb htxb i hi
    rcases xmitTxb_some htxb with hzero | ⟨rfl, hq, hraw, hlen, hpend, hdrop⟩
    · omega
    dsimp only
    have hfrag : (xmitPlan d skb).encrypt = true → ¬ StillClear d
        (plainFragment (xmitPlan d skb) (xmitPayload skb) (poolFragments d) i)
        ((xmitFragments d skb).1.fragments i) := by
      intro henc
      rw [hclear i hi henc, not_not]
      exact h ⟨hq, hraw, hlen, hpend, henc⟩ i hi
    refine ⟨hfrag, fun hx hdu _ => ?_⟩
    -- an unencrypted frame that was not dropped is an EAPOL frame
    cases henc : (xmitPlan d skb).encrypt with
    | true => exact Or.inr ⟨rfl, hfrag henc⟩
    | false =>
      left
      have henc' : d.encrypts (etherType skb) = false := henc
      show etherType skb = ethPPae
      simpa [Device.dropsUnencrypted, henc', hx, hdu] using hdrop

/-- TKIP countermeasures refuse to encrypt a frame, which is handed on clear. -/
theorem countermeasures_hand_clear :
    ¬ ∀ (env : Env) (d : Device Priv) (skb : SkBuff), EncryptOrDrop env d skb := by
  intro h
  let env : Env := ⟨0, true, fun _ => false, ⟨0, 0, 0, 0, 0, 0⟩⟩
  let d : Device Priv := { Device.init Priv ⟨250, true⟩ ⟨2, 0, 0, 0, 0, 1⟩ with
    crypt := fun _ => some ⟨some (tkipOps linuxPrimitives), .tkip (tkipInit 0)⟩
    tkipCountermeasures := true }
  let skb := (SkBuff.devAllocSkb 64).put
    ([2, 0, 0, 0, 0, 9] ++ [2, 0, 0, 0, 0, 1] ++ [0x08, 0x00] ++ List.replicate 20 7)
  have hframe : EncryptsFrame d skb := ⟨rfl, rfl, by decide, by decide, by decide⟩
  have hfirst : 0 < (xmitPlan d skb).nrFrags := by decide
  have hfrag := (h env d skb _ (xmitTxb_of_encrypts hframe) 0 hfirst).1 hframe.2.2.2.2
  apply hfrag
  rw [xmitFragments_frag d skb hfirst, outFragment_clear_iff _ _ _ 0 hframe.2.2.2.2 rfl]
  rintro ⟨ops, priv, op, hc, hstop, -⟩
  cases hc
  exact absurd hstop (by decide)

end

end Rtl8187

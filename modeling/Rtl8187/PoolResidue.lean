/-
# No residue in the pool

The buffers of a TXB of the pool are used again and again. Before a frame is
built, `ieee80211_xmit` empties as many of them as the last use had fragments,
though the new use may need more. Those beyond were not touched since they were
last empty, so all are (`poolEmpty_step`).

What a buffer's memory holds behind its data does not show either: two buffers
that differ only there leave the cipher modules with the same data
(`module_blind`). So the fragments handed on are the same as if the memory of
the whole pool had been cleared before (`no_residue`).

Key definitions: `SameData`, `CryptoOps.Blind`, `PoolEmpty`, `NoResidue`, `PoolInput`.
Key theorems: `module_blind`, `outFragment_blind`, `poolEmpty_step`, `no_residue`.
-/
import Rtl8187.FragmentSizing

namespace Rtl8187

open Bytes Chunks

/-! ### Buffers that differ behind their data -/

/-- The two buffers have the same data, and the same room in front and behind. -/
structure SameData (a b : SkBuff) : Prop where
  headroom : a.headroom = b.headroom
  data : a.data = b.data
  tailroom : a.tailroom = b.tailroom

namespace SameData

variable {a b : SkBuff}

theorem refl (a : SkBuff) : SameData a a := ⟨rfl, rfl, rfl⟩

theorem len (h : SameData a b) : a.len = b.len := congrArg List.length h.data

theorem put (h : SameData a b) (bs : List UInt8) : SameData (a.put bs) (b.put bs) where
  headroom := h.headroom
  data := congrArg (· ++ bs) h.data
  tailroom := by rw [SkBuff.tailroom_put, SkBuff.tailroom_put, h.tailroom]

theorem reserve (h : SameData a b) (n : ℕ) : SameData (a.reserve n) (b.reserve n) where
  headroom := congrArg (· + n) h.headroom
  data := h.data
  tailroom := by
    have htail : a.behind.length = b.behind.length := h.tailroom
    simp [SkBuff.reserve, SkBuff.tailroom, htail]

theorem insertIv (h : SameData a b) (hdrLen : ℕ) (iv : List UInt8) :
    SameData (a.insertIv hdrLen iv) (b.insertIv hdrLen iv) where
  headroom := congrArg (· - iv.length) h.headroom
  data := by rw [SkBuff.insertIv_data, SkBuff.insertIv_data, h.data]
  tailroom := h.tailroom

theorem rewrite (h : SameData a b) (bs : List UInt8) : SameData { a with data := bs } { b with data := bs } :=
  ⟨h.headroom, rfl, h.tailroom⟩

end SameData

/-! ### The cipher modules look at the data alone -/

/-- The two results are the same, up to what their buffers hold behind. -/
structure SameRes {P : Type} (r s : CryptRes P) : Prop where
  ret : r.ret = s.ret
  skb : SameData r.skb s.skb
  priv : r.priv = s.priv

/-- An operation does not see what lies behind the data. -/
def MpduOp.Blind {P : Type} (op : MpduOp P) : Prop :=
  ∀ a b, SameData a b → ∀ hdrLen priv, SameRes (op a hdrLen priv) (op b hdrLen priv)

/-- Nor do those of a module that encrypt. -/
def CryptoOps.Blind {P : Type} (ops : CryptoOps P) : Prop :=
  (∀ op ∈ ops.encryptMsdu, MpduOp.Blind op) ∧ ∀ op ∈ ops.encryptMpdu, MpduOp.Blind op

section

variable (prim : Primitives)

theorem prism2WepEncrypt_blind : MpduOp.Blind (prism2WepEncrypt prim) := by
  intro a b h hdrLen wep
  unfold prism2WepEncrypt
  rw [h.headroom, h.tailroom, h.len]
  by_cases hroom : b.headroom < 4 ∨ b.tailroom < 4 ∨ b.len < hdrLen
  · rw [if_pos hroom, if_pos hroom]
    exact ⟨rfl, h, rfl⟩
  · rw [if_neg hroom, if_neg hroom]
    have hiv := h.insertIv hdrLen (WepData.ivBytes wep.nextIv ++ [keyIdxByte wep.keyIdx])
    dsimp only
    rw [hiv.data, (hiv.put _).data]
    exact ⟨rfl, (hiv.put _).rewrite _, rfl⟩

theorem tkipEncrypt_blind : MpduOp.Blind (tkipEncrypt prim) := by
  intro a b h hdrLen tkey
  unfold tkipEncrypt
  rw [h.headroom, h.tailroom, h.len, h.data]
  by_cases hroom : b.headroom < 8 ∨ b.tailroom < 4 ∨ b.len < hdrLen
  · rw [if_pos hroom, if_pos hroom]
    exact ⟨rfl, h, rfl⟩
  · rw [if_neg hroom, if_neg hroom]
    dsimp only
    rw [((h.insertIv _ _).put _).data]
    exact ⟨rfl, ((h.insertIv _ _).put _).rewrite _, rfl⟩

theorem michaelMicAdd_blind : MpduOp.Blind (michaelMicAdd prim) := by
  intro a b h hdrLen tkey
  unfold michaelMicAdd
  rw [h.tailroom, h.len, h.data]
  by_cases hroom : b.tailroom < michaelMicLen ∨ b.len < hdrLen
  · rw [if_pos hroom, if_pos hroom]
    exact ⟨rfl, h, rfl⟩
  · rw [if_neg hroom, if_neg hroom]
    exact ⟨rfl, h.put _, rfl⟩

theorem ccmpEncrypt_blind : MpduOp.Blind (ccmpEncrypt prim) := by
  intro a b h hdrLen key
  unfold ccmpEncrypt
  rw [h.headroom, h.tailroom, h.len]
  by_cases hroom : b.headroom < ccmpHdrLen ∨ b.tailroom < ccmpMicLen ∨ b.len < hdrLen
  · rw [if_pos hroom, if_pos hroom]
    exact ⟨rfl, h, rfl⟩
  · rw [if_neg hroom, if_neg hroom]
    have hiv := h.insertIv hdrLen (key.txPn.incr.ccmpHdr key.keyIdx)
    dsimp only
    rw [hiv.data]
    exact ⟨rfl, (hiv.rewrite _).put _, rfl⟩

/-- An operation on its own kind of context, in the table of the modules. -/
theorem onPriv_blind {D : Type} {get : Priv → Option D} {mk : D → Priv} {op : MpduOp D} (h : MpduOp.Blind op) :
    MpduOp.Blind (onPriv get mk op) := by
  intro a b hab hdrLen priv
  unfold onPriv
  cases get priv with
  | none => exact ⟨rfl, hab, rfl⟩
  | some d =>
    have hres := h a b hab hdrLen d
    exact ⟨hres.ret, hres.skb, congrArg mk hres.priv⟩

/-- **Every module of the driver sees the data alone.** -/
theorem module_blind {ops : CryptoOps Priv} (h : ops ∈ cipherModules prim) : ops.Blind := by
  simp only [cipherModules, List.mem_cons, List.not_mem_nil, or_false] at h
  rcases h with rfl | rfl | rfl | rfl
  · exact ⟨nofun, nofun⟩
  · refine ⟨nofun, ?_⟩
    rintro _ ⟨⟩
    exact onPriv_blind (prism2WepEncrypt_blind prim)
  · refine ⟨?_, ?_⟩
    · rintro _ ⟨⟩
      exact onPriv_blind (michaelMicAdd_blind prim)
    · rintro _ ⟨⟩
      exact onPriv_blind (tkipEncrypt_blind prim)
  · refine ⟨nofun, ?_⟩
    rintro _ ⟨⟩
    exact onPriv_blind (ccmpEncrypt_blind prim)

end

/-! ### A frame built in another pool -/

/-- The device with these TXBs in its pool. -/
def Device.withPool {P : Type} (d : Device P) (pool : Fin maxTxSkb → Txb) : Device P := { d with allocTxb := pool }

section

variable {P : Type} {d : Device P} {pl : XmitPlan} {a b : SkBuff}

theorem ofOp_blind {op : Option (MpduOp P)} (hop : ∀ f ∈ op, MpduOp.Blind f) (h : SameData a b) (hdrLen : ℕ)
    (priv : P) : SameRes (CryptRes.ofOp op a hdrLen priv) (CryptRes.ofOp op b hdrLen priv) := by
  cases op with
  | none => exact ⟨rfl, h, rfl⟩
  | some f => exact hop f rfl a b h hdrLen priv

/-- The encryption of a fragment sees neither the pool nor what lies behind it. -/
theorem encryptBuilt_blind (hmod : ∀ idx, ∀ c ∈ d.cryptOps idx, c.1.Blind) (pool : Fin maxTxSkb → Txb)
    (h : SameData a b) :
    SameData (encryptBuilt pl d a).1 (encryptBuilt pl (d.withPool pool) b).1 ∧
      (encryptBuilt pl (d.withPool pool) b).2 = (encryptBuilt pl d a).2.withPool pool := by
  have htx : (d.withPool pool).txCrypt = d.txCrypt := rfl
  unfold encryptBuilt encryptFragment
  by_cases hencrypt : pl.encrypt = true
  · rw [if_pos hencrypt, if_pos hencrypt, htx]
    rcases hc : d.txCrypt with _ | ⟨ops, priv⟩
    · exact ⟨h, rfl⟩
    · obtain ⟨hmsdu, hmpdu⟩ := hmod d.txKeyidx _ hc
      have hmic := ofOp_blind hmsdu h dataHdr3Len priv
      have henc := ofOp_blind hmpdu hmic.skb dataHdr3Len (CryptRes.ofOp ops.encryptMsdu b dataHdr3Len priv).priv
      dsimp only
      rw [show (d.withPool pool).countermeasuresStop ops = d.countermeasuresStop ops from rfl]
      by_cases hstop : d.countermeasuresStop ops = true
      · rw [if_pos hstop, if_pos hstop]
        exact ⟨h, rfl⟩
      · rw [if_neg hstop, if_neg hstop, hmic.ret, hmic.priv]
        by_cases hret : (CryptRes.ofOp ops.encryptMsdu b dataHdr3Len priv).ret = 0
        · rw [if_pos hret, if_pos hret, henc.priv]
          exact ⟨henc.skb, rfl⟩
        · rw [if_neg hret, if_neg hret, hmic.priv]
          exact ⟨hmic.skb, rfl⟩
  · rw [if_neg hencrypt, if_neg hencrypt]
    exact ⟨h, rfl⟩

variable {frags frags' : ℕ → SkBuff} {skb : SkBuff}

theorem plainFragment_blind (h : ∀ i, SameData (frags i) (frags' i)) (i : ℕ) :
    SameData (plainFragment pl skb frags i) (plainFragment pl skb frags' i) := by
  unfold plainFragment buildFragment
  by_cases hencrypt : pl.encrypt = true
  · simp only [if_pos hencrypt]
    exact ((((h i).reserve _).put _).put _).put _
  · simp only [if_neg hencrypt]
    exact (((h i).put _).put _).put _

/-- The cipher's context moves on alike. -/
theorem devAt_blind (pl : XmitPlan) (skb : SkBuff) (hmod : ∀ idx, ∀ c ∈ d.cryptOps idx, c.1.Blind)
    (pool : Fin maxTxSkb → Txb) (h : ∀ i, SameData (frags i) (frags' i)) (i : ℕ) :
    devAt pl (d.withPool pool) skb frags' i = (devAt pl d skb frags i).withPool pool := by
  induction i with
  | zero => rfl
  | succ i ih =>
    have hmod' := all_modules (devAt_sameModules pl d skb frags i).modules hmod
    rw [devAt, ih]
    exact (encryptBuilt_blind hmod' pool (plainFragment_blind h i)).2

/-- **A fragment built in another buffer**, of the same data and the same room, is
handed on with the same bytes, if none are left for the FCS. -/
theorem outFragment_blind (hmod : ∀ idx, ∀ c ∈ d.cryptOps idx, c.1.Blind) (hfcs : d.configFcs = false)
    (pool : Fin maxTxSkb → Txb) (h : ∀ i, SameData (frags i) (frags' i)) (i : ℕ) :
    (outFragment pl d skb frags i).data = (outFragment pl (d.withPool pool) skb frags' i).data := by
  have hsame := devAt_sameModules pl d skb frags i
  have hmod' := all_modules hsame.modules hmod
  have hdev := devAt_blind pl skb hmod pool h i
  have hnone : ∀ frag, putFcs (devAt pl d skb frags i) frag = frag :=
    fun frag => if_neg (by rw [hsame.configFcs, hfcs]; decide)
  have hnone' : ∀ frag, putFcs ((devAt pl d skb frags i).withPool pool) frag = frag := hnone
  unfold outFragment
  rw [hdev, hnone, hnone']
  exact (encryptBuilt_blind hmod' pool (plainFragment_blind h i)).1.data

end

/-! ### The pool between two frames -/

/-- A buffer with its memory cleared. -/
def SkBuff.blank (skb : SkBuff) : SkBuff :=
  ⟨skb.headroom, List.replicate skb.len 0, List.replicate skb.tailroom 0⟩

/-- A TXB with its buffers cleared. -/
def Txb.blank (txb : Txb) : Txb := { txb with fragments := fun i => (txb.fragments i).blank }

/-- The buffers that the last use of their TXB left out are empty, at the head
room that `ieee80211_xmit` gives the others. -/
def PoolEmpty {P : Type} (d : Device P) : Prop :=
  ∀ idx i, (d.allocTxb idx).nrFrags ≤ i →
    ((d.allocTxb idx).fragments i).data = [] ∧ ((d.allocTxb idx).fragments i).headroom = 16

/-- An earlier use of the pool leaves nothing in the fragments of a frame: their
buffers are empty at the fixed head room, header and piece of the body are all
that is written there, and what is handed on is what comes out of a pool with
its memory cleared. -/
structure NoResidue {P : Type} (d : Device P) (skb : SkBuff) : Prop where
  empty : ∀ i, (poolFragments d i).data = [] ∧ (poolFragments d i).headroom = 16
  plain : ∀ i < (xmitPlan d skb).nrFrags,
    (plainFragment (xmitPlan d skb) (xmitPayload skb) (poolFragments d) i).data =
      (xmitPlan d skb).header i ++ chunk (xmitPlan d skb).bytesPerFrag (xmitBody skb) i
  handed : ∀ i < (xmitPlan d skb).nrFrags, ((xmitFragments d skb).1.fragments i).data =
    ((xmitFragments (d.withPool fun idx => (d.allocTxb idx).blank) skb).1.fragments i).data

section

variable {P : Type} {d : Device P}

theorem PoolEmpty.fragments (h : PoolEmpty d) (i : ℕ) :
    (poolFragments d i).data = [] ∧ (poolFragments d i).headroom = 16 := by
  unfold poolFragments
  split_ifs with hi
  · exact ⟨rfl, rfl⟩
  · exact h d.txSkbIndex i (not_lt.mp hi)

/-- The buffers of a cleared pool differ behind their data alone. -/
theorem PoolEmpty.sameData (h : PoolEmpty d) (i : ℕ) :
    SameData (poolFragments d i) (poolFragments (d.withPool fun idx => (d.allocTxb idx).blank) i) := by
  set frag := (d.allocTxb d.txSkbIndex).fragments i with hfrag
  have hcleared : poolFragments (d.withPool fun idx => (d.allocTxb idx).blank) i =
      if i < (d.allocTxb d.txSkbIndex).nrFrags then frag.blank.reset else frag.blank := rfl
  have hheld : poolFragments d i =
      if i < (d.allocTxb d.txSkbIndex).nrFrags then frag.reset else frag := rfl
  rw [hcleared, hheld]
  by_cases hi : i < (d.allocTxb d.txSkbIndex).nrFrags
  · rw [if_pos hi, if_pos hi]
    refine ⟨rfl, rfl, ?_⟩
    simp [SkBuff.reset, SkBuff.blank, SkBuff.tailroom, SkBuff.len, Nat.add_assoc]
  · obtain ⟨hdata, -⟩ := h d.txSkbIndex i (not_lt.mp hi)
    rw [← hfrag] at hdata
    rw [if_neg hi, if_neg hi]
    refine ⟨rfl, ?_, ?_⟩
    · simp [SkBuff.blank, SkBuff.len, hdata]
    · simp [SkBuff.blank, SkBuff.tailroom]

/-- A frame built in such a pool. -/
theorem PoolEmpty.noResidue (h : PoolEmpty d) (hmod : ∀ idx, ∀ c ∈ d.cryptOps idx, c.1.Blind)
    (hfcs : d.configFcs = false) (skb : SkBuff) : NoResidue d skb where
  empty := h.fragments
  plain i hi := plainFragment_data hi (h.fragments i).1
  handed i hi := by
    have hplan : xmitPlan (d.withPool fun idx => (d.allocTxb idx).blank) skb = xmitPlan d skb := rfl
    rw [xmitFragments_frag d skb hi, xmitFragments_frag _ skb (by rw [hplan]; exact hi), hplan]
    exact outFragment_blind hmod hfcs _ h.sameData i

/-- The frame leaves its own TXB with fragments, and buffers that it left out. -/
theorem poolEmpty_xmitFragments (h : PoolEmpty d) (skb : SkBuff) : PoolEmpty (xmitFragments d skb).2 := by
  intro idx i hi
  have hpool : (xmitFragments d skb).2.allocTxb =
      Function.update d.allocTxb d.txSkbIndex (xmitFragments d skb).1 := rfl
  rw [hpool] at hi ⊢
  by_cases hidx : idx = d.txSkbIndex
  · subst hidx
    rw [Function.update_self] at hi ⊢
    have hout : ¬ i < (xmitPlan d skb).nrFrags := not_lt.mpr hi
    rw [xmitFragments_fragments, if_neg hout]
    exact h.fragments i
  · rw [Function.update_of_ne hidx] at hi ⊢
    exact h idx i hi

end

/-! ### Runs -/

/-- What the rest of the driver does, which leaves the pool and the modules; no
part of it writes `config`. -/
structure PoolRest where
  run : Device Priv → Device Priv
  allocTxb_eq : ∀ d, (run d).allocTxb = d.allocTxb
  configFcs_eq : ∀ d, (run d).configFcs = d.configFcs
  modules_eq : ∀ d idx, ((run d).cryptOps idx).map Prod.fst = (d.cryptOps idx).map Prod.fst

/-- What the pool meets: frames of any length, and keys of the driver's modules. -/
inductive PoolInput (prim : Primitives) where
  | xmit (env : Env) (skb : SkBuff)
  | setKey (idx : KeyIdx) (crypt : Option (CryptData Priv))
      (known : ∀ c ∈ crypt, ∀ ops ∈ c.ops, ops ∈ cipherModules prim)
  | rest (act : PoolRest)

def PoolInput.step {prim : Primitives} (d : Device Priv) : PoolInput prim → Device Priv
  | .xmit env skb => (Rtl8187.xmit env d skb).2
  | .setKey idx crypt _ => { d with crypt := Function.update d.crypt idx crypt }
  | .rest act => act.run d

/-- The pool between two calls. -/
structure PoolKept (prim : Primitives) (d : Device Priv) : Prop where
  empty : PoolEmpty d
  modules : ∀ idx, ∀ c ∈ d.cryptOps idx, c.1 ∈ cipherModules prim
  configFcs : d.configFcs = false

section

variable {prim : Primitives} {d : Device Priv}

theorem PoolKept.noResidue (h : PoolKept prim d) (skb : SkBuff) : NoResidue d skb :=
  h.empty.noResidue (fun idx c hc => module_blind prim (h.modules idx c hc)) h.configFcs skb

theorem poolKept_init (kernel : KernelConfig) (devAddr : Mac) :
    PoolKept prim (Device.init Priv kernel devAddr) :=
  ⟨fun _ _ _ => ⟨rfl, rfl⟩, fun _ _ hc => absurd hc (by simp [Device.cryptOps, Device.init]), rfl⟩

/-- What touches neither the pool nor the slots nor `config`. -/
theorem PoolKept.congr {d' : Device Priv} (h : PoolKept prim d) (hpool : d'.allocTxb = d.allocTxb)
    (hmod : ∀ idx, (d'.cryptOps idx).map Prod.fst = (d.cryptOps idx).map Prod.fst)
    (hfcs : d'.configFcs = d.configFcs) : PoolKept prim d' where
  empty := by
    unfold PoolEmpty
    rw [hpool]
    exact h.empty
  modules := all_modules hmod h.modules
  configFcs := hfcs.trans h.configFcs

theorem poolKept_handFragments (env : Env) (txb : Txb) : ∀ (n i : ℕ) {d : Device Priv}, PoolKept prim d →
    PoolKept prim (handFragments env txb n i d)
  | 0, _, _, h => h
  | n + 1, i, d, h => by
    unfold handFragments
    by_cases hstop : d.queueStop = true
    · rw [if_pos hstop]
      exact h.congr rfl (fun _ => rfl) rfl
    · rw [if_neg hstop]
      exact poolKept_handFragments env txb n (i + 1) (h.congr rfl (fun _ => rfl) rfl)

theorem poolKept_softmacXmit (env : Env) (txb : Txb) (h : PoolKept prim d) :
    PoolKept prim (softmacXmit env d txb) := by
  have hawake : PoolKept prim d.staWakeup := by
    unfold Device.staWakeup Device.queueWork
    dsimp only
    split_ifs <;> exact h.congr rfl (fun _ => rfl) rfl
  have hhanded := poolKept_handFragments env txb txb.nrFrags 0 hawake
  unfold softmacXmit
  dsimp only
  split_ifs
  · exact h.congr rfl (fun _ => rfl) rfl
  · exact hhanded.congr rfl (fun _ => rfl) rfl

theorem poolKept_xmitTxb (env : Env) (skb : SkBuff) (h : PoolKept prim d) :
    PoolKept prim (xmitTxb env d skb).2.2 := by
  rcases xmitTxb_dev env d skb with hdev | hdev
  · rw [hdev]
    exact h
  · have hsame := xmitFragments_sameModules d skb
    rw [hdev]
    exact ⟨poolEmpty_xmitFragments h.empty skb, all_modules hsame.modules h.modules,
      hsame.configFcs.trans h.configFcs⟩

theorem poolKept_xmit (env : Env) (skb : SkBuff) (h : PoolKept prim d) : PoolKept prim (xmit env d skb).2 := by
  have hleft := poolKept_xmitTxb env skb h
  unfold xmit
  generalize xmitTxb env d skb = res at hleft ⊢
  obtain ⟨ret, txb, d'⟩ := res
  rcases txb with _ | txb
  · exact hleft
  · exact poolKept_softmacXmit env txb hleft

/-- **One call**, whatever it is. -/
theorem poolKept_step (d : Device Priv) (i : PoolInput prim) (h : PoolKept prim d) : PoolKept prim (i.step d) := by
  cases i with
  | xmit env skb => exact poolKept_xmit env skb h
  | setKey idx crypt known => exact ⟨h.empty, modules_setKey h.modules known, h.configFcs⟩
  | rest act => exact h.congr (act.allocTxb_eq d) (act.modules_eq d) (act.configFcs_eq d)

/-- **The pool leaves no residue.** Whatever frames were sent before, of whatever
lengths and with whatever keys, a frame is handed on as from a cleared pool. -/
theorem no_residue (prim : Primitives) (kernel : KernelConfig) (devAddr : Mac) (is : List (PoolInput prim))
    (skb : SkBuff) : NoResidue (Run.run PoolInput.step (Device.init Priv kernel devAddr) is) skb :=
  (Run.inv_run (fun d i h _ => poolKept_step d i h) _ is (poolKept_init kernel devAddr)
    (Run.allSteps_true _ is)).noResidue skb

end

end Rtl8187

/-
# The life of a cipher context

A context that was installed in a slot is in one place at any time: in its slot,
in the list of those to be taken down, or taken down, and that once. Outside
`free_ieee80211` it is taken down when nobody has a reference to it. As long as
there is something in the list, the timer is pending or its handler runs
(`crypt_life`).

The ioctls change the slots by four operations only (`Changes`), so what these
keep, all of them keep.

Key definitions: `KeyConfig.Changes`, `KeyWorld`, `KeyEvent`, `KeyWorld.step`,
`LifeCycle`.
Key theorems: `changes_wxSetEncode`, `changes_wxSetEncodeExt`,
`changes_wpaSetEncryption`, `lifeCycle_step`, `crypt_life`.
-/
import Rtl8187.KeyConfig
import Rtl8187.Lib.Ledger
import Rtl8187.Lib.Run

namespace Rtl8187

namespace KeyConfig

variable {k k' k'' : KeyConfig} {idx : KeyIdx}

/-! ### What the ioctls do -/

/-- `k'` comes from `k` by contexts that leave their slots, are installed in empty
ones, or have their `priv` changed, and by other settings. -/
inductive Changes (k : KeyConfig) : KeyConfig → Prop where
  | refl : Changes k k
  | deinit {k' : KeyConfig} (h : Changes k k') (idx : KeyIdx) : Changes k (k'.delayedDeinit idx)
  | install {k' : KeyConfig} (h : Changes k k') {idx : KeyIdx} (hnone : k'.crypt idx = none) (priv : Priv) :
      Changes k (k'.install idx priv)
  | setPriv {k' : KeyConfig} (h : Changes k k') (i : CtxId) (priv : Priv) : Changes k (k'.setPriv i priv)
  | settings {k' : KeyConfig} (h : Changes k k') (txKeyidx : KeyIdx) (pairwiseKeyType : ℕ) (iwMode : IwMode)
      (openWep : Bool) (apMacAddr : Mac) :
      Changes k { k' with
        txKeyidx := txKeyidx
        pairwiseKeyType := pairwiseKeyType
        iwMode := iwMode
        openWep := openWep
        apMacAddr := apMacAddr }

theorem Changes.trans (h : Changes k k') (h' : Changes k' k'') : Changes k k'' := by
  induction h' with
  | refl => exact h
  | deinit _ idx ih => exact ih.deinit idx
  | install _ hnone priv ih => exact ih.install hnone priv
  | setPriv _ i priv ih => exact ih.setPriv i priv
  | settings _ tx type mode wep ap ih => exact ih.settings tx type mode wep ap

theorem Changes.setKey (h : Changes k k') (idx : KeyIdx) (key : List UInt8) (seq : Option (List UInt8)) :
    Changes k (k'.setKey idx key seq).2 := by
  unfold KeyConfig.setKey
  cases k'.crypt idx with
  | none => exact h
  | some i => exact h.setPriv i _

theorem Changes.deinits (h : Changes k k') (idxs : List KeyIdx) : Changes k (idxs.foldl delayedDeinit k') := by
  induction idxs generalizing k' with
  | nil => exact h
  | cons idx idxs ih => exact ih (h.deinit idx)

@[simp] theorem crypt_delayedDeinit (k : KeyConfig) (idx : KeyIdx) : (k.delayedDeinit idx).crypt idx = none := by
  unfold delayedDeinit
  split
  · assumption
  · exact Function.update_self ..

theorem changes_takeWep (env : KeyEnv) (h : Changes k k') (idx : KeyIdx) :
    Changes k (takeWep env k' idx).2 := by
  unfold takeWep
  split_ifs with hsome
  · exact h
  · exact h
  · exact h
  · exact h.install (Option.not_isSome_iff_eq_none.mp hsome) _

theorem changes_takeCipher (env : KeyEnv) (h : Changes k k') (idx : KeyIdx) (cipher : Cipher) :
    Changes k (takeCipher env k' idx cipher).2 := by
  unfold takeCipher
  dsimp only
  split_ifs
  · exact h
  · exact h.deinit idx
  · exact h.deinit idx
  · exact (h.deinit idx).install (crypt_delayedDeinit k' idx) _

theorem changes_putKey (env : KeyEnv) (h : Changes k k') (idx : KeyIdx) (cipher : Cipher)
    (key seq : List UInt8) : Changes k (putKey env k' idx cipher key seq).2 := by
  have htake := changes_takeCipher env h idx cipher
  unfold putKey
  dsimp only
  split_ifs
  · exact htake
  · exact htake
  · exact htake.setKey idx key _
  · exact htake.setKey idx key _

/-- A changed slot for sending is a setting. -/
theorem Changes.txKeyidx (h : Changes k k') (idx : KeyIdx) : Changes k { k' with txKeyidx := idx } :=
  h.settings idx k'.pairwiseKeyType k'.iwMode k'.openWep k'.apMacAddr

theorem changes_wxSetEncode (env : KeyEnv) (k : KeyConfig) (req : EncodeRequest) :
    Changes k (wxSetEncode env k req).2 := by
  unfold wxSetEncode
  cases namedSlot req.flags k.txKeyidx with
  | none => exact .refl
  | some key =>
    have hwep : ∀ {k' : KeyConfig} (tx : KeyIdx) (wep : Bool), Changes k k' →
        Changes k { k' with txKeyidx := tx, openWep := wep } := by
      intro k' tx wep h
      exact h.settings tx k'.pairwiseKeyType k'.iwMode wep k'.apMacAddr
    have hold : Changes k (if (k.slot key).any (·.priv.cipher.name != "WEP") then k.delayedDeinit key else k) := by
      split_ifs
      · exact Changes.refl.deinit key
      · exact .refl
    dsimp only
    generalize (if (k.slot key).any (·.priv.cipher.name != "WEP") then k.delayedDeinit key else k) = k₁ at hold ⊢
    have htake := changes_takeWep env hold key
    generalize takeWep env k₁ key = taken at htake ⊢
    split_ifs
    · exact hwep _ _ (Changes.refl.deinit key)
    · exact hwep _ _ (Changes.refl.deinits _)
    · exact htake
    · exact hwep _ _ (htake.setKey key _ _)
    · exact hwep _ _ (htake.setKey key _ _)
    · exact hwep _ _ (htake.setKey key _ _)
    · exact hwep _ _ (htake.setKey key _ _)
    · exact hwep _ _ htake
    · exact hwep _ _ htake

theorem changes_wxSetEncodeExt (env : KeyEnv) (k : KeyConfig) (req : EncodeExtRequest) :
    Changes k (wxSetEncodeExt env k req).2 := by
  unfold wxSetEncodeExt
  cases namedSlot req.flags k.txKeyidx with
  | none => exact .refl
  | some idx =>
    cases (extAlg req.alg).bind env.getCryptoOps with
    | none =>
      dsimp only
      split_ifs
      · exact .refl
      · exact .refl
      · exact Changes.refl.deinit idx
      · exact .refl
    | some cipher =>
      have hput := changes_putKey env (.refl : Changes k k) idx cipher req.key req.rxSeq
      dsimp only
      split_ifs
      · exact .refl
      · exact .refl
      · exact Changes.refl.deinit idx
      · exact hput
      · exact hput.txKeyidx idx
      · exact hput

theorem changes_wpaSetEncryption (env : KeyEnv) (h : Changes k k') (param : EncryptionParam) :
    Changes k (wpaSetEncryption env k' param).2 := by
  unfold wpaSetEncryption
  by_cases hidx : param.idx.toNat < 4
  · cases env.getCryptoOps param.alg with
    | none =>
      dsimp only
      rw [dif_pos hidx]
      split_ifs
      · exact h
      · exact h
      · exact h.deinit _
      · exact h.txKeyidx _
      · exact h
      · exact h
    | some cipher =>
      have hput := changes_putKey env h ⟨param.idx.toNat, hidx⟩ cipher param.key param.seq
      dsimp only
      rw [dif_pos hidx]
      split_ifs
      · exact h
      · exact h
      · exact h.deinit _
      · exact h.txKeyidx _
      · exact h
      · exact hput
      · exact hput.txKeyidx _
      · exact hput
  · dsimp only
    rw [dif_neg hidx]
    split_ifs
    · exact h
    · exact h
    · exact h

theorem changes_setEncryptionCmd (env : KeyEnv) (k : KeyConfig) (param : EncryptionParam) :
    Changes k (setEncryptionCmd env k param).2 := by
  unfold setEncryptionCmd
  dsimp only
  split_ifs
  · exact changes_wpaSetEncryption env .refl param
  all_goals exact changes_wpaSetEncryption env (Changes.refl.settings _ _ _ _ _) param

/-! ### Where the contexts are -/

/-- The contexts in the slots. -/
def slotCtxs (k : KeyConfig) : List CtxId := (List.finRange 4).filterMap k.crypt

/-- The contexts in the other slots. -/
def otherCtxs (crypt : KeyIdx → Option CtxId) (idx : KeyIdx) : List CtxId :=
  ((List.finRange 4).erase idx).filterMap crypt

/-- Every context that was installed is in a slot or in the list, or was taken
down, and is in one of these places once. -/
def OnePlace (k : KeyConfig) : Prop :=
  Ledger.Balanced (k.slotCtxs ++ k.cryptDeinitList) (k.deinits.map (·.ctx)) k.nextCtx

theorem slots_perm (crypt : KeyIdx → Option CtxId) (idx : KeyIdx) :
    ((List.finRange 4).filterMap crypt).Perm ((crypt idx).toList ++ otherCtxs crypt idx) := by
  have hperm := (List.perm_cons_erase (List.mem_finRange idx)).filterMap crypt
  have hcons : (idx :: (List.finRange 4).erase idx).filterMap crypt =
      (crypt idx).toList ++ otherCtxs crypt idx := by
    cases h : crypt idx with
    | none => simp [otherCtxs, h]
    | some i => simp [otherCtxs, h]
  rwa [hcons] at hperm

theorem otherCtxs_update (crypt : KeyIdx → Option CtxId) (idx : KeyIdx) (v : Option CtxId) :
    otherCtxs (Function.update crypt idx v) idx = otherCtxs crypt idx := by
  apply List.filterMap_congr
  intro j hj
  apply Function.update_of_ne
  rintro rfl
  exact (List.nodup_finRange 4).not_mem_erase hj

theorem slots_update (crypt : KeyIdx → Option CtxId) (idx : KeyIdx) (v : Option CtxId) :
    ((List.finRange 4).filterMap (Function.update crypt idx v)).Perm (v.toList ++ otherCtxs crypt idx) := by
  have hperm := slots_perm (Function.update crypt idx v) idx
  rwa [Function.update_self, otherCtxs_update] at hperm

theorem OnePlace.delayedDeinit (h : OnePlace k) (idx : KeyIdx) : OnePlace (k.delayedDeinit idx) := by
  unfold KeyConfig.delayedDeinit
  cases hslot : k.crypt idx with
  | none => exact h
  | some i =>
    have hold := slots_perm k.crypt idx
    have hnew := slots_update k.crypt idx none
    rw [hslot] at hold
    apply Ledger.Balanced.congr_held h
    calc (k.slotCtxs ++ k.cryptDeinitList).Perm (i :: otherCtxs k.crypt idx ++ k.cryptDeinitList) :=
          hold.append_right _
      List.Perm _ (otherCtxs k.crypt idx ++ i :: k.cryptDeinitList) := List.perm_middle.symm
      List.Perm _ _ := hnew.symm.append_right _

theorem OnePlace.install (h : OnePlace k) (hnone : k.crypt idx = none) (priv : Priv) :
    OnePlace (k.install idx priv) := by
  have hold := slots_perm k.crypt idx
  have hnew := slots_update k.crypt idx (some k.nextCtx)
  rw [hnone] at hold
  apply Ledger.Balanced.congr_held h.hold_next
  exact ((hold.append_right _).cons k.nextCtx).trans (hnew.symm.append_right _)

theorem Changes.onePlace (hc : Changes k k') (h : OnePlace k) : OnePlace k' := by
  induction hc with
  | refl => exact h
  | deinit _ idx ih => exact ih.delayedDeinit idx
  | install _ hnone priv ih => exact ih.install hnone priv
  | setPriv _ i priv ih => exact ih
  | settings _ tx type mode wep ap ih => exact ih

/-- The ioctls take nothing down. -/
theorem Changes.deinits_eq (hc : Changes k k') : k'.deinits = k.deinits := by
  induction hc with
  | refl => rfl
  | deinit _ idx ih =>
    rw [← ih]
    unfold KeyConfig.delayedDeinit
    split <;> rfl
  | install _ hnone priv ih => exact ih
  | setPriv _ i priv ih => exact ih
  | settings _ tx type mode wep ap ih => exact ih

/-- What comes to the list finds the timer pending, or has it started. -/
theorem Changes.armed {running : Prop} (hc : Changes k k')
    (h : k.cryptDeinitList ≠ [] → k.deinitTimer = true ∨ running) :
    k'.cryptDeinitList ≠ [] → k'.deinitTimer = true ∨ running := by
  induction hc with
  | refl => exact h
  | deinit _ idx ih =>
    unfold KeyConfig.delayedDeinit
    split
    · exact ih
    · exact fun _ => Or.inl rfl
  | install _ hnone priv ih => exact ih
  | setPriv _ i priv ih => exact ih
  | settings _ tx type mode wep ap ih => exact ih

/-- The references to contexts stay; a new context has none. -/
theorem Changes.refcnt (hc : Changes k k') : k.nextCtx ≤ k'.nextCtx ∧
    ∀ i, (k'.contexts i).refcnt = (k.contexts i).refcnt ∨ (k'.contexts i).refcnt = 0 ∧ k.nextCtx ≤ i := by
  induction hc with
  | refl => exact ⟨le_rfl, fun _ => Or.inl rfl⟩
  | @deinit k' _ idx ih =>
    unfold KeyConfig.delayedDeinit
    split
    · exact ih
    · exact ih
  | @install k' _ idx hnone priv ih =>
    refine ⟨Nat.le_succ_of_le ih.1, fun i => ?_⟩
    by_cases hi : i = k'.nextCtx
    · right
      subst hi
      refine ⟨?_, ih.1⟩
      simp [KeyConfig.install]
    · have hkeep : (k'.install idx priv).contexts i = k'.contexts i := Function.update_of_ne hi _ _
      rw [hkeep]
      exact ih.2 i
  | @setPriv k' _ i priv ih =>
    refine ⟨ih.1, fun j => ?_⟩
    have hkeep : ((k'.setPriv i priv).contexts j).refcnt = (k'.contexts j).refcnt := by
      by_cases hj : j = i
      · subst hj
        simp [KeyConfig.setPriv]
      · exact congrArg CryptContext.refcnt (Function.update_of_ne hj _ _)
    rw [hkeep]
    exact ih.2 j
  | settings _ tx type mode wep ap ih => exact ih

/-! ### Taking contexts down -/

theorem OnePlace.deinitEntry (h : OnePlace k) (force : Bool) {i : CtxId} (hi : i ∈ k.cryptDeinitList) :
    OnePlace (k.deinitEntry force i) := by
  unfold KeyConfig.deinitEntry
  split_ifs
  · exact h
  · have hheld : (k.slotCtxs ++ k.cryptDeinitList).Perm ([i] ++ (k.slotCtxs ++ k.cryptDeinitList.erase i)) :=
      ((List.perm_cons_erase hi).append_left _).trans List.perm_middle
    have hmove := Ledger.Balanced.move h hheld
    unfold OnePlace
    rw [List.map_append]
    exact hmove

/-- `k'` is `k` with contexts of the list taken down. -/
structure TakesDown (force : Bool) (k k' : KeyConfig) : Prop where
  crypt : k'.crypt = k.crypt
  contexts : k'.contexts = k.contexts
  nextCtx : k'.nextCtx = k.nextCtx
  timer : k'.deinitTimer = k.deinitTimer
  log : ∀ x ∈ k'.deinits, x ∈ k.deinits ∨ x.forced = force ∧ (force = false → x.refcnt = 0)

theorem TakesDown.refl (force : Bool) (k : KeyConfig) : TakesDown force k k :=
  ⟨rfl, rfl, rfl, rfl, fun _ hx => Or.inl hx⟩

theorem TakesDown.trans {force : Bool} (h : TakesDown force k k') (h' : TakesDown force k' k'') :
    TakesDown force k k'' where
  crypt := h'.crypt.trans h.crypt
  contexts := h'.contexts.trans h.contexts
  nextCtx := h'.nextCtx.trans h.nextCtx
  timer := h'.timer.trans h.timer
  log := by
    intro x hx
    rcases h'.log x hx with hx | hx
    · exact h.log x hx
    · exact Or.inr hx

theorem takesDown_entry (force : Bool) (k : KeyConfig) (i : CtxId) : TakesDown force k (k.deinitEntry force i) := by
  unfold deinitEntry
  split_ifs with hkeep
  · exact .refl force k
  · refine ⟨rfl, rfl, rfl, rfl, ?_⟩
    intro x hx
    rcases List.mem_append.mp hx with hx | hx
    · exact Or.inl hx
    · rw [List.mem_singleton.mp hx]
      refine Or.inr ⟨rfl, ?_⟩
      rintro rfl
      by_contra hne
      exact hkeep ⟨hne, Bool.false_ne_true⟩

/-- A context in the list is there once. -/
theorem OnePlace.nodup_list (h : OnePlace k) : k.cryptDeinitList.Nodup := by
  have hnodup : (k.slotCtxs ++ k.cryptDeinitList ++ k.deinits.map (·.ctx)).Nodup :=
    h.nodup_iff.mpr List.nodup_range
  exact (List.nodup_append.mp (List.nodup_append.mp hnodup).1).2.1

/-- The pass over the list, or the rest of it. A forced one leaves nothing of it. -/
theorem deinits_fold (force : Bool) : ∀ {l : List CtxId} {k : KeyConfig}, OnePlace k → l.Nodup →
    (∀ i ∈ l, i ∈ k.cryptDeinitList) → OnePlace (l.foldl (deinitEntry force) k) ∧
      TakesDown force k (l.foldl (deinitEntry force) k) ∧
      (force = true → ∀ i ∈ (l.foldl (deinitEntry force) k).cryptDeinitList, i ∈ k.cryptDeinitList ∧ i ∉ l)
  | [], k, h, _, _ => ⟨h, .refl force k, fun _ i hi => ⟨hi, List.not_mem_nil⟩⟩
  | i :: l, k, h, hnodup, hmem => by
    obtain ⟨hi, hnodup⟩ := List.nodup_cons.mp hnodup
    obtain ⟨himem, hlmem⟩ := List.forall_mem_cons.mp hmem
    have hrest : ∀ j ∈ l, j ∈ (k.deinitEntry force i).cryptDeinitList := by
      intro j hj
      have hne : j ≠ i := ne_of_mem_of_not_mem hj hi
      unfold deinitEntry
      split_ifs
      · exact hlmem j hj
      · exact (List.mem_erase_of_ne hne).mpr (hlmem j hj)
    obtain ⟨hplace, htakes, hempty⟩ := deinits_fold force (h.deinitEntry force himem) hnodup hrest
    refine ⟨hplace, (takesDown_entry force k i).trans htakes, ?_⟩
    intro hforce j hj
    obtain ⟨hjmem, hjl⟩ := hempty hforce j hj
    have herase : (k.deinitEntry force i).cryptDeinitList = k.cryptDeinitList.erase i := by
      unfold deinitEntry
      rw [if_neg (fun hkeep => hkeep.2 hforce)]
    rw [herase, h.nodup_list.mem_erase_iff] at hjmem
    exact ⟨hjmem.2, fun hcons => (List.mem_cons.mp hcons).elim hjmem.1 hjl⟩

theorem deinitEntries_spec (force : Bool) (h : OnePlace k) : OnePlace (k.deinitEntries force) ∧
    TakesDown force k (k.deinitEntries force) ∧ (force = true → (k.deinitEntries force).cryptDeinitList = []) := by
  obtain ⟨hplace, htakes, hempty⟩ := deinits_fold force h h.nodup_list fun i hi => hi
  refine ⟨hplace, htakes, fun hforce => ?_⟩
  apply List.eq_nil_iff_forall_not_mem.mpr
  intro i hi
  exact (hempty hforce i hi).2 (hempty hforce i hi).1

theorem OnePlace.freeSlot (h : OnePlace k) (idx : KeyIdx) : OnePlace (k.freeSlot idx) := by
  unfold KeyConfig.freeSlot
  cases hslot : k.crypt idx with
  | none => exact h
  | some i =>
    have hold := slots_perm k.crypt idx
    have hnew := slots_update k.crypt idx none
    rw [hslot] at hold
    have hheld : (k.slotCtxs ++ k.cryptDeinitList).Perm
        ([i] ++ ((List.finRange 4).filterMap (Function.update k.crypt idx none) ++ k.cryptDeinitList)) :=
      calc (k.slotCtxs ++ k.cryptDeinitList).Perm (i :: otherCtxs k.crypt idx ++ k.cryptDeinitList) :=
            hold.append_right _
        List.Perm _ _ := (hnew.symm.append_right _).cons i
    have hmove := Ledger.Balanced.move h hheld
    unfold OnePlace
    rw [List.map_append]
    exact hmove

/-- The pass over the slots, or some of them. -/
theorem frees_fold : ∀ {l : List KeyIdx} {k : KeyConfig}, OnePlace k → OnePlace (l.foldl freeSlot k) ∧
    (l.foldl freeSlot k).cryptDeinitList = k.cryptDeinitList ∧
    (l.foldl freeSlot k).contexts = k.contexts ∧ (l.foldl freeSlot k).nextCtx = k.nextCtx ∧
    (∀ x ∈ (l.foldl freeSlot k).deinits, x ∈ k.deinits ∨ x.forced = true) ∧
    ∀ idx, idx ∈ l ∨ k.crypt idx = none → (l.foldl freeSlot k).crypt idx = none
  | [], k, h => ⟨h, rfl, rfl, rfl, fun _ hx => Or.inl hx, fun _ hidx => hidx.resolve_left List.not_mem_nil⟩
  | idx :: l, k, h => by
    obtain ⟨hplace, hlist, hctx, hnext, hlog, hnone⟩ := @frees_fold l (k.freeSlot idx) (h.freeSlot idx)
    have hframe : (k.freeSlot idx).cryptDeinitList = k.cryptDeinitList ∧
        (k.freeSlot idx).contexts = k.contexts ∧ (k.freeSlot idx).nextCtx = k.nextCtx := by
      unfold KeyConfig.freeSlot
      split
      · exact ⟨rfl, rfl, rfl⟩
      · exact ⟨rfl, rfl, rfl⟩
    have hentry : ∀ x ∈ (k.freeSlot idx).deinits, x ∈ k.deinits ∨ x.forced = true := by
      unfold KeyConfig.freeSlot
      split
      · exact fun x hx => Or.inl hx
      · intro x hx
        rcases List.mem_append.mp hx with hx | hx
        · exact Or.inl hx
        · rw [List.mem_singleton.mp hx]
          exact Or.inr rfl
    have hslot : ∀ j, j = idx ∨ k.crypt j = none → (k.freeSlot idx).crypt j = none := by
      intro j hj
      unfold KeyConfig.freeSlot
      split
      · rename_i hidx
        rcases hj with rfl | hj
        · exact hidx
        · exact hj
      · by_cases hji : j = idx
        · rw [hji]
          exact Function.update_self ..
        · exact (Function.update_of_ne hji _ _).trans (hj.resolve_left hji)
    refine ⟨hplace, hlist.trans hframe.1, hctx.trans hframe.2.1, hnext.trans hframe.2.2, ?_, ?_⟩
    · intro x hx
      rcases hlog x hx with hx | hx
      · exact hentry x hx
      · exact Or.inr hx
    · intro j hj
      apply hnone
      rcases hj with hj | hj
      · rcases List.mem_cons.mp hj with hj | hj
        · exact Or.inr (hslot j (Or.inl hj))
        · exact Or.inl hj
      · exact Or.inr (hslot j (Or.inr hj))

end KeyConfig

/-! ### The whole -/

/-- The keys, and who is about them: the timer's handlers that have begun, and the
operations on frames. -/
structure KeyWorld extends KeyConfig where
  /-- The handlers that have not had `ieee->lock` yet. -/
  handlers : ℕ
  /-- What the operations have read from a slot and not counted yet. -/
  looked : List CtxId
  /-- What the operations under way have counted. -/
  holders : List CtxId
  /-- `free_ieee80211` was called. -/
  gone : Bool

/-- What can happen. -/
inductive KeyEvent where
  | setEncode (env : KeyEnv) (req : EncodeRequest)
  | setEncodeExt (env : KeyEnv) (req : EncodeExtRequest)
  | setEncryption (env : KeyEnv) (param : EncryptionParam)
  | delayedDeinit (idx : KeyIdx)
  | expire
  | deinitHandler
  /-- An operation on a frame reads the slot, -/
  | look (idx : KeyIdx)
  /-- takes its reference (`atomic_inc`), -/
  | acquire (i : CtxId)
  /-- changes the context, -/
  | operate (i : CtxId) (priv : Priv)
  /-- and gives the reference back (`atomic_dec`). -/
  | release (i : CtxId)
  /-- The mode and the access point change. -/
  | settings (iwMode : IwMode) (apMacAddr : Mac)
  | freeIeee80211

namespace KeyWorld

/-- The world with changed keys. -/
def withKeys (w : KeyWorld) (k : KeyConfig) : KeyWorld := { w with toKeyConfig := k }

/-- A context's references, changed. -/
def setRefcnt (k : KeyConfig) (i : CtxId) (n : ℕ) : KeyConfig :=
  { k with contexts := Function.update k.contexts i { k.contexts i with refcnt := n } }

/-- What happens, as long as the device is there. `del_timer_sync` waits for the
handlers, so the device goes when none is left. -/
def happen (w : KeyWorld) : KeyEvent → KeyWorld
  | .setEncode env req => w.withKeys (w.toKeyConfig.wxSetEncode env req).2
  | .setEncodeExt env req => w.withKeys (w.toKeyConfig.wxSetEncodeExt env req).2
  | .setEncryption env param => w.withKeys (w.toKeyConfig.setEncryptionCmd env param).2
  | .delayedDeinit idx => w.withKeys (w.toKeyConfig.delayedDeinit idx)
  | .expire => if w.deinitTimer then { w with deinitTimer := false, handlers := w.handlers + 1 } else w
  | .deinitHandler =>
    if 0 < w.handlers then
      { w.withKeys w.toKeyConfig.deinitHandler with handlers := w.handlers - 1 }
    else w
  | .look idx =>
    match w.crypt idx with
    | none => w
    | some i => { w with looked := i :: w.looked }
  | .acquire i =>
    if i ∈ w.looked then
      { w.withKeys (setRefcnt w.toKeyConfig i ((w.contexts i).refcnt + 1)) with
        looked := w.looked.erase i, holders := i :: w.holders }
    else w
  | .operate i priv =>
    if i ∈ w.holders ∧ priv.cipher = (w.contexts i).priv.cipher then
      w.withKeys (w.toKeyConfig.setPriv i priv)
    else w
  | .release i =>
    if i ∈ w.holders then
      { w.withKeys (setRefcnt w.toKeyConfig i ((w.contexts i).refcnt - 1)) with
        holders := w.holders.erase i }
    else w
  | .settings iwMode apMacAddr => { w with iwMode := iwMode, apMacAddr := apMacAddr }
  | .freeIeee80211 =>
    if w.handlers = 0 then { w.withKeys w.toKeyConfig.freeIeee80211 with gone := true } else w

def step (w : KeyWorld) (e : KeyEvent) : KeyWorld := if w.gone then w else w.happen e

/-- The keys are at the start of their life: no slot has one. -/
def start (k : KeyConfig) : KeyWorld where
  toKeyConfig := { k with
    crypt := fun _ => none
    contexts := fun _ => ⟨.null, 0⟩
    nextCtx := 0
    cryptDeinitList := []
    deinitTimer := false
    deinits := [] }
  handlers := 0
  looked := []
  holders := []
  gone := false

/-- What holds of the contexts at any time. -/
structure LifeCycle (w : KeyWorld) : Prop where
  /-- Each is in one place, and is taken down once. -/
  place : w.OnePlace
  /-- Those taken down were free, or the device goes. -/
  deinit : ∀ x ∈ w.deinits, x.refcnt = 0 ∨ x.forced = true ∧ w.gone = true
  /-- What is in the list will be taken down. -/
  armed : w.cryptDeinitList ≠ [] → w.deinitTimer = true ∨ 0 < w.handlers
  /-- The references are those of the operations under way. -/
  counted : ∀ i, (w.contexts i).refcnt = w.holders.count i
  known : ∀ i, i ∈ w.looked ∨ i ∈ w.holders → i < w.nextCtx
  /-- At the end nothing is left. -/
  ended : w.gone = true → w.cryptDeinitList = [] ∧ ∀ idx, w.crypt idx = none

/-- What the ioctls keep. -/
theorem LifeCycle.changes {w : KeyWorld} {k' : KeyConfig} (h : LifeCycle w) (hgone : w.gone = false)
    (hc : KeyConfig.Changes w.toKeyConfig k') : LifeCycle (w.withKeys k') where
  place := hc.onePlace h.place
  deinit := by
    intro x hx
    have hlog : k'.deinits = w.deinits := hc.deinits_eq
    exact h.deinit x (hlog ▸ hx)
  armed := hc.armed h.armed
  counted := by
    intro i
    rcases hc.refcnt.2 i with hsame | ⟨hzero, hnew⟩
    · exact hsame.trans (h.counted i)
    · have hnone : i ∉ w.holders := fun hi => absurd (h.known i (Or.inr hi)) (Nat.not_lt.mpr hnew)
      exact hzero.trans (List.count_eq_zero_of_not_mem hnone).symm
  known := fun i hi => lt_of_lt_of_le (h.known i hi) hc.refcnt.1
  ended := fun hend => absurd (hgone.symm.trans hend) Bool.false_ne_true

theorem LifeCycle.deinitHandler {w : KeyWorld} (h : LifeCycle w) (hgone : w.gone = false) :
    LifeCycle { w.withKeys w.toKeyConfig.deinitHandler with handlers := w.handlers - 1 } := by
  obtain ⟨hplace, htakes, -⟩ := KeyConfig.deinitEntries_spec false h.place
  have hlog : ∀ x ∈ (w.toKeyConfig.deinitEntries false).deinits,
      x.refcnt = 0 ∨ x.forced = true ∧ w.gone = true := by
    intro x hx
    rcases htakes.log x hx with hx | ⟨-, hzero⟩
    · exact h.deinit x hx
    · exact Or.inl (hzero rfl)
  have hended : w.gone = true → (w.toKeyConfig.deinitHandler).cryptDeinitList = [] ∧
      ∀ idx, (w.toKeyConfig.deinitHandler).crypt idx = none :=
    fun hend => absurd (hgone.symm.trans hend) Bool.false_ne_true
  unfold KeyConfig.deinitHandler at hended ⊢
  dsimp only at hended ⊢
  split_ifs at hended ⊢ with hlist
  · refine ⟨hplace, hlog, fun _ => Or.inl rfl, ?_, ?_, hended⟩
    · intro i
      exact (congrArg (fun c => (c i).refcnt) htakes.contexts).trans (h.counted i)
    · intro i hi
      exact lt_of_lt_of_eq (h.known i hi) htakes.nextCtx.symm
  · refine ⟨hplace, hlog, fun hne => absurd hne hlist, ?_, ?_, hended⟩
    · intro i
      exact (congrArg (fun c => (c i).refcnt) htakes.contexts).trans (h.counted i)
    · intro i hi
      exact lt_of_lt_of_eq (h.known i hi) htakes.nextCtx.symm

theorem LifeCycle.freeIeee80211 {w : KeyWorld} (h : LifeCycle w) :
    LifeCycle { w.withKeys w.toKeyConfig.freeIeee80211 with gone := true } := by
  have hplace₀ : ({ w.toKeyConfig with deinitTimer := false } : KeyConfig).OnePlace := h.place
  obtain ⟨hplace, htakes, hempty⟩ := KeyConfig.deinitEntries_spec true hplace₀
  obtain ⟨hplace', hlist, hctx, hnext, hlog, hnone⟩ := @KeyConfig.frees_fold (List.finRange 4) _ hplace
  refine ⟨hplace', ?_, ?_, ?_, ?_, ?_⟩
  · intro x hx
    rcases hlog x hx with hx | hx
    · rcases htakes.log x hx with hx | ⟨hforced, -⟩
      · rcases h.deinit x hx with hzero | ⟨hforced, -⟩
        · exact Or.inl hzero
        · exact Or.inr ⟨hforced, rfl⟩
      · exact Or.inr ⟨hforced, rfl⟩
    · exact Or.inr ⟨hx, rfl⟩
  · intro hne
    exact absurd (hlist.trans (hempty rfl)) hne
  · intro i
    have hsame := congrArg (fun c => (c i).refcnt) (hctx.trans htakes.contexts)
    exact hsame.trans (h.counted i)
  · intro i hi
    exact lt_of_lt_of_eq (h.known i hi) (hnext.trans htakes.nextCtx).symm
  · intro _
    exact ⟨hlist.trans (hempty rfl), fun idx => hnone idx (Or.inl (List.mem_finRange idx))⟩

/-- A context in a slot was installed. -/
theorem LifeCycle.lt_of_slot {w : KeyWorld} (h : LifeCycle w) {idx : KeyIdx} {i : CtxId}
    (hslot : w.crypt idx = some i) : i < w.nextCtx := by
  apply Ledger.Balanced.lt h.place
  apply Or.inl
  apply List.mem_append_left
  exact List.mem_filterMap.mpr ⟨idx, List.mem_finRange idx, hslot⟩

/-- References are counted where they are taken and given back. -/
theorem LifeCycle.setRefcnt {w : KeyWorld} (h : LifeCycle w) (hgone : w.gone = false) {i : CtxId}
    {looked holders : List CtxId} {n : ℕ} (hi : n = holders.count i)
    (hothers : ∀ j ≠ i, holders.count j = w.holders.count j)
    (hknown : ∀ j, j ∈ looked ∨ j ∈ holders → j ∈ w.looked ∨ j ∈ w.holders) :
    LifeCycle { w.withKeys (KeyWorld.setRefcnt w.toKeyConfig i n) with looked := looked, holders := holders } where
  place := h.place
  deinit := h.deinit
  armed := h.armed
  counted := by
    intro j
    by_cases hj : j = i
    · subst hj
      simp [withKeys, KeyWorld.setRefcnt, hi]
    · have hkeep : (KeyWorld.setRefcnt w.toKeyConfig i n).contexts j = w.contexts j := Function.update_of_ne hj _ _
      exact (congrArg CryptContext.refcnt hkeep).trans ((h.counted j).trans (hothers j hj).symm)
  known := fun j hj => h.known j (hknown j hj)
  ended := fun hend => absurd (hgone.symm.trans hend) Bool.false_ne_true

theorem LifeCycle.happen {w : KeyWorld} (h : LifeCycle w) (hgone : w.gone = false) (e : KeyEvent) :
    LifeCycle (w.happen e) := by
  cases e with
  | setEncode env req => exact h.changes hgone (KeyConfig.changes_wxSetEncode env _ req)
  | setEncodeExt env req => exact h.changes hgone (KeyConfig.changes_wxSetEncodeExt env _ req)
  | setEncryption env param => exact h.changes hgone (KeyConfig.changes_setEncryptionCmd env _ param)
  | delayedDeinit idx => exact h.changes hgone (KeyConfig.Changes.refl.deinit idx)
  | expire =>
    simp only [KeyWorld.happen]
    split_ifs
    · exact ⟨h.place, h.deinit, fun _ => Or.inr (Nat.succ_pos _), h.counted, h.known, h.ended⟩
    · exact h
  | deinitHandler =>
    simp only [KeyWorld.happen]
    split_ifs
    · exact h.deinitHandler hgone
    · exact h
  | look idx =>
    simp only [KeyWorld.happen]
    cases hslot : w.crypt idx with
    | none => exact h
    | some i =>
      refine ⟨h.place, h.deinit, h.armed, h.counted, ?_, h.ended⟩
      rintro j (hj | hj)
      · rcases List.mem_cons.mp hj with rfl | hj
        · exact h.lt_of_slot hslot
        · exact h.known j (Or.inl hj)
      · exact h.known j (Or.inr hj)
  | acquire i =>
    simp only [KeyWorld.happen]
    split_ifs with hi
    · apply h.setRefcnt hgone
      · rw [List.count_cons_self, h.counted i]
      · intro j hj
        exact List.count_cons_of_ne (Ne.symm hj)
      · rintro j (hj | hj)
        · exact Or.inl (List.mem_of_mem_erase hj)
        · rcases List.mem_cons.mp hj with rfl | hj
          · exact Or.inl hi
          · exact Or.inr hj
    · exact h
  | operate i priv =>
    simp only [KeyWorld.happen]
    split_ifs
    · exact h.changes hgone (KeyConfig.Changes.refl.setPriv i priv)
    · exact h
  | release i =>
    simp only [KeyWorld.happen]
    split_ifs with hi
    · apply h.setRefcnt hgone
      · rw [List.count_erase_self, h.counted i]
      · intro j hj
        exact List.count_erase_of_ne hj
      · rintro j (hj | hj)
        · exact Or.inl hj
        · exact Or.inr (List.mem_of_mem_erase hj)
    · exact h
  | settings iwMode apMacAddr =>
    exact h.changes hgone (KeyConfig.Changes.refl.settings w.txKeyidx w.pairwiseKeyType iwMode w.openWep apMacAddr)
  | freeIeee80211 =>
    simp only [KeyWorld.happen]
    split_ifs
    · exact h.freeIeee80211
    · exact h

theorem lifeCycle_start (k : KeyConfig) : LifeCycle (start k) where
  place := List.Perm.refl _
  deinit := nofun
  armed := fun hne => absurd rfl hne
  counted := fun _ => rfl
  known := by
    intro i hi
    rcases hi with hi | hi
    · exact absurd hi List.not_mem_nil
    · exact absurd hi List.not_mem_nil
  ended := nofun

theorem lifeCycle_step (w : KeyWorld) (e : KeyEvent) (h : LifeCycle w) : LifeCycle (w.step e) := by
  unfold step
  split_ifs with hgone
  · exact h
  · exact h.happen (Bool.not_eq_true _ ▸ hgone) e

theorem lifeCycle_run (k : KeyConfig) (es : List KeyEvent) : LifeCycle (Run.run step (start k) es) :=
  Run.inv_run (fun w e h (_ : True) => lifeCycle_step w e h) _ es (lifeCycle_start k) (Run.allSteps_true _ es)

end KeyWorld

/-- In every run each installed context is in one place: in one slot, in the list,
or taken down, and that once. Those taken down had no reference, or the device
went. While there is something in the list, the timer is pending or its handler
is running. In the end everything is taken down. -/
theorem crypt_life (k : KeyConfig) (es : List KeyEvent) :
    let w := Run.run KeyWorld.step (KeyWorld.start k) es
    let taken := w.deinits.map (·.ctx)
    (∀ i < w.nextCtx, w.slotCtxs.count i + w.cryptDeinitList.count i + taken.count i = 1) ∧
      (∀ x ∈ w.deinits, x.refcnt = 0 ∨ x.forced = true ∧ w.gone = true) ∧
      (w.cryptDeinitList ≠ [] → w.deinitTimer = true ∨ 0 < w.handlers) ∧
      (w.gone = true → ∀ i < w.nextCtx, taken.count i = 1) := by
  intro w taken
  have hlife : w.LifeCycle := KeyWorld.lifeCycle_run k es
  have hplace : ∀ i < w.nextCtx, w.slotCtxs.count i + w.cryptDeinitList.count i + taken.count i = 1 := by
    intro i hi
    rw [← List.count_append]
    exact Ledger.Balanced.count hlife.place hi
  refine ⟨hplace, hlife.deinit, hlife.armed, ?_⟩
  intro hgone i hi
  obtain ⟨hlist, hslots⟩ := hlife.ended hgone
  have hnone : w.slotCtxs = [] := by
    unfold KeyConfig.slotCtxs
    exact List.filterMap_eq_nil_iff.mpr fun idx _ => hslots idx
  have hone := hplace i hi
  rw [hlist, hnone, List.count_nil, Nat.zero_add] at hone
  exact hone

private abbrev someKeys : KeyConfig where
  crypt _ := none
  contexts _ := ⟨.null, 0⟩
  nextCtx := 0
  cryptDeinitList := []
  deinitTimer := false
  deinits := []
  txKeyidx := 0
  pairwiseKeyType := 0
  iwMode := .infra
  hostEncrypt := true
  hostDecrypt := true
  openWep := true
  apMacAddr := ⟨2, 0, 0, 0, 0, 7⟩

private abbrev inUse : KeyWorld := Run.run KeyWorld.step (KeyWorld.start someKeys)
  [.setEncode ⟨true, fun _ => true, true, 0⟩ ⟨1, [1, 2, 3, 4, 5]⟩, .look 0, .acquire 0, .delayedDeinit 0,
    .expire, .deinitHandler]

/-- A context that is in use when the handler runs stays in the list, and the timer
starts again. -/
example : inUse.cryptDeinitList = [0] ∧ inUse.deinitTimer = true ∧ inUse.deinits.length = 0 := by decide

end Rtl8187

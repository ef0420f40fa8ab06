/-
# Keys installed again

A `set_key` starts the counters of a context afresh, whatever key was there.
So while frames are encrypted under keys that are set, and none is installed a
second time, no key meets a number twice (`keys_used_once`); a key that is
installed again does (`reinstalled_key_reuses`).

Key definitions: `SetKey`, `KeyCall`, `ccmpUses`, `tkipUses`, `CcmpGuarded`,
`TkipGuarded`.
Key theorems: `keys_used_once`.
-/
import Rtl8187.TkipNumbers

namespace Rtl8187

/-- The arguments of a `set_key`. -/
structure SetKey where
  key : List UInt8
  seq : Option (List UInt8)

/-- The temporal key it installs, where the module's keys have `len` bytes. -/
def SetKey.installs (len : ℕ) (a : SetKey) : Option (List UInt8) :=
  if a.key.length = len then some (a.key.take 16) else none

/-- A call on a context that sends: a `set_key`, or a frame to encrypt. -/
abbrev KeyCall := Epochs.Call SetKey Mpdu

/-- The temporal keys of a list of calls. -/
def installedKeys (len : ℕ) (calls : List KeyCall) : List (List UInt8) :=
  calls.filterMap (Epochs.callKey (SetKey.installs len))

section

variable (prim : Primitives)

/-! ### CCMP -/

def ccmpSet (c : CcmpData) (a : SetKey) : CcmpData := (ccmpSetKey a.key a.seq c).2

def ccmpCall : CcmpData → KeyCall → CcmpData := Epochs.callStep ccmpSet (ccmpTx prim)

/-- The key and the packet number a frame is encrypted under. -/
def ccmpUse (c : CcmpData) (f : Mpdu) : Option (List UInt8 × ℕ) :=
  (ccmpSend prim c f).map fun x => (c.tfm, x.pn.toNat)

/-- The pairs a run of calls uses, in order. -/
def ccmpUses (c : CcmpData) (calls : List KeyCall) : List (List UInt8 × ℕ) :=
  Run.outputs (ccmpCall prim) (Epochs.callOut (ccmpUse prim)) c calls

/-- A frame that is encrypted finds a key set, and a number left. -/
def CcmpGuarded : CcmpData → KeyCall → Prop :=
  Epochs.Guarded (ccmpEvent prim) (·.keySet) (·.txPn.toNat) (2 ^ 48 - 1)

theorem ccmpSet_sets :
    Epochs.Sets ccmpSet (SetKey.installs ccmpTkLen) (·.tfm) (·.keySet) (·.txPn.toNat) 0 where
  some := by
    intro c a k h
    unfold SetKey.installs at h
    split_ifs at h with hlen
    obtain rfl := Option.some.inj h
    have hk : a.key.take 16 = a.key := List.take_of_length_le hlen.le
    unfold ccmpSet ccmpSetKey
    dsimp only
    rw [if_pos hlen]
    exact ⟨rfl, hk.symm, rfl⟩
  none := by
    intro c a h
    unfold SetKey.installs at h
    split_ifs at h with hlen
    simp only [ccmpSet, ccmpSetKey, if_neg hlen]
    split_ifs <;> rfl

theorem ccmpUses_nodup (c : CcmpData) (calls : List KeyCall)
    (hok : Run.AllSteps (ccmpCall prim) (CcmpGuarded prim) c calls)
    (hnew : ((Epochs.liveKey (·.tfm) (·.keySet) c).toList ++ installedKeys ccmpTkLen calls).Nodup) :
    (ccmpUses prim c calls).Nodup := by
  have hlive : ∀ c f, (ccmpTx prim c f).keySet = c.keySet := fun c f => (ccmpTx_same prim c f).2.2
  have hout : ∀ (c : CcmpData) f, c.txPn.toNat < 2 ^ 48 - 1 → ccmpEvent prim c f = .use →
      ccmpUse prim c f = some (c.tfm, 1 + c.txPn.toNat) := by
    intro c f hlt he
    obtain ⟨x, hx, hpn⟩ := Option.map_eq_some_iff.mp (ccmpSend_pn prim hlt he)
    rw [ccmpUse, hx, Option.map_some, hpn]
  have hrest : ∀ c f, ccmpEvent prim c f = .rest → ccmpUse prim c f = none := by
    intro c f he
    rw [ccmpUse, ccmpSend_none prim he, Option.map_none]
  exact (ccmpTx_counts prim).nodup_calls (ccmpEvent_or prim) hlive ccmpSet_sets
    (add_right_injective 1) hout hrest c calls hok hnew

/-! ### TKIP -/

def tkipSet (t : TkipData) (a : SetKey) : TkipData := (tkipSetKey a.key a.seq t).2

def tkipCall : TkipData → KeyCall → TkipData := Epochs.callStep tkipSet (tkipTx prim)

/-- The temporal key and the TSC a frame is encrypted under. -/
def tkipUse (t : TkipData) (f : Mpdu) : Option (List UInt8 × ℕ) :=
  (tkipSend prim t f).map fun x => (t.tk, x.tsc)

/-- The pairs a run of calls uses, in order. -/
def tkipUses (t : TkipData) (calls : List KeyCall) : List (List UInt8 × ℕ) :=
  Run.outputs (tkipCall prim) (Epochs.callOut (tkipUse prim)) t calls

/-- A frame that is encrypted finds a key set, and a number left. -/
def TkipGuarded : TkipData → KeyCall → Prop :=
  Epochs.Guarded (tkipEvent prim) (·.keySet) (fun t => tsc t.txIv32 t.txIv16) (2 ^ 48 - 1)

theorem tkipSet_sets : Epochs.Sets tkipSet (SetKey.installs tkipKeyLen) TkipData.tk (·.keySet)
    (fun t => tsc t.txIv32 t.txIv16) 1 where
  some := by
    intro t a k h
    unfold SetKey.installs at h
    split_ifs at h with hlen
    obtain rfl := Option.some.inj h
    unfold tkipSet tkipSetKey
    dsimp only
    rw [if_pos hlen]
    exact ⟨rfl, rfl, (by decide : tsc 0 1 = 1)⟩
  none := by
    intro t a h
    unfold SetKey.installs at h
    split_ifs at h with hlen
    simp only [tkipSet, tkipSetKey, if_neg hlen]
    split_ifs <;> rfl

theorem tkipUses_nodup (t : TkipData) (calls : List KeyCall)
    (hok : Run.AllSteps (tkipCall prim) (TkipGuarded prim) t calls)
    (hnew : ((Epochs.liveKey TkipData.tk (·.keySet) t).toList ++ installedKeys tkipKeyLen calls).Nodup) :
    (tkipUses prim t calls).Nodup := by
  have hlive : ∀ t f, (tkipTx prim t f).keySet = t.keySet := fun t f => (tkipTx_same prim t f).2.2
  have hout : ∀ (t : TkipData) f, tsc t.txIv32 t.txIv16 < 2 ^ 48 - 1 → tkipEvent prim t f = .use →
      tkipUse prim t f = some (t.tk, tsc t.txIv32 t.txIv16) := by
    intro t f _ he
    obtain ⟨x, hx, htsc⟩ := Option.map_eq_some_iff.mp (tkipSend_tsc prim he)
    rw [tkipUse, hx, Option.map_some, htsc]
  have hrest : ∀ t f, tkipEvent prim t f = .rest → tkipUse prim t f = none := by
    intro t f he
    rw [tkipUse, tkipSend_none prim he, Option.map_none]
  exact (tkipTx_counts prim).nodup_calls (tkipEvent_or prim) hlive tkipSet_sets
    Function.injective_id hout hrest t calls hok hnew

/-! ### Both -/

/-- **A key that is installed once meets no number twice**, whatever else is
called; and whatever key there was, one of the right length starts on a context
like a new one. -/
theorem keys_used_once :
    (∀ (c : CcmpData) (calls : List KeyCall),
      Run.AllSteps (ccmpCall prim) (CcmpGuarded prim) c calls →
      ((Epochs.liveKey (·.tfm) (·.keySet) c).toList ++ installedKeys ccmpTkLen calls).Nodup →
      (ccmpUses prim c calls).Nodup) ∧
    (∀ (t : TkipData) (calls : List KeyCall),
      Run.AllSteps (tkipCall prim) (TkipGuarded prim) t calls →
      ((Epochs.liveKey TkipData.tk (·.keySet) t).toList ++ installedKeys tkipKeyLen calls).Nodup →
      (tkipUses prim t calls).Nodup) ∧
    (∀ (c : CcmpData) (a : SetKey), a.key.length = ccmpTkLen →
      ccmpSet c a = ccmpSet (ccmpInit c.keyIdx) a ∧ (ccmpSet c a).txPn.toNat = 0) ∧
    ∀ (t : TkipData) (a : SetKey), a.key.length = tkipKeyLen →
      tkipSet t a = tkipSet (tkipInit t.keyIdx) a ∧ tsc (tkipSet t a).txIv32 (tkipSet t a).txIv16 = 1 := by
  refine ⟨ccmpUses_nodup prim, tkipUses_nodup prim, fun c a hlen => ?_, fun t a hlen => ?_⟩
  · unfold ccmpSet ccmpSetKey
    dsimp only
    rw [if_pos hlen, if_pos hlen]
    exact ⟨rfl, rfl⟩
  · unfold tkipSet tkipSetKey
    dsimp only
    rw [if_pos hlen, if_pos hlen]
    exact ⟨rfl, (by decide : tsc 0 1 = 1)⟩

end

/-- A frame, under one key and then under another. -/
theorem keys_used_once_two : (ccmpUses linuxPrimitives (ccmpInit 0)
    [.install ⟨List.replicate 16 1, none⟩, .call ⟨⟨8, List.replicate 24 0, List.replicate 8 0⟩, 24⟩,
      .install ⟨List.replicate 16 2, none⟩,
      .call ⟨⟨8, List.replicate 24 0, List.replicate 8 0⟩, 24⟩]).Nodup :=
  (keys_used_once linuxPrimitives).1 (ccmpInit 0) _
    ⟨trivial, fun _ => ⟨rfl, by decide⟩, trivial, fun _ => ⟨rfl, by decide⟩, trivial⟩ (by decide)

/-- The same under one key that is installed twice: packet number 1 comes twice. -/
theorem reinstalled_key_reuses : ¬ (ccmpUses linuxPrimitives (ccmpInit 0)
    [.install ⟨List.replicate 16 1, none⟩, .call ⟨⟨8, List.replicate 24 0, List.replicate 8 0⟩, 24⟩,
      .install ⟨List.replicate 16 1, none⟩,
      .call ⟨⟨8, List.replicate 24 0, List.replicate 8 0⟩, 24⟩]).Nodup := by
  decide

end Rtl8187

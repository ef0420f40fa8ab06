/-
# The network that makes room

When all slots are in use, `ieee80211_process_probe_response` gives a new network
the slot of the entry with the smallest `last_scanned`, which it compares as plain
numbers. `jiffies` wraps around, though, and then the smallest number is the
entry heard longest ago only if all of them were heard since, or none
(`evictsOldest_iff`).

Key definitions: `heardAge`, `Evicted`, `EvictsOldest`.
Key theorems: `surveyNetwork_evicts`, `evictsOldest_iff`.
-/
import Rtl8187.NetworkList
import Rtl8187.StackEntry
import Rtl8187.Lib.WrapClock

namespace Rtl8187

open KeyedTable Station WrapClock

variable {P : Type}

/-- How many jiffies ago an entry was heard. -/
def heardAge (now : UInt64) (net : HeardNetwork) : UInt64 := now - net.lastScanned

/-- The entry of this slot is another network now. -/
def Evicted (st st' : Station P) (i : Fin maxNetworkCount) : Prop :=
  i ∈ st.networkList ∧ netKey st.iwMode (st'.networks i) ≠ netKey st.iwMode (st.networks i)

/-- One entry is given up, and none was heard longer ago. -/
def EvictsOldest (now : UInt64) (st st' : Station P) : Prop :=
  ∃ i, (∀ k, Evicted st st' k ↔ k = i) ∧
    ∀ j ∈ st.networkList, heardAge now (st.networks j) ≤ heardAge now (st.networks i)

theorem toNat_heardAge (now : UInt64) (net : HeardNetwork) :
    (heardAge now net).toNat = age (2 ^ 64) now.toNat net.lastScanned.toNat := UInt64.toNat_sub ..

section

variable {env : Env} {st : Station P} {net : HeardNetwork} {beacon : Bool}

/-- A network that is not listed is written over the entry that the search found. -/
theorem surveyNetwork_evicts (hfree : st.networkFreeList = []) (hne : st.networkList ≠ [])
    (hnew : ∀ i ∈ st.networkList, isSameNetwork st.toDevice (st.networks i) net = false) :
    ∃ i ∈ st.networkList, st.oldest = some i ∧ ∃ net', netKey st.iwMode net' = netKey st.iwMode net ∧
      (surveyNetwork env st beacon net).2.networks = Function.update st.networks i net' := by
  obtain ⟨hsame, hkey⟩ := surveyCurrent_sameLists env st beacon net
  unfold surveyNetwork
  generalize surveyCurrent env st beacon net = p at hsame hkey
  obtain ⟨net', st₁⟩ := p
  dsimp only at hsame hkey ⊢
  have hlist : st₁.networkList = st.networkList := congrArg Table.used hsame.table
  have hfree₁ : st₁.networkFreeList = [] := (congrArg Table.free hsame.table).trans hfree
  have hvals : st₁.networks = st.networks := congrArg Table.val hsame.table
  have hnone : st₁.networkList.find? (fun i => isSameNetwork st₁.toDevice (st₁.networks i) net') = none := by
    apply List.find?_eq_none.mpr
    intro i hi hfound
    rw [isSameNetwork_iff, hkey, hsame.mode, hvals, ← isSameNetwork_iff, hnew i (hlist ▸ hi)] at hfound
    cases hfound
  obtain ⟨i, hi, hold⟩ := st.exists_oldest hne
  have hold₁ : st₁.oldest = some i := by
    rw [← hold, oldest_eq, oldest_eq, hlist, hvals]
  have hslot : st₁.networkSlot = some (i, { st₁ with networkList := st₁.networkList.erase i }) := by
    unfold networkSlot
    rw [hfree₁, hold₁]
    rfl
  rw [hnone, hslot]
  refine ⟨i, hi, hold, net', hkey _, ?_⟩
  show Function.update st₁.networks i net' = _
  rw [hvals]

variable {skb : SkBuff} {stats : RxStats} {stack : HeardNetwork}

/-- This entry alone is given up. -/
theorem processProbeResponse_evicts (hok : st.ListsOk) (hfull : st.networkList.length = maxNetworkCount)
    (hnet : networkInit env st.toDevice skb stats stack = some net)
    (hnew : ∀ i ∈ st.networkList, isSameNetwork st.toDevice (st.networks i) net = false) :
    ∃ i ∈ st.networkList, st.oldest = some i ∧
      ∀ k, Evicted st (processProbeResponse env st skb stats stack) k ↔ k = i := by
  have hfree : st.networkFreeList = [] := by
    have hlen := hok.perm.length_eq
    rw [List.length_append, List.length_finRange] at hlen
    change st.networkFreeList.length + st.networkList.length = maxNetworkCount at hlen
    exact List.length_eq_zero_iff.mp (by omega)
  have hne : st.networkList ≠ [] := by
    rintro hnil
    rw [hnil] at hfull
    exact absurd hfull (by decide)
  obtain ⟨i, hi, hold, net', hkey, hvals⟩ := @surveyNetwork_evicts P env st net (isBeacon skb) hfree hne hnew
  have hafter : (processProbeResponse env st skb stats stack).networks = Function.update st.networks i net' := by
    rw [processProbeResponse, hnet, ← hvals]
    exact congrArg Table.val (announce_sameLists _ _).table
  refine ⟨i, hi, hold, fun k => ?_⟩
  unfold Evicted
  rw [hafter]
  constructor
  · rintro ⟨-, hchanged⟩
    by_contra hother
    rw [Function.update_of_ne hother] at hchanged
    exact hchanged rfl
  · rintro rfl
    refine ⟨hi, fun heq => ?_⟩
    rw [Function.update_self, hkey] at heq
    have hlisted := (isSameNetwork_iff st.toDevice _ _).mpr heq.symm
    rw [hnew k hi] at hlisted
    cases hlisted

/-- **When the entry heard longest ago makes room**: if all were heard since
`jiffies` wrapped around, or none was. -/
theorem evictsOldest_iff (hok : st.ListsOk) (hfull : st.networkList.length = maxNetworkCount)
    (hnet : networkInit env st.toDevice skb stats stack = some net)
    (hnew : ∀ i ∈ st.networkList, isSameNetwork st.toDevice (st.networks i) net = false) :
    EvictsOldest env.now st (processProbeResponse env st skb stats stack) ↔
      (∀ j ∈ st.networkList, (st.networks j).lastScanned ≤ env.now) ∨
        ∀ j ∈ st.networkList, env.now < (st.networks j).lastScanned := by
  obtain ⟨i, hi, hold, hevicted⟩ := processProbeResponse_evicts hok hfull hnet hnew
  have hleast : ∀ j ∈ st.networkList, (st.networks i).lastScanned.toNat ≤ (st.networks j).lastScanned.toNat :=
    fun j hj => List.le_of_mem_argmin (f := fun i => (st.networks i).lastScanned.toNat) hj
      (st.oldest_eq.symm.trans hold)
  have hages := age_le_of_least_iff env.now.toNat_lt (fun j => (st.networks j).lastScanned.toNat_lt) hi hleast
  simp only [← toNat_heardAge, ← UInt64.le_iff_toNat_le, ← UInt64.lt_iff_toNat_lt] at hages
  rw [← hages]
  constructor
  · rintro ⟨k, hk, hall⟩
    rwa [(hevicted k).mp ((hk k).mpr rfl)] at hall
  · exact fun hall => ⟨i, hevicted, hall⟩

end

/-! ### A full list -/

/-- A station that has heard as many networks as it can list, at these times. -/
def crowded (heard : Fin maxNetworkCount → UInt64) : Station Unit :=
  { Station.init Unit ⟨250, true⟩ ⟨2, 0, 0, 0, 0, 1⟩ (fun _ => true) with
    networkFreeList := []
    networkList := List.finRange maxNetworkCount
    networks := fun i =>
      { HeardNetwork.zeroed with bssid := ⟨2, 0, 0, 0, 1, UInt8.ofNat i⟩, lastScanned := heard i } }

theorem crowded_listsOk (heard : Fin maxNetworkCount → UInt64) : (crowded heard).ListsOk where
  perm := .refl _
  nodup := List.nodup_finRange _
  keys := by
    intro i _ j _ heq
    have hlast : UInt8.ofNat i = UInt8.ofNat j := congrArg (fun key => key.2.2.1.b5) heq
    have hsmall : ∀ k : Fin maxNetworkCount, (UInt8.ofNat k).toNat = k :=
      fun k => UInt8.toNat_ofNat_of_lt (lt_trans k.isLt (by decide))
    rw [← Fin.val_inj, ← hsmall i, ← hsmall j, hlast]

/-- The moment at which another network is heard. -/
def crowdedEnv : Env := ⟨200, false, fun _ => false, ⟨0, 0, 0, 0, 0, 0⟩⟩

/-- The network of the beacon that is heard then. -/
def lateNetwork (heard : Fin maxNetworkCount → UInt64) : Option HeardNetwork :=
  networkInit crowdedEnv (crowded heard).toDevice bareBeacon ⟨band24Ghz, 0, (0, 0)⟩ HeardNetwork.zeroed

theorem lateNetwork_bssid (heard : Fin maxNetworkCount → UInt64) :
    (lateNetwork heard).map (fun n => n.bssid) = some ⟨0, 0, 0, 0, 0, 0⟩ := by
  unfold lateNetwork networkInit
  extract_lets src start left
  have hleft : left = 0 := rfl
  rw [hleft, bareBeacon_elements]
  decide +kernel

/-- It parses, and it is not in the list. -/
theorem exists_lateNetwork (heard : Fin maxNetworkCount → UInt64) : ∃ net, lateNetwork heard = some net ∧
    ∀ i ∈ (crowded heard).networkList,
      isSameNetwork (crowded heard).toDevice ((crowded heard).networks i) net = false := by
  obtain ⟨net, hnet, hbssid⟩ := Option.map_eq_some_iff.mp (lateNetwork_bssid heard)
  refine ⟨net, hnet, fun i _ => Bool.eq_false_iff.mpr fun hsame => ?_⟩
  have hkey := (isSameNetwork_iff _ _ _).mp hsame
  have hzero : (⟨2, 0, 0, 0, 1, UInt8.ofNat i⟩ : Mac) = ⟨0, 0, 0, 0, 0, 0⟩ :=
    (congrArg (fun key => key.2.2.1) hkey).trans hbssid
  have hfirst : (2 : UInt8) = 0 := congrArg Mac.b0 hzero
  cases hfirst

/-- All were heard since the wrap. -/
theorem crowded_evictsOldest : EvictsOldest crowdedEnv.now (crowded fun i => UInt64.ofNat i)
    (processProbeResponse crowdedEnv (crowded fun i => UInt64.ofNat i) bareBeacon ⟨band24Ghz, 0, (0, 0)⟩
      HeardNetwork.zeroed) := by
  obtain ⟨net, hnet, hnew⟩ := exists_lateNetwork fun i => UInt64.ofNat i
  exact (evictsOldest_iff (crowded_listsOk _) (List.length_finRange ..) hnet hnew).mpr
    (Or.inl (by decide +kernel))

/-- The entry of slot 0 was heard before the wrap, the others after it. -/
def wrappedAt (i : Fin maxNetworkCount) : UInt64 := if i.val = 0 then 0 - 100 else UInt64.ofNat i

/-- Another one makes room. -/
theorem wrapped_not_evicted : ¬ ∀ (env : Env) (st : Station Unit) (skb : SkBuff) (stats : RxStats)
    (stack net : HeardNetwork), st.ListsOk → st.networkList.length = maxNetworkCount →
    networkInit env st.toDevice skb stats stack = some net →
    (∀ i ∈ st.networkList, isSameNetwork st.toDevice (st.networks i) net = false) →
    EvictsOldest env.now st (processProbeResponse env st skb stats stack) := by
  intro h
  obtain ⟨net, hnet, hnew⟩ := exists_lateNetwork wrappedAt
  obtain ⟨i, hi, hages⟩ :=
    h _ _ _ _ _ _ (crowded_listsOk wrappedAt) (List.length_finRange ..) hnet hnew
  obtain ⟨k, -, hold, hevicted⟩ :=
    processProbeResponse_evicts (crowded_listsOk wrappedAt) (List.length_finRange ..) hnet hnew
  have hone : (crowded wrappedAt).oldest = some ⟨1, by decide⟩ := by decide +kernel
  have hk : k = ⟨1, by decide⟩ := Option.some.inj (hold.symm.trans hone)
  have hik : i = k := (hevicted i).mp ((hi i).mpr rfl)
  rw [hik, hk] at hages
  exact absurd (hages ⟨0, by decide⟩ (List.mem_finRange _)) (by decide)

end Rtl8187

/-
# The list of networks over a run

`network_list` and `network_free_list` share out the slots of `networks`, and no
two entries of the list are the same network: whatever beacons and probe responses
come, and whatever the rest of the driver does between them, as long as the mode
stays (`networkList_sound`). For in one mode `is_same_network` compares keys
(`isSameNetwork_iff`), and `update_network` leaves the key of the entry that was
found.

Key definitions: `netKey`, `Station.netTable`, `NetworkListSound`, `NetInput`.
Key theorems: `isSameNetwork_iff`, `netKey_updateNetwork`, `surveyNetwork_lists`, `networkList_sound`.
-/
import Mathlib.Data.List.MinMax
import Rtl8187.Join
import Rtl8187.Lib.KeyedTable
import Rtl8187.Lib.Run

namespace Rtl8187

open KeyedTable

variable {P : Type}

/-! ### Keys -/

/-- What `is_same_network` compares: in infrastructure mode not the SSID. -/
def netKey (mode : IwMode) (net : HeardNetwork) : Option (List UInt8) × UInt8 × Mac × UInt16 × UInt16 :=
  (if mode = .infra then none else some net.ssid, net.channel, net.bssid,
    net.capability &&& wlanCapabilityIbss, net.capability &&& wlanCapabilityBss)

theorem isSameNetwork_iff (d : Device P) (src dst : HeardNetwork) :
    isSameNetwork d src dst = true ↔ netKey d.iwMode src = netKey d.iwMode dst := by
  have hssid : src.ssid.length = dst.ssid.length ∧ src.ssid = dst.ssidBuf.take src.ssid.length ↔
      src.ssid = dst.ssid := by
    unfold HeardNetwork.ssidBuf
    constructor
    · rintro ⟨hlen, htake⟩
      rw [htake, hlen, List.take_left]
    · intro heq
      rw [heq, List.take_left]
      exact ⟨rfl, rfl⟩
  unfold isSameNetwork netKey
  by_cases hmode : d.iwMode = .infra
  · simp [hmode]
  · simp only [hmode, or_false, if_false, Prod.mk.injEq, Option.some.injEq, decide_eq_true_eq, ← hssid]
    tauto

/-- An update leaves the key of the entry it updates. -/
theorem netKey_updateNetwork {mode : IwMode} {dst src : HeardNetwork} (env : Env)
    (h : netKey mode src = netKey mode dst) : netKey mode (updateNetwork env dst src) = netKey mode dst := by
  have hnamed : ∀ named : HeardNetwork, named = (if src.ssid ≠ [] then
      dst.setSsid (src.ssid ++ (List.replicate dst.ssid.length 0 ++ dst.ssidTail).drop src.ssid.length)
        src.ssid.length else dst) →
      named.channel = dst.channel ∧ named.bssid = dst.bssid ∧
        (named.ssid = src.ssid ∨ named.ssid = dst.ssid) := by
    rintro named rfl
    split_ifs
    · exact ⟨rfl, rfl, Or.inl (List.take_left ..)⟩
    · exact ⟨rfl, rfl, Or.inr rfl⟩
  obtain ⟨hchannel, hbssid, hssid⟩ := hnamed _ rfl
  unfold netKey at h ⊢
  simp only [Prod.mk.injEq] at h ⊢
  obtain ⟨hs, -, -, hibss, hbss⟩ := h
  refine ⟨?_, hchannel, hbssid, hibss, hbss⟩
  by_cases hmode : mode = .infra
  · rw [if_pos hmode, if_pos hmode]
  · rw [if_neg hmode, if_neg hmode] at hs ⊢
    rcases hssid with hssid | hssid
    · exact (congrArg some hssid).trans hs
    · exact congrArg some hssid

namespace Station

/-! ### The slots -/

/-- The two lists and the entries. -/
def netTable (st : Station P) : Table (Fin maxNetworkCount) HeardNetwork :=
  ⟨st.networkFreeList, st.networkList, st.networks⟩

/-- Every slot is in one of the lists, and the networks of `network_list` differ. -/
def ListsOk (st : Station P) : Prop := Valid (List.finRange maxNetworkCount) (netKey st.iwMode) st.netTable

/-- The two stations have the same lists in the same mode. -/
structure SameLists (st' st : Station P) : Prop where
  table : st'.netTable = st.netTable
  mode : st'.iwMode = st.iwMode

theorem SameLists.refl (st : Station P) : SameLists st st := ⟨rfl, rfl⟩

theorem SameLists.ok {st st' : Station P} (h : SameLists st' st) (hok : st.ListsOk) : st'.ListsOk := by
  unfold ListsOk
  rw [h.table, h.mode]
  exact hok

section

variable {st : Station P} {env : Env} {net : HeardNetwork} {beacon : Bool}

@[simp] theorem queueWork_iwMode (d : Device P) (w : Work) : (d.queueWork w).iwMode = d.iwMode := by
  unfold Device.queueWork
  split_ifs <;> rfl

theorem joinNet_sameLists (st : Station P) (net : HeardNetwork) : SameLists (st.joinNet net) st := by
  unfold joinNet
  dsimp only
  split_ifs
  · refine ⟨rfl, ?_⟩
    rw [mapDev_toDevice, queueWork_iwMode]
    rfl
  · exact ⟨rfl, rfl⟩

theorem announce_sameLists (st : Station P) (net : Option HeardNetwork) : SameLists (st.announce net) st := by
  cases net with
  | none => exact .refl st
  | some net =>
    change SameLists (st.newNet net) st
    unfold newNet
    split_ifs
    · exact .refl st
    · exact joinNet_sameLists st net
    · exact .refl st
    · exact .refl st

/-- The comparison with `current_network` leaves lists and key. -/
theorem surveyCurrent_sameLists (env : Env) (st : Station P) (beacon : Bool) (net : HeardNetwork) :
    SameLists (surveyCurrent env st beacon net).2 st ∧
      ∀ mode, netKey mode (surveyCurrent env st beacon net).1 = netKey mode net := by
  unfold surveyCurrent
  split_ifs
  · exact ⟨⟨rfl, rfl⟩, fun _ => rfl⟩
  · exact ⟨.refl st, fun _ => rfl⟩
  · exact ⟨.refl st, fun _ => rfl⟩
  · exact ⟨.refl st, fun _ => rfl⟩

/-- The search for the oldest entry takes the first of those with the smallest time. -/
theorem oldest_eq (st : Station P) :
    st.oldest = st.networkList.argmin fun i => (st.networks i).lastScanned.toNat := by
  unfold oldest List.argmin
  congr 1
  funext o target
  cases o <;> rfl

/-- The oldest entry is one of the list. -/
theorem exists_oldest (st : Station P) (h : st.networkList ≠ []) : ∃ i ∈ st.networkList, st.oldest = some i := by
  cases hold : st.oldest with
  | none => exact absurd (List.argmin_eq_none.mp (st.oldest_eq.symm.trans hold)) h
  | some i => exact ⟨i, List.argmin_mem (st.oldest_eq.symm.trans hold), rfl⟩

/-- Where the slot for a new network comes from. -/
theorem networkSlot_cases (h : st.ListsOk) :
    (∃ i free, st.networkFreeList = i :: free ∧
      st.networkSlot = some (i, { st with networkFreeList := free })) ∨
    ∃ i ∈ st.networkList, st.networkFreeList = [] ∧
      st.networkSlot = some (i, { st with networkList := st.networkList.erase i }) := by
  unfold networkSlot
  cases hfree : st.networkFreeList with
  | cons i free => exact Or.inl ⟨i, free, rfl, rfl⟩
  | nil =>
    have hne : st.networkList ≠ [] := h.exists_used (by decide) hfree
    obtain ⟨i, hi, hold⟩ := st.exists_oldest hne
    refine Or.inr ⟨i, hi, rfl, ?_⟩
    dsimp only
    rw [hold]
    rfl

/-- **The survey** keeps the lists, and the network is listed then. -/
theorem surveyNetwork_lists (h : st.ListsOk) (env : Env) (beacon : Bool) (net : HeardNetwork) :
    (surveyNetwork env st beacon net).2.ListsOk ∧ (surveyNetwork env st beacon net).2.iwMode = st.iwMode ∧
      Holds (netKey st.iwMode) (surveyNetwork env st beacon net).2.netTable (netKey st.iwMode net) := by
  obtain ⟨hsame, hkey⟩ := surveyCurrent_sameLists env st beacon net
  unfold surveyNetwork
  generalize surveyCurrent env st beacon net = p at hsame hkey
  obtain ⟨net', st₁⟩ := p
  dsimp only at hsame hkey ⊢
  have hok : st₁.ListsOk := hsame.ok h
  rw [← hsame.mode, ← hkey]
  cases hfind : st₁.networkList.find? (fun i => isSameNetwork st₁.toDevice (st₁.networks i) net') with
  | none =>
    have hnew : ∀ j ∈ st₁.networkList, netKey st₁.iwMode (st₁.networks j) ≠ netKey st₁.iwMode net' := by
      intro j hj heq
      exact List.find?_eq_none.mp hfind j hj ((isSameNetwork_iff st₁.toDevice _ _).mpr heq)
    dsimp only
    rcases networkSlot_cases hok with ⟨i, free, hfree, hslot⟩ | ⟨i, hi, hfree, hslot⟩
    · rw [hslot]
      exact ⟨hok.allocate hfree hnew, rfl, holds_update (List.mem_append_right _ (List.mem_singleton_self i)) net'⟩
    · rw [hslot]
      exact ⟨hok.evict hi hnew, rfl, holds_update (List.mem_append_right _ (List.mem_singleton_self i)) net'⟩
  | some i =>
    have hi : i ∈ st₁.networkList := List.mem_of_find?_eq_some hfind
    have hfound := List.find?_some hfind
    have hsame' : netKey st₁.iwMode (st₁.networks i) = netKey st₁.iwMode net' :=
      (isSameNetwork_iff st₁.toDevice _ _).mp hfound
    dsimp only
    set named := if ¬ beacon = true then { net' with emptyEssid := (st₁.networks i).emptyEssid } else net' with hnamed
    have hnamedKey : netKey st₁.iwMode named = netKey st₁.iwMode net' := by
      rw [hnamed]
      split_ifs <;> rfl
    have hupdated := netKey_updateNetwork env (hnamedKey.trans hsame'.symm)
    refine ⟨hok.write hupdated, rfl, ?_⟩
    rw [← hsame', ← hupdated]
    exact holds_update hi _

end

end Station

/-! ### Runs -/

open Station

/-- `ieee80211_networks_initialize` -/
def Station.networksInitialize (st : Station P) : Station P :=
  { st with networkFreeList := List.finRange maxNetworkCount, networkList := [] }

/-- What the driver does that leaves the lists, their entries and the mode. -/
structure NetsKept (P : Type) where
  run : Station P → Station P
  same : ∀ st, SameLists (run st) st

/-- A beacon or a probe response, which is parsed over `stack`; or anything else. -/
inductive NetInput (P : Type) where
  | frame (env : Env) (skb : SkBuff) (stats : RxStats) (stack : HeardNetwork)
  | other (act : NetsKept P)

def NetInput.step (st : Station P) : NetInput P → Station P
  | .frame env skb stats stack => processProbeResponse env st skb stats stack
  | .other act => act.run st

/-- The lists share out the slots, and no two entries are the same network. -/
structure NetworkListSound (st : Station P) : Prop where
  partition : (st.networkFreeList ++ st.networkList).Perm (List.finRange maxNetworkCount)
  disjoint : ∀ i ∈ st.networkList, i ∉ st.networkFreeList
  distinct : ∀ i ∈ st.networkList, ∀ j ∈ st.networkList, i ≠ j →
    isSameNetwork st.toDevice (st.networks i) (st.networks j) = false

/-- After the frame, if it is accepted, its network is listed. -/
def Lists (st : Station P) : NetInput P → Prop
  | .frame env skb stats stack => ∀ net ∈ networkInit env st.toDevice skb stats stack,
      let st' := processProbeResponse env st skb stats stack
      ∃ i ∈ st'.networkList, isSameNetwork st'.toDevice (st'.networks i) net = true
  | .other _ => True

theorem Station.ListsOk.sound {st : Station P} (h : st.ListsOk) : NetworkListSound st where
  partition := h.perm
  disjoint := fun i hi hfree => h.not_mem_used hfree hi
  distinct := by
    intro i hi j hj hne
    apply Bool.eq_false_iff.mpr
    intro hsame
    exact hne (h.keys i hi j hj ((isSameNetwork_iff st.toDevice _ _).mp hsame))

theorem listsOk_initialize (st : Station P) : st.networksInitialize.ListsOk :=
  valid_empty (List.nodup_finRange _) _ _

/-- What the rest of the frame's processing keeps, and what is listed then. -/
theorem processNetwork_lists {st : Station P} (h : st.ListsOk) (env : Env) (skb : SkBuff)
    (parsed : Option HeardNetwork) : (processNetwork env st skb parsed).ListsOk ∧
      ∀ net ∈ parsed, ∃ i ∈ (processNetwork env st skb parsed).networkList,
        isSameNetwork (processNetwork env st skb parsed).toDevice
          ((processNetwork env st skb parsed).networks i) net = true := by
  cases parsed with
  | none => exact ⟨h, fun _ hnet => by cases hnet⟩
  | some net =>
    obtain ⟨hok, hmode, i, hi, hkey⟩ := surveyNetwork_lists h env (isBeacon skb) net
    set survey := surveyNetwork env st (isBeacon skb) net with hsurvey
    have hann : SameLists (processNetwork env st skb (some net)) survey.2 := announce_sameLists survey.2 survey.1
    refine ⟨hann.ok hok, ?_⟩
    rintro _ ⟨⟩
    have hlist : (processNetwork env st skb (some net)).networkList = survey.2.networkList :=
      congrArg Table.used hann.table
    have hvals : (processNetwork env st skb (some net)).networks = survey.2.networks :=
      congrArg Table.val hann.table
    refine ⟨i, hlist ▸ hi, (isSameNetwork_iff _ _ _).mpr ?_⟩
    rw [hvals, hann.mode, hmode]
    exact hkey

/-- What a step keeps, and what it enters. -/
theorem listsOk_step (st : Station P) (i : NetInput P) (h : st.ListsOk) : (i.step st).ListsOk ∧ Lists st i := by
  cases i with
  | frame env skb stats stack =>
    have hlists := processNetwork_lists h env skb (networkInit env st.toDevice skb stats stack)
    rw [← processProbeResponse] at hlists
    exact hlists
  | other act => exact ⟨(act.same st).ok h, trivial⟩

/-- **The list of networks**: from its initialization on, whatever is received. -/
theorem networkList_sound (st : Station P) (is : List (NetInput P)) :
    NetworkListSound (Run.run NetInput.step st.networksInitialize is) ∧
      Run.AllSteps NetInput.step Lists st.networksInitialize is := by
  have hinit := listsOk_initialize st
  have htrue : Run.AllSteps NetInput.step (fun _ _ => True) st.networksInitialize is := Run.allSteps_true _ is
  have hok := Run.inv_run (fun st i h _ => (listsOk_step st i h).1) _ is hinit htrue
  exact ⟨hok.sound, Run.allSteps_of_inv (fun st i h _ => listsOk_step st i h) _ is hinit htrue⟩

end Rtl8187

/-
# Which network is joined

`ieee80211_softmac_new_net`, which joins a network that fits the user's
settings, and its callers: `ieee80211_softmac_check_all_nets` over the list of
networks, `ieee80211_process_probe_response` on a received frame.

The SSID is compared by `strncmp` over the length of the network's SSID, not
of the configured one. So a network whose SSID is a proper beginning of what
the array `current_network.ssid` holds passes for the configured one
(`joinsConfigured_iff`).

Key definitions: `newNet`, `checkAllNets`, `processProbeResponse`,
`JoinsConfigured`, `PassesFor`.
Key theorems: `strncmpEq_iff`, `joinsConfigured_iff`.
-/
import Rtl8187.Survey

namespace Rtl8187

open Bytes

variable {P : Type}

/-- `strncpy` of `n` bytes: up to the first NUL, and NULs behind it. -/
def strncpy (src : List UInt8) (n : ℕ) : List UInt8 :=
  (src.takeWhile (· ≠ 0) ++ List.replicate n 0).take n

namespace Station

/-- Whether the network broadcasts its SSID. -/
def ssidBroad (net : HeardNetwork) : Bool := net.ssid ≠ [] && at8 net.ssid 0 != 0

/-- The mode is one in which networks are joined, and the network is of its kind. -/
def RightKind (st : Station P) (net : HeardNetwork) : Prop :=
  (st.iwMode = .infra ∧ net.capability &&& wlanCapabilityBss ≠ 0) ∨
    (st.iwMode = .adhoc ∧ net.capability &&& wlanCapabilityIbss ≠ 0)

instance (st : Station P) (net : HeardNetwork) : Decidable (st.RightKind net) := by
  unfold RightKind
  infer_instance

/-- What the user set fits the network. -/
def fits (st : Station P) (net : HeardNetwork) : Bool :=
  let apset := st.wapSet
  let ssidset := st.ssidSet
  let ssidbroad := ssidBroad net
  let apmatch := decide (st.currentNetwork.bssid = net.bssid)
  let ssidmatch := strncmpEq st.current.ssidBuf net.ssid net.ssid.length
  (apset && apmatch &&
      ((ssidset && ssidbroad && ssidmatch) || (ssidbroad && !ssidset) || (!ssidbroad && ssidset))) ||
    (!apset && ssidset && ssidbroad && ssidmatch)

/-- `current_network` once the network is copied there; a hidden one gets the
SSID the user set. -/
def adopt (st : Station P) (net : HeardNetwork) : HeardNetwork :=
  if ssidBroad net then net
  else
    let tmp := strncpy st.current.ssidBuf iwEssidMaxSize
    net.setSsid (strncpy tmp iwEssidMaxSize ++ net.ssidBuf.drop iwEssidMaxSize) st.currentNetwork.ssid.length

/-- The network is joined: by the association procedure, or in ad hoc mode at
once. -/
def joinNet (st : Station P) (net : HeardNetwork) : Station P :=
  let st := st.setCurrent (st.adopt net)
  if st.iwMode = .infra then
    st.mapDev fun d => { d with state := .associating }.queueWork .associateProcedure
  else
    st.mapDev fun d =>
      { d with rate := if d.currentNetwork.is54g && d.ofdmModulation then 540 else 110, state := .linked }

/-- `ieee80211_softmac_new_net` -/
def newNet (st : Station P) (net : HeardNetwork) : Station P :=
  if st.state ≠ .nolink then st
  else if ¬ st.RightKind net then st
  else if st.fits net then st.joinNet net
  else st

/-- A turn of the loop of `ieee80211_softmac_check_all_nets`: once the state
has changed, the rest of the list is left alone. -/
def tryNet (st : Station P) (target : HeardNetwork) : Station P :=
  if st.state ≠ .nolink then st else st.newNet target

/-- `ieee80211_softmac_check_all_nets` -/
def checkAllNets (st : Station P) : Station P := st.listed.foldl tryNet st

/-- `is_beacon` -/
def isBeacon (skb : SkBuff) : Bool := fcStype (frameCtl skb.mem) == stypeBeacon

/-- The call of `ieee80211_softmac_new_net`, if there is one. -/
def announce (st : Station P) : Option HeardNetwork → Station P
  | none => st
  | some net => st.newNet net

/-- `ieee80211_process_probe_response` from the parsed entry on. -/
def processNetwork (env : Env) (st : Station P) (skb : SkBuff) : Option HeardNetwork → Station P
  | none => st
  | some net =>
    let survey := surveyNetwork env st (isBeacon skb) net
    survey.2.announce survey.1

/-- `ieee80211_process_probe_response`; the parser fills its entry over `stack`. -/
def processProbeResponse (env : Env) (st : Station P) (skb : SkBuff) (stats : RxStats)
    (stack : HeardNetwork) : Station P :=
  processNetwork env st skb (networkInit env st.toDevice skb stats stack)

/-- The network a received frame has `ieee80211_softmac_new_net` called with. -/
def announced (env : Env) (st : Station P) (skb : SkBuff) (stats : RxStats) (stack : HeardNetwork) :
    Option HeardNetwork :=
  (networkInit env st.toDevice skb stats stack).bind fun net =>
    (surveyNetwork env st (isBeacon skb) net).1

/-! ### The configured network -/

/-- If an association is started, it is with the configured SSID. -/
def JoinsConfigured (st st' : Station P) : Prop :=
  st.state = .nolink → st'.state ≠ .nolink → st'.currentNetwork.ssid = st.currentNetwork.ssid

/-- As strings of at most `s.length` bytes, `buf` and `s` are equal. -/
def SameString (buf s : List UInt8) : Prop :=
  ∃ k ≤ s.length, (∀ i < k, at8 buf i = at8 s i) ∧ (k = s.length ∨ (at8 buf k = 0 ∧ at8 s k = 0))

/-- The network would be joined: the station looks for one, it is of the right
kind, broadcasts its SSID, and this is what the array `current_network.ssid`
holds, up to its own length or a NUL in both. -/
def PassesFor (st : Station P) (net : HeardNetwork) : Prop :=
  st.state = .nolink ∧ st.RightKind net ∧ ssidBroad net = true ∧ SameString st.current.ssidBuf net.ssid

/-- The network would be joined, and its SSID is not the configured one. -/
def Decoy (st : Station P) (net : HeardNetwork) : Prop :=
  st.PassesFor net ∧ net.ssid ≠ st.currentNetwork.ssid

/-- The first network of the list that would be joined. -/
def FirstListed (st : Station P) (net : HeardNetwork) : Prop :=
  st.PassesFor net ∧ ∃ l₁ l₂, st.listed = l₁ ++ net :: l₂ ∧ ∀ n ∈ l₁, ¬ st.PassesFor n

/-! ### The comparison -/

/-- `strncmp` finds no difference exactly if the strings are equal up to `n`
bytes or to a NUL in both. -/
theorem strncmpEq_iff (a b : List UInt8) (n : ℕ) : strncmpEq a b n = true ↔
    ∃ k ≤ n, (∀ i < k, at8 a i = at8 b i) ∧ (k = n ∨ (at8 a k = 0 ∧ at8 b k = 0)) := by
  induction n generalizing a b with
  | zero =>
    unfold strncmpEq
    exact iff_of_true rfl ⟨0, le_rfl, by simp, Or.inl rfl⟩
  | succ n ih =>
    unfold strncmpEq
    by_cases hne : at8 a 0 = at8 b 0
    · rw [if_neg (not_not.mpr hne)]
      by_cases h0 : at8 a 0 = 0
      · rw [if_pos h0]
        exact iff_of_true rfl ⟨0, Nat.zero_le _, by simp, Or.inr ⟨h0, hne ▸ h0⟩⟩
      · rw [if_neg h0]
        refine (ih a.tail b.tail).trans ?_
        simp only [at8_tail]
        constructor
        · rintro ⟨k, hk, heq, hend⟩
          refine ⟨k + 1, by omega, fun i hi => ?_, by simpa using hend⟩
          cases i with
          | zero => exact hne
          | succ i => exact heq i (by omega)
        · rintro ⟨k, hk, heq, hend⟩
          cases k with
          | zero =>
            rcases hend with hend | hend
            · omega
            · exact absurd hend.1 h0
          | succ k => exact ⟨k, by omega, fun i hi => heq (i + 1) (by omega), by simpa using hend⟩
    · rw [if_pos hne]
      refine iff_of_false (by simp) ?_
      rintro ⟨k, hk, heq, hend⟩
      cases k with
      | zero =>
        rcases hend with hend | hend
        · omega
        · exact hne (hend.1.trans hend.2.symm)
      | succ k => exact hne (heq 0 (by omega))

theorem strncmpEq_length_iff (buf s : List UInt8) :
    strncmpEq buf s s.length = true ↔ SameString buf s := strncmpEq_iff buf s s.length

/-! ### One network -/

section

variable {st : Station P} {net : HeardNetwork}

/-- With an SSID and no access point set, only the SSID counts. -/
theorem fits_iff (hset : st.ssidSet = true) (hwap : st.wapSet = false) :
    st.fits net = true ↔ ssidBroad net = true ∧ SameString st.current.ssidBuf net.ssid := by
  rw [← strncmpEq_length_iff]
  simp [fits, hset, hwap]

theorem newNet_of_not_passes (hset : st.ssidSet = true) (hwap : st.wapSet = false)
    (h : ¬ st.PassesFor net) : st.newNet net = st := by
  unfold newNet
  by_cases hstate : st.state = .nolink
  · rw [if_neg (not_not.mpr hstate)]
    by_cases hkind : st.RightKind net
    · rw [if_neg (not_not.mpr hkind)]
      apply if_neg
      intro hfits
      exact h ⟨hstate, hkind, (fits_iff hset hwap).mp hfits⟩
    · exact if_pos hkind
  · exact if_pos hstate

theorem joinNet_state : (st.joinNet net).state ≠ .nolink := by
  unfold joinNet
  dsimp only
  split_ifs with hmode
  · rw [mapDev_toDevice, queueWork_state]
    simp
  · simp

@[simp] theorem queueWork_currentNetwork (d : Device P) (w : Work) :
    (d.queueWork w).currentNetwork = d.currentNetwork := by
  unfold Device.queueWork
  split_ifs <;> rfl

theorem joinNet_currentNetwork : (st.joinNet net).currentNetwork = (st.adopt net).toNetwork := by
  unfold joinNet
  dsimp only
  split_ifs with hmode
  · rw [mapDev_toDevice, queueWork_currentNetwork]
    rfl
  · rfl

/-- A network that passes is joined, with its own SSID. -/
theorem newNet_of_passes (hset : st.ssidSet = true) (hwap : st.wapSet = false)
    (h : st.PassesFor net) :
    (st.newNet net).state ≠ .nolink ∧ (st.newNet net).currentNetwork.ssid = net.ssid := by
  obtain ⟨hstate, hkind, hbroad, hsame⟩ := h
  have hfits : st.fits net = true := (fits_iff hset hwap).mpr ⟨hbroad, hsame⟩
  have hadopt : st.adopt net = net := if_pos hbroad
  have hjoin : st.newNet net = st.joinNet net := by
    unfold newNet
    rw [if_neg (not_not.mpr hstate), if_neg (not_not.mpr hkind), if_pos hfits]
  rw [hjoin, joinNet_currentNetwork, hadopt]
  exact ⟨joinNet_state, rfl⟩

theorem newNet_joinsConfigured_iff (hset : st.ssidSet = true) (hwap : st.wapSet = false) :
    JoinsConfigured st (st.newNet net) ↔ ¬ st.Decoy net := by
  by_cases hp : st.PassesFor net
  · obtain ⟨hne, hssid⟩ := newNet_of_passes hset hwap hp
    unfold JoinsConfigured Decoy
    rw [hssid]
    simp [hp, hp.1, hne]
  · rw [newNet_of_not_passes hset hwap hp]
    exact iff_of_true (fun hst hne => absurd hst hne) fun hd => hp hd.1

end

/-! ### The list of networks -/

section

variable {st : Station P}

/-- Once the state has changed, the loop does nothing more. -/
theorem foldl_tryNet_of_joined (l : List HeardNetwork) (h : st.state ≠ .nolink) :
    l.foldl tryNet st = st := by
  induction l with
  | nil => rfl
  | cons target l ih =>
    have hstep : st.tryNet target = st := if_pos h
    rw [List.foldl_cons, hstep, ih]

/-- The loop over networks none of which passes. -/
theorem foldl_tryNet_of_none (hset : st.ssidSet = true) (hwap : st.wapSet = false)
    (l : List HeardNetwork) (h : ∀ n ∈ l, ¬ st.PassesFor n) : l.foldl tryNet st = st := by
  induction l with
  | nil => rfl
  | cons target l ih =>
    have hstep : st.tryNet target = st := by
      unfold tryNet
      rw [newNet_of_not_passes hset hwap (h target (by simp)), ite_self]
    rw [List.foldl_cons, hstep, ih fun n hn => h n (by simp [hn])]

/-- The list holds no network that passes, or one is its first. -/
theorem exists_firstListed (st : Station P) :
    (∀ n ∈ st.listed, ¬ st.PassesFor n) ∨ ∃ net, st.FirstListed net := by
  classical
  cases hf : st.listed.find? (fun n => decide (st.PassesFor n)) with
  | none =>
    left
    simpa using hf
  | some net =>
    right
    obtain ⟨hp, l₁, l₂, hl, hbefore⟩ := List.find?_eq_some_iff_append.mp hf
    exact ⟨net, by simpa using hp, l₁, l₂, hl, by simpa using hbefore⟩

/-- The first network that passes is joined, whatever comes after it. -/
theorem checkAllNets_of_first (hset : st.ssidSet = true) (hwap : st.wapSet = false)
    {net : HeardNetwork} (h : st.FirstListed net) : st.checkAllNets = st.newNet net := by
  obtain ⟨hp, l₁, l₂, hl, hbefore⟩ := h
  have hstep : st.tryNet net = st.newNet net := if_neg (not_not.mpr hp.1)
  have hjoined := (newNet_of_passes hset hwap hp).1
  unfold checkAllNets
  rw [hl, List.foldl_append, foldl_tryNet_of_none hset hwap l₁ hbefore, List.foldl_cons, hstep,
    foldl_tryNet_of_joined l₂ hjoined]

theorem checkAllNets_joinsConfigured_iff (hset : st.ssidSet = true) (hwap : st.wapSet = false) :
    JoinsConfigured st st.checkAllNets ↔
      ∀ net, st.FirstListed net → net.ssid = st.currentNetwork.ssid := by
  constructor
  · intro h net hfirst
    rw [checkAllNets_of_first hset hwap hfirst, newNet_joinsConfigured_iff hset hwap] at h
    by_contra hne
    exact h ⟨hfirst.1, hne⟩
  · intro h
    rcases exists_firstListed st with hnone | ⟨net, hfirst⟩
    · unfold checkAllNets
      rw [foldl_tryNet_of_none hset hwap _ hnone]
      exact fun hst hne => absurd hst hne
    · rw [checkAllNets_of_first hset hwap hfirst, newNet_joinsConfigured_iff hset hwap]
      exact fun hd => hd.2 (h net hfirst)

end

/-! ### A received frame -/

section

variable {env : Env} {st : Station P} {net : HeardNetwork} {beacon : Bool}

/-- What the list holds does not change what would be joined. -/
structure SameSearch (st' st : Station P) : Prop where
  dev : st'.toDevice = st.toDevice
  heard : st'.currentHeard = st.currentHeard
  ssidSet : st'.ssidSet = st.ssidSet
  wapSet : st'.wapSet = st.wapSet

theorem surveyCurrent_same (h : st.state = .nolink) :
    SameSearch (surveyCurrent env st beacon net).2 st := by
  have hl : st.state ≠ .linked := by simp [h]
  unfold surveyCurrent
  split_ifs <;> constructor <;> rfl

theorem networkSlot_same {st' : Station P} {i : Fin maxNetworkCount}
    (h : st.networkSlot = some (i, st')) : SameSearch st' st := by
  unfold networkSlot at h
  split at h
  · cases h
    constructor <;> rfl
  · obtain ⟨j, _, hj⟩ := Option.map_eq_some_iff.mp h
    cases hj
    constructor <;> rfl

theorem SameSearch.trans {st₁ st₂ st₃ : Station P} (h : SameSearch st₁ st₂) (h' : SameSearch st₂ st₃) :
    SameSearch st₁ st₃ where
  dev := h.dev.trans h'.dev
  heard := h.heard.trans h'.heard
  ssidSet := h.ssidSet.trans h'.ssidSet
  wapSet := h.wapSet.trans h'.wapSet

/-- Bringing the list up to date touches nothing else while no link is there. -/
theorem surveyNetwork_same (h : st.state = .nolink) :
    SameSearch (surveyNetwork env st beacon net).2 st := by
  have hcur := @surveyCurrent_same P env st net beacon h
  unfold surveyNetwork
  generalize surveyCurrent env st beacon net = p at hcur
  obtain ⟨net', st₁⟩ := p
  dsimp only at hcur ⊢
  cases st₁.networkList.find? (fun i => isSameNetwork st₁.toDevice (st₁.networks i) net') with
  | none =>
    dsimp only
    cases hslot : st₁.networkSlot with
    | none => exact hcur
    | some q =>
      obtain ⟨i, st₂⟩ := q
      refine SameSearch.trans ?_ ((networkSlot_same hslot).trans hcur)
      constructor <;> rfl
  | some i =>
    refine SameSearch.trans ?_ hcur
    constructor <;> rfl

theorem SameSearch.decoy_iff {st' : Station P} (h : SameSearch st' st) :
    st'.Decoy net ↔ st.Decoy net := by
  have hcur : st'.current = st.current := by
    unfold current
    rw [h.dev, h.heard]
  unfold Decoy PassesFor RightKind
  rw [hcur, h.dev]

theorem SameSearch.joins_iff {st' st'' : Station P} (h : SameSearch st' st) :
    JoinsConfigured st' st'' ↔ JoinsConfigured st st'' := by
  unfold JoinsConfigured
  rw [h.dev]

/-- What an announced network comes to, once the list is up to date. -/
theorem announce_joinsConfigured_iff (hset : st.ssidSet = true) (hwap : st.wapSet = false)
    (hstate : st.state = .nolink) :
    JoinsConfigured st ((surveyNetwork env st beacon net).2.announce (surveyNetwork env st beacon net).1) ↔
      ∀ n, (surveyNetwork env st beacon net).1 = some n → ¬ st.Decoy n := by
  have hsame := @surveyNetwork_same P env st net beacon hstate
  cases (surveyNetwork env st beacon net).1 with
  | none =>
    refine iff_of_true (fun hst hne => absurd hst ?_) (by simp)
    rwa [← hsame.dev]
  | some n =>
    have hset' := hsame.ssidSet.trans hset
    have hwap' := hsame.wapSet.trans hwap
    rw [← hsame.joins_iff, announce, newNet_joinsConfigured_iff hset' hwap', hsame.decoy_iff]
    simp

/-- A received frame joins another network exactly if it announces a decoy. -/
theorem processProbeResponse_joinsConfigured_iff (env : Env) (st : Station P) (skb : SkBuff)
    (stats : RxStats) (stack : HeardNetwork) (hset : st.ssidSet = true) (hwap : st.wapSet = false) :
    JoinsConfigured st (processProbeResponse env st skb stats stack) ↔
      ∀ net, announced env st skb stats stack = some net → ¬ st.Decoy net := by
  by_cases hstate : st.state = .nolink
  · unfold processProbeResponse announced
    generalize networkInit env st.toDevice skb stats stack = parsed
    cases parsed with
    | none => exact iff_of_true (fun hst hne => absurd hst hne) (by simp)
    | some net => exact announce_joinsConfigured_iff hset hwap hstate
  · exact iff_of_true (fun hst => absurd hst hstate) fun net _ hd => hstate hd.1.1

end

/-- **When only the configured network is joined.** With an SSID set and no
access point, a network given to `ieee80211_softmac_new_net` leads to another
SSID exactly if it passes for the configured one and is not; the list does so
exactly if the first of its networks that pass is not; a received frame
exactly if it announces such a network. -/
theorem joinsConfigured_iff (env : Env) (st : Station P) (net : HeardNetwork) (skb : SkBuff)
    (stats : RxStats) (stack : HeardNetwork) (hset : st.ssidSet = true) (hwap : st.wapSet = false) :
    (JoinsConfigured st (st.newNet net) ↔ ¬ st.Decoy net) ∧
      (JoinsConfigured st st.checkAllNets ↔
        ∀ net, st.FirstListed net → net.ssid = st.currentNetwork.ssid) ∧
      (JoinsConfigured st (processProbeResponse env st skb stats stack) ↔
        ∀ net, announced env st skb stats stack = some net → ¬ st.Decoy net) :=
  ⟨newNet_joinsConfigured_iff hset hwap, checkAllNets_joinsConfigured_iff hset hwap,
    processProbeResponse_joinsConfigured_iff env st skb stats stack hset hwap⟩

/-! ### A decoy -/

/-- A station the user has told to join the network "office". -/
def atOffice : Station Unit :=
  let st := Station.init Unit ⟨250, true⟩ ⟨2, 0, 0, 0, 0, 1⟩ fun _ => true
  { st.setCurrent (st.current.setSsid ([0x6F, 0x66, 0x66, 0x69, 0x63, 0x65] ++ List.replicate 27 0) 6) with
    ssidSet := true }

/-- An access point that calls itself "off". -/
def offNetwork : HeardNetwork :=
  { HeardNetwork.zeroed.setSsid ([0x6F, 0x66, 0x66] ++ List.replicate 30 0) 3 with
    bssid := ⟨2, 0, 0, 0, 0, 9⟩
    capability := wlanCapabilityBss }

/-- Told to join "office", the station joins "off". -/
theorem office_joins_off : ¬ ∀ (st : Station Unit) (net : HeardNetwork),
    st.ssidSet = true → st.wapSet = false → JoinsConfigured st (st.newNet net) := by
  intro h
  have hjoins := h atOffice offNetwork rfl rfl rfl (by decide)
  exact absurd hjoins (by decide)

/-- An access point that calls itself "office" is no decoy there. -/
theorem office_joins_office : JoinsConfigured atOffice
    (atOffice.newNet { offNetwork with ssid := atOffice.currentNetwork.ssid }) :=
  (joinsConfigured_iff ⟨0, true, fun _ => false, ⟨0, 0, 0, 0, 0, 0⟩⟩ atOffice _
    (SkBuff.devAllocSkb 36) ⟨1, 1, (0, 0)⟩ offNetwork rfl rfl).1.mpr fun hd => hd.2 rfl

end Station

end Rtl8187

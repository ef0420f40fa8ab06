/-
# What a network entry depends on

`ieee80211_process_probe_response` fills the entry of a network it has not
heard yet on its stack, over whatever is there. `ieee80211_network_init` never
writes the QoS flag, so the entry that goes into the list depends on the stack
for every frame (`entry_not_of_frame`). So does the channel when the frame has
no DS element (`networkInit_channel`). What the two have in common in any case
is what `common` keeps (`networkInit_common`).

Key definitions: `installed`, `setQos`, `common`.
Key theorems: `processProbeResponse_installs`, `entry_not_of_frame`,
`networkInit_common`, `networkInit_channel`.
-/
import Rtl8187.Join
import Rtl8187.ParserReads
import Rtl8187.Handshake
import Rtl8187.EntryChange

namespace Rtl8187

open Bytes

variable {P : Type}

namespace Station

/-- The entry a frame adds to the list of networks, if its network is not there yet. -/
def installed (env : Env) (st : Station P) (skb : SkBuff) (stats : RxStats) (stack : HeardNetwork) :
    Option HeardNetwork :=
  (networkInit env st.toDevice skb stats stack).bind fun net =>
    let (net, st) := surveyCurrent env st (isBeacon skb) net
    if (st.networkList.find? (fun i => isSameNetwork st.toDevice (st.networks i) net)).isSome then none
    else st.networkSlot.map fun _ => net

/-! ### It is what is installed -/

section

variable {st : Station P}

theorem joinNet_listed (st : Station P) (net : HeardNetwork) :
    (st.joinNet net).networks = st.networks ∧ (st.joinNet net).networkList = st.networkList := by
  unfold joinNet
  dsimp only
  split_ifs <;> exact ⟨rfl, rfl⟩

theorem announce_listed (st : Station P) (net : Option HeardNetwork) :
    (st.announce net).networks = st.networks ∧ (st.announce net).networkList = st.networkList := by
  cases net with
  | none => exact ⟨rfl, rfl⟩
  | some net =>
    show (st.newNet net).networks = st.networks ∧ (st.newNet net).networkList = st.networkList
    unfold newNet
    split_ifs
    · exact ⟨rfl, rfl⟩
    · exact joinNet_listed st net
    · exact ⟨rfl, rfl⟩
    · exact ⟨rfl, rfl⟩

theorem processProbeResponse_eq (env : Env) {skb : SkBuff} {stats : RxStats} {stack net : HeardNetwork}
    (hinit : networkInit env st.toDevice skb stats stack = some net) :
    processProbeResponse env st skb stats stack =
      (surveyNetwork env st (isBeacon skb) net).2.announce (surveyNetwork env st (isBeacon skb) net).1 := by
  unfold processProbeResponse
  rw [hinit]
  rfl

/-- The entry the list gets, for a network that is not in it. -/
theorem surveyNetwork_installs (env : Env) (beacon : Bool) {net net' e : HeardNetwork} {st₁ : Station P}
    (hcur : surveyCurrent env st beacon net = (net', st₁))
    (hnew : (if (st₁.networkList.find? fun i => isSameNetwork st₁.toDevice (st₁.networks i) net').isSome
      then none else st₁.networkSlot.map fun _ => net') = some e) :
    e ∈ (surveyNetwork env st beacon net).2.listed := by
  unfold surveyNetwork listed
  rw [hcur]
  dsimp only
  cases hfind : st₁.networkList.find? (fun i => isSameNetwork st₁.toDevice (st₁.networks i) net') with
  | some i => simp [hfind] at hnew
  | none =>
    rw [hfind] at hnew
    obtain ⟨⟨i, st₂⟩, hslot, rfl⟩ := Option.map_eq_some_iff.mp hnew
    rw [hslot]
    dsimp only
    have hval : Function.update st₂.networks i net' i = net' := Function.update_self i net' st₂.networks
    exact List.mem_map.mpr ⟨i, List.mem_append_right _ List.mem_cons_self, hval⟩

/-- After the frame the entry is in the list. -/
theorem processProbeResponse_installs (env : Env) {skb : SkBuff} {stats : RxStats} {stack e : HeardNetwork}
    (h : installed env st skb stats stack = some e) :
    e ∈ (processProbeResponse env st skb stats stack).listed := by
  rw [installed, Option.bind_eq_some_iff] at h
  obtain ⟨net, hinit, hnew⟩ := h
  cases hcur : surveyCurrent env st (isBeacon skb) net with | mk net' st₁ =>
  rw [hcur] at hnew
  have hlisted := surveyNetwork_installs env (isBeacon skb) hcur hnew
  obtain ⟨hnets, hlist⟩ := announce_listed (surveyNetwork env st (isBeacon skb) net).2
    (surveyNetwork env st (isBeacon skb) net).1
  rw [processProbeResponse_eq env hinit]
  unfold listed
  rw [hnets, hlist]
  exact hlisted

end

end Station

/-! ### The QoS flag -/

/-- The QoS flag overwritten. -/
def HeardNetwork.setQos (net : HeardNetwork) (b : Bool) : HeardNetwork := { net with qosEnable := b }

section

variable (env : Env) (d : Device P) (skb : SkBuff) (stats : RxStats) (net : HeardNetwork) (b : Bool)

/-- No element has a say in the QoS flag. -/
theorem parseElement_setQos (id : UInt8) (info : ℕ → UInt8) (len : ℕ) :
    parseElement d stats id info len (net.setQos b) = (parseElement d stats id info len net).setQos b := by
  rw [parseElement_eq_apply, parseElement_eq_apply]
  rfl

theorem parseElements_setQos (off left : ℕ) :
    parseElements d stats skb off left (net.setQos b) =
      (parseElements d stats skb off left net).map (·.setQos b) := by
  fun_induction parseElements d stats skb off left net with
  | case1 off left net hleft => rw [parseElements, if_pos hleft, Option.map_some]
  | case2 off left net hleft len hshort =>
    rw [parseElements, if_neg hleft]
    exact if_pos hshort
  | case3 off left net hleft len hlong ih =>
    rw [parseElements, if_neg hleft]
    refine (if_neg hlong).trans ?_
    rw [parseElement_setQos]
    exact ih

theorem networkInit_setQos (stack : HeardNetwork) :
    networkInit env d skb stats (stack.setQos b) = (networkInit env d skb stats stack).map (·.setQos b) := by
  unfold networkInit
  extract_lets stack' start left stack₀ start₀
  have hstart : start = start₀.setQos b := rfl
  rw [hstart, parseElements_setQos]
  cases parseElements d stats skb mgmtFrameFixedPartLength left start₀ with
  | none => rfl
  | some net =>
    rw [Option.map_some, Option.bind_some, Option.bind_some]
    extract_lets mode mode₀
    have hmode : mode = mode₀ := rfl
    rw [hmode]
    split_ifs <;> rfl

end

namespace Station

/-- Nor does it matter for what the entry is compared with. -/
theorem surveyCurrent_setQos (env : Env) (st : Station P) (beacon : Bool) (net : HeardNetwork) (b : Bool) :
    surveyCurrent env st beacon (net.setQos b) =
      ((surveyCurrent env st beacon net).1.setQos b, (surveyCurrent env st beacon net).2) := by
  have hsame : isSameNetwork st.toDevice st.current (net.setQos b) =
      isSameNetwork st.toDevice st.current net := rfl
  unfold surveyCurrent
  rw [hsame]
  split_ifs <;> rfl

/-- A stack with another QoS flag: the same entry, with that flag. -/
theorem installed_setQos (env : Env) (st : Station P) (skb : SkBuff) (stats : RxStats)
    (stack : HeardNetwork) (b : Bool) :
    installed env st skb stats (stack.setQos b) = (installed env st skb stats stack).map (·.setQos b) := by
  unfold installed
  rw [networkInit_setQos]
  cases networkInit env st.toDevice skb stats stack with
  | none => rfl
  | some net =>
    rw [Option.map_some, Option.bind_some, Option.bind_some, surveyCurrent_setQos]
    generalize surveyCurrent env st (isBeacon skb) net = p
    obtain ⟨net', st'⟩ := p
    refine Eq.trans ?_ (apply_ite (Option.map fun n : HeardNetwork => n.setQos b) _ _ _).symm
    rw [Option.map_none, Option.map_map]
    rfl

/-- **The entry of a new network.** Whatever frame is accepted for a network
that is not in the list, there is a stack from which the same frame installs
another entry. -/
theorem entry_not_of_frame (env : Env) (st : Station P) (skb : SkBuff) (stats : RxStats)
    (stack e : HeardNetwork) (hstack : stack.ssidBuf.length = iwEssidMaxSize + 1)
    (h : installed env st skb stats stack = some e) :
    ¬ ∀ stack' : HeardNetwork, stack'.ssidBuf.length = iwEssidMaxSize + 1 →
      installed env st skb stats stack' = some e := by
  intro hsame
  have hflip := hsame (stack.setQos !e.qosEnable) hstack
  rw [installed_setQos, h, Option.map_some, Option.some_inj] at hflip
  have hqos : (!e.qosEnable) = e.qosEnable := congrArg (fun n : HeardNetwork => n.qosEnable) hflip
  exact absurd hqos (Bool.not_ne_self _)

/-- A beacon without elements. -/
def bareBeacon : SkBuff := ⟨0, 0x80 :: List.replicate 35 0, []⟩

/-- The entry's channel is what was on the stack. -/
def onChannel (c : UInt8) : HeardNetwork := { HeardNetwork.zeroed with channel := c }

/-- The moment at which it is heard. -/
def bareEnv : Env := ⟨0, false, fun _ => false, ⟨0, 0, 0, 0, 0, 0⟩⟩

/-- What the beacon installs from a stack with channel `c`. -/
def bareInstalled (c : UInt8) : Option HeardNetwork :=
  installed bareEnv onChannelOne bareBeacon ⟨band24Ghz, 0, (0, 0)⟩ (onChannel c)

theorem bareBeacon_elements (d : Device Unit) (stats : RxStats) (net : HeardNetwork) :
    parseElements d stats bareBeacon mgmtFrameFixedPartLength 0 net = some net := by
  rw [parseElements]
  rfl

theorem bareInstalled_channel : (bareInstalled 6).map (fun n => n.channel) = some 6 ∧
    (bareInstalled 11).map (fun n => n.channel) = some 11 := by
  unfold bareInstalled installed networkInit
  extract_lets src start left src' start'
  have hleft : left = 0 := rfl
  rw [hleft, bareBeacon_elements, bareBeacon_elements]
  decide +kernel

theorem bareBeacon_not_of_frame : ¬ ∀ stack' : HeardNetwork, stack'.ssidBuf.length = iwEssidMaxSize + 1 →
    installed bareEnv onChannelOne bareBeacon ⟨band24Ghz, 0, (0, 0)⟩ stack' = bareInstalled 6 := by
  obtain ⟨e, he, -⟩ := Option.map_eq_some_iff.mp bareInstalled_channel.1
  rw [he]
  exact entry_not_of_frame _ _ _ _ (onChannel 6) e (by decide) he

/-- From two stacks the frame installs two channels. -/
theorem bareBeacon_stale_channel : ¬ ∀ (env : Env) (st : Station Unit) (skb : SkBuff) (stats : RxStats)
    (stack stack' : HeardNetwork), stack.ssidBuf.length = iwEssidMaxSize + 1 →
    stack'.ssidBuf.length = iwEssidMaxSize + 1 →
    installed env st skb stats stack' = installed env st skb stats stack := by
  intro h
  have hsame : bareInstalled 11 = bareInstalled 6 := h _ _ _ _ _ _ (by decide) (by decide)
  obtain ⟨hsix, heleven⟩ := bareInstalled_channel
  rw [hsame, hsix] at heleven
  exact absurd heleven (by decide)

end Station

/-! ### What does not depend on the stack -/

/-- The fields a frame determines by itself; the others are blanked. -/
def HeardNetwork.common (net : HeardNetwork) : HeardNetwork :=
  { net with
    channel := 0
    qosEnable := false
    ssidTail := []
    mode := 0
    dtimPeriod := 0
    dtimData := 0
    lastDtimStaTime := (0, 0) }

theorem ite_common_congr {c : Prop} [Decidable c] {x y net net' : HeardNetwork}
    (hpos : x.common = net.common) (hneg : y.common = net'.common) :
    (if c then x else y).common = (if c then net else net').common := by
  rw [apply_ite HeardNetwork.common, hpos, hneg, apply_ite HeardNetwork.common]

section

variable (env : Env) (d : Device P) (skb : SkBuff) (stats : RxStats)

theorem foldl_noteRate_common (rates : List UInt8) (net : HeardNetwork) :
    (rates.foldl noteRate net).common = rates.foldl noteRate net.common := by
  rw [foldl_noteRate, foldl_noteRate]
  rfl

theorem parseTim_common (info : ℕ → UInt8) (len : ℕ) (net : HeardNetwork) :
    (parseTim d stats info len net).common = net.common := by
  obtain ⟨period, data, time, htim⟩ := parseTim_eq d stats info len net
  rw [htim]
  rfl

/-- What an element leaves of these fields depends on them alone. -/
theorem parseElement_common (id : UInt8) (info : ℕ → UInt8) (len : ℕ) (net : HeardNetwork) :
    (parseElement d stats id info len net).common =
      (parseElement d stats id info len net.common).common := by
  have htake : ∀ (n : ℕ) (buf : List UInt8),
      ((List.range n).map info ++ List.replicate (iwEssidMaxSize - n) 0 ++ buf).take n =
        (List.range n).map info := fun n buf => by
    rw [List.append_assoc, List.take_left' (by simp)]
  unfold parseElement
  dsimp only
  apply ite_common_congr
  · refine ite_common_congr rfl ?_
    unfold HeardNetwork.setSsid HeardNetwork.common
    simp only [htake]
  apply ite_common_congr
  · rw [foldl_noteRate_common, foldl_noteRate_common]
    rfl
  apply ite_common_congr
  · rw [foldl_noteRate_common, foldl_noteRate_common]
    rfl
  apply ite_common_congr
  · exact ite_common_congr rfl rfl
  apply ite_common_congr
  · rw [parseTim_common, parseTim_common]
    rfl
  apply ite_common_congr
  · exact ite_common_congr rfl rfl
  · exact ite_common_congr rfl rfl

theorem parseElements_common (off left : ℕ) {net net' : HeardNetwork} (h : net.common = net'.common) :
    Option.Rel (fun e e' : HeardNetwork => e.common = e'.common)
      (parseElements d stats skb off left net) (parseElements d stats skb off left net') := by
  induction left using Nat.strong_induction_on generalizing off net net' with
  | _ left ih =>
    rw [parseElements, parseElements]
    by_cases hend : left < 2
    · rw [if_pos hend, if_pos hend]
      exact .some h
    · rw [if_neg hend, if_neg hend]
      dsimp only
      split_ifs with hlong
      · exact .none
      · apply ih _ (by omega)
        rw [parseElement_common, h, ← parseElement_common]

/-- **The other fields.** Whether a frame is accepted, and what it determines,
does not depend on the stack. -/
theorem networkInit_common (stack stack' : HeardNetwork) :
    Option.Rel (fun e e' : HeardNetwork => e.common = e'.common ∧ e.mode = e'.mode)
      (networkInit env d skb stats stack) (networkInit env d skb stats stack') := by
  unfold networkInit
  extract_lets src start left src' start'
  have hstart : start.common = start'.common := rfl
  have hrel := parseElements_common d skb stats mgmtFrameFixedPartLength left hstart
  generalize parseElements d stats skb mgmtFrameFixedPartLength left start = r at hrel
  generalize parseElements d stats skb mgmtFrameFixedPartLength left start' = r' at hrel
  cases hrel with
  | none => exact .none
  | @some net net' hnet =>
    have hofdm := congrArg (fun n : HeardNetwork => n.hasOfdm) hnet
    have hcck := congrArg (fun n : HeardNetwork => n.hasCck) hnet
    change net.hasOfdm = net'.hasOfdm at hofdm
    change net.hasCck = net'.hasCck at hcck
    rw [Option.bind_some, Option.bind_some]
    extract_lets mode mode'
    have hmode : mode = mode' := by
      unfold mode mode'
      rw [hofdm, hcck]
    rw [hmode]
    split_ifs
    · exact .none
    · refine .some ⟨?_, rfl⟩
      exact congrArg (fun n : HeardNetwork =>
        { n with emptyEssid := n.emptyEssid || isEmptyEssid n.ssid }) hnet

/-! ### The channel -/

/-- Only a DS element sets the channel. -/
theorem parseElement_channel (hband : stats.freq = band24Ghz) (id : UInt8) (info : ℕ → UInt8) (len : ℕ)
    (net : HeardNetwork) : (parseElement d stats id info len net).channel =
      if id = mfieTypeDsSet then info 0 else net.channel := by
  by_cases hds : id = mfieTypeDsSet
  · rw [if_pos hds, hds, parseElement]
    simp [mfieTypeSsid, mfieTypeRates, mfieTypeRatesEx, mfieTypeDsSet, hband]
  · rw [if_neg hds]
    exact parseElement_channel_of_ne hds info len net

/-- The channel after these elements: what the last DS element says, or `c`. -/
def heardChannel (c : UInt8) (els : List Element) : UInt8 :=
  els.foldl (fun c el => if el.id = mfieTypeDsSet then el.info 0 else c) c

theorem parseElements_channel (hband : stats.freq = band24Ghz) (off left : ℕ) (net : HeardNetwork)
    {e : HeardNetwork} (h : parseElements d stats skb off left net = some e) :
    e.channel = heardChannel net.channel (elements skb off left) := by
  induction left using Nat.strong_induction_on generalizing off net with
  | _ left ih =>
    rw [parseElements] at h
    rw [elements]
    by_cases hend : left < 2
    · rw [if_pos hend] at h ⊢
      cases h
      rfl
    · rw [if_neg hend] at h ⊢
      dsimp only at h ⊢
      by_cases hlong : left < 2 + (skb.byte (off + 1)).toNat
      · rw [if_pos hlong] at h
        cases h
      · rw [if_neg hlong] at h ⊢
        rw [ih _ (by omega) _ _ h, parseElement_channel d stats hband]
        rfl

/-- **The channel of an entry** is the one the last DS element names, or the
stack's. -/
theorem networkInit_channel (hband : stats.freq = band24Ghz) (stack : HeardNetwork) {e : HeardNetwork}
    (h : networkInit env d skb stats stack = some e) :
    e.channel = heardChannel stack.channel
      (elements skb mgmtFrameFixedPartLength ((skb.len + 65536 - mgmtFrameFixedPartLength) % 65536)) := by
  unfold networkInit at h
  extract_lets src start left at h
  obtain ⟨net, hparsed, hmode⟩ := Option.bind_eq_some_iff.mp h
  have hstart : start.channel = stack.channel := if_neg (by rw [hband]; decide)
  have hnet := parseElements_channel d skb stats hband _ _ start hparsed
  rw [hstart] at hnet
  extract_lets mode at hmode
  split_ifs at hmode
  cases hmode
  exact hnet

end

end Rtl8187

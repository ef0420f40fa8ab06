/-
# The channels the radio is tuned to

`rtl8180_set_chan` passes any channel on to the radio, which looks it up in
tables for the channels 1 to 14. The channel comes from `current_network`,
from the channel map or from `priv->chan`. A channel plan of `r8180_wx.c` may
list channels of the 5 GHz band, a beacon may name any channel or leave the
stack's in place, and `rtl8180_down` empties `current_network` under a work
that is about to tune to it. In the runs without these the radio is only tuned
to channels it has (`tuned_inRange`).

Key definitions: `Radio`, `RadioEvent`, `Radio.tuned`, `Radio.step`, `InRange`,
`RadioCondition`.
Key theorems: `scanAdvance_allowed`, `channel_rules`, `tuned_inRange`.
-/
import Rtl8187.NetSteps
import Rtl8187.StackEntry
import Rtl8187.Stop
import Rtl8187.ChannelPlan

namespace Rtl8187

open Bytes

variable {P : Type}

/-- The channels of the plan a request picks. Its index is not checked: `behind` is
what lies where the table does not. -/
def planOf (behind : List ℕ) : ℤ → List ℕ
  | .ofNat val => (wxChannelPlan.map ChannelList.channels).getD val behind
  | .negSucc _ => behind

/-- The station with what the driver keeps of the channel: `priv->chan`, once
it is set, and the local `chan` of `ieee80211_wx_sync_scan_wq`. -/
structure Radio (P : Type) where
  station : Station P
  chan : Option ℕ
  syncChan : Option ℕ

/-- A step of the station, or one that has to do with the channel only. -/
inductive RadioEvent (P : Type) where
  | station (e : Event P)
  /-- `rf_init`, when the interface comes up. -/
  | up
  /-- `rtl8187_link_change` -/
  | linkChange
  /-- `rtl8180_tx_pw_wq` -/
  | txPw
  /-- `r8180_wx_set_channelplan` -/
  | setChannelplan (val : ℤ) (behind : List ℕ)

namespace Station

/-! ### The calls of `set_chan` -/

/-- `current_network.channel` -/
def channel (st : Station P) : ℕ := st.currentNetwork.channel.toNat

/-- In a turn of `ieee80211_softmac_scan_syncro`. -/
def scanTuned (st : Station P) (ch : ℕ) : List ℕ :=
  match st.nextChannel ch with
  | none => []
  | some ch => if st.state = .linked then [] else [ch]

/-- In `ieee80211_softmac_scan_wq`. -/
def scanWqTuned (st : Station P) : List ℕ :=
  if ¬ st.scanning then []
  else
    let next := scanAdvance st.channelMap (maxChannelNumber + 1 - st.scanWatchdog) st.channel
    if next.2 then [next.1] else []

/-- In `ieee80211_start_protocol`; `ieee80211_start_master_bss` tunes once more. -/
def startTuned (st : Station P) : List ℕ :=
  if st.protoStarted then []
  else
    match if st.currentNetwork.channel = 0 then st.nextChannel 0 else some st.channel with
    | none => []
    | some ch => if st.iwMode = .master then [ch, ch] else [ch]

/-- In `ieee80211_start_ibss_wq` once it is linked. -/
def cellTuned (r : Option Job × Station P) : List ℕ :=
  if r.1 = some .ibssBeacons then [r.2.channel] else []

/-- When a job goes on. -/
def advanceTuned (env : StationEnv) (st : Station P) (syncChan : Option ℕ) : Job → List ℕ
  | .waiting .associateProcedure => [st.channel]
  | .waiting .startIbss => cellTuned (enterIbss env st)
  | .ibssScan ch => st.scanTuned ch ++ cellTuned (ibssTurn env st ch)
  | .syncScan ch => st.scanTuned ch ++
      if (syncTurn env.toEnv st ch).1 = some .syncRestore then syncChan.toList else []
  | .userScan ch => st.scanTuned ch
  | .change c restart => if restart then (st.applyChange c).startTuned else []
  | .modulationStart => st.startTuned
  | _ => []

/-- In a step of the station. -/
def tuned (st : Station P) (syncChan : Option ℕ) : Event P → List ℕ
  | .begin _ .softmacScan => if st.runnable .softmacScan ∧ ¬ st.scanSem then st.scanWqTuned else []
  | .goOn env i =>
    match st.jobs[i]? with
    | none => []
    | some j =>
      if st.ready j then advanceTuned env { st with jobs := st.jobs.eraseIdx i } syncChan j else []
  | .startProtocol => if st.wxSem then [] else st.startTuned
  | .setFreq _ chan => if st.wxSem ∨ st.iwMode = .infra ∨ chan < 1 ∨ 14 < chan then [] else [chan.toNat]
  | _ => []

/-- What `ieee80211_wx_sync_scan_wq` keeps in its `chan` when it begins. -/
def captured (st : Station P) : Event P → Option ℕ
  | .begin _ .wxSyncScan => if st.runnable .wxSyncScan then some st.channel else none
  | _ => none

end Station

namespace Radio

/-- The channels a step passes to `rf_set_chan`, which passes them on to
`SetTXPowerLevel`, or to that alone. -/
def tuned (s : Radio P) : RadioEvent P → List ℕ
  | .station e => s.station.tuned s.syncChan e
  | .up => [1, 1]
  | .linkChange => s.chan.toList
  | .txPw => s.chan.toList
  | .setChannelplan _ _ => []

/-- The channel map set to a plan. Its entry 0 is left alone. -/
def applyPlan (st : Station P) (plan : List ℕ) : Station P :=
  if plan = [] then st
  else { st with channelMap := fun c => decide (c ∈ plan) || (c == 0 && st.channelMap 0) }

/-- One step. -/
def step (s : Radio P) (e : RadioEvent P) : Radio P :=
  { station := match e with
      | .station e => s.station.step e
      | .setChannelplan val behind => applyPlan s.station (planOf behind val)
      | _ => s.station
    chan := (s.tuned e).getLast?.or s.chan
    syncChan := match e with
      | .station e => (s.station.captured e).or s.syncChan
      | _ => s.syncChan }

/-- The driver as it is set up, with the channel map of its EEPROM or of the
module's parameter. -/
def init (P : Type) (kernel : KernelConfig) (devAddr : Mac) (channelMap : ℕ → Bool) : Radio P :=
  ⟨Station.init P kernel devAddr channelMap, none, none⟩

end Radio

open Station

/-! ### What the radio has -/

/-- The radio has the channel: it is an index of `rtl8225_chan`, `chtxpwr` and
`chtxpwr_ofdm`, and not their unused first one. -/
def InRange (c : ℕ) : Prop := 1 ≤ c ∧ c ≤ 14

instance : DecidablePred InRange := fun c => inferInstanceAs (Decidable (1 ≤ c ∧ c ≤ 14))

/-- The map allows channels the radio has, and one at least. -/
structure PlanOk (channelMap : ℕ → Bool) : Prop where
  allowed : ∀ c, channelMap c = true → InRange c
  some : ∃ c, channelMap c = true

/-- A search that would come to an allowed channel ends at one. -/
theorem scanAdvance_allowed {channelMap : ℕ → Bool} {turns chan k : ℕ} (hk : k < turns)
    (h : channelMap ((chan + 1 + k) % maxChannelNumber) = true) :
    channelMap (scanAdvance channelMap turns chan).1 = true := by
  induction turns generalizing chan k with
  | zero => cases hk
  | succ turns ih =>
    rw [scanAdvance]
    by_cases hnext : channelMap ((chan + 1) % maxChannelNumber) = true
    · rw [if_pos hnext]
      exact hnext
    · rw [if_neg hnext]
      cases k with
      | zero => exact absurd h hnext
      | succ k =>
        apply ih (Nat.lt_of_succ_lt_succ hk)
        have hmod : ((chan + 1) % maxChannelNumber + 1 + k) % maxChannelNumber =
            (chan + 1 + (k + 1)) % maxChannelNumber := by
          unfold maxChannelNumber
          omega
        rw [hmod]
        exact h

/-- The search goes round all channels but the last. -/
theorem PlanOk.found {channelMap : ℕ → Bool} (h : PlanOk channelMap) (chan : ℕ) :
    InRange (scanAdvance channelMap (maxChannelNumber + 1) chan).1 := by
  obtain ⟨c, hc⟩ := h.some
  obtain ⟨-, hle⟩ := h.allowed c hc
  have hreach : (chan + 1 + (c + maxChannelNumber - (chan + 1) % maxChannelNumber) % maxChannelNumber) %
      maxChannelNumber = c := by
    unfold maxChannelNumber
    omega
  apply h.allowed
  refine scanAdvance_allowed (k := (c + maxChannelNumber - (chan + 1) % maxChannelNumber) %
    maxChannelNumber) ?_ ?_
  · have hlt := Nat.mod_lt (c + maxChannelNumber - (chan + 1) % maxChannelNumber)
      (by decide : 0 < maxChannelNumber)
    omega
  · rw [hreach]
    exact hc

theorem PlanOk.start {Q R : HeardNetwork → Prop} {st : Station P} (h : PlanOk st.channelMap) (hnone : st.nextChannel 0 = none)
    (net : HeardNetwork) (_ : Q net) : R net := by
  obtain ⟨c, hc⟩ := h.some
  obtain ⟨hlo, hhi⟩ := h.allowed c hc
  have hmem : c ∈ List.range' 1 maxChannelNumber :=
    List.mem_range'_1.mpr ⟨hlo, by unfold maxChannelNumber; omega⟩
  exact absurd hc (List.find?_eq_none.mp hnone c hmem)

/-- The channel of `current_network` at rest, which may be none yet. -/
def AtRest (net : HeardNetwork) : Prop := net.channel.toNat ≤ 14

/-- The channel of a network to tune to. -/
def Tunable (net : HeardNetwork) : Prop := InRange net.channel.toNat

theorem atRest_closed : Closed AtRest where
  congr h hchan _ _ _ _ _ _ := by
    rw [AtRest, hchan]
    exact h
  ssid _ _ _ _ _ _ h := h
  rates _ _ _ _ h := h

theorem tunable_closed : Closed Tunable where
  congr h hchan _ _ _ _ _ _ := by
    rw [Tunable, hchan]
    exact h
  ssid _ _ _ _ _ _ h := h
  rates _ _ _ _ h := h

theorem updateNetwork_channel (env : Env) (dst src : HeardNetwork) :
    (updateNetwork env dst src).channel = dst.channel := by
  unfold updateNetwork
  split_ifs <;> rfl

/-- What the station does to the channel of `current_network`. -/
theorem channel_rules : NetRules P AtRest Tunable InRange where
  closed := atRest_closed
  closedR := tunable_closed
  weaken h := h.2
  nonzero {net} h hne := by
    refine ⟨Nat.pos_of_ne_zero fun hzero => hne ?_, h⟩
    exact UInt8.toNat_inj.mp hzero
  tune {net c} hc _ := by
    have hmod : (UInt8.ofNat c).toNat = c := UInt8.toNat_ofNat_of_lt' (by
      have hle := hc.2
      show c < 256
      omega)
    show InRange (UInt8.ofNat c).toNat
    rw [hmod]
    exact hc
  freq c hlo hhi := ⟨hlo, hhi⟩
  adopt st net _ h := by
    unfold Station.adopt
    split_ifs <;> exact h
  update env dst src h _ := by
    rw [AtRest, updateNetwork_channel]
    exact h
  updateR env dst src h _ := by
    rw [Tunable, updateNetwork_channel]
    exact h

/-! ### The calls are in range -/

section

variable {st : Station P}

theorem scanTuned_inRange (h : NetsOk AtRest Tunable InRange st) (ch : ℕ) :
    ∀ c ∈ st.scanTuned ch, InRange c := by
  intro c hc
  unfold scanTuned at hc
  cases hnext : st.nextChannel ch with
  | none =>
    rw [hnext] at hc
    cases hc
  | some ch' =>
    rw [hnext] at hc
    dsimp only at hc
    split_ifs at hc
    · cases hc
    · rw [List.mem_singleton.mp hc]
      exact h.allowed ch' (List.find?_some hnext)

theorem startTuned_inRange (h : NetsOk AtRest Tunable InRange st) : ∀ c ∈ st.startTuned, InRange c := by
  have hmode : ∀ ch, InRange ch → ∀ c ∈ (if st.iwMode = .master then [ch, ch] else [ch]), InRange c := by
    intro ch hch c hc
    split_ifs at hc
    · simp only [List.mem_cons, List.not_mem_nil, or_false, or_self] at hc
      rw [hc]
      exact hch
    · rw [List.mem_singleton.mp hc]
      exact hch
  intro c hc
  unfold startTuned at hc
  by_cases hproto : st.protoStarted = true
  · rw [if_pos hproto] at hc
    cases hc
  · rw [if_neg hproto] at hc
    by_cases hzero : st.currentNetwork.channel = 0
    · rw [if_pos hzero] at hc
      cases hnext : st.nextChannel 0 with
      | none =>
        rw [hnext] at hc
        cases hc
      | some ch =>
        rw [hnext] at hc
        exact hmode ch (h.allowed ch (List.find?_some hnext)) c hc
    · rw [if_neg hzero] at hc
      exact hmode st.channel ((channel_rules (P := P)).nonzero h.current hzero) c hc

theorem cellTuned_inRange {r : Option Job × Station P} (h : Tunable r.2.current) :
    ∀ c ∈ cellTuned r, InRange c := by
  intro c hc
  unfold cellTuned at hc
  split_ifs at hc
  · rw [List.mem_singleton.mp hc]
    exact h
  · cases hc

theorem scanWqTuned_inRange (h : NetsOk AtRest Tunable InRange st) : ∀ c ∈ st.scanWqTuned, InRange c := by
  intro c hc
  unfold scanWqTuned at hc
  by_cases hscan : st.scanning = true
  · rw [if_neg (not_not.mpr hscan), h.watchdog] at hc
    dsimp only at hc
    split_ifs at hc
    · rw [List.mem_singleton.mp hc]
      exact h.found _
    · cases hc
  · rw [if_pos hscan] at hc
    cases hc

theorem advanceTuned_inRange (env : StationEnv) (h : NetsOk AtRest Tunable InRange st) {j : Job}
    (htunes : j.tunes = true → Tunable st.current) (hfits : j.fits) {syncChan : Option ℕ}
    (hsync : ∀ c ∈ syncChan, InRange c) : ∀ c ∈ advanceTuned env st syncChan j, InRange c := by
  have hcell : ∀ {r : Option Job × Station P}, NetsOk Tunable Tunable InRange r.2 →
      ∀ c ∈ cellTuned r, InRange c := fun hr => cellTuned_inRange hr.current
  have hrules : NetRules P Tunable Tunable InRange := channel_rules.strong
  cases j with
  | waiting w =>
    cases w with
    | associateProcedure =>
      intro c hc
      rw [List.mem_singleton.mp hc]
      exact htunes rfl
    | startIbss => exact hcell (enterIbss_nets hrules env (h.strong (htunes rfl)))
    | associateRetry => exact fun c hc => absurd hc List.not_mem_nil
    | softmacScan => exact fun c hc => absurd hc List.not_mem_nil
    | associateComplete => exact fun c hc => absurd hc List.not_mem_nil
    | wxSyncScan => exact fun c hc => absurd hc List.not_mem_nil
    | hwWakeup => exact fun c hc => absurd hc List.not_mem_nil
    | hwSleep => exact fun c hc => absurd hc List.not_mem_nil
  | ibssScan ch =>
    intro c hc
    rcases List.mem_append.mp hc with hc | hc
    · exact scanTuned_inRange h ch c hc
    · exact hcell (ibssTurn_nets hrules env ch (h.strong (htunes rfl))) c hc
  | syncScan ch =>
    intro c hc
    rcases List.mem_append.mp hc with hc | hc
    · exact scanTuned_inRange h ch c hc
    · split_ifs at hc
      · exact hsync c (Option.mem_toList.mp hc)
      · cases hc
  | userScan ch => exact scanTuned_inRange h ch
  | change c restart =>
    intro ch hch
    change ch ∈ (if restart then (st.applyChange c).startTuned else []) at hch
    split_ifs at hch
    · exact startTuned_inRange (applyChange_nets channel_rules h hfits) ch hch
    · cases hch
  | modulationStart => exact startTuned_inRange h
  | procedure => exact fun c hc => absurd hc List.not_mem_nil
  | retry => exact fun c hc => absurd hc List.not_mem_nil
  | ibssBeacons => exact fun c hc => absurd hc List.not_mem_nil
  | syncRestore => exact fun c hc => absurd hc List.not_mem_nil
  | modulationStop cck ofdm => exact fun c hc => absurd hc List.not_mem_nil

/-- Whatever a step of the station tunes to is in range. -/
theorem station_tuned_inRange (h : NetsOk AtRest Tunable InRange st) (hfits : ∀ j ∈ st.jobs, j.fits)
    {syncChan : Option ℕ} (hsync : ∀ c ∈ syncChan, InRange c) (e : Event P) :
    ∀ c ∈ st.tuned syncChan e, InRange c := by
  have hnone : ∀ c ∈ ([] : List ℕ), InRange c := fun c hc => absurd hc List.not_mem_nil
  cases e with
  | begin env w =>
    cases w with
    | softmacScan =>
      unfold tuned
      dsimp only
      split_ifs
      · exact scanWqTuned_inRange h
      · exact hnone
    | _ => exact hnone
  | goOn env i =>
    unfold tuned
    dsimp only
    cases hi : st.jobs[i]? with
    | none => exact hnone
    | some j =>
      have hmem : j ∈ st.jobs := List.mem_of_getElem? hi
      dsimp only
      split_ifs
      · exact advanceTuned_inRange env (h.erase_job i) (h.tunes_job hmem) (hfits j hmem) hsync
      · exact hnone
  | startProtocol =>
    unfold tuned
    dsimp only
    split_ifs
    · exact hnone
    · exact startTuned_inRange h
  | setFreq env chan =>
    unfold tuned
    dsimp only
    split_ifs with hrefused
    · exact hnone
    · intro c hc
      simp only [not_or, UInt8.not_lt, UInt8.le_iff_toNat_le] at hrefused
      rw [List.mem_singleton.mp hc]
      exact hrefused.2.2
  | _ => exact hnone

/-- What the scan on request keeps is in range. -/
theorem captured_inRange (h : NetsOk AtRest Tunable InRange st) (e : Event P) :
    ∀ c ∈ st.captured e, InRange c := by
  intro c hc
  cases e with
  | begin env w =>
    cases w with
    | wxSyncScan =>
      unfold captured at hc
      dsimp only at hc
      split_ifs at hc with hrun
      · cases hc
        unfold runnable at hrun
        rw [Bool.and_eq_true, decide_eq_true_eq] at hrun
        exact h.tunes_work hrun.1 rfl
      · cases hc
    | _ => cases hc
  | _ => cases hc

end

/-! ### Runs -/

/-- What leads to no other channel: a beacon that is accepted names a channel
in range, or leaves one on the stack; a plan has channels in range; the
interface goes down while nothing is about to tune to `current_network`, and
the rest of the driver leaves that alone. -/
def RadioCondition (s : Radio P) : RadioEvent P → Prop
  | .station (.rx env skb stats stack) => stats.freq = band24Ghz ∧
      ((networkInit env s.station.toDevice skb stats stack).isSome = true →
        InRange (heardChannel stack.channel (elements skb mgmtFrameFixedPartLength
          ((skb.len + 65536 - mgmtFrameFixedPartLength) % 65536))).toNat)
  | .station .down => ¬ s.station.Busy
  | .station (.other act) => (act.run s.station.toDevice).currentNetwork = s.station.currentNetwork ∧
      ((act.run s.station.toDevice).Busy → s.station.toDevice.Busy)
  | .setChannelplan val behind => ∀ c ∈ planOf behind val, InRange c
  | _ => True

namespace Radio

/-- What the runs keep. -/
structure Sound (s : Radio P) : Prop where
  nets : NetsOk AtRest Tunable InRange s.station
  checked : ∀ j ∈ s.station.jobs, j.fits
  chan : ∀ c ∈ s.chan, InRange c
  syncChan : ∀ c ∈ s.syncChan, InRange c

theorem sound_init (kernel : KernelConfig) (devAddr : Mac) {channelMap : ℕ → Bool}
    (hplan : PlanOk channelMap) : Sound (init P kernel devAddr channelMap) where
  nets := by
    refine ⟨⟨fun i hi => ?_, hplan.allowed, hplan.found, hplan.start, rfl⟩, Nat.zero_le _, ?_⟩
    · cases hi
    · rintro ((hproto | ⟨w, hw, -⟩) | hjobs)
      · cases hproto
      · cases hw
      · cases hjobs
  checked j hj := by cases hj
  chan c hc := by cases hc
  syncChan c hc := by cases hc

variable {s : Radio P}

theorem tuned_inRange_of_sound (h : Sound s) (e : RadioEvent P) : ∀ c ∈ s.tuned e, InRange c := by
  cases e with
  | station e => exact station_tuned_inRange h.nets h.checked h.syncChan e
  | up =>
    intro c hc
    simp only [tuned, List.mem_cons, List.not_mem_nil, or_false, or_self] at hc
    rw [hc]
    exact ⟨le_rfl, by decide⟩
  | linkChange => exact fun c hc => h.chan c (Option.mem_toList.mp hc)
  | txPw => exact fun c hc => h.chan c (Option.mem_toList.mp hc)
  | setChannelplan val behind => exact fun c hc => absurd hc List.not_mem_nil

/-- What the condition says of the networks. -/
theorem netCondition (h : Sound s) {e : Event P} (he : RadioCondition s (.station e)) :
    NetCondition AtRest Tunable s.station e := by
  cases e with
  | rx env skb stats stack =>
    intro net hnet
    have hin := he.2 (Option.isSome_iff_exists.mpr ⟨net, hnet⟩)
    rw [Tunable, networkInit_channel env _ skb stats he.1 stack hnet]
    exact hin
  | scanEssid essid =>
    have hchan : (s.station.scanEssid essid).current.channel = s.station.current.channel := by
      unfold scanEssid
      split_ifs <;> rfl
    rintro X (rfl | rfl) hX
    · rw [AtRest, hchan]
      exact hX
    · rw [Tunable, hchan]
      exact hX
  | down => exact ⟨Nat.zero_le _, fun hb => absurd hb he⟩
  | other act => exact ⟨he.1, fun hb => h.nets.live (Or.inl (he.2 hb))⟩
  | _ => trivial

theorem applyPlan_nets (h : NetsOk AtRest Tunable InRange s.station) {plan : List ℕ}
    (hplan : ∀ c ∈ plan, InRange c) : NetsOk AtRest Tunable InRange (applyPlan s.station plan) := by
  unfold applyPlan
  split_ifs with hnil
  · exact h
  · have hok : PlanOk fun c => decide (c ∈ plan) || (c == 0 && s.station.channelMap 0) := by
      refine ⟨fun c hc => ?_, ?_⟩
      · rw [Bool.or_eq_true, decide_eq_true_eq, Bool.and_eq_true, beq_iff_eq] at hc
        rcases hc with hc | ⟨rfl, hc⟩
        · exact hplan c hc
        · exact h.allowed 0 hc
      · obtain ⟨c, hc⟩ := List.exists_mem_of_ne_nil plan hnil
        exact ⟨c, by simp [hc]⟩
    exact ⟨⟨h.listed, hok.allowed, hok.found, hok.start, h.watchdog⟩, h.current, h.live⟩

theorem sound_step (h : Sound s) {e : RadioEvent P} (he : RadioCondition s e) : Sound (s.step e) where
  nets := by
    cases e with
    | station e => exact step_nets channel_rules h.nets h.checked (netCondition h he)
    | up => exact h.nets
    | linkChange => exact h.nets
    | txPw => exact h.nets
    | setChannelplan val behind => exact applyPlan_nets h.nets he
  checked := by
    cases e with
    | station e => exact fits_step h.checked e
    | setChannelplan val behind =>
      show ∀ j ∈ (applyPlan s.station (planOf behind val)).jobs, j.fits
      unfold applyPlan
      split_ifs <;> exact h.checked
    | _ => exact h.checked
  chan c hc := by
    rcases Option.or_eq_some_iff.mp hc with hlast | hc
    · exact tuned_inRange_of_sound h e c (List.mem_of_getLast? hlast)
    · exact h.chan c hc.2
  syncChan c hc := by
    cases e with
    | station e =>
      rcases Option.or_eq_some_iff.mp hc with hcap | hc
      · exact captured_inRange h.nets e c hcap
      · exact h.syncChan c hc.2
    | _ => exact h.syncChan c hc

/-- **The channels.** In every run in which the plans and the beacons name
channels in range, and the interface goes down only while nothing is about to
tune, the radio is tuned to channels in range only. -/
theorem tuned_inRange (kernel : KernelConfig) (devAddr : Mac) (channelMap : ℕ → Bool)
    (hplan : PlanOk channelMap) (es : List (RadioEvent P))
    (hes : Run.AllSteps step RadioCondition (init P kernel devAddr channelMap) es) :
    Run.AllSteps step (fun s e => ∀ c ∈ s.tuned e, InRange c) (init P kernel devAddr channelMap) es :=
  Run.allSteps_of_inv (fun _ e h he => ⟨sound_step h he, tuned_inRange_of_sound h e⟩) _ es
    (sound_init kernel devAddr hplan) hes

/-- A driver with all channels of plan 0. -/
def worldwide : Radio Unit := init Unit ⟨250, true⟩ ⟨2, 0, 0, 0, 0, 1⟩ (· ∈ planOf [] 0)

theorem worldwide_inRange : Run.AllSteps step (fun s e => ∀ c ∈ s.tuned e, InRange c) worldwide
    [.up, .setChannelplan 2 [], .station .startProtocol, .station (.goOn noMemory 0), .linkChange] :=
  tuned_inRange ⟨250, true⟩ ⟨2, 0, 0, 0, 0, 1⟩ (· ∈ planOf [] 0)
    ⟨fun c hc => by
      rw [decide_eq_true_eq] at hc
      revert c
      decide, 1, by decide⟩ _
    ⟨trivial, (by decide : ∀ c ∈ planOf [] 2, InRange c), trivial, trivial, trivial, trivial⟩

/-- Plan 6 goes on from channel 14 to channel 36, and a scan does too. -/
def scanOfPlan6 : List (RadioEvent Unit) :=
  [.up, .setChannelplan 6 [], .station .userScan, .station (.goOn noMemory 0), .station (.goOn noMemory 0)]

theorem worldwide_not_inRange : ¬ ∀ es : List (RadioEvent Unit),
    Run.AllSteps step (fun s e => ∀ c ∈ s.tuned e, InRange c) worldwide es := by
  intro h
  obtain ⟨-, -, -, -, hlast, -⟩ := h scanOfPlan6
  exact absurd (hlast 36 (by decide +kernel)) (by decide)

end Radio

end Rtl8187

/-
# What the steps do to the networks

A property of networks that the parser, the copies and the settings keep holds
of `current_network` and of every entry of the list in every state. The rules a
property needs are `NetRules`. There are two of them: `R` holds of what is
heard, and of `current_network` while something may tune the radio to it; the
weaker `Q` of `current_network` in any case.

Key definitions: `Closed`, `NetRules`, `TableOk`, `NetsOk`, `NetCondition`.
Key theorems: `advance_nets`, `step_nets`.
-/
import Rtl8187.Semaphore

namespace Rtl8187

open Bytes

variable {P : Type}

/-- The job ends by tuning the radio to the channel of `current_network`. -/
def Job.tunes : Job → Bool
  | .waiting w => w.tunes
  | .ibssScan _ => true
  | _ => false

/-- What the settings of SSIDs and rates keep, and does not depend on the rest. -/
structure Closed (Q : HeardNetwork → Prop) : Prop where
  congr : ∀ {net net' : HeardNetwork}, Q net → net'.channel = net.channel → net'.ssid = net.ssid →
    net'.ssidTail = net.ssidTail → net'.rates = net.rates → net'.ratesEx = net.ratesEx →
    net'.wpaIe = net.wpaIe → net'.rsnIe = net.rsnIe → Q net'
  ssid : ∀ {net : HeardNetwork} (essid buf : List UInt8) (len : ℕ), essid.length ≤ iwEssidMaxSize →
    len ≤ iwEssidMaxSize → buf.length = net.ssidBuf.length → Q net →
    Q (net.setSsid (essid ++ buf.drop essid.length) len)
  rates : ∀ {net : HeardNetwork} (rates ratesEx : List UInt8), rates.length ≤ maxRatesLength →
    ratesEx.length ≤ maxRatesExLength → Q net → Q { net with rates := rates, ratesEx := ratesEx }

/-- The rules two properties of networks obey; `Chan` is what holds of a channel
the station picks. -/
structure NetRules (P : Type) (Q R : HeardNetwork → Prop) (Chan : ℕ → Prop) : Prop where
  closed : Closed Q
  closedR : Closed R
  weaken : ∀ {net}, R net → Q net
  nonzero : ∀ {net}, Q net → net.channel ≠ 0 → R net
  tune : ∀ {net : HeardNetwork} {c : ℕ}, Chan c → Q net → R { net with channel := UInt8.ofNat c }
  freq : ∀ c, 1 ≤ c → c ≤ 14 → Chan c
  adopt : ∀ (st : Station P) {net}, Q st.current → R net → R (st.adopt net)
  update : ∀ (env : Env) {dst src}, Q dst → R src → Q (updateNetwork env dst src)
  updateR : ∀ (env : Env) {dst src}, R dst → R src → R (updateNetwork env dst src)

/-- The stronger property obeys the rules alone. -/
theorem NetRules.strong {Q R : HeardNetwork → Prop} {Chan : ℕ → Prop} (hr : NetRules P Q R Chan) :
    NetRules P R R Chan where
  closed := hr.closedR
  closedR := hr.closedR
  weaken := id
  nonzero h _ := h
  tune hc h := hr.tune hc (hr.weaken h)
  freq := hr.freq
  adopt st _ h := hr.adopt st (hr.weaken h)
  update env _ _ := hr.updateR env
  updateR env _ _ := hr.updateR env

namespace Station

/-- The protocol runs, or something is pending that tunes to `current_network`. -/
def Busy (st : Station P) : Prop := st.toDevice.Busy ∨ st.jobs.any Job.tunes = true

/-- The list of networks and the channel plan. -/
structure TableOk (Q R : HeardNetwork → Prop) (Chan : ℕ → Prop) (st : Station P) : Prop where
  listed : ∀ i ∈ st.networkList, R (st.networks i)
  allowed : ∀ c, st.channelMap c = true → Chan c
  found : ∀ c, Chan (scanAdvance st.channelMap (maxChannelNumber + 1) c).1
  start : st.nextChannel 0 = none → ∀ net, Q net → R net
  watchdog : st.scanWatchdog = 0

structure NetsOk (Q R : HeardNetwork → Prop) (Chan : ℕ → Prop) (st : Station P) : Prop
    extends TableOk Q R Chan st where
  current : Q st.current
  live : st.Busy → R st.current

section

variable {Q R : HeardNetwork → Prop} {Chan : ℕ → Prop} {st st' : Station P}

theorem TableOk.of_eq (h : TableOk Q R Chan st) (hn : st'.networks = st.networks)
    (hl : st'.networkList = st.networkList) (hm : st'.channelMap = st.channelMap)
    (hw : st'.scanWatchdog = st.scanWatchdog) : TableOk Q R Chan st' := by
  have hnext : st'.nextChannel 0 = st.nextChannel 0 := by rw [nextChannel, nextChannel, hm]
  constructor
  · rw [hn, hl]
    exact h.listed
  · rw [hm]
    exact h.allowed
  · rw [hm]
    exact h.found
  · rw [hnext]
    exact h.start
  · rw [hw]
    exact h.watchdog

/-- A step that leaves the networks alone and makes nothing busy. -/
theorem NetsOk.of_eq (h : NetsOk Q R Chan st) (htable : TableOk Q R Chan st')
    (hc : st'.current = st.current) (hb : st'.Busy → st.Busy) : NetsOk Q R Chan st' := by
  refine ⟨htable, ?_, ?_⟩
  · rw [hc]
    exact h.current
  · rw [hc]
    exact fun hbusy => h.live (hb hbusy)

/-- A step of the device. -/
theorem NetsOk.mapDev {f : Device P → Device P} (h : NetsOk Q R Chan st)
    (hf : DevFrame (f st.toDevice) st.toDevice) : NetsOk Q R Chan (st.mapDev f) := by
  refine h.of_eq (h.toTableOk.of_eq rfl rfl rfl rfl) ?_ (Or.imp_left hf.busy)
  unfold Station.current
  rw [mapDev_toDevice, hf.network]
  rfl

variable (hr : NetRules P Q R Chan)

include hr

/-- A step after which `current_network` is fit to be tuned to. -/
theorem NetsOk.of_current (htable : TableOk Q R Chan st') (hc : R st'.current) :
    NetsOk Q R Chan st' := ⟨htable, hr.weaken hc, fun _ => hc⟩

/-- A step that keeps `Q` and `R` of `current_network`, and makes nothing busy. -/
theorem NetsOk.of_closed (h : NetsOk Q R Chan st) (htable : TableOk Q R Chan st')
    (hc : ∀ {X : HeardNetwork → Prop}, Closed X → X st.current → X st'.current)
    (hb : st'.Busy → st.Busy) : NetsOk Q R Chan st' :=
  ⟨htable, hc hr.closed h.current, fun hbusy => hc hr.closedR (h.live (hb hbusy))⟩

end

/-! ### Joining -/

section

variable {Q R : HeardNetwork → Prop} {Chan : ℕ → Prop} {st : Station P} (hr : NetRules P Q R Chan)

include hr

theorem joinNet_nets (h : NetsOk Q R Chan st) {net : HeardNetwork} (hnet : R net) :
    NetsOk Q R Chan (st.joinNet net) := by
  have hadopt := hr.adopt st h.current hnet
  unfold joinNet
  extract_lets st₁
  have hst₁ : TableOk Q R Chan st₁ := h.toTableOk.of_eq rfl rfl rfl rfl
  split_ifs
  · refine NetsOk.of_current hr (hst₁.of_eq rfl rfl rfl rfl) ?_
    unfold Station.current mapDev Device.queueWork
    dsimp only
    split_ifs <;> exact hadopt
  · exact NetsOk.of_current hr (hst₁.of_eq rfl rfl rfl rfl) hadopt

theorem newNet_nets (h : NetsOk Q R Chan st) {net : HeardNetwork} (hnet : R net) :
    NetsOk Q R Chan (st.newNet net) := by
  unfold newNet
  split_ifs
  · exact h
  · exact joinNet_nets hr h hnet
  · exact h
  · exact h

theorem foldl_tryNet_nets : ∀ (l : List HeardNetwork) (st : Station P), (∀ net ∈ l, R net) →
    NetsOk Q R Chan st → NetsOk Q R Chan (l.foldl tryNet st)
  | [], _, _, h => h
  | net :: l, st, hl, h => by
    have htry : NetsOk Q R Chan (st.tryNet net) := by
      unfold tryNet
      split_ifs
      · exact h
      · exact newNet_nets hr h (hl net List.mem_cons_self)
    exact foldl_tryNet_nets l _ (fun n hn => hl n (List.mem_cons_of_mem _ hn)) htry

theorem checkAllNets_nets (h : NetsOk Q R Chan st) : NetsOk Q R Chan st.checkAllNets := by
  apply foldl_tryNet_nets hr _ _ _ h
  intro net hnet
  obtain ⟨i, hi, rfl⟩ := List.mem_map.mp hnet
  exact h.listed i hi

/-! ### The survey -/

theorem surveyCurrent_nets (env : Env) (beacon : Bool) (h : NetsOk Q R Chan st) {net : HeardNetwork}
    (hnet : R net) : R (surveyCurrent env st beacon net).1 ∧
      NetsOk Q R Chan (surveyCurrent env st beacon net).2 := by
  unfold surveyCurrent
  split_ifs
  · exact ⟨hnet, h.toTableOk.of_eq rfl rfl rfl rfl, hr.update env h.current hnet,
      fun hb => hr.updateR env (h.live hb) hnet⟩
  · exact ⟨hnet, h⟩
  · exact ⟨hr.closedR.congr hnet rfl rfl rfl rfl rfl rfl rfl, h⟩
  · exact ⟨hnet, h⟩

omit hr in
/-- A slot is taken: the list loses an entry at most. -/
theorem networkSlot_nets (h : NetsOk Q R Chan st) {i : Fin maxNetworkCount} {st' : Station P}
    (hslot : st.networkSlot = some (i, st')) : NetsOk Q R Chan st' := by
  unfold networkSlot at hslot
  split at hslot
  · cases hslot
    exact ⟨h.toTableOk.of_eq rfl rfl rfl rfl, h.current, h.live⟩
  · obtain ⟨j, -, hj⟩ := Option.map_eq_some_iff.mp hslot
    cases hj
    exact ⟨⟨fun k hk => h.listed k (List.mem_of_mem_erase hk), h.allowed, h.found, h.start, h.watchdog⟩,
      h.current, h.live⟩

omit hr in
/-- A slot is filled, and may be listed. -/
theorem setNetwork_nets (h : NetsOk Q R Chan st) (i : Fin maxNetworkCount) {net : HeardNetwork}
    (hnet : R net) (l : List (Fin maxNetworkCount)) (hl : ∀ j ∈ l, j ∈ st.networkList ∨ j = i) :
    NetsOk Q R Chan { st.setNetwork i net with networkList := l } := by
  refine ⟨⟨fun j hj => ?_, h.allowed, h.found, h.start, h.watchdog⟩, h.current, h.live⟩
  show R (Function.update st.networks i net j)
  by_cases hji : j = i
  · rw [hji, Function.update_self]
    exact hnet
  · rw [Function.update_of_ne hji]
    exact h.listed j ((hl j hj).resolve_right hji)

theorem surveyNetwork_nets (env : Env) (beacon : Bool) (h : NetsOk Q R Chan st) {net : HeardNetwork}
    (hnet : R net) : (∀ n ∈ (surveyNetwork env st beacon net).1, R n) ∧
      NetsOk Q R Chan (surveyNetwork env st beacon net).2 := by
  obtain ⟨hnet', hst⟩ := surveyCurrent_nets hr env beacon h hnet
  unfold surveyNetwork
  generalize surveyCurrent env st beacon net = p at hnet' hst
  obtain ⟨net', st₁⟩ := p
  dsimp only at hnet' hst ⊢
  cases hfind : st₁.networkList.find? (fun i => isSameNetwork st₁.toDevice (st₁.networks i) net') with
  | none =>
    dsimp only
    cases hslot : st₁.networkSlot with
    | none =>
      refine ⟨?_, hst⟩
      rintro n ⟨⟩
    | some q =>
      obtain ⟨i, st₂⟩ := q
      have hst₂ := networkSlot_nets hst hslot
      dsimp only
      constructor
      · intro n hn
        split_ifs at hn
        · cases hn
          exact hnet'
        · cases hn
      · apply setNetwork_nets hst₂ i hnet'
        intro j hj
        exact (List.mem_append.mp hj).imp_right List.mem_singleton.mp
  | some i =>
    dsimp only
    have hi : i ∈ st₁.networkList := List.mem_of_find?_eq_some hfind
    have hheard : R (if ¬ beacon = true then { net' with emptyEssid := (st₁.networks i).emptyEssid }
        else net') := by
      split_ifs
      · exact hnet'
      · exact hr.closedR.congr hnet' rfl rfl rfl rfl rfl rfl rfl
    generalize (if ¬ beacon = true then _ else net') = net'' at hheard ⊢
    constructor
    · intro n hn
      split_ifs at hn
      · cases hn
        exact hheard
      · cases hn
    · exact setNetwork_nets hst i (hr.updateR env (hst.listed i hi) hheard) _ fun j hj => Or.inl hj

theorem processProbeResponse_nets (env : Env) {skb : SkBuff} {stats : RxStats} {stack : HeardNetwork}
    (hheard : ∀ net ∈ networkInit env st.toDevice skb stats stack, R net) (h : NetsOk Q R Chan st) :
    NetsOk Q R Chan (processProbeResponse env st skb stats stack) := by
  unfold processProbeResponse
  cases hinit : networkInit env st.toDevice skb stats stack with
  | none => exact h
  | some net =>
    obtain ⟨hnew, hst⟩ := surveyNetwork_nets hr env (isBeacon skb) h (hheard net hinit)
    show NetsOk Q R Chan ((surveyNetwork env st (isBeacon skb) net).2.announce
      (surveyNetwork env st (isBeacon skb) net).1)
    cases hsome : (surveyNetwork env st (isBeacon skb) net).1 with
    | none => exact hst
    | some net' => exact newNet_nets hr hst (hnew net' hsome)

theorem rxFrameMgmt_nets (env : Env) {skb : SkBuff} {stats : RxStats} {stack : HeardNetwork}
    (hheard : ∀ net ∈ networkInit env st.toDevice skb stats stack, R net) (h : NetsOk Q R Chan st) :
    NetsOk Q R Chan (rxFrameMgmt env st skb stats stack) := by
  have hmgt : NetsOk Q R Chan (rxMgt env st skb stats stack) := by
    unfold rxMgt
    split_ifs
    · exact processProbeResponse_nets hr env hheard h
    · exact h
  unfold rxFrameMgmt
  extract_lets st₁
  split_ifs
  · exact hmgt
  · exact hmgt.mapDev (rxFrameSoftmac_frame env _ skb)

end

/-! ### Works, scans and beacons -/

section

variable {Q R : HeardNetwork → Prop} {Chan : ℕ → Prop} {st : Station P}

theorem queueDelayed_nets (h : NetsOk Q R Chan st) {w : Work} (hw : w.tunes = false) :
    NetsOk Q R Chan (st.queueDelayed w) := h.mapDev (queueWork_quiet _ hw)

theorem cancelDelayed_nets (h : NetsOk Q R Chan st) {w : Work} (hw : w ≠ .wxSyncScan) :
    NetsOk Q R Chan (st.cancelDelayed w) := by
  unfold cancelDelayed
  split_ifs
  · exact h
  · exact h.mapDev (dropWork_tame _ hw).toDevFrame

theorem takeWork_nets (h : NetsOk Q R Chan st) (w : Work) : NetsOk Q R Chan (st.takeWork w) := by
  refine h.of_eq (h.toTableOk.of_eq rfl rfl rfl rfl) rfl (Or.imp_left ?_)
  exact Or.imp_right fun ⟨w', hw', ht⟩ => ⟨w', List.mem_of_mem_filter hw', ht⟩

theorem sendProbeRequests_nets (env : Env) (h : NetsOk Q R Chan st) :
    NetsOk Q R Chan (sendProbeRequests env st) := by
  unfold sendProbeRequests
  split_ifs
  · exact (h.mapDev (probe_tame env _).toDevFrame).mapDev (probe_tame env _).toDevFrame
  · exact h

theorem scanTurn_nets (env : Env) (ch : ℕ) (h : NetsOk Q R Chan st) :
    NetsOk Q R Chan (scanTurn env st ch).2 := by
  have hprobe := sendProbeRequests_nets env h
  unfold scanTurn
  split
  · exact h.of_eq (h.toTableOk.of_eq rfl rfl rfl rfl) rfl id
  · dsimp only
    split_ifs
    · exact h.of_eq (h.toTableOk.of_eq rfl rfl rfl rfl) rfl id
    · exact hprobe.of_eq (hprobe.toTableOk.of_eq rfl rfl rfl rfl) rfl id
    · exact hprobe

theorem stopScan_nets (h : NetsOk Q R Chan st) : NetsOk Q R Chan st.stopScan := by
  have hcancel := cancelDelayed_nets h (by simp : Work.softmacScan ≠ .wxSyncScan)
  unfold stopScan
  split_ifs
  · refine hcancel.of_eq ?_ rfl id
    exact ⟨hcancel.listed, hcancel.allowed, hcancel.found, hcancel.start, rfl⟩
  · exact h

theorem startScan_nets (h : NetsOk Q R Chan st) : NetsOk Q R Chan st.startScan := by
  have hscanning : NetsOk Q R Chan { st with scanning := true } :=
    h.of_eq (h.toTableOk.of_eq rfl rfl rfl rfl) rfl id
  have hqueue : NetsOk Q R Chan ({ st with scanning := true }.queueDelayed .softmacScan) :=
    queueDelayed_nets hscanning rfl
  unfold startScan queueNow
  split_ifs
  · exact h
  · exact hscanning
  · exact hqueue.of_eq (hqueue.toTableOk.of_eq rfl rfl rfl rfl) rfl id

theorem sendBeacon_nets (env : Env) (h : NetsOk Q R Chan st) : NetsOk Q R Chan (sendBeacon env st) := by
  have hsend : NetsOk Q R Chan (st.mapDev fun d => xmitReply env d (getBeacon env.skbAlloc d)) :=
    h.mapDev (beacon_tame env _).toDevFrame
  unfold sendBeacon
  dsimp only
  split_ifs
  · exact hsend.of_eq (hsend.toTableOk.of_eq rfl rfl rfl rfl) rfl id
  · exact hsend

theorem startSendBeacons_nets (env : Env) (h : NetsOk Q R Chan st) :
    NetsOk Q R Chan (startSendBeacons env st) := by
  have htxing : NetsOk Q R Chan { st with beaconTxing := true } :=
    h.of_eq (h.toTableOk.of_eq rfl rfl rfl rfl) rfl id
  exact sendBeacon_nets env htxing

theorem stopSendBeacons_nets (h : NetsOk Q R Chan st) : NetsOk Q R Chan st.stopSendBeacons :=
  h.of_eq (h.toTableOk.of_eq rfl rfl rfl rfl) rfl id

theorem disassociate_nets (h : NetsOk Q R Chan st) : NetsOk Q R Chan st.disassociate := by
  have hdis : DevFrame (Rtl8187.disassociate st.toDevice) st.toDevice := by
    unfold Rtl8187.disassociate
    split_ifs <;> exact ⟨rfl, rfl, rfl, rfl, id⟩
  have hst := h.mapDev hdis
  exact hst.of_eq (hst.toTableOk.of_eq rfl rfl rfl rfl) rfl id

theorem stopTimers_nets (h : NetsOk Q R Chan st) : NetsOk Q R Chan st.stopTimers := by
  have hproto : NetsOk Q R Chan (st.mapDev fun d => { d with protoStarted := false }) := by
    refine h.mapDev ⟨rfl, rfl, rfl, rfl, Or.imp_left ?_⟩
    rintro ⟨⟩
  have hdel := (stopSendBeacons_nets hproto).mapDev (f := (·.delAssociateTimer)) ⟨rfl, rfl, rfl, rfl, id⟩
  exact cancelDelayed_nets (cancelDelayed_nets hdel (by simp)) (by simp)

variable (hr : NetRules P Q R Chan)

include hr

theorem softmacScanWq_nets (env : Env) (h : NetsOk Q R Chan st) :
    NetsOk Q R Chan (softmacScanWq env st) := by
  unfold softmacScanWq
  split_ifs with hscan
  · extract_lets next st₁ st₂
    have hnext : Chan next.1 := by
      unfold next
      rw [h.watchdog]
      exact h.found _
    have hst₁ : NetsOk Q R Chan st₁ :=
      NetsOk.of_current hr (h.toTableOk.of_eq rfl rfl rfl rfl) (hr.tune hnext h.current)
    have hst₂ : NetsOk Q R Chan st₂ := by
      unfold st₂
      split_ifs
      · exact queueDelayed_nets (sendProbeRequests_nets env hst₁) rfl
      · exact hst₁
    refine hst₂.of_eq ?_ rfl id
    exact ⟨hst₂.listed, hst₂.allowed, hst₂.found, hst₂.start, rfl⟩
  · refine h.of_eq ?_ rfl id
    exact ⟨h.listed, h.allowed, h.found, h.start, rfl⟩

/-! ### The protocol -/

theorem stopLink_nets (h : NetsOk Q R Chan st) : NetsOk Q R Chan st.stopLink := by
  have hdis := disassociate_nets (stopScan_nets h)
  refine hdis.of_closed hr (hdis.toTableOk.of_eq rfl rfl rfl rfl) (fun hX hcur => ?_) id
  exact hX.congr hcur rfl rfl rfl rfl rfl rfl rfl

theorem stopProtocol_nets (h : NetsOk Q R Chan st) : NetsOk Q R Chan st.stopProtocol := by
  unfold stopProtocol
  split_ifs
  · exact stopLink_nets hr (stopTimers_nets h)
  · exact h

theorem defaultSsid_nets (h : NetsOk Q R Chan st) {essid : List UInt8}
    (hlen : essid.length ≤ iwEssidMaxSize) : NetsOk Q R Chan (st.defaultSsid essid) := by
  unfold defaultSsid
  split_ifs
  · refine h.of_closed hr (h.toTableOk.of_eq rfl rfl rfl rfl) (fun hX hcur => ?_) id
    exact hX.ssid essid st.current.ssidBuf _ hlen (by decide) rfl hcur
  · exact h

theorem startBss_nets (h : NetsOk Q R Chan st) : NetsOk Q R Chan st.startBss := by
  have hnets := checkAllNets_nets hr h
  unfold startBss
  dsimp only
  split_ifs
  · exact startScan_nets hnets
  · exact hnets

theorem startMasterBss_nets (h : NetsOk Q R Chan st) : NetsOk Q R Chan st.startMasterBss := by
  have hid : NetsOk Q R Chan (st.mapDev fun d => { d with assocId := 1 }) :=
    h.mapDev ⟨rfl, rfl, rfl, rfl, id⟩
  have hssid := defaultSsid_nets hr hid
    (by decide : (strncpy defaultTxEssid iwEssidMaxSize).length ≤ iwEssidMaxSize)
  refine hssid.of_closed hr (hssid.toTableOk.of_eq rfl rfl rfl rfl) (fun hX hcur => ?_) id
  exact hX.congr hcur rfl rfl rfl rfl rfl rfl rfl

theorem startMode_nets (h : NetsOk Q R Chan st) (hproto : st.protoStarted = true) :
    NetsOk Q R Chan st.startMode := by
  have hlive := h.live (Or.inl (Or.inl hproto))
  unfold startMode
  extract_lets st₁
  have hst₁ : NetsOk Q R Chan st₁ := by
    refine NetsOk.of_current hr (h.toTableOk.of_eq rfl rfl rfl rfl) ?_
    exact hr.closedR.congr hlive rfl rfl rfl rfl rfl rfl rfl
  cases st₁.iwMode with
  | infra => exact startBss_nets hr hst₁
  | adhoc => exact hst₁.mapDev (queueWork_frame _ (by simp) fun _ => hproto)
  | master => exact startMasterBss_nets hr hst₁
  | auto => exact hst₁
  | repeater => exact hst₁
  | second => exact hst₁
  | monitor => exact hst₁

theorem startProtocol_nets (h : NetsOk Q R Chan st) : NetsOk Q R Chan st.startProtocol := by
  unfold startProtocol
  split_ifs with hproto
  · exact h
  · extract_lets st₁
    have htable : TableOk Q R Chan st₁ := h.toTableOk.of_eq rfl rfl rfl rfl
    split_ifs with hzero
    · cases hnext : st₁.nextChannel 0 with
      | none => exact NetsOk.of_current hr htable (h.start hnext _ h.current)
      | some ch =>
        have hch : Chan ch := h.allowed ch (List.find?_some hnext)
        refine startMode_nets hr (NetsOk.of_current hr (htable.of_eq rfl rfl rfl rfl) ?_) rfl
        exact hr.tune hch h.current
    · exact startMode_nets hr (NetsOk.of_current hr htable (hr.nonzero h.current hzero)) rfl

/-! ### Settings -/

theorem applyChange_nets (h : NetsOk Q R Chan st) {c : Change} (hc : c.fits) :
    NetsOk Q R Chan (st.applyChange c) := by
  cases c with
  | essid flags extra =>
    have hextra : extra.length ≤ iwEssidMaxSize := hc
    unfold applyChange
    dsimp only
    split_ifs
    · have hbuf : (List.replicate st.current.ssid.length (0 : UInt8) ++ st.current.ssidTail).length =
          st.current.ssidBuf.length := by
        simp [HeardNetwork.ssidBuf]
      have hlen : (strncpy extra extra.length).length = extra.length := by
        simp [strncpy]
      refine h.of_closed hr (h.toTableOk.of_eq rfl rfl rfl rfl) (fun hX hcur => ?_) id
      have hset := hX.ssid (strncpy extra extra.length) _ extra.length (hlen.trans_le hextra) hextra
        hbuf hcur
      rw [hlen] at hset
      exact hset
    · refine h.of_closed hr (h.toTableOk.of_eq rfl rfl rfl rfl) (fun hX hcur => ?_) id
      have hset := hX.ssid [0] st.current.ssidBuf 0 (by decide) (by decide) rfl hcur
      rw [List.length_singleton, List.drop_one, List.singleton_append] at hset
      exact hset
  | wap addr =>
    refine h.of_closed hr (h.toTableOk.of_eq rfl rfl rfl rfl) (fun hX hcur => ?_) id
    exact hX.congr hcur rfl rfl rfl rfl rfl rfl rfl
  | mode m => exact h.of_eq (h.toTableOk.of_eq rfl rfl rfl rfl) rfl id

theorem ibssLink_nets (env : StationEnv) (h : NetsOk Q R Chan st) : NetsOk Q R Chan (ibssLink env st) := by
  have hcell : NetsOk Q R Chan (createCell env st) := by
    refine h.of_closed hr (h.toTableOk.of_eq rfl rfl rfl rfl) (fun hX hcur => ?_) id
    have hrates := hX.rates (if st.cckModulation then [0x82, 0x84, 0x8B, 0x96] else [])
      (if st.ofdmModulation then [0x8C, 0x92, 0x98, 0xA4, 0xB0, 0xC8, 0xE0, 0xEC] else [])
      (by split_ifs <;> decide) (by split_ifs <;> decide) hcur
    exact hX.congr hrates rfl rfl rfl rfl rfl rfl rfl
  unfold ibssLink
  split_ifs
  · exact hcell.mapDev ⟨rfl, rfl, rfl, rfl, id⟩
  · exact h.mapDev ⟨rfl, rfl, rfl, rfl, id⟩

/-! ### Jobs -/

omit hr in
/-- Jobs are added. -/
theorem NetsOk.add_jobs (h : NetsOk Q R Chan st) (l : List Job)
    (hl : l.any Job.tunes = true → R st.current) : NetsOk Q R Chan { st with jobs := st.jobs ++ l } := by
  refine ⟨h.toTableOk.of_eq rfl rfl rfl rfl, h.current, ?_⟩
  rintro (hd | hj)
  · exact h.live (Or.inl hd)
  · dsimp only at hj
    rw [List.any_append, Bool.or_eq_true] at hj
    exact hj.elim (fun hj => h.live (Or.inr hj)) hl

omit hr in
/-- A job is taken out. -/
theorem NetsOk.erase_job (h : NetsOk Q R Chan st) (i : ℕ) :
    NetsOk Q R Chan { st with jobs := st.jobs.eraseIdx i } := by
  refine h.of_eq (h.toTableOk.of_eq rfl rfl rfl rfl) rfl (Or.imp_right fun ht => ?_)
  obtain ⟨k, hk, htk⟩ := List.any_eq_true.mp ht
  exact List.any_eq_true.mpr ⟨k, List.mem_of_mem_eraseIdx hk, htk⟩

omit hr in
/-- While a job that tunes is there, `current_network` is fit for it. -/
theorem NetsOk.tunes_job (h : NetsOk Q R Chan st) {j : Job} (hj : j ∈ st.jobs) (ht : j.tunes = true) :
    R st.current := h.live (Or.inr (List.any_eq_true.mpr ⟨j, hj, ht⟩))

omit hr in
/-- So it is while a work that tunes is pending. -/
theorem NetsOk.tunes_work (h : NetsOk Q R Chan st) {w : Work} (hw : w ∈ st.works) (ht : w.tunes = true) :
    R st.current := h.live (Or.inl (Or.inr ⟨w, hw, ht⟩))

/-- What a job that goes on leaves, with where it waits next. -/
def Leaves (Q R : HeardNetwork → Prop) (Chan : ℕ → Prop) (r : Option Job × Station P) : Prop :=
  NetsOk Q R Chan r.2 ∧ (r.1.any Job.tunes = true → R r.2.current)

omit hr in
/-- A job that is over, or is not one that tunes. -/
theorem NetsOk.leaves {j : Option Job} (h : NetsOk Q R Chan st) (hj : j.any Job.tunes = false) :
    Leaves Q R Chan (j, st) := by
  refine ⟨h, fun ht => ?_⟩
  rw [hj] at ht
  cases ht

omit hr in
theorem NetsOk.set_wxSem (h : NetsOk Q R Chan st) (b : Bool) : NetsOk Q R Chan { st with wxSem := b } :=
  h.of_eq (h.toTableOk.of_eq rfl rfl rfl rfl) rfl id

omit hr in
theorem NetsOk.strong (h : NetsOk Q R Chan st) (hc : R st.current) : NetsOk R R Chan st :=
  ⟨⟨h.listed, h.allowed, h.found, fun _ _ => id, h.watchdog⟩, hc, fun _ => hc⟩

omit hr in
theorem enterProcedure_nets (h : NetsOk Q R Chan st) : Leaves Q R Chan st.enterProcedure :=
  (stopScan_nets (h.set_wxSem true)).leaves rfl

omit hr in
theorem leaveProcedure_nets (env : Env) (h : NetsOk Q R Chan st) :
    Leaves Q R Chan (leaveProcedure env st) := by
  have hseq : DevTame { st.toDevice with associateSeq := 1 } st.toDevice :=
    DevFrame.tame ⟨rfl, rfl, rfl, rfl, id⟩ rfl
  have hstep : NetsOk Q R Chan (st.mapDev fun d => associateStep1 env { d with associateSeq := 1 }) :=
    h.mapDev ((associateStep1_tame env _).trans hseq).toDevFrame
  exact (hstep.set_wxSem false).leaves rfl

omit hr in
theorem enterRetry_nets (h : NetsOk Q R Chan st) : Leaves Q R Chan st.enterRetry := by
  have hidle : NetsOk Q R Chan (st.mapDev fun d => { d with state := .nolink }) :=
    h.mapDev ⟨rfl, rfl, rfl, rfl, id⟩
  unfold enterRetry
  split_ifs
  · exact (hidle.set_wxSem true).leaves rfl
  · exact h.leaves rfl

theorem leaveRetry_nets (h : NetsOk Q R Chan st) : Leaves Q R Chan st.leaveRetry := by
  have hnets := checkAllNets_nets hr h
  unfold leaveRetry
  dsimp only
  split_ifs
  · exact ((startScan_nets hnets).set_wxSem false).leaves rfl
  · exact (hnets.set_wxSem false).leaves rfl

theorem enterIbss_nets (env : StationEnv) (h : NetsOk Q R Chan st) :
    NetsOk Q R Chan (enterIbss env st).2 := by
  have hssid := defaultSsid_nets hr (h.set_wxSem true)
    (by decide : (defaultTxEssid ++ [0]).length ≤ iwEssidMaxSize)
  have hnets := checkAllNets_nets hr hssid
  unfold enterIbss
  dsimp only
  split_ifs
  · exact hnets.of_eq (hnets.toTableOk.of_eq rfl rfl rfl rfl) rfl id
  · exact ibssLink_nets hr env hnets

theorem ibssTurn_nets (env : StationEnv) (ch : ℕ) (h : NetsOk Q R Chan st) :
    NetsOk Q R Chan (ibssTurn env st ch).2 := by
  have hturn := scanTurn_nets env.toEnv ch h
  unfold ibssTurn
  generalize scanTurn env.toEnv st ch = r at hturn
  obtain ⟨ch', st'⟩ := r
  cases ch' with
  | some ch' => exact hturn
  | none => exact ibssLink_nets hr env hturn

omit hr in
theorem leaveIbss_nets (env : Env) (h : NetsOk Q R Chan st) : Leaves Q R Chan (leaveIbss env st) :=
  ((startSendBeacons_nets env h).set_wxSem false).leaves rfl

omit hr in
theorem syncTurn_nets (env : Env) (ch : ℕ) (h : NetsOk Q R Chan st) :
    Leaves Q R Chan (syncTurn env st ch) := by
  have hturn := scanTurn_nets env ch h
  unfold syncTurn
  generalize scanTurn env st ch = r at hturn
  obtain ⟨ch', st'⟩ := r
  cases ch' <;> exact hturn.leaves rfl

omit hr in
theorem leaveSync_nets (env : Env) (h : NetsOk Q R Chan st) : Leaves Q R Chan (leaveSync env st) := by
  have hlinked : NetsOk Q R Chan (st.mapDev fun d => { d with state := .linked }) :=
    h.mapDev ⟨rfl, rfl, rfl, rfl, id⟩
  unfold leaveSync
  dsimp only
  split_ifs
  · exact ((startSendBeacons_nets env hlinked).set_wxSem false).leaves rfl
  · exact (hlinked.set_wxSem false).leaves rfl

omit hr in
theorem userTurn_nets (env : Env) (ch : ℕ) (h : NetsOk Q R Chan st) :
    Leaves Q R Chan (userTurn env st ch) := by
  refine (scanTurn_nets env ch h).leaves ?_
  cases (scanTurn env st ch).1 <;> rfl

theorem leaveChange_nets (h : NetsOk Q R Chan st) {c : Change} (hc : c.fits) (restart : Bool) :
    Leaves Q R Chan (leaveChange st c restart) := by
  have happly := applyChange_nets hr h hc
  have hstart : NetsOk Q R Chan
      (if restart then (st.applyChange c).startProtocol else st.applyChange c) := by
    split_ifs
    · exact startProtocol_nets hr happly
    · exact happly
  exact (hstart.set_wxSem false).leaves rfl

theorem stopModulation_nets (h : NetsOk Q R Chan st) (cck ofdm : Bool) :
    Leaves Q R Chan (stopModulation st cck ofdm) :=
  ((stopLink_nets hr h).mapDev ⟨rfl, rfl, rfl, rfl, id⟩).leaves rfl

/-- A job goes on; one that tunes does so while `current_network` is fit for it. -/
theorem advance_nets (env : StationEnv) (h : NetsOk Q R Chan st) {j : Job}
    (htunes : j.tunes = true → R st.current) (hfits : j.fits) : Leaves Q R Chan (advance env st j) := by
  cases j with
  | waiting w =>
    cases w with
    | associateProcedure => exact enterProcedure_nets h
    | associateRetry => exact enterRetry_nets h
    | startIbss =>
      exact ⟨enterIbss_nets hr env h, fun _ => (enterIbss_nets hr.strong env (h.strong (htunes rfl))).current⟩
    | softmacScan => exact h.leaves rfl
    | associateComplete => exact h.leaves rfl
    | wxSyncScan => exact h.leaves rfl
    | hwWakeup => exact h.leaves rfl
    | hwSleep => exact h.leaves rfl
  | procedure => exact leaveProcedure_nets env.toEnv h
  | retry => exact leaveRetry_nets hr h
  | ibssScan ch =>
    exact ⟨ibssTurn_nets hr env ch h, fun _ => (ibssTurn_nets hr.strong env ch (h.strong (htunes rfl))).current⟩
  | ibssBeacons => exact leaveIbss_nets env.toEnv h
  | syncScan ch => exact syncTurn_nets env.toEnv ch h
  | syncRestore => exact leaveSync_nets env.toEnv h
  | userScan ch => exact userTurn_nets env.toEnv ch h
  | change c restart => exact leaveChange_nets hr h hfits restart
  | modulationStop cck ofdm => exact stopModulation_nets hr h cck ofdm
  | modulationStart => exact (startProtocol_nets hr h).leaves rfl

/-- The job in place `i` goes on. -/
theorem goOn_nets (env : StationEnv) (h : NetsOk Q R Chan st) (hfits : ∀ j ∈ st.jobs, j.fits) {i : ℕ}
    {j : Job} (hi : st.jobs[i]? = some j) : NetsOk Q R Chan (goOn env st i j) := by
  have hmem : j ∈ st.jobs := List.mem_of_getElem? hi
  obtain ⟨hst, hnext⟩ := advance_nets hr env (h.erase_job i) (h.tunes_job hmem) (hfits j hmem)
  unfold goOn
  refine hst.add_jobs _ fun ht => hnext ?_
  obtain ⟨k, hk, htk⟩ := List.any_eq_true.mp ht
  rw [Option.mem_toList.mp hk]
  exact htk

theorem resume_nets (env : StationEnv) (h : NetsOk Q R Chan st) (hfits : ∀ j ∈ st.jobs, j.fits) (i : ℕ) :
    NetsOk Q R Chan (resume env st i) := by
  rcases resume_cases env st i with hidle | ⟨j, hi, -, hgo⟩
  · rw [hidle]
    exact h
  · rw [hgo]
    exact goOn_nets hr env h hfits hi

/-- A work begins that is pending. -/
theorem beginWork_nets (env : Env) (h : NetsOk Q R Chan st) {w : Work} (hw : w ∈ st.works) :
    NetsOk Q R Chan (beginWork env st w) := by
  have htaken := takeWork_nets h w
  have hlive : w.tunes = true → R st.current := h.tunes_work hw
  cases w with
  | softmacScan =>
    unfold beginWork
    dsimp only
    split_ifs
    · exact h
    · exact softmacScanWq_nets hr env htaken
  | startIbss => exact htaken.add_jobs [.waiting .startIbss] fun _ => hlive rfl
  | associateRetry => exact htaken.add_jobs [.waiting .associateRetry] (by rintro ⟨⟩)
  | associateComplete => exact htaken.mapDev ⟨rfl, rfl, rfl, rfl, id⟩
  | associateProcedure =>
    have hjobs := htaken.add_jobs [.waiting .associateProcedure] fun _ => hlive rfl
    exact hjobs.of_eq (hjobs.toTableOk.of_eq rfl rfl rfl rfl) rfl id
  | wxSyncScan =>
    have hjobs := htaken.add_jobs [.syncScan 0] (by rintro ⟨⟩)
    exact hjobs.of_eq (hjobs.toTableOk.of_eq rfl rfl rfl rfl) rfl id
  | hwWakeup => exact htaken
  | hwSleep => exact htaken

/-! ### Requests -/

theorem wxSet_nets (h : NetsOk Q R Chan st) (c : Change) (ifup : Bool) :
    NetsOk Q R Chan (st.wxSet c ifup) := by
  unfold wxSet
  split_ifs
  · exact h
  · unfold request
    extract_lets restart hurried stopped
    have hhurried : NetsOk Q R Chan hurried := h.of_eq (h.toTableOk.of_eq rfl rfl rfl rfl) rfl id
    have hstopped : NetsOk Q R Chan stopped := by
      unfold stopped
      split_ifs
      · exact stopProtocol_nets hr hhurried
      · exact hhurried
    have hjobs : stopped.jobs = st.jobs := by
      unfold stopped
      split_ifs
      · exact (stopProtocol_tame hurried).jobs
      · rfl
    split_ifs
    · have hadd := hstopped.add_jobs [.change c restart] (by rintro ⟨⟩)
      rw [hjobs] at hadd
      exact hadd.set_wxSem true
    · exact hhurried

omit hr in
theorem setModulation_nets (h : NetsOk Q R Chan st) (cck ofdm : Bool) :
    NetsOk Q R Chan (st.setModulation cck ofdm) := by
  unfold setModulation
  split_ifs
  · have hadd := (stopTimers_nets h).add_jobs [.modulationStop cck ofdm] (by rintro ⟨⟩)
    rw [(stopTimers_tame st).jobs] at hadd
    exact hadd
  · exact h.mapDev ⟨rfl, rfl, rfl, rfl, id⟩

omit hr in
theorem wxSetScan_nets (h : NetsOk Q R Chan st) : NetsOk Q R Chan st.wxSetScan := by
  unfold wxSetScan
  split_ifs with hscan
  · exact h.of_eq (h.toTableOk.of_eq rfl rfl rfl rfl) rfl fun _ => Or.inl (Or.inl hscan.2.2.1)
  · exact h

omit hr in
theorem startUserScan_nets (h : NetsOk Q R Chan st) : NetsOk Q R Chan st.startUserScan := by
  unfold startUserScan
  split_ifs
  · exact h
  · have hadd := h.add_jobs [.userScan 0] (by rintro ⟨⟩)
    exact hadd.of_eq (hadd.toTableOk.of_eq rfl rfl rfl rfl) rfl id

theorem setFreq_nets (env : Env) (h : NetsOk Q R Chan st) (chan : UInt8) :
    NetsOk Q R Chan (setFreq env st chan) := by
  unfold setFreq
  split_ifs with hrefused
  · exact h
  · extract_lets st₁
    have hst₁ : NetsOk Q R Chan st₁ := by
      refine NetsOk.of_current hr (h.toTableOk.of_eq rfl rfl rfl rfl) ?_
      have hlo : 1 ≤ chan.toNat := by
        have hlt : ¬ chan < 1 := fun hlt => hrefused (Or.inr (Or.inr (Or.inl hlt)))
        exact UInt8.le_iff_toNat_le.mp (UInt8.not_lt.mp hlt)
      have hhi : chan.toNat ≤ 14 := by
        have hlt : ¬ 14 < chan := fun hlt => hrefused (Or.inr (Or.inr (Or.inr hlt)))
        exact UInt8.le_iff_toNat_le.mp (UInt8.not_lt.mp hlt)
      have htune := hr.tune (hr.freq chan.toNat hlo hhi) h.current
      rw [UInt8.ofNat_toNat] at htune
      exact htune
    split_ifs
    · exact startSendBeacons_nets env (stopSendBeacons_nets hst₁)
    · exact hst₁

omit hr in
theorem associateAbortCb_nets (h : NetsOk Q R Chan st) : NetsOk Q R Chan st.associateAbortCb := by
  have hdel : DevTame st.toDevice.delAssociateTimer st.toDevice := DevFrame.tame ⟨rfl, rfl, rfl, rfl, id⟩ rfl
  unfold associateAbortCb
  split_ifs
  · exact h
  · exact h.mapDev ((associateAbort_tame _).trans hdel).toDevFrame

omit hr in
theorem sendBeaconCb_nets (env : Env) (h : NetsOk Q R Chan st) : NetsOk Q R Chan (sendBeaconCb env st) := by
  have hoff : NetsOk Q R Chan { st with beaconTimer := none } :=
    h.of_eq (h.toTableOk.of_eq rfl rfl rfl rfl) rfl id
  unfold sendBeaconCb
  split_ifs
  · exact h
  · exact sendBeacon_nets env hoff

omit hr in
theorem delayOver_nets (h : NetsOk Q R Chan st) (w : Work) : NetsOk Q R Chan (st.delayOver w) := by
  unfold delayOver
  split_ifs
  · exact h.of_eq (h.toTableOk.of_eq rfl rfl rfl rfl) rfl id
  · exact h

theorem softmacStartProtocol_nets (h : NetsOk Q R Chan st) : NetsOk Q R Chan st.softmacStartProtocol := by
  have hhurry : NetsOk Q R Chan { st with syncScanHurryup := false } :=
    h.of_eq (h.toTableOk.of_eq rfl rfl rfl rfl) rfl id
  unfold softmacStartProtocol
  split_ifs
  · exact h
  · exact startProtocol_nets hr hhurry

theorem softmacStopProtocol_nets (h : NetsOk Q R Chan st) : NetsOk Q R Chan st.softmacStopProtocol := by
  have hhurry : NetsOk Q R Chan { st with syncScanHurryup := true } :=
    h.of_eq (h.toTableOk.of_eq rfl rfl rfl rfl) rfl id
  unfold softmacStopProtocol
  split_ifs
  · exact h
  · exact stopProtocol_nets hr hhurry

omit hr in
theorem scanEssid_nets (h : NetsOk Q R Chan st) {essid : List UInt8}
    (hessid : ∀ X : HeardNetwork → Prop, X = Q ∨ X = R → X st.current → X (st.scanEssid essid).current) :
    NetsOk Q R Chan (st.scanEssid essid) := by
  have hQ := hessid Q (Or.inl rfl) h.current
  have hR := hessid R (Or.inr rfl)
  unfold scanEssid at hQ hR ⊢
  split_ifs at hQ hR ⊢
  · exact h
  · exact ⟨h.toTableOk.of_eq rfl rfl rfl rfl, hQ, fun hb => hR (h.live hb)⟩

/-! ### Steps -/

/-- What a step may not do to the networks from outside: a parsed network is
fit to be tuned to, so is the emptied one if something will tune to it, an
SSID to look for keeps what is known, and the rest of the driver leaves
`current_network` alone, and makes nothing busy that may not be. -/
def NetCondition (Q R : HeardNetwork → Prop) (st : Station P) : Event P → Prop
  | .rx env skb stats stack => ∀ net ∈ networkInit env st.toDevice skb stats stack, R net
  | .scanEssid essid =>
    ∀ X : HeardNetwork → Prop, X = Q ∨ X = R → X st.current → X (st.scanEssid essid).current
  | .down => Q .zeroed ∧ (st.Busy → R .zeroed)
  | .other act => (act.run st.toDevice).currentNetwork = st.currentNetwork ∧
      ((act.run st.toDevice).Busy → R st.current)
  | _ => True

/-- Every step keeps what is known of the networks. -/
theorem step_nets (h : NetsOk Q R Chan st) (hfits : ∀ j ∈ st.jobs, j.fits) {e : Event P}
    (he : NetCondition Q R st e) : NetsOk Q R Chan (st.step e) := by
  cases e with
  | rx env skb stats stack => exact rxFrameMgmt_nets hr env he h
  | associateTimer => exact associateAbortCb_nets h
  | beaconTimer env => exact sendBeaconCb_nets env h
  | delayOver w => exact delayOver_nets h w
  | begin env w =>
    change NetsOk Q R Chan (runWork env st w)
    unfold runWork
    split_ifs with hrun
    · unfold runnable at hrun
      rw [Bool.and_eq_true, decide_eq_true_eq] at hrun
      exact beginWork_nets hr env h hrun.1
    · exact h
  | goOn env i => exact resume_nets hr env h hfits i
  | hurry => exact h.of_eq (h.toTableOk.of_eq rfl rfl rfl rfl) rfl id
  | request c ifup => exact wxSet_nets hr h c ifup
  | setModulation cck ofdm => exact setModulation_nets h cck ofdm
  | wxSetScan => exact wxSetScan_nets h
  | userScan => exact startUserScan_nets h
  | scanEssid essid => exact scanEssid_nets h he
  | disassociate => exact disassociate_nets h
  | startProtocol => exact softmacStartProtocol_nets hr h
  | stopProtocol => exact softmacStopProtocol_nets hr h
  | down => exact ⟨h.toTableOk.of_eq rfl rfl rfl rfl, he.1, he.2⟩
  | setFreq env chan => exact setFreq_nets hr env h chan
  | supplicantAdhoc =>
    change NetsOk Q R Chan st.supplicantAdhoc
    unfold supplicantAdhoc
    split_ifs
    · exact h
    · exact h.of_eq (h.toTableOk.of_eq rfl rfl rfl rfl) rfl id
  | other act =>
    have hcur : (st.mapDev act.run).current = st.current := by
      unfold Station.current
      rw [mapDev_toDevice, he.1]
      rfl
    refine ⟨h.toTableOk.of_eq rfl rfl rfl rfl, ?_, ?_⟩
    · exact hcur.symm ▸ h.current
    · intro hb
      have hc : R st.current := hb.elim he.2 fun hj => h.live (Or.inr hj)
      exact hcur.symm ▸ hc

end

/-- No job waits next in a setting. -/
theorem advance_fits (env : StationEnv) (st : Station P) (k : Job) {j : Job}
    (hj : (advance env st k).1 = some j) : j.fits := by
  cases k with
  | waiting w =>
    cases w with
    | associateProcedure =>
      cases hj
      trivial
    | associateRetry =>
      change st.enterRetry.1 = some j at hj
      unfold enterRetry at hj
      split_ifs at hj; cases hj
      trivial
    | startIbss =>
      change (enterIbss env st).1 = some j at hj
      unfold enterIbss at hj
      dsimp only at hj
      split_ifs at hj <;> cases hj <;> trivial
    | softmacScan => cases hj
    | associateComplete => cases hj
    | wxSyncScan => cases hj
    | hwWakeup => cases hj
    | hwSleep => cases hj
  | procedure => cases hj
  | retry => cases hj
  | ibssScan ch =>
    change (ibssTurn env st ch).1 = some j at hj
    unfold ibssTurn at hj
    split at hj <;> cases hj <;> trivial
  | ibssBeacons => cases hj
  | syncScan ch =>
    change (syncTurn env.toEnv st ch).1 = some j at hj
    unfold syncTurn at hj
    split at hj <;> cases hj <;> trivial
  | syncRestore => cases hj
  | userScan ch =>
    obtain ⟨ch', -, rfl⟩ := Option.map_eq_some_iff.mp hj
    trivial
  | change c restart => cases hj
  | modulationStop cck ofdm =>
    cases hj
    trivial
  | modulationStart => cases hj

/-- Every setting that waits has been checked. -/
theorem fits_step {st : Station P} (h : ∀ j ∈ st.jobs, j.fits) (e : Event P) :
    ∀ j ∈ (st.step e).jobs, j.fits := by
  by_cases hgo : ∃ env i, e = .goOn env i
  · obtain ⟨env, i, rfl⟩ := hgo
    change ∀ j ∈ (resume env st i).jobs, j.fits
    rcases resume_cases env st i with hidle | ⟨k, -, -, hstep⟩
    · rw [hidle]
      exact h
    · intro j hj
      rw [hstep, goOn_jobs, List.mem_append] at hj
      rcases hj with hj | hj
      · exact h j (List.mem_of_mem_eraseIdx hj)
      · exact advance_fits env _ k (Option.mem_toList.mp hj)
  · have hkeeps := step_keeps st (e := e) (by rintro env i rfl; exact hgo ⟨env, i, rfl⟩)
    exact fun j hj => (hkeeps.fits j hj).elim (h j) id

end Station

end Rtl8187

/-
# What a step of the station leaves alone

Most steps of the station are tame as those of the device are, and keep the
jobs and `wx_sem`. What a job does when it goes on is said once, in
`Advances`: the few jobs that gain a link, change the mode, or take or give
back `wx_sem` are told apart there.

Key definitions: `Tame`, `Links`, `Advances`.
Key theorems: `startProtocol_tame`, `advance_advances`, `resume_cases`.
-/
import Rtl8187.StationRun
import Rtl8187.DeviceSteps

namespace Rtl8187

open Bytes

variable {P : Type}

/-! ### Jobs -/

/-- The job may set the state to LINKED by itself. -/
def Job.links : Job → Bool
  | .waiting .startIbss => true
  | .ibssScan _ => true
  | .syncRestore => true
  | _ => false

/-- The job is a scan on request. -/
def Job.syncs : Job → Bool
  | .syncScan _ => true
  | .syncRestore => true
  | _ => false

/-- The job changes the mode. -/
def Job.changesMode : Job → Bool
  | .change _ _ => true
  | _ => false

/-- An SSID that is set has room in `current_network.ssid`. -/
def Change.fits : Change → Prop
  | .essid _ extra => extra.length ≤ iwEssidMaxSize
  | _ => True

/-- A setting that waits has been checked. -/
def Job.fits : Job → Prop
  | .change c _ => c.fits
  | _ => True

theorem associateStep1_tame (env : Env) (d : Device P) : DevTame (associateStep1 env d) d := by
  unfold associateStep1
  split
  · exact associateAbort_tame d
  · rename_i skb d' hreq
    have hset : DevTame { d' with state := .associatingAuthenticating } d' :=
      ⟨⟨rfl, rfl, rfl, rfl, id⟩, Or.inr (Or.inl rfl)⟩
    exact (xmitTimer_tame env _ skb).trans (hset.trans (authenticationReq_tame _ d 0 _ hreq))

/-! ### Pieces of the station's steps -/

namespace Station

/-- What the steps keep of a station, and what they gain. -/
structure Tame (st' st : Station P) : Prop where
  dev : DevStep st'.toDevice st.toDevice
  jobs : st'.jobs = st.jobs
  wxSem : st'.wxSem = st.wxSem

section

variable {st st' st'' : Station P}

theorem Tame.refl (st : Station P) : Tame st st := ⟨DevStep.refl _, rfl, rfl⟩

theorem Tame.trans (h : Tame st'' st') (h' : Tame st' st) : Tame st'' st :=
  ⟨h.dev.trans h'.dev, h.jobs.trans h'.jobs, h.wxSem.trans h'.wxSem⟩

/-- A change of the station that leaves the device alone. -/
theorem Tame.of_dev (h : st'.toDevice = st.toDevice) (hj : st'.jobs = st.jobs)
    (hw : st'.wxSem = st.wxSem) : Tame st' st := by
  refine ⟨?_, hj, hw⟩
  rw [h]
  exact DevStep.refl _

theorem Tame.of_eq (h : Tame st' st) (hd : st''.toDevice = st'.toDevice) (hj : st''.jobs = st'.jobs)
    (hw : st''.wxSem = st'.wxSem) : Tame st'' st := (Tame.of_dev hd hj hw).trans h

theorem mapDev_tame (st : Station P) {f : Device P → Device P} (h : DevStep (f st.toDevice) st.toDevice) :
    Tame (st.mapDev f) st := ⟨h, rfl, rfl⟩

theorem setCurrent_tame (st : Station P) (net : HeardNetwork) : Tame (st.setCurrent net) st :=
  ⟨DevKept.step ⟨rfl, rfl, rfl⟩ rfl, rfl, rfl⟩

/-! Queued works. -/

theorem queueDelayed_tame (st : Station P) {w : Work} (hw : w ≠ .wxSyncScan) :
    Tame (st.queueDelayed w) st := mapDev_tame st ((queueWork_kept _ hw).step (queueWork_state _ w))

theorem queueNow_tame (st : Station P) {w : Work} (hw : w ≠ .wxSyncScan) : Tame (st.queueNow w) st := by
  unfold queueNow
  split_ifs
  · exact Tame.refl st
  · exact (queueDelayed_tame st hw).of_eq rfl rfl rfl

theorem dropWork_tame (d : Device P) {w : Work} (hw : w ≠ .wxSyncScan) :
    DevTame { d with works := d.works.filter (· ≠ w) } d :=
  DevFrame.tame ⟨rfl, List.count_filter (decide_eq_true hw.symm), rfl, rfl,
    Or.imp_right fun ⟨w', hw', ht⟩ => ⟨w', List.mem_of_mem_filter hw', ht⟩⟩ rfl

theorem cancelDelayed_tame (st : Station P) {w : Work} (hw : w ≠ .wxSyncScan) :
    Tame (st.cancelDelayed w) st := by
  unfold cancelDelayed
  split_ifs
  · exact Tame.refl st
  · exact mapDev_tame st (dropWork_tame _ hw).step

theorem takeWork_tame (st : Station P) {w : Work} (hw : w ≠ .wxSyncScan) : Tame (st.takeWork w) st :=
  ⟨(dropWork_tame _ hw).step, rfl, rfl⟩

/-! Joining. -/

theorem joinNet_tame (st : Station P) (net : HeardNetwork) : Tame (st.joinNet net) st := by
  refine Tame.trans ?_ (setCurrent_tame st (st.adopt net))
  unfold joinNet
  dsimp only
  split_ifs with hmode
  · refine mapDev_tame _ ⟨(queueWork_kept _ (by simp)).trans ⟨rfl, rfl, rfl⟩, Or.inr (Or.inl ?_)⟩
    rw [queueWork_state]
    rfl
  · exact mapDev_tame _ ⟨⟨rfl, rfl, rfl⟩, Or.inr (Or.inr ⟨rfl, hmode⟩)⟩

theorem newNet_tame (st : Station P) (net : HeardNetwork) : Tame (st.newNet net) st := by
  unfold newNet
  split_ifs
  · exact Tame.refl st
  · exact joinNet_tame st net
  · exact Tame.refl st
  · exact Tame.refl st

theorem foldl_tryNet_tame (l : List HeardNetwork) (st : Station P) : Tame (l.foldl tryNet st) st := by
  induction l generalizing st with
  | nil => exact Tame.refl st
  | cons net l ih =>
    have htry : Tame (st.tryNet net) st := by
      unfold tryNet
      split_ifs
      · exact Tame.refl st
      · exact newNet_tame st net
    exact (ih _).trans htry

theorem checkAllNets_tame (st : Station P) : Tame st.checkAllNets st := foldl_tryNet_tame _ st

theorem surveyCurrent_tame (env : Env) (st : Station P) (beacon : Bool) (net : HeardNetwork) :
    Tame (surveyCurrent env st beacon net).2 st := by
  unfold surveyCurrent
  split_ifs
  · exact setCurrent_tame st _
  · exact Tame.refl st
  · exact Tame.refl st
  · exact Tame.refl st

theorem networkSlot_tame {i : Fin maxNetworkCount} (h : st.networkSlot = some (i, st')) : Tame st' st := by
  have hsame := networkSlot_same h
  unfold networkSlot at h
  split at h
  · cases h
    exact Tame.of_dev rfl rfl rfl
  · obtain ⟨j, _, hj⟩ := Option.map_eq_some_iff.mp h
    cases hj
    exact Tame.of_dev rfl rfl rfl

theorem surveyNetwork_tame (env : Env) (st : Station P) (beacon : Bool) (net : HeardNetwork) :
    Tame (surveyNetwork env st beacon net).2 st := by
  have hcur := surveyCurrent_tame env st beacon net
  unfold surveyNetwork
  generalize surveyCurrent env st beacon net = p at hcur
  obtain ⟨net', st₁⟩ := p
  dsimp only at hcur ⊢
  cases st₁.networkList.find? (fun i => isSameNetwork st₁.toDevice (st₁.networks i) net') with
  | none =>
    dsimp only
    cases hslot : st₁.networkSlot with
    | none => exact hcur
    | some q =>
      obtain ⟨i, st₂⟩ := q
      have hst₂ := (networkSlot_tame hslot).trans hcur
      exact hst₂.of_eq rfl rfl rfl
  | some i => exact hcur.of_eq rfl rfl rfl

theorem announce_tame (st : Station P) (net : Option HeardNetwork) : Tame (st.announce net) st := by
  cases net with
  | none => exact Tame.refl st
  | some net => exact newNet_tame st net

theorem processProbeResponse_tame (env : Env) (st : Station P) (skb : SkBuff) (stats : RxStats)
    (stack : HeardNetwork) : Tame (processProbeResponse env st skb stats stack) st := by
  unfold processProbeResponse
  cases networkInit env st.toDevice skb stats stack with
  | none => exact Tame.refl st
  | some net =>
    have hsurvey := surveyNetwork_tame env st (isBeacon skb) net
    exact (announce_tame _ (surveyNetwork env st (isBeacon skb) net).1).trans hsurvey

theorem rxMgt_tame (env : Env) (st : Station P) (skb : SkBuff) (stats : RxStats)
    (stack : HeardNetwork) : Tame (rxMgt env st skb stats stack) st := by
  unfold rxMgt
  split_ifs
  · exact processProbeResponse_tame env st skb stats stack
  · exact Tame.refl st

/-! Scans and beacons. -/

theorem probe_tame (env : Env) (d : Device P) :
    DevTame (xmitReply env d ((probeReq env.skbAlloc d).map fun skb => (skb, d))) d := by
  apply xmitReply_tame
  intro r hr
  obtain ⟨skb, -, rfl⟩ := Option.map_eq_some_iff.mp hr
  exact DevTame.refl _

theorem beacon_tame (env : Env) (d : Device P) : DevTame (xmitReply env d (getBeacon env.skbAlloc d)) d :=
  xmitReply_tame env _ (getBeacon_tame _ _)

theorem sendProbe_tame (env : Env) (st : Station P) : Tame (sendProbe env st) st :=
  mapDev_tame st (probe_tame env _).step

theorem sendProbeRequests_tame (env : Env) (st : Station P) : Tame (sendProbeRequests env st) st := by
  unfold sendProbeRequests
  split_ifs
  · exact (sendProbe_tame env _).trans (sendProbe_tame env st)
  · exact Tame.refl st

theorem scanTurn_tame (env : Env) (st : Station P) (ch : ℕ) : Tame (scanTurn env st ch).2 st := by
  unfold scanTurn
  split
  · exact Tame.of_dev rfl rfl rfl
  · dsimp only
    split_ifs
    · exact Tame.of_dev rfl rfl rfl
    · exact (sendProbeRequests_tame env st).of_eq rfl rfl rfl
    · exact sendProbeRequests_tame env st

theorem softmacScanWq_tame (env : Env) (st : Station P) : Tame (softmacScanWq env st) st := by
  unfold softmacScanWq
  split_ifs with hscan
  · extract_lets next st₁ st₂
    have hst₁ : Tame st₁ st := mapDev_tame st (DevKept.step ⟨rfl, rfl, rfl⟩ rfl)
    have hst₂ : Tame st₂ st₁ := by
      unfold st₂
      split_ifs
      · exact (queueDelayed_tame _ (by simp)).trans (sendProbeRequests_tame env st₁)
      · exact Tame.refl st₁
    exact (hst₂.trans hst₁).of_eq rfl rfl rfl
  · exact Tame.of_dev rfl rfl rfl

theorem stopScan_tame (st : Station P) : Tame st.stopScan st := by
  unfold stopScan
  split_ifs
  · exact (st.cancelDelayed_tame (by simp : Work.softmacScan ≠ .wxSyncScan)).of_eq rfl rfl rfl
  · exact Tame.refl st

theorem startScan_tame (st : Station P) : Tame st.startScan st := by
  unfold startScan
  split_ifs
  · exact Tame.refl st
  · exact (queueNow_tame _ (by simp)).trans (Tame.of_dev rfl rfl rfl)

theorem sendBeacon_tame (env : Env) (st : Station P) : Tame (sendBeacon env st) st := by
  have hsend : Tame (st.mapDev fun d => xmitReply env d (getBeacon env.skbAlloc d)) st :=
    mapDev_tame st (beacon_tame env _).step
  unfold sendBeacon
  dsimp only
  split_ifs
  · exact hsend.of_eq rfl rfl rfl
  · exact hsend

theorem startSendBeacons_state (env : Env) (st : Station P) :
    (startSendBeacons env st).state = st.state := by
  have hreply : (xmitReply env st.toDevice (getBeacon env.skbAlloc st.toDevice)).state = st.state := by
    unfold xmitReply getBeacon probeResp
    cases env.skbAlloc with
    | false => rfl
    | true => exact softmacMgmtXmit_state env _ _
  unfold startSendBeacons sendBeacon
  dsimp only
  split_ifs <;> exact hreply

theorem stopSendBeacons_tame (st : Station P) : Tame st.stopSendBeacons st := Tame.of_dev rfl rfl rfl

theorem startSendBeacons_tame (env : Env) (st : Station P) : Tame (startSendBeacons env st) st :=
  (sendBeacon_tame env _).trans (Tame.of_dev rfl rfl rfl)

/-! The protocol. -/

theorem defaultSsid_tame (st : Station P) (essid : List UInt8) : Tame (st.defaultSsid essid) st := by
  unfold defaultSsid
  split_ifs
  · exact (setCurrent_tame st _).of_eq rfl rfl rfl
  · exact Tame.refl st

theorem disassociate_tame (st : Station P) : Tame st.disassociate st := by
  refine ⟨⟨?_, Or.inr (Or.inl rfl)⟩, rfl, rfl⟩
  unfold disassociate Rtl8187.disassociate
  simp only [mapDev_toDevice]
  split_ifs <;> exact ⟨rfl, rfl, rfl⟩

theorem stopTimers_tame (st : Station P) : Tame st.stopTimers st := by
  have hstop : Tame (st.mapDev fun d => { d with protoStarted := false }).stopSendBeacons st :=
    Tame.trans (stopSendBeacons_tame _) (mapDev_tame st (DevKept.step ⟨rfl, rfl, rfl⟩ rfl))
  have hdel : Tame (((st.mapDev fun d => { d with protoStarted := false }).stopSendBeacons).mapDev
      (·.delAssociateTimer)) _ := mapDev_tame _ (DevKept.step ⟨rfl, rfl, rfl⟩ rfl)
  exact (cancelDelayed_tame _ (by simp)).trans ((cancelDelayed_tame _ (by simp)).trans (hdel.trans hstop))

theorem stopLink_tame (st : Station P) : Tame st.stopLink st := by
  have hdis := (disassociate_tame st.stopScan).trans (stopScan_tame st)
  exact Tame.trans (mapDev_tame _ (DevKept.step ⟨rfl, rfl, rfl⟩ rfl)) hdis

theorem stopProtocol_tame (st : Station P) : Tame st.stopProtocol st := by
  unfold stopProtocol
  split_ifs
  · exact (stopLink_tame _).trans (stopTimers_tame st)
  · exact Tame.refl st

theorem startBss_tame (st : Station P) : Tame st.startBss st := by
  unfold startBss
  dsimp only
  split_ifs
  · exact (startScan_tame _).trans (checkAllNets_tame st)
  · exact checkAllNets_tame st

theorem startMasterBss_tame (st : Station P) (hmode : st.iwMode ≠ .infra) : Tame st.startMasterBss st := by
  unfold startMasterBss
  extract_lets st₁
  have hst₁ : Tame st₁ st := mapDev_tame st (DevKept.step ⟨rfl, rfl, rfl⟩ rfl)
  have hssid := (defaultSsid_tame st₁ (strncpy defaultTxEssid iwEssidMaxSize)).trans hst₁
  refine Tame.trans (mapDev_tame _ ⟨⟨rfl, rfl, rfl⟩, Or.inr (Or.inr ⟨rfl, ?_⟩)⟩) hssid
  rwa [← hssid.dev.iwMode] at hmode

theorem startMode_tame (st : Station P) : Tame st.startMode st := by
  unfold startMode
  extract_lets st₁
  have hst₁ : Tame st₁ st := mapDev_tame st (DevKept.step ⟨rfl, rfl, rfl⟩ rfl)
  refine Tame.trans ?_ hst₁
  split
  · exact startBss_tame st₁
  · exact queueDelayed_tame st₁ (by simp)
  · rename_i hmode
    exact startMasterBss_tame st₁ (by simp [hmode])
  · exact Tame.refl st₁

theorem startProtocol_tame (st : Station P) : Tame st.startProtocol st := by
  unfold startProtocol
  split_ifs with hstarted
  · exact Tame.refl st
  · extract_lets st₁
    have hst₁ : Tame st₁ st := mapDev_tame st (DevKept.step ⟨rfl, rfl, rfl⟩ rfl)
    refine Tame.trans ?_ hst₁
    split_ifs
    · split
      · exact Tame.refl st₁
      · exact (startMode_tame _).trans (mapDev_tame st₁ (DevKept.step ⟨rfl, rfl, rfl⟩ rfl))
    · exact startMode_tame st₁

/-! ### What a job does -/

/-- A step of the station, as far as it concerns the association. -/
def Links (st' st : Station P) : Prop := LinkStep st'.iwMode st.state st'.state

theorem Tame.links (h : Tame st' st) : Links st' st := h.dev.link

/-- A setting leaves the works, the jobs and the state alone. -/
theorem applyChange_same (st : Station P) (c : Change) : (st.applyChange c).jobs = st.jobs ∧
    (st.applyChange c).works = st.works ∧ (st.applyChange c).state = st.state := by
  cases c with
  | essid flags extra =>
    unfold applyChange
    dsimp only
    split_ifs <;> exact ⟨rfl, rfl, rfl⟩
  | wap addr => exact ⟨rfl, rfl, rfl⟩
  | mode m => exact ⟨rfl, rfl, rfl⟩

/-- What a job does when it goes on, with where it waits next. -/
structure Advances (st : Station P) (j : Job) (r : Option Job × Station P) : Prop where
  jobs : r.2.jobs = st.jobs
  count : r.2.works.count .wxSyncScan = st.works.count .wxSyncScan
  mode : j.changesMode = false → r.2.iwMode = st.iwMode
  link : Links r.2 st ∨ (j.links = true ∧ r.2.state = .linked)
  syncs : j.syncs = true → r.1.any Job.syncs = true ∨ r.2.state = .linked
  wxSem : (j.holdsWx = true → st.wxSem = true) →
    r.2.wxSem = (r.1.any Job.holdsWx || (!j.holdsWx && st.wxSem))

/-- A job that is tame but for `wx_sem`. -/
theorem Advances.of_tame {j : Job} {r : Option Job × Station P} {b : Bool}
    (h : Tame r.2 { st with wxSem := b })
    (hsyncs : j.syncs = true → r.1.any Job.syncs = true ∨ r.2.state = .linked)
    (hsem : (j.holdsWx = true → st.wxSem = true) →
      b = (r.1.any Job.holdsWx || (!j.holdsWx && st.wxSem))) : Advances st j r where
  jobs := h.jobs
  count := h.dev.syncScan
  mode _ := h.dev.iwMode
  link := Or.inl h.links
  syncs := hsyncs
  wxSem hj := h.wxSem.trans (hsem hj)

/-- The end of `start_ibss_wq`, whatever came before it. -/
theorem Advances.of_ibssLink {j : Job} {env : StationEnv} {b : Bool}
    (h : Tame st' { st with wxSem := b }) (hlinks : j.links = true) (hsyncs : j.syncs = false)
    (hsem : (j.holdsWx = true → st.wxSem = true) → b = true) :
    Advances st j (some .ibssBeacons, ibssLink env st') where
  jobs := by
    have hlink : (ibssLink env st').jobs = st'.jobs := by
      unfold ibssLink
      split_ifs <;> rfl
    exact hlink.trans h.jobs
  count := by
    have hlink : (ibssLink env st').works = st'.works := by
      unfold ibssLink
      split_ifs <;> rfl
    rw [hlink]
    exact h.dev.syncScan
  mode _ := by
    have hlink : (ibssLink env st').iwMode = st'.iwMode := by
      unfold ibssLink
      split_ifs <;> rfl
    exact hlink.trans h.dev.iwMode
  link := Or.inr ⟨hlinks, rfl⟩
  syncs hs := by simp [hsyncs] at hs
  wxSem hj := by
    have hlink : (ibssLink env st').wxSem = st'.wxSem := by
      unfold ibssLink
      split_ifs <;> rfl
    rw [hlink, h.wxSem]
    exact hsem hj

theorem enterProcedure_advances (st : Station P) :
    Advances st (.waiting .associateProcedure) (enterProcedure st) :=
  Advances.of_tame (stopScan_tame _) (fun hs => by cases hs) fun _ => rfl

theorem enterRetry_advances (st : Station P) :
    Advances st (.waiting .associateRetry) (enterRetry st) := by
  unfold enterRetry
  split_ifs
  · have hlink : Tame ({ st with wxSem := true }.mapDev fun d => { d with state := .nolink })
        { st with wxSem := true } := mapDev_tame _ ⟨⟨rfl, rfl, rfl⟩, Or.inr (Or.inl rfl)⟩
    exact Advances.of_tame hlink (fun hs => by cases hs) fun _ => rfl
  · exact Advances.of_tame (Tame.refl st) (fun hs => by cases hs) fun _ => rfl

theorem enterIbss_advances (env : StationEnv) (st : Station P) :
    Advances st (.waiting .startIbss) (enterIbss env st) := by
  have hnets := (checkAllNets_tame _).trans
    (defaultSsid_tame { st with wxSem := true } (defaultTxEssid ++ [0]))
  unfold enterIbss
  dsimp only
  split_ifs
  · exact Advances.of_tame (hnets.of_eq rfl rfl rfl) (fun hs => by cases hs) fun _ => rfl
  · exact Advances.of_ibssLink hnets rfl rfl fun _ => rfl

theorem leaveProcedure_advances (env : Env) (st : Station P) :
    Advances st .procedure (leaveProcedure env st) := by
  have hseq : DevTame { st.toDevice with associateSeq := 1 } st.toDevice :=
    DevFrame.tame ⟨rfl, rfl, rfl, rfl, id⟩ rfl
  have hstep : Tame ({ st with wxSem := false }.mapDev fun d =>
      associateStep1 env { d with associateSeq := 1 }) { st with wxSem := false } :=
    mapDev_tame _ ((associateStep1_tame env _).trans hseq).step
  exact Advances.of_tame hstep (fun hs => by cases hs) fun _ => rfl

/-- Whether `wx_sem` is held makes no difference to what is tame. -/
theorem Tame.set_wxSem (h : Tame st' st) (b : Bool) :
    Tame { st' with wxSem := b } { st with wxSem := b } := ⟨h.dev, h.jobs, rfl⟩

theorem leaveRetry_advances (st : Station P) : Advances st .retry (leaveRetry st) := by
  have hnets := checkAllNets_tame st
  unfold leaveRetry
  dsimp only
  split_ifs
  · have hscan := (startScan_tame _).trans hnets
    exact Advances.of_tame (hscan.set_wxSem false) (fun hs => by cases hs) fun _ => rfl
  · exact Advances.of_tame (hnets.set_wxSem false) (fun hs => by cases hs) fun _ => rfl

theorem ibssTurn_advances (env : StationEnv) (st : Station P) (ch : ℕ) :
    Advances st (.ibssScan ch) (ibssTurn env st ch) := by
  have hturn := scanTurn_tame env.toEnv st ch
  unfold ibssTurn
  generalize scanTurn env.toEnv st ch = r at hturn
  obtain ⟨ch', st'⟩ := r
  cases ch' with
  | some ch' => exact Advances.of_tame (b := st.wxSem) hturn (fun hs => by cases hs) fun h => h rfl
  | none => exact Advances.of_ibssLink (b := st.wxSem) hturn rfl rfl fun h => h rfl

theorem leaveIbss_advances (env : Env) (st : Station P) :
    Advances st .ibssBeacons (leaveIbss env st) :=
  Advances.of_tame ((startSendBeacons_tame env st).set_wxSem false) (fun hs => by cases hs) fun _ => rfl

theorem syncTurn_advances (env : Env) (st : Station P) (ch : ℕ) :
    Advances st (.syncScan ch) (syncTurn env st ch) := by
  have hturn := scanTurn_tame env st ch
  unfold syncTurn
  generalize scanTurn env st ch = r at hturn
  obtain ⟨ch', st'⟩ := r
  cases ch' with
  | some ch' => exact Advances.of_tame (b := st.wxSem) hturn (fun _ => Or.inl rfl) fun h => h rfl
  | none => exact Advances.of_tame (b := st.wxSem) hturn (fun _ => Or.inl rfl) fun h => h rfl

theorem userTurn_advances (env : Env) (st : Station P) (ch : ℕ) :
    Advances st (.userScan ch) (userTurn env st ch) := by
  refine Advances.of_tame (b := st.wxSem) (scanTurn_tame env st ch) (fun hs => by cases hs) fun _ => ?_
  unfold userTurn
  cases (scanTurn env st ch).1 <;> rfl

theorem leaveSync_advances (env : Env) (st : Station P) : Advances st .syncRestore (leaveSync env st) := by
  have hframe : Tame (startSendBeacons env (st.mapDev fun d => { d with state := .linked })) _ :=
    startSendBeacons_tame env _
  have hstate := startSendBeacons_state env (st.mapDev fun d => { d with state := .linked })
  unfold leaveSync
  dsimp only
  split_ifs
  · exact ⟨hframe.jobs, hframe.dev.syncScan, fun _ => hframe.dev.iwMode, Or.inr ⟨rfl, hstate⟩,
      fun _ => Or.inr hstate, fun _ => rfl⟩
  · exact ⟨rfl, rfl, fun _ => rfl, Or.inr ⟨rfl, rfl⟩, fun _ => Or.inr rfl, fun _ => rfl⟩

theorem leaveChange_advances (st : Station P) (c : Change) (restart : Bool) :
    Advances st (.change c restart) (leaveChange st c restart) := by
  obtain ⟨hjobs, hworks, hstate⟩ := applyChange_same st c
  have hrestart : Tame (if restart then (st.applyChange c).startProtocol else st.applyChange c)
      (st.applyChange c) := by
    split_ifs
    · exact startProtocol_tame _
    · exact Tame.refl _
  have hlink := hrestart.links
  unfold Links at hlink
  rw [hstate] at hlink
  exact {
    jobs := hrestart.jobs.trans hjobs
    count := by
      rw [← hworks]
      exact hrestart.dev.syncScan
    mode := fun hm => by cases hm
    link := Or.inl hlink
    syncs := fun hs => by cases hs
    wxSem := fun _ => rfl }

theorem stopModulation_advances (st : Station P) (cck ofdm : Bool) :
    Advances st (.modulationStop cck ofdm) (stopModulation st cck ofdm) := by
  have hset : Tame (stopModulation st cck ofdm).2 st.stopLink :=
    ⟨DevKept.step ⟨rfl, rfl, rfl⟩ rfl, rfl, rfl⟩
  have hstop := hset.trans (stopLink_tame st)
  exact Advances.of_tame (b := st.wxSem) hstop (fun hs => by cases hs) fun _ => rfl

/-- What any job does when it goes on. -/
theorem advance_advances (env : StationEnv) (st : Station P) (j : Job) :
    Advances st j (advance env st j) := by
  have hidle : ∀ w, Advances st (.waiting w) (none, st) := fun w =>
    Advances.of_tame (b := st.wxSem) (Tame.refl st) (fun hs => by cases hs) fun _ => rfl
  cases j with
  | waiting w =>
    cases w with
    | associateProcedure => exact enterProcedure_advances st
    | associateRetry => exact enterRetry_advances st
    | startIbss => exact enterIbss_advances env st
    | softmacScan => exact hidle _
    | associateComplete => exact hidle _
    | wxSyncScan => exact hidle _
    | hwWakeup => exact hidle _
    | hwSleep => exact hidle _
  | procedure => exact leaveProcedure_advances env.toEnv st
  | retry => exact leaveRetry_advances st
  | ibssScan ch => exact ibssTurn_advances env st ch
  | ibssBeacons => exact leaveIbss_advances env.toEnv st
  | syncScan ch => exact syncTurn_advances env.toEnv st ch
  | syncRestore => exact leaveSync_advances env.toEnv st
  | userScan ch => exact userTurn_advances env.toEnv st ch
  | change c restart => exact leaveChange_advances st c restart
  | modulationStop cck ofdm => exact stopModulation_advances st cck ofdm
  | modulationStart =>
    exact Advances.of_tame (b := st.wxSem) (startProtocol_tame st) (fun hs => by cases hs) fun _ => rfl

/-- A job goes on, or nothing happens. -/
theorem resume_cases (env : StationEnv) (st : Station P) (i : ℕ) : resume env st i = st ∨
    ∃ j, st.jobs[i]? = some j ∧ st.ready j = true ∧ resume env st i = goOn env st i j := by
  unfold resume
  split
  · exact Or.inl rfl
  · rename_i j hi
    split_ifs with hready
    · exact Or.inr ⟨j, hi, hready, rfl⟩
    · exact Or.inl rfl

/-! ### The other steps -/

theorem associateAbortCb_tame (st : Station P) : Tame st.associateAbortCb st := by
  have hdel : DevTame st.toDevice.delAssociateTimer st.toDevice := DevFrame.tame ⟨rfl, rfl, rfl, rfl, id⟩ rfl
  unfold associateAbortCb
  split_ifs
  · exact Tame.refl st
  · exact mapDev_tame st ((associateAbort_tame _).trans hdel).step

theorem sendBeaconCb_tame (env : Env) (st : Station P) : Tame (sendBeaconCb env st) st := by
  unfold sendBeaconCb
  split_ifs
  · exact Tame.refl st
  · exact (sendBeacon_tame env _).trans (Tame.of_dev rfl rfl rfl)

theorem delayOver_tame (st : Station P) (w : Work) : Tame (st.delayOver w) st := by
  unfold delayOver
  split_ifs
  · exact Tame.of_dev rfl rfl rfl
  · exact Tame.refl st

theorem scanEssid_tame (st : Station P) (essid : List UInt8) : Tame (st.scanEssid essid) st := by
  unfold scanEssid
  split_ifs
  · exact Tame.refl st
  · exact setCurrent_tame st _

theorem softmacStartProtocol_tame (st : Station P) : Tame st.softmacStartProtocol st := by
  unfold softmacStartProtocol
  split_ifs
  · exact Tame.refl st
  · exact (startProtocol_tame _).trans (Tame.of_dev rfl rfl rfl)

theorem softmacStopProtocol_tame (st : Station P) : Tame st.softmacStopProtocol st := by
  unfold softmacStopProtocol
  split_ifs
  · exact Tame.refl st
  · exact (stopProtocol_tame _).trans (Tame.of_dev rfl rfl rfl)

theorem clearNetwork_tame (st : Station P) : Tame st.clearNetwork st := by
  have hstate : Tame st.clearNetwork (st.setCurrent .zeroed) :=
    mapDev_tame _ ⟨⟨rfl, rfl, rfl⟩, Or.inr (Or.inl rfl)⟩
  exact hstate.trans (setCurrent_tame st _)

theorem setFreq_tame (env : Env) (st : Station P) (chan : UInt8) : Tame (setFreq env st chan) st := by
  unfold setFreq
  split_ifs
  · exact Tame.refl st
  · extract_lets st₁
    have hst₁ : Tame st₁ st := ⟨DevKept.step ⟨rfl, rfl, rfl⟩ rfl, rfl, rfl⟩
    split_ifs
    · exact (startSendBeacons_tame env _).trans ((stopSendBeacons_tame st₁).trans hst₁)
    · exact hst₁

/-- A received frame keeps the mode, the jobs and `wx_sem`. -/
theorem rxFrameMgmt_same (env : Env) (st : Station P) (skb : SkBuff) (stats : RxStats)
    (stack : HeardNetwork) : DevKept (rxFrameMgmt env st skb stats stack).toDevice st.toDevice ∧
      (rxFrameMgmt env st skb stats stack).jobs = st.jobs ∧
      (rxFrameMgmt env st skb stats stack).wxSem = st.wxSem := by
  have hmgt := rxMgt_tame env st skb stats stack
  unfold rxFrameMgmt
  extract_lets st₁
  split_ifs
  · exact ⟨hmgt.dev.toDevKept, hmgt.jobs, hmgt.wxSem⟩
  · exact ⟨(rxFrameSoftmac_frame env _ skb).kept.trans hmgt.dev.toDevKept, hmgt.jobs, hmgt.wxSem⟩

/-! ### What a step leaves of the mode and of the jobs -/

/-- The mode stays or becomes ad hoc, no job is gone, and a new one has been
checked. -/
structure Keeps (st' st : Station P) : Prop where
  mode : st'.iwMode = .infra → st.iwMode = .infra
  jobs : st.jobs ⊆ st'.jobs
  fits : ∀ j ∈ st'.jobs, j ∈ st.jobs ∨ j.fits

theorem Keeps.of_eq {st' : Station P} (hmode : st'.iwMode = st.iwMode) (hjobs : st'.jobs = st.jobs) :
    Keeps st' st := by
  refine ⟨?_, ?_, ?_⟩
  · rw [hmode]
    exact id
  · rw [hjobs]
    exact List.Subset.refl _
  · rw [hjobs]
    exact fun _ => Or.inl

theorem Keeps.of_append {st' : Station P} {j : Job} (hmode : st'.iwMode = st.iwMode)
    (hjobs : st'.jobs = st.jobs ++ [j]) (hfits : j.fits) : Keeps st' st := by
  refine ⟨?_, ?_, ?_⟩
  · rw [hmode]
    exact id
  · rw [hjobs]
    exact List.subset_append_left _ _
  · intro k hk
    rw [hjobs, List.mem_append, List.mem_singleton] at hk
    rcases hk with hk | rfl
    · exact Or.inl hk
    · exact Or.inr hfits

theorem Tame.keeps {st' : Station P} (h : Tame st' st) : Keeps st' st := Keeps.of_eq h.dev.iwMode h.jobs

theorem rxFrameMgmt_keeps (env : Env) (st : Station P) (skb : SkBuff) (stats : RxStats)
    (stack : HeardNetwork) : Keeps (rxFrameMgmt env st skb stats stack) st := by
  obtain ⟨hdev, hjobs, -⟩ := rxFrameMgmt_same env st skb stats stack
  exact Keeps.of_eq hdev.iwMode hjobs

theorem beginWork_keeps (env : Env) (st : Station P) (w : Work) : Keeps (beginWork env st w) st := by
  cases w with
  | softmacScan =>
    unfold beginWork
    dsimp only
    split_ifs
    · exact Keeps.of_eq rfl rfl
    · exact ((softmacScanWq_tame env _).trans (takeWork_tame st (by simp))).keeps
  | startIbss => exact Keeps.of_append rfl rfl trivial
  | associateRetry => exact Keeps.of_append rfl rfl trivial
  | associateComplete => exact Keeps.of_eq rfl rfl
  | associateProcedure => exact Keeps.of_append rfl rfl trivial
  | wxSyncScan => exact Keeps.of_append rfl rfl trivial
  | hwWakeup => exact Keeps.of_eq rfl rfl
  | hwSleep => exact Keeps.of_eq rfl rfl

/-- Only a setting that has been checked is accepted. -/
theorem accepts_fits {c : Change} (h : st.accepts c = true) : c.fits := by
  cases c with
  | essid flags extra =>
    rw [accepts, Bool.and_eq_true, decide_eq_true_eq] at h
    exact h.1
  | wap addr => trivial
  | mode m => trivial

theorem wxSet_keeps (st : Station P) (c : Change) (ifup : Bool) : Keeps (st.wxSet c ifup) st := by
  unfold wxSet
  split_ifs
  · exact Keeps.of_eq rfl rfl
  · unfold request
    extract_lets restart hurried stopped
    split_ifs with haccepts
    · refine Keeps.of_append (j := .change c restart) ?_ rfl (accepts_fits haccepts)
      change stopped.iwMode = st.iwMode
      unfold stopped
      split_ifs
      · exact (stopProtocol_tame hurried).dev.iwMode
      · rfl
    · exact Keeps.of_eq rfl rfl

/-- Every step but that of a job. -/
theorem step_keeps (st : Station P) {e : Event P} (he : ∀ env i, e ≠ .goOn env i) :
    Keeps (st.step e) st := by
  cases e with
  | rx env skb stats stack => exact rxFrameMgmt_keeps env st skb stats stack
  | associateTimer => exact (associateAbortCb_tame st).keeps
  | beaconTimer env => exact (sendBeaconCb_tame env st).keeps
  | delayOver w => exact (delayOver_tame st w).keeps
  | begin env w =>
    change Keeps (runWork env st w) st
    unfold runWork
    split_ifs
    · exact beginWork_keeps env st w
    · exact Keeps.of_eq rfl rfl
  | goOn env i => exact absurd rfl (he env i)
  | hurry => exact Keeps.of_eq rfl rfl
  | request c ifup => exact wxSet_keeps st c ifup
  | setModulation cck ofdm =>
    change Keeps (st.setModulation cck ofdm) st
    unfold setModulation
    split_ifs
    · exact Keeps.of_append (stopTimers_tame st).dev.iwMode rfl trivial
    · exact Keeps.of_eq rfl rfl
  | wxSetScan =>
    change Keeps st.wxSetScan st
    unfold wxSetScan
    split_ifs <;> exact Keeps.of_eq rfl rfl
  | userScan =>
    change Keeps st.startUserScan st
    unfold startUserScan
    split_ifs
    · exact Keeps.of_eq rfl rfl
    · exact Keeps.of_append rfl rfl trivial
  | scanEssid essid => exact (scanEssid_tame st essid).keeps
  | disassociate => exact (disassociate_tame st).keeps
  | startProtocol => exact (softmacStartProtocol_tame st).keeps
  | stopProtocol => exact (softmacStopProtocol_tame st).keeps
  | down => exact (clearNetwork_tame st).keeps
  | setFreq env chan => exact (setFreq_tame env st chan).keeps
  | supplicantAdhoc =>
    change Keeps st.supplicantAdhoc st
    unfold supplicantAdhoc
    split_ifs
    · exact Keeps.of_eq rfl rfl
    · refine ⟨fun hmode => ?_, List.Subset.refl _, fun _ => Or.inl⟩
      cases hmode
  | other act => exact Keeps.of_eq (act.iwMode_eq _) rfl

/-- The step of a job keeps the mode, unless the job changes it. -/
theorem goOn_mode (env : StationEnv) (st : Station P) (i : ℕ) {j : Job} (hj : j.changesMode = false) :
    (goOn env st i j).iwMode = st.iwMode :=
  (advance_advances env { st with jobs := st.jobs.eraseIdx i } j).mode hj

end

end Station

end Rtl8187

/-
# What is left after a stop

`ieee80211_stop_protocol` deletes both timers and cancels two of the delayed
works, but a work whose delay is over runs all the same, and so does one that
waits for `wx_sem`. What is left behind keeps still if it looks at
`proto_started` or `scanning` when it runs. Two works do not:
`ieee80211_associate_procedure_wq`, which no stop cancels, and
`ieee80211_start_ibss_wq` once its delay is over. They are all that can go
wrong after a stop of a started protocol (`stopped_iff`).

Key definitions: `leftover`, `Stopped`, `Clean`, `Dormant`.
Key theorems: `dormant_step`, `stop_dormant`, `stop_stopped`.
-/
import Rtl8187.Handshake

namespace Rtl8187

open Bytes

variable {P : Type}

/-- An authentication, association, probe or beacon frame. -/
def Handed.announces : Handed → Bool
  | .data skb _ => isAnnouncement skb
  | .mgmt skb => isAnnouncement skb
where
  isAnnouncement (skb : SkBuff) : Bool :=
    fcStype (frameCtl skb.data) ∈ [stypeAuth, stypeAssocReq, stypeAssocResp, stypeReassocReq,
      stypeReassocResp, stypeProbeReq, stypeProbeResp, stypeBeacon]

/-- The job is a work, and not a call. -/
def Job.isWork : Job → Bool
  | .userScan _ => false
  | .change _ _ => false
  | .modulationStop _ _ => false
  | .modulationStart => false
  | _ => true

namespace Station

/-- The event comes from a pending work or timer, or from a work that has begun. -/
def leftover (st : Station P) : Event P → Bool
  | .associateTimer => true
  | .beaconTimer _ => true
  | .delayOver _ => true
  | .begin _ _ => true
  | .goOn _ i => (st.jobs[i]?).all Job.isWork
  | _ => false

/-- Whatever is left runs, in any order: the state stays NOLINK, and none of
the frames is handed to the hardware. -/
def Stopped (st : Station P) : Prop :=
  ∀ es, Run.AllSteps step (fun s e => s.leftover e = true) st es →
    (Run.run step st es).state = .nolink ∧
      ∀ h ∈ (Run.run step st es).handed.drop st.handed.length, h.announces = false

/-- The work is pending or waits for `wx_sem`. -/
def Left (st : Station P) (w : Work) : Prop := w ∈ st.works ∨ .waiting w ∈ st.jobs

instance (st : Station P) (w : Work) : Decidable (st.Left w) :=
  inferInstanceAs (Decidable (w ∈ st.works ∨ .waiting w ∈ st.jobs))

/-- What a stop has to find: neither of the two works, or, of the second, only
one it still cancels; and if the protocol is stopped already, nothing that
would have to be cancelled. -/
structure Clean (st : Station P) : Prop where
  procedure : ¬ st.Left .associateProcedure
  ibss : st.Left .startIbss →
    st.protoStarted = true ∧ .startIbss ∉ st.due ∧ .waiting .startIbss ∉ st.jobs
  idle : st.protoStarted = false → st.state = .nolink ∧ st.associateTimer = none ∧
    st.beaconTimer = none ∧ (st.scanning = true → .softmacScan ∉ st.works)

/-- Nothing that is left does anything. -/
structure Dormant (st : Station P) : Prop where
  state : st.state = .nolink
  protoStarted : st.protoStarted = false
  associateTimer : st.associateTimer = none
  beaconTimer : st.beaconTimer = none
  scan : st.scanning = true → .softmacScan ∉ st.works
  procedure : .associateProcedure ∉ st.works
  ibss : .startIbss ∉ st.works
  request : .wxSyncScan ∉ st.works
  jobs : ∀ j ∈ st.jobs, j.isWork = true → ∃ w, j = .waiting w ∧ w ≠ .associateProcedure ∧ w ≠ .startIbss

section

variable {st st' : Station P}

/-! ### What is left keeps still -/

/-- A change that matters to nothing that is left. -/
theorem Dormant.of_eq (h : Dormant st) (hstate : st'.state = st.state)
    (hproto : st'.protoStarted = st.protoStarted) (htimer : st'.associateTimer = st.associateTimer)
    (hbeacon : st'.beaconTimer = st.beaconTimer) (hscan : st'.scanning = st.scanning)
    (hworks : st'.works ⊆ st.works)
    (hjobs : ∀ j ∈ st'.jobs, j ∈ st.jobs ∨
      ∃ w, j = .waiting w ∧ w ≠ .associateProcedure ∧ w ≠ .startIbss) : Dormant st' where
  state := hstate.trans h.state
  protoStarted := hproto.trans h.protoStarted
  associateTimer := htimer.trans h.associateTimer
  beaconTimer := hbeacon.trans h.beaconTimer
  scan hs hmem := h.scan (hscan.symm.trans hs) (hworks hmem)
  procedure hmem := h.procedure (hworks hmem)
  ibss hmem := h.ibss (hworks hmem)
  request hmem := h.request (hworks hmem)
  jobs j hj hwork := by
    rcases hjobs j hj with hj | hj
    · exact h.jobs j hj hwork
    · exact hj

theorem takeWork_works (st : Station P) (w : Work) : (st.takeWork w).works ⊆ st.works :=
  List.filter_subset_self _

/-- A work that begins does nothing, or waits for `wx_sem`. -/
theorem dormant_beginWork (env : Env) (h : Dormant st) {w : Work} (hw : w ∈ st.works) :
    Dormant (beginWork env st w) ∧ (beginWork env st w).handed = st.handed := by
  have hworks := takeWork_works st w
  have hsame : ∀ j ∈ st.jobs, j ∈ st.jobs ∨
      ∃ w, j = Job.waiting w ∧ w ≠ .associateProcedure ∧ w ≠ .startIbss := fun j hj => Or.inl hj
  cases w with
  | softmacScan =>
    have hscan : st.scanning = false := by
      by_contra hs
      exact h.scan (by simpa using hs) hw
    have hidle : beginWork env st .softmacScan =
        if st.scanSem then st else { st.takeWork .softmacScan with scanWatchdog := 0 } := by
      have hnot : ¬ (st.takeWork .softmacScan).scanning = true := by
        rw [show (st.takeWork .softmacScan).scanning = st.scanning from rfl, hscan]
        simp
      unfold beginWork softmacScanWq
      dsimp only
      rw [if_pos hnot]
    rw [hidle]
    split_ifs
    · exact ⟨h, rfl⟩
    · exact ⟨h.of_eq rfl rfl rfl rfl rfl hworks hsame, rfl⟩
  | startIbss => exact absurd hw h.ibss
  | associateRetry =>
    refine ⟨h.of_eq rfl rfl rfl rfl rfl hworks fun j hj => ?_, rfl⟩
    rcases List.mem_append.mp hj with hj | hj
    · exact Or.inl hj
    · exact Or.inr ⟨.associateRetry, List.mem_singleton.mp hj, by simp, by simp⟩
  | associateComplete => exact ⟨h.of_eq rfl rfl rfl rfl rfl hworks hsame, rfl⟩
  | associateProcedure => exact absurd hw h.procedure
  | wxSyncScan => exact absurd hw h.request
  | hwWakeup => exact ⟨h.of_eq rfl rfl rfl rfl rfl hworks hsame, rfl⟩
  | hwSleep => exact ⟨h.of_eq rfl rfl rfl rfl rfl hworks hsame, rfl⟩

/-- A work that has waited ends at once. -/
theorem advance_waiting (env : StationEnv) {w : Work} (hproto : st.protoStarted = false)
    (hproc : w ≠ .associateProcedure) (hibss : w ≠ .startIbss) :
    advance env st (.waiting w) = (none, st) := by
  cases w with
  | associateProcedure => exact absurd rfl hproc
  | startIbss => exact absurd rfl hibss
  | associateRetry =>
    change enterRetry st = (none, st)
    apply if_neg
    rw [hproto]
    simp
  | _ => rfl

theorem dormant_goOn (env : StationEnv) (h : Dormant st) {i : ℕ} {j : Job} (hi : st.jobs[i]? = some j)
    (hwork : j.isWork = true) :
    Dormant (goOn env st i j) ∧ (goOn env st i j).handed = st.handed := by
  obtain ⟨w, rfl, hproc, hibss⟩ := h.jobs j (List.mem_of_getElem? hi) hwork
  have hadv := @advance_waiting P { st with jobs := st.jobs.eraseIdx i } env w h.protoStarted hproc hibss
  have hgo : goOn env st i (.waiting w) = { st with jobs := st.jobs.eraseIdx i } := by
    unfold goOn
    rw [hadv]
    simp
  rw [hgo]
  refine ⟨h.of_eq rfl rfl rfl rfl rfl (List.Subset.refl _) fun j hj => ?_, rfl⟩
  exact Or.inl (List.mem_of_mem_eraseIdx hj)

/-- Nothing that is left does anything, and it stays so. -/
theorem dormant_step (h : Dormant st) {e : Event P} (he : st.leftover e = true) :
    Dormant (st.step e) ∧ (st.step e).handed = st.handed := by
  cases e with
  | associateTimer =>
    have hstep : st.step .associateTimer = st := if_pos h.associateTimer
    rw [hstep]
    exact ⟨h, rfl⟩
  | beaconTimer env =>
    have hstep : st.step (.beaconTimer env) = st := if_pos h.beaconTimer
    rw [hstep]
    exact ⟨h, rfl⟩
  | delayOver w =>
    change Dormant (st.delayOver w) ∧ (st.delayOver w).handed = st.handed
    unfold delayOver
    split_ifs
    · exact ⟨h.of_eq rfl rfl rfl rfl rfl (List.Subset.refl _) fun j hj => Or.inl hj, rfl⟩
    · exact ⟨h, rfl⟩
  | begin env w =>
    change Dormant (runWork env st w) ∧ (runWork env st w).handed = st.handed
    unfold runWork
    split_ifs with hrun
    · unfold runnable at hrun
      rw [Bool.and_eq_true, decide_eq_true_eq] at hrun
      exact dormant_beginWork env h hrun.1
    · exact ⟨h, rfl⟩
  | goOn env i =>
    change Dormant (resume env st i) ∧ (resume env st i).handed = st.handed
    rcases resume_cases env st i with hidle | ⟨j, hi, -, hgo⟩
    · rw [hidle]
      exact ⟨h, rfl⟩
    · have hwork : (st.jobs[i]?).all Job.isWork = true := he
      rw [hi, Option.all_some] at hwork
      rw [hgo]
      exact dormant_goOn env h hi hwork
  | _ => cases he

/-- A dormant station is stopped. -/
theorem Dormant.stopped (h : Dormant st) : Stopped st := by
  intro es hes
  have hstep : ∀ (s : Station P) (e : Event P), Dormant s ∧ s.handed = st.handed →
      s.leftover e = true → Dormant (s.step e) ∧ (s.step e).handed = st.handed := by
    intro s e ⟨hs, hhanded⟩ he
    obtain ⟨hd, hh⟩ := dormant_step hs he
    exact ⟨hd, hh.trans hhanded⟩
  obtain ⟨hd, hh⟩ := Run.inv_run hstep st es ⟨h, rfl⟩ hes
  refine ⟨hd.state, ?_⟩
  rw [hh]
  simp

/-! ### What a stop leaves -/

theorem mem_cancelDelayed {v w : Work} :
    v ∈ (st.cancelDelayed w).works ↔ v ∈ st.works ∧ (v = w → w ∈ st.due) := by
  unfold cancelDelayed
  split_ifs with hdue
  · simp [hdue]
  · simp [hdue]

@[simp] theorem cancelDelayed_due (st : Station P) (w : Work) : (st.cancelDelayed w).due = st.due := by
  unfold cancelDelayed
  split_ifs <;> rfl

@[simp] theorem stopTimers_due (st : Station P) : st.stopTimers.due = st.due := by
  unfold stopTimers
  dsimp only
  rw [cancelDelayed_due, cancelDelayed_due]
  rfl

/-- A work outlasts the timers unless it is one of the two that are cancelled. -/
theorem mem_stopTimers {w : Work} : w ∈ st.stopTimers.works ↔
    w ∈ st.works ∧ (w = .associateRetry → w ∈ st.due) ∧ (w = .startIbss → w ∈ st.due) := by
  unfold stopTimers
  dsimp only
  rw [mem_cancelDelayed, mem_cancelDelayed, cancelDelayed_due]
  change (w ∈ st.works ∧ (w = .associateRetry → Work.associateRetry ∈ st.due)) ∧
    (w = .startIbss → Work.startIbss ∈ st.due) ↔ _
  rw [and_assoc]
  refine and_congr_right fun _ => and_congr ?_ ?_ <;>
  · refine forall_congr' fun hw => ?_
    rw [hw]

@[simp] theorem stopScan_due (st : Station P) : st.stopScan.due = st.due := by
  unfold stopScan
  split_ifs
  · exact cancelDelayed_due st .softmacScan
  · rfl

theorem stopScan_scanning (st : Station P) : st.stopScan.scanning = false := by
  unfold stopScan
  split_ifs with hscan
  · rfl
  · simpa using hscan

theorem mem_stopScan {w : Work} : w ∈ st.stopScan.works ↔
    w ∈ st.works ∧ (st.scanning = true → w = .softmacScan → w ∈ st.due) := by
  unfold stopScan
  split_ifs with hscan
  · change w ∈ (st.cancelDelayed .softmacScan).works ↔ _
    rw [mem_cancelDelayed]
    refine and_congr_right fun _ => ?_
    simp only [hscan, true_imp_iff]
    refine forall_congr' fun hw => ?_
    rw [hw]
  · simp [hscan]

theorem stopLink_works (st : Station P) : st.stopLink.works = st.stopScan.works := by
  change (Rtl8187.disassociate st.stopScan.toDevice).works = _
  unfold Rtl8187.disassociate
  dsimp only
  split_ifs <;> rfl

/-- The timers, and whether the protocol is started, stay. -/
structure Still (st' st : Station P) : Prop where
  protoStarted : st'.protoStarted = st.protoStarted
  associateTimer : st'.associateTimer = st.associateTimer
  beaconTimer : st'.beaconTimer = st.beaconTimer

theorem Still.trans {st'' : Station P} (h : Still st'' st') (h' : Still st' st) : Still st'' st :=
  ⟨h.protoStarted.trans h'.protoStarted, h.associateTimer.trans h'.associateTimer,
    h.beaconTimer.trans h'.beaconTimer⟩

theorem cancelDelayed_still (st : Station P) (w : Work) : Still (st.cancelDelayed w) st := by
  unfold cancelDelayed
  split_ifs <;> exact ⟨rfl, rfl, rfl⟩

theorem stopScan_still (st : Station P) : Still st.stopScan st := by
  have hcancel := cancelDelayed_still st .softmacScan
  unfold stopScan
  split_ifs
  · exact ⟨hcancel.protoStarted, hcancel.associateTimer, hcancel.beaconTimer⟩
  · exact ⟨rfl, rfl, rfl⟩

theorem stopLink_still (st : Station P) : Still st.stopLink st := by
  refine Still.trans ?_ (stopScan_still st)
  unfold stopLink disassociate Rtl8187.disassociate
  dsimp only [mapDev]
  split_ifs <;> exact ⟨rfl, rfl, rfl⟩

/-- What a stop of a started protocol leaves behind. -/
structure AfterStop (st' st : Station P) : Prop where
  state : st'.state = .nolink
  protoStarted : st'.protoStarted = false
  associateTimer : st'.associateTimer = none
  beaconTimer : st'.beaconTimer = none
  scanning : st'.scanning = false
  wxSem : st'.wxSem = st.wxSem
  jobs : st'.jobs = st.jobs
  due : st'.due = st.due
  works : ∀ w, w ∈ st'.works → w ∈ st.works ∧ (w = .startIbss → w ∈ st.due)
  procedure : .associateProcedure ∈ st.works → .associateProcedure ∈ st'.works
  ibss : .startIbss ∈ st.works → .startIbss ∈ st.due → .startIbss ∈ st'.works

theorem stopProtocol_after (hproto : st.protoStarted = true) : AfterStop st.stopProtocol st := by
  have hstop : st.stopProtocol = st.stopTimers.stopLink := by
    apply if_neg
    simp [hproto]
  have hdel : Still st.stopTimers _ :=
    Still.trans (cancelDelayed_still _ .startIbss) (cancelDelayed_still _ .associateRetry)
  have hstill := (stopLink_still st.stopTimers).trans hdel
  rw [hstop]
  exact {
    state := rfl
    protoStarted := hstill.protoStarted
    associateTimer := hstill.associateTimer
    beaconTimer := hstill.beaconTimer
    scanning := stopScan_scanning st.stopTimers
    wxSem := ((stopLink_tame _).trans (stopTimers_tame st)).wxSem
    jobs := ((stopLink_tame _).trans (stopTimers_tame st)).jobs
    due := (stopScan_due st.stopTimers).trans (stopTimers_due st)
    works := by
      intro w hw
      rw [stopLink_works, mem_stopScan, mem_stopTimers] at hw
      exact ⟨hw.1.1, hw.1.2.2⟩
    procedure := by
      intro hw
      rw [stopLink_works, mem_stopScan, mem_stopTimers]
      simp [hw]
    ibss := by
      intro hw hdue
      rw [stopLink_works, mem_stopScan, mem_stopTimers]
      simp [hw, hdue] }

theorem Job.waiting_of_isWork {j : Job} (hwork : j.isWork = true) (hfree : j.holdsWx = false) :
    ∃ w, j = .waiting w := by
  cases j with
  | waiting w => exact ⟨w, rfl⟩
  | userScan ch => cases hwork
  | modulationStop cck ofdm => cases hwork
  | modulationStart => cases hwork
  | _ => cases hfree

/-- What a stop finds while nobody holds `wx_sem`. -/
theorem Clean.jobs (h : Clean st) (hheld : Held st) (hfree : st.wxSem = false)
    (hibss : .waiting .startIbss ∉ st.jobs) : ∀ j ∈ st.jobs, j.isWork = true →
      ∃ w, j = .waiting w ∧ w ≠ .associateProcedure ∧ w ≠ .startIbss := by
  intro j hj hwork
  obtain ⟨w, rfl⟩ := Job.waiting_of_isWork hwork ((hheld.free hfree).1 j hj)
  refine ⟨w, rfl, ?_, ?_⟩
  · rintro rfl
    exact h.procedure (Or.inr hj)
  · rintro rfl
    exact hibss hj

/-- A stop that finds nothing amiss leaves the station dormant. -/
theorem stop_dormant (hheld : Held st) (hfree : st.wxSem = false) (hscan : st.scanSem = false)
    (hclean : Clean st) : Dormant st.softmacStopProtocol := by
  have hstop : st.softmacStopProtocol = { st with syncScanHurryup := true }.stopProtocol := by
    apply if_neg
    simp [hfree, hscan]
  rw [hstop]
  have hibss : .waiting .startIbss ∉ st.jobs := fun hj => (hclean.ibss (Or.inr hj)).2.2 hj
  have hjobs := hclean.jobs hheld hfree hibss
  cases hproto : st.protoStarted with
  | true =>
    have hafter : AfterStop { st with syncScanHurryup := true }.stopProtocol
        { st with syncScanHurryup := true } := stopProtocol_after hproto
    exact {
      state := hafter.state
      protoStarted := hafter.protoStarted
      associateTimer := hafter.associateTimer
      beaconTimer := hafter.beaconTimer
      scan := fun hs => by rw [hafter.scanning] at hs; cases hs
      procedure := fun hw => hclean.procedure (Or.inl (hafter.works _ hw).1)
      ibss := fun hw =>
        (hclean.ibss (Or.inl (hafter.works _ hw).1)).2.1 ((hafter.works _ hw).2 rfl)
      request := fun hw => (hheld.free hfree).2 (hafter.works _ hw).1
      jobs := by
        rw [hafter.jobs]
        exact hjobs }
  | false =>
    have hnone : { st with syncScanHurryup := true }.stopProtocol =
        { st with syncScanHurryup := true } := by
      apply if_pos
      simp [hproto]
    obtain ⟨hstate, htimer, hbeacon, hscanning⟩ := hclean.idle hproto
    rw [hnone]
    exact {
      state := hstate
      protoStarted := hproto
      associateTimer := htimer
      beaconTimer := hbeacon
      scan := hscanning
      procedure := fun hw => hclean.procedure (Or.inl hw)
      ibss := fun hw => by
        have hstarted := (hclean.ibss (Or.inl hw)).1
        rw [hproto] at hstarted
        cases hstarted
      request := (hheld.free hfree).2
      jobs := hjobs }

/-! ### The two works run -/

/-- Whatever is left runs: the state stays NOLINK. -/
def Stays (st : Station P) : Prop :=
  ∀ es, Run.AllSteps step (fun s e => s.leftover e = true) st es → (Run.run step st es).state = .nolink

theorem Stopped.stays (h : Stopped st) : Stays st := fun es hes => (h es hes).1

theorem Stays.state (h : Stays st) : st.state = .nolink := h [] trivial

theorem Stays.step (h : Stays st) {e : Event P} (he : st.leftover e = true) : Stays (st.step e) :=
  fun es hes => h (e :: es) ⟨he, hes⟩

theorem Stays.goOn (h : Stays st) (env : StationEnv) {i : ℕ} {j : Job} (hi : st.jobs[i]? = some j)
    (hwork : j.isWork = true) (hready : st.ready j = true) : Stays (Station.goOn env st i j) := by
  have hleft : st.leftover (.goOn env i) = true := by
    change (st.jobs[i]?).all Job.isWork = true
    rw [hi]
    exact hwork
  have hstep : st.step (.goOn env i) = Station.goOn env st i j := by
    change resume env st i = _
    unfold resume
    rw [hi]
    exact if_pos hready
  rw [← hstep]
  exact h.step hleft

/-- Nothing can be allocated. -/
def noMemory : StationEnv := ⟨⟨0, false, fun _ => false, ⟨0, 0, 0, 0, 0, 0⟩⟩, ⟨0, 0, 0, 0, 0, 0⟩⟩

theorem scanSem_eraseIdx (h : st.scanSem = false) (i : ℕ) :
    (st.jobs.eraseIdx i).any Job.holdsScan = false := by
  unfold scanSem at h
  rw [List.any_eq_false] at h ⊢
  exact fun j hj => h j (List.mem_of_mem_eraseIdx hj)

/-- `ieee80211_associate_procedure_wq` leaves NOLINK. -/
theorem not_stays_procedure (hfree : st.wxSem = false) (hscan : st.scanSem = false)
    (hj : .waiting .associateProcedure ∈ st.jobs) : ¬ Stays st := by
  intro h
  obtain ⟨i, hi⟩ := List.mem_iff_getElem?.mp hj
  have hentered := h.goOn noMemory hi rfl (by simp [ready, hfree, hscan])
  have hjobs := goOn_jobs noMemory st i (.waiting .associateProcedure)
  have hlast : (Station.goOn noMemory st i (.waiting .associateProcedure)).jobs[
      (st.jobs.eraseIdx i).length]? = some .procedure := by
    rw [hjobs]
    exact List.getElem?_concat_length
  have hretry : (Station.goOn noMemory (Station.goOn noMemory st i (.waiting .associateProcedure))
      (st.jobs.eraseIdx i).length .procedure).state = .associatingRetry := associateAbort_state _
  have hleft := (hentered.goOn noMemory hlast rfl rfl).state
  rw [hretry] at hleft
  cases hleft

/-- The next channel is another one. -/
theorem lt_of_scanTurn {env : Env} {ch ch' : ℕ} (h : (scanTurn env st ch).1 = some ch') :
    ch < ch' ∧ ch' ≤ maxChannelNumber := by
  unfold scanTurn at h
  cases hnext : st.nextChannel ch with
  | none =>
    rw [hnext] at h
    cases h
  | some next =>
    rw [hnext] at h
    dsimp only at h
    have hmem := List.mem_of_find?_eq_some hnext
    rw [List.mem_range'_1] at hmem
    split_ifs at h
    cases h
    omega

/-- The scan of `ieee80211_start_ibss_wq` goes on at another channel, or ends in
LINKED. -/
theorem ibssTurn_cases (env : StationEnv) (st : Station P) (ch : ℕ) :
    (∃ ch', ch < ch' ∧ ch' ≤ maxChannelNumber ∧ (ibssTurn env st ch).1 = some (.ibssScan ch')) ∨
      (ibssTurn env st ch).2.state = .linked := by
  have hlt := @lt_of_scanTurn P st env.toEnv ch
  unfold ibssTurn
  generalize scanTurn env.toEnv st ch = r at hlt
  obtain ⟨next, st'⟩ := r
  cases next with
  | none => exact Or.inr rfl
  | some ch' =>
    obtain ⟨hlt, hle⟩ := hlt rfl
    exact Or.inl ⟨ch', hlt, hle, rfl⟩

/-- `ieee80211_start_ibss_wq` in its scan leaves NOLINK at its end, which comes
after at most all the channels. -/
theorem not_stays_ibssScan {l : List Job} {ch : ℕ} (hjobs : st.jobs = l ++ [.ibssScan ch])
    (hready : st.ready (.ibssScan ch) = true) : ¬ Stays st := by
  induction hn : maxChannelNumber - ch using Nat.strong_induction_on generalizing st ch with
  | h n ih =>
    intro h
    have hi : st.jobs[l.length]? = some (.ibssScan ch) := by
      rw [hjobs]
      exact List.getElem?_concat_length
    have hnext := h.goOn noMemory hi rfl hready
    have hlast := goOn_jobs noMemory st l.length (.ibssScan ch)
    have herase : st.jobs.eraseIdx l.length = l := by
      rw [hjobs, List.eraseIdx_append_of_length_le (Nat.le_refl _)]
      simp
    rcases ibssTurn_cases noMemory { st with jobs := st.jobs.eraseIdx l.length } ch with
      ⟨ch', hlt, hle, hturn⟩ | hlinked
    · have hturn' : (advance noMemory { st with jobs := st.jobs.eraseIdx l.length } (.ibssScan ch)).1 =
          some (.ibssScan ch') := hturn
      rw [hturn', herase] at hlast
      have hready' : (Station.goOn noMemory st l.length (.ibssScan ch)).ready (.ibssScan ch') = true := by
        have hne : ch' ≠ 0 := by omega
        simp [ready, hne]
      exact ih (maxChannelNumber - ch') (by omega) hlast hready' rfl hnext
    · have hleft : (Station.goOn noMemory st l.length (.ibssScan ch)).state = .nolink := hnext.state
      have hstate : (Station.goOn noMemory st l.length (.ibssScan ch)).state = .linked := hlinked
      rw [hstate] at hleft
      cases hleft

/-- `ieee80211_start_ibss_wq` leaves NOLINK, at once or after its scan. -/
theorem not_stays_ibss (hfree : st.wxSem = false) (hscan : st.scanSem = false)
    (hj : .waiting .startIbss ∈ st.jobs) : ¬ Stays st := by
  intro h
  obtain ⟨i, hi⟩ := List.mem_iff_getElem?.mp hj
  have hentered := h.goOn noMemory hi rfl (by simp [ready, hfree])
  have hjobs := goOn_jobs noMemory st i (.waiting .startIbss)
  have henter : (enterIbss noMemory { st with jobs := st.jobs.eraseIdx i }).1 = some (.ibssScan 0) ∨
      (enterIbss noMemory { st with jobs := st.jobs.eraseIdx i }).2.state = .linked := by
    unfold enterIbss
    dsimp only
    split_ifs
    · exact Or.inl rfl
    · exact Or.inr rfl
  rcases henter with hnext | hlinked
  · have hnext' : (advance noMemory { st with jobs := st.jobs.eraseIdx i } (.waiting .startIbss)).1 =
        some (.ibssScan 0) := hnext
    rw [hnext'] at hjobs
    have hready : (Station.goOn noMemory st i (.waiting .startIbss)).ready (.ibssScan 0) = true := by
      have hscan' := scanSem_eraseIdx hscan i
      unfold ready scanSem
      rw [hjobs]
      simp [hscan', Job.holdsScan]
    exact not_stays_ibssScan hjobs hready hentered
  · have hleft : (Station.goOn noMemory st i (.waiting .startIbss)).state = .nolink := hentered.state
    have hstate : (Station.goOn noMemory st i (.waiting .startIbss)).state = .linked := hlinked
    rw [hstate] at hleft
    cases hleft

/-- A pending work that runs waits for `wx_sem` first. -/
theorem Stays.begin_waiting (h : Stays st) {w : Work} (hrun : st.runnable w = true)
    (hjobs : (beginWork noMemory.toEnv st w).jobs = st.jobs ++ [.waiting w]) :
    Stays (beginWork noMemory.toEnv st w) ∧ .waiting w ∈ (beginWork noMemory.toEnv st w).jobs := by
  have hstep : st.step (.begin noMemory.toEnv w) = beginWork noMemory.toEnv st w := if_pos hrun
  refine ⟨hstep ▸ h.step rfl, ?_⟩
  rw [hjobs]
  exact List.mem_append_right _ (List.mem_singleton_self _)

/-- With one of the two works left, the station does not stay stopped. -/
theorem Stays.not_left (h : Stays st) (hfree : st.wxSem = false) (hscan : st.scanSem = false) :
    ¬ st.Left .associateProcedure ∧ .waiting .startIbss ∉ st.jobs ∧
      ¬ (.startIbss ∈ st.works ∧ .startIbss ∈ st.due) := by
  have hadd : ∀ w, (st.jobs ++ [Job.waiting w]).any Job.holdsScan = false := by
    intro w
    unfold scanSem at hscan
    rw [List.any_append, hscan]
    rfl
  refine ⟨?_, fun hj => not_stays_ibss hfree hscan hj h, ?_⟩
  · rintro (hw | hj)
    · have hrun : st.runnable .associateProcedure = true := by
        unfold runnable
        simp [hw, Work.delayed]
      have hfree' : (beginWork noMemory.toEnv st .associateProcedure).wxSem = false := hfree
      have hscan' : (beginWork noMemory.toEnv st .associateProcedure).scanSem = false := hadd _
      obtain ⟨hstays, hj⟩ := h.begin_waiting hrun rfl
      exact not_stays_procedure hfree' hscan' hj hstays
    · exact not_stays_procedure hfree hscan hj h
  · rintro ⟨hw, hdue⟩
    have hrun : st.runnable .startIbss = true := by
      unfold runnable
      simp [hw, hdue]
    have hfree' : (beginWork noMemory.toEnv st .startIbss).wxSem = false := hfree
    have hscan' : (beginWork noMemory.toEnv st .startIbss).scanSem = false := hadd _
    obtain ⟨hstays, hj⟩ := h.begin_waiting hrun rfl
    exact not_stays_ibss hfree' hscan' hj hstays

/-! ### Exactly when a stop stops -/

/-- A stop that stops has found nothing amiss. -/
theorem clean_of_stopped (hfree : st.wxSem = false) (hscan : st.scanSem = false)
    (hproto : st.protoStarted = true) (h : Stopped st.softmacStopProtocol) : Clean st := by
  have hstop : st.softmacStopProtocol = { st with syncScanHurryup := true }.stopProtocol := by
    apply if_neg
    simp [hfree, hscan]
  have hafter : AfterStop { st with syncScanHurryup := true }.stopProtocol
      { st with syncScanHurryup := true } := stopProtocol_after hproto
  rw [hstop] at h
  have hscan' : { st with syncScanHurryup := true }.stopProtocol.scanSem = false := by
    unfold scanSem
    rw [hafter.jobs]
    exact hscan
  obtain ⟨hproc, hwait, hibss⟩ := h.stays.not_left (hafter.wxSem.trans hfree) hscan'
  rw [hafter.jobs] at hwait
  rw [hafter.due] at hibss
  refine ⟨?_, fun hleft => ⟨hproto, fun hdue => ?_, hwait⟩, fun hidle => ?_⟩
  · rintro (hw | hj)
    · exact hproc (Or.inl (hafter.procedure hw))
    · refine hproc (Or.inr ?_)
      rw [hafter.jobs]
      exact hj
  · rcases hleft with hw | hj
    · exact hibss ⟨hafter.ibss hw hdue, hdue⟩
    · exact hwait hj
  · rw [hproto] at hidle
    cases hidle

end

/-- **When a stop stops.** From any reachable station, once the semaphores are
free, a stop that finds the station clean leaves it stopped, whatever is left
running in any order; and a stop of a started protocol leaves it stopped only
then. -/
theorem stop_stopped (st : Station P) (hreach : Reachable st) (hfree : st.wxSem = false)
    (hscan : st.scanSem = false) :
    (Clean st → Stopped st.softmacStopProtocol) ∧
      (st.protoStarted = true → Stopped st.softmacStopProtocol → Clean st) :=
  ⟨fun hclean => (stop_dormant (held_of_reachable hreach) hfree hscan hclean).stopped,
    clean_of_stopped hfree hscan⟩

/-- A station that looks for its network when it is stopped stays stopped. -/
theorem searching_stopped : Stopped (Run.run step onChannelOne (joining.take 3)).softmacStopProtocol :=
  (stop_stopped _ ⟨_, _, _, _, rfl⟩ (by decide +kernel) (by decide +kernel)).1
    ⟨by decide +kernel, by decide +kernel, by decide +kernel⟩

/-- One that has heard its access point does not: `ieee80211_associate_procedure_wq`
runs, and hands an authentication frame to the hardware. -/
theorem joining_not_stopped : ¬ ∀ st : Station Unit, Reachable st → st.wxSem = false →
    st.scanSem = false → Stopped st.softmacStopProtocol := by
  intro h
  have hstopped := h (Run.run step onChannelOne (joining.take 4)) ⟨_, _, _, _, rfl⟩
    (by decide +kernel) (by decide +kernel)
  have hsent := (hstopped ((joining.drop 4).take 3) (by decide +kernel)).2
  exact absurd hsent (by decide +kernel)

end Station

end Rtl8187

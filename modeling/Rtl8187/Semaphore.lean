/-
# Who holds `wx_sem`

`wx_sem` is taken by one work or call and given back by it at its end, or at
the end of the work it queues: `ieee80211_wx_set_scan` leaves the semaphore to
`ieee80211_wx_sync_scan_wq`. So when it is held there is one job or pending
work that holds it, and when it is free there is none (`held_of_reachable`).

Key definitions: `Held`.
Key theorems: `held_step`, `held_of_reachable`.
-/
import Rtl8187.StationSteps

namespace Rtl8187

variable {P : Type}

namespace Station

/-- `wx_sem` is held by exactly one job or pending scan on request, or is free
and held by none. -/
def Held (st : Station P) : Prop :=
  st.jobs.countP Job.holdsWx + st.works.count .wxSyncScan = st.wxSem.toNat

/-- What a step keeps that has nothing to do with `wx_sem`. -/
structure Frame (st' st : Station P) : Prop where
  jobs : st'.jobs = st.jobs
  wxSem : st'.wxSem = st.wxSem
  count : st'.works.count .wxSyncScan = st.works.count .wxSyncScan

section

variable {st st' : Station P}

theorem Tame.frame (h : Tame st' st) : Frame st' st := ⟨h.jobs, h.wxSem, h.dev.syncScan⟩

theorem Held.of_frame (h : Held st) (hf : Frame st' st) : Held st' := by
  unfold Held
  rw [hf.jobs, hf.wxSem, hf.count]
  exact h

/-- A job that does not hold `wx_sem` makes no difference. -/
theorem Held.add_job (h : Held st) {j : Job} (hj : j.holdsWx = false)
    (hjobs : st'.jobs = st.jobs ++ [j]) (hw : st'.wxSem = st.wxSem)
    (hc : st'.works.count .wxSyncScan = st.works.count .wxSyncScan) : Held st' := by
  unfold Held at h ⊢
  rw [hjobs, hw, hc, List.countP_append]
  simpa [hj] using h

/-- While it is free, nobody holds it. -/
theorem Held.free (h : Held st) (hfree : st.wxSem = false) :
    (∀ j ∈ st.jobs, j.holdsWx = false) ∧ Work.wxSyncScan ∉ st.works := by
  unfold Held at h
  rw [hfree, Bool.toNat_false, Nat.add_eq_zero_iff] at h
  exact ⟨by simpa using List.countP_eq_zero.mp h.1, List.count_eq_zero.mp h.2⟩

/-- Nobody else holds it. -/
theorem Held.alone (h : Held st) {i : ℕ} {j : Job} (hi : st.jobs[i]? = some j)
    (hj : j.holdsWx = true) :
    st.wxSem = true ∧ (∀ k ∈ st.jobs.eraseIdx i, k.holdsWx = false) ∧ Work.wxSyncScan ∉ st.works := by
  obtain ⟨hlt, hget⟩ := List.getElem?_eq_some_iff.mp hi
  have hperm := (List.getElem_cons_eraseIdx_perm hlt).countP_eq Job.holdsWx
  unfold Held at h
  rw [← hperm, hget, List.countP_cons_of_pos hj] at h
  have hle := Bool.toNat_le st.wxSem
  have herase : (st.jobs.eraseIdx i).countP Job.holdsWx = 0 := by omega
  have hcount : st.works.count .wxSyncScan = 0 := by omega
  refine ⟨?_, by simpa using List.countP_eq_zero.mp herase, List.count_eq_zero.mp hcount⟩
  have hone : st.wxSem.toNat = 1 := by omega
  simpa using hone

/-- Two jobs that hold it are the same. -/
theorem Held.eq (h : Held st) {i : ℕ} {j k : Job} (hi : st.jobs[i]? = some j)
    (hj : j.holdsWx = true) (hk : k ∈ st.jobs) (hkw : k.holdsWx = true) : k = j := by
  obtain ⟨-, hothers, -⟩ := h.alone hi hj
  obtain ⟨hlt, hget⟩ := List.getElem?_eq_some_iff.mp hi
  rw [← (List.getElem_cons_eraseIdx_perm hlt).mem_iff, hget] at hk
  rcases List.mem_cons.mp hk with hk | hk
  · exact hk
  · rw [hothers k hk] at hkw
    cases hkw

/-! ### Frames and timers -/

theorem rxFrameMgmt_frame (env : Env) (st : Station P) (skb : SkBuff) (stats : RxStats)
    (stack : HeardNetwork) : Frame (rxFrameMgmt env st skb stats stack) st := by
  obtain ⟨hdev, hjobs, hsem⟩ := rxFrameMgmt_same env st skb stats stack
  exact ⟨hjobs, hsem, hdev.syncScan⟩

/-! ### Works -/

theorem held_beginWork (env : Env) (h : Held st) {w : Work} (hw : w ∈ st.works) :
    Held (beginWork env st w) := by
  cases w with
  | softmacScan =>
    unfold beginWork
    dsimp only
    split_ifs
    · exact h
    · exact h.of_frame ((softmacScanWq_tame env _).trans (takeWork_tame st (by simp))).frame
  | startIbss => exact h.add_job rfl rfl rfl (takeWork_tame st (by simp)).frame.count
  | associateRetry => exact h.add_job rfl rfl rfl (takeWork_tame st (by simp)).frame.count
  | associateComplete => exact h.of_frame ⟨rfl, rfl, (takeWork_tame st (by simp)).frame.count⟩
  | associateProcedure => exact h.add_job rfl rfl rfl (takeWork_tame st (by simp)).frame.count
  | wxSyncScan =>
    have hjobs : (beginWork env st .wxSyncScan).jobs = st.jobs ++ [.syncScan 0] := rfl
    have hworks : (beginWork env st .wxSyncScan).works = st.works.filter (· ≠ .wxSyncScan) := rfl
    have hsem : (beginWork env st .wxSyncScan).wxSem = st.wxSem := rfl
    have hnone : (st.works.filter (· ≠ .wxSyncScan)).count .wxSyncScan = 0 :=
      List.count_eq_zero.mpr (by simp)
    have hpos := List.count_pos_iff.mpr hw
    have hle := Bool.toNat_le st.wxSem
    unfold Held at h ⊢
    rw [hjobs, hworks, hsem, hnone, List.countP_append]
    simp only [List.countP_singleton, Job.holdsWx, if_true]
    omega
  | hwWakeup => exact h.of_frame (takeWork_tame st (by simp)).frame
  | hwSleep => exact h.of_frame (takeWork_tame st (by simp)).frame

/-- Who takes `wx_sem` has found it free. -/
theorem free_of_takes (env : StationEnv) {j : Job} (hready : st.ready j = true)
    (hj : j.holdsWx = false) (hnext : (advance env st' j).1.any Job.holdsWx = true) :
    st.wxSem = false := by
  cases j with
  | waiting w => cases w <;> simp_all [ready]
  | userScan ch =>
    unfold advance userTurn at hnext
    cases hturn : (scanTurn env.toEnv st' ch).1 <;> simp [hturn, Job.holdsWx] at hnext
  | modulationStop cck ofdm => cases hnext
  | modulationStart => cases hnext
  | procedure => cases hj
  | retry => cases hj
  | ibssScan ch => cases hj
  | ibssBeacons => cases hj
  | syncScan ch => cases hj
  | syncRestore => cases hj
  | change c restart => cases hj

theorem goOn_jobs (env : StationEnv) (st : Station P) (i : ℕ) (j : Job) :
    (goOn env st i j).jobs = st.jobs.eraseIdx i ++
      (advance env { st with jobs := st.jobs.eraseIdx i } j).1.toList := by
  have heq := (advance_advances env { st with jobs := st.jobs.eraseIdx i } j).jobs
  unfold goOn
  dsimp only
  rw [heq]

/-- Who goes on from waiting for `wx_sem` takes it, who ends gives it back. -/
theorem held_goOn (env : StationEnv) (h : Held st) {i : ℕ} {j : Job} (hi : st.jobs[i]? = some j)
    (hready : st.ready j = true) : Held (goOn env st i j) := by
  have hadv := advance_advances env { st with jobs := st.jobs.eraseIdx i } j
  obtain ⟨hlt, hget⟩ := List.getElem?_eq_some_iff.mp hi
  have hperm := (List.getElem_cons_eraseIdx_perm hlt).countP_eq Job.holdsWx
  have hsem := hadv.wxSem fun hj => (h.alone hi hj).1
  have hfree := @free_of_takes P st { st with jobs := st.jobs.eraseIdx i } env j hready
  have hcount : (goOn env st i j).works.count .wxSyncScan = st.works.count .wxSyncScan := hadv.count
  have hwx : (goOn env st i j).wxSem = _ := hsem
  have hle := Bool.toNat_le st.wxSem
  unfold Held at h ⊢
  rw [goOn_jobs, hcount, hwx, List.countP_append]
  rw [← hperm, hget, List.countP_cons] at h
  generalize (advance env { st with jobs := st.jobs.eraseIdx i } j).1 = next at hfree
  cases hj : j.holdsWx with
  | true =>
    rw [hj, if_pos rfl] at h
    cases next with
    | none =>
      simp only [Option.toList_none, List.countP_nil, Option.any_none, Bool.not_true, Bool.false_and,
        Bool.or_self, Bool.toNat_false]
      omega
    | some k =>
      simp only [Option.toList_some, List.countP_singleton, Option.any_some, Bool.not_true,
        Bool.false_and, Bool.or_false]
      cases k.holdsWx <;> simp only [if_true, Bool.toNat_true, Bool.toNat_false] <;> grind
  | false =>
    rw [hj] at h
    cases next with
    | none => simpa using h
    | some k =>
      cases hk : k.holdsWx with
      | false => simpa [hk] using h
      | true =>
        rw [hfree hj hk] at h
        simp only [Bool.toNat_false] at h
        simp [hk]
        omega

/-! ### Requests -/

theorem held_wxSet (h : Held st) (c : Change) (ifup : Bool) : Held (st.wxSet c ifup) := by
  unfold wxSet
  by_cases hbusy : (st.wxSem || st.scanSem) = true
  · rw [if_pos hbusy]
    exact h
  · rw [if_neg hbusy]
    have hfree : st.wxSem = false := by
      rw [Bool.or_eq_true, not_or] at hbusy
      simpa using hbusy.1
    unfold request
    extract_lets restart hurried stopped
    have hstopped : Frame stopped st := by
      unfold stopped
      split_ifs
      · have hhurried : Tame hurried st := Tame.of_dev rfl rfl rfl
        exact ((stopProtocol_tame hurried).trans hhurried).frame
      · exact ⟨rfl, rfl, rfl⟩
    split_ifs
    · unfold Held at h ⊢
      dsimp only
      rw [hstopped.count, List.countP_append]
      rw [hfree, Bool.toNat_false] at h
      simp only [List.countP_singleton, Job.holdsWx, if_true, Bool.toNat_true]
      omega
    · exact h.of_frame ⟨rfl, rfl, rfl⟩

theorem held_setModulation (h : Held st) (cck ofdm : Bool) : Held (st.setModulation cck ofdm) := by
  have hstop := stopTimers_tame st
  unfold setModulation
  split_ifs
  · exact h.add_job rfl rfl hstop.wxSem hstop.dev.syncScan
  · exact h.of_frame ⟨rfl, rfl, rfl⟩

theorem held_wxSetScan (h : Held st) : Held st.wxSetScan := by
  unfold wxSetScan
  split_ifs with hscan
  · obtain ⟨hfree, -⟩ := hscan
    rw [Bool.not_eq_true] at hfree
    unfold Held at h ⊢
    rw [hfree, Bool.toNat_false] at h
    simp only [mapDev_toDevice, List.count_append, List.count_singleton_self, Bool.toNat_true]
    exact congrArg (· + 1) h
  · exact h

theorem held_startUserScan (h : Held st) : Held st.startUserScan := by
  unfold startUserScan
  split_ifs
  · exact h
  · exact h.add_job rfl rfl rfl rfl

/-- No step leaves `wx_sem` to two, or held by none. -/
theorem held_step (h : Held st) (e : Event P) : Held (st.step e) := by
  cases e with
  | rx env skb stats stack => exact h.of_frame (rxFrameMgmt_frame env st skb stats stack)
  | associateTimer => exact h.of_frame (associateAbortCb_tame st).frame
  | beaconTimer env => exact h.of_frame (sendBeaconCb_tame env st).frame
  | delayOver w => exact h.of_frame (delayOver_tame st w).frame
  | begin env w =>
    change Held (runWork env st w)
    unfold runWork
    split_ifs with hrun
    · unfold runnable at hrun
      rw [Bool.and_eq_true, decide_eq_true_eq] at hrun
      exact held_beginWork env h hrun.1
    · exact h
  | goOn env i =>
    change Held (resume env st i)
    rcases resume_cases env st i with hidle | ⟨j, hi, hready, hgo⟩
    · rw [hidle]
      exact h
    · rw [hgo]
      exact held_goOn env h hi hready
  | hurry => exact h.of_frame ⟨rfl, rfl, rfl⟩
  | request c ifup => exact held_wxSet h c ifup
  | setModulation cck ofdm => exact held_setModulation h cck ofdm
  | wxSetScan => exact held_wxSetScan h
  | userScan => exact held_startUserScan h
  | scanEssid essid => exact h.of_frame (scanEssid_tame st essid).frame
  | disassociate => exact h.of_frame (disassociate_tame st).frame
  | startProtocol => exact h.of_frame (softmacStartProtocol_tame st).frame
  | stopProtocol => exact h.of_frame (softmacStopProtocol_tame st).frame
  | down => exact h.of_frame (clearNetwork_tame st).frame
  | setFreq env chan => exact h.of_frame (setFreq_tame env st chan).frame
  | supplicantAdhoc =>
    change Held st.supplicantAdhoc
    unfold supplicantAdhoc
    split_ifs
    · exact h
    · exact h.of_frame ⟨rfl, rfl, rfl⟩
  | other act => exact h.of_frame ⟨rfl, rfl, act.syncScan_eq _⟩

/-- `wx_sem` is held by one at most, in every run. -/
theorem held_of_reachable (h : Reachable st) : Held st := by
  obtain ⟨kernel, devAddr, channelMap, es, rfl⟩ := h
  have hinit : Held (init P kernel devAddr channelMap) := rfl
  have hstep : ∀ (st : Station P) (e : Event P), Held st → True → Held (st.step e) :=
    fun _ e hs _ => held_step hs e
  exact Run.inv_run hstep _ es hinit (Run.allSteps_true _ es)

end

end Station

end Rtl8187

/-
# The association handshake

In infrastructure mode a station becomes linked by an authentication response
and an association response, both with status 0, and gets LINKED back after a
scan only if the link was not lost during it. A `Watch` beside the station
notes what the frames have said since the state was last NOLINK.

Two works break this, since they set LINKED after they have waited, without
looking at the state again: `ieee80211_start_ibss_wq`, when it was queued in ad
hoc mode and runs in infrastructure mode, and `ieee80211_wx_sync_scan_wq`, when
it begins with the link already lost, or the link is lost during its scan. No
other step does (`handshake_kept`).

Key definitions: `Watch`, `watchStep`, `HandshakeKept`, `Sound`, `Watched`.
Key theorems: `step_links`, `watched_step`, `handshake_kept`.
-/
import Rtl8187.Semaphore

namespace Rtl8187

open Bytes

variable {P : Type}

instance (d : Device P) (skb : SkBuff) : Decidable (TakesAuth d skb) := by
  unfold TakesAuth
  infer_instance

instance (d : Device P) (skb : SkBuff) : Decidable (TakesAssoc d skb) := by
  unfold TakesAssoc
  infer_instance

/-- The frame ends the link of a linked station. -/
def endsLink (skb : SkBuff) : Bool :=
  fcStype (frameCtl skb.data) == stypeDisassoc || fcStype (frameCtl skb.data) == stypeDeauth

/-- What the frames have said: since the state was last NOLINK, an
authentication response with status 0 came while one was waited for, and after
it an association response; and the link is up. -/
structure Watch where
  auth : Bool
  assoc : Bool
  up : Bool

namespace Station

/-- The frame for this station that the event brings. -/
def heard (st : Station P) : Event P → Option SkBuff
  | .rx _ skb _ _ => if addr1 skb.data = st.devAddr then some skb else none
  | _ => none

/-- The link after the step: a frame that ends it does so in a scan too. -/
def linkUp (st : Station P) (e : Event P) (up : Bool) : Bool :=
  match (st.step e).state with
  | .linked => true
  | .linkedScanning =>
    st.state == .linked || (st.state == .linkedScanning && up && !(st.heard e).any endsLink)
  | _ => false

/-- The watch after the step. -/
def watch (st : Station P) (e : Event P) (w : Watch) : Watch :=
  if (st.step e).state = .nolink then ⟨false, false, false⟩
  else
    { auth := w.auth || (st.heard e).any fun skb => TakesAuth st.toDevice skb
      assoc := w.assoc || (w.auth && (st.heard e).any fun skb => TakesAssoc st.toDevice skb)
      up := st.linkUp e w.up }

/-- A step of a station that is watched. -/
def watchStep (s : Station P × Watch) (e : Event P) : Station P × Watch :=
  (s.1.step e, s.1.watch e s.2)

/-- In infrastructure mode, the step leads to LINKED from an unlinked state
only at the end of the handshake, and from a scan only with the link up. -/
def HandshakeKept (s : Station P × Watch) (e : Event P) : Prop :=
  (s.1.step e).iwMode = .infra → (s.1.step e).state = .linked →
    (s.1.state ≠ .linked → s.1.state ≠ .linkedScanning → (s.1.watch e s.2).assoc = true) ∧
      (s.1.state = .linkedScanning → s.2.up = true)

instance (s : Station P × Watch) (e : Event P) : Decidable (HandshakeKept s e) := by
  unfold HandshakeKept
  infer_instance

/-- The state in which a work may set LINKED. -/
def mayLink (st : Station P) : Job → Prop
  | .syncRestore => st.state = .linked ∨ st.state = .linkedScanning
  | _ => st.state = .linked

/-- The step is none of those that set LINKED without looking: in
infrastructure mode, `ieee80211_start_ibss_wq` goes on only while linked,
`ieee80211_wx_sync_scan_wq` begins only while linked and ends only while still
scanning, and no frame ends the link during its scan. -/
def Sound (st : Station P) (e : Event P) : Prop :=
  st.iwMode = .infra →
    match e with
    | .rx _ _ _ _ => st.state = .linkedScanning → (st.heard e).any endsLink = false
    | .begin _ w => w = .wxSyncScan → st.runnable w = true → st.state = .linked
    | .goOn _ i => ∀ j, st.jobs[i]? = some j → j.links = true → st.ready j = true → st.mayLink j
    | _ => True

instance (st : Station P) : (j : Job) → Decidable (st.mayLink j)
  | .syncRestore => inferInstanceAs (Decidable (st.state = .linked ∨ st.state = .linkedScanning))
  | .waiting _ | .procedure | .retry | .ibssScan _ | .ibssBeacons | .syncScan _ | .userScan _
  | .change _ _ | .modulationStop _ _ | .modulationStart =>
    inferInstanceAs (Decidable (st.state = .linked))

instance (st : Station P) : (e : Event P) → Decidable (Sound st e)
  | .rx env skb stats stack => inferInstanceAs (Decidable (st.iwMode = .infra → st.state = .linkedScanning →
      (st.heard (.rx env skb stats stack)).any endsLink = false))
  | .begin _ w => inferInstanceAs (Decidable (st.iwMode = .infra → w = .wxSyncScan →
      st.runnable w = true → st.state = .linked))
  | .goOn _ i => inferInstanceAs (Decidable (st.iwMode = .infra → ∀ j ∈ st.jobs[i]?,
      j.links = true → st.ready j = true → st.mayLink j))
  | .associateTimer | .beaconTimer _ | .delayOver _ | .hurry | .request _ _ | .setModulation _ _
  | .wxSetScan | .userScan | .scanEssid _ | .disassociate | .startProtocol | .stopProtocol
  | .down | .setFreq _ _ | .supplicantAdhoc | .other _ =>
    isTrue fun _ => trivial

section

variable {st : Station P}

/-! ### What a step does to the association -/

/-- A frame that answers an authentication or association is no beacon. -/
theorem rxMgt_of_takes (env : Env) (st : Station P) (skb : SkBuff) (stats : RxStats)
    (stack : HeardNetwork) {d : Device P} (h : TakesAuth d skb ∨ TakesAssoc d skb) :
    rxMgt env st skb stats stack = st := by
  apply if_neg
  rcases h with ⟨-, -, hst, -⟩ | ⟨-, -, hst | hst, -⟩ <;> rw [hst] <;> decide

/-- A received frame answers the authentication or association, or gains
nothing. -/
theorem rxFrameMgmt_links (env : Env) (st : Station P) (skb : SkBuff) (stats : RxStats)
    (stack : HeardNetwork) : Links (rxFrameMgmt env st skb stats stack) st ∨
      (addr1 skb.data = st.devAddr ∧
        ((TakesAuth st.toDevice skb ∧
            (rxFrameMgmt env st skb stats stack).state = .associatingAuthenticated) ∨
          (TakesAssoc st.toDevice skb ∧ (rxFrameMgmt env st skb stats stack).state = .linked))) := by
  have hmgt := rxMgt_tame env st skb stats stack
  have htakes := @rxMgt_of_takes P env st skb stats stack (rxMgt env st skb stats stack).toDevice
  unfold rxFrameMgmt
  extract_lets st₁
  by_cases haddr : addr1 skb.data = st₁.devAddr
  · rw [if_neg (not_not.mpr haddr)]
    rcases rxFrameSoftmac_link env st₁.toDevice skb with h | ⟨-, ⟨h, hs⟩ | ⟨h, hs⟩⟩
    · exact Or.inl ((mapDev_tame st₁ h.step).trans hmgt).links
    · have hst₁ : st₁ = st := htakes (Or.inl h)
      rw [hst₁] at haddr h hs ⊢
      exact Or.inr ⟨haddr, Or.inl ⟨h, hs⟩⟩
    · have hst₁ : st₁ = st := htakes (Or.inr h)
      rw [hst₁] at haddr h hs ⊢
      exact Or.inr ⟨haddr, Or.inr ⟨h, hs⟩⟩
  · rw [if_pos haddr]
    exact Or.inl hmgt.links

/-- What a step may gain. -/
inductive Gains (st : Station P) (e : Event P) : Prop where
  | nothing (h : Links (st.step e) st)
  | auth (skb : SkBuff) (hheard : st.heard e = some skb) (h : TakesAuth st.toDevice skb)
      (hs : (st.step e).state = .associatingAuthenticated)
  | assoc (skb : SkBuff) (hheard : st.heard e = some skb) (h : TakesAssoc st.toDevice skb)
      (hs : (st.step e).state = .linked)
  | scan (env : Env) (he : e = .begin env .wxSyncScan) (hrun : st.runnable .wxSyncScan = true)
      (hs : (st.step e).state = .linkedScanning)
  | job (env : StationEnv) (i : ℕ) (j : Job) (he : e = .goOn env i) (hi : st.jobs[i]? = some j)
      (hready : st.ready j = true) (hj : j.links = true) (hs : (st.step e).state = .linked)

theorem Links.of_state {st' : Station P} (h : st'.state = st.state) : Links st' st := Or.inl h

theorem beginWork_links (env : Env) (st : Station P) {w : Work} (hw : w ≠ .wxSyncScan) :
    Links (beginWork env st w) st := by
  cases w with
  | softmacScan =>
    have hscan := (softmacScanWq_tame env (st.takeWork .softmacScan)).trans (takeWork_tame st hw)
    unfold beginWork
    dsimp only
    split_ifs
    · exact Links.of_state rfl
    · exact hscan.links
  | wxSyncScan => exact absurd rfl hw
  | startIbss => exact Links.of_state rfl
  | associateRetry => exact Links.of_state rfl
  | associateComplete => exact Links.of_state rfl
  | associateProcedure => exact Links.of_state rfl
  | hwWakeup => exact Links.of_state rfl
  | hwSleep => exact Links.of_state rfl

theorem wxSet_links (st : Station P) (c : Change) (ifup : Bool) : Links (st.wxSet c ifup) st := by
  unfold wxSet
  split_ifs
  · exact Links.of_state rfl
  · unfold request
    extract_lets restart hurried stopped
    have hhurried : Tame hurried st := Tame.of_dev rfl rfl rfl
    split_ifs
    · have hstopped : Tame stopped st := by
        unfold stopped
        split_ifs
        · exact (stopProtocol_tame hurried).trans hhurried
        · exact hhurried
      exact hstopped.links
    · exact hhurried.links

theorem step_links (st : Station P) (e : Event P) : Gains st e := by
  cases e with
  | rx env skb stats stack =>
    rcases rxFrameMgmt_links env st skb stats stack with h | ⟨haddr, ⟨h, hs⟩ | ⟨h, hs⟩⟩
    · exact .nothing h
    · exact .auth skb (if_pos haddr) h hs
    · exact .assoc skb (if_pos haddr) h hs
  | associateTimer => exact .nothing (associateAbortCb_tame st).links
  | beaconTimer env => exact .nothing (sendBeaconCb_tame env st).links
  | delayOver w => exact .nothing (delayOver_tame st w).links
  | begin env w =>
    by_cases hrun : st.runnable w = true
    · have hstep : st.step (.begin env w) = beginWork env st w := if_pos hrun
      by_cases hw : w = .wxSyncScan
      · cases hw
        exact .scan env rfl hrun (by rw [hstep]; rfl)
      · refine .nothing ?_
        rw [hstep]
        exact beginWork_links env st hw
    · have hstep : st.step (.begin env w) = st := if_neg hrun
      exact .nothing (Links.of_state (by rw [hstep]))
  | goOn env i =>
    rcases resume_cases env st i with hidle | ⟨j, hi, hready, hgo⟩
    · exact .nothing (Links.of_state (congrArg (·.state) hidle))
    · rcases (advance_advances env { st with jobs := st.jobs.eraseIdx i } j).link with h | ⟨hj, hs⟩
      · refine .nothing ?_
        change Links (resume env st i) st
        rw [hgo]
        exact h
      · refine .job env i j rfl hi hready hj ?_
        change (resume env st i).state = .linked
        rw [hgo]
        exact hs
  | hurry => exact .nothing (Links.of_state rfl)
  | request c ifup => exact .nothing (wxSet_links st c ifup)
  | setModulation cck ofdm =>
    have hstop := (stopTimers_tame st).links
    refine .nothing ?_
    change Links (st.setModulation cck ofdm) st
    unfold setModulation
    split_ifs
    · exact hstop
    · exact Links.of_state rfl
  | wxSetScan =>
    refine .nothing (Links.of_state ?_)
    change st.wxSetScan.state = st.state
    unfold wxSetScan
    split_ifs <;> rfl
  | userScan =>
    refine .nothing (Links.of_state ?_)
    change st.startUserScan.state = st.state
    unfold startUserScan
    split_ifs <;> rfl
  | scanEssid essid => exact .nothing (scanEssid_tame st essid).links
  | disassociate => exact .nothing (disassociate_tame st).links
  | startProtocol => exact .nothing (softmacStartProtocol_tame st).links
  | stopProtocol => exact .nothing (softmacStopProtocol_tame st).links
  | down => exact .nothing (clearNetwork_tame st).links
  | setFreq env chan => exact .nothing (setFreq_tame env st chan).links
  | supplicantAdhoc =>
    refine .nothing (Links.of_state ?_)
    change st.supplicantAdhoc.state = st.state
    unfold supplicantAdhoc
    split_ifs <;> rfl
  | other act => exact .nothing (Links.of_state (act.state_eq _))

/-- A scan on request that has begun goes on, or ends in LINKED. -/
theorem goOn_syncs (env : StationEnv) {i : ℕ} {j : Job} (hi : st.jobs[i]? = some j)
    (h : ∃ k ∈ st.jobs, k.syncs = true) :
    (∃ k ∈ (goOn env st i j).jobs, k.syncs = true) ∨ (goOn env st i j).state = .linked := by
  obtain ⟨k, hk, hsyncs⟩ := h
  obtain ⟨hlt, hget⟩ := List.getElem?_eq_some_iff.mp hi
  rw [← (List.getElem_cons_eraseIdx_perm hlt).mem_iff, hget] at hk
  rw [goOn_jobs]
  rcases List.mem_cons.mp hk with rfl | hk
  · rcases (advance_advances env { st with jobs := st.jobs.eraseIdx i } k).syncs hsyncs with hnext | hs
    · obtain ⟨next, hnext, hsyncs⟩ := (Option.any_eq_true _ _).mp hnext
      exact Or.inl ⟨next, List.mem_append_right _ (Option.mem_toList.mpr hnext), hsyncs⟩
    · exact Or.inr hs
  · exact Or.inl ⟨k, List.mem_append_left _ hk, hsyncs⟩

/-! ### The handshake in every run -/

/-- What holds of a watched station: authenticated means that the response
came, and scanning while linked means that a scan on request goes on and, in
infrastructure mode, that the link is up. -/
structure Watched (s : Station P × Watch) : Prop where
  held : Held s.1
  auth : s.1.state = .associatingAuthenticated → s.2.auth = true
  scan : s.1.state = .linkedScanning → ∃ j ∈ s.1.jobs, j.syncs = true
  up : s.1.iwMode = .infra → s.1.state = .linkedScanning → s.2.up = true

theorem watched_init (kernel : KernelConfig) (devAddr : Mac) (channelMap : ℕ → Bool) :
    Watched (init P kernel devAddr channelMap, ⟨false, false, false⟩) where
  held := rfl
  auth hs := by cases hs
  scan hs := by cases hs
  up _ hs := by cases hs

theorem Job.holdsWx_of_syncs {j : Job} (h : j.syncs = true) : j.holdsWx = true := by
  cases j with
  | syncScan ch => rfl
  | syncRestore => rfl
  | _ => cases h

theorem Job.holdsWx_of_changesMode {j : Job} (h : j.changesMode = true) : j.holdsWx = true := by
  cases j with
  | change c restart => rfl
  | _ => cases h

theorem Job.syncs_of_changesMode {j : Job} (h : j.changesMode = true) : j.syncs = false := by
  cases j with
  | change c restart => rfl
  | _ => cases h

/-- Whose scan on request has begun changes no mode meanwhile. -/
theorem Held.mode (h : Held st) (hscan : ∃ j ∈ st.jobs, j.syncs = true) {e : Event P}
    (hmode : (st.step e).iwMode = .infra) : st.iwMode = .infra := by
  by_cases he : ∀ env i, e ≠ .goOn env i
  · exact (step_keeps st he).mode hmode
  · push Not at he
    obtain ⟨env, i, rfl⟩ := he
    change (resume env st i).iwMode = .infra at hmode
    rcases resume_cases env st i with hidle | ⟨j, hi, -, hgo⟩
    · rwa [hidle] at hmode
    · rw [hgo] at hmode
      cases hj : j.changesMode with
      | false => rwa [goOn_mode env st i hj] at hmode
      | true =>
        obtain ⟨k, hk, hsyncs⟩ := hscan
        have hkj := h.eq hi (Job.holdsWx_of_changesMode hj) hk (Job.holdsWx_of_syncs hsyncs)
        rw [hkj, Job.syncs_of_changesMode hj] at hsyncs
        cases hsyncs

/-- A scan on request that has begun goes on, or the step ends in LINKED. -/
theorem step_syncs (h : ∃ j ∈ st.jobs, j.syncs = true) (e : Event P) :
    (∃ j ∈ (st.step e).jobs, j.syncs = true) ∨ (st.step e).state = .linked := by
  by_cases he : ∀ env i, e ≠ .goOn env i
  · obtain ⟨j, hj, hsyncs⟩ := h
    exact Or.inl ⟨j, (step_keeps st he).jobs hj, hsyncs⟩
  · push Not at he
    obtain ⟨env, i, rfl⟩ := he
    change (∃ j ∈ (resume env st i).jobs, j.syncs = true) ∨ (resume env st i).state = .linked
    rcases resume_cases env st i with hidle | ⟨j, hi, -, hgo⟩
    · rw [hidle]
      exact Or.inl h
    · rw [hgo]
      exact goOn_syncs env hi h

/-- A state that no tame step leads to was there before. -/
theorem Links.state_eq {st' : Station P} (h : Links st' st) {s : State} (hs : st'.state = s)
    (hbelow : s.below = false) (hlinked : s ≠ .linked) : st.state = s := by
  rcases h with heq | hb | ⟨hl, -⟩
  · exact heq.symm.trans hs
  · rw [hs, hbelow] at hb
    cases hb
  · exact absurd (hs.symm.trans hl) hlinked

/-- Whoever becomes authenticated has got the response. -/
theorem step_auth {w : Watch} (h : Watched (st, w)) (e : Event P)
    (hs : (st.step e).state = .associatingAuthenticated) : (st.watch e w).auth = true := by
  have hwatch : (st.watch e w).auth =
      (w.auth || (st.heard e).any fun skb => TakesAuth st.toDevice skb) := by
    unfold watch
    rw [if_neg (by simp [hs])]
  rw [hwatch, Bool.or_eq_true]
  cases step_links st e with
  | nothing hlink => exact Or.inl (h.auth (hlink.state_eq hs rfl (by simp)))
  | auth skb hheard htakes _ =>
    rw [hheard]
    exact Or.inr (by simpa using htakes)
  | assoc skb _ _ hlinked => cases hs.symm.trans hlinked
  | scan env _ _ hscan => cases hs.symm.trans hscan
  | job env i j _ _ _ _ hlinked => cases hs.symm.trans hlinked

theorem step_scan {w : Watch} (h : Watched (st, w)) (e : Event P)
    (hs : (st.step e).state = .linkedScanning) : ∃ j ∈ (st.step e).jobs, j.syncs = true := by
  cases step_links st e with
  | nothing hlink =>
    rcases step_syncs (h.scan (hlink.state_eq hs rfl (by simp))) e with hscan | hlinked
    · exact hscan
    · cases hs.symm.trans hlinked
  | auth skb _ _ hauth => cases hs.symm.trans hauth
  | assoc skb _ _ hlinked => cases hs.symm.trans hlinked
  | scan env he hrun _ =>
    have hstep : (st.step e).jobs = st.jobs ++ [.syncScan 0] := by
      subst he
      change (runWork env st .wxSyncScan).jobs = _
      rw [runWork, if_pos hrun]
      rfl
    rw [hstep]
    exact ⟨_, List.mem_append_right _ (List.mem_singleton_self _), rfl⟩
  | job env i j _ _ _ _ hlinked => cases hs.symm.trans hlinked

/-- A sound step that leads to a scan, or stays in it, has the link up. -/
theorem step_up {w : Watch} (h : Watched (st, w)) {e : Event P} (hsound : Sound st e)
    (hmode : (st.step e).iwMode = .infra) (hs : (st.step e).state = .linkedScanning) :
    (st.watch e w).up = true := by
  have hwatch : (st.watch e w).up = (st.state == .linked ||
      (st.state == .linkedScanning && w.up && !(st.heard e).any endsLink)) := by
    unfold watch
    rw [if_neg (by simp [hs])]
    unfold linkUp
    rw [hs]
  rw [hwatch]
  cases step_links st e with
  | nothing hlink =>
    have hst := hlink.state_eq hs rfl (by simp)
    have hinfra := h.held.mode (h.scan hst) hmode
    have hquiet : (st.heard e).any endsLink = false := by
      cases e with
      | rx env skb stats stack => exact hsound hinfra hst
      | _ => rfl
    rw [hst, h.up hinfra hst, hquiet]
    rfl
  | auth skb _ _ hauth => cases hs.symm.trans hauth
  | assoc skb _ _ hlinked => cases hs.symm.trans hlinked
  | scan env he hrun _ =>
    subst he
    have hinfra : st.iwMode = .infra := (step_keeps st (by simp)).mode hmode
    rw [hsound hinfra rfl hrun]
    rfl
  | job env i j _ _ _ _ hlinked => cases hs.symm.trans hlinked

theorem watched_step {s : Station P × Watch} (h : Watched s) {e : Event P} (hsound : Sound s.1 e) :
    Watched (watchStep s e) where
  held := held_step h.held e
  auth hs := step_auth h e hs
  scan hs := step_scan h e hs
  up hmode hs := step_up h hsound hmode hs

/-- The job that sets LINKED changes no mode. -/
theorem Job.changesMode_of_links {j : Job} (h : j.links = true) : j.changesMode = false := by
  cases j with
  | change c restart => cases h
  | _ => rfl

/-- A sound step keeps to the handshake. -/
theorem handshake_step {s : Station P × Watch} (h : Watched s) {e : Event P} (hsound : Sound s.1 e) :
    HandshakeKept s e := by
  obtain ⟨st, w⟩ := s
  intro hmode hs
  dsimp only at hmode hs hsound ⊢
  cases step_links st e with
  | nothing hlink =>
    rcases hlink with heq | hbelow | ⟨-, hmode'⟩
    · have hst : st.state = .linked := heq.symm.trans hs
      rw [hst]
      exact ⟨fun hne => absurd rfl hne, fun hscan => by cases hscan⟩
    · rw [hs] at hbelow
      cases hbelow
    · exact absurd hmode hmode'
  | auth skb _ _ hauth => cases hs.symm.trans hauth
  | assoc skb hheard htakes _ =>
    have hst : st.state = .associatingAuthenticated := htakes.2.1
    have hauth : w.auth = true := h.auth hst
    have hassoc : (st.watch e w).assoc = true := by
      unfold watch
      rw [if_neg (by simp [hs]), hheard]
      simp [hauth, htakes]
    refine ⟨fun _ _ => hassoc, fun hscan => ?_⟩
    cases hst.symm.trans hscan
  | scan env _ _ hscan => cases hs.symm.trans hscan
  | job env i j he hi hready hj _ =>
    subst he
    have hinfra : st.iwMode = .infra := by
      change (resume env st i).iwMode = .infra at hmode
      rcases resume_cases env st i with hidle | ⟨k, hk, -, hgo⟩
      · rwa [hidle] at hmode
      · cases hi.symm.trans hk
        rwa [hgo, goOn_mode env st i (Job.changesMode_of_links hj)] at hmode
    have hmay : st.mayLink j := hsound hinfra j hi hj hready
    have hstate : st.state = .linked ∨ st.state = .linkedScanning := by
      cases j with
      | syncRestore => exact hmay
      | _ => exact Or.inl hmay
    rcases hstate with hst | hst
    · exact ⟨fun hne => absurd hst hne, fun hscan => by cases hst.symm.trans hscan⟩
    · exact ⟨fun _ hne => absurd hst hne, fun hscan => h.up hinfra hscan⟩

end

/-- **The handshake in every run.** While every step is sound, a station in
infrastructure mode becomes linked only by an authentication response and then
an association response, both with status 0, since the state was last NOLINK,
and gets LINKED back after a scan only with the link still up. -/
theorem handshake_kept (kernel : KernelConfig) (devAddr : Mac) (channelMap : ℕ → Bool)
    (es : List (Event P))
    (hsound : Run.AllSteps watchStep (fun s e => Sound s.1 e)
      (init P kernel devAddr channelMap, ⟨false, false, false⟩) es) :
    Run.AllSteps watchStep HandshakeKept (init P kernel devAddr channelMap, ⟨false, false, false⟩) es := by
  have hstep : ∀ (s : Station P × Watch) (e : Event P), Watched s → Sound s.1 e →
      Watched (watchStep s e) ∧ HandshakeKept s e :=
    fun s e h hsound => ⟨watched_step h hsound, handshake_step h hsound⟩
  exact Run.allSteps_of_inv hstep _ es (watched_init kernel devAddr channelMap) hsound

/-! ### Two runs -/

/-- A station that may use channel 1. -/
def onChannelOne : Station Unit := init Unit ⟨250, true⟩ ⟨2, 0, 0, 0, 0, 1⟩ (· == 1)

/-- A station told its SSID hears an access point, and both its responses. -/
def joining : List (Event Unit) :=
  let env : StationEnv := ⟨⟨0, true, fun _ => false, ⟨0, 0, 0, 0, 0, 0⟩⟩, ⟨0, 0, 0, 0, 0, 0⟩⟩
  let ap : Mac := ⟨2, 0, 0, 0, 0, 9⟩
  let frame (fc : UInt16) (dest : Mac) (body : List UInt8) : Event Unit :=
    .rx env.toEnv ((SkBuff.devAllocSkb 64).put (mgmtHdr fc 0 dest ap ap ++ body)) ⟨1, 1, (0, 0)⟩ .zeroed
  [.request (.essid true [0x6F]) false, .goOn env 0, .startProtocol,
    frame stypeBeacon .broadcast ([0, 0, 0, 0, 0, 0, 0, 0, 100, 0, 1, 0] ++ infoElement 0 [0x6F]),
    .begin env.toEnv .associateProcedure, .goOn env 0, .goOn env 0,
    frame stypeAuth onChannelOne.devAddr [0, 0, 2, 0, 0, 0],
    frame stypeAssocResp onChannelOne.devAddr [1, 0, 0, 0, 1, 0, 0, 0]]

/-- The delay of `ieee80211_start_ibss_wq` is over when the user asks for
infrastructure mode; the work runs then, up to the end of its scan. -/
def lateIbss : List (Event Unit) :=
  let env : StationEnv := ⟨⟨0, false, fun _ => false, ⟨0, 0, 0, 0, 0, 0⟩⟩, ⟨0, 0, 0, 0, 0, 0⟩⟩
  [.request (.mode .adhoc) false, .goOn env 0, .startProtocol, .delayOver .startIbss,
    .request (.mode .infra) false, .begin env.toEnv .startIbss, .goOn env 0, .goOn env 0, .goOn env 0,
    .goOn env 0]

/-- The first run is sound and ends in LINKED. -/
theorem joining_kept : (Run.run step onChannelOne joining).state = .linked ∧
    Run.AllSteps watchStep HandshakeKept (onChannelOne, ⟨false, false, false⟩) joining :=
  ⟨by decide +kernel, handshake_kept _ _ _ joining (by decide +kernel)⟩

/-- The second one ends in LINKED without a frame. -/
theorem lateIbss_not_kept :
    ¬ Run.AllSteps watchStep HandshakeKept (onChannelOne, ⟨false, false, false⟩) lateIbss := by decide +kernel

end Station

end Rtl8187

/-
# What a step of the device leaves alone

Almost everything the soft-MAC does to the device is tame: it keeps the mode
and the fragment cache, it neither queues nor drops the work of a scan on
request, and it leads to a state of the association only from below: no step
makes a station authenticated, linked in infrastructure mode, or scanning while
linked. A received frame is tame too, unless it is one of the two responses
(`rxFrameSoftmac_link`).

Key definitions: `DevFrame`, `DevTame`, `TakesAuth`, `TakesAssoc`.
Key theorems: `associateStep2_tame`, `rxFrameSoftmac_link`.
-/
import Rtl8187.Softmac

namespace Rtl8187

open Bytes

variable {P : Type}

/-- No authentication has been answered in this state. -/
def State.below : State → Bool
  | .nolink => true
  | .associating => true
  | .associatingRetry => true
  | .associatingAuthenticating => true
  | _ => false

/-- A step of the association that gains nothing in infrastructure mode. -/
def LinkStep (mode : IwMode) (s s' : State) : Prop :=
  s' = s ∨ s'.below = true ∨ (s' = .linked ∧ mode ≠ .infra)

/-- What the steps of a station keep of its device but for the state. -/
structure DevKept (d' d : Device P) : Prop where
  iwMode : d'.iwMode = d.iwMode
  syncScan : d'.works.count .wxSyncScan = d.works.count .wxSyncScan
  fragCache : d'.fragCache = d.fragCache

structure DevStep (d' d : Device P) : Prop extends DevKept d' d where
  link : LinkStep d'.iwMode d.state d'.state

/-- The work ends by tuning the radio to the channel of `current_network`. -/
def Work.tunes : Work → Bool
  | .startIbss => true
  | .associateProcedure => true
  | .wxSyncScan => true
  | _ => false

/-- The protocol runs, or a work that tunes to `current_network` is pending. -/
def Device.Busy (d : Device P) : Prop := d.protoStarted = true ∨ ∃ w ∈ d.works, w.tunes = true

/-- What those of the device alone keep: the network too. -/
structure DevFrame (d' d : Device P) : Prop where
  iwMode : d'.iwMode = d.iwMode
  syncScan : d'.works.count .wxSyncScan = d.works.count .wxSyncScan
  fragCache : d'.fragCache = d.fragCache
  network : d'.currentNetwork = d.currentNetwork
  busy : d'.Busy → d.Busy

structure DevTame (d' d : Device P) : Prop extends DevFrame d' d where
  link : LinkStep d'.iwMode d.state d'.state

section

variable {d d' d'' : Device P}

theorem DevKept.trans (h : DevKept d'' d') (h' : DevKept d' d) : DevKept d'' d :=
  ⟨h.iwMode.trans h'.iwMode, h.syncScan.trans h'.syncScan, h.fragCache.trans h'.fragCache⟩

theorem DevKept.step (h : DevKept d' d) (hs : d'.state = d.state) : DevStep d' d := ⟨h, Or.inl hs⟩

theorem DevFrame.kept (h : DevFrame d' d) : DevKept d' d := ⟨h.iwMode, h.syncScan, h.fragCache⟩

theorem DevTame.step (h : DevTame d' d) : DevStep d' d := ⟨h.kept, h.link⟩

theorem DevFrame.refl (d : Device P) : DevFrame d d := ⟨rfl, rfl, rfl, rfl, id⟩

theorem DevFrame.trans (h : DevFrame d'' d') (h' : DevFrame d' d) : DevFrame d'' d :=
  ⟨h.iwMode.trans h'.iwMode, h.syncScan.trans h'.syncScan, h.fragCache.trans h'.fragCache,
    h.network.trans h'.network, fun hb => h'.busy (h.busy hb)⟩

theorem DevFrame.of_eq (h : DevFrame d' d) (hmode : d''.iwMode = d'.iwMode)
    (hworks : d''.works = d'.works) (hcache : d''.fragCache = d'.fragCache)
    (hnet : d''.currentNetwork = d'.currentNetwork) (hproto : d''.protoStarted = d'.protoStarted) :
    DevFrame d'' d := by
  refine ⟨hmode.trans h.iwMode, ?_, hcache.trans h.fragCache, hnet.trans h.network, ?_⟩
  · rw [hworks]
    exact h.syncScan
  · unfold Device.Busy
    rw [hworks, hproto]
    exact h.busy

theorem DevFrame.tame (h : DevFrame d' d) (hs : d'.state = d.state) : DevTame d' d :=
  ⟨h, Or.inl hs⟩

theorem DevTame.refl (d : Device P) : DevTame d d := (DevFrame.refl d).tame rfl

theorem DevStep.refl (d : Device P) : DevStep d d := (DevTame.refl d).step

theorem LinkStep.trans {mode : IwMode} {s s' s'' : State} (h : LinkStep mode s s')
    (h' : LinkStep mode s' s'') : LinkStep mode s s'' := by
  unfold LinkStep at h h' ⊢
  rcases h' with h' | h'
  · rwa [h']
  · exact Or.inr h'

theorem DevStep.trans (h : DevStep d'' d') (h' : DevStep d' d) : DevStep d'' d := by
  refine ⟨h.toDevKept.trans h'.toDevKept, ?_⟩
  have hlink := h'.link
  rw [← h.iwMode] at hlink
  exact hlink.trans h.link

theorem DevTame.trans (h : DevTame d'' d') (h' : DevTame d' d) : DevTame d'' d :=
  ⟨h.toDevFrame.trans h'.toDevFrame, (h.step.trans h'.step).link⟩

/-! ### Pieces of the device's steps -/

theorem queueWork_kept (d : Device P) {w : Work} (hw : w ≠ .wxSyncScan) : DevKept (d.queueWork w) d := by
  unfold Device.queueWork
  split_ifs
  · exact (DevFrame.refl d).kept
  · exact ⟨rfl, by simp [hw], rfl⟩

/-- A tuning work is only queued while the device is busy anyway. -/
theorem queueWork_frame (d : Device P) {w : Work} (hw : w ≠ .wxSyncScan)
    (hb : w.tunes = true → d.protoStarted = true) : DevFrame (d.queueWork w) d := by
  have hkept := queueWork_kept d hw
  refine ⟨hkept.iwMode, hkept.syncScan, hkept.fragCache, ?_, ?_⟩
  · unfold Device.queueWork
    split_ifs <;> rfl
  · unfold Device.queueWork Device.Busy
    split_ifs
    · exact id
    · rintro (hp | ⟨w', hw', ht⟩)
      · exact Or.inl hp
      · rcases List.mem_append.mp hw' with hin | hin
        · exact Or.inr ⟨w', hin, ht⟩
        · rw [List.mem_singleton.mp hin] at ht
          exact Or.inl (hb ht)

theorem queueWork_quiet (d : Device P) {w : Work} (hw : w.tunes = false) : DevFrame (d.queueWork w) d := by
  apply queueWork_frame d
  · rintro rfl
    cases hw
  · intro ht
    rw [hw] at ht
    cases ht

theorem staWakeup_frame (d : Device P) : DevFrame d.staWakeup d := by
  have hwakeup : DevFrame (d.queueWork .hwWakeup) d := queueWork_quiet d rfl
  unfold Device.staWakeup
  by_cases hsleep : d.staSleep = 0
  · rw [if_pos hsleep]
    exact DevFrame.refl d
  · rw [if_neg hsleep]
    by_cases hone : d.staSleep = 1
    · rw [if_pos hone]
      exact hwakeup.of_eq rfl rfl rfl rfl rfl
    · rw [if_neg hone]
      exact ⟨rfl, rfl, rfl, rfl, id⟩

theorem softmacMgmtXmit_frame (env : Env) (d : Device P) (skb : SkBuff) :
    DevFrame (softmacMgmtXmit env d skb) d := by
  refine DevFrame.trans ?_ (staWakeup_frame d)
  unfold softmacMgmtXmit
  dsimp only
  split_ifs <;> exact ⟨rfl, rfl, rfl, rfl, id⟩

/-- A reply that could be built changes nothing but what it is built from. -/
theorem xmitReply_tame (env : Env) (d : Device P) {reply : Option (SkBuff × Device P)}
    (h : ∀ r ∈ reply, DevTame r.2 d) : DevTame (xmitReply env d reply) d := by
  unfold xmitReply
  split
  · exact DevTame.refl d
  · rename_i skb d'
    have hxmit := softmacMgmtXmit_frame env d' skb
    exact (hxmit.tame (softmacMgmtXmit_state env d' skb)).trans (h _ rfl)

/-- A frame that is built if there is memory for it. -/
theorem built_tame {d d' : Device P} (h : DevTame d' d) (alloc : Bool) (skb : SkBuff) :
    ∀ r ∈ (if alloc then some (skb, d') else none), DevTame r.2 d := by
  intro r hr
  cases alloc with
  | false => cases hr
  | true =>
    cases hr
    exact h

theorem probeResp_tame (alloc : Bool) (d : Device P) (dest : Mac) :
    ∀ r ∈ probeResp alloc d dest, DevTame r.2 d := by
  apply built_tame
  exact DevFrame.tame ⟨rfl, rfl, rfl, rfl, id⟩ rfl

theorem getBeacon_tame (alloc : Bool) (d : Device P) : ∀ r ∈ getBeacon alloc d, DevTame r.2 d := by
  intro r hr
  obtain ⟨r', hr', rfl⟩ := Option.map_eq_some_iff.mp hr
  exact probeResp_tame alloc d _ r' hr'

theorem authResp_tame (alloc : Bool) (d : Device P) (status : UInt16) (dest : Mac) :
    ∀ r ∈ authResp alloc d status dest, DevTame r.2 d := by
  apply built_tame
  exact DevTame.refl d

theorem assocResp_tame (alloc : Bool) (d : Device P) (dest : Mac) :
    ∀ r ∈ assocResp alloc d dest, DevTame r.2 d := by
  apply built_tame
  exact DevFrame.tame ⟨rfl, rfl, rfl, rfl, id⟩ rfl

theorem associateAbort_tame (d : Device P) : DevTame (associateAbort d) d := by
  refine ⟨(queueWork_quiet _ rfl).trans ⟨rfl, rfl, rfl, rfl, id⟩, Or.inr (Or.inl ?_)⟩
  rw [associateAbort_state]
  rfl

theorem authenticationReq_tame (alloc : Bool) (d : Device P) (n : ℕ) :
    ∀ r ∈ authenticationReq alloc d n, DevTame r.2 d := by
  apply built_tame
  exact DevFrame.tame ⟨rfl, rfl, rfl, rfl, id⟩ rfl

theorem associationReq_tame (alloc : Bool) (d : Device P) :
    ∀ r ∈ associationReq alloc d, DevTame r.2 d := by
  apply built_tame
  exact DevFrame.tame ⟨rfl, rfl, rfl, rfl, id⟩ rfl

/-- A frame sent with the timer set. -/
theorem xmitTimer_tame (env : Env) (d : Device P) (skb : SkBuff) :
    DevTame ((softmacMgmtXmit env d skb).modAssociateTimer env) d := by
  have hframe : DevFrame ((softmacMgmtXmit env d skb).modAssociateTimer env) d :=
    (softmacMgmtXmit_frame env d skb).of_eq rfl rfl rfl rfl rfl
  exact hframe.tame (softmacMgmtXmit_state env d skb)

theorem associateStep2_tame (env : Env) (d : Device P) : DevTame (associateStep2 env d) d := by
  have hdel : DevTame d.delAssociateTimer d := DevFrame.tame ⟨rfl, rfl, rfl, rfl, id⟩ rfl
  unfold associateStep2
  dsimp only
  split
  · exact (associateAbort_tame _).trans hdel
  · rename_i skb d' hreq
    exact (xmitTimer_tame env d' skb).trans ((associationReq_tame _ _ _ hreq).trans hdel)

theorem encryptFragment_tame {d d' : Device P} {frag frag' : SkBuff} {hdrLen : ℕ} {ret : Int}
    (h : encryptFragment d frag hdrLen = some (ret, frag', d')) : DevTame d' d := by
  rcases encryptFragment_cases h with rfl | ⟨priv, rfl⟩
  · exact DevTame.refl d'
  · exact DevFrame.tame ⟨rfl, rfl, rfl, rfl, id⟩ rfl

theorem authChallenge_tame (env : Env) (d : Device P) (challenge : List UInt8) :
    DevTame (authChallenge env d challenge) d := by
  have hseq : DevTame { d with associateSeq := d.associateSeq + 1 } d := DevFrame.tame ⟨rfl, rfl, rfl, rfl, id⟩ rfl
  unfold authChallenge
  dsimp only
  split
  · exact (associateAbort_tame _).trans hseq
  · rename_i skb d' hreq
    have hd' := (authenticationReq_tame _ _ _ _ hreq).trans hseq
    split
    · exact hd'
    · rename_i ret skb' d'' henc
      exact (xmitTimer_tame env d'' skb').trans ((encryptFragment_tame henc).trans hd')

theorem rxDisassoc_tame (d : Device P) (hproto : d.protoStarted = true) : DevTame (rxDisassoc d) d := by
  have hstate : DevFrame { d with state := .associating } d := ⟨rfl, rfl, rfl, rfl, id⟩
  have hqueue := queueWork_frame { d with state := .associating }
    (by simp : Work.associateProcedure ≠ .wxSyncScan) fun _ => hproto
  refine ⟨hqueue.trans hstate, Or.inr (Or.inl ?_)⟩
  rw [rxDisassoc_state]
  rfl

end

/-! ### A received frame -/

/-- The frame is an authentication response with status 0, taken while one is
waited for. -/
def TakesAuth (d : Device P) (skb : SkBuff) : Prop :=
  d.iwMode = .infra ∧ d.state = .associatingAuthenticating ∧
    fcStype (frameCtl skb.data) = stypeAuth ∧ (authParse skb).1 = wlanStatusSuccess

/-- The frame is an association response with status 0, taken while one is
waited for. -/
def TakesAssoc (d : Device P) (skb : SkBuff) : Prop :=
  d.iwMode = .infra ∧ d.state = .associatingAuthenticated ∧
    (fcStype (frameCtl skb.data) = stypeAssocResp ∨ fcStype (frameCtl skb.data) = stypeReassocResp) ∧
    (assocParse skb).1 = wlanStatusSuccess

/-- An association response is taken, or the procedure is aborted. -/
theorem rxAssocResp_link (d : Device P) (skb : SkBuff) : DevTame (rxAssocResp d skb) d ∨
    (DevFrame (rxAssocResp d skb) d ∧ (assocParse skb).1 = wlanStatusSuccess ∧
      (rxAssocResp d skb).state = .linked) := by
  unfold rxAssocResp
  split_ifs with hok
  · refine Or.inr ⟨?_, hok, associateComplete_state _⟩
    exact (queueWork_quiet _ rfl).trans ⟨rfl, rfl, rfl, rfl, id⟩
  · exact Or.inl (associateAbort_tame d)

/-- The second step, from the state in which it waits for its answer. -/
theorem associateStep2_link (env : Env) (d : Device P) :
    DevTame (associateStep2 env { d with state := .associatingAuthenticated }) d ∨
      (DevFrame (associateStep2 env { d with state := .associatingAuthenticated }) d ∧
        (associateStep2 env { d with state := .associatingAuthenticated }).state =
          .associatingAuthenticated) := by
  have hstep := associateStep2_tame env { d with state := .associatingAuthenticated }
  have hframe : DevFrame (associateStep2 env { d with state := .associatingAuthenticated }) d :=
    hstep.toDevFrame.trans ⟨rfl, rfl, rfl, rfl, id⟩
  rcases hstep.link with hs | hs
  · exact Or.inr ⟨hframe, hs⟩
  · exact Or.inl ⟨hframe, Or.inr hs⟩

/-- An authentication response is taken, or the challenge is answered, or the
procedure is aborted. -/
theorem rxAuthResp_link (env : Env) (d : Device P) (skb : SkBuff) : DevTame (rxAuthResp env d skb) d ∨
    (DevFrame (rxAuthResp env d skb) d ∧ (authParse skb).1 = wlanStatusSuccess ∧
      (rxAuthResp env d skb).state = .associatingAuthenticated) := by
  by_cases hok : (authParse skb).1 = wlanStatusSuccess
  · have hstep := associateStep2_link env d
    rw [rxAuthResp, if_pos hok]
    cases (authParse skb).2 with
    | none => exact hstep.imp_right fun h => ⟨h.1, hok, h.2⟩
    | some challenge =>
      dsimp only
      by_cases ho : d.openWep = true
      · rw [if_pos ho]
        exact hstep.imp_right fun h => ⟨h.1, hok, h.2⟩
      · rw [if_neg ho]
        exact Or.inl (authChallenge_tame env d challenge)
  · rw [rxAuthResp, if_neg hok]
    exact Or.inl (associateAbort_tame d)

theorem rxProbeRq_tame (env : Env) (d : Device P) (skb : SkBuff) : DevTame (rxProbeRq env d skb) d := by
  unfold rxProbeRq
  split_ifs
  · exact xmitReply_tame env d (probeResp_tame _ d _)
  · exact DevTame.refl d

theorem rxAuthRq_tame (env : Env) (d : Device P) (skb : SkBuff) : DevTame (rxAuthRq env d skb) d := by
  unfold rxAuthRq
  split
  · exact DevTame.refl d
  · exact xmitReply_tame env d (authResp_tame _ d _ _)

theorem rxAssocRq_tame (env : Env) (d : Device P) (skb : SkBuff) : DevTame (rxAssocRq env d skb) d := by
  unfold rxAssocRq
  split
  · exact DevTame.refl d
  · exact xmitReply_tame env d (assocResp_tame _ d _)

/-- What a frame does to the association: it moves it on as one of the two
responses, or is tame. -/
theorem rxFrameSoftmac_link (env : Env) (d : Device P) (skb : SkBuff) :
    DevTame (rxFrameSoftmac env d skb).2 d ∨
      (DevFrame (rxFrameSoftmac env d skb).2 d ∧
        ((TakesAuth d skb ∧ (rxFrameSoftmac env d skb).2.state = .associatingAuthenticated) ∨
          (TakesAssoc d skb ∧ (rxFrameSoftmac env d skb).2.state = .linked))) := by
  unfold rxFrameSoftmac
  extract_lets stype d₁ associate
  have hps : DevTame d₁ d := DevFrame.tame ⟨rfl, rfl, rfl, rfl, id⟩ rfl
  split_ifs with hproto hassoc hwaits hreq hmaster hauth hfeat hwaits' hmaster' hprobe hlinked hdis hlinked'
  · obtain ⟨-, hstate, hmode⟩ := hwaits
    rcases rxAssocResp_link d₁ skb with h | ⟨hframe, hok, hs⟩
    · exact Or.inl (h.trans hps)
    · exact Or.inr ⟨hframe.trans hps.toDevFrame, Or.inr ⟨⟨hmode, hstate, hassoc, hok⟩, hs⟩⟩
  · exact Or.inl hps
  · exact Or.inl ((rxAssocRq_tame env d₁ skb).trans hps)
  · exact Or.inl hps
  · obtain ⟨hstate, hmode⟩ := hwaits'
    rcases rxAuthResp_link env d₁ skb with h | ⟨hframe, hok, hs⟩
    · exact Or.inl (h.trans hps)
    · exact Or.inr ⟨hframe.trans hps.toDevFrame, Or.inl ⟨⟨hmode, hstate, hauth, hok⟩, hs⟩⟩
  · exact Or.inl ((rxAuthRq_tame env d₁ skb).trans hps)
  · exact Or.inl hps
  · exact Or.inl hps
  · exact Or.inl ((rxProbeRq_tame env d₁ skb).trans hps)
  · exact Or.inl hps
  · exact Or.inl ((rxDisassoc_tame d₁ hproto).trans hps)
  · exact Or.inl hps
  · exact Or.inl hps
  · exact Or.inl (DevTame.refl d)

/-- In any case it keeps what any step keeps. -/
theorem rxFrameSoftmac_frame (env : Env) (d : Device P) (skb : SkBuff) :
    DevFrame (rxFrameSoftmac env d skb).2 d := by
  rcases rxFrameSoftmac_link env d skb with h | ⟨h, -⟩
  · exact h.toDevFrame
  · exact h

end Rtl8187

/-
# The frames of a shared-key exchange

An association attempt sets `associate_seq` to 1 and sends the first request;
`ieee80211_authentication_req` counts each frame it builds, and
`ieee80211_auth_challenge` counts once more. So the response to a challenge has
transaction 3, but the one to a second challenge has 5, and the response is
encrypted whether there is a key or not. The exchange is as it should be unless the
access point sends a challenge twice, or sends one to a station without a key
(`exchangeOk_iff`).

Key definitions: `AuthEvent`, `noteAuthChallenge`, `noteAuthFrame`, `attemptEvents`, `OneChallenge`.
Key theorems: `noteAuthFrame_snd`, `noteAuthFrame_ends`, `exchangeOk_iff`.
-/
import Rtl8187.CryptTable
import Rtl8187.DeviceSteps
import Rtl8187.Works

namespace Rtl8187

open Bytes Device

variable {P : Type}

/-! ### The procedure, with what it sends and enters -/

/-- A request or a challenge response is sent, with this transaction number, or
`ieee80211_encrypt_fragment` is entered, with a module in the slot or without. -/
inductive AuthEvent where
  | request (transaction : UInt16)
  | response (transaction : UInt16)
  | encrypt (keyed : Bool)
  deriving DecidableEq

/-- The transaction number in an authentication frame. -/
def transactionOf (skb : SkBuff) : UInt16 := get16 skb.data 26

/-- `ieee80211_associate_step1` -/
def noteAssociateStep1 (env : Env) (d : Device P) : List AuthEvent × Device P :=
  match authenticationReq env.skbAlloc d 0 with
  | none => ([], associateAbort d)
  | some (skb, d) =>
    ([.request (transactionOf skb)],
      (softmacMgmtXmit env { d with state := .associatingAuthenticating } skb).modAssociateTimer env)

/-- `ieee80211_auth_challenge`; the number is that of the frame before it is encrypted. -/
def noteAuthChallenge (env : Env) (d : Device P) (challenge : List UInt8) : List AuthEvent × Device P :=
  let d := { d with associateSeq := d.associateSeq + 1 }
  match authenticationReq env.skbAlloc d (challenge.length + 2) with
  | none => ([], associateAbort d)
  | some (skb, d) =>
    match encryptFragment d (skb.put (infoElement mfieTypeChallenge challenge)) dataHdr3Len with
    | none => ([.encrypt d.txCrypt.isSome], d)
    | some (_, frag, d') =>
      ([.encrypt d.txCrypt.isSome, .response (transactionOf skb)], (softmacMgmtXmit env d' frag).modAssociateTimer env)

/-- An authentication response, in the mode and the state that wait for it. -/
def noteRxAuthResp (env : Env) (d : Device P) (skb : SkBuff) : List AuthEvent × Device P :=
  if (authParse skb).1 = wlanStatusSuccess then
    match (authParse skb).2 with
    | none => ([], associateStep2 env { d with state := .associatingAuthenticated })
    | some challenge =>
      if d.openWep then ([], associateStep2 env { d with state := .associatingAuthenticated })
      else noteAuthChallenge env d challenge
  else ([], associateAbort d)

/-- The station waits for an authentication response. -/
def AwaitsAuth (d : Device P) : Prop :=
  d.protoStarted = true ∧ d.softmacFeatures.associate = true ∧ d.state = .associatingAuthenticating ∧ d.iwMode = .infra

instance (d : Device P) : Decidable (AwaitsAuth d) :=
  inferInstanceAs (Decidable (d.protoStarted = true ∧ d.softmacFeatures.associate = true ∧
    d.state = .associatingAuthenticating ∧ d.iwMode = .infra))

/-- `ieee80211_rx_frame_softmac` on an authentication frame. -/
def noteAuthFrame (env : Env) (d : Device P) (skb : SkBuff) : List AuthEvent × Device P :=
  if AwaitsAuth d then noteRxAuthResp env (notePs env d stypeAuth) skb else ([], (rxFrameSoftmac env d skb).2)

/-- The frames that come in an attempt, one after the other. -/
def framesEvents : Device P → List (Env × SkBuff) → List AuthEvent
  | _, [] => []
  | d, i :: is => (noteAuthFrame i.1 d i.2).1 ++ framesEvents (noteAuthFrame i.1 d i.2).2 is

/-- An attempt: `ieee80211_associate_procedure_wq`, and the frames that come then. -/
def attemptEvents (env : Env) (d : Device P) (is : List (Env × SkBuff)) : List AuthEvent :=
  let start := noteAssociateStep1 env { d with associateSeq := 1 }
  start.1 ++ framesEvents start.2 is

/-! ### They are the procedure -/

theorem isAssociationFrame_auth {skb : SkBuff} (hstype : fcStype (frameCtl skb.data) = stypeAuth) :
    IsAssociationFrame skb := by
  unfold IsAssociationFrame
  rw [hstype]
  decide

section

variable (env : Env) (d : Device P) (skb : SkBuff)

theorem noteAssociateStep1_snd : (noteAssociateStep1 env d).2 = associateStep1 env d := by
  unfold noteAssociateStep1 associateStep1
  cases authenticationReq env.skbAlloc d 0 <;> rfl

theorem noteAuthChallenge_snd (challenge : List UInt8) :
    (noteAuthChallenge env d challenge).2 = authChallenge env d challenge := by
  unfold noteAuthChallenge authChallenge
  dsimp only
  cases authenticationReq env.skbAlloc { d with associateSeq := d.associateSeq + 1 } (challenge.length + 2) with
  | none => rfl
  | some r =>
    dsimp only
    cases encryptFragment r.2 (r.1.put (infoElement mfieTypeChallenge challenge)) dataHdr3Len <;> rfl

theorem noteRxAuthResp_snd : (noteRxAuthResp env d skb).2 = rxAuthResp env d skb := by
  unfold noteRxAuthResp rxAuthResp
  by_cases hstatus : (authParse skb).1 = wlanStatusSuccess
  · rw [if_pos hstatus, if_pos hstatus]
    cases (authParse skb).2 with
    | none => rfl
    | some challenge =>
      dsimp only
      by_cases hopen : d.openWep = true
      · rw [if_pos hopen, if_pos hopen]
      · rw [if_neg hopen, if_neg hopen]
        exact noteAuthChallenge_snd env d challenge
  · rw [if_neg hstatus, if_neg hstatus]

theorem noteAuthFrame_snd (hstype : fcStype (frameCtl skb.data) = stypeAuth) :
    (noteAuthFrame env d skb).2 = (rxFrameSoftmac env d skb).2 := by
  unfold noteAuthFrame
  by_cases hawaits : AwaitsAuth d
  · obtain ⟨hstarted, hassoc, hstate, hmode⟩ := hawaits
    rw [if_pos ⟨hstarted, hassoc, hstate, hmode⟩, noteRxAuthResp_snd,
      rxFrameSoftmac_started hstarted hmode (isAssociationFrame_auth hstype), hstype]
    dsimp only
    rw [if_pos ⟨hassoc, hstate⟩]
    unfold assocStep
    rw [hstype, if_neg (by decide), if_pos rfl]
  · rw [if_neg hawaits]

end

/-! ### What a frame does -/

/-- What the procedure does not change. -/
structure SameSetup (d' d : Device P) : Prop where
  started : d'.protoStarted = d.protoStarted
  features : d'.softmacFeatures = d.softmacFeatures
  mode : d'.iwMode = d.iwMode
  openWep : d'.openWep = d.openWep

section

variable {env : Env} {d d' : Device P} {skb : SkBuff}

theorem SameSetup.trans {d'' : Device P} (h : SameSetup d'' d') (h' : SameSetup d' d) : SameSetup d'' d :=
  ⟨h.started.trans h'.started, h.features.trans h'.features, h.mode.trans h'.mode, h.openWep.trans h'.openWep⟩

theorem staWakeup_setup (d : Device P) : SameSetup d.staWakeup d ∧ d.staWakeup.txCrypt = d.txCrypt := by
  have hwork : SameSetup (d.queueWork .hwWakeup) d ∧ (d.queueWork .hwWakeup).txCrypt = d.txCrypt := by
    unfold queueWork
    split_ifs
    · exact ⟨⟨rfl, rfl, rfl, rfl⟩, rfl⟩
    · exact ⟨⟨rfl, rfl, rfl, rfl⟩, rfl⟩
  unfold staWakeup
  dsimp only
  split_ifs
  · exact ⟨⟨rfl, rfl, rfl, rfl⟩, rfl⟩
  · exact ⟨⟨hwork.1.started, hwork.1.features, hwork.1.mode, hwork.1.openWep⟩, hwork.2⟩
  · exact ⟨⟨rfl, rfl, rfl, rfl⟩, rfl⟩

/-- A frame of the procedure is sent, and the timer is set. -/
theorem sent_setup (env : Env) (d : Device P) (skb : SkBuff) :
    let sent := (softmacMgmtXmit env d skb).modAssociateTimer env
    SameSetup sent d ∧ sent.txCrypt = d.txCrypt ∧ sent.state = d.state ∧ sent.associateSeq = d.associateSeq := by
  intro sent
  have hwake := staWakeup_setup d
  have hsame : SameSetup sent d.staWakeup ∧ sent.txCrypt = d.staWakeup.txCrypt := by
    unfold sent modAssociateTimer softmacMgmtXmit
    dsimp only
    split_ifs
    · exact ⟨⟨rfl, rfl, rfl, rfl⟩, rfl⟩
    · exact ⟨⟨rfl, rfl, rfl, rfl⟩, rfl⟩
    · exact ⟨⟨rfl, rfl, rfl, rfl⟩, rfl⟩
  exact ⟨hsame.1.trans hwake.1, hsame.2.trans hwake.2, softmacMgmtXmit_state env d skb,
    softmacMgmtXmit_associateSeq env d skb⟩

theorem encryptFragment_eq_none {frag : SkBuff} {hdrLen : ℕ} :
    encryptFragment d frag hdrLen = none ↔ d.txCrypt = none := by
  unfold encryptFragment
  cases d.txCrypt with
  | none => exact iff_of_true rfl rfl
  | some c =>
    refine iff_of_false ?_ (Option.some_ne_none c)
    dsimp only
    split_ifs <;> simp

theorem encryptFragment_setup {frag frag' : SkBuff} {hdrLen : ℕ} {ret : Int}
    (h : encryptFragment d frag hdrLen = some (ret, frag', d')) : SameSetup d' d ∧ d'.state = d.state := by
  rcases encryptFragment_cases h with rfl | ⟨priv, rfl⟩
  · exact ⟨⟨rfl, rfl, rfl, rfl⟩, rfl⟩
  · exact ⟨⟨rfl, rfl, rfl, rfl⟩, rfl⟩

/-- A request has the number that is counted then. -/
theorem authenticationReq_counts (d : Device P) (n : ℕ) : ∃ skb, transactionOf skb = d.associateSeq ∧
    authenticationReq true d n = some (skb, { d with associateSeq := d.associateSeq + 1 }) := by
  refine ⟨_, ?_, rfl⟩
  exact mk16_hi8_lo8 d.associateSeq

/-- The start: the first request has transaction 1, and the station waits. -/
theorem noteAssociateStep1_start (halloc : env.skbAlloc = true) :
    let start := noteAssociateStep1 env { d with associateSeq := 1 }
    start.1 = [.request 1] ∧ SameSetup start.2 d ∧ start.2.txCrypt = d.txCrypt ∧
      start.2.state = .associatingAuthenticating ∧ start.2.associateSeq = 2 := by
  intro start
  obtain ⟨skb, hnumber, hreq⟩ := authenticationReq_counts { d with associateSeq := 1 } 0
  have hstart : start = ([.request (transactionOf skb)], (softmacMgmtXmit env
      { d with associateSeq := 2, state := .associatingAuthenticating } skb).modAssociateTimer env) := by
    unfold start noteAssociateStep1
    rw [halloc, hreq]
    rfl
  obtain ⟨hsetup, hcrypt, hstate, hseq⟩ :=
    sent_setup env { d with associateSeq := 2, state := .associatingAuthenticating } skb
  rw [hstart, hnumber]
  exact ⟨rfl, hsetup.trans ⟨rfl, rfl, rfl, rfl⟩, hcrypt, hstate, hseq⟩

/-- A challenge: the response has the number after the next, if there is a key. -/
theorem noteAuthChallenge_answered (halloc : env.skbAlloc = true) (challenge : List UInt8) :
    (d.txCrypt = none ∧ (noteAuthChallenge env d challenge).1 = [.encrypt false]) ∨
      (d.txCrypt.isSome = true ∧
        (noteAuthChallenge env d challenge).1 = [.encrypt true, .response (d.associateSeq + 1)] ∧
        SameSetup (noteAuthChallenge env d challenge).2 d ∧
        (noteAuthChallenge env d challenge).2.state = d.state ∧
        (noteAuthChallenge env d challenge).2.associateSeq = d.associateSeq + 1 + 1) := by
  obtain ⟨skb, hnumber, hreq⟩ :=
    authenticationReq_counts { d with associateSeq := d.associateSeq + 1 } (challenge.length + 2)
  set d₁ : Device P := { d with associateSeq := d.associateSeq + 1 + 1 } with hd₁
  have hcrypt : d₁.txCrypt = d.txCrypt := rfl
  unfold noteAuthChallenge
  dsimp only
  rw [halloc, hreq]
  dsimp only
  rw [hcrypt]
  cases henc : encryptFragment d₁ (skb.put (infoElement mfieTypeChallenge challenge)) dataHdr3Len with
  | none =>
    have hnone : d.txCrypt = none := hcrypt.symm.trans (encryptFragment_eq_none.mp henc)
    exact Or.inl ⟨hnone, by rw [hnone]; rfl⟩
  | some e =>
    obtain ⟨ret, frag, d₂⟩ := e
    have hsome : d.txCrypt.isSome = true := by
      rw [Option.isSome_iff_ne_none]
      intro hnone
      rw [encryptFragment_eq_none.mpr (hcrypt.trans hnone)] at henc
      cases henc
    obtain ⟨hsetup, hstate⟩ := encryptFragment_setup henc
    have hseq := encryptFragment_associateSeq d₁ henc
    obtain ⟨hsent, -, hstate', hseq'⟩ := sent_setup env d₂ frag
    refine Or.inr ⟨hsome, ?_, hsent.trans (hsetup.trans ⟨rfl, rfl, rfl, rfl⟩), hstate'.trans hstate,
      hseq'.trans hseq⟩
    rw [hsome, hnumber]

/-- Without a buffer for the response the procedure is aborted. -/
theorem noteAuthChallenge_aborts (halloc : env.skbAlloc = false) (challenge : List UInt8) :
    (noteAuthChallenge env d challenge).1 = [] ∧ (noteAuthChallenge env d challenge).2.state = .associatingRetry := by
  unfold noteAuthChallenge authenticationReq
  rw [halloc]
  exact ⟨rfl, associateAbort_state _⟩

end

/-! ### An attempt -/

/-- A challenge that can be answered. -/
def Answerable (i : Env × SkBuff) : Prop :=
  (authParse i.2).1 = wlanStatusSuccess ∧ (authParse i.2).2.isSome = true ∧ i.1.skbAlloc = true

/-- The station answers challenges. -/
def AnswersChallenges (d : Device P) : Prop :=
  d.protoStarted = true ∧ d.softmacFeatures.associate = true ∧ d.iwMode = .infra ∧ d.openWep = false

/-- As the exchange should be: the request is the first transaction, a response the
third, and there is a key where one is needed. -/
def AuthEvent.Ok : AuthEvent → Prop
  | .request transaction => transaction = 1
  | .response transaction => transaction = 3
  | .encrypt keyed => keyed = true

def ExchangeOk (env : Env) (d : Device P) (is : List (Env × SkBuff)) : Prop :=
  ∀ e ∈ attemptEvents env d is, e.Ok

/-- If the first frame is a challenge that is answered, there is a key, and the next
frame is not again a challenge. -/
def OneChallenge (env : Env) (d : Device P) (is : List (Env × SkBuff)) : Prop :=
  env.skbAlloc = true → AnswersChallenges d → ∀ i rest, is = i :: rest → Answerable i →
    d.txCrypt.isSome = true ∧ ∀ j rest', rest = j :: rest' → ¬ Answerable j

section

variable {env : Env} {d : Device P} {skb : SkBuff}

/-- A station that does not wait does not come to wait by a frame. -/
theorem not_awaitsAuth_rx (hawaits : ¬ AwaitsAuth d) (hstype : fcStype (frameCtl skb.data) = stypeAuth) :
    ¬ AwaitsAuth (rxFrameSoftmac env d skb).2 := by
  by_cases hstarted : d.protoStarted = true
  · by_cases hmode : d.iwMode = .infra
    · rw [rxFrameSoftmac_started hstarted hmode (isAssociationFrame_auth hstype), hstype]
      dsimp only
      rw [if_neg fun h => hawaits ⟨hstarted, h.1, h.2, hmode⟩]
      exact hawaits
    · intro hnext
      exact hmode ((rxFrameSoftmac_frame env d skb).iwMode.symm.trans hnext.2.2.2)
  · have hsame : (rxFrameSoftmac env d skb).2 = d := by
      unfold rxFrameSoftmac
      exact congrArg Prod.snd (if_pos hstarted)
    rw [hsame]
    exact hawaits

/-- Once the station does not wait, nothing is sent. -/
theorem framesEvents_ended (hawaits : ¬ AwaitsAuth d) {is : List (Env × SkBuff)}
    (his : ∀ i ∈ is, fcStype (frameCtl i.2.data) = stypeAuth) : framesEvents d is = [] := by
  induction is generalizing d with
  | nil => rfl
  | cons i is ih =>
    obtain ⟨hi, his⟩ := List.forall_mem_cons.mp his
    unfold framesEvents noteAuthFrame
    rw [if_neg hawaits, List.nil_append]
    exact ih (not_awaitsAuth_rx hawaits hi) his

/-- **A frame that is no challenge, or cannot be answered, ends the attempt.** -/
theorem noteAuthFrame_ends (h : ¬ (d.openWep = false ∧ Answerable (env, skb))) (hawaits : AwaitsAuth d) :
    (noteAuthFrame env d skb).1 = [] ∧ ¬ AwaitsAuth (noteAuthFrame env d skb).2 := by
  have hleft : ∀ d' : Device P, d'.state = .associatingAuthenticated ∨ d'.state = .associatingRetry →
      ¬ AwaitsAuth d' := by
    rintro d' hd' ⟨-, -, hstate, -⟩
    rw [hstate] at hd'
    rcases hd' with hd' | hd' <;> cases hd'
  have hstep : ∀ d' : Device P,
      ¬ AwaitsAuth (associateStep2 env { d' with state := .associatingAuthenticated }) := by
    intro d'
    exact hleft _ (associateStep2_state env { d' with state := .associatingAuthenticated })
  unfold noteAuthFrame noteRxAuthResp
  rw [if_pos hawaits]
  by_cases hstatus : (authParse skb).1 = wlanStatusSuccess
  · rw [if_pos hstatus]
    cases hch : (authParse skb).2 with
    | none => exact ⟨rfl, hstep _⟩
    | some challenge =>
      dsimp only
      by_cases hopen : (notePs env d stypeAuth).openWep = true
      · rw [if_pos hopen]
        exact ⟨rfl, hstep _⟩
      · rw [if_neg hopen]
        have hfail : env.skbAlloc = false := by
          by_contra halloc
          refine h ⟨Bool.eq_false_iff.mpr hopen, hstatus, ?_, Bool.eq_true_of_not_eq_false halloc⟩
          rw [hch]
          rfl
        obtain ⟨hevents, hstate⟩ := @noteAuthChallenge_aborts P env (notePs env d stypeAuth) hfail challenge
        exact ⟨hevents, hleft _ (Or.inr hstate)⟩
  · rw [if_neg hstatus]
    exact ⟨rfl, hleft _ (Or.inr (associateAbort_state _))⟩

/-- One that is answered. -/
theorem noteAuthFrame_answers (hopen : d.openWep = false) (hawaits : AwaitsAuth d) (h : Answerable (env, skb)) :
    (d.txCrypt = none ∧ (noteAuthFrame env d skb).1 = [.encrypt false]) ∨
      (d.txCrypt.isSome = true ∧ (noteAuthFrame env d skb).1 = [.encrypt true, .response (d.associateSeq + 1)] ∧
        (noteAuthFrame env d skb).2.openWep = false ∧ AwaitsAuth (noteAuthFrame env d skb).2 ∧
        (noteAuthFrame env d skb).2.associateSeq = d.associateSeq + 1 + 1) := by
  obtain ⟨hstatus, hsome, halloc⟩ := h
  obtain ⟨challenge, hch⟩ := Option.isSome_iff_exists.mp hsome
  have hnote : noteAuthFrame env d skb = noteAuthChallenge env (notePs env d stypeAuth) challenge := by
    have hopen' : ¬ (notePs env d stypeAuth).openWep = true := by
      show ¬ d.openWep = true
      rw [hopen]
      decide
    unfold noteAuthFrame noteRxAuthResp
    rw [if_pos hawaits, if_pos hstatus, hch]
    exact if_neg hopen'
  rw [hnote]
  rcases @noteAuthChallenge_answered P env (notePs env d stypeAuth) halloc challenge with
    hnone | ⟨hkey, hevents, hsetup, hstate, hseq⟩
  · exact Or.inl hnone
  · obtain ⟨hstarted, hassoc, hwaits, hmode⟩ := hawaits
    refine Or.inr ⟨hkey, hevents, hsetup.openWep.trans hopen, ⟨hsetup.started.trans hstarted, ?_,
      hstate.trans hwaits, hsetup.mode.trans hmode⟩, hseq⟩
    rw [hsetup.features]
    exact hassoc

/-- A challenge that comes when another one has been answered is no good. -/
theorem second_not_ok (hopen : d.openWep = false) (hawaits : AwaitsAuth d) (hseq : d.associateSeq = 4)
    (h : Answerable (env, skb)) : ¬ ∀ e ∈ (noteAuthFrame env d skb).1, e.Ok := by
  intro hok
  rcases noteAuthFrame_answers hopen hawaits h with ⟨-, hevents⟩ | ⟨-, hevents, -⟩
  · rw [hevents] at hok
    have hkeyed : false = true := hok (.encrypt false) List.mem_cons_self
    cases hkeyed
  · rw [hevents, hseq] at hok
    have hthree : (5 : UInt16) = 3 := hok (.response 5) (List.mem_cons_of_mem _ List.mem_cons_self)
    cases hthree

/-- From the second frame on. -/
theorem framesEvents_second (hopen : d.openWep = false) (hawaits : AwaitsAuth d) (hseq : d.associateSeq = 4)
    {is : List (Env × SkBuff)} (his : ∀ i ∈ is, fcStype (frameCtl i.2.data) = stypeAuth) :
    (∀ e ∈ framesEvents d is, e.Ok) ↔ ∀ j rest', is = j :: rest' → ¬ Answerable j := by
  cases is with
  | nil => exact iff_of_true nofun nofun
  | cons j rest =>
    obtain ⟨-, his⟩ := List.forall_mem_cons.mp his
    unfold framesEvents
    by_cases hj : Answerable j
    · refine iff_of_false (fun hok => ?_) fun h => h j rest rfl hj
      exact second_not_ok hopen hawaits hseq hj fun e he => hok e (List.mem_append_left _ he)
    · obtain ⟨hevents, hended⟩ := noteAuthFrame_ends (fun h => hj h.2) hawaits
      rw [hevents, framesEvents_ended hended his]
      refine iff_of_true nofun ?_
      rintro _ _ ⟨⟩
      exact hj

/-- A station that answers no challenge sends nothing more. -/
theorem framesEvents_silent (h : AwaitsAuth d → d.openWep = true) {is : List (Env × SkBuff)}
    (his : ∀ i ∈ is, fcStype (frameCtl i.2.data) = stypeAuth) : framesEvents d is = [] := by
  by_cases hawaits : AwaitsAuth d
  · cases is with
    | nil => rfl
    | cons i is =>
      have hnone : ¬ (d.openWep = false ∧ Answerable i) := by
        rintro ⟨hopen, -⟩
        rw [h hawaits] at hopen
        cases hopen
      obtain ⟨hevents, hended⟩ := noteAuthFrame_ends hnone hawaits
      unfold framesEvents
      rw [hevents, framesEvents_ended hended (List.forall_mem_cons.mp his).2]
      rfl
  · exact framesEvents_ended hawaits his

/-- From the first frame on. -/
theorem framesEvents_first (hopen : d.openWep = false) (hawaits : AwaitsAuth d) (hseq : d.associateSeq = 2)
    {is : List (Env × SkBuff)} (his : ∀ i ∈ is, fcStype (frameCtl i.2.data) = stypeAuth) :
    (∀ e ∈ framesEvents d is, e.Ok) ↔ ∀ i rest, is = i :: rest → Answerable i →
      d.txCrypt.isSome = true ∧ ∀ j rest', rest = j :: rest' → ¬ Answerable j := by
  cases is with
  | nil => exact iff_of_true nofun nofun
  | cons i rest =>
    obtain ⟨-, his⟩ := List.forall_mem_cons.mp his
    unfold framesEvents
    simp only [List.cons.injEq, and_imp, List.forall_mem_append]
    by_cases hi : Answerable i
    · rcases noteAuthFrame_answers hopen hawaits hi with
        ⟨hnone, hevents⟩ | ⟨hkey, hevents, hopen', hawaits', hseq'⟩
      · rw [hevents]
        refine iff_of_false (fun hok => ?_) fun h => ?_
        · have hkeyed : false = true := hok.1 (.encrypt false) List.mem_cons_self
          cases hkeyed
        · have hkey := (h i rest rfl rfl hi).1
          rw [hnone] at hkey
          cases hkey
      · rw [hseq] at hevents hseq'
        have hgood : ∀ e ∈ (noteAuthFrame i.1 d i.2).1, e.Ok := by
          rw [hevents]
          simp only [List.forall_mem_cons, AuthEvent.Ok, List.not_mem_nil, false_imp_iff, implies_true, and_true, true_and]
          rfl
        rw [framesEvents_second hopen' hawaits' hseq' his, and_iff_right hgood]
        constructor
        · rintro h _ _ rfl rfl -
          exact ⟨hkey, h⟩
        · exact fun h => (h i rest rfl rfl hi).2
    · obtain ⟨hevents, hended⟩ := noteAuthFrame_ends (fun h => hi h.2) hawaits
      rw [hevents, framesEvents_ended hended his]
      refine iff_of_true ⟨nofun, nofun⟩ ?_
      rintro _ _ rfl rfl hi'
      exact absurd hi' hi

/-- **When the exchange is as it should be.** -/
theorem exchangeOk_iff {is : List (Env × SkBuff)} (his : ∀ i ∈ is, fcStype (frameCtl i.2.data) = stypeAuth) :
    ExchangeOk env d is ↔ OneChallenge env d is := by
  unfold ExchangeOk OneChallenge attemptEvents
  dsimp only
  by_cases halloc : env.skbAlloc = true
  · obtain ⟨hrequest, hsetup, hcrypt, hwaits, hseq⟩ := @noteAssociateStep1_start P env d halloc
    set d₁ := (noteAssociateStep1 env { d with associateSeq := 1 }).2 with hd₁
    have hfirst : (∀ e ∈ [AuthEvent.request 1] ++ framesEvents d₁ is, e.Ok) ↔ ∀ e ∈ framesEvents d₁ is, e.Ok := by
      simp [AuthEvent.Ok]
    rw [hrequest, hfirst, forall_prop_of_true halloc]
    by_cases hanswers : AnswersChallenges d
    · obtain ⟨hstarted, hassoc, hmode, hopen⟩ := hanswers
      have hawaits : AwaitsAuth d₁ :=
        ⟨hsetup.started.trans hstarted, hsetup.features ▸ hassoc, hwaits, hsetup.mode.trans hmode⟩
      rw [forall_prop_of_true ⟨hstarted, hassoc, hmode, hopen⟩,
        framesEvents_first (hsetup.openWep.trans hopen) hawaits hseq his, hcrypt]
    · have hsilent : AwaitsAuth d₁ → d₁.openWep = true := by
        rintro ⟨hstarted, hassoc, -, hmode⟩
        rw [hsetup.started] at hstarted
        rw [hsetup.features] at hassoc
        rw [hsetup.mode] at hmode
        rw [hsetup.openWep]
        by_contra hopen
        exact hanswers ⟨hstarted, hassoc, hmode, Bool.eq_false_iff.mpr hopen⟩
      rw [framesEvents_silent hsilent his]
      exact iff_of_true nofun fun h => absurd h hanswers
  · have hfail : noteAssociateStep1 env { d with associateSeq := 1 } =
        ([], associateAbort { d with associateSeq := 1 }) := by
      unfold noteAssociateStep1 authenticationReq
      rw [if_neg halloc]
    have hended : ¬ AwaitsAuth (associateAbort { d with associateSeq := 1 }) := by
      rintro ⟨-, -, hstate, -⟩
      rw [associateAbort_state] at hstate
      cases hstate
    rw [hfail, framesEvents_ended hended his]
    exact iff_of_true nofun fun h => absurd h halloc

end

/-- A station that uses a shared key, with a module in its transmit slot. -/
def keyedStation : Device Priv :=
  { Device.init Priv ⟨250, true⟩ ⟨2, 0, 0, 0, 0, 1⟩ with
    protoStarted := true
    openWep := false
    crypt := fun _ => some ⟨some nullOps, .null⟩ }

/-- A challenge from its access point, and the moment it comes. -/
def challengeFrame : Env × SkBuff :=
  (⟨1000, true, fun _ => false, ⟨0, 0, 0, 0, 0, 0⟩⟩,
    ⟨0, mgmtHdr stypeAuth 0 ⟨2, 0, 0, 0, 0, 1⟩ ⟨2, 0, 0, 0, 0, 3⟩ ⟨2, 0, 0, 0, 0, 3⟩ ++
      [1, 0, 2, 0, 0, 0] ++ infoElement mfieTypeChallenge [0xC5, 0x3A], []⟩)

/-- One challenge. -/
theorem keyedStation_ok : ExchangeOk challengeFrame.1 keyedStation [challengeFrame] := by
  refine (exchangeOk_iff (by simp only [List.mem_singleton, forall_eq]; decide)).mpr ?_
  rintro - - i rest hi -
  cases hi
  exact ⟨rfl, nofun⟩

/-- The same challenge twice. -/
theorem repeated_challenge : ¬ ∀ (env : Env) (d : Device Priv) (is : List (Env × SkBuff)),
    (∀ i ∈ is, fcStype (frameCtl i.2.data) = stypeAuth) → ExchangeOk env d is := by
  intro h
  have hok := h challengeFrame.1 keyedStation [challengeFrame, challengeFrame] (by
    simp only [List.mem_cons, List.not_mem_nil, or_false, or_self, forall_eq]
    decide)
  have hfive : AuthEvent.response 5 ∈
      attemptEvents challengeFrame.1 keyedStation [challengeFrame, challengeFrame] := by decide
  have hthree : (5 : UInt16) = 3 := hok _ hfive
  cases hthree

end Rtl8187

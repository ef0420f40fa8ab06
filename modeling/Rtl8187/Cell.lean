/-
# An access point and its stations

Stations and an access point that all run this driver, in range of each other. What is
on the air may be heard by anyone, late, in any order, more than once or not at all;
timers run out, attempts start over, and the rest of the driver goes on meanwhile, as far
as `QuietAct` says. A station is linked only when the access point granted it, with the id it was granted
(`cell_agrees`); no two linked stations have the same id, as long as the counter of ids has
not come around (`cell_ids_distinct`). From any state in which both can transmit, four
frames that get through link a station (`cell_links`). A station set to shared-key authentication
is never linked, since this access point refuses it.

Key definitions: `Cell`, `CellEvent`, `Cell.step`, `CellStart`, `Agreed`, `IdsKept`.
Key theorems: `agreed_step`, `cell_agrees`, `idsKept_step`, `cell_ids_distinct`, `cell_links`.
-/
import Rtl8187.CellFrames

namespace Rtl8187

open Bytes

/-- The access point, `none`, and the stations. -/
abbrev Cell (ι P : Type) : Type := Option ι → Device P

/-- What else the driver does to a device without the cell being told: scans, data, power
save, an end of the link (`QuietSteps` has these). It has nothing of the association sent
but what waits in the queue, gives no link and no id, and the device stays who it is.

So some parts of the driver are none of it: settings of the mode, the BSSID or `open_wep`; a
new start of the BSS, with which the ids begin at one again; and the end of
`ieee80211_wx_sync_scan_wq`, which says LINKED whatever has come of the link during the
scan. -/
structure QuietAct (P : Type) where
  run : Device P → Device P
  utters : ∀ d, Utters (fun v => ¬ v.Associates) (run d) d
  assocId : ∀ d, (run d).assocId = d.assocId
  auth : ∀ d, (run d).state = .associatingAuthenticated → d.state = .associatingAuthenticated
  up : ∀ d, (run d).state.up = true → d.state.up = true

/-- What may happen in a cell. -/
inductive CellEvent (ι P : Type) where
  | associate (i : ι) (env : Env)
  | timeout (i : ι)
  | hear (dest src : Option ι) (env : Env) (skb : SkBuff)
  | other (p : Option ι) (act : QuietAct P)

variable {ι P : Type}

/-- One step. A management frame is heard by the device it is for, if it is on the air. -/
def Cell.step [DecidableEq ι] (c : Cell ι P) : CellEvent ι P → Cell ι P
  | .associate i env =>
    Function.update c (some i) (associateStep1 env { c (some i) with associateSeq := 1 })
  | .timeout i =>
    if (c (some i)).associateTimer = none then c
    else Function.update c (some i) (associateAbort (c (some i)).delAssociateTimer)
  | .hear dest src env skb =>
    if fcType (frameCtl skb.data) = ftypeMgmt ∧ skb.data ∈ (c src).sent ∧
        addr1 skb.data = (c dest).devAddr then
      Function.update c dest (rxFrameSoftmac env (c dest) skb).2
    else c
  | .other p act => Function.update c p (act.run (c p))

/-- The frame is on the air. -/
def Device.OnAir (d : Device P) (v : AirFrame) : Prop := ∃ f ∈ d.sent, AirFrame.of f = v

/-- A cell in which nothing of an association has happened yet. -/
structure CellStart (c : Cell ι P) : Prop where
  addrs : Function.Injective fun p => (c p).devAddr
  ap : (c none).iwMode = .master
  id : (c none).assocId = 1
  sta : ∀ i, (c (some i)).iwMode = .infra
  bssid : ∀ i, (c (some i)).currentNetwork.bssid = (c none).devAddr
  nolink : ∀ i, (c (some i)).state = .nolink
  silent : ∀ p v, (c p).Out v → ¬ v.Associates

/-- A reply to a request of authentication of `sta`. -/
structure Answered (sta : Device P) (v : AirFrame) : Prop where
  kind : v.kind = stypeAuth
  dest : v.dest = sta.devAddr
  length : v.length = 30
  algorithm : v.w28 = wlanStatusSuccess → sta.openWep = true

/-- A reply to a request of association of `sta`. -/
structure Granted (sta : Device P) (v : AirFrame) : Prop where
  kind : v.kind = stypeAssocResp
  dest : v.dest = sta.devAddr
  length : 32 ≤ v.length
  request : ∃ req, sta.OnAir req ∧ AssocReq sta req

/-- What holds in every state of a cell. -/
structure Agreed (c : Cell ι P) : Prop where
  addrs : Function.Injective fun p => (c p).devAddr
  ap : (c none).iwMode = .master
  sta : ∀ i, (c (some i)).iwMode = .infra
  bssid : ∀ i, (c (some i)).currentNetwork.bssid = (c none).devAddr
  requests : ∀ i v, (c (some i)).Out v → v.Associates → AuthReq (c (some i)) v ∨ AssocReq (c (some i)) v
  replies : ∀ v, (c none).Out v → v.Associates →
    ∃ i, Answered (c (some i)) v ∨ Granted (c (some i)) v
  auth : ∀ i, (c (some i)).state = .associatingAuthenticated → (c (some i)).openWep = true
  up : ∀ i, (c (some i)).state.up = true → (c (some i)).openWep = true ∧
    ∃ v, (c none).OnAir v ∧ Granted (c (some i)) v ∧ v.w28 &&& 0x3fff = (c (some i)).assocId

section

variable {c : Cell ι P} {d d' : Device P} {v : AirFrame}

theorem Device.OnAir.out (h : d.OnAir v) : d.Out v := Or.inl h

theorem Utters.onAir {Q : AirFrame → Prop} (h : Utters Q d' d) (hv : d.OnAir v) : d'.OnAir v := by
  obtain ⟨f, hf, hv⟩ := hv
  exact ⟨f, h.sent f hf, hv⟩

theorem AuthReq.of_utters {Q : AirFrame → Prop} (h : Utters Q d' d) (hv : AuthReq d v) : AuthReq d' v := by
  refine ⟨hv.kind, ?_, ?_, ?_, hv.length⟩
  · rw [h.bssid]
    exact hv.dest
  · rw [h.devAddr]
    exact hv.src
  · rw [h.openWep]
    exact hv.algorithm

theorem AssocReq.of_utters {Q : AirFrame → Prop} (h : Utters Q d' d) (hv : AssocReq d v) : AssocReq d' v := by
  refine ⟨hv.kind, ?_, ?_, hv.length⟩
  · rw [h.bssid]
    exact hv.dest
  · rw [h.devAddr]
    exact hv.src

theorem Answered.of_utters {Q : AirFrame → Prop} (h : Utters Q d' d) (hv : Answered d v) : Answered d' v := by
  refine ⟨hv.kind, ?_, hv.length, fun hok => ?_⟩
  · rw [h.devAddr]
    exact hv.dest
  · rw [h.openWep]
    exact hv.algorithm hok

theorem Granted.of_utters {Q : AirFrame → Prop} (h : Utters Q d' d) (hv : Granted d v) : Granted d' v := by
  obtain ⟨req, hreq, hframe⟩ := hv.request
  refine ⟨hv.kind, ?_, hv.length, req, h.onAir hreq, hframe.of_utters h⟩
  rw [h.devAddr]
  exact hv.dest

theorem agreed_start (h : CellStart c) : Agreed c where
  addrs := h.addrs
  ap := h.ap
  sta := h.sta
  bssid := h.bssid
  requests i v hv ha := absurd ha (h.silent _ v hv)
  replies v hv ha := absurd ha (h.silent _ v hv)
  auth i hs := by
    rw [h.nolink i] at hs
    cases hs
  up i hs := by
    rw [h.nolink i] at hs
    cases hs

/-- What a device has on the air, as the association reads it. -/
theorem onAir_of_mem {skb : SkBuff} (h : skb.data ∈ d.sent) : d.OnAir (AirFrame.of skb.data) :=
  ⟨skb.data, h, rfl⟩

/-- A frame of the association for a station comes from the access point. -/
theorem src_of_station (h : Agreed c) {i : ι} {src : Option ι} {skb : SkBuff}
    (hair : skb.data ∈ (c src).sent) (haddr : addr1 skb.data = (c (some i)).devAddr)
    (ha : (AirFrame.of skb.data).Associates) :
    (c none).OnAir (AirFrame.of skb.data) ∧
      (Answered (c (some i)) (AirFrame.of skb.data) ∨ Granted (c (some i)) (AirFrame.of skb.data)) := by
  have hdest : (AirFrame.of skb.data).dest = (c (some i)).devAddr := haddr
  cases src with
  | some j =>
    have hbssid : (AirFrame.of skb.data).dest = (c none).devAddr := by
      rcases h.requests j _ (onAir_of_mem hair).out ha with hreq | hreq
      · rw [hreq.dest, h.bssid]
      · rw [hreq.dest, h.bssid]
    have hself := h.addrs (hbssid.symm.trans hdest)
    cases hself
  | none =>
    refine ⟨onAir_of_mem hair, ?_⟩
    obtain ⟨j, hj⟩ := h.replies _ (onAir_of_mem hair).out ha
    have hdest' : (AirFrame.of skb.data).dest = (c (some j)).devAddr := by
      rcases hj with hj | hj
      · exact hj.dest
      · exact hj.dest
    have hji := h.addrs (hdest'.symm.trans hdest)
    obtain rfl := Option.some.inj hji
    exact hj

/-- A frame of the association for the access point comes from a station. -/
theorem src_of_ap (h : Agreed c) {src : Option ι} {skb : SkBuff} (hair : skb.data ∈ (c src).sent)
    (haddr : addr1 skb.data = (c none).devAddr) (ha : (AirFrame.of skb.data).Associates) :
    ∃ i, (c (some i)).OnAir (AirFrame.of skb.data) ∧
      (AuthReq (c (some i)) (AirFrame.of skb.data) ∨ AssocReq (c (some i)) (AirFrame.of skb.data)) := by
  have hdest : (AirFrame.of skb.data).dest = (c none).devAddr := haddr
  cases src with
  | some i => exact ⟨i, onAir_of_mem hair, h.requests i _ (onAir_of_mem hair).out ha⟩
  | none =>
    obtain ⟨j, hj⟩ := h.replies _ (onAir_of_mem hair).out ha
    have hdest' : (AirFrame.of skb.data).dest = (c (some j)).devAddr := by
      rcases hj with hj | hj
      · exact hj.dest
      · exact hj.dest
    have hself := h.addrs (hdest'.symm.trans hdest)
    cases hself

variable [DecidableEq ι]

/-- Who is who stays. -/
theorem addrs_update (h : Agreed c) {p : Option ι} {Q : AirFrame → Prop} (hd : Utters Q d (c p)) :
    Function.Injective fun q => (Function.update c p d q).devAddr := by
  have hsame : (fun q => (Function.update c p d q).devAddr) = fun q => (c q).devAddr := by
    funext q
    by_cases hq : q = p
    · rw [hq, Function.update_self, hd.devAddr]
    · rw [Function.update_of_ne hq]
  rw [hsame]
  exact h.addrs

/-- **A station's step** keeps the agreement, when what it says is a request of its own,
and it is authenticated or up only for a reason. -/
theorem agreed_station (h : Agreed c) {i : ι}
    (hd : Utters (fun v => v.Associates → AuthReq (c (some i)) v ∨ AssocReq (c (some i)) v) d (c (some i)))
    (hauth : d.state = .associatingAuthenticated → (c (some i)).openWep = true)
    (hup : d.state.up = true → (c (some i)).openWep = true ∧
      ∃ v, (c none).OnAir v ∧ Granted (c (some i)) v ∧ v.w28 &&& 0x3fff = d.assocId) :
    Agreed (Function.update c (some i) d) := by
  have hap : Function.update c (some i) d none = c none := Function.update_of_ne (by simp) _ _
  have hself : Function.update c (some i) d (some i) = d := Function.update_self ..
  have hother : ∀ j, j ≠ i → Function.update c (some i) d (some j) = c (some j) := by
    intro j hj
    exact Function.update_of_ne (by simpa using hj) _ _
  have hstation : ∀ j, Utters (fun v => v.Associates → AuthReq (c (some i)) v ∨ AssocReq (c (some i)) v)
      (Function.update c (some i) d (some j)) (c (some j)) := by
    intro j
    by_cases hj : j = i
    · rw [hj, hself]
      exact hd
    · rw [hother j hj]
      exact Utters.refl _ _
  refine ⟨addrs_update h hd, ?_, ?_, ?_, ?_, ?_, ?_, ?_⟩
  · rw [hap]
    exact h.ap
  · intro j
    rw [(hstation j).iwMode]
    exact h.sta j
  · intro j
    rw [(hstation j).bssid, hap]
    exact h.bssid j
  · intro j v hv ha
    by_cases hj : j = i
    · rw [hj, hself] at hv ⊢
      have hreq : AuthReq (c (some i)) v ∨ AssocReq (c (some i)) v := by
        rcases hd.out v hv with hold | hnew
        · exact h.requests i v hold ha
        · exact hnew ha
      exact hreq.imp (AuthReq.of_utters hd) (AssocReq.of_utters hd)
    · rw [hother j hj] at hv ⊢
      exact h.requests j v hv ha
  · intro v hv ha
    rw [hap] at hv
    obtain ⟨j, hj⟩ := h.replies v hv ha
    exact ⟨j, hj.imp (Answered.of_utters (hstation j)) (Granted.of_utters (hstation j))⟩
  · intro j hs
    by_cases hj : j = i
    · rw [hj, hself] at hs ⊢
      rw [hd.openWep]
      exact hauth hs
    · rw [hother j hj] at hs ⊢
      exact h.auth j hs
  · intro j hs
    rw [hap]
    by_cases hj : j = i
    · rw [hj, hself] at hs ⊢
      obtain ⟨hopen, v, hv, hgranted, hid⟩ := hup hs
      rw [hd.openWep]
      exact ⟨hopen, v, hv, hgranted.of_utters hd, hid⟩
    · rw [hother j hj] at hs ⊢
      exact h.up j hs

/-- **A step of the access point** keeps the agreement, when what it says are replies. -/
theorem agreed_ap (h : Agreed c) (hd : Utters (fun v => v.Associates →
      ∃ i, Answered (c (some i)) v ∨ Granted (c (some i)) v) d (c none)) :
    Agreed (Function.update c none d) := by
  have hap : Function.update c none d none = d := Function.update_self ..
  have hother : ∀ j, Function.update c none d (some j) = c (some j) := fun j =>
    Function.update_of_ne (by simp) _ _
  refine ⟨addrs_update h hd, ?_, fun j => ?_, fun j => ?_, fun j => ?_, fun v hv ha => ?_, fun j => ?_,
    fun j hs => ?_⟩
  · rw [hap, hd.iwMode]
    exact h.ap
  · rw [hother j]
    exact h.sta j
  · rw [hother j, hap, hd.devAddr]
    exact h.bssid j
  · rw [hother j]
    exact h.requests j
  · rw [hap] at hv
    have hreply : ∃ i, Answered (c (some i)) v ∨ Granted (c (some i)) v := by
      rcases hd.out v hv with hold | hnew
      · exact h.replies v hold ha
      · exact hnew ha
    obtain ⟨i, hi⟩ := hreply
    refine ⟨i, ?_⟩
    rw [hother i]
    exact hi
  · rw [hother j]
    exact h.auth j
  · rw [hother j] at hs ⊢
    obtain ⟨hopen, v, hv, hgranted, hid⟩ := h.up j hs
    rw [hap]
    exact ⟨hopen, v, hd.onAir hv, hgranted, hid⟩

/-! ### A step of the cell -/

/-- A station hears a frame. -/
theorem agreed_hear_station (h : Agreed c) (env : Env) {i : ι} {src : Option ι} {skb : SkBuff}
    (hmgmt : fcType (frameCtl skb.data) = ftypeMgmt) (hair : skb.data ∈ (c src).sent) (haddr : addr1 skb.data = (c (some i)).devAddr) :
    Agreed (Function.update c (some i) (rxFrameSoftmac env (c (some i)) skb).2) := by
  have hauth : (AirFrame.of skb.data).kind = stypeAuth → skb.len = 30 ∧
      ((AirFrame.of skb.data).w28 = wlanStatusSuccess → (c (some i)).openWep = true) := by
    intro hst
    have ha : (AirFrame.of skb.data).Associates := by
      rw [AirFrame.Associates, hst]
      decide
    rcases (src_of_station h hair haddr ha).2 with hj | hj
    · exact ⟨hj.length, hj.algorithm⟩
    · have hne := hj.kind.symm.trans hst
      exact absurd hne (by decide)
  have hresp : (AirFrame.of skb.data).kind = stypeAssocResp ∨
      (AirFrame.of skb.data).kind = stypeReassocResp →
      (c none).OnAir (AirFrame.of skb.data) ∧ Granted (c (some i)) (AirFrame.of skb.data) := by
    intro hst
    have ha : (AirFrame.of skb.data).Associates := by
      rcases hst with hst | hst
      · rw [AirFrame.Associates, hst]
        decide
      · rw [AirFrame.Associates, hst]
        decide
    obtain ⟨hsent, hj | hj⟩ := src_of_station h hair haddr ha
    · rcases hst with hst | hst
      · exact absurd (hj.kind.symm.trans hst) (by decide)
      · exact absurd (hj.kind.symm.trans hst) (by decide)
    · exact ⟨hsent, hj⟩
  have hstep := rxFrameSoftmac_infra env (h.sta i) hmgmt (fun hst => (hauth hst).1)
    (fun hst => (hresp hst).2.length)
  rcases hstep with ⟨hd, hid, hs, hup⟩ | ⟨hst, hok, hd, hid, hup⟩ | ⟨hst, hok, hs, hd, hid, hlinked⟩
  · apply agreed_station h (hd.mono fun v hv => hv.elim) (fun hs' => h.auth i (hs hs'))
    intro hup'
    rw [hid]
    exact h.up i (hup hup')
  · apply agreed_station h (hd.mono fun v hv _ => Or.inr hv) (fun _ => (hauth hst).2 hok)
    intro hup'
    rw [hup] at hup'
    cases hup'
  · obtain ⟨hsent, hgranted⟩ := hresp hst
    apply agreed_station h (hd.mono fun v hv => hv.elim)
    · intro hs'
      rw [hlinked] at hs'
      cases hs'
    · intro _
      exact ⟨h.auth i hs, _, hsent, hgranted, hid.symm⟩

/-- The access point hears a frame. -/
theorem agreed_hear_ap (h : Agreed c) (env : Env) {src : Option ι} {skb : SkBuff}
    (hmgmt : fcType (frameCtl skb.data) = ftypeMgmt) (hair : skb.data ∈ (c src).sent) (haddr : addr1 skb.data = (c none).devAddr) :
    Agreed (Function.update c none (rxFrameSoftmac env (c none) skb).2) := by
  apply agreed_ap h
  rcases rxFrameSoftmac_master env h.ap hmgmt with ⟨hd, -⟩ | ⟨hst, hd, -⟩ | ⟨hst, hd, -⟩
  · exact hd.mono fun v hv ha => absurd ha hv
  · have ha : (AirFrame.of skb.data).Associates := by
      rw [AirFrame.Associates, hst]
      decide
    obtain ⟨i, -, hreq | hreq⟩ := src_of_ap h hair haddr ha
    · refine hd.mono fun v hv _ => ⟨i, Or.inl ⟨hv.kind, hv.dest.trans hreq.src, hv.length, fun hok => ?_⟩⟩
      -- only a request for open authentication is answered with success
      by_contra hshared
      have halg := hreq.algorithm
      rw [if_neg hshared] at halg
      have hstatus := hv.status
      rw [halg, hok] at hstatus
      exact absurd hstatus (by decide)
    · exact absurd (hreq.kind.symm.trans hst) (by decide)
  · have ha : (AirFrame.of skb.data).Associates := by
      rcases hst with hst | hst
      · rw [AirFrame.Associates, hst]
        decide
      · rw [AirFrame.Associates, hst]
        decide
    obtain ⟨i, hsent, hreq | hreq⟩ := src_of_ap h hair haddr ha
    · rcases hst with hst | hst
      · exact absurd (hreq.kind.symm.trans hst) (by decide)
      · exact absurd (hreq.kind.symm.trans hst) (by decide)
    · exact hd.mono fun v hv _ =>
        ⟨i, Or.inr ⟨hv.kind, hv.dest.trans hreq.src, hv.length, _, hsent, hreq⟩⟩

/-- **A step** keeps the agreement. -/
theorem agreed_step (h : Agreed c) (e : CellEvent ι P) : Agreed (c.step e) := by
  cases e with
  | associate i env =>
    have hd := associateStep1_utters env { c (some i) with associateSeq := 1 }
    have hutters : Utters (fun v => v.Associates → AuthReq (c (some i)) v ∨ AssocReq (c (some i)) v)
        (associateStep1 env { c (some i) with associateSeq := 1 }) (c (some i)) := by
      refine (hd.mono fun v hv _ => Or.inl ?_).trans (Utters.of_eq rfl rfl rfl rfl rfl rfl)
      exact ⟨hv.kind, hv.dest, hv.src, hv.algorithm, hv.length⟩
    obtain ⟨hauth, hup⟩ := associateStep1_below env { c (some i) with associateSeq := 1 }
    apply agreed_station h hutters
    · intro hs
      exact absurd hs hauth
    · intro hs
      rw [hup] at hs
      cases hs
  | timeout i =>
    have hstate := associateAbort_state (c (some i)).delAssociateTimer
    rw [Cell.step]
    split_ifs
    · exact h
    · apply agreed_station h ((associateAbort_utters _).trans (delAssociateTimer_utters _))
      · intro hs
        rw [hstate] at hs
        cases hs
      · intro hs
        rw [hstate] at hs
        cases hs
  | hear dest src env skb =>
    rw [Cell.step]
    split_ifs with hheard
    · cases dest with
      | none => exact agreed_hear_ap h env hheard.1 hheard.2.1 hheard.2.2
      | some i => exact agreed_hear_station h env hheard.1 hheard.2.1 hheard.2.2
    · exact h
  | other p act =>
    cases p with
    | none => exact agreed_ap h ((act.utters _).mono fun v hv ha => absurd ha hv)
    | some i =>
      apply agreed_station h ((act.utters _).mono fun v hv ha => absurd ha hv)
      · intro hs
        exact h.auth i (act.auth _ hs)
      · intro hs
        rw [act.assocId]
        exact h.up i (act.up _ hs)

theorem agreed_run (h : CellStart c) (es : List (CellEvent ι P)) : Agreed (Run.run Cell.step c es) :=
  @Run.inv_run _ _ Cell.step (fun _ _ => True) Agreed (fun _ e hc _ => agreed_step hc e) c es
    (agreed_start h) (Run.allSteps_true c es)

/-- A device of the cell before anything has happened, with the last byte of its address. -/
def restingDevice (b : UInt8) : Device Unit :=
  { Device.init Unit ⟨250, true⟩ ⟨2, 0, 0, 0, 0, b⟩ with protoStarted := true }

/-- An access point and two stations, all at rest. -/
def restingCell : Cell Bool Unit
  | none => { restingDevice 1 with iwMode := .master, assocId := 1 }
  | some b =>
    { restingDevice (if b then 2 else 3) with
      currentNetwork := { (restingDevice 0).currentNetwork with bssid := ⟨2, 0, 0, 0, 0, 1⟩ } }

def restingEnv : Env := ⟨0, true, fun _ => false, ⟨0, 0, 0, 0, 0, 0⟩⟩

theorem restingCell_start : CellStart restingCell := by
  have hout : ∀ p v, ¬ (restingCell p).Out v := by
    rintro (_ | _) v (⟨f, hf, -⟩ | ⟨i, skb, n, h, -⟩)
    all_goals
      first | cases hf | cases h
  refine ⟨?_, rfl, rfl, fun _ => rfl, fun _ => rfl, fun _ => rfl, fun p v h => absurd h (hout p v)⟩
  rintro (_ | _ | _) (_ | _ | _) haddr
  all_goals
    first | rfl | exact absurd haddr (by decide)

/-- A device hears what another said last. -/
def hearLast (c : Cell Bool Unit) (dest src : Option Bool) : CellEvent Bool Unit :=
  .hear dest src restingEnv ⟨0, (c src).sent.getLastD [], []⟩

/-- The events of an exchange with the access point, of which so many frames are heard. -/
def exchange (b : Bool) : ℕ → Cell Bool Unit → List (CellEvent Bool Unit)
  | 0, _ => [.associate b restingEnv]
  | n + 1, c =>
    let es := exchange b n c
    es ++ [hearLast (Run.run Cell.step c es) (if n % 2 = 0 then none else some b)
      (if n % 2 = 0 then some b else none)]

/-- The one station is linked after the other. -/
def twoExchanges : List (CellEvent Bool Unit) :=
  let es := exchange true 4 restingCell
  es ++ exchange false 4 (Run.run Cell.step restingCell es)

/-- **A linked station was granted its link.** In every run, a station that is linked, or
scans while linked, is set to open authentication, and the access point has put on the
air a response to a request of that station with the id the station has. -/
theorem cell_agrees (h : CellStart c) (es : List (CellEvent ι P)) (i : ι) :
    let c' := Run.run Cell.step c es
    (c' (some i)).state.up = true → (c' (some i)).openWep = true ∧
      ∃ v, (c' none).OnAir v ∧ Granted (c' (some i)) v ∧ v.w28 &&& 0x3fff = (c' (some i)).assocId := by
  intro c' hup
  exact (agreed_run h es).up i hup

theorem cell_agrees_second :
    (Run.run Cell.step restingCell twoExchanges (some false)).openWep = true ∧
      ∃ v, (Run.run Cell.step restingCell twoExchanges none).OnAir v ∧
        Granted (Run.run Cell.step restingCell twoExchanges (some false)) v ∧
        v.w28 &&& 0x3fff = (Run.run Cell.step restingCell twoExchanges (some false)).assocId :=
  cell_agrees restingCell_start twoExchanges false (by decide +kernel)

/-! ### The ids -/

/-- The access point may hear something. -/
def CellEvent.isForAp : CellEvent ι P → Bool
  | .hear none _ _ _ => true
  | _ => false

/-- The ids that were given, after the access point may have heard `n` frames: they are
behind the counter, and none was given to two stations. -/
structure IdsKept (c : Cell ι P) (n : ℕ) : Prop where
  id : (c none).assocId.toNat ≤ n + 1
  behind : ∀ v, (c none).Out v → v.kind = stypeAssocResp → v.w28.toNat < (c none).assocId.toNat
  once : ∀ v w, (c none).Out v → (c none).Out w → v.kind = stypeAssocResp → w.kind = stypeAssocResp →
    v.w28 = w.w28 → v.dest = w.dest

omit [DecidableEq ι] in
theorem idsKept_start (h : CellStart c) : IdsKept c 0 := by
  have hnone : ∀ v, (c none).Out v → v.kind ≠ stypeAssocResp := by
    intro v hv hst
    apply h.silent none v hv
    rw [AirFrame.Associates, hst]
    decide
  refine ⟨?_, fun v hv hst => absurd hst (hnone v hv), fun v w hv _ hst => absurd hst (hnone v hv)⟩
  rw [h.id]
  decide

omit [DecidableEq ι] in
/-- Nothing is given. -/
theorem IdsKept.silent {n m : ℕ} (h : IdsKept c n) (hnm : n ≤ m) {c' : Cell ι P}
    (hid : (c' none).assocId = (c none).assocId)
    (hout : ∀ v, (c' none).Out v → v.kind = stypeAssocResp → (c none).Out v) : IdsKept c' m := by
  refine ⟨?_, fun v hv hst => ?_, fun v w hv hw hst hst' => ?_⟩
  · rw [hid]
    exact h.id.trans (by omega)
  · rw [hid]
    exact h.behind v (hout v hv hst) hst
  · exact h.once v w (hout v hv hst) (hout w hw hst') hst hst'

omit [DecidableEq ι] in
/-- The id of the counter is given to whom the request is from. -/
theorem IdsKept.give {n : ℕ} (h : IdsKept c n) (hn : n + 1 < 8199) {req : AirFrame} {c' : Cell ι P}
    (hd : Utters (AssocReply (c none) req) (c' none) (c none))
    (hid : (c' none).assocId = nextAid (c none).assocId) : IdsKept c' (n + 1) := by
  have hle := h.id
  have hne : (c none).assocId ≠ 0x2007 := by
    intro heq
    rw [heq] at hle
    have h2007 : (0x2007 : UInt16).toNat = 8199 := rfl
    omega
  have hnext : (c' none).assocId.toNat = (c none).assocId.toNat + 1 := by
    have hone : (1 : UInt16).toNat = 1 := rfl
    rw [hid, nextAid, if_neg hne, UInt16.toNat_add, hone]
    omega
  refine ⟨by omega, fun v hv hst => ?_, fun v w hv hw hst hst' heq => ?_⟩
  · rw [hnext]
    rcases hd.out v hv with hold | hnew
    · exact (h.behind v hold hst).trans (Nat.lt_succ_self _)
    · rw [hnew.id]
      exact Nat.lt_succ_self _
  · rcases hd.out v hv with hold | hnew
    · rcases hd.out w hw with hold' | hnew'
      · exact h.once v w hold hold' hst hst' heq
      · have hlt := h.behind v hold hst
        rw [heq, hnew'.id] at hlt
        exact absurd hlt (Nat.lt_irrefl _)
    · rcases hd.out w hw with hold' | hnew'
      · have hlt := h.behind w hold' hst'
        rw [← heq, hnew.id] at hlt
        exact absurd hlt (Nat.lt_irrefl _)
      · rw [hnew.dest, hnew'.dest]

theorem idsKept_step {n : ℕ} (ha : Agreed c) (h : IdsKept c n) (e : CellEvent ι P)
    (hn : n + (if e.isForAp then 1 else 0) < 8199) :
    IdsKept (c.step e) (n + if e.isForAp then 1 else 0) := by
  have hstation : ∀ (i : ι) (d : Device P), IdsKept (Function.update c (some i) d) n := by
    intro i d
    have hap : Function.update c (some i) d none = c none := Function.update_of_ne (by simp) _ _
    apply h.silent (Nat.le_refl n)
    · rw [hap]
    · intro v hv _
      rwa [hap] at hv
  have hquiet : ∀ (d : Device P) (m : ℕ), n ≤ m → Utters (fun v => ¬ v.Associates) d (c none) →
      d.assocId = (c none).assocId → IdsKept (Function.update c none d) m := by
    intro d m hm hd hid
    apply h.silent hm
    · rw [Function.update_self, hid]
    · intro v hv hst
      rw [Function.update_self] at hv
      rcases hd.out v hv with hold | hnew
      · exact hold
      · refine absurd ?_ hnew
        rw [AirFrame.Associates, hst]
        decide
  cases e with
  | associate i env => exact hstation i _
  | timeout i =>
    show IdsKept (if (c (some i)).associateTimer = none then c else Function.update c (some i) _) n
    split_ifs
    · exact h
    · exact hstation i _
  | other p act =>
    cases p with
    | some i => exact hstation i _
    | none => exact hquiet _ n (Nat.le_refl n) (act.utters _) (act.assocId _)
  | hear dest src env skb =>
    cases dest with
    | some i =>
      show IdsKept (if _ ∧ _ ∧ _ then Function.update c (some i) _ else c) n
      split_ifs
      · exact hstation i _
      · exact h
    | none =>
      have hcount : (if (CellEvent.hear (none : Option ι) src env skb : CellEvent ι P).isForAp then 1 else 0) =
          1 := rfl
      rw [hcount] at hn ⊢
      rw [Cell.step]
      split_ifs with hheard
      · rcases rxFrameSoftmac_master env ha.ap hheard.1 with ⟨hd, hid⟩ | ⟨hst, hd, hid⟩ | ⟨-, hd, hid⟩
        · exact hquiet _ (n + 1) (Nat.le_succ n) hd hid
        · refine h.silent (Nat.le_succ n) ?_ ?_
          · rw [Function.update_self, hid]
          · intro v hv hst'
            rw [Function.update_self] at hv
            rcases hd.out v hv with hold | hnew
            · exact hold
            · exact absurd (hnew.kind.symm.trans hst') (by decide)
        · refine @IdsKept.give ι P c n h hn (AirFrame.of skb.data) _ ?_ ?_
          · rw [Function.update_self]
            exact hd
          · rw [Function.update_self, hid]
      · exact h.silent (Nat.le_succ n) rfl fun v hv _ => hv

theorem idsKept_run (h : CellStart c) (es : List (CellEvent ι P)) (hfew : es.countP (·.isForAp) < 8199) :
    IdsKept (Run.run Cell.step c es) (es.countP (·.isForAp)) := by
  induction es using List.reverseRecOn with
  | nil => exact idsKept_start h
  | append_singleton es e ih =>
    rw [List.countP_append, List.countP_singleton] at hfew ⊢
    rw [Run.run_append]
    exact idsKept_step (agreed_run h es) (ih (by omega)) e hfew

/-- **No two linked stations have the same id**, as long as the access point has heard less
than 8199 frames. -/
theorem cell_ids_distinct (h : CellStart c) (es : List (CellEvent ι P))
    (hfew : es.countP (·.isForAp) < 8199) :
    let c' := Run.run Cell.step c es
    Set.InjOn (fun i => (c' (some i)).assocId) {i | (c' (some i)).state.up = true} := by
  intro c' i hi j hj heq
  have hagreed := agreed_run h es
  have hids := idsKept_run h es hfew
  obtain ⟨-, v, hv, hgranted, hid⟩ := hagreed.up i hi
  obtain ⟨-, w, hw, hgranted', hid'⟩ := hagreed.up j hj
  -- an id below the counter is left as it is by the mask
  have hmask : ∀ u, (c' none).Out u → u.kind = stypeAssocResp → u.w28 &&& 0x3fff = u.w28 := by
    intro u hu hst
    have hlt := hids.behind u hu hst
    have hle := hids.id
    apply UInt16.toNat_inj.mp
    have h3fff : (0x3fff : UInt16).toNat = 2 ^ 14 - 1 := rfl
    rw [UInt16.toNat_and, h3fff, Nat.and_two_pow_sub_one_eq_mod, Nat.mod_eq_of_lt]
    omega
  have hsame : v.w28 = w.w28 := by
    rw [← hmask v hv.out hgranted.kind, ← hmask w hw.out hgranted'.kind, hid, hid']
    exact heq
  have hdest := hids.once v w hv.out hw.out hgranted.kind hgranted'.kind hsame
  have haddr : (c' (some i)).devAddr = (c' (some j)).devAddr := by
    rw [← hgranted.dest, ← hgranted'.dest, hdest]
  exact Option.some.inj (hagreed.addrs haddr)

theorem cell_ids_distinct_two : (Run.run Cell.step restingCell twoExchanges (some true)).assocId ≠
    (Run.run Cell.step restingCell twoExchanges (some false)).assocId := by
  intro heq
  have hinj := cell_ids_distinct restingCell_start twoExchanges (by decide +kernel)
  have hsame := hinj (by decide +kernel : (Run.run Cell.step restingCell twoExchanges (some true)).state.up = true)
    (by decide +kernel : (Run.run Cell.step restingCell twoExchanges (some false)).state.up = true) heq
  cases hsame

/-! ### An exchange that gets through -/

/-- The device takes part in the association, and its frames do not have to wait. -/
structure Ready (d : Device P) : Prop where
  started : d.protoStarted = true
  associate : d.softmacFeatures.associate = true
  free : d.queueStop = false

/-- There is memory, and the hardware does not stop the queue. -/
structure Env.Fine (env : Env) : Prop where
  alloc : env.skbAlloc = true
  goes : ∀ n, env.stops n = false

variable {env : Env} {skb : SkBuff}

theorem Ready.queueWork (h : Ready d) (w : Work) : Ready (d.queueWork w) := by
  unfold Device.queueWork
  split_ifs
  · exact h
  · exact ⟨h.started, h.associate, h.free⟩

theorem Ready.staWakeup (h : Ready d) : Ready d.staWakeup := by
  have hqueue := h.queueWork .hwWakeup
  unfold Device.staWakeup
  split_ifs
  · exact h
  · exact ⟨hqueue.started, hqueue.associate, hqueue.free⟩
  · exact ⟨h.started, h.associate, h.free⟩

/-- A frame goes out. -/
theorem Ready.xmit (h : Ready d) (henv : env.Fine) (hlen : 24 ≤ skb.len) :
    Ready (softmacMgmtXmit env d skb) ∧ (softmacMgmtXmit env d skb).OnAir (AirFrame.of skb.data) := by
  have hair : ∀ (d₁ : Device P) (x : Handed) (n : UInt16), x.skb = skb.setSeqCtl n →
      ({ d₁ with handed := d₁.handed ++ [x] } : Device P).OnAir (AirFrame.of skb.data) := by
    intro d₁ x n hx
    refine ⟨x.skb.data, ?_, ?_⟩
    · rw [sent_append]
      simp
    · rw [hx, AirFrame.of_setSeqCtl hlen]
  have hwake := h.staWakeup
  unfold softmacMgmtXmit
  extract_lets d₁ numbered
  have hnumbered : Ready numbered := ⟨hwake.started, hwake.associate, hwake.free⟩
  split_ifs with hsingle hstop
  · rw [hwake.free] at hstop
    cases hstop
  · refine ⟨⟨hnumbered.started, hnumbered.associate, ?_⟩, ?_⟩
    · show (numbered.queueStop || env.stops numbered.handed.length) = false
      rw [hnumbered.free, henv.goes]
      rfl
    · exact hair numbered (.data (skb.setSeqCtl d₁.seqCtrl) d₁.basicRate) d₁.seqCtrl rfl
  · exact ⟨⟨hnumbered.started, hnumbered.associate, hnumbered.free⟩,
      hair numbered (.mgmt (skb.setSeqCtl d₁.seqCtrl)) d₁.seqCtrl rfl⟩

/-- The station asks to be authenticated. -/
theorem Ready.step1 (h : Ready d) (henv : env.Fine) : Ready (associateStep1 env d) ∧
    (associateStep1 env d).state = .associatingAuthenticating ∧
    ∃ v, (associateStep1 env d).OnAir v ∧ AuthReq d v := by
  unfold associateStep1
  rw [henv.alloc]
  cases hreq : authenticationReq true d 0 with
  | none => cases hreq
  | some r =>
    obtain ⟨skb, d'⟩ := r
    obtain ⟨hframe, hlen, rfl⟩ := authenticationReq_frame hreq
    dsimp only
    have hready : Ready { d with
        associateSeq := d.associateSeq + 1, state := .associatingAuthenticating } :=
      ⟨h.started, h.associate, h.free⟩
    obtain ⟨hready', hair⟩ := hready.xmit henv hlen
    exact ⟨⟨hready'.started, hready'.associate, hready'.free⟩, softmacMgmtXmit_state _ _ _, _, hair, hframe⟩

theorem Ready.note (h : Ready d) (stype : UInt16) : Ready (notePs env d stype) :=
  ⟨h.started, h.associate, h.free⟩

/-- Where the three frames of an exchange go. -/
theorem Ready.handles (h : Ready d) (env : Env) (skb : SkBuff) :
    ((AirFrame.of skb.data).kind = stypeAuth → (rxFrameSoftmac env d skb).2 =
      if d.state = .associatingAuthenticating ∧ d.iwMode = .infra then
        rxAuthResp env (notePs env d stypeAuth) skb
      else if d.iwMode = .master then rxAuthRq env (notePs env d stypeAuth) skb
      else notePs env d stypeAuth) ∧
    ((AirFrame.of skb.data).kind = stypeAssocReq → (rxFrameSoftmac env d skb).2 =
      if d.iwMode = .master then rxAssocRq env (notePs env d stypeAssocReq) skb
      else notePs env d stypeAssocReq) ∧
    ((AirFrame.of skb.data).kind = stypeAssocResp → (rxFrameSoftmac env d skb).2 =
      if d.state = .associatingAuthenticated ∧ d.iwMode = .infra then
        rxAssocResp (notePs env d stypeAssocResp) skb
      else notePs env d stypeAssocResp) := by
  have hfeat : ∀ stype, (notePs env d stype).softmacFeatures.associate = true := fun _ => h.associate
  have hsubtype : ∀ {k : UInt16}, fcType k = ftypeMgmt → (AirFrame.of skb.data).kind = k →
      fcStype (frameCtl skb.data) = k := fun hk hst =>
    (AirFrame.kindOf_of_mgmt (AirFrame.mgmt_of_kind hst hk)).symm.trans hst
  unfold rxFrameSoftmac
  refine ⟨fun hst => ?_, fun hst => ?_, fun hst => ?_⟩
  all_goals
    rw [hsubtype (by decide) hst]
  · dsimp only
    rw [if_neg (not_not_intro h.started), if_neg (by decide), if_neg (by decide), if_pos rfl, hfeat, if_pos rfl]
    rfl
  · dsimp only
    rw [if_neg (not_not_intro h.started), if_neg (by decide), if_pos (by decide), hfeat]
    simp only [true_and]
    rfl
  · dsimp only
    rw [if_neg (not_not_intro h.started), if_pos (by decide), hfeat]
    simp only [true_and]
    rfl

/-- The access point answers a request of authentication. -/
theorem Ready.answer (h : Ready d) (henv : env.Fine) (hmode : d.iwMode = .master)
    (hst : (AirFrame.of skb.data).kind = stypeAuth) (hopen : (AirFrame.of skb.data).w24 = wlanAuthOpen)
    (hlen : 28 ≤ skb.len) :
    Ready (rxFrameSoftmac env d skb).2 ∧ (rxFrameSoftmac env d skb).2.assocId = d.assocId ∧
      ∃ v, (rxFrameSoftmac env d skb).2.OnAir v ∧ v.kind = stypeAuth ∧
        v.dest = (AirFrame.of skb.data).src ∧ v.w28 = wlanStatusSuccess ∧ v.length = 30 := by
  have hinfra : d.iwMode ≠ .infra := by
    rw [hmode]
    decide
  have halg : get16 skb.data 24 = wlanAuthOpen := hopen
  have hparse : authRqParse skb = some (wlanStatusSuccess, addr2 skb.data) := by
    rw [authRqParse, if_neg (by omega), if_neg (not_not.mpr halg)]
  have hid := (rxAuthRq_serves env (notePs env d stypeAuth) skb).assocId
  rw [(h.handles env skb).1 hst, if_neg fun hs => hinfra hs.2, if_pos hmode]
  refine ⟨?_, hid, ?_⟩
  all_goals
    rw [rxAuthRq, hparse, henv.alloc]
    dsimp only
    cases hresp : authResp true (notePs env d stypeAuth) wlanStatusSuccess (addr2 skb.data) with
    | none => cases hresp
    | some r => _
  all_goals
    obtain ⟨reply, d'⟩ := r
    obtain ⟨hframe, rfl⟩ := authResp_frame hresp
    have hwhole : (AirFrame.of reply.data).length = 30 := by rw [hframe]
    have hlong : 24 ≤ reply.len := len_of_length ((by decide : 24 ≤ 30).trans_eq hwhole.symm)
    obtain ⟨hready, hair⟩ := (h.note stypeAuth).xmit henv hlong
  · exact hready
  · refine ⟨_, hair, ?_⟩
    rw [hframe]
    exact ⟨rfl, rfl, rfl, rfl⟩

/-- The access point answers a request of association. -/
theorem Ready.grant (h : Ready d) (henv : env.Fine) (hmode : d.iwMode = .master)
    (hst : (AirFrame.of skb.data).kind = stypeAssocReq) (hlen : 28 ≤ skb.len) :
    ∃ v, (rxFrameSoftmac env d skb).2.OnAir v ∧ AssocReply d (AirFrame.of skb.data) v := by
  have hparse : assocRqParse skb = some (addr2 skb.data) := by
    rw [assocRqParse, if_neg (by omega)]
  rw [(h.handles env skb).2.1 hst, if_pos hmode, rxAssocRq, hparse, henv.alloc]
  dsimp only
  cases hresp : assocResp true (notePs env d stypeAssocReq) (addr2 skb.data) with
  | none => cases hresp
  | some r =>
    obtain ⟨reply, d'⟩ := r
    obtain ⟨hframe, rfl⟩ := assocResp_frame hresp (AirFrame.of skb.data) rfl
    have hlong : 24 ≤ reply.len := len_of_length ((by decide : 24 ≤ 32).trans hframe.length)
    have hready : Ready { notePs env d stypeAssocReq with
        assocId := nextAid (notePs env d stypeAssocReq).assocId } := ⟨h.started, h.associate, h.free⟩
    exact ⟨_, (hready.xmit henv hlong).2, hframe.kind, hframe.dest, hframe.src, hframe.status, hframe.id,
      hframe.length⟩

/-- The station asks to be associated. -/
theorem Ready.request (h : Ready d) (henv : env.Fine) : Ready (associateStep2 env d) ∧
    (associateStep2 env d).state = d.state ∧ ∃ v, (associateStep2 env d).OnAir v ∧ AssocReq d v := by
  have htimer : Ready d.delAssociateTimer := ⟨h.started, h.associate, h.free⟩
  unfold associateStep2
  rw [henv.alloc]
  dsimp only
  cases hreq : associationReq true d.delAssociateTimer with
  | none => cases hreq
  | some r =>
    obtain ⟨skb, d'⟩ := r
    obtain ⟨hframe, hlong, rfl⟩ := associationReq_frame hreq
    have hready : Ready { d.delAssociateTimer with
        apMacAddr := d.delAssociateTimer.currentNetwork.bssid } := ⟨h.started, h.associate, h.free⟩
    obtain ⟨hready', hair⟩ := hready.xmit henv hlong
    exact ⟨⟨hready'.started, hready'.associate, hready'.free⟩, softmacMgmtXmit_state _ _ _, _, hair,
      hframe.kind, hframe.dest, hframe.src, hframe.length⟩

/-- The station goes on when it is authenticated. -/
theorem Ready.step2 (h : Ready d) (henv : env.Fine) (hmode : d.iwMode = .infra)
    (hstate : d.state = .associatingAuthenticating) (hst : (AirFrame.of skb.data).kind = stypeAuth)
    (hok : (AirFrame.of skb.data).w28 = wlanStatusSuccess) (hlen : (AirFrame.of skb.data).length = 30) :
    Ready (rxFrameSoftmac env d skb).2 ∧ (rxFrameSoftmac env d skb).2.state = .associatingAuthenticated ∧
      (rxFrameSoftmac env d skb).2.devAddr = d.devAddr ∧
      ∃ v, (rxFrameSoftmac env d skb).2.OnAir v ∧ AssocReq d v := by
  have hlen' : skb.len = 30 := hlen
  have hword : get16 skb.mem 28 = get16 skb.data 28 := by
    have hin : skb.data.length = 30 := hlen'
    rw [SkBuff.mem, get16, get16, at8_append_left _ (by omega), at8_append_left _ (by omega)]
  have hstatus : get16 skb.data 28 = wlanStatusSuccess := hok
  have hparse : authParse skb = (wlanStatusSuccess, none) := by
    rw [authParse, if_neg (by omega), if_neg (by omega), hword, hstatus]
  rw [(h.handles env skb).1 hst, if_pos ⟨hstate, hmode⟩, rxAuthResp, hparse]
  dsimp only
  rw [if_pos rfl]
  have hready : Ready { notePs env d stypeAuth with state := .associatingAuthenticated } :=
    ⟨h.started, h.associate, h.free⟩
  obtain ⟨hready', hstate', v, hair, hframe⟩ := hready.request henv
  exact ⟨hready', hstate', (associateStep2_utters env _).devAddr, v, hair, hframe.kind, hframe.dest,
    hframe.src, hframe.length⟩

/-- The station is linked when it is granted. -/
theorem Ready.linked (h : Ready d) (hmode : d.iwMode = .infra)
    (hstate : d.state = .associatingAuthenticated) (hst : (AirFrame.of skb.data).kind = stypeAssocResp)
    (hok : (AirFrame.of skb.data).w26 = wlanStatusSuccess) (hlen : 32 ≤ skb.len) :
    (rxFrameSoftmac env d skb).2.state = .linked ∧
      (rxFrameSoftmac env d skb).2.assocId = (AirFrame.of skb.data).w28 &&& 0x3fff := by
  have hstatus : get16 skb.data 26 = wlanStatusSuccess := hok
  have hparse : assocParse skb = (wlanStatusSuccess, get16 skb.data 28 &&& 0x3fff) := by
    rw [assocParse, if_neg (by omega), hstatus]
  rw [(h.handles env skb).2.2 hst, if_pos ⟨hstate, hmode⟩, rxAssocResp, hparse]
  dsimp only
  rw [if_pos rfl]
  exact ⟨associateComplete_state _, (queueWork_serves _ _).assocId⟩

/-- A frame on the air is heard by the device it is for; the others are as they were. -/
theorem step_hear (env : Env) {src dest : Option ι} (hv : (c src).OnAir v)
    (hmgmt : fcType v.kind = ftypeMgmt) (hdest : v.dest = (c dest).devAddr) :
    ∃ skb : SkBuff, AirFrame.of skb.data = v ∧
      c.step (.hear dest src env skb) dest = (rxFrameSoftmac env (c dest) skb).2 ∧
      ∀ p, p ≠ dest → c.step (.hear dest src env skb) p = c p := by
  obtain ⟨f, hf, rfl⟩ := hv
  have hstep : c.step (.hear dest src env ⟨0, f, []⟩) =
      Function.update c dest (rxFrameSoftmac env (c dest) ⟨0, f, []⟩).2 := if_pos ⟨AirFrame.mgmt_of_kind rfl hmgmt, hf, hdest⟩
  refine ⟨⟨0, f, []⟩, rfl, ?_, fun p hp => ?_⟩
  · rw [hstep, Function.update_self]
  · rw [hstep, Function.update_of_ne hp]

/-- **Four frames that get through** link a station that does not ask for a shared key,
from every state a cell can be in: the id is the one the access point is about to give. -/
theorem cell_links (h : CellStart c) (es : List (CellEvent ι P)) (env : Env) (henv : env.Fine) (i : ι) :
    let c' := Run.run Cell.step c es
    Ready (c' (some i)) → Ready (c' none) → (c' (some i)).openWep = true →
      ∃ q₁ r₁ q₂ r₂,
        let c'' := Run.run Cell.step c' [.associate i env, .hear none (some i) env q₁,
          .hear (some i) none env r₁, .hear none (some i) env q₂, .hear (some i) none env r₂]
        (c'' (some i)).state = .linked ∧ (c'' (some i)).assocId = (c' none).assocId &&& 0x3fff := by
  intro c' hsta hap hopen
  have hne : (some i : Option ι) ≠ none := by simp
  have hagreed : Agreed c' := agreed_run h es
  -- the station asks to be authenticated
  have hsta₀ : Ready { c' (some i) with associateSeq := 1 } := ⟨hsta.started, hsta.associate, hsta.free⟩
  obtain ⟨hready₁, hstate₁, v₁, hair₁, hreq₁⟩ := hsta₀.step1 henv
  obtain ⟨c₁, hc₁⟩ : ∃ c₁, c₁ = c'.step (.associate i env) := ⟨_, rfl⟩
  have hagreed₁ : Agreed c₁ := hc₁ ▸ agreed_step hagreed _
  have hsta₁ : c₁ (some i) = associateStep1 env { c' (some i) with associateSeq := 1 } := by
    rw [hc₁, Cell.step, Function.update_self]
  have hap₁ : c₁ none = c' none := by
    rw [hc₁, Cell.step, Function.update_of_ne hne.symm]
  have haddr₁ : (c₁ (some i)).devAddr = (c' (some i)).devAddr := by
    rw [hsta₁]
    exact (associateStep1_utters env _).devAddr
  rw [← hsta₁] at hready₁ hstate₁ hair₁
  -- the access point answers
  have hdest₁ : v₁.dest = (c₁ none).devAddr := by
    rw [hreq₁.dest, hap₁]
    exact hagreed.bssid i
  obtain ⟨q₁, rfl, hap₂, hrest₂⟩ := step_hear env hair₁ (by rw [hreq₁.kind]; rfl) hdest₁
  obtain ⟨c₂, hc₂⟩ : ∃ c₂, c₂ = c₁.step (.hear none (some i) env q₁) := ⟨_, rfl⟩
  rw [← hc₂] at hap₂ hrest₂
  have hagreed₂ : Agreed c₂ := hc₂ ▸ agreed_step hagreed₁ _
  have hsta₂ : c₂ (some i) = c₁ (some i) := hrest₂ _ hne
  have hopen₁ : (AirFrame.of q₁.data).w24 = wlanAuthOpen := by
    rw [hreq₁.algorithm]
    exact if_pos hopen
  obtain ⟨hready₂, hid₂, v₂, hair₂, hstype₂, hto₂, hok₂, hlen₂⟩ :=
    (hap₁ ▸ hap : Ready (c₁ none)).answer henv hagreed₁.ap hreq₁.kind hopen₁ hreq₁.length
  rw [← hap₂] at hready₂ hid₂ hair₂
  -- the station is authenticated, and asks to be associated
  have hdest₂ : v₂.dest = (c₂ (some i)).devAddr := by
    rw [hto₂, hreq₁.src, hsta₂, haddr₁]
  obtain ⟨r₁, rfl, hsta₃, hrest₃⟩ := step_hear env hair₂ (by rw [hstype₂]; rfl) hdest₂
  obtain ⟨c₃, hc₃⟩ : ∃ c₃, c₃ = c₂.step (.hear (some i) none env r₁) := ⟨_, rfl⟩
  rw [← hc₃] at hsta₃ hrest₃
  have hagreed₃ : Agreed c₃ := hc₃ ▸ agreed_step hagreed₂ _
  have hap₃ : c₃ none = c₂ none := hrest₃ _ hne.symm
  obtain ⟨hready₃, hstate₃, haddr₃, v₃, hair₃, hreq₃⟩ := Ready.step2 (hsta₂ ▸ hready₁) henv (hagreed₂.sta i)
    (hsta₂ ▸ hstate₁) hstype₂ hok₂ hlen₂
  rw [← hsta₃] at hready₃ hstate₃ haddr₃ hair₃
  -- the access point grants it an id
  have hdest₃ : v₃.dest = (c₃ none).devAddr := by
    rw [hreq₃.dest, hap₃]
    exact hagreed₂.bssid i
  obtain ⟨q₂, rfl, hap₄, hrest₄⟩ := step_hear env hair₃ (by rw [hreq₃.kind]; rfl) hdest₃
  obtain ⟨c₄, hc₄⟩ : ∃ c₄, c₄ = c₃.step (.hear none (some i) env q₂) := ⟨_, rfl⟩
  rw [← hc₄] at hap₄ hrest₄
  have hagreed₄ : Agreed c₄ := hc₄ ▸ agreed_step hagreed₃ _
  have hsta₄ : c₄ (some i) = c₃ (some i) := hrest₄ _ hne
  obtain ⟨v₄, hair₄, hreply₄⟩ := (hap₃ ▸ hready₂ : Ready (c₃ none)).grant henv hagreed₃.ap hreq₃.kind
    hreq₃.length
  rw [← hap₄] at hair₄
  -- the station is linked
  have hdest₄ : v₄.dest = (c₄ (some i)).devAddr := by
    rw [hreply₄.dest, hreq₃.src, hsta₄, haddr₃]
  obtain ⟨r₂, rfl, hsta₅, -⟩ := step_hear env hair₄ (by rw [hreply₄.kind]; rfl) hdest₄
  have hready₄ : Ready (c₄ (some i)) := hsta₄ ▸ hready₃
  have hstate₄ : (c₄ (some i)).state = .associatingAuthenticated := hsta₄ ▸ hstate₃
  obtain ⟨hlinked, hid⟩ := hready₄.linked (hagreed₄.sta i) hstate₄ hreply₄.kind hreply₄.status hreply₄.length
  have hid₃ : (c₃ none).assocId = (c' none).assocId := by
    rw [hap₃, hid₂, hap₁]
  refine ⟨q₁, r₁, q₂, r₂, ?_⟩
  rw [Run.run_cons, Run.run_cons, Run.run_cons, Run.run_cons, Run.run_cons, Run.run_nil, ← hc₁, ← hc₂, ← hc₃,
    ← hc₄]
  dsimp only
  rw [hsta₅]
  refine ⟨hlinked, ?_⟩
  rw [hid, hreply₄.id, hid₃]

theorem cell_links_first : ∃ q₁ r₁ q₂ r₂,
    let c' := Run.run Cell.step restingCell [.associate true restingEnv, .hear none (some true) restingEnv q₁,
      .hear (some true) none restingEnv r₁, .hear none (some true) restingEnv q₂,
      .hear (some true) none restingEnv r₂]
    (c' (some true)).state = .linked ∧ (c' (some true)).assocId = 1 &&& 0x3fff :=
  cell_links restingCell_start [] restingEnv ⟨rfl, fun _ => rfl⟩ true ⟨rfl, rfl, rfl⟩ ⟨rfl, rfl, rfl⟩ rfl

end

end Rtl8187

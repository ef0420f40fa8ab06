/-
# What a cell is not told of

The steps of the driver that are a `QuietAct`: a beacon and a frame of data handed over, the
management queue emptied, the two scans with their probe requests, a frame of data received,
a key set, the wake-up from power save, the speed that is settled when an association is
complete, and a disassociation. Each but the last leaves the link too (`QuietStep`).

Key definitions: `QuietStep`, `QuietAct.ofStep`, `QuietAct.ofStation`.
Key theorems: `scanTurn_quietStep`, `softmacScanWq_quietStep`, `drainMgmt_quietStep`, `receive_quietStep`.
-/
import Rtl8187.Cell
import Rtl8187.RxSteps
import Rtl8187.TxQueue

namespace Rtl8187

open Bytes

variable {P : Type}

/-- A step that has nothing of the association to say, and leaves the link. -/
structure QuietStep (d' d : Device P) : Prop where
  utters : Utters (fun v => ¬ v.Associates) d' d
  assocId : d'.assocId = d.assocId
  state : d'.state = d.state

section

variable {d d' d'' : Device P}

theorem QuietStep.refl (d : Device P) : QuietStep d d := ⟨Utters.refl _ d, rfl, rfl⟩

theorem QuietStep.trans (h : QuietStep d'' d') (h' : QuietStep d' d) : QuietStep d'' d :=
  ⟨h.utters.trans h'.utters, h.assocId.trans h'.assocId, h.state.trans h'.state⟩

/-- Neither the frames nor the link nor who the device is changed. -/
theorem QuietStep.of_eq (hhanded : d'.handed = d.handed) (hqueue : d'.mgmtQueue = d.mgmtQueue)
    (haddr : d'.devAddr = d.devAddr) (hmode : d'.iwMode = d.iwMode) (hopen : d'.openWep = d.openWep)
    (hbssid : d'.currentNetwork.bssid = d.currentNetwork.bssid) (hid : d'.assocId = d.assocId)
    (hstate : d'.state = d.state) : QuietStep d' d :=
  ⟨Utters.of_eq hhanded hqueue haddr hmode hopen hbssid, hid, hstate⟩

/-- A frame that is no frame of the association is transmitted. -/
theorem softmacMgmtXmit_quietStep (env : Env) (d : Device P) {skb : SkBuff} (hlen : 24 ≤ skb.len)
    (hkind : ¬ (AirFrame.of skb.data).Associates) : QuietStep (softmacMgmtXmit env d skb) d :=
  ⟨softmacMgmtXmit_utters env d hlen hkind, (softmacMgmtXmit_serves env d skb).assocId,
    softmacMgmtXmit_state env d skb⟩

theorem queueWork_quietStep (d : Device P) (w : Work) : QuietStep (d.queueWork w) d := by
  refine ⟨queueWork_utters d w, ?_, ?_⟩
  all_goals
    unfold Device.queueWork
    split_ifs <;> rfl

/-! ### Beacons, data, the queue -/

theorem getBeacon_quietStep (env : Env) (d : Device P) :
    QuietStep (xmitReply env d (getBeacon env.skbAlloc d)) d := by
  unfold xmitReply getBeacon probeResp
  cases env.skbAlloc with
  | false => exact QuietStep.refl d
  | true =>
    refine QuietStep.trans (softmacMgmtXmit_quietStep env _ ?_ ?_)
      (QuietStep.of_eq rfl rfl rfl rfl rfl rfl rfl rfl)
    · simp only [SkBuff.len, SkBuff.put_data, SkBuff.devAllocSkb, List.nil_append, List.length_append,
        List.length_drop]
      simp [mgmtHdr, le16, Mac.toList]
      omega
    · dsimp only
      have hkind : AirFrame.kindOf stypeBeacon ∉ AirFrame.kinds := by decide
      rw [AirFrame.Associates, AirFrame.of, frameCtl, get16_le16]
      exact hkind

/-- A data frame is no frame of the association. -/
theorem dataHardStartXmit_quietStep (env : Env) (d : Device P) (skb : SkBuff) (rate : ℕ)
    (hdata : fcType (frameCtl skb.data) = ftypeData) : QuietStep (d.dataHardStartXmit env skb rate) d := by
  have hkind : ¬ (AirFrame.of skb.data).Associates := by
    intro h
    have hmgmt := h.mgmt
    rw [AirFrame.of, AirFrame.fcType_kindOf, hdata] at hmgmt
    exact absurd hmgmt (by decide)
  exact ⟨(hand_utters d (.data skb rate) hkind).and_eq rfl rfl rfl rfl rfl rfl, rfl, rfl⟩

theorem dequeueMgmt_ring (q : MgmtQueue SkBuff) : (q.dequeueMgmt).2.ring = q.ring ∧
    ∀ skb, (q.dequeueMgmt).1 = some skb → q.ring q.tail = some skb := by
  unfold MgmtQueue.dequeueMgmt
  split_ifs
  · exact ⟨rfl, fun skb h => by cases h⟩
  · exact ⟨rfl, fun skb h => h⟩

theorem drain_ring : ∀ (fuel : ℕ) (q : MgmtQueue SkBuff), (MgmtQueue.drain fuel q).2.ring = q.ring
  | 0, _ => rfl
  | fuel + 1, q => by
    have hring := (dequeueMgmt_ring q).1
    rw [MgmtQueue.drain]
    cases hdeq : q.dequeueMgmt with
    | mk skb q' =>
      rw [hdeq] at hring
      cases skb with
      | none => exact hring
      | some skb => exact (drain_ring fuel q').trans hring

/-- What waits goes out. -/
theorem drainMgmt_quietStep {H : Type} (hx : HardXmit H) : ∀ (fuel : ℕ) (s : TxSide P H),
    QuietStep (TxSide.drainMgmt hx fuel s).dev s.dev
  | 0, s => QuietStep.refl s.dev
  | fuel + 1, s => by
    rw [TxSide.drainMgmt]
    split_ifs
    · exact QuietStep.refl s.dev
    · obtain ⟨hring, hhead⟩ := dequeueMgmt_ring s.dev.mgmtQueue
      cases hdeq : s.dev.mgmtQueue.dequeueMgmt with
      | mk skb q =>
        rw [hdeq] at hring hhead
        cases skb with
        | none => exact ⟨ends_utters s.dev hring, rfl, rfl⟩
        | some skb =>
          have hout : Device.Out { s.dev with mgmtQueue := q, seqCtrl := Device.nextSeqCtrl s.dev.seqCtrl }
              (AirFrame.of (skb.setSeqCtl s.dev.seqCtrl).data) :=
            Or.inr ⟨s.dev.mgmtQueue.tail, skb, s.dev.seqCtrl, hring ▸ hhead skb rfl, rfl⟩
          have hnext : Utters (fun v => ¬ v.Associates)
              { s.dev with mgmtQueue := q, seqCtrl := Device.nextSeqCtrl s.dev.seqCtrl } s.dev :=
            (ends_utters s.dev hring).and_eq rfl rfl rfl rfl rfl rfl
          have hhand := (hand_out _ (.data (skb.setSeqCtl s.dev.seqCtrl) s.dev.basicRate) hout).trans hnext
          have hrest := drainMgmt_quietStep hx fuel
            ((({ s with dev := { s.dev with mgmtQueue := q } } : TxSide P H).nextSeq).dataHardXmit hx
              (skb.setSeqCtl s.dev.seqCtrl) s.dev.basicRate)
          refine ⟨hrest.utters.trans ?_, hrest.assocId.trans ?_, hrest.state.trans ?_⟩
          all_goals
            unfold TxSide.dataHardXmit
            dsimp only
            split_ifs
          · exact hhand.and_eq rfl rfl rfl rfl rfl rfl
          · exact hhand
          all_goals rfl

end

/-! ### Scans -/

/-- A probe request is no frame of the association. -/
theorem sendProbe_quietStep (env : Env) (st : Station P) :
    QuietStep (Station.sendProbe env st).toDevice st.toDevice := by
  unfold Station.sendProbe xmitReply probeReq
  rw [Station.mapDev_toDevice]
  cases env.skbAlloc with
  | false => exact QuietStep.refl _
  | true =>
    apply softmacMgmtXmit_quietStep
    · simp only [SkBuff.len, SkBuff.put_data, SkBuff.devAllocSkb, List.nil_append, List.length_append]
      simp [mgmtHdr, le16, Mac.toList]
      omega
    · rw [SkBuff.put_data, SkBuff.devAllocSkb, List.nil_append]
      simp only [List.append_assoc]
      rw [AirFrame.of_mgmtHdr]
      have hkind : AirFrame.kindOf (stypeProbeReq ||| if st.ps ≠ 0 then fctlPm else 0) ∉ AirFrame.kinds := by
        split_ifs <;> decide
      exact hkind

theorem sendProbeRequests_quietStep (env : Env) (st : Station P) :
    QuietStep (Station.sendProbeRequests env st).toDevice st.toDevice := by
  unfold Station.sendProbeRequests
  split_ifs
  · exact (sendProbe_quietStep env _).trans (sendProbe_quietStep env st)
  · exact QuietStep.refl _

/-- A turn of a scan in the foreground. -/
theorem scanTurn_quietStep (env : Env) (st : Station P) (ch : ℕ) :
    QuietStep (Station.scanTurn env st ch).2.toDevice st.toDevice := by
  unfold Station.scanTurn
  cases st.nextChannel ch with
  | none => exact QuietStep.refl _
  | some ch =>
    dsimp only
    split_ifs
    · exact QuietStep.refl _
    · exact sendProbeRequests_quietStep env st
    · exact sendProbeRequests_quietStep env st

/-- A turn of the scan in the background, which goes to another channel. -/
theorem softmacScanWq_quietStep (env : Env) (st : Station P) :
    QuietStep (Station.softmacScanWq env st).toDevice st.toDevice := by
  by_cases hscan : st.scanning = true
  · have htuned : ∀ ch : UInt8, QuietStep (st.mapDev fun d =>
        { d with currentNetwork := { d.currentNetwork with channel := ch } }).toDevice st.toDevice :=
      fun ch => QuietStep.of_eq rfl rfl rfl rfl rfl rfl rfl rfl
    rw [Station.softmacScanWq, if_neg (not_not_intro hscan)]
    dsimp only
    split_ifs
    · exact ((queueWork_quietStep _ _).trans (sendProbeRequests_quietStep env _)).trans (htuned _)
    · exact htuned _
  · rw [Station.softmacScanWq, if_pos hscan]
    exact QuietStep.refl _

/-! ### Frames of data received -/

section

variable {d d' : Device P}

theorem SameButFilter.quietStep (h : SameButFilter d' d) : QuietStep d' d :=
  QuietStep.of_eq (h.view Device.handed fun _ _ _ _ => rfl) (h.view Device.mgmtQueue fun _ _ _ _ => rfl)
    (h.view Device.devAddr fun _ _ _ _ => rfl) (h.view Device.iwMode fun _ _ _ _ => rfl)
    (h.view Device.openWep fun _ _ _ _ => rfl) (h.view (·.currentNetwork.bssid) fun _ _ _ _ => rfl)
    (h.view Device.assocId fun _ _ _ _ => rfl) (h.view Device.state fun _ _ _ _ => rfl)

theorem SameButCrypt.quietStep (h : SameButCrypt d' d) : QuietStep d' d :=
  QuietStep.of_eq (h.view Device.handed fun _ => rfl) (h.view Device.mgmtQueue fun _ => rfl)
    (h.view Device.devAddr fun _ => rfl) (h.view Device.iwMode fun _ => rfl)
    (h.view Device.openWep fun _ => rfl) (h.view (·.currentNetwork.bssid) fun _ => rfl)
    (h.view Device.assocId fun _ => rfl) (h.view Device.state fun _ => rfl)

end

section

variable (env : RxEnv) (w : World P) (b : BufId) (last : LastFrame)

theorem fragCacheGet_quietStep (hdr : List UInt8) : QuietStep (fragCacheGet env w hdr).2.dev w.dev := by
  unfold fragCacheGet
  dsimp only
  split_ifs
  · exact QuietStep.of_eq rfl rfl rfl rfl rfl rfl rfl rfl
  · exact QuietStep.refl _
  · exact QuietStep.of_eq rfl rfl rfl rfl rfl rfl rfl rfl

theorem fragCacheInvalidate_quietStep (now : UInt64) (hdr : List UInt8) :
    QuietStep (fragCacheInvalidate now w hdr).dev w.dev := QuietStep.of_eq rfl rfl rfl rfl rfl rfl rfl rfl

theorem deliver_quietStep (reassembled : Bool) : QuietStep (deliver env w b last reassembled).2.dev w.dev := by
  have hchecked : QuietStep (checkMsdu w b last).2.2 w.dev := (checkMsdu_same w b last).quietStep
  unfold deliver
  dsimp only
  split_ifs
  · exact hchecked
  · exact hchecked
  · exact @QuietStep.trans P w.dev (checkMsdu w b last).2.2 _ (QuietStep.of_eq rfl rfl rfl rfl rfl rfl rfl rfl)
      hchecked

theorem rxData_quietStep : QuietStep (rxData env w b).2.dev w.dev := by
  have hopen : QuietStep (rxOpen w b).2.dev w.dev := (rxOpen_dev w b).quietStep
  rcases rxData_cases env w b with ⟨-, h⟩ | ⟨-, -, h⟩ | ⟨-, -, h⟩
  · rw [h]
    exact hopen
  · rw [h]
    exact (deliver_quietStep env _ b _ false).trans hopen
  · rw [h]
    unfold appendFragment
    have hget := fragCacheGet_quietStep env (rxOpen w b).2 (((rxOpen w b).2.heap b).skb.data)
    dsimp only
    cases hfound : fragCacheGet env (rxOpen w b).2 ((rxOpen w b).2.heap b).skb.data with
    | mk found w' =>
      rw [hfound] at hget
      have hgot := hget.trans hopen
      cases found with
      | none => exact hgot
      | some fb =>
        dsimp only
        by_cases hroom : (w'.heap fb).skb.tailroom < ((rxOpen w b).1.bytes ((rxOpen w b).2.heap b).skb).length
        · rw [if_pos hroom]
          exact (fragCacheInvalidate_quietStep _ _ _).trans hgot
        · rw [if_neg hroom]
          by_cases hmore : moreFrags (rxOpen w b).1.fc = true
          · rw [if_pos hmore]
            exact hgot
          · rw [if_neg hmore]
            exact (deliver_quietStep env _ fb _ true).trans ((fragCacheInvalidate_quietStep _ _ _).trans hgot)

/-- **A frame that is not of management** is received: the filter of duplicates, the
fragment cache and the contexts of the ciphers change. -/
theorem receive_quietStep (mgt : RxMgt P) {skb : SkBuff} (hdata : fcType (frameCtl skb.data) ≠ ftypeMgmt) :
    QuietStep (receive mgt env w skb).2.dev w.dev := by
  have hskb : ((w.arrive skb).heap w.nextBuf).skb = skb := by
    unfold World.arrive World.setBuf
    dsimp only
    rw [Function.update_self]
  have hdup : QuietStep (isDuplicatePacket env w.dev skb.data).2 w.dev :=
    (isDuplicatePacket_same env w.dev skb.data).quietStep
  have hrx : QuietStep (rx mgt env (w.arrive skb) w.nextBuf).2.dev w.dev := by
    have hdev : (w.arrive skb).dev = w.dev := rfl
    unfold rx
    dsimp only
    rw [hskb, hdev]
    rcases rxAdmit_cases env w.dev skb with ha | ha | ha | ha | ⟨ha, -⟩
    · rw [ha]
      exact QuietStep.refl w.dev
    · rw [ha]
      exact QuietStep.refl w.dev
    · rw [ha]
      exact hdup
    · exact absurd (rxAdmit_mgmt ha) hdata
    · rw [ha]
      exact (rxData_quietStep env _ w.nextBuf).trans hdup
  unfold receive
  dsimp only
  split_ifs
  · exact hrx
  · exact hrx

end

/-! ### They are acts of the rest of the driver -/

namespace QuietAct

/-- A quiet step. -/
def ofStep (run : Device P → Device P) (h : ∀ d, QuietStep (run d) d) : QuietAct P where
  run := run
  utters d := (h d).utters
  assocId d := (h d).assocId
  auth d hs := by rwa [(h d).state] at hs
  up d hs := by rwa [(h d).state] at hs

/-- A step of a station, as one of its device. -/
def ofStation (st : Station P) (f : Station P → Station P)
    (h : ∀ st, QuietStep (f st).toDevice st.toDevice) : QuietAct P :=
  ofStep (fun d => (f { st with toDevice := d }).toDevice) fun d => h { st with toDevice := d }

/-- `ieee80211_send_beacon` -/
def beacon (env : Env) : QuietAct P :=
  ofStep (fun d => xmitReply env d (getBeacon env.skbAlloc d)) (getBeacon_quietStep env)

/-- A data frame is handed over. -/
def data (env : Env) (skb : SkBuff) (rate : ℕ) (hdata : fcType (frameCtl skb.data) = ftypeData) :
    QuietAct P :=
  ofStep (fun d => d.dataHardStartXmit env skb rate) fun d => dataHardStartXmit_quietStep env d skb rate hdata

/-- A frame that is not of management is received. -/
def receive (mgt : RxMgt P) (env : RxEnv) (w : World P) (skb : SkBuff)
    (hdata : fcType (frameCtl skb.data) ≠ ftypeMgmt) : QuietAct P :=
  ofStep (fun d => (Rtl8187.receive mgt env { w with dev := d } skb).2.dev) fun d =>
    receive_quietStep env { w with dev := d } mgt hdata

/-- `ieee80211_wake_queue`, as far as the frames of the management queue go. -/
def drain {H : Type} (hx : HardXmit H) (s : TxSide P H) : QuietAct P :=
  ofStep (fun d => (TxSide.drainMgmt hx mgmtQueueNum { s with dev := d }).dev) fun d =>
    drainMgmt_quietStep hx mgmtQueueNum { s with dev := d }

/-- `ieee80211_softmac_scan_wq` -/
def softmacScanWq (env : Env) (st : Station P) : QuietAct P :=
  ofStation st (Station.softmacScanWq env) (softmacScanWq_quietStep env)

/-- A turn of `ieee80211_softmac_scan_syncro`. -/
def scanTurn (env : Env) (st : Station P) (ch : ℕ) : QuietAct P :=
  ofStation st (fun st => (Station.scanTurn env st ch).2) fun st => scanTurn_quietStep env st ch

/-- A key is set in a slot or removed from it. -/
def setKey (idx : KeyIdx) (crypt : Option (CryptData P)) : QuietAct P :=
  ofStep (fun d => { d with crypt := Function.update d.crypt idx crypt }) fun _ =>
    QuietStep.of_eq rfl rfl rfl rfl rfl rfl rfl rfl

/-- The device is woken up. -/
def staWakeup : QuietAct P :=
  ofStep Device.staWakeup fun d => ⟨staWakeup_utters d, (staWakeup_serves d).assocId, staWakeup_state d⟩

/-- `ieee80211_associate_complete_wq` -/
def associateCompleteWq : QuietAct P :=
  ofStep Rtl8187.associateCompleteWq fun _ => QuietStep.of_eq rfl rfl rfl rfl rfl rfl rfl rfl

/-- `ieee80211_disassociate` -/
def disassociate : QuietAct P where
  run := Rtl8187.disassociate
  utters d := by
    unfold Rtl8187.disassociate
    split_ifs
    · have hring : d.mgmtQueue.resetQueue.2.ring = d.mgmtQueue.ring := drain_ring mgmtQueueNum d.mgmtQueue
      exact (ends_utters d hring).and_eq rfl rfl rfl rfl rfl rfl
    · exact Utters.of_eq rfl rfl rfl rfl rfl rfl
  assocId d := by
    unfold Rtl8187.disassociate
    split_ifs <;> rfl
  auth d h := by cases h
  up d h := by cases h


end QuietAct

end Rtl8187

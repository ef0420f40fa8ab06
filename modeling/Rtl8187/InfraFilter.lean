/-
# The duplicate filter of a station

In infrastructure mode `is_duplicate_packet` keeps one record, of the last frame
that it let pass, and `ieee80211_rx` calls it before it looks at the BSSID. So
the record is of the access point's last frame only as long as nobody else is
heard. A frame of another transmitter that is itself taken for a repetition
leaves the record alone; any other makes the filter drop a frame of the access
point that it would have let pass (`immune_iff`).

Key definitions: `Admitted.dev`, `admitStep`, `OwnFrame`, `ownVerdicts`, `Immune`, `Harmless`.
Key theorems: `isDuplicatePacket_infra`, `run_harmless`, `immune_iff`.
-/
import Rtl8187.RxSteps
import Rtl8187.XmitFragments
import Rtl8187.Lib.Run

namespace Rtl8187

open Bytes

variable {P : Type}

/-! ### Frames up to the BSSID check -/

/-- A received frame, and the moment it comes. -/
abbrev HeardFrame := RxEnv × SkBuff

/-- The device when the frame has been admitted or dropped. -/
def Admitted.dev (d : Device P) : Admitted P → Device P
  | .drop d' => d'
  | .monitor => d
  | .mgmt d' => d'
  | .data d' => d'

/-- The frame is not dropped. -/
def Admitted.passes : Admitted P → Bool
  | .drop _ => false
  | _ => true

def admitStep (d : Device P) (i : HeardFrame) : Device P := (rxAdmit i.1 d i.2).dev d

/-- The access point of the network `bssid` transmitted the frame. -/
def OwnFrame (bssid : Mac) (i : HeardFrame) : Prop := addr2 i.2.data = bssid

instance (bssid : Mac) : DecidablePred (OwnFrame bssid) := fun i => inferInstanceAs (Decidable (addr2 i.2.data = bssid))

/-- Which frames of the access point pass, in the run from `d`. -/
def ownVerdicts (bssid : Mac) (d : Device P) (is : List HeardFrame) : List Bool :=
  Run.outputs admitStep (fun d i => if OwnFrame bssid i then some (rxAdmit i.1 d i.2).passes else none) d is

/-- Other transmitters have no effect on the access point: at no time does it matter
to its frames, whatever come next, that others were heard. -/
def Immune (bssid : Mac) (d : Device P) (is : List HeardFrame) : Prop :=
  ∀ k cs, (∀ c ∈ cs, OwnFrame bssid c) →
    ownVerdicts bssid d (is.take k ++ cs) = ownVerdicts bssid d ((is.take k).filter (OwnFrame bssid ·) ++ cs)

/-- The frame comes to the filter. -/
def ReachesFilter (d : Device P) (skb : SkBuff) : Prop :=
  dataHdr3Len ≤ skb.len ∧ ¬ (d.hostDecrypt ∧ decryptSlot d skb = none ∧ isProtected (frameCtl skb.data))

/-- A frame of the access point, one that does not come to the filter, or one that
repeats the record: the recorded sequence number, before the retry time is over,
with the recorded fragment number or not the one after it. -/
def Harmless (bssid : Mac) (d : Device P) (i : HeardFrame) : Prop :=
  OwnFrame bssid i ∨ ¬ ReachesFilter d i.2 ∨
    isRepeat i.1.now d.kernel.hz d.lastSeqNum d.lastFragNum (seqSeq (seqCtl i.2.data))
      (seqFrag (seqCtl i.2.data)) d.lastPacketTime = true

/-! ### One frame -/

section

variable {env : RxEnv} {d : Device P} {skb : SkBuff}

/-- The record is overwritten, or the frame repeats it. -/
theorem isDuplicatePacket_infra (hmode : d.iwMode = .infra) (hdr : List UInt8) : isDuplicatePacket env d hdr =
    if isRepeat env.now d.kernel.hz d.lastSeqNum d.lastFragNum (seqSeq (seqCtl hdr)) (seqFrag (seqCtl hdr))
      d.lastPacketTime then (true, d)
    else (false, { d with
      lastSeqNum := seqSeq (seqCtl hdr), lastFragNum := seqFrag (seqCtl hdr), lastPacketTime := env.now }) := by
  unfold isDuplicatePacket
  rw [hmode]

theorem rxAdmit_early (hmode : d.iwMode = .infra) (h : ¬ ReachesFilter d skb) : rxAdmit env d skb = .drop d := by
  have hinfra : d.iwMode ≠ .monitor := by
    rw [hmode]
    decide
  unfold rxAdmit
  dsimp only
  by_cases hten : skb.len < 10
  · exact if_pos hten
  rw [if_neg hten, if_neg hinfra]
  by_cases hkey : d.hostDecrypt ∧ decryptSlot d skb = none ∧ isProtected (frameCtl skb.data)
  · exact if_pos hkey
  · rw [if_neg hkey]
    exact if_pos (not_le.mp fun hlen => h ⟨hlen, hkey⟩)

/-- A frame that comes to the filter is dropped there or goes on to the type and the BSSID. -/
theorem rxAdmit_reaches (hmode : d.iwMode = .infra) (h : ReachesFilter d skb) : rxAdmit env d skb =
    let (repeated, d') := isDuplicatePacket env d skb.data
    let fc := frameCtl skb.data
    if repeated then .drop d'
    else if fcType fc = ftypeMgmt then .mgmt d'
    else if dsBits fc = fctlFromds ||| fctlTods ∧ skb.len < dataHdr4Len then .drop d'
    else if fcStype fc ∉ [stypeData, stypeDataCfack, stypeDataCfpoll, stypeDataCfackpoll] then .drop d'
    else if (rxAddrs d' skb.data).2.2 ≠ d'.currentNetwork.bssid then .drop d'
    else .data d' := by
  have hten : ¬ skb.len < 10 := not_lt.mpr (le_trans (by decide) h.1)
  have hinfra : d.iwMode ≠ .monitor := by
    rw [hmode]
    decide
  unfold rxAdmit
  dsimp only
  rw [if_neg hten, if_neg hinfra, if_neg h.2, if_neg (not_lt.mpr h.1)]

/-- Either way the filter's device is left. -/
theorem admitStep_reaches (hmode : d.iwMode = .infra) (h : ReachesFilter d skb) :
    admitStep d (env, skb) = (isDuplicatePacket env d skb.data).2 := by
  unfold admitStep
  rw [rxAdmit_reaches hmode h]
  dsimp only
  split_ifs <;> rfl

/-- A frame of another transmitter that does no harm leaves no trace. -/
theorem admitStep_harmless {bssid : Mac} (hmode : d.iwMode = .infra) {i : HeardFrame} (h : Harmless bssid d i)
    (hforeign : ¬ OwnFrame bssid i) : admitStep d i = d := by
  by_cases hreach : ReachesFilter d i.2
  · rcases h with hown | hnot | hrepeat
    · exact absurd hown hforeign
    · exact absurd hreach hnot
    · rw [show i = (i.1, i.2) from rfl, admitStep_reaches hmode hreach, isDuplicatePacket_infra hmode,
        if_pos hrepeat]
  · unfold admitStep
    rw [rxAdmit_early hmode hreach]
    rfl

theorem admitStep_same (d : Device P) (i : HeardFrame) : SameButFilter (admitStep d i) d := by
  unfold admitStep
  rcases rxAdmit_cases i.1 d i.2 with h | h | h | h | ⟨h, -⟩
  · rw [h]
    exact .refl d
  · rw [h]
    exact .refl d
  · rw [h]
    exact isDuplicatePacket_same i.1 d i.2.data
  · rw [h]
    exact isDuplicatePacket_same i.1 d i.2.data
  · rw [h]
    exact isDuplicatePacket_same i.1 d i.2.data

theorem admitStep_mode (d : Device P) (i : HeardFrame) : (admitStep d i).iwMode = d.iwMode :=
  Eq.trans (congrArg Device.iwMode (admitStep_same d i)) rfl

theorem admitStep_kernel (d : Device P) (i : HeardFrame) : (admitStep d i).kernel = d.kernel :=
  Eq.trans (congrArg Device.kernel (admitStep_same d i)) rfl

end

/-! ### Runs -/

section

variable {bssid : Mac} {d : Device P}

theorem ownVerdicts_append (d : Device P) (is js : List HeardFrame) : ownVerdicts bssid d (is ++ js) =
    ownVerdicts bssid d is ++ ownVerdicts bssid (Run.run admitStep d is) js := Run.outputs_append d is js

theorem ownVerdicts_cons_own (d : Device P) {i : HeardFrame} (h : OwnFrame bssid i) (is : List HeardFrame) :
    ownVerdicts bssid d (i :: is) = (rxAdmit i.1 d i.2).passes :: ownVerdicts bssid (admitStep d i) is := by
  unfold ownVerdicts
  rw [Run.outputs, if_pos h]
  rfl

theorem ownVerdicts_cons_foreign (d : Device P) {i : HeardFrame} (h : ¬ OwnFrame bssid i) (is : List HeardFrame) :
    ownVerdicts bssid d (i :: is) = ownVerdicts bssid (admitStep d i) is := by
  unfold ownVerdicts
  rw [Run.outputs, if_neg h]
  rfl

/-- A run of harmless frames is the run of the access point's own. -/
theorem run_harmless (hmode : d.iwMode = .infra) {is : List HeardFrame}
    (h : Run.AllSteps admitStep (Harmless bssid) d is) :
    Run.run admitStep d is = Run.run admitStep d (is.filter (OwnFrame bssid ·)) ∧
      ownVerdicts bssid d is = ownVerdicts bssid d (is.filter (OwnFrame bssid ·)) := by
  induction is generalizing d with
  | nil => exact ⟨rfl, rfl⟩
  | cons i is ih =>
    obtain ⟨hi, hrest⟩ := h
    have hmode' : (admitStep d i).iwMode = .infra := (admitStep_mode d i).trans hmode
    obtain ⟨hrun, hverdicts⟩ := ih hmode' hrest
    by_cases hown : OwnFrame bssid i
    · rw [List.filter_cons_of_pos (by simpa using hown), Run.run_cons, Run.run_cons, hrun,
        ownVerdicts_cons_own d hown, ownVerdicts_cons_own d hown, hverdicts]
      exact ⟨rfl, rfl⟩
    · have hstill := admitStep_harmless hmode hi hown
      rw [List.filter_cons_of_neg (by simpa using hown), Run.run_cons, ownVerdicts_cons_foreign d hown, hrun,
        hverdicts, hstill]
      exact ⟨rfl, rfl⟩

theorem run_mode (hmode : d.iwMode = .infra) (is : List HeardFrame) :
    (Run.run admitStep d is).iwMode = .infra :=
  Run.inv_run (fun d i h _ => (admitStep_mode d i).trans h) d is hmode (Run.allSteps_true d is)

theorem run_kernel (d : Device P) (is : List HeardFrame) : (Run.run admitStep d is).kernel = d.kernel :=
  Run.inv_run (fun d' i h _ => (admitStep_kernel d' i).trans h) d is rfl (Run.allSteps_true d is)

/-- A management frame of the access point, with this sequence control. -/
def apMgmt (bssid : Mac) (sc : UInt16) : SkBuff := ⟨0, dataHdr 0 bssid bssid bssid sc ++ [], []⟩

/-- It passes unless it repeats the record. -/
theorem rxAdmit_apMgmt (env : RxEnv) (hmode : d.iwMode = .infra) (bssid : Mac) (sc : UInt16) :
    (rxAdmit env d (apMgmt bssid sc)).passes =
      !isRepeat env.now d.kernel.hz d.lastSeqNum d.lastFragNum (seqSeq sc) (seqFrag sc) d.lastPacketTime := by
  have hfc : frameCtl (apMgmt bssid sc).data = 0 := frameCtl_dataHdr ..
  have hsc : seqCtl (apMgmt bssid sc).data = sc := seqCtl_dataHdr ..
  have hreach : ReachesFilter d (apMgmt bssid sc) := by
    refine ⟨le_of_eq rfl, fun h => ?_⟩
    rw [hfc] at h
    exact absurd h.2.2 (by decide)
  rw [rxAdmit_reaches hmode hreach, isDuplicatePacket_infra hmode, hfc, hsc]
  cases isRepeat env.now d.kernel.hz d.lastSeqNum d.lastFragNum (seqSeq sc) (seqFrag sc) d.lastPacketTime <;> rfl

/-- A frame that was just let pass is repeated by one with its number. -/
theorem isRepeat_again {hz : UInt64} (hretry : timeAfter (ieeePacketRetryTime * hz) 0 = true) (now : UInt64)
    (seq frag : UInt16) : isRepeat now hz seq frag seq frag now = true := by
  have htime : timeAfter (now + ieeePacketRetryTime * hz) now = true := by
    generalize ieeePacketRetryTime * hz = wait at hretry ⊢
    have hsub : now - (now + wait) = 0 - wait := by
      rw [UInt64.sub_eq_add_neg, UInt64.neg_add, UInt64.sub_eq_add_neg, ← UInt64.add_assoc, UInt64.add_right_neg,
        ← UInt64.sub_eq_add_neg]
    unfold timeAfter at hretry ⊢
    rwa [hsub]
  unfold isRepeat
  simp [htime]

/-- A harmful frame makes the filter drop a frame of the access point. -/
theorem harmful_drops (hmode : d.iwMode = .infra)
    (hretry : timeAfter (ieeePacketRetryTime * d.kernel.hz) 0 = true) {i : HeardFrame}
    (h : ¬ Harmless bssid d i) :
    (rxAdmit i.1 (admitStep d i) (apMgmt bssid (seqCtl i.2.data))).passes = false ∧
      (rxAdmit i.1 d (apMgmt bssid (seqCtl i.2.data))).passes = true := by
  obtain ⟨-, hreach, hfresh⟩ : ¬ OwnFrame bssid i ∧ ReachesFilter d i.2 ∧ ¬ isRepeat i.1.now d.kernel.hz
      d.lastSeqNum d.lastFragNum (seqSeq (seqCtl i.2.data)) (seqFrag (seqCtl i.2.data)) d.lastPacketTime = true := by
    obtain ⟨hforeign, hrest⟩ := not_or.mp h
    obtain ⟨hreach, hfresh⟩ := not_or.mp hrest
    exact ⟨hforeign, not_not.mp hreach, hfresh⟩
  constructor
  · rw [rxAdmit_apMgmt i.1 ((admitStep_mode d i).trans hmode), admitStep_kernel,
      show i = (i.1, i.2) from rfl, admitStep_reaches hmode hreach, isDuplicatePacket_infra hmode, if_neg hfresh]
    simp only [isRepeat_again hretry, Bool.not_true]
  · rw [rxAdmit_apMgmt i.1 hmode, Bool.eq_false_iff.mpr hfresh]
    rfl

/-- **When the access point's frames do not suffer from others.** Exactly while
each frame of another transmitter that comes to the filter repeats the record.
(The retry time is positive, as `HZ` is.) -/
theorem immune_iff (hmode : d.iwMode = .infra)
    (hretry : timeAfter (ieeePacketRetryTime * d.kernel.hz) 0 = true) (is : List HeardFrame) :
    Immune bssid d is ↔ Run.AllSteps admitStep (Harmless bssid) d is := by
  constructor
  · intro h
    induction is using List.reverseRecOn with
    | nil => trivial
    | append_singleton is i ih =>
      have hinit : Run.AllSteps admitStep (Harmless bssid) d is := by
        refine ih fun k cs hcs => ?_
        have hk := h (min k is.length) cs hcs
        have htake : is.take (min k is.length) = is.take k := List.take_eq_take_iff.mpr (by simp)
        rwa [List.take_append_of_le_length (min_le_right _ _), htake] at hk
      refine Run.allSteps_append.mpr ⟨hinit, ?_, trivial⟩
      by_contra hharm
      have hforeign : ¬ OwnFrame bssid i := fun hown => hharm (Or.inl hown)
      obtain ⟨hrun, hverdicts⟩ := run_harmless hmode hinit
      have hretry' : timeAfter (ieeePacketRetryTime * (Run.run admitStep d is).kernel.hz) 0 = true := by
        rw [run_kernel]
        exact hretry
      obtain ⟨hdropped, hpassed⟩ := harmful_drops (run_mode hmode is) hretry' hharm
      -- the frame of the access point that tells the two runs apart
      set c : HeardFrame := (i.1, apMgmt bssid (seqCtl i.2.data)) with hc
      have hown : OwnFrame bssid c := addr2_dataHdr ..
      have htold := h (is.length + 1) [c] (by simpa using hown)
      have hall : (is ++ [i]).take (is.length + 1) = is ++ [i] := List.take_of_length_le (by simp)
      have hfilter : (is ++ [i]).filter (OwnFrame bssid ·) = is.filter (OwnFrame bssid ·) := by
        rw [List.filter_append, List.filter_cons_of_neg (by simpa using hforeign), List.filter_nil, List.append_nil]
      rw [hall, hfilter, List.append_assoc, ownVerdicts_append d is, ownVerdicts_append d (is.filter _) [c],
        ← hrun, ← hverdicts, List.append_cancel_left_eq, List.singleton_append,
        ownVerdicts_cons_foreign _ hforeign, ownVerdicts_cons_own _ hown, ownVerdicts_cons_own _ hown] at htold
      have hsame := (List.cons.inj htold).1
      rw [hdropped, hpassed] at hsame
      cases hsame
  · intro h k cs hcs
    have htake : Run.AllSteps admitStep (Harmless bssid) d (is.take k) := by
      rw [← List.take_append_drop k is] at h
      exact (Run.allSteps_append.mp h).1
    obtain ⟨hrun, hverdicts⟩ := run_harmless hmode htake
    rw [ownVerdicts_append, ownVerdicts_append, hrun, hverdicts]

end

/-- A station, and a management frame with a sequence control that the transmitter ending in `b` sends. -/
def heardStation : Device Unit := Device.init Unit ⟨250, true⟩ ⟨2, 0, 0, 0, 0, 1⟩

def heardMgmt (b : UInt8) (sc : UInt16) : HeardFrame :=
  (⟨⟨1000, true, fun _ => false, ⟨0, 0, 0, 0, 0, 0⟩⟩, 1001, true⟩, apMgmt ⟨2, 0, 0, 0, 0, b⟩ sc)

/-- What a neighbour sends with the access point's number is no harm. -/
theorem heardStation_immune :
    Immune ⟨2, 0, 0, 0, 0, 3⟩ heardStation [heardMgmt 3 0x10, heardMgmt 34 0x10, heardMgmt 3 0x20] :=
  (immune_iff rfl (by decide) _).mpr
    ⟨Or.inl (by decide), Or.inr (Or.inr (by decide)), Or.inl (by decide), trivial⟩

/-- With its own it makes a retransmission pass. -/
theorem retransmission_passes :
    ¬ ∀ (d : Device Unit) (bssid : Mac) (is : List HeardFrame), d.iwMode = .infra → Immune bssid d is := by
  intro h
  have hpass := h heardStation ⟨2, 0, 0, 0, 0, 3⟩ [heardMgmt 3 0x10, heardMgmt 34 0x20] rfl 2 [heardMgmt 3 0x10]
    (by simp only [List.mem_singleton, forall_eq]; decide)
  revert hpass
  decide

end Rtl8187

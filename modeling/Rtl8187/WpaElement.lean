/-
# The device's WPA element

What `ieee80211_probe_resp` (`ieee80211_softmac.c`), and `ieee80211_get_beacon_` through
it, does to the element that `ieee80211_wx_set_gen_ie` or `ieee80211_wpa_set_wpa_ie`
stored. It puts a copy of it into the frame. In ad hoc mode there is no pairwise key, and
it makes the element's pairwise suite the group's first, in the stored element, at
the offsets these have in a WPA element.

In the other modes the element is never changed (`elementRun_kept`); in ad hoc mode four
bytes of it are, and once (`elementRun_patched`). An element that is too short for the
offsets is written over its end.

Key definitions: `ElementCall`, `elementCall`, `BeaconEvent`, `buildFrame`, `Untouched`,
`PatchedOnly`.
Key theorems: `run_elementCall`, `buildFrame_cases`, `elementRun_kept`, `elementRun_patched`.
-/
import Rtl8187.BeaconRoundTrip
import Rtl8187.Lib.MemOps
import Rtl8187.Lib.Run

namespace Rtl8187

open Bytes MemOps

variable {P : Type}

/-- The accesses of a call to the buffer of the element, as offsets. -/
structure ElementCall where
  reads : List ℕ
  stores : List (Store UInt8)

/-- Those of `ieee80211_probe_resp`, where `mem` is what lies from the element's first
byte on. -/
def elementCall (alloc : Bool) (d : Device P) (mem : ℕ → UInt8) : ElementCall :=
  if alloc ∧ d.wpaIe.length ≠ 0 then
    if d.iwMode = .adhoc then ⟨List.range' 8 4 ++ List.range d.wpaIe.length, copy 14 4 fun i => mem (8 + i)⟩
    else ⟨List.range d.wpaIe.length, []⟩
  else ⟨[], []⟩

/-- A frame that is built; `alloc` is whether there is a buffer for it. -/
inductive BeaconEvent where
  | beacon (alloc : Bool)
  | probeResp (alloc : Bool) (dest : Mac)

/-- `alloc` -/
def BeaconEvent.alloc : BeaconEvent → Bool
  | .beacon alloc => alloc
  | .probeResp alloc _ => alloc

/-- The frame, and the device behind it. -/
def buildFrame (d : Device P) : BeaconEvent → Option (SkBuff × Device P)
  | .beacon alloc => getBeacon alloc d
  | .probeResp alloc dest => probeResp alloc d dest

/-- The device after it. -/
def elementStep (d : Device P) (e : BeaconEvent) : Device P := ((buildFrame d e).map Prod.snd).getD d

/-- A call accesses an element of `n` bytes within it. -/
structure InsideElement (n : ℕ) (call : ElementCall) : Prop where
  reads : ∀ i ∈ call.reads, i < n
  stores : ∀ st ∈ call.stores, st.addr < n

theorem insideElement_nil (n : ℕ) : InsideElement n ⟨[], []⟩ :=
  ⟨List.forall_mem_nil _, List.forall_mem_nil _⟩

/-- A frame leaves the element `ie` as it is, and ends in a copy of it. -/
structure Untouched (ie : List UInt8) (d : Device P) (e : BeaconEvent) : Prop where
  inside : ∀ mem, InsideElement ie.length (elementCall e.alloc d mem)
  kept : (elementStep d e).wpaIe = ie
  copied : ∀ skb d', buildFrame d e = some (skb, d') → ie <:+ skb.data

/-- A frame changes at most the four bytes of the element `ie` that are the pairwise
suite of a WPA element, which it makes the group's, and none of an element
that was changed; it ends in a copy of what is stored then. -/
structure PatchedOnly (ie : List UInt8) (d : Device P) (e : BeaconEvent) : Prop where
  inside : ∀ mem, InsideElement ie.length (elementCall e.alloc d mem)
  length : (elementStep d e).wpaIe.length = ie.length
  others : ∀ i, i < 14 ∨ 18 ≤ i → (elementStep d e).wpaIe[i]? = ie[i]?
  suite : at8 ie 0 = mfieTypeGeneric → e.alloc = true → ∀ k < 4, (elementStep d e).wpaIe[14 + k]? = ie[8 + k]?
  again : d.wpaIe ≠ ie → (elementStep d e).wpaIe = d.wpaIe
  copied : ∀ skb d', buildFrame d e = some (skb, d') → d'.wpaIe <:+ skb.data

/-! ### One frame -/

section

variable {d : Device P}

/-- Four bytes of a patched element are others. -/
theorem copyPairwiseSuite_getElem? {ie : List UInt8} (h : 18 ≤ ie.length) (i : ℕ) :
    (copyPairwiseSuite ie)[i]? = if 14 ≤ i ∧ i < 18 then ie[i - 6]? else ie[i]? := by
  have hget : ∀ k, k < ie.length → ie[k]? = some (at8 ie k) := by
    intro k hk
    simp [at8, hk]
  have heq : copyPairwiseSuite ie =
      (((ie.set 14 (at8 ie 8)).set 15 (at8 ie 9)).set 16 (at8 ie 10)).set 17 (at8 ie 11) := by
    simp [copyPairwiseSuite, List.range_succ, at8]
  rw [heq]
  simp only [List.getElem?_set, List.length_set]
  by_cases hin : 14 ≤ i ∧ i < 18
  · have hlt : i < ie.length := by omega
    rw [if_pos hin, hget (i - 6) (by omega)]
    obtain rfl | rfl | rfl | rfl : i = 14 ∨ i = 15 ∨ i = 16 ∨ i = 17 := by omega
    all_goals simp [hlt]
  · rw [if_neg hin, if_neg (by omega), if_neg (by omega), if_neg (by omega), if_neg (by omega)]

/-- A second patch changes nothing. -/
theorem copyPairwiseSuite_twice {ie : List UInt8} (h : 18 ≤ ie.length) :
    copyPairwiseSuite (copyPairwiseSuite ie) = copyPairwiseSuite ie := by
  apply List.ext_getElem?
  intro i
  rw [copyPairwiseSuite_getElem? (by rw [length_copyPairwiseSuite]; exact h)]
  split_ifs with hin
  · rw [copyPairwiseSuite_getElem? h, copyPairwiseSuite_getElem? h, if_pos hin, if_neg (by omega)]
  · rfl

/-- The stores leave in memory the element that is sent. -/
theorem run_elementCall {mem : ℕ → UInt8} (hmem : ∀ i < d.wpaIe.length, mem i = at8 d.wpaIe i)
    (hlong : d.iwMode = .adhoc → 18 ≤ d.wpaIe.length) {i : ℕ} (hi : i < d.wpaIe.length) :
    run mem (elementCall true d mem).stores i = at8 (sentWpaIe d) i := by
  have hpos : true = true ∧ d.wpaIe.length ≠ 0 := ⟨rfl, by omega⟩
  unfold elementCall sentWpaIe
  rw [if_pos hpos]
  by_cases hmode : d.iwMode = .adhoc
  · have hlong := hlong hmode
    rw [if_pos hmode, if_pos hmode]
    show run mem (copy 14 4 fun i => mem (8 + i)) i = at8 (copyPairwiseSuite d.wpaIe) i
    rw [at8, List.getD_eq_getElem?_getD, copyPairwiseSuite_getElem? hlong]
    by_cases hin : 14 ≤ i ∧ i < 18
    · obtain ⟨k, rfl⟩ := Nat.exists_eq_add_of_le hin.1
      have hsix : 14 + k - 6 = 8 + k := by omega
      rw [if_pos hin, run_copy mem 14 _ (by omega), hmem _ (by omega), hsix]
      simp [at8]
    · rw [if_neg hin, run_of_not_mem fun st hst => ?_]
      · rw [hmem i hi]
        simp [at8]
      · have haddr := addr_copy hst
        omega
  · rw [if_neg hmode, if_neg hmode]
    exact hmem i hi

/-- A probe response ends in the element, which is then the device's. -/
theorem probeResp_element (d : Device P) (dest : Mac) :
    ∃ skb : SkBuff, probeResp true d dest = some (skb, { d with wpaIe := sentWpaIe d }) ∧
      sentWpaIe d <:+ skb.data ∧ sentWpaIe d <:+ skb.data.drop 2 := by
  have hframe : ∃ front : List UInt8, 2 ≤ front.length ∧ probeResp true d dest =
      some ((SkBuff.devAllocSkb (front ++ sentWpaIe d).length).put (front ++ sentWpaIe d),
        { d with wpaIe := sentWpaIe d }) := by
    refine ⟨_, ?_, rfl⟩
    simp [mgmtHdr, le16]
  obtain ⟨front, hfront, hframe⟩ := hframe
  refine ⟨_, hframe, List.suffix_append front _, ?_⟩
  show sentWpaIe d <:+ (front ++ sentWpaIe d).drop 2
  rw [List.drop_append_of_le_length hfront]
  exact List.suffix_append _ _

/-- **What a frame does to the device.** -/
theorem buildFrame_cases (d : Device P) (e : BeaconEvent) :
    (e.alloc = false ∧ buildFrame d e = none) ∨
      e.alloc = true ∧ ∃ skb : SkBuff, buildFrame d e = some (skb, { d with wpaIe := sentWpaIe d }) ∧
        sentWpaIe d <:+ skb.data := by
  rcases e with alloc | ⟨alloc, dest⟩ <;> cases alloc
  · exact .inl ⟨rfl, rfl⟩
  · obtain ⟨skb, hframe, -, htail⟩ := probeResp_element d Mac.broadcast
    refine .inr ⟨rfl, { skb with data := le16 stypeBeacon ++ skb.data.drop 2 }, ?_, ?_⟩
    · show getBeacon true d = _
      rw [getBeacon, hframe, Option.map_some]
    · exact htail.trans (List.suffix_append _ _)
  · exact .inl ⟨rfl, rfl⟩
  · obtain ⟨skb, hframe, hend, -⟩ := probeResp_element d dest
    exact .inr ⟨rfl, skb, hframe, hend⟩

/-- The element and the mode after a frame. -/
theorem elementStep_eq (d : Device P) (e : BeaconEvent) :
    (elementStep d e).wpaIe = (if e.alloc then sentWpaIe d else d.wpaIe) ∧ (elementStep d e).iwMode = d.iwMode := by
  unfold elementStep
  rcases buildFrame_cases d e with ⟨halloc, hnone⟩ | ⟨halloc, skb, hframe, -⟩
  · rw [halloc, hnone]
    exact ⟨rfl, rfl⟩
  · rw [halloc, hframe]
    exact ⟨rfl, rfl⟩

theorem copied_of_buildFrame {e : BeaconEvent} {skb : SkBuff} {d' : Device P}
    (h : buildFrame d e = some (skb, d')) : d'.wpaIe <:+ skb.data ∧ d'.wpaIe = sentWpaIe d := by
  rcases buildFrame_cases d e with ⟨-, hnone⟩ | ⟨-, skb', hframe, hend⟩
  · exact absurd (hnone.symm.trans h) (by simp)
  · obtain ⟨rfl, rfl⟩ := Prod.mk.inj (Option.some.inj (hframe.symm.trans h))
    exact ⟨hend, rfl⟩

/-- In the other modes the element is read from end to end, and no more. -/
theorem elementCall_inside (alloc : Bool) (hmode : d.iwMode ≠ .adhoc) (mem : ℕ → UInt8) :
    InsideElement d.wpaIe.length (elementCall alloc d mem) := by
  unfold elementCall
  rw [if_neg hmode]
  split_ifs
  · exact ⟨fun i hi => List.mem_range.mp hi, fun st hst => absurd hst List.not_mem_nil⟩
  · exact insideElement_nil _

/-- In ad hoc mode it is if it is long enough for the offsets. -/
theorem elementCall_inside_adhoc (alloc : Bool) (hlong : 18 ≤ d.wpaIe.length) (mem : ℕ → UInt8) :
    InsideElement d.wpaIe.length (elementCall alloc d mem) := by
  by_cases hmode : d.iwMode = .adhoc
  · unfold elementCall
    rw [if_pos hmode]
    split_ifs
    · refine ⟨fun i hi => ?_, fun st hst => ?_⟩
      · rcases List.mem_append.mp hi with hsuite | hall
        · have hrange := List.mem_range'_1.mp hsuite
          omega
        · exact List.mem_range.mp hall
      · have haddr := addr_copy hst
        omega
    · exact insideElement_nil _
  · exact elementCall_inside alloc hmode mem

theorem untouched_of_mode (hmode : d.iwMode ≠ .adhoc) (e : BeaconEvent) : Untouched d.wpaIe d e := by
  have hsent : sentWpaIe d = d.wpaIe := if_neg hmode
  refine ⟨elementCall_inside e.alloc hmode, ?_, fun skb d' h => ?_⟩
  · rw [(elementStep_eq d e).1, hsent, ite_self]
  · obtain ⟨hend, heq⟩ := copied_of_buildFrame h
    rw [← hsent, ← heq]
    exact hend

/-- **When a frame leaves the element as it is**: there is none, or no element, or no
suite to be replaced, or it is the same. -/
theorem untouched_iff (d : Device P) (e : BeaconEvent) :
    Untouched d.wpaIe d e ↔ e.alloc = false ∨ d.iwMode ≠ .adhoc ∨ d.wpaIe = [] ∨
      18 ≤ d.wpaIe.length ∧ copyPairwiseSuite d.wpaIe = d.wpaIe := by
  by_cases hmode : d.iwMode = .adhoc
  · have hsent : sentWpaIe d = copyPairwiseSuite d.wpaIe := if_pos hmode
    have hstep := (elementStep_eq d e).1
    rw [hsent] at hstep
    constructor
    · intro h
      by_cases halloc : e.alloc = true
      · by_cases hnil : d.wpaIe = []
        · exact .inr (.inr (.inl hnil))
        · -- the last store of the copy
          have hlast : Store.set 17 (0 : UInt8) ∈ (elementCall e.alloc d fun _ => 0).stores := by
            have hpos : e.alloc = true ∧ d.wpaIe.length ≠ 0 := ⟨halloc, by simpa using hnil⟩
            unfold elementCall
            rw [if_pos hpos, if_pos hmode]
            exact List.mem_map.mpr ⟨3, by decide, rfl⟩
          have hlong : 17 < d.wpaIe.length := (h.inside fun _ => 0).stores _ hlast
          have hkept := h.kept
          rw [hstep, if_pos halloc] at hkept
          exact .inr (.inr (.inr ⟨hlong, hkept⟩))
      · exact .inl (Bool.eq_false_iff.mpr halloc)
    · intro h
      have hkept : (if e.alloc then copyPairwiseSuite d.wpaIe else d.wpaIe) = d.wpaIe := by
        rcases h with h | h | h | h
        · rw [h]
          rfl
        · exact absurd hmode h
        · rw [h, copyPairwiseSuite_nil, ite_self]
        · rw [h.2, ite_self]
      refine ⟨fun mem => ?_, hstep.trans hkept, fun skb d' hframe => ?_⟩
      · rcases h with h | h | h | h
        · unfold elementCall
          rw [h, if_neg (by simp)]
          exact insideElement_nil _
        · exact absurd hmode h
        · unfold elementCall
          rw [h, if_neg (by simp)]
          exact insideElement_nil _
        · exact elementCall_inside_adhoc e.alloc h.1 mem
      · obtain ⟨hend, heq⟩ := copied_of_buildFrame hframe
        rcases buildFrame_cases d e with ⟨-, hnone⟩ | ⟨halloc, -⟩
        · exact absurd (hnone.symm.trans hframe) (by simp)
        · rw [halloc, if_pos rfl] at hkept
          rw [heq, hsent, hkept] at hend
          exact hend
  · exact iff_of_true (untouched_of_mode hmode e) (.inr (.inl hmode))

/-- A device whose element is `ie`, patched or not. -/
structure Patchable (ie : List UInt8) (d : Device P) : Prop where
  mode : d.iwMode = .adhoc
  element : d.wpaIe = ie ∨ d.wpaIe = copyPairwiseSuite ie

theorem Patchable.sent {ie : List UInt8} (hlong : 18 ≤ ie.length) (h : Patchable ie d) :
    sentWpaIe d = copyPairwiseSuite ie := by
  have hsent : sentWpaIe d = copyPairwiseSuite d.wpaIe := if_pos h.mode
  rcases h.element with heq | heq
  · rw [hsent, heq]
  · rw [hsent, heq, copyPairwiseSuite_twice hlong]

theorem Patchable.step {ie : List UInt8} (hlong : 18 ≤ ie.length) (h : Patchable ie d) (e : BeaconEvent) :
    Patchable ie (elementStep d e) ∧ PatchedOnly ie d e := by
  obtain ⟨hwpa, hmode⟩ := elementStep_eq d e
  rw [h.sent hlong] at hwpa
  have hlen : d.wpaIe.length = ie.length := by
    rcases h.element with heq | heq
    · rw [heq]
    · rw [heq, length_copyPairwiseSuite]
  have hafter : (elementStep d e).wpaIe = ie ∨ (elementStep d e).wpaIe = copyPairwiseSuite ie := by
    rw [hwpa]
    split_ifs
    · exact .inr rfl
    · exact h.element
  refine ⟨⟨hmode.trans h.mode, hafter⟩, ?_, ?_, fun i hi => ?_, fun _ halloc k hk => ?_, fun hne => ?_,
    fun skb d' hframe => (copied_of_buildFrame hframe).1⟩
  · rw [← hlen]
    exact elementCall_inside_adhoc e.alloc (hlen ▸ hlong)
  · rcases hafter with heq | heq
    · rw [heq]
    · rw [heq, length_copyPairwiseSuite]
  · rcases hafter with heq | heq
    · rw [heq]
    · rw [heq, copyPairwiseSuite_getElem? hlong, if_neg (by omega)]
  · have hsix : 14 + k - 6 = 8 + k := by omega
    rw [hwpa, halloc, if_pos rfl, copyPairwiseSuite_getElem? hlong, if_pos (by omega), hsix]
  · have hpatched := h.element.resolve_left hne
    rw [hwpa, hpatched, ite_self]

end

/-! ### Any number of frames -/

theorem elementRun_kept (d : Device P) (hmode : d.iwMode ≠ .adhoc) (es : List BeaconEvent) :
    Run.AllSteps elementStep (Untouched d.wpaIe) d es := by
  have hstep : ∀ (s : Device P) e, s.iwMode ≠ .adhoc ∧ s.wpaIe = d.wpaIe → True →
      ((elementStep s e).iwMode ≠ .adhoc ∧ (elementStep s e).wpaIe = d.wpaIe) ∧ Untouched d.wpaIe s e := by
    rintro s e ⟨hmode, heq⟩ -
    have hkept := untouched_of_mode hmode e
    rw [heq] at hkept
    refine ⟨⟨?_, hkept.kept⟩, hkept⟩
    rw [(elementStep_eq s e).2]
    exact hmode
  exact Run.allSteps_of_inv hstep d es ⟨hmode, rfl⟩ (Run.allSteps_true d es)

theorem elementRun_patched (d : Device P) (hmode : d.iwMode = .adhoc) (hlong : 18 ≤ d.wpaIe.length)
    (es : List BeaconEvent) : Run.AllSteps elementStep (PatchedOnly d.wpaIe) d es := by
  have hstep : ∀ (s : Device P) e, Patchable d.wpaIe s → True →
      Patchable d.wpaIe (elementStep s e) ∧ PatchedOnly d.wpaIe s e := fun s e h _ => h.step hlong e
  exact Run.allSteps_of_inv hstep d es ⟨hmode, .inl rfl⟩ (Run.allSteps_true d es)

/-- **What any number of beacons and probe responses do to the element.** -/
theorem elementRun (d : Device P) (es : List BeaconEvent) :
    (d.iwMode ≠ .adhoc → Run.AllSteps elementStep (Untouched d.wpaIe) d es) ∧
      (d.iwMode = .adhoc → 18 ≤ d.wpaIe.length → Run.AllSteps elementStep (PatchedOnly d.wpaIe) d es) :=
  ⟨fun hmode => elementRun_kept d hmode es, fun hmode hlong => elementRun_patched d hmode hlong es⟩

/-- A member of a cell whose element names one suite for the group and another for pairs. -/
def suiteDevice : Device Unit :=
  { Device.init Unit ⟨250, true⟩ ⟨2, 0, 0, 0, 0, 1⟩ with
    iwMode := .adhoc
    wpaIe := [221, 22, 0x00, 0x50, 0xf2, 1, 1, 0, 0x00, 0x50, 0xf2, 2, 1, 0, 0x00, 0x50, 0xf2, 4, 1, 0,
      0x00, 0x50, 0xf2, 2] }

/-- Its first beacon changes the element. -/
theorem suiteDevice_not_untouched :
    ¬ Run.AllSteps elementStep (Untouched suiteDevice.wpaIe) suiteDevice [.beacon true] := by
  intro h
  have hcases := (untouched_iff suiteDevice (.beacon true)).mp h.1
  exact absurd hcases (by decide)

/-- The later ones do not. -/
theorem elementRun_suiteDevice : Run.AllSteps elementStep (PatchedOnly suiteDevice.wpaIe) suiteDevice
    [.beacon true, .probeResp true ⟨2, 0, 0, 0, 0, 9⟩, .beacon true] :=
  (elementRun suiteDevice _).2 (by decide) (by decide)

end Rtl8187

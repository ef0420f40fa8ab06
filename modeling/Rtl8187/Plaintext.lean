/-
# Frames in clear

A station that is to take no data in clear delivers it all the same.
`ieee80211_rx` asks for protection only when the slot that a byte of the
payload names has a module, and when `open_wep` is not set; it looks at the
last fragment of an MSDU only; and what it lets pass as an EAPOL frame it
recognises by two bytes at a fixed place. Where none of this comes in, it
delivers no data in clear, and it does so nowhere else (`noPlaintext_iff`).

Key definitions: `Device.Demands`, `NoPlaintext`, `Refused`, `Guarded`.
Key theorems: `deliver_noPlaintext_iff`, `run_noPlaintext_iff`.
-/
import Rtl8187.RxSteps
import Rtl8187.CryptTable
import Rtl8187.Digest

namespace Rtl8187

open Bytes

variable {P : Type}

/-- Data in clear is to be refused: the host decrypts, unencrypted frames are
disallowed, and a key is configured. -/
def Device.Demands (d : Device P) : Prop :=
  d.hostDecrypt = true ∧ (d.openWep = false ∨ d.dropUnencrypted = true) ∧
    ∃ idx, (d.cryptOps idx).isSome = true

/-- Each of its fragments came protected. -/
def Sealed (parts : List RxPart) : Prop := ∀ p ∈ parts, isProtected (frameCtl p.frame) = true

instance (parts : List RxPart) : Decidable (Sealed parts) :=
  inferInstanceAs (Decidable (∀ p ∈ parts, isProtected (frameCtl p.frame) = true))

/-- The Ethernet frame is an EAPOL frame. -/
def Msdu.isEapol (msdu : Msdu) : Bool := getBe16 msdu.eth 12 == ethPPae

/-- The MSDU may be delivered. -/
def Msdu.Permitted (msdu : Msdu) : Prop := Sealed msdu.parts ∨ msdu.isEapol = true

/-- The step delivers no data in clear. -/
def NoPlaintext (mgt : RxMgt P) (w : World P) (i : RxInput P) : Prop :=
  w.dev.Demands → ∀ m ∈ (w.step mgt i).msdus.drop w.msdus.length, m.2.Permitted

/-- The MSDU in buffer `b` is refused if a part of it came in clear: its last
fragment is protected, and either none came in clear or the MIC is wrong; or
that one is in clear itself, its slot has a module, `open_wep` is not set, and
it does not look like an EAPOL frame. -/
def Refused (w : World P) (b : BufId) (last : LastFrame) : Prop :=
  if isProtected last.fc then Sealed (w.heap b).parts ∨ (checkMsdu w b last).1 ≠ 0
  else last.slot.isSome = true ∧ w.dev.openWep = false ∧ isEapolFrame w.dev (w.heap b).skb = false

/-- So is any MSDU that is no EAPOL frame. -/
def RefusedData (w : World P) (b : BufId) (last : LastFrame) (reassembled : Bool) : Prop :=
  (msduOf w b last reassembled).isEapol = false → Refused w b last

/-- The MSDU that the admitted frame in buffer `b` completes. -/
def GuardedData (env : RxEnv) (w : World P) (b : BufId) : Prop :=
  let r := rxOpen w b
  0 ≤ r.1.keyidx →
    if isFragment (w.heap b).skb.data then
      match appendFragment env r.2 b r.1 with
      | .complete fb w' => RefusedData w' fb r.1 true
      | _ => True
    else RefusedData r.2 b r.1 false

/-- The MSDU that the arriving frame completes, if it does. -/
def GuardedAdmitted (env : RxEnv) (w : World P) (skb : SkBuff) : Admitted P → Prop
  | .data d => GuardedData env { w.arrive skb with dev := d } w.nextBuf
  | _ => True

/-- The MSDU that the step completes, if it does, is refused if it is data in
clear. -/
def Guarded (w : World P) : RxInput P → Prop
  | .frame env skb => GuardedAdmitted env w skb (rxAdmit env w.dev skb)
  | _ => True

section

variable {w w' : World P} {b fb : BufId} {env : RxEnv} {last : LastFrame} {reassembled : Bool}

/-! ### The check of a whole MSDU -/

/-- Of a protected frame only the MIC is checked. -/
theorem accepts_protected_iff (hfc : isProtected last.fc = true) :
    Accepts w b last ↔ (checkMsdu w b last).1 = 0 := by
  unfold Accepts rejectsClear
  simp [hfc]

/-- Of a frame in clear, whether it was to be protected. -/
theorem accepts_clear_iff (hfc : isProtected last.fc = false) :
    Accepts w b last ↔ ¬ (last.slot.isSome = true ∧ w.dev.openWep = false ∧
      isEapolFrame w.dev (w.heap b).skb = false) := by
  unfold Accepts rejectsClear
  rw [checkMsdu_clear hfc]
  simp [hfc]

/-- What is delivered is permitted exactly if data in clear is refused. -/
theorem deliver_noPlaintext_iff
    (hlast : ∃ p ∈ (w.heap b).parts, isProtected (frameCtl p.frame) = isProtected last.fc) :
    (∀ m ∈ (deliver env w b last reassembled).2.msdus.drop w.msdus.length, m.2.Permitted) ↔
      RefusedData w b last reassembled := by
  have hone : (∀ m ∈ (deliver env w b last reassembled).2.msdus.drop w.msdus.length, m.2.Permitted) ↔
      (Accepts w b last → (msduOf w b last reassembled).Permitted) := by
    rw [deliver_msdus, List.drop_left]
    split_ifs with hacc <;> simp [hacc]
  rw [hone]
  unfold RefusedData Refused Msdu.Permitted
  have hparts : (msduOf w b last reassembled).parts = (w.heap b).parts := rfl
  rw [hparts]
  cases heapol : (msduOf w b last reassembled).isEapol with
  | true => simp
  | false =>
    cases hfc : isProtected last.fc with
    | true =>
      rw [accepts_protected_iff hfc]
      simp only [Bool.false_eq_true, or_false, if_true, true_imp_iff]
      exact imp_iff_or_not
    | false =>
      have hclear : ¬ Sealed (w.heap b).parts := by
        obtain ⟨p, hp, heq⟩ := hlast
        intro hsealed
        rw [hsealed p hp, hfc] at heq
        cases heq
      rw [accepts_clear_iff hfc]
      simp [hclear]

/-! ### A frame, and a step -/

/-- Reassembly delivers nothing, and the part of the last fragment is behind
those before it. -/
theorem appendFragment_keeps (env : RxEnv) (w : World P) (b : BufId) (last : LastFrame) :
    match appendFragment env w b last with
    | .dropped w' => w'.msdus = w.msdus
    | .stored w' => w'.msdus = w.msdus
    | .complete fb w' => w'.msdus = w.msdus ∧
        ((fragCacheGet env w (w.heap b).skb.data).2.heap b).parts ⊆ (w'.heap fb).parts := by
  have hmsdus := msdus_fragCacheGet env w (w.heap b).skb.data
  cases hg : fragCacheGet env w (w.heap b).skb.data with
  | mk found w' =>
    rw [hg] at hmsdus
    cases found with
    | none =>
      rw [appendFragment_none hg]
      exact hmsdus
    | some fb =>
      have happ : (w'.append fb b last).msdus = w.msdus := (World.msdus_kfreeAll _ _).trans hmsdus
      rcases Nat.lt_or_ge (w'.heap fb).skb.tailroom (last.bytes (w.heap b).skb).length with hlt | hle
      · rw [appendFragment_overflow hg hlt]
        exact (World.msdus_kfreeAll _ _).trans hmsdus
      · cases hmore : moreFrags last.fc with
        | true =>
          rw [appendFragment_stored hg hle hmore]
          exact happ
        | false =>
          rw [appendFragment_complete hg hle hmore]
          refine ⟨(World.msdus_kfreeAll _ _).trans happ, ?_⟩
          change (w'.heap b).parts ⊆ ((w'.append fb b last).heap fb).parts
          rw [append_heap_self]
          exact List.subset_append_right _ _

/-- The search for a buffer leaves that of the frame alone. -/
theorem fragCacheGet_heap {hdr : List UInt8} (hb : b < w.nextBuf) :
    (fragCacheGet env w hdr).2.heap b = w.heap b := by
  unfold fragCacheGet
  dsimp only
  split_ifs
  · exact World.setBuf_heap_ne w (Nat.ne_of_lt hb) _
  · rfl
  · rfl

theorem rxData_noPlaintext_iff (hb : b < w.nextBuf) :
    (∀ m ∈ (rxData env w b).2.msdus.drop w.msdus.length, m.2.Permitted) ↔ GuardedData env w b := by
  have hmsdus : (rxOpen w b).2.msdus = w.msdus := rfl
  have hpart : ((rxOpen w b).2.heap b).parts = [rxPart w b] := by
    rw [rxOpen_heap, Function.update_self]
  have hfc : isProtected (frameCtl (rxPart w b).frame) = isProtected (rxOpen w b).1.fc := rfl
  have hnone : ∀ w' : World P, w'.msdus = w.msdus →
      ∀ m ∈ w'.msdus.drop w.msdus.length, m.2.Permitted := by
    intro w' hw'
    rw [hw', List.drop_length]
    nofun
  unfold GuardedData
  dsimp only
  rcases rxData_cases env w b with ⟨hkey, hr⟩ | ⟨hkey, hfrag, hr⟩ | ⟨hkey, hfrag, hr⟩
  · rw [hr]
    exact iff_of_true (hnone _ hmsdus) fun h => absurd hkey (not_lt.mpr h)
  · have hlast : ∃ p ∈ ((rxOpen w b).2.heap b).parts,
        isProtected (frameCtl p.frame) = isProtected (rxOpen w b).1.fc := by
      rw [hpart]
      exact ⟨_, List.mem_singleton_self _, hfc⟩
    rw [hr, hfrag, ← hmsdus, deliver_noPlaintext_iff hlast]
    simp [hkey]
  · have hkeeps := appendFragment_keeps env (rxOpen w b).2 b (rxOpen w b).1
    rw [fragCacheGet_heap (w := (rxOpen w b).2) hb, hpart] at hkeeps
    rw [hr, hfrag]
    cases ha : appendFragment env (rxOpen w b).2 b (rxOpen w b).1 with
    | dropped w' =>
      rw [ha] at hkeeps
      exact iff_of_true (hnone w' hkeeps) fun _ => trivial
    | stored w' =>
      rw [ha] at hkeeps
      exact iff_of_true (hnone w' hkeeps) fun _ => trivial
    | complete fb w' =>
      rw [ha] at hkeeps
      obtain ⟨hw', hsub⟩ := hkeeps
      have hlast : ∃ p ∈ (w'.heap fb).parts,
          isProtected (frameCtl p.frame) = isProtected (rxOpen w b).1.fc :=
        ⟨_, hsub (List.mem_singleton_self _), hfc⟩
      dsimp only
      rw [← hmsdus, ← hw', deliver_noPlaintext_iff hlast]
      simp [hkey]

/-- A step delivers no data in clear exactly if it is guarded against it. -/
theorem step_noPlaintext_iff (mgt : RxMgt P) (w : World P) (i : RxInput P) :
    NoPlaintext mgt w i ↔ (w.dev.Demands → Guarded w i) := by
  refine imp_congr_right fun _ => ?_
  have hnone : ∀ w' : World P, w'.msdus = w.msdus →
      ∀ m ∈ w'.msdus.drop w.msdus.length, m.2.Permitted := by
    intro w' hw'
    rw [hw', List.drop_length]
    nofun
  cases i with
  | frame env skb =>
    have hreceive : (w.step mgt (.frame env skb)).msdus = (rx mgt env (w.arrive skb) w.nextBuf).2.msdus := by
      unfold World.step receive
      dsimp only
      split_ifs
      · exact World.msdus_kfreeAll _ _
      · rfl
    rw [hreceive]
    unfold rx
    rw [arrive_buf]
    change _ ↔ GuardedAdmitted env w skb (rxAdmit env w.dev skb)
    have hdev : (w.arrive skb).dev = w.dev := rfl
    dsimp only
    rw [hdev]
    cases rxAdmit env w.dev skb with
    | drop d => exact iff_of_true (hnone _ rfl) trivial
    | monitor =>
      refine iff_of_true (hnone _ ?_) trivial
      exact List.filterMap_append.trans (List.append_nil _)
    | mgmt d => exact iff_of_true (hnone _ (World.msdus_kfreeAll _ _)) trivial
    | data d => exact rxData_noPlaintext_iff (w := { w.arrive skb with dev := d }) (Nat.lt_succ_self _)
  | setKey idx crypt => exact iff_of_true (hnone _ rfl) trivial
  | disassociate => exact iff_of_true (hnone _ rfl) trivial
  | other act => exact iff_of_true (hnone _ rfl) trivial

end

/-- **When no data in clear is delivered.** In every run, whatever frames come
and whatever else happens between them, no step of a station that is to refuse
data in clear delivers any, exactly if each such step is guarded. -/
theorem run_noPlaintext_iff (mgt : RxMgt P) (w : World P) (is : List (RxInput P)) :
    Run.AllSteps (World.step mgt) (NoPlaintext mgt) w is ↔
      Run.AllSteps (World.step mgt) (fun w i => w.dev.Demands → Guarded w i) w is :=
  Run.allSteps_congr (step_noPlaintext_iff mgt) w is

/-! ### Data in clear that comes through -/

instance (d : Device P) : Decidable d.Demands :=
  inferInstanceAs (Decidable (d.hostDecrypt = true ∧ (d.openWep = false ∨ d.dropUnencrypted = true) ∧
    ∃ idx, (d.cryptOps idx).isSome = true))

instance (msdu : Msdu) : Decidable msdu.Permitted :=
  inferInstanceAs (Decidable (Sealed msdu.parts ∨ msdu.isEapol = true))

instance (mgt : RxMgt P) (w : World P) (i : RxInput P) : Decidable (NoPlaintext mgt w i) :=
  inferInstanceAs (Decidable (w.dev.Demands →
    ∀ m ∈ (w.step mgt i).msdus.drop w.msdus.length, m.2.Permitted))

/-- A station with a CCMP key in slot 0 that refuses data in clear. -/
def sealedStation : World Priv :=
  .start { Device.init Priv ⟨250, true⟩ ⟨2, 0, 0, 0, 0, 1⟩ with
    openWep := false
    crypt := fun idx => if idx = 0 then some ⟨some (ccmpOps linuxPrimitives),
      .ccmp (ccmpSetKey (List.replicate ccmpTkLen 1) none (ccmpInit 0)).2⟩ else none }

/-- A frame of the access point of that station. -/
def frameFor (flags sc : UInt16) (body : List UInt8) : RxInput Priv :=
  .frame ⟨⟨1000, true, fun _ => false, ⟨0, 0, 0, 0, 0, 0⟩⟩, 1001, true⟩
    (apFrame flags sc ⟨0, 0, 0, 0, 0, 0⟩ ⟨2, 0, 0, 0, 0, 1⟩ body)

/-- A frame in clear whose fourth byte names an empty slot; a fragment in clear
before one that is protected (a byte, sealed under the key with number 1); a frame in
clear with the EAPOL type where no SNAP header is. Each time data in clear is delivered. -/
theorem plaintext_delivered :
    ¬ Run.AllSteps (World.step fun _ _ => .idle Priv) (NoPlaintext fun _ _ => .idle Priv) sealedStation
      [frameFor 0 0x10 [1, 2, 3, 0x40, 5, 6, 7, 8]] ∧
    ¬ Run.AllSteps (World.step fun _ _ => .idle Priv) (NoPlaintext fun _ _ => .idle Priv) sealedStation
      [frameFor fctlMorefrags 0x10 [1, 2, 3, 0], frameFor fctlWep 0x11
        ([1, 0, 0, extIv, 0, 0, 0, 0] ++ [0x25, 0xdf, 0xb4, 0xf6, 0xbe, 0x63, 0x4a, 0xf6, 0x84])] ∧
    ¬ Run.AllSteps (World.step fun _ _ => .idle Priv) (NoPlaintext fun _ _ => .idle Priv) sealedStation
      [frameFor 0 0x10 [1, 2, 3, 0, 5, 6, 0x88, 0x8E]] :=
  ⟨by decide +kernel, by decide +kernel, by decide +kernel⟩

end Rtl8187

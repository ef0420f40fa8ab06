/-
# One key for an MSDU

The fragments of an MSDU are to be decrypted under one key, in one
association. Nothing in the driver sees to that: the slot is named by each
fragment itself, the fragment cache knows sequence number and addresses only,
and neither a new key nor a new association clears it. What does hold: as long
as keys are changed and associations made only when no fragments of theirs are
waiting, and a sender keeps to one slot in an MSDU, the cache holds fragments
of the present keys and the present association (`Keyed`).

Key definitions: `OneKey`, `Current`, `Keyed`, `Undisturbed`.
Key theorems: `keyed_append`, `run_oneKey`.
-/
import Rtl8187.RxSteps
import Rtl8187.CryptTable
import Rtl8187.Digest

namespace Rtl8187

open Bytes

variable {P : Type}

/-- All fragments were decrypted under the same installation of a key in the same
slot, or none of them was, and they came in the same association. -/
def OneKey (parts : List RxPart) : Prop := ∀ p ∈ parts, ∀ q ∈ parts, p.key = q.key ∧ p.assoc = q.assoc

instance (parts : List RxPart) : Decidable (OneKey parts) :=
  inferInstanceAs (Decidable (∀ p ∈ parts, ∀ q ∈ parts, p.key = q.key ∧ p.assoc = q.assoc))

/-- The MSDUs from the fragment path have one key each. -/
def OneKeyEach (w : World P) : Prop := ∀ m ∈ w.msdus, m.2.reassembled = true → OneKey m.2.parts

/-- The slot of a fragment. -/
def RxPart.slot (p : RxPart) : Option KeyIdx := p.key.map Prod.fst

/-- A fragment of the present association, decrypted under what is now installed
in its slot. -/
def RxPart.Current (w : World P) (p : RxPart) : Prop :=
  p.key = p.slot.map (fun idx => (idx, w.installs idx)) ∧ p.assoc = w.assocs

/-- These fragments are current, and of one slot. -/
def Current (w : World P) (parts : List RxPart) : Prop :=
  (∀ p ∈ parts, p.Current w) ∧ ∀ p ∈ parts, ∀ q ∈ parts, p.slot = q.slot

/-- So are those the cache holds, buffer by buffer. -/
def Keyed (w : World P) : Prop := ∀ fb ∈ w.held, Current w (w.heap fb).parts

section

variable {w w' : World P} {b fb : BufId} {env : RxEnv} {last : LastFrame} {parts : List RxPart}
  {hdr : List UInt8}

theorem current_nil : Current w [] := ⟨nofun, nofun⟩

theorem Current.oneKey (h : Current w parts) : OneKey parts := by
  intro p hp q hq
  refine ⟨?_, (h.1 p hp).2.trans (h.1 q hq).2.symm⟩
  rw [(h.1 p hp).1, (h.1 q hq).1, h.2 p hp q hq]

theorem Current.append {parts' : List RxPart} (h : Current w parts) (h' : Current w parts')
    (hslot : ∀ p ∈ parts, ∀ q ∈ parts', p.slot = q.slot) : Current w (parts ++ parts') := by
  refine ⟨fun p hp => ?_, fun p hp q hq => ?_⟩
  · rcases List.mem_append.mp hp with hp | hp
    · exact h.1 p hp
    · exact h'.1 p hp
  · rcases List.mem_append.mp hp with hp | hp
    · rcases List.mem_append.mp hq with hq | hq
      · exact h.2 p hp q hq
      · exact hslot p hp q hq
    · rcases List.mem_append.mp hq with hq | hq
      · exact (hslot q hq p hp).symm
      · exact h'.2 p hp q hq

/-- A fragment that was just decrypted is current. -/
theorem current_rxPart : Current w [rxPart w b] := by
  refine ⟨fun p hp => ?_, fun p hp q hq => ?_⟩
  · rw [List.mem_singleton.mp hp]
    refine ⟨?_, rfl⟩
    unfold RxPart.slot rxPart
    dsimp only
    split_ifs
    · cases decryptSlot w.dev (w.heap b).skb <;> rfl
    · rfl
  · rw [List.mem_singleton.mp hp, List.mem_singleton.mp hq]

/-! ### Each part of reception -/

/-- A buffer may be given fragments that are current. -/
theorem Keyed.setBuf (h : Keyed w) {buf : RxBuf} (hbuf : Current w buf.parts) :
    Keyed (w.setBuf b buf) := by
  intro fb hfb
  by_cases hne : fb = b
  · rw [hne, World.setBuf_heap]
    exact hbuf
  · rw [World.setBuf_heap_ne w hne]
    exact h fb hfb

/-- The search lets buffers go, and takes none in. -/
theorem keyed_find (h : Keyed w) (upd : FragEntry → FragEntry) (hupd : ∀ e, (upd e).skb = e.skb)
    (now : UInt64) (frag : Option ℕ) : Keyed (fragCacheFind now w hdr frag upd).2 := by
  intro fb hfb
  have hperm := @findEntry_perm now w.dev.kernel.hz (FragKey.ofHdr hdr) frag upd hupd
    w.dev.fragCache.entries
  exact h fb (hperm.mem_iff.mpr (List.mem_append_right _ hfb))

theorem keyed_invalidate (h : Keyed w) (now : UInt64) : Keyed (fragCacheInvalidate now w hdr) := by
  intro fb hfb
  have hperm := @findEntry_clear_perm now w.dev.kernel.hz (FragKey.ofHdr hdr) none
    w.dev.fragCache.entries
  exact h fb (hperm.mem_iff.mpr (List.mem_append_right _ (List.mem_append_right _ hfb)))

/-- A fragment gets a new buffer, or one the cache holds. -/
theorem keyed_get (h : Keyed w) (hb : Current w (w.heap b).parts) :
    Keyed (fragCacheGet env w hdr).2 ∧
      Current (fragCacheGet env w hdr).2 ((fragCacheGet env w hdr).2.heap b).parts ∧
      ∀ fb ∈ (fragCacheGet env w hdr).1,
        Current (fragCacheGet env w hdr).2 ((fragCacheGet env w hdr).2.heap fb).parts := by
  unfold fragCacheGet
  dsimp only
  by_cases hfrag : fragOf hdr = 0
  · rw [if_pos hfrag]
    by_cases halloc : env.skbAlloc = true
    · rw [if_pos halloc]
      have hset : Keyed (w.setBuf w.nextBuf ⟨SkBuff.devAllocSkb (fragBufSize w.dev.mtu), []⟩) :=
        h.setBuf current_nil
      have hnew : ∀ c, Current w
          (Function.update w.heap w.nextBuf ⟨SkBuff.devAllocSkb (fragBufSize w.dev.mtu), []⟩ c).parts ↔
          c = w.nextBuf ∨ Current w (w.heap c).parts := by
        intro c
        by_cases hc : c = w.nextBuf
        · subst hc
          rw [Function.update_self]
          exact ⟨fun _ => Or.inl rfl, fun _ => current_nil⟩
        · rw [Function.update_of_ne hc]
          exact ⟨Or.inr, fun hor => hor.resolve_left hc⟩
      refine ⟨fun fb hfb => ?_, (hnew b).mpr (Or.inr hb), fun fb hfb => ?_⟩
      · refine (hnew fb).mpr ?_
        have hmem : fb ∈ w.nextBuf :: w.held :=
          (w.dev.fragCache.getFirst_perm env.now (FragKey.ofHdr hdr) w.nextBuf).mem_iff.mpr
            (List.mem_append_right _ hfb)
        exact (List.mem_cons.mp hmem).imp id fun hheld => h fb hheld
      · cases hfb
        exact (hnew w.nextBuf).mpr (Or.inl rfl)
    · rw [if_neg halloc]
      exact ⟨h, hb, nofun⟩
  · rw [if_neg hfrag]
    refine ⟨keyed_find h (.advance (fragOf hdr)) (fun _ => rfl) _ _, hb, fun fb hfb => ?_⟩
    obtain ⟨e, he, hskb, -, -, -⟩ := findEntry_mem _ hfb
    exact h fb (mem_held.mpr ⟨e, he, hskb⟩)

/-- The fragment in buffer `b` is of the slot of those it is put behind. -/
def SameSlot (env : RxEnv) (w : World P) (b : BufId) (_last : LastFrame) : Prop :=
  let r := fragCacheGet env w (w.heap b).skb.data
  ∀ fb ∈ r.1, ∀ p ∈ (r.2.heap fb).parts, ∀ q ∈ (r.2.heap b).parts, p.slot = q.slot

instance (env : RxEnv) (w : World P) (b : BufId) (last : LastFrame) :
    Decidable (SameSlot env w b last) :=
  inferInstanceAs (Decidable (∀ fb ∈ (fragCacheGet env w (w.heap b).skb.data).1,
    ∀ p ∈ ((fragCacheGet env w (w.heap b).skb.data).2.heap fb).parts,
    ∀ q ∈ ((fragCacheGet env w (w.heap b).skb.data).2.heap b).parts, p.slot = q.slot))

/-- What such a fragment comes to. -/
theorem keyed_append (h : Keyed w) (hb : Current w (w.heap b).parts) (hs : SameSlot env w b last) :
    match appendFragment env w b last with
    | .dropped w' => Keyed w' ∧ w'.msdus = w.msdus
    | .stored w' => Keyed w' ∧ w'.msdus = w.msdus
    | .complete fb w' => Keyed w' ∧ w'.msdus = w.msdus ∧ Current w' (w'.heap fb).parts := by
  obtain ⟨hkeyed, hcur, hfound⟩ := @keyed_get P w b env (w.heap b).skb.data h hb
  have hmsdus := msdus_fragCacheGet env w (w.heap b).skb.data
  unfold SameSlot at hs
  cases hg : fragCacheGet env w (w.heap b).skb.data with
  | mk found w' =>
    rw [hg] at hkeyed hcur hfound hmsdus hs
    cases found with
    | none =>
      rw [appendFragment_none hg]
      exact ⟨hkeyed, hmsdus⟩
    | some fb =>
      rcases Nat.lt_or_ge (w'.heap fb).skb.tailroom (last.bytes (w.heap b).skb).length with hlt | hle
      · rw [appendFragment_overflow hg hlt]
        exact ⟨keyed_invalidate hkeyed _, (World.msdus_kfreeAll _ _).trans hmsdus⟩
      have hparts : Current w' ((w'.heap fb).parts ++ (w'.heap b).parts) :=
        (hfound fb rfl).append hcur (hs fb rfl)
      have happ : Keyed (w'.append fb b last) := by
        have hset : Keyed (w'.setBuf fb ⟨(w'.heap fb).skb.put (last.bytes (w'.heap b).skb),
            (w'.heap fb).parts ++ (w'.heap b).parts⟩) := hkeyed.setBuf hparts
        exact hset
      have hmsdus' : (w'.append fb b last).msdus = w.msdus := (World.msdus_kfreeAll _ _).trans hmsdus
      cases hmore : moreFrags last.fc with
      | true =>
        rw [appendFragment_stored hg hle hmore]
        exact ⟨happ, hmsdus'⟩
      | false =>
        rw [appendFragment_complete hg hle hmore]
        refine ⟨keyed_invalidate happ _, (World.msdus_kfreeAll _ _).trans hmsdus', ?_⟩
        have hcur' : Current w' ((w'.append fb b last).heap fb).parts := by
          rw [append_heap_self]
          exact hparts
        exact hcur'

/-- A delivery leaves the fragments of every buffer as they are. -/
theorem keyed_deliver {reassembled : Bool} (h : Keyed w) (hm : OneKeyEach w)
    (hb : reassembled = true → Current w (w.heap b).parts) :
    Keyed (deliver env w b last reassembled).2 ∧ OneKeyEach (deliver env w b last reassembled).2 := by
  obtain ⟨hcache, hparts, hinst, hassoc⟩ := deliver_same env w b last reassembled
  refine ⟨fun fb hfb => ?_, fun m hmem hre => ?_⟩
  · unfold World.held at hfb
    rw [hcache] at hfb
    have hcur := h fb hfb
    unfold Current RxPart.Current at hcur ⊢
    rw [hparts, hinst, hassoc]
    exact hcur
  · rw [deliver_msdus] at hmem
    rcases List.mem_append.mp hmem with hmem | hmem
    · exact hm m hmem hre
    · split_ifs at hmem with hacc
      · rw [List.mem_singleton.mp hmem] at hre ⊢
        exact (hb hre).oneKey
      · cases hmem

/-- An admitted data frame. -/
theorem keyed_rxData (h : Keyed w) (hm : OneKeyEach w)
    (hs : 0 ≤ (rxOpen w b).1.keyidx → isFragment (w.heap b).skb.data = true →
      SameSlot env (rxOpen w b).2 b (rxOpen w b).1) :
    Keyed (rxData env w b).2 ∧ OneKeyEach (rxData env w b).2 := by
  have hopen : Keyed (rxOpen w b).2 := by
    have hset : Keyed (w.setBuf b ⟨openedSkb w b, [rxPart w b]⟩) := h.setBuf current_rxPart
    rw [rxOpen_world]
    exact hset
  have hcur : Current (rxOpen w b).2 ((rxOpen w b).2.heap b).parts := by
    rw [rxOpen_heap, Function.update_self]
    exact current_rxPart
  have hm' : OneKeyEach (rxOpen w b).2 := hm
  rcases rxData_cases env w b with ⟨-, hr⟩ | ⟨-, -, hr⟩ | ⟨hkey, hfrag, hr⟩
  · rw [hr]
    exact ⟨hopen, hm'⟩
  · rw [hr]
    exact keyed_deliver hopen hm' nofun
  · rw [hr]
    have happ := keyed_append hopen hcur (hs hkey hfrag)
    have heach : ∀ {w' : World P}, w'.msdus = (rxOpen w b).2.msdus → OneKeyEach w' := by
      intro w' hmsdus
      unfold OneKeyEach
      rw [hmsdus]
      exact hm'
    cases ha : appendFragment env (rxOpen w b).2 b (rxOpen w b).1 with
    | dropped w' =>
      rw [ha] at happ
      exact ⟨happ.1, heach happ.2⟩
    | stored w' =>
      rw [ha] at happ
      exact ⟨happ.1, heach happ.2⟩
    | complete fb w' =>
      rw [ha] at happ
      exact keyed_deliver happ.1 (heach happ.2.1) fun _ => happ.2.2

/-- Another world with the same buffers, installations and associations, or one
that holds no buffer. -/
theorem Keyed.same (h : Keyed w) (hw : SameBuffers w' w) (hinst : w'.installs = w.installs)
    (hassoc : w'.assocs = w.assocs ∨ w.held = []) : Keyed w' := by
  intro fb hfb
  rw [hw.held] at hfb
  rcases hassoc with hassoc | hempty
  · have hcur := h fb hfb
    unfold Current RxPart.Current at hcur ⊢
    rw [hw.heap, hinst, hassoc]
    exact hcur
  · rw [hempty] at hfb
    cases hfb

theorem OneKeyEach.same (h : OneKeyEach w) (hw : SameBuffers w' w) : OneKeyEach w' := by
  unfold OneKeyEach World.msdus
  rw [hw.log]
  exact h

theorem OneKeyEach.kfreeAll (h : OneKeyEach w) (bs : List BufId) : OneKeyEach (w.kfreeAll bs) := by
  unfold OneKeyEach
  rw [World.msdus_kfreeAll]
  exact h

end

/-! ### Runs -/

/-- A step disturbs nothing that is being gathered: an association is made only
while the cache holds no buffer, a key is changed only in a slot under which
none of the fragments in the cache was decrypted, and a fragment is of the slot
of those it is put behind. -/
structure Undisturbed (mgt : RxMgt P) (w : World P) (i : RxInput P) : Prop where
  assocs : (w.step mgt i).assocs = w.assocs ∨ w.held = []
  installs : ∀ idx, (w.step mgt i).installs idx = w.installs idx ∨
    ∀ fb ∈ w.held, ∀ p ∈ (w.heap fb).parts, p.slot ≠ some idx
  sameSlot : AtFragment SameSlot w i

instance (mgt : RxMgt P) (w : World P) (i : RxInput P) : Decidable (Undisturbed mgt w i) :=
  decidable_of_iff (_ ∧ _ ∧ _) ⟨fun ⟨h₁, h₂, h₃⟩ => ⟨h₁, h₂, h₃⟩, fun ⟨h₁, h₂, h₃⟩ => ⟨h₁, h₂, h₃⟩⟩

theorem keyed_rx (mgt : RxMgt P) {env : RxEnv} {w : World P} {skb : SkBuff} (h : Keyed w)
    (hm : OneKeyEach w) (hs : Undisturbed mgt w (.frame env skb)) :
    Keyed (rx mgt env (w.arrive skb) w.nextBuf).2 ∧
      OneKeyEach (rx mgt env (w.arrive skb) w.nextBuf).2 := by
  have harrive : Keyed (w.arrive skb) := h.setBuf current_nil
  have hm' : OneKeyEach (w.arrive skb) := hm
  have hassocs : (rx mgt env (w.arrive skb) w.nextBuf).2.assocs = w.assocs ∨ w.held = [] := by
    have hstep := hs.assocs
    unfold World.step receive at hstep
    dsimp only at hstep
    split_ifs at hstep <;> exact hstep
  rcases rx_cases mgt env (w.arrive skb) w.nextBuf with
    ⟨d, hd, hr⟩ | hr | ⟨d, hd, hr⟩ | ⟨d, ha, hr⟩
  · rw [hr] at hassocs ⊢
    have hsame := sameBuffers_setDev (w.arrive skb) hd
    exact ⟨harrive.same hsame rfl hassocs, hm'.same hsame⟩
  · rw [hr]
    refine ⟨harrive, ?_⟩
    have hmsdus : ((w.arrive skb).emit (.monitor w.nextBuf)).msdus = w.msdus :=
      List.filterMap_append.trans (List.append_nil _)
    unfold OneKeyEach
    rw [hmsdus]
    exact hm
  · rw [hr] at hassocs ⊢
    have hsame := sameBuffers_setDev (w.arrive skb) hd
    have hkeyed : Keyed ((w.arrive skb).setDev d) := harrive.same hsame rfl hassocs
    exact ⟨hkeyed, (hm'.same hsame).kfreeAll _⟩
  · rw [hr]
    rw [arrive_buf] at ha
    have hcache := rxAdmit_fragCache env w.dev skb
    have hadmit : AtAdmitted SameSlot env w skb (rxAdmit env w.dev skb) := hs.sameSlot
    rw [show rxAdmit env w.dev skb = .data d from ha] at hcache hadmit
    refine keyed_rxData (harrive.same ⟨hcache, rfl, rfl, rfl⟩ rfl (Or.inl rfl)) hm' ?_
    dsimp only
    rw [arrive_buf]
    exact hadmit

theorem step_keyed (mgt : RxMgt P) {w : World P} {i : RxInput P} (h : Keyed w ∧ OneKeyEach w)
    (hs : Undisturbed mgt w i) : Keyed (w.step mgt i) ∧ OneKeyEach (w.step mgt i) := by
  cases i with
  | frame env skb =>
    obtain ⟨hkeyed, heach⟩ := keyed_rx mgt h.1 h.2 hs
    unfold World.step receive
    dsimp only
    by_cases hret : (rx mgt env (w.arrive skb) w.nextBuf).1 = 0
    · rw [if_pos hret]
      exact ⟨hkeyed, heach.kfreeAll _⟩
    · rw [if_neg hret]
      exact ⟨hkeyed, heach⟩
  | setKey idx crypt =>
    refine ⟨fun fb hfb => ?_, h.2⟩
    obtain ⟨hcur, hslot⟩ := h.1 fb hfb
    refine ⟨fun p hp => ⟨?_, (hcur p hp).2⟩, hslot⟩
    -- the slot of a fragment in the cache was not touched
    cases hsome : p.slot with
    | none =>
      rw [(hcur p hp).1, hsome]
      rfl
    | some i =>
      rcases hs.installs i with heq | hnone
      · rw [(hcur p hp).1, hsome, Option.map_some, Option.map_some, heq]
      · exact absurd hsome (hnone fb hfb p hp)
  | disassociate =>
    have hsame : SameBuffers (w.step mgt .disassociate) w := step_sameBuffers mgt w nofun
    exact ⟨h.1.same hsame rfl hs.assocs, h.2.same hsame⟩
  | other act =>
    have hsame : SameBuffers (w.step mgt (.other act)) w := step_sameBuffers mgt w nofun
    exact ⟨h.1.same hsame rfl hs.assocs, h.2.same hsame⟩

/-- **One key for an MSDU**, in every run that disturbs nothing. -/
theorem run_oneKey (mgt : RxMgt P) (w : World P) (is : List (RxInput P))
    (h : Keyed w ∧ OneKeyEach w) (hs : Run.AllSteps (World.step mgt) (Undisturbed mgt) w is) :
    OneKeyEach (Run.run (World.step mgt) w is) :=
  (Run.inv_run (fun _ _ => step_keyed mgt) w is h hs).2

theorem keyed_start {d : Device P} (h : Rtl8187.held d.fragCache.entries = []) :
    Keyed (World.start d) ∧ OneKeyEach (World.start d) := by
  refine ⟨fun fb hfb => ?_, nofun⟩
  unfold World.held World.start at hfb
  rw [h] at hfb
  cases hfb

/-- The protected MSDUs from the fragment path have one key each. -/
def OneKeyProtected (w : World P) : Prop := ∀ m ∈ w.msdus, m.2.reassembled = true →
  (∀ p ∈ m.2.parts, isProtected (frameCtl p.frame) = true) → OneKey m.2.parts

instance (w : World P) : Decidable (OneKeyProtected w) :=
  inferInstanceAs (Decidable (∀ m ∈ w.msdus, m.2.reassembled = true →
    (∀ p ∈ m.2.parts, isProtected (frameCtl p.frame) = true) → OneKey m.2.parts))

section

private abbrev station : Mac := ⟨2, 0, 0, 0, 0, 1⟩
private abbrev accessPoint : Mac := ⟨0, 0, 0, 0, 0, 0⟩
private abbrev jiffy : RxEnv := ⟨⟨1000, true, fun _ => false, accessPoint⟩, 1001, true⟩

private abbrev install (idx : KeyIdx) (byte : UInt8) : RxInput Priv :=
  .setKey idx (some ⟨some (ccmpOps linuxPrimitives),
    .ccmp (ccmpSetKey (List.replicate ccmpTkLen byte) none (ccmpInit idx)).2⟩)

/-- A CCMP fragment for a slot, with packet number `pn`, of what a key made of its payload. -/
private abbrev sealedFragment (flags sc : UInt16) (idx : KeyIdx) (pn : UInt8) (body : List UInt8) :
    RxInput Priv :=
  .frame jiffy (apFrame (fctlWep ||| flags) sc accessPoint station
    ([pn, 0, 0, keyIdxByte idx ||| extIv, 0, 0, 0, 0] ++ body))

/-- The byte 1 as a first fragment, under the key of ones with number 1. -/
private abbrev first : List UInt8 := [0x27, 0x5e, 0x1e, 0x31, 0xfe, 0x12, 0x64, 0x79, 0x4e]

/-- The byte 2 as a second fragment, under the key of ones with number 2. -/
private abbrev second : List UInt8 := [0xa6, 0xf8, 0xae, 0xbc, 0xcf, 0xcc, 0x5a, 0x80, 0x6d]

/-- And under the key of twos with number 1. -/
private abbrev otherSecond : List UInt8 := [0x46, 0x9d, 0x08, 0x37, 0xf9, 0x52, 0xeb, 0xd8, 0x99]

private abbrev associate : RxInput Priv :=
  .other ⟨fun d => { d with state := .linked }, fun _ => rfl, fun _ _ => rfl⟩

private abbrev fresh : World Priv := World.start (Device.init Priv ⟨250, true⟩ station)

/-- Two fragments under one key. -/
theorem twoSealed_oneKey : OneKeyEach (Run.run (World.step fun _ _ => .idle Priv) fresh
    [install 0 1, sealedFragment fctlMorefrags 0x10 0 1 first, sealedFragment 0 0x11 0 2 second]) :=
  run_oneKey (fun _ _ => .idle Priv) fresh _ (keyed_start rfl) (by
    refine ⟨⟨Or.inl rfl, fun _ => Or.inr nofun, trivial⟩, ⟨Or.inr ?_, ?_, ?_⟩, ⟨Or.inl ?_, ?_, ?_⟩, trivial⟩
    · decide +kernel
    · decide +kernel
    · decide +kernel
    · decide +kernel
    · decide +kernel
    · decide +kernel)

/-- Two fragments, and between them another key for their slot; two slots; or a
new association between the two. Each time a protected MSDU is delivered that
does not have one key. -/
theorem fragments_spliced :
    ¬ OneKeyProtected (Run.run (World.step fun _ _ => .idle Priv) fresh
      [install 0 1, sealedFragment fctlMorefrags 0x10 0 1 first, install 0 2,
        sealedFragment 0 0x11 0 1 otherSecond]) ∧
    ¬ OneKeyProtected (Run.run (World.step fun _ _ => .idle Priv) fresh
      [install 0 1, install 1 2, sealedFragment fctlMorefrags 0x10 0 1 first,
        sealedFragment 0 0x11 1 1 otherSecond]) ∧
    ¬ OneKeyProtected (Run.run (World.step fun _ _ => .idle Priv) fresh
      [associate, install 0 1, sealedFragment fctlMorefrags 0x10 0 1 first, .disassociate, associate,
        sealedFragment 0 0x11 0 2 second]) :=
  ⟨by decide +kernel, by decide +kernel, by decide +kernel⟩

end

end Rtl8187

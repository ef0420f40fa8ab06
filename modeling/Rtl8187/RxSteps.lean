/-
# The steps of reception

What each part of `ieee80211_rx` does to the world, and what it leaves alone:
one lemma for each part, from which the properties of whole runs are derived.

Key theorems: `isDuplicatePacket_same`, `rxFrameMgmt_fragCache`, `rxOpen_world`,
`deliver_cases`, `rxAdmit_data`.
-/
import Rtl8187.Rx
import Rtl8187.DeviceSteps

namespace Rtl8187

open Bytes

variable {P : Type}

/-! ### Accounts -/

namespace World

variable (w : World P)

/-- The buffers the fragment cache holds. -/
def held : List BufId := Rtl8187.held w.dev.fragCache.entries

/-- What went to the network stack, with its buffer. -/
def msdus : List (BufId × Msdu) := w.log.filterMap fun
  | .netifRx b msdu => some (b, msdu)
  | _ => none

@[simp] theorem setBuf_heap (b : BufId) (buf : RxBuf) : (w.setBuf b buf).heap b = buf :=
  Function.update_self _ _ _

theorem setBuf_heap_ne {b fb : BufId} (h : fb ≠ b) (buf : RxBuf) :
    (w.setBuf b buf).heap fb = w.heap fb := Function.update_of_ne h _ _

@[simp] theorem msdus_kfreeAll (bs : List BufId) : (w.kfreeAll bs).msdus = w.msdus := by
  unfold msdus kfreeAll
  rw [List.filterMap_append, List.append_right_eq_self, List.filterMap_eq_nil_iff]
  intro ev hev
  obtain ⟨b, -, rfl⟩ := List.mem_map.mp hev
  rfl

end World

/-! ### The device -/

/-- Only the duplicate filter changed. -/
def SameButFilter (d' d : Device P) : Prop :=
  d' = { d with
    ibssMacHash := d'.ibssMacHash
    lastSeqNum := d'.lastSeqNum
    lastFragNum := d'.lastFragNum
    lastPacketTime := d'.lastPacketTime }

theorem SameButFilter.refl (d : Device P) : SameButFilter d d := rfl

/-- What does not read the filter is as before. -/
theorem SameButFilter.view {α : Type*} {d' d : Device P} (h : SameButFilter d' d) (f : Device P → α)
    (hf : ∀ hash seq frag time, f { d with
      ibssMacHash := hash, lastSeqNum := seq, lastFragNum := frag, lastPacketTime := time } = f d) : f d' = f d :=
  (congrArg f h).trans (hf _ _ _ _)

theorem SameButFilter.fragCache {d' d : Device P} (h : SameButFilter d' d) :
    d'.fragCache = d.fragCache :=
  h.view Device.fragCache fun _ _ _ _ => rfl

theorem isDuplicatePacket_same (env : RxEnv) (d : Device P) (hdr : List UInt8) :
    SameButFilter (isDuplicatePacket env d hdr).2 d := by
  unfold isDuplicatePacket
  dsimp only
  split
  · split
    · by_cases hk : env.kmalloc = true
      · rw [if_pos hk]
        rfl
      · rw [if_neg hk]
        exact .refl d
    · split_ifs
      · exact .refl d
      · rfl
  · split_ifs
    · exact .refl d
    · rfl
  · exact .refl d

/-- What `rxAdmit` can come to. Whatever goes as far as the duplicate filter has
a module for its slot if it is protected. -/
theorem rxAdmit_cases (env : RxEnv) (d : Device P) (skb : SkBuff) :
    rxAdmit env d skb = .drop d ∨ rxAdmit env d skb = .monitor ∨
    rxAdmit env d skb = .drop (isDuplicatePacket env d skb.data).2 ∨
    rxAdmit env d skb = .mgmt (isDuplicatePacket env d skb.data).2 ∨
    (rxAdmit env d skb = .data (isDuplicatePacket env d skb.data).2 ∧ dataHdr3Len ≤ skb.len ∧
      (dsBits (frameCtl skb.data) = fctlFromds ||| fctlTods → dataHdr4Len ≤ skb.len) ∧
      (d.hostDecrypt = true → isProtected (frameCtl skb.data) = true → decryptSlot d skb ≠ none)) := by
  unfold rxAdmit
  dsimp only
  by_cases h1 : skb.len < 10
  · exact Or.inl (if_pos h1)
  rw [if_neg h1]
  by_cases h2 : d.iwMode = .monitor
  · exact Or.inr (Or.inl (if_pos h2))
  rw [if_neg h2]
  by_cases h3 : d.hostDecrypt ∧ decryptSlot d skb = none ∧ isProtected (frameCtl skb.data)
  · exact Or.inl (if_pos h3)
  rw [if_neg h3]
  by_cases h4 : skb.len < dataHdr3Len
  · exact Or.inl (if_pos h4)
  rw [if_neg h4]
  refine Or.inr (Or.inr ?_)
  by_cases h5 : (isDuplicatePacket env d skb.data).1 = true
  · exact Or.inl (if_pos h5)
  rw [if_neg h5]
  by_cases h6 : fcType (frameCtl skb.data) = ftypeMgmt
  · exact Or.inr (Or.inl (if_pos h6))
  rw [if_neg h6]
  by_cases h7 : dsBits (frameCtl skb.data) = fctlFromds ||| fctlTods ∧ skb.len < dataHdr4Len
  · exact Or.inl (if_pos h7)
  rw [if_neg h7]
  by_cases h8 : fcStype (frameCtl skb.data) ∉
      [stypeData, stypeDataCfack, stypeDataCfpoll, stypeDataCfackpoll]
  · exact Or.inl (if_pos h8)
  rw [if_neg h8]
  by_cases h9 : (rxAddrs (isDuplicatePacket env d skb.data).2 skb.data).2.2 ≠
      (isDuplicatePacket env d skb.data).2.currentNetwork.bssid
  · exact Or.inl (if_pos h9)
  rw [if_neg h9]
  refine Or.inr (Or.inr ⟨rfl, not_lt.mp h4, fun hds => ?_, fun hd hp hn => h3 ⟨hd, hn, hp⟩⟩)
  by_contra hlt
  exact h7 ⟨hds, not_le.mp hlt⟩

/-- Only management frames go to management. -/
theorem rxAdmit_mgmt {env : RxEnv} {d d' : Device P} {skb : SkBuff} (h : rxAdmit env d skb = .mgmt d') :
    fcType (frameCtl skb.data) = ftypeMgmt := by
  by_contra hno
  unfold rxAdmit at h
  dsimp only at h
  rw [if_neg hno] at h
  by_cases hten : skb.len < 10
  · rw [if_pos hten] at h
    cases h
  rw [if_neg hten] at h
  by_cases hmon : d.iwMode = .monitor
  · rw [if_pos hmon] at h
    cases h
  rw [if_neg hmon] at h
  by_cases hkey : d.hostDecrypt ∧ decryptSlot d skb = none ∧ isProtected (frameCtl skb.data)
  · rw [if_pos hkey] at h
    cases h
  rw [if_neg hkey] at h
  by_cases hshort : skb.len < dataHdr3Len
  · rw [if_pos hshort] at h
    cases h
  rw [if_neg hshort] at h
  -- what is left is dropped, or passed on as data
  by_cases hdup : (isDuplicatePacket env d skb.data).1 = true
  · rw [if_pos hdup] at h
    cases h
  rw [if_neg hdup] at h
  split_ifs at h

/-- What is admitted as data is a data frame of our network, long enough for
its header. -/
theorem rxAdmit_data {env : RxEnv} {d d' : Device P} {skb : SkBuff}
    (h : rxAdmit env d skb = .data d') :
    SameButFilter d' d ∧ dataHdr3Len ≤ skb.len ∧
      (dsBits (frameCtl skb.data) = fctlFromds ||| fctlTods → dataHdr4Len ≤ skb.len) ∧
      (d.hostDecrypt = true → isProtected (frameCtl skb.data) = true → decryptSlot d skb ≠ none) := by
  rcases rxAdmit_cases env d skb with ha | ha | ha | ha | ⟨ha, hlong⟩
  · cases h.symm.trans ha
  · cases h.symm.trans ha
  · cases h.symm.trans ha
  · cases h.symm.trans ha
  · cases h.symm.trans ha
    exact ⟨isDuplicatePacket_same env d skb.data, hlong⟩

/-- A header is no longer than an admitted frame. -/
theorem hdrlen_le_len {env : RxEnv} {d d' : Device P} {skb : SkBuff}
    (h : rxAdmit env d skb = .data d') : getHdrlen (frameCtl skb.data) ≤ skb.len := by
  obtain ⟨-, h3, h4, -⟩ := rxAdmit_data h
  unfold getHdrlen
  unfold dataHdr3Len at h3 ⊢
  split_ifs with h1 h2
  · exact h4 (dsBits_both h2.1 h2.2)
  all_goals omega

/-- A management frame leaves the fragment cache alone. -/
theorem rxFrameMgmt_fragCache (mgt : RxMgt P) (env : RxEnv) (d : Device P) (skb : SkBuff) :
    (rxFrameMgmt mgt env d skb).fragCache = d.fragCache := by
  unfold rxFrameMgmt
  dsimp only
  split_ifs
  · exact (mgt _ _).fragCache_eq d
  · exact (rxFrameSoftmac_frame _ _ _).fragCache.trans ((mgt _ _).fragCache_eq d)

/-! ### Decryption -/

/-- Only cipher contexts changed. -/
def SameButCrypt (d' d : Device P) : Prop := d' = { d with crypt := d'.crypt }

theorem SameButCrypt.refl (d : Device P) : SameButCrypt d d := rfl

/-- What does not read the contexts is as before. -/
theorem SameButCrypt.view {α : Type*} {d' d : Device P} (h : SameButCrypt d' d) (f : Device P → α)
    (hf : ∀ crypt, f { d with crypt := crypt } = f d) : f d' = f d := (congrArg f h).trans (hf _)

theorem SameButCrypt.fragCache {d' d : Device P} (h : SameButCrypt d' d) :
    d'.fragCache = d.fragCache :=
  h.view Device.fragCache fun _ => rfl

theorem rxFrameDecrypt_same (d : Device P) (skb : SkBuff) (slot : Option KeyIdx) :
    SameButCrypt (rxFrameDecrypt d skb slot).2.2 d := by
  unfold rxFrameDecrypt
  split
  · exact .refl d
  · split
    · exact .refl d
    · dsimp only
      split_ifs <;> rfl

theorem rxFrameDecryptMsdu_same (d : Device P) (skb : SkBuff) (keyidx : Int) (slot : Option KeyIdx) :
    SameButCrypt (rxFrameDecryptMsdu d skb keyidx slot).2.2 d := by
  unfold rxFrameDecryptMsdu
  split
  · exact .refl d
  · split
    · exact .refl d
    · rfl

/-- A decrypted frame has the header it came with. -/
theorem rxFrameDecrypt_hdr {d : Device P} {skb : SkBuff} {slot : Option KeyIdx}
    (h : 0 ≤ (rxFrameDecrypt d skb slot).1) (hlen : getHdrlen (frameCtl skb.data) ≤ skb.len) :
    getHdrlen (frameCtl skb.data) ≤ (rxFrameDecrypt d skb slot).2.1.len ∧
      (rxFrameDecrypt d skb slot).2.1.data.take (getHdrlen (frameCtl skb.data)) =
        skb.data.take (getHdrlen (frameCtl skb.data)) := by
  unfold rxFrameDecrypt at h ⊢
  cases hs : d.slotOps slot with
  | none => exact ⟨hlen, rfl⟩
  | some r =>
    obtain ⟨idx, ops, priv⟩ := r
    rw [hs] at h
    dsimp only at h ⊢
    cases hop : ops.decryptMpdu with
    | none => exact ⟨hlen, rfl⟩
    | some op =>
      rw [hop] at h
      dsimp only at h ⊢
      by_cases hstop : d.countermeasuresStop ops = true
      · rw [if_pos hstop]
        exact ⟨hlen, rfl⟩
      · rw [if_neg hstop] at h ⊢
        by_cases hret : (op skb (getHdrlen (frameCtl skb.data)) priv).ret < 0
        · rw [if_pos hret] at h
          cases h
        · exact ops.decryptMpdu_hdr op hop skb _ priv (not_lt.mp hret)

/-- The MIC is cut off at the end. -/
theorem rxFrameDecryptMsdu_prefix (d : Device P) (skb : SkBuff) (keyidx : Int) (slot : Option KeyIdx) :
    (rxFrameDecryptMsdu d skb keyidx slot).2.1.data <+: skb.data := by
  unfold rxFrameDecryptMsdu
  split
  · exact List.prefix_refl _
  · rename_i idx ops priv _
    split
    · exact List.prefix_refl _
    · rename_i op hop
      exact ops.decryptMsdu_prefix op hop skb keyidx _ priv

section

variable (w : World P) (b : BufId)

/-- What the decryption returns. -/
def rxOpened : Int × SkBuff × Device P :=
  if w.dev.opens (frameCtl (w.heap b).skb.data) then
    rxFrameDecrypt w.dev (w.heap b).skb (decryptSlot w.dev (w.heap b).skb)
  else (0, (w.heap b).skb, w.dev)

/-- The frame after it. -/
def openedSkb : SkBuff := (rxOpened w b).2.1

/-- The part that goes into the history. -/
def rxPart : RxPart :=
  let fc := frameCtl (w.heap b).skb.data
  ⟨(w.heap b).skb.data, (openedSkb w b).data,
    if w.dev.opens fc then (decryptSlot w.dev (w.heap b).skb).map fun idx => (idx, w.installs idx)
    else none, w.assocs⟩

theorem rxOpen_keyidx : (rxOpen w b).1.keyidx = (rxOpened w b).1 := rfl

theorem rxOpen_heap :
    (rxOpen w b).2.heap = Function.update w.heap b ⟨openedSkb w b, [rxPart w b]⟩ := rfl

theorem rxOpen_dev : SameButCrypt (rxOpen w b).2.dev w.dev := by
  have hdev : (rxOpen w b).2.dev = (rxOpened w b).2.2 := rfl
  rw [hdev, rxOpened]
  split_ifs
  · exact rxFrameDecrypt_same _ _ _
  · exact .refl _

theorem rxOpen_fragCache : (rxOpen w b).2.dev.fragCache = w.dev.fragCache :=
  (rxOpen_dev w b).fragCache

/-- The world after the decryption. -/
theorem rxOpen_world : (rxOpen w b).2 = { w with
    dev := { w.dev with crypt := (rxOpen w b).2.dev.crypt }
    heap := Function.update w.heap b ⟨openedSkb w b, [rxPart w b]⟩ } := by
  rw [← rxOpen_heap]
  conv_rhs => rw [← rxOpen_dev w b]
  rfl

end

/-! ### Reassembly -/

section

variable {env : RxEnv} {w w' : World P} {b fb : BufId} {last : LastFrame}

theorem append_heap_self : (w.append fb b last).heap fb =
    ⟨(w.heap fb).skb.put (last.bytes (w.heap b).skb), (w.heap fb).parts ++ (w.heap b).parts⟩ :=
  Function.update_self _ _ _

theorem append_heap_ne {fb' : BufId} (h : fb' ≠ fb) : (w.append fb b last).heap fb' = w.heap fb' :=
  Function.update_of_ne h _ _

theorem msdus_fragCacheGet (env : RxEnv) (w : World P) (hdr : List UInt8) :
    (fragCacheGet env w hdr).2.msdus = w.msdus := by
  unfold fragCacheGet fragCacheFind
  dsimp only
  split_ifs
  · exact World.msdus_kfreeAll _ _
  · rfl
  · exact World.msdus_kfreeAll _ _

theorem appendFragment_none (h : fragCacheGet env w (w.heap b).skb.data = (none, w')) :
    appendFragment env w b last = .dropped w' := by
  simp only [appendFragment, h]

theorem appendFragment_overflow (h : fragCacheGet env w (w.heap b).skb.data = (some fb, w'))
    (hlt : (w'.heap fb).skb.tailroom < (last.bytes (w.heap b).skb).length) :
    appendFragment env w b last =
      .dropped (fragCacheInvalidate env.later w' (w.heap b).skb.data) := by
  simp only [appendFragment, h, if_pos hlt]

theorem appendFragment_stored (h : fragCacheGet env w (w.heap b).skb.data = (some fb, w'))
    (hle : (last.bytes (w.heap b).skb).length ≤ (w'.heap fb).skb.tailroom)
    (hmore : moreFrags last.fc = true) :
    appendFragment env w b last = .stored (w'.append fb b last) := by
  simp only [appendFragment, h, if_neg (not_lt.mpr hle), hmore, if_true]

theorem appendFragment_complete (h : fragCacheGet env w (w.heap b).skb.data = (some fb, w'))
    (hle : (last.bytes (w.heap b).skb).length ≤ (w'.heap fb).skb.tailroom)
    (hmore : moreFrags last.fc = false) :
    appendFragment env w b last =
      .complete fb (fragCacheInvalidate env.later (w'.append fb b last)
        ((w'.append fb b last).heap fb).skb.data) := by
  simp only [appendFragment, h, if_neg (not_lt.mpr hle), hmore, Bool.false_eq_true, if_false]

end

/-! ### Delivery -/

section

variable (env : RxEnv) (w : World P) (b : BufId) (last : LastFrame) (reassembled : Bool)

theorem checkMsdu_same : SameButCrypt (checkMsdu w b last).2.2 w.dev := by
  unfold checkMsdu
  split_ifs
  · exact rxFrameDecryptMsdu_same _ _ _ _
  · exact .refl _

theorem checked_fragCache : (w.checked b last).dev.fragCache = w.dev.fragCache :=
  (checkMsdu_same w b last).fragCache

variable {w b last} in
/-- A frame in clear has no MIC to check. -/
theorem checkMsdu_clear (hfc : isProtected last.fc = false) :
    checkMsdu w b last = (0, (w.heap b).skb, w.dev) := by
  have hopens : w.dev.opens last.fc = false := by
    unfold Device.opens
    rw [hfc, Bool.and_false]
  unfold checkMsdu
  rw [hopens]
  rfl

theorem checkMsdu_prefix : (checkMsdu w b last).2.1.data <+: (w.heap b).skb.data := by
  unfold checkMsdu
  split_ifs
  · exact rxFrameDecryptMsdu_prefix _ _ _ _
  · exact List.prefix_refl _

/-- The MSDU passes the checks after reassembly. -/
def Accepts : Prop :=
  (checkMsdu w b last).1 = 0 ∧
    rejectsClear (checkMsdu w b last).2.2 last.slot last.fc (checkMsdu w b last).2.1 = false

instance : Decidable (Accepts w b last) := inferInstanceAs (Decidable (_ ∧ _))

theorem deliver_accepts (h : Accepts w b last) : deliver env w b last reassembled =
    (1, ({ w.checked b last with
        dev := { (w.checked b last).dev with lastRxPsTime := env.later } }.setBuf b
      ⟨toEthernet (checkMsdu w b last).2.1 last.hdrlen last.dst last.src, (w.heap b).parts⟩).emit
        (.netifRx b (msduOf w b last reassembled))) := by
  obtain ⟨hmic, hclear⟩ := h
  unfold deliver
  dsimp only
  rw [if_neg (not_not_intro hmic), hclear]
  rfl

theorem deliver_rejects (h : ¬ Accepts w b last) :
    deliver env w b last reassembled = (0, w.checked b last) := by
  unfold Accepts at h
  unfold deliver
  dsimp only
  by_cases hmic : (checkMsdu w b last).1 = 0
  · rw [if_neg (not_not_intro hmic), if_pos (by simpa [hmic] using h)]
  · rw [if_pos hmic]

theorem setBuf_parts {fb : BufId} {skb : SkBuff} (fb' : BufId) :
    ((w.setBuf fb ⟨skb, (w.heap fb).parts⟩).heap fb').parts = (w.heap fb').parts := by
  by_cases h : fb' = fb
  · rw [h, World.setBuf_heap]
  · rw [World.setBuf_heap_ne w h]

/-- What a delivery leaves alone. -/
theorem deliver_same :
    (deliver env w b last reassembled).2.dev.fragCache = w.dev.fragCache ∧
      (∀ fb, ((deliver env w b last reassembled).2.heap fb).parts = (w.heap fb).parts) ∧
      (deliver env w b last reassembled).2.installs = w.installs ∧
      (deliver env w b last reassembled).2.assocs = w.assocs := by
  have hchecked : ∀ fb, ((w.checked b last).heap fb).parts = (w.heap fb).parts := setBuf_parts w
  by_cases hacc : Accepts w b last
  · rw [deliver_accepts _ _ _ _ _ hacc]
    refine ⟨checked_fragCache w b last, fun fb => ?_, rfl, rfl⟩
    rw [← hchecked fb, ← hchecked b]
    exact setBuf_parts (w.checked b last) fb
  · rw [deliver_rejects _ _ _ _ _ hacc]
    exact ⟨checked_fragCache w b last, hchecked, rfl, rfl⟩

/-- What it delivers. -/
theorem deliver_msdus : (deliver env w b last reassembled).2.msdus =
    w.msdus ++ if Accepts w b last then [(b, msduOf w b last reassembled)] else [] := by
  by_cases hacc : Accepts w b last
  · rw [deliver_accepts _ _ _ _ _ hacc, if_pos hacc]
    exact List.filterMap_append
  · rw [deliver_rejects _ _ _ _ _ hacc, if_neg hacc, List.append_nil]
    rfl

end

/-! ### The parts together -/

/-- The two worlds have the same buffers, held by the same entries. -/
structure SameBuffers (w' w : World P) : Prop where
  fragCache : w'.dev.fragCache = w.dev.fragCache
  heap : w'.heap = w.heap
  log : w'.log = w.log
  nextBuf : w'.nextBuf = w.nextBuf

theorem SameBuffers.held {w' w : World P} (h : SameBuffers w' w) : w'.held = w.held := by
  unfold World.held
  rw [h.fragCache]

theorem sameBuffers_setDev (w : World P) {d : Device P} (h : d.fragCache = w.dev.fragCache) :
    SameBuffers (w.setDev d) w := ⟨h, rfl, rfl, rfl⟩

/-- What `rxAdmit` leaves has the fragment cache of before. -/
theorem rxAdmit_fragCache (env : RxEnv) (d : Device P) (skb : SkBuff) :
    match rxAdmit env d skb with
    | .drop d' => d'.fragCache = d.fragCache
    | .monitor => True
    | .mgmt d' => d'.fragCache = d.fragCache
    | .data d' => d'.fragCache = d.fragCache := by
  have hdup : (isDuplicatePacket env d skb.data).2.fragCache = d.fragCache :=
    (isDuplicatePacket_same env d skb.data).fragCache
  rcases rxAdmit_cases env d skb with ha | ha | ha | ha | ⟨ha, -⟩
  · rw [ha]
  · rw [ha]
    trivial
  · rw [ha]
    exact hdup
  · rw [ha]
    exact hdup
  · rw [ha]
    exact hdup

/-- What a call of `ieee80211_rx` can come to. -/
theorem rx_cases (mgt : RxMgt P) (env : RxEnv) (w : World P) (b : BufId) :
    (∃ d, d.fragCache = w.dev.fragCache ∧ rx mgt env w b = (0, w.setDev d)) ∨
    rx mgt env w b = (1, w.emit (.monitor b)) ∨
    (∃ d, d.fragCache = w.dev.fragCache ∧ rx mgt env w b = (1, (w.setDev d).kfreeAll [b])) ∨
    ∃ d, rxAdmit env w.dev (w.heap b).skb = .data d ∧
      rx mgt env w b = rxData env { w with dev := d } b := by
  have hcache := rxAdmit_fragCache env w.dev (w.heap b).skb
  unfold rx
  dsimp only
  cases ha : rxAdmit env w.dev (w.heap b).skb with
  | drop d =>
    rw [ha] at hcache
    exact Or.inl ⟨d, hcache, rfl⟩
  | monitor => exact Or.inr (Or.inl rfl)
  | mgmt d =>
    rw [ha] at hcache
    exact Or.inr (Or.inr (Or.inl ⟨_, (rxFrameMgmt_fragCache mgt env d _).trans hcache, rfl⟩))
  | data d => exact Or.inr (Or.inr (Or.inr ⟨d, rfl, rfl⟩))

/-- What becomes of an admitted data frame. -/
theorem rxData_cases (env : RxEnv) (w : World P) (b : BufId) :
    (rxOpen w b).1.keyidx < 0 ∧ rxData env w b = (0, (rxOpen w b).2) ∨
    0 ≤ (rxOpen w b).1.keyidx ∧ isFragment (w.heap b).skb.data = false ∧
      rxData env w b = deliver env (rxOpen w b).2 b (rxOpen w b).1 false ∨
    0 ≤ (rxOpen w b).1.keyidx ∧ isFragment (w.heap b).skb.data = true ∧
      rxData env w b =
        match appendFragment env (rxOpen w b).2 b (rxOpen w b).1 with
        | .dropped w' => (0, w')
        | .stored w' => (1, w')
        | .complete fb w' => deliver env w' fb (rxOpen w b).1 true := by
  unfold rxData
  dsimp only
  by_cases hkey : (rxOpen w b).1.keyidx < 0
  · exact Or.inl ⟨hkey, if_pos hkey⟩
  rw [if_neg hkey]
  cases hfrag : isFragment (w.heap b).skb.data with
  | false => exact Or.inr (Or.inl ⟨not_lt.mp hkey, rfl, rfl⟩)
  | true => exact Or.inr (Or.inr ⟨not_lt.mp hkey, rfl, rfl⟩)

section

variable (Q : RxEnv → World P → BufId → LastFrame → Prop)

/-- `Q` holds of the frame that was admitted, if it is a fragment and decrypted:
of the world after that, its buffer, and what is known of it. -/
def AtAdmitted (env : RxEnv) (w : World P) (skb : SkBuff) : Admitted P → Prop
  | .data d =>
    let r := rxOpen { w.arrive skb with dev := d } w.nextBuf
    0 ≤ r.1.keyidx → isFragment skb.data = true → Q env r.2 w.nextBuf r.1
  | _ => True

/-- `Q` holds of the fragment of a step, if it brings one to reassembly. -/
def AtFragment (w : World P) : RxInput P → Prop
  | .frame env skb => AtAdmitted Q env w skb (rxAdmit env w.dev skb)
  | _ => True

instance [∀ env w b last, Decidable (Q env w b last)] (env : RxEnv) (w : World P) (skb : SkBuff) :
    ∀ a, Decidable (AtAdmitted Q env w skb a)
  | .data d => inferInstanceAs (Decidable
      (0 ≤ (rxOpen { w.arrive skb with dev := d } w.nextBuf).1.keyidx → isFragment skb.data = true →
        Q env (rxOpen { w.arrive skb with dev := d } w.nextBuf).2 w.nextBuf
          (rxOpen { w.arrive skb with dev := d } w.nextBuf).1))
  | .drop _ => .isTrue trivial
  | .monitor => .isTrue trivial
  | .mgmt _ => .isTrue trivial

instance [∀ env w b last, Decidable (Q env w b last)] (w : World P) :
    ∀ i, Decidable (AtFragment Q w i)
  | .frame env skb => inferInstanceAs (Decidable (AtAdmitted Q env w skb (rxAdmit env w.dev skb)))
  | .setKey _ _ => .isTrue trivial
  | .disassociate => .isTrue trivial
  | .other _ => .isTrue trivial

end

theorem arrive_buf (w : World P) (skb : SkBuff) : (w.arrive skb).heap w.nextBuf = ⟨skb, []⟩ :=
  Function.update_self _ _ _

@[simp] theorem disassociate_fragCache (d : Device P) : (disassociate d).fragCache = d.fragCache := by
  unfold disassociate
  dsimp only
  split_ifs <;> rfl

/-- A step without a frame leaves the buffers alone. -/
theorem step_sameBuffers (mgt : RxMgt P) (w : World P) {i : RxInput P}
    (h : ∀ env skb, i ≠ .frame env skb) : SameBuffers (w.step mgt i) w := by
  cases i with
  | frame env skb => exact absurd rfl (h env skb)
  | setKey idx crypt => exact ⟨rfl, rfl, rfl, rfl⟩
  | disassociate => exact sameBuffers_setDev w (disassociate_fragCache w.dev)
  | other act => exact sameBuffers_setDev w (act.fragCache_eq w.dev)

end Rtl8187

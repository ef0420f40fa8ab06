/-
# Reassembly

What the fragment path delivers: the payloads of fragments 0, 1, …, n of one
MSDU, in order. While an MSDU is gathered, its entry of the fragment cache
says how far it has come (`Gathered`); the invariant of the cache is that each
entry tells the truth about its own buffer, and that no two entries share one.

The lookup with which a completed MSDU is taken out of the cache, or one that
does not fit, may find the entry of another buffer. Then the entry meant stays
behind: it still holds a buffer that was delivered, or one that lacks a
fragment. And the payload of the MSDU is taken to start where the header of
its last fragment would end.

Key definitions: `assemble`, `Gathered`, `WellAssembled`, `TraceableFragment`.
Key theorems: `append_reassembling`, `run_safelyReassembled`.
-/
import Rtl8187.RxSteps

namespace Rtl8187

open Bytes

variable {P : Type}

/-! ### Fragments and what they make up -/

namespace RxPart

variable (p : RxPart)

def hdrlen : ℕ := getHdrlen (frameCtl p.frame)

/-- What a fragment adds to the MSDU. -/
def payload : List UInt8 := p.opened.drop p.hdrlen

/-- The MSDU it belongs to: sequence number, transmitter, receiver. -/
def msduKey : FragKey := FragKey.ofHdr p.frame

/-- The decryption left the header as it was. -/
structure Intact : Prop where
  min : dataHdr3Len ≤ p.opened.length
  len : p.hdrlen ≤ p.opened.length
  hdr : p.opened.take dataHdr3Len = p.frame.take dataHdr3Len

end RxPart

/-- A header that starts like another has its fields. -/
theorem hdr_congr {d d' : List UInt8} (h : d.take dataHdr3Len = d'.take dataHdr3Len) :
    FragKey.ofHdr d = FragKey.ofHdr d' ∧ fragOf d = fragOf d' ∧ frameCtl d = frameCtl d' := by
  have hseq : seqCtl d = seqCtl d' := by
    rw [← @seqCtl_take d dataHdr3Len (by decide), h, seqCtl_take (by decide)]
  have h1 : addr1 d = addr1 d' := by
    rw [← @addr1_take d dataHdr3Len (by decide), h, addr1_take (by decide)]
  have h2 : addr2 d = addr2 d' := by
    rw [← @addr2_take d dataHdr3Len (by decide), h, addr2_take (by decide)]
  have hfc : frameCtl d = frameCtl d' := by
    rw [← @frameCtl_take d dataHdr3Len (by decide), h, frameCtl_take (by decide)]
  refine ⟨?_, ?_, hfc⟩
  · rw [FragKey.ofHdr, FragKey.ofHdr, hseq, h1, h2]
  · rw [fragOf, fragOf, hseq]

/-- The first fragment with its header, then the payloads of the others. -/
def assemble : List RxPart → List UInt8
  | [] => []
  | p :: ps => p.opened ++ (ps.map RxPart.payload).flatten

theorem assemble_append {ps : List RxPart} (h : ps ≠ []) (p : RxPart) :
    assemble (ps ++ [p]) = assemble ps ++ p.payload := by
  cases ps with
  | nil => exact absurd rfl h
  | cons p₀ ps => simp [assemble]

/-- Behind the header of the first fragment there are the payloads. -/
theorem assemble_drop {p : RxPart} {ps : List RxPart} (h : p.hdrlen ≤ p.opened.length) :
    (assemble (p :: ps)).drop p.hdrlen = ((p :: ps).map RxPart.payload).flatten := by
  rw [assemble, List.drop_append_of_le_length h, List.map_cons, List.flatten_cons]
  rfl

/-- These are fragments `0, …, n` of the MSDU `key`, and `data` is what they make
up. All but the last have MoreFragments; `more` is whether that has it. -/
structure Gathered (key : FragKey) (n : ℕ) (more : Bool) (parts : List RxPart) (data : List UInt8) :
    Prop where
  count : parts.length = n + 1
  numbered : ∀ k p, parts[k]? = some p → fragOf p.frame = k
  sameMsdu : ∀ p ∈ parts, p.msduKey = key
  intact : ∀ p ∈ parts, p.Intact
  moreFrags_eq : ∀ k p, parts[k]? = some p → moreFrags (frameCtl p.frame) = (decide (k < n) || more)
  data_eq : data = assemble parts

/-- What stands in a list with one more at its end. -/
theorem getElem?_concat_cases {α : Type*} {l : List α} {a x : α} {k : ℕ} (h : (l ++ [a])[k]? = some x) :
    k < l.length ∧ l[k]? = some x ∨ k = l.length ∧ x = a := by
  rcases Nat.lt_trichotomy k l.length with hk | hk | hk
  · rw [List.getElem?_append_left hk] at h
    exact Or.inl ⟨hk, h⟩
  · rw [hk, List.getElem?_concat_length] at h
    exact Or.inr ⟨hk, (Option.some.inj h).symm⟩
  · rw [List.getElem?_eq_none (by simp; omega)] at h
    cases h

namespace Gathered

variable {key : FragKey} {n : ℕ} {more : Bool} {parts : List RxPart} {data : List UInt8} {p : RxPart}

/-- A first fragment. -/
theorem first (hp : p.Intact) (hfrag : fragOf p.frame = 0) :
    Gathered p.msduKey 0 (moreFrags (frameCtl p.frame)) [p] p.opened where
  count := rfl
  numbered := by
    intro k q hq
    cases k with
    | zero =>
      cases hq
      exact hfrag
    | succ k => cases hq
  sameMsdu := by
    intro q hq
    rw [List.mem_singleton.mp hq]
  intact := by
    intro q hq
    rwa [List.mem_singleton.mp hq]
  moreFrags_eq := by
    intro k q hq
    cases k with
    | zero =>
      cases hq
      simp
    | succ k => cases hq
  data_eq := by simp [assemble]

/-- The next fragment. -/
theorem next (h : Gathered key n true parts data) (hp : p.Intact) (hkey : p.msduKey = key)
    (hfrag : fragOf p.frame = n + 1) :
    Gathered key (n + 1) (moreFrags (frameCtl p.frame)) (parts ++ [p]) (data ++ p.payload) where
  count := by rw [List.length_append, h.count, List.length_singleton]
  numbered := by
    intro k q hq
    rcases getElem?_concat_cases hq with ⟨-, hold⟩ | ⟨hk, rfl⟩
    · exact h.numbered k q hold
    · rw [hk, h.count, hfrag]
  sameMsdu := by
    intro q hq
    rcases List.mem_append.mp hq with hq | hq
    · exact h.sameMsdu q hq
    · rw [List.mem_singleton.mp hq, hkey]
  intact := by
    intro q hq
    rcases List.mem_append.mp hq with hq | hq
    · exact h.intact q hq
    · rwa [List.mem_singleton.mp hq]
  moreFrags_eq := by
    intro k q hq
    have hcount := h.count
    rcases getElem?_concat_cases hq with ⟨hk, hold⟩ | ⟨hk, rfl⟩
    · rw [h.moreFrags_eq k q hold]
      simp [show k < n + 1 by omega]
    · simp [show ¬ k < n + 1 by omega]
  data_eq := by
    have hne : parts ≠ [] := by
      intro hnil
      have hcount := h.count
      rw [hnil] at hcount
      cases hcount
    rw [assemble_append hne, h.data_eq]

/-- The header of what was gathered is that of fragment 0. -/
theorem header (h : Gathered key n more parts data) :
    ∃ p ∈ parts, parts.head? = some p ∧ FragKey.ofHdr data = key ∧ frameCtl data = frameCtl p.frame := by
  cases parts with
  | nil => cases h.count
  | cons p ps =>
    have hp := h.intact p List.mem_cons_self
    obtain ⟨hkey, -, hfc⟩ := hdr_congr hp.hdr
    have hdata := h.data_eq
    have htake : data.take dataHdr3Len = p.opened.take dataHdr3Len := by
      rw [hdata, assemble, List.take_append_of_le_length hp.min]
    obtain ⟨hkey', -, hfc'⟩ := hdr_congr htake
    refine ⟨p, List.mem_cons_self, rfl, ?_, hfc'.trans hfc⟩
    rw [hkey', hkey]
    exact h.sameMsdu p List.mem_cons_self

/-- Behind a header as long as that of fragment 0 there are the payloads. -/
theorem drop_hdrlen (h : Gathered key n more parts data) {hdrlen : ℕ}
    (hhdr : getHdrlen (frameCtl data) = hdrlen) :
    data.drop hdrlen = (parts.map RxPart.payload).flatten := by
  obtain ⟨p, hp, hhead, -, hfc⟩ := h.header
  cases parts with
  | nil => cases hhead
  | cons p₀ ps =>
    cases hhead
    rw [← hhdr, hfc, h.data_eq]
    exact assemble_drop (h.intact p hp).len

end Gathered

/-- An MSDU from the fragment path is what it should be: all the fragments of
one MSDU, and behind the header their payloads in order. The check of the MIC
only cuts off its end, and what is left becomes the Ethernet frame. -/
structure WellAssembled (msdu : Msdu) : Prop where
  gathered : ∃ key n, Gathered key n false msdu.parts msdu.whole
  payloads : msdu.whole.drop msdu.hdrlen = (msdu.parts.map RxPart.payload).flatten
  checked : msdu.checked <+: msdu.whole
  eth : ∃ skb dst src, skb.data = msdu.checked ∧
    msdu.eth = (toEthernet skb msdu.hdrlen dst src).data

/-! ### The invariant of the cache -/

/-- Each entry of the cache tells the truth about its buffer. -/
def Gathering (w : World P) : Prop :=
  ∀ e ∈ w.dev.fragCache.entries, ∀ fb, e.skb = some fb →
    Gathered e.key e.lastFrag true (w.heap fb).parts (w.heap fb).skb.data

/-- The buffers that were delivered. -/
def World.delivered (w : World P) : List BufId := w.msdus.map Prod.fst

/-- Buffer `b` is in hand: neither held by the cache nor delivered. -/
def Handling (w : World P) (b : BufId) : Prop :=
  Ledger.Sound w.held (w.delivered ++ [b]) w.nextBuf ∧ Gathering w

/-- The cache holds no buffer twice and none that was delivered, its entries
tell the truth, and what was delivered is well assembled. -/
structure Reassembling (w : World P) : Prop where
  sound : Ledger.Sound w.held w.delivered w.nextBuf
  gathering : Gathering w
  msdus : ∀ m ∈ w.msdus, m.2.reassembled = true → WellAssembled m.2

section

variable {w : World P} {b fb : BufId}

theorem mem_held_of {e : FragEntry} (he : e ∈ w.dev.fragCache.entries) (hb : e.skb = some fb) :
    fb ∈ w.held := mem_held.mpr ⟨e, he, hb⟩

/-- A buffer that is not held may be written. -/
theorem Gathering.setBuf (h : Gathering w) (hb : b ∉ w.held) (buf : RxBuf) : Gathering (w.setBuf b buf) := by
  intro e he fb hfb
  have hne : fb ≠ b := fun heq => hb (heq ▸ mem_held_of he hfb)
  rw [World.setBuf_heap_ne w hne]
  exact h e he fb hfb

theorem Handling.not_held (h : Handling w b) : b ∉ w.held :=
  fun hb => h.1.not_mem_used hb (List.mem_append_right _ List.mem_cons_self)

theorem Handling.lt (h : Handling w b) : b < w.nextBuf :=
  h.1.lt b (List.mem_append_right _ (List.mem_append_right _ List.mem_cons_self))

theorem handling_arrive (h : Ledger.Sound w.held w.delivered w.nextBuf) (hg : Gathering w)
    (skb : SkBuff) : Handling (w.arrive skb) w.nextBuf := by
  refine ⟨h.use_next, ?_⟩
  have hfresh : w.nextBuf ∉ w.held := fun hb => (h.lt _ (List.mem_append_left _ hb)).false
  exact hg.setBuf hfresh _

theorem sound_find {used : List BufId} (upd : FragEntry → FragEntry) (hupd : ∀ e, (upd e).skb = e.skb)
    (h : Ledger.Sound w.held used w.nextBuf) (now : UInt64) (hdr : List UInt8)
    (frag : Option ℕ) :
    Ledger.Sound (fragCacheFind now w hdr frag upd).2.held used
      (fragCacheFind now w hdr frag upd).2.nextBuf :=
  h.drop (findEntry_perm hupd _)

theorem sound_invalidate {used : List BufId} (h : Ledger.Sound w.held used w.nextBuf) (now : UInt64)
    (hdr : List UInt8) :
    Ledger.Sound (fragCacheInvalidate now w hdr).held used (fragCacheInvalidate now w hdr).nextBuf := by
  have hperm := @findEntry_clear_perm now w.dev.kernel.hz (FragKey.ofHdr hdr) none
    w.dev.fragCache.entries
  rw [← List.append_assoc] at hperm
  exact h.drop hperm

/-- The lookup takes the entry of `fb` out of the cache, if it finds no other. -/
theorem not_held_invalidate (hn : w.held.Nodup) {now : UInt64} {hdr : List UInt8} {e : FragEntry}
    (he : e ∈ w.dev.fragCache.entries) (hfb : e.skb = some fb) (hkey : e.key = FragKey.ofHdr hdr)
    (hown : ∀ fb' ∈ (fragCacheFind now w hdr none .clear).1, fb' = fb) :
    fb ∉ (fragCacheInvalidate now w hdr).held := by
  intro hmem
  obtain ⟨e', he', hfb'⟩ := mem_held.mp hmem
  cases hfound : (fragCacheFind now w hdr none .clear).1 with
  | none =>
    rcases mem_findEntry _ he' with hold | hnone | ⟨e₀, -, hf, hs, -, -⟩
    · have heq := eq_of_held hn hold he hfb' hfb
      have hno := findEntry_none _ hfound e' he'
      rw [heq] at hno
      simp [FragEntry.waitsFor, hfb, hkey] at hno
    · rw [hnone] at hfb'
      cases hfb'
    · rw [← hf, show (findEntry _ _ _ _ _ _).found = none from hfound] at hs
      cases hs
  | some fb' =>
    have heq : fb' = fb := hown fb' hfound
    rw [heq] at hfound
    have hperm := @findEntry_clear_perm now w.dev.kernel.hz (FragKey.ofHdr hdr) none
      w.dev.fragCache.entries
    rw [show (findEntry _ _ _ _ _ _).found = some fb from hfound] at hperm
    have hn' := hperm.nodup_iff.mp hn
    have htail := (List.nodup_append.mp hn').2.1
    exact (List.nodup_cons.mp htail).1 hmem

/-- The entries but that of `fb` tell the truth. -/
def GatheringBut (fb : BufId) (w : World P) : Prop :=
  ∀ e ∈ w.dev.fragCache.entries, ∀ fb', e.skb = some fb' → fb' ≠ fb →
    Gathered e.key e.lastFrag true (w.heap fb').parts (w.heap fb').skb.data

/-- What `ieee80211_frag_cache_get` gives a fragment: buffer `fb`, whose entry has
moved on to this fragment, with the fragments before it. -/
structure Got (w : World P) (b : BufId) (hdr : List UInt8) (fb : BufId) (w' : World P) : Prop where
  sound : Ledger.Sound w'.held (w'.delivered ++ [b]) w'.nextBuf
  others : GatheringBut fb w'
  entry : ∃ e ∈ w'.dev.fragCache.entries, e.skb = some fb ∧ e.key = FragKey.ofHdr hdr ∧
    e.lastFrag = fragOf hdr
  buffer : fragOf hdr = 0 ∧ (w'.heap fb).parts = [] ∧ (w'.heap fb).skb.data = [] ∨
    ∃ n, fragOf hdr = n + 1 ∧
      Gathered (FragKey.ofHdr hdr) n true (w'.heap fb).parts (w'.heap fb).skb.data
  heap_b : w'.heap b = w.heap b
  msdus : w'.msdus = w.msdus

/-- A fragment that gets no buffer leaves the invariant. -/
theorem handling_get_none {env : RxEnv} {hdr : List UInt8} {w' : World P} (h : Handling w b)
    (hg : fragCacheGet env w hdr = (none, w')) : Handling w' b ∧ w'.msdus = w.msdus := by
  unfold fragCacheGet at hg
  dsimp only at hg
  by_cases hfrag : fragOf hdr = 0
  · rw [if_pos hfrag] at hg
    by_cases halloc : env.skbAlloc = true
    · rw [if_pos halloc] at hg
      cases hg
    · rw [if_neg halloc] at hg
      cases hg
      exact ⟨h, rfl⟩
  · rw [if_neg hfrag] at hg
    have hnone := congrArg Prod.fst hg
    have hw' := congrArg Prod.snd hg
    dsimp only at hnone hw'
    rw [← hw']
    refine ⟨⟨?_, ?_⟩, World.msdus_kfreeAll _ _⟩
    · have hsound := sound_find (.advance (fragOf hdr)) (fun _ => rfl) h.1 env.now hdr
        (some (fragOf hdr))
      unfold World.delivered fragCacheFind at *
      rw [World.msdus_kfreeAll]
      exact hsound
    · intro e he fb hfb
      rcases mem_findEntry _ he with hold | hclear | ⟨e₀, -, hf, hs, -, -⟩
      · exact h.2 e hold fb hfb
      · rw [hclear] at hfb
        cases hfb
      · rw [← hf, show (findEntry _ _ _ _ _ _).found = none from hnone] at hs
        cases hs

/-- A first fragment gets a new buffer. -/
theorem got_first {env : RxEnv} {hdr : List UInt8} (h : Handling w b) (hfrag : fragOf hdr = 0) :
    Got w b hdr w.nextBuf (({ w.setBuf w.nextBuf ⟨SkBuff.devAllocSkb (fragBufSize w.dev.mtu), []⟩ with
      dev := { w.dev with
        fragCache := w.dev.fragCache.getFirst env.now (FragKey.ofHdr hdr) w.nextBuf }
      nextBuf := w.nextBuf + 1 }).kfreeAll w.dev.fragCache.next.skb.toList) where
  sound := by
    have hperm := w.dev.fragCache.getFirst_perm env.now (FragKey.ofHdr hdr) w.nextBuf
    unfold World.delivered
    rw [World.msdus_kfreeAll]
    exact h.1.hold_next.drop hperm
  others := by
    intro e he fb' hfb' hne
    have hheap : Function.update w.heap w.nextBuf
        ⟨SkBuff.devAllocSkb (fragBufSize w.dev.mtu), []⟩ fb' = w.heap fb' := Function.update_of_ne hne _ _
    rcases FragCache.mem_getFirst he with hold | rfl
    · have hgath := h.2 e hold fb' hfb'
      rw [← hheap] at hgath
      exact hgath
    · cases hfb'
      exact absurd rfl hne
  entry := by
    have hlt : w.dev.fragCache.nextIdx.val < w.dev.fragCache.entries.length := by
      rw [w.dev.fragCache.length_eq]
      exact w.dev.fragCache.nextIdx.isLt
    exact ⟨_, List.mem_set hlt _, rfl, rfl, hfrag.symm⟩
  buffer := by
    have hheap : Function.update w.heap w.nextBuf
        ⟨SkBuff.devAllocSkb (fragBufSize w.dev.mtu), []⟩ w.nextBuf =
          ⟨SkBuff.devAllocSkb (fragBufSize w.dev.mtu), []⟩ := Function.update_self _ _ _
    refine Or.inl ⟨hfrag, ?_, ?_⟩
    · exact congrArg RxBuf.parts hheap
    · exact congrArg (fun buf => buf.skb.data) hheap
  heap_b := Function.update_of_ne h.lt.ne _ _
  msdus := World.msdus_kfreeAll _ _

/-- A later fragment gets the buffer of an entry that waits for it. -/
theorem got_later {env : RxEnv} {hdr : List UInt8} (h : Handling w b)
    (hfound : (fragCacheFind env.now w hdr (some (fragOf hdr)) (.advance (fragOf hdr))).1 = some fb) :
    Got w b hdr fb (fragCacheFind env.now w hdr (some (fragOf hdr)) (.advance (fragOf hdr))).2 where
  sound := by
    have hsound := sound_find (.advance (fragOf hdr)) (fun _ => rfl) h.1 env.now hdr
      (some (fragOf hdr))
    unfold World.delivered fragCacheFind at *
    rw [World.msdus_kfreeAll]
    exact hsound
  others := by
    intro e he fb' hfb' hne
    rcases mem_findEntry _ he with hold | hclear | ⟨e₀, -, hf, -, -, rfl⟩
    · exact h.2 e hold fb' hfb'
    · rw [hclear] at hfb'
      cases hfb'
    · have heq : some fb = e₀.skb := (show _ = some fb from hfound).symm.trans hf
      have hfb₀ : e₀.skb = some fb' := hfb'
      rw [hfb₀] at heq
      cases heq
      exact absurd rfl hne
  entry := by
    obtain ⟨e, -, hfb, hkey, -, hmem⟩ := findEntry_mem _ hfound
    exact ⟨_, hmem, hfb, hkey, rfl⟩
  buffer := by
    obtain ⟨e, he, hfb, hkey, hwait, -⟩ := findEntry_mem _ hfound
    simp only [FragEntry.waitsFor, Bool.and_eq_true, beq_iff_eq] at hwait
    have hgath := h.2 e he fb hfb
    rw [hkey] at hgath
    exact Or.inr ⟨e.lastFrag, hwait.2.symm, hgath⟩
  heap_b := rfl
  msdus := World.msdus_kfreeAll _ _

theorem got_of_get {env : RxEnv} {hdr : List UInt8} {w' : World P} (h : Handling w b)
    (hg : fragCacheGet env w hdr = (some fb, w')) : Got w b hdr fb w' := by
  unfold fragCacheGet at hg
  dsimp only at hg
  by_cases hfrag : fragOf hdr = 0
  · rw [if_pos hfrag] at hg
    by_cases halloc : env.skbAlloc = true
    · rw [if_pos halloc] at hg
      cases hg
      exact got_first h hfrag
    · rw [if_neg halloc] at hg
      cases hg
  · rw [if_neg hfrag] at hg
    have hfound := congrArg Prod.fst hg
    have hw' := congrArg Prod.snd hg
    dsimp only at hfound hw'
    rw [← hw']
    exact got_later h hfound

/-! ### A fragment in hand -/

/-- Buffer `b` holds a decrypted fragment, of which `last` tells. -/
structure Opened (w : World P) (b : BufId) (last : LastFrame) (p : RxPart) : Prop where
  parts : (w.heap b).parts = [p]
  data : (w.heap b).skb.data = p.opened
  intact : p.Intact
  fc : last.fc = frameCtl p.frame
  hdrlen : last.hdrlen = p.hdrlen
  frag : last.frag = fragOf p.frame

/-- A fragment can be traced: its decryption does not reach into the header, as
that of a control frame would; where its buffer is taken out of the cache, since
it is the last one or does not fit, no other buffer is found in its place; and
the header of fragment 0 is as long as that of the last one. -/
structure TraceableFragment (env : RxEnv) (w : World P) (b : BufId) (last : LastFrame) : Prop where
  header : dataHdr3Len ≤ last.hdrlen ∨ w.dev.opens last.fc = false
  own : ∀ fb ∈ (fragCacheGet env w (w.heap b).skb.data).1,
    let w' := (fragCacheGet env w (w.heap b).skb.data).2
    (moreFrags last.fc = false ∨ (w'.heap fb).skb.tailroom < (last.bytes (w.heap b).skb).length) →
      ∀ fb' ∈ (fragCacheFind env.later w' (w.heap b).skb.data none .clear).1, fb' = fb
  sameHdrlen : ∀ fb ∈ (fragCacheGet env w (w.heap b).skb.data).1, moreFrags last.fc = false →
    let w' := (fragCacheGet env w (w.heap b).skb.data).2
    getHdrlen (frameCtl ((w'.append fb b last).heap fb).skb.data) = last.hdrlen

instance (env : RxEnv) (w : World P) (b : BufId) (last : LastFrame) :
    Decidable (TraceableFragment env w b last) :=
  decidable_of_iff (_ ∧ _ ∧ _) ⟨fun ⟨h₁, h₂, h₃⟩ => ⟨h₁, h₂, h₃⟩, fun ⟨h₁, h₂, h₃⟩ => ⟨h₁, h₂, h₃⟩⟩

variable {env : RxEnv} {w' : World P} {last : LastFrame} {p : RxPart} {hdr : List UInt8}

theorem Opened.key_eq (ho : Opened w b last p) : FragKey.ofHdr (w.heap b).skb.data = p.msduKey ∧
    fragOf (w.heap b).skb.data = fragOf p.frame := by
  obtain ⟨hkey, hfrag, -⟩ := hdr_congr ho.intact.hdr
  rw [ho.data]
  exact ⟨hkey, hfrag⟩

/-- The buffer with one more fragment. -/
theorem gathered_append (hgot : Got w b (w.heap b).skb.data fb w') (ho : Opened w b last p) :
    Gathered p.msduKey (fragOf p.frame) (moreFrags (frameCtl p.frame))
      ((w'.append fb b last).heap fb).parts ((w'.append fb b last).heap fb).skb.data := by
  obtain ⟨hkey, hfrag⟩ := ho.key_eq
  have hbuffer := hgot.buffer
  rw [hkey, hfrag] at hbuffer
  rw [append_heap_self, hgot.heap_b, ho.parts]
  dsimp only [SkBuff.put_data]
  rcases hbuffer with ⟨hzero, hnil, hdata⟩ | ⟨n, hn, hgath⟩
  · have hbytes : last.bytes (w.heap b).skb = p.opened := by
      rw [LastFrame.bytes, ho.frag, if_pos hzero, ho.data]
    rw [hbytes, hnil, hdata, hzero]
    exact .first ho.intact hzero
  · have hbytes : last.bytes (w.heap b).skb = p.payload := by
      rw [LastFrame.bytes, ho.frag, if_neg (by omega), ho.data, ho.hdrlen]
      rfl
    rw [hbytes, hn]
    exact hgath.next ho.intact rfl hn

/-- The cache when a buffer was taken out of it. -/
theorem invalidated {used : List BufId} {now : UInt64} (hs : Ledger.Sound w.held used w.nextBuf)
    (hothers : GatheringBut fb w)
    (he : ∃ e ∈ w.dev.fragCache.entries, e.skb = some fb ∧ e.key = FragKey.ofHdr hdr)
    (hown : ∀ fb' ∈ (fragCacheFind now w hdr none .clear).1, fb' = fb) :
    Ledger.Sound (fragCacheInvalidate now w hdr).held used (fragCacheInvalidate now w hdr).nextBuf ∧
      Gathering (fragCacheInvalidate now w hdr) ∧ fb ∉ (fragCacheInvalidate now w hdr).held := by
  obtain ⟨e, he, hfb, hkey⟩ := he
  have hgone := not_held_invalidate (List.nodup_append.mp hs.nodup).1 he hfb hkey hown
  refine ⟨sound_invalidate hs now hdr, fun e' he' fb' hfb' => ?_, hgone⟩
  have hne : fb' ≠ fb := fun heq => hgone (heq ▸ mem_held_of he' hfb')
  rcases mem_findEntry _ he' with hold | hclear | ⟨e₀, -, -, -, -, rfl⟩
  · exact hothers e' hold fb' hfb' hne
  · rw [hclear] at hfb'
    cases hfb'
  · cases hfb'

theorem delivered_append : (w.append fb b last).delivered = w.delivered :=
  congrArg (List.map Prod.fst) (World.msdus_kfreeAll _ _)

theorem delivered_invalidate (now : UInt64) : (fragCacheInvalidate now w hdr).delivered = w.delivered :=
  congrArg (List.map Prod.fst) (World.msdus_kfreeAll _ _)

/-- What a fragment that can be traced comes to. -/
theorem append_reassembling (h : Handling w b) (ho : Opened w b last p)
    (hs : TraceableFragment env w b last) :
    match appendFragment env w b last with
    | .dropped w' => Handling w' b ∧ w'.msdus = w.msdus
    | .stored w' => Handling w' b ∧ w'.msdus = w.msdus
    | .complete fb w' => Handling w' fb ∧ w'.msdus = w.msdus ∧
        Gathered p.msduKey (fragOf p.frame) false (w'.heap fb).parts (w'.heap fb).skb.data ∧
        getHdrlen (frameCtl (w'.heap fb).skb.data) = last.hdrlen := by
  obtain ⟨hkey, hfrag⟩ := ho.key_eq
  cases hg : fragCacheGet env w (w.heap b).skb.data with
  | mk found w' =>
    cases found with
    | none =>
      rw [appendFragment_none hg]
      exact handling_get_none h hg
    | some fb =>
      obtain ⟨-, hown, hlen⟩ := hs
      rw [hg] at hown hlen
      have hown := hown fb rfl
      have hgot := got_of_get h hg
      obtain ⟨e, he, hfb, hek, hef⟩ := hgot.entry
      have hheld : fb ∈ w'.held := mem_held_of he hfb
      have hdelivered : w'.delivered = w.delivered := congrArg (List.map Prod.fst) hgot.msdus
      rcases Nat.lt_or_ge (w'.heap fb).skb.tailroom (last.bytes (w.heap b).skb).length with hlt | hle
      · -- it does not fit
        rw [appendFragment_overflow hg hlt]
        obtain ⟨hsound, hgath, -⟩ :=
          invalidated hgot.sound hgot.others ⟨e, he, hfb, hek⟩ (hown (Or.inr hlt))
        refine ⟨⟨?_, hgath⟩, (World.msdus_kfreeAll _ _).trans hgot.msdus⟩
        rw [delivered_invalidate]
        exact hsound
      have hmsdus : (w'.append fb b last).msdus = w.msdus :=
        (World.msdus_kfreeAll _ _).trans hgot.msdus
      have hgathered := gathered_append hgot ho
      have hsound : Ledger.Sound (w'.append fb b last).held ((w'.append fb b last).delivered ++ [b])
          (w'.append fb b last).nextBuf := by
        rw [delivered_append]
        exact hgot.sound
      have hothers : GatheringBut fb (w'.append fb b last) := by
        intro e' he' fb' hfb' hne
        rw [append_heap_ne hne]
        exact hgot.others e' he' fb' hfb' hne
      cases hmore : moreFrags last.fc with
      | true =>
        rw [appendFragment_stored hg hle hmore]
        refine ⟨⟨hsound, fun e' he' fb' hfb' => ?_⟩, hmsdus⟩
        by_cases hne : fb' = fb
        · subst hne
          have heq := eq_of_held (List.nodup_append.mp hgot.sound.nodup).1 he' he hfb' hfb
          rw [ho.fc] at hmore
          rw [hmore] at hgathered
          rw [heq, hek, hef, hkey, hfrag]
          exact hgathered
        · exact hothers e' he' fb' hfb' hne
      | false =>
        rw [appendFragment_complete hg hle hmore]
        have hmore' : moreFrags (frameCtl p.frame) = false := ho.fc ▸ hmore
        rw [hmore'] at hgathered
        obtain ⟨-, -, -, hdata, -⟩ := hgathered.header
        have hsame : FragKey.ofHdr ((w'.append fb b last).heap fb).skb.data =
            FragKey.ofHdr (w.heap b).skb.data := hdata.trans hkey.symm
        have hown' : ∀ fb' ∈ (fragCacheFind env.later (w'.append fb b last)
            ((w'.append fb b last).heap fb).skb.data none .clear).1, fb' = fb := by
          intro fb' hfb'
          refine hown (Or.inl hmore) fb' ?_
          unfold fragCacheFind at hfb' ⊢
          rw [hsame] at hfb'
          exact hfb'
        obtain ⟨hsound', hgath, hgone⟩ :=
          invalidated hsound hothers ⟨e, he, hfb, hek.trans hsame.symm⟩ hown'
        refine ⟨⟨?_, hgath⟩, (World.msdus_kfreeAll _ _).trans hmsdus, hgathered, hlen fb rfl hmore⟩
        rw [delivered_invalidate]
        exact hsound.forget.use_of_not_mem hsound'.forget hheld hgone

/-- The decryption leaves the header of a fragment that can be traced. -/
theorem opened_rxOpen (hmin : dataHdr3Len ≤ (w.heap b).skb.len)
    (hlen : getHdrlen (frameCtl (w.heap b).skb.data) ≤ (w.heap b).skb.len)
    (hkey : 0 ≤ (rxOpen w b).1.keyidx)
    (hhdr : dataHdr3Len ≤ (rxOpen w b).1.hdrlen ∨ w.dev.opens (rxOpen w b).1.fc = false) :
    Opened (rxOpen w b).2 b (rxOpen w b).1 (rxPart w b) := by
  have hheap : (rxOpen w b).2.heap b = ⟨openedSkb w b, [rxPart w b]⟩ := by
    rw [rxOpen_heap, Function.update_self]
  refine ⟨by rw [hheap], by rw [hheap]; rfl, ?_, rfl, rfl, rfl⟩
  cases hopens : w.dev.opens (frameCtl (w.heap b).skb.data) with
  | false =>
    have hsame : openedSkb w b = (w.heap b).skb := by
      rw [openedSkb, rxOpened, hopens]
      rfl
    have hdata : (rxPart w b).opened = (w.heap b).skb.data := congrArg SkBuff.data hsame
    refine ⟨?_, ?_, ?_⟩
    · rw [hdata]
      exact hmin
    · rw [hdata]
      exact hlen
    · rw [hdata]
      rfl
  | true =>
    have hmin' : dataHdr3Len ≤ getHdrlen (frameCtl (w.heap b).skb.data) := by
      rcases hhdr with hmin' | hno
      · exact hmin'
      · exact absurd (hopens.symm.trans hno) (by decide)
    have hsame : openedSkb w b = (rxFrameDecrypt w.dev (w.heap b).skb
        (decryptSlot w.dev (w.heap b).skb)).2.1 := by
      rw [openedSkb, rxOpened, hopens]
      rfl
    have hkey' : 0 ≤ (rxFrameDecrypt w.dev (w.heap b).skb
        (decryptSlot w.dev (w.heap b).skb)).1 := by
      rw [rxOpen_keyidx, rxOpened, hopens] at hkey
      exact hkey
    obtain ⟨hlen', htake⟩ := rxFrameDecrypt_hdr hkey' hlen
    rw [← hsame] at hlen' htake
    refine ⟨hmin'.trans hlen', hlen', ?_⟩
    have htake' := congrArg (List.take dataHdr3Len) htake
    rwa [List.take_take, List.take_take, min_eq_left hmin'] at htake'

theorem handling_rxOpen (h : Handling w b) : Handling (rxOpen w b).2 b := by
  rw [rxOpen_world]
  exact ⟨h.1, h.2.setBuf h.not_held _⟩

/-- The check of the MIC writes to the buffer in hand. -/
theorem handling_checked (h : Handling w b) : Handling (w.checked b last) b := by
  have hsame := checkMsdu_same w b last
  unfold World.checked
  dsimp only
  rw [hsame]
  exact ⟨h.1, h.2.setBuf h.not_held _⟩

/-- A buffer in hand may be forgotten. -/
theorem Handling.reassembling (h : Handling w b)
    (hm : ∀ m ∈ w.msdus, m.2.reassembled = true → WellAssembled m.2) : Reassembling w :=
  ⟨h.1.forget, h.2, hm⟩

/-- An MSDU that is accepted is delivered, and its buffer with it. -/
theorem deliver_reassembling {reassembled : Bool} (h : Handling w b)
    (hm : ∀ m ∈ w.msdus, m.2.reassembled = true → WellAssembled m.2)
    (hmsdu : reassembled = true → WellAssembled (msduOf w b last reassembled)) :
    Reassembling (deliver env w b last reassembled).2 := by
  have hchecked := @handling_checked P w b last h
  by_cases hacc : Accepts w b last
  · rw [deliver_accepts _ _ _ _ _ hacc]
    have hmsdus : (({ w.checked b last with
          dev := { (w.checked b last).dev with lastRxPsTime := env.later } }.setBuf b
        ⟨toEthernet (checkMsdu w b last).2.1 last.hdrlen last.dst last.src, (w.heap b).parts⟩).emit
          (.netifRx b (msduOf w b last reassembled))).msdus =
        w.msdus ++ [(b, msduOf w b last reassembled)] := List.filterMap_append
    refine ⟨?_, hchecked.2.setBuf hchecked.not_held _, ?_⟩
    · unfold World.delivered
      rw [hmsdus, List.map_append]
      exact hchecked.1
    · intro m hmem hre
      rw [hmsdus] at hmem
      rcases List.mem_append.mp hmem with hmem | hmem
      · exact hm m hmem hre
      · rw [List.mem_singleton.mp hmem] at hre ⊢
        exact hmsdu hre
  · rw [deliver_rejects _ _ _ _ _ hacc]
    exact hchecked.reassembling hm

/-- An admitted data frame. -/
theorem rxData_reassembling (h : Handling w b)
    (hm : ∀ m ∈ w.msdus, m.2.reassembled = true → WellAssembled m.2)
    (hmin : dataHdr3Len ≤ (w.heap b).skb.len)
    (hlen : getHdrlen (frameCtl (w.heap b).skb.data) ≤ (w.heap b).skb.len)
    (hs : 0 ≤ (rxOpen w b).1.keyidx → isFragment (w.heap b).skb.data = true →
      TraceableFragment env (rxOpen w b).2 b (rxOpen w b).1) :
    Reassembling (rxData env w b).2 := by
  have hopen := handling_rxOpen h
  have hm' : ∀ m ∈ (rxOpen w b).2.msdus, m.2.reassembled = true → WellAssembled m.2 := hm
  rcases rxData_cases env w b with ⟨-, hr⟩ | ⟨-, -, hr⟩ | ⟨hkey, hfrag, hr⟩
  · rw [hr]
    exact hopen.reassembling hm'
  · rw [hr]
    exact deliver_reassembling hopen hm' nofun
  · rw [hr]
    have htrace := hs hkey hfrag
    have hopened := opened_rxOpen hmin hlen hkey (by
      have hheader := htrace.header
      rw [rxOpen_dev] at hheader
      exact hheader)
    have happ := append_reassembling hopen hopened htrace
    cases ha : appendFragment env (rxOpen w b).2 b (rxOpen w b).1 with
    | dropped w' =>
      rw [ha] at happ
      exact happ.1.reassembling (happ.2 ▸ hm')
    | stored w' =>
      rw [ha] at happ
      exact happ.1.reassembling (happ.2 ▸ hm')
    | complete fb w' =>
      rw [ha] at happ
      obtain ⟨hhand, hmsdus, hgath, hhdrlen⟩ := happ
      refine deliver_reassembling hhand (hmsdus ▸ hm') fun _ => ?_
      exact ⟨⟨_, _, hgath⟩, hgath.drop_hdrlen hhdrlen, checkMsdu_prefix w' fb _,
        ⟨_, _, _, rfl, rfl⟩⟩

theorem Reassembling.same (h : Reassembling w) (hw : SameBuffers w' w) : Reassembling w' := by
  have hmsdus : w'.msdus = w.msdus := by
    unfold World.msdus
    rw [hw.log]
  refine ⟨?_, ?_, hmsdus ▸ h.msdus⟩
  · unfold World.held World.delivered
    rw [hw.fragCache, hw.nextBuf, hmsdus]
    exact h.sound
  · unfold Gathering
    rw [hw.fragCache, hw.heap]
    exact h.gathering

theorem Reassembling.kfreeAll (h : Reassembling w) (bs : List BufId) : Reassembling (w.kfreeAll bs) := by
  refine ⟨?_, h.gathering, ?_⟩
  · unfold World.delivered
    rw [World.msdus_kfreeAll]
    exact h.sound
  · rw [World.msdus_kfreeAll]
    exact h.msdus

/-- A call of `ieee80211_rx`. -/
theorem rx_reassembling (mgt : RxMgt P) {skb : SkBuff} (h : Reassembling w)
    (hs : AtFragment TraceableFragment w (.frame env skb)) :
    Reassembling (rx mgt env (w.arrive skb) w.nextBuf).2 := by
  have harrive := handling_arrive h.sound h.gathering skb
  have hidle : Reassembling (w.arrive skb) := harrive.reassembling h.msdus
  rcases rx_cases mgt env (w.arrive skb) w.nextBuf with
    ⟨d, hd, hr⟩ | hr | ⟨d, hd, hr⟩ | ⟨d, ha, hr⟩
  · rw [hr]
    exact hidle.same (sameBuffers_setDev _ hd)
  · rw [hr]
    have hmsdus : ((w.arrive skb).emit (.monitor w.nextBuf)).msdus = w.msdus :=
      List.filterMap_append.trans (List.append_nil _)
    refine ⟨?_, hidle.gathering, hmsdus ▸ h.msdus⟩
    unfold World.delivered
    rw [hmsdus]
    exact hidle.sound
  · rw [hr]
    exact (hidle.same (sameBuffers_setDev _ hd)).kfreeAll _
  · rw [hr]
    rw [arrive_buf] at ha
    have hcache := rxAdmit_fragCache env w.dev skb
    have hadmit : AtAdmitted TraceableFragment env w skb (rxAdmit env w.dev skb) := hs
    rw [show rxAdmit env w.dev skb = .data d from ha] at hcache hadmit
    have hhand : Handling { w.arrive skb with dev := d } w.nextBuf := by
      refine ⟨?_, ?_⟩
      · unfold World.held
        dsimp only
        rw [hcache]
        exact harrive.1
      · unfold Gathering
        dsimp only
        rw [hcache]
        exact harrive.2
    refine rxData_reassembling hhand h.msdus ?_ ?_ ?_
    all_goals
      dsimp only
      rw [arrive_buf]
    · exact (rxAdmit_data ha).2.1
    · exact hdrlen_le_len ha
    · exact hadmit

end

theorem step_reassembling (mgt : RxMgt P) {w : World P} {i : RxInput P} (h : Reassembling w)
    (hs : AtFragment TraceableFragment w i) : Reassembling (w.step mgt i) := by
  cases i with
  | frame env skb =>
    have hrx := rx_reassembling mgt h hs
    unfold World.step receive
    dsimp only
    by_cases hret : (rx mgt env (w.arrive skb) w.nextBuf).1 = 0
    · rw [if_pos hret]
      exact hrx.kfreeAll _
    · rw [if_neg hret]
      exact hrx
  | setKey idx crypt => exact h.same (step_sameBuffers mgt w nofun)
  | disassociate => exact h.same (step_sameBuffers mgt w nofun)
  | other act => exact h.same (step_sameBuffers mgt w nofun)

/-- What came through the fragment path was well assembled, and no buffer that
was delivered is held by the cache. -/
def SafelyReassembled (w : World P) : Prop :=
  (∀ m ∈ w.msdus, m.2.reassembled = true → WellAssembled m.2) ∧ ∀ b ∈ w.delivered, b ∉ w.held

/-- **Reassembly is safe**, in every run whose fragments can be traced. -/
theorem run_safelyReassembled (mgt : RxMgt P) (w : World P) (is : List (RxInput P))
    (h : Reassembling w) (hs : Run.AllSteps (World.step mgt) (AtFragment TraceableFragment) w is) :
    SafelyReassembled (Run.run (World.step mgt) w is) := by
  have hrun := Run.inv_run (fun _ _ => step_reassembling mgt) w is h hs
  exact ⟨hrun.msdus, fun b hb hheld => hrun.sound.not_mem_used hheld hb⟩

/-- Nothing is held at the start. -/
theorem reassembling_start {d : Device P} (h : Rtl8187.held d.fragCache.entries = []) :
    Reassembling (World.start d) := by
  refine ⟨?_, fun e he fb hfb => ?_, nofun⟩
  · unfold World.held World.start
    rw [h]
    exact ⟨List.nodup_nil, nofun⟩
  · have hmem : fb ∈ Rtl8187.held d.fragCache.entries := mem_held.mpr ⟨e, he, hfb⟩
    rw [h] at hmem
    cases hmem

section

private abbrev me : Mac := ⟨2, 0, 0, 0, 0, 1⟩
private abbrev sender : Mac := ⟨0, 0, 0, 0, 0, 0⟩
private abbrev instant : RxEnv := ⟨⟨1000, true, fun _ => false, sender⟩, 1001, true⟩
private abbrev fragment (flags sc : UInt16) (body : List UInt8) : RxInput Unit :=
  .frame instant (apFrame flags sc sender me body)

/-- An MSDU of three fragments. -/
theorem threeFragments_safelyReassembled :
    SafelyReassembled (Run.run (World.step fun _ _ => .idle Unit)
      (World.start (Device.init Unit ⟨250, true⟩ me))
      [fragment fctlMorefrags 0x10 [1, 2, 3, 4], fragment fctlMorefrags 0x11 [5, 6],
        fragment 0 0x12 [7]]) :=
  run_safelyReassembled (fun _ _ => .idle Unit) _ _ (reassembling_start rfl) (by
    refine ⟨?_, ?_, ?_, trivial⟩
    · decide +kernel
    · decide +kernel
    · decide +kernel)

/-- The first fragment comes again when the second was stored, and then the
last one: the MSDU is that of the second entry, and the first is invalidated. -/
theorem delivered_buffer_held : ¬ ∀ (mgt : RxMgt Unit) (w : World Unit) (is : List (RxInput Unit)),
    Reassembling w → SafelyReassembled (Run.run (World.step mgt) w is) := by
  intro h
  have hsafe := h (fun _ _ => .idle Unit) (World.start (Device.init Unit ⟨250, true⟩ me))
    [fragment fctlMorefrags 0x10 [1], fragment fctlMorefrags 0x11 [2], fragment 0 0x20 [3],
      fragment fctlMorefrags 0x10 [1], fragment 0 0x11 [2]] (reassembling_start rfl)
  exact hsafe.2 5 (by decide +kernel) (by decide +kernel)

end

end Rtl8187

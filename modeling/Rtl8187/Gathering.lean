/-
# One MSDU in the fragment cache

What the fragment path of `ieee80211_rx` does with the fragments of one MSDU
that no other entry of the cache gathers: a first fragment takes an entry and a
buffer, a later one is appended if the entry has not expired, waits for it and
has room, and is dropped otherwise. The last one takes the buffer out.

Key definitions: `FromCache`, `Gathers`, `FitsBuffer`.
Key theorems: `appendFragment_first`, `appendFragment_next`, `appendFragment_stray`.
-/
import Rtl8187.RxSteps

namespace Rtl8187

open Bytes

variable {P : Type}

/-- Only the fragment cache and the buffers changed. -/
structure FromCache (w' w : World P) : Prop where
  dev : w'.dev = { w.dev with fragCache := w'.dev.fragCache }
  msdus : w'.msdus = w.msdus
  nextBuf : w.nextBuf ≤ w'.nextBuf

/-- The MSDU `key`, whose first fragment came at `t`, is gathered in buffer `fb`
as far as fragment `i`. -/
structure Gathers (key : FragKey) (fb : BufId) (t : UInt64) (i : ℕ) (w : World P) : Prop where
  entry : HeldBy key w.dev.fragCache.entries ⟨t, key.seq, i, some fb, key.src, key.dst⟩
  lt : fb < w.nextBuf

/-- A fragment of so many bytes comes in time, is the next one, and has room. -/
def FitsBuffer (env : RxEnv) (w : World P) (fb : BufId) (t : UInt64) (i : ℕ) (hdr bytes : List UInt8) : Prop :=
  timeAfter env.now (t + 2 * w.dev.kernel.hz) = false ∧ fragOf hdr = i + 1 ∧
    bytes.length ≤ (w.heap fb).skb.tailroom

section

variable {env : RxEnv} {w w' w'' : World P} {b fb : BufId} {last : LastFrame} {key : FragKey} {t : UInt64} {i : ℕ}

/-- What does not read the cache is as before. -/
theorem FromCache.view {α : Type*} (h : FromCache w' w) (f : Device P → α)
    (hf : ∀ cache, f { w.dev with fragCache := cache } = f w.dev) : f w'.dev = f w.dev := (congrArg f h.dev).trans (hf _)

theorem FromCache.refl (w : World P) : FromCache w w := ⟨rfl, rfl, le_rfl⟩

theorem FromCache.trans (h : FromCache w'' w') (h' : FromCache w' w) : FromCache w'' w where
  dev := by
    have hdev := h.dev
    rw [h'.dev] at hdev
    exact hdev
  msdus := h.msdus.trans h'.msdus
  nextBuf := h'.nextBuf.trans h.nextBuf

theorem fromCache_find (now : UInt64) (w : World P) (hdr : List UInt8) (frag : Option ℕ) (upd : FragEntry → FragEntry) :
    FromCache (fragCacheFind now w hdr frag upd).2 w :=
  ⟨rfl, World.msdus_kfreeAll _ _, le_rfl⟩

theorem fromCache_append (w : World P) (fb b : BufId) (last : LastFrame) : FromCache (w.append fb b last) w :=
  ⟨rfl, World.msdus_kfreeAll _ _, le_rfl⟩

/-- What is left when the lookup without a number is done. -/
theorem unheld_invalidate (h : Unheld key w.dev.fragCache.entries ∨ Gathers key fb t i w) {hdr : List UInt8}
    (hkey : FragKey.ofHdr hdr = key) (now : UInt64) :
    Unheld key (fragCacheInvalidate now w hdr).dev.fragCache.entries := by
  subst hkey
  rcases h with hun | hheld
  · exact (findEntry_unheld hun).2
  · have hfind := @findEntry_heldBy now w.dev.kernel.hz _ none FragEntry.clear _ _ fb hheld.entry rfl fun _ => rfl
    dsimp only at hfind
    split_ifs at hfind with hexp hwait
    · exact hfind.2
    · obtain ⟨-, -, before, after, hentries, hbefore, hafter⟩ := hfind
      change Unheld _ (findEntry now w.dev.kernel.hz _ none FragEntry.clear w.dev.fragCache.entries).entries
      rw [hentries]
      refine hbefore.append fun e he => ?_
      rcases List.mem_cons.mp he with rfl | hmem
      · exact fun hsome => absurd hsome (by simp [FragEntry.clear])
      · exact hafter e hmem
    · exact absurd hwait (by simp [FragEntry.waitsFor, FragEntry.key])

/-- **A first fragment** of an MSDU that no entry gathers. -/
theorem appendFragment_first (hun : Unheld key w.dev.fragCache.entries)
    (hkey : FragKey.ofHdr (w.heap b).skb.data = key) (hfrag : fragOf (w.heap b).skb.data = 0)
    (hb : b < w.nextBuf) (hmore : moreFrags last.fc = true) :
    (env.skbAlloc = true ∧
        (last.bytes (w.heap b).skb).length ≤ (SkBuff.devAllocSkb (fragBufSize w.dev.mtu)).tailroom ∧
        ∃ w', appendFragment env w b last = .stored w' ∧ FromCache w' w ∧ Gathers key w.nextBuf env.now 0 w' ∧
          (w'.heap w.nextBuf).skb =
            (SkBuff.devAllocSkb (fragBufSize w.dev.mtu)).put (last.bytes (w.heap b).skb)) ∨
      (¬ (env.skbAlloc = true ∧
          (last.bytes (w.heap b).skb).length ≤ (SkBuff.devAllocSkb (fragBufSize w.dev.mtu)).tailroom) ∧
        ∃ w', appendFragment env w b last = .dropped w' ∧ FromCache w' w ∧
          Unheld key w'.dev.fragCache.entries) := by
  by_cases halloc : env.skbAlloc = true
  · set w₁ : World P := ({ w.setBuf w.nextBuf ⟨SkBuff.devAllocSkb (fragBufSize w.dev.mtu), []⟩ with
      dev := { w.dev with fragCache := w.dev.fragCache.getFirst env.now key w.nextBuf }
      nextBuf := w.nextBuf + 1 }).kfreeAll w.dev.fragCache.next.skb.toList with hw₁
    have hget : fragCacheGet env w (w.heap b).skb.data = (some w.nextBuf, w₁) := by
      unfold fragCacheGet
      dsimp only
      rw [if_pos hfrag, if_pos halloc, hkey]
      rfl
    have hfrom : FromCache w₁ w := ⟨rfl, World.msdus_kfreeAll _ _, Nat.le_succ _⟩
    have hheap : w₁.heap w.nextBuf = ⟨SkBuff.devAllocSkb (fragBufSize w.dev.mtu), []⟩ := Function.update_self ..
    have hbuf : (w₁.heap w.nextBuf).skb = SkBuff.devAllocSkb (fragBufSize w.dev.mtu) := congrArg RxBuf.skb hheap
    have hgathers : Gathers key w.nextBuf env.now 0 w₁ :=
      ⟨FragCache.heldBy_getFirst hun env.now w.nextBuf, Nat.lt_succ_self _⟩
    by_cases hroom : (last.bytes (w.heap b).skb).length ≤ (SkBuff.devAllocSkb (fragBufSize w.dev.mtu)).tailroom
    · refine Or.inl ⟨halloc, hroom, w₁.append w.nextBuf b last, ?_, (fromCache_append _ _ _ _).trans hfrom,
        ⟨hgathers.entry, hgathers.lt⟩, ?_⟩
      · exact appendFragment_stored hget (by rw [hbuf]; exact hroom) hmore
      · have hsame : w₁.heap b = w.heap b := Function.update_of_ne hb.ne _ _
        rw [append_heap_self, hbuf, hsame]
    · refine Or.inr ⟨fun h => hroom h.2, _, ?_, (fromCache_find _ _ _ _ _).trans hfrom,
        unheld_invalidate (Or.inr hgathers) hkey env.later⟩
      exact appendFragment_overflow hget (by rw [hbuf]; exact not_le.mp hroom)
  · refine Or.inr ⟨fun h => halloc h.1, w, appendFragment_none ?_, .refl w, hun⟩
    unfold fragCacheGet
    dsimp only
    rw [if_pos hfrag, if_neg halloc]

/-- **A later fragment**: appended if it fits, and dropped otherwise. -/
theorem appendFragment_next (h : Gathers key fb t i w) (hkey : FragKey.ofHdr (w.heap b).skb.data = key)
    (hfrag : fragOf (w.heap b).skb.data ≠ 0)
    (hkept : ∀ bytes, FragKey.ofHdr ((w.heap fb).skb.data ++ bytes) = key) :
    (FitsBuffer env w fb t i (w.heap b).skb.data (last.bytes (w.heap b).skb) ∧
        ∃ w', FromCache w' w ∧ (w'.heap fb).skb = (w.heap fb).skb.put (last.bytes (w.heap b).skb) ∧
          if moreFrags last.fc then appendFragment env w b last = .stored w' ∧ Gathers key fb t (i + 1) w'
          else appendFragment env w b last = .complete fb w' ∧ Unheld key w'.dev.fragCache.entries) ∨
      (¬ FitsBuffer env w fb t i (w.heap b).skb.data (last.bytes (w.heap b).skb) ∧
        ∃ w', appendFragment env w b last = .dropped w' ∧ FromCache w' w ∧ w'.heap = w.heap ∧
          (Unheld key w'.dev.fragCache.entries ∨ Gathers key fb t i w')) := by
  set k := fragOf (w.heap b).skb.data with hk
  have hfind := @findEntry_heldBy env.now w.dev.kernel.hz key (some k) (FragEntry.advance k) _ _ fb h.entry rfl
    fun _ => rfl
  set w₁ := (fragCacheFind env.now w (w.heap b).skb.data (some k) (.advance k)).2 with hw₁
  have hfrom : FromCache w₁ w := fromCache_find _ _ _ _ _
  have hget : fragCacheGet env w (w.heap b).skb.data =
      ((findEntry env.now w.dev.kernel.hz key (some k) (.advance k) w.dev.fragCache.entries).found, w₁) := by
    unfold fragCacheGet
    dsimp only
    rw [if_neg hfrag, ← hkey]
    rfl
  have hentries : w₁.dev.fragCache.entries =
      (findEntry env.now w.dev.kernel.hz key (some k) (.advance k) w.dev.fragCache.entries).entries := by
    rw [← hkey]
    rfl
  dsimp only at hfind
  rw [← hentries] at hfind
  split_ifs at hfind with hexp hwait
  · -- expired
    obtain ⟨hnone, hun⟩ := hfind
    rw [hnone] at hget
    refine Or.inr ⟨?_, w₁, appendFragment_none hget, hfrom, rfl, Or.inl hun⟩
    rintro ⟨htime, -⟩
    have hlate : timeAfter env.now (t + 2 * w.dev.kernel.hz) = true := hexp
    rw [htime] at hlate
    cases hlate
  · -- found
    obtain ⟨hfound, hheld⟩ := hfind
    rw [hfound] at hget
    have hnext : i + 1 = k := by
      simp only [FragEntry.waitsFor, Bool.and_eq_true, beq_iff_eq] at hwait
      exact hwait.2
    have hgathers : Gathers key fb t (i + 1) w₁ := by
      refine ⟨?_, h.lt⟩
      rw [hnext]
      exact hheld
    have htime : timeAfter env.now (t + 2 * w.dev.kernel.hz) = false := Bool.eq_false_iff.mpr hexp
    by_cases hroom : (last.bytes (w.heap b).skb).length ≤ (w.heap fb).skb.tailroom
    · refine Or.inl ⟨⟨htime, hnext.symm, hroom⟩, ?_⟩
      have hfromA : FromCache (w₁.append fb b last) w := (fromCache_append _ _ _ _).trans hfrom
      have hbuf : ((w₁.append fb b last).heap fb).skb = (w.heap fb).skb.put (last.bytes (w.heap b).skb) :=
        congrArg RxBuf.skb append_heap_self
      cases hmore : moreFrags last.fc with
      | true => exact ⟨_, hfromA, hbuf, appendFragment_stored hget hroom hmore, hgathers.entry, hgathers.lt⟩
      | false =>
        refine ⟨_, (fromCache_find _ _ _ _ _).trans hfromA, hbuf, appendFragment_complete hget hroom hmore, ?_⟩
        refine @unheld_invalidate P (w₁.append fb b last) fb key t (i + 1)
          (Or.inr ⟨hgathers.entry, hgathers.lt⟩) _ ?_ env.later
        rw [hbuf]
        exact hkept _
    · refine Or.inr ⟨fun hfits => hroom hfits.2.2, _, appendFragment_overflow hget (not_le.mp hroom),
        (fromCache_find _ _ _ _ _).trans hfrom, rfl, Or.inl ?_⟩
      exact unheld_invalidate (Or.inr hgathers) hkey env.later
  · -- another number is due
    obtain ⟨hnone, hheld⟩ := hfind
    rw [hnone] at hget
    refine Or.inr ⟨?_, w₁, appendFragment_none hget, hfrom, rfl, Or.inr ⟨hheld, h.lt⟩⟩
    rintro ⟨-, hnext, -⟩
    have hdue : i + 1 = k := hnext.symm
    apply hwait
    simp [FragEntry.waitsFor, FragEntry.key, hdue]

/-- A later fragment of an MSDU that no entry gathers is dropped. -/
theorem appendFragment_stray (hun : Unheld key w.dev.fragCache.entries)
    (hkey : FragKey.ofHdr (w.heap b).skb.data = key) (hfrag : fragOf (w.heap b).skb.data ≠ 0) :
    ∃ w', appendFragment env w b last = .dropped w' ∧ FromCache w' w ∧ w'.heap = w.heap ∧
      Unheld key w'.dev.fragCache.entries := by
  subst hkey
  obtain ⟨hnone, hrest⟩ := @findEntry_unheld env.now w.dev.kernel.hz _ (some (fragOf (w.heap b).skb.data))
    (.advance (fragOf (w.heap b).skb.data)) _ hun
  refine ⟨_, appendFragment_none ?_, fromCache_find env.now w _ _ _, rfl, hrest⟩
  unfold fragCacheGet
  dsimp only
  rw [if_neg hfrag]
  exact Prod.ext hnone rfl

end

end Rtl8187

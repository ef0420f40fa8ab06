/-
# The fragment cache

`ieee80211_frag_cache_find`, `_get` and `_invalidate` (`ieee80211_rx.c`) on the
four entries. What `find` does to the entry it returns depends on its caller,
so it takes that change as an argument; the buffers it frees on its way come
out as a list.

Key definitions: `FragKey`, `findEntry`, `FragCache.find`, `FragCache.getFirst`, `held`, `HeldBy`.
Key theorems: `findEntry_perm`, `findEntry_mem`, `findEntry_heldBy`, `getFirst_perm`.
-/
import Rtl8187.Device
import Rtl8187.Lib.Ledger

namespace Rtl8187

open Bytes

/-- What the cache knows an MSDU by: `seq`, `src`, `dst`. -/
structure FragKey where
  seq : UInt16
  src : Mac
  dst : Mac

instance : DecidableEq FragKey := fun k k' =>
  decidable_of_iff (k.seq = k'.seq ∧ k.src = k'.src ∧ k.dst = k'.dst) (by cases k; cases k'; simp)

/-- That of a header: its sequence number, transmitter and receiver. -/
def FragKey.ofHdr (d : List UInt8) : FragKey := ⟨seqSeq (seqCtl d), addr2 d, addr1 d⟩

/-- The fragment number of a header. -/
def fragOf (d : List UInt8) : ℕ := (seqFrag (seqCtl d)).toNat

namespace FragEntry

def key (e : FragEntry) : FragKey := ⟨e.seq, e.srcAddr, e.dstAddr⟩

/-- The entry has waited for more than two seconds. -/
def expired (now hz : UInt64) (e : FragEntry) : Bool :=
  e.skb.isSome && timeAfter now (e.firstFragTime + 2 * hz)

/-- The entry waits for fragment `frag` of this MSDU, or `frag` is -1. -/
def waitsFor (key : FragKey) (frag : Option ℕ) (e : FragEntry) : Bool :=
  e.skb.isSome && e.key == key && (match frag with
    | some k => e.lastFrag + 1 == k
    | none => true)

/-- `entry->skb = NULL` -/
def clear (e : FragEntry) : FragEntry := { e with skb := none }

/-- `entry->last_frag = frag` -/
def advance (frag : ℕ) (e : FragEntry) : FragEntry := { e with lastFrag := frag }

end FragEntry

/-- What `ieee80211_frag_cache_find` leaves: the entries, the buffers freed, and
the buffer of the entry found. -/
structure Found where
  entries : List FragEntry
  freed : List BufId
  found : Option BufId

/-- The loop of `ieee80211_frag_cache_find`, with what the caller does to the
entry it returns. -/
def findEntry (now hz : UInt64) (key : FragKey) (frag : Option ℕ) (upd : FragEntry → FragEntry) :
    List FragEntry → Found
  | [] => ⟨[], [], none⟩
  | e :: es =>
    if e.expired now hz then
      let r := findEntry now hz key frag upd es
      ⟨e.clear :: r.entries, e.skb.toList ++ r.freed, r.found⟩
    else if e.waitsFor key frag then ⟨upd e :: es, [], e.skb⟩
    else
      let r := findEntry now hz key frag upd es
      ⟨e :: r.entries, r.freed, r.found⟩

/-- The buffers the entries hold. -/
def held (es : List FragEntry) : List BufId := es.filterMap (·.skb)

section

variable {now hz : UInt64} {key : FragKey} {frag : Option ℕ} {upd : FragEntry → FragEntry}

theorem length_findEntry : ∀ es, (findEntry now hz key frag upd es).entries.length = es.length
  | [] => rfl
  | e :: es => by
    have ih := length_findEntry es
    unfold findEntry
    split_ifs <;> simp [ih]

/-- The entry found, if any, and what became of each. -/
theorem findEntry_mem : ∀ (es : List FragEntry) {b : BufId},
    (findEntry now hz key frag upd es).found = some b →
    ∃ e ∈ es, e.skb = some b ∧ e.key = key ∧ e.waitsFor key frag = true ∧
      upd e ∈ (findEntry now hz key frag upd es).entries
  | [], b, h => by cases h
  | e :: es, b, h => by
    have ih := @findEntry_mem es b
    unfold findEntry at h ⊢
    split_ifs at h ⊢ with hexp hwait
    · obtain ⟨e', he', hb, hk, hw, hu⟩ := ih h
      exact ⟨e', List.mem_cons_of_mem _ he', hb, hk, hw, List.mem_cons_of_mem _ hu⟩
    · have hkey : e.key = key := by
        simp only [FragEntry.waitsFor, Bool.and_eq_true, beq_iff_eq] at hwait
        exact hwait.1.2
      exact ⟨e, List.mem_cons_self, h, hkey, hwait, List.mem_cons_self⟩
    · obtain ⟨e', he', hb, hk, hw, hu⟩ := ih h
      exact ⟨e', List.mem_cons_of_mem _ he', hb, hk, hw, List.mem_cons_of_mem _ hu⟩

/-- An entry afterwards is one of before, or holds no buffer, or is the one found. -/
theorem mem_findEntry : ∀ (es : List FragEntry) {e' : FragEntry},
    e' ∈ (findEntry now hz key frag upd es).entries →
    e' ∈ es ∨ e'.skb = none ∨
      ∃ e ∈ es, (findEntry now hz key frag upd es).found = e.skb ∧ e.skb.isSome = true ∧
        e.waitsFor key frag = true ∧ e' = upd e
  | [], _, h => by cases h
  | e :: es, e', h => by
    have ih := @mem_findEntry es e'
    unfold findEntry at h ⊢
    split_ifs at h ⊢ with hexp hwait
    · rcases List.mem_cons.mp h with rfl | h
      · exact Or.inr (Or.inl rfl)
      · rcases ih h with hold | hnone | ⟨e₀, he₀, hf, hs, hw, hu⟩
        · exact Or.inl (List.mem_cons_of_mem _ hold)
        · exact Or.inr (Or.inl hnone)
        · exact Or.inr (Or.inr ⟨e₀, List.mem_cons_of_mem _ he₀, hf, hs, hw, hu⟩)
    · rcases List.mem_cons.mp h with rfl | h
      · have hsome : e.skb.isSome = true := by
          simp only [FragEntry.waitsFor, Bool.and_eq_true] at hwait
          exact hwait.1.1
        exact Or.inr (Or.inr ⟨e, List.mem_cons_self, rfl, hsome, hwait, rfl⟩)
      · exact Or.inl (List.mem_cons_of_mem _ h)
    · rcases List.mem_cons.mp h with rfl | h
      · exact Or.inl List.mem_cons_self
      · rcases ih h with hold | hnone | ⟨e₀, he₀, hf, hs, hw, hu⟩
        · exact Or.inl (List.mem_cons_of_mem _ hold)
        · exact Or.inr (Or.inl hnone)
        · exact Or.inr (Or.inr ⟨e₀, List.mem_cons_of_mem _ he₀, hf, hs, hw, hu⟩)

/-- When nothing is found, no entry that holds a buffer matches. -/
theorem findEntry_none : ∀ (es : List FragEntry),
    (findEntry now hz key frag upd es).found = none →
    ∀ e ∈ (findEntry now hz key frag upd es).entries, e.waitsFor key frag = false
  | [], _, e, he => by cases he
  | e₀ :: es, h, e, he => by
    have ih := findEntry_none es
    unfold findEntry at h he
    split_ifs at h he with hexp hwait
    · rcases List.mem_cons.mp he with rfl | he
      · rfl
      · exact ih h e he
    · have hsome : e₀.skb.isSome = true := by
        simp only [FragEntry.waitsFor, Bool.and_eq_true] at hwait
        exact hwait.1.1
      dsimp only at h
      rw [h] at hsome
      cases hsome
    · rcases List.mem_cons.mp he with rfl | he
      · exact Bool.eq_false_iff.mpr hwait
      · exact ih h e he

theorem held_cons (e : FragEntry) (es : List FragEntry) : held (e :: es) = e.skb.toList ++ held es := by
  unfold held
  cases h : e.skb with
  | none => simp [h]
  | some b => simp [h]

theorem mem_held {es : List FragEntry} {b : BufId} : b ∈ held es ↔ ∃ e ∈ es, e.skb = some b :=
  List.mem_filterMap

/-- No two entries hold the same buffer. -/
theorem eq_of_held : ∀ {es : List FragEntry} {b : BufId} {e e' : FragEntry}, (held es).Nodup →
    e ∈ es → e' ∈ es → e.skb = some b → e'.skb = some b → e = e'
  | [], _, _, _, _, he, _, _, _ => by cases he
  | e₀ :: es, b, e, e', hn, he, he', hb, hb' => by
    rw [held_cons] at hn
    obtain ⟨-, hn', hdisj⟩ := List.nodup_append.mp hn
    rcases List.mem_cons.mp he with rfl | hmem
    · rcases List.mem_cons.mp he' with rfl | hmem'
      · rfl
      · have hin : b ∈ e.skb.toList := by simp [hb]
        exact absurd rfl (hdisj b hin b (mem_held.mpr ⟨e', hmem', hb'⟩))
    · rcases List.mem_cons.mp he' with rfl | hmem'
      · have hin : b ∈ e'.skb.toList := by simp [hb']
        exact absurd rfl (hdisj b hin b (mem_held.mpr ⟨e, hmem, hb⟩))
      · exact eq_of_held hn' hmem hmem' hb hb'

/-- Whoever keeps the buffer of the entry found loses only the freed ones. -/
theorem findEntry_perm (hupd : ∀ e, (upd e).skb = e.skb) : ∀ es : List FragEntry,
    (held es).Perm
      ((findEntry now hz key frag upd es).freed ++ held (findEntry now hz key frag upd es).entries)
  | [] => List.Perm.refl _
  | e :: es => by
    have ih := findEntry_perm hupd es
    unfold findEntry
    split_ifs with hexp hwait
    · rw [held_cons, held_cons, FragEntry.clear, List.append_assoc]
      exact ih.append_left _
    · rw [held_cons, held_cons, hupd]
      exact List.Perm.refl _
    · rw [held_cons, held_cons]
      calc (e.skb.toList ++ held es).Perm (e.skb.toList ++ (_ ++ held _)) := ih.append_left _
        List.Perm _ _ := by
          rw [← List.append_assoc, ← List.append_assoc]
          exact List.perm_append_comm.append_right _

/-- Whoever clears the entry found takes its buffer out of the cache. -/
theorem findEntry_clear_perm : ∀ es : List FragEntry,
    (held es).Perm
      ((findEntry now hz key frag .clear es).freed ++
        ((findEntry now hz key frag .clear es).found.toList ++
          held (findEntry now hz key frag .clear es).entries))
  | [] => List.Perm.refl _
  | e :: es => by
    have ih := findEntry_clear_perm es
    unfold findEntry
    split_ifs with hexp hwait
    · rw [held_cons, held_cons, FragEntry.clear, List.append_assoc]
      exact ih.append_left _
    · rw [held_cons, held_cons, FragEntry.clear]
      exact List.Perm.refl _
    · rw [held_cons, held_cons]
      refine (ih.append_left _).trans ?_
      dsimp only
      generalize (findEntry now hz key frag .clear es).found.toList = f
      generalize (findEntry now hz key frag .clear es).freed = r
      generalize held (findEntry now hz key frag .clear es).entries = h
      calc (e.skb.toList ++ (r ++ (f ++ h))).Perm ((r ++ (f ++ h)) ++ e.skb.toList) :=
            List.perm_append_comm
        _ = r ++ (f ++ (h ++ e.skb.toList)) := by simp only [List.append_assoc]
        List.Perm _ _ := (List.perm_append_comm.append_left f).append_left r

end

/-! ### The entry of one MSDU -/

/-- No entry gathers this MSDU. -/
def Unheld (key : FragKey) (es : List FragEntry) : Prop := ∀ e ∈ es, e.skb.isSome = true → e.key ≠ key

/-- `e` gathers this MSDU, and no other entry does. -/
def HeldBy (key : FragKey) (es : List FragEntry) (e : FragEntry) : Prop :=
  e.key = key ∧ ∃ before after, es = before ++ e :: after ∧ Unheld key before ∧ Unheld key after

section

variable {now hz : UInt64} {key : FragKey} {frag : Option ℕ} {upd : FragEntry → FragEntry}

theorem not_waitsFor {e : FragEntry} (h : e.skb.isSome = true → e.key ≠ key) : e.waitsFor key frag = false := by
  unfold FragEntry.waitsFor
  cases hskb : e.skb with
  | none => rfl
  | some b =>
    have hne : e.key ≠ key := h (by rw [hskb]; rfl)
    simp [hne]

/-- Entries of other MSDUs may expire; the lookup goes on behind them. -/
theorem findEntry_before : ∀ {before : List FragEntry} (es : List FragEntry), Unheld key before →
    ∃ before', Unheld key before' ∧
      (findEntry now hz key frag upd (before ++ es)).entries = before' ++ (findEntry now hz key frag upd es).entries ∧
      (findEntry now hz key frag upd (before ++ es)).found = (findEntry now hz key frag upd es).found
  | [], es, h => ⟨[], h, rfl, rfl⟩
  | e :: before, es, h => by
    have he := h e List.mem_cons_self
    obtain ⟨before', hun, hentries, hfound⟩ :=
      findEntry_before es fun e' he' => h e' (List.mem_cons_of_mem _ he')
    rw [List.cons_append, findEntry, not_waitsFor he, if_neg Bool.false_ne_true]
    split_ifs with hexp
    · refine ⟨e.clear :: before', ?_, congrArg (e.clear :: ·) hentries, hfound⟩
      intro e' he'
      rcases List.mem_cons.mp he' with rfl | hmem
      · exact fun hsome => absurd hsome (by simp [FragEntry.clear])
      · exact hun e' hmem
    · refine ⟨e :: before', ?_, congrArg (e :: ·) hentries, hfound⟩
      intro e' he'
      rcases List.mem_cons.mp he' with rfl | hmem
      · exact he
      · exact hun e' hmem

/-- There is nothing to find. -/
theorem findEntry_unheld {es : List FragEntry} (h : Unheld key es) :
    (findEntry now hz key frag upd es).found = none ∧ Unheld key (findEntry now hz key frag upd es).entries := by
  obtain ⟨es', hun, hentries, hfound⟩ := @findEntry_before now hz key frag upd es [] h
  rw [List.append_nil] at hentries hfound
  refine ⟨hfound, ?_⟩
  rw [hentries]
  exact fun e he => hun e (by simpa [findEntry] using he)

variable {es : List FragEntry} {e : FragEntry} {b : BufId}

theorem Unheld.append {before after : List FragEntry} (h : Unheld key before) (h' : Unheld key after) :
    Unheld key (before ++ after) := by
  intro e he
  rcases List.mem_append.mp he with hmem | hmem
  · exact h e hmem
  · exact h' e hmem

/-- **What the lookup finds** of the only entry of an MSDU: nothing if it has
expired or waits for another fragment. -/
theorem findEntry_heldBy (h : HeldBy key es e) (hb : e.skb = some b) (hupd : ∀ e : FragEntry, (upd e).key = e.key) :
    let r := findEntry now hz key frag upd es
    if e.expired now hz then r.found = none ∧ Unheld key r.entries
    else if e.waitsFor key frag then r.found = some b ∧ HeldBy key r.entries (upd e)
    else r.found = none ∧ HeldBy key r.entries e := by
  obtain ⟨hkey, before, after, rfl, hbefore, hafter⟩ := h
  obtain ⟨before', hun, hentries, hfound⟩ := @findEntry_before now hz key frag upd before (e :: after) hbefore
  obtain ⟨hnone, hrest⟩ := @findEntry_unheld now hz key frag upd after hafter
  intro r
  rw [findEntry] at hentries hfound
  split_ifs at hentries hfound ⊢ with hexp hwait
  · refine ⟨hfound.trans hnone, ?_⟩
    change Unheld key (findEntry now hz key frag upd (before ++ e :: after)).entries
    rw [hentries]
    refine hun.append fun e' he' => ?_
    rcases List.mem_cons.mp he' with rfl | hmem
    · exact fun hsome => absurd hsome (by simp [FragEntry.clear])
    · exact hrest e' hmem
  · exact ⟨hfound.trans hb, (hupd e).trans hkey, before', after, hentries, hun, hafter⟩
  · exact ⟨hfound.trans hnone, hkey, before', _, hentries, hun, hrest⟩

end

/-! ### The cache -/

namespace FragCache

/-- `ieee80211_frag_cache_find`, with what the caller does to the entry. -/
def find (c : FragCache) (now hz : UInt64) (key : FragKey) (frag : Option ℕ)
    (upd : FragEntry → FragEntry) : FragCache where
  entries := (findEntry now hz key frag upd c.entries).entries
  nextIdx := c.nextIdx
  length_eq := (length_findEntry _).trans c.length_eq

/-- The entry the next first fragment takes. -/
def next (c : FragCache) : FragEntry := c.entries.get (c.nextIdx.cast c.length_eq.symm)

/-- `ieee80211_frag_cache_get` for a first fragment with a new buffer. -/
def getFirst (c : FragCache) (now : UInt64) (key : FragKey) (skb : BufId) : FragCache where
  entries := c.entries.set c.nextIdx ⟨now, key.seq, 0, some skb, key.src, key.dst⟩
  nextIdx := c.nextIdx + 1
  length_eq := (List.length_set).trans c.length_eq

theorem mem_getFirst {c : FragCache} {now : UInt64} {key : FragKey} {skb : BufId} {e : FragEntry}
    (h : e ∈ (c.getFirst now key skb).entries) :
    e ∈ c.entries ∨ e = ⟨now, key.seq, 0, some skb, key.src, key.dst⟩ :=
  List.mem_or_eq_of_mem_set h

/-- The cache around the entry taken. -/
theorem entries_getFirst (c : FragCache) (now : UInt64) (key : FragKey) (skb : BufId) :
    (c.getFirst now key skb).entries = c.entries.take c.nextIdx ++
      ⟨now, key.seq, 0, some skb, key.src, key.dst⟩ :: c.entries.drop (c.nextIdx + 1) := by
  have hlt : c.nextIdx.val < c.entries.length := by
    rw [c.length_eq]
    exact c.nextIdx.isLt
  exact List.set_eq_take_append_cons_drop.trans (if_pos hlt)

/-- A first fragment of an MSDU that no entry gathers takes the only one. -/
theorem heldBy_getFirst {c : FragCache} {key : FragKey} (h : Unheld key c.entries) (now : UInt64) (skb : BufId) :
    HeldBy key (c.getFirst now key skb).entries ⟨now, key.seq, 0, some skb, key.src, key.dst⟩ :=
  ⟨rfl, _, _, c.entries_getFirst now key skb, fun e he => h e (List.mem_of_mem_take he),
    fun e he => h e (List.mem_of_mem_drop he)⟩

/-- The buffer of the entry taken goes, the new one comes. -/
theorem getFirst_perm (c : FragCache) (now : UInt64) (key : FragKey) (skb : BufId) :
    (skb :: held c.entries).Perm (c.next.skb.toList ++ held (c.getFirst now key skb).entries) := by
  have hlt : c.nextIdx.val < c.entries.length := by
    rw [c.length_eq]
    exact c.nextIdx.isLt
  have hsplit : c.entries = c.entries.take c.nextIdx ++ c.next :: c.entries.drop (c.nextIdx + 1) := by
    have hnext : c.next = c.entries[c.nextIdx.val] := rfl
    rw [hnext, List.getElem_cons_drop, List.take_append_drop]
  rw [c.entries_getFirst]
  conv_lhs => rw [hsplit]
  simp only [held, List.filterMap_append, List.filterMap_cons]
  generalize (c.entries.take c.nextIdx).filterMap (·.skb) = pre
  generalize (c.entries.drop (c.nextIdx + 1)).filterMap (·.skb) = post
  cases c.next.skb with
  | none => exact List.perm_middle.symm
  | some b =>
    refine (List.Perm.cons skb List.perm_middle).trans ?_
    exact (List.Perm.swap b skb _).trans (List.Perm.cons b List.perm_middle.symm)

end FragCache

end Rtl8187

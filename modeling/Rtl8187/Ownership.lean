/-
# Ownership of receive buffers

Every buffer that was allocated is to be held by the fragment cache or to have
been released, freed or handed to the network stack, exactly once; and
`ieee80211_rx` is to tell its caller whether it took the buffer it was given.

Three things break this. A fragment that does not fit its buffer takes the
buffer out of the cache without freeing it. An MSDU that is rejected after its
last fragment was copied and freed makes `ieee80211_rx` return zero, so the
caller frees that fragment again, and the reassembly buffer is lost. And
`ieee80211_frag_cache_invalidate` looks the completed MSDU up again, which may
find another entry, or none.

Key definitions: `Owned`, `Contract`, `SmoothFragment`, `Smooth`.
Key theorems: `rx_owned`, `run_owned`.
-/
import Rtl8187.RxSteps
import Rtl8187.CryptTable
import Rtl8187.Digest

namespace Rtl8187

open Bytes

variable {P : Type}

/-! ### Accounts -/

/-- The buffer an event gives away. -/
def RxEvent.buf : RxEvent → BufId
  | .kfree b => b
  | .monitor b => b
  | .netifRx b _ => b

namespace World

variable (w : World P)

/-- The buffers freed or handed over, in order. -/
def released : List BufId := w.log.map RxEvent.buf

end World

/-- Each buffer that was allocated is held, or was released, exactly once. -/
def Owned (w : World P) : Prop := Ledger.Balanced w.held w.released w.nextBuf

/-- So is each buffer but `b`, which the code has in hand. -/
def InHand (w : World P) (b : BufId) : Prop :=
  Ledger.Balanced w.held (w.released ++ [b]) w.nextBuf

/-- What the caller of `ieee80211_rx` relies on: zero means that the buffer is
still its own, anything else that it was given away once. -/
structure Contract (b : BufId) (r : ℕ × World P) : Prop where
  kept : r.1 = 0 → b ∉ r.2.released ∧ b ∉ r.2.held
  taken : r.1 ≠ 0 → r.2.released.count b = 1

/-! ### The buffer in hand -/

section

variable {w : World P} {b fb : BufId}

theorem inHand_arrive (h : Owned w) (skb : SkBuff) : InHand (w.arrive skb) w.nextBuf :=
  Ledger.Balanced.release_next h

theorem InHand.free (h : InHand w b) : Owned (w.kfreeAll [b]) := by
  unfold Owned World.released World.kfreeAll
  rw [List.map_append]
  exact h

theorem InHand.handOver (h : InHand w b) {ev : RxEvent} (hev : ev.buf = b) : Owned (w.emit ev) := by
  unfold Owned World.released World.emit
  rw [List.map_append, List.map_singleton, hev]
  exact h

theorem InHand.not_mem (h : InHand w b) : b ∉ w.released ∧ b ∉ w.held := by
  have hcount := h.count (h.lt (Or.inr (List.mem_append_right _ List.mem_cons_self)))
  rw [List.count_append, List.count_singleton_self] at hcount
  exact ⟨List.count_eq_zero.mp (by omega), List.count_eq_zero.mp (by omega)⟩

/-- The cache gives up buffers that are freed. -/
theorem InHand.freed {w' : World P} {bs : List BufId} (h : InHand w b)
    (hnext : w'.nextBuf = w.nextBuf) (hlog : w'.released = w.released ++ bs)
    (hheld : w.held.Perm (bs ++ w'.held)) : InHand w' b := by
  unfold InHand
  rw [hnext, hlog]
  have hmove := h.move hheld
  rw [List.append_assoc] at hmove ⊢
  exact hmove.congr_released (List.perm_append_comm.append_left _)

theorem released_kfreeAll (w : World P) (bs : List BufId) :
    (w.kfreeAll bs).released = w.released ++ bs := by
  unfold World.released World.kfreeAll
  rw [List.map_append, List.map_map]
  exact congrArg _ (List.map_id bs)

variable (env : RxEnv) (now : UInt64) (hdr : List UInt8) (frag : Option ℕ)

/-- The search frees what has expired. -/
theorem inHand_find (h : InHand w b) {upd : FragEntry → FragEntry} (hupd : ∀ e, (upd e).skb = e.skb) :
    InHand (fragCacheFind now w hdr frag upd).2 b :=
  h.freed rfl (released_kfreeAll _ _) (findEntry_perm hupd _)

/-- A first fragment puts a new buffer in the place of an old one. -/
theorem inHand_get (h : InHand w b) : InHand (fragCacheGet env w hdr).2 b := by
  unfold fragCacheGet
  dsimp only
  by_cases hfrag : fragOf hdr = 0
  · rw [if_pos hfrag]
    by_cases halloc : env.skbAlloc = true
    · rw [if_pos halloc]
      have hnext := h.hold_next.move
        (FragCache.getFirst_perm w.dev.fragCache env.now (FragKey.ofHdr hdr) w.nextBuf)
      unfold InHand
      rw [released_kfreeAll]
      refine hnext.congr_released ?_
      rw [List.append_assoc, List.append_assoc]
      exact List.perm_append_comm.append_left _
    · rw [if_neg halloc]
      exact h
  · rw [if_neg hfrag]
    exact inHand_find env.now hdr _ h fun _ => rfl

/-- The fragment is copied and freed. -/
theorem inHand_append (h : InHand w b) (fb : BufId) (last : LastFrame) :
    Owned (w.append fb b last) := by
  have hset : ∀ buf, InHand (w.setBuf fb buf) b := fun _ => h
  exact (hset _).free

/-- The buffer of the entry that is invalidated is in hand. -/
theorem inHand_invalidate (h : Owned w) (hfound : (fragCacheFind now w hdr none .clear).1 = some fb) :
    InHand (fragCacheInvalidate now w hdr) fb := by
  let r := findEntry now w.dev.kernel.hz (FragKey.ofHdr hdr) none .clear w.dev.fragCache.entries
  have hperm : w.held.Perm (r.freed ++ [fb] ++ held r.entries) := by
    have hclear := @findEntry_clear_perm now w.dev.kernel.hz (FragKey.ofHdr hdr) none
      w.dev.fragCache.entries
    rw [show r.found = some fb from hfound] at hclear
    rw [List.append_assoc]
    exact hclear
  have hmove := h.move hperm
  unfold InHand fragCacheInvalidate fragCacheFind
  rw [released_kfreeAll, List.append_assoc]
  exact hmove

/-- An MSDU that is accepted is handed over. -/
theorem owned_deliver (h : InHand w b) {last : LastFrame} (reassembled : Bool)
    (hacc : Accepts w b last) :
    (deliver env w b last reassembled).1 = 1 ∧ Owned (deliver env w b last reassembled).2 ∧
      b ∈ (deliver env w b last reassembled).2.released := by
  have hreleased : (deliver env w b last reassembled).2.released = w.released ++ [b] := by
    rw [deliver_accepts _ _ _ _ _ hacc]
    exact List.map_append
  have hheld : (deliver env w b last reassembled).2.held = w.held := by
    rw [deliver_accepts _ _ _ _ _ hacc]
    exact congrArg (fun c => Rtl8187.held c.entries) (checked_fragCache w b last)
  have hnext : (deliver env w b last reassembled).2.nextBuf = w.nextBuf := by
    rw [deliver_accepts _ _ _ _ _ hacc]
    rfl
  refine ⟨by rw [deliver_accepts _ _ _ _ _ hacc], ?_, ?_⟩
  · unfold Owned
    rw [hreleased, hheld, hnext]
    exact h
  · rw [hreleased]
    exact List.mem_append_right _ List.mem_cons_self

/-- One that is not is still in hand. -/
theorem inHand_reject (h : InHand w b) {last : LastFrame} {reassembled : Bool}
    (hrej : ¬ Accepts w b last) : (deliver env w b last reassembled).1 = 0 ∧
      InHand (deliver env w b last reassembled).2 b := by
  rw [deliver_rejects _ _ _ _ _ hrej]
  refine ⟨rfl, ?_⟩
  unfold InHand World.held
  rw [checked_fragCache]
  exact h

end

/-! ### The three mishaps -/

/-- A fragment goes well: it fits its buffer, and if it is the last one, the
entry invalidated is that of its buffer, and the MSDU is accepted. -/
structure SmoothFragment (env : RxEnv) (w : World P) (b : BufId) (last : LastFrame) : Prop where
  fits : ∀ fb ∈ (fragCacheGet env w (w.heap b).skb.data).1,
    let w' := (fragCacheGet env w (w.heap b).skb.data).2
    (last.bytes (w.heap b).skb).length ≤ (w'.heap fb).skb.tailroom
  own : ∀ fb ∈ (fragCacheGet env w (w.heap b).skb.data).1, moreFrags last.fc = false →
    let w' := (fragCacheGet env w (w.heap b).skb.data).2.append fb b last
    (fragCacheFind env.later w' (w'.heap fb).skb.data none .clear).1 = some fb
  accepted : ∀ fb ∈ (fragCacheGet env w (w.heap b).skb.data).1, moreFrags last.fc = false →
    let w' := (fragCacheGet env w (w.heap b).skb.data).2.append fb b last
    Accepts (fragCacheInvalidate env.later w' (w'.heap fb).skb.data) fb last

instance (env : RxEnv) (w : World P) (b : BufId) (last : LastFrame) :
    Decidable (SmoothFragment env w b last) :=
  decidable_of_iff (_ ∧ _ ∧ _) ⟨fun ⟨h₁, h₂, h₃⟩ => ⟨h₁, h₂, h₃⟩, fun ⟨h₁, h₂, h₃⟩ => ⟨h₁, h₂, h₃⟩⟩

/-- The fragment of a step goes well. -/
abbrev Smooth (w : World P) (i : RxInput P) : Prop := AtFragment SmoothFragment w i

/-- A call of `ieee80211_rx` ends with the buffer in hand, or given away. -/
def Settled (b : BufId) (r : ℕ × World P) : Prop :=
  r.1 = 0 ∧ InHand r.2 b ∨ r.1 = 1 ∧ Owned r.2 ∧ b ∈ r.2.released

theorem Settled.contract {b : BufId} {r : ℕ × World P} (h : Settled b r) : Contract b r := by
  rcases h with ⟨hret, hhand⟩ | ⟨hret, howned, hmem⟩
  · exact ⟨fun _ => hhand.not_mem, fun hne => absurd hret hne⟩
  · refine ⟨fun hzero => absurd (hret.symm.trans hzero) (by decide), fun _ => ?_⟩
    have hcount := howned.count (howned.lt (Or.inr hmem))
    have hpos := List.count_pos_iff.mpr hmem
    omega

section

variable {env : RxEnv} {w : World P} {b : BufId}

/-- What a fragment that goes well comes to. -/
theorem settled_append {last : LastFrame} (h : InHand w b) (hs : SmoothFragment env w b last) :
    match appendFragment env w b last with
    | .dropped w' => InHand w' b
    | .stored w' => Owned w' ∧ b ∈ w'.released
    | .complete fb w' => InHand w' fb ∧ b ∈ w'.released ∧ Accepts w' fb last := by
  have hget := inHand_get env (w.heap b).skb.data h
  cases hg : fragCacheGet env w (w.heap b).skb.data with
  | mk found w' =>
    rw [hg] at hget
    cases found with
    | none =>
      rw [appendFragment_none hg]
      exact hget
    | some fb =>
      obtain ⟨hle, hown, hacc⟩ := hs
      rw [hg] at hle hown hacc
      have hle := hle fb rfl
      have howned := inHand_append hget fb last
      have hmem : b ∈ (w'.append fb b last).released := by
        unfold World.append
        rw [released_kfreeAll]
        exact List.mem_append_right _ List.mem_cons_self
      cases hmore : moreFrags last.fc with
      | true =>
        rw [appendFragment_stored hg hle hmore]
        exact ⟨howned, hmem⟩
      | false =>
        rw [appendFragment_complete hg hle hmore]
        refine ⟨inHand_invalidate _ _ howned (hown fb rfl hmore), ?_, hacc fb rfl hmore⟩
        unfold fragCacheInvalidate fragCacheFind
        rw [released_kfreeAll]
        exact List.mem_append_left _ hmem

theorem deliver_settled {last : LastFrame} {reassembled : Bool} (h : InHand w b) :
    Settled b (deliver env w b last reassembled) := by
  by_cases hacc : Accepts w b last
  · exact Or.inr (owned_deliver env h reassembled hacc)
  · exact Or.inl (inHand_reject env h hacc)

theorem Owned.same {w' : World P} (h : Owned w) (hw : SameBuffers w' w) : Owned w' := by
  unfold Owned World.held World.released
  rw [hw.fragCache, hw.log, hw.nextBuf]
  exact h

theorem InHand.same {w' : World P} (h : InHand w b) (hw : SameBuffers w' w) : InHand w' b := by
  unfold InHand World.held World.released
  rw [hw.fragCache, hw.log, hw.nextBuf]
  exact h

theorem inHand_rxOpen (h : InHand w b) : InHand (rxOpen w b).2 b := by
  unfold InHand World.held
  rw [rxOpen_fragCache]
  exact h

theorem rxData_settled (h : InHand w b)
    (hs : 0 ≤ (rxOpen w b).1.keyidx → isFragment (w.heap b).skb.data = true →
      SmoothFragment env (rxOpen w b).2 b (rxOpen w b).1) :
    Settled b (rxData env w b) := by
  have hopen := inHand_rxOpen h
  rcases rxData_cases env w b with ⟨-, hr⟩ | ⟨-, -, hr⟩ | ⟨hkey, hfrag, hr⟩
  · rw [hr]
    exact Or.inl ⟨rfl, hopen⟩
  · rw [hr]
    exact deliver_settled hopen
  · rw [hr]
    have happ := settled_append hopen (hs hkey hfrag)
    cases ha : appendFragment env (rxOpen w b).2 b (rxOpen w b).1 with
    | dropped w' =>
      rw [ha] at happ
      exact Or.inl ⟨rfl, happ⟩
    | stored w' =>
      rw [ha] at happ
      exact Or.inr ⟨rfl, happ⟩
    | complete fb w' =>
      rw [ha] at happ
      obtain ⟨hhand, hmem, hacc⟩ := happ
      obtain ⟨hret, howned, -⟩ := owned_deliver env hhand true hacc
      refine Or.inr ⟨hret, howned, ?_⟩
      dsimp only
      rw [deliver_accepts _ _ _ _ _ hacc]
      obtain ⟨ev, hev, hb⟩ := List.mem_map.mp hmem
      exact List.mem_map.mpr ⟨ev, List.mem_append_left _ hev, hb⟩

end

/-- A call of `ieee80211_rx` whose fragments go well settles its buffer. -/
theorem rx_settled (mgt : RxMgt P) {env : RxEnv} {w : World P} {skb : SkBuff} (h : Owned w)
    (hs : Smooth w (.frame env skb)) : Settled w.nextBuf (rx mgt env (w.arrive skb) w.nextBuf) := by
  have harrive := inHand_arrive h skb
  rcases rx_cases mgt env (w.arrive skb) w.nextBuf with
    ⟨d, hd, hr⟩ | hr | ⟨d, hd, hr⟩ | ⟨d, ha, hr⟩
  · rw [hr]
    exact Or.inl ⟨rfl, harrive.same (sameBuffers_setDev _ hd)⟩
  · rw [hr]
    refine Or.inr ⟨rfl, harrive.handOver rfl, ?_⟩
    exact List.mem_map.mpr ⟨_, List.mem_append_right _ List.mem_cons_self, rfl⟩
  · rw [hr]
    refine Or.inr ⟨rfl, (harrive.same (sameBuffers_setDev _ hd)).free, ?_⟩
    exact List.mem_map.mpr ⟨_, List.mem_append_right _ List.mem_cons_self, rfl⟩
  · rw [hr]
    rw [arrive_buf] at ha
    have hcache := rxAdmit_fragCache env w.dev skb
    have hadmit : AtAdmitted SmoothFragment env w skb (rxAdmit env w.dev skb) := hs
    rw [show rxAdmit env w.dev skb = .data d from ha] at hcache hadmit
    refine rxData_settled (harrive.same ⟨hcache, rfl, rfl, rfl⟩) ?_
    dsimp only
    rw [arrive_buf]
    exact hadmit

/-- The tasklet's step: every call keeps its contract, and every buffer is
accounted for after it. -/
theorem receive_owned (mgt : RxMgt P) {env : RxEnv} {w : World P} {skb : SkBuff} (h : Owned w)
    (hs : Smooth w (.frame env skb)) : Owned (receive mgt env w skb).2 := by
  unfold receive
  dsimp only
  rcases rx_settled mgt h hs with ⟨hret, hhand⟩ | ⟨hret, howned, -⟩
  · rw [if_pos hret]
    exact hhand.free
  · rw [if_neg (by omega)]
    exact howned

theorem step_owned (mgt : RxMgt P) {w : World P} {i : RxInput P} (h : Owned w) (hs : Smooth w i) :
    Owned (w.step mgt i) := by
  cases i with
  | frame env skb => exact receive_owned mgt h hs
  | setKey idx crypt => exact h.same (step_sameBuffers mgt w nofun)
  | disassociate => exact h.same (step_sameBuffers mgt w nofun)
  | other act => exact h.same (step_sameBuffers mgt w nofun)

/-- The calls of `ieee80211_rx` in a step keep their contract. -/
def StepContract (mgt : RxMgt P) (w : World P) : RxInput P → Prop
  | .frame env skb => Contract w.nextBuf (rx mgt env (w.arrive skb) w.nextBuf)
  | _ => True

/-- **Receive buffers have one owner**, in every run whose fragments go well:
each call of `ieee80211_rx` returns zero with its buffer untouched, or has
given it away once; and in the end each buffer is held by the fragment cache
or was released, once in all. -/
theorem run_owned (mgt : RxMgt P) (w : World P) (is : List (RxInput P)) (h : Owned w)
    (hs : Run.AllSteps (World.step mgt) Smooth w is) :
    Owned (Run.run (World.step mgt) w is) ∧
      Run.AllSteps (World.step mgt) (StepContract mgt) w is ∧
      ∀ b < (Run.run (World.step mgt) w is).nextBuf,
        (Run.run (World.step mgt) w is).held.count b +
          (Run.run (World.step mgt) w is).released.count b = 1 := by
  have howned := Run.inv_run (fun _ _ => step_owned mgt) w is h hs
  refine ⟨howned, ?_, fun b hb => howned.count hb⟩
  refine Run.allSteps_of_inv (fun w i hw hi => ⟨step_owned mgt hw hi, ?_⟩) w is h hs
  cases i with
  | frame env skb => exact (rx_settled mgt hw hi).contract
  | _ => trivial

theorem owned_start {d : Device P} (h : Rtl8187.held d.fragCache.entries = []) :
    Owned (World.start d) := by
  unfold Owned World.held World.start
  rw [h]
  exact List.Perm.refl _

section

private abbrev own : Mac := ⟨2, 0, 0, 0, 0, 1⟩
private abbrev ap : Mac := ⟨0, 0, 0, 0, 0, 0⟩
private abbrev moment : RxEnv := ⟨⟨1000, true, fun _ => false, ap⟩, 1001, true⟩
private abbrev twoFragments (P : Type) : List (RxInput P) :=
  [.frame moment (apFrame fctlMorefrags 0x10 ap own (rfc1042Header ++ [0x08, 0x00, 1, 2])),
    .frame moment (apFrame 0 0x11 ap own [3, 4])]

/-- Two fragments without encryption. -/
theorem twoFragments_owned :
    Owned (Run.run (World.step fun _ _ => .idle Unit)
      (World.start (Device.init Unit ⟨250, true⟩ own)) (twoFragments Unit)) :=
  (run_owned (fun _ _ => .idle Unit) (World.start (Device.init Unit ⟨250, true⟩ own))
    (twoFragments Unit) (owned_start rfl) (by
      refine ⟨?_, ?_, trivial⟩
      · decide +kernel
      · decide +kernel)).1

/-- Two fragments in clear where a key is set: the MSDU is rejected when the
second has been freed, and the caller frees it again. -/
theorem lastFragment_freed_twice : ¬ ∀ (mgt : RxMgt Priv) (w : World Priv) (is : List (RxInput Priv)),
    Owned w → Owned (Run.run (World.step mgt) w is) := by
  intro h
  let d : Device Priv := { Device.init Priv ⟨250, true⟩ own with
    openWep := false
    crypt := fun _ => some ⟨some (wepOps linuxPrimitives), .wep ⟨0, List.replicate 5 0, 0, by decide⟩⟩ }
  have howned := h (fun _ _ => .idle Priv) (World.start d) (twoFragments Priv) (owned_start rfl)
  have hreleased : (Run.run (World.step fun _ _ => .idle Priv) (World.start d)
      (twoFragments Priv)).released = [0, 2, 2] := by
    decide +kernel
  have hlt := howned.lt (Or.inr (show 2 ∈ _ by rw [hreleased]; decide))
  have hcount := howned.count hlt
  rw [hreleased] at hcount
  have htwo : List.count 2 [0, 2, 2] = 2 := rfl
  omega

end

end Rtl8187

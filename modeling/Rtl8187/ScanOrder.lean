/-
# The channels of the two scans

`ieee80211_softmac_scan_syncro` counts up through the allowed channels.
`ieee80211_softmac_scan_wq` goes on from the current channel modulo
`MAX_CHANNEL_NUMBER`, so it goes round the residues: its watchdog lets it come
once round, and every allowed channel is visited once in a cycle, except the last
one of the map, which is no residue (`scansAgree_iff`).

Key definitions: `allowedChannels`, `scanVisits`, `syncroVisits`, `readScanAdvance`, `ScansAgree`.
Key theorems: `syncroVisits_eq`, `scanVisits_eq`, `scansAgree_iff`.
-/
import Rtl8187.Radio
import Rtl8187.Lib.CyclicScan
import Rtl8187.Lib.Traced

namespace Rtl8187

open CyclicScan Station

variable {P : Type}

/-- The channels the map allows. -/
def allowedChannels (channelMap : ℕ → Bool) : List ℕ := (List.range' 1 maxChannelNumber).filter channelMap

/-! ### The loops, with what they read of the map -/

/-- An entry of `channel_map[MAX_CHANNEL_NUMBER + 1]`. -/
def readMap (channelMap : ℕ → Bool) (c : ℕ) : Traced Bool :=
  Traced.ofLog [.read c 0 (maxChannelNumber + 1)] (channelMap c)

/-- The loop of `ieee80211_softmac_scan_wq`. -/
def readScanAdvance (channelMap : ℕ → Bool) : ℕ → ℕ → Traced (ℕ × Bool)
  | 0, chan => pure ((chan + 1) % maxChannelNumber, false)
  | turns + 1, chan => do
    let chan := (chan + 1) % maxChannelNumber
    let allowed ← readMap channelMap chan
    if allowed then pure (chan, true) else readScanAdvance channelMap turns chan

/-- The inner loop of `ieee80211_softmac_scan_syncro`, `left` channels before the last. -/
def readNextChannel (channelMap : ℕ → Bool) : ℕ → ℕ → Traced (Option ℕ)
  | 0, _ => pure none
  | left + 1, ch => do
    let allowed ← readMap channelMap (ch + 1)
    if allowed then pure (some (ch + 1)) else readNextChannel channelMap left (ch + 1)

section

variable {channelMap : ℕ → Bool}

theorem readScanAdvance_value (turns chan : ℕ) :
    (readScanAdvance channelMap turns chan).value = scanAdvance channelMap turns chan := by
  induction turns generalizing chan with
  | zero => rfl
  | succ turns ih =>
    unfold readScanAdvance scanAdvance
    dsimp only
    rw [Traced.value_bind, Traced.value_ite, ih]
    rfl

theorem readNextChannel_value (st : Station P) (ch : ℕ) :
    (readNextChannel st.channelMap (maxChannelNumber - ch) ch).value = st.nextChannel ch := by
  unfold nextChannel
  induction maxChannelNumber - ch generalizing ch with
  | zero => rfl
  | succ left ih =>
    rw [readNextChannel, Traced.value_bind, Traced.value_ite, ih, List.range'_succ, List.find?_cons]
    show (if st.channelMap (ch + 1) = true then _ else _) = _
    by_cases hallowed : st.channelMap (ch + 1) = true
    · rw [if_pos hallowed, hallowed]
      rfl
    · rw [if_neg hallowed, Bool.eq_false_iff.mpr hallowed]

/-- No residue is outside the array. -/
theorem readScanAdvance_safe (turns chan : ℕ) :
    (readScanAdvance channelMap turns chan).All Access.Safe := by
  induction turns generalizing chan with
  | zero => exact Traced.pure_all _
  | succ turns ih =>
    have hlt : (chan + 1) % maxChannelNumber < maxChannelNumber := Nat.mod_lt _ (by decide)
    refine (Traced.all_bind _ _).mpr ⟨?_, (Traced.all_ite _ _ _).mpr ⟨fun _ => Traced.pure_all _, fun _ => ih _⟩⟩
    exact List.forall_mem_singleton.mpr ⟨Nat.zero_le _, Nat.lt_succ_of_lt hlt⟩

theorem readNextChannel_safe (left ch : ℕ) (hleft : ch + left ≤ maxChannelNumber) :
    (readNextChannel channelMap left ch).All Access.Safe := by
  induction left generalizing ch with
  | zero => exact Traced.pure_all _
  | succ left ih =>
    refine (Traced.all_bind _ _).mpr ⟨?_, (Traced.all_ite _ _ _).mpr ⟨fun _ => Traced.pure_all _, fun _ => ?_⟩⟩
    · exact List.forall_mem_singleton.mpr ⟨Nat.zero_le _, by omega⟩
    · exact ih (ch + 1) (by omega)

end

/-! ### The syncro scan -/

/-- What happens while a syncro scan sleeps that is not to end it. -/
structure SyncroSleep (P : Type) where
  run : Station P → Station P
  map : ∀ st, (run st).channelMap = st.channelMap
  state : ∀ st, (run st).state ≠ .linked
  hurryup : ∀ st, (run st).syncScanHurryup = false

/-- The channels a syncro scan visits that goes on from `ch`, turn by turn. -/
def syncroVisits : Station P → ℕ → List (Env × SyncroSleep P) → List ℕ
  | _, _, [] => []
  | st, ch, (env, sleep) :: turns => st.scanTuned ch ++
    match scanTurn env st ch with
    | (none, _) => []
    | (some ch', st') => syncroVisits (sleep.run st') ch' turns

theorem sendProbeRequests_map (env : Env) (st : Station P) :
    (sendProbeRequests env st).channelMap = st.channelMap := by
  unfold sendProbeRequests
  split_ifs <;> rfl

theorem sendProbeRequests_hurryup (env : Env) (st : Station P) :
    (sendProbeRequests env st).syncScanHurryup = st.syncScanHurryup := by
  unfold sendProbeRequests
  split_ifs <;> rfl

theorem sendProbeRequests_scanning (env : Env) (st : Station P) :
    (sendProbeRequests env st).scanning = st.scanning := by
  unfold sendProbeRequests
  split_ifs <;> rfl

/-- The allowed channels are the next one and those behind it. -/
theorem filter_range' (channelMap : ℕ → Bool) (ch left : ℕ) : (List.range' (ch + 1) left).filter channelMap =
    match (List.range' (ch + 1) left).find? channelMap with
    | none => []
    | some c => c :: (List.range' (c + 1) (ch + left - c)).filter channelMap := by
  induction left generalizing ch with
  | zero => rfl
  | succ left ih =>
    rw [List.range'_succ, List.find?_cons]
    by_cases hallowed : channelMap (ch + 1) = true
    · rw [List.filter_cons_of_pos hallowed, hallowed]
      dsimp only
      rw [show ch + (left + 1) - (ch + 1) = left by omega]
    · rw [List.filter_cons_of_neg hallowed, Bool.eq_false_iff.mpr hallowed, ih,
        show ch + 1 + left = ch + (left + 1) by omega]

/-- **The syncro scan** visits the allowed channels in order. -/
theorem syncroVisits_eq {st : Station P} {ch : ℕ} {turns : List (Env × SyncroSleep P)} (hstate : st.state ≠ .linked)
    (hhurry : st.syncScanHurryup = false) (hch : ch ≤ maxChannelNumber) (hturns : maxChannelNumber - ch < turns.length) :
    syncroVisits st ch turns = (List.range' (ch + 1) (maxChannelNumber - ch)).filter st.channelMap := by
  induction turns generalizing st ch with
  | nil => cases hturns
  | cons turn turns ih =>
    obtain ⟨env, sleep⟩ := turn
    rw [syncroVisits, filter_range']
    unfold scanTuned scanTurn
    rw [← nextChannel]
    cases hnext : st.nextChannel ch with
    | none => rfl
    | some c =>
      obtain ⟨hlo, hhi⟩ := List.mem_range'_1.mp (List.mem_of_find?_eq_some hnext)
      have hhurry' : ¬ (sendProbeRequests env st).syncScanHurryup = true := by
        rw [sendProbeRequests_hurryup, hhurry]
        decide
      dsimp only
      rw [if_neg hstate, if_neg hstate, if_neg hhurry']
      dsimp only
      rw [List.length_cons] at hturns
      rw [ih (sleep.state _) (sleep.hurryup _) (by omega) (by omega), sleep.map, sendProbeRequests_map,
        show ch + (maxChannelNumber - ch) - c = maxChannelNumber - c by omega]
      rfl

/-! ### The other scan -/

/-- What happens between two runs of the scan that is not to end it. -/
structure ScanPause (P : Type) where
  run : Station P → Station P
  map : ∀ st, (run st).channelMap = st.channelMap
  channel : ∀ st, (run st).channel = st.channel
  scanning : ∀ st, (run st).scanning = st.scanning
  watchdog : ∀ st, (run st).scanWatchdog = st.scanWatchdog

/-- The channels that repeated runs visit. -/
def scanVisits : Station P → List (Env × ScanPause P) → List ℕ
  | _, [] => []
  | st, (env, pause) :: runs => st.scanWqTuned ++ scanVisits (pause.run (softmacScanWq env st)) runs

/-- The loop is a search on the ring. -/
theorem scanAdvance_eq (channelMap : ℕ → Bool) (turns chan : ℕ) :
    (if (scanAdvance channelMap turns chan).2 then some (scanAdvance channelMap turns chan).1 else none) =
      ahead maxChannelNumber channelMap turns chan := by
  induction turns generalizing chan with
  | zero => rfl
  | succ turns ih =>
    rw [scanAdvance, ahead]
    by_cases hallowed : channelMap ((chan + 1) % maxChannelNumber) = true
    · rw [if_pos hallowed, if_pos hallowed]
      rfl
    · rw [if_neg hallowed, if_neg hallowed, ih]

theorem scanAdvance_lt (channelMap : ℕ → Bool) (turns chan : ℕ) :
    (scanAdvance channelMap turns chan).1 < maxChannelNumber := by
  induction turns generalizing chan with
  | zero => exact Nat.mod_lt _ (by decide)
  | succ turns ih =>
    rw [scanAdvance]
    split_ifs
    · exact Nat.mod_lt _ (by decide)
    · exact ih _

theorem sendProbe_network (env : Env) (st : Station P) : (sendProbe env st).currentNetwork = st.currentNetwork := by
  have hsame : ∀ r ∈ (probeReq env.skbAlloc st.toDevice).map fun skb => (skb, st.toDevice), DevTame r.2 st.toDevice := by
    intro r hr
    obtain ⟨skb, -, rfl⟩ := Option.mem_map.mp hr
    exact DevTame.refl _
  exact (xmitReply_tame env st.toDevice hsame).network

theorem sendProbeRequests_network (env : Env) (st : Station P) :
    (sendProbeRequests env st).currentNetwork = st.currentNetwork := by
  unfold sendProbeRequests
  split_ifs
  · rw [sendProbe_network, sendProbe_network]
  · rfl

/-- What a run leaves for the next one. -/
structure ScanKept (st' st : Station P) : Prop where
  map : st'.channelMap = st.channelMap
  scanning : st'.scanning = true
  watchdog : st'.scanWatchdog = 0

section

variable {st : Station P}

/-- A run goes on to the channel that the loop comes to. -/
theorem softmacScanWq_kept (env : Env) (hscan : st.scanning = true) (hdog : st.scanWatchdog = 0) :
    ScanKept (softmacScanWq env st) st ∧
      (softmacScanWq env st).channel = (scanAdvance st.channelMap (maxChannelNumber + 1) st.channel).1 := by
  have hlt := scanAdvance_lt st.channelMap (maxChannelNumber + 1) st.channel
  have hsmall : (UInt8.ofNat (scanAdvance st.channelMap (maxChannelNumber + 1) st.channel).1).toNat =
      (scanAdvance st.channelMap (maxChannelNumber + 1) st.channel).1 :=
    UInt8.toNat_ofNat_of_lt (lt_trans hlt (by decide))
  unfold softmacScanWq
  rw [if_neg (not_not.mpr hscan), hdog]
  extract_lets next st₁ st₂
  have htuned : st₁.channel = next.1 := hsmall
  have hst₂ : st₂.channelMap = st.channelMap ∧ st₂.scanning = true ∧ st₂.channel = next.1 := by
    unfold st₂
    split_ifs
    · refine ⟨sendProbeRequests_map env st₁, (sendProbeRequests_scanning env st₁).trans hscan, ?_⟩
      rw [← htuned]
      show (((sendProbeRequests env st₁).toDevice.queueWork .softmacScan).currentNetwork.channel).toNat = _
      rw [queueWork_currentNetwork, sendProbeRequests_network]
      rfl
    · exact ⟨rfl, hscan, htuned⟩
  exact ⟨⟨hst₂.1, hst₂.2.1, rfl⟩, hst₂.2.2⟩

theorem scanWqTuned_eq (hscan : st.scanning = true) (hdog : st.scanWatchdog = 0) :
    st.scanWqTuned = (ahead maxChannelNumber st.channelMap (maxChannelNumber + 1) st.channel).toList := by
  unfold scanWqTuned
  rw [if_neg (not_not.mpr hscan), hdog, ← scanAdvance_eq]
  dsimp only [Nat.sub_zero]
  split_ifs <;> rfl

/-- **The visits are those of a search round the ring**, if it finds a channel. -/
theorem scanVisits_eq (hscan : st.scanning = true) (hdog : st.scanWatchdog = 0)
    (hmark : Marked maxChannelNumber st.channelMap) (runs : List (Env × ScanPause P)) :
    scanVisits st runs =
      visits maxChannelNumber st.channelMap (maxChannelNumber + 1) st.channel runs.length := by
  induction runs generalizing st with
  | nil => rfl
  | cons run runs ih =>
    obtain ⟨env, pause⟩ := run
    obtain ⟨hkept, hchannel⟩ := softmacScanWq_kept env hscan hdog
    have hmap : (pause.run (softmacScanWq env st)).channelMap = st.channelMap := (pause.map _).trans hkept.map
    obtain ⟨c, hc⟩ := exists_ahead hmark st.channel
    rw [← ahead_round hmark (Nat.le_succ maxChannelNumber)] at hc
    have hfound : (scanAdvance st.channelMap (maxChannelNumber + 1) st.channel).1 = c := by
      rw [← scanAdvance_eq] at hc
      split_ifs at hc
      exact Option.some.inj hc
    rw [scanVisits, List.length_cons, visits, scanWqTuned_eq hscan hdog, hc,
      ih ((pause.scanning _).trans hkept.scanning) ((pause.watchdog _).trans hkept.watchdog) (by rwa [hmap]), hmap,
      pause.channel, hchannel, hfound]
    rfl

/-- Whatever the map, no visit is to the last channel. -/
theorem scanVisits_lt (hscan : st.scanning = true) (hdog : st.scanWatchdog = 0)
    (runs : List (Env × ScanPause P)) : ∀ c ∈ scanVisits st runs, c < maxChannelNumber := by
  induction runs generalizing st with
  | nil => nofun
  | cons run runs ih =>
    obtain ⟨env, pause⟩ := run
    obtain ⟨hkept, -⟩ := softmacScanWq_kept env hscan hdog
    intro c hc
    rcases List.mem_append.mp hc with htuned | hlater
    · rw [scanWqTuned_eq hscan hdog, Option.mem_toList] at htuned
      rw [← scanAdvance_eq] at htuned
      split_ifs at htuned
      cases htuned
      exact scanAdvance_lt _ _ _
    · exact ih ((pause.scanning _).trans hkept.scanning) ((pause.watchdog _).trans hkept.watchdog) c hlater

end

/-! ### Both -/

/-- The syncro scan visits the allowed channels; the runs of the other one visit them
once in a cycle, wherever the cycle begins; and neither reads outside the map. -/
structure ScansAgree (st : Station P) : Prop where
  syncro : ∀ (st' : Station P) (turns : List (Env × SyncroSleep P)), st'.channelMap = st.channelMap →
    st'.state ≠ .linked → st'.syncScanHurryup = false → maxChannelNumber < turns.length →
    syncroVisits st' 0 turns = allowedChannels st.channelMap
  cycle : ∀ (runs : List (Env × ScanPause P)) (t : ℕ),
    runs.length = t + (allowedChannels st.channelMap).length →
    ((scanVisits st runs).drop t).Perm (allowedChannels st.channelMap)
  readsScan : ∀ turns chan, (readScanAdvance st.channelMap turns chan).All Access.Safe
  readsSyncro : ∀ ch ≤ maxChannelNumber, (readNextChannel st.channelMap (maxChannelNumber - ch) ch).All Access.Safe

/-- Without the first and the last index the ring is the map. -/
theorem allowedChannels_ring {channelMap : ℕ → Bool} (hzero : channelMap 0 = false)
    (hlast : channelMap maxChannelNumber = false) :
    allowedChannels channelMap = (List.range maxChannelNumber).filter channelMap := by
  have hnot : ∀ c, channelMap c = false → [c].filter channelMap = [] := by
    intro c hc
    rw [List.filter_cons_of_neg (by rw [hc]; decide), List.filter_nil]
  calc allowedChannels channelMap
      = (List.range' 1 160 ++ [1 + 160]).filter channelMap := by rw [← List.range'_1_concat]; rfl
    _ = (List.range' 1 160).filter channelMap := by
        rw [List.filter_append, hnot (1 + 160) hlast, List.append_nil]
    _ = ([0] ++ List.range' 1 160).filter channelMap := by
        rw [List.filter_append, hnot _ hzero, List.nil_append]
    _ = (List.range maxChannelNumber).filter channelMap := rfl

/-- A pause in which nothing happens. -/
def ScanPause.idle (P : Type) : ScanPause P := ⟨id, fun _ => rfl, fun _ => rfl, fun _ => rfl, fun _ => rfl⟩

/-- The last channel of the map is left out by one scan only. -/
theorem cycle_misses_last {st : Station P} (env : Env) (hscan : st.scanning = true) (hdog : st.scanWatchdog = 0)
    (hlast : st.channelMap maxChannelNumber = true) :
    ¬ (scanVisits st (List.replicate (allowedChannels st.channelMap).length (env, ScanPause.idle P))).Perm
      (allowedChannels st.channelMap) := by
  intro hperm
  have hallowed : maxChannelNumber ∈ allowedChannels st.channelMap :=
    List.mem_filter.mpr ⟨List.mem_range'_1.mpr ⟨by decide, by decide⟩, hlast⟩
  exact absurd (scanVisits_lt hscan hdog _ _ (hperm.mem_iff.mpr hallowed)) (lt_irrefl _)

/-- **When the scans cover the same channels**: if the last one is not allowed. -/
theorem scansAgree_iff {st : Station P} (hscan : st.scanning = true) (hdog : st.scanWatchdog = 0)
    (hzero : st.channelMap 0 = false) (hsome : allowedChannels st.channelMap ≠ []) :
    ScansAgree st ↔ st.channelMap maxChannelNumber = false := by
  constructor
  · intro h
    by_contra hlast
    have hperm := h.cycle (List.replicate _ (⟨0, true, fun _ => false, ⟨0, 0, 0, 0, 0, 0⟩⟩, ScanPause.idle P)) 0
      (by rw [List.length_replicate, Nat.zero_add])
    exact cycle_misses_last _ hscan hdog (Bool.eq_true_of_not_eq_false hlast) hperm
  · intro hlast
    have hring := allowedChannels_ring hzero hlast
    have hmark : Marked maxChannelNumber st.channelMap := by
      rw [hring] at hsome
      obtain ⟨c, hc⟩ := List.exists_mem_of_ne_nil _ hsome
      obtain ⟨hlt, hallowed⟩ := List.mem_filter.mp hc
      exact ⟨c, List.mem_range.mp hlt, hallowed⟩
    refine ⟨?_, ?_, readScanAdvance_safe, fun ch hch => readNextChannel_safe _ _ (by omega)⟩
    · intro st' turns hmap hstate hhurry hturns
      rw [syncroVisits_eq hstate hhurry (Nat.zero_le _) hturns, hmap]
      rfl
    · intro runs t hruns
      rw [scanVisits_eq hscan hdog hmark, hruns, hring]
      exact visits_window hmark (Nat.lt_succ_self _) _ _

/-- A station that scans, where these channels are allowed. -/
def scanStation (channelMap : ℕ → Bool) : Station Unit :=
  { Station.init Unit ⟨250, true⟩ ⟨2, 0, 0, 0, 0, 1⟩ channelMap with scanning := true }

/-- Channels 1, 6 and 11. -/
theorem scanStation_agrees : ScansAgree (scanStation fun c => c = 1 ∨ c = 6 ∨ c = 11) :=
  (scansAgree_iff rfl rfl rfl (by decide)).mpr rfl

/-- Channels 1 and 161. -/
theorem lastChannel_not_scanned : ¬ ∀ st : Station Unit, st.scanning = true → st.scanWatchdog = 0 →
    st.channelMap 0 = false → allowedChannels st.channelMap ≠ [] → ScansAgree st := by
  intro h
  have hagree := h (scanStation fun c => c = 1 ∨ c = 161) rfl rfl rfl (by decide)
  have hperm := hagree.cycle (List.replicate _ (⟨0, true, fun _ => false, ⟨0, 0, 0, 0, 0, 0⟩⟩, ScanPause.idle Unit)) 0
    (by rw [List.length_replicate, Nat.zero_add])
  exact cycle_misses_last _ rfl rfl rfl hperm

end Rtl8187

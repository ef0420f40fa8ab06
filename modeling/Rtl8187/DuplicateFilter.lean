/-
# The duplicate filter of an ad hoc cell

`is_duplicate_packet` (`ieee80211_rx.c`) in ad hoc mode: what was last heard of
every transmitter is kept in hash chains by the last byte of its address, so
that transmitters share chains. Yet what one of them sends has no effect on the
others: its frames are judged as if it were alone (`adhoc_isolated`).

Key definitions: `macHash`, `senderFilter`, `FilterInput`, `AdhocKept`, `Isolated`.
Key theorems: `isDuplicatePacket_verdict`, `heardOf_isDuplicatePacket`, `heardOf_run`, `adhoc_isolated`.
-/
import Rtl8187.Rx
import Rtl8187.Lib.HashChains

namespace Rtl8187

open Bytes HashChains

variable {P : Type}

/-- The chain of a transmitter: `mac[5] % IEEE_IBSS_MAC_HASH_SIZE`. -/
def macHash (mac : Mac) : Fin ibssMacHashSize := ⟨mac.b5.toNat % ibssMacHashSize, Nat.mod_lt _ (by decide)⟩

/-- What is noted of a frame. -/
def noteFrame (env : RxEnv) (hdr : List UInt8) : IbssSeq :=
  ⟨addr2 hdr, seqSeq (seqCtl hdr), seqFrag (seqCtl hdr), env.now⟩

/-- The filter of one transmitter: whether a frame of it is dropped, by what was
noted last, and what is noted then. -/
def senderFilter (hz : UInt64) (env : RxEnv) (hdr : List UInt8) : Option IbssSeq → Bool × Option IbssSeq
  | none => (false, some (noteFrame env hdr))
  | some e =>
    if isRepeat env.now hz e.seqNum e.fragNum (seqSeq (seqCtl hdr)) (seqFrag (seqCtl hdr)) e.packetTime then
      (true, some e)
    else (false, some (noteFrame env hdr))

/-- What is noted of a transmitter. -/
def Device.heardOf (d : Device P) (mac : Mac) : Option IbssSeq := lookup macHash IbssSeq.mac d.ibssMacHash mac

/-- Everything that is noted. -/
def Device.ibssEntries (d : Device P) : List IbssSeq := (List.finRange ibssMacHashSize).flatMap d.ibssMacHash

section

variable {env : RxEnv} {d : Device P} {hdr : List UInt8}

theorem isDuplicatePacket_new (hmode : d.iwMode = .adhoc) (hnew : d.heardOf (addr2 hdr) = none) :
    isDuplicatePacket env d hdr = (false, if env.kmalloc then
      { d with ibssMacHash := add macHash IbssSeq.mac d.ibssMacHash (noteFrame env hdr) } else d) := by
  have hfind : (d.ibssMacHash (macHash (addr2 hdr))).find? (·.mac == addr2 hdr) = none := hnew
  rw [macHash] at hfind
  unfold isDuplicatePacket
  rw [hmode]
  dsimp only
  rw [hfind]
  rfl

theorem isDuplicatePacket_known (hmode : d.iwMode = .adhoc) {e : IbssSeq}
    (hknown : d.heardOf (addr2 hdr) = some e) : isDuplicatePacket env d hdr =
      if isRepeat env.now d.kernel.hz e.seqNum e.fragNum (seqSeq (seqCtl hdr)) (seqFrag (seqCtl hdr)) e.packetTime
      then (true, d)
      else (false, { d with ibssMacHash := replace macHash IbssSeq.mac d.ibssMacHash (noteFrame env hdr) }) := by
  have hfind : (d.ibssMacHash (macHash (addr2 hdr))).find? (·.mac == addr2 hdr) = some e := hknown
  rw [macHash] at hfind
  unfold isDuplicatePacket
  rw [hmode]
  dsimp only
  rw [hfind]
  rfl

/-- A frame is judged by its own transmitter's filter. -/
theorem isDuplicatePacket_verdict (hmode : d.iwMode = .adhoc) :
    (isDuplicatePacket env d hdr).1 = (senderFilter d.kernel.hz env hdr (d.heardOf (addr2 hdr))).1 := by
  rcases hheard : d.heardOf (addr2 hdr) with _ | e
  · rw [isDuplicatePacket_new hmode hheard]
    rfl
  · rw [isDuplicatePacket_known hmode hheard, senderFilter]
    split_ifs <;> rfl

/-- **One frame**, while memory lasts, is noted with its own transmitter alone. -/
theorem heardOf_isDuplicatePacket (hmode : d.iwMode = .adhoc) (halloc : env.kmalloc = true) (mac : Mac) :
    (isDuplicatePacket env d hdr).2.heardOf mac =
      if addr2 hdr = mac then (senderFilter d.kernel.hz env hdr (d.heardOf mac)).2 else d.heardOf mac := by
  rcases hheard : d.heardOf (addr2 hdr) with _ | e
  · have hadd : lookup macHash IbssSeq.mac (add macHash IbssSeq.mac d.ibssMacHash (noteFrame env hdr)) mac =
        if addr2 hdr = mac then some (noteFrame env hdr) else d.heardOf mac :=
      (lookup_add _ _ mac).trans (if_congr eq_comm rfl rfl)
    rw [isDuplicatePacket_new hmode hheard, if_pos halloc]
    refine hadd.trans (ite_congr rfl (fun hmac => ?_) fun _ => rfl)
    rw [← hmac, hheard]
    rfl
  · have hsome : (lookup macHash IbssSeq.mac d.ibssMacHash (noteFrame env hdr).mac).isSome = true :=
      Option.isSome_of_eq_some hheard
    have hset : lookup macHash IbssSeq.mac (replace macHash IbssSeq.mac d.ibssMacHash (noteFrame env hdr)) mac =
        if addr2 hdr = mac then some (noteFrame env hdr) else d.heardOf mac :=
      (lookup_replace hsome mac).trans (if_congr eq_comm rfl rfl)
    rw [isDuplicatePacket_known hmode hheard]
    by_cases hrepeat : isRepeat env.now d.kernel.hz e.seqNum e.fragNum (seqSeq (seqCtl hdr))
        (seqFrag (seqCtl hdr)) e.packetTime = true
    · have hone : senderFilter d.kernel.hz env hdr (some e) = (true, some e) := if_pos hrepeat
      rw [if_pos hrepeat]
      by_cases hmac : addr2 hdr = mac
      · rw [if_pos hmac, ← hmac, hheard, hone]
      · rw [if_neg hmac]
    · have hone : senderFilter d.kernel.hz env hdr (some e) = (false, some (noteFrame env hdr)) := if_neg hrepeat
      rw [if_neg hrepeat]
      refine hset.trans (ite_congr rfl (fun hmac => ?_) fun _ => rfl)
      rw [← hmac, hheard, hone]

end

/-! ### Any frames of any transmitters -/

/-- A frame header, and the moment it comes. -/
abbrev FilterInput := RxEnv × List UInt8

/-- `is_duplicate_packet`, for what it leaves. -/
def filterStep (d : Device P) (i : FilterInput) : Device P := (isDuplicatePacket i.1 d i.2).2

/-- The filter between two frames. -/
structure AdhocKept (hz : UInt64) (d : Device P) : Prop where
  mode : d.iwMode = .adhoc
  hz_eq : d.kernel.hz = hz
  valid : Valid macHash IbssSeq.mac d.ibssMacHash

/-- A transmitter is noted at most once, and what the filter makes of a frame is
what it would make of it if only that frame's transmitter had been heard. -/
structure Isolated (d : Device P) (is : List FilterInput) : Prop where
  once : ((Run.run filterStep d is).ibssEntries.map IbssSeq.mac).Nodup
  alone : ∀ i : FilterInput, (isDuplicatePacket i.1 (Run.run filterStep d is) i.2).1 =
    (isDuplicatePacket i.1 (Run.run filterStep d (is.filter fun j => addr2 j.2 = addr2 i.2)) i.2).1

section

variable {hz : UInt64} {d : Device P}

theorem adhocKept_step (h : AdhocKept hz d) {i : FilterInput} (halloc : i.1.kmalloc = true) :
    AdhocKept hz (filterStep d i) := by
  unfold filterStep
  rcases hheard : d.heardOf (addr2 i.2) with _ | e
  · rw [isDuplicatePacket_new h.mode hheard, if_pos halloc]
    exact ⟨h.mode, h.hz_eq, h.valid.add hheard⟩
  · rw [isDuplicatePacket_known h.mode hheard]
    split_ifs
    · exact h
    · exact ⟨h.mode, h.hz_eq, h.valid.replace _⟩

/-- What is noted of a transmitter comes from its own frames. -/
theorem heardOf_run (h : AdhocKept hz d) {is : List FilterInput} (halloc : ∀ i ∈ is, i.1.kmalloc = true)
    (mac : Mac) : (Run.run filterStep d is).heardOf mac =
      (is.filter fun i => addr2 i.2 = mac).foldl (fun e i => (senderFilter hz i.1 i.2 e).2) (d.heardOf mac) := by
  refine Run.view_run (fun i => addr2 i.2) Device.heardOf (fun e i => (senderFilter hz i.1 i.2 e).2)
    (fun (d : Device P) (i : FilterInput) (h : AdhocKept hz d) (hi : i.1.kmalloc = true) => adhocKept_step h hi)
    (fun d i k h hi => ?_) mac d is h halloc
  rw [← h.hz_eq]
  exact heardOf_isDuplicatePacket h.mode hi k

/-- **The ad hoc filter isolates senders**: from a filter that knows nobody, and
while memory lasts, whatever comes from whom and when. -/
theorem adhoc_isolated (hmode : d.iwMode = .adhoc) (hempty : d.ibssMacHash = fun _ => [])
    {is : List FilterInput} (halloc : ∀ i ∈ is, i.1.kmalloc = true) : Isolated d is := by
  have hstart : AdhocKept d.kernel.hz d := ⟨hmode, rfl, hempty ▸ valid_empty macHash IbssSeq.mac⟩
  have hkept : ∀ js : List FilterInput, (∀ j ∈ js, j.1.kmalloc = true) →
      AdhocKept d.kernel.hz (Run.run filterStep d js) := by
    intro js hjs
    refine Run.inv_run ?_ d js hstart (Run.allSteps_of_forall d hjs)
    exact fun _ _ h hi => adhocKept_step h hi
  refine ⟨(hkept is halloc).valid.nodup_keys (List.nodup_finRange _), fun i => ?_⟩
  set own := is.filter fun j => addr2 j.2 = addr2 i.2 with hown
  have hallocOwn : ∀ j ∈ own, j.1.kmalloc = true := fun j hj => halloc j (List.mem_of_mem_filter hj)
  -- both filters have noted the same of this transmitter
  have hheard : (Run.run filterStep d is).heardOf (addr2 i.2) = (Run.run filterStep d own).heardOf (addr2 i.2) := by
    have htwice : own.filter (fun j => addr2 j.2 = addr2 i.2) = own := by
      rw [hown, List.filter_filter]
      simp
    rw [heardOf_run hstart halloc, heardOf_run hstart hallocOwn, htwice]
  rw [isDuplicatePacket_verdict (hkept is halloc).mode, isDuplicatePacket_verdict (hkept own hallocOwn).mode,
    hheard, (hkept is halloc).hz_eq, (hkept own hallocOwn).hz_eq]

end

/-- A station of an ad hoc cell. -/
def cellStation : Device Unit := { Device.init Unit ⟨250, true⟩ ⟨2, 0, 0, 0, 0, 1⟩ with iwMode := .adhoc }

/-- A frame of another one, whose address ends in `b`. -/
def cellFrame (b : UInt8) (sc : UInt16) : FilterInput :=
  (⟨⟨1000, true, fun _ => false, ⟨0, 0, 0, 0, 0, 0⟩⟩, 1001, true⟩,
    List.replicate 10 0 ++ [2, 0, 0, 0, 0, b] ++ List.replicate 6 0 ++ le16 sc)

/-- Two transmitters of one chain, with the same numbers. -/
theorem cell_isolated : Isolated cellStation [cellFrame 3 0x10, cellFrame 34 0x10, cellFrame 3 0x10] :=
  adhoc_isolated rfl rfl (by simp [cellFrame])

end Rtl8187

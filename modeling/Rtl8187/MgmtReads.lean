/-
# What the parsers of management frames read

`auth_parse`, `auth_rq_parse`, `assoc_parse`, `assoc_rq_parse` and
`probe_rq_parse` once more, with the bytes of the frame they read. The parser of
authentication responses is satisfied with two bytes too few and never checks that
the challenge text ends in the frame; the comparison of the SSIDs is bounded by
the length byte alone. All other reads are inside the frame (`parsersInside_iff`).

Key definitions: `readAuthParse`, `readProbeRqParse`, `ParsersInside`, `AuthFits`, `ProbeFits`.
Key theorems: `readStrncmp_safe_iff`, `parsersInside_iff`.
-/
import Rtl8187.RxReads

namespace Rtl8187

open Bytes

variable {P : Type}

/-! ### The parsers, with their accesses -/

/-- `auth_parse` -/
def readAuthParse (skb : SkBuff) : Traced (UInt16 × Option (List UInt8)) :=
  if skb.len < 28 then pure (invalidLen, none)
  else if 33 < skb.len then do
    let id ← readFrame skb 30 1 (skb.byte 30)
    if id = mfieTypeChallenge then do
      let chlen ← readFrame skb 31 1 (skb.byte 31)
      let text ← readFrame skb 32 chlen.toNat ((List.range chlen.toNat).map fun i => skb.byte (32 + i))
      let status ← readFrame skb 28 2 (get16 skb.mem 28)
      pure (status, some text)
    else do
      let status ← readFrame skb 28 2 (get16 skb.mem 28)
      pure (status, none)
  else do
    let status ← readFrame skb 28 2 (get16 skb.mem 28)
    pure (status, none)

/-- `assoc_parse` -/
def readAssocParse (skb : SkBuff) : Traced (UInt16 × UInt16) :=
  if skb.len < 32 then pure (invalidLen, 0)
  else do
    let aid ← readHdr skb 28 2 fun hdr => get16 hdr 28 &&& 0x3fff
    let status ← readHdr skb 26 2 fun hdr => get16 hdr 26
    pure (status, aid)

/-- `auth_rq_parse` -/
def readAuthRqParse (skb : SkBuff) : Traced (Option (UInt16 × Mac)) :=
  if skb.len < 28 then pure none
  else do
    let dest ← readHdr skb 10 6 addr2
    let algorithm ← readHdr skb 24 2 fun hdr => get16 hdr 24
    if algorithm ≠ wlanAuthOpen then pure (some (wlanStatusNotSupportedAuthAlg, dest))
    else pure (some (wlanStatusSuccess, dest))

/-- `assoc_rq_parse` -/
def readAssocRqParse (skb : SkBuff) : Traced (Option Mac) :=
  if skb.len < 28 then pure none
  else do
    let dest ← readHdr skb 10 6 addr2
    pure (some dest)

/-- The loop of `probe_rq_parse`. -/
def readFindSsid (skb : SkBuff) (i : ℕ) : Traced (Option ℕ) :=
  if i + 1 < skb.len then do
    let tag ← readFrame skb i 1 (skb.byte i)
    if tag = 0 then pure (some i)
    else do
      let len ← readFrame skb (i + 1) 1 (skb.byte (i + 1))
      readFindSsid skb (i + 2 + len.toNat)
  else pure none
termination_by skb.len - i

/-- `strncmp` of the bytes of the frame from `off` on with a string. -/
def readStrncmp (skb : SkBuff) : ℕ → List UInt8 → ℕ → Traced Bool
  | _, _, 0 => pure true
  | off, cur, n + 1 => do
    let c ← readFrame skb off 1 (skb.byte off)
    if c ≠ at8 cur 0 then pure false
    else if c = 0 then pure true
    else readStrncmp skb (off + 1) cur.tail n

/-- `probe_rq_parse`, where `current_network.ssid` holds `cur`. -/
def readProbeRqParse (env : Env) (cur : List UInt8) (skb : SkBuff) : Traced (Bool × Mac) :=
  if skb.len < dataHdr3Len then pure (true, env.stack)
  else do
    let src ← readHdr skb 10 6 addr2
    match ← readFindSsid skb dataHdr3Len with
    | none => pure (true, src)
    | some i => do
      let ssidlen ← readFrame skb (i + 1) 1 (skb.byte (i + 1))
      if ssidlen = 0 then pure (true, src)
      else do
        let same ← readStrncmp skb (i + 2) cur ssidlen.toNat
        pure (same, src)

/-! ### They are the parsers -/

section

variable (skb : SkBuff)

theorem readAuthParse_value : (readAuthParse skb).value = authParse skb := by
  unfold readAuthParse authParse
  simp only [Traced.value_ite, Traced.value_pure, Traced.value_bind, readFrame_value]
  split_ifs <;> simp_all

theorem readAssocParse_value : (readAssocParse skb).value = assocParse skb := by
  unfold readAssocParse assocParse
  rw [Traced.value_ite]
  rfl

theorem readAuthRqParse_value : (readAuthRqParse skb).value = authRqParse skb := by
  unfold readAuthRqParse authRqParse
  rw [Traced.value_ite, Traced.value_bind, Traced.value_bind, readHdr_value, readHdr_value, Traced.value_ite]
  rfl

theorem readAssocRqParse_value : (readAssocRqParse skb).value = assocRqParse skb := by
  unfold readAssocRqParse assocRqParse
  rw [Traced.value_ite]
  rfl

theorem readFindSsid_value (i : ℕ) : (readFindSsid skb i).value = findSsid skb i := by
  induction i using findSsid.induct skb with
  | case1 i hi htag =>
    rw [readFindSsid, findSsid, if_pos hi, if_pos hi, if_pos htag, Traced.value_bind, readFrame_value, if_pos htag,
      Traced.value_pure]
  | case2 i hi htag ih =>
    rw [readFindSsid, findSsid, if_pos hi, if_pos hi, if_neg htag, Traced.value_bind, readFrame_value, if_neg htag,
      Traced.value_bind, readFrame_value, ih]
  | case3 i hi =>
    rw [readFindSsid, findSsid, if_neg hi, if_neg hi, Traced.value_pure]

theorem readStrncmp_value (off : ℕ) (cur : List UInt8) (n : ℕ) :
    (readStrncmp skb off cur n).value = strncmpEq (skb.mem.drop off) cur n := by
  induction n generalizing off cur with
  | zero => rfl
  | succ n ih =>
    have hbyte : at8 (skb.mem.drop off) 0 = skb.byte off := at8_drop ..
    rw [readStrncmp, strncmpEq, Traced.value_bind, readFrame_value, Traced.value_ite, Traced.value_ite, ih, hbyte,
      List.tail_drop]
    rfl

theorem readProbeRqParse_value (env : Env) (d : Device P) :
    (readProbeRqParse env d.currentNetwork.ssid skb).value = probeRqParse env d skb := by
  unfold readProbeRqParse probeRqParse
  rw [Traced.value_ite, Traced.value_bind, Traced.value_bind, readFindSsid_value]
  cases findSsid skb dataHdr3Len with
  | none => rfl
  | some i =>
    dsimp only
    rw [Traced.value_bind, readFrame_value, Traced.value_ite, Traced.value_bind, readStrncmp_value]
    by_cases hzero : skb.byte (i + 1) = 0
    · simp [hzero]
    · have hne : ((skb.byte (i + 1)).toNat == 0) = false := by
        simpa [← UInt8.toNat_inj] using hzero
      simp [hzero, hne]

end

/-! ### Where they are safe -/

/-- The status is in the frame, and so is the challenge text, if there is one. -/
structure AuthFits (skb : SkBuff) : Prop where
  status : skb.len < 28 ∨ 30 ≤ skb.len
  challenge : 33 < skb.len → skb.byte 30 = mfieTypeChallenge → 32 + (skb.byte 31).toNat ≤ skb.len

/-- The `n` bytes from `off` on are in the frame, or one that is ends the comparison
with `cur`: it is another one, or a NUL. -/
def CompareFits (skb : SkBuff) (off : ℕ) (cur : List UInt8) (n : ℕ) : Prop :=
  off + n ≤ skb.len ∨ ∃ j < n, off + j < skb.len ∧ (skb.byte (off + j) ≠ at8 cur j ∨ skb.byte (off + j) = 0)

/-- The comparison of the SSID ends in the frame. -/
def ProbeFits (cur : List UInt8) (skb : SkBuff) : Prop :=
  ∀ i ∈ findSsid skb dataHdr3Len, CompareFits skb (i + 2) cur (skb.byte (i + 1)).toNat

/-- All five parsers read bytes of the frame only. -/
structure ParsersInside (env : Env) (cur : List UInt8) (skb : SkBuff) : Prop where
  auth : (readAuthParse skb).All Access.Safe
  authRq : (readAuthRqParse skb).All Access.Safe
  assoc : (readAssocParse skb).All Access.Safe
  assocRq : (readAssocRqParse skb).All Access.Safe
  probeRq : (readProbeRqParse env cur skb).All Access.Safe

section

variable (skb : SkBuff)

theorem readAssocParse_safe : (readAssocParse skb).All Access.Safe := by
  refine (Traced.all_ite _ _ _).mpr ⟨fun _ => Traced.pure_all _, fun hlen => ?_⟩
  have hlong := not_lt.mp hlen
  refine (Traced.all_bind _ _).mpr ⟨readHdr_safe hlong (by decide) _, ?_⟩
  exact (Traced.all_bind _ _).mpr ⟨readHdr_safe hlong (by decide) _, Traced.pure_all _⟩

theorem readAuthRqParse_safe : (readAuthRqParse skb).All Access.Safe := by
  refine (Traced.all_ite _ _ _).mpr ⟨fun _ => Traced.pure_all _, fun hlen => ?_⟩
  have hlong := not_lt.mp hlen
  refine (Traced.all_bind _ _).mpr ⟨readHdr_safe hlong (by decide) _, ?_⟩
  refine (Traced.all_bind _ _).mpr ⟨readHdr_safe hlong (by decide) _, ?_⟩
  exact (Traced.all_ite _ _ _).mpr ⟨fun _ => Traced.pure_all _, fun _ => Traced.pure_all _⟩

theorem readAssocRqParse_safe : (readAssocRqParse skb).All Access.Safe := by
  refine (Traced.all_ite _ _ _).mpr ⟨fun _ => Traced.pure_all _, fun hlen => ?_⟩
  exact (Traced.all_bind _ _).mpr ⟨readHdr_safe (not_lt.mp hlen) (by decide) _, Traced.pure_all _⟩

theorem readAuthParse_safe_iff : (readAuthParse skb).All Access.Safe ↔ AuthFits skb := by
  have hstatus : ∀ text : Option (List UInt8),
      (readFrame skb 28 2 (get16 skb.mem 28) >>= fun status => pure (status, text)).All Access.Safe ↔
        30 ≤ skb.len := by
    intro text
    rw [Traced.all_bind, readFrame_safe_iff skb Nat.two_pos, and_iff_left (Traced.pure_all _)]
  have htext : ∀ n (a : List UInt8), 33 < skb.len →
      ((readFrame skb 32 n a).All Access.Safe ↔ 32 + n ≤ skb.len) := by
    intro n a hlen
    rcases Nat.eq_zero_or_pos n with rfl | hn
    · exact iff_of_true (fun acc hacc => absurd hacc List.not_mem_nil) (by omega)
    · exact readFrame_safe_iff skb hn a
  unfold readAuthParse
  by_cases hshort : skb.len < 28
  · rw [if_pos hshort]
    exact iff_of_true (Traced.pure_all _) ⟨Or.inl hshort, fun h => by omega⟩
  rw [if_neg hshort]
  by_cases hlong : 33 < skb.len
  · have hin : 30 + 1 ≤ skb.len ∧ 31 + 1 ≤ skb.len ∧ 30 ≤ skb.len := by omega
    rw [if_pos hlong, Traced.all_bind, readFrame_safe_iff skb Nat.one_pos, and_iff_right hin.1, readFrame_value]
    by_cases hid : skb.byte 30 = mfieTypeChallenge
    · rw [if_pos hid, Traced.all_bind, readFrame_safe_iff skb Nat.one_pos, and_iff_right hin.2.1, readFrame_value,
        Traced.all_bind, htext _ _ hlong, hstatus, and_iff_left hin.2.2]
      exact ⟨fun h => ⟨Or.inr hin.2.2, fun _ _ => h⟩, fun h => h.challenge hlong hid⟩
    · rw [if_neg hid, hstatus]
      exact iff_of_true hin.2.2 ⟨Or.inr hin.2.2, fun _ h => absurd h hid⟩
  · rw [if_neg hlong, hstatus]
    exact ⟨fun h => ⟨Or.inr h, fun h' => absurd h' hlong⟩, fun h => h.status.resolve_left hshort⟩

/-- The walk stays inside, and where it ends there is a length byte. -/
theorem readFindSsid_safe (i : ℕ) : (readFindSsid skb i).All Access.Safe ∧
    ∀ k ∈ findSsid skb i, k + 2 ≤ skb.len := by
  induction i using findSsid.induct skb with
  | case1 i hi htag =>
    rw [readFindSsid, findSsid, if_pos hi, if_pos hi, if_pos htag]
    constructor
    · refine (Traced.all_bind _ _).mpr ⟨readFrame_safe skb _ (by omega), ?_⟩
      rw [readFrame_value, if_pos htag]
      exact Traced.pure_all _
    · rintro _ ⟨⟩
      exact hi
  | case2 i hi htag ih =>
    rw [readFindSsid, findSsid, if_pos hi, if_pos hi, if_neg htag]
    refine ⟨(Traced.all_bind _ _).mpr ⟨readFrame_safe skb _ (by omega), ?_⟩, ih.2⟩
    rw [readFrame_value, if_neg htag]
    exact (Traced.all_bind _ _).mpr ⟨readFrame_safe skb _ hi, ih.1⟩
  | case3 i hi =>
    rw [readFindSsid, findSsid, if_neg hi, if_neg hi]
    exact ⟨Traced.pure_all _, nofun⟩

/-- **The comparison** is inside if the bytes it is bounded by are, or one of them
ends it. -/
theorem readStrncmp_safe_iff {off : ℕ} (cur : List UInt8) (n : ℕ) (hoff : off ≤ skb.len) :
    (readStrncmp skb off cur n).All Access.Safe ↔ CompareFits skb off cur n := by
  induction n generalizing off cur with
  | zero => exact iff_of_true (Traced.pure_all _) (Or.inl hoff)
  | succ n ih =>
    rw [readStrncmp, Traced.all_bind, readFrame_safe_iff skb Nat.one_pos, readFrame_value]
    by_cases hin : off + 1 ≤ skb.len
    · rw [and_iff_right hin]
      by_cases hdiff : skb.byte off ≠ at8 cur 0
      · rw [if_pos hdiff]
        exact iff_of_true (Traced.pure_all _) (Or.inr ⟨0, Nat.succ_pos n, hin, Or.inl hdiff⟩)
      rw [if_neg hdiff]
      by_cases hnul : skb.byte off = 0
      · rw [if_pos hnul]
        exact iff_of_true (Traced.pure_all _) (Or.inr ⟨0, Nat.succ_pos n, hin, Or.inr hnul⟩)
      rw [if_neg hnul, ih cur.tail hin]
      constructor
      · rintro (hall | ⟨j, hj, hlt, hend⟩)
        · exact Or.inl (by omega)
        · rw [at8_tail, Nat.add_right_comm, Nat.add_assoc] at hend
          exact Or.inr ⟨j + 1, Nat.succ_lt_succ hj, by omega, hend⟩
      · rintro (hall | ⟨j, hj, hlt, hend⟩)
        · exact Or.inl (by omega)
        · cases j with
          | zero => exact absurd hend (not_or.mpr ⟨hdiff, hnul⟩)
          | succ j =>
            refine Or.inr ⟨j, Nat.lt_of_succ_lt_succ hj, by omega, ?_⟩
            rw [at8_tail, Nat.add_right_comm, Nat.add_assoc]
            exact hend
    · refine iff_of_false (fun h => hin h.1) ?_
      rintro (hall | ⟨j, -, hlt, -⟩) <;> omega

theorem readProbeRqParse_safe_iff (env : Env) (cur : List UInt8) (hlen : dataHdr3Len ≤ skb.len) :
    (readProbeRqParse env cur skb).All Access.Safe ↔ ProbeFits cur skb := by
  have hthree : dataHdr3Len = 24 := rfl
  obtain ⟨hwalk, hend⟩ := readFindSsid_safe skb dataHdr3Len
  unfold readProbeRqParse ProbeFits
  rw [if_neg (not_lt.mpr hlen), Traced.all_bind, and_iff_right (readHdr_safe hlen (by decide) _), Traced.all_bind,
    and_iff_right hwalk, readFindSsid_value]
  cases hfound : findSsid skb dataHdr3Len with
  | none => exact iff_of_true (Traced.pure_all _) nofun
  | some i =>
    have hi : i + 2 ≤ skb.len := hend i hfound
    dsimp only
    rw [Traced.all_bind, and_iff_right (readFrame_safe skb (i := i + 1) (n := 1) _ hi), readFrame_value]
    simp only [Option.mem_some_iff, forall_eq']
    by_cases hzero : skb.byte (i + 1) = 0
    · rw [if_pos hzero, hzero]
      exact iff_of_true (Traced.pure_all _) (Or.inl hi)
    · rw [if_neg hzero, Traced.all_bind, and_iff_left (Traced.pure_all _), readStrncmp_safe_iff skb cur _ hi]

/-- **When the parsers stay in the frame.** -/
theorem parsersInside_iff (env : Env) (cur : List UInt8) (hlen : dataHdr3Len ≤ skb.len) :
    ParsersInside env cur skb ↔ AuthFits skb ∧ ProbeFits cur skb := by
  rw [← readAuthParse_safe_iff, ← readProbeRqParse_safe_iff skb env cur hlen]
  constructor
  · exact fun h => ⟨h.auth, h.probeRq⟩
  · exact fun h => ⟨h.1, readAuthRqParse_safe skb, readAssocParse_safe skb, readAssocRqParse_safe skb, h.2⟩

end

/-- A probe request for an SSID of six bytes. -/
def sixProbe : SkBuff := ⟨0, List.replicate 24 0 ++ [0, 6, 0x72, 0x61, 0x6c, 0x69, 0x6e, 0x6b], []⟩

theorem sixProbe_ssid : findSsid sixProbe dataHdr3Len = some dataHdr3Len := by
  rw [findSsid]
  rfl

theorem sixProbe_inside :
    ParsersInside ⟨0, true, fun _ => false, ⟨0, 0, 0, 0, 0, 0⟩⟩ (List.replicate 33 0) sixProbe := by
  refine (parsersInside_iff _ _ _ (by decide)).mpr ⟨⟨Or.inr (by decide), fun h => absurd h (by decide)⟩, ?_⟩
  intro i hi
  rw [sixProbe_ssid] at hi
  cases hi
  exact Or.inl (by decide)

/-- A challenge text of 255 bytes, of which two have come. -/
def shortChallenge : SkBuff := ⟨0, List.replicate 30 0 ++ [16, 255, 0, 0], []⟩

/-- The others are read behind the frame. -/
theorem shortChallenge_not_inside : ¬ ∀ (env : Env) (cur : List UInt8) (skb : SkBuff), dataHdr3Len ≤ skb.len →
    ParsersInside env cur skb := by
  intro h
  have hinside := (h ⟨0, true, fun _ => false, ⟨0, 0, 0, 0, 0, 0⟩⟩ [] shortChallenge (by decide)).auth
  have hfits := (readAuthParse_safe_iff shortChallenge).mp hinside
  exact absurd (hfits.challenge (by decide) (by decide)) (by decide)

end Rtl8187

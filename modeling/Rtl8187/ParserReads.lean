/-
# What the parser of beacons reads

`ieee80211_network_init` once more, with the accesses it makes: a byte of the
fixed part is to lie inside the frame, a byte of an element inside the frame
and that element, and `left` is not to go below zero. The frame is checked for
none of its fixed part, the DS element not for its one byte, and the bound of
the TIM element admits the byte behind it; in all other cases the accesses are
safe (`readNetworkInit_safe_iff`).

The debug output reads its arguments only if the level, which may be set at any
time, has the bit of the message. Here that is the byte of the DS element, on
any band.

Key definitions: `readDebug`, `Element`, `elements`, `readElement`,
`readNetworkInit`, `ElementOk`, `ElementReads`.
Key theorems: `readNetworkInit_value`, `readNetworkInit_safe_iff`.
-/
import Rtl8187.Survey
import Rtl8187.Lib.Traced

namespace Rtl8187

open Bytes

variable {P : Type}

/-- An information element: its identifier, and the bytes from its body on. -/
structure Element where
  id : UInt8
  info : ℕ → UInt8
  len : ℕ

/-- The elements the loop comes to, from offset `off` on with `left` bytes to
go: up to one that runs past the end. -/
def elements (skb : SkBuff) (off left : ℕ) : List Element :=
  if left < 2 then []
  else
    let len := (skb.byte (off + 1)).toNat
    if left < 2 + len then []
    else ⟨skb.byte off, fun i => skb.byte (off + 2 + i), len⟩ ::
      elements skb (off + 2 + len) (left - (2 + len))
termination_by left

/-! ### The debug output -/

/-- The bits of `ieee80211_debug_level` whose messages read of frames. -/
def dlScan : UInt32 := (1 : UInt32) <<< 2
def dlEap : UInt32 := (1 : UInt32) <<< 6
def dlDrop : UInt32 := (1 : UInt32) <<< 7

/-- `IEEE80211_DEBUG`, which reads what it prints only at a level with the bit `dl`. -/
def readDebug (level dl : UInt32) (args : Traced Unit) : Traced Unit :=
  if level &&& dl ≠ 0 then args else pure ()

@[simp] theorem readDebug_all {p : Access → Prop} (level dl : UInt32) (args : Traced Unit) :
    (readDebug level dl args).All p ↔ (level &&& dl ≠ 0 → args.All p) := by
  unfold readDebug
  rw [Traced.all_ite, Traced.all_pure]
  exact and_iff_left fun _ => trivial

/-! ### The parser, with its accesses -/

/-- The `n` bytes of the frame from offset `i` on are read, which give `a`. -/
def readFrame {α : Type} (skb : SkBuff) (i n : ℕ) (a : α) : Traced α :=
  Traced.ofLog ((List.range n).map fun k => .read (i + k) 0 skb.len) a

/-- The byte `i` of the body of the element at offset `off`, of `len` bytes. -/
def readInfo (skb : SkBuff) (off len i : ℕ) : Traced UInt8 :=
  Traced.ofLog [.read (off + 2 + i) (off + 2) (min (off + 2 + len) skb.len)] (skb.byte (off + 2 + i))

/-- The first `n` bytes of a body. -/
def readBody (info : ℕ → Traced UInt8) (n : ℕ) : Traced (List UInt8) := (List.range n).mapM info

/-- The case `MFIE_TYPE_TIM`. -/
def readTim (d : Device P) (stats : RxStats) (info : ℕ → Traced UInt8) (len : ℕ) (net : HeardNetwork) :
    Traced HeardNetwork :=
  if len < 4 then pure net
  else do
    let period ← info 1
    let net := { net with dtimPeriod := period }
    if d.state ≠ .linked then pure net
    else do
      let net := { net with lastDtimStaTime := stats.macTime, dtimData := dtimValid }
      let count ← info 0
      if count ≠ 0 then pure net
      else do
        let control ← info 2
        let net := if control &&& 1 ≠ 0 then { net with dtimData := net.dtimData ||| dtimMbcast } else net
        let offset := (control >>> 1).toNat * 2
        let id := d.assocId.toNat
        if id < 8 * offset ∨ 8 * (offset + len - 3) < id then pure net
        else do
          let bits ← info (3 + (id / 8 - offset))
          if bits &&& (1 <<< UInt8.ofNat (id % 8)) ≠ 0 then
            pure { net with dtimData := net.dtimData ||| dtimUcast }
          else pure net

/-- The `switch` on an element. -/
def readElement (level : UInt32) (d : Device P) (stats : RxStats) (id : UInt8)
    (info : ℕ → Traced UInt8) (len : ℕ) (net : HeardNetwork) : Traced HeardNetwork :=
  let element (n : ℕ) : Traced (List UInt8) := do
    let bs ← readBody info (n - 2)
    pure ([id, UInt8.ofNat len] ++ bs)
  if id = mfieTypeSsid then do
    let essid ← readBody info len
    if isEmptyEssid essid then pure { net with emptyEssid := true }
    else do
      let n := min len iwEssidMaxSize
      let bs ← readBody info n
      pure (net.setSsid (bs ++ List.replicate (iwEssidMaxSize - n) 0 ++ net.ssidBuf.drop iwEssidMaxSize) n)
  else if id = mfieTypeRates then do
    let rates ← readBody info (min len maxRatesLength)
    pure (rates.foldl noteRate { net with rates := rates })
  else if id = mfieTypeRatesEx then do
    let rates ← readBody info (min len maxRatesExLength)
    pure (rates.foldl noteRate { net with ratesEx := rates })
  else if id = mfieTypeDsSet then do
    readDebug level dlScan (info 0 >>= fun _ => pure ())
    if stats.freq = band24Ghz then do
      let channel ← info 0
      pure { net with channel := channel }
    else pure net
  else if id = mfieTypeTim then readTim d stats info len net
  else if id = mfieTypeGeneric then
    if 4 ≤ len then do
      let oui ← readBody info 4
      if oui = [0x00, 0x50, 0xf2, 0x01] then do
        let bs ← element (min (len + 2) maxWpaIeLen)
        pure { net with wpaIe := bs }
      else pure net
    else pure net
  else if id = mfieTypeRsn then do
    let bs ← element (min (len + 2) maxWpaIeLen)
    pure { net with rsnIe := bs }
  else pure net

/-- The loop over the elements. -/
def readElements (level : UInt32) (d : Device P) (stats : RxStats) (skb : SkBuff) (off left : ℕ)
    (net : HeardNetwork) : Traced (Option HeardNetwork) :=
  if left < 2 then pure (some net)
  else do
    let head ← readFrame skb off 2 (skb.byte off, skb.byte (off + 1))
    let len := (skb.byte (off + 1)).toNat
    if left < 2 + len then pure none
    else do
      let net ← readElement level d stats head.1 (readInfo skb off len) len net
      Traced.sub left (2 + len)
      readElements level d stats skb (off + 2 + len) (left - (2 + len)) net
termination_by left

/-- `ieee80211_network_init` -/
def readNetworkInit (level : UInt32) (env : Env) (d : Device P) (skb : SkBuff) (stats : RxStats)
    (stack : HeardNetwork) : Traced (Option HeardNetwork) := do
  let bssid ← readFrame skb 16 6 (addr3 skb.mem)
  let capability ← readFrame skb 34 2 (get16 skb.mem 34)
  -- `time_stamp`, which nothing else here uses
  readFrame skb 24 8 ()
  let beaconInterval ← readFrame skb 32 2 (get16 skb.mem 32)
  let net := { stack.setSsid stack.ssidBuf 0 with
    bssid := bssid
    capability := capability
    lastScanned := env.now
    beaconInterval := beaconInterval
    rates := []
    ratesEx := []
    emptyEssid := false
    hasOfdm := false
    hasCck := stats.freq != band52Ghz
    atimWindow := 0
    channel := if stats.freq = band52Ghz then stats.receivedChannel else stack.channel
    wpaIe := []
    rsnIe := [] }
  Traced.sub (skb.len % 65536) mgmtFrameFixedPartLength
  let left := (skb.len + 65536 - mgmtFrameFixedPartLength) % 65536
  let parsed ← readElements level d stats skb mgmtFrameFixedPartLength left net
  pure (parsed.bind fun net =>
    let mode :=
      if stats.freq = band52Ghz then ieeeA
      else (if net.hasOfdm then ieeeG else 0) ||| (if net.hasCck then ieeeB else 0)
    if mode = 0 then none
    else some { net with mode := mode, emptyEssid := net.emptyEssid || isEmptyEssid net.ssid })

/-! ### It is the parser -/

section

variable (level : UInt32) (d : Device P) (stats : RxStats) (id : UInt8) (info : ℕ → Traced UInt8)
  (len : ℕ) (net : HeardNetwork)

theorem readBody_value (n : ℕ) :
    (readBody info n).value = (List.range n).map fun i => (info i).value := Traced.value_mapM info _

theorem readTim_value :
    (readTim d stats info len net).value = parseTim d stats (fun i => (info i).value) len net := by
  unfold readTim parseTim
  simp only [Traced.value_ite, Traced.value_bind, Traced.value_pure]

theorem readElement_value :
    (readElement level d stats id info len net).value =
      parseElement d stats id (fun i => (info i).value) len net := by
  have helement : ([id, UInt8.ofNat len] ++ (List.range len).map fun i => (info i).value).take
      (min (len + 2) maxWpaIeLen) = [id, UInt8.ofNat len] ++
        (List.range (min (len + 2) maxWpaIeLen - 2)).map fun i => (info i).value := by
    obtain ⟨k, hk⟩ : ∃ k, min (len + 2) maxWpaIeLen = k + 2 :=
      Nat.exists_eq_add_of_le' (le_min (Nat.le_add_left 2 len) (by decide))
    have hlen : k ≤ len := by
      have hle := min_le_left (len + 2) maxWpaIeLen
      omega
    rw [hk, Nat.add_sub_cancel, List.cons_append, List.cons_append, List.take_succ_cons,
      List.take_succ_cons, List.nil_append, ← List.map_take, List.take_range, min_eq_left hlen]
    rfl
  unfold readElement parseElement
  simp only [Traced.value_ite, Traced.value_bind, Traced.value_pure, readBody_value, readTim_value,
    helement, ite_and]

theorem readElements_value (skb : SkBuff) (off left : ℕ) :
    (readElements level d stats skb off left net).value = parseElements d stats skb off left net := by
  fun_induction parseElements d stats skb off left net with
  | case1 off left net hleft => rw [readElements, if_pos hleft, Traced.value_pure]
  | case2 off left net hleft len hshort =>
    rw [readElements, if_neg hleft, Traced.value_bind]
    exact congrArg Traced.value (if_pos hshort)
  | case3 off left net hleft len hlong ih =>
    rw [readElements, if_neg hleft, Traced.value_bind]
    refine (congrArg Traced.value (if_neg hlong)).trans ?_
    rw [Traced.value_bind, Traced.value_bind, readElement_value]
    exact ih

/-- The value is the parser's. -/
theorem readNetworkInit_value (env : Env) (skb : SkBuff) (stack : HeardNetwork) :
    (readNetworkInit level env d skb stats stack).value = networkInit env d skb stats stack := by
  unfold readNetworkInit networkInit
  simp only [Traced.value_bind, Traced.value_pure, readElements_value]
  rfl

end

/-! ### Which accesses are safe -/

/-- The case `MFIE_TYPE_TIM` reads the byte behind the body: the bound on
`assoc_id` admits the first identifier the bitmap has no bit for. -/
def TimEdge (d : Device P) (info : ℕ → UInt8) (len : ℕ) : Prop :=
  4 ≤ len ∧ d.state = .linked ∧ info 0 = 0 ∧
    d.assocId.toNat = 8 * ((info 2 >>> 1).toNat * 2 + len - 3)

/-- The element is read inside its body: a DS element has its byte, a TIM
element is no edge case. -/
def ElementOk (d : Device P) (stats : RxStats) (e : Element) : Prop :=
  (e.id = mfieTypeDsSet → stats.freq = band24Ghz → 0 < e.len) ∧
    (e.id = mfieTypeTim → ¬ TimEdge d e.info e.len)

/-- The message on a DS element reads its byte on the other bands too. -/
def ElementReads (level : UInt32) (d : Device P) (stats : RxStats) (e : Element) : Prop :=
  ElementOk d stats e ∧ (e.id = mfieTypeDsSet → level &&& dlScan ≠ 0 → 0 < e.len)

section

variable {level : UInt32} {d : Device P} {stats : RxStats} {id : UInt8} {info : ℕ → Traced UInt8}
  {len : ℕ} {net : HeardNetwork}

theorem readBody_safe (hinfo : ∀ i, (info i).All Access.Safe ↔ i < len) {n : ℕ} (hn : n ≤ len) :
    (readBody info n).All Access.Safe :=
  (Traced.all_mapM info _).mpr fun i hi => (hinfo i).mpr ((List.mem_range.mp hi).trans_le hn)

theorem readTim_safe_iff (hinfo : ∀ i, (info i).All Access.Safe ↔ i < len) :
    (readTim d stats info len net).All Access.Safe ↔ ¬ TimEdge d (fun i => (info i).value) len := by
  unfold readTim TimEdge
  simp only [Traced.all_ite, Traced.all_bind, Traced.all_pure, hinfo, implies_true, true_and, and_true]
  generalize ((info 2).value >>> 1).toNat * 2 = offset
  constructor
  · rintro h ⟨hlen, hlinked, hcount, hid⟩
    obtain ⟨-, hstate⟩ := h (by omega)
    obtain ⟨-, hzero⟩ := hstate (not_not.mpr hlinked)
    obtain ⟨-, hbit⟩ := hzero (not_not.mpr hcount)
    have hlt := hbit (by omega)
    omega
  · intro h hlen
    refine ⟨by omega, fun hlinked => ⟨by omega, fun hcount => ⟨by omega, fun hid => ?_⟩⟩⟩
    have hne : d.assocId.toNat ≠ 8 * (offset + len - 3) := fun heq =>
      h ⟨by omega, not_not.mp hlinked, not_not.mp hcount, heq⟩
    omega

/-- Neither a DS nor a TIM element. -/
theorem elementReads_of_ne {info : ℕ → UInt8} (hds : id ≠ mfieTypeDsSet) (htim : id ≠ mfieTypeTim) :
    ElementReads level d stats ⟨id, info, len⟩ :=
  ⟨⟨fun h => absurd h hds, fun h => absurd h htim⟩, fun h => absurd h hds⟩

theorem readElement_safe_iff (hinfo : ∀ i, (info i).All Access.Safe ↔ i < len) :
    (readElement level d stats id info len net).All Access.Safe ↔
      ElementReads level d stats ⟨id, fun i => (info i).value, len⟩ := by
  have hbody : ∀ {n}, n ≤ len → (readBody info n).All Access.Safe := readBody_safe hinfo
  have hcut : min (len + 2) maxWpaIeLen - 2 ≤ len := by
    have hle := min_le_left (len + 2) maxWpaIeLen
    omega
  unfold readElement
  by_cases hssid : id = mfieTypeSsid
  · refine iff_of_true ?_ (elementReads_of_ne (by rw [hssid]; decide) (by rw [hssid]; decide))
    simp [if_pos hssid, hbody, Traced.all_ite]
  by_cases hrates : id = mfieTypeRates
  · refine iff_of_true ?_ (elementReads_of_ne (by rw [hrates]; decide) (by rw [hrates]; decide))
    simp [if_neg hssid, if_pos hrates, hbody]
  by_cases hratesEx : id = mfieTypeRatesEx
  · refine iff_of_true ?_ (elementReads_of_ne (by rw [hratesEx]; decide) (by rw [hratesEx]; decide))
    simp [if_neg hssid, if_neg hrates, if_pos hratesEx, hbody]
  rw [if_neg hssid, if_neg hrates, if_neg hratesEx]
  by_cases hds : id = mfieTypeDsSet
  · rw [if_pos hds]
    have htim : id ≠ mfieTypeTim := by rw [hds]; decide
    have hreads : ElementReads level d stats ⟨id, fun i => (info i).value, len⟩ ↔
        (level &&& dlScan ≠ 0 → 0 < len) ∧ (stats.freq = band24Ghz → 0 < len) :=
      ⟨fun h => ⟨h.2 hds, h.1.1 hds⟩, fun h => ⟨⟨fun _ => h.2, fun ht => absurd ht htim⟩, fun _ => h.1⟩⟩
    rw [hreads, Traced.all_bind, readDebug_all, Traced.all_bind, Traced.all_ite, Traced.all_bind, hinfo]
    simp
  rw [if_neg hds]
  by_cases htim : id = mfieTypeTim
  · rw [if_pos htim, readTim_safe_iff hinfo]
    exact ⟨fun h => ⟨⟨fun hd => absurd hd hds, fun _ => h⟩, fun hd => absurd hd hds⟩, fun h => h.1.2 htim⟩
  -- the others are read inside their bodies
  refine iff_of_true ?_ (elementReads_of_ne hds htim)
  rw [if_neg htim]
  by_cases hgeneric : id = mfieTypeGeneric
  · rw [if_pos hgeneric]
    by_cases hlong : 4 ≤ len
    · simp [hlong, hbody hlong, hbody hcut, Traced.all_ite]
    · simp [hlong]
  rw [if_neg hgeneric]
  by_cases hrsn : id = mfieTypeRsn
  · simp [hrsn, hbody hcut]
  · simp [hrsn]

theorem readFrame_safe {α : Type} (skb : SkBuff) {i n : ℕ} (a : α) (h : i + n ≤ skb.len) :
    (readFrame skb i n a).All Access.Safe := by
  intro acc hacc
  obtain ⟨k, hk, rfl⟩ := List.mem_map.mp hacc
  have hlt := List.mem_range.mp hk
  exact ⟨Nat.zero_le _, by omega⟩

theorem readInfo_safe_iff (skb : SkBuff) {off len : ℕ} (h : off + 2 + len ≤ skb.len) (i : ℕ) :
    (readInfo skb off len i).All Access.Safe ↔ i < len := by
  refine List.forall_mem_singleton.trans ?_
  rw [Access.Safe, min_eq_left h]
  omega

/-- The loop is safe exactly if every element it comes to is in order. -/
theorem readElements_safe_iff (skb : SkBuff) (off left : ℕ) (hleft : off + left ≤ skb.len) :
    (readElements level d stats skb off left net).All Access.Safe ↔
      ∀ e ∈ elements skb off left, ElementReads level d stats e := by
  induction left using Nat.strong_induction_on generalizing off net with
  | _ left ih =>
    rw [readElements, elements]
    by_cases hend : left < 2
    · simp [hend]
    · have hhead : (readFrame skb off 2 (skb.byte off, skb.byte (off + 1))).All Access.Safe :=
        readFrame_safe skb _ (by omega)
      rw [if_neg hend, if_neg hend, Traced.all_bind]
      refine (and_iff_right hhead).trans ?_
      dsimp only
      by_cases hlong : left < 2 + (skb.byte (off + 1)).toNat
      · simp [hlong]
      · have hbody := readInfo_safe_iff skb (by omega : off + 2 + (skb.byte (off + 1)).toNat ≤ skb.len)
        rw [if_neg hlong, if_neg hlong, Traced.all_bind, readElement_safe_iff hbody, Traced.all_bind,
          Traced.all_sub, List.forall_mem_cons]
        exact and_congr_right' ((and_iff_right (Nat.not_lt.mp hlong)).trans (ih _ (by omega) _ (by omega)))

/-- **The accesses of the parser.** They are safe exactly if the frame has its
fixed part, as far as its 16-bit length says, and every element the parser
comes to is read inside its body. -/
theorem readNetworkInit_safe_iff (level : UInt32) (env : Env) (d : Device P) (skb : SkBuff)
    (stats : RxStats) (stack : HeardNetwork) :
    (readNetworkInit level env d skb stats stack).All Access.Safe ↔
      mgmtFrameFixedPartLength ≤ skb.len % 65536 ∧
        ∀ e ∈ elements skb mgmtFrameFixedPartLength (skb.len % 65536 - mgmtFrameFixedPartLength),
          ElementReads level d stats e := by
  unfold readNetworkInit
  simp only [Traced.all_bind, Traced.all_pure, Traced.all_sub, and_true]
  by_cases hfixed : mgmtFrameFixedPartLength ≤ skb.len % 65536
  · have hmod := Nat.mod_le skb.len 65536
    have hlen : 36 ≤ skb.len := hfixed.trans hmod
    have hleft : (skb.len + 65536 - mgmtFrameFixedPartLength) % 65536 =
        skb.len % 65536 - mgmtFrameFixedPartLength := by
      unfold mgmtFrameFixedPartLength at hfixed ⊢
      omega
    have hinside : mgmtFrameFixedPartLength + (skb.len % 65536 - mgmtFrameFixedPartLength) ≤ skb.len := by
      omega
    have hread : ∀ {α : Type} (i n : ℕ) (a : α), i + n ≤ 36 → (readFrame skb i n a).All Access.Safe :=
      fun i n a h => readFrame_safe skb a (h.trans hlen)
    rw [hleft, readElements_safe_iff skb _ _ hinside]
    simp only [hread _ _ _ (by decide : 16 + 6 ≤ 36), hread _ _ _ (by decide : 34 + 2 ≤ 36),
      hread _ _ _ (by decide : 24 + 8 ≤ 36), hread _ _ _ (by decide : 32 + 2 ≤ 36), true_and]
    rfl
  · refine iff_of_false (fun h => hfixed ?_) fun h => hfixed h.1
    exact h.2.2.2.2.1

end

/-- A beacon that ends with a DS element of no bytes. -/
def emptyDsBeacon : SkBuff := ⟨0, 0x80 :: List.replicate 35 0 ++ [mfieTypeDsSet, 0], [36]⟩

/-- The channel is the byte behind that frame. -/
theorem emptyDsBeacon_not_safe : ¬ ∀ (level : UInt32) (env : Env) (d : Device Unit) (skb : SkBuff)
    (stats : RxStats) (stack : HeardNetwork), 24 ≤ skb.len →
      (readNetworkInit level env d skb stats stack).All Access.Safe := by
  intro h
  have hsafe := h 0 ⟨0, false, fun _ => false, ⟨0, 0, 0, 0, 0, 0⟩⟩ (Device.init Unit ⟨250, true⟩ ⟨2, 0, 0, 0, 0, 1⟩)
    emptyDsBeacon ⟨band24Ghz, 0, (0, 0)⟩ .zeroed (by decide)
  obtain ⟨-, helements⟩ := (readNetworkInit_safe_iff _ _ _ _ _ _).mp hsafe
  have hds := helements ⟨mfieTypeDsSet, fun i => emptyDsBeacon.byte (38 + i), 0⟩ (by
    rw [elements]
    exact List.mem_cons_self)
  exact absurd (hds.1.1 rfl rfl) (by decide)

end Rtl8187

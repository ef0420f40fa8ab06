/-
# Traffic indication

What a beacon says about frames that wait for the station. A TIM element
carries the octets of the access point's virtual bitmap from an even one on, as
many as there are behind its first three bytes; the other octets are clear.
`ieee80211_network_init` (`ieee80211_rx.c`) notes in `dtim_data` whether the bit
of the station's association id is set.

The test that the id lies in the part transmitted lets one id too many pass,
the first behind the last octet; its bit is looked for in the byte behind the
element (`timDecoded_iff`).

Key definitions: `Element.bitmapBit`, `timElements`, `TimDecoded`.
Key theorems: `parseTim_ucast_iff`, `foldl_ucast`, `timDecoded_iff`.
-/
import Rtl8187.ParserReads
import Rtl8187.EntryChange

namespace Rtl8187

open Bytes

variable {P : Type}

namespace Element

variable (e : Element)

/-- The first octet of the virtual bitmap that a TIM element carries. -/
def bitmapOffset : ℕ := (e.info 2 >>> 1).toNat * 2

/-- Bit `id` of the virtual bitmap. -/
def bitmapBit (id : ℕ) : Bool :=
  decide (e.bitmapOffset ≤ id / 8 ∧ id / 8 < e.bitmapOffset + (e.len - 3)) &&
    (e.info (3 + (id / 8 - e.bitmapOffset))).toNat.testBit (id % 8)

/-- The byte `i` of the body is read. -/
def read (i : ℕ) : Traced UInt8 := Traced.ofLog [.read i 0 e.len] (e.info i)

theorem read_safe_iff (i : ℕ) : (e.read i).All Access.Safe ↔ i < e.len :=
  List.forall_mem_singleton.trans (and_iff_right (Nat.zero_le i))

end Element

/-- `network->dtim_data & IEEE80211_DTIM_UCAST` -/
def HeardNetwork.Ucast (net : HeardNetwork) : Prop := net.dtimData &&& dtimUcast ≠ 0

instance (net : HeardNetwork) : Decidable net.Ucast :=
  inferInstanceAs (Decidable (net.dtimData &&& dtimUcast ≠ 0))

/-! ### One element -/

section

variable {d : Device P} {stats : RxStats} {e : Element} {net : HeardNetwork}

/-- The test of a bit. -/
theorem and_shiftLeft_ne_zero (b : UInt8) {k : ℕ} (h : k < 8) :
    b &&& (1 <<< UInt8.ofNat k) ≠ 0 ↔ b.toNat.testBit k = true := by
  have hk : (UInt8.ofNat k).toNat % 8 = k := by
    rw [UInt8.toNat_ofNat', Nat.mod_eq_of_lt (h.trans (by decide)), Nat.mod_eq_of_lt h]
  have hpow : 2 ^ k < 2 ^ 8 := Nat.pow_lt_pow_right (by decide) h
  rw [ne_eq, ← UInt8.toNat_inj, UInt8.toNat_and, UInt8.toNat_shiftLeft, hk, UInt8.toNat_one,
    Nat.one_shiftLeft, Nat.mod_eq_of_lt hpow, Nat.and_two_pow]
  cases b.toNat.testBit k <;> simp

/-- The bit of an id that the range test lets through and that has an octet. -/
theorem bitmapBit_eq {id : ℕ} (hlow : 8 * e.bitmapOffset ≤ id)
    (hhigh : id < 8 * (e.bitmapOffset + e.len - 3)) :
    e.bitmapBit id = (e.info (3 + (id / 8 - e.bitmapOffset))).toNat.testBit (id % 8) := by
  have hin : e.bitmapOffset ≤ id / 8 ∧ id / 8 < e.bitmapOffset + (e.len - 3) := by omega
  rw [Element.bitmapBit, decide_eq_true hin, Bool.true_and]

/-- The bit of an id that the range test refuses. -/
theorem bitmapBit_eq_false {id : ℕ}
    (hout : id < 8 * e.bitmapOffset ∨ 8 * (e.bitmapOffset + e.len - 3) < id) : e.bitmapBit id = false := by
  have hnot : ¬ (e.bitmapOffset ≤ id / 8 ∧ id / 8 < e.bitmapOffset + (e.len - 3)) := by omega
  rw [Element.bitmapBit, decide_eq_false hnot, Bool.false_and]

/-- **One TIM element.** A linked station has the flag set exactly if the count
is zero and its bit is set, the edge case apart. -/
theorem parseTim_ucast_iff (hlen : 4 ≤ e.len) (hlinked : d.state = .linked)
    (hedge : ¬ TimEdge d e.info e.len) :
    (parseTim d stats e.info e.len net).Ucast ↔
      e.info 0 = 0 ∧ e.bitmapBit d.assocId.toNat = true := by
  have hvalid : ¬ dtimValid &&& dtimUcast ≠ 0 := by decide
  have hmbcast : ¬ (dtimValid ||| dtimMbcast) &&& dtimUcast ≠ 0 := by decide
  have hucast : (dtimValid ||| dtimUcast) &&& dtimUcast ≠ 0 := by decide
  have hboth : (dtimValid ||| dtimMbcast ||| dtimUcast) &&& dtimUcast ≠ 0 := by decide
  unfold parseTim HeardNetwork.Ucast
  rw [if_neg (by omega), if_neg (not_not.mpr hlinked)]
  by_cases hcount : e.info 0 = 0
  · rw [if_neg (not_not.mpr hcount)]
    dsimp only
    change _ ↔ _ ∧ e.bitmapBit d.assocId.toNat = true
    rw [show (e.info 2 >>> 1).toNat * 2 = e.bitmapOffset from rfl]
    by_cases hout : d.assocId.toNat < 8 * e.bitmapOffset ∨
        8 * (e.bitmapOffset + e.len - 3) < d.assocId.toNat
    · rw [if_pos hout, bitmapBit_eq_false hout]
      refine iff_of_false ?_ fun h => Bool.false_ne_true h.2
      split_ifs
      · exact hmbcast
      · exact hvalid
    · have hne : d.assocId.toNat ≠ 8 * (e.bitmapOffset + e.len - 3) :=
        fun heq => hedge ⟨hlen, hlinked, hcount, heq⟩
      have hbit := and_shiftLeft_ne_zero (e.info (3 + (d.assocId.toNat / 8 - e.bitmapOffset)))
        (Nat.mod_lt d.assocId.toNat (by decide : 0 < 8))
      rw [if_neg hout, bitmapBit_eq (by omega) (by omega), ← hbit]
      by_cases hset : e.info (3 + (d.assocId.toNat / 8 - e.bitmapOffset)) &&&
          (1 <<< UInt8.ofNat (d.assocId.toNat % 8)) ≠ 0
      · rw [if_pos hset]
        refine iff_of_true ?_ ⟨hcount, hset⟩
        split_ifs
        · exact hboth
        · exact hucast
      · rw [if_neg hset]
        refine iff_of_false ?_ fun h => hset h.2
        split_ifs
        · exact hmbcast
        · exact hvalid
  · rw [if_pos hcount]
    exact iff_of_false hvalid fun h => hcount h.1

/-- A station that is not linked notes nothing. -/
theorem parseTim_unlinked (info : ℕ → UInt8) (len : ℕ) (h : d.state ≠ .linked) :
    (parseTim d stats info len net).dtimData = net.dtimData := by
  unfold parseTim
  by_cases hlen : len < 4
  · rw [if_pos hlen]
  · rw [if_neg hlen, if_pos h]

/-- Nor does an element of another kind touch `dtim_data`. -/
theorem parseElement_dtimData (h : e.id ≠ mfieTypeTim) :
    (parseElement d stats e.id e.info e.len net).dtimData = net.dtimData :=
  congrArg (·.2.1) (parseElement_dtim_of_ne h e.info e.len net)

/-- In an element of the right kind, the parser does what the case says. -/
theorem parseElement_tim (h : e.id = mfieTypeTim) :
    parseElement d stats e.id e.info e.len net = parseTim d stats e.info e.len net := by
  rw [h]
  rfl

end

/-! ### All elements of a beacon -/

/-- The TIM elements of a frame, in order. -/
def timsOf (es : List Element) : List Element := es.filter (·.id = mfieTypeTim)

section

variable {d : Device P} {stats : RxStats}

/-- What the loop comes to: the elements, one after the other. -/
theorem parseElements_foldl (skb : SkBuff) (off left : ℕ) {net net' : HeardNetwork}
    (h : parseElements d stats skb off left net = some net') :
    net' = (elements skb off left).foldl (fun net e => parseElement d stats e.id e.info e.len net) net := by
  fun_induction parseElements d stats skb off left net with
  | case1 off left net hleft =>
    rw [elements, if_pos hleft]
    exact (Option.some.inj h).symm
  | case2 off left net hleft len hshort => cases h
  | case3 off left net hleft len hlong ih =>
    rw [elements, if_neg hleft]
    refine (ih h).trans ?_
    rw [if_neg hlong]
    rfl

/-- The last TIM element decides. -/
theorem foldl_ucast_iff (hlinked : d.state = .linked) (es : List Element) (net : HeardNetwork)
    (hform : ∀ e ∈ timsOf es, 4 ≤ e.len ∧ ¬ TimEdge d e.info e.len) {e : Element}
    (he : (timsOf es).getLast? = some e) :
    (es.foldl (fun net e => parseElement d stats e.id e.info e.len net) net).Ucast ↔
      e.info 0 = 0 ∧ e.bitmapBit d.assocId.toNat = true := by
  induction es using List.reverseRecOn with
  | nil => cases he
  | append_singleton es e' ih =>
    rw [List.foldl_append, List.foldl_cons, List.foldl_nil]
    rw [timsOf, List.filter_append] at he hform
    by_cases htim : e'.id = mfieTypeTim
    · have hlast : [e'].filter (·.id = mfieTypeTim) = [e'] := by simp [htim]
      rw [hlast] at he hform
      rw [List.getLast?_concat] at he
      cases he
      obtain ⟨hlen, hedge⟩ := hform e (List.mem_append_right _ List.mem_cons_self)
      rw [parseElement_tim htim]
      exact parseTim_ucast_iff hlen hlinked hedge
    · have hlast : [e'].filter (·.id = mfieTypeTim) = [] := by simp [htim]
      rw [hlast, List.append_nil] at he hform
      unfold HeardNetwork.Ucast
      rw [parseElement_dtimData htim]
      exact ih hform he

theorem foldl_unlinked (h : d.state ≠ .linked) (es : List Element) (net : HeardNetwork) :
    (es.foldl (fun net e => parseElement d stats e.id e.info e.len net) net).dtimData = net.dtimData := by
  induction es generalizing net with
  | nil => rfl
  | cons e es ih =>
    rw [List.foldl_cons, ih]
    by_cases htim : e.id = mfieTypeTim
    · rw [parseElement_tim htim, parseTim_unlinked _ _ h]
    · exact parseElement_dtimData htim

end

/-- The TIM elements `ieee80211_network_init` comes to in a frame. -/
def timElements (skb : SkBuff) : List Element :=
  timsOf (elements skb mgmtFrameFixedPartLength ((skb.len + 65536 - mgmtFrameFixedPartLength) % 65536))

/-- The traffic indication of a frame is decoded: a linked station notes a frame
for it exactly if the last TIM element has the count zero and the station's
bit set, another notes nothing, and no byte behind a TIM element is read. -/
structure TimDecoded (env : Env) (d : Device P) (skb : SkBuff) (stats : RxStats) (stack : HeardNetwork) :
    Prop where
  linked : d.state = .linked → ∀ e ∈ (timElements skb).getLast?, ∀ net ∈ networkInit env d skb stats stack,
    (net.Ucast ↔ e.info 0 = 0 ∧ e.bitmapBit d.assocId.toNat = true)
  unlinked : d.state ≠ .linked → ∀ net ∈ networkInit env d skb stats stack, net.dtimData = stack.dtimData
  inside : ∀ e ∈ timElements skb, ∀ net, (readTim d stats e.read e.len net).All Access.Safe

section

variable {env : Env} {d : Device P} {skb : SkBuff} {stats : RxStats} {stack net : HeardNetwork}

/-- What the elements leave of `dtim_data` is what the entry has. -/
theorem networkInit_dtimData (h : networkInit env d skb stats stack = some net) :
    ∃ start : HeardNetwork, start.dtimData = stack.dtimData ∧ net.dtimData =
      ((elements skb mgmtFrameFixedPartLength ((skb.len + 65536 - mgmtFrameFixedPartLength) % 65536)).foldl
        (fun net e => parseElement d stats e.id e.info e.len net) start).dtimData := by
  obtain ⟨parsed, hparsed, hnet⟩ := Option.bind_eq_some_iff.mp h
  obtain ⟨start, hstart, hrun⟩ : ∃ start : HeardNetwork, start.dtimData = stack.dtimData ∧
      parseElements d stats skb mgmtFrameFixedPartLength
        ((skb.len + 65536 - mgmtFrameFixedPartLength) % 65536) start = some parsed := by
    refine ⟨_, ?_, hparsed⟩
    rfl
  have hkept : net.dtimData = parsed.dtimData := by
    obtain ⟨-, hsome⟩ := Option.ite_none_left_eq_some.mp hnet
    rw [← Option.some.inj hsome]
  exact ⟨start, hstart, by rw [hkept, parseElements_foldl _ _ _ hrun]⟩

/-- **Traffic indication.** A frame whose TIM elements are well formed is
decoded exactly if the association id is not, for one of them with count zero,
the first behind its last octet. -/
theorem timDecoded_iff (hform : ∀ e ∈ timElements skb, 4 ≤ e.len) :
    TimDecoded env d skb stats stack ↔ ∀ e ∈ timElements skb, d.state = .linked → e.info 0 = 0 →
      d.assocId.toNat ≠ 8 * (e.bitmapOffset + e.len - 3) := by
  have hsafe : ∀ e : Element, ∀ net, (readTim d stats e.read e.len net).All Access.Safe ↔
      ¬ TimEdge d e.info e.len := fun e net => readTim_safe_iff e.read_safe_iff
  constructor
  · intro h e he hlinked hcount heq
    exact (hsafe e stack).mp (h.inside e he stack) ⟨hform e he, hlinked, hcount, heq⟩
  · intro h
    have hedge : ∀ e ∈ timElements skb, ¬ TimEdge d e.info e.len :=
      fun e he hedge => h e he hedge.2.1 hedge.2.2.1 hedge.2.2.2
    refine ⟨fun hlinked e he net hnet => ?_, fun hunlinked net hnet => ?_, fun e he net =>
      (hsafe e net).mpr (hedge e he)⟩
    · obtain ⟨start, -, hdtim⟩ := networkInit_dtimData hnet
      unfold HeardNetwork.Ucast
      rw [hdtim]
      exact foldl_ucast_iff hlinked _ start (fun e he => ⟨hform e he, hedge e he⟩) he
    · obtain ⟨start, hstart, hdtim⟩ := networkInit_dtimData hnet
      rw [hdtim, foldl_unlinked hunlinked, hstart]

end

/-- A beacon with one octet of the bitmap, of which bit 1 is set, and with an
element behind it that begins with an odd byte. -/
def timBeacon : SkBuff :=
  ⟨0, 0x80 :: List.replicate 35 0 ++ [mfieTypeTim, 4, 0, 1, 0, 2] ++ [7, 0], []⟩

/-- A linked station with this association id. -/
def stationWithId (id : UInt16) : Device Unit :=
  { Device.init Unit ⟨250, true⟩ ⟨2, 0, 0, 0, 0, 1⟩ with state := .linked, assocId := id }

/-- Station 1 has its bit read. -/
theorem timBeacon_decoded :
    TimDecoded ⟨0, false, fun _ => false, ⟨0, 0, 0, 0, 0, 0⟩⟩ (stationWithId 1) timBeacon
        ⟨band24Ghz, 0, (0, 0)⟩ .zeroed ↔ ∀ e ∈ timElements timBeacon, (stationWithId 1).state = .linked →
      e.info 0 = 0 → (stationWithId 1).assocId.toNat ≠ 8 * (e.bitmapOffset + e.len - 3) :=
  timDecoded_iff (by decide +kernel)

/-- Station 8 has no bit, and finds one in the identifier of the next element. -/
theorem timBeacon_foreign_bit : ¬ ∀ (env : Env) (d : Device Unit) (skb : SkBuff) (stats : RxStats)
    (stack : HeardNetwork), (∀ e ∈ timElements skb, 4 ≤ e.len) → TimDecoded env d skb stats stack := by
  intro h
  have hdecoded := h ⟨0, false, fun _ => false, ⟨0, 0, 0, 0, 0, 0⟩⟩ (stationWithId 8) timBeacon
    ⟨band24Ghz, 0, (0, 0)⟩ .zeroed (by decide +kernel)
  obtain ⟨net, hnet, hset⟩ : ∃ net, networkInit ⟨0, false, fun _ => false, ⟨0, 0, 0, 0, 0, 0⟩⟩
      (stationWithId 8) timBeacon ⟨band24Ghz, 0, (0, 0)⟩ .zeroed = some net ∧ net.Ucast := by
    decide +kernel
  obtain ⟨e, he⟩ := Option.isSome_iff_exists.mp
    (by decide +kernel : (timElements timBeacon).getLast?.isSome = true)
  have hclear : ∀ e ∈ timElements timBeacon, e.bitmapBit 8 = false := by decide +kernel
  obtain ⟨-, hbit⟩ := (hdecoded.linked rfl e he net hnet).mp hset
  exact Bool.false_ne_true ((hclear e (List.mem_of_getLast? he)).symm.trans hbit)

end Rtl8187

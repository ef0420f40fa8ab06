/-
# The order of the elements

`ieee80211_network_init` (`ieee80211_rx.c`) takes the elements of a frame in turn, and
elements of two kinds may be taken in either order (`parseElement_comm`).

Two cases look at the byte behind their element: an empty DS element, and a TIM element
whose bitmap ends where the station's bit would be. What they find is the
next element's identifier, so with them the order matters (`orderIndependent_iff`).

Key definitions: `takeAll`, `ElementFrame`, `OrderIndependent`.
Key theorems: `parseElements_takeAll`, `networkInit_skb`, `takeAll_perm`, `takeAll_differs`,
`orderIndependent_iff`.
-/
import Rtl8187.BeaconRoundTrip
import Rtl8187.TimDecode

namespace Rtl8187

open Bytes

variable {P : Type}

/-! ### All elements of a frame -/

/-- The loop on a list of elements. Behind each are the others, and then what lies behind
the frame. -/
def takeAll (d : Device P) (stats : RxStats) (behind : List UInt8) :
    List (UInt8 × List UInt8) → HeardNetwork → HeardNetwork
  | [], net => net
  | e :: es, net => takeAll d stats behind es
      (parseElement d stats e.1 (at8 (e.2 ++ (encodeElements es ++ behind))) e.2.length net)

theorem parseElements_takeAll {d : Device P} {stats : RxStats} {skb : SkBuff} {behind : List UInt8} :
    ∀ {es : List (UInt8 × List UInt8)} {off : ℕ} {net : HeardNetwork}, (∀ e ∈ es, e.2.length < 256) →
      skb.mem.drop off = encodeElements es ++ behind →
      parseElements d stats skb off (encodeElements es).length net = some (takeAll d stats behind es net)
  | [], off, net, _, _ => by
    rw [parseElements]
    simp [encodeElements, takeAll]
  | e :: es, off, net, hes, hmem => by
    obtain ⟨hat, hrest⟩ := elementAt_encode (hes e List.mem_cons_self) hmem
    have hinfo : (fun i => skb.byte (off + 2 + i)) = at8 (e.2 ++ (encodeElements es ++ behind)) := by
      have hbody : skb.mem.drop (off + 2) = e.2 ++ (encodeElements es ++ behind) := by
        rw [← List.drop_drop, hmem, encodeElements, List.flatMap_cons, infoElement, List.append_assoc]
        rfl
      funext i
      rw [← hbody, at8_drop]
      rfl
    rw [parseElements, hat.len, length_encodeElements_cons, if_neg (by omega)]
    dsimp only
    rw [if_neg (by omega), hat.id, Nat.add_sub_cancel_left, hinfo,
      parseElements_takeAll (fun e he => hes e (List.mem_cons_of_mem _ he)) hrest]
    rfl

/-- A frame with a fixed part and elements, each with a length that is right and no two of
one kind. Its length is a `u16`. -/
structure ElementFrame where
  headroom : ℕ
  fixed : List UInt8
  elements : List (UInt8 × List UInt8)
  length_fixed : fixed.length = mgmtFrameFixedPartLength
  body_lt : ∀ e ∈ elements, e.2.length < 256
  kinds : (elements.map Prod.fst).Nodup
  length_lt : mgmtFrameFixedPartLength + (encodeElements elements).length < 65536

namespace ElementFrame

/-- The frame in memory. -/
def skb (f : ElementFrame) (behind : List UInt8) : SkBuff := ⟨f.headroom, f.fixed ++ encodeElements f.elements, behind⟩

/-- The frame with its elements in another order. -/
def permute (f : ElementFrame) (es : List (UInt8 × List UInt8)) (h : es.Perm f.elements) : ElementFrame where
  headroom := f.headroom
  fixed := f.fixed
  elements := es
  length_fixed := f.length_fixed
  body_lt := fun e he => f.body_lt e (h.mem_iff.mp he)
  kinds := (h.map Prod.fst).nodup_iff.mpr f.kinds
  length_lt := by
    have hlen : (encodeElements es).length = (encodeElements f.elements).length := (h.flatMap_right _).length_eq
    rw [hlen]
    exact f.length_lt

end ElementFrame

/-- The entry before the elements, in `ieee80211_network_init`. -/
def entryStart (env : Env) (stats : RxStats) (fixed : List UInt8) (stack : HeardNetwork) : HeardNetwork :=
  { stack.setSsid stack.ssidBuf 0 with
    bssid := addr3 fixed
    capability := get16 fixed 34
    lastScanned := env.now
    beaconInterval := get16 fixed 32
    rates := []
    ratesEx := []
    emptyEssid := false
    hasOfdm := false
    hasCck := stats.freq != band52Ghz
    atimWindow := 0
    channel := if stats.freq = band52Ghz then stats.receivedChannel else stack.channel
    wpaIe := []
    rsnIe := [] }

/-- And behind them. -/
def entryEnd (stats : RxStats) (net : HeardNetwork) : Option HeardNetwork :=
  let mode :=
    if stats.freq = band52Ghz then ieeeA
    else (if net.hasOfdm then ieeeG else 0) ||| (if net.hasCck then ieeeB else 0)
  if mode = 0 then none
  else some { net with mode := mode, emptyEssid := net.emptyEssid || isEmptyEssid net.ssid }

/-- `ieee80211_network_init` on such a frame. -/
theorem networkInit_skb (env : Env) (d : Device P) (stats : RxStats) (stack : HeardNetwork) (f : ElementFrame)
    (behind : List UInt8) : networkInit env d (f.skb behind) stats stack =
      entryEnd stats (takeAll d stats behind f.elements (entryStart env stats f.fixed stack)) := by
  have hmem : (f.skb behind).mem = f.fixed ++ (encodeElements f.elements ++ behind) := List.append_assoc ..
  have hdrop : (f.skb behind).mem.drop mgmtFrameFixedPartLength = encodeElements f.elements ++ behind := by
    rw [hmem, ← f.length_fixed, List.drop_left]
  have hat : ∀ i < 36, at8 (f.skb behind).mem i = at8 f.fixed i := by
    intro i hi
    rw [hmem, at8_append_left _ (by rw [f.length_fixed]; exact hi)]
  have hleft : ((f.skb behind).len + 65536 - mgmtFrameFixedPartLength) % 65536 = (encodeElements f.elements).length := by
    have hlen : (f.skb behind).len = mgmtFrameFixedPartLength + (encodeElements f.elements).length := by
      rw [← f.length_fixed]
      exact List.length_append
    have hlt := f.length_lt
    rw [hlen]
    omega
  have hget : ∀ i < 35, get16 (f.skb behind).mem i = get16 f.fixed i := by
    intro i hi
    rw [get16, get16, hat i (by omega), hat (i + 1) (by omega)]
  have hbssid : addr3 (f.skb behind).mem = addr3 f.fixed := by
    unfold addr3 Mac.read
    rw [hat, hat, hat, hat, hat, hat] <;> decide
  unfold networkInit
  dsimp only
  rw [hleft, hget 32 (by decide), hget 34 (by decide), hbssid, parseElements_takeAll f.body_lt hdrop, Option.bind_some]
  rfl

/-! ### Elements that are read inside -/

section

variable {d : Device P} {stats : RxStats}

/-- What is behind the body of a TIM element does not matter, the edge case apart. -/
theorem parseTim_congr {info info' : ℕ → UInt8} {len : ℕ} (h : ∀ i < len, info i = info' i)
    (hedge : ¬ TimEdge d info len) (net : HeardNetwork) :
    parseTim d stats info len net = parseTim d stats info' len net := by
  unfold parseTim
  by_cases hlen : len < 4
  · rw [if_pos hlen, if_pos hlen]
  rw [if_neg hlen, if_neg hlen, ← h 0 (by omega), ← h 1 (by omega), ← h 2 (by omega)]
  by_cases hstate : d.state ≠ .linked
  · rw [if_pos hstate, if_pos hstate]
  by_cases hcount : info 0 ≠ 0
  · rw [if_neg hstate, if_neg hstate, if_pos hcount, if_pos hcount]
  by_cases hout : d.assocId.toNat < 8 * ((info 2 >>> 1).toNat * 2) ∨
      8 * ((info 2 >>> 1).toNat * 2 + len - 3) < d.assocId.toNat
  · simp only [if_neg hstate, if_neg hcount, if_pos hout]
  · have hne : d.assocId.toNat ≠ 8 * ((info 2 >>> 1).toNat * 2 + len - 3) := fun heq =>
      hedge ⟨by omega, not_not.mp hstate, not_not.mp hcount, heq⟩
    dsimp only
    rw [h (3 + (d.assocId.toNat / 8 - (info 2 >>> 1).toNat * 2)) (by omega)]

/-- What is behind the body of an element in order does not matter. -/
theorem parseElement_inside {kind : UInt8} {info info' : ℕ → UInt8} {len : ℕ}
    (hok : ElementOk d stats ⟨kind, info, len⟩) (h : ∀ i < len, info i = info' i) (net : HeardNetwork) :
    parseElement d stats kind info len net = parseElement d stats kind info' len net := by
  by_cases htim : kind = mfieTypeTim
  · rw [htim]
    exact parseTim_congr h (hok.2 htim) net
  by_cases hds : kind = mfieTypeDsSet ∧ len = 0
  · have hfreq : stats.freq ≠ band24Ghz := fun hfreq => absurd (hok.1 hds.1 hfreq) (by simp [hds.2])
    have hskip : ∀ info : ℕ → UInt8, parseElement d stats mfieTypeDsSet info len net = net :=
      fun _ => if_neg hfreq
    rw [hds.1, hskip, hskip]
  · exact parseElement_congr h htim (fun heq => Nat.pos_of_ne_zero fun hzero => hds ⟨heq, hzero⟩) net

/-- An element of a list, for `ElementOk`. -/
def asElement (e : UInt8 × List UInt8) : Element := ⟨e.1, at8 e.2, e.2.length⟩

/-- Where no element looks behind itself, the loop takes each for what it is. -/
theorem takeAll_inside (behind : List UInt8) : ∀ {es : List (UInt8 × List UInt8)} (net : HeardNetwork),
    (∀ e ∈ es, ElementOk d stats (asElement e)) → takeAll d stats behind es net = es.foldl (takeElement d stats) net
  | [], _, _ => rfl
  | e :: es, net, hes => by
    have hat : ∀ i < e.2.length, at8 e.2 i = at8 (e.2 ++ (encodeElements es ++ behind)) i :=
      fun i hi => (at8_append_left _ hi).symm
    rw [takeAll, ← parseElement_inside (hes e List.mem_cons_self) hat,
      takeAll_inside behind _ fun e he => hes e (List.mem_cons_of_mem _ he)]
    rfl

/-- **Such elements may come in any order.** -/
theorem takeAll_perm {es es' : List (UInt8 × List UInt8)} (h : es.Perm es') (hkinds : (es.map Prod.fst).Nodup)
    (hok : ∀ e ∈ es, ElementOk d stats (asElement e)) (behind : List UInt8) (net : HeardNetwork) :
    takeAll d stats behind es net = takeAll d stats behind es' net := by
  rw [takeAll_inside behind net hok, takeAll_inside behind net fun e he => hok e (h.mem_iff.mpr he)]
  apply h.foldl_eq'
  intro e he e' he' net
  by_cases heq : e.1 = e'.1
  · rw [List.inj_on_of_nodup_map hkinds he he' heq]
  · exact parseElement_comm d stats (Ne.symm heq) _ _ _ _ net

end

/-! ### Elements that look behind themselves -/

section

variable {d : Device P} {stats : RxStats}

theorem takeAll_append (behind : List UInt8) : ∀ (es es' : List (UInt8 × List UInt8)) (net : HeardNetwork),
    takeAll d stats behind (es ++ es') net =
      takeAll d stats behind es' (takeAll d stats (encodeElements es' ++ behind) es net)
  | [], _, _ => rfl
  | e :: es, es', net => by
    have hencode : encodeElements (es ++ es') ++ behind = encodeElements es ++ (encodeElements es' ++ behind) := by
      rw [encodeElements, List.flatMap_append, List.append_assoc]
      rfl
    rw [List.cons_append, takeAll, takeAll, takeAll_append behind es es', hencode]

/-- What elements of other kinds leave alone. -/
theorem takeAll_keeps {α : Type} (view : HeardNetwork → α) {kind : UInt8}
    (hview : ∀ kind' info len net, kind' ≠ kind → view (parseElement d stats kind' info len net) = view net)
    (behind : List UInt8) : ∀ {es : List (UInt8 × List UInt8)} (net : HeardNetwork), (∀ e ∈ es, e.1 ≠ kind) →
      view (takeAll d stats behind es net) = view net
  | [], _, _ => rfl
  | e :: es, net, hes => by
    rw [takeAll, takeAll_keeps view hview behind _ fun e he => hes e (List.mem_cons_of_mem _ he)]
    exact hview _ _ _ _ (hes e List.mem_cons_self)

theorem modulated_takeAll (behind : List UInt8) : ∀ (es : List (UInt8 × List UInt8)) {net : HeardNetwork},
    Modulated net → Modulated (takeAll d stats behind es net)
  | [], _, h => h
  | _ :: es, _, h => modulated_takeAll behind es (modulated_parseElement h _ _ _)

/-- In the edge case the flag is the low bit of the byte behind the element. -/
theorem parseTim_edge {info : ℕ → UInt8} {len : ℕ} (h : TimEdge d info len) (net : HeardNetwork) :
    (parseTim d stats info len net).Ucast ↔ info len &&& 1 ≠ 0 := by
  obtain ⟨hlen, hlinked, hcount, hid⟩ := h
  have hbit : d.assocId.toNat % 8 = 0 := by omega
  have hindex : 3 + (d.assocId.toNat / 8 - (info 2 >>> 1).toNat * 2) = len := by omega
  have hshift : (1 : UInt8) <<< UInt8.ofNat 0 = 1 := rfl
  have hvalid : ¬ dtimValid &&& dtimUcast ≠ 0 := by decide
  have hmbcast : ¬ (dtimValid ||| dtimMbcast) &&& dtimUcast ≠ 0 := by decide
  have hucast : (dtimValid ||| dtimUcast) &&& dtimUcast ≠ 0 := by decide
  have hboth : (dtimValid ||| dtimMbcast ||| dtimUcast) &&& dtimUcast ≠ 0 := by decide
  unfold parseTim HeardNetwork.Ucast
  rw [if_neg (by omega), if_neg (not_not.mpr hlinked), if_neg (not_not.mpr hcount)]
  dsimp only
  rw [if_neg (by omega), hindex, hbit, hshift]
  split_ifs with hnext
  · exact iff_of_true hboth hnext
  · exact iff_of_true hucast hnext
  · exact iff_of_false hmbcast hnext
  · exact iff_of_false hvalid hnext

/-- The byte behind the body `bs`. -/
theorem at8_behind (bs : List UInt8) (b : UInt8) (behind : List UInt8) : at8 (bs ++ b :: behind) bs.length = b := by
  rw [at8_append_right _ le_rfl, Nat.sub_self]
  rfl

/-- An empty DS element shows the byte behind it as the channel. -/
theorem channel_shows {e : UInt8 × List UInt8} (hkind : e.1 = mfieTypeDsSet) (hfreq : stats.freq = band24Ghz)
    (hlen : e.2.length = 0) (b : UInt8) (behind : List UInt8) (net : HeardNetwork) :
    (parseElement d stats e.1 (at8 (e.2 ++ b :: behind)) e.2.length net).channel = b := by
  have hnext := at8_behind e.2 b behind
  rw [hlen] at hnext
  have hds : parseElement d stats mfieTypeDsSet (at8 (e.2 ++ b :: behind)) 0 net =
      { net with channel := at8 (e.2 ++ b :: behind) 0 } := if_pos hfreq
  rw [hkind, hlen, hds]
  exact hnext

/-- A TIM element in the edge case shows it in the flag. -/
theorem ucast_shows {e : UInt8 × List UInt8} (hkind : e.1 = mfieTypeTim) (hedge : TimEdge d (at8 e.2) e.2.length)
    (b : UInt8) (behind : List UInt8) (net : HeardNetwork) :
    (parseElement d stats e.1 (at8 (e.2 ++ b :: behind)) e.2.length net).Ucast ↔ b &&& 1 ≠ 0 := by
  obtain ⟨hlen, hlinked, hcount, hid⟩ := hedge
  have hat : ∀ i < e.2.length, at8 (e.2 ++ b :: behind) i = at8 e.2 i := fun i hi => at8_append_left _ hi
  have hedge : TimEdge d (at8 (e.2 ++ b :: behind)) e.2.length := by
    refine ⟨hlen, hlinked, (hat 0 (by omega)).trans hcount, ?_⟩
    rw [hat 2 (by omega)]
    exact hid
  have htim := @parseElement_tim P d stats ⟨e.1, at8 (e.2 ++ b :: behind), e.2.length⟩ net hkind
  dsimp only at htim
  rw [htim, parseTim_edge hedge net, at8_behind]

/-- What is accepted shows what the elements left. -/
theorem entryEnd_same {net net' : HeardNetwork} (hmod : stats.freq ≠ band52Ghz → Modulated net)
    (h : entryEnd stats net = entryEnd stats net') : net.dtimData = net'.dtimData ∧ net.channel = net'.channel := by
  have hmode : (if stats.freq = band52Ghz then ieeeA
      else (if net.hasOfdm then ieeeG else 0) ||| (if net.hasCck then ieeeB else 0)) ≠ 0 := by
    split_ifs with hfreq hofdm hcck hcck
    · decide
    · decide
    · decide
    · decide
    · exact absurd (hmod hfreq) (by simp [Modulated, hofdm, hcck])
  unfold entryEnd at h
  dsimp only at h
  rw [if_neg hmode] at h
  obtain ⟨-, hsome⟩ := Option.ite_none_left_eq_some.mp h.symm
  have hnet := Option.some.inj hsome
  exact ⟨congrArg (·.dtimData) hnet.symm, congrArg (·.channel) hnet.symm⟩

/-- In front of the others and behind them, such an element leaves two different entries. -/
theorem takeAll_differs {e o : UInt8 × List UInt8} {es : List (UInt8 × List UInt8)}
    (he : ¬ ElementOk d stats (asElement e)) (hkinds : ∀ e' ∈ o :: es, e'.1 ≠ e.1) {b : UInt8}
    (hb : o.1 &&& 1 = 0 ↔ b &&& 1 ≠ 0) (net : HeardNetwork) :
    ¬ ((takeAll d stats [b] (e :: o :: es) net).dtimData = (takeAll d stats [b] ((o :: es) ++ [e]) net).dtimData ∧
      (takeAll d stats [b] (e :: o :: es) net).channel = (takeAll d stats [b] ((o :: es) ++ [e]) net).channel) := by
  rintro ⟨hdtim, hchannel⟩
  rw [takeAll_append] at hdtim hchannel
  unfold ElementOk at he
  rw [not_and_or, Classical.not_imp, Classical.not_imp, Classical.not_imp, not_not] at he
  rcases he with ⟨hkind, hfreq, hlen⟩ | ⟨hkind, hedge⟩
  · have hkind : e.1 = mfieTypeDsSet := hkind
    have hlen : e.2.length = 0 := Nat.le_zero.mp (Nat.not_lt.mp hlen)
    have hfirst : (takeAll d stats [b] (e :: o :: es) net).channel = o.1 := by
      rw [takeAll, takeAll_keeps (·.channel) (fun kind' info len net h => parseElement_channel_of_ne h info len net) [b] _
        (fun e' he' => hkind ▸ hkinds e' he')]
      exact channel_shows hkind hfreq hlen o.1 _ net
    have hlast := @channel_shows P d stats e hkind hfreq hlen b [] (takeAll d stats (encodeElements [e] ++ [b]) (o :: es) net)
    rw [hfirst] at hchannel
    have heq : o.1 = b := hchannel.trans hlast
    rw [heq] at hb
    exact iff_not_self hb
  · have hkind : e.1 = mfieTypeTim := hkind
    have hfirst : (takeAll d stats [b] (e :: o :: es) net).Ucast ↔ o.1 &&& 1 ≠ 0 := by
      unfold HeardNetwork.Ucast
      rw [takeAll, takeAll_keeps (·.dtimData) (fun kind' info len net h =>
        parseElement_dtimData (e := ⟨kind', info, len⟩) h) [b] _ (fun e' he' => hkind ▸ hkinds e' he')]
      exact ucast_shows hkind hedge o.1 _ net
    have hlast := @ucast_shows P d stats e hkind hedge b [] (takeAll d stats (encodeElements [e] ++ [b]) (o :: es) net)
    unfold HeardNetwork.Ucast at hfirst hlast
    rw [hdtim] at hfirst
    have hsame : b &&& 1 ≠ 0 ↔ o.1 &&& 1 ≠ 0 := hlast.symm.trans hfirst
    rw [← hb] at hsame
    exact iff_not_self hsame

end

/-- `ieee80211_network_init` answers alike for every order of the elements, whatever lies
behind the two frames. -/
def OrderIndependent (env : Env) (d : Device P) (stats : RxStats) (stack : HeardNetwork) (f : ElementFrame) : Prop :=
  ∀ (es : List (UInt8 × List UInt8)) (h : es.Perm f.elements) (behind : List UInt8),
    networkInit env d ((f.permute es h).skb behind) stats stack = networkInit env d (f.skb behind) stats stack

/-- **The order does not matter exactly if there is none, or if no element looks behind
itself.** -/
theorem orderIndependent_iff (env : Env) (d : Device P) (stats : RxStats) (stack : HeardNetwork) (f : ElementFrame) :
    OrderIndependent env d stats stack f ↔
      f.elements.length ≤ 1 ∨ ∀ e ∈ f.elements, ElementOk d stats (asElement e) := by
  constructor
  · intro h
    by_contra hnot
    rw [not_or, not_le] at hnot
    obtain ⟨hlong, hok⟩ := hnot
    obtain ⟨e, he, hpeek⟩ : ∃ e ∈ f.elements, ¬ ElementOk d stats (asElement e) := by
      by_contra hall
      exact hok fun e he => not_not.mp fun hpeek => hall ⟨e, he, hpeek⟩
    have hperm := List.perm_cons_erase he
    obtain ⟨o, es, hes⟩ : ∃ o es, f.elements.erase e = o :: es := by
      have hlen := hperm.length_eq
      rw [List.length_cons] at hlen
      exact List.exists_cons_of_length_pos (by omega)
    rw [hes] at hperm
    have hkinds : ∀ e' ∈ o :: es, e'.1 ≠ e.1 := by
      have hnodup := (hperm.map Prod.fst).nodup_iff.mp f.kinds
      intro e' he' heq
      exact (List.nodup_cons.mp hnodup).1 (heq ▸ List.mem_map_of_mem he')
    -- a byte behind the frame whose low bit is not that of the second element's identifier
    obtain ⟨b, hb⟩ : ∃ b : UInt8, o.1 &&& 1 = 0 ↔ b &&& 1 ≠ 0 := by
      by_cases hzero : o.1 &&& 1 = 0
      · exact ⟨1, iff_of_true hzero (by decide)⟩
      · exact ⟨0, iff_of_false hzero (by decide)⟩
    have hlast : ((o :: es) ++ [e]).Perm f.elements := List.perm_append_singleton e (o :: es) |>.trans hperm.symm
    have hsame := (h _ hperm.symm [b]).trans (h _ hlast [b]).symm
    rw [networkInit_skb, networkInit_skb] at hsame
    refine takeAll_differs hpeek hkinds hb _ (entryEnd_same (fun hfreq => ?_) hsame)
    exact modulated_takeAll [b] _ (.inr (by simpa [entryStart] using hfreq))
  · rintro (hshort | hok) es h behind
    · have heq : es = f.elements := by
        match hf : f.elements, hshort with
        | [], _ => exact List.perm_nil.mp (hf ▸ h)
        | [e], _ => exact List.perm_singleton.mp (hf ▸ h)
      rw [networkInit_skb, networkInit_skb]
      exact congrArg (fun es => entryEnd stats (takeAll d stats behind es _)) heq
    · rw [networkInit_skb, networkInit_skb]
      exact congrArg (entryEnd stats) (takeAll_perm h.symm f.kinds hok behind _).symm

/-- A beacon with one octet of the bitmap in front of a rate and a name. -/
def trafficFrame : ElementFrame where
  headroom := 0
  fixed := 0x80 :: List.replicate 35 0
  elements := [(mfieTypeTim, [0, 1, 0, 0]), (mfieTypeRates, [0x82]), (mfieTypeSsid, [0x61])]
  length_fixed := by decide
  body_lt := by decide
  kinds := by decide
  length_lt := by decide

/-- Station 8 finds its bit in the identifier of the rates, but not in that of the name. -/
theorem trafficFrame_orders :
    ¬ OrderIndependent ⟨0, false, fun _ => false, ⟨0, 0, 0, 0, 0, 0⟩⟩ (stationWithId 8) ⟨band24Ghz, 0, (0, 0)⟩ .zeroed
      trafficFrame := by
  intro h
  have hsame := h [(mfieTypeTim, [0, 1, 0, 0]), (mfieTypeSsid, [0x61]), (mfieTypeRates, [0x82])]
    ((List.Perm.swap _ _ _).cons _) []
  exact absurd (congrArg (Option.map (·.dtimData)) hsame) (by decide +kernel)

end Rtl8187

/-
# A beacon is read as it was written

What `ieee80211_probe_resp` writes of `current_network`, `ieee80211_network_init`
reads from the frame: the SSID, both lists of rates, the channel, the beacon
interval and whether it is an IBSS (`probeResp_heard`).

The frame is a header of 36 bytes and a list of elements. The parser takes the
elements one by one (`parseElements_encode`); of the entry it fills, an element
changes the part it carries (`carried_takeElement`).

Key definitions: `encodeElements`, `takeElement`, `Carried`, `probeRespIes`,
`WellFormedBeacon`, `Recovered`.
Key theorems: `parseElements_encode`, `carried_takeElement`, `networkInit_encode`,
`probeResp_heard`.
-/
import Rtl8187.MgmtRoom
import Rtl8187.EntryChange

namespace Rtl8187

open Bytes PutWrite

variable {P Q : Type}

/-! ### A list of elements -/

/-- Elements, each an identifier and a body, one behind the other. -/
def encodeElements (es : List (UInt8 × List UInt8)) : List UInt8 := es.flatMap fun e => infoElement e.1 e.2

/-- An element taken by the parser. -/
def takeElement (d : Device P) (stats : RxStats) (net : HeardNetwork) (e : UInt8 × List UInt8) : HeardNetwork :=
  parseElement d stats e.1 (at8 e.2) e.2.length net

/-- An element of which the parser reads its body, and nothing behind. -/
def Contained (e : UInt8 × List UInt8) : Prop :=
  e.2.length < 256 ∧ e.1 ≠ mfieTypeTim ∧ (e.1 = mfieTypeDsSet → e.2 ≠ [])

theorem length_infoElement (id : UInt8) (bs : List UInt8) : (infoElement id bs).length = bs.length + 2 := rfl

section

variable {d : Device P} {stats : RxStats}

theorem map_range_at8 {bs : List UInt8} {n : ℕ} (h : n ≤ bs.length) : (List.range n).map (at8 bs) = bs.take n := by
  apply List.ext_getElem
  · simp [h]
  · intro i h1 h2
    simp only [List.length_map, List.length_range] at h1
    simp [at8, List.getD_eq_getElem?_getD, List.getElem?_eq_getElem (show i < bs.length by omega)]

/-- What is behind the body of a contained element does not matter. -/
theorem parseElement_congr {id : UInt8} {info info' : ℕ → UInt8} {len : ℕ} (h : ∀ i < len, info i = info' i)
    (htim : id ≠ mfieTypeTim) (hds : id = mfieTypeDsSet → 0 < len) (net : HeardNetwork) :
    parseElement d stats id info len net = parseElement d stats id info' len net := by
  have hbody : ∀ n ≤ len, (List.range n).map info = (List.range n).map info' := by
    intro n hn
    apply List.map_congr_left
    intro i hi
    exact h i (lt_of_lt_of_le (List.mem_range.mp hi) hn)
  have houi : (4 ≤ len ∧ (List.range 4).map info = [0x00, 0x50, 0xf2, 0x01]) ↔
      4 ≤ len ∧ (List.range 4).map info' = [0x00, 0x50, 0xf2, 0x01] := by
    apply and_congr_right
    intro h4
    rw [hbody 4 h4]
  unfold parseElement
  dsimp only
  simp only [hbody len le_rfl, hbody _ (min_le_left len iwEssidMaxSize), hbody _ (min_le_left len maxRatesLength),
    hbody _ (min_le_left len maxRatesExLength), if_neg htim, houi]
  by_cases hid : id = mfieTypeDsSet
  · rw [h 0 (hds hid)]
  · simp only [if_neg hid]

/-- The element `e` is in the frame at `off`. -/
structure ElementAt (skb : SkBuff) (off : ℕ) (e : UInt8 × List UInt8) : Prop where
  id : skb.byte off = e.1
  len : (skb.byte (off + 1)).toNat = e.2.length
  body : ∀ i < e.2.length, skb.byte (off + 2 + i) = at8 e.2 i

theorem length_encodeElements_cons (e : UInt8 × List UInt8) (es : List (UInt8 × List UInt8)) :
    (encodeElements (e :: es)).length = 2 + e.2.length + (encodeElements es).length := by
  simp [encodeElements, length_infoElement]
  omega

/-- The first element, and the others behind it. -/
theorem elementAt_encode {skb : SkBuff} {off : ℕ} {e : UInt8 × List UInt8} {es : List (UInt8 × List UInt8)}
    {rest : List UInt8} (hlen : e.2.length < 256) (hmem : skb.mem.drop off = encodeElements (e :: es) ++ rest) :
    ElementAt skb off e ∧ skb.mem.drop (off + 2 + e.2.length) = encodeElements es ++ rest := by
  have hbyte : ∀ i, skb.byte (off + i) = at8 (skb.mem.drop off) i := fun i => (at8_drop skb.mem).symm
  have hmem' : skb.mem.drop off = infoElement e.1 e.2 ++ (encodeElements es ++ rest) := by
    rw [hmem]
    simp [encodeElements]
  refine ⟨⟨?_, ?_, ?_⟩, ?_⟩
  · have h0 := hbyte 0
    rwa [hmem'] at h0
  · rw [hbyte, hmem']
    exact Nat.mod_eq_of_lt hlen
  · intro i hi
    rw [Nat.add_assoc, hbyte, hmem', ← at8_drop]
    exact at8_append_left _ hi
  · rw [Nat.add_assoc, ← List.drop_drop, hmem']
    exact List.drop_left' (by rw [length_infoElement]; omega)

/-- The loop over a list of contained elements takes them in turn. -/
theorem parseElements_encode {skb : SkBuff} {rest : List UInt8} : ∀ {es : List (UInt8 × List UInt8)} {off : ℕ}
    {net : HeardNetwork}, (∀ e ∈ es, Contained e) → skb.mem.drop off = encodeElements es ++ rest →
    parseElements d stats skb off (encodeElements es).length net = some (es.foldl (takeElement d stats) net)
  | [], off, net, _, _ => by
    rw [parseElements]
    simp [encodeElements]
  | e :: es, off, net, hes, hmem => by
    obtain ⟨hlen, htim, hds⟩ := hes e List.mem_cons_self
    obtain ⟨hat, hrest⟩ := elementAt_encode hlen hmem
    rw [parseElements, hat.len, length_encodeElements_cons, if_neg (by omega)]
    dsimp only
    rw [if_neg (by omega), hat.id, Nat.add_sub_cancel_left,
      parseElement_congr hat.body htim (fun h => List.length_pos_iff.mpr (hds h)) net,
      parseElements_encode (fun e he => hes e (List.mem_cons_of_mem _ he)) hrest]
    rfl

/-! ### What the elements carry -/

/-- The parts of an entry that a beacon carries. -/
structure Carried where
  ssid : List UInt8
  rates : List UInt8
  ratesEx : List UInt8
  channel : UInt8
  beaconInterval : UInt16
  capability : UInt16

def carried (net : HeardNetwork) : Carried :=
  ⟨net.ssid, net.rates, net.ratesEx, net.channel, net.beaconInterval, net.capability⟩

/-- What an element says, in full. -/
def Carried.read (c : Carried) (e : UInt8 × List UInt8) : Carried :=
  if e.1 = mfieTypeSsid then { c with ssid := e.2 }
  else if e.1 = mfieTypeRates then { c with rates := e.2 }
  else if e.1 = mfieTypeRatesEx then { c with ratesEx := e.2 }
  else if e.1 = mfieTypeDsSet then { c with channel := at8 e.2 0 }
  else c

/-- The element is no longer than the entry's room for it, and an SSID is no
empty one. -/
def FitsEntry (e : UInt8 × List UInt8) : Prop :=
  (e.1 = mfieTypeSsid → isEmptyEssid e.2 = false ∧ e.2.length ≤ iwEssidMaxSize) ∧
    (e.1 = mfieTypeRates → e.2.length ≤ maxRatesLength) ∧
    (e.1 = mfieTypeRatesEx → e.2.length ≤ maxRatesExLength)

theorem carried_noteRates (rates : List UInt8) (net : HeardNetwork) :
    carried (rates.foldl noteRate net) = carried net := by
  rw [foldl_noteRate]
  rfl

theorem carried_parseTim (d : Device P) (stats : RxStats) (info : ℕ → UInt8) (len : ℕ) (net : HeardNetwork) :
    carried (parseTim d stats info len net) = carried net := by
  obtain ⟨period, data, time, htim⟩ := parseTim_eq d stats info len net
  rw [htim]
  rfl

/-- Of what a beacon carries, an element changes the part it says. -/
theorem carried_takeElement (hfreq : stats.freq = band24Ghz) {e : UInt8 × List UInt8} (hfit : FitsEntry e)
    (net : HeardNetwork) : carried (takeElement d stats net e) = (carried net).read e := by
  obtain ⟨hssid, hrates, hratesEx⟩ := hfit
  have hbody : ∀ {n : ℕ}, e.2.length ≤ n → (List.range (min e.2.length n)).map (at8 e.2) = e.2 := by
    intro n hn
    rw [min_eq_left hn, map_range_at8 le_rfl, List.take_length]
  have hall : (List.range e.2.length).map (at8 e.2) = e.2 := by
    rw [map_range_at8 le_rfl, List.take_length]
  unfold takeElement parseElement Carried.read
  dsimp only
  by_cases h1 : e.1 = mfieTypeSsid
  · obtain ⟨hne, hle⟩ := hssid h1
    simp only [if_pos h1, hall, hne, hbody hle]
    simp [carried, HeardNetwork.setSsid, min_eq_left hle]
  by_cases h2 : e.1 = mfieTypeRates
  · simp only [if_neg h1, if_pos h2, hbody (hrates h2), carried_noteRates]
    rfl
  by_cases h3 : e.1 = mfieTypeRatesEx
  · simp only [if_neg h1, if_neg h2, if_pos h3, hbody (hratesEx h3), carried_noteRates]
    rfl
  by_cases h4 : e.1 = mfieTypeDsSet
  · simp only [if_neg h1, if_neg h2, if_neg h3, if_pos h4, if_pos hfreq]
    rfl
  simp only [if_neg h1, if_neg h2, if_neg h3, if_neg h4]
  -- the other elements change other parts of the entry
  split_ifs
  · exact carried_parseTim d stats _ _ net
  all_goals rfl

theorem carried_takeElements (hfreq : stats.freq = band24Ghz) {es : List (UInt8 × List UInt8)}
    (hes : ∀ e ∈ es, FitsEntry e) (net : HeardNetwork) :
    carried (es.foldl (takeElement d stats) net) = es.foldl Carried.read (carried net) := by
  induction es generalizing net with
  | nil => rfl
  | cons e es ih =>
    obtain ⟨he, hes⟩ := List.forall_mem_cons.mp hes
    rw [List.foldl_cons, List.foldl_cons, ih hes, carried_takeElement hfreq he]

/-- With no rate of OFDM, the flag for CCK stays. -/
def Modulated (net : HeardNetwork) : Prop := net.hasOfdm = true ∨ net.hasCck = true

theorem modulated_parseElement {net : HeardNetwork} (h : Modulated net) (kind : UInt8) (info : ℕ → UInt8) (len : ℕ) :
    Modulated (parseElement d stats kind info len net) := by
  have hmod := (changeOf_owned d stats kind info len).modulated
  rw [parseElement_eq_apply]
  generalize changeOf d stats kind info len = c at hmod ⊢
  rcases h with hofdm | hcck
  · exact .inl (by simp [EntryChange.apply, hofdm])
  · by_cases hno : c.noCck = true
    · exact .inl (by simp [EntryChange.apply, hmod hno])
    · exact .inr (by simp [EntryChange.apply, hcck, hno])

theorem modulated_takeElements {net : HeardNetwork} (h : Modulated net) (es : List (UInt8 × List UInt8)) :
    Modulated (es.foldl (takeElement d stats) net) := by
  induction es generalizing net with
  | nil => exact h
  | cons e es ih => exact ih (modulated_parseElement h _ _ _)

/-! ### A list of elements in a frame -/

/-- A frame of a header and such elements is accepted, and its entry says what
the elements say. -/
theorem networkInit_encode (env : Env) {skb : SkBuff} {stack : HeardNetwork} (hfreq : stats.freq = band24Ghz)
    {hdr : List UInt8} {bi cap : UInt16} {es : List (UInt8 × List UInt8)} (hhdr : hdr.length = 32)
    (hes : ∀ e ∈ es, Contained e ∧ FitsEntry e) (hsize : (encodeElements es).length < 65536 - 36)
    (hdata : skb.data = hdr ++ le16 bi ++ le16 cap ++ encodeElements es) :
    ∃ net, networkInit env d skb stats stack = some net ∧
      carried net = es.foldl Carried.read ⟨[], [], [], stack.channel, bi, cap⟩ := by
  have hmem : skb.mem = hdr ++ (le16 bi ++ (le16 cap ++ (encodeElements es ++ skb.behind))) := by
    simp [SkBuff.mem, hdata]
  have hat : ∀ i, at8 skb.mem (32 + i) = at8 (le16 bi ++ (le16 cap ++ (encodeElements es ++ skb.behind))) i := by
    intro i
    rw [hmem, at8_append_right _ (by omega), hhdr, Nat.add_sub_cancel_left]
  have hbi : get16 skb.mem 32 = bi := by
    rw [get16, hat 1, hat 0]
    exact mk16_hi8_lo8 bi
  have hcap : get16 skb.mem 34 = cap := by
    rw [get16, hat 3, hat 2]
    exact mk16_hi8_lo8 cap
  have hdrop : skb.mem.drop mgmtFrameFixedPartLength = encodeElements es ++ skb.behind := by
    rw [hmem, ← List.append_assoc, ← List.append_assoc]
    apply List.drop_left'
    simp [hhdr, le16, mgmtFrameFixedPartLength]
  have hleft : (skb.len + 65536 - mgmtFrameFixedPartLength) % 65536 = (encodeElements es).length := by
    have hlen : skb.len = 36 + (encodeElements es).length := by
      simp [SkBuff.len, hdata, hhdr, le16]
      omega
    rw [hlen, mgmtFrameFixedPartLength]
    omega
  have hband : band24Ghz ≠ band52Ghz := by decide
  unfold networkInit
  dsimp only
  rw [hleft, parseElements_encode (fun e he => (hes e he).1) hdrop, Option.bind_some, hbi, hcap, hfreq,
    if_neg hband, if_neg hband]
  -- the entry before the elements, and behind them
  generalize hstart : HeardNetwork.mk _ _ = start
  have hmod := @modulated_takeElements P d stats start (by rw [← hstart]; exact Or.inr rfl) es
  have hcarried := @carried_takeElements P d stats hfreq es (fun e he => (hes e he).2) start
  generalize es.foldl (takeElement d stats) start = net at hmod hcarried ⊢
  have hmode : (if net.hasOfdm then ieeeG else 0) ||| (if net.hasCck then ieeeB else 0) ≠ 0 := by
    rcases hmod with h | h
    · rw [if_pos h]
      split_ifs <;> decide
    · rw [if_pos h]
      split_ifs <;> decide
  rw [if_neg hmode]
  refine ⟨_, rfl, ?_⟩
  rw [← hstart] at hcarried
  exact hcarried

end

/-! ### The probe response -/

/-- A WPA or RSN element that the device can send. -/
def WpaElement (ie : List UInt8) : Prop :=
  18 ≤ ie.length ∧ (at8 ie 0 = mfieTypeGeneric ∨ at8 ie 0 = mfieTypeRsn) ∧ (at8 ie 1).toNat + 2 = ie.length

/-- `current_network` is as the arrays of an entry allow, and has a name. (The
empty SSID is an empty one for `ieee80211_is_empty_essid`.) -/
structure WellFormedBeacon (d : Device P) : Prop where
  ssid : d.currentNetwork.ssid.length ≤ iwEssidMaxSize
  named : isEmptyEssid d.currentNetwork.ssid = false
  rates : d.currentNetwork.rates.length ≤ maxRatesLength
  ratesEx : d.currentNetwork.ratesEx.length ≤ maxRatesExLength
  wpa : d.wpaIe = [] ∨ WpaElement d.wpaIe

/-- The entry says what the network is. -/
structure Recovered (network : Network) (net : HeardNetwork) : Prop where
  ssid : net.ssid = network.ssid
  rates : net.rates = network.rates
  ratesEx : net.ratesEx = network.ratesEx
  channel : net.channel = network.channel
  beaconInterval : net.beaconInterval = network.beaconInterval
  ibss : net.capability &&& wlanCapabilityIbss = network.capability &&& wlanCapabilityIbss

section

variable (d : Device P)

/-- The device's WPA element, as `ieee80211_probe_resp` sends it. -/
def sentWpaIe : List UInt8 := if d.iwMode = .adhoc then copyPairwiseSuite d.wpaIe else d.wpaIe

/-- The elements of a probe response. -/
def probeRespIes : List (UInt8 × List UInt8) :=
  let net := d.currentNetwork
  [(mfieTypeSsid, net.ssid), (mfieTypeRates, net.rates), (mfieTypeDsSet, [net.channel])] ++
    (if net.capability &&& wlanCapabilityIbss ≠ 0 then [(mfieTypeIbssSet, le16 net.atimWindow)] else []) ++
    (if net.is54g then [(mfieTypeErp, [0])] else []) ++
    (if net.ratesEx ≠ [] then [(mfieTypeRatesEx, net.ratesEx)] else []) ++
    (if d.wpaIe ≠ [] then [(at8 (sentWpaIe d) 0, (sentWpaIe d).drop 2)] else [])

/-- Its capability. -/
def probeRespCap : UInt16 :=
  let net := d.currentNetwork
  let encrypt := hostEncrypts d && (d.txCrypt.any (fun c => c.1.name == "WEP") || d.wpaIe.length != 0)
  (net.capability &&& wlanCapabilityIbss) |||
    capFlag (d.shortSlot && net.capability &&& wlanCapabilityShortSlot != 0) wlanCapabilityShortSlot |||
    capFlag encrypt wlanCapabilityPrivacy

/-- The copy inside an element is behind its first two bytes. -/
theorem copyPairwiseSuite_cons (id len : UInt8) (body : List UInt8) :
    ∃ body', copyPairwiseSuite (id :: len :: body) = id :: len :: body' ∧ body'.length = body.length := by
  refine ⟨(copyPairwiseSuite (id :: len :: body)).drop 2, ?_, ?_⟩
  · simp [copyPairwiseSuite, List.range_succ]
  · simp

/-- So the element that is sent is one, and of the same kind. -/
theorem sentWpaIe_element {d : Device P} (h : WpaElement d.wpaIe) :
    ∃ id body, sentWpaIe d = infoElement id body ∧ (id = mfieTypeGeneric ∨ id = mfieTypeRsn) ∧
      body.length < 256 := by
  obtain ⟨hlong, hid, hlen⟩ := h
  obtain ⟨id, len, body, hie⟩ : ∃ id len body, d.wpaIe = id :: len :: body := by
    match hw : d.wpaIe with
    | id :: len :: body => exact ⟨id, len, body, rfl⟩
    | [] | [_] =>
      rw [hw] at hlong
      simp at hlong
  rw [hie] at hid hlen
  have hbody : len.toNat = body.length := Nat.add_right_cancel hlen
  have helement : ∀ body' : List UInt8, body'.length = body.length →
      id :: len :: body' = infoElement id body' ∧ body'.length < 256 := by
    intro body' hlen'
    refine ⟨?_, ?_⟩
    · rw [infoElement, hlen', ← hbody, UInt8.ofNat_toNat]
    · rw [hlen', ← hbody]
      exact len.toNat_lt
  by_cases hmode : d.iwMode = .adhoc
  · obtain ⟨body', hcopy, hlen'⟩ := copyPairwiseSuite_cons id len body
    refine ⟨id, body', ?_, hid, (helement body' hlen').2⟩
    rw [sentWpaIe, if_pos hmode, hie, hcopy]
    exact (helement body' hlen').1
  · refine ⟨id, body, ?_, hid, (helement body rfl).2⟩
    rw [sentWpaIe, if_neg hmode, hie]
    exact (helement body rfl).1

/-- The element that is sent, if there is one, is the last of the elements. -/
theorem encode_wpaIes {d : Device P} (hwpa : d.wpaIe = [] ∨ WpaElement d.wpaIe) :
    encodeElements (if d.wpaIe ≠ [] then [(at8 (sentWpaIe d) 0, (sentWpaIe d).drop 2)] else []) =
      sentWpaIe d := by
  rcases hwpa with hnone | hwpa
  · rw [if_neg (not_not.mpr hnone)]
    simp [encodeElements, sentWpaIe, hnone, copyPairwiseSuite_nil]
  · have hne : d.wpaIe ≠ [] := by
      intro hnil
      have hlong := hwpa.1
      simp [hnil] at hlong
    obtain ⟨id, body, hie, -, -⟩ := sentWpaIe_element hwpa
    rw [if_pos hne, hie]
    simp [encodeElements, infoElement, at8]

theorem probeResp_data {d : Device P} (hwpa : d.wpaIe = [] ∨ WpaElement d.wpaIe) (dest : Mac) :
    (probeResp true d dest).map (·.1.data) =
      some (mgmtHdr stypeProbeResp 0 dest d.devAddr d.currentNetwork.bssid ++ List.replicate 8 0 ++
        le16 d.currentNetwork.beaconInterval ++ le16 (probeRespCap d) ++ encodeElements (probeRespIes d)) := by
  have happend : ∀ es es' : List (UInt8 × List UInt8),
      encodeElements (es ++ es') = encodeElements es ++ encodeElements es' := fun _ _ => List.flatMap_append
  have hopt : ∀ (p : Prop) [Decidable p] (id : UInt8) (body : List UInt8),
      encodeElements (if p then [(id, body)] else []) = if p then infoElement id body else [] := by
    intro p _ id body
    split_ifs <;> simp [encodeElements]
  unfold probeRespIes
  dsimp only
  rw [happend, encode_wpaIes hwpa, happend, happend, happend, hopt, hopt, hopt]
  simp [probeResp, probeRespCap, sentWpaIe, encodeElements, SkBuff.devAllocSkb]

theorem fitsEntry_of_other {id : UInt8} (h : id ∉ [mfieTypeSsid, mfieTypeRates, mfieTypeRatesEx])
    (body : List UInt8) : FitsEntry (id, body) := by
  simp only [List.mem_cons, List.not_mem_nil, or_false, not_or] at h
  exact ⟨fun hid => absurd hid h.1, fun hid => absurd hid h.2.1, fun hid => absurd hid h.2.2⟩

theorem contained_of_other {id : UInt8} (h : id ∉ [mfieTypeTim, mfieTypeDsSet]) {body : List UInt8}
    (hlen : body.length < 256) : Contained (id, body) := by
  simp only [List.mem_cons, List.not_mem_nil, or_false, not_or] at h
  exact ⟨hlen, h.1, fun hid => absurd hid h.2⟩

theorem probeRespIes_fit {d : Device P} (hwf : WellFormedBeacon d) :
    ∀ e ∈ probeRespIes d, Contained e ∧ FitsEntry e := by
  have hssid : d.currentNetwork.ssid.length ≤ 32 := hwf.ssid
  have hrates : d.currentNetwork.rates.length ≤ 12 := hwf.rates
  have hratesEx : d.currentNetwork.ratesEx.length ≤ 16 := hwf.ratesEx
  have hids : mfieTypeSsid ≠ mfieTypeRates ∧ mfieTypeSsid ≠ mfieTypeRatesEx ∧ mfieTypeRates ≠ mfieTypeRatesEx := by
    decide
  have hds : mfieTypeDsSet ≠ mfieTypeTim := by decide
  intro e he
  unfold probeRespIes at he
  simp only [List.mem_append, List.mem_ite_nil_right, List.mem_cons, List.not_mem_nil, or_false] at he
  rcases he with ((((rfl | rfl | rfl) | ⟨-, rfl⟩) | ⟨-, rfl⟩) | ⟨-, rfl⟩) | ⟨hne, rfl⟩
  · exact ⟨contained_of_other (by decide) (by omega), fun _ => ⟨hwf.named, hwf.ssid⟩,
      fun h => absurd h hids.1, fun h => absurd h hids.2.1⟩
  · exact ⟨contained_of_other (by decide) (by omega), fun h => absurd h.symm hids.1, fun _ => hwf.rates,
      fun h => absurd h hids.2.2⟩
  · exact ⟨⟨by simp, hds, fun _ => List.cons_ne_nil _ _⟩, fitsEntry_of_other (by decide) _⟩
  · exact ⟨contained_of_other (by decide) (by simp [le16]), fitsEntry_of_other (by decide) _⟩
  · exact ⟨contained_of_other (by decide) (by simp), fitsEntry_of_other (by decide) _⟩
  · exact ⟨contained_of_other (by decide) (by omega), fun h => absurd h.symm hids.2.1,
      fun h => absurd h.symm hids.2.2, fun _ => hwf.ratesEx⟩
  · obtain ⟨id, body, hie, hid, hlen⟩ := sentWpaIe_element (hwf.wpa.resolve_left hne)
    rw [hie]
    rcases hid with rfl | rfl
    · exact ⟨@contained_of_other mfieTypeGeneric (by decide) _ hlen,
        @fitsEntry_of_other mfieTypeGeneric (by decide) _⟩
    · exact ⟨@contained_of_other mfieTypeRsn (by decide) _ hlen, @fitsEntry_of_other mfieTypeRsn (by decide) _⟩

theorem read_probeRespIes (c : Carried) {d : Device P} (hwpa : d.wpaIe = [] ∨ WpaElement d.wpaIe)
    (hex : c.ratesEx = []) :
    (probeRespIes d).foldl Carried.read c =
      { c with ssid := d.currentNetwork.ssid, rates := d.currentNetwork.rates,
               ratesEx := d.currentNetwork.ratesEx, channel := d.currentNetwork.channel } := by
  have hopt : ∀ (p : Prop) [Decidable p] (e : UInt8 × List UInt8) (c : Carried),
      (if p then [e] else []).foldl Carried.read c = if p then c.read e else c := by
    intro p _ e c
    split_ifs <;> rfl
  have hother : ∀ (c : Carried) (id : UInt8) (body : List UInt8),
      id ∉ [mfieTypeSsid, mfieTypeRates, mfieTypeRatesEx, mfieTypeDsSet] → c.read (id, body) = c := by
    intro c id body h
    simp only [List.mem_cons, List.not_mem_nil, or_false, not_or] at h
    simp [Carried.read, h]
  have hwpaRead : ∀ c : Carried, d.wpaIe ≠ [] → c.read (at8 (sentWpaIe d) 0, (sentWpaIe d).drop 2) = c := by
    intro c hne
    obtain ⟨id, body, hie, hid, -⟩ := sentWpaIe_element (hwpa.resolve_left hne)
    rw [hie]
    rcases hid with rfl | rfl
    · exact hother c mfieTypeGeneric _ (by decide)
    · exact hother c mfieTypeRsn _ (by decide)
  have hlast : ∀ c : Carried, (if d.wpaIe ≠ [] then c.read (at8 (sentWpaIe d) 0, (sentWpaIe d).drop 2) else c) = c := by
    intro c
    split_ifs with h
    · exact hwpaRead c h
    · rfl
  have hratesEx : ∀ c : Carried, c.ratesEx = [] →
      (if d.currentNetwork.ratesEx ≠ [] then c.read (mfieTypeRatesEx, d.currentNetwork.ratesEx) else c) =
        { c with ratesEx := d.currentNetwork.ratesEx } := by
    intro c hnone
    split_ifs with h
    · rfl
    · rw [not_not.mp h, ← hnone]
  unfold probeRespIes
  dsimp only
  rw [List.foldl_append, List.foldl_append, List.foldl_append, List.foldl_append, hopt, hopt, hopt, hopt,
    hother _ mfieTypeIbssSet _ (by decide), hother _ mfieTypeErp _ (by decide), ite_self, ite_self, hlast]
  exact hratesEx _ hex

theorem probeRespCap_ibss : probeRespCap d &&& wlanCapabilityIbss =
    d.currentNetwork.capability &&& wlanCapabilityIbss := by
  have hflag : ∀ (b : Bool) (cap : UInt16), cap &&& wlanCapabilityIbss = 0 →
      capFlag b cap &&& wlanCapabilityIbss = 0 := by
    intro b cap h
    unfold capFlag
    split_ifs
    · exact h
    · exact UInt16.zero_and
  have hdistrib : ∀ a b : UInt16, (a ||| b) &&& wlanCapabilityIbss =
      a &&& wlanCapabilityIbss ||| b &&& wlanCapabilityIbss := by
    intro a b
    apply UInt16.toBitVec_inj.mp
    exact BitVec.and_or_distrib_right
  unfold probeRespCap
  dsimp only
  rw [hdistrib, hdistrib, hflag _ wlanCapabilityShortSlot (by decide), hflag _ wlanCapabilityPrivacy (by decide),
    UInt16.and_assoc, UInt16.and_self, UInt16.or_zero, UInt16.or_zero]

/-- The elements are short enough for the length of a frame. -/
theorem length_probeRespIes {d : Device P} (hwf : WellFormedBeacon d) :
    (encodeElements (probeRespIes d)).length < 65536 - 36 := by
  have hsmall : ∀ es : List (UInt8 × List UInt8), (∀ e ∈ es, Contained e) →
      (encodeElements es).length ≤ 258 * es.length := by
    intro es hes
    induction es with
    | nil => simp [encodeElements]
    | cons e es ih =>
      obtain ⟨he, hes⟩ := List.forall_mem_cons.mp hes
      have hlen := he.1
      have hrest := ih hes
      simp only [encodeElements, List.flatMap_cons, List.length_append, length_infoElement, List.length_cons]
        at hrest ⊢
      omega
  have hcount : (probeRespIes d).length ≤ 7 := by
    unfold probeRespIes
    simp only [List.length_append, List.length_cons, List.length_nil]
    split_ifs <;> simp
  have hle := hsmall _ (fun e he => (probeRespIes_fit hwf e he).1)
  omega

end

/-- A probe response fills what is allocated for it, and the station that hears
it knows the network as it is. -/
theorem probeResp_heard {d : Device P} (hwf : WellFormedBeacon d) (dest : Mac) :
    (total (probeRespBuild d dest).ops = (probeRespBuild d dest).room ∧
      reach (probeRespBuild d dest).ops = (probeRespBuild d dest).room ∧ (probeRespBuild d dest).Fits) ∧
    ∀ alloc, ∀ sent ∈ probeResp alloc d dest,
      sent.1.data = frame 0 (probeRespBuild d dest).ops ∧
      ∀ (env : Env) (hearer : Device Q) (skb : SkBuff) (stats : RxStats) (stack : HeardNetwork),
        skb.data = sent.1.data → stats.freq = band24Ghz →
        ∃ net, networkInit env hearer skb stats stack = some net ∧ Recovered d.currentNetwork net := by
  refine ⟨probeRespBuild_exact d dest, ?_⟩
  intro alloc sent hsent
  have halloc : probeResp true d dest = some sent := by
    cases alloc with
    | false => simp [probeResp] at hsent
    | true => exact hsent
  have hbuild := frame_probeRespBuild d dest
  have hdata := probeResp_data hwf.wpa dest
  rw [halloc, Option.map_some, Option.some_inj] at hbuild hdata
  refine ⟨hbuild, ?_⟩
  intro env hearer skb stats stack hskb hfreq
  rw [hdata] at hskb
  obtain ⟨net, hnet, hcarried⟩ := @networkInit_encode Q hearer stats env skb stack hfreq _ _ _ _ rfl
    (probeRespIes_fit hwf) (length_probeRespIes hwf) hskb
  rw [read_probeRespIes _ hwf.wpa rfl] at hcarried
  simp only [carried, Carried.mk.injEq] at hcarried
  obtain ⟨hssid, hrates, hratesEx, hchannel, hbi, hcap⟩ := hcarried
  refine ⟨net, hnet, hssid, hrates, hratesEx, hchannel, hbi, ?_⟩
  rw [hcap, probeRespCap_ibss]

/-- An ad hoc network with rates of both kinds, and a WPA element that its
devices send. -/
def homeDevice : Device Unit :=
  { Device.init Unit ⟨1000, true⟩ ⟨2, 0, 0, 0, 0, 1⟩ with
    iwMode := .adhoc
    wpaIe := [221, 22, 0x00, 0x50, 0xf2, 0x01, 1, 0, 0x00, 0x50, 0xf2, 2, 1, 0] ++ List.replicate 10 0
    currentNetwork :=
      ⟨⟨2, 0, 0, 0, 0, 7⟩, 11, [0x68, 0x6f, 0x6d, 0x65], wlanCapabilityIbss, [0x82, 0x84, 0x8B, 0x96],
        [0x8C, 0x12], 100, 3, [], [], false⟩ }

theorem homeDevice_heard : WellFormedBeacon homeDevice ∧
    ∃ sent ∈ probeResp true homeDevice Mac.broadcast,
      ∃ net, networkInit ⟨0, true, fun _ => false, Mac.broadcast⟩ homeDevice ⟨16, sent.1.data, []⟩ ⟨band24Ghz, 11, (0, 0)⟩ HeardNetwork.zeroed =
          some net ∧ Recovered homeDevice.currentNetwork net := by
  have hwf : WellFormedBeacon homeDevice := by
    refine ⟨by decide, by decide, by decide, by decide, Or.inr ⟨by decide, by decide, by decide⟩⟩
  have hheard := (@probeResp_heard Unit Unit homeDevice hwf Mac.broadcast).2 true
  obtain ⟨sent, hsent⟩ : ∃ sent, probeResp true homeDevice Mac.broadcast = some sent := ⟨_, rfl⟩
  exact ⟨hwf, sent, hsent, (hheard sent hsent).2 _ homeDevice _ _ _ rfl rfl⟩

end Rtl8187

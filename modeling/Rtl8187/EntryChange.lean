/-
# What an element changes

The `switch` of `ieee80211_network_init` (`ieee80211_rx.c`) as a change of the entry. Each
kind of element changes fields of its own, and the flags that the two lists of rates
share accumulate, so elements of two kinds may be taken in either order.

Key definitions: `EntryChange`, `changeOf`, `EntryChange.Owned`.
Key theorems: `EntryChange.comp_comm`, `parseElement_eq_apply`, `changeOf_owned`,
`parseElement_comm`.
-/
import Rtl8187.Survey

namespace Rtl8187

open Bytes

variable {P : Type}

/-! ### Changes of an entry -/

/-- The SSID and what tells whether it is an empty one. -/
def HeardNetwork.name (net : HeardNetwork) : List UInt8 × List UInt8 × Bool :=
  (net.ssid, net.ssidTail, net.emptyEssid)

/-- What is kept for power save. -/
def HeardNetwork.dtim (net : HeardNetwork) : UInt8 × UInt8 × (UInt32 × UInt32) :=
  (net.dtimPeriod, net.dtimData, net.lastDtimStaTime)

/-- A change of an entry, field by field. -/
structure EntryChange where
  name : List UInt8 × List UInt8 × Bool → List UInt8 × List UInt8 × Bool
  rates : List UInt8 → List UInt8
  ratesEx : List UInt8 → List UInt8
  /-- The flag for OFDM is set. -/
  ofdm : Bool
  /-- The flag for CCK is cleared. -/
  noCck : Bool
  channel : UInt8 → UInt8
  dtim : UInt8 × UInt8 × (UInt32 × UInt32) → UInt8 × UInt8 × (UInt32 × UInt32)
  wpaIe : List UInt8 → List UInt8
  rsnIe : List UInt8 → List UInt8

namespace EntryChange

/-- Nothing is changed. -/
def none : EntryChange := ⟨id, id, id, false, false, id, id, id, id⟩

/-- The entry after the change. -/
def apply (c : EntryChange) (net : HeardNetwork) : HeardNetwork :=
  { net with
    ssid := (c.name net.name).1
    ssidTail := (c.name net.name).2.1
    emptyEssid := (c.name net.name).2.2
    rates := c.rates net.rates
    ratesEx := c.ratesEx net.ratesEx
    hasOfdm := net.hasOfdm || c.ofdm
    hasCck := net.hasCck && !c.noCck
    channel := c.channel net.channel
    dtimPeriod := (c.dtim net.dtim).1
    dtimData := (c.dtim net.dtim).2.1
    lastDtimStaTime := (c.dtim net.dtim).2.2
    wpaIe := c.wpaIe net.wpaIe
    rsnIe := c.rsnIe net.rsnIe }

@[simp] theorem apply_none (net : HeardNetwork) : none.apply net = net := by
  simp [apply, none, HeardNetwork.name, HeardNetwork.dtim]

/-- One change after another. -/
def comp (c c' : EntryChange) : EntryChange where
  name := c.name ∘ c'.name
  rates := c.rates ∘ c'.rates
  ratesEx := c.ratesEx ∘ c'.ratesEx
  ofdm := c'.ofdm || c.ofdm
  noCck := c'.noCck || c.noCck
  channel := c.channel ∘ c'.channel
  dtim := c.dtim ∘ c'.dtim
  wpaIe := c.wpaIe ∘ c'.wpaIe
  rsnIe := c.rsnIe ∘ c'.rsnIe

theorem apply_comp (c c' : EntryChange) (net : HeardNetwork) : (c.comp c').apply net = c.apply (c'.apply net) := by
  simp [apply, comp, HeardNetwork.name, HeardNetwork.dtim, Bool.or_assoc, Bool.and_assoc]

/-- Of two changes, one leaves each field alone; the flags are shared. -/
structure Independent (c c' : EntryChange) : Prop where
  name : c.name = id ∨ c'.name = id
  rates : c.rates = id ∨ c'.rates = id
  ratesEx : c.ratesEx = id ∨ c'.ratesEx = id
  channel : c.channel = id ∨ c'.channel = id
  dtim : c.dtim = id ∨ c'.dtim = id
  wpaIe : c.wpaIe = id ∨ c'.wpaIe = id
  rsnIe : c.rsnIe = id ∨ c'.rsnIe = id

/-- A function commutes with one that does nothing. -/
theorem comp_of_id {α : Type} {f g : α → α} (h : f = id ∨ g = id) : f ∘ g = g ∘ f := by
  rcases h with rfl | rfl <;> rfl

/-- **Independent changes commute.** -/
theorem comp_comm {c c' : EntryChange} (h : Independent c c') : c.comp c' = c'.comp c := by
  unfold comp
  rw [comp_of_id h.name, comp_of_id h.rates, comp_of_id h.ratesEx, comp_of_id h.channel, comp_of_id h.dtim,
    comp_of_id h.wpaIe, comp_of_id h.rsnIe, Bool.or_comm c'.ofdm, Bool.or_comm c'.noCck]

end EntryChange

/-! ### The change of an element -/

/-- The change of an element with identifier `id` and a body `info` of `len` bytes. -/
def changeOf (d : Device P) (stats : RxStats) (id : UInt8) (info : ℕ → UInt8) (len : ℕ) : EntryChange :=
  let body (n : ℕ) := (List.range n).map info
  let element (n : ℕ) := ([id, UInt8.ofNat len] ++ body len).take n
  let basicOfdm (r : UInt8) := isOfdmRate r && r &&& basicRateMask != 0
  if id = mfieTypeSsid then
    if isEmptyEssid (body len) then { EntryChange.none with name := fun t => (t.1, t.2.1, true) }
    else
      let n := min len iwEssidMaxSize
      let buf (t : List UInt8 × List UInt8 × Bool) :=
        body n ++ List.replicate (iwEssidMaxSize - n) 0 ++ (t.1 ++ t.2.1).drop iwEssidMaxSize
      { EntryChange.none with name := fun t => ((buf t).take n, (buf t).drop n, t.2.2) }
  else if id = mfieTypeRates then
    let rates := body (min len maxRatesLength)
    { EntryChange.none with rates := fun _ => rates, ofdm := rates.any isOfdmRate, noCck := rates.any basicOfdm }
  else if id = mfieTypeRatesEx then
    let rates := body (min len maxRatesExLength)
    { EntryChange.none with ratesEx := fun _ => rates, ofdm := rates.any isOfdmRate, noCck := rates.any basicOfdm }
  else if id = mfieTypeDsSet then
    if stats.freq = band24Ghz then { EntryChange.none with channel := fun _ => info 0 } else .none
  else if id = mfieTypeTim then
    { EntryChange.none with dtim := fun t => (parseTim d stats info len { HeardNetwork.zeroed with
        dtimPeriod := t.1, dtimData := t.2.1, lastDtimStaTime := t.2.2 }).dtim }
  else if id = mfieTypeGeneric then
    if 4 ≤ len ∧ body 4 = [0x00, 0x50, 0xf2, 0x01] then
      { EntryChange.none with wpaIe := fun _ => element (min (len + 2) maxWpaIeLen) }
    else .none
  else if id = mfieTypeRsn then { EntryChange.none with rsnIe := fun _ => element (min (len + 2) maxWpaIeLen) }
  else .none

section

variable {d : Device P} {stats : RxStats} {kind : UInt8} {info : ℕ → UInt8} {len : ℕ}

/-- A TIM element changes what is kept for power save, by that alone. -/
theorem parseTim_eq_apply (net : HeardNetwork) :
    parseTim d stats info len net = { net with
      dtimPeriod := (parseTim d stats info len { HeardNetwork.zeroed with
        dtimPeriod := net.dtimPeriod, dtimData := net.dtimData, lastDtimStaTime := net.lastDtimStaTime }).dtimPeriod
      dtimData := (parseTim d stats info len { HeardNetwork.zeroed with
        dtimPeriod := net.dtimPeriod, dtimData := net.dtimData, lastDtimStaTime := net.lastDtimStaTime }).dtimData
      lastDtimStaTime := (parseTim d stats info len { HeardNetwork.zeroed with
        dtimPeriod := net.dtimPeriod, dtimData := net.dtimData
        lastDtimStaTime := net.lastDtimStaTime }).lastDtimStaTime } := by
  unfold parseTim
  dsimp only
  split_ifs <;> rfl

/-- **The `switch` makes the change of the element.** -/
theorem parseElement_eq_apply (net : HeardNetwork) :
    parseElement d stats kind info len net = (changeOf d stats kind info len).apply net := by
  unfold parseElement changeOf
  dsimp only
  by_cases h1 : kind = mfieTypeSsid
  · simp only [if_pos h1]
    split_ifs
    · simp [EntryChange.apply, EntryChange.none, HeardNetwork.name, HeardNetwork.dtim]
    · simp [EntryChange.apply, EntryChange.none, HeardNetwork.name, HeardNetwork.dtim, HeardNetwork.setSsid,
        HeardNetwork.ssidBuf]
  by_cases h2 : kind = mfieTypeRates
  · simp only [if_neg h1, if_pos h2, foldl_noteRate]
    rfl
  by_cases h3 : kind = mfieTypeRatesEx
  · simp only [if_neg h1, if_neg h2, if_pos h3, foldl_noteRate]
    rfl
  simp only [if_neg h1, if_neg h2, if_neg h3]
  split_ifs
  · simp [EntryChange.apply, EntryChange.none, HeardNetwork.name, HeardNetwork.dtim]
  · rw [EntryChange.apply_none]
  · rw [parseTim_eq_apply]
    simp [EntryChange.apply, EntryChange.none, HeardNetwork.name, HeardNetwork.dtim]
  · simp [EntryChange.apply, EntryChange.none, HeardNetwork.name, HeardNetwork.dtim]
  · rw [EntryChange.apply_none]
  · simp [EntryChange.apply, EntryChange.none, HeardNetwork.name, HeardNetwork.dtim]
  · rw [EntryChange.apply_none]

end

/-- The fields that elements of another kind own are left alone, and the flag for CCK is
cleared only for the sake of OFDM. -/
structure EntryChange.Owned (kind : UInt8) (c : EntryChange) : Prop where
  name : kind ≠ mfieTypeSsid → c.name = id
  rates : kind ≠ mfieTypeRates → c.rates = id
  ratesEx : kind ≠ mfieTypeRatesEx → c.ratesEx = id
  channel : kind ≠ mfieTypeDsSet → c.channel = id
  dtim : kind ≠ mfieTypeTim → c.dtim = id
  wpaIe : kind ≠ mfieTypeGeneric → c.wpaIe = id
  rsnIe : kind ≠ mfieTypeRsn → c.rsnIe = id
  modulated : c.noCck = true → c.ofdm = true

theorem EntryChange.owned_none (kind : UInt8) : EntryChange.none.Owned kind :=
  ⟨fun _ => rfl, fun _ => rfl, fun _ => rfl, fun _ => rfl, fun _ => rfl, fun _ => rfl, fun _ => rfl,
    fun h => absurd h Bool.false_ne_true⟩

/-- A list of rates that takes CCK away has one of OFDM. -/
theorem any_isOfdmRate {rates : List UInt8} (h : (rates.any fun r => isOfdmRate r && r &&& basicRateMask != 0) = true) :
    rates.any isOfdmRate = true := by
  obtain ⟨r, hr, hbasic⟩ := List.any_eq_true.mp h
  exact List.any_eq_true.mpr ⟨r, hr, (Bool.and_eq_true_iff.mp hbasic).1⟩

theorem changeOf_owned (d : Device P) (stats : RxStats) (kind : UInt8) (info : ℕ → UInt8) (len : ℕ) :
    (changeOf d stats kind info len).Owned kind := by
  have hnone := EntryChange.owned_none kind
  unfold changeOf
  dsimp only
  split_ifs with h1 h2 h3 h4 h5 h6 h7 h8 h9 h10
  · exact { hnone with name := fun h => absurd h1 h }
  · exact { hnone with name := fun h => absurd h1 h }
  · exact { hnone with rates := fun h => absurd h3 h, modulated := any_isOfdmRate }
  · exact { hnone with ratesEx := fun h => absurd h4 h, modulated := any_isOfdmRate }
  · exact { hnone with channel := fun h => absurd h5 h }
  · exact hnone
  · exact { hnone with dtim := fun h => absurd h7 h }
  · exact { hnone with wpaIe := fun h => absurd h8 h }
  · exact hnone
  · exact { hnone with rsnIe := fun h => absurd h10 h }
  · exact hnone

/-- Elements of two kinds make independent changes. -/
theorem EntryChange.Owned.independent {kind kind' : UInt8} {c c' : EntryChange} (h : c.Owned kind)
    (h' : c'.Owned kind') (hne : kind ≠ kind') : Independent c c' := by
  have hone : ∀ k : UInt8, kind ≠ k ∨ kind' ≠ k := by
    intro k
    by_cases heq : kind = k
    · exact .inr fun heq' => hne (heq.trans heq'.symm)
    · exact .inl heq
  exact ⟨(hone _).imp h.name h'.name, (hone _).imp h.rates h'.rates, (hone _).imp h.ratesEx h'.ratesEx,
    (hone _).imp h.channel h'.channel, (hone _).imp h.dtim h'.dtim, (hone _).imp h.wpaIe h'.wpaIe,
    (hone _).imp h.rsnIe h'.rsnIe⟩

/-- **Elements of two kinds may be taken in either order.** -/
theorem parseElement_comm (d : Device P) (stats : RxStats) {kind kind' : UInt8} (hne : kind ≠ kind')
    (info info' : ℕ → UInt8) (len len' : ℕ) (net : HeardNetwork) :
    parseElement d stats kind info len (parseElement d stats kind' info' len' net) =
      parseElement d stats kind' info' len' (parseElement d stats kind info len net) := by
  have hind := (changeOf_owned d stats kind info len).independent (changeOf_owned d stats kind' info' len') hne
  rw [parseElement_eq_apply, parseElement_eq_apply, parseElement_eq_apply, parseElement_eq_apply,
    ← EntryChange.apply_comp, ← EntryChange.apply_comp, EntryChange.comp_comm hind]

section

variable {d : Device P} {stats : RxStats}

/-- Only a DS element sets the channel. -/
theorem parseElement_channel_of_ne {kind : UInt8} (h : kind ≠ mfieTypeDsSet) (info : ℕ → UInt8) (len : ℕ)
    (net : HeardNetwork) : (parseElement d stats kind info len net).channel = net.channel := by
  rw [parseElement_eq_apply]
  show (changeOf d stats kind info len).channel net.channel = net.channel
  rw [(changeOf_owned d stats kind info len).channel h]
  rfl

/-- And only a TIM element what is kept for power save. -/
theorem parseElement_dtim_of_ne {kind : UInt8} (h : kind ≠ mfieTypeTim) (info : ℕ → UInt8) (len : ℕ)
    (net : HeardNetwork) : (parseElement d stats kind info len net).dtim = net.dtim := by
  rw [parseElement_eq_apply]
  show (changeOf d stats kind info len).dtim net.dtim = net.dtim
  rw [(changeOf_owned d stats kind info len).dtim h]
  rfl

end

end Rtl8187

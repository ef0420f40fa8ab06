/-
# The text of a scan result

`rtl818x_translate_scan` (`ieee80211_wx.c`) makes the events by which user space is
told of a network. The rates go into a text in the buffer `custom`, in one merge loop over
both lists and one over what is left of the second. The pointer moves by what
`snprintf` returns, so what is not stored counts too: the text is in the buffer
exactly if it fits (`scanText_iff`).

Key definitions: `scanRates`, `ratesText`, `translateScan`, `TextKept`, `ratesWidth`.
Key theorems: `scanRates_perm`, `ratesText_reads`, `scanText_iff`.
-/
import Rtl8187.Survey
import Rtl8187.WepKeys
import Rtl8187.Lib.Printing

namespace Rtl8187

open Printing

variable {P : Type}

/-- `MAX_CUSTOM_LEN` -/
def maxCustomLen : ℕ := 64

/-- `IW_ENCODE_NOKEY` -/
def iwEncodeNokey : UInt16 := 0x0800

/-- `ieee80211_modes` -/
def ieee80211Modes : List String := ["?", "a", "b", "ab", "g", "ag", "bg", "abg"]

/-- What of a network's `stats` user space is told. -/
structure ScanStats where
  signalstrength : UInt8
  signal : UInt8
  noise : UInt8

/-- The events `rtl818x_translate_scan` adds to the stream. -/
inductive IwEvent where
  | apAddr (bssid : Mac)
  | essid (flags : UInt16) (text : List UInt8)
  | name (text : String)
  | mode (mode : IwMode)
  | freq (m : ℤ) (e i : ℕ)
  | encode (flags : UInt16)
  | rate (value : ℕ)
  /-- The first `length` characters of `custom`. -/
  | custom (length : UInt16) (custom : ℕ → Option Char)
  | qual (qual level noise updated : UInt8)
  | genie (ie : List UInt8)

/-- `snprintf` at the pointer, with the room from there to the end. -/
def snprintf (b : Buffer Char) (text : List Char) : Buffer Char := print (Char.ofNat 0) maxCustomLen b text

/-- A rate as it is printed, in Mb/s. -/
def rateText (rate : UInt8) : List Char :=
  Nat.toDigits 10 (rate >>> 1).toNat ++ (if rate &&& 1 ≠ 0 then ".5".toList else []) ++ " ".toList

/-- The rates in the order in which the two loops take them. -/
def scanRates : List UInt8 → List UInt8 → List UInt8
  | [], ratesEx => ratesEx.map (· &&& 0x7F)
  | r :: rates, [] => (r &&& 0x7F) :: scanRates rates []
  | r :: rates, e :: ratesEx =>
    if e &&& 0x7F < r &&& 0x7F then (e &&& 0x7F) :: scanRates (r :: rates) ratesEx
    else (r &&& 0x7F) :: scanRates rates (e :: ratesEx)
termination_by rates ratesEx => rates.length + ratesEx.length

/-- `custom` with the pointer into it, and `max_rate`. -/
structure RatesText where
  custom : Buffer Char
  maxRate : UInt8

namespace RatesText

/-- Before the loops. -/
def start : RatesText := ⟨snprintf .fresh " Rates (Mb/s): ".toList, 0⟩

/-- One turn of a loop. -/
def add (t : RatesText) (rate : UInt8) : RatesText :=
  ⟨snprintf t.custom (rateText rate), if t.maxRate < rate then rate else t.maxRate⟩

end RatesText

/-- After the loops. -/
def ratesText (net : HeardNetwork) : RatesText :=
  Run.run RatesText.add .start (scanRates net.rates net.ratesEx)

/-- The text at the end, printed into the same buffer. -/
def lastBeacon (env : Env) (hz : UInt64) (net : HeardNetwork) (custom : ℕ → Option Char) : Buffer Char :=
  snprintf ⟨custom, 0⟩
    (" Last beacon: ".toList ++ Nat.toDigits 10 ((env.now - net.lastScanned) / (hz / 100)).toNat ++ "ms ago".toList)

/-- The event of a text, if there is one. -/
def customEvent (b : Buffer Char) : List IwEvent :=
  let length := UInt16.ofNat b.p
  if length ≠ 0 then [.custom length b.mem] else []

/-- `rtl818x_translate_scan`, with wireless extensions from version 18 on. -/
def translateScan (env : Env) (d : Device P) (stats : ScanStats) (net : HeardNetwork) : List IwEvent :=
  let rates := ratesText net
  [.apAddr net.bssid,
    .essid 1 (if net.ssid.length = 0 then "<hidden>".toUTF8.toList ++ [0] else net.ssid.take (min net.ssid.length 32)),
    .name ("IEEE 802.11" ++ ieee80211Modes.getD net.mode.toNat "")] ++
  (if net.capability &&& (wlanCapabilityBss ||| wlanCapabilityIbss) ≠ 0 then
    [.mode (if net.capability &&& wlanCapabilityBss ≠ 0 then .master else .adhoc)]
  else []) ++
  [.freq net.channel.toNat 0 0,
    .encode (if net.capability &&& wlanCapabilityPrivacy ≠ 0 then iwEncodeEnabled ||| iwEncodeNokey
      else iwEncodeDisabled),
    .rate (rates.maxRate.toNat * 500000)] ++
  customEvent rates.custom ++
  [.qual stats.signalstrength stats.signal stats.noise 7] ++
  (if net.wpaIe ≠ [] then [.genie net.wpaIe] else []) ++
  (if net.rsnIe ≠ [] then [.genie net.rsnIe] else []) ++
  customEvent (lastBeacon env d.kernel.hz net rates.custom.mem)

/-! ### The rates -/

/-- The loops take every rate of both lists, once. -/
theorem scanRates_perm (rates ratesEx : List UInt8) :
    (scanRates rates ratesEx).Perm ((rates ++ ratesEx).map (· &&& 0x7F)) := by
  fun_induction scanRates rates ratesEx with
  | case1 ratesEx => exact .refl _
  | case2 r rates ih => exact ih.cons _
  | case3 r rates e ratesEx _ ih =>
    have hmiddle : ((r :: rates) ++ e :: ratesEx).Perm (e :: ((r :: rates) ++ ratesEx)) := List.perm_middle
    exact (ih.cons _).trans (hmiddle.map (· &&& 0x7F)).symm
  | case4 r rates e ratesEx _ ih => exact ih.cons _

/-- The largest of the rates; 0 is that of none. -/
structure Largest (maxRate : UInt8) (rates : List UInt8) : Prop where
  le : ∀ r ∈ rates, r ≤ maxRate
  mem : maxRate ≠ 0 → maxRate ∈ rates

namespace RatesText

theorem custom_run : ∀ (t : RatesText) (rates : List UInt8),
    (Run.run add t rates).custom = Run.run (print (Char.ofNat 0) maxCustomLen) t.custom (rates.map rateText)
  | _, [] => rfl
  | t, r :: rates => custom_run (t.add r) rates

theorem largest_add {t : RatesText} {seen : List UInt8} (h : Largest t.maxRate seen) (r : UInt8) :
    Largest (t.add r).maxRate (seen ++ [r]) := by
  unfold add
  dsimp only
  split_ifs with hlt
  · refine ⟨fun r' hr' => ?_, fun _ => List.mem_append_right _ List.mem_cons_self⟩
    rcases List.mem_append.mp hr' with hseen | hnew
    · exact UInt8.le_of_lt (UInt8.lt_of_le_of_lt (h.le r' hseen) hlt)
    · exact UInt8.le_of_eq (List.mem_singleton.mp hnew)
  · refine ⟨fun r' hr' => ?_, fun hne => List.mem_append_left _ (h.mem hne)⟩
    rcases List.mem_append.mp hr' with hseen | hnew
    · exact h.le r' hseen
    · rw [List.mem_singleton.mp hnew]
      exact UInt8.not_lt.mp hlt

theorem largest_run : ∀ {t : RatesText} {seen : List UInt8} (_ : Largest t.maxRate seen) (rates : List UInt8),
    Largest (Run.run add t rates).maxRate (seen ++ rates)
  | _, seen, h, [] => by
    rw [List.append_nil]
    exact h
  | t, seen, h, r :: rates => by
    rw [List.append_cons]
    exact largest_run (largest_add h r) rates

end RatesText

/-- **`max_rate` is the largest rate of both lists.** -/
theorem largest_maxRate (net : HeardNetwork) :
    Largest (ratesText net).maxRate ((net.rates ++ net.ratesEx).map (· &&& 0x7F)) := by
  have hstart : Largest RatesText.start.maxRate [] := ⟨fun _ h => absurd h List.not_mem_nil, fun h => absurd rfl h⟩
  have hrun := RatesText.largest_run hstart (scanRates net.rates net.ratesEx)
  have hperm := scanRates_perm net.rates net.ratesEx
  exact ⟨fun r hr => hrun.le r (hperm.mem_iff.mpr hr), fun hne => hperm.mem_iff.mp (hrun.mem hne)⟩

/-! ### The text -/

/-- How many characters a rate takes: one digit or two, two more for a half, and a
blank. -/
def rateWidth (rate : UInt8) : ℕ :=
  (if (rate &&& 0x7F).toNat < 20 then 1 else 2) + (if rate &&& 1 ≠ 0 then 2 else 0) + 1

/-- How many characters the rates and what stands before them take. -/
def ratesWidth (net : HeardNetwork) : ℕ := 15 + ((net.rates ++ net.ratesEx).map rateWidth).sum

theorem length_rateText (rate : UInt8) : (rateText (rate &&& 0x7F)).length = rateWidth rate := by
  have hlow : (rate &&& 0x7F) &&& 1 = rate &&& 1 := by
    rw [UInt8.and_assoc]
    rfl
  have hhalf : ((rate &&& 0x7F) >>> 1).toNat = (rate &&& 0x7F).toNat / 2 := by
    rw [UInt8.toNat_shiftRight, Nat.shiftRight_eq_div_pow]
    rfl
  have hlt : (rate &&& 0x7F).toNat ≤ 127 := by
    rw [UInt8.toNat_and]
    exact Nat.and_le_right
  have hpos := Nat.length_toDigits_pos (b := 10) (n := (rate &&& 0x7F).toNat / 2)
  have hone := Nat.length_toDigits_le_iff (b := 10) (n := (rate &&& 0x7F).toNat / 2) (k := 1) (by decide) (by decide)
  have htwo := Nat.length_toDigits_le_iff (b := 10) (n := (rate &&& 0x7F).toNat / 2) (k := 2) (by decide) (by decide)
  have hdot : (".5".toList).length = 2 := rfl
  have hblank : (" ".toList).length = 1 := rfl
  unfold rateText rateWidth
  rw [hlow, hhalf, List.length_append, List.length_append, apply_ite List.length, hdot, hblank, List.length_nil]
  split_ifs <;> omega

/-- The texts of the rates, as long as their widths say. -/
theorem sum_rateText (net : HeardNetwork) :
    (((scanRates net.rates net.ratesEx).map rateText).map List.length).sum =
      ((net.rates ++ net.ratesEx).map rateWidth).sum := by
  have hperm := ((scanRates_perm net.rates net.ratesEx).map rateText).map List.length
  rw [hperm.sum_nat, List.map_map, List.map_map]
  congr 1
  exact List.map_congr_left fun r _ => length_rateText r

/-- What `rtl818x_translate_scan` keeps to: the pointer stays within `custom`
after every call, every text is one that was stored, and the bit rate is that
of the largest rate. -/
structure TextKept (env : Env) (d : Device P) (stats : ScanStats) (net : HeardNetwork) : Prop where
  pointer : ∀ rates, rates <+: scanRates net.rates net.ratesEx →
    (Run.run RatesText.add .start rates).custom.p ≤ maxCustomLen
  pointer_last : (lastBeacon env d.kernel.hz net (ratesText net).custom.mem).p ≤ maxCustomLen
  text : ∀ length custom, .custom length custom ∈ translateScan env d stats net →
    length.toNat ≤ maxCustomLen ∧ ∀ i < length.toNat, (custom i).isSome
  bitrate : ∃ maxRate : UInt8, .rate (maxRate.toNat * 500000) ∈ translateScan env d stats net ∧
    Largest maxRate ((net.rates ++ net.ratesEx).map (· &&& 0x7F))

theorem start_custom : RatesText.start.custom.p = 15 ∧ Filled RatesText.start.custom :=
  ⟨rfl, filled_print filled_fresh _ (by decide)⟩

/-- The pointer after the rates `rates` is in the buffer if what was printed fits. -/
theorem pointer_iff (rates : List UInt8) :
    (Run.run RatesText.add .start rates).custom.p ≤ maxCustomLen ↔
      15 + ((rates.map rateText).map List.length).sum ≤ maxCustomLen := by
  rw [RatesText.custom_run, ← start_custom.1]
  exact run_p_le_iff (by rw [start_custom.1]; decide) _

theorem ratesText_pointer_iff (net : HeardNetwork) :
    (ratesText net).custom.p ≤ maxCustomLen ↔ ratesWidth net ≤ maxCustomLen := by
  unfold ratesText ratesWidth
  rw [pointer_iff, sum_rateText]

/-- The age of the last beacon always fits. -/
theorem lastBeacon_fits (env : Env) (hz : UInt64) (net : HeardNetwork) (custom : ℕ → Option Char) :
    (lastBeacon env hz net custom).p ≤ maxCustomLen ∧ Filled (lastBeacon env hz net custom) := by
  have hdigits : (Nat.toDigits 10 ((env.now - net.lastScanned) / (hz / 100)).toNat).length ≤ 20 := by
    rw [Nat.length_toDigits_le_iff (by decide) (by decide)]
    exact (UInt64.toNat_lt _).trans (by decide)
  have hfit : 0 + (" Last beacon: ".toList ++ Nat.toDigits 10 ((env.now - net.lastScanned) / (hz / 100)).toNat ++
      "ms ago".toList).length ≤ maxCustomLen := by
    have hbefore : (" Last beacon: ".toList).length = 14 := rfl
    have hbehind : ("ms ago".toList).length = 6 := rfl
    rw [List.length_append, List.length_append, hbefore, hbehind]
    unfold maxCustomLen
    omega
  refine ⟨?_, filled_print (fun i hi => absurd hi (Nat.not_lt_zero i)) _ hfit⟩
  unfold lastBeacon snprintf
  rw [print_of_le (Nat.zero_le _)]
  exact hfit

theorem customEvent_kept {b : Buffer Char} (hp : b.p ≤ maxCustomLen) (hfilled : Filled b) {length : UInt16}
    {custom : ℕ → Option Char} (h : .custom length custom ∈ customEvent b) :
    length.toNat ≤ maxCustomLen ∧ ∀ i < length.toNat, (custom i).isSome := by
  have hlen : (UInt16.ofNat b.p).toNat = b.p :=
    UInt16.toNat_ofNat_of_lt' (hp.trans_lt (by decide))
  unfold customEvent at h
  dsimp only at h
  split_ifs at h
  · obtain ⟨rfl, rfl⟩ := IwEvent.custom.inj (List.mem_singleton.mp h)
    rw [hlen]
    exact ⟨hp, hfilled⟩
  · exact absurd h List.not_mem_nil

/-- The two texts user space is told. -/
theorem custom_mem_translateScan {env : Env} {d : Device P} {stats : ScanStats} {net : HeardNetwork} {length : UInt16}
    {custom : ℕ → Option Char} (h : .custom length custom ∈ translateScan env d stats net) :
    .custom length custom ∈ customEvent (ratesText net).custom ∨
      .custom length custom ∈ customEvent (lastBeacon env d.kernel.hz net (ratesText net).custom.mem) := by
  have hmode : .custom length custom ∉ (if net.capability &&& (wlanCapabilityBss ||| wlanCapabilityIbss) ≠ 0 then
      [IwEvent.mode (if net.capability &&& wlanCapabilityBss ≠ 0 then .master else .adhoc)] else []) := by
    split_ifs <;> simp
  have hgenie : ∀ ie : List UInt8, IwEvent.custom length custom ∉ (if ie ≠ [] then [IwEvent.genie ie] else []) := by
    intro ie
    split_ifs <;> simp
  unfold translateScan at h
  dsimp only at h
  simpa [hmode, hgenie] using h

/-- **The text of a scan result stays in its buffer exactly if the rates take no more
characters than it has.** -/
theorem scanText_iff (env : Env) (d : Device P) (stats : ScanStats) (net : HeardNetwork) :
    TextKept env d stats net ↔ ratesWidth net ≤ 64 := by
  constructor
  · intro h
    exact (ratesText_pointer_iff net).mp (h.pointer _ (List.prefix_refl _))
  · intro h
    have hlast := lastBeacon_fits env d.kernel.hz net (ratesText net).custom.mem
    have hfilled : Filled (ratesText net).custom := by
      have hsum : RatesText.start.custom.p + (((scanRates net.rates net.ratesEx).map rateText).map List.length).sum ≤
          maxCustomLen := by
        rw [start_custom.1, sum_rateText]
        exact h
      unfold ratesText
      rw [RatesText.custom_run]
      exact filled_run start_custom.2 _ hsum
    refine ⟨?_, hlast.1, fun length custom hmem => ?_, (ratesText net).maxRate, ?_, largest_maxRate net⟩
    · rintro rates ⟨rest, hrest⟩
      have hall := (ratesText_pointer_iff net).mpr h
      unfold ratesText at hall
      rw [← hrest, Run.run_append, RatesText.custom_run] at hall
      exact (p_le_run _ _).trans hall
    · rcases custom_mem_translateScan hmem with hrates | hbeacon
      · exact customEvent_kept ((ratesText_pointer_iff net).mpr h) hfilled hrates
      · exact customEvent_kept hlast.1 hlast.2 hbeacon
    · simp [translateScan]

/-- **And then it reads as it should**: what stands before the rates, and each rate in
turn; if the text takes the whole buffer the terminator is its last character. -/
theorem ratesText_reads {net : HeardNetwork} (h : ratesWidth net ≤ 64) {k : ℕ} (hk : k + 1 < 64)
    (hend : k < ratesWidth net) :
    (ratesText net).custom.mem k =
      (" Rates (Mb/s): ".toList ++ (scanRates net.rates net.ratesEx).flatMap rateText)[k]? := by
  have hcustom : (ratesText net).custom =
      Run.run (print (Char.ofNat 0) maxCustomLen) .fresh
        (" Rates (Mb/s): ".toList :: (scanRates net.rates net.ratesEx).map rateText) := by
    unfold ratesText
    rw [RatesText.custom_run]
    rfl
  have hwidth : ((" Rates (Mb/s): ".toList :: (scanRates net.rates net.ratesEx).map rateText).map List.length).sum =
      ratesWidth net := by
    rw [List.map_cons, List.sum_cons, sum_rateText]
    rfl
  have htext := @text_run _ (Char.ofNat 0) maxCustomLen .fresh
    (" Rates (Mb/s): ".toList :: (scanRates net.rates net.ratesEx).map rateText) k
    (by rw [hwidth]; exact (Nat.zero_add _).trans_le h) (by rw [List.length_flatten, hwidth]; exact hend)
    (by rw [Nat.add_assoc]; exact (Nat.zero_add _).trans_lt hk)
  rw [hcustom, List.flatMap_def, ← List.flatten_cons, ← htext]
  exact congrArg _ (Nat.zero_add k).symm

/-- A network with twelve rates of 10.5 Mb/s. -/
def manyRates : HeardNetwork := { HeardNetwork.zeroed with rates := List.replicate 12 21 }

/-- Each takes five characters. -/
theorem manyRates_not_kept :
    ¬ TextKept ⟨0, true, fun _ => false, ⟨0, 0, 0, 0, 0, 0⟩⟩ (Device.init Unit ⟨250, true⟩ ⟨2, 0, 0, 0, 0, 1⟩)
      ⟨0, 0, 0⟩ manyRates := by
  intro h
  have hend := h.pointer _ (List.prefix_refl _)
  exact absurd ((ratesText_pointer_iff manyRates).mp hend) (by decide)

end Rtl8187

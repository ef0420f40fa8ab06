/-
# The site survey

What a received beacon or probe response does to the list of networks:
`ieee80211_network_init`, which fills an entry from the frame,
`is_same_network` and `update_network` of `ieee80211_rx.c`. The entry is filled
on the stack, over whatever is there (`stack`). The elements are read from the
memory of the buffer; nothing checks that the frame has its fixed part.

Key definitions: `networkInit`, `isSameNetwork`, `updateNetwork`, `surveyNetwork`.
-/
import Rtl8187.Station
import Rtl8187.Softmac

namespace Rtl8187

open Bytes

variable {P : Type}

/-! ### Constants -/

def mfieTypeTim : UInt8 := 5
def mfieTypeGeneric : UInt8 := 221
def mfieTypeRsn : UInt8 := 48

/-- `MGMT_FRAME_FIXED_PART_LENGTH` -/
def mgmtFrameFixedPartLength : ℕ := 0x24

/-- `MAX_RATES_LENGTH` -/
def maxRatesLength : ℕ := 12

/-- `MAX_RATES_EX_LENGTH` -/
def maxRatesExLength : ℕ := 16

/-- `MAX_WPA_IE_LEN` -/
def maxWpaIeLen : ℕ := 64

def band24Ghz : UInt8 := 1
def band52Ghz : UInt8 := 2

def ieeeA : UInt8 := 1
def ieeeB : UInt8 := 2
def ieeeG : UInt8 := 4

def basicRateMask : UInt8 := 0x80

def dtimValid : UInt8 := 1
def dtimUcast : UInt8 := 2
def dtimMbcast : UInt8 := 4

/-- The fields of `struct ieee80211_rx_stats` the parser reads. -/
structure RxStats where
  freq : UInt8
  receivedChannel : UInt8
  macTime : UInt32 × UInt32

/-! ### The parser -/

/-- `ieee80211_is_empty_essid` -/
def isEmptyEssid (essid : List UInt8) : Bool := essid == [0x20] || essid.all (· == 0)

/-- `ieee80211_is_ofdm_rate` -/
def isOfdmRate (rate : UInt8) : Bool :=
  rate &&& ~~~basicRateMask ∈ [0x0C, 0x12, 0x18, 0x24, 0x30, 0x48, 0x60, 0x6C]

/-- What the loops over the rates do to `flags`. -/
def noteRate (net : HeardNetwork) (rate : UInt8) : HeardNetwork :=
  if isOfdmRate rate then
    { net with hasOfdm := true, hasCck := net.hasCck && rate &&& basicRateMask == 0 }
  else net

/-- What the loop over a list of rates does to the two flags. -/
theorem foldl_noteRate : ∀ (rates : List UInt8) (net : HeardNetwork), rates.foldl noteRate net =
    { net with
      hasOfdm := net.hasOfdm || rates.any isOfdmRate
      hasCck := net.hasCck && !rates.any fun r => isOfdmRate r && r &&& basicRateMask != 0 }
  | [], net => by simp
  | r :: rates, net => by
    rw [List.foldl_cons, foldl_noteRate rates]
    unfold noteRate
    by_cases hofdm : isOfdmRate r = true
    · simp [hofdm, bne, Bool.and_assoc]
    · simp [hofdm]

/-- The case `MFIE_TYPE_TIM`, for an element body `info` of `len` bytes. -/
def parseTim (d : Device P) (stats : RxStats) (info : ℕ → UInt8) (len : ℕ) (net : HeardNetwork) :
    HeardNetwork :=
  if len < 4 then net
  else
    let net := { net with dtimPeriod := info 1 }
    if d.state ≠ .linked then net
    else
      let net := { net with lastDtimStaTime := stats.macTime, dtimData := dtimValid }
      if info 0 ≠ 0 then net
      else
        let net :=
          if info 2 &&& 1 ≠ 0 then { net with dtimData := net.dtimData ||| dtimMbcast } else net
        let offset := (info 2 >>> 1).toNat * 2
        let id := d.assocId.toNat
        if id < 8 * offset ∨ 8 * (offset + len - 3) < id then net
        else if info (3 + (id / 8 - offset)) &&& (1 <<< UInt8.ofNat (id % 8)) ≠ 0 then
          { net with dtimData := net.dtimData ||| dtimUcast }
        else net

/-- A TIM element has a say in what is kept for power save alone. -/
theorem parseTim_eq (d : Device P) (stats : RxStats) (info : ℕ → UInt8) (len : ℕ) (net : HeardNetwork) :
    ∃ (period data : UInt8) (time : UInt32 × UInt32), parseTim d stats info len net =
      { net with dtimPeriod := period, dtimData := data, lastDtimStaTime := time } := by
  unfold parseTim
  dsimp only
  split_ifs <;> exact ⟨_, _, _, rfl⟩

/-- The `switch` on an element with identifier `id` and a body `info` of `len`
bytes. -/
def parseElement (d : Device P) (stats : RxStats) (id : UInt8) (info : ℕ → UInt8) (len : ℕ)
    (net : HeardNetwork) : HeardNetwork :=
  let body (n : ℕ) := (List.range n).map info
  let element (n : ℕ) := ([id, UInt8.ofNat len] ++ body len).take n
  if id = mfieTypeSsid then
    if isEmptyEssid (body len) then { net with emptyEssid := true }
    else
      let n := min len iwEssidMaxSize
      net.setSsid (body n ++ List.replicate (iwEssidMaxSize - n) 0 ++ net.ssidBuf.drop iwEssidMaxSize) n
  else if id = mfieTypeRates then
    let rates := body (min len maxRatesLength)
    rates.foldl noteRate { net with rates := rates }
  else if id = mfieTypeRatesEx then
    let rates := body (min len maxRatesExLength)
    rates.foldl noteRate { net with ratesEx := rates }
  else if id = mfieTypeDsSet then
    if stats.freq = band24Ghz then { net with channel := info 0 } else net
  else if id = mfieTypeTim then parseTim d stats info len net
  else if id = mfieTypeGeneric then
    if 4 ≤ len ∧ body 4 = [0x00, 0x50, 0xf2, 0x01] then
      { net with wpaIe := element (min (len + 2) maxWpaIeLen) }
    else net
  else if id = mfieTypeRsn then { net with rsnIe := element (min (len + 2) maxWpaIeLen) }
  else net

/-- The loop over the elements, from offset `off` on with `left` bytes to go:
none when an element runs past the end. -/
def parseElements (d : Device P) (stats : RxStats) (skb : SkBuff) (off left : ℕ)
    (net : HeardNetwork) : Option HeardNetwork :=
  if left < 2 then some net
  else
    let len := (skb.byte (off + 1)).toNat
    if left < 2 + len then none
    else
      parseElements d stats skb (off + 2 + len) (left - (2 + len))
        (parseElement d stats (skb.byte off) (fun i => skb.byte (off + 2 + i)) len net)
termination_by left

/-- `ieee80211_network_init`: the entry, if the frame is accepted. -/
def networkInit (env : Env) (d : Device P) (skb : SkBuff) (stats : RxStats) (stack : HeardNetwork) :
    Option HeardNetwork :=
  let net := { stack.setSsid stack.ssidBuf 0 with
    bssid := addr3 skb.mem
    capability := get16 skb.mem 34
    lastScanned := env.now
    beaconInterval := get16 skb.mem 32
    rates := []
    ratesEx := []
    emptyEssid := false
    hasOfdm := false
    hasCck := stats.freq != band52Ghz
    atimWindow := 0
    channel := if stats.freq = band52Ghz then stats.receivedChannel else stack.channel
    wpaIe := []
    rsnIe := [] }
  -- `left` is a `u16`, and `stats->len` too
  let left := (skb.len + 65536 - mgmtFrameFixedPartLength) % 65536
  (parseElements d stats skb mgmtFrameFixedPartLength left net).bind fun net =>
    let mode :=
      if stats.freq = band52Ghz then ieeeA
      else (if net.hasOfdm then ieeeG else 0) ||| (if net.hasCck then ieeeB else 0)
    if mode = 0 then none
    else some { net with mode := mode, emptyEssid := net.emptyEssid || isEmptyEssid net.ssid }

/-! ### The list of networks -/

/-- `is_same_network` -/
def isSameNetwork (d : Device P) (src dst : HeardNetwork) : Bool :=
  (src.ssid.length = dst.ssid.length ∨ d.iwMode = .infra) ∧ src.channel = dst.channel ∧
    src.bssid = dst.bssid ∧ (src.ssid = dst.ssidBuf.take src.ssid.length ∨ d.iwMode = .infra) ∧
    src.capability &&& wlanCapabilityIbss = dst.capability &&& wlanCapabilityIbss ∧
    src.capability &&& wlanCapabilityBss = dst.capability &&& wlanCapabilityBss

/-- `update_network` -/
def updateNetwork (env : Env) (dst src : HeardNetwork) : HeardNetwork :=
  let named :=
    if src.ssid ≠ [] then
      let buf := List.replicate dst.ssid.length 0 ++ dst.ssidTail
      dst.setSsid (src.ssid ++ buf.drop src.ssid.length) src.ssid.length
    else dst
  { named with
    capability := src.capability
    rates := src.rates
    ratesEx := src.ratesEx
    mode := src.mode
    emptyEssid := src.emptyEssid
    hasOfdm := src.hasOfdm
    hasCck := src.hasCck
    beaconInterval := src.beaconInterval
    atimWindow := src.atimWindow
    dtimPeriod := src.dtimPeriod
    dtimData := src.dtimData
    lastDtimStaTime := src.lastDtimStaTime
    wpaIe := src.wpaIe
    rsnIe := src.rsnIe
    lastScanned := env.now }

namespace Station

/-- The entry of the list that was scanned first: among several, the first. -/
def oldest (st : Station P) : Option (Fin maxNetworkCount) :=
  st.networkList.foldl (fun oldest target =>
    match oldest with
    | none => some target
    | some o =>
      if (st.networks target).lastScanned < (st.networks o).lastScanned then some target else oldest) none

/-- A slot for a network that is not in the list: the free list's first, or the
oldest entry's. -/
def networkSlot (st : Station P) : Option (Fin maxNetworkCount × Station P) :=
  match st.networkFreeList with
  | i :: free => some (i, { st with networkFreeList := free })
  | [] => st.oldest.map fun i => (i, { st with networkList := st.networkList.erase i })

/-- A slot filled. -/
def setNetwork (st : Station P) (i : Fin maxNetworkCount) (net : HeardNetwork) : Station P :=
  { st with networks := Function.update st.networks i net }

/-- What the frame's network is compared with first: `current_network`. -/
def surveyCurrent (env : Env) (st : Station P) (isBeacon : Bool) (net : HeardNetwork) :
    HeardNetwork × Station P :=
  if isSameNetwork st.toDevice st.current net then
    if ¬ isBeacon then ({ net with emptyEssid := st.current.emptyEssid }, st)
    else if st.state = .linked then (net, st.setCurrent (updateNetwork env st.current net))
    else (net, st)
  else (net, st)

/-- The condition under which an entry that is updated counts as new. -/
def renew (env : Env) (st : Station P) (target net : HeardNetwork) : Bool :=
  !timeAfter (target.lastScanned + st.scanAge) env.now ||
    (net.emptyEssid &&
      ((decide (0 < net.ssid.length) && !strncmpEq target.ssidBuf net.ssid net.ssid.length) ||
        (decide (st.current.ssid.length = net.ssid.length) &&
          strncmpEq st.current.ssidBuf net.ssid net.ssid.length && st.state == .nolink)))

/-- `ieee80211_process_probe_response` once the frame is parsed: the list
brought up to date, and the network `ieee80211_softmac_new_net` is called
with, if it is. -/
def surveyNetwork (env : Env) (st : Station P) (isBeacon : Bool) (net : HeardNetwork) :
    Option HeardNetwork × Station P :=
  let (net, st) := surveyCurrent env st isBeacon net
  let associate := st.softmacFeatures.associate
  match st.networkList.find? (fun i => isSameNetwork st.toDevice (st.networks i) net) with
  | none =>
    match st.networkSlot with
    | none => (none, st)
    | some (i, st) =>
      (if associate then some net else none,
        { st.setNetwork i net with networkList := st.networkList ++ [i] })
  | some i =>
    let target := st.networks i
    let net := if ¬ isBeacon then { net with emptyEssid := target.emptyEssid } else net
    (if renew env st target net && associate then some net else none,
      st.setNetwork i (updateNetwork env target net))

end Station

end Rtl8187

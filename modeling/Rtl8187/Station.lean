/-
# The station

The device together with what the site survey and the association need
besides: how each network was heard, the list of networks, the user's
settings, the scans, the beacon timer, and the works that have begun and wait
or sleep.

The driver sets `IEEE_SOFTMAC_SCAN`, `IEEE_SOFTMAC_PROBERQ` and
`IEEE_SOFTMAC_BEACONS` once and for all and leaves its own beacon callbacks
NULL, so the branches without them do not occur here.

Key definitions: `Heard`, `HeardNetwork`, `Change`, `Job`, `Station`,
`Station.init`.
-/
import Rtl8187.Device

namespace Rtl8187

/-- `IW_ESSID_MAX_SIZE` -/
def iwEssidMaxSize : ℕ := 32

/-- `MAX_NETWORK_COUNT` -/
def maxNetworkCount : ℕ := 128

/-- `MAX_CHANNEL_NUMBER` -/
def maxChannelNumber : ℕ := 161

/-- The other fields of `struct ieee80211_network`: how the network was heard.
`flags` is its three bits. -/
structure Heard where
  /-- What the array `ssid` holds behind the SSID. -/
  ssidTail : List UInt8
  emptyEssid : Bool
  hasOfdm : Bool
  hasCck : Bool
  mode : UInt8
  lastScanned : UInt64
  dtimPeriod : UInt8
  dtimData : UInt8
  lastDtimStaTime : UInt32 × UInt32

/-- `struct ieee80211_network` -/
structure HeardNetwork extends Network, Heard

/-- The whole array `ssid`. -/
def HeardNetwork.ssidBuf (net : HeardNetwork) : List UInt8 := net.ssid ++ net.ssidTail

/-- The array `ssid` and `ssid_len`. -/
def HeardNetwork.setSsid (net : HeardNetwork) (buf : List UInt8) (len : ℕ) : HeardNetwork :=
  { net with ssid := buf.take len, ssidTail := buf.drop len }

/-- A network of zeroed memory. -/
def HeardNetwork.zeroed : HeardNetwork where
  bssid := ⟨0, 0, 0, 0, 0, 0⟩
  channel := 0
  ssid := []
  capability := 0
  rates := []
  ratesEx := []
  beaconInterval := 0
  atimWindow := 0
  wpaIe := []
  rsnIe := []
  qosEnable := false
  ssidTail := List.replicate (iwEssidMaxSize + 1) 0
  emptyEssid := false
  hasOfdm := false
  hasCck := false
  mode := 0
  lastScanned := 0
  dtimPeriod := 0
  dtimData := 0
  lastDtimStaTime := (0, 0)

/-- A setting that stops the protocol and starts it again. -/
inductive Change where
  | essid (flags : Bool) (extra : List UInt8)
  | wap (addr : Mac)
  | mode (mode : IwMode)
  deriving DecidableEq

/-- A work or a call that has begun and not ended, at a place where it waits or
sleeps: for `wx_sem` (`waiting`), in `set_chan`, at a channel of a syncro scan
(channel 0: for `scan_sem`), or between the halves of a setting. -/
inductive Job where
  | waiting (w : Work)
  | procedure
  | retry
  | ibssScan (ch : ℕ)
  | ibssBeacons
  | syncScan (ch : ℕ)
  | syncRestore
  | userScan (ch : ℕ)
  | change (c : Change) (restart : Bool)
  | modulationStop (cck ofdm : Bool)
  | modulationStart
  deriving DecidableEq

/-- The job holds `wx_sem`. -/
def Job.holdsWx : Job → Bool
  | .waiting _ => false
  | .userScan _ => false
  | .modulationStop _ _ => false
  | .modulationStart => false
  | _ => true

/-- The job holds `scan_sem`. -/
def Job.holdsScan : Job → Bool
  | .ibssScan ch => ch != 0
  | .syncScan ch => ch != 0
  | .userScan ch => ch != 0
  | _ => false

structure Station (P : Type) extends Device P where
  /-- The rest of `current_network`. -/
  currentHeard : Heard
  networks : Fin maxNetworkCount → HeardNetwork
  networkList : List (Fin maxNetworkCount)
  networkFreeList : List (Fin maxNetworkCount)
  scanAge : UInt64
  wapSet : Bool
  ssidSet : Bool
  activeScan : Bool
  channelMap : ℕ → Bool
  scanning : Bool
  scanWatchdog : ℕ
  syncScanHurryup : Bool
  beaconTxing : Bool
  /-- When `beacon_timer` expires, if it is pending. -/
  beaconTimer : Option UInt64
  /-- Whether `wx_sem` is held. -/
  wxSem : Bool
  /-- The delayed works whose delay is over. -/
  due : List Work
  jobs : List Job

namespace Station

variable {P : Type}

/-- A change of the device. -/
def mapDev (st : Station P) (f : Device P → Device P) : Station P :=
  { st with toDevice := f st.toDevice }

@[simp] theorem mapDev_toDevice (st : Station P) (f : Device P → Device P) :
    (st.mapDev f).toDevice = f st.toDevice := rfl

/-- The whole of `current_network`. -/
def current (st : Station P) : HeardNetwork := ⟨st.currentNetwork, st.currentHeard⟩

/-- `current_network` overwritten. -/
def setCurrent (st : Station P) (net : HeardNetwork) : Station P :=
  { st with
    toDevice := { st.toDevice with currentNetwork := net.toNetwork }
    currentHeard := net.toHeard }

/-- The entries of `network_list`, in order. -/
def listed (st : Station P) : List HeardNetwork := st.networkList.map st.networks

/-- Whether `scan_sem` is held. -/
def scanSem (st : Station P) : Bool := st.jobs.any Job.holdsScan

/-- A station as the driver sets it up. -/
def init (P : Type) (kernel : KernelConfig) (devAddr : Mac) (channelMap : ℕ → Bool) : Station P where
  toDevice := Device.init P kernel devAddr
  currentHeard := HeardNetwork.zeroed.toHeard
  networks _ := .zeroed
  networkList := []
  networkFreeList := List.finRange maxNetworkCount
  scanAge := 15 * kernel.hz
  wapSet := false
  ssidSet := false
  activeScan := true
  channelMap := channelMap
  scanning := false
  scanWatchdog := 0
  syncScanHurryup := false
  beaconTxing := false
  beaconTimer := none
  wxSem := false
  due := []
  jobs := []

end Station

end Rtl8187

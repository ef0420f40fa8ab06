/-
# The device

The fields of `struct ieee80211_device` (and of its `net_device`) that the
modelled functions use, with the fragment cache, the duplicate filter's lists,
the pool of transmit buffers and the pending works. A received buffer is known
by its name (`BufId`); the buffers themselves are kept by the receive path.

Key definitions: `Network`, `FragEntry`, `FragCache`, `Txb`, `Work`, `Device`,
`Device.init`.
-/
import Rtl8187.Crypt
import Rtl8187.MgmtQueue

namespace Rtl8187

/-- `iw_mode` -/
inductive IwMode where
  | auto
  | adhoc
  | infra
  | master
  | repeater
  | second
  | monitor
  deriving DecidableEq, Repr

/-- `enum ieee80211_state` -/
inductive State where
  | nolink
  | associating
  | associatingRetry
  | associatingAuthenticating
  | associatingAuthenticated
  | linked
  | linkedScanning
  deriving DecidableEq, Repr

/-- What a build and its kernel settle. -/
structure KernelConfig where
  /-- `HZ` -/
  hz : UInt64
  /-- `CONFIG_IEEE80211_CRYPT_TKIP` -/
  cryptTkip : Bool

/-- `time_after`, in wrapping arithmetic. -/
def timeAfter (a b : UInt64) : Bool := decide (2 ^ 63 ≤ (b - a).toNat)

/-- The fields of `struct ieee80211_network` the modelled functions use; each
list is as long as its length field says. -/
structure Network where
  bssid : Mac
  channel : UInt8
  ssid : List UInt8
  capability : UInt16
  rates : List UInt8
  ratesEx : List UInt8
  beaconInterval : UInt16
  atimWindow : UInt16
  wpaIe : List UInt8
  rsnIe : List UInt8
  qosEnable : Bool
  deriving DecidableEq

/-- `ieee80211_is_54g` -/
def Network.is54g (net : Network) : Bool := decide (0 < net.ratesEx.length ∨ 4 < net.rates.length)

/-! ### Reception -/

/-- A received buffer or a reassembly buffer. -/
abbrev BufId := ℕ

/-- `struct ieee80211_frag_entry` -/
structure FragEntry where
  firstFragTime : UInt64
  seq : UInt16
  lastFrag : ℕ
  skb : Option BufId
  srcAddr : Mac
  dstAddr : Mac

/-- `IEEE80211_FRAG_CACHE_LEN` -/
def fragCacheLen : ℕ := 4

instance : NeZero fragCacheLen := ⟨by decide⟩

/-- The fragment cache, with `frag_next_idx`. -/
structure FragCache where
  entries : List FragEntry
  nextIdx : Fin fragCacheLen
  length_eq : entries.length = fragCacheLen

/-- `struct ieee_ibss_seq` -/
structure IbssSeq where
  mac : Mac
  seqNum : UInt16
  fragNum : UInt16
  packetTime : UInt64

/-- `IEEE_IBSS_MAC_HASH_SIZE` -/
def ibssMacHashSize : ℕ := 31

/-! ### Transmission -/

/-- A fragmentation threshold `set_frag` accepts, or the default. -/
structure FragThreshold where
  val : ℕ
  min_le : 256 ≤ val
  le_max : val ≤ 2346

theorem FragThreshold.default_min : 256 ≤ 2342 := by decide

theorem FragThreshold.default_max : 2342 ≤ 2346 := by decide

/-- `MAX_TX_SKB` -/
def maxTxSkb : ℕ := 16

instance : NeZero maxTxSkb := ⟨by decide⟩

/-- `MAX_SIZE_TX_SKB` -/
def maxSizeTxSkb : ℕ := 2346

/-- `struct ieee80211_txb`: its fragment buffers by number. -/
structure Txb where
  nrFrags : ℕ
  encrypted : Bool
  payloadSize : ℕ
  fragments : ℕ → SkBuff

/-- A buffer of the pool, as `ieee80211_alloc_txb` makes it. -/
def Txb.fresh : Txb := ⟨0, false, 0, fun _ => SkBuff.devAllocSkb maxSizeTxSkb⟩

/-- What is handed to the hardware: a data fragment at a rate, a management
frame on the data path, or one on its own path. -/
inductive Handed where
  | data (skb : SkBuff) (rate : ℕ)
  | mgmt (skb : SkBuff)

/-! ### The soft-MAC -/

/-- The works of the soft-MAC's queue. -/
inductive Work where
  | softmacScan
  | startIbss
  | associateRetry
  | associateComplete
  | associateProcedure
  | wxSyncScan
  | hwWakeup
  | hwSleep
  deriving DecidableEq, Repr

/-- The flags of `softmac_features`. -/
structure SoftmacFeatures where
  associate : Bool
  probeRs : Bool
  txQueue : Bool
  singleQueue : Bool

structure Device (P : Type) where
  kernel : KernelConfig
  devAddr : Mac
  mtu : ℕ
  iwMode : IwMode
  /-- `config` has `CFG_IEEE80211_COMPUTE_FCS` or `CFG_IEEE80211_RESERVE_FCS`. -/
  configFcs : Bool
  openWep : Bool
  hostEncrypt : Bool
  hostDecrypt : Bool
  ieee8021x : Bool
  dropUnencrypted : Bool
  tkipCountermeasures : Bool
  crypt : KeyIdx → Option (CryptData P)
  txKeyidx : KeyIdx
  /-- `wpa_ie`, of `wpa_ie_len` bytes. -/
  wpaIe : List UInt8
  wpaxTypeSet : Bool
  wpaxTypeNotify : UInt32
  apMacAddr : Mac
  fragCache : FragCache
  fts : FragThreshold
  ibssMacHash : Fin ibssMacHashSize → List IbssSeq
  lastSeqNum : UInt16
  lastFragNum : UInt16
  lastPacketTime : UInt64
  allocTxb : Fin maxTxSkb → Txb
  txSkbIndex : Fin maxTxSkb
  txPendingTxb : Int
  txPending : Option (Txb × ℕ)
  currentNetwork : Network
  state : State
  shortSlot : Bool
  cckModulation : Bool
  ofdmModulation : Bool
  rate : ℕ
  basicRate : ℕ
  softmacFeatures : SoftmacFeatures
  seqCtrl : UInt16
  associateSeq : UInt16
  assocId : UInt16
  ps : UInt16
  staSleep : ℕ
  rawTx : Bool
  queueStop : Bool
  protoStarted : Bool
  lastRxPsTime : UInt64
  transStart : UInt64
  mgmtQueue : MgmtQueue SkBuff
  /-- When `associate_timer` expires, if it is pending. -/
  associateTimer : Option UInt64
  works : List Work
  psTask : Bool
  /-- What was handed to the hardware, in order. -/
  handed : List Handed

/-- A fragment cache of zeroed memory. -/
def FragCache.zeroed : FragCache where
  entries := List.replicate fragCacheLen
    ⟨0, 0, 0, none, ⟨0, 0, 0, 0, 0, 0⟩, ⟨0, 0, 0, 0, 0, 0⟩⟩
  nextIdx := 0
  length_eq := rfl

/-- `alloc_ieee80211`, with what `rtl8180_init` sets after it. -/
def Device.init (P : Type) (kernel : KernelConfig) (devAddr : Mac) : Device P where
  kernel := kernel
  devAddr := devAddr
  mtu := 1500
  iwMode := .infra
  configFcs := false
  openWep := true
  hostEncrypt := true
  hostDecrypt := true
  ieee8021x := true
  dropUnencrypted := false
  tkipCountermeasures := false
  crypt _ := none
  txKeyidx := 0
  wpaIe := []
  wpaxTypeSet := false
  wpaxTypeNotify := 0
  apMacAddr := ⟨0, 0, 0, 0, 0, 0⟩
  fragCache := .zeroed
  fts := ⟨2342, FragThreshold.default_min, FragThreshold.default_max⟩
  ibssMacHash _ := []
  lastSeqNum := 0xFFFF
  lastFragNum := 0xFFFF
  lastPacketTime := 0
  allocTxb _ := .fresh
  txSkbIndex := 0
  txPendingTxb := 0
  txPending := none
  currentNetwork := ⟨⟨0, 0, 0, 0, 0, 0⟩, 0, [], 0, [], [], 100, 0, [], [], false⟩
  state := .nolink
  shortSlot := false
  cckModulation := true
  ofdmModulation := true
  rate := 110
  basicRate := 10
  softmacFeatures := ⟨true, true, true, true⟩
  seqCtrl := 0
  associateSeq := 0
  assocId := 0
  ps := 0
  staSleep := 0
  rawTx := false
  queueStop := false
  protoStarted := false
  lastRxPsTime := 0
  transStart := 0
  mgmtQueue := .zeroed
  associateTimer := none
  works := []
  psTask := false
  handed := []

end Rtl8187

/-
# The management frames the soft-MAC sends

The builders of `ieee80211_softmac.c`, byte for byte. A field that a builder
leaves as it finds it in the new buffer is zero here.

Key definitions: `probeReq`, `authenticationReq`, `associationReq`,
`probeResp`, `getBeacon`, `assocResp`, `authResp`.
-/
import Rtl8187.Encrypt

namespace Rtl8187

open Bytes

variable {P : Type}

/-! ### Constants -/

def stypeAssocReq : UInt16 := 0x0000
def stypeAssocResp : UInt16 := 0x0010
def stypeReassocReq : UInt16 := 0x0020
def stypeReassocResp : UInt16 := 0x0030
def stypeProbeReq : UInt16 := 0x0040
def stypeProbeResp : UInt16 := 0x0050
def stypeBeacon : UInt16 := 0x0080
def stypeDisassoc : UInt16 := 0x00A0
def stypeAuth : UInt16 := 0x00B0
def stypeDeauth : UInt16 := 0x00C0

def wlanAuthOpen : UInt16 := 0
def wlanAuthSharedKey : UInt16 := 1
def wlanStatusSuccess : UInt16 := 0
def wlanStatusNotSupportedAuthAlg : UInt16 := 13

def wlanCapabilityBss : UInt16 := 0x0001
def wlanCapabilityIbss : UInt16 := 0x0002
def wlanCapabilityPrivacy : UInt16 := 0x0010
def wlanCapabilityShortSlot : UInt16 := 0x0400

def mfieTypeSsid : UInt8 := 0
def mfieTypeRates : UInt8 := 1
def mfieTypeDsSet : UInt8 := 3
def mfieTypeIbssSet : UInt8 := 6
def mfieTypeChallenge : UInt8 := 16
def mfieTypeErp : UInt8 := 42
def mfieTypeRatesEx : UInt8 := 50

/-! ### Parts -/

/-- The broadcast address. -/
def Mac.broadcast : Mac := ⟨0xff, 0xff, 0xff, 0xff, 0xff, 0xff⟩

/-- A three-address header with sequence control zero. -/
def mgmtHdr (fc duration : UInt16) (a1 a2 a3 : Mac) : List UInt8 :=
  le16 fc ++ le16 duration ++ a1.toList ++ a2.toList ++ a3.toList ++ le16 0

/-- An information element. -/
def infoElement (id : UInt8) (bs : List UInt8) : List UInt8 := id :: UInt8.ofNat bs.length :: bs

/-- `ieee80211_MFIE_Brate` -/
def mfieBrate (d : Device P) : List UInt8 :=
  if d.cckModulation then infoElement mfieTypeRates [0x82, 0x84, 0x8B, 0x96] else []

/-- `ieee80211_MFIE_Grate` -/
def mfieGrate (d : Device P) : List UInt8 :=
  if d.ofdmModulation then
    infoElement mfieTypeRatesEx [0x8C, 0x92, 0x98, 0xA4, 0xB0, 0xC8, 0xE0, 0xEC]
  else []

/-- `ieee80211_MFIE_rate_len` -/
def mfieRateLen (d : Device P) : ℕ :=
  (if d.cckModulation then 6 else 0) + (if d.ofdmModulation then 10 else 0)

/-- The rate elements take up the room `ieee80211_MFIE_rate_len` says. -/
theorem length_mfieRates (d : Device P) : (mfieBrate d ++ mfieGrate d).length = mfieRateLen d := by
  unfold mfieBrate mfieGrate mfieRateLen
  split_ifs <;> rfl

/-- A flag of a capability field. -/
def capFlag (b : Bool) (cap : UInt16) : UInt16 := if b then cap else 0

/-! ### Builders

`alloc` is whether `dev_alloc_skb` succeeds. -/

section

variable (alloc : Bool) (d : Device P)

/-- `ieee80211_probe_req` -/
def probeReq : Option SkBuff :=
  let fc := stypeProbeReq ||| (if d.ps ≠ 0 then fctlPm else 0)
  let ssid := d.currentNetwork.ssid
  if alloc then
    some ((SkBuff.devAllocSkb (24 + 2 + ssid.length + mfieRateLen d)).put
      (mgmtHdr fc 0 Mac.broadcast d.devAddr Mac.broadcast ++ infoElement mfieTypeSsid ssid ++
        mfieBrate d ++ mfieGrate d))
  else none

/-- `ieee80211_authentication_req`. It counts the transaction. -/
def authenticationReq (challengelen : ℕ) : Option (SkBuff × Device P) :=
  let fc := stypeAuth ||| (if 0 < challengelen then fctlWep else 0) |||
    (if d.ps ≠ 0 then fctlPm else 0)
  let bssid := d.currentNetwork.bssid
  let algorithm := if d.openWep then wlanAuthOpen else wlanAuthSharedKey
  if alloc then
    some ((SkBuff.devAllocSkb (30 + challengelen + 8)).put
        (mgmtHdr fc 0x013a bssid d.devAddr bssid ++ le16 algorithm ++ le16 d.associateSeq ++
          le16 wlanStatusSuccess),
      { d with associateSeq := d.associateSeq + 1 })
  else none

/-- `ieee80211_association_req` -/
def associationReq : Option (SkBuff × Device P) :=
  let beacon := d.currentNetwork
  let proto := d.wpaxTypeNotify &&& 0xff
  let rsnLen := if d.wpaxTypeSet && proto == 1 then 0 else beacon.rsnIe.length
  let wpaLen := if d.wpaxTypeSet && proto == 2 then 0 else beacon.wpaIe.length
  let len := 30 + beacon.ssid.length + mfieRateLen d + wpaLen + rsnLen +
    (if beacon.qosEnable then 9 else 0)
  let cap := wlanCapabilityBss |||
    capFlag (beacon.capability &&& wlanCapabilityPrivacy != 0) wlanCapabilityPrivacy |||
    capFlag d.shortSlot wlanCapabilityShortSlot
  if alloc then
    some ((SkBuff.devAllocSkb len).put
        (mgmtHdr stypeAssocReq 37 beacon.bssid d.devAddr beacon.bssid ++ le16 cap ++ le16 0xa ++
          infoElement mfieTypeSsid beacon.ssid ++ mfieBrate d ++ mfieGrate d ++ d.wpaIe),
      { d with apMacAddr := beacon.bssid })
  else none

/-- Whether the transmit key encrypts. -/
def hostEncrypts : Bool := d.hostEncrypt && d.txCrypt.isSome

/-- `memcpy(&ieee->wpa_ie[14], &ieee->wpa_ie[8], 4)` -/
def copyPairwiseSuite (ie : List UInt8) : List UInt8 :=
  (List.range 4).foldl (fun l i => l.set (14 + i) (at8 l (8 + i))) ie

/-- `ieee80211_probe_resp`. In ad hoc mode it changes the device's WPA element. -/
def probeResp (dest : Mac) : Option (SkBuff × Device P) :=
  let net := d.currentNetwork
  let encrypt := hostEncrypts d &&
    (d.txCrypt.any (fun c => c.1.name == "WEP") || d.wpaIe.length != 0)
  let cap := (net.capability &&& wlanCapabilityIbss) |||
    capFlag (d.shortSlot && net.capability &&& wlanCapabilityShortSlot != 0) wlanCapabilityShortSlot |||
    capFlag encrypt wlanCapabilityPrivacy
  let wpaIe := if d.iwMode = .adhoc then copyPairwiseSuite d.wpaIe else d.wpaIe
  let body := mgmtHdr stypeProbeResp 0 dest d.devAddr net.bssid ++ List.replicate 8 0 ++
    le16 net.beaconInterval ++ le16 cap ++ infoElement mfieTypeSsid net.ssid ++
    infoElement mfieTypeRates net.rates ++ infoElement mfieTypeDsSet [net.channel] ++
    (if net.capability &&& wlanCapabilityIbss ≠ 0 then
      infoElement mfieTypeIbssSet (le16 net.atimWindow) else []) ++
    (if net.is54g then infoElement mfieTypeErp [0] else []) ++
    (if net.ratesEx ≠ [] then infoElement mfieTypeRatesEx net.ratesEx else []) ++ wpaIe
  if alloc then some ((SkBuff.devAllocSkb body.length).put body, { d with wpaIe := wpaIe }) else none

/-- `ieee80211_get_beacon_` -/
def getBeacon : Option (SkBuff × Device P) :=
  (probeResp alloc d Mac.broadcast).map fun (skb, d) =>
    ({ skb with data := le16 stypeBeacon ++ skb.data.drop 2 }, d)

/-- `ieee80211_assoc_resp`. It counts the association ids. -/
def assocResp (dest : Mac) : Option (SkBuff × Device P) :=
  let cap := (if d.iwMode = .master then wlanCapabilityBss else wlanCapabilityIbss) |||
    capFlag d.shortSlot wlanCapabilityShortSlot ||| capFlag (hostEncrypts d) wlanCapabilityPrivacy
  let body := mgmtHdr stypeAssocResp 0 dest d.devAddr d.devAddr ++ le16 cap ++ le16 0 ++
    le16 d.assocId ++ [0, 0] ++ mfieBrate d ++ mfieGrate d
  if alloc then
    some ((SkBuff.devAllocSkb body.length).put body,
      { d with assocId := if d.assocId = 0x2007 then 0 else d.assocId + 1 })
  else none

/-- `ieee80211_auth_resp` -/
def authResp (status : UInt16) (dest : Mac) : Option (SkBuff × Device P) :=
  let body := mgmtHdr stypeAuth 0 dest d.devAddr d.devAddr ++ le16 wlanAuthOpen ++ le16 2 ++ le16 status
  if alloc then some ((SkBuff.devAllocSkb (body.length + 1)).put body, d) else none

end

end Rtl8187

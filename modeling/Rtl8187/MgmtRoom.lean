/-
# The room of management frames

The builders of `MgmtFrames`, with the size each one allocates, what it claims of
it by `skb_put`, and where it writes (`probeReqBuild` and so on). They make the
frames of `MgmtFrames` (`frame_probeReqBuild` and so on).

All but `ieee80211_association_req` claim what they allocate, or less. That one
allocates room for the WPA and RSN elements of the network's beacon, and claims
room for the element of the device (`builders_fit_iff`).

Key definitions: `probeReqBuild`, `authenticationReqBuild`, `associationReqBuild`,
`assocRespBuild`, `probeRespBuild`, `BuildersFit`, `ElementFits`.
Key theorems: `frame_probeRespBuild`, `probeRespBuild_exact`, `builders_fit_iff`.
-/
import Rtl8187.Survey
import Rtl8187.Lib.PutWrite

namespace Rtl8187

open Bytes PutWrite

variable {P : Type}

/-! ### The builders -/

section

variable (d : Device P)

/-- `ieee80211_probe_req` -/
def probeReqBuild : Build UInt8 :=
  let ssid := d.currentNetwork.ssid
  let fc := stypeProbeReq ||| (if d.ps ≠ 0 then fctlPm else 0)
  ⟨24 + 2 + ssid.length + mfieRateLen d,
    [.put 24, .write 0 (le16 fc), .write 2 (le16 0), .write 4 Mac.broadcast.toList,
      .write 10 d.devAddr.toList, .write 16 Mac.broadcast.toList] ++
    .put (ssid.length + 2 + mfieRateLen d) ::
      tags 24 [[mfieTypeSsid], [UInt8.ofNat ssid.length], ssid, mfieBrate d, mfieGrate d]⟩

/-- `ieee80211_authentication_req` -/
def authenticationReqBuild (challengelen : ℕ) : Build UInt8 :=
  let bssid := d.currentNetwork.bssid
  let fc := stypeAuth ||| (if 0 < challengelen then fctlWep else 0) ||| (if d.ps ≠ 0 then fctlPm else 0)
  let algorithm := if d.openWep then wlanAuthOpen else wlanAuthSharedKey
  ⟨30 + challengelen + 8,
    [.put 30, .write 0 (le16 fc), .write 2 (le16 0x013a), .write 4 bssid.toList,
      .write 10 d.devAddr.toList, .write 16 bssid.toList, .write 24 (le16 algorithm),
      .write 26 (le16 d.associateSeq), .write 28 (le16 wlanStatusSuccess)]⟩

/-- The room `ieee80211_association_req` allocates for elements of the network. -/
def elementRoom : ℕ :=
  let beacon := d.currentNetwork
  let proto := d.wpaxTypeNotify &&& 0xff
  let rsnLen := if d.wpaxTypeSet && proto == 1 then 0 else beacon.rsnIe.length
  let wpaLen := if d.wpaxTypeSet && proto == 2 then 0 else beacon.wpaIe.length
  wpaLen + rsnLen + (if beacon.qosEnable then 9 else 0)

/-- `ieee80211_association_req` -/
def associationReqBuild : Build UInt8 :=
  let beacon := d.currentNetwork
  let cap := wlanCapabilityBss |||
    capFlag (beacon.capability &&& wlanCapabilityPrivacy != 0) wlanCapabilityPrivacy |||
    capFlag d.shortSlot wlanCapabilityShortSlot
  let n := beacon.ssid.length
  ⟨30 + n + mfieRateLen d + elementRoom d,
    [.put 30, .write 0 (le16 stypeAssocReq), .write 2 (le16 37), .write 4 beacon.bssid.toList,
      .write 10 d.devAddr.toList, .write 16 beacon.bssid.toList, .write 24 (le16 cap),
      .write 26 (le16 0xa), .write 28 [mfieTypeSsid], .write 29 [UInt8.ofNat n]] ++
    .put n :: tags 30 [beacon.ssid] ++
    .put (mfieRateLen d) :: tags (30 + n) [mfieBrate d, mfieGrate d] ++
    .put d.wpaIe.length :: tags (30 + n + mfieRateLen d) [d.wpaIe]⟩

/-- `ieee80211_assoc_resp` -/
def assocRespBuild (dest : Mac) : Build UInt8 :=
  let cap := (if d.iwMode = .master then wlanCapabilityBss else wlanCapabilityIbss) |||
    capFlag d.shortSlot wlanCapabilityShortSlot ||| capFlag (hostEncrypts d) wlanCapabilityPrivacy
  ⟨32 + mfieRateLen d,
    [.put 32, .write 0 (le16 stypeAssocResp), .write 4 dest.toList, .write 16 d.devAddr.toList,
      .write 10 d.devAddr.toList, .write 24 (le16 cap), .write 26 (le16 0), .write 28 (le16 d.assocId)] ++
    .put (mfieRateLen d) :: tags 32 [mfieBrate d, mfieGrate d]⟩

/-- The elements behind the SSID that `ieee80211_probe_resp` writes. -/
def probeRespElements : List (List UInt8) :=
  let net := d.currentNetwork
  let wpaIe := if d.iwMode = .adhoc then copyPairwiseSuite d.wpaIe else d.wpaIe
  [[mfieTypeRates], [UInt8.ofNat net.rates.length], net.rates, [mfieTypeDsSet], [1], [net.channel]] ++
    (if net.capability &&& wlanCapabilityIbss ≠ 0 then
      [[mfieTypeIbssSet], [2], le16 net.atimWindow] else []) ++
    (if net.is54g then [[mfieTypeErp], [1], [0]] else []) ++
    (if net.ratesEx ≠ [] then
      [[mfieTypeRatesEx], [UInt8.ofNat net.ratesEx.length], net.ratesEx] else []) ++
    (if d.wpaIe.length ≠ 0 then [wpaIe] else [])

/-- `beacon_size` -/
def beaconSize : ℕ :=
  let net := d.currentNetwork
  let rateExLen := if 0 < net.ratesEx.length then net.ratesEx.length + 2 else 0
  let atimLen := if net.capability &&& wlanCapabilityIbss ≠ 0 then 4 else 0
  let erpLen := if net.is54g then 3 else 0
  38 + net.ssid.length + 3 + (net.rates.length + 2) + rateExLen + atimLen + erpLen + d.wpaIe.length

/-- `ieee80211_probe_resp` -/
def probeRespBuild (dest : Mac) : Build UInt8 :=
  let net := d.currentNetwork
  let encrypt := hostEncrypts d &&
    (d.txCrypt.any (fun c => c.1.name == "WEP") || d.wpaIe.length != 0)
  let ibss := net.capability &&& wlanCapabilityIbss
  let slot := ibss |||
    capFlag (d.shortSlot && net.capability &&& wlanCapabilityShortSlot != 0) wlanCapabilityShortSlot
  ⟨beaconSize d,
    .put (beaconSize d) ::
      [.write 4 dest.toList, .write 10 d.devAddr.toList, .write 16 net.bssid.toList, .write 2 (le16 0),
        .write 32 (le16 net.beaconInterval), .write 34 (le16 ibss), .write 34 (le16 slot),
        .write 34 (le16 (slot ||| capFlag encrypt wlanCapabilityPrivacy)), .write 0 (le16 stypeProbeResp),
        .write 36 [mfieTypeSsid], .write 37 [UInt8.ofNat net.ssid.length]] ++
      tags 38 (net.ssid :: probeRespElements d)⟩

/-- The four bytes that `ieee80211_probe_resp` copies inside the device's WPA
element, in ad hoc mode: the only write of a builder that goes to another
buffer. -/
def elementCopy : Build UInt8 :=
  let n := d.wpaIe.length
  ⟨n, .put n :: .write 0 d.wpaIe ::
    (if n ≠ 0 ∧ d.iwMode = .adhoc then [.write 14 ((d.wpaIe.drop 8).take 4)] else [])⟩

/-- Every frame claims what it allocates, or less, and writes to what it
claims. -/
def FramesFit : Prop :=
  (probeReqBuild d).Fits ∧ (∀ challengelen, (authenticationReqBuild d challengelen).Fits) ∧
    (associationReqBuild d).Fits ∧ (∀ dest, (assocRespBuild d dest).Fits) ∧
    ∀ dest, (probeRespBuild d dest).Fits

end

/-- `ieee80211_wx_set_gen_ie`, which sets the device's WPA element; `alloc` is
whether `kmalloc` succeeds. -/
def wxSetGenIe (alloc : Bool) (d : Device P) (ie : List UInt8) : Int × Device P :=
  if ie.length = 0 ∨ maxWpaIeLen < ie.length then (-22, d)
  else if alloc then (0, { d with wpaIe := ie })
  else (-12, d)

/-! ### They make the frames -/

section

variable (d : Device P)

/-- The two bytes of zero. -/
theorem zero_bytes : lo8 0 = 0 ∧ hi8 0 = 0 := ⟨rfl, rfl⟩

theorem length_rateTags : [mfieBrate d, mfieGrate d].flatten.length = mfieRateLen d := by
  rw [← length_mfieRates, List.flatten_cons, List.flatten_singleton]

theorem length_probeReqElements :
    [[mfieTypeSsid], [UInt8.ofNat d.currentNetwork.ssid.length], d.currentNetwork.ssid, mfieBrate d,
      mfieGrate d].flatten.length = d.currentNetwork.ssid.length + 2 + mfieRateLen d := by
  rw [← length_mfieRates]
  simp only [List.flatten_cons, List.flatten_nil, List.length_append, List.length_singleton, List.append_nil]
  omega

theorem frame_probeReqBuild : (probeReq true d).map SkBuff.data = some (frame 0 (probeReqBuild d).ops) := by
  have hhdr : ∀ fc : UInt16, [Op.put 24, .write 0 (le16 fc), .write 2 (le16 0), .write 4 Mac.broadcast.toList,
      .write 10 d.devAddr.toList, .write 16 Mac.broadcast.toList].foldl (Op.apply 0) [] =
        mgmtHdr fc 0 Mac.broadcast d.devAddr Mac.broadcast := by
    intro fc
    simp [apply_put, apply_write, mgmtHdr, le16, Mac.toList, zero_bytes]
  unfold frame probeReqBuild
  dsimp only
  rw [List.foldl_append, hhdr, foldl_put_tags ?_ (length_probeReqElements d)]
  · simp [probeReq, infoElement, SkBuff.devAllocSkb]
  · rfl

theorem frame_authenticationReqBuild (challengelen : ℕ) :
    (authenticationReq true d challengelen).map (·.1.data) =
      some (frame 0 (authenticationReqBuild d challengelen).ops) := by
  simp [frame, authenticationReqBuild, authenticationReq, apply_put, apply_write, mgmtHdr, le16, Mac.toList,
    SkBuff.devAllocSkb, zero_bytes]

theorem frame_associationReqBuild :
    (associationReq true d).map (·.1.data) = some (frame 0 (associationReqBuild d).ops) := by
  have hhdr : ∀ (cap : UInt16) (n : UInt8), [Op.put 30, .write 0 (le16 stypeAssocReq), .write 2 (le16 37),
      .write 4 d.currentNetwork.bssid.toList, .write 10 d.devAddr.toList,
      .write 16 d.currentNetwork.bssid.toList, .write 24 (le16 cap), .write 26 (le16 0xa),
      .write 28 [mfieTypeSsid], .write 29 [n]].foldl (Op.apply 0) [] =
        mgmtHdr stypeAssocReq 37 d.currentNetwork.bssid d.devAddr d.currentNetwork.bssid ++ le16 cap ++
          le16 0xa ++ [mfieTypeSsid, n] := by
    intro cap n
    simp [apply_put, apply_write, mgmtHdr, le16, Mac.toList, zero_bytes]
  -- the header, and then one element behind the other
  set cap := wlanCapabilityBss |||
    capFlag (d.currentNetwork.capability &&& wlanCapabilityPrivacy != 0) wlanCapabilityPrivacy |||
    capFlag d.shortSlot wlanCapabilityShortSlot with hcap
  set ssid := d.currentNetwork.ssid with hssid
  set hdr := mgmtHdr stypeAssocReq 37 d.currentNetwork.bssid d.devAddr d.currentNetwork.bssid ++ le16 cap ++
    le16 0xa ++ [mfieTypeSsid, UInt8.ofNat ssid.length] with hhdrdef
  have hlen : hdr.length = 30 := rfl
  have h1 : (Op.put ssid.length :: tags 30 [ssid]).foldl (Op.apply 0) hdr = hdr ++ [ssid].flatten :=
    foldl_put_tags hlen.symm (by simp)
  have h2 : (Op.put (mfieRateLen d) :: tags (30 + ssid.length) [mfieBrate d, mfieGrate d]).foldl (Op.apply 0)
      (hdr ++ [ssid].flatten) = hdr ++ [ssid].flatten ++ [mfieBrate d, mfieGrate d].flatten :=
    foldl_put_tags (by simp [hlen]) (length_rateTags d)
  have h3 : (Op.put d.wpaIe.length :: tags (30 + ssid.length + mfieRateLen d) [d.wpaIe]).foldl (Op.apply 0)
      (hdr ++ [ssid].flatten ++ [mfieBrate d, mfieGrate d].flatten) =
        hdr ++ [ssid].flatten ++ [mfieBrate d, mfieGrate d].flatten ++ [d.wpaIe].flatten :=
    foldl_put_tags (by rw [List.length_append, List.length_append, hlen, length_rateTags]; simp) (by simp)
  unfold frame associationReqBuild
  dsimp only
  rw [List.foldl_append, List.foldl_append, List.foldl_append, hhdr, ← hcap, ← hssid, ← hhdrdef, h1, h2, h3]
  simp [associationReq, infoElement, SkBuff.devAllocSkb, hhdrdef, hcap, hssid]

theorem frame_assocRespBuild (dest : Mac) :
    (assocResp true d dest).map (·.1.data) = some (frame 0 (assocRespBuild d dest).ops) := by
  have hhdr : ∀ cap : UInt16, [Op.put 32, .write 0 (le16 stypeAssocResp), .write 4 dest.toList,
      .write 16 d.devAddr.toList, .write 10 d.devAddr.toList, .write 24 (le16 cap), .write 26 (le16 0),
      .write 28 (le16 d.assocId)].foldl (Op.apply 0) [] =
        mgmtHdr stypeAssocResp 0 dest d.devAddr d.devAddr ++ le16 cap ++ le16 0 ++ le16 d.assocId ++ [0, 0] := by
    intro cap
    simp [apply_put, apply_write, mgmtHdr, le16, Mac.toList, zero_bytes]
  unfold frame assocRespBuild
  dsimp only
  rw [List.foldl_append, hhdr, foldl_put_tags ?_ (length_rateTags d)]
  · simp [assocResp, SkBuff.devAllocSkb]
  · rfl

/-- The suite is copied inside the element, whose length stays. -/
@[simp] theorem length_copyPairwiseSuite (ie : List UInt8) : (copyPairwiseSuite ie).length = ie.length := by
  simp [copyPairwiseSuite, List.range_succ]

theorem copyPairwiseSuite_nil : copyPairwiseSuite [] = [] := rfl

theorem length_probeRespElements :
    38 + (d.currentNetwork.ssid :: probeRespElements d).flatten.length = beaconSize d := by
  have hibss : (if d.currentNetwork.capability &&& wlanCapabilityIbss ≠ 0 then
      [[mfieTypeIbssSet], [2], le16 d.currentNetwork.atimWindow] else []).flatten.length =
        if d.currentNetwork.capability &&& wlanCapabilityIbss ≠ 0 then 4 else 0 := by
    split_ifs <;> rfl
  have herp : (if d.currentNetwork.is54g then [[mfieTypeErp], [1], [0]] else []).flatten.length =
      if d.currentNetwork.is54g then 3 else 0 := by
    split_ifs <;> rfl
  have hex : (if d.currentNetwork.ratesEx ≠ [] then
      [[mfieTypeRatesEx], [UInt8.ofNat d.currentNetwork.ratesEx.length], d.currentNetwork.ratesEx]
        else []).flatten.length =
      if 0 < d.currentNetwork.ratesEx.length then d.currentNetwork.ratesEx.length + 2 else 0 := by
    simp only [List.length_pos_iff]
    split_ifs
    · simp
    · rfl
  have hwpa : (if d.wpaIe.length ≠ 0 then
      [if d.iwMode = .adhoc then copyPairwiseSuite d.wpaIe else d.wpaIe] else []).flatten.length =
        d.wpaIe.length := by
    split_ifs <;> simp_all
  unfold probeRespElements beaconSize
  dsimp only
  rw [List.flatten_cons, List.length_append]
  simp only [List.flatten_append, List.length_append, hibss, herp, hex, hwpa]
  simp only [List.flatten_cons, List.flatten_nil, List.length_append, List.length_singleton, List.append_nil]
  omega

theorem frame_probeRespBuild (dest : Mac) :
    (probeResp true d dest).map (·.1.data) = some (frame 0 (probeRespBuild d dest).ops) := by
  have hhdr : ∀ (bi ibss slot cap : UInt16) (n : UInt8), [Op.write 4 dest.toList, .write 10 d.devAddr.toList,
      .write 16 d.currentNetwork.bssid.toList, .write 2 (le16 0), .write 32 (le16 bi), .write 34 (le16 ibss),
      .write 34 (le16 slot), .write 34 (le16 cap), .write 0 (le16 stypeProbeResp), .write 36 [mfieTypeSsid],
      .write 37 [n]].foldl (Op.apply 0) (List.replicate 38 0) =
        mgmtHdr stypeProbeResp 0 dest d.devAddr d.currentNetwork.bssid ++ List.replicate 8 0 ++
          le16 bi ++ le16 cap ++ [mfieTypeSsid, n] := by
    intro bi ibss slot cap n
    simp [apply_write, mgmtHdr, le16, Mac.toList, zero_bytes, List.replicate]
  -- the elements come behind the 38 bytes of the header, and fill the rest
  set pieces := d.currentNetwork.ssid :: probeRespElements d with hpieces
  have hroom : beaconSize d = 38 + pieces.flatten.length := (length_probeRespElements d).symm
  have hrest : ∀ hdr : List UInt8, hdr.length = 38 →
      (tags 38 pieces).foldl (Op.apply 0) (hdr ++ List.replicate pieces.flatten.length 0) =
        hdr ++ pieces.flatten := by
    intro hdr hlen
    rw [← hlen, foldl_tags pieces hdr _ le_rfl, Nat.sub_self, List.replicate_zero, List.append_nil]
  unfold frame probeRespBuild
  dsimp only
  rw [List.cons_append, List.foldl_cons, apply_put, List.nil_append, hroom, List.replicate_add,
    List.foldl_append, foldl_append_left ?_ ?_, hhdr, ← hpieces, hrest _ rfl]
  · have hwpa : (if d.wpaIe = [] then []
        else [if d.iwMode = .adhoc then copyPairwiseSuite d.wpaIe else d.wpaIe]).flatten =
          if d.iwMode = .adhoc then copyPairwiseSuite d.wpaIe else d.wpaIe := by
      by_cases h : d.wpaIe = []
      · rw [h]
        simp [copyPairwiseSuite_nil]
      · simp [h]
    have hlen : (le16 d.currentNetwork.atimWindow).length = 2 := rfl
    simp [probeResp, infoElement, SkBuff.devAllocSkb, hpieces, probeRespElements, hwpa, apply_ite List.flatten,
      hlen]
  · simp [Op.claims]
  · simp [InRoom, Op.ends, Op.claims, le16, Mac.toList]

end

/-! ### What they claim -/

section

variable (d : Device P)

theorem probeReqBuild_fits : (probeReqBuild d).Fits := by
  constructor
  · unfold probeReqBuild
    simp
    omega
  · unfold probeReqBuild
    rw [inRoom_append]
    refine ⟨by simp [InRoom, Op.ends, Op.claims, le16, Mac.toList], inRoom_put_tags ?_⟩
    rw [length_probeReqElements]
    simp

theorem authenticationReqBuild_fits (challengelen : ℕ) : (authenticationReqBuild d challengelen).Fits := by
  constructor
  · unfold authenticationReqBuild
    simp
    omega
  · unfold authenticationReqBuild
    simp [InRoom, Op.ends, Op.claims, le16, Mac.toList]

theorem assocRespBuild_fits (dest : Mac) : (assocRespBuild d dest).Fits := by
  constructor
  · unfold assocRespBuild
    simp
  · unfold assocRespBuild
    rw [inRoom_append]
    refine ⟨by simp [InRoom, Op.ends, Op.claims, le16, Mac.toList], inRoom_put_tags ?_⟩
    rw [length_rateTags]
    simp

/-- `ieee80211_probe_resp` writes as many bytes as it allocates and claims. -/
theorem probeRespBuild_exact (dest : Mac) :
    total (probeRespBuild d dest).ops = (probeRespBuild d dest).room ∧
      reach (probeRespBuild d dest).ops = (probeRespBuild d dest).room ∧ (probeRespBuild d dest).Fits := by
  have hsize := length_probeRespElements d
  have htotal : total (probeRespBuild d dest).ops = (probeRespBuild d dest).room := by
    unfold probeRespBuild
    simp
  have hreach : reach (probeRespBuild d dest).ops = (probeRespBuild d dest).room := by
    unfold probeRespBuild
    dsimp only
    rw [reach_append, reach_tags 38 (List.cons_ne_nil _ _), hsize]
    apply max_eq_right
    -- the header ends before the elements
    have hhdr : 38 ≤ beaconSize d := hsize ▸ Nat.le_add_right _ _
    simp [reach, Op.ends, le16, Mac.toList]
    omega
  refine ⟨htotal, hreach, htotal.le, ?_⟩
  unfold probeRespBuild
  dsimp only
  rw [inRoom_append]
  refine ⟨?_, inRoom_tags ?_⟩
  · have hhdr : 38 ≤ beaconSize d := hsize ▸ Nat.le_add_right _ _
    simp [InRoom, Op.ends, Op.claims, le16, Mac.toList]
    omega
  · rw [hsize]
    simp

/-- `ieee80211_association_req` is the one whose room depends on another
element than the one it writes. -/
theorem associationReqBuild_fits_iff : (associationReqBuild d).Fits ↔ d.wpaIe.length ≤ elementRoom d := by
  have hroom : InRoom 0 (associationReqBuild d).ops := by
    unfold associationReqBuild
    dsimp only
    rw [inRoom_append, inRoom_append, inRoom_append]
    refine ⟨⟨⟨?_, inRoom_put_tags ?_⟩, inRoom_put_tags ?_⟩, inRoom_put_tags ?_⟩
    · simp [InRoom, Op.ends, Op.claims, le16, Mac.toList]
    · simp
    · rw [length_rateTags]
      simp
    · simp
      omega
  have htotal : total (associationReqBuild d).ops =
      30 + d.currentNetwork.ssid.length + mfieRateLen d + d.wpaIe.length := by
    unfold associationReqBuild
    simp
    omega
  have hsize : (associationReqBuild d).room =
      30 + d.currentNetwork.ssid.length + mfieRateLen d + elementRoom d := rfl
  constructor
  · rintro ⟨hle, -⟩
    omega
  · intro h
    exact ⟨by omega, hroom⟩

/-- The copy inside the WPA element. -/
theorem elementCopy_fits_iff : (elementCopy d).Fits ↔
    (d.iwMode = .adhoc → d.wpaIe.length = 0 ∨ 18 ≤ d.wpaIe.length) := by
  unfold elementCopy Build.Fits
  dsimp only
  by_cases hcopy : d.wpaIe.length ≠ 0 ∧ d.iwMode = .adhoc
  · obtain ⟨hlen, hmode⟩ := hcopy
    simp [InRoom, Op.ends, Op.claims, hlen, hmode]
    omega
  · rw [if_neg hcopy]
    simp [InRoom, Op.ends, Op.claims]
    grind

/-- All but the association request fit; that one does if the device's WPA
element is no longer than the room for the elements of the network. The one
write to another buffer is inside it unless the element is too short. -/
theorem builders_fit_iff :
    (FramesFit d ↔ d.wpaIe.length ≤ elementRoom d) ∧
      ((elementCopy d).Fits ↔ (d.iwMode = .adhoc → d.wpaIe.length = 0 ∨ 18 ≤ d.wpaIe.length)) := by
  refine ⟨?_, elementCopy_fits_iff d⟩
  rw [← associationReqBuild_fits_iff]
  constructor
  · rintro ⟨-, -, hassoc, -, -⟩
    exact hassoc
  · intro hassoc
    exact ⟨probeReqBuild_fits d, authenticationReqBuild_fits d, hassoc, assocRespBuild_fits d,
      fun dest => (probeRespBuild_exact d dest).2.2⟩

end

/-- A WPA element of 64 bytes, the longest that `ieee80211_wx_set_gen_ie` takes. -/
def longElement : List UInt8 := [221, 62, 0x00, 0x50, 0xf2, 0x01] ++ List.replicate 58 0

/-- The element set on a device that knows a network without such an element. -/
def openNetDevice : Int × Device Unit :=
  wxSetGenIe true (Device.init Unit ⟨1000, true⟩ ⟨2, 0, 0, 0, 0, 1⟩) longElement

/-- The element is taken; the request then claims 110 bytes, of the 46 that it
allocated and the 48 that there are. -/
theorem openNet_overrun : openNetDevice.1 = 0 ∧ total (associationReqBuild openNetDevice.2).ops = 110 ∧
    (associationReqBuild openNetDevice.2).room = 46 ∧ (SkBuff.devAllocSkb 46).tailroom = 48 ∧
    ¬ FramesFit openNetDevice.2 := by
  refine ⟨by decide, by decide, by decide, by decide, ?_⟩
  intro hfit
  have hclaims := hfit.2.2.1.1
  exact absurd hclaims (by decide)

end Rtl8187

/-
# Which frames are delivered, and as what

A frame that comes whole, in clear and to a station without keys: when
`ieee80211_rx` delivers it, and what the Ethernet frame is that it makes of it
(`decapsulates`).

The BSSID of a frame with four addresses is not looked at. Nor is the type of a
frame that is no management frame: a control frame, or one of the reserved type,
whose subtype bits are those of data is taken for a data frame
(`filter_passes_others`).

Key definitions: `PlainFrame`, `OfNetwork`, `etherFrame`, `Decapsulates`.
Key theorems: `toEthernet_data`, `rxAdmit_plain`, `decapsulates`.
-/
import Rtl8187.RxSteps

namespace Rtl8187

open Bytes

variable {P : Type}

/-! ### The frame that is delivered -/

/-- What follows the two addresses: the EtherType and the payload of a SNAP
header, but for AARP and IPX in one of RFC 1042; else the length and all of it. -/
def etherPayload (payload : List UInt8) : List UInt8 :=
  let ethertype := getBe16 payload 6
  if 8 ≤ payload.length ∧ ((payload.take 6 = rfc1042Header ∧ ethertype ≠ ethPAarp ∧ ethertype ≠ ethPIpx) ∨
      payload.take 6 = bridgeTunnelHeader) then payload.drop 6
  else be16 (UInt16.ofNat payload.length) ++ payload

/-- Destination and source of a frame. -/
def etherAddrs (hdr : List UInt8) : Mac × Mac :=
  let ds := dsBits (frameCtl hdr)
  if ds = 0 then (addr1 hdr, addr2 hdr)
  else if ds = fctlFromds then (addr1 hdr, addr3 hdr)
  else if ds = fctlTods then (addr3 hdr, addr2 hdr)
  else (addr3 hdr, addr4 hdr)

/-- The Ethernet frame of a data frame. -/
def etherFrame (frame : List UInt8) : List UInt8 :=
  (etherAddrs frame).1.toList ++ (etherAddrs frame).2.toList ++
    etherPayload (frame.drop (getHdrlen (frameCtl frame)))

/-- The two DS bits have four values. -/
theorem dsBits_values (fc : UInt16) : dsBits fc = 0 ∨ dsBits fc = fctlFromds ∨ dsBits fc = fctlTods ∨
    dsBits fc = fctlFromds ||| fctlTods := by
  have hsplit : dsBits fc = (fc &&& fctlFromds) ||| (fc &&& fctlTods) := UInt16.toBitVec_inj.mp BitVec.and_or_distrib_left
  by_cases hfrom : fc &&& fctlFromds = 0
  · rw [hsplit, hfrom, UInt16.zero_or]
    by_cases hto : fc &&& fctlTods = 0
    · exact Or.inl hto
    · exact Or.inr (Or.inr (Or.inl (and_bit 8 rfl hto)))
  · by_cases hto : fc &&& fctlTods = 0
    · rw [hsplit, hto, UInt16.or_zero]
      exact Or.inr (Or.inl (and_bit 9 rfl hfrom))
    · exact Or.inr (Or.inr (Or.inr (dsBits_both hfrom hto)))

/-- A SNAP header is looked for in the payload alone. -/
theorem hasSnap_iff {skb : SkBuff} {hdrlen : ℕ} (h : hdrlen ≤ skb.len) :
    hasSnap skb hdrlen = true ↔ 8 ≤ (skb.data.drop hdrlen).length ∧
      (((skb.data.drop hdrlen).take 6 = rfc1042Header ∧
          getBe16 (skb.data.drop hdrlen) 6 ≠ ethPAarp ∧ getBe16 (skb.data.drop hdrlen) 6 ≠ ethPIpx) ∨
        (skb.data.drop hdrlen).take 6 = bridgeTunnelHeader) := by
  have hlen : (skb.data.drop hdrlen).length = skb.len - hdrlen := List.length_drop
  rw [hlen]
  by_cases hroom : hdrlen + 8 ≤ skb.len
  · have hsnap : slice hdrlen 6 skb.mem = (skb.data.drop hdrlen).take 6 :=
      slice_append_left _ (show hdrlen + 6 ≤ skb.data.length from (by omega : hdrlen + 6 ≤ hdrlen + 8).trans hroom)
    have hat : ∀ i < 8, at8 skb.mem (hdrlen + i) = at8 (skb.data.drop hdrlen) i := by
      intro i hi
      rw [at8_drop]
      exact at8_append_left _ (lt_of_lt_of_le (by omega) hroom)
    have htype : getBe16 skb.mem (hdrlen + 6) = getBe16 (skb.data.drop hdrlen) 6 := by
      rw [getBe16, getBe16, hat 6 (by decide), Nat.add_assoc, hat 7 (by decide)]
    unfold hasSnap
    dsimp only
    rw [hsnap, htype]
    have hle : 8 ≤ skb.len - hdrlen := by omega
    simp [hroom, hle, and_assoc]
  · have hno : ¬ 8 ≤ skb.len - hdrlen := by omega
    unfold hasSnap
    simp [hroom, hno, not_lt.mpr h]

/-- `ieee80211_rx` makes this frame of one that has its header. -/
theorem toEthernet_data {skb : SkBuff} {hdrlen : ℕ} (h : hdrlen ≤ skb.len) (dst src : Mac) :
    (toEthernet skb hdrlen dst src).data = dst.toList ++ src.toList ++ etherPayload (skb.data.drop hdrlen) := by
  have hlen : (skb.pull hdrlen).len = (skb.data.drop hdrlen).length := by
    rw [SkBuff.len, SkBuff.pull_data h]
  unfold toEthernet etherPayload
  by_cases hsnap : hasSnap skb hdrlen = true
  · have hroom := ((hasSnap_iff h).mp hsnap).1
    rw [List.length_drop] at hroom
    have hpull : hdrlen + 6 ≤ skb.len := by
      unfold SkBuff.len
      omega
    rw [if_pos hsnap, if_pos ((hasSnap_iff h).mp hsnap), SkBuff.push_data, SkBuff.push_data,
      SkBuff.pull_data hpull, List.drop_drop, List.append_assoc]
  · rw [if_neg hsnap, if_neg (mt (hasSnap_iff h).mpr hsnap)]
    simp only [SkBuff.push_data, SkBuff.pull_data h, hlen, List.append_assoc]

/-! ### The filter -/

/-- The frame came whole and in clear, to a station that is not a monitor and has
no keys, and the duplicate filter lets it pass. -/
structure PlainFrame (env : RxEnv) (d : Device P) (skb : SkBuff) : Prop where
  mode : d.iwMode ≠ .monitor
  len : dataHdr3Len ≤ skb.len
  whole : isFragment skb.data = false
  clear : isProtected (frameCtl skb.data) = false
  noKey : ∀ idx, d.cryptOps idx = none
  fresh : (isDuplicatePacket env d skb.data).1 = false

/-- A data frame whose subtype has data. -/
def CarriesData (fc : UInt16) : Prop :=
  fcType fc = ftypeData ∧ fcStype fc ∈ [stypeData, stypeDataCfack, stypeDataCfpoll, stypeDataCfackpoll]

instance (fc : UInt16) : Decidable (CarriesData fc) := inferInstanceAs (Decidable (_ ∧ _))

/-- The BSSID of a frame, which one with four addresses has not. -/
def frameBssid (hdr : List UInt8) : Option Mac :=
  let ds := dsBits (frameCtl hdr)
  if ds = 0 then some (addr3 hdr)
  else if ds = fctlFromds then some (addr2 hdr)
  else if ds = fctlTods then some (addr1 hdr)
  else none

/-- The frame has the network's BSSID, or four addresses and room for them. -/
def OfNetwork (bssid : Mac) (skb : SkBuff) : Prop :=
  frameBssid skb.data = some bssid ∨ frameBssid skb.data = none ∧ dataHdr4Len ≤ skb.len

instance (bssid : Mac) (skb : SkBuff) : Decidable (OfNetwork bssid skb) := inferInstanceAs (Decidable (_ ∨ _))

/-- The frame has the network's BSSID, or four addresses and the network's access
point as its transmitter. -/
def FromNetwork (bssid : Mac) (skb : SkBuff) : Prop :=
  frameBssid skb.data = some bssid ∨ frameBssid skb.data = none ∧ addr2 skb.data = bssid

instance (bssid : Mac) (skb : SkBuff) : Decidable (FromNetwork bssid skb) := inferInstanceAs (Decidable (_ ∨ _))

/-- If `pass`, reception delivers the Ethernet frame of this frame and nothing
else, and otherwise nothing. -/
def Decapsulates (mgt : RxMgt P) (env : RxEnv) (w : World P) (skb : SkBuff) (pass : Prop) : Prop :=
  let w' := (receive mgt env w skb).2
  (pass → ∃ m, w'.msdus = w.msdus ++ [(w.nextBuf, m)] ∧ m.eth = etherFrame skb.data) ∧
    (¬ pass → w'.msdus = w.msdus)

/-- The addresses that `ieee80211_rx` takes from a frame. -/
theorem rxAddrs_ether (d : Device P) (hdr : List UInt8) :
    (rxAddrs d hdr).1 = (etherAddrs hdr).1 ∧ (rxAddrs d hdr).2.1 = (etherAddrs hdr).2 := by
  unfold rxAddrs etherAddrs
  rcases dsBits_values (frameCtl hdr) with h | h | h | h
  · rw [h]
    exact ⟨rfl, rfl⟩
  · rw [h]
    exact ⟨rfl, rfl⟩
  · rw [h]
    exact ⟨rfl, rfl⟩
  · rw [h]
    exact ⟨rfl, rfl⟩

/-- The two checks of the BSSID and the length together. -/
theorem ofNetwork_iff (d : Device P) (skb : SkBuff) : OfNetwork d.currentNetwork.bssid skb ↔
    ¬ (dsBits (frameCtl skb.data) = fctlFromds ||| fctlTods ∧ skb.len < dataHdr4Len) ∧
      (rxAddrs d skb.data).2.2 = d.currentNetwork.bssid := by
  have hthree : ∀ {ds : UInt16} {a : Mac}, ds ≠ fctlFromds ||| fctlTods →
      ((some a = some d.currentNetwork.bssid ∨ some a = none ∧ dataHdr4Len ≤ skb.len) ↔
        ¬ (ds = fctlFromds ||| fctlTods ∧ skb.len < dataHdr4Len) ∧ a = d.currentNetwork.bssid) := by
    intro ds a hds
    simp [hds]
  unfold OfNetwork frameBssid rxAddrs
  rcases dsBits_values (frameCtl skb.data) with h | h | h | h
  · rw [h]
    exact hthree (by decide)
  · rw [h]
    exact hthree (by decide)
  · rw [h]
    exact hthree (by decide)
  · rw [h]
    constructor
    · rintro (hb | ⟨-, hlen⟩)
      · cases hb
      · exact ⟨fun hshort => absurd hlen (not_le.mpr hshort.2), rfl⟩
    · rintro ⟨hlen, -⟩
      exact Or.inr ⟨rfl, not_lt.mp fun hshort => hlen ⟨rfl, hshort⟩⟩

section

variable {env : RxEnv} {d : Device P} {skb : SkBuff}

theorem decryptSlot_noKey (h : ∀ idx, d.cryptOps idx = none) : decryptSlot d skb = none := by
  unfold decryptSlot
  simp [h]

/-- Such a frame comes past the duplicate filter. -/
theorem rxAdmit_plain (h : PlainFrame env d skb) : rxAdmit env d skb =
    let fc := frameCtl skb.data
    let d := (isDuplicatePacket env d skb.data).2
    if fcType fc = ftypeMgmt then .mgmt d
    else if dsBits fc = fctlFromds ||| fctlTods ∧ skb.len < dataHdr4Len then .drop d
    else if fcStype fc ∉ [stypeData, stypeDataCfack, stypeDataCfpoll, stypeDataCfackpoll] then .drop d
    else if (rxAddrs d skb.data).2.2 ≠ d.currentNetwork.bssid then .drop d
    else .data d := by
  have hlong : ¬ skb.len < 10 := not_lt.mpr (le_trans (by decide) h.len)
  have hclear : ¬ (d.hostDecrypt = true ∧ decryptSlot d skb = none ∧
      isProtected (frameCtl skb.data) = true) := by
    rintro ⟨-, -, hprot⟩
    rw [h.clear] at hprot
    cases hprot
  have hfresh : ¬ (isDuplicatePacket env d skb.data).1 = true := by
    rw [h.fresh]
    decide
  unfold rxAdmit
  dsimp only
  rw [if_neg hlong, if_neg h.mode, if_neg hclear, if_neg (not_lt.mpr h.len), if_neg hfresh]

theorem isDuplicatePacket_bssid (env : RxEnv) (d : Device P) (hdr : List UInt8) :
    (isDuplicatePacket env d hdr).2.currentNetwork = d.currentNetwork :=
  (isDuplicatePacket_same env d hdr).view Device.currentNetwork fun _ _ _ _ => rfl

/-- A data frame of the network is admitted. -/
theorem rxAdmit_passes (h : PlainFrame env d skb) (hdata : CarriesData (frameCtl skb.data))
    (hnet : OfNetwork d.currentNetwork.bssid skb) :
    rxAdmit env d skb = .data (isDuplicatePacket env d skb.data).2 := by
  rw [← isDuplicatePacket_bssid env d skb.data, ofNetwork_iff] at hnet
  obtain ⟨hlen, hbssid⟩ := hnet
  have htype : fcType (frameCtl skb.data) ≠ ftypeMgmt := by
    rw [hdata.1]
    decide
  rw [rxAdmit_plain h]
  dsimp only
  rw [if_neg htype, if_neg hlen, if_neg (not_not_intro hdata.2), if_neg (not_not_intro hbssid)]

/-- Any other data frame is dropped. -/
theorem rxAdmit_drops (h : PlainFrame env d skb) (htype : fcType (frameCtl skb.data) = ftypeData)
    (hno : ¬ (CarriesData (frameCtl skb.data) ∧ OfNetwork d.currentNetwork.bssid skb)) :
    rxAdmit env d skb = .drop (isDuplicatePacket env d skb.data).2 := by
  rw [← isDuplicatePacket_bssid env d skb.data, ofNetwork_iff] at hno
  have hmgmt : fcType (frameCtl skb.data) ≠ ftypeMgmt := by
    rw [htype]
    decide
  rw [rxAdmit_plain h]
  dsimp only
  rw [if_neg hmgmt]
  split_ifs with hlen hstype hbssid
  · rfl
  · rfl
  · exact absurd ⟨⟨htype, hstype⟩, hlen, not_not.mp hbssid⟩ hno
  · rfl

/-! ### The delivery -/

variable {w : World P}

/-- Nothing is decrypted, and nothing checked. -/
theorem deliver_plain (env : RxEnv) (b : BufId) (hno : ∀ idx, w.dev.cryptOps idx = none)
    (hclear : isProtected (frameCtl (w.heap b).skb.data) = false)
    (hlen : getHdrlen (frameCtl (w.heap b).skb.data) ≤ (w.heap b).skb.len) :
    ∃ m, (deliver env (rxOpen w b).2 b (rxOpen w b).1 false).2.msdus = w.msdus ++ [(b, m)] ∧
      m.eth = etherFrame (w.heap b).skb.data := by
  have hopens : w.dev.opens (frameCtl (w.heap b).skb.data) = false := by
    rw [Device.opens, hclear, Bool.and_false]
  have hopened : openedSkb w b = (w.heap b).skb := by
    rw [openedSkb, rxOpened, hopens]
    rfl
  have hdev : (rxOpen w b).2.dev = w.dev := by
    change (rxOpened w b).2.2 = w.dev
    rw [rxOpened, hopens]
    rfl
  have hskb : ((rxOpen w b).2.heap b).skb = (w.heap b).skb := by
    rw [rxOpen_heap, Function.update_self]
    exact hopened
  have hcheck : checkMsdu (rxOpen w b).2 b (rxOpen w b).1 = (0, (w.heap b).skb, w.dev) := by
    have hfc : (rxOpen w b).1.fc = frameCtl (w.heap b).skb.data := rfl
    rw [checkMsdu, hdev, hfc, hopens, hskb]
    rfl
  have hslot : (rxOpen w b).1.slot = none := decryptSlot_noKey hno
  have hacc : Accepts (rxOpen w b).2 b (rxOpen w b).1 := by
    rw [Accepts, hcheck]
    refine ⟨rfl, ?_⟩
    rw [rejectsClear, hslot]
    rfl
  refine ⟨msduOf (rxOpen w b).2 b (rxOpen w b).1 false, ?_, ?_⟩
  · rw [deliver_msdus, if_pos hacc]
    rfl
  · obtain ⟨hdst, hsrc⟩ := rxAddrs_ether w.dev (w.heap b).skb.data
    calc (msduOf (rxOpen w b).2 b (rxOpen w b).1 false).eth
        = (toEthernet (w.heap b).skb (getHdrlen (frameCtl (w.heap b).skb.data))
            (rxAddrs w.dev (w.heap b).skb.data).1 (rxAddrs w.dev (w.heap b).skb.data).2.1).data := by
          rw [msduOf, hcheck]
          rfl
      _ = etherFrame (w.heap b).skb.data := by rw [toEthernet_data hlen, hdst, hsrc, etherFrame]

/-- The tasklet delivers what `ieee80211_rx` does. -/
theorem msdus_receive (mgt : RxMgt P) (env : RxEnv) (w : World P) (skb : SkBuff) :
    (receive mgt env w skb).2.msdus = (rx mgt env (w.arrive skb) w.nextBuf).2.msdus := by
  unfold receive
  dsimp only
  split_ifs
  · exact World.msdus_kfreeAll _ _
  · rfl

/-- What is not admitted as data is not delivered. -/
theorem msdus_notAdmitted (mgt : RxMgt P) (hno : ∀ d, rxAdmit env w.dev skb ≠ .data d) :
    (receive mgt env w skb).2.msdus = w.msdus := by
  rw [msdus_receive]
  obtain ⟨d, -, h⟩ | h | ⟨d, -, h⟩ | ⟨d, hadmit, -⟩ := rx_cases mgt env (w.arrive skb) w.nextBuf
  · rw [h]
    rfl
  · rw [h]
    exact List.filterMap_append.trans (List.append_nil _)
  · rw [h]
    exact World.msdus_kfreeAll _ _
  · rw [arrive_buf] at hadmit
    exact absurd hadmit (hno d)

/-- An admitted frame in clear that is no fragment goes on to the delivery. -/
theorem rxData_plain (env : RxEnv) (b : BufId) (hclear : isProtected (frameCtl (w.heap b).skb.data) = false)
    (hwhole : isFragment (w.heap b).skb.data = false) :
    rxData env w b = deliver env (rxOpen w b).2 b (rxOpen w b).1 false := by
  have hkey : (rxOpen w b).1.keyidx = 0 := by
    rw [rxOpen_keyidx, rxOpened, Device.opens, hclear, Bool.and_false]
    rfl
  obtain ⟨hneg, -⟩ | ⟨-, -, h⟩ | ⟨-, hfrag, -⟩ := rxData_cases env w b
  · rw [hkey] at hneg
    exact absurd hneg (by decide)
  · exact h
  · rw [hwhole] at hfrag
    cases hfrag

/-- A frame that comes whole and in clear is delivered if it is a data frame of the
network, as the Ethernet frame its DS bits and its payload tell. -/
theorem decapsulates (mgt : RxMgt P) (h : PlainFrame env w.dev skb)
    (htype : fcType (frameCtl skb.data) = ftypeMgmt ∨ fcType (frameCtl skb.data) = ftypeData) :
    Decapsulates mgt env w skb
      (CarriesData (frameCtl skb.data) ∧ OfNetwork w.dev.currentNetwork.bssid skb) := by
  have hbuf : (w.arrive skb).heap w.nextBuf = ⟨skb, []⟩ := arrive_buf w skb
  refine ⟨fun hpass => ?_, fun hno => ?_⟩
  · have hadmit := rxAdmit_passes h hpass.1 hpass.2
    have hdup := isDuplicatePacket_same env w.dev skb.data
    set w' : World P := { w.arrive skb with dev := (isDuplicatePacket env w.dev skb.data).2 } with hw'
    have hbuf' : (w'.heap w.nextBuf).skb = skb := congrArg RxBuf.skb hbuf
    have hkeys : ∀ idx, w'.dev.cryptOps idx = none := by
      intro idx
      rw [← h.noKey idx, hw', hdup]
      rfl
    have hclear : isProtected (frameCtl (w'.heap w.nextBuf).skb.data) = false := by
      rw [hbuf']
      exact h.clear
    have hwhole : isFragment (w'.heap w.nextBuf).skb.data = false := by
      rw [hbuf']
      exact h.whole
    have hlen : getHdrlen (frameCtl (w'.heap w.nextBuf).skb.data) ≤ (w'.heap w.nextBuf).skb.len := by
      rw [hbuf']
      exact hdrlen_le_len hadmit
    obtain ⟨m, hm, heth⟩ := deliver_plain env w.nextBuf hkeys hclear hlen
    rw [hbuf'] at heth
    refine ⟨m, ?_, heth⟩
    calc (receive mgt env w skb).2.msdus
        = (rx mgt env (w.arrive skb) w.nextBuf).2.msdus := msdus_receive ..
      _ = (rxData env w' w.nextBuf).2.msdus := by
          have hadmit' : rxAdmit env (w.arrive skb).dev skb =
            .data (isDuplicatePacket env w.dev skb.data).2 := hadmit
          rw [rx, hbuf]
          dsimp only
          rw [hadmit']
      _ = w'.msdus ++ [(w.nextBuf, m)] := by rw [rxData_plain env w.nextBuf hclear hwhole, hm]
  · apply msdus_notAdmitted mgt
    rcases htype with hmgmt | hdata
    · intro d hadmit
      rw [rxAdmit_plain h] at hadmit
      dsimp only at hadmit
      rw [if_pos hmgmt] at hadmit
      cases hadmit
    · intro d hadmit
      rw [rxAdmit_drops h hdata hno] at hadmit
      cases hadmit

end

section

private abbrev lan : Mac := ⟨0, 0, 0, 0, 0, 0⟩
private abbrev foreign : Mac := ⟨4, 0, 0, 0, 0, 9⟩
private abbrev here : Mac := ⟨2, 0, 0, 0, 0, 1⟩
private abbrev tick : RxEnv := ⟨⟨1000, true, fun _ => false, lan⟩, 1001, true⟩
private abbrev idle : World Unit := World.start (Device.init Unit ⟨250, true⟩ here)

/-- A payload of the access point's, without a SNAP header. -/
theorem plainPayload_decapsulated : Decapsulates (fun _ _ => .idle Unit) tick idle
    (apFrame 0 0 lan here [1, 2, 3])
    (CarriesData (frameCtl (apFrame 0 0 lan here [1, 2, 3]).data) ∧ OfNetwork lan (apFrame 0 0 lan here [1, 2, 3])) :=
  decapsulates _ ⟨by decide, by decide, by decide, by decide, fun _ => rfl, by decide⟩ (Or.inr (by decide))

/-- A stranger's frame with four addresses is delivered, and so is a frame of the
reserved type. -/
theorem filter_passes_others :
    ¬ (∀ skb, PlainFrame tick idle.dev skb → Decapsulates (fun _ _ => .idle Unit) tick idle skb
      (CarriesData (frameCtl skb.data) ∧ FromNetwork lan skb)) ∧
    ¬ CarriesData (frameCtl (apFrame ftypeCtl 0 lan here [1, 2, 3]).data) ∧
    (receive (fun _ _ => .idle Unit) tick idle (apFrame ftypeCtl 0 lan here [1, 2, 3])).2.msdus.length = 1 := by
  refine ⟨fun h => ?_, by decide, by decide⟩
  have hno := (h (apFrame fctlTods 0 foreign here [4, 0, 0, 0, 0, 9, 1, 2, 3])
    ⟨by decide, by decide, by decide, by decide, fun _ => rfl, by decide⟩).2 (by decide)
  exact absurd (congrArg List.length hno) (by decide)

end

end Rtl8187

/-
# From one station to another

An Ethernet frame goes through `ieee80211_xmit` of one station, and its fragments
through `ieee80211_rx` of a peer with the same key and BSSID: the peer delivers
the frame as it was (`xmit_rx_round_trip`), in however many fragments it comes
and whatever its EtherType.

A frame in several fragments needs more of the peer: that they come within two
seconds of the first, that it gets a buffer, with room by its MTU, and that no
unfinished MSDU has the same number (`Gatherable`). Where one of these fails, the
frame is lost (`ungathered_lost`).

Key definitions: `AirMsdu`, `OnAir`, `Peer`, `Halfway`, `Gatherable`, `Linked`.
Key theorems: `onAir_xmit`, `receive_first`, `receive_next`, `run_rest`, `xmit_rx_round_trip`.
-/
import Rtl8187.Gathering
import Rtl8187.Sealing
import Rtl8187.DuplicateFilter
import Rtl8187.Decapsulation
import Rtl8187.Digest

namespace Rtl8187

open Bytes Chunks

/-! ### An MSDU on the air -/

/-- What the fragments of an MSDU share: the header's fields, and the SNAP header
with the payload that they have pieces of. -/
structure AirMsdu where
  encrypt : Bool
  infra : Bool
  receiver : Mac
  transmitter : Mac
  third : Mac
  seqCtrl : UInt16
  bytesPerFrag : ℕ
  nrFrags : ℕ
  body : List UInt8
  pos : 0 < nrFrags
  nr_le : nrFrags ≤ 16
  covers : body.length ≤ nrFrags * bytesPerFrag

namespace AirMsdu

variable (a : AirMsdu)

/-- The header of fragment `i`. -/
def header (i : ℕ) : List UInt8 :=
  dataHdr (fragFc a.encrypt a.infra (i + 1 != a.nrFrags)) a.receiver a.transmitter a.third (fragSc a.seqCtrl i)

/-- The payload of fragment `i`. -/
def piece (i : ℕ) : List UInt8 := chunk a.bytesPerFrag a.body i

/-- What the fragment cache knows it by. -/
def fragKey : FragKey := ⟨seqSeq (a.seqCtrl <<< 4), a.transmitter, a.receiver⟩

def bssid : Mac := if a.infra then a.receiver else a.third

def dst : Mac := if a.infra then a.third else a.receiver

@[simp] theorem length_header (i : ℕ) : (a.header i).length = dataHdr3Len := length_dataHdr ..

/-- What a receiver reads from a fragment. -/
theorem header_fields {i : ℕ} (hi : i < a.nrFrags) (rest : List UInt8) :
    let frame := a.header i ++ rest
    frameCtl frame = fragFc a.encrypt a.infra (i + 1 != a.nrFrags) ∧ addr2 frame = a.transmitter ∧
      FragKey.ofHdr frame = a.fragKey ∧ (seqFrag (seqCtl frame)).toNat = i := by
  intro frame
  have hlt : i < 16 := lt_of_lt_of_le hi a.nr_le
  have hseq : seqCtl frame = fragSc a.seqCtrl i := seqCtl_dataHdr ..
  refine ⟨frameCtl_dataHdr .., addr2_dataHdr .., ?_, ?_⟩
  · rw [FragKey.ofHdr, hseq, fragSc_seq a.seqCtrl hlt]
    rfl
  · rw [hseq, fragSc_frag a.seqCtrl hlt]

/-- Its flags. -/
theorem header_flags {i : ℕ} (hi : i < a.nrFrags) (rest : List UInt8) :
    let fc := frameCtl (a.header i ++ rest)
    fcType fc = ftypeData ∧ fcStype fc = stypeData ∧ isProtected fc = a.encrypt ∧
      moreFrags fc = (i + 1 != a.nrFrags) ∧ dsBits fc = (if a.infra then fctlTods else 0) ∧
      getHdrlen fc = dataHdr3Len := by
  intro fc
  have hfc : fc = fragFc a.encrypt a.infra (i + 1 != a.nrFrags) := (a.header_fields hi rest).1
  rw [hfc]
  exact fragFc_flags ..

/-- It is no fragment if it comes alone. -/
theorem isFragment_header {i : ℕ} (hi : i < a.nrFrags) (rest : List UInt8) :
    isFragment (a.header i ++ rest) = (a.nrFrags != 1) := by
  obtain ⟨-, -, -, hfrag⟩ := a.header_fields hi rest
  obtain ⟨-, -, -, hmore, -⟩ := a.header_flags hi rest
  have hnr : fragOf (a.header i ++ rest) = i := hfrag
  unfold isFragment
  rw [hnr, hmore]
  rw [Bool.eq_iff_iff]
  simp only [Bool.or_eq_true, bne_iff_ne]
  omega

/-- The addresses that a receiver takes from it. -/
theorem rxAddrs_header {P : Type} (d : Device P) {i : ℕ} (hi : i < a.nrFrags) (rest : List UInt8) :
    rxAddrs d (a.header i ++ rest) = (a.dst, a.transmitter, a.bssid) := by
  obtain ⟨-, -, -, -, hds, -⟩ := a.header_flags hi rest
  have h1 : addr1 (a.header i ++ rest) = a.receiver := rfl
  have h2 : addr2 (a.header i ++ rest) = a.transmitter := rfl
  have h3 : addr3 (a.header i ++ rest) = a.third := rfl
  unfold rxAddrs dst bssid
  dsimp only
  rw [hds, h1, h2, h3]
  cases a.infra <;> rfl

/-- The pieces up to fragment `i` make up the front of the body. -/
theorem take_piece (i : ℕ) : a.body.take ((i + 1) * a.bytesPerFrag) ++ a.piece (i + 1) =
    a.body.take ((i + 1 + 1) * a.bytesPerFrag) := by
  rw [Nat.succ_mul (i + 1), List.take_add]
  rfl

theorem piece_zero : a.piece 0 = a.body.take ((0 + 1) * a.bytesPerFrag) := by
  unfold piece chunk
  rw [Nat.zero_mul, List.drop_zero, Nat.zero_add, Nat.one_mul]

/-- All of them make up the body. -/
theorem take_all : a.body.take (a.nrFrags * a.bytesPerFrag) = a.body := List.take_of_length_le a.covers

end AirMsdu

/-- The frames from fragment `i` on, as they come in: `Seal` says what is made of
the header and the payload of each. -/
inductive OnAir (Seal : List UInt8 → List UInt8 → List UInt8 → Prop) (a : AirMsdu) : ℕ → List (RxEnv × SkBuff) → Prop
  | last {i : ℕ} {env : RxEnv} {skb : SkBuff} : i + 1 = a.nrFrags →
      Seal (a.header i) (a.piece i) skb.data → OnAir Seal a i [(env, skb)]
  | more {i : ℕ} {env : RxEnv} {skb : SkBuff} {is : List (RxEnv × SkBuff)} : i + 1 < a.nrFrags →
      Seal (a.header i) (a.piece i) skb.data → OnAir Seal a (i + 1) is → OnAir Seal a i ((env, skb) :: is)

/-! ### The sender -/

section

variable (d : Device Priv) (eth : EtherFrame)

theorem airMsdu_nr_le : (xmitPlan d eth.skb).nrFrags ≤ 16 := (nrFrags_le eth.payload_le).trans (by decide)

/-- The MSDU that `ieee80211_xmit` makes of an Ethernet frame. -/
def airMsdu : AirMsdu where
  encrypt := (xmitPlan d eth.skb).encrypt
  infra := d.iwMode == .infra
  receiver := (xmitMacs d (Mac.read eth.skb.mem 0) (Mac.read eth.skb.mem 6)).1
  transmitter := (xmitMacs d (Mac.read eth.skb.mem 0) (Mac.read eth.skb.mem 6)).2.1
  third := (xmitMacs d (Mac.read eth.skb.mem 0) (Mac.read eth.skb.mem 6)).2.2
  seqCtrl := d.seqCtrl
  bytesPerFrag := (xmitPlan d eth.skb).bytesPerFrag
  nrFrags := (xmitPlan d eth.skb).nrFrags
  body := xmitBody eth.skb
  pos := (xmitPlan_count d eth.skb).1
  nr_le := airMsdu_nr_le d eth
  covers := length_xmitBody_le d eth.skb

/-- The data of the fragments of a buffer that is handed on. -/
def Txb.frames (txb : Txb) : List (List UInt8) := (List.range' 0 txb.nrFrags).map fun i => (txb.fragments i).data

variable {d eth} {prim : Primitives} {key : LinkKey}

/-- Frames with the data of these fragments are those from `i` on. -/
theorem onAir_of_map {Seal : List UInt8 → List UInt8 → List UInt8 → Prop} {a : AirMsdu} {out : ℕ → List UInt8}
    (h : ∀ i < a.nrFrags, Seal (a.header i) (a.piece i) (out i)) : ∀ {n i : ℕ} {is : List (RxEnv × SkBuff)},
    i + (n + 1) = a.nrFrags → is.map (·.2.data) = (List.range' i (n + 1)).map out → OnAir Seal a i is
  | n, i, [], _, hmap => absurd (congrArg List.length hmap) (by simp)
  | n, i, (env, skb) :: is, hn, hmap => by
    rw [List.range'_succ, List.map_cons, List.map_cons, List.cons.injEq] at hmap
    obtain ⟨hdata, hrest⟩ := hmap
    have hseal : Seal (a.header i) (a.piece i) skb.data := by
      rw [hdata]
      exact h i (by omega)
    cases n with
    | zero =>
      have hnil : is = [] := List.map_eq_nil_iff.mp hrest
      subst hnil
      exact .last hn hseal
    | succ n => exact .more (by omega) hseal (onAir_of_map h (by omega) hrest)

/-- What is handed on of each fragment says what comes in. -/
theorem onAir_fragments {Seal : List UInt8 → List UInt8 → List UInt8 → Prop}
    (hout : ∀ i < (xmitPlan d eth.skb).nrFrags,
      Seal ((xmitPlan d eth.skb).header i) (chunk (xmitPlan d eth.skb).bytesPerFrag (xmitBody eth.skb) i)
        (outFragment (xmitPlan d eth.skb) d (xmitPayload eth.skb) (poolFragments d) i).data)
    {is : List (RxEnv × SkBuff)} (hfed : is.map (·.2.data) = (xmitFragments d eth.skb).1.frames) :
    OnAir Seal (airMsdu d eth) 0 is := by
  have hseal : ∀ i < (airMsdu d eth).nrFrags, Seal ((airMsdu d eth).header i) ((airMsdu d eth).piece i)
      (((xmitFragments d eth.skb).1.fragments i).data) := by
    intro i hi
    have hheader : (airMsdu d eth).header i = (xmitPlan d eth.skb).header i := (xmitPlan_header d eth.skb i).symm
    rw [xmitFragments_frag d eth.skb hi, hheader]
    exact hout i hi
  obtain ⟨n, hn⟩ := Nat.exists_eq_succ_of_ne_zero (airMsdu d eth).pos.ne'
  refine onAir_of_map hseal ((Nat.zero_add _).trans hn.symm) ?_
  rw [hfed, Txb.frames]
  have hnr : (xmitFragments d eth.skb).1.nrFrags = n + 1 := hn
  rw [hnr]

/-- **The sender's half.** What `ieee80211_xmit` hands on is the MSDU, sealed with
the key. -/
theorem onAir_xmit (hready : SendReady prim d) (hkey : key.Sends prim d) (hfcs : d.configFcs = false)
    (heapol : key.slot.isSome = true → etherType eth.skb ≠ ethPPae) {is : List (RxEnv × SkBuff)}
    (hfed : is.map (·.2.data) = (xmitFragments d eth.skb).1.frames) : OnAir (key.Seals prim) (airMsdu d eth) 0 is :=
  onAir_fragments (fun _ => outFragment_sealed hready.pool hkey hfcs eth.payload_le heapol) hfed

end

/-! ### The duplicate filter -/

section

variable {P : Type} {env : RxEnv} {d d' : Device P} {hdr : List UInt8}

/-- The last that was noted of this transmitter, if anything is, was this fragment. -/
def HeardLast (d : Device P) (mac : Mac) (frag : UInt16) : Prop :=
  match d.iwMode with
  | .infra => d.lastFragNum = frag
  | .adhoc => ∀ e ∈ d.heardOf mac, e.fragNum = frag
  | _ => True

theorem HeardLast.congr {mac : Mac} {frag : UInt16} (h : HeardLast d mac frag) (hmode : d'.iwMode = d.iwMode)
    (hlast : d'.lastFragNum = d.lastFragNum) (hhash : d'.ibssMacHash = d.ibssMacHash) : HeardLast d' mac frag := by
  unfold HeardLast Device.heardOf at h ⊢
  rw [hmode, hlast, hhash]
  exact h

/-- The next fragment is no repetition. -/
theorem isRepeat_next (now hz lastTime : UInt64) (lastSeq seq : UInt16) {lastFrag frag : UInt16}
    (h : frag.toNat = lastFrag.toNat + 1) : isRepeat now hz lastSeq lastFrag seq frag lastTime = false := by
  have hne : lastFrag ≠ frag := by
    intro heq
    rw [heq] at h
    omega
  simp [isRepeat, h, hne]

/-- What passes the filter is what it has heard last. -/
theorem heardLast_passed (h : (isDuplicatePacket env d hdr).1 = false) :
    HeardLast (isDuplicatePacket env d hdr).2 (addr2 hdr) (seqFrag (seqCtl hdr)) := by
  have hmode : (isDuplicatePacket env d hdr).2.iwMode = d.iwMode :=
    (isDuplicatePacket_same env d hdr).view Device.iwMode fun _ _ _ _ => rfl
  unfold HeardLast
  rw [hmode]
  cases hm : d.iwMode with
  | infra =>
    unfold isDuplicatePacket at h ⊢
    rw [hm] at h ⊢
    dsimp only at h ⊢
    split_ifs at h ⊢
    rfl
  | adhoc =>
    dsimp only
    rcases hheard : d.heardOf (addr2 hdr) with _ | e
    · rw [isDuplicatePacket_new hm hheard]
      by_cases hk : env.kmalloc = true
      · rw [if_pos hk]
        intro e he
        have hadd : HashChains.lookup macHash IbssSeq.mac (HashChains.add macHash IbssSeq.mac d.ibssMacHash
            (noteFrame env hdr)) (addr2 hdr) = some (noteFrame env hdr) :=
          (HashChains.lookup_add _ _ _).trans (if_pos rfl)
        cases hadd.symm.trans he
        rfl
      · rw [if_neg hk, hheard]
        exact nofun
    · rw [isDuplicatePacket_known hm hheard] at h ⊢
      split_ifs at h ⊢
      intro e' he'
      have hsome : (HashChains.lookup macHash IbssSeq.mac d.ibssMacHash (noteFrame env hdr).mac).isSome = true :=
        Option.isSome_of_eq_some hheard
      have hset : HashChains.lookup macHash IbssSeq.mac (HashChains.replace macHash IbssSeq.mac d.ibssMacHash
          (noteFrame env hdr)) (addr2 hdr) = some (noteFrame env hdr) :=
        (HashChains.lookup_replace hsome _).trans (if_pos rfl)
      cases hset.symm.trans he'
      rfl
  | _ => trivial

/-- The next fragment passes. -/
theorem passes_next {frag : UInt16} (h : HeardLast d (addr2 hdr) frag)
    (hnext : (seqFrag (seqCtl hdr)).toNat = frag.toNat + 1) : (isDuplicatePacket env d hdr).1 = false := by
  unfold HeardLast at h
  cases hm : d.iwMode with
  | infra =>
    rw [hm] at h
    have hlast : d.lastFragNum = frag := h
    have hno : isRepeat env.now d.kernel.hz d.lastSeqNum d.lastFragNum (seqSeq (seqCtl hdr))
        (seqFrag (seqCtl hdr)) d.lastPacketTime = false := by
      rw [hlast]
      exact isRepeat_next _ _ _ _ _ hnext
    unfold isDuplicatePacket
    rw [hm]
    dsimp only
    rw [hno]
    rfl
  | adhoc =>
    rw [hm] at h
    rw [isDuplicatePacket_verdict hm]
    rcases hheard : d.heardOf (addr2 hdr) with _ | e
    · rfl
    · have hlast : e.fragNum = frag := h e hheard
      rw [senderFilter, hlast, isRepeat_next _ _ _ _ _ hnext]
      rfl
  | _ =>
    unfold isDuplicatePacket
    rw [hm]

end

/-! ### The peer and one frame -/

/-- The peer is of the sender's network, and has its key. -/
structure Peer (prim : Primitives) (key : LinkKey) (a : AirMsdu) (d : Device Priv) : Prop where
  mode : d.iwMode ≠ .monitor
  bssid : d.currentNetwork.bssid = a.bssid
  opens : key.Opens prim d

/-- What `ieee80211_rx` makes of a fragment. -/
def Reassembly.finish {P : Type} (env : RxEnv) (last : LastFrame) : Reassembly P → ℕ × World P
  | .dropped w => (0, w)
  | .stored w => (1, w)
  | .complete fb w => deliver env w fb last true

/-- What `ieee80211_rx` knows of fragment `i`. -/
def AirMsdu.lastFrame (a : AirMsdu) (key : LinkKey) (i : ℕ) (keyidx : Int) : LastFrame :=
  ⟨key.slot, keyidx, fragFc a.encrypt a.infra (i + 1 != a.nrFrags), dataHdr3Len, i, a.dst, a.transmitter⟩

/-- A frame came into the world `w`, in a buffer of its own. -/
structure Arrived {P : Type} (w w' : World P) : Prop where
  fragCache : w'.dev.fragCache = w.dev.fragCache
  kernel : w'.dev.kernel = w.dev.kernel
  mtu : w'.dev.mtu = w.dev.mtu
  nextBuf : w'.nextBuf = w.nextBuf + 1
  msdus : w'.msdus = w.msdus
  others : ∀ fb < w.nextBuf, w'.heap fb = w.heap fb

/-- A frame that came through the duplicate filter and was decrypted. -/
theorem arrived_rxOpen {P : Type} (w : World P) (skb : SkBuff) {d : Device P} (h : SameButFilter d w.dev) :
    Arrived w (rxOpen { w.arrive skb with dev := d } w.nextBuf).2 := by
  have hcrypt := rxOpen_dev { w.arrive skb with dev := d } w.nextBuf
  refine ⟨?_, ?_, ?_, rfl, rfl, fun fb hfb => ?_⟩
  · exact (hcrypt.view Device.fragCache fun _ => rfl).trans (h.view Device.fragCache fun _ _ _ _ => rfl)
  · exact (hcrypt.view Device.kernel fun _ => rfl).trans (h.view Device.kernel fun _ _ _ _ => rfl)
  · exact (hcrypt.view Device.mtu fun _ => rfl).trans (h.view Device.mtu fun _ _ _ _ => rfl)
  · rw [rxOpen_heap, Function.update_of_ne hfb.ne]
    exact Function.update_of_ne hfb.ne _ _

/-- Fragment `i` came into the world `w`, and has been decrypted. -/
structure OpenedIn (prim : Primitives) (key : LinkKey) (a : AirMsdu) (i : ℕ) (w w' : World Priv) : Prop
    extends Arrived w w' where
  peer : Peer prim key a w'.dev
  heard : ∃ frag : UInt16, frag.toNat = i ∧ HeardLast w'.dev a.transmitter frag
  data : (w'.heap w.nextBuf).skb.data = a.header i ++ a.piece i

section

variable {prim : Primitives} {key : LinkKey} {a : AirMsdu} {env : RxEnv} {w : World Priv} {d d' : Device Priv}
  {skb : SkBuff} {b : BufId} {i : ℕ}

theorem Peer.congr (h : Peer prim key a d) (hmode : d'.iwMode = d.iwMode)
    (hnet : d'.currentNetwork = d.currentNetwork) (hopens : key.Opens prim d') : Peer prim key a d' :=
  ⟨fun hmon => h.mode (hmode.symm.trans hmon), (congrArg Network.bssid hnet).trans h.bssid, hopens⟩

theorem Peer.filtered (h : Peer prim key a d) (hsame : SameButFilter d' d) : Peer prim key a d' :=
  h.congr (hsame.view Device.iwMode fun _ _ _ _ => rfl) (hsame.view Device.currentNetwork fun _ _ _ _ => rfl)
    (h.opens.congr (hsame.view Device.crypt fun _ _ _ _ => rfl) (hsame.view Device.hostDecrypt fun _ _ _ _ => rfl))

variable (henc : a.encrypt = key.slot.isSome) (hi : i < a.nrFrags)

include henc hi

/-- A sealed fragment is admitted, if it passes the duplicate filter. -/
theorem rxAdmit_sealed (h : Peer prim key a d) (hseal : key.Seals prim (a.header i) (a.piece i) skb.data)
    (hfresh : (isDuplicatePacket env d skb.data).1 = false) :
    rxAdmit env d skb = .data (isDuplicatePacket env d skb.data).2 := by
  obtain ⟨rest, hdata⟩ := hseal.starts
  obtain ⟨htype, hstype, hprot, -, hds, hhdrlen⟩ := a.header_flags hi rest
  have hlong : dataHdr3Len ≤ skb.len := by
    rw [SkBuff.len, hdata, List.length_append, a.length_header]
    exact Nat.le_add_right _ _
  rw [← hdata] at htype hstype hprot hds hhdrlen
  have hten : ¬ skb.len < 10 := not_lt.mpr (le_trans (by decide) hlong)
  have hkeyed : ¬ (d.hostDecrypt = true ∧ decryptSlot d skb = none ∧ isProtected (frameCtl skb.data) = true) := by
    rw [decryptSlot_sealed h.opens hseal (a.length_header i) hhdrlen, hprot, henc]
    rintro ⟨-, hnone, hsome⟩
    rw [hnone] at hsome
    cases hsome
  have hpass : ¬ (isDuplicatePacket env d skb.data).1 = true := by
    rw [hfresh]
    decide
  have hdata' : fcType (frameCtl skb.data) ≠ ftypeMgmt := by
    rw [htype]
    decide
  have hthree : ¬ (dsBits (frameCtl skb.data) = fctlFromds ||| fctlTods ∧ skb.len < dataHdr4Len) := by
    rw [hds]
    rintro ⟨hboth, -⟩
    revert hboth
    cases a.infra <;> decide
  have hcarries : ¬ fcStype (frameCtl skb.data) ∉ [stypeData, stypeDataCfack, stypeDataCfpoll, stypeDataCfackpoll] := by
    rw [hstype]
    decide
  have hnet : ¬ (rxAddrs (isDuplicatePacket env d skb.data).2 skb.data).2.2 ≠
      (isDuplicatePacket env d skb.data).2.currentNetwork.bssid := by
    have haddrs := a.rxAddrs_header (isDuplicatePacket env d skb.data).2 hi rest
    rw [← hdata] at haddrs
    rw [haddrs, isDuplicatePacket_bssid, h.bssid]
    exact not_not_intro rfl
  unfold rxAdmit
  dsimp only
  rw [if_neg hten, if_neg h.mode, if_neg hkeyed, if_neg (not_lt.mpr hlong), if_neg hpass, if_neg hdata',
    if_neg hthree, if_neg hcarries, if_neg hnet]

/-- Its decryption. -/
theorem rxOpen_sealed (h : Peer prim key a w.dev) (hseal : key.Seals prim (a.header i) (a.piece i) (w.heap b).skb.data) :
    (∃ keyidx : Int, 0 ≤ keyidx ∧ (rxOpen w b).1 = a.lastFrame key i keyidx) ∧
      (openedSkb w b).data = a.header i ++ a.piece i ∧ Peer prim key a (rxOpen w b).2.dev := by
  obtain ⟨rest, hdata⟩ := hseal.starts
  obtain ⟨hfc, -, -, hfrag⟩ := a.header_fields hi rest
  obtain ⟨-, -, hprot, -, -, hhdrlen⟩ := a.header_flags hi rest
  have haddrs := a.rxAddrs_header w.dev hi rest
  rw [← hdata] at hfc hfrag hprot hhdrlen haddrs
  have hslot := decryptSlot_sealed h.opens hseal (a.length_header i) hhdrlen
  obtain ⟨hret, hopen, hkept⟩ := rxFrameDecrypt_sealed h.opens hseal (a.length_header i) hhdrlen
  -- without a key nothing is decrypted
  have hopened : rxOpened w b = rxFrameDecrypt w.dev (w.heap b).skb key.slot := by
    unfold rxOpened
    rw [hslot, Device.opens, hprot, henc]
    cases hkey : key.slot with
    | none => exact ite_eq_right_iff.mpr fun hno => absurd hno (by simp)
    | some idx =>
      have hhost : w.dev.hostDecrypt = true := h.opens.host (by rw [hkey]; rfl)
      rw [hhost]
      rfl
  have hdev : (rxOpen w b).2.dev = (rxFrameDecrypt w.dev (w.heap b).skb key.slot).2.2 :=
    congrArg (fun r => r.2.2) hopened
  have hsame := rxFrameDecrypt_same w.dev (w.heap b).skb key.slot
  refine ⟨⟨(rxFrameDecrypt w.dev (w.heap b).skb key.slot).1, hret, ?_⟩, ?_, ?_⟩
  · have hlast : (rxOpen w b).1 = ⟨decryptSlot w.dev (w.heap b).skb, (rxOpened w b).1, frameCtl (w.heap b).skb.data,
        getHdrlen (frameCtl (w.heap b).skb.data), fragOf (w.heap b).skb.data, (rxAddrs w.dev (w.heap b).skb.data).1,
        (rxAddrs w.dev (w.heap b).skb.data).2.1⟩ := rfl
    have hnr : fragOf (w.heap b).skb.data = i := hfrag
    rw [hlast, hslot, hopened, hhdrlen, hnr, haddrs, hfc]
    rfl
  · rw [openedSkb, hopened]
    exact hopen
  · rw [hdev]
    exact h.congr (hsame.view Device.iwMode fun _ => rfl) (hsame.view Device.currentNetwork fun _ => rfl) hkept

/-- **One frame**: the fragment is opened, and goes on to reassembly or, if it is
all of the MSDU, to the delivery. -/
theorem rx_sealed (mgt : RxMgt Priv) (h : Peer prim key a w.dev)
    (hseal : key.Seals prim (a.header i) (a.piece i) skb.data)
    (hfresh : (isDuplicatePacket env w.dev skb.data).1 = false) :
    ∃ (keyidx : Int) (w' : World Priv), OpenedIn prim key a i w w' ∧
      rx mgt env (w.arrive skb) w.nextBuf =
        if a.nrFrags = 1 then deliver env w' w.nextBuf (a.lastFrame key i keyidx) false
        else (appendFragment env w' w.nextBuf (a.lastFrame key i keyidx)).finish env (a.lastFrame key i keyidx) := by
  obtain ⟨rest, hdata⟩ := hseal.starts
  have hadmit := rxAdmit_sealed henc hi h hseal hfresh
  have hdup := isDuplicatePacket_same env w.dev skb.data
  have hheard := heardLast_passed hfresh
  set d₁ := (isDuplicatePacket env w.dev skb.data).2 with hd₁
  set w₁ : World Priv := { w.arrive skb with dev := d₁ } with hw₁
  have hbuf : w₁.heap w.nextBuf = ⟨skb, []⟩ := arrive_buf w skb
  have hpeer : Peer prim key a w₁.dev := h.filtered hdup
  have hseal₁ : key.Seals prim (a.header i) (a.piece i) (w₁.heap w.nextBuf).skb.data := by
    rw [hbuf]
    exact hseal
  obtain ⟨⟨keyidx, hpos, hlast⟩, hopen, hpeer'⟩ := rxOpen_sealed henc hi hpeer hseal₁
  have hcrypt := rxOpen_dev w₁ w.nextBuf
  obtain ⟨-, htrans, -, hnum⟩ := a.header_fields hi rest
  rw [← hdata] at htrans hnum
  refine ⟨keyidx, (rxOpen w₁ w.nextBuf).2, ⟨arrived_rxOpen w skb hdup, hpeer', ⟨_, hnum, ?_⟩, ?_⟩, ?_⟩
  · rw [htrans] at hheard
    exact hheard.congr (hcrypt.view Device.iwMode fun _ => rfl) (hcrypt.view Device.lastFragNum fun _ => rfl)
      (hcrypt.view Device.ibssMacHash fun _ => rfl)
  · rw [rxOpen_heap, Function.update_self]
    exact hopen
  · have hrx : rx mgt env (w.arrive skb) w.nextBuf = rxData env w₁ w.nextBuf := by
      have hadmit' : rxAdmit env (w.arrive skb).dev skb = .data d₁ := hadmit
      rw [rx, arrive_buf]
      dsimp only
      rw [hadmit']
    have hkey : (rxOpen w₁ w.nextBuf).1.keyidx = keyidx := congrArg LastFrame.keyidx hlast
    have hfrag : isFragment (w₁.heap w.nextBuf).skb.data = (a.nrFrags != 1) := by
      rw [hbuf]
      change isFragment skb.data = _
      rw [hdata]
      exact a.isFragment_header hi rest
    rw [hrx]
    rcases rxData_cases env w₁ w.nextBuf with ⟨hneg, -⟩ | ⟨-, hwhole, hr⟩ | ⟨-, hpart, hr⟩
    · rw [hkey] at hneg
      omega
    · have hone : a.nrFrags = 1 := by simpa [hfrag] using hwhole
      rw [hr, hlast, if_pos hone]
    · have hmany : ¬ a.nrFrags = 1 := by simpa [hfrag] using hpart
      rw [hr, hlast, if_neg hmany]
      cases appendFragment env (rxOpen w₁ w.nextBuf).2 w.nextBuf (a.lastFrame key i keyidx) <;> rfl

end

/-! ### Fragment by fragment -/

/-- The Ethernet frame of the MSDU. -/
def AirMsdu.ether (a : AirMsdu) : List UInt8 := a.dst.toList ++ a.transmitter.toList ++ etherPayload a.body

/-- The peer has the fragments up to `i`, in buffer `fb`, and the first came at `t`. -/
structure Halfway (prim : Primitives) (key : LinkKey) (a : AirMsdu) (fb : BufId) (t hz : UInt64) (i : ℕ)
    (w : World Priv) : Prop where
  peer : Peer prim key a w.dev
  heard : ∃ frag : UInt16, frag.toNat = i ∧ HeardLast w.dev a.transmitter frag
  hz_eq : w.dev.kernel.hz = hz
  gathers : Gathers a.fragKey fb t i w
  data : (w.heap fb).skb.data = a.header 0 ++ a.body.take ((i + 1) * a.bytesPerFrag)
  room : dataHdr3Len + a.body.length ≤ (w.heap fb).skb.len + (w.heap fb).skb.tailroom

section

variable {prim : Primitives} {key : LinkKey} {a : AirMsdu} {env : RxEnv} {w w' : World Priv} {skb : SkBuff}
  {fb b : BufId} {i : ℕ} {t hz : UInt64} {keyidx : Int}

theorem len_put {bs : List UInt8} (h : bs.length ≤ skb.tailroom) :
    (skb.put bs).len + (skb.put bs).tailroom = skb.len + skb.tailroom := by
  rw [SkBuff.tailroom_put, SkBuff.len, SkBuff.put_data, List.length_append]
  unfold SkBuff.len
  omega

/-- The first fragment is copied with its header, the others without. -/
theorem bytes_lastFrame (hdata : skb.data = a.header i ++ a.piece i) :
    (a.lastFrame key i keyidx).bytes skb = if i = 0 then a.header 0 ++ a.piece 0 else a.piece i := by
  change (if i = 0 then skb.data else skb.data.drop dataHdr3Len) = _
  rw [hdata, List.drop_left' (a.length_header i)]
  by_cases hzero : i = 0
  · subst hzero
    rfl
  · rw [if_neg hzero, if_neg hzero]

/-- What stays when only the cache and the buffers change. -/
theorem OpenedIn.fromCache (h : OpenedIn prim key a i w w') {w'' : World Priv} (hfrom : FromCache w'' w') :
    Peer prim key a w''.dev ∧ (∃ frag : UInt16, frag.toNat = i ∧ HeardLast w''.dev a.transmitter frag) ∧
      w''.dev.kernel = w.dev.kernel ∧ w''.msdus = w.msdus := by
  have hmode := hfrom.view Device.iwMode fun _ => rfl
  obtain ⟨frag, hfrag, hheard⟩ := h.heard
  refine ⟨h.peer.congr hmode (hfrom.view Device.currentNetwork fun _ => rfl) (h.peer.opens.congr
    (hfrom.view Device.crypt fun _ => rfl) (hfrom.view Device.hostDecrypt fun _ => rfl)), ⟨frag, hfrag, ?_⟩, ?_, ?_⟩
  · exact hheard.congr hmode (hfrom.view Device.lastFragNum fun _ => rfl) (hfrom.view Device.ibssMacHash fun _ => rfl)
  · exact (hfrom.view Device.kernel fun _ => rfl).trans h.kernel
  · exact hfrom.msdus.trans h.msdus

/-- The buffer of the fragment, as the fragment path reads it. -/
theorem OpenedIn.fields (h : OpenedIn prim key a i w w') (hi : i < a.nrFrags) :
    FragKey.ofHdr (w'.heap w.nextBuf).skb.data = a.fragKey ∧ fragOf (w'.heap w.nextBuf).skb.data = i := by
  obtain ⟨-, -, hkey, hfrag⟩ := a.header_fields hi (a.piece i)
  rw [h.data]
  exact ⟨hkey, hfrag⟩

/-- A fragment that was stored is not freed. -/
theorem receive_stored {P : Type} {w w' : World P} {mgt : RxMgt P}
    (h : rx mgt env (w.arrive skb) w.nextBuf = (1, w')) : (receive mgt env w skb).2 = w' := by
  unfold receive
  rw [h]
  rfl

theorem moreFrags_lastFrame : moreFrags (a.lastFrame key i keyidx).fc = (i + 1 != a.nrFrags) :=
  (fragFc_flags _ _ _).2.2.2.1

/-- **The first fragment** of several. -/
theorem receive_first (mgt : RxMgt Priv) (henc : a.encrypt = key.slot.isSome) (hmany : 1 < a.nrFrags)
    (h : Peer prim key a w.dev) (hun : Unheld a.fragKey w.dev.fragCache.entries)
    (hroom : dataHdr3Len + a.body.length ≤ (SkBuff.devAllocSkb (fragBufSize w.dev.mtu)).tailroom)
    (halloc : env.skbAlloc = true)
    (hseal : key.Seals prim (a.header 0) (a.piece 0) skb.data)
    (hfresh : (isDuplicatePacket env w.dev skb.data).1 = false) :
    Halfway prim key a (w.nextBuf + 1) env.now w.dev.kernel.hz 0 (receive mgt env w skb).2 ∧
      (receive mgt env w skb).2.msdus = w.msdus := by
  obtain ⟨keyidx, w', ho, hrx⟩ := rx_sealed henc a.pos mgt h hseal hfresh
  obtain ⟨hkey, hfrag⟩ := ho.fields a.pos
  have hbytes : (a.lastFrame key 0 keyidx).bytes (w'.heap w.nextBuf).skb = a.header 0 ++ a.piece 0 :=
    bytes_lastFrame ho.data
  have hun' : Unheld a.fragKey w'.dev.fragCache.entries := by
    rw [ho.fragCache]
    exact hun
  have hlt : w.nextBuf < w'.nextBuf := by
    rw [ho.nextBuf]
    exact Nat.lt_succ_self _
  have hmore : moreFrags (a.lastFrame key 0 keyidx).fc = true := by
    rw [moreFrags_lastFrame]
    simpa using hmany.ne
  have hfits : dataHdr3Len + a.body.length ≤ (SkBuff.devAllocSkb (fragBufSize w'.dev.mtu)).tailroom := by
    rw [ho.mtu]
    exact hroom
  have hlen : (a.header 0 ++ a.piece 0).length ≤ (SkBuff.devAllocSkb (fragBufSize w'.dev.mtu)).tailroom := by
    refine le_trans ?_ hfits
    rw [List.length_append, a.length_header, a.piece_zero]
    exact Nat.add_le_add_left (List.length_take_le' _ _) _
  rcases @appendFragment_first Priv env w' w.nextBuf (a.lastFrame key 0 keyidx) _ hun' hkey hfrag hlt hmore with
    ⟨-, -, w'', hr, hfrom, hgathers, hskb⟩ | ⟨hno, -⟩
  · rw [if_neg hmany.ne', hr] at hrx
    rw [receive_stored hrx]
    obtain ⟨hpeer, hheard, hkernel, hmsdus⟩ := ho.fromCache hfrom
    rw [ho.nextBuf] at hgathers hskb
    rw [hbytes] at hskb
    refine ⟨⟨hpeer, hheard, congrArg KernelConfig.hz hkernel, hgathers, ?_, ?_⟩, hmsdus⟩
    · rw [hskb, SkBuff.put_data, a.piece_zero]
      rfl
    · rw [hskb, len_put hlen]
      exact hfits.trans (Nat.le_add_left _ _)
  · refine absurd ⟨halloc, ?_⟩ hno
    rw [hbytes]
    exact hlen

/-- The whole MSDU is delivered. -/
theorem deliver_sealed (henc : a.encrypt = key.slot.isSome) (hheld : key.Held prim w.dev)
    (hdata : (w.heap fb).skb.data = a.header 0 ++ a.body) (env : RxEnv) (i : ℕ) (keyidx : Int) (reassembled : Bool) :
    ∃ m, (deliver env w fb (a.lastFrame key i keyidx) reassembled).2.msdus = w.msdus ++ [(fb, m)] ∧ m.eth = a.ether := by
  have hprot : isProtected (a.lastFrame key i keyidx).fc = key.slot.isSome :=
    (fragFc_flags _ _ _).2.2.1.trans henc
  have hcheck : checkMsdu w fb (a.lastFrame key i keyidx) = (0, (w.heap fb).skb, w.dev) := by
    unfold checkMsdu
    split_ifs
    · exact rxFrameDecryptMsdu_key hheld _ _
    · rfl
  have hacc : Accepts w fb (a.lastFrame key i keyidx) := by
    rw [Accepts, hcheck]
    refine ⟨rfl, ?_⟩
    have hslot : (a.lastFrame key i keyidx).slot = key.slot := rfl
    rw [rejectsClear, hprot, hslot]
    cases key.slot.isSome <;> rfl
  have hle : dataHdr3Len ≤ (w.heap fb).skb.len := by
    rw [SkBuff.len, hdata, List.length_append, a.length_header]
    exact Nat.le_add_right _ _
  refine ⟨msduOf w fb (a.lastFrame key i keyidx) reassembled, ?_, ?_⟩
  · rw [deliver_msdus, if_pos hacc]
  · calc (msduOf w fb (a.lastFrame key i keyidx) reassembled).eth
        = (toEthernet (w.heap fb).skb dataHdr3Len a.dst a.transmitter).data := by
          rw [msduOf, hcheck]
          rfl
      _ = a.ether := by
          rw [toEthernet_data hle, hdata, List.drop_left' (a.length_header 0)]
          rfl

/-- **A later fragment**: the last one completes the MSDU. -/
theorem receive_next (mgt : RxMgt Priv) (henc : a.encrypt = key.slot.isSome) (hi : i + 1 < a.nrFrags)
    (h : Halfway prim key a fb t hz i w) (htime : timeAfter env.now (t + 2 * hz) = false)
    (hseal : key.Seals prim (a.header (i + 1)) (a.piece (i + 1)) skb.data) :
    let w' := (receive mgt env w skb).2
    if i + 1 + 1 = a.nrFrags then ∃ m, w'.msdus = w.msdus ++ [(fb, m)] ∧ m.eth = a.ether
    else Halfway prim key a fb t hz (i + 1) w' ∧ w'.msdus = w.msdus := by
  obtain ⟨rest, hframe⟩ := hseal.starts
  obtain ⟨frag, hfragNat, hheard⟩ := h.heard
  have hfresh : (isDuplicatePacket env w.dev skb.data).1 = false := by
    obtain ⟨-, htrans, -, hnum⟩ := a.header_fields hi rest
    rw [← hframe] at htrans hnum
    rw [← htrans] at hheard
    exact passes_next hheard (hnum.trans (congrArg (· + 1) hfragNat.symm))
  obtain ⟨keyidx, w₁, ho, hrx⟩ := rx_sealed henc hi mgt h.peer hseal hfresh
  obtain ⟨hkey, hfrag⟩ := ho.fields hi
  have hmany : a.nrFrags ≠ 1 := by omega
  rw [if_neg hmany] at hrx
  have hbytes : (a.lastFrame key (i + 1) keyidx).bytes (w₁.heap w.nextBuf).skb = a.piece (i + 1) :=
    bytes_lastFrame ho.data
  have hheap : w₁.heap fb = w.heap fb := ho.others fb h.gathers.lt
  have hgathers : Gathers a.fragKey fb t i w₁ := by
    refine ⟨?_, ?_⟩
    · rw [ho.fragCache]
      exact h.gathers.entry
    · rw [ho.nextBuf]
      exact Nat.lt_succ_of_lt h.gathers.lt
  have hroom : (a.piece (i + 1)).length ≤ (w.heap fb).skb.tailroom := by
    have hlen := congrArg List.length (a.take_piece i)
    have hmax := List.length_take_le' ((i + 1 + 1) * a.bytesPerFrag) a.body
    have hold := h.room
    rw [SkBuff.len, h.data, List.length_append, a.length_header] at hold
    rw [List.length_append] at hlen
    omega
  have hkept : ∀ bytes, FragKey.ofHdr ((w₁.heap fb).skb.data ++ bytes) = a.fragKey := by
    intro bytes
    rw [hheap, h.data, List.append_assoc]
    exact (a.header_fields a.pos _).2.2.1
  have hne : fragOf (w₁.heap w.nextBuf).skb.data ≠ 0 := by
    rw [hfrag]
    exact Nat.succ_ne_zero i
  rcases @appendFragment_next Priv env w₁ w.nextBuf fb (a.lastFrame key (i + 1) keyidx) _ _ _ hgathers hkey hne
      hkept with
    ⟨-, w₂, hfrom, hskb, hres⟩ | ⟨hno, -⟩
  · obtain ⟨hpeer, hheard', hkernel, hmsdus⟩ := ho.fromCache hfrom
    rw [hbytes, hheap] at hskb
    have hdata : (w₂.heap fb).skb.data = a.header 0 ++ a.body.take ((i + 1 + 1) * a.bytesPerFrag) := by
      rw [hskb, SkBuff.put_data, h.data, List.append_assoc, a.take_piece]
    intro w'
    rw [moreFrags_lastFrame] at hres
    by_cases hlast : i + 1 + 1 = a.nrFrags
    · rw [if_neg (by simp [hlast])] at hres
      rw [if_pos hlast]
      have hwhole : (w₂.heap fb).skb.data = a.header 0 ++ a.body := by
        rw [hdata, hlast, a.take_all]
      obtain ⟨m, hm, heth⟩ := deliver_sealed henc hpeer.opens.held hwhole env (i + 1) keyidx true
      refine ⟨m, ?_, heth⟩
      change (receive mgt env w skb).2.msdus = _
      rw [msdus_receive, hrx, hres.1, ← hmsdus]
      exact hm
    · rw [if_pos (by simpa using hlast)] at hres
      rw [if_neg hlast]
      have hw' : w' = w₂ := receive_stored (by rw [hrx, hres.1]; rfl)
      rw [hw']
      refine ⟨⟨hpeer, hheard', (congrArg KernelConfig.hz hkernel).trans h.hz_eq, hres.2, hdata, ?_⟩, hmsdus⟩
      rw [hskb, len_put hroom]
      exact h.room
  · refine absurd ⟨?_, hfrag, ?_⟩ hno
    · rw [ho.kernel, h.hz_eq]
      exact htime
    · rw [hbytes, hheap]
      exact hroom

/-- The frame as an input of the peer. -/
def frameInput (i : RxEnv × SkBuff) : RxInput Priv := .frame i.1 i.2

/-- **The receiver's half, from a fragment on.** By induction on the frames that are
still to come. -/
theorem run_rest (mgt : RxMgt Priv) (henc : a.encrypt = key.slot.isSome) {is : List (RxEnv × SkBuff)} {j : ℕ}
    (hair : OnAir (key.Seals prim) a j is) : ∀ {i : ℕ} {w : World Priv}, j = i + 1 → Halfway prim key a fb t hz i w →
    (∀ e ∈ is, timeAfter e.1.now (t + 2 * hz) = false) →
    ∃ m, (Run.run (World.step mgt) w (is.map frameInput)).msdus = w.msdus ++ [(fb, m)] ∧ m.eth = a.ether := by
  induction hair with
  | @last j env skb hlast hseal =>
    rintro i w rfl h htime
    have hnext := receive_next mgt henc (by omega) h (htime _ List.mem_cons_self) hseal
    dsimp only at hnext
    rw [if_pos hlast] at hnext
    exact hnext
  | @more j env skb is hmore hseal _ ih =>
    rintro i w rfl h htime
    have hnext := receive_next mgt henc (by omega) h (htime _ List.mem_cons_self) hseal
    dsimp only at hnext
    rw [if_neg hmore.ne] at hnext
    obtain ⟨hhalf, hmsdus⟩ := hnext
    obtain ⟨m, hm, heth⟩ := ih rfl hhalf fun e he => htime e (List.mem_cons_of_mem _ he)
    rw [hmsdus] at hm
    exact ⟨m, hm, heth⟩

/-- What a frame in several fragments needs besides: no unfinished MSDU of its
number, a buffer with room for it, and that all come within two seconds. -/
structure Gatherable (a : AirMsdu) (w : World Priv) (is : List (RxEnv × SkBuff)) : Prop where
  unheld : Unheld a.fragKey w.dev.fragCache.entries
  room : dataHdr3Len + a.body.length ≤ (SkBuff.devAllocSkb (fragBufSize w.dev.mtu)).tailroom
  alloc : ∀ first ∈ is.head?, first.1.skbAlloc = true
  inTime : ∀ first ∈ is.head?, ∀ i ∈ is.tail, timeAfter i.1.now (first.1.now + 2 * w.dev.kernel.hz) = false

/-- **The receiver's half.** -/
theorem run_onAir (mgt : RxMgt Priv) (henc : a.encrypt = key.slot.isSome) (h : Peer prim key a w.dev)
    {is : List (RxEnv × SkBuff)} (hair : OnAir (key.Seals prim) a 0 is)
    (hfresh : ∀ i ∈ is.head?, (isDuplicatePacket i.1 w.dev i.2.data).1 = false)
    (hrest : 1 < a.nrFrags → Gatherable a w is) :
    ∃ b m, (Run.run (World.step mgt) w (is.map frameInput)).msdus = w.msdus ++ [(b, m)] ∧ m.eth = a.ether := by
  cases hair with
  | @last _ env skb hlast hseal =>
    have hone : a.nrFrags = 1 := hlast.symm
    obtain ⟨keyidx, w', ho, hrx⟩ := rx_sealed henc a.pos mgt h hseal (hfresh _ rfl)
    have hwhole : (w'.heap w.nextBuf).skb.data = a.header 0 ++ a.body := by
      have hall : a.body.take ((0 + 1) * a.bytesPerFrag) = a.body := by
        rw [Nat.zero_add, ← hone]
        exact a.take_all
      rw [ho.data, a.piece_zero, hall]
    obtain ⟨m, hm, heth⟩ := deliver_sealed henc ho.peer.opens.held hwhole env 0 keyidx false
    refine ⟨w.nextBuf, m, ?_, heth⟩
    rw [if_pos hone] at hrx
    change (receive mgt env w skb).2.msdus = _
    rw [msdus_receive, hrx, ← ho.msdus]
    exact hm
  | @more _ env skb is hmany hseal hair =>
    obtain ⟨hun, hroom, halloc, htime⟩ := hrest hmany
    obtain ⟨hhalf, hmsdus⟩ := receive_first mgt henc hmany h hun hroom (halloc _ rfl) hseal (hfresh _ rfl)
    obtain ⟨m, hm, heth⟩ := run_rest mgt henc hair rfl hhalf (htime _ rfl)
    rw [hmsdus] at hm
    exact ⟨_, m, hm, heth⟩

end

/-! ### The frame is what it was -/

/-- Behind a SNAP header of `ieee80211_put_snap` there is the EtherType. -/
theorem etherPayload_putSnap (proto : UInt16) (payload : List UInt8) :
    etherPayload (putSnap proto ++ payload) = be16 proto ++ payload := by
  have hlen : 8 ≤ (putSnap proto ++ payload).length := by
    rw [List.length_append, length_putSnap]
    exact Nat.le_add_right _ _
  by_cases hproto : proto = 0x8137 ∨ proto = 0x80f3
  · have hsnap : putSnap proto = bridgeTunnelHeader ++ be16 proto := by
      rw [putSnap, if_pos hproto]
      rfl
    unfold etherPayload
    dsimp only
    rw [hsnap, if_pos]
    · rfl
    · rw [hsnap] at hlen
      exact ⟨hlen, Or.inr rfl⟩
  · have hsnap : putSnap proto = rfc1042Header ++ be16 proto := by
      rw [putSnap, if_neg hproto]
      rfl
    obtain ⟨hipx, haarp⟩ := not_or.mp hproto
    have htype : getBe16 (rfc1042Header ++ be16 proto ++ payload) 6 = proto := mk16_hi8_lo8 proto
    unfold etherPayload
    dsimp only
    rw [hsnap, htype, if_pos]
    · rfl
    · rw [hsnap] at hlen
      exact ⟨hlen, Or.inl ⟨rfl, haarp, hipx⟩⟩

/-- An Ethernet frame is its addresses, its type and its payload. -/
theorem etherFrame_split (eth : EtherFrame) : eth.skb.data = (Mac.read eth.skb.mem 0).toList ++
    (Mac.read eth.skb.mem 6).toList ++ (be16 (etherType eth.skb) ++ (xmitPayload eth.skb).data) := by
  have hmin : 14 ≤ eth.skb.data.length := eth.min_le
  have hmem : eth.skb.mem.length = eth.skb.data.length + eth.skb.behind.length := List.length_append
  have hslice : ∀ {i n : ℕ}, i + n ≤ 14 → slice i n eth.skb.mem = slice i n eth.skb.data :=
    fun h => slice_append_left _ (h.trans hmin)
  have hpay : (xmitPayload eth.skb).data = eth.skb.data.drop 14 := SkBuff.pull_data hmin
  rw [etherType, be16_getBe16 (by omega), toList_read (by omega), toList_read (by omega), hslice (by decide),
    hslice (by decide), hslice (by decide), hpay, ← List.append_assoc, ← slice_add, ← slice_add, slice, List.drop_zero,
    List.take_append_drop]

/-- **The MSDU is the frame.** -/
theorem ether_airMsdu {d : Device Priv} (hmode : d.iwMode = .infra ∨ d.iwMode = .adhoc) (eth : EtherFrame) :
    (airMsdu d eth).ether = eth.skb.data ∧ (airMsdu d eth).bssid = d.currentNetwork.bssid := by
  have hbody : etherPayload (airMsdu d eth).body = be16 (etherType eth.skb) ++ (xmitPayload eth.skb).data :=
    etherPayload_putSnap _ _
  have haddrs : (airMsdu d eth).dst = Mac.read eth.skb.mem 0 ∧ (airMsdu d eth).transmitter = Mac.read eth.skb.mem 6 ∧
      (airMsdu d eth).bssid = d.currentNetwork.bssid := by
    unfold AirMsdu.dst AirMsdu.bssid airMsdu xmitMacs
    rcases hmode with hm | hm
    · rw [hm]
      exact ⟨rfl, rfl, rfl⟩
    · rw [hm]
      exact ⟨rfl, rfl, rfl⟩
  obtain ⟨hdst, hsrc, hbssid⟩ := haddrs
  exact ⟨by rw [AirMsdu.ether, hdst, hsrc, hbody, ← etherFrame_split], hbssid⟩

/-- A sender and a peer: of one network, with one key, and the fragments of a frame
that the one hands on come to the other, unchanged and in order. EAPOL frames are
sent in clear. Nothing in the driver sets `config`, which asks for no FCS. -/
structure Linked (prim : Primitives) (key : LinkKey) (d : Device Priv) (env : Env) (eth : EtherFrame) (txb : Txb)
    (w : World Priv) (is : List (RxEnv × SkBuff)) : Prop where
  mode : d.iwMode = .infra ∨ d.iwMode = .adhoc
  sends : key.Sends prim d
  eapol : key.slot.isSome = true → etherType eth.skb ≠ ethPPae
  configFcs : d.configFcs = false
  handed : txb ∈ (xmitTxb env d eth.skb).2.1
  pos : 0 < txb.nrFrags
  fed : is.map (·.2.data) = txb.frames
  peerMode : w.dev.iwMode ≠ .monitor
  peerBssid : w.dev.currentNetwork.bssid = d.currentNetwork.bssid
  opens : key.Opens prim w.dev
  fresh : ∀ i ∈ is.head?, (isDuplicatePacket i.1 w.dev i.2.data).1 = false

/-- The peer delivers this frame and nothing else. -/
def Delivers (mgt : RxMgt Priv) (w : World Priv) (is : List (RxEnv × SkBuff)) (eth : EtherFrame) : Prop :=
  ∃ b m, (Run.run (World.step mgt) w (is.map frameInput)).msdus = w.msdus ++ [(b, m)] ∧ m.eth = eth.skb.data

/-- **From one station to another.** Whatever the sender has sent before, and whatever
the peer has received, the peer delivers the frame as it was. -/
theorem xmit_rx_round_trip (prim : Primitives) (kernel : KernelConfig) (devAddr : Mac) (sent : List (SendInput prim))
    (key : LinkKey) (env : Env) (eth : EtherFrame) (txb : Txb) (mgt : RxMgt Priv) (w : World Priv)
    (is : List (RxEnv × SkBuff)) :
    let d := Run.run SendInput.step (Device.init Priv kernel devAddr) sent
    Linked prim key d env eth txb w is → (1 < txb.nrFrags → Gatherable (airMsdu d eth) w is) →
      Delivers mgt w is eth := by
  intro d h hrest
  have hready : SendReady prim d := sendReady_run kernel devAddr sent
  rcases xmitTxb_some h.handed with hzero | ⟨htxb, -⟩
  · exact absurd hzero h.pos.ne'
  subst htxb
  have henc : (airMsdu d eth).encrypt = key.slot.isSome := encrypts_sends h.sends h.eapol
  obtain ⟨hether, hbssid⟩ := ether_airMsdu h.mode eth
  have hpeer : Peer prim key (airMsdu d eth) w.dev := ⟨h.peerMode, h.peerBssid.trans hbssid.symm, h.opens⟩
  have hair := onAir_xmit hready h.sends h.configFcs h.eapol h.fed
  obtain ⟨b, m, hm, heth⟩ := run_onAir mgt henc hpeer hair h.fresh hrest
  exact ⟨b, m, hm, heth.trans hether⟩

/-! ### A frame in two fragments -/

section

abbrev quietEnv (now : UInt64) (skbAlloc : Bool) : RxEnv :=
  ⟨⟨now, skbAlloc, fun _ => false, ⟨0, 0, 0, 0, 0, 0⟩⟩, now, true⟩

abbrev earlyEnv : RxEnv := quietEnv 5000 true

abbrev homeMac : Mac := ⟨2, 0, 0, 0, 0, 1⟩

private abbrev wepData (iv : UInt32) : CryptData Priv :=
  ⟨some (wepOps linuxPrimitives), .wep ⟨iv, [1, 2, 3, 4, 5], 0, by decide⟩⟩

private abbrev setWep : SendInput linuxPrimitives :=
  .setKey 0 (some (wepData 0)) fun _ hc _ hops => by
    cases hc
    cases hops
    exact List.mem_cons_of_mem _ List.mem_cons_self

/-- A sender with a threshold of 256. -/
private abbrev splitter (more : List (SendInput linuxPrimitives)) : Device Priv :=
  Run.run SendInput.step (Device.init Priv ⟨250, true⟩ homeMac) (.setFrag false (some 256) :: more)

private theorem length_longData (b : UInt8) : 14 ≤ (List.replicate 14 8 ++ List.replicate 300 b).length ∧
    (List.replicate 14 8 ++ List.replicate 300 b).length ≤ 14 + 1500 := by
  rw [List.length_append, List.length_replicate, List.length_replicate]
  decide

/-- A frame with 300 bytes of payload. -/
abbrev longFrame (b : UInt8) : EtherFrame :=
  ⟨⟨64, List.replicate 14 8 ++ List.replicate 300 b, []⟩, (length_longData b).1, (length_longData b).2⟩

private abbrev shortFrame : EtherFrame := ⟨⟨64, List.replicate 14 8, []⟩, by decide, by decide⟩

/-- The frames of `txb`: the first comes in `first`, the others in `rest`. -/
def feedFrames (first rest : RxEnv) (txb : Txb) : List (RxEnv × SkBuff) :=
  match txb.frames with
  | [] => []
  | frame :: frames => (first, ⟨0, frame, []⟩) :: frames.map fun frame => (rest, ⟨0, frame, []⟩)

theorem feedFrames_data (first rest : RxEnv) (txb : Txb) : (feedFrames first rest txb).map (·.2.data) = txb.frames := by
  unfold feedFrames
  cases txb.frames with
  | nil => rfl
  | cons frame frames => simp [Function.comp_def]

private theorem feedFrames_env {first rest : RxEnv} {txb : Txb} :
    (∀ i ∈ (feedFrames first rest txb).head?, i.1 = first) ∧ ∀ i ∈ (feedFrames first rest txb).tail, i.1 = rest := by
  unfold feedFrames
  cases txb.frames with
  | nil => exact ⟨nofun, nofun⟩
  | cons frame frames =>
    refine ⟨fun i hi => ?_, fun i hi => ?_⟩
    · cases hi
      rfl
    · obtain ⟨frame, -, rfl⟩ := List.mem_map.mp hi
      rfl

/-- Long after the last frame nothing is a repetition. -/
private theorem fresh_late {d : Device Priv} {env : RxEnv} {hdr : List UInt8} (hmode : d.iwMode = .infra)
    (htime : timeAfter (d.lastPacketTime + ieeePacketRetryTime * d.kernel.hz) env.now = false) :
    (isDuplicatePacket env d hdr).1 = false := by
  unfold isDuplicatePacket
  rw [hmode]
  simp [isRepeat, htime]

private abbrev wepPeer : World Priv := World.start { Device.init Priv ⟨250, true⟩ homeMac with
  crypt := Function.update (fun _ => none) 0 (some (wepData 7)) }

private abbrev wepTxb : Txb := (xmitFragments (splitter [setWep]) (longFrame 8).skb).1

private theorem linked_wep : Linked linuxPrimitives (.wep 0 [1, 2, 3, 4, 5]) (splitter [setWep]) earlyEnv.toEnv (longFrame 8)
    wepTxb wepPeer (feedFrames earlyEnv earlyEnv wepTxb) where
  mode := Or.inl rfl
  sends := ⟨⟨_, rfl, rfl, rfl⟩, rfl, rfl⟩
  eapol _ := by decide +kernel
  configFcs := rfl
  handed := xmitTxb_of_encrypts ⟨rfl, rfl, by decide +kernel, by decide, by decide +kernel⟩
  pos := by decide +kernel
  fed := feedFrames_data _ _ _
  peerMode := by decide
  peerBssid := rfl
  opens := ⟨⟨_, rfl, rfl, rfl⟩, fun _ => rfl⟩
  fresh i hi := fresh_late rfl (by rw [feedFrames_env.1 i hi]; decide)

private theorem gatherable_wep : Gatherable (airMsdu (splitter [setWep]) (longFrame 8)) wepPeer
    (feedFrames earlyEnv earlyEnv wepTxb) where
  unheld e he := by
    cases List.eq_of_mem_replicate he
    exact nofun
  room := by decide +kernel
  alloc i hi := by rw [feedFrames_env.1 i hi]
  inTime first hfirst i hi := by
    rw [feedFrames_env.1 first hfirst, feedFrames_env.2 i hi]
    decide

/-- Two fragments with a WEP key. -/
theorem twoWep_round_trip : wepTxb.nrFrags = 2 ∧
    Delivers (fun _ _ => .idle Priv) wepPeer (feedFrames earlyEnv earlyEnv wepTxb) (longFrame 8) :=
  ⟨by decide +kernel, xmit_rx_round_trip linuxPrimitives ⟨250, true⟩ homeMac [.setFrag false (some 256), setWep]
    (.wep 0 [1, 2, 3, 4, 5]) earlyEnv.toEnv (longFrame 8) wepTxb (fun _ _ => .idle Priv) wepPeer (feedFrames earlyEnv earlyEnv wepTxb)
    linked_wep fun _ => gatherable_wep⟩

private abbrev clearTxb : Txb := (xmitFragments (splitter []) (longFrame 8).skb).1

private abbrev clearPeer : World Priv := World.start (Device.init Priv ⟨250, true⟩ homeMac)

private abbrev smallPeer : World Priv := World.start { Device.init Priv ⟨250, true⟩ homeMac with mtu := 128 }

/-- It has the first of two fragments, and a frame after it. The sender has then
started its numbers anew. -/
private abbrev stalePeer : World Priv := Run.run (World.step fun _ _ => .idle Priv) clearPeer
  [.frame earlyEnv ⟨0, ((xmitFragments (splitter []) (longFrame 10).skb).1.fragments 0).data, []⟩,
    .frame earlyEnv ⟨0, ((xmitFragments (splitter [.mgmt]) shortFrame.skb).1.fragments 0).data, []⟩]

private theorem linked_clear {first rest : RxEnv} {w : World Priv} (hmode : w.dev.iwMode = .infra)
    (hbssid : w.dev.currentNetwork.bssid = ⟨0, 0, 0, 0, 0, 0⟩) (hclear : ∀ idx, (w.dev.cryptOps idx).isNone = true)
    (hfresh : ∀ i ∈ (feedFrames first rest clearTxb).head?, (isDuplicatePacket i.1 w.dev i.2.data).1 = false) :
    Linked linuxPrimitives .clear (splitter []) earlyEnv.toEnv (longFrame 8) clearTxb w (feedFrames first rest clearTxb) where
  mode := Or.inl rfl
  sends := rfl
  eapol := nofun
  configFcs := rfl
  handed := xmitTxb_of_accepts rfl rfl (by decide +kernel) (by decide) (by decide +kernel)
  pos := by decide +kernel
  fed := feedFrames_data _ _ _
  peerMode hmon := nomatch hmode.symm.trans hmon
  peerBssid := hbssid
  opens := ⟨fun idx => Option.isNone_iff_eq_none.mp (hclear idx), nofun⟩
  fresh := hfresh

theorem not_delivers {mgt : RxMgt Priv} {w : World Priv} {is : List (RxEnv × SkBuff)} {eth : EtherFrame}
    (h : (Run.run (World.step mgt) w (is.map frameInput)).msdus.map (·.2.eth) ≠
      w.msdus.map (·.2.eth) ++ [eth.skb.data]) : ¬ Delivers mgt w is eth := by
  rintro ⟨b, m, hm, heth⟩
  rw [hm, List.map_append, ← heth] at h
  exact h rfl

/-- The two fragments come to a peer of the network in order, and it does not
deliver the frame. -/
private def Lost (w : World Priv) (first rest : RxEnv) : Prop :=
  Linked linuxPrimitives .clear (splitter []) earlyEnv.toEnv (longFrame 8) clearTxb w (feedFrames first rest clearTxb) ∧
    ¬ Delivers (fun _ _ => .idle Priv) w (feedFrames first rest clearTxb) (longFrame 8)

/-- The second fragment comes more than two seconds after the first; there is no
memory for the first; the peer's MTU is small; or the peer has the first fragment
of an older MSDU of this number. -/
theorem ungathered_lost : Lost clearPeer earlyEnv (quietEnv 5501 true) ∧ Lost clearPeer (quietEnv 5000 false) earlyEnv ∧
    Lost smallPeer earlyEnv earlyEnv ∧ Lost stalePeer earlyEnv earlyEnv := by
  refine ⟨⟨?_, ?_⟩, ⟨?_, ?_⟩, ⟨?_, ?_⟩, ?_, ?_⟩
  · exact linked_clear rfl rfl (fun _ => rfl) (by decide +kernel)
  · exact not_delivers (by decide +kernel)
  · exact linked_clear rfl rfl (fun _ => rfl) (by decide +kernel)
  · exact not_delivers (by decide +kernel)
  · exact linked_clear rfl rfl (fun _ => rfl) (by decide +kernel)
  · exact not_delivers (by decide +kernel)
  · exact linked_clear (by decide +kernel) (by decide +kernel) (by decide +kernel) (by decide +kernel)
  · exact not_delivers (by decide +kernel)

end

end Rtl8187

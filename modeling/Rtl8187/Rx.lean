/-
# Reception

`ieee80211_rx` (`ieee80211_rx.c`) with its caller, the receive tasklet. The
buffers are kept in a heap under their names; what is done to them outside
(freed, handed to the network stack) is logged. Beside the driver's own state
the world keeps a history that no branch reads: the fragments a buffer was put
together from, under which key installation each was decrypted, and in which
association it came.

Key definitions: `World`, `rxAdmit`, `rxFrameDecrypt`, `fragCacheGet`,
`appendFragment`, `deliver`, `rx`, `receive`, `RxInput`.
-/
import Rtl8187.FragCache
import Rtl8187.Softmac

namespace Rtl8187

open Bytes

variable {P : Type}

/-- What the moment of a call of `ieee80211_rx` settles. -/
structure RxEnv extends Env where
  /-- `jiffies` once the fragment has been copied. -/
  later : UInt64
  /-- Whether `kmalloc` succeeds. -/
  kmalloc : Bool

/-! ### The world -/

/-- A fragment of an MSDU: its frame as it came and after its decryption, the
key slot and the installation in it that decrypted it, the association. -/
structure RxPart where
  frame : List UInt8
  opened : List UInt8
  key : Option (KeyIdx × ℕ)
  assoc : ℕ
  deriving DecidableEq

/-- A buffer, with its history. -/
structure RxBuf where
  skb : SkBuff
  parts : List RxPart

/-- An MSDU on its way to the network stack: the frame control and the header
length of its last frame, the data before the MIC is removed, after that, and
as an Ethernet frame. -/
structure Msdu where
  parts : List RxPart
  reassembled : Bool
  fc : UInt16
  hdrlen : ℕ
  whole : List UInt8
  checked : List UInt8
  eth : List UInt8

/-- What happens to a buffer. -/
inductive RxEvent where
  | kfree (b : BufId)
  | monitor (b : BufId)
  | netifRx (b : BufId) (msdu : Msdu)

structure World (P : Type) where
  dev : Device P
  heap : BufId → RxBuf
  nextBuf : BufId
  log : List RxEvent
  /-- How often a key was installed in each slot. -/
  installs : KeyIdx → ℕ
  /-- How many associations were made. -/
  assocs : ℕ

namespace World

variable (w : World P)

/-- `dev_kfree_skb_any` on each of these. -/
def kfreeAll (bs : List BufId) : World P := { w with log := w.log ++ bs.map .kfree }

def emit (ev : RxEvent) : World P := { w with log := w.log ++ [ev] }

def setBuf (b : BufId) (buf : RxBuf) : World P := { w with heap := Function.update w.heap b buf }

/-- The device changed; an association may have been made. -/
def setDev (d : Device P) : World P :=
  { w with
    dev := d
    assocs := if w.dev.state ≠ .linked ∧ d.state = .linked then w.assocs + 1 else w.assocs }

end World

/-- A device before its first frame. -/
def World.start (d : Device P) : World P :=
  ⟨d, fun _ => ⟨SkBuff.devAllocSkb 0, []⟩, 0, [], fun _ => 0, 0⟩

/-! ### Is it for us -/

/-- `IEEE_PACKET_RETRY_TIME`, in seconds. -/
def ieeePacketRetryTime : UInt64 := 5

/-- The frame repeats the last one, or is out of order. -/
def isRepeat (now hz : UInt64) (lastSeq lastFrag seq frag : UInt16) (lastTime : UInt64) : Bool :=
  lastSeq == seq && timeAfter (lastTime + ieeePacketRetryTime * hz) now &&
    (lastFrag == frag || lastFrag.toNat + 1 != frag.toNat)

/-- `is_duplicate_packet` -/
def isDuplicatePacket (env : RxEnv) (d : Device P) (hdr : List UInt8) : Bool × Device P :=
  let seq := seqSeq (seqCtl hdr)
  let frag := seqFrag (seqCtl hdr)
  match d.iwMode with
  | .adhoc =>
    let mac := addr2 hdr
    let index : Fin ibssMacHashSize := ⟨mac.b5.toNat % ibssMacHashSize, Nat.mod_lt _ (by decide)⟩
    let list := d.ibssMacHash index
    match list.find? (·.mac == mac) with
    | none =>
      (false, if env.kmalloc then
        { d with
          ibssMacHash := Function.update d.ibssMacHash index (⟨mac, seq, frag, env.now⟩ :: list) }
        else d)
    | some e =>
      if isRepeat env.now d.kernel.hz e.seqNum e.fragNum seq frag e.packetTime then (true, d)
      else
        let list' := list.replaceF fun e =>
          if e.mac = mac then some ⟨mac, seq, frag, env.now⟩ else none
        (false, { d with ibssMacHash := Function.update d.ibssMacHash index list' })
  | .infra =>
    if isRepeat env.now d.kernel.hz d.lastSeqNum d.lastFragNum seq frag d.lastPacketTime then (true, d)
    else (false, { d with lastSeqNum := seq, lastFragNum := frag, lastPacketTime := env.now })
  | _ => (false, d)

/-- The slot whose module is to decrypt the frame. The byte that names it is
read even from behind a frame that just lacks it. -/
def decryptSlot (d : Device P) (skb : SkBuff) : Option KeyIdx :=
  let hdrlen := getHdrlen (frameCtl skb.data)
  let idx := if hdrlen + 3 ≤ skb.len then keyIdxOf (skb.byte (hdrlen + 3)) else 0
  if d.hostDecrypt && (d.cryptOps idx).any (·.1.decryptMpdu.isSome) then some idx else none

/-- Destination, source and BSSID of a data frame; a frame with four addresses
is taken for one of our network. -/
def rxAddrs (d : Device P) (hdr : List UInt8) : Mac × Mac × Mac :=
  let ds := dsBits (frameCtl hdr)
  if ds = fctlFromds then (addr1 hdr, addr3 hdr, addr2 hdr)
  else if ds = fctlTods then (addr3 hdr, addr2 hdr, addr1 hdr)
  else if ds = fctlFromds ||| fctlTods then (addr3 hdr, addr4 hdr, d.currentNetwork.bssid)
  else (addr1 hdr, addr2 hdr, addr3 hdr)

/-- What becomes of a frame before any decryption. -/
inductive Admitted (P : Type) where
  | drop (d : Device P)
  | monitor
  | mgmt (d : Device P)
  | data (d : Device P)

/-- `ieee80211_rx` up to the decryption. -/
def rxAdmit (env : RxEnv) (d : Device P) (skb : SkBuff) : Admitted P :=
  let fc := frameCtl skb.data
  if skb.len < 10 then .drop d
  else if d.iwMode = .monitor then .monitor
  else if d.hostDecrypt ∧ decryptSlot d skb = none ∧ isProtected fc then .drop d
  else if skb.len < dataHdr3Len then .drop d
  else
    let (repeated, d) := isDuplicatePacket env d skb.data
    if repeated then .drop d
    else if fcType fc = ftypeMgmt then .mgmt d
    else if dsBits fc = fctlFromds ||| fctlTods ∧ skb.len < dataHdr4Len then .drop d
    else if fcStype fc ∉ [stypeData, stypeDataCfack, stypeDataCfpoll, stypeDataCfackpoll] then .drop d
    else if (rxAddrs d skb.data).2.2 ≠ d.currentNetwork.bssid then .drop d
    else .data d

/-! ### Management frames -/

/-- What a part of the driver does to the device that has nothing to do with
reassembly and installs no keys. -/
structure Elsewhere (P : Type) where
  run : Device P → Device P
  fragCache_eq : ∀ d, (run d).fragCache = d.fragCache
  modules_eq : ∀ d idx, ((run d).crypt idx).map (·.ops) = (d.crypt idx).map (·.ops)

/-- Other parts of the driver that do nothing. -/
def Elsewhere.idle (P : Type) : Elsewhere P := ⟨id, fun _ => rfl, fun _ _ => rfl⟩

/-- `ieee80211_rx_mgt` on a header: beacons and probe responses update the list
of networks. -/
abbrev RxMgt (P : Type) := Env → List UInt8 → Elsewhere P

/-- `ieee80211_rx_frame_mgmt`, which frees the frame. -/
def rxFrameMgmt (mgt : RxMgt P) (env : RxEnv) (d : Device P) (skb : SkBuff) : Device P :=
  let d := (mgt env.toEnv skb.data).run d
  if addr1 skb.data ≠ d.devAddr then d else (rxFrameSoftmac env.toEnv d skb).2

/-! ### Decryption -/

/-- A slot's module and context, with the slot. -/
def Device.slotOps (d : Device P) (slot : Option KeyIdx) : Option (KeyIdx × CryptoOps P × P) :=
  slot.bind fun idx => (d.cryptOps idx).map fun c => (idx, c)

/-- `ieee80211_rx_frame_decrypt`: the key index or an error, the frame, the device. -/
def rxFrameDecrypt (d : Device P) (skb : SkBuff) (slot : Option KeyIdx) : Int × SkBuff × Device P :=
  match d.slotOps slot with
  | none => (0, skb, d)
  | some (idx, ops, priv) =>
    match ops.decryptMpdu with
    | none => (0, skb, d)
    | some op =>
      if d.countermeasuresStop ops then (-1, skb, d)
      else
        let res := op skb (getHdrlen (frameCtl skb.data)) priv
        (if res.ret < 0 then -1 else res.ret, res.skb, d.setPriv idx res.priv)

/-- `ieee80211_rx_frame_decrypt_msdu` -/
def rxFrameDecryptMsdu (d : Device P) (skb : SkBuff) (keyidx : Int) (slot : Option KeyIdx) :
    Int × SkBuff × Device P :=
  match d.slotOps slot with
  | none => (0, skb, d)
  | some (idx, ops, priv) =>
    match ops.decryptMsdu with
    | none => (0, skb, d)
    | some op =>
      let res := op skb keyidx (getHdrlen (frameCtl skb.data)) priv
      (if res.ret < 0 then -1 else 0, res.skb, d.setPriv idx res.priv)

/-- Whether the host decrypts this frame. -/
def Device.opens (d : Device P) (fc : UInt16) : Bool := d.hostDecrypt && isProtected fc

/-! ### Reassembly -/

/-- `ieee80211_frag_cache_find`, with what the caller does to the entry. -/
def fragCacheFind (now : UInt64) (w : World P) (hdr : List UInt8) (frag : Option ℕ)
    (upd : FragEntry → FragEntry) : Option BufId × World P :=
  let c := w.dev.fragCache
  let hz := w.dev.kernel.hz
  let r := findEntry now hz (FragKey.ofHdr hdr) frag upd c.entries
  (r.found, { w with dev := { w.dev with fragCache := c.find now hz (FragKey.ofHdr hdr) frag upd }
              }.kfreeAll r.freed)

/-- The size of a reassembly buffer. -/
def fragBufSize (mtu : ℕ) : ℕ := mtu + 30 + 8 + 2 + 8 + 6

/-- `ieee80211_frag_cache_get` -/
def fragCacheGet (env : RxEnv) (w : World P) (hdr : List UInt8) : Option BufId × World P :=
  let c := w.dev.fragCache
  if fragOf hdr = 0 then
    if env.skbAlloc then
      let b := w.nextBuf
      let w := w.setBuf b ⟨SkBuff.devAllocSkb (fragBufSize w.dev.mtu), []⟩
      (some b, { w with
        dev := { w.dev with fragCache := c.getFirst env.now (FragKey.ofHdr hdr) b }
        nextBuf := b + 1 }.kfreeAll c.next.skb.toList)
    else (none, w)
  else fragCacheFind env.now w hdr (some (fragOf hdr)) (.advance (fragOf hdr))

/-- `ieee80211_frag_cache_invalidate` -/
def fragCacheInvalidate (now : UInt64) (w : World P) (hdr : List UInt8) : World P :=
  (fragCacheFind now w hdr none .clear).2

/-- What `ieee80211_rx` knows of the frame in hand: the slot and the key index
it was decrypted with, the header fields, the addresses. -/
structure LastFrame where
  slot : Option KeyIdx
  keyidx : Int
  fc : UInt16
  hdrlen : ℕ
  frag : ℕ
  dst : Mac
  src : Mac

/-- What a fragment adds to its buffer: the first one comes with its header. -/
def LastFrame.bytes (last : LastFrame) (skb : SkBuff) : List UInt8 :=
  if last.frag = 0 then skb.data else skb.data.drop last.hdrlen

/-- The fragment in buffer `b` is copied to the end of buffer `fb`, and freed. -/
def World.append (w : World P) (fb b : BufId) (last : LastFrame) : World P :=
  (w.setBuf fb ⟨(w.heap fb).skb.put (last.bytes (w.heap b).skb),
    (w.heap fb).parts ++ (w.heap b).parts⟩).kfreeAll [b]

/-- What becomes of a fragment. -/
inductive Reassembly (P : Type) where
  | dropped (w : World P)
  | stored (w : World P)
  | complete (fb : BufId) (w : World P)

/-- The fragment path of `ieee80211_rx`, for the decrypted fragment in buffer `b`. -/
def appendFragment (env : RxEnv) (w : World P) (b : BufId) (last : LastFrame) : Reassembly P :=
  let skb := (w.heap b).skb
  match fragCacheGet env w skb.data with
  | (none, w) => .dropped w
  | (some fb, w) =>
    if (w.heap fb).skb.tailroom < (last.bytes skb).length then
      .dropped (fragCacheInvalidate env.later w skb.data)
    else
      let w := w.append fb b last
      if moreFrags last.fc then .stored w
      else .complete fb (fragCacheInvalidate env.later w (w.heap fb).skb.data)

/-! ### Delivery -/

def rfc1042Header : List UInt8 := [0xaa, 0xaa, 0x03, 0x00, 0x00, 0x00]

def bridgeTunnelHeader : List UInt8 := [0xaa, 0xaa, 0x03, 0x00, 0x00, 0xf8]

def ethPAarp : UInt16 := 0x80F3
def ethPIpx : UInt16 := 0x8137

/-- `ieee80211_is_eapol_frame` -/
def isEapolFrame (d : Device P) (skb : SkBuff) : Bool :=
  let hdr := skb.data
  let ds := dsBits (frameCtl hdr)
  decide (dataHdr3Len ≤ skb.len) &&
    ((ds == fctlTods && addr1 hdr == d.devAddr && addr3 hdr == d.devAddr) ||
      (ds == fctlFromds && addr1 hdr == d.devAddr)) &&
    decide (dataHdr3Len + 8 ≤ skb.len) && getBe16 hdr (dataHdr3Len + 6) == ethPPae

/-- Whether the payload behind the header starts with a SNAP header that is to
be removed. The subtraction `skb->len - hdrlen` wraps. -/
def hasSnap (skb : SkBuff) (hdrlen : ℕ) : Bool :=
  let snap := slice hdrlen 6 skb.mem
  let ethertype := getBe16 skb.mem (hdrlen + 6)
  (decide (skb.len < hdrlen) || decide (hdrlen + 8 ≤ skb.len)) &&
    ((snap == rfc1042Header && ethertype != ethPAarp && ethertype != ethPIpx) ||
      snap == bridgeTunnelHeader)

/-- The header made into an Ethernet header. -/
def toEthernet (skb : SkBuff) (hdrlen : ℕ) (dst src : Mac) : SkBuff :=
  if hasSnap skb hdrlen then ((skb.pull (hdrlen + 6)).push src.toList).push dst.toList
  else
    let skb := skb.pull hdrlen
    ((skb.push (be16 (UInt16.ofNat skb.len))).push src.toList).push dst.toList

/-- A frame that came in clear although encryption is configured. The source
checks this twice over. -/
def rejectsClear (d : Device P) (slot : Option KeyIdx) (fc : UInt16) (skb : SkBuff) : Bool :=
  slot.isSome && !isProtected fc && !d.openWep && !isEapolFrame d skb

/-- The check of the MIC of the MSDU in buffer `b`, if the host decrypts. -/
def checkMsdu (w : World P) (b : BufId) (last : LastFrame) : Int × SkBuff × Device P :=
  if w.dev.opens last.fc then rxFrameDecryptMsdu w.dev (w.heap b).skb last.keyidx last.slot
  else (0, (w.heap b).skb, w.dev)

/-- The world after the check. -/
def World.checked (w : World P) (b : BufId) (last : LastFrame) : World P :=
  let c := checkMsdu w b last
  { w with dev := c.2.2 }.setBuf b ⟨c.2.1, (w.heap b).parts⟩

/-- What goes to the network stack. -/
def msduOf (w : World P) (b : BufId) (last : LastFrame) (reassembled : Bool) : Msdu :=
  let skb := (checkMsdu w b last).2.1
  ⟨(w.heap b).parts, reassembled, last.fc, last.hdrlen, (w.heap b).skb.data, skb.data,
    (toEthernet skb last.hdrlen last.dst last.src).data⟩

/-- `ieee80211_rx` from the whole MSDU on. -/
def deliver (env : RxEnv) (w : World P) (b : BufId) (last : LastFrame) (reassembled : Bool) :
    ℕ × World P :=
  let (res, skb, d) := checkMsdu w b last
  let w' := w.checked b last
  if res ≠ 0 then (0, w')
  else if rejectsClear d last.slot last.fc skb then (0, w')
  else
    let eth := toEthernet skb last.hdrlen last.dst last.src
    (1, ({ w' with dev := { d with lastRxPsTime := env.later } }.setBuf b ⟨eth, (w.heap b).parts⟩).emit
      (.netifRx b (msduOf w b last reassembled)))

/-! ### `ieee80211_rx` -/

/-- Fragment number and MoreFragments say that the frame is part of an MSDU. -/
def isFragment (hdr : List UInt8) : Bool := fragOf hdr != 0 || moreFrags (frameCtl hdr)

/-- The decryption of the admitted frame in buffer `b`. The key index is negative
when it fails. -/
def rxOpen (w : World P) (b : BufId) : LastFrame × World P :=
  let skb := (w.heap b).skb
  let fc := frameCtl skb.data
  let slot := decryptSlot w.dev skb
  let (dst, src, _) := rxAddrs w.dev skb.data
  let (keyidx, opened, d) := if w.dev.opens fc then rxFrameDecrypt w.dev skb slot else (0, skb, w.dev)
  let key := if w.dev.opens fc then slot.map fun idx => (idx, w.installs idx) else none
  (⟨slot, keyidx, fc, getHdrlen fc, fragOf skb.data, dst, src⟩,
    { w with dev := d }.setBuf b ⟨opened, [⟨skb.data, opened.data, key, w.assocs⟩]⟩)

/-- `ieee80211_rx` on an admitted data frame. -/
def rxData (env : RxEnv) (w : World P) (b : BufId) : ℕ × World P :=
  let (last, w') := rxOpen w b
  if last.keyidx < 0 then (0, w')
  else if isFragment (w.heap b).skb.data then
    match appendFragment env w' b last with
    | .dropped w => (0, w)
    | .stored w => (1, w)
    | .complete fb w => deliver env w fb last true
  else deliver env w' b last false

/-- `ieee80211_rx`: what it returns, and the world after it. -/
def rx (mgt : RxMgt P) (env : RxEnv) (w : World P) (b : BufId) : ℕ × World P :=
  let skb := (w.heap b).skb
  match rxAdmit env w.dev skb with
  | .drop d => (0, w.setDev d)
  | .monitor => (1, w.emit (.monitor b))
  | .mgmt d => (1, (w.setDev (rxFrameMgmt mgt env d skb)).kfreeAll [b])
  | .data d => rxData env { w with dev := d } b

/-- A frame arrives in a new buffer. -/
def World.arrive (w : World P) (skb : SkBuff) : World P :=
  { w.setBuf w.nextBuf ⟨skb, []⟩ with nextBuf := w.nextBuf + 1 }

/-- The receive tasklet, which frees the frame when `ieee80211_rx` returns zero. -/
def receive (mgt : RxMgt P) (env : RxEnv) (w : World P) (skb : SkBuff) : ℕ × World P :=
  let r := rx mgt env (w.arrive skb) w.nextBuf
  (r.1, if r.1 = 0 then r.2.kfreeAll [w.nextBuf] else r.2)

/-! ### Runs -/

/-- What the receive path may meet: a frame, a key set in a slot or removed
from it, the end of an association, and whatever else the driver does. -/
inductive RxInput (P : Type) where
  | frame (env : RxEnv) (skb : SkBuff)
  | setKey (idx : KeyIdx) (crypt : Option (CryptData P))
  | disassociate
  | other (act : Elsewhere P)

/-- `ieee80211_disassociate`, with its `ieee80211_reset_queue`. -/
def disassociate (d : Device P) : Device P :=
  let d := if d.softmacFeatures.txQueue then
    { d with mgmtQueue := d.mgmtQueue.resetQueue.2, txPending := none, queueStop := false } else d
  { d with state := .nolink }

def World.step (mgt : RxMgt P) (w : World P) : RxInput P → World P
  | .frame env skb => (receive mgt env w skb).2
  | .setKey idx crypt => { w with
      dev := { w.dev with crypt := Function.update w.dev.crypt idx crypt }
      installs := Function.update w.installs idx (w.installs idx + 1) }
  | .disassociate => w.setDev (disassociate w.dev)
  | .other act => w.setDev (act.run w.dev)

/-- A frame of an access point: flags, sequence control, transmitter, receiver,
body. -/
def apFrame (flags sc : UInt16) (bssid dst : Mac) (body : List UInt8) : SkBuff :=
  (SkBuff.devAllocSkb 64).put (le16 (ftypeData ||| fctlFromds ||| flags) ++ le16 0 ++ dst.toList ++
    bssid.toList ++ bssid.toList ++ le16 sc ++ body)

end Rtl8187

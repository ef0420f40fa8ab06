/-
# What the receive path reads

`ieee80211_rx` on data frames once more, with the bytes it reads of the frame and
of the reassembly buffer, each of which is to lie in the buffer's data. What
the ciphers read is not among them, nor what the handlers of management frames
do. The messages are, at any debug level.

The sequence control is read of every frame with the ten bytes of an ACK, the
byte that names the key even of a frame that ends right before it, the
EtherType of every payload, and for a message the type of an EAPOL packet, of
which only the EtherType was looked for. Where these are in the frame, so is all
the rest, if a module that fails leaves the frame as it was (`readRx_safe_iff`).

Key definitions: `readRxAdmit`, `readRxFrameDecrypt`, `readAppendFragment`,
`readRejectsClear`, `readDeliver`, `readRx`, `Unwraps`, `MsduReads`,
`ReadsInside`, `FailsInPlace`.
Key theorems: `readRx_value`, `readRx_safe_iff`, `msduReads_clear`.
-/
import Rtl8187.RxSteps
import Rtl8187.ParserReads

namespace Rtl8187

open Bytes

variable {P : Type}

/-- The `n` bytes of the header from `i` on are read. -/
def readHdr {α : Type} (skb : SkBuff) (i n : ℕ) (field : List UInt8 → α) : Traced α :=
  readFrame skb i n (field skb.data)

/-! ### Before the decryption -/

/-- The index of the key. -/
def readKeyIdx (skb : SkBuff) (hdrlen : ℕ) : Traced KeyIdx :=
  if hdrlen + 3 ≤ skb.len then readFrame skb (hdrlen + 3) 1 (keyIdxOf (skb.byte (hdrlen + 3)))
  else pure 0

/-- The choice of the key. -/
def readDecryptSlot (d : Device P) (skb : SkBuff) (fc : UInt16) : Traced (Option KeyIdx) :=
  if d.hostDecrypt then do
    let idx ← readKeyIdx skb (getHdrlen fc)
    pure (if (d.cryptOps idx).any (·.1.decryptMpdu.isSome) then some idx else none)
  else pure none

/-- `is_duplicate_packet` -/
def readIsDuplicatePacket (env : RxEnv) (d : Device P) (skb : SkBuff) : Traced (Bool × Device P) := do
  let _ ← readHdr skb 22 2 seqCtl
  if d.iwMode = .adhoc then do
    let _ ← readHdr skb 10 6 addr2
    pure (isDuplicatePacket env d skb.data)
  else pure (isDuplicatePacket env d skb.data)

/-- The addresses of a data frame. -/
def readRxAddrs (d : Device P) (skb : SkBuff) (fc : UInt16) : Traced (Mac × Mac × Mac) :=
  let ds := dsBits fc
  if ds = fctlFromds then do
    let dst ← readHdr skb 4 6 addr1
    let src ← readHdr skb 16 6 addr3
    let bssid ← readHdr skb 10 6 addr2
    pure (dst, src, bssid)
  else if ds = fctlTods then do
    let dst ← readHdr skb 16 6 addr3
    let src ← readHdr skb 10 6 addr2
    let bssid ← readHdr skb 4 6 addr1
    pure (dst, src, bssid)
  else if ds = fctlFromds ||| fctlTods then do
    let dst ← readHdr skb 16 6 addr3
    let src ← readHdr skb 24 6 addr4
    pure (dst, src, d.currentNetwork.bssid)
  else do
    let dst ← readHdr skb 4 6 addr1
    let src ← readHdr skb 10 6 addr2
    let bssid ← readHdr skb 16 6 addr3
    pure (dst, src, bssid)

/-- The sender, for a message. -/
def readSender (skb : SkBuff) : Traced Unit := readFrame skb 10 6 ()

/-- `ieee80211_rx` up to the decryption. -/
def readRxAdmit (level : UInt32) (env : RxEnv) (d : Device P) (skb : SkBuff) :
    Traced (Admitted P) :=
  if skb.len < 10 then pure (.drop d)
  else do
    let fc ← readHdr skb 0 2 frameCtl
    let _ ← readHdr skb 22 2 seqCtl
    if d.iwMode = .monitor then do
      -- `ieee80211_monitor_rx`
      let _ ← readHdr skb 0 2 frameCtl
      pure .monitor
    else do
      let slot ← readDecryptSlot d skb fc
      if d.hostDecrypt ∧ slot = none ∧ isProtected fc then do
        readDebug level dlDrop (readSender skb)
        pure (.drop d)
      else if skb.len < dataHdr3Len then pure (.drop d)
      else do
        let (repeated, d) ← readIsDuplicatePacket env d skb
        if repeated then pure (.drop d)
        else if fcType fc = ftypeMgmt then pure (.mgmt d)
        else if dsBits fc = fctlFromds ||| fctlTods ∧ skb.len < dataHdr4Len then pure (.drop d)
        else do
          let addrs ← readRxAddrs d skb fc
          if fcStype fc ∉ [stypeData, stypeDataCfack, stypeDataCfpoll, stypeDataCfackpoll] then
            pure (.drop d)
          else if addrs.2.2 ≠ d.currentNetwork.bssid then pure (.drop d)
          else pure (.data d)

/-! ### Decryption and reassembly -/

/-- The sender once more, through a pointer to the frame `skb` from before a
module left `after` in its place. -/
def readSenderAfter (skb after : SkBuff) : Traced Unit :=
  Traced.ofLog ((List.range 6).map fun k =>
    .read (skb.headroom + 10 + k) after.headroom (after.headroom + after.len)) ()

/-- `ieee80211_rx_frame_decrypt`, without what the module reads. The message of
the countermeasures counts also where the kernel's rate limit withholds it. -/
def readRxFrameDecrypt (level : UInt32) (d : Device P) (skb : SkBuff) (slot : Option KeyIdx) :
    Traced (Int × SkBuff × Device P) :=
  match d.slotOps slot with
  | none => pure (0, skb, d)
  | some (idx, ops, priv) =>
    match ops.decryptMpdu with
    | none => pure (0, skb, d)
    | some op => do
      let fc ← readHdr skb 0 2 frameCtl
      if d.countermeasuresStop ops then do
        readSender skb
        pure (-1, skb, d)
      else do
        let res := op skb (getHdrlen fc) priv
        if res.ret < 0 then do
          readDebug level dlDrop (readSenderAfter skb res.skb)
          (if res.ret = -2 then readDebug level dlDrop (readFrame res.skb (getHdrlen fc + 3) 1 ())
          else pure ())
          pure (-1, res.skb, d.setPriv idx res.priv)
        else pure (res.ret, res.skb, d.setPriv idx res.priv)

/-- The decryption of the admitted frame in buffer `b`. -/
def readRxOpen (level : UInt32) (w : World P) (b : BufId) : Traced (LastFrame × World P) := do
  let skb := (w.heap b).skb
  let fc := frameCtl skb.data
  let slot := decryptSlot w.dev skb
  let (dst, src, _) := rxAddrs w.dev skb.data
  let (keyidx, opened, d) ←
    (if w.dev.opens fc then readRxFrameDecrypt level w.dev skb slot else pure (0, skb, w.dev))
  let key := if w.dev.opens fc then slot.map fun idx => (idx, w.installs idx) else none
  pure (⟨slot, keyidx, fc, getHdrlen fc, fragOf skb.data, dst, src⟩,
    { w with dev := d }.setBuf b ⟨opened, [⟨skb.data, opened.data, key, w.assocs⟩]⟩)

/-- What the fragment cache knows an MSDU by. The addresses count as read even
where there is no entry to compare them with. -/
def readFragKey (skb : SkBuff) : Traced (ℕ × FragKey) := do
  let sc ← readHdr skb 22 2 seqCtl
  let src ← readHdr skb 10 6 addr2
  let dst ← readHdr skb 4 6 addr1
  pure ((seqFrag sc).toNat, ⟨seqSeq sc, src, dst⟩)

/-- The fragment path of `ieee80211_rx`. -/
def readAppendFragment (env : RxEnv) (w : World P) (b : BufId) (last : LastFrame) :
    Traced (Reassembly P) := do
  let skb := (w.heap b).skb
  let _ ← readFragKey skb
  match fragCacheGet env w skb.data with
  | (none, w) => pure (.dropped w)
  | (some fb, w) =>
    if (w.heap fb).skb.tailroom < (last.bytes skb).length then do
      let _ ← readFragKey skb
      pure (.dropped (fragCacheInvalidate env.later w skb.data))
    else do
      readFrame skb (if last.frag = 0 then 0 else last.hdrlen) (last.bytes skb).length ()
      let w := w.append fb b last
      if moreFrags last.fc then pure (.stored w)
      else do
        let _ ← readFragKey (w.heap fb).skb
        pure (.complete fb (fragCacheInvalidate env.later w (w.heap fb).skb.data))

/-! ### Delivery -/

/-- `ieee80211_rx_frame_decrypt_msdu`, without what the module reads. -/
def readRxFrameDecryptMsdu (d : Device P) (skb : SkBuff) (keyidx : Int) (slot : Option KeyIdx) :
    Traced (Int × SkBuff × Device P) :=
  match d.slotOps slot with
  | none => pure (0, skb, d)
  | some (idx, ops, priv) =>
    match ops.decryptMsdu with
    | none => pure (0, skb, d)
    | some op => do
      let fc ← readHdr skb 0 2 frameCtl
      let res := op skb keyidx (getHdrlen fc) priv
      if res.ret < 0 then do
        readSenderAfter skb res.skb
        pure (-1, res.skb, d.setPriv idx res.priv)
      else pure (0, res.skb, d.setPriv idx res.priv)

/-- The check of the MIC of the MSDU in buffer `b`, if the host decrypts. -/
def readCheckMsdu (w : World P) (b : BufId) (last : LastFrame) : Traced (Int × SkBuff × Device P) :=
  if w.dev.opens last.fc then
    readRxFrameDecryptMsdu w.dev (w.heap b).skb last.keyidx last.slot
  else pure (0, (w.heap b).skb, w.dev)

/-- A frame that is ours by its first and third address. -/
def isOurs (d : Device P) (fc : UInt16) (receiver third : Mac) : Bool :=
  (dsBits fc == fctlTods && receiver == d.devAddr && third == d.devAddr) ||
    (dsBits fc == fctlFromds && receiver == d.devAddr)

/-- `ieee80211_is_eapol_frame` -/
def readIsEapolFrame (d : Device P) (skb : SkBuff) : Traced Bool :=
  if skb.len < dataHdr3Len then pure false
  else do
    let fc ← readHdr skb 0 2 frameCtl
    let receiver ← readHdr skb 4 6 addr1
    let third ← readHdr skb 16 6 addr3
    if isOurs d fc receiver third then
      if skb.len < dataHdr3Len + 8 then pure false
      else do
        let ethertype ← readHdr skb (dataHdr3Len + 6) 2 fun hdr => getBe16 hdr (dataHdr3Len + 6)
        pure (ethertype == ethPPae)
    else pure false

/-- The message on an EAPOL frame reads `eap->type`, of a packet of which the
EtherType is known to be there. -/
def readEapType (level : UInt32) (skb : SkBuff) : Traced Unit :=
  readDebug level dlEap (readFrame skb (dataHdr3Len + 9) 1 ())

/-- The checks for frames in clear, of which the second only prints. -/
def readRejectsClear (level : UInt32) (d : Device P) (slot : Option KeyIdx) (fc : UInt16)
    (skb : SkBuff) : Traced Bool := do
  let clear := slot.isSome && !isProtected fc
  let rejected ←
    (if clear && !d.openWep then do
      let eapol ← readIsEapolFrame d skb
      (if eapol then readEapType level skb else readDebug level dlDrop (readSender skb))
      pure !eapol
    else pure false)
  if rejected then pure true
  else do
    (if clear then do
      let eapol ← readIsEapolFrame d skb
      if eapol then readEapType level skb else pure ()
    else pure ())
    if clear && !d.openWep then do
      let eapol ← readIsEapolFrame d skb
      (if eapol then pure () else readDebug level dlDrop (readSender skb))
      pure !eapol
    else pure false

/-- The EtherType, and the SNAP header if there is room for it. -/
def readHasSnap (skb : SkBuff) (hdrlen : ℕ) : Traced Bool := do
  let ethertype ← readFrame skb (hdrlen + 6) 2 (getBe16 skb.mem (hdrlen + 6))
  if skb.len < hdrlen ∨ hdrlen + 8 ≤ skb.len then do
    let snap ← readFrame skb hdrlen 6 (slice hdrlen 6 skb.mem)
    pure ((snap == rfc1042Header && ethertype != ethPAarp && ethertype != ethPIpx) ||
      snap == bridgeTunnelHeader)
  else pure false

/-- `ieee80211_rx` from the whole MSDU on. -/
def readDeliver (level : UInt32) (env : RxEnv) (w : World P) (b : BufId) (last : LastFrame)
    (reassembled : Bool) : Traced (ℕ × World P) := do
  let (res, skb, d) ← readCheckMsdu w b last
  let w' := w.checked b last
  if res ≠ 0 then pure (0, w')
  else do
    let rejected ← readRejectsClear level d last.slot last.fc skb
    if rejected then pure (0, w')
    else do
      let snap ← readHasSnap skb last.hdrlen
      let eth :=
        if snap then ((skb.pull (last.hdrlen + 6)).push last.src.toList).push last.dst.toList
        else
          let skb := skb.pull last.hdrlen
          ((skb.push (be16 (UInt16.ofNat skb.len))).push last.src.toList).push last.dst.toList
      pure (1, ({ w' with dev := { d with lastRxPsTime := env.later } }.setBuf b
        ⟨eth, (w.heap b).parts⟩).emit (.netifRx b (msduOf w b last reassembled)))

/-- `ieee80211_rx` on an admitted data frame. -/
def readRxData (level : UInt32) (env : RxEnv) (w : World P) (b : BufId) : Traced (ℕ × World P) := do
  let (last, w') ← readRxOpen level w b
  if last.keyidx < 0 then pure (0, w')
  else if isFragment (w.heap b).skb.data then do
    match ← readAppendFragment env w' b last with
    | .dropped w => pure (0, w)
    | .stored w => pure (1, w)
    | .complete fb w => readDeliver level env w fb last true
  else readDeliver level env w' b last false

/-- `ieee80211_rx` at the debug level `level`. -/
def readRx (level : UInt32) (mgt : RxMgt P) (env : RxEnv) (w : World P) (b : BufId) :
    Traced (ℕ × World P) := do
  let skb := (w.heap b).skb
  match ← readRxAdmit level env w.dev skb with
  | .drop d => pure (0, w.setDev d)
  | .monitor => pure (1, w.emit (.monitor b))
  | .mgmt d => pure (1, (w.setDev (rxFrameMgmt mgt env d skb)).kfreeAll [b])
  | .data d => readRxData level env { w with dev := d } b

/-! ### It is the receive path -/

section

variable (level : UInt32) (env : RxEnv) (d : Device P) (skb : SkBuff) (w : World P) (b : BufId)
  (last : LastFrame)

@[simp] theorem readHdr_value {α : Type} (i n : ℕ) (field : List UInt8 → α) :
    (readHdr skb i n field).value = field skb.data := rfl

@[simp] theorem readFrame_value {α : Type} (i n : ℕ) (a : α) : (readFrame skb i n a).value = a := rfl

theorem readKeyIdx_value (hdrlen : ℕ) : (readKeyIdx skb hdrlen).value =
    if hdrlen + 3 ≤ skb.len then keyIdxOf (skb.byte (hdrlen + 3)) else 0 := by
  unfold readKeyIdx
  simp [Traced.value_ite]

theorem readDecryptSlot_value :
    (readDecryptSlot d skb (frameCtl skb.data)).value = decryptSlot d skb := by
  unfold readDecryptSlot decryptSlot
  cases d.hostDecrypt with
  | true =>
    rw [if_pos rfl, Traced.value_bind, readKeyIdx_value]
    rfl
  | false => simp

theorem readIsDuplicatePacket_value :
    (readIsDuplicatePacket env d skb).value = isDuplicatePacket env d skb.data := by
  unfold readIsDuplicatePacket
  simp [Traced.value_ite]

theorem readRxAddrs_value : (readRxAddrs d skb (frameCtl skb.data)).value = rxAddrs d skb.data := by
  unfold readRxAddrs rxAddrs
  simp [Traced.value_ite]

theorem readRxAdmit_value : (readRxAdmit level env d skb).value = rxAdmit env d skb := by
  unfold readRxAdmit rxAdmit
  simp [Traced.value_ite, readDecryptSlot_value, readIsDuplicatePacket_value, readRxAddrs_value]

theorem readRxFrameDecrypt_value (slot : Option KeyIdx) :
    (readRxFrameDecrypt level d skb slot).value = rxFrameDecrypt d skb slot := by
  unfold readRxFrameDecrypt rxFrameDecrypt
  cases d.slotOps slot with
  | none => rfl
  | some r =>
    obtain ⟨idx, ops, priv⟩ := r
    dsimp only
    cases ops.decryptMpdu with
    | none => rfl
    | some op =>
      dsimp only
      rw [Traced.value_bind, readHdr_value, Traced.value_ite]
      refine if_congr Iff.rfl rfl ?_
      rw [Traced.value_ite]
      by_cases hret : (op skb (getHdrlen (frameCtl skb.data)) priv).ret < 0
      · rw [if_pos hret, if_pos hret]
        rfl
      · rw [if_neg hret, if_neg hret]
        rfl

theorem readRxOpen_value : (readRxOpen level w b).value = rxOpen w b := by
  unfold readRxOpen rxOpen
  dsimp only
  rw [Traced.value_bind, Traced.value_ite, readRxFrameDecrypt_value]
  rfl

theorem readAppendFragment_value :
    (readAppendFragment env w b last).value = appendFragment env w b last := by
  unfold readAppendFragment appendFragment
  dsimp only
  rw [Traced.value_bind]
  cases fragCacheGet env w (w.heap b).skb.data with
  | mk found w' =>
    cases found with
    | none => rfl
    | some fb => simp [Traced.value_ite]

theorem readRxFrameDecryptMsdu_value (keyidx : Int) (slot : Option KeyIdx) :
    (readRxFrameDecryptMsdu d skb keyidx slot).value = rxFrameDecryptMsdu d skb keyidx slot := by
  unfold readRxFrameDecryptMsdu rxFrameDecryptMsdu
  cases d.slotOps slot with
  | none => rfl
  | some r =>
    obtain ⟨idx, ops, priv⟩ := r
    dsimp only
    cases ops.decryptMsdu with
    | none => rfl
    | some op =>
      dsimp only
      rw [Traced.value_bind, readHdr_value, Traced.value_ite]
      by_cases hret : (op skb keyidx (getHdrlen (frameCtl skb.data)) priv).ret < 0
      · rw [if_pos hret, if_pos hret]
        rfl
      · rw [if_neg hret, if_neg hret]
        rfl

theorem readCheckMsdu_value : (readCheckMsdu w b last).value = checkMsdu w b last := by
  unfold readCheckMsdu checkMsdu
  rw [Traced.value_ite, readRxFrameDecryptMsdu_value]
  rfl

theorem readIsEapolFrame_value : (readIsEapolFrame d skb).value = isEapolFrame d skb := by
  change _ = (decide (dataHdr3Len ≤ skb.len) &&
    isOurs d (frameCtl skb.data) (addr1 skb.data) (addr3 skb.data) &&
    decide (dataHdr3Len + 8 ≤ skb.len) && getBe16 skb.data (dataHdr3Len + 6) == ethPPae)
  unfold readIsEapolFrame
  by_cases hhdr : skb.len < dataHdr3Len
  · simp [hhdr]
  · have hge : dataHdr3Len ≤ skb.len := not_lt.mp hhdr
    cases hours : isOurs d (frameCtl skb.data) (addr1 skb.data) (addr3 skb.data) with
    | true =>
      by_cases hlen : skb.len < dataHdr3Len + 8
      · simp [hhdr, hlen]
      · have hroom : dataHdr3Len + 8 ≤ skb.len := not_lt.mp hlen
        simp [hhdr, hours, hlen, hge, hroom]
    | false => simp [hhdr, hours]

theorem readRejectsClear_value (slot : Option KeyIdx) (fc : UInt16) :
    (readRejectsClear level d slot fc skb).value = rejectsClear d slot fc skb := by
  have heapol := readIsEapolFrame_value d skb
  unfold readRejectsClear rejectsClear
  cases hclear : slot.isSome && !isProtected fc with
  | true =>
    cases hopen : d.openWep with
    | true => rfl
    | false => cases he : isEapolFrame d skb <;> simp [heapol, he]
  | false => rfl

theorem readHasSnap_value (hdrlen : ℕ) : (readHasSnap skb hdrlen).value = hasSnap skb hdrlen := by
  unfold readHasSnap hasSnap
  by_cases hroom : skb.len < hdrlen ∨ hdrlen + 8 ≤ skb.len
  · simp [hroom]
  · simp [hroom]

theorem readDeliver_value (reassembled : Bool) :
    (readDeliver level env w b last reassembled).value = deliver env w b last reassembled := by
  unfold readDeliver deliver toEthernet
  simp [Traced.value_ite, readCheckMsdu_value, readRejectsClear_value, readHasSnap_value]

theorem readRxData_value : (readRxData level env w b).value = rxData env w b := by
  unfold readRxData rxData
  rw [Traced.value_bind, readRxOpen_value]
  dsimp only
  rw [Traced.value_ite, Traced.value_ite, Traced.value_bind, readAppendFragment_value,
    readDeliver_value]
  cases appendFragment env (rxOpen w b).2 b (rxOpen w b).1 with
  | dropped w' => rfl
  | stored w' => rfl
  | complete fb w' => simp only [readDeliver_value, Traced.value_pure]

/-- The value is that of `ieee80211_rx`. -/
theorem readRx_value (mgt : RxMgt P) : (readRx level mgt env w b).value = rx mgt env w b := by
  unfold readRx rx
  dsimp only
  rw [Traced.value_bind, readRxAdmit_value]
  cases rxAdmit env w.dev (w.heap b).skb with
  | drop d => rfl
  | monitor => rfl
  | mgmt d => rfl
  | data d => exact readRxData_value level env _ b

end

/-! ### Where it is safe -/

theorem readFrame_safe_iff {α : Type} (skb : SkBuff) {i n : ℕ} (hn : 0 < n) (a : α) :
    (readFrame skb i n a).All Access.Safe ↔ i + n ≤ skb.len := by
  constructor
  · intro h
    have hlast : Access.Safe (.read (i + (n - 1)) 0 skb.len) :=
      h _ (List.mem_map_of_mem (List.mem_range.mpr (by omega)))
    have hlt := hlast.2
    omega
  · exact readFrame_safe skb a

section

variable {level : UInt32} {d : Device P} {skb : SkBuff}

theorem readHdr_safe_iff {α : Type} {i n : ℕ} (hn : 0 < n) (field : List UInt8 → α) :
    (readHdr skb i n field).All Access.Safe ↔ i + n ≤ skb.len := readFrame_safe_iff skb hn _

/-- A field of the first `k` bytes of the header. -/
theorem readHdr_safe {α : Type} {i n k : ℕ} (hlen : k ≤ skb.len) (hin : i + n ≤ k)
    (field : List UInt8 → α) : (readHdr skb i n field).All Access.Safe :=
  readFrame_safe skb _ (hin.trans hlen)

/-- The byte is not looked for where the frame is shorter, but one byte is
missing at the bound. -/
theorem readKeyIdx_safe_iff (hdrlen : ℕ) :
    (readKeyIdx skb hdrlen).All Access.Safe ↔ skb.len ≠ hdrlen + 3 := by
  unfold readKeyIdx
  rw [Traced.all_ite, readFrame_safe_iff skb Nat.one_pos, Traced.all_pure, implies_true, and_true]
  omega

theorem readDecryptSlot_safe_iff (fc : UInt16) : (readDecryptSlot d skb fc).All Access.Safe ↔
    (d.hostDecrypt = true → skb.len ≠ getHdrlen fc + 3) := by
  unfold readDecryptSlot
  rw [Traced.all_ite, Traced.all_bind, readKeyIdx_safe_iff]
  simp

theorem readIsDuplicatePacket_safe (env : RxEnv) (hlen : dataHdr3Len ≤ skb.len) :
    (readIsDuplicatePacket env d skb).All Access.Safe := by
  unfold readIsDuplicatePacket
  rw [Traced.all_bind, Traced.all_ite]
  refine ⟨readHdr_safe hlen (by decide) _, fun _ => ?_, fun _ => Traced.pure_all _⟩
  rw [Traced.all_bind]
  exact ⟨readHdr_safe hlen (by decide) _, Traced.pure_all _⟩

theorem readRxAddrs_safe {fc : UInt16} (hlen : dataHdr3Len ≤ skb.len)
    (hwds : dsBits fc = fctlFromds ||| fctlTods → dataHdr4Len ≤ skb.len) :
    (readRxAddrs d skb fc).All Access.Safe := by
  have hfield : ∀ i, i + 6 ≤ dataHdr3Len → ∀ field : List UInt8 → Mac,
      (readHdr skb i 6 field).All Access.Safe := fun i h field => readHdr_safe hlen h field
  unfold readRxAddrs
  simp only [Traced.all_ite, Traced.all_bind, Traced.all_pure, hfield 4 (by decide), hfield 10 (by decide),
    hfield 16 (by decide), true_and, and_true, implies_true]
  exact fun _ _ hboth => readHdr_safe (hwds hboth) (by decide) _

theorem readSender_safe (hlen : 16 ≤ skb.len) : (readSender skb).All Access.Safe :=
  readFrame_safe skb () hlen

theorem readRxAdmit_safe_iff (env : RxEnv) : (readRxAdmit level env d skb).All Access.Safe ↔
    skb.len < 10 ∨ dataHdr3Len ≤ skb.len ∧ (d.iwMode ≠ .monitor → d.hostDecrypt = true →
      skb.len ≠ getHdrlen (frameCtl skb.data) + 3) := by
  unfold readRxAdmit
  by_cases hshort : skb.len < 10
  · simp [hshort]
  · have hsc : (readHdr skb 22 2 seqCtl).All Access.Safe ↔ dataHdr3Len ≤ skb.len :=
      readHdr_safe_iff Nat.two_pos seqCtl
    rw [if_neg hshort, or_iff_right hshort, Traced.all_bind, Traced.all_bind, hsc]
    refine (and_iff_right (readHdr_safe (not_lt.mp hshort) (by decide) _)).trans
      (and_congr_right fun hlen => ?_)
    by_cases hmon : d.iwMode = .monitor
    · have hfc : (readHdr skb 0 2 frameCtl).All Access.Safe := readHdr_safe hlen (by decide) _
      simp [hmon, hfc]
    · have haddrs : ∀ d' : Device P, (dsBits (frameCtl skb.data) = fctlFromds ||| fctlTods →
          dataHdr4Len ≤ skb.len) → (readRxAddrs d' skb (frameCtl skb.data)).All Access.Safe :=
        fun d' => readRxAddrs_safe hlen
      have hshort : ¬ skb.len < dataHdr3Len := not_lt.mpr hlen
      rw [if_neg hmon, Traced.all_bind, readHdr_value, readDecryptSlot_safe_iff, imp_iff_right hmon]
      refine and_iff_left ?_
      rw [Traced.all_ite, if_neg hshort, Traced.all_bind, Traced.all_bind, readDebug_all]
      refine ⟨fun _ => ⟨fun _ => readSender_safe (le_trans (by decide) hlen), Traced.pure_all _⟩,
        fun _ => ⟨readIsDuplicatePacket_safe env hlen, ?_⟩⟩
      dsimp only
      simp only [Traced.all_ite, Traced.all_bind, Traced.all_pure, implies_true, and_true, true_and]
      intro _ _ hwds
      exact haddrs _ fun hboth => not_lt.mp fun hlt => hwds ⟨hboth, hlt⟩

theorem readFragKey_safe_iff : (readFragKey skb).All Access.Safe ↔ dataHdr3Len ≤ skb.len := by
  have hsc : (readHdr skb 22 2 seqCtl).All Access.Safe ↔ dataHdr3Len ≤ skb.len :=
    readHdr_safe_iff Nat.two_pos seqCtl
  unfold readFragKey
  rw [Traced.all_bind, hsc]
  refine and_iff_left_of_imp fun hlen => ?_
  simp only [Traced.all_bind, Traced.all_pure, and_true]
  exact ⟨readHdr_safe hlen (by decide) _, readHdr_safe hlen (by decide) _⟩

theorem readIsEapolFrame_safe : (readIsEapolFrame d skb).All Access.Safe := by
  unfold readIsEapolFrame
  by_cases hhdr : skb.len < dataHdr3Len
  · simp [hhdr]
  · have hlen : dataHdr3Len ≤ skb.len := not_lt.mp hhdr
    rw [if_neg hhdr]
    simp only [Traced.all_bind, Traced.all_ite, Traced.all_pure, implies_true, and_true, true_and]
    exact ⟨readHdr_safe hlen (by decide) _, readHdr_safe hlen (by decide) _,
      readHdr_safe hlen (by decide) _, fun _ hroom => readHdr_safe (not_lt.mp hroom) (by decide) _⟩

/-- An EAPOL frame in clear under a key that is to be printed has the byte
`eap->type`. -/
def EapolReads (level : UInt32) (d : Device P) (slot : Option KeyIdx) (fc : UInt16) (skb : SkBuff) :
    Prop :=
  level &&& dlEap ≠ 0 → slot.isSome = true → isProtected fc = false → isEapolFrame d skb = true →
    dataHdr3Len + 10 ≤ skb.len

theorem readEapType_safe_iff : (readEapType level skb).All Access.Safe ↔
    (level &&& dlEap ≠ 0 → dataHdr3Len + 10 ≤ skb.len) := by
  unfold readEapType
  rw [readDebug_all, readFrame_safe_iff skb Nat.one_pos]

/-- The other checks read what an EAPOL frame, or the header, has. -/
theorem readRejectsClear_safe_iff (slot : Option KeyIdx) {fc : UInt16}
    (hsender : isProtected fc = false → 16 ≤ skb.len) :
    (readRejectsClear level d slot fc skb).All Access.Safe ↔ EapolReads level d slot fc skb := by
  have hvalue := readIsEapolFrame_value d skb
  have hsafe : (readIsEapolFrame d skb).All Access.Safe := readIsEapolFrame_safe
  have htype : (readEapType level skb).All Access.Safe ↔ _ := readEapType_safe_iff
  unfold readRejectsClear EapolReads
  by_cases hclear : slot.isSome = true ∧ isProtected fc = false
  · have hprint : (readDebug level dlDrop (readSender skb)).All Access.Safe :=
      (readDebug_all _ _ _).mpr fun _ => readSender_safe (hsender hclear.2)
    cases hopen : d.openWep with
    | true => cases he : isEapolFrame d skb <;> simp [hclear, hvalue, hsafe, he, htype]
    | false => cases he : isEapolFrame d skb <;> simp [hclear, hvalue, hsafe, he, htype, hprint]
  · have hcond : (slot.isSome && !isProtected fc) = false := by simpa using hclear
    refine iff_of_true (by simp [hcond]) fun _ hslot hfc => absurd ⟨hslot, hfc⟩ hclear

/-- The EtherType is read of any payload. -/
theorem readHasSnap_safe_iff (hdrlen : ℕ) :
    (readHasSnap skb hdrlen).All Access.Safe ↔ hdrlen + 8 ≤ skb.len := by
  unfold readHasSnap
  rw [Traced.all_bind, readFrame_safe_iff skb Nat.two_pos]
  refine and_iff_left_of_imp fun hlen => ?_
  simp only [Traced.all_ite, Traced.all_bind, Traced.all_pure, implies_true, and_true]
  exact fun _ => readFrame_safe skb _ (by omega)

end

section

variable {level : UInt32} {env : RxEnv} {w : World P} {b : BufId} {last : LastFrame}

/-- The sender of `skb` is where it was in what a module left. -/
def SenderStays (skb after : SkBuff) : Prop :=
  after.headroom ≤ skb.headroom + 10 ∧ skb.headroom + 16 ≤ after.headroom + after.len

theorem readSenderAfter_safe_iff {skb after : SkBuff} :
    (readSenderAfter skb after).All Access.Safe ↔ SenderStays skb after := by
  constructor
  · intro h
    have hfirst : Access.Safe (.read (skb.headroom + 10 + 0) after.headroom (after.headroom + after.len)) :=
      h _ (List.mem_map_of_mem (List.mem_range.mpr (by decide)))
    have hlast : Access.Safe (.read (skb.headroom + 10 + 5) after.headroom (after.headroom + after.len)) :=
      h _ (List.mem_map_of_mem (List.mem_range.mpr (by decide)))
    exact ⟨hfirst.1, hlast.2⟩
  · rintro ⟨hlow, hhigh⟩ acc hacc
    obtain ⟨k, hk, rfl⟩ := List.mem_map.mp hacc
    have hlt := List.mem_range.mp hk
    exact ⟨by omega, by omega⟩

/-- What the module of the slot returns for an MPDU, where it is asked. -/
def Device.mpduRes (d : Device P) (skb : SkBuff) (slot : Option KeyIdx) : Option (CryptRes P) :=
  (d.slotOps slot).bind fun (_, ops, priv) =>
    if d.countermeasuresStop ops then none
    else ops.decryptMpdu.map fun op => op skb (getHdrlen (frameCtl skb.data)) priv

/-- And for an MSDU. -/
def Device.msduRes (d : Device P) (skb : SkBuff) (keyidx : Int) (slot : Option KeyIdx) :
    Option (CryptRes P) :=
  (d.slotOps slot).bind fun (_, ops, priv) =>
    ops.decryptMsdu.map fun op => op skb keyidx (getHdrlen (frameCtl skb.data)) priv

/-- The messages on an MPDU that did not decrypt find what they read: its sender,
and on an ICV mismatch the byte that names the key. -/
def MpduDropReads (level : UInt32) (d : Device P) (skb : SkBuff) (slot : Option KeyIdx) : Prop :=
  ∀ res ∈ d.mpduRes skb slot, res.ret < 0 → level &&& dlDrop ≠ 0 → SenderStays skb res.skb ∧
    (res.ret = -2 → getHdrlen (frameCtl skb.data) + 4 ≤ res.skb.len)

/-- The message on an MSDU whose MIC is wrong finds its sender. -/
def MsduDropReads (d : Device P) (skb : SkBuff) (keyidx : Int) (slot : Option KeyIdx) : Prop :=
  ∀ res ∈ d.msduRes skb keyidx slot, res.ret < 0 → SenderStays skb res.skb

theorem readRxFrameDecrypt_safe_iff {d : Device P} {skb : SkBuff}
    {slot : Option KeyIdx} (hlen : dataHdr3Len ≤ skb.len) :
    (readRxFrameDecrypt level d skb slot).All Access.Safe ↔ MpduDropReads level d skb slot := by
  have hfc : (readHdr skb 0 2 frameCtl).All Access.Safe := readHdr_safe hlen (by decide) _
  have hsender : (readSender skb).All Access.Safe := readSender_safe (le_trans (by decide) hlen)
  unfold readRxFrameDecrypt MpduDropReads Device.mpduRes
  cases d.slotOps slot with
  | none => exact iff_of_true (Traced.pure_all _) (by simp)
  | some r =>
    obtain ⟨idx, ops, priv⟩ := r
    dsimp only [Option.bind_some]
    cases ops.decryptMpdu with
    | none => exact iff_of_true (Traced.pure_all _) (by simp)
    | some op =>
      dsimp only
      rw [Traced.all_bind, and_iff_right hfc, readHdr_value, Traced.all_ite, Traced.all_ite, Traced.all_bind]
      by_cases hstop : d.countermeasuresStop ops = true
      · simp [hstop, hsender]
      · by_cases hret : (op skb (getHdrlen (frameCtl skb.data)) priv).ret < 0
        · have hkey : ∀ b : SkBuff, (readFrame b (getHdrlen (frameCtl skb.data) + 3) 1 ()).All Access.Safe ↔
              getHdrlen (frameCtl skb.data) + 4 ≤ b.len := fun b => readFrame_safe_iff b Nat.one_pos ()
          simp [hstop, hret, hkey, readSenderAfter_safe_iff, Traced.all_ite]
          tauto
        · simp [hstop, hret]

theorem readRxOpen_safe_iff (hlen : dataHdr3Len ≤ (w.heap b).skb.len) :
    (readRxOpen level w b).All Access.Safe ↔ (w.dev.opens (frameCtl (w.heap b).skb.data) = true →
      MpduDropReads level w.dev (w.heap b).skb (decryptSlot w.dev (w.heap b).skb)) := by
  unfold readRxOpen
  dsimp only
  rw [Traced.all_bind, Traced.all_ite, readRxFrameDecrypt_safe_iff hlen]
  simp

theorem readRxFrameDecryptMsdu_safe_iff {d : Device P} {skb : SkBuff} {keyidx : Int}
    {slot : Option KeyIdx} (hlen : 2 ≤ skb.len) :
    (readRxFrameDecryptMsdu d skb keyidx slot).All Access.Safe ↔ MsduDropReads d skb keyidx slot := by
  have hfc : (readHdr skb 0 2 frameCtl).All Access.Safe := readHdr_safe hlen (by decide) _
  unfold readRxFrameDecryptMsdu MsduDropReads Device.msduRes
  cases d.slotOps slot with
  | none => exact iff_of_true (Traced.pure_all _) (by simp)
  | some r =>
    obtain ⟨idx, ops, priv⟩ := r
    dsimp only [Option.bind_some]
    cases ops.decryptMsdu with
    | none => exact iff_of_true (Traced.pure_all _) (by simp)
    | some op =>
      dsimp only
      rw [Traced.all_bind, and_iff_right hfc, readHdr_value, Traced.all_ite, Traced.all_bind,
        readSenderAfter_safe_iff]
      simp

theorem readCheckMsdu_safe_iff (hlen : 2 ≤ (w.heap b).skb.len) :
    (readCheckMsdu w b last).All Access.Safe ↔
      (w.dev.opens last.fc = true → MsduDropReads w.dev (w.heap b).skb last.keyidx last.slot) := by
  unfold readCheckMsdu
  rw [Traced.all_ite, readRxFrameDecryptMsdu_safe_iff hlen]
  simp

/-- What a fragment adds lies in it. -/
theorem readBytes_safe (skb : SkBuff) :
    (readFrame skb (if last.frag = 0 then 0 else last.hdrlen) (last.bytes skb).length ()).All
      Access.Safe := by
  intro acc hacc
  obtain ⟨k, hk, rfl⟩ := List.mem_map.mp hacc
  have hlt := List.mem_range.mp hk
  unfold LastFrame.bytes at hlt
  refine ⟨Nat.zero_le _, ?_⟩
  by_cases hfirst : last.frag = 0
  · rw [if_pos hfirst] at hlt ⊢
    rwa [zero_add]
  · rw [if_neg hfirst, List.length_drop] at hlt
    rw [if_neg hfirst, SkBuff.len]
    omega

/-- The MSDU in buffer `b` has what is read of it from the check of its MIC on:
what the messages name, and its EtherType, if it passes the checks. -/
def Unwraps (level : UInt32) (w : World P) (b : BufId) (last : LastFrame) : Prop :=
  (w.dev.opens last.fc = true → MsduDropReads w.dev (w.heap b).skb last.keyidx last.slot) ∧
    let (res, skb, d) := checkMsdu w b last
    res = 0 → EapolReads level d last.slot last.fc skb ∧
      (rejectsClear d last.slot last.fc skb = false → last.hdrlen + 8 ≤ skb.len)

theorem readDeliver_safe_iff (hlen : 2 ≤ (w.heap b).skb.len)
    (hsender : isProtected last.fc = false → 16 ≤ (w.heap b).skb.len) (reassembled : Bool) :
    (readDeliver level env w b last reassembled).All Access.Safe ↔ Unwraps level w b last := by
  have hsender' : isProtected last.fc = false → 16 ≤ (checkMsdu w b last).2.1.len := fun hclear => by
    rw [checkMsdu_clear hclear]
    exact hsender hclear
  unfold readDeliver Unwraps
  rw [Traced.all_bind, readCheckMsdu_value, readCheckMsdu_safe_iff hlen]
  dsimp only
  simp only [Traced.all_ite, Traced.all_bind, Traced.all_pure, implies_true, and_true, true_and,
    readRejectsClear_safe_iff last.slot hsender', readRejectsClear_value, readHasSnap_safe_iff, ne_eq,
    not_not, Bool.not_eq_true]

/-- The header of the MSDU that a fragment completes is read of its buffer. -/
theorem readAppendFragment_safe_iff : (readAppendFragment env w b last).All Access.Safe ↔
    dataHdr3Len ≤ (w.heap b).skb.len ∧
      ∀ fb w', appendFragment env w b last = .complete fb w' → dataHdr3Len ≤ (w'.heap fb).skb.len := by
  unfold readAppendFragment
  dsimp only
  rw [Traced.all_bind, readFragKey_safe_iff]
  refine and_congr_right fun hlen => ?_
  cases hget : fragCacheGet env w (w.heap b).skb.data with
  | mk found w' =>
    cases found with
    | none =>
      rw [appendFragment_none hget]
      exact iff_of_true (Traced.pure_all _) fun _ _ h => by cases h
    | some fb =>
      dsimp only
      by_cases hroom : (w'.heap fb).skb.tailroom < (last.bytes (w.heap b).skb).length
      · rw [appendFragment_overflow hget hroom, if_pos hroom, Traced.all_bind, readFragKey_safe_iff]
        exact iff_of_true ⟨hlen, Traced.pure_all _⟩ fun _ _ h => by cases h
      · rw [if_neg hroom, Traced.all_bind]
        refine (and_iff_right (readBytes_safe _)).trans ?_
        cases hmore : moreFrags last.fc with
        | true =>
          rw [appendFragment_stored hget (not_lt.mp hroom) hmore]
          exact iff_of_true (Traced.pure_all _) fun _ _ h => by cases h
        | false =>
          rw [appendFragment_complete hget (not_lt.mp hroom) hmore]
          rw [if_neg Bool.false_ne_true, Traced.all_bind, readFragKey_safe_iff]
          constructor
          · rintro ⟨hkey, -⟩ fb' w'' h
            cases h
            exact hkey
          · intro h
            exact ⟨(h fb _ rfl : _), Traced.pure_all _⟩

/-- A frame in clear is left as it is. -/
theorem rxOpened_clear (hclear : isProtected (frameCtl (w.heap b).skb.data) = false) :
    rxOpened w b = (0, (w.heap b).skb, w.dev) := by
  unfold rxOpened Device.opens
  rw [hclear, Bool.and_false]
  rfl

theorem hdrlen_le_opened (hlen : getHdrlen (frameCtl (w.heap b).skb.data) ≤ (w.heap b).skb.len)
    (hkey : 0 ≤ (rxOpen w b).1.keyidx) :
    getHdrlen (frameCtl (w.heap b).skb.data) ≤ (openedSkb w b).len := by
  rw [rxOpen_keyidx] at hkey
  unfold openedSkb rxOpened at *
  by_cases hopens : w.dev.opens (frameCtl (w.heap b).skb.data) = true
  · rw [if_pos hopens] at hkey ⊢
    exact (rxFrameDecrypt_hdr hkey hlen).1
  · rwa [if_neg hopens]

/-- The reads from the decryption on are in order: those of its messages, the
header of a fragment that was opened, that of the MSDU it completes, and what is
read of the MSDU. -/
def MsduReads (level : UInt32) (env : RxEnv) (w : World P) (b : BufId) : Prop :=
  let skb := (w.heap b).skb
  let (last, w') := rxOpen w b
  (w.dev.opens (frameCtl skb.data) = true → MpduDropReads level w.dev skb (decryptSlot w.dev skb)) ∧
    (0 ≤ last.keyidx →
      if isFragment skb.data then
        dataHdr3Len ≤ (w'.heap b).skb.len ∧
          ∀ fb w'', appendFragment env w' b last = .complete fb w'' →
            dataHdr3Len ≤ (w''.heap fb).skb.len ∧ Unwraps level w'' fb last
      else Unwraps level w' b last)

theorem readRxData_safe_iff (hlen : dataHdr3Len ≤ (w.heap b).skb.len)
    (hhdr : getHdrlen (frameCtl (w.heap b).skb.data) ≤ (w.heap b).skb.len) :
    (readRxData level env w b).All Access.Safe ↔ MsduReads level env w b := by
  unfold readRxData MsduReads
  dsimp only
  rw [Traced.all_bind, readRxOpen_value, readRxOpen_safe_iff hlen]
  refine and_congr_right fun _ => ?_
  by_cases hkey : (rxOpen w b).1.keyidx < 0
  · rw [if_pos hkey]
    exact iff_of_true (Traced.pure_all _) fun h => absurd hkey (not_lt.mpr h)
  · have hopened : 2 ≤ ((rxOpen w b).2.heap b).skb.len := by
      have hle := hdrlen_le_opened hhdr (not_lt.mp hkey)
      have hpos := getHdrlen_pos (frameCtl (w.heap b).skb.data)
      rw [rxOpen_heap, Function.update_self]
      exact le_trans (by omega : 2 ≤ 10) (hpos.trans hle)
    have hclear : isProtected (rxOpen w b).1.fc = false → 16 ≤ ((rxOpen w b).2.heap b).skb.len := by
      intro hfc
      have hsame : openedSkb w b = (w.heap b).skb := congrArg (fun r => r.2.1) (rxOpened_clear hfc)
      rw [rxOpen_heap, Function.update_self]
      exact le_trans (le_trans (by decide : 16 ≤ dataHdr3Len) hlen) (le_of_eq (congrArg SkBuff.len hsame.symm))
    rw [if_neg hkey, imp_iff_right (not_lt.mp hkey)]
    cases hfrag : isFragment (w.heap b).skb.data with
    | true =>
      rw [if_pos rfl, if_pos rfl, Traced.all_bind, readAppendFragment_value, readAppendFragment_safe_iff,
        and_assoc]
      refine and_congr_right fun _ => ?_
      cases hadd : appendFragment env (rxOpen w b).2 b (rxOpen w b).1 with
      | dropped w' =>
        exact iff_of_true ⟨fun _ _ h => (nomatch h), Traced.pure_all _⟩ fun _ _ h => (nomatch h)
      | stored w' =>
        exact iff_of_true ⟨fun _ _ h => (nomatch h), Traced.pure_all _⟩ fun _ _ h => (nomatch h)
      | complete fb w' =>
        dsimp only
        have hdeliver : ∀ _ : dataHdr3Len ≤ (w'.heap fb).skb.len,
            (readDeliver level env w' fb (rxOpen w b).1 true).All Access.Safe ↔
              Unwraps level w' fb (rxOpen w b).1 := fun h =>
          readDeliver_safe_iff (le_trans (by decide) h) (fun _ => le_trans (by decide) h) true
        constructor
        · rintro ⟨hkey, hmsdu⟩ fb' w'' h
          cases h
          have hlen' := hkey fb w' rfl
          exact ⟨hlen', (hdeliver hlen').mp hmsdu⟩
        · intro h
          obtain ⟨hlen', hunwraps⟩ := h fb w' rfl
          refine ⟨fun fb' w'' h' => ?_, (hdeliver hlen').mpr hunwraps⟩
          cases h'
          exact hlen'
    | false =>
      rw [if_neg Bool.false_ne_true, if_neg Bool.false_ne_true]
      exact readDeliver_safe_iff hopened hclear false

/-- What `ieee80211_rx` reads lies in the frame: it has the sequence control, does
not end right before the byte that names the key, and an admitted data frame has
what is read of it and of its MSDU. -/
def ReadsInside (level : UInt32) (env : RxEnv) (w : World P) (b : BufId) : Prop :=
  let skb := (w.heap b).skb
  skb.len < 10 ∨ dataHdr3Len ≤ skb.len ∧
    (w.dev.iwMode ≠ .monitor → w.dev.hostDecrypt = true →
      skb.len ≠ getHdrlen (frameCtl skb.data) + 3) ∧
    ∀ d, rxAdmit env w.dev skb = .data d → MsduReads level env { w with dev := d } b

/-- **The reads of the receive path.** At any debug level they are inside the
frame exactly where `ReadsInside` says so. -/
theorem readRx_safe_iff (level : UInt32) (mgt : RxMgt P) (env : RxEnv) (w : World P) (b : BufId) :
    (readRx level mgt env w b).All Access.Safe ↔ ReadsInside level env w b := by
  unfold readRx ReadsInside
  dsimp only
  rw [Traced.all_bind, readRxAdmit_safe_iff, readRxAdmit_value]
  by_cases hshort : (w.heap b).skb.len < 10
  · have hdrop : rxAdmit env w.dev (w.heap b).skb = .drop w.dev := by
      unfold rxAdmit
      dsimp only
      rw [if_pos hshort]
    rw [hdrop]
    exact iff_of_true ⟨Or.inl hshort, Traced.pure_all _⟩ (Or.inl hshort)
  · rw [or_iff_right hshort, or_iff_right hshort, and_assoc]
    refine and_congr_right fun hlen => and_congr_right fun _ => ?_
    cases hadmit : rxAdmit env w.dev (w.heap b).skb with
    | drop d => exact iff_of_true (Traced.pure_all _) fun _ h => (nomatch h)
    | monitor => exact iff_of_true (Traced.pure_all _) fun _ h => (nomatch h)
    | mgmt d => exact iff_of_true (Traced.pure_all _) fun _ h => (nomatch h)
    | data d =>
      have hdata := @readRxData_safe_iff P level env { w with dev := d } b hlen (hdrlen_le_len hadmit)
      refine hdata.trans ⟨fun h d' hd => ?_, fun h => h d rfl⟩
      cases hd
      exact h

/-- For a frame in clear that is an MSDU of its own, these are the eight bytes
behind its header, and the type of an EAPOL packet that is printed. -/
theorem msduReads_clear (hclear : isProtected (frameCtl (w.heap b).skb.data) = false)
    (hwhole : isFragment (w.heap b).skb.data = false) :
    MsduReads level env w b ↔
      EapolReads level w.dev (decryptSlot w.dev (w.heap b).skb) (frameCtl (w.heap b).skb.data)
        (w.heap b).skb ∧
      (rejectsClear w.dev (decryptSlot w.dev (w.heap b).skb) (frameCtl (w.heap b).skb.data)
        (w.heap b).skb = false → getHdrlen (frameCtl (w.heap b).skb.data) + 8 ≤ (w.heap b).skb.len) := by
  have hopens : w.dev.opens (frameCtl (w.heap b).skb.data) = false := by
    rw [Device.opens, hclear, Bool.and_false]
  have hopened : rxOpened w b = (0, (w.heap b).skb, w.dev) := rxOpened_clear hclear
  have hdev : (rxOpen w b).2.dev = w.dev := congrArg (fun r => r.2.2) hopened
  have hkey : (rxOpen w b).1.keyidx = 0 := congrArg (fun r => r.1) hopened
  have hskb : ((rxOpen w b).2.heap b).skb = (w.heap b).skb := by
    rw [rxOpen_heap, Function.update_self]
    exact congrArg (fun r => r.2.1) hopened
  have hcheck : checkMsdu (rxOpen w b).2 b (rxOpen w b).1 = (0, (w.heap b).skb, w.dev) := by
    rw [checkMsdu_clear hclear, hskb, hdev]
  have hlast : (rxOpen w b).2.dev.opens (rxOpen w b).1.fc = false := by
    rw [hdev]
    exact hopens
  unfold MsduReads Unwraps
  dsimp only
  rw [hkey, hwhole, hcheck, hopens, hlast, if_neg Bool.false_ne_true, imp_iff_right le_rfl,
    imp_iff_right rfl]
  simp only [Bool.false_eq_true, false_imp_iff, true_and]
  rfl

end

/-! ### Modules that leave a frame they refuse as it was -/

/-- A module that fails leaves the frame where it was and as long, and finds the
ICV wrong only in a frame with the byte that names the key. -/
structure CryptoOps.FailsInPlace (ops : CryptoOps P) : Prop where
  mpdu : ∀ op ∈ ops.decryptMpdu, ∀ skb hdrLen priv, (op skb hdrLen priv).ret < 0 →
    (op skb hdrLen priv).skb.headroom = skb.headroom ∧ (op skb hdrLen priv).skb.len = skb.len
  icv : ∀ op ∈ ops.decryptMpdu, ∀ skb hdrLen priv, (op skb hdrLen priv).ret = -2 → hdrLen + 4 ≤ skb.len
  msdu : ∀ op ∈ ops.decryptMsdu, ∀ skb keyidx hdrLen priv, (op skb keyidx hdrLen priv).ret < 0 →
    (op skb keyidx hdrLen priv).skb.headroom = skb.headroom ∧
      (op skb keyidx hdrLen priv).skb.len = skb.len

theorem senderStays_of_eq {skb after : SkBuff} (hlen : 16 ≤ skb.len)
    (h : after.headroom = skb.headroom ∧ after.len = skb.len) : SenderStays skb after := by
  unfold SenderStays
  rw [h.1, h.2]
  exact ⟨Nat.le_add_right _ _, Nat.add_le_add_left hlen _⟩

section

variable {d : Device P} {skb : SkBuff} {slot : Option KeyIdx}

/-- The messages on what such a module refuses ask for nothing but the sender. -/
theorem mpduDropReads_of_inPlace (h : ∀ c ∈ d.slotOps slot, c.2.1.FailsInPlace) (level : UInt32)
    (hlen : 16 ≤ skb.len) : MpduDropReads level d skb slot := by
  intro res hres hret _
  obtain ⟨⟨idx, ops, priv⟩, hc, hasked⟩ := Option.mem_bind_iff.mp hres
  have hops : ops.FailsInPlace := h _ hc
  dsimp only at hasked
  split_ifs at hasked
  · cases hasked
  · obtain ⟨op, hop, rfl⟩ := Option.mem_map.mp hasked
    have hsame := hops.mpdu op hop _ _ _ hret
    refine ⟨senderStays_of_eq hlen hsame, fun hicv => ?_⟩
    rw [hsame.2]
    exact hops.icv op hop _ _ _ hicv

theorem msduDropReads_of_inPlace (h : ∀ c ∈ d.slotOps slot, c.2.1.FailsInPlace) (keyidx : Int)
    (hlen : 16 ≤ skb.len) : MsduDropReads d skb keyidx slot := by
  intro res hres hret
  obtain ⟨⟨idx, ops, priv⟩, hc, hasked⟩ := Option.mem_bind_iff.mp hres
  have hops : ops.FailsInPlace := h _ hc
  obtain ⟨op, hop, rfl⟩ := Option.mem_map.mp hasked
  exact senderStays_of_eq hlen (hops.msdu op hop _ _ _ _ hret)

end

/-- A data frame of the access point that is all header: its EtherType is read
from behind it. -/
theorem emptyPayload_not_safe : ¬ ∀ (level : UInt32) (mgt : RxMgt Unit) (env : RxEnv) (w : World Unit)
    (b : BufId), 10 ≤ (w.heap b).skb.len → (readRx level mgt env w b).All Access.Safe := by
  intro h
  have hsafe := h 0 (fun _ _ => .idle Unit) ⟨⟨1000, true, fun _ => false, ⟨0, 0, 0, 0, 0, 0⟩⟩, 1001, true⟩
    ((World.start (Device.init Unit ⟨250, true⟩ ⟨2, 0, 0, 0, 0, 1⟩)).arrive
      (apFrame 0 0 ⟨0, 0, 0, 0, 0, 0⟩ ⟨2, 0, 0, 0, 0, 1⟩ [])) 0 (by decide +kernel)
  exact absurd hsafe (by decide +kernel)

end Rtl8187

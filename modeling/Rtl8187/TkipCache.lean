/-
# The first phase a TKIP receiver keeps

`ieee80211_tkip_decrypt` takes the first phase of the key mixing that it kept
when the upper half of a frame's counter is `rx_iv32`. What it kept is that of
the last frame that had another, and `rx_iv32` moves when a MIC is good, not
when a first phase is mixed. So it decrypts like a receiver that keeps nothing
as long as what it takes was mixed for the frame's transmitter and upper half
(`tkip_cache_agrees`); a frame that is accepted and whose MIC is not checked
leaves a first phase that is not that of `rx_iv32` (`tkip_cache_stale`).

Key definitions: `tkipDecryptRef`, `Watched`, `Watched.Fits`, `Agrees`.
Key theorems: `tkip_cache_agrees`.
-/
import Rtl8187.Replay

namespace Rtl8187

open Bytes

section

variable (prim : Primitives)

/-! ### A receiver that keeps nothing -/

/-- Decryption with the first phase computed for every frame: the result and
the buffer. -/
def tkipDecryptRef (tkey : TkipData) (skb : SkBuff) (hdrLen : ℕ) : Int × SkBuff :=
  let keyByte := at8 skb.data (hdrLen + 3)
  if skb.len < hdrLen + 8 + 4 then (-1, skb)
  else if keyByte &&& extIv = 0 then (-2, skb)
  else if keyIdxOf keyByte ≠ tkey.keyIdx then (-6, skb)
  else if !tkey.keySet then (-3, skb)
  else
    let ttak := tkipMixingPhase1 tkey.key (addr2 skb.data) (hdrIv32 skb.data hdrLen)
    let plen := skb.len - hdrLen - 12
    let plain := arc4Crypt (tkipMixingPhase2 tkey.key ttak (hdrIv16 skb.data hdrLen))
      (skb.data.drop (hdrLen + 8))
    let opened := { skb with data := skb.data.take (hdrLen + 8) ++ plain }
    if prim.icv (plain.take plen) ≠ plain.drop plen then (-5, opened)
    else ((keyIdxOf keyByte).val, opened.strip hdrLen 8 4)

/-- Whether a frame comes as far as the key mixing. -/
def tkipReaches (tkey : TkipData) (f : Mpdu) : Bool :=
  decide (f.hdrLen + 8 + 4 ≤ f.skb.len ∧ at8 f.skb.data (f.hdrLen + 3) &&& extIv ≠ 0 ∧
    keyIdxOf (at8 f.skb.data (f.hdrLen + 3)) = tkey.keyIdx ∧ tkey.keySet = true)

variable {tkey tkey' : TkipData} {f : Mpdu}

/-- It needs key and slot only. -/
theorem tkipDecryptRef_congr (hkey : tkey'.key = tkey.key) (hset : tkey'.keySet = tkey.keySet)
    (hidx : tkey'.keyIdx = tkey.keyIdx) :
    tkipDecryptRef prim tkey' f.skb f.hdrLen = tkipDecryptRef prim tkey f.skb f.hdrLen := by
  unfold tkipDecryptRef
  rw [hkey, hset, hidx]

/-- A frame that does not come as far changes nothing. -/
theorem tkipRx_refused (h : tkipReaches tkey f = false) : tkipRx prim tkey (.mpdu f) = tkey := by
  have hnot := of_decide_eq_false h
  unfold tkipRx tkipDecrypt
  dsimp only
  split_ifs with h1 h2 h3 h4
  · rfl
  · rfl
  · rfl
  · rfl
  · exact absurd ⟨Nat.not_lt.mp h1, h2, not_not.mp h3, by simpa using h4⟩ hnot
  · exact absurd ⟨Nat.not_lt.mp h1, h2, not_not.mp h3, by simpa using h4⟩ hnot

/-- One that does leaves the first phase it took: for good if its ICV is good,
or else if its upper half is that of `rx_iv32`. -/
theorem tkipRx_reached (h : tkipReaches tkey f = true) :
    ((tkipDecrypt prim f.skb f.hdrLen tkey).ret = -5 ∧ tkipRx prim tkey (.mpdu f) = { tkey with
      rxTtak := tkey.rxPhase1 (addr2 f.skb.data) (hdrIv32 f.skb.data f.hdrLen)
      rxPhase1Done := hdrIv32 f.skb.data f.hdrLen == tkey.rxIv32
      icvErrors := tkey.icvErrors + 1 }) ∨
    (0 ≤ (tkipDecrypt prim f.skb f.hdrLen tkey).ret ∧ tkipRx prim tkey (.mpdu f) = { tkey with
      rxTtak := tkey.rxPhase1 (addr2 f.skb.data) (hdrIv32 f.skb.data f.hdrLen)
      rxPhase1Done := true
      rxIv32New := hdrIv32 f.skb.data f.hdrLen
      rxIv16New := hdrIv16 f.skb.data f.hdrLen }) := by
  obtain ⟨h1, h2, h3, h4⟩ := of_decide_eq_true h
  unfold tkipRx tkipDecrypt
  dsimp only
  rw [if_neg (by omega), if_neg h2, if_neg (by simpa using h3), if_neg (by simp [h4])]
  split_ifs
  · exact Or.inl ⟨rfl, rfl⟩
  · exact Or.inr ⟨by simp, rfl⟩

/-- A frame whose first phase is right is decrypted as if nothing were kept. -/
theorem tkipOut_eq_ref (h : tkipReaches tkey f = true →
      tkey.rxPhase1 (addr2 f.skb.data) (hdrIv32 f.skb.data f.hdrLen) =
        tkipMixingPhase1 tkey.key (addr2 f.skb.data) (hdrIv32 f.skb.data f.hdrLen)) :
    tkipOut prim tkey (.mpdu f) = tkipDecryptRef prim tkey f.skb f.hdrLen := by
  unfold tkipOut tkipDecrypt tkipDecryptRef
  dsimp only
  by_cases h1 : f.skb.len < f.hdrLen + 8 + 4
  · rw [if_pos h1, if_pos h1]
  rw [if_neg h1, if_neg h1]
  by_cases h2 : at8 f.skb.data (f.hdrLen + 3) &&& extIv = 0
  · rw [if_pos h2, if_pos h2]
  rw [if_neg h2, if_neg h2]
  by_cases h3 : keyIdxOf (at8 f.skb.data (f.hdrLen + 3)) ≠ tkey.keyIdx
  · rw [if_pos h3, if_pos h3]
  rw [if_neg h3, if_neg h3]
  by_cases h4 : (!tkey.keySet) = true
  · rw [if_pos h4, if_pos h4]
  have hreach : tkipReaches tkey f = true :=
    decide_eq_true ⟨Nat.not_lt.mp h1, h2, not_not.mp h3, by simpa using h4⟩
  rw [if_neg h4, if_neg h4, h hreach]
  split_ifs <;> rfl

/-! ### What was mixed last -/

/-- A context, with the transmitter and the upper half its first phase was
mixed for last. -/
structure Watched where
  tkey : TkipData
  mixed : Option (Mac × UInt32)

namespace Watched

/-- `tkip_mixing_phase1` runs where the frame has another upper half than
`rx_iv32`, or nothing is kept. -/
def step (w : Watched) : TkipInput → Watched
  | .mpdu f =>
    let iv32 := hdrIv32 f.skb.data f.hdrLen
    ⟨tkipRx prim w.tkey (.mpdu f),
      if tkipReaches w.tkey f && (iv32 != w.tkey.rxIv32 || !w.tkey.rxPhase1Done) then
        some (addr2 f.skb.data, iv32)
      else w.mixed⟩
  | .msdu skb keyidx hdrLen => ⟨tkipRx prim w.tkey (.msdu skb keyidx hdrLen), w.mixed⟩

/-- A frame that finds its upper half in `rx_iv32` and a first phase kept finds
the one mixed for its transmitter and its upper half. -/
def Fits (w : Watched) : TkipInput → Prop
  | .mpdu f => tkipReaches w.tkey f = true → hdrIv32 f.skb.data f.hdrLen = w.tkey.rxIv32 →
      w.tkey.rxPhase1Done = true → w.mixed = some (addr2 f.skb.data, hdrIv32 f.skb.data f.hdrLen)
  | .msdu _ _ _ => True

/-- What is kept was mixed under the key that was set. -/
structure Sound (start : TkipData) (w : Watched) : Prop where
  key : w.tkey.key = start.key
  keySet : w.tkey.keySet = start.keySet
  keyIdx : w.tkey.keyIdx = start.keyIdx
  kept : w.tkey.rxPhase1Done = true → ∃ ta iv32, w.mixed = some (ta, iv32) ∧
    w.tkey.rxTtak = tkipMixingPhase1 start.key ta iv32

variable {start : TkipData} {w : Watched}

/-- So where it fits, the first phase is that of the frame. -/
theorem Sound.rxPhase1 (h : Sound start w) (hfits : w.Fits (.mpdu f))
    (hreach : tkipReaches w.tkey f = true) :
    w.tkey.rxPhase1 (addr2 f.skb.data) (hdrIv32 f.skb.data f.hdrLen) =
      tkipMixingPhase1 start.key (addr2 f.skb.data) (hdrIv32 f.skb.data f.hdrLen) := by
  unfold TkipData.rxPhase1
  split_ifs with hmix
  · rw [h.key]
  · obtain ⟨hiv, hdone⟩ := not_or.mp hmix
    have hdone' : w.tkey.rxPhase1Done = true := by simpa using hdone
    obtain ⟨ta, iv32, hmixed, httak⟩ := h.kept hdone'
    rw [hfits hreach (not_not.mp hiv) hdone'] at hmixed
    obtain ⟨rfl, rfl⟩ := Prod.mk.inj (Option.some.inj hmixed)
    exact httak

/-- Every input keeps it, whether it fits or not. -/
theorem Sound.step (h : Sound start w) (i : TkipInput) : Sound start (w.step prim i) := by
  cases i with
  | msdu skb keyidx hdrLen =>
    unfold Watched.step tkipRx
    dsimp only
    obtain ⟨-, hpriv, -⟩ | ⟨-, n, hpriv⟩ := michaelMicVerify_priv prim skb hdrLen w.tkey keyidx
    · rw [hpriv]
      exact ⟨h.key, h.keySet, h.keyIdx, h.kept⟩
    · rw [hpriv]
      exact ⟨h.key, h.keySet, h.keyIdx, h.kept⟩
  | mpdu f =>
    unfold Watched.step
    dsimp only
    cases hreach : tkipReaches w.tkey f with
    | false =>
      rw [tkipRx_refused prim hreach]
      exact ⟨h.key, h.keySet, h.keyIdx, h.kept⟩
    | true =>
      have hkept : ∃ ta iv32,
          (if true && (hdrIv32 f.skb.data f.hdrLen != w.tkey.rxIv32 || !w.tkey.rxPhase1Done) then
            some (addr2 f.skb.data, hdrIv32 f.skb.data f.hdrLen) else w.mixed) = some (ta, iv32) ∧
          w.tkey.rxPhase1 (addr2 f.skb.data) (hdrIv32 f.skb.data f.hdrLen) =
            tkipMixingPhase1 start.key ta iv32 := by
        unfold TkipData.rxPhase1
        by_cases hmix : hdrIv32 f.skb.data f.hdrLen ≠ w.tkey.rxIv32 ∨ (!w.tkey.rxPhase1Done) = true
        · -- mixed anew
          rw [if_pos hmix, if_pos (by simpa using hmix)]
          exact ⟨_, _, rfl, by rw [h.key]⟩
        · -- taken from what was kept
          have hdone : w.tkey.rxPhase1Done = true := by simpa using (not_or.mp hmix).2
          rw [if_neg hmix, if_neg (by simpa using hmix)]
          exact h.kept hdone
      obtain ⟨-, hpriv⟩ | ⟨-, hpriv⟩ := tkipRx_reached prim hreach
      · rw [hpriv]
        exact ⟨h.key, h.keySet, h.keyIdx, fun _ => hkept⟩
      · rw [hpriv]
        exact ⟨h.key, h.keySet, h.keyIdx, fun _ => hkept⟩

end Watched

/-! ### Runs -/

/-- A frame is decrypted as by the receiver that was given `start`'s key and
keeps nothing. -/
def Agrees (start s : TkipData) : TkipInput → Prop
  | .mpdu f => tkipOut prim s (.mpdu f) = tkipDecryptRef prim start f.skb f.hdrLen
  | .msdu _ _ _ => True

/-- **What is kept makes no difference** in a run where it is taken only for
the transmitter and the upper half it was mixed for. -/
theorem tkip_cache_agrees (key : List UInt8) (seq : Option (List UInt8)) (t : TkipData)
    (is : List TkipInput)
    (hfits : Run.AllSteps (Watched.step prim) Watched.Fits ⟨(tkipSetKey key seq t).2, none⟩ is) :
    Run.AllSteps (tkipRx prim) (Agrees prim (tkipSetKey key seq t).2) (tkipSetKey key seq t).2 is := by
  set start := (tkipSetKey key seq t).2 with hstart
  have hnone : start.rxPhase1Done = false := by
    rw [hstart]
    unfold tkipSetKey
    dsimp only
    split_ifs <;> rfl
  have hsound : Watched.Sound start ⟨start, none⟩ :=
    ⟨rfl, rfl, rfl, fun hdone => by rw [hnone] at hdone; cases hdone⟩
  have hproj : ∀ (w : Watched) i, (w.step prim i).tkey = tkipRx prim w.tkey i := by
    intro w i
    cases i <;> rfl
  refine Run.AllSteps.proj Watched.tkey hproj ⟨start, none⟩ is
    (Run.allSteps_of_inv (fun w i hw hi => ⟨hw.step prim i, ?_⟩) _ _ hsound hfits)
  cases i with
  | msdu skb keyidx hdrLen => trivial
  | mpdu f =>
    have hphase := fun hreach => hw.rxPhase1 hi hreach
    rw [← hw.key] at hphase
    exact (tkipOut_eq_ref prim hphase).trans (tkipDecryptRef_congr prim hw.key hw.keySet hw.keyIdx)

end

/-- A frame twice: the second time the first phase is there. -/
theorem tkip_cache_agrees_twice : Run.AllSteps (tkipRx linuxPrimitives)
    (Agrees linuxPrimitives (tkipSetKey (List.replicate tkipKeyLen 1) none (tkipInit 0)).2)
    (tkipSetKey (List.replicate tkipKeyLen 1) none (tkipInit 0)).2
    [.mpdu ⟨⟨0, List.replicate 36 0x20, []⟩, 24⟩, .mpdu ⟨⟨0, List.replicate 36 0x20, []⟩, 24⟩] := by
  apply tkip_cache_agrees linuxPrimitives (List.replicate tkipKeyLen 1) none (tkipInit 0)
  refine ⟨fun _ _ hdone => ?_, fun _ _ _ => ?_, trivial⟩
  · cases hdone
  · rfl

/-! ### A first phase that is stale -/

/-- An accepted frame has the ICV of its payload. -/
theorem tkipDecrypt_icv (prim : Primitives) {tkey : TkipData} {f : Mpdu}
    (h : 0 ≤ (tkipDecrypt prim f.skb f.hdrLen tkey).ret) :
    let plain := arc4Crypt (tkipMixingPhase2 tkey.key
      (tkey.rxPhase1 (addr2 f.skb.data) (hdrIv32 f.skb.data f.hdrLen)) (hdrIv16 f.skb.data f.hdrLen))
      (f.skb.data.drop (f.hdrLen + 8))
    prim.icv (plain.take (f.skb.len - f.hdrLen - 12)) = plain.drop (f.skb.len - f.hdrLen - 12) := by
  unfold tkipDecrypt at h
  dsimp only at h
  split_ifs at h with h1 h2 h3 h4 h5
  · exact absurd h (by simp)
  · exact absurd h (by simp)
  · exact absurd h (by simp)
  · exact absurd h (by simp)
  · exact absurd h (by simp)
  · exact not_not.mp h5

/-- A transmitter. -/
def goodTa : Mac := ⟨2, 2, 2, 2, 2, 2⟩

/-- A good frame without payload, under a key of zeros. -/
def goodMpdu (iv32 : UInt32) : Mpdu where
  skb := ⟨0, tkipFrame linuxPrimitives (List.replicate tkipKeyLen 0) 0
    (tkipMixingPhase1 (List.replicate tkipKeyLen 0) goodTa iv32) iv32 0 (List.replicate 24 2) [], []⟩
  hdrLen := 24

/-- It is good for a receiver that has its first phase. -/
theorem goodMpdu_accepted {tkey : TkipData} (hkey : tkey.key = List.replicate tkipKeyLen 0)
    (hset : tkey.keySet = true) (hidx : tkey.keyIdx = 0) {iv32 : UInt32}
    (hphase : tkey.rxPhase1 goodTa iv32 = tkipMixingPhase1 tkey.key goodTa iv32) :
    (tkipOut linuxPrimitives tkey (.mpdu (goodMpdu iv32))).1 = 0 ∧
      tkipRx linuxPrimitives tkey (.mpdu (goodMpdu iv32)) = { tkey with
        rxTtak := tkipMixingPhase1 tkey.key goodTa iv32
        rxPhase1Done := true, rxIv32New := iv32, rxIv16New := 0 } := by
  have hta : addr2 (goodMpdu iv32).skb.data = goodTa := rfl
  have hd : (goodMpdu iv32).skb.data = tkipFrame linuxPrimitives tkey.key tkey.keyIdx
      (tkipMixingPhase1 tkey.key goodTa iv32) iv32 0 (List.replicate 24 2) [] := by
    rw [hidx, hkey]
    rfl
  have hphase' : tkey.rxPhase1 (addr2 (goodMpdu iv32).skb.data) iv32 =
      tkipMixingPhase1 tkey.key goodTa iv32 := by rw [hta, hphase]
  obtain ⟨hret, hpriv, -⟩ := tkipDecrypt_encrypted hset hd (by rw [hphase'])
  rw [hphase'] at hpriv
  rw [hidx] at hret
  exact ⟨hret, hpriv⟩

/-- After a frame of the next upper half whose MIC was not checked, a good one
of `rx_iv32` is decrypted under the wrong key. -/
theorem tkip_cache_stale : ¬ Run.AllSteps (tkipRx linuxPrimitives)
    (Agrees linuxPrimitives (tkipSetKey (List.replicate tkipKeyLen 0) none (tkipInit 0)).2)
    (tkipSetKey (List.replicate tkipKeyLen 0) none (tkipInit 0)).2
    [.mpdu (goodMpdu 1), .mpdu (goodMpdu 0)] := by
  rintro ⟨-, hagrees, -⟩
  set start := (tkipSetKey (List.replicate tkipKeyLen 0) none (tkipInit 0)).2
  have hkey : start.key = List.replicate tkipKeyLen 0 := rfl
  have hfresh : ∀ iv32, start.rxPhase1 goodTa iv32 = tkipMixingPhase1 start.key goodTa iv32 := by
    intro iv32
    exact if_pos (Or.inr rfl)
  -- the first frame leaves its first phase, and `rx_iv32` as it was
  obtain ⟨-, hfirst⟩ := goodMpdu_accepted hkey rfl rfl (hfresh 1)
  -- the second one is good for a receiver that keeps nothing
  obtain ⟨hgood, -⟩ := goodMpdu_accepted hkey rfl rfl (hfresh 0)
  rw [tkipOut_eq_ref linuxPrimitives fun _ => hfresh 0] at hgood
  rw [hfirst] at hagrees
  set stale : TkipData := { start with
    rxTtak := tkipMixingPhase1 start.key goodTa 1, rxPhase1Done := true, rxIv32New := 1, rxIv16New := 0 }
  have hsame : tkipOut linuxPrimitives stale (.mpdu (goodMpdu 0)) =
      tkipDecryptRef linuxPrimitives start (goodMpdu 0).skb (goodMpdu 0).hdrLen := hagrees
  have hfst : ∀ (t : TkipData) (f : Mpdu), (tkipOut linuxPrimitives t (.mpdu f)).1 =
      (tkipDecrypt linuxPrimitives f.skb f.hdrLen t).ret := fun _ _ => rfl
  rw [← hsame, hfst] at hgood
  -- but under the first phase that is kept its ICV does not come out
  set k0 := tkipMixingPhase2 start.key (tkipMixingPhase1 start.key goodTa 0) 0
  set k1 := tkipMixingPhase2 start.key (tkipMixingPhase1 start.key goodTa 1) 0
  have hdata : (goodMpdu 0).skb.data.drop ((goodMpdu 0).hdrLen + 8) =
      arc4Crypt k0 [0, 0, 0, 0] := by
    apply List.drop_left'
    rfl
  have hlen : (goodMpdu 0).skb.len - (goodMpdu 0).hdrLen - 12 = 0 := by
    have h36 : (goodMpdu 0).skb.len = 36 := by
      show (_ ++ arc4Crypt _ _).length = 36
      rw [List.length_append, length_arc4Crypt]
      rfl
    rw [h36]
    rfl
  obtain ⟨h16, h32⟩ := @hdrIv_tkipFrame linuxPrimitives 0 (List.replicate tkipKeyLen 0)
    (tkipMixingPhase1 (List.replicate tkipKeyLen 0) goodTa 0) 0 0 (List.replicate 24 2) []
  have hstale : stale.rxPhase1 goodTa 0 = tkipMixingPhase1 start.key goodTa 1 := if_neg (by decide)
  have hta : addr2 (goodMpdu 0).skb.data = goodTa := rfl
  have hicv : linuxPrimitives.icv [] = arc4Crypt k1 (arc4Crypt k0 [0, 0, 0, 0]) := by
    have h := tkipDecrypt_icv linuxPrimitives hgood.ge
    dsimp only at h
    have h16' : hdrIv16 (goodMpdu 0).skb.data (goodMpdu 0).hdrLen = 0 := h16
    have h32' : hdrIv32 (goodMpdu 0).skb.data (goodMpdu 0).hdrLen = 0 := h32
    rw [hlen, hdata, h16', h32', hta, hstale, List.take_zero, List.drop_zero] at h
    exact h
  have hzero : linuxPrimitives.icv [] = [0, 0, 0, 0] := by decide
  rw [hzero] at hicv
  exact arc4Crypt_ne (by decide +kernel) 0 [0, 0, 0] [0, 0, 0] hicv.symm

end Rtl8187

/-
# The lengths a network stores

The SSID, the rates and the WPA and RSN elements of a network lie in arrays of
a fixed size, with their lengths beside them. The parser, the copies and
`ieee80211_wx_set_essid` clamp or check what they write. `r8180_wx_set_scan`
copies the SSID it is asked to look for into `current_network` unchecked, so
the lengths hold exactly in the runs in which it is asked for SSIDs of at most
`IW_ESSID_MAX_SIZE` bytes (`lengths_fit_iff`).

Key definitions: `Fits`, `LengthsFit`.
Key theorems: `networkInit_fits`, `fits_rules`, `lengths_fit_iff`.
-/
import Rtl8187.NetSteps
import Rtl8187.Handshake

namespace Rtl8187

open Bytes

variable {P : Type}

namespace HeardNetwork

/-- Each length is at most its array's size, and the array of the SSID has kept
its own: nothing was written behind it. -/
structure Fits (net : HeardNetwork) : Prop where
  ssid : net.ssid.length ≤ iwEssidMaxSize
  buf : net.ssidBuf.length = iwEssidMaxSize + 1
  rates : net.rates.length ≤ maxRatesLength
  ratesEx : net.ratesEx.length ≤ maxRatesExLength
  wpaIe : net.wpaIe.length ≤ maxWpaIeLen
  rsnIe : net.rsnIe.length ≤ maxWpaIeLen

theorem setSsid_ssidBuf (net : HeardNetwork) (buf : List UInt8) (len : ℕ) :
    (net.setSsid buf len).ssidBuf = buf := List.take_append_drop len buf

variable {net net' : HeardNetwork}

theorem Fits.congr (h : Fits net) (hssid : net'.ssid = net.ssid) (htail : net'.ssidTail = net.ssidTail)
    (hrates : net'.rates = net.rates) (hratesEx : net'.ratesEx = net.ratesEx)
    (hwpa : net'.wpaIe = net.wpaIe) (hrsn : net'.rsnIe = net.rsnIe) : Fits net' := by
  have hbuf : net'.ssidBuf = net.ssidBuf := by
    rw [ssidBuf, ssidBuf, hssid, htail]
  constructor
  · rw [hssid]
    exact h.ssid
  · rw [hbuf]
    exact h.buf
  · rw [hrates]
    exact h.rates
  · rw [hratesEx]
    exact h.ratesEx
  · rw [hwpa]
    exact h.wpaIe
  · rw [hrsn]
    exact h.rsnIe

/-- An SSID is set that is not too long, and not behind the array. -/
theorem Fits.setSsid (h : Fits net) {buf : List UInt8} {len : ℕ} (hbuf : buf.length = iwEssidMaxSize + 1)
    (hlen : len ≤ iwEssidMaxSize) : Fits (net.setSsid buf len) := by
  refine ⟨?_, ?_, h.rates, h.ratesEx, h.wpaIe, h.rsnIe⟩
  · exact (List.length_take_le _ _).trans hlen
  · rw [setSsid_ssidBuf]
    exact hbuf

theorem fits_zeroed : Fits .zeroed := by
  constructor <;> decide

end HeardNetwork

open HeardNetwork

/-! ### The parser -/

section

variable {net : HeardNetwork}

theorem foldl_noteRate_fits (rates : List UInt8) (h : Fits net) : Fits (rates.foldl noteRate net) := by
  rw [foldl_noteRate]
  exact h.congr rfl rfl rfl rfl rfl rfl

theorem parseTim_fits (d : Device P) (stats : RxStats) (info : ℕ → UInt8) (len : ℕ) (h : Fits net) :
    Fits (parseTim d stats info len net) := by
  obtain ⟨period, data, time, htim⟩ := parseTim_eq d stats info len net
  rw [htim]
  exact h.congr rfl rfl rfl rfl rfl rfl

/-- Whatever an element holds, it is cut to the array it is copied to. -/
theorem parseElement_fits (d : Device P) (stats : RxStats) (id : UInt8) (info : ℕ → UInt8) (len : ℕ)
    (h : Fits net) : Fits (parseElement d stats id info len net) := by
  unfold parseElement
  extract_lets body element n rates rates'
  have hbody : ∀ k, (body k).length = k := fun k => by simp [body]
  have helement : ∀ k, (element (min (k + 2) maxWpaIeLen)).length ≤ maxWpaIeLen := fun k =>
    (List.length_take_le _ _).trans (min_le_right _ _)
  split_ifs
  · exact h.congr rfl rfl rfl rfl rfl rfl
  · have hn : n ≤ iwEssidMaxSize := min_le_right _ _
    refine h.setSsid ?_ hn
    have hbuf := h.buf
    simp only [List.length_append, List.length_replicate, List.length_drop, hbody, hbuf]
    omega
  · apply foldl_noteRate_fits
    refine ⟨h.ssid, h.buf, ?_, h.ratesEx, h.wpaIe, h.rsnIe⟩
    exact (hbody _).trans_le (min_le_right _ _)
  · apply foldl_noteRate_fits
    refine ⟨h.ssid, h.buf, h.rates, ?_, h.wpaIe, h.rsnIe⟩
    exact (hbody _).trans_le (min_le_right _ _)
  · exact h.congr rfl rfl rfl rfl rfl rfl
  · exact h
  · exact parseTim_fits d stats info len h
  · exact ⟨h.ssid, h.buf, h.rates, h.ratesEx, helement len, h.rsnIe⟩
  · exact h
  · exact ⟨h.ssid, h.buf, h.rates, h.ratesEx, h.wpaIe, helement len⟩
  · exact h

theorem parseElements_fits (d : Device P) (stats : RxStats) (skb : SkBuff) (off left : ℕ)
    (h : Fits net) : ∀ net' ∈ parseElements d stats skb off left net, Fits net' := by
  fun_induction parseElements d stats skb off left net with
  | case1 off left net hleft =>
    intro net' hnet'
    cases hnet'
    exact h
  | case2 off left net hleft len hshort =>
    intro net' hnet'
    cases hnet'
  | case3 off left net hleft len hlong ih => exact ih (parseElement_fits d stats _ _ len h)

/-- What is parsed fits, if the array it is parsed to has its size. -/
theorem networkInit_fits (env : Env) (d : Device P) (skb : SkBuff) (stats : RxStats)
    {stack : HeardNetwork} (hstack : stack.ssidBuf.length = iwEssidMaxSize + 1) :
    ∀ net ∈ networkInit env d skb stats stack, Fits net := by
  intro net hnet
  unfold networkInit at hnet
  extract_lets named start left at hnet
  have hstart : Fits start := by
    refine ⟨Nat.zero_le _, hstack, Nat.zero_le _, Nat.zero_le _, Nat.zero_le _, Nat.zero_le _⟩
  obtain ⟨parsed, hparsed, hmode⟩ := Option.bind_eq_some_iff.mp hnet
  have hfits := parseElements_fits d stats skb _ _ hstart parsed hparsed
  extract_lets mode at hmode
  split_ifs at hmode
  cases hmode
  exact hfits.congr rfl rfl rfl rfl rfl rfl

end

/-! ### The station -/

theorem fits_closed : Closed Fits where
  congr h _ hssid htail hrates hratesEx hwpa hrsn := h.congr hssid htail hrates hratesEx hwpa hrsn
  ssid := by
    intro net essid buf len hessid hlen hbuf h
    refine h.setSsid ?_ hlen
    rw [List.length_append, List.length_drop, hbuf, h.buf]
    omega
  rates _ _ hrates hratesEx h := ⟨h.ssid, h.buf, hrates, hratesEx, h.wpaIe, h.rsnIe⟩

theorem adopt_fits (st : Station P) {net : HeardNetwork} (hcur : Fits st.current) (h : Fits net) :
    Fits (st.adopt net) := by
  unfold Station.adopt
  split_ifs
  · exact h
  · extract_lets tmp
    refine h.setSsid ?_ hcur.ssid
    have hbuf := h.buf
    have htmp : (strncpy tmp iwEssidMaxSize).length = iwEssidMaxSize := by
      simp [strncpy]
    rw [List.length_append, List.length_drop, hbuf, htmp]
    omega

theorem updateNetwork_fits (env : Env) {dst src : HeardNetwork} (hdst : Fits dst) (hsrc : Fits src) :
    Fits (updateNetwork env dst src) := by
  have hnamed : ∀ named : HeardNetwork, Fits named → Fits { named with
      capability := src.capability, rates := src.rates, ratesEx := src.ratesEx, mode := src.mode
      emptyEssid := src.emptyEssid, hasOfdm := src.hasOfdm, hasCck := src.hasCck
      beaconInterval := src.beaconInterval, atimWindow := src.atimWindow
      dtimPeriod := src.dtimPeriod, dtimData := src.dtimData
      lastDtimStaTime := src.lastDtimStaTime, wpaIe := src.wpaIe, rsnIe := src.rsnIe
      lastScanned := env.now } := fun named h =>
    ⟨h.ssid, h.buf, hsrc.rates, hsrc.ratesEx, hsrc.wpaIe, hsrc.rsnIe⟩
  unfold updateNetwork
  apply hnamed
  split_ifs
  · extract_lets buf
    refine hdst.setSsid ?_ hsrc.ssid
    have hbuf : buf.length = dst.ssidBuf.length := by
      simp [buf, ssidBuf]
    have hssid := hsrc.ssid
    rw [List.length_append, List.length_drop, hbuf, hdst.buf]
    omega
  · exact hdst

/-- What the station does keeps the lengths, whatever the channels are. -/
theorem fits_rules : NetRules P Fits Fits fun _ => True where
  closed := fits_closed
  closedR := fits_closed
  weaken := id
  nonzero h _ := h
  tune _ h := h.congr rfl rfl rfl rfl rfl rfl
  freq _ _ _ := trivial
  adopt st _ := adopt_fits st
  update env _ _ := updateNetwork_fits env
  updateR env _ _ := updateNetwork_fits env

namespace Station

/-- The lengths of `current_network` and of every entry of the list. -/
def LengthsFit (st : Station P) : Prop := Fits st.current ∧ ∀ net ∈ st.listed, Fits net

/-- The entry on the stack has the array it is declared with, and the rest of
the driver leaves `current_network` alone. -/
def Typed (st : Station P) : Event P → Prop
  | .rx _ _ _ stack => stack.ssidBuf.length = iwEssidMaxSize + 1
  | .other act => (act.run st.toDevice).currentNetwork = st.currentNetwork
  | _ => True

end Station

/-- The SSID a scan is to look for has room in `current_network.ssid`. -/
def Event.EssidFits : Event P → Prop
  | .scanEssid essid => essid.length ≤ iwEssidMaxSize
  | _ => True

namespace Station

/-- What the runs keep. -/
structure Stored (st : Station P) : Prop extends NetsOk Fits Fits (fun _ => True) st where
  checked : ∀ j ∈ st.jobs, j.fits

theorem Stored.fit {st : Station P} (h : Stored st) : LengthsFit st := by
  refine ⟨h.current, ?_⟩
  intro net hnet
  obtain ⟨i, hi, rfl⟩ := List.mem_map.mp hnet
  exact h.listed i hi

theorem stored_init (kernel : KernelConfig) (devAddr : Mac) (channelMap : ℕ → Bool) :
    Stored (init P kernel devAddr channelMap) where
  listed i hi := by cases hi
  allowed _ _ := trivial
  found _ := trivial
  start _ _ h := h
  watchdog := rfl
  current := fits_zeroed.congr rfl rfl rfl rfl rfl rfl
  live _ := fits_zeroed.congr rfl rfl rfl rfl rfl rfl
  checked j hj := by cases hj

section

variable {st : Station P}

theorem scanEssid_fits (h : Fits st.current) {essid : List UInt8} (hlen : essid.length ≤ iwEssidMaxSize) :
    Fits (st.scanEssid essid).current := by
  unfold scanEssid
  split_ifs
  · exact h
  · exact fits_closed.ssid essid _ essid.length hlen hlen rfl h

/-- A step of a request that has room keeps the lengths. -/
theorem stored_step (h : Stored st) {e : Event P} (htyped : Typed st e) (he : e.EssidFits) :
    Stored (st.step e) := by
  refine ⟨step_nets fits_rules h.toNetsOk h.checked ?_, fits_step h.checked e⟩
  cases e with
  | rx env skb stats stack => exact networkInit_fits env st.toDevice skb stats htyped
  | scanEssid essid =>
    rintro X (rfl | rfl) hX
    · exact scanEssid_fits hX he
    · exact scanEssid_fits hX he
  | down => exact ⟨fits_zeroed, fun _ => fits_zeroed⟩
  | other act => exact ⟨htyped, fun _ => h.current⟩
  | _ => trivial

/-- After a request that has no room, the stored length is the request's. -/
theorem essidFits_of_step {e : Event P} (h : LengthsFit (st.step e)) : e.EssidFits := by
  cases e with
  | scanEssid essid =>
    have hfit : Fits (st.scanEssid essid).current := h.1
    show essid.length ≤ iwEssidMaxSize
    unfold scanEssid at hfit
    split_ifs at hfit with hnil
    · rw [hnil]
      exact Nat.zero_le _
    · have hssid := hfit.ssid
      have htake : (st.setCurrent (st.current.setSsid
          (essid ++ st.current.ssidBuf.drop essid.length) essid.length)).current.ssid = essid :=
        List.take_left
      rwa [htake] at hssid
  | _ => trivial

/-- **The stored lengths.** In a run from the driver's set-up, the lengths fit
their arrays after every step exactly if no scan is asked to look for an SSID
of more than `IW_ESSID_MAX_SIZE` bytes. -/
theorem lengths_fit_iff (kernel : KernelConfig) (devAddr : Mac) (channelMap : ℕ → Bool)
    (es : List (Event P)) (htyped : Run.AllSteps step Typed (init P kernel devAddr channelMap) es) :
    Run.AllSteps step (fun st e => LengthsFit (st.step e)) (init P kernel devAddr channelMap) es ↔
      ∀ e ∈ es, e.EssidFits := by
  constructor
  · intro h
    exact (h.imp fun _ _ => essidFits_of_step).forall
  · intro hfits
    have hall := htyped.and (Run.allSteps_of_forall _ hfits)
    refine Run.allSteps_of_inv (fun st e hst he => ?_) _ es (stored_init kernel devAddr channelMap) hall
    have hnext := stored_step hst he.1 he.2
    exact ⟨hnext, hnext.fit⟩

end

/-- A scan for an SSID that fills the array. -/
theorem longest_essid_fits : Run.AllSteps step (fun st e => LengthsFit (st.step e)) onChannelOne
    [.scanEssid (List.replicate 32 0x41), .userScan] :=
  (lengths_fit_iff (P := Unit) ⟨250, true⟩ ⟨2, 0, 0, 0, 0, 1⟩ (· == 1)
    [.scanEssid (List.replicate 32 0x41), .userScan] ⟨trivial, trivial, trivial⟩).mpr (by
      simp [Event.EssidFits, iwEssidMaxSize])

/-- A scan for an SSID of 255 bytes, as long as a request can give. -/
theorem long_essid_not_fits : ¬ ∀ es : List (Event Unit), Run.AllSteps step Typed onChannelOne es →
    Run.AllSteps step (fun st e => LengthsFit (st.step e)) onChannelOne es := by
  intro h
  have hfit := essidFits_of_step (h [.scanEssid (List.replicate 255 0x41)] ⟨trivial, trivial⟩).1
  rw [Event.EssidFits, List.length_replicate] at hfit
  exact absurd hfit (by decide)

end Station

end Rtl8187

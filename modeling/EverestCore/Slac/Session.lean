import EverestCore.Slac.Context
import Mathlib.Algebra.GroupWithZero.Nat
import Mathlib.Data.List.Forall2

/-!
# The session sub-machine of SLAC (`session.hpp`, `MatchingSessionData.cpp`)

One session per `CM_SLAC_PARM.REQ` runs the sounding exchange with one EV, from
`CM_START_ATTEN_CHAR.IND` to `CM_SLAC_MATCH.CNF`.

* `MatchingSessionData`, `validateStartAttenChar`, `validateAttenCharRsp`, …: whose session it is,
  and which messages belong to it.
* `Session.onUpdate`, `Session.onMessage`: the rows of the transition table by their event.
* **`attenuation_limited_iff`**: when the attenuation that is reported is limited to a byte.
-/

namespace EverestCore.Slac

open List

/-! ## Session data -/

structure MatchingSessionData where
  evseMac : MacAddress
  evMac : MacAddress
  runId : RunId
  capturedSounds : Nat := 0
  capturedAags : List Nat := List.replicate aagListLen 0
  numRetries : Nat := 0

/-- `validate_message(cm_slac_parm_req)`. -/
def validateSlacParmReq (msg : SlacParmReq) : Bool :=
  msg.applicationType = 0 && msg.securityType = 0

namespace MatchingSessionData

variable (d : MatchingSessionData)

def matchesIdentity (evMac : MacAddress) (runId : RunId) : Bool :=
  d.evMac = evMac && d.runId = runId

/-- `validate_message(cm_start_atten_char_ind)`. -/
def validateStartAttenChar (msg : StartAttenCharInd) : Bool :=
  msg.applicationType = 0 && msg.securityType = 0 && msg.numSounds ≠ 0 && msg.timeout ≠ 0 &&
    msg.respType = 1 && msg.forwardingSta = d.evMac && msg.runId = d.runId

/-- `validate_message(cm_atten_char_rsp)`. -/
def validateAttenCharRsp (msg : AttenCharRsp) : Bool :=
  msg.applicationType = 0 && msg.securityType = 0 && msg.sourceId = 0 && msg.respId = 0 &&
    msg.result = 0 && msg.sourceAddress = d.evMac && msg.runId = d.runId

/-- `validate_message(cm_atten_profile_ind)`, by the MAC address alone. -/
def validateAttenProfile (msg : AttenProfileInd) : Bool :=
  msg.pevMac = d.evMac && msg.numGroups = BitVec.ofNat 8 aagListLen

/-- `validate_message(cm_slac_match_req)`. -/
def validateSlacMatchReq (msg : SlacMatchReq) : Bool :=
  msg.applicationType = 0 && msg.securityType = 0 && msg.mvfLength = 0x3e && msg.pevId = 0 &&
    msg.evseId = 0 && msg.pevMac = d.evMac && msg.evseMac = d.evseMac && msg.runId = d.runId

/-- `create_cm_slac_parm_cnf`. -/
def createSlacParmCnf : SlacParmCnf where
  numSounds := BitVec.ofNat 8 slacParmCnfNumSounds
  timeout := 6
  respType := 1
  forwardingSta := d.evMac
  applicationType := 0
  securityType := 0
  runId := d.runId

/-- `create_cm_atten_char_ind`; without a sound the profile is a nominal one. -/
def createAttenCharInd (attenOffset : Int) : AttenCharInd where
  applicationType := 0
  securityType := 0
  sourceAddress := d.evMac
  runId := d.runId
  numSounds := BitVec.ofNat 8 d.capturedSounds
  aag :=
    if d.capturedSounds ≠ 0 then
      d.capturedAags.map fun aag => BitVec.ofInt 8 (↑(aag / d.capturedSounds) + attenOffset)
    else List.replicate aagListLen 1

/-- `create_cm_slac_match_cnf`. -/
def createSlacMatchCnf (matchReq : SlacMatchReq) (sessionNmk : Nmk) : SlacMatchCnf where
  applicationType := 0
  securityType := 0
  mvfLength := 0x56
  pevId := matchReq.pevId
  pevMac := matchReq.pevMac
  evseId := matchReq.evseId
  evseMac := matchReq.evseMac
  runId := matchReq.runId
  nmk := sessionNmk

def captureSound (msg : AttenProfileInd) : MatchingSessionData :=
  { d with
    capturedAags := List.zipWith (fun sum aag => sum + aag.toNat) d.capturedAags msg.aag
    capturedSounds := d.capturedSounds + 1 }

/-! ### The reported attenuation -/

/-- The sum of the values that `frames` have for the group `i`. -/
def captured (frames : List AttenProfileInd) (i : Nat) : Nat :=
  (frames.map fun f => (f.aag.getD i 0).toNat).sum

/-- The integer mean of these values plus the adjustment. -/
def adjustedMean (frames : List AttenProfileInd) (attenOffset : Int) (i : Nat) : Int :=
  ↑(captured frames i / frames.length) + attenOffset

section Reported

variable (evseMac evMac : MacAddress) (runId : RunId) (attenOffset : Int)
  {frames : List AttenProfileInd} {i : Nat}

/-- What the `CM_ATTEN_CHAR.IND` of a session that captured `frames` has for the group `i`. -/
def reported (frames : List AttenProfileInd) (i : Nat) : Nat :=
  let d := frames.foldl captureSound { evseMac, evMac, runId }
  ((d.createAttenCharInd attenOffset).aag.getD i 0).toNat

/-- The value is one of a byte, or the byte that is left of it is the limit by accident. -/
def Fits (x : Int) : Prop :=
  (0 ≤ x ∧ x ≤ 255) ∨ (x < 0 ∧ x % 256 = 0) ∨ (255 < x ∧ x % 256 = 255)

theorem emod_eq_limited_iff (x : Int) : x % 256 = max 0 (min x 255) ↔ Fits x := by
  unfold Fits
  omega

theorem foldl_captureSound (hi : i < aagListLen) (hf : ∀ f ∈ frames, f.aag.length = aagListLen)
    (d : MatchingSessionData) (hd : d.capturedAags.length = aagListLen) :
    (frames.foldl captureSound d).capturedSounds = d.capturedSounds + frames.length ∧
      (frames.foldl captureSound d).capturedAags[i]? =
        some (d.capturedAags.getD i 0 + captured frames i) := by
  induction frames generalizing d with
  | nil => simp [captured, hd, hi]
  | cons f frames ih =>
    obtain ⟨hl, hf⟩ := forall_mem_cons.1 hf
    obtain ⟨hs, ha⟩ := ih hf (d.captureSound f) (by simp [captureSound, hd, hl])
    rw [foldl_cons, hs, ha]
    simp [captureSound, captured, hd, hl, hi, Nat.add_assoc, Nat.add_comm 1]

/-- The sum is divided and shifted as an `int`, and the byte is what is left of it. -/
theorem reported_eq (hne : frames ≠ []) (hf : ∀ f ∈ frames, f.aag.length = aagListLen)
    (hi : i < aagListLen) : (reported evseMac evMac runId attenOffset frames i : Int) =
      adjustedMean frames attenOffset i % 256 := by
  obtain ⟨hs, ha⟩ := foldl_captureSound hi hf { evseMac, evMac, runId } (by simp)
  rw [reported, createAttenCharInd, if_pos (by simp [hs, hne])]
  simp only [getD_eq_getElem?_getD, getElem?_map, ha, hs]
  simp [hi, adjustedMean, BitVec.toNat_ofInt]
  omega

theorem captured_le {frames' : List AttenProfileInd}
    (h : Forall₂ (fun f f' => f.aag.getD i 0 ≤ f'.aag.getD i 0) frames frames') :
    captured frames i ≤ captured frames' i := by
  induction h with
  | nil => exact Nat.le_refl 0
  | cons h _ ih => exact Nat.add_le_add h ih

/-- **The attenuation is the mean plus the adjustment, limited to a byte, just when `Fits` holds**,
and then it does not decrease when a captured value is raised. -/
theorem attenuation_limited_iff (frames : List AttenProfileInd) (hne : frames ≠ [])
    (hf : ∀ f ∈ frames, f.aag.length = aagListLen) (i : Nat) (hi : i < aagListLen) :
    ((reported evseMac evMac runId attenOffset frames i : Int) =
        max 0 (min (adjustedMean frames attenOffset i) 255) ↔
      Fits (adjustedMean frames attenOffset i)) ∧
    ∀ frames' : List AttenProfileInd, (∀ f ∈ frames', f.aag.length = aagListLen) →
      Forall₂ (fun f f' => f.aag.getD i 0 ≤ f'.aag.getD i 0) frames frames' →
      Fits (adjustedMean frames attenOffset i) → Fits (adjustedMean frames' attenOffset i) →
      reported evseMac evMac runId attenOffset frames i ≤
        reported evseMac evMac runId attenOffset frames' i := by
  have heq := reported_eq evseMac evMac runId attenOffset hne hf hi
  refine ⟨heq ▸ emod_eq_limited_iff _, fun frames' hf' hr h h' => ?_⟩
  have hl := hr.length_eq
  have hne' : frames' ≠ [] := by
    rintro rfl
    exact hne (length_eq_zero_iff.1 hl)
  have hle := Nat.div_le_div_right (c := frames.length) (captured_le hr)
  have heq' := reported_eq evseMac evMac runId attenOffset hne' hf' hi
  rw [← emod_eq_limited_iff, adjustedMean] at h h'
  rw [adjustedMean] at heq heq'
  rw [← hl] at h' heq'
  omega

end Reported

/-- A frame of the EV 5 with one value for all groups. -/
def evenFrame (value : BitVec 8) : AttenProfileInd := ⟨5, 58, replicate aagListLen value⟩

theorem attenuation_limited_even :
    let frames := [evenFrame 150, evenFrame 162, evenFrame 170]
    reported 1 5 7 (-5) frames 3 = 155 ∧
      (reported 1 5 7 (-5) frames 3 : Int) = max 0 (min (adjustedMean frames (-5) 3) 255) :=
  ⟨by decide, (attenuation_limited_iff 1 5 7 (-5) _ (by simp) (by simp [evenFrame]) 3
    (by decide)).1.2 (.inl (by decide))⟩

/-- **The sum is not limited**: 245 + 10 is stored as 255, and 250 + 10 as 4. -/
theorem attenuation_wraps :
    reported 1 5 7 10 [evenFrame 245] 0 = 255 ∧ reported 1 5 7 10 [evenFrame 250] 0 = 4 := by
  decide

end MatchingSessionData

/-! ## The session -/

/-- The states of `Session_def` with their timers. -/
inductive SessionState
  | waitStartAtten (timer : Timer)
  | sounding (timer : Timer)
  | finalizeSounding (timer : Timer)
  | waitAttenRsp (timer : Timer)
  -- with the window of a completed `CM_VALIDATE`
  | waitSlacMatch (timer : Timer) (validationWindow : Option Timer)
  | matchComplete
  | failed
  deriving DecidableEq

def finalizeSoundingDelayMs : Int := 45

structure Session where
  data : MatchingSessionData
  state : SessionState

namespace Session

/-- `SessionMatched`. -/
def matched (s : Session) : Bool := s.state = .matchComplete

/-- `SessionFailed`. -/
def hasFailed (s : Session) : Bool := s.state = .failed

/-- `SessionAwaitingSlacMatch`. -/
def awaitingSlacMatch (s : Session) : Bool :=
  match s.state with
  | .waitSlacMatch _ _ => true
  | _ => false

/-- `session.start()` with new data. -/
def start (data : MatchingSessionData) (now : Int) : Session :=
  ⟨{ data with numRetries := 0 }, .waitStartAtten (Timer.arm now ttMatchSequenceMs)⟩

def sendAttenChar (d : MatchingSessionData) (c : Context) : Context :=
  c.send d.evMac (.attenCharInd (d.createAttenCharInd c.config.soundingAttenAdjustment))

/-- The key of `debug_simulate_failed_matching`. -/
def failedMatchSessionNmk : Nmk := 0x0102030405060708090a0b0c0d0e0f10

def matchCnf (d : MatchingSessionData) (req : SlacMatchReq) (c : Context) : Context :=
  let nmk := if c.config.debugSimulateFailedMatching then failedMatchSessionNmk
    else c.config.sessionNmk
  let reply := MatchingSessionData.createSlacMatchCnf req nmk
  { c.send d.evMac (.slacMatchCnf reply) with
    matchConfirmCache := some ⟨reply, d.evMac, d.evseMac, d.runId⟩
    statusEvMac := d.evMac }

/-- The rows for `update`. -/
def onUpdate (s : Session) (c : Context) : Session × Context :=
  match s.state with
  | .waitStartAtten timer =>
    if timer.expired c.now then ({ s with state := .failed }, c) else (s, c)
  | .sounding timer =>
    if timer.expired c.now then
      ({ s with state := .finalizeSounding (Timer.arm c.now finalizeSoundingDelayMs) }, c)
    else (s, c)
  | .finalizeSounding timer =>
    if timer.expired c.now then
      -- the session goes on whether or not the frame could be sent
      ({ s with state := .waitAttenRsp (Timer.arm c.now ttMatchResponseMs) },
        sendAttenChar s.data c)
    else (s, c)
  | .waitAttenRsp timer =>
    if timer.expired c.now then
      if cEvMatchRetry ≤ s.data.numRetries then ({ s with state := .failed }, c)
      else
        ({ s with
          data := { s.data with numRetries := s.data.numRetries + 1 }
          state := .waitAttenRsp (Timer.arm c.now ttMatchResponseMs) }, sendAttenChar s.data c)
    else (s, c)
  | .waitSlacMatch timer window =>
    if timer.expired c.now || window.any (·.expired c.now) then ({ s with state := .failed }, c)
    else (s, c)
  | .matchComplete | .failed => (s, c)

/-- The rows for `message`. -/
def onMessage (m : Message) (s : Session) (c : Context) : Session × Context :=
  match s.state, m.payload with
  | .waitStartAtten timer, .startAttenCharInd ind =>
    if !timer.expired c.now && s.data.validateStartAttenChar ind then
      ({ s with state := .sounding (Timer.arm c.now ttEvseMatchMnbcMs) }, c)
    else (s, c)
  | .sounding _, .attenProfileInd ind =>
    if s.data.validateAttenProfile ind then
      let s' := { s with data := s.data.captureSound ind }
      if s.data.capturedSounds + 1 < slacParmCnfNumSounds then (s', c)
      else ({ s' with state := .finalizeSounding (Timer.arm c.now finalizeSoundingDelayMs) }, c)
    else (s, c)
  | .waitAttenRsp _, .attenCharRsp rsp =>
    if s.data.validateAttenCharRsp rsp then
      ({ s with state := .waitSlacMatch (Timer.arm c.now ttEvseMatchSessionMs) none }, c)
    else (s, c)
  | .waitSlacMatch _ _, .slacMatchReq req =>
    if s.data.validateSlacMatchReq req then
      ({ s with state := .matchComplete }, matchCnf s.data req c)
    else (s, c)
  | _, _ => (s, c)

end Session

end EverestCore.Slac

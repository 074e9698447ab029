import Mathlib.Data.List.Basic

/-!
# Messages, timers and the context of the EVSE SLAC machine

Models `slac_messages.hpp`, `timer.hpp`, `EvseSlacConfig.hpp` and `fsm/evse/context.hpp`. A frame is
received with its source address and its decoded payload; one whose payload does not decode as the
type it announces is `Payload.other`.

* `Env`: what the callbacks answer while one event is handled. `delivers` is the result of
  `send_raw_slac`, which no caller looks at except to log it.
* `Trace`: the frames that were received and sent, and the entries into `Matching`.
-/

namespace EverestCore.Slac

abbrev MacAddress := BitVec 48

abbrev RunId := BitVec 64

abbrev StationId := BitVec 136

abbrev Nmk := BitVec 128

inductive ModemVendor
  | Unknown | Qualcomm | Lumissil | VertexCom
  deriving DecidableEq

/-! ## Constants of `slac_defs.hpp` -/

def cEvMatchRetry : Nat := 2

def ttEvseMatchMnbcMs : Int := 600

def ttMatchSequenceMs : Int := 400

def ttMatchResponseMs : Int := 200

def ttEvseMatchSessionMs : Int := 10000

def aagListLen : Nat := 58

def slacParmCnfNumSounds : Nat := 10

def dLinkStatusLinked : BitVec 8 := 1

/-! ## Timers -/

/-- `timer`, in microseconds. -/
structure Timer where
  reference : Int := 0
  duration : Int := 0
  deriving DecidableEq

namespace Timer

/-- `arm`, with a duration in milliseconds. -/
def arm (now ms : Int) : Timer := ⟨now, ms * 1000⟩

def reset (now : Int) (t : Timer) : Timer := { t with reference := now }

/-- Strictly after the deadline. -/
def expired (t : Timer) (now : Int) : Bool := t.reference + t.duration < now

end Timer

/-! ## Received messages -/

/-- `cm_slac_parm_req`. -/
structure SlacParmReq where
  applicationType : BitVec 8 := 0
  securityType : BitVec 8 := 0
  runId : RunId
  deriving DecidableEq

/-- `cm_start_atten_char_ind`. -/
structure StartAttenCharInd where
  applicationType : BitVec 8 := 0
  securityType : BitVec 8 := 0
  numSounds : BitVec 8
  timeout : BitVec 8
  respType : BitVec 8
  forwardingSta : MacAddress
  runId : RunId
  deriving DecidableEq

/-- `cm_atten_char_rsp`. -/
structure AttenCharRsp where
  applicationType : BitVec 8 := 0
  securityType : BitVec 8 := 0
  sourceAddress : MacAddress
  runId : RunId
  sourceId : StationId := 0
  respId : StationId := 0
  result : BitVec 8 := 0
  deriving DecidableEq

/-- `cm_atten_profile_ind`; `aag` has `aagListLen` entries. -/
structure AttenProfileInd where
  pevMac : MacAddress
  numGroups : BitVec 8
  aag : List (BitVec 8)
  deriving DecidableEq

/-- `cm_slac_match_req`. -/
structure SlacMatchReq where
  applicationType : BitVec 8 := 0
  securityType : BitVec 8 := 0
  mvfLength : BitVec 16
  pevId : StationId := 0
  pevMac : MacAddress
  evseId : StationId := 0
  evseMac : MacAddress
  runId : RunId
  deriving DecidableEq

/-- `cm_validate_req`. -/
structure ValidateReq where
  signalType : BitVec 8
  timer : BitVec 8
  result : BitVec 8
  deriving DecidableEq

/-- The payload of a received frame. -/
inductive Payload
  | slacParmReq (m : SlacParmReq)
  | startAttenCharInd (m : StartAttenCharInd)
  | attenCharRsp (m : AttenCharRsp)
  | attenProfileInd (m : AttenProfileInd)
  | slacMatchReq (m : SlacMatchReq)
  | validateReq (m : ValidateReq)
  | setKeyCnf (result : BitVec 8)
  -- `OP_ATTR.CNF` or `NSCM_GET_VERSION.CNF`
  | deviceInfo (vendor : ModemVendor)
  -- `LINK_STATUS.CNF` or `NSCM_GET_D_LINK_STATUS.CNF`
  | linkStatusCnf (vendor : ModemVendor) (linkStatus : BitVec 8)
  | resetDeviceCnf
  | ampMapReq (amLen : BitVec 16)
  | ampMapCnf (result : BitVec 8)
  | other
  deriving DecidableEq

structure Message where
  srcMac : MacAddress
  payload : Payload
  deriving DecidableEq

/-! ## Sent frames -/

/-- `cm_slac_parm_cnf`. -/
structure SlacParmCnf where
  numSounds : BitVec 8
  timeout : BitVec 8
  respType : BitVec 8
  forwardingSta : MacAddress
  applicationType : BitVec 8
  securityType : BitVec 8
  runId : RunId
  deriving DecidableEq

/-- `cm_atten_char_ind`. -/
structure AttenCharInd where
  applicationType : BitVec 8
  securityType : BitVec 8
  sourceAddress : MacAddress
  runId : RunId
  numSounds : BitVec 8
  aag : List (BitVec 8)
  deriving DecidableEq

/-- `cm_slac_match_cnf`. -/
structure SlacMatchCnf where
  applicationType : BitVec 8
  securityType : BitVec 8
  mvfLength : BitVec 16
  pevId : StationId
  pevMac : MacAddress
  evseId : StationId
  evseMac : MacAddress
  runId : RunId
  nmk : Nmk
  deriving DecidableEq

/-- A frame that the EVSE sends. -/
inductive Frame
  | slacParmCnf (m : SlacParmCnf)
  | attenCharInd (m : AttenCharInd)
  | slacMatchCnf (m : SlacMatchCnf)
  | validateCnf (toggleNum result : BitVec 8)
  | setKeyReq (newKey : Nmk)
  | resetDeviceReq (vendor : ModemVendor)
  | linkStatusReq (vendor : ModemVendor)
  | opAttrReq
  | getVersionReq
  | ampMapReq (amLen : BitVec 16) (amData : List (BitVec 8))
  | ampMapCnf (result : BitVec 8)
  deriving DecidableEq

/-! ## The context -/

inductive SetKeyHandlingMode
  | legacy_single_attempt | retry_confirmed
  deriving DecidableEq

inductive SetKeyCnfSuccessMode
  | modem_compat_0x01 | hpgp_standard_0x00 | accept_0x00_or_0x01

/-- `EvseSlacConfig`; durations are in milliseconds. -/
structure EvseSlacConfig where
  plcPeerMac : MacAddress := 0x00B052000001
  sessionNmk : Nmk := 0
  setKeyHandlingMode : SetKeyHandlingMode := .retry_confirmed
  setKeyCnfSuccessMode : SetKeyCnfSuccessMode := .modem_compat_0x01
  setKeyTimeout : Int := 500
  setKeyMaxAttempts : Int := 10
  slacInitTimeout : Int := 40000
  chipResetEnabled : Bool := false
  chipResetTimeout : Int := 500
  chipResetDelay : Int := 100
  linkDoDetect : Bool := false
  linkRetry : Int := 100
  linkPollInMatchedState : Int := 200
  linkTimeout : Int := 5000
  linkDebounceCount : Int := 1
  debugSimulateFailedMatching : Bool := false
  requestInfoDelay : Int := 100
  regenerateKeyOnReset : Bool := true
  soundingAttenAdjustment : Int := 0
  resetInsteadOfFail : Bool := false
  maxMatchingSessions : Int := 4
  initiateAmpMap : Bool := false
  ampMapLen : BitVec 16 := 0
  ampMapData : List (BitVec 8) := []

/-- The answers of the callbacks while one event is handled. -/
structure Env where
  now : Int
  delivers : MacAddress → Frame → Bool
  bcTransitionCount : Int := 0
  randomNmk : Nmk := 0

/-- An entry of the history. -/
inductive Trace
  | enteredMatching
  | received (now : Int) (m : Message)
  | sent (mac : MacAddress) (frame : Frame) (taken : Bool)
  deriving DecidableEq

/-- `MatchConfirmCache`, when it is valid. -/
structure MatchConfirmCache where
  message : SlacMatchCnf
  evMac : MacAddress
  evseMac : MacAddress
  runId : RunId

/-- `fsm::evse::Context`, with the history, newest first. -/
structure Context where
  config : EvseSlacConfig
  env : Env
  evseMac : MacAddress
  modemVendor : ModemVendor := .Unknown
  matchConfirmCache : Option MatchConfirmCache := none
  -- `status.ev_mac`
  statusEvMac : MacAddress := 0
  log : List Trace := []

namespace Context

/-- `current_time`. -/
def now (c : Context) : Int := c.env.now

def record (t : Trace) (c : Context) : Context := { c with log := t :: c.log }

/-- `send_slac_message`. -/
def send (mac : MacAddress) (frame : Frame) (c : Context) : Context :=
  c.record (.sent mac frame (c.env.delivers mac frame))

/-- A message to our own modem. -/
def sendToModem (frame : Frame) (c : Context) : Context := c.send c.config.plcPeerMac frame

def clearMatchConfirmCache (c : Context) : Context := { c with matchConfirmCache := none }

end Context

end EverestCore.Slac

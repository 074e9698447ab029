import EverestCore.Iso15118.D2.Messages
import Mathlib.Data.List.Sort

/-!
# The context of an ISO 15118-2 session (`d2/context.hpp`, `d20/timeout.cpp`, `iso.cpp`)

Everything the SECC states share: the session configuration, what the module reported about the
charger, the facts of the session, the timers, the staged response. `log` is the history of the
session, newest first: the control events received, the responses staged, each with the request it
answers and the state that answered it, the responses sent, the signals to the module and the
invalidations of the cable check.

* `Timeouts`: `start_timeout` refuses an occupied slot, `check` lists the reached ones by deadline.
* `PowerPath.observe`: the wrapper that `Session` puts around the signal callback of the engine, so
  `Context.signal` is `feedback.signal` of an engine.
* `Context.respond`: after an ignored stop or an emergency shutdown every response is failed.
* `respondSequenceError`, `unknownSession`: the errors common to all states.
-/

namespace EverestCore.Iso15118.D2

/-! ## Timers -/

/-- `d20::Timeouts`: the deadlines of the running timers. -/
abbrev Timeouts := TimeoutType → Option Int

namespace Timeouts

def all : List TimeoutType :=
  [.SEQUENCE, .PERFORMANCE, .ONGOING, .CONTACTOR, .CPSTATE, .STOP_CHARGING, .EMERGENCY_SHUTDOWN]

/-- `stop_timeout`, `reset_timeout`. -/
def reset (t : Timeouts) (type : TimeoutType) : Timeouts :=
  fun x => if x = type then none else t x

/-- `start_timeout`: a running timer is left alone. -/
def start (t : Timeouts) (now : Int) (type : TimeoutType) (ms : Int) : Timeouts :=
  fun x => if x = type then some ((t x).getD (now + ms)) else t x

/-- `check`: the reached timers, the earliest deadline first. -/
def check (t : Timeouts) (now : Int) : List TimeoutType :=
  let reached := all.filterMap fun x => (t x).bind fun d => if d ≤ now then some (d, x) else none
  (reached.insertionSort fun a b => a.1 ≤ b.1).map Prod.snd

end Timeouts

def timeoutSequence : Int := 60000

def timeoutStopChargingGuard : Int := 10000

def timeoutEmergencyShutdownGuard : Int := 2000

/-! ## What the session knows -/

structure SessionConfig where
  chargeServiceId : Nat
  supportedEnergyTransferModes : List EnergyTransferMode
  offeredVasServices : List Nat
  acNominalVoltage : Rat
  acCapabilityMaxCurrent : Rat
  dcCapabilityMaxPower : Rat
  dcMinCurrent : Rat
  dcMinVoltage : Rat
  saScheduleDuration : Nat
  pncEnabled : Bool
  eimEnabled : Bool
  centralContractValidationAllowed : Bool
  certInstallService : Bool
  tlsActive : Bool
  receiptRequired : Bool
  noEnergyPause : NoEnergyPauseMode
  authTimeoutEimMs : Int
  authTimeoutPncMs : Int

structure EvseStatus where
  latestMeterInfo : Option MeterInfo := none
  activeError : EvseErrorCode := .None
  emergencyShutdown : Bool := false
  acContactorClosed : Bool := false
  cableCheckDone : Bool := false
  cableCheckFault : Bool := false
  chargerStopRequested : Bool := false
  currentCpState : CpState := .A

/-- An entry of a `PMaxSchedule`. -/
structure PMaxEntry where
  start : Nat
  duration : Nat
  pMax : Rat

structure SAScheduleTuple where
  saScheduleTupleId : Nat
  pmaxSchedule : List PMaxEntry

structure SessionParameters where
  sessionResumed : Bool := false
  contractSelected : Bool := false
  contractLeafDer : Bytes := []
  contractEmaid : String := ""
  contractChainPem : String := ""
  saScheduleTupleId : Nat := 1
  saScheduleList : List SAScheduleTuple := []
  chargeLoopStarted : Bool := false
  receiptReceived : Bool := false
  powerDeliveryStarted : Bool := false
  cpStateBGateArmed : Bool := false

structure PauseContext where
  oldSessionId : SessionId
  selectedPaymentOption : PaymentOption

inductive StateID
  | SessionSetup | ServiceDiscovery | ServiceSelection | Identification | PaymentDetails
  | Authorization | ChargeParameterDiscovery | AcPowerDelivery | MeteringReceipt | SessionStop
  | CableCheck | PreChargeStart | PreCharge | DcChargeLoop | PostCharge | WeldingDetection
  | AcChargeLoopStart | AcChargeLoop
  deriving DecidableEq

/-! ## The history and the power path -/

/-- An entry of the history of a session. -/
inductive Trace
  | received (event : ControlEvent)
  -- a response staged by a state, and the request it answers
  | staged (state : StateID) (request : RequestBody) (response : Response)
  | stagedRaw (payload : Bytes)
  | signal (s : Signal)
  | requireAuthPnc (emaid chainPem : String)
  | certificateRequest (exi : Bytes)
  | cableCheckInvalidated
  -- the staged response is written to the connection
  | sent
  deriving DecidableEq

structure PowerPath where
  chargeLoopRunning : Bool := false
  acContactorClosed : Bool := false

def PowerPath.observe (p : PowerPath) : Signal → PowerPath
  | .CHARGE_LOOP_STARTED => { p with chargeLoopRunning := true }
  | .CHARGE_LOOP_FINISHED => { p with chargeLoopRunning := false }
  | .AC_CLOSE_CONTACTOR => { p with acContactorClosed := true }
  | .AC_OPEN_CONTACTOR => { p with acContactorClosed := false }
  | _ => p

/-- `PowerPath::take_teardown_signals`, the signals in the order in which they are sent. -/
def PowerPath.teardownSignals (p : PowerPath) : List Signal :=
  (if p.chargeLoopRunning then [.CHARGE_LOOP_FINISHED] else []) ++
    if p.acContactorClosed then [.AC_OPEN_CONTACTOR]
    else if p.chargeLoopRunning then [.DC_OPEN_CONTACTOR] else []

/-! ## The context -/

/-- `d2::Context`, with the message exchange, the timers and the power path of the session. -/
structure Context where
  config : SessionConfig
  pauseCtx : Option PauseContext
  evse : EvseStatus := {}
  session : SessionParameters := {}
  sessionId : Option SessionId := none
  chargerStopIgnored : Bool := false
  sessionStopped : Bool := false
  sessionPaused : Bool := false
  sessionEndedWithError : Bool := false
  sessionStopResPending : Option SessionStopAction := none
  responseAvailable : Bool := false
  timeouts : Timeouts := fun _ => none
  powerPath : PowerPath := {}
  log : List Trace := []   -- newest first

namespace Context

def record (t : Trace) (c : Context) : Context := { c with log := t :: c.log }

/-- `feedback.signal`. -/
def signal (s : Signal) (c : Context) : Context :=
  { c.record (.signal s) with powerPath := c.powerPath.observe s }

variable (c : Context)

def getSessionId : SessionId := c.sessionId.getD 0

def stopSession : Context := { c with sessionStopped := true }

def startTimeout (now : Int) (type : TimeoutType) (ms : Int) (c : Context) : Context :=
  { c with timeouts := c.timeouts.start now type ms }

def stopTimeout (type : TimeoutType) (c : Context) : Context :=
  { c with timeouts := c.timeouts.reset type }

def armCpStateTimeout (now ms : Int) (c : Context) : Context :=
  (c.stopTimeout .CPSTATE).startTimeout now .CPSTATE ms

/-- `error_status_code`: the errors that `DC_EVSEStatusCode` can express. -/
def hasErrorStatusCode : Bool :=
  match c.evse.activeError with
  | .UtilityInterruptEvent | .Malfunction | .EmergencyShutdown => true
  | .None | .Contactor | .RCD => false

def invalidateCableCheck : Context :=
  { c.record .cableCheckInvalidated with
    evse := { c.evse with cableCheckDone := false, cableCheckFault := false } }

def setResponse (state : StateID) (request : RequestBody) (res : Response) (c : Context) :
    Context :=
  { c.record (.staged state request res) with responseAvailable := true }

/-- The response that `respond` stages. -/
def downgraded (res : Response) : Response :=
  if (c.chargerStopIgnored || c.evse.emergencyShutdown) && !res.responseCode.failed then
    { res with responseCode := .FAILED }
  else res

def respond (state : StateID) (request : RequestBody) (res : Response) (c : Context) : Context :=
  let stop := (c.chargerStopIgnored || c.evse.emergencyShutdown) && !res.responseCode.failed
  let c' := { c with
    sessionStopped := c.sessionStopped || stop
    sessionStopResPending :=
      if stop || res.responseCode.failed then some .FailedTermination else c.sessionStopResPending }
  c'.setResponse state request (c.downgraded res)

/-- The size of the output buffer. -/
def maxPayloadLength : Nat := 16384 - 8

/-- `set_raw_response`. -/
def respondRaw (raw : Bytes) (c : Context) : Context :=
  if raw = [] ∨ maxPayloadLength < raw.length then c
  else { c.record (.stagedRaw raw) with responseAvailable := true }

end Context

/-! ## Errors common to all states -/

/-- `respond_with_code`: the response to a request of the given type; nothing else has one. -/
def errorResponse (code : ResponseCode) : RequestBody → Option Response
  | .sessionSetup => some ⟨.SessionSetupRes, code, none, false⟩
  | .serviceDiscovery => some ⟨.ServiceDiscoveryRes, code, none, false⟩
  | .serviceDetail _ => some ⟨.ServiceDetailRes, code, none, false⟩
  | .paymentServiceSelection _ _ => some ⟨.PaymentServiceSelectionRes, code, none, false⟩
  | .paymentDetails _ _ _ => some ⟨.PaymentDetailsRes, code, none, false⟩
  | .authorization _ _ => some ⟨.AuthorizationRes, code, some .Finished, false⟩
  | .chargeParameterDiscovery _ => some ⟨.ChargeParameterDiscoveryRes, code, some .Finished, false⟩
  | .powerDelivery _ => some ⟨.PowerDeliveryRes, code, none, false⟩
  | .chargingStatus => some ⟨.ChargingStatusRes, code, none, false⟩
  | .meteringReceipt _ _ => some ⟨.MeteringReceiptRes, code, none, false⟩
  | .cableCheck => some ⟨.CableCheckRes, code, some .Finished, true⟩
  | .preCharge => some ⟨.PreChargeRes, code, none, true⟩
  | .currentDemand => some ⟨.CurrentDemandRes, code, none, true⟩
  | .weldingDetection => some ⟨.WeldingDetectionRes, code, none, true⟩
  | .certificateInstallation _ => some ⟨.CertificateInstallationRes, code, none, false⟩
  | .certificateUpdate _ => some ⟨.CertificateUpdateRes, code, none, false⟩
  | .sessionStop _ => some ⟨.SessionStopRes, code, none, false⟩
  | .other => none

def respondAndTerminate (state : StateID) (request : RequestBody) (code : ResponseCode)
    (c : Context) : Context :=
  let c := match errorResponse code request with
    | some res => c.respond state request res
    | none => c
  { c.stopSession with sessionStopResPending := some .FailedTermination }

def respondSequenceError (state : StateID) (request : RequestBody) (c : Context) : Context :=
  respondAndTerminate state request .FAILED_SequenceError c

/-- `reject_unknown_session`, the test. -/
def unknownSession (request : Request) (c : Context) : Bool :=
  match c.sessionId, request.body with
  | none, _ => false
  | some _, .sessionSetup => false
  | some id, _ => request.sessionId ≠ id

end EverestCore.Iso15118.D2

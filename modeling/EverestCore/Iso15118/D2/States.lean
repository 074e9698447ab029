import EverestCore.Iso15118.D2.Context

/-!
# The SECC states of ISO 15118-2 (`d2/state/*.cpp`)

A state answers a request (`on_request`), a control event or a timeout (`on_event`) by a new
context and the state to be in next. `Next.stay` keeps the state, with its own members changed;
`Next.goto` is a transition, on which the old state is left.

* `Crypto`: the certificate and signature functions, and the decoder of relayed responses.
* `Env`: the clock and the random numbers read while one event is handled.
* `processChargeParameterDiscovery`, `processAcPowerDelivery`, `processDcPowerDelivery`,
  `processSessionStop`: the actions shared by several states.
* `onRequest`, `onControlMessage`, `onTimeoutEvent`: dispatch over the states.
-/

namespace EverestCore.Iso15118.D2

open RequestBody

/-! ## The environment -/

structure ContractValidationResult where
  responseCode : ResponseCode
  emaid : String
  chainPem : String
  forwardable : Bool

/-- The cryptographic functions and the EXI decoder the states call. -/
structure Crypto where
  validateContractChain : Bytes → List Bytes → String → ContractValidationResult
  verifyAuthorizationSignature : Bytes → Bytes → Bool
  verifyMeteringReceiptSignature : Bytes → Bytes → Bool
  relayedResponseFailed : Bytes → Bool

/-- The clock, and the random numbers drawn while an event is handled. -/
structure Env where
  now : Int
  newSessionId : SessionId   -- never zero in the source
  genChallenge : GenChallenge

/-! ## States -/

/-- The members of the state `Authorization`. -/
structure AuthorizationState where
  genChallenge : Option GenChallenge := none
  firstReqMsg : Bool := true
  timeoutOngoingReached : Bool := false
  authResponseReceived : Bool := false
  authorized : Bool := false
  certificateRevoked : Bool := false
  deriving DecidableEq

/-- A state of the state machine with its members. -/
inductive State
  | sessionSetup
  | serviceDiscovery
  | serviceSelection
  | identification (requestForwarded : Bool)
  | paymentDetails
  | authorization (members : AuthorizationState)
  | chargeParameterDiscovery
  | acPowerDelivery (savedStartReq : Option PowerDeliveryRequest)
  | meteringReceipt (dc : Bool)
  | sessionStop
  | cableCheck (initiated pendingReq : Bool)
  | preChargeStart
  | preCharge
  | dcChargeLoop
  | postCharge (pendingWeld : Bool) (pendingStop : Option ChargingSession)
  | weldingDetection
  | acChargeLoopStart
  | acChargeLoop
  deriving DecidableEq

/-- `get_id`. -/
def State.id : State → StateID
  | .sessionSetup => .SessionSetup
  | .serviceDiscovery => .ServiceDiscovery
  | .serviceSelection => .ServiceSelection
  | .identification _ => .Identification
  | .paymentDetails => .PaymentDetails
  | .authorization _ => .Authorization
  | .chargeParameterDiscovery => .ChargeParameterDiscovery
  | .acPowerDelivery _ => .AcPowerDelivery
  | .meteringReceipt _ => .MeteringReceipt
  | .sessionStop => .SessionStop
  | .cableCheck _ _ => .CableCheck
  | .preChargeStart => .PreChargeStart
  | .preCharge => .PreCharge
  | .dcChargeLoop => .DcChargeLoop
  | .postCharge _ _ => .PostCharge
  | .weldingDetection => .WeldingDetection
  | .acChargeLoopStart => .AcChargeLoopStart
  | .acChargeLoop => .AcChargeLoop

/-- `Result`. -/
inductive Next
  | stay (s : State)
  | goto (s : State)

abbrev Outcome := Context × Next

/-- The request is out of sequence. -/
def outOfSequence (s : State) (request : RequestBody) (c : Context) : Outcome :=
  (respondSequenceError s.id request c, .stay s)

/-! ## Session setup and services -/

/-- The EV returns to the paused session. -/
def rejoinsSession (received : SessionId) (c : Context) : Bool :=
  c.pauseCtx.any fun p => received != 0 && received == p.oldSessionId

/-- `SessionSetup::on_request`. -/
def sessionSetupOnRequest (env : Env) (received : SessionId) (c : Context) : Outcome :=
  if rejoinsSession received c then
    let c := { c with
      sessionId := some received, session := { c.session with sessionResumed := true } }
    (c.respond .SessionSetup .sessionSetup ⟨.SessionSetupRes, .OK_OldSessionJoined, none, false⟩,
      .goto .serviceDiscovery)
  else
    let c := { c with sessionId := some env.newSessionId }
    (c.respond .SessionSetup .sessionSetup
      ⟨.SessionSetupRes, .OK_NewSessionEstablished, none, false⟩, .goto .serviceDiscovery)

variable (c : Context)

/-- The payment option a resumed session is bound to. -/
def resumedPaymentOption : Option PaymentOption :=
  match c.pauseCtx with
  | some p =>
    if c.session.sessionResumed ∧
        (p.selectedPaymentOption ≠ .Contract ∨ c.config.tlsActive) then
      some p.selectedPaymentOption
    else none
  | none => none

def allowContract : Bool := c.config.pncEnabled && c.config.tlsActive

def allowEim : Bool := c.config.eimEnabled || !allowContract c

/-- `ServiceDiscovery::on_request`. -/
def serviceDiscoveryOnRequest : Outcome :=
  (c.respond .ServiceDiscovery .serviceDiscovery ⟨.ServiceDiscoveryRes, .OK, none, false⟩,
    .goto .serviceSelection)

def certificateServiceId : Nat := 2

def serviceOffered (serviceId : Nat) : Bool :=
  serviceId = c.config.chargeServiceId ||
    (allowContract c && c.config.certInstallService && serviceId = certificateServiceId) ||
    c.config.offeredVasServices.contains serviceId

def processServiceDetail (serviceId : Nat) (c : Context) : Outcome :=
  let code := if serviceOffered c serviceId then ResponseCode.OK else .FAILED_ServiceIDInvalid
  let c := c.respond .ServiceSelection (.serviceDetail serviceId)
    ⟨.ServiceDetailRes, code, none, false⟩
  (if code.failed then c.stopSession else c, .stay .serviceSelection)

/-- Only an option that was offered may be selected. -/
def selectionAllowed (option : PaymentOption) (c : Context) : Bool :=
  match resumedPaymentOption c, option with
  | some stored, _ => option = stored
  | none, .ExternalPayment => allowEim c
  | none, .Contract => allowContract c

/-- `handle_request` for a `PaymentServiceSelectionReq`. -/
def paymentSelectionCode (option : PaymentOption) (services : List SelectedService)
    (c : Context) : ResponseCode :=
  if ¬ selectionAllowed option c then .FAILED_PaymentSelectionInvalid
  else if ¬ services.any (fun s => s.serviceId = c.config.chargeServiceId) then
    .FAILED_NoChargeServiceSelected
  else if services.all (fun s => serviceOffered c s.serviceId) then .OK
  else .FAILED_ServiceSelectionInvalid

def processPaymentSelection (option : PaymentOption) (services : List SelectedService)
    (c : Context) : Outcome :=
  let code := paymentSelectionCode option services c
  let c := c.respond .ServiceSelection (.paymentServiceSelection option services)
    ⟨.PaymentServiceSelectionRes, code, none, false⟩
  if code.failed then (c.stopSession, .stay .serviceSelection)
  else match option with
    | .Contract =>
      ({ c with session := { c.session with contractSelected := true } },
        .goto (.identification false))
    | .ExternalPayment => (c, .goto (.authorization {}))

/-! ## Identification and authorization -/

variable (crypto : Crypto)

def processPaymentDetails (env : Env) (s : State) (emaid : String)
    (certificate : Bytes) (subCertificates : List Bytes) (c : Context) : Outcome :=
  let request := paymentDetails emaid certificate subCertificates
  let validation := crypto.validateContractChain certificate subCertificates emaid
  let forwarded := validation.forwardable && c.config.centralContractValidationAllowed
  if validation.responseCode ≠ .OK ∧ ¬ forwarded then
    ((c.respond s.id request ⟨.PaymentDetailsRes, validation.responseCode, none,
      false⟩).stopSession, .stay s)
  else
    let c := { c with session := { c.session with
      contractLeafDer := certificate
      contractEmaid := validation.emaid
      contractChainPem := validation.chainPem } }
    (c.respond s.id request ⟨.PaymentDetailsRes, .OK, none, false⟩,
      .goto (.authorization { genChallenge := some env.genChallenge }))

def forwardToBackend (exi : Bytes) (c : Context) : Outcome :=
  if exi = [] then (c.stopSession, .stay (.identification false))
  else (c.record (.certificateRequest exi), .stay (.identification true))

/-- `Identification::on_request`. -/
def identificationOnRequest (env : Env) (requestForwarded : Bool)
    (request : RequestBody) (c : Context) : Outcome :=
  let s := State.identification requestForwarded
  if requestForwarded then outOfSequence s request c
  else match request with
    | .paymentDetails emaid certificate subs =>
      processPaymentDetails crypto env s emaid certificate subs c
    | .certificateInstallation exi | .certificateUpdate exi =>
      if c.config.certInstallService then forwardToBackend exi c else outOfSequence s request c
    | _ => outOfSequence s request c

/-- `Identification::on_event`. -/
def identificationOnControl (requestForwarded : Bool) (event : ControlEvent)
    (c : Context) : Outcome :=
  let s := State.identification requestForwarded
  match event with
  | .certificateResponse accepted raw =>
    if ¬ accepted ∨ raw = [] then (c.stopSession, .stay s)
    else
      let c := c.respondRaw raw
      if crypto.relayedResponseFailed raw then
        ({ c.stopSession with sessionStopResPending := some .FailedTermination }, .stay s)
      else (c, .goto .paymentDetails)
  | _ => (c, .stay s)

/-- `handle_request` for an `AuthorizationReq`. -/
def authorizationResponse (a : AuthorizationState) (contractSelected : Bool) : Response :=
  let rejected := a.authResponseReceived && !a.authorized
  if a.timeoutOngoingReached || rejected then
    ⟨.AuthorizationRes,
      if rejected && contractSelected && a.certificateRevoked then .FAILED_CertificateRevoked
      else .FAILED, some .Finished, false⟩
  else
    ⟨.AuthorizationRes, .OK,
      some (if a.authorized then .Finished
        else if contractSelected then .Ongoing else .Ongoing_WaitingForCustomerInteraction), false⟩

/-- The answer to an `AuthorizationReq` once the first one was checked. -/
def answerAuthorization (a : AuthorizationState) (request : RequestBody) (c : Context) : Outcome :=
  let res := authorizationResponse a c.session.contractSelected
  let c := c.respond .Authorization request res
  if res.responseCode.failed then (c.stopSession, .stay (.authorization a))
  else if res.evseProcessing = some .Finished then
    (c.stopTimeout .ONGOING, .goto .chargeParameterDiscovery)
  else (c, .stay (.authorization a))

/-- The start of the wait for an authorization. -/
def startAuthorization (env : Env) (a : AuthorizationState) (c : Context) :
    AuthorizationState × Context :=
  let timeoutMs := if c.session.contractSelected then c.config.authTimeoutPncMs
    else c.config.authTimeoutEimMs
  let resumed := c.session.contractSelected && c.session.sessionResumed
  let c := if c.session.contractSelected then
      if c.session.sessionResumed then c
      else c.record (.requireAuthPnc c.session.contractEmaid c.session.contractChainPem)
    else c.signal .REQUIRE_AUTH_EIM
  ({ a with firstReqMsg := false, authorized := a.authorized || resumed },
    if 0 < timeoutMs then c.startTimeout env.now .ONGOING timeoutMs else c)

/-- `Authorization::on_request`. -/
def authorizationOnRequest (env : Env) (a : AuthorizationState)
    (challenge : Option GenChallenge) (exi : Bytes) (c : Context) : Outcome :=
  let request := authorization challenge exi
  let reject := fun code =>
    ((c.respond .Authorization request
      ⟨.AuthorizationRes, code, some .Finished, false⟩).stopSession,
      Next.stay (.authorization a))
  if a.firstReqMsg then
    if c.session.contractSelected ∧ ¬ (challenge.isSome ∧ challenge = a.genChallenge) then
      reject .FAILED_ChallengeInvalid
    else if c.session.contractSelected ∧
        ¬ crypto.verifyAuthorizationSignature exi c.session.contractLeafDer then
      reject .FAILED_SignatureError
    else
      let (a, c) := startAuthorization env a c
      answerAuthorization a request c
  else answerAuthorization a request c

/-- `Authorization::on_event` for a control event. -/
def authorizationOnControl (a : AuthorizationState) (event : ControlEvent) : State :=
  match event with
  | .authorizationResponse authorized revoked => .authorization { a with
      authorized := authorized, certificateRevoked := revoked, authResponseReceived := true }
  | _ => .authorization a

/-! ## Charge parameters -/

/-- The advertised power of a schedule. -/
def scheduledPower (config : SessionConfig) (mode : EnergyTransferMode) : Rat :=
  if mode.isDc then config.dcCapabilityMaxPower
  else config.acCapabilityMaxCurrent * config.acNominalVoltage *
    if mode = .AC_single_phase_core then 1 else 3

def buildSaScheduleList (config : SessionConfig) (mode : EnergyTransferMode)
    (departureTime : Option Nat) : List SAScheduleTuple :=
  let horizon := match departureTime with
    | some t => if 0 < t then t else config.saScheduleDuration
    | none => config.saScheduleDuration
  let duration := if config.noEnergyPause ≠ .None then 60 * 30 else horizon
  [⟨1, [⟨0, duration, toPhysicalValue (scheduledPower config mode)⟩]⟩]

/-- A negative limit is a wrong charge parameter. -/
def DcEvChargeParameter.negative (p : DcEvChargeParameter) : Bool :=
  p.evMaximumCurrentLimit < 0 || p.evMaximumVoltageLimit < 0 ||
    p.evMaximumPowerLimit.any (· < 0)

/-- The ranges of the EV and of the EVSE do not overlap. -/
def DcEvChargeParameter.belowMinimum (p : DcEvChargeParameter) (config : SessionConfig) : Bool :=
  p.evMaximumCurrentLimit ≤ config.dcMinCurrent || p.evMaximumVoltageLimit ≤ config.dcMinVoltage

def AcEvChargeParameter.negative (p : AcEvChargeParameter) : Bool :=
  p.evMaxCurrent < 0 || p.evMinCurrent < 0 || p.evMaxVoltage < 0 || p.eAmount < 0

/-- `build_response`, the response code and, with a positive one, the schedule. -/
def chargeParameters (req : ChargeParameterDiscoveryRequest) (config : SessionConfig) :
    Except ResponseCode (List SAScheduleTuple) :=
  let mode := req.requestedEnergyTransferMode
  if ¬ config.supportedEnergyTransferModes.contains mode then
    .error .FAILED_WrongEnergyTransferMode
  else if mode.isDc then
    match req.dcEvChargeParameter with
    | none => .error .FAILED_WrongChargeParameter
    | some p =>
      if p.negative || p.belowMinimum config then .error .FAILED_WrongChargeParameter
      else .ok (buildSaScheduleList config mode p.departureTime)
  else
    match req.acEvChargeParameter with
    | none => .error .FAILED_WrongChargeParameter
    | some p =>
      if p.negative then .error .FAILED_WrongChargeParameter
      else .ok (buildSaScheduleList config mode p.departureTime)

/-- The state after the charge parameters. Without energy for a cable check it is skipped. -/
def afterChargeParameters (mode : EnergyTransferMode) (c : Context) : State :=
  if mode.isDc then
    if c.config.noEnergyPause = .BeforeCableCheck then .preChargeStart else .cableCheck false false
  else .acPowerDelivery none

/-- `set_sa_schedules`, with the id of the first tuple. -/
def setSaSchedules (schedules : List SAScheduleTuple) (c : Context) : Context :=
  match schedules with
  | [] => c
  | t :: ts => { c with session := { c.session with
      saScheduleList := t :: ts, saScheduleTupleId := t.saScheduleTupleId } }

def processChargeParameterDiscovery (s : State) (req : ChargeParameterDiscoveryRequest)
    (c : Context) : Outcome :=
  let mode := req.requestedEnergyTransferMode
  let response := fun code =>
    (⟨.ChargeParameterDiscoveryRes, code, some .Finished, mode.isDc⟩ : Response)
  match chargeParameters req c.config with
  | .error code =>
    ((c.respond s.id (.chargeParameterDiscovery req) (response code)).stopSession, .stay s)
  | .ok schedules =>
    let c := c.respond s.id (.chargeParameterDiscovery req) (response .OK)
    let c := setSaSchedules schedules c
    (c, .goto (afterChargeParameters mode c))

/-! ## Power delivery -/

def contactorPerformanceTimeMs : Int := 4500

def cpStatePerformanceTimeMs : Int := 1500

def timeoutCableCheckMs : Int := 38000

/-- The schedule a charging profile is checked against. -/
def selectedTuple (schedules : List SAScheduleTuple) (id : Nat) : Option SAScheduleTuple :=
  (schedules.find? fun t => t.saScheduleTupleId = id).or schedules.head?

/-- `charging_profile_within_limits`: no entry exceeds the largest advertised power. -/
def chargingProfileWithinLimits (profile : List ProfileEntry) (schedules : List SAScheduleTuple)
    (id : Nat) : Bool :=
  match selectedTuple schedules id with
  | none => true
  | some t =>
    if t.pmaxSchedule = [] then true
    else
      let maxPmax := t.pmaxSchedule.foldl (fun m e => max m e.pMax) 0
      profile.all fun e => e.maxPower ≤ maxPmax

/-- `handle_request` for a `PowerDeliveryReq`. -/
def powerDeliveryCode (req : PowerDeliveryRequest) (isDc : Bool) (c : Context) : ResponseCode :=
  if req.saScheduleTupleId ≠ c.session.saScheduleTupleId then .FAILED_TariffSelectionInvalid
  else if req.chargeProgress = .Start ∧ ¬ req.chargingProfile.all (fun p =>
      chargingProfileWithinLimits p c.session.saScheduleList c.session.saScheduleTupleId) then
    .FAILED_ChargingProfileInvalid
  else if req.chargeProgress = .Start ∧ isDc ∧ c.hasErrorStatusCode then
    .FAILED_PowerDeliveryNotApplied
  else .OK

/-- Stages a `PowerDeliveryRes` with the given code. -/
def respondPowerDelivery (s : State) (req : PowerDeliveryRequest) (isDc : Bool)
    (code : ResponseCode) (c : Context) : Context :=
  c.respond s.id (.powerDelivery req) ⟨.PowerDeliveryRes, code, none, isDc⟩

/-- A `PowerDeliveryRes` that fails ends the session. -/
def failPowerDelivery (s : State) (req : PowerDeliveryRequest) (isDc : Bool)
    (code : ResponseCode) (c : Context) : Outcome :=
  ((respondPowerDelivery s req isDc code c).stopSession, .stay s)

def markPowerDeliveryStarted : Context :=
  let c := c.signal .SETUP_FINISHED
  { c with session := { c.session with powerDeliveryStarted := true } }

def renegotiate (s : State) (req : PowerDeliveryRequest) (isDc : Bool) (c : Context) : Outcome :=
  if ¬ c.session.powerDeliveryStarted then failPowerDelivery s req isDc .FAILED c
  else
    let code := powerDeliveryCode req isDc c
    if code.failed then failPowerDelivery s req isDc code c
    else
      let c := respondPowerDelivery s req isDc code c
      -- the isolation has to be verified again
      let c := if isDc then
          ((c.signal .CHARGE_LOOP_FINISHED).signal .DC_RENEGOTIATION_STARTED).invalidateCableCheck
        else c
      (c, .goto .chargeParameterDiscovery)

def processAcPowerDelivery (s : State) (req : PowerDeliveryRequest) (c : Context) : Outcome :=
  match req.chargeProgress with
  | .Start =>
    let c := markPowerDeliveryStarted c
    let code := powerDeliveryCode req false c
    if code.failed then failPowerDelivery s req false code c
    else (respondPowerDelivery s req false code c, .goto .acChargeLoopStart)
  | .Renegotiate => renegotiate s req false c
  | .Stop =>
    let code := powerDeliveryCode req false c
    if code.failed then failPowerDelivery s req false code c
    else
      let c := respondPowerDelivery s req false code c
      let c := { c with evse := { c.evse with acContactorClosed := false } }
      (c.signal .AC_OPEN_CONTACTOR, .goto .sessionStop)

/-- The EV was told to pause; `AllowEvToIgnorePause` lets it start anyway. -/
def NoEnergyPauseMode.refusesStart : NoEnergyPauseMode → Bool
  | .BeforeCableCheck | .AfterCableCheckPreCharge => true
  | .None | .AllowEvToIgnorePause => false

def processDcPowerDelivery (s : State) (req : PowerDeliveryRequest) (c : Context) : Outcome :=
  match req.chargeProgress with
  | .Start =>
    if c.config.noEnergyPause.refusesStart then
      (((respondPowerDelivery s req true .FAILED c).signal .DC_OPEN_CONTACTOR).stopSession, .stay s)
    else
      let c := markPowerDeliveryStarted c
      let code := powerDeliveryCode req true c
      if code.failed then failPowerDelivery s req true code c
      else
        let c := respondPowerDelivery s req true code c
        ({ c with session := { c.session with chargeLoopStarted := false } }, .goto .dcChargeLoop)
  | .Renegotiate => renegotiate s req true c
  | .Stop =>
    -- the supply is switched off before the request is checked
    let c := c.signal .CHARGE_LOOP_FINISHED
    let code := powerDeliveryCode req true c
    if code.failed then failPowerDelivery s req true code c
    else
      let c := respondPowerDelivery s req true code c
      let c := { c with session := { c.session with cpStateBGateArmed := true } }
      (c.invalidateCableCheck.signal .DC_OPEN_CONTACTOR, .goto (.postCharge false none))

/-- `AcPowerDelivery::on_request` for a `PowerDeliveryReq`: the contactor gate. -/
def acPowerDeliveryOnRequest (env : Env) (saved : Option PowerDeliveryRequest)
    (req : PowerDeliveryRequest) (c : Context) : Outcome :=
  if req.chargeProgress = .Start ∧ ¬ c.evse.acContactorClosed then
    (((markPowerDeliveryStarted c).signal .AC_CLOSE_CONTACTOR).startTimeout env.now .CONTACTOR
      contactorPerformanceTimeMs, .stay (.acPowerDelivery (some req)))
  else processAcPowerDelivery (.acPowerDelivery saved) req c

/-- `AcPowerDelivery::on_event` for a control event. -/
def acPowerDeliveryOnControl (saved : Option PowerDeliveryRequest) (event : ControlEvent)
    (c : Context) : Outcome :=
  match event with
  | .closedContactor closed =>
    let c := { c with evse := { c.evse with acContactorClosed := closed } }
    match closed, saved with
    | true, some req =>
      let c := c.stopTimeout .CONTACTOR
      let code := powerDeliveryCode req false c
      if code.failed then failPowerDelivery (.acPowerDelivery none) req false code c
      else
        (respondPowerDelivery (.acPowerDelivery none) req false code c, .goto .acChargeLoopStart)
    | _, _ => (c, .stay (.acPowerDelivery saved))
  | _ => (c, .stay (.acPowerDelivery saved))

/-- `AcPowerDelivery::on_event` for a timeout; without a saved request there is nothing to answer,
but the source answers all the same. -/
def acPowerDeliveryOnTimeout (saved : Option PowerDeliveryRequest) (timeout : TimeoutType)
    (c : Context) : Outcome :=
  if timeout = .CONTACTOR then
    let request := powerDelivery (saved.getD ⟨.Start, 0, none⟩)
    ((c.respond .AcPowerDelivery request ⟨.PowerDeliveryRes, .FAILED_ContactorError, none,
      false⟩).stopSession, .stay (.acPowerDelivery saved))
  else (c, .stay (.acPowerDelivery saved))

/-! ## Cable check and pre-charge -/

/-- `handle_request` for a `CableCheckReq`. -/
def cableCheckResponse : Response :=
  if c.evse.cableCheckFault then ⟨.CableCheckRes, .FAILED, some .Finished, true⟩
  else ⟨.CableCheckRes, .OK, some (if c.evse.cableCheckDone then .Finished else .Ongoing), true⟩

/-- The cable check starts with the first request. -/
def initiateCableCheck (env : Env) (initiated : Bool) (c : Context) : Context :=
  if initiated then c
  else (c.signal .START_CABLE_CHECK).startTimeout env.now .ONGOING timeoutCableCheckMs

/-- `CableCheck::process_request`. -/
def processCableCheck (env : Env) (initiated pending : Bool) (c : Context) : Outcome :=
  let c := initiateCableCheck env initiated c
  let res := cableCheckResponse c
  let c := c.respond .CableCheck .cableCheck res
  if res.responseCode.failed then
    ((c.stopTimeout .ONGOING).stopSession, .stay (.cableCheck true pending))
  else if res.evseProcessing = some .Finished then (c.stopTimeout .ONGOING, .goto .preChargeStart)
  else (c, .stay (.cableCheck true pending))

/-- The EV may close its contactors. -/
def inCpStateCD : Bool :=
  c.evse.currentCpState = .C || c.evse.currentCpState = .D

/-- `CableCheck::on_request` for a `CableCheckReq`: it waits for CP state C or D. -/
def cableCheckOnRequest (env : Env) (initiated pending : Bool) (c : Context) : Outcome :=
  if inCpStateCD c then processCableCheck env initiated pending c
  else (c.armCpStateTimeout env.now cpStatePerformanceTimeMs, .stay (.cableCheck initiated true))

/-- `set_cable_check_done`, `set_cable_check_fault`. -/
def setCableCheckResult (event : ControlEvent) (c : Context) : Context :=
  match event with
  | .cableCheckFinished true => { c with evse := { c.evse with cableCheckDone := true } }
  | .cableCheckFinished false => { c with evse := { c.evse with cableCheckFault := true } }
  | _ => c

/-- `CableCheck::on_event` for a control event. -/
def cableCheckOnControl (env : Env) (initiated pending : Bool) (event : ControlEvent)
    (c : Context) : Outcome :=
  let c := setCableCheckResult event c
  if pending && inCpStateCD c then
    processCableCheck env initiated false (c.stopTimeout .CPSTATE)
  else (c, .stay (.cableCheck initiated pending))

/-- `CableCheck::on_event` for a timeout. -/
def cableCheckOnTimeout (initiated pending : Bool) (timeout : TimeoutType) (c : Context) :
    Outcome :=
  if timeout = .ONGOING then (c.stopSession, .stay (.cableCheck initiated pending))
  else if timeout = .CPSTATE ∧ pending then
    ((c.respond .CableCheck .cableCheck ⟨.CableCheckRes, .FAILED, some .Finished,
      true⟩).stopSession, .stay (.cableCheck initiated false))
  else (c, .stay (.cableCheck initiated pending))

def answerPreCharge (s : State) (c : Context) : Context :=
  c.respond s.id .preCharge ⟨.PreChargeRes, .OK, none, true⟩

/-! ## The charge loops -/

/-- A signed receipt is asked for once, when there is a meter reading to sign. -/
def requestReceipt : Bool :=
  c.config.receiptRequired && c.session.contractSelected && !c.session.receiptReceived &&
    c.evse.latestMeterInfo.isSome

/-- `CHARGE_LOOP_STARTED` is raised once per `PowerDelivery(Start)`. -/
def startChargeLoop : Context :=
  if c.session.chargeLoopStarted then c
  else
    let c := c.signal .CHARGE_LOOP_STARTED
    { c with session := { c.session with chargeLoopStarted := true } }

/-- `DcChargeLoop::process_request`. -/
def processCurrentDemand : Outcome :=
  let c := startChargeLoop c
  let receipt := requestReceipt c
  (c.respond .DcChargeLoop .currentDemand ⟨.CurrentDemandRes, .OK, none, true⟩,
    if receipt then .goto (.meteringReceipt true) else .stay .dcChargeLoop)

/-- `answer_charging_status`, and the state to be in when no receipt is asked for. -/
def answerChargingStatus (s : State) (next : Next) (c : Context) : Outcome :=
  (c.respond s.id .chargingStatus ⟨.ChargingStatusRes, .OK, none, false⟩,
    if requestReceipt c then .goto (.meteringReceipt false) else next)

/-- `MeteringReceipt::on_request`. -/
def meteringReceiptOnRequest (dc : Bool) (sessionId : SessionId) (exi : Bytes)
    (c : Context) : Outcome :=
  let request := meteringReceipt sessionId exi
  let respond := fun code (c : Context) =>
    c.respond .MeteringReceipt request ⟨.MeteringReceiptRes, code, none, dc⟩
  if sessionId ≠ c.getSessionId then
    ((respond .FAILED_UnknownSession c).stopSession, .stay (.meteringReceipt dc))
  else if ¬ crypto.verifyMeteringReceiptSignature exi c.session.contractLeafDer then
    ((respond .FAILED_MeteringSignatureNotValid c).stopSession, .stay (.meteringReceipt dc))
  else
    let c := respond .OK { c with session := { c.session with receiptReceived := true } }
    (c, if c.sessionStopped then .stay (.meteringReceipt dc)
      else if dc then .goto .dcChargeLoop else .goto .acChargeLoop)

/-! ## The end of a session -/

def processSessionStop (s : State) (charging : ChargingSession) (c : Context) : Outcome :=
  let c := c.respond s.id (.sessionStop charging) ⟨.SessionStopRes, .OK, none, false⟩
  match charging with
  | .Pause =>
    let option := if c.session.contractSelected then PaymentOption.Contract else .ExternalPayment
    ({ c with
      sessionPaused := true
      pauseCtx := some ⟨c.getSessionId, option⟩
      sessionStopResPending := some .Pause }, .stay s)
  | .Terminate =>
    ({ c.stopSession with
      pauseCtx := none, sessionStopResPending := some .Terminate }, .stay s)

def cpStateBOutstanding : Bool :=
  c.session.cpStateBGateArmed && c.evse.currentCpState ≠ .B

def answerWeldingDetection (s : State) (c : Context) : Context :=
  c.respond s.id .weldingDetection ⟨.WeldingDetectionRes, .OK, none, true⟩

def acceptWeldingDetection (env : Env) (weld : Bool) (stop : Option ChargingSession)
    (c : Context) : Outcome :=
  if cpStateBOutstanding c then
    (c.armCpStateTimeout env.now cpStatePerformanceTimeMs, .stay (.postCharge true stop))
  else (answerWeldingDetection (.postCharge weld stop) c, .goto .weldingDetection)

def acceptSessionStop (env : Env) (weld : Bool) (stop : Option ChargingSession)
    (charging : ChargingSession) (c : Context) : Outcome :=
  if charging ≠ .Pause ∧ cpStateBOutstanding c then
    (c.armCpStateTimeout env.now cpStatePerformanceTimeMs, .stay (.postCharge weld (some charging)))
  else processSessionStop (.postCharge weld stop) charging c

/-- `PostCharge::on_event` for a control event: a parked request goes on in CP state B. -/
def postChargeOnControl (weld : Bool) (stop : Option ChargingSession) (c : Context) : Outcome :=
  if c.evse.currentCpState = .B then
    if weld then
      (answerWeldingDetection (.postCharge false stop) (c.stopTimeout .CPSTATE),
        .goto .weldingDetection)
    else match stop with
      | some charging =>
        processSessionStop (.postCharge false none) charging (c.stopTimeout .CPSTATE)
      | none => (c, .stay (.postCharge weld stop))
  else (c, .stay (.postCharge weld stop))

/-- `PostCharge::on_event` for a timeout. -/
def postChargeOnTimeout (weld : Bool) (stop : Option ChargingSession) (timeout : TimeoutType)
    (c : Context) : Outcome :=
  if timeout = .CPSTATE then
    if weld then
      ((c.respond .PostCharge .weldingDetection ⟨.WeldingDetectionRes, .FAILED, none,
        true⟩).stopSession, .stay (.postCharge false stop))
    else match stop with
      | some charging =>
        ((c.respond .PostCharge (.sessionStop charging) ⟨.SessionStopRes, .FAILED, none,
          false⟩).stopSession, .stay (.postCharge false none))
      | none => (c, .stay (.postCharge weld stop))
  else (c, .stay (.postCharge weld stop))

/-! ## Dispatch -/

/-- `on_request` of all states. -/
def onRequest (env : Env) (s : State) (request : Request) (c : Context) : Outcome :=
  match s, request.body with
  | .sessionSetup, .sessionSetup => sessionSetupOnRequest env request.sessionId c
  | .serviceDiscovery, .serviceDiscovery => serviceDiscoveryOnRequest c
  | .serviceSelection, .serviceDetail id => processServiceDetail id c
  | .serviceSelection, .paymentServiceSelection option services =>
    processPaymentSelection option services c
  | .identification forwarded, body => identificationOnRequest crypto env forwarded body c
  | .paymentDetails, .paymentDetails emaid certificate subs =>
    processPaymentDetails crypto env s emaid certificate subs c
  | .authorization a, .authorization challenge exi =>
    authorizationOnRequest crypto env a challenge exi c
  | .chargeParameterDiscovery, .chargeParameterDiscovery req =>
    processChargeParameterDiscovery s req c
  | .acPowerDelivery saved, .powerDelivery req => acPowerDeliveryOnRequest env saved req c
  | .meteringReceipt dc, .meteringReceipt id exi => meteringReceiptOnRequest crypto dc id exi c
  | .sessionStop, .sessionStop charging => processSessionStop s charging c
  | .cableCheck initiated pending, .cableCheck => cableCheckOnRequest env initiated pending c
  | .preChargeStart, .preCharge =>
    (answerPreCharge s (c.signal .PRE_CHARGE_STARTED), .goto .preCharge)
  | .preCharge, .preCharge => (answerPreCharge s c, .stay .preCharge)
  | .preCharge, .powerDelivery req => processDcPowerDelivery s req c
  | .dcChargeLoop, .currentDemand => processCurrentDemand c
  | .dcChargeLoop, .powerDelivery req => processDcPowerDelivery s req c
  | .postCharge weld stop, .weldingDetection => acceptWeldingDetection env weld stop c
  | .postCharge _ _, .chargeParameterDiscovery req => processChargeParameterDiscovery s req c
  | .postCharge weld stop, .sessionStop charging => acceptSessionStop env weld stop charging c
  | .weldingDetection, .weldingDetection =>
    (answerWeldingDetection s c, .stay .weldingDetection)
  | .weldingDetection, .sessionStop charging => processSessionStop s charging c
  | .acChargeLoopStart, .chargingStatus => answerChargingStatus s (.goto .acChargeLoop) c
  | .acChargeLoop, .chargingStatus => answerChargingStatus s (.stay .acChargeLoop) c
  | .acChargeLoop, .powerDelivery req => processAcPowerDelivery s req c
  | s, body => outOfSequence s body c

/-- `on_event` of all states for a control event. -/
def onControlMessage (env : Env) (s : State) (event : ControlEvent) (c : Context) : Outcome :=
  match s with
  | .identification forwarded => identificationOnControl crypto forwarded event c
  | .authorization a => (c, .stay (authorizationOnControl a event))
  | .acPowerDelivery saved => acPowerDeliveryOnControl saved event c
  | .cableCheck initiated pending => cableCheckOnControl env initiated pending event c
  | .postCharge weld stop => postChargeOnControl weld stop c
  | s => (c, .stay s)

/-- `on_event` of all states for a timeout. -/
def onTimeoutEvent (s : State) (timeout : TimeoutType) (c : Context) : Outcome :=
  match s with
  | .authorization a =>
    (c, .stay (.authorization
      { a with timeoutOngoingReached := a.timeoutOngoingReached || timeout = .ONGOING }))
  | .acPowerDelivery saved => acPowerDeliveryOnTimeout saved timeout c
  | .cableCheck initiated pending => cableCheckOnTimeout initiated pending timeout c
  | .postCharge weld stop => postChargeOnTimeout weld stop timeout c
  | s => (c, .stay s)

end EverestCore.Iso15118.D2

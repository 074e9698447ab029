import EverestCore.Evse.Charger.StateMachine

/-!
# The interface of the charger (`Charger.cpp`)

The main loop, the error thread and the public calls, each an atomic step under
`state_machine_mutex`. A call that runs the state machine has a bound `n` on the passes, see
`runStateMachine`, and what it reads from the environment.

* `processEvent`, `tick`: `process_event` and the regular run of `main_thread`.
* `errorEvent`: `error_thread`.
* `enableDisable`: `enable_disable`, with `parse_enable_disable_source_table` and
  `enable_disable_source_table_update`.
* `authorize`, `deauthorize`, `cancelTransaction`, `pauseCharging`, `resumeCharging`.
* `dlinkPause`, `dlinkTerminate`, `dlinkError` and the other notifications of the data link.
* `Op`, `step`: any of these, and `calls`: the calls of `run_state_machine` that a step makes.

`dlink_error` gives the mutex back before it calls `start_reinit`; here it is one step. The calls
that only return a part of the state are left out, and so are `cleanup_transactions_on_startup` and
those that write the configuration, `setup` and `set_connector_type`.
-/

namespace EverestCore.Evse

open Iec (CPEvent)

namespace Charger

section Calls

variable (cfg : ChargerConfig) (i : ChargerInputs) (n : Nat)

/-! ## CP events and the main loop -/

def processCpEventsIndependent (e : CPEvent) (c : Charger) : Charger :=
  match e with
  | .CarRequestedStopPower => { c with iecAllowCloseContactor := false }
  | .CarUnplugged => { c with control := { c.control with flagEvPluggedIn := false } }
  | .PowerOff => { c with control := { c.control with contactorOpen := true } }
  | .PowerOn => { c with control := { c.control with contactorOpen := false } }
  | _ => c

variable (c : Charger)

/-- The EV stops to request power while the charging is prepared. -/
def stopPreparing : Charger :=
  let c := { c with
    iecAllowCloseContactor := false
    hlc := { c.hlc with sessionPausedByEvse := false } }
  let c := c.emit .dcSupplyOff
  if c.hlc.dcRenegotiation then c else c.setState .ChargingPausedEVSE

def processCpEventsState (e : CPEvent) (c : Charger) : Charger :=
  match c.state, e with
  | .Idle, .CarPluggedIn =>
    ({ c with control := { c.control with flagEvPluggedIn := true } }).setState
      .WaitingForAuthentication
  | .WaitingForAuthentication, .CarRequestedPower => { c with iecAllowCloseContactor := true }
  | .WaitingForAuthentication, .CarRequestedStopPower => { c with iecAllowCloseContactor := false }
  | .PrepareCharging, .CarRequestedPower => { c with iecAllowCloseContactor := true }
  | .PrepareCharging, .CarRequestedStopPower => c.stopPreparing
  | .Charging, .CarRequestedStopPower => { c with iecAllowCloseContactor := false }
  | .Charging, .BCDtoE => { c with iecAllowCloseContactor := false }
  | .ChargingPausedEV, .CarRequestedPower =>
    let c := { c with iecAllowCloseContactor := true }
    if cfg.chargeMode = .AC ∧ ¬ c.hlc.chargingActive then c.setState .PrepareCharging
    else if c.pwm.running then c
    else c.bcbToggleDetectStartPulse
  | .ChargingPausedEV, .CarRequestedStopPower =>
    if ¬ c.pwm.running ∧ c.hlc.chargingActive then c.bcbToggleDetectStopPulse else c
  | .StoppingCharging, .CarRequestedPower =>
    if c.hlc.chargingActive ∧ ¬ c.pwm.running then c.bcbToggleDetectStartPulse else c
  | .StoppingCharging, .CarRequestedStopPower =>
    if c.hlc.chargingActive ∧ ¬ c.pwm.running then c.bcbToggleDetectStopPulse else c
  | _, _ => c

/-- `process_event`, up to the second run of the state machine. -/
def beforeSecondRun (e : CPEvent) (c : Charger) : Charger :=
  ((c.processCpEventsIndependent e).runStateMachine cfg i n).processCpEventsState cfg e

def processEvent (e : CPEvent) (c : Charger) : Charger :=
  (c.beforeSecondRun cfg i n e).runStateMachine cfg i n

/-- The regular part of `main_thread`. -/
def tick : Charger := (c.powerAvailable cfg).2.runStateMachine cfg i n

/-- One event of `error_thread`. -/
def errorEvent (e : ErrorHandlingEvents) (c : Charger) : Charger :=
  { c with control := { c.control with shutdownType :=
      match e with
      | .ForceErrorShutdown => .ErrorShutdown
      | .ForceEmergencyShutdown => .EmergencyShutdown
      | .AllErrorsPreventingChargingCleared => .None
      | .AllErrorCleared => .None } }

/-! ## Enable and disable -/

/-- `enable_disable_source_table_update`, on the table. -/
def enableDisableSourceTableUpdate (source : EnableDisableSource) :
    List EnableDisableSource → List EnableDisableSource
  | [] => [source]
  | entry :: table =>
    if entry.enableSource = source.enableSource then source :: table
    else entry :: enableDisableSourceTableUpdate source table

/-- The source that is active as long as no entry is assigned. -/
def unassignedSource : EnableDisableSource := ⟨.Unspecified, .Unassigned, 10000⟩

/-- The loop body of `parse_enable_disable_source_table`: `is_enabled` and `winning_source`. -/
def considerEntry (acc : Bool × EnableDisableSource) (entry : EnableDisableSource) :
    Bool × EnableDisableSource :=
  let (isEnabled, winningSource) := acc
  if entry.enableState = .Unassigned then acc
  else if winningSource.enableState = .Unassigned then
    (decide (entry.enableState ≠ .Disable), entry)
  else if entry.enablePriority = winningSource.enablePriority then
    if entry.enableState = .Disable then (false, entry) else (isEnabled, winningSource)
  else if entry.enablePriority < winningSource.enablePriority then
    (decide (entry.enableState ≠ .Disable), entry)
  else acc

/-- `parse_enable_disable_source_table`, on the table: whether it enables, and the active source. -/
def parseEnableDisableSourceTable (table : List EnableDisableSource) : Bool × EnableDisableSource :=
  table.foldl considerEntry (true, unassignedSource)

def enableDisableInitialStatePublish : Charger :=
  let disabled := decide (c.state = .Disabled)
  let c := c.emit (.simpleEvent (if disabled then .Disabled else .Enabled))
  let source := { unassignedSource with enableState := if disabled then .Disable else .Enable }
  { c with control := { c.control with
    enableDisableSourceTable :=
      enableDisableSourceTableUpdate source c.control.enableDisableSourceTable
    activeEnableDisableSource := source } }

/-- `enable_disable`, the table and the active source; the result of the call. -/
def decideEnabled (connectorId : Int) (source : EnableDisableSource) (c : Charger) :
    Bool × Charger :=
  let table := enableDisableSourceTableUpdate source c.control.enableDisableSourceTable
  let (isEnabled, winningSource) := parseEnableDisableSourceTable table
  (isEnabled, { c with control := { c.control with
    enableDisableSourceTable := table
    activeEnableDisableSource := winningSource
    connectorEnabled := if connectorId ≠ 0 then isEnabled else c.control.connectorEnabled } })

/-- A disabled charger is enabled at once. -/
def leaveDisabled : Charger :=
  if c.state = .Disabled ∧ c.control.connectorEnabled then
    let c := { c with control := { c.control with flagDisableRequested := false } }
    (c.emit (.enable true)).setState .Idle
  else c

/-- The decision has changed, where `Unassigned` counts as `Enable`. -/
def decisionChanged (last current : EnableState) : Bool :=
  (current = .Disable || last = .Disable) && current ≠ last

/-- The change is announced, or the teardown of the session is requested. -/
def applyDecision (isEnabled : Bool) (c : Charger) : Charger :=
  if isEnabled then c.emit (.simpleEvent .Enabled)
  else { c with
    control := { c.control with flagDisableRequested := true }
    auth := { c.auth with lastStopTransactionReason := some .EVSEDisabled } }

/-- `enable_disable`, up to the run of the state machine; whether it is run. -/
def beforeDisableRun (connectorId : Int) (source : EnableDisableSource) (c : Charger) :
    Bool × Charger :=
  let last := c.control.activeEnableDisableSource.enableState
  let (isEnabled, c) := c.decideEnabled connectorId source
  let c := c.leaveDisabled
  if decisionChanged last c.control.activeEnableDisableSource.enableState then
    (true, c.applyDecision isEnabled)
  else (false, c)

def enableDisable (connectorId : Int) (source : EnableDisableSource) (c : Charger) :
    Bool × Charger :=
  let (runs, c') := c.beforeDisableRun connectorId source
  ((c.decideEnabled connectorId source).1, if runs then c'.runStateMachine cfg i n else c')

/-! ## Authorization and the transaction -/

/-- The session is authorized. -/
def grantAuthorization (token : ProvidedIdToken) (c : Charger) : Charger :=
  let c := (c.emit (.simpleEvent .Authorized)).setFlagAuthorized true
  { c with auth := { c.auth with authorizedPnc := token.pnc } }

/-- An accepted authorization; the first interaction with an idle charger starts the session. -/
def acceptAuthorization (token : ProvidedIdToken) (c : Charger) : Charger :=
  let c := { c with auth := { c.auth with idToken := token } }
  (if c.control.sessionActive then c else c.startSession i true).grantAuthorization token

def authorize (a : Bool) (token : ProvidedIdToken) (c : Charger) : Bool × Charger :=
  if a then
    -- a late response, after a cancellation or while the charger is being disabled
    if c.auth.flagExternallyCancelled ∨ c.control.flagDisableRequested then (false, c)
    -- a response that belongs to the previous session
    else if ¬ c.control.sessionActive ∧ c.state ≠ .Idle then (false, c)
    else (true, c.acceptAuthorization i token)
  else (true, (if c.control.sessionActive then c.stopSession else c).setFlagAuthorized false)

def deauthorize : Bool × Charger := c.deauthorizeInternal cfg

variable (reason : StopTransactionReason)

/-- The HLC stack is told why the transaction is stopped. -/
def signalStopReason (c : Charger) : Charger :=
  if c.hlc.chargingActive then
    match reason with
    | .EmergencyStop => c.emit (.hlcError .Error_EmergencyShutdown)
    | .PowerLoss => c.emit (.hlcError .Error_UtilityInterruptEvent)
    | _ => c
  else c

/-- The request to stop is noted. -/
def noteCancelled (idTag : Option ProvidedIdToken) (c : Charger) : Charger :=
  { c with auth := { c.auth with
    flagExternallyCancelled := true
    lastStopTransactionReason := some reason
    stopTransactionIdToken := idTag } }

def cancelTransaction (idTag : Option ProvidedIdToken) (c : Charger) : Bool × Charger :=
  if c.control.flagTransactionActive then
    let c := (c.signalStopReason reason).setFlagAuthorized false
    let c := { c with auth := { c.auth with authorizedPnc := false } }
    (true, c.noteCancelled reason idTag)
  else if c.control.sessionActive ∧ c.state = .WaitingForAuthentication then
    (true, (c.noteCancelled reason idTag).emit .hlcPlugInTimeout)
  else (false, c)

def pauseCharging : Bool × Charger :=
  if c.control.flagTransactionActive then (true, { c with flagPausedByEvse := true })
  else (false, c)

def resumeCharging : Bool × Charger :=
  if c.control.flagTransactionActive then (true, { c with flagPausedByEvse := false })
  else (false, c)

def switchThreePhasesWhileCharging (threePhases : Bool) (c : Charger) : Bool × Charger :=
  if c.hlc.chargingActive then (false, c)
  else (true, match c.state with
    | .Charging =>
      ({ c with
        seq := { c.seq with threePhases := threePhases, switchingOngoing := true }
        control := { c.control with switchingPhasesReturnState := .PrepareCharging } }).setState
          .SwitchPhases
    | .SwitchPhases => { c with seq := { c.seq with threePhases := threePhases } }
    | _ => c.emit (.switchThreePhasesWhileCharging threePhases))

def startReinit : Bool × Charger :=
  if c.state = .Disabled ∨ c.state = .Idle then (false, c)
  else if cfg.reinitMethod = .E ∧ ¬ c.seq.supportsCpStateE then (false, c)
  else if c.seq.reinitRunning then (false, c)
  else (true, { c with seq := { c.seq with
    reinitMethod := cfg.reinitMethod
    reinitDuration := cfg.reinitDurationMs
    reinitRequested := true } })

/-! ## Limits and measurements -/

def setMaxCurrent (ampere : Rat) (validUntil : Int) (c : Charger) : Bool × Charger :=
  if c.now < validUntil then
    let c := { c with limits := { c.limits with
      maxCurrent := |ampere|, maxCurrentValidUntil := validUntil } }
    let maxCurrent := c.getMaxCurrentInternal
    let c := c.emit (.setOvercurrentLimit maxCurrent)
    (true, c.emit (.maxCurrent (if ampere < 0 then -maxCurrent else maxCurrent)))
  else (false, c)

def setCurrentDrawnByVehicle (l1 l2 l3 : Rat) (c : Charger) : Charger :=
  { c with limits := { c.limits with drawnL1 := l1, drawnL2 := l2, drawnL3 := l3 } }

def informNewEvseMaxHlcLimits (current power : Rat) (c : Charger) : Charger :=
  { c with limits := { c.limits with
    evseMaximumCurrentLimit := current, evseMaximumPowerLimit := power } }

def updateDcPresentCurrent (ampere : Rat) (c : Charger) : Charger :=
  { c with limits := { c.limits with dcPresentCurrent := ampere } }

def resetDcEnforceTargetLimitsTimer : Charger :=
  { c with lastDcEnforceTargetLimits := c.now }

def setSupportsCpStateE (value : Bool) (c : Charger) : Charger :=
  { c with seq := { c.seq with supportsCpStateE := value } }

/-! ## The data link -/

def v2gSeccCpOscillatorRetain : Int := 1550

/-- `set_dlink_ready`: only the establishment is latched. -/
def setDlinkReady (ready : Bool) (c : Charger) : Charger :=
  if ready then { c with link := { c.link with dlinkEstablished := true } } else c

def setMatchingStarted (m : Bool) (c : Charger) : Charger :=
  { c with link := { c.link with matchingStarted := m } }

def setSlacMatched (matched : Bool) (c : Charger) : Charger :=
  { c with link := { c.link with
    slacMatched := matched
    slacRetries := if matched then 0 else c.link.slacRetries
    matchingStarted := matched || c.link.matchingStarted } }

def setHlcChargingActive : Charger :=
  { c with hlc := { c.hlc with chargingActive := true } }

def setHlcAllowCloseContactor (on : Bool) (c : Charger) : Charger :=
  { c with hlc := { c.hlc with allowCloseContactor := on } }

def setHlcD20Active (dynamicControlMode : Bool) (c : Charger) : Charger :=
  { c with hlc := { c.hlc with d20Active := true, d20DynamicMode := dynamicControlMode } }

def notifyHlcPauseNotified : Charger :=
  if c.hlc.d20PauseRequested then { c with hlc := { c.hlc with d20PauseConfirmed := true } } else c

def notifyCurrentdemandStarted : Charger :=
  if c.state = .PrepareCharging then
    ({ c with hlc := { c.hlc with dcRenegotiation := false } }).setState .Charging
  else c

def notifyHlcSessionStartedByEv : Charger :=
  if c.state = .ChargingPausedEV ∧ c.hlcSessionEnded then
    { c with hlc := { c.hlc with sessionRestartedByEv := true } }
  else c

def dcOpenContactorRequest : Charger :=
  (c.setHlcAllowCloseContactor false).allowPowerOn false .PowerOff

def dcRenegotiationStarted : Charger :=
  if c.state = .Charging then
    let c := { c with hlc := { c.hlc with dcRenegotiation := true, allowCloseContactor := false } }
    (c.allowPowerOn false .PowerOff).setState .PrepareCharging
  else c

/-- The session is over: X1, but not while the oscillator has to be retained. -/
def endHlcSession (t : HlcTerminatePause) (c : Charger) : Charger :=
  let c := c.setHlcAllowCloseContactor false
  let c := if c.hlc.sessionStopPwmOffDeadline = none then c.cpStateX1 else c
  { c with hlc := { c.hlc with terminatePause := t } }

def dlinkPause : Charger :=
  if c.state = .Idle then c else c.endHlcSession .Pause

def notifySessionStopResSent (action : SessionStopAction) (c : Charger) : Charger :=
  if c.state = .Idle ∨ ¬ c.hlc.chargingActive then c
  else
    let c := c.setHlcAllowCloseContactor false
    match action with
    | .FailedTermination =>
      ({ c with hlc := { c.hlc with terminatePause := .Terminate } }).cpStateX1
    | .Pause | .Terminate =>
      { c with hlc := { c.hlc with
        terminatePause := if action = .Pause then .Pause else .Terminate
        sessionStopPwmOffDeadline := some (c.now + v2gSeccCpOscillatorRetain) } }

def pncWithoutChargingLoop : Bool :=
  cfg.chargeMode = .AC && c.state = .WaitingForAuthentication && c.auth.flagAuthorized &&
    c.auth.authorizedPnc && !c.hlc.chargingActive

/-- X1 until the node has left the network, then E/F, and back to `returnState` with the PWM off. -/
def startTStepX1ThenEf (returnState : EvseState) (c : Charger) : Charger :=
  ({ c with
    control := { c.control with tStepEfReturnState := returnState }
    seq := { c.seq with efReturnPwm := 0, efReturnAmpere := 0 } }).startTStepX1UntilUnmatched

/-- The session is stopping for good or over: matching is not restarted. -/
def stoppingForGood : Bool :=
  (c.state = .StoppingCharging && (!c.control.flagTransactionActive || !c.auth.flagAuthorized ||
    c.control.flagDisableRequested)) || c.state = .Finished

/-- `dlink_error` while the session is stopping or over. -/
def dlinkErrorWhileStopping : Charger :=
  let c := if c.pwm.running then c.cpStateX1 else c
  let c := if cfg.chargeMode = .DC then c.emit .dcSupplyOff else c
  c.allowPowerOn false .PowerOff

/-- AC is left to basic charging. -/
def leaveAcHlc : Charger :=
  match cfg.chargeMode with
  | .AC => { c with hlc := { c.hlc with chargingActive := false } }
  | .DC => c

/-- `dlink_error` during a session that goes on. -/
def recoverDlink : Charger :=
  let c := c.leaveAcHlc cfg
  if c.hlc.use5percentCurrentSession then
    let c := c.cpStateX1
    if c.state = .WaitingForAuthentication ∨ c.state = .PrepareCharging then
      c.startTStepX1ThenEf .WaitingForAuthentication
    else (c.startReinit cfg).2
  else c

def dlinkError : Charger :=
  let c := c.loseDlink
  if c.seq.reinitRequested ∨ c.seq.reinitRunning ∨ c.state = .Idle then c
  else
    let c := { c with hlc := { c.hlc with
      sessionStopPwmOffDeadline := none, allowCloseContactor := false, failed := true } }
    if c.stoppingForGood then c.dlinkErrorWhileStopping cfg
    else if c.pncWithoutChargingLoop cfg then
      (c.setUse5percent false).startTStepX1ThenEf .PrepareCharging
    else c.recoverDlink cfg

/-- A terminate during the setup of a session that no `SessionStopRes` has ended. -/
def linkLostDuringSetup : Bool :=
  c.state = .PrepareCharging && c.control.flagEvPluggedIn && c.hlc.terminatePause = .Unknown &&
    c.hlc.sessionStopPwmOffDeadline = none

def dlinkTerminate : Bool × Charger :=
  let c := c.loseDlink
  if c.state = .Idle then (false, c)
  else if c.pncWithoutChargingLoop cfg then
    let c := { c with hlc := { c.hlc with
      sessionStopPwmOffDeadline := none, allowCloseContactor := false } }
    (false, (c.setUse5percent false).startTStepEf .PrepareCharging 0 0)
  else if c.linkLostDuringSetup then (true, c.dlinkError cfg)
  else (false, c.endHlcSession .Terminate)

end Calls

/-! ## Runs -/

/-- One step of a run. -/
inductive Op
  | clock (elapsed : Nat)
  | processEvent (e : CPEvent) (i : ChargerInputs) (n : Nat)
  | tick (i : ChargerInputs) (n : Nat)
  | errorEvent (e : ErrorHandlingEvents)
  | enableDisable (connectorId : Int) (source : EnableDisableSource) (i : ChargerInputs) (n : Nat)
  | enableDisableInitialStatePublish
  | authorize (a : Bool) (token : ProvidedIdToken) (i : ChargerInputs)
  | deauthorize
  | cancelTransaction (reason : StopTransactionReason) (idTag : Option ProvidedIdToken)
  | pauseCharging
  | resumeCharging
  | switchThreePhasesWhileCharging (threePhases : Bool)
  | startReinit
  | setMaxCurrent (ampere : Rat) (validUntil : Int)
  | setCurrentDrawnByVehicle (l1 l2 l3 : Rat)
  | informNewEvseMaxHlcLimits (current power : Rat)
  | updateDcPresentCurrent (ampere : Rat)
  | resetDcEnforceTargetLimitsTimer
  | setSupportsCpStateE (value : Bool)
  | setDlinkReady (ready : Bool)
  | setMatchingStarted (m : Bool)
  | setSlacMatched (matched : Bool)
  | setHlcChargingActive
  | setHlcAllowCloseContactor (on : Bool)
  | setHlcD20Active (dynamicControlMode : Bool)
  | notifyHlcPauseNotified
  | notifyCurrentdemandStarted
  | notifyHlcSessionStartedByEv
  | notifySessionStopResSent (action : SessionStopAction)
  | dcOpenContactorRequest
  | dcRenegotiationStarted
  | dlinkPause
  | dlinkTerminate
  | dlinkError
  | requestErrorSequence
  | stopChargingOnFatalError

/-- The charger after one step. -/
def step (cfg : ChargerConfig) (c : Charger) : Op → Charger
  | .clock elapsed => { c with now := c.now + elapsed }
  | .processEvent e i n => c.processEvent cfg i n e
  | .tick i n => c.tick cfg i n
  | .errorEvent e => c.errorEvent e
  | .enableDisable connectorId source i n => (c.enableDisable cfg i n connectorId source).2
  | .enableDisableInitialStatePublish => c.enableDisableInitialStatePublish
  | .authorize a token i => (c.authorize i a token).2
  | .deauthorize => (c.deauthorize cfg).2
  | .cancelTransaction reason idTag => (c.cancelTransaction reason idTag).2
  | .pauseCharging => c.pauseCharging.2
  | .resumeCharging => c.resumeCharging.2
  | .switchThreePhasesWhileCharging threePhases => (c.switchThreePhasesWhileCharging threePhases).2
  | .startReinit => (c.startReinit cfg).2
  | .setMaxCurrent ampere validUntil => (c.setMaxCurrent ampere validUntil).2
  | .setCurrentDrawnByVehicle l1 l2 l3 => c.setCurrentDrawnByVehicle l1 l2 l3
  | .informNewEvseMaxHlcLimits current power => c.informNewEvseMaxHlcLimits current power
  | .updateDcPresentCurrent ampere => c.updateDcPresentCurrent ampere
  | .resetDcEnforceTargetLimitsTimer => c.resetDcEnforceTargetLimitsTimer
  | .setSupportsCpStateE value => c.setSupportsCpStateE value
  | .setDlinkReady ready => c.setDlinkReady ready
  | .setMatchingStarted m => c.setMatchingStarted m
  | .setSlacMatched matched => c.setSlacMatched matched
  | .setHlcChargingActive => c.setHlcChargingActive
  | .setHlcAllowCloseContactor on => c.setHlcAllowCloseContactor on
  | .setHlcD20Active dynamicControlMode => c.setHlcD20Active dynamicControlMode
  | .notifyHlcPauseNotified => c.notifyHlcPauseNotified
  | .notifyCurrentdemandStarted => c.notifyCurrentdemandStarted
  | .notifyHlcSessionStartedByEv => c.notifyHlcSessionStartedByEv
  | .notifySessionStopResSent action => c.notifySessionStopResSent action
  | .dcOpenContactorRequest => c.dcOpenContactorRequest
  | .dcRenegotiationStarted => c.dcRenegotiationStarted
  | .dlinkPause => c.dlinkPause
  | .dlinkTerminate => (c.dlinkTerminate cfg).2
  | .dlinkError => c.dlinkError cfg
  | .requestErrorSequence => c.requestErrorSequenceInternal cfg
  | .stopChargingOnFatalError => (c.stopChargingOnFatalError cfg).2

/-- A call of `run_state_machine`: where it starts, what it reads and its bound. -/
structure Call where
  before : Charger
  inputs : ChargerInputs
  bound : Nat

/-- The charger after the call. -/
def Call.after (cfg : ChargerConfig) (k : Call) : Charger :=
  k.before.runStateMachine cfg k.inputs k.bound

/-- The calls of `run_state_machine` that a step makes. -/
def calls (cfg : ChargerConfig) (c : Charger) : Op → List Call
  | .processEvent e i n =>
    [⟨c.processCpEventsIndependent e, i, n⟩, ⟨c.beforeSecondRun cfg i n e, i, n⟩]
  | .tick i n => [⟨(c.powerAvailable cfg).2, i, n⟩]
  | .enableDisable connectorId source i n =>
    let (runs, c') := c.beforeDisableRun connectorId source
    if runs then [⟨c', i, n⟩] else []
  | _ => []

/-- The meter starts every transaction, and there is no cable to measure. -/
def plainInputs : ChargerInputs := ⟨none, [.OK], "session"⟩

/-- A basic AC session, up to the closed contactor. -/
def chargingSession : List Op :=
  [.setMaxCurrent 16 100000, .processEvent .CarPluggedIn plainInputs 4,
    .authorize true ⟨"tag", false⟩ plainInputs, .tick plainInputs 4,
    .processEvent .CarRequestedPower plainInputs 4, .processEvent .PowerOn plainInputs 4]

end Charger

end EverestCore.Evse

import EverestCore.Evse.Charger.State

/-!
# Limits, errors, sessions and transactions of the charger (`Charger.cpp`)

The functions that the states of the charger and its public calls share.

* `powerAvailable`, `checkSoftOverCurrent`: the limits.
* `stopChargingOnFatalError`, `emergencyShutdown`, `errorShutdown`: the reaction to errors.
* `startSession`, `stopSession`, `startTransaction`, `stopTransaction`, `deauthorizeInternal`.
* `requestErrorSequenceInternal`: the restart of the matching process.
-/

namespace EverestCore.Evse

namespace Charger

/-! ## Limits -/

variable (c : Charger)

def getMaxCurrentInternal : Rat :=
  let cable := c.limits.maxCurrentCable.getD 0
  if c.limits.type2Socket ∧ cable < c.limits.maxCurrent ∧ c.state ≠ .Idle then cable
  else c.limits.maxCurrent

def getMaxCurrentSignalledToEvInternal : Rat :=
  if c.hlc.chargingActive then c.getMaxCurrentInternal else c.pwm.setLastAmpere

/-- `power_available`, its effect: an expired budget falls back to zero. -/
def expirePowerBudget : Charger :=
  if 1000 ≤ c.now - c.limits.maxCurrentValidUntil ∧ 0 < c.limits.maxCurrent then
    { c.emit (.maxCurrent 0) with limits := { c.limits with maxCurrent := 0 } }
  else c

variable (cfg : ChargerConfig)

def powerAvailable (c : Charger) : Bool × Charger :=
  let c := c.expirePowerBudget
  (match cfg.chargeMode with
    | .AC => decide (59 / 10 < c.getMaxCurrentInternal)
    | .DC => decide (0 < c.limits.evseMaximumCurrentLimit) &&
        decide (0 < c.limits.evseMaximumPowerLimit), c)

def checkSoftOverCurrent (c : Charger) : Charger :=
  let limit := (c.getMaxCurrentSignalledToEvInternal + cfg.softOverCurrentMeasurementNoiseA) *
    (1 + cfg.softOverCurrentTolerancePercent / 100)
  let exceeded := decide (limit < |c.limits.drawnL1|) || decide (limit < |c.limits.drawnL2|) ||
    decide (limit < |c.limits.drawnL3|)
  let c := if ¬ exceeded then { c with limits := { c.limits with overCurrent := false } }
    else if c.limits.overCurrent then c
    else { c with limits := { c.limits with overCurrent := true, lastOverCurrentEvent := c.now } }
  if c.limits.overCurrent ∧
      cfg.softOverCurrentTimeoutMs ≤ c.now - c.limits.lastOverCurrentEvent then
    c.emit (.raiseError .overcurrent)
  else c

/-! ## Errors -/

def emergencyShutdown (c : Charger) : Charger :=
  let c := if c.pwm.running then c.cpStateX1 else c
  let c := if cfg.chargeMode = .DC then c.emit .dcSupplyOff else c
  (c.allowPowerOn false .PowerOff).emit (.hlcError .Error_EmergencyShutdown)

/-- `error_shutdown`: the PWM stays on, so that the EV can be told. -/
def errorShutdown (c : Charger) : Charger :=
  let c := if cfg.chargeMode = .DC then c.emit .dcSupplyOff else c
  (c.allowPowerOn false .PowerOff).emit (.hlcError .Error_ErrorShutdown)

/-- The reaction to a new fatal error. -/
def shutDown (c : Charger) : Charger :=
  if c.control.lastShutdownType = c.control.shutdownType then c
  else match c.control.shutdownType with
    | .None => c
    | .EmergencyShutdown => ({ c with fatalErrorBecameActive := c.now }).emergencyShutdown cfg
    | .ErrorShutdown => ({ c with fatalErrorBecameActive := c.now }).errorShutdown cfg

/-- `stop_charging_on_fatal_error_internal`: the reaction, once, and whether there is an error. -/
def stopChargingOnFatalError (c : Charger) : Bool × Charger :=
  let err := decide (c.control.shutdownType ≠ .None)
  let c := c.shutDown cfg
  (err, { c with
    fatalErrorTimerRunning := err
    control := { c.control with lastShutdownType := c.control.shutdownType } })

def enteredFatalErrorState : Bool :=
  c.control.shutdownType ≠ .None && c.control.lastShutdownType = .None

def timeInFatalErrorStateMs : Int :=
  if c.fatalErrorTimerRunning then c.now - c.fatalErrorBecameActive else 0

def clearErrorsOnUnplug : Charger :=
  let c := c.emit (.clearError .errorsOnUnplug)
  { c with control := { c.control with lastShutdownType := .None } }

/-! ## Sessions and transactions -/

def startSession (i : ChargerInputs) (authFirst : Bool) (c : Charger) : Charger :=
  let c := { c with
    control := { c.control with sessionActive := true }
    link := { c.link with dlinkEstablished := false } }
  let c := c.setFlagAuthorized false
  let c := { c with auth := { c.auth with
    authorizedPnc := false, flagExternallyCancelled := false, sessionUuid := i.sessionUuid } }
  if authFirst then c.emit (.sessionStarted .Authorized (some c.auth.idToken))
  else c.emit (.sessionStarted .EVConnected none)

def stopSession : Charger :=
  let c := ({ c with control := { c.control with sessionActive := false } }).setFlagAuthorized false
  let c := { c with
    auth := { c.auth with authorizedPnc := false, flagExternallyCancelled := false }
    flagPausedByEvse := false }
  let c := c.emit (.simpleEvent .SessionFinished)
  { c with auth := { c.auth with sessionUuid := "" } }

/-- The billing meters are asked in turn until one starts the transaction; with
`fail_on_powermeter_errors` an error of one of them stops the charging. -/
def metersStarted (failOnErrors : Bool) : List MeterStatus → Bool
  | [] => true
  | .OK :: _ => true
  | .NOT_SUPPORTED :: meters => metersStarted failOnErrors meters
  | .UNEXPECTED_ERROR :: meters => !failOnErrors && metersStarted failOnErrors meters

def startTransaction (i : ChargerInputs) (c : Charger) : Bool × Charger :=
  let c := { c with auth := { c.auth with
    stopTransactionIdToken := none, lastStopTransactionReason := none } }
  if metersStarted cfg.failOnPowermeterErrors i.meterStart then
    let c := c.emit (.transactionStarted c.auth.idToken)
    (true, { c with control := { c.control with flagTransactionActive := true } })
  else (false, c.emit (.raiseError .powermeterTransactionStartFailed))

def stopTransaction : Charger :=
  let reason := c.auth.lastStopTransactionReason.getD .EVDisconnected
  let c := { c with
    control := { c.control with flagTransactionActive := false }
    auth := { c.auth with lastStopTransactionReason := some reason } }
  (c.emit (.simpleEvent .ChargingFinished)).emit
    (.transactionFinished reason c.auth.stopTransactionIdToken)

/-- `deauthorize_internal`: only an authorization that is not in use is removed. -/
def deauthorizeInternal (c : Charger) : Bool × Charger :=
  if c.control.sessionActive then
    let c := c.emit (.simpleEvent .Deauthorized)
    if c.state = .Disabled ∨ c.state = .Idle ∨ c.state = .WaitingForAuthentication then
      if c.auth.flagAuthorized then (true, (c.setFlagAuthorized false).stopSession)
      else
        let c := c.emit (.simpleEvent .PluginTimeout)
        let c := if cfg.raiseMrec9 then c.emit (.raiseError .authorizationTimeout) else c
        (false, c.emit .hlcPlugInTimeout)
    else (false, c)
  else (false, c)

/-! ## Pauses and the data link -/

def evsePauseResumable : Bool := c.hlc.sessionPausedByEvse && !c.flagPausedByEvse

def resumeEvsePauseMarker : Charger :=
  let c := if c.hlc.terminatePause ≠ .Pause then c.emit .slacStart else c
  { c with hlc := { c.hlc with terminatePause := .Unknown, sessionStopPwmOffDeadline := none } }

def cSequRetry : Nat := 2

/-- `request_error_sequence_internal`, the return from the sequence. -/
def prepareErrorSequence (limitRetries : Bool) (c : Charger) : Charger :=
  let c := { c with
    control := { c.control with tStepEfReturnState := c.state }
    seq := { c.seq with efReturnAmpere := 0 } }
  if limitRetries ∧ cSequRetry ≤ c.link.slacRetries then
    -- the last retry: 5 percent stays off
    { c with
      link := { c.link with slacRetriesExhausted := true }
      hlc := { c.hlc with use5percentCurrentSession := false }
      seq := { c.seq with efReturnPwm := 0 } }
  else if c.hlc.use5percentCurrentSession then
    { c with
      link := { c.link with
        slacRetries := if limitRetries then c.link.slacRetries + 1 else c.link.slacRetries }
      seq := { c.seq with efReturnPwm := pwm5Percent } }
  else { c with seq := { c.seq with efReturnPwm := 0 } }

def loseDlink : Charger :=
  { c with link := { c.link with dlinkEstablished := false } }

/-- X1 until the data link is left, then E/F. -/
def startTStepX1UntilUnmatched : Charger :=
  ({ c with control := { c.control with tStepX1UntilUnmatched := true } }).setState .T_step_X1

def requestErrorSequenceInternal (c : Charger) : Charger :=
  if c.state = .WaitingForAuthentication ∨ c.state = .PrepareCharging then
    let limitRetries := cfg.acLimitSlacInitRetries && cfg.chargeMode = .AC
    if limitRetries ∧ ¬ c.hlc.use5percentCurrentSession then c.loseDlink
    else
      let c := c.prepareErrorSequence limitRetries
      if c.link.dlinkEstablished then c.startTStepX1UntilUnmatched.loseDlink
      else ((c.setState .T_step_EF).emit .slacReset).loseDlink
  else c.loseDlink

end Charger

end EverestCore.Evse

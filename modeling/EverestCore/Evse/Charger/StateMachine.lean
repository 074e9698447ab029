import EverestCore.Evse.Charger.Session

/-!
# The state machine of the charger (`Charger::run_state_machine`)

The state machine runs passes until a pass does not change the state. A pass first handles a pending
reinit, finds out whether the state has to be initialised, and then does what its state does.

* `caseDisabled` to `caseFinished`: the cases of the `switch`, in the order of the source. `init` is
  `initialize_state` and `time` is `time_in_current_state`. A `break` ends the case.
* `pass`: one run of the loop body; `true` when the call returns from it.
* `runStateMachine n`: at most `n` passes after the first one. The loop of the source has no bound:
  a call has ended when its result is `settled`.
-/

namespace EverestCore.Evse

namespace Charger

/-! ## Constants -/

/-- `T_STEP_X1`. -/
def tStepX1Ms : Int := 3000

def tpMatchLeaveMs : Int := 1000

/-- `T_STEP_EF`. -/
def tStepEfMs : Int := 4000

def stayInX1AfterTstepEfMs : Int := 750

def tConnMaxComm : Int := 8000

def waitForEnergyInAuthloopTimeoutMs : Int := 5000

def acX1FallbackToNominalTimeoutMs : Int := 10000

def legacyWakeupTimeout : Int := 30000

def preparingTimeoutPausedByEv : Int := 10000

def dcEnforceTargetLimitsIntervalMs : Int := 5000

/-- `STOPPING_CHARGING_TIMEOUT_MS`. -/
def stoppingChargingTimeout : Int := 20000

def stoppingChargingD20PauseTimeoutMs : Int := 65000

def d20PauseRampTimeoutMs : Int := 35000

def d20PauseZeroCurrentA : Rat := 1

section Cases

variable (cfg : ChargerConfig) (i : ChargerInputs) (init : Bool) (time : Int)

/-! ## Disabled and Idle -/

variable (c : Charger)

/-- The initialisation of `EvseState::Disabled`. -/
def initDisabled : Charger :=
  (c.cpStateF.emit (.enable false)).emit (.simpleEvent .Disabled)

/-- `EvseState::Disabled`. -/
def caseDisabled : Charger :=
  let c := if init then c.initDisabled else c
  if c.control.flagDisableRequested then c else c.setState .Idle

/-- Nothing of the last HLC session is left. -/
def clearHlcSession : Charger :=
  let c := c.bcbToggleReset
  { c with
    iecAllowCloseContactor := false
    legacyWakeupDone := false
    limits := { c.limits with maxCurrentCable := none }
    hlc := { c.hlc with
      chargingActive := decide (cfg.chargeMode = ChargeMode.DC)
      allowCloseContactor := false
      terminatePause := .Unknown
      dcRenegotiation := false
      sessionStopPwmOffDeadline := none
      sessionPausedByEvse := false
      sessionRestartedByEv := false
      d20Active := false
      d20DynamicMode := false
      d20PauseRequested := false
      d20PauseConfirmed := false } }

/-- The initialisation of `EvseState::Idle`. -/
def initIdle : Charger :=
  let c := (c.clearHlcSession cfg).cpStateX1
  let c := { c with pwm := { c.pwm with switchedOffAt := none } }
  let c := (c.deauthorizeInternal cfg).2
  let c := { c with control := { c.control with flagTransactionActive := false } }
  let c := c.clearErrorsOnUnplug
  { c with
    link := { c.link with
      slacRetries := 0, slacRetriesExhausted := false, wakeupLinkDeadline := none }
    hlc := { c.hlc with failed := false } }

/-- `EvseState::Idle`. -/
def caseIdle : Charger :=
  let c := if init then c.initIdle cfg else c
  if c.control.flagDisableRequested then c.setState .Disabled
  else if c.control.shutdownType ≠ .None then if c.pwm.cpStateFActive then c else c.cpStateF
  else if c.pwm.cpStateFActive then c.cpStateX1
  else c

/-! ## WaitingForAuthentication -/

/-- The duty cycle a session starts with. -/
def initHlc : Charger :=
  match cfg.chargeMode with
  | .AC =>
    let enabled := cfg.acHlcEnabled && !c.hlc.failed
    { c with hlc := { c.hlc with
      acEnabledCurrentSession := enabled
      use5percentCurrentSession :=
        enabled && cfg.acHlcUse5percent && !c.link.slacRetriesExhausted } }
  | .DC => { c with hlc := { c.hlc with use5percentCurrentSession := true } }

/-- 5 percent is switched on after a sleep, unless an authorized AC session does without it. -/
def start5percent : Charger :=
  if c.hlc.use5percentCurrentSession ∧ c.control.flagEvPluggedIn then
    let c := { c with now := c.now + cfg.sleepBeforeEnablingPwmHlcModeMs }
    if c.auth.flagAuthorized ∧ cfg.chargeMode = .AC ∧ c.hlc.acEnabledCurrentSession ∧
        ¬ cfg.acEnforceHlc then
      { c with hlc := { c.hlc with use5percentCurrentSession := false } }
    else c.updatePwmNow pwm5Percent
  else c

/-- The initialisation of `EvseState::WaitingForAuthentication`. -/
def initWaitingForAuthentication : Charger :=
  let c := { c with noEnergyWarningPrinted := false, acX1FallbackTimeoutRunning := false }
  let c := c.allowPowerOn false .PowerOff
  let c := if c.control.sessionActive then c else c.startSession i false
  let c := c.emit (.simpleEvent .AuthRequired)
  (c.initHlc cfg).start5percent cfg

/-- The cable of a socket has to be known. -/
def readCable : Charger :=
  if c.limits.type2Socket ∧ c.limits.maxCurrentCable = none then
    { c with limits := { c.limits with maxCurrentCable := i.ppAmpacity } }
  else c

/-- The cable of a socket is not known yet. -/
def waitsForCable : Bool := c.limits.type2Socket && c.limits.maxCurrentCable.isNone

/-- DC waits some time for energy, and then tells the HLC stack once; `false` while it waits. -/
def awaitEnergy : Bool × Charger :=
  match cfg.chargeMode with
  | .AC => (true, c)
  | .DC =>
    let (available, c) := c.powerAvailable cfg
    if available then (true, c)
    else if time < waitForEnergyInAuthloopTimeoutMs then (false, c)
    else if c.noEnergyWarningPrinted then (true, c)
    else (true, ({ c with noEnergyWarningPrinted := true }).emit .hlcNoEnergyAvailable)

/-- To nominal PWM through `T_step_EF`. -/
def startTStepEf (returnState : EvseState) (returnPwm returnAmpere : Rat) (c : Charger) : Charger :=
  ({ c with
    control := { c.control with tStepEfReturnState := returnState }
    seq := { c.seq with efReturnPwm := returnPwm, efReturnAmpere := returnAmpere } }).setState
      .T_step_EF

def setUse5percent (value : Bool) (c : Charger) : Charger :=
  { c with hlc := { c.hlc with use5percentCurrentSession := value } }

/-- Matching was started before the authorization: the EV gets some time to enter the charge loop
before 5 percent is given up. -/
def fallBackToNominal : Charger :=
  if c.hlc.chargingActive then c.setState .PrepareCharging
  else if c.acX1FallbackTimeoutRunning then
    if acX1FallbackToNominalTimeoutMs < c.now - c.acX1FallbackTimeoutStarted then
      let c := { c with
        control := { c.control with
          tStepX1ReturnState := .PrepareCharging, tStepX1UntilUnmatched := false }
        seq := { c.seq with x1ReturnPwm := 0, efReturnAmpere := 0 } }
      (c.setUse5percent false).setState .T_step_X1
    else c
  else { c with acX1FallbackTimeoutRunning := true, acX1FallbackTimeoutStarted := c.now }

/-- AC, authorized by external means. -/
def proceedEimAc : Charger :=
  if c.hlc.acEnabledCurrentSession then
    if cfg.acEnforceHlc ∧ ¬ c.link.slacRetriesExhausted then
      (c.setUse5percent true).setState .PrepareCharging
    else if c.link.matchingStarted then
      if c.hlc.use5percentCurrentSession then c.fallBackToNominal else c.setState .PrepareCharging
    else if c.hlc.use5percentCurrentSession then
      (c.startTStepEf .PrepareCharging 0 0).setUse5percent false
    else c.setState .PrepareCharging
  else c.setState .PrepareCharging

/-- AC, authorized by Plug and Charge: 5 percent or X1 is kept until the data link ends. -/
def proceedPncAc : Charger :=
  if c.hlc.chargingActive then (c.setUse5percent true).setState .PrepareCharging
  else if ¬ c.hlc.use5percentCurrentSession ∧ ¬ c.link.dlinkEstablished then
    c.setState .PrepareCharging
  else c

/-- An authorized session with its transaction. -/
def proceedToCharging : Charger :=
  match cfg.chargeMode with
  | .AC => if c.auth.authorizedPnc then c.proceedPncAc else c.proceedEimAc cfg
  | .DC => c.setState .PrepareCharging

/-- An authorized session; a restarted one may have its transaction already. -/
def proceedAuthorized : Charger :=
  if c.control.flagTransactionActive then c.proceedToCharging cfg
  else
    let (started, c) := c.startTransaction cfg i
    if started then c.proceedToCharging cfg else c

/-- `EvseState::WaitingForAuthentication`. -/
def caseWaitingForAuthentication : Charger :=
  let c := if init then c.initWaitingForAuthentication cfg i else c
  let (fatal, c) := c.stopChargingOnFatalError cfg
  if fatal then (c.emit .slacReset).setState .Finished
  else if ¬ c.control.flagEvPluggedIn ∨ c.control.flagDisableRequested ∨
      c.auth.flagExternallyCancelled then
    c.setState .Finished
  else
    let c := c.readCable i
    if c.waitsForCable then c
    else
      let (ready, c) := c.awaitEnergy cfg time
      if ready ∧ c.auth.flagAuthorized then c.proceedAuthorized cfg i else c

/-! ## CP sequences -/

/-- The EV is gone, or the session has to end. -/
def sequenceAborted (fatal : Bool) (c : Charger) : Bool :=
  fatal || !c.control.flagEvPluggedIn || c.control.flagDisableRequested

/-- The relays are switched, and the switching is over. -/
def switchPhasesNow : Charger :=
  let c := c.emit (.switchThreePhasesWhileCharging c.seq.threePhases)
  { c with seq := { c.seq with switchingOngoing := false } }

/-- The initialisation of `EvseState::SwitchPhases`. -/
def initSwitchPhases : Charger :=
  (c.emit (.simpleEvent .SwitchingPhases)).cpStateBy cfg.switch3ph1phCpState

/-- `EvseState::SwitchPhases`. -/
def caseSwitchPhases : Charger :=
  let c := if init then c.initSwitchPhases cfg else c
  let (fatal, c) := c.stopChargingOnFatalError cfg
  if c.sequenceAborted fatal then c.setState c.control.switchingPhasesReturnState
  else if cfg.switch3ph1phDelayS * 1000 ≤ time then
    c.switchPhasesNow.setState c.control.switchingPhasesReturnState
  else c

/-- The initialisation of `EvseState::T_step_EF`. -/
def initTStepEf : Charger :=
  ({ c with seq := { c.seq with efX1Pause := false } }).cpStateF

/-- The PWM at the end of `T_step_EF`. -/
def restorePwmAfterEf : Charger :=
  if c.seq.efReturnPwm = 0 then c.cpStateX1
  else if c.hlc.use5percentCurrentSession then
    (c.updatePwmNow pwm5Percent).setPwmLastAmpere c.seq.efReturnAmpere
  else (c.updatePwmNow c.seq.efReturnPwm).setPwmLastAmpere c.seq.efReturnAmpere

/-- `EvseState::T_step_EF`. -/
def caseTStepEf : Charger :=
  let c := if init then c.initTStepEf else c
  let (fatal, c) := c.stopChargingOnFatalError cfg
  if c.sequenceAborted fatal then c.cpStateX1.setState c.control.tStepEfReturnState
  else if tStepEfMs + stayInX1AfterTstepEfMs ≤ time then
    c.restorePwmAfterEf.setState c.control.tStepEfReturnState
  else if tStepEfMs ≤ time ∧ ¬ c.seq.efX1Pause then
    ({ c with seq := { c.seq with efX1Pause := true } }).cpStateX1
  else c

def endUntilUnmatched : Charger :=
  { c with control := { c.control with tStepX1UntilUnmatched := false } }

/-- The initialisation of `EvseState::T_step_X1`. -/
def initTStepX1 : Charger :=
  let c := c.cpStateX1
  if c.control.tStepX1UntilUnmatched then c.emit .slacReset else c

/-- The PWM at the end of `T_step_X1`. -/
def restorePwmAfterX1 : Charger :=
  if c.seq.x1ReturnPwm = 0 then c.cpStateX1
  else (c.updatePwmNow c.seq.x1ReturnPwm).setPwmLastAmpere c.seq.efReturnAmpere

/-- `EvseState::T_step_X1`. -/
def caseTStepX1 : Charger :=
  let c := if init then c.initTStepX1 else c
  let (fatal, c) := c.stopChargingOnFatalError cfg
  if c.sequenceAborted fatal then
    (c.setState (if c.control.tStepX1UntilUnmatched then c.control.tStepEfReturnState
      else c.control.tStepX1ReturnState)).endUntilUnmatched
  else if c.control.tStepX1UntilUnmatched then
    let unmatched := !c.link.matchingStarted && !c.link.slacMatched
    if (unmatched ∧ tpMatchLeaveMs ≤ time) ∨ tStepX1Ms ≤ time then
      c.endUntilUnmatched.setState .T_step_EF
    else c
  else if tStepX1Ms ≤ time then
    c.restorePwmAfterX1.setState c.control.tStepX1ReturnState
  else c

/-- The initialisation of `EvseState::Reinit`. -/
def initReinit : Charger :=
  let c := { c with
    iecAllowCloseContactor := false
    hlc := { c.hlc with allowCloseContactor := false }
    seq := { c.seq with reinitRunning := true } }
  let c := c.cpStateBy c.seq.reinitMethod
  { c with seq := { c.seq with
    reinitTimerActive := 0 < c.seq.reinitDuration
    reinitDeadline := if 0 < c.seq.reinitDuration then c.now + c.seq.reinitDuration
      else c.seq.reinitDeadline } }

/-- The reinit is over. -/
def reinitOver : Bool := !c.seq.reinitTimerActive || c.seq.reinitDeadline ≤ c.now

def endReinit : Charger :=
  ({ c with seq := { c.seq with reinitRunning := false, reinitTimerActive := false } }).cpStateX1

/-- `EvseState::Reinit`. -/
def caseReinit : Charger :=
  let c := if init then c.initReinit else c
  if c.reinitOver then c.endReinit.setState .WaitingForAuthentication else c

/-! ## PrepareCharging -/

/-- The initialisation of `EvseState::PrepareCharging`. -/
def initPrepareCharging : Charger :=
  let c := (c.emit (.simpleEvent .PrepareCharging)).bcbToggleReset
  let c := { c with hlc := { c.hlc with noEnergyTimeoutRunning := false } }
  match cfg.chargeMode with
  | .AC => c
  | .DC =>
    let (available, c) := c.powerAvailable cfg
    if ¬ available ∧ ¬ c.hlc.dcRenegotiation then c.emit .hlcNoEnergyAvailable else c

/-- The charging cannot go on. -/
def chargingEnds (fatal : Bool) (c : Charger) : Bool :=
  fatal || !c.auth.flagAuthorized || !c.control.flagTransactionActive ||
    !c.control.flagEvPluggedIn || c.control.flagDisableRequested

/-- In DC the contactor is closed for the cable check. -/
def allowCableCheck : Charger :=
  if cfg.chargeMode = .DC ∧ c.hlc.allowCloseContactor ∧ c.iecAllowCloseContactor then
    c.allowPowerOn true .DCCableCheck
  else c

/-- The HLC session was already ended by a `SessionStop`. -/
def hlcSessionEnded : Bool :=
  c.hlc.chargingActive && c.hlc.terminatePause ≠ .Unknown

/-- No data link after a wake-up. -/
def wakeupLinkLost : Bool :=
  !c.link.dlinkEstablished && c.link.wakeupLinkDeadline.any fun t => t ≤ c.now

def clearWakeupLinkDeadline : Charger :=
  { c with link := { c.link with wakeupLinkDeadline := none } }

/-- The PWM of `PrepareCharging`; `false` while it has to stay off. -/
def preparePwm : Bool × Charger :=
  if cfg.chargeMode = .AC ∧ (¬ c.hlc.use5percentCurrentSession ∨ c.hlc.failed) then
    let maxCurrent := c.getMaxCurrentInternal
    if ampereToDutyCycle maxCurrent < 1 ∧ c.mustWaitInX1BeforePwm then (false, c)
    else (true, c.updatePwmNowIfChangedAmpere maxCurrent)
  else if c.mustWaitInX1BeforePwm then (false, c)
  else (true, c.updatePwmNowIfChanged pwm5Percent)

/-- AC with the PWM on: to `Charging` when the EV asks for it, and one wake-up when it does not. -/
def prepareAc : Charger :=
  if c.iecAllowCloseContactor ∧
      (¬ c.hlc.use5percentCurrentSession ∨ c.hlc.allowCloseContactor) then
    c.setState .Charging
  else if c.hlc.chargingActive then c
  else if ¬ c.legacyWakeupDone ∧ legacyWakeupTimeout < time then
    ({ c with legacyWakeupDone := true }).startTStepEf .PrepareCharging
      (ampereToDutyCycle c.getMaxCurrentInternal) c.getMaxCurrentInternal
  else if c.legacyWakeupDone ∧ preparingTimeoutPausedByEv < time then c.setState .ChargingPausedEV
  else c

/-- `PrepareCharging`, from the PWM on. -/
def prepareWithPwm : Charger :=
  let (on, c) := c.preparePwm cfg
  if on ∧ cfg.chargeMode = .AC then
    let (available, c) := c.powerAvailable cfg
    if ¬ available ∧ ¬ c.hlc.use5percentCurrentSession then c else c.prepareAc time
  else c

/-- `PrepareCharging`, without a reason to stop: an ended HLC session and a lost data link come
before the PWM. -/
def prepareSession : Charger :=
  if c.hlcSessionEnded ∧ ¬ c.evsePauseResumable then c.setState .ChargingPausedEV
  else
    let c := if c.hlcSessionEnded then c.resumeEvsePauseMarker else c
    if c.wakeupLinkLost then c.clearWakeupLinkDeadline.requestErrorSequenceInternal cfg
    else
      let c := if c.link.dlinkEstablished then c.clearWakeupLinkDeadline else c
      c.prepareWithPwm cfg time

/-- `EvseState::PrepareCharging`. -/
def casePrepareCharging : Charger :=
  let c := if init then c.initPrepareCharging cfg else c
  let (fatal, c) := c.stopChargingOnFatalError cfg
  if c.chargingEnds fatal then c.setState .StoppingCharging
  else (c.allowCableCheck cfg).prepareSession cfg time

/-! ## Charging -/

/-- The initialisation of `EvseState::Charging`. -/
def initCharging : Charger :=
  let c := c.emit (.simpleEvent .ChargingStarted)
  { c with hlc := { c.hlc with
    terminatePause := .Unknown, sessionStopPwmOffDeadline := none, sessionPausedByEvse := false } }

/-- ISO 15118-20 in scheduled control mode: a pause is notified at 0 kW only. -/
def d20Scheduled : Bool :=
  c.hlc.chargingActive && c.hlc.d20Active && !c.hlc.d20DynamicMode

/-- A pause in scheduled control mode is requested, and withdrawn when it was not notified yet. -/
def requestD20Pause : Charger :=
  if c.flagPausedByEvse ∧ ¬ c.hlc.d20PauseRequested then
    { c.emit .hlcPauseCharging with hlc := { c.hlc with d20PauseRequested := true } }
  else if ¬ c.flagPausedByEvse ∧ c.hlc.d20PauseRequested ∧ ¬ c.hlc.d20PauseConfirmed then
    { c.emit .hlcResumeCharging with hlc := { c.hlc with d20PauseRequested := false } }
  else c

/-- A pause stops the charging. -/
def pauseStops : Bool :=
  if c.d20Scheduled then c.hlc.d20PauseConfirmed else c.flagPausedByEvse

/-- The charge loop without energy: it may go on for a while in HLC, and stops at once in basic AC;
`true` when it stops. -/
def stopsWithoutEnergy : Bool × Charger :=
  let (available, c) := c.powerAvailable cfg
  if available then (false, { c with hlc := { c.hlc with noEnergyTimeoutRunning := false } })
  else if c.hlc.chargingActive ∨ c.hlc.use5percentCurrentSession then
    if 0 < cfg.hlcChargeLoopWithoutEnergyTimeoutS then
      if ¬ c.hlc.noEnergyTimeoutRunning then
        (false, { c with hlc := { c.hlc with
          noEnergyTimeoutRunning := true, noEnergyTimeoutStarted := c.now } })
      else if cfg.hlcChargeLoopWithoutEnergyTimeoutS * 1000 ≤ c.now - c.hlc.noEnergyTimeoutStarted
      then (true, { c with hlc := { c.hlc with noEnergyTimeoutRunning := false } })
      else (false, c)
    else (true, c)
  else (decide (cfg.chargeMode = .AC), c)

/-- The target limits are enforced at intervals, also when the EV sends no new targets. -/
def enforceTargetLimits : Charger :=
  if dcEnforceTargetLimitsIntervalMs ≤ c.now - c.lastDcEnforceTargetLimits then
    ({ c with lastDcEnforceTargetLimits := c.now }).emit .dcEnforceTargetLimits
  else c

/-- DC in the charge loop. -/
def chargeDc : Charger :=
  (if init then c.allowPowerOn true .FullPowerCharging else c).enforceTargetLimits

/-- AC, when the charge loop starts: another wake-up is allowed. -/
def startChargingAc : Charger :=
  let c := ({ c with legacyWakeupDone := false }).allowPowerOn true .FullPowerCharging
  if c.hlc.use5percentCurrentSession then c.updatePwmNowIfChanged pwm5Percent
  else c.updatePwmNowIfChangedAmpere c.getMaxCurrentInternal

/-- AC in the charge loop. -/
def chargeAc : Charger :=
  let c := c.checkSoftOverCurrent cfg
  if init then c.startChargingAc
  else if c.hlc.use5percentCurrentSession then c
  else c.updatePwmMaxEvery5secondsAmpere c.getMaxCurrentInternal

/-- The charge loop. -/
def charge : Charger :=
  match cfg.chargeMode with
  | .DC => c.chargeDc init
  | .AC => c.chargeAc cfg init

/-- `EvseState::Charging`. -/
def caseCharging : Charger :=
  let c := if init then c.initCharging else c
  let (fatal, c) := c.stopChargingOnFatalError cfg
  let c := if c.d20Scheduled then c.requestD20Pause else c
  if c.chargingEnds fatal ∨ c.pauseStops ∨ ¬ c.iecAllowCloseContactor then
    c.setState .StoppingCharging
  else
    let (stops, c) := c.stopsWithoutEnergy cfg
    if stops then c.setState .StoppingCharging else c.charge cfg init

/-! ## Pauses -/

/-- The session is over for good; a fatal error alone does not end it. -/
def sessionEnds : Bool := c.chargingEnds false

/-- The EV restarts its session, by a BCB toggle or by a new connection. -/
def restartedByEv : Bool := c.bcbToggleDetected || c.hlc.sessionRestartedByEv

/-- The way back to `PrepareCharging`. -/
def restartByEv : Charger :=
  let reconnected := c.hlc.sessionRestartedByEv
  let restarted := c.restartedByEv
  let c := { c.takeBcbToggle with hlc := { c.hlc with sessionRestartedByEv := false } }
  if restarted then
    let c := { c with hlc := { c.hlc with
      terminatePause := .Unknown, sessionStopPwmOffDeadline := none } }
    let c := c.emit .slacStart
    let wakeup := if reconnected then c.now else c.bcb.startOfSequence
    ({ c with link := { c.link with
      wakeupLinkDeadline := some (wakeup + tConnMaxComm) } }).setState .PrepareCharging
  else c

/-- The HLC session has ended: the oscillator goes off, unless the retain timer is armed. -/
def stopPausedPwm : Charger :=
  if c.hlc.terminatePause ≠ .Unknown ∧ c.pwm.running ∧ c.hlc.sessionStopPwmOffDeadline = none then
    c.cpStateX1
  else c

/-- Nominal PWM, so that the EV can resume. -/
def keepNominalPwm : Charger :=
  if c.mustWaitInX1BeforePwm then c else c.updatePwmMaxEvery5secondsAmpere c.getMaxCurrentInternal

/-- `EvseState::ChargingPausedEV`. -/
def caseChargingPausedEv : Charger :=
  let c := if init then c.emit (.simpleEvent .ChargingPausedEV) else c
  if c.sessionEnds then c.setState .StoppingCharging
  else
    let c := if cfg.chargeMode = .AC then c.checkSoftOverCurrent cfg else c
    if c.hlc.chargingActive then c.restartByEv.stopPausedPwm
    else
      let (available, c) := c.powerAvailable cfg
      if available then c.keepNominalPwm else c.setState .ChargingPausedEVSE

/-- State F for a short time after an error, in basic charging. -/
def signalFault : Charger :=
  if 0 < cfg.stateFAfterFaultMs ∧ ¬ c.hlc.chargingActive then
    let c := if c.enteredFatalErrorState then c.cpStateF else c
    if c.pwm.cpStateFActive ∧ cfg.stateFAfterFaultMs < c.timeInFatalErrorStateMs then c.cpStateX1
    else c
  else c

/-- The reasons of a pause by the EVSE. -/
def pauseReasons (fatal available : Bool) (c : Charger) : List PauseReason :=
  (if fatal then [.Error] else []) ++ (if available then [] else [.NoEnergy]) ++
    (if c.flagPausedByEvse then [.UserPause] else [])

/-- The pause by the EVSE is lifted. -/
def resumeFromEvsePause : Charger :=
  if c.hlcSessionEnded then
    if c.evsePauseResumable then c.resumeEvsePauseMarker.setState .PrepareCharging
    else c.setState .ChargingPausedEV
  else if c.mustWaitInX1BeforePwm then c
  else
    let c := if c.hlc.terminatePause ≠ .Pause then c.emit .slacStart else c
    c.setState .PrepareCharging

/-- The initialisation of `EvseState::ChargingPausedEVSE`: X1 in basic charging. -/
def initChargingPausedEvse : Charger :=
  let c := if ¬ c.hlc.chargingActive ∨ ¬ c.control.flagTransactionActive then c.cpStateX1 else c
  { c with lastChargingPausedEvseReasons := [] }

/-- The reasons are announced when they change. -/
def announcePause (reasons : List PauseReason) (c : Charger) : Charger :=
  if c.lastChargingPausedEvseReasons = reasons then c
  else { c.emit (.chargingPausedEvse reasons) with lastChargingPausedEvseReasons := reasons }

/-- `EvseState::ChargingPausedEVSE`. -/
def caseChargingPausedEvse : Charger :=
  let c := if init then c.initChargingPausedEvse else c
  if c.sessionEnds then c.setState .StoppingCharging
  else
    let c := (c.signalFault cfg).emit (.clearError .cableCheckFault)
    let (fatal, c) := c.stopChargingOnFatalError cfg
    let (available, c) := c.powerAvailable cfg
    let reasons := c.pauseReasons fatal available
    if reasons = [] then c.resumeFromEvsePause else c.announcePause reasons

/-! ## StoppingCharging and Finished -/

/-- The EV is asked to stop or to pause; in basic charging the PWM goes off. -/
def askToStop : Charger :=
  let evsePause := c.flagPausedByEvse || c.hlc.d20PauseConfirmed
  let notified := c.hlc.d20PauseConfirmed
  let c := { c with
    stoppingForEvsePause := evsePause
    stoppingChargingTimeoutMs := stoppingChargingTimeout
    hlc := { c.hlc with
      d20PauseRequested := false
      d20PauseConfirmed := false
      d20PauseNotified := false
      d20PauseRampStart := none } }
  if c.hlc.chargingActive then
    if c.hlc.d20Active ∧ evsePause ∧ c.hlc.d20DynamicMode then
      { c with
        stoppingChargingTimeoutMs := d20PauseRampTimeoutMs
        hlc := { c.hlc with d20PauseRampStart := some c.now } }
    else if c.hlc.d20Active ∧ evsePause then
      let c := if notified then c else c.emit .hlcPauseCharging
      { c with
        stoppingChargingTimeoutMs := stoppingChargingD20PauseTimeoutMs
        hlc := { c.hlc with d20PauseNotified := true } }
    else c.emit .hlcStopCharging
  else c.cpStateX1

/-- The initialisation of `EvseState::StoppingCharging`. -/
def initStoppingCharging : Charger :=
  let c := ({ c with hlc := { c.hlc with dcRenegotiation := false } }).bcbToggleReset
  let c := ({ c with legacyWakeupDone := false }).emit (.simpleEvent .StoppingCharging)
  c.askToStop

/-- The output has been ramped down for a pause that is not requested yet. -/
def d20PauseAtZero : Bool :=
  c.hlc.d20PauseRampStart.isSome && !c.hlc.d20PauseNotified &&
    |c.limits.dcPresentCurrent| < d20PauseZeroCurrentA

/-- The pause is requested once no current flows. -/
def notifyD20PauseAtZero : Charger :=
  if c.d20PauseAtZero then
    { c.emit .hlcPauseCharging with
      stoppingChargingTimeoutMs := time + stoppingChargingD20PauseTimeoutMs
      hlc := { c.hlc with d20PauseNotified := true } }
  else c

/-- The hard stop, when the EV did not stop in time. -/
def hardStop : Charger :=
  if c.stoppingChargingTimeoutMs < time then (c.emit .dcSupplyOff).allowPowerOn false .PowerOff
  else c

/-- The charging was stopped by the EVSE; a fatal error is looked at last. -/
def stoppedByEvse : Bool × Charger :=
  let (available, c) := c.powerAvailable cfg
  if ¬ available ∨ c.flagPausedByEvse ∨ c.stoppingForEvsePause then (true, c)
  else c.stopChargingOnFatalError cfg

/-- `EvseState::StoppingCharging`. -/
def caseStoppingCharging : Charger :=
  let c := if init then c.initStoppingCharging else c
  let c := (c.notifyD20PauseAtZero time).hardStop time
  -- the relays are still closed
  if ¬ c.control.contactorOpen then c
  else if c.sessionEnds then c.setState .Finished
  else
    let (byEvse, c) := c.stoppedByEvse cfg
    if byEvse then
      ({ c with hlc := { c.hlc with sessionPausedByEvse := c.hlc.chargingActive } }).setState
        .ChargingPausedEVSE
    else c.setState .ChargingPausedEV

/-- The initialisation of `EvseState::Finished`. -/
def initFinished : Charger :=
  let c := if c.control.flagTransactionActive then c.stopTransaction else c
  let c := if cfg.chargeMode = .DC then c.emit .dcSupplyOff else c
  c.allowPowerOn false .PowerOff

/-- `EvseState::Finished`. -/
def caseFinished : Charger :=
  let c := if init then c.initFinished cfg else c
  if ¬ c.control.flagEvPluggedIn ∨ c.control.flagDisableRequested then
    let c := c.stopSession
    c.setState (if c.control.flagDisableRequested then .Disabled else .Idle)
  else c

/-! ## The loop -/

/-- A requested reinit waits until the data link is left. -/
def advanceReinit : Charger :=
  if c.link.slacMatched then
    if c.seq.reinitRunning then c
    else { c.emit .hlcStopCharging with seq := { c.seq with reinitRunning := true } }
  else
    let c := { c with seq := { c.seq with reinitRequested := false, reinitRunning := true } }
    c.endUntilUnmatched.setState .Reinit

def processPendingReinitRequest : Charger :=
  if c.seq.reinitRequested then
    (if c.state = .Charging then c.setState .StoppingCharging else c).advanceReinit
  else c

/-- `initialize_state`: the state or the error has changed. -/
def initializeState : Bool :=
  c.control.lastStateDetectStateChange ≠ c.state ||
    c.internalLastShutdownType ≠ c.control.shutdownType

/-- The state is noted before it is run. -/
def noteState : Charger :=
  { c with
    lastState := c.control.lastStateDetectStateChange
    control := { c.control with lastStateDetectStateChange := c.state }
    internalLastShutdownType := c.control.shutdownType }

/-- Phases that were left to be switched, and the retain time of the oscillator. -/
def beforeState : Charger :=
  let c := if init then
      ({ c with currentStateStarted := c.now }).emit (.state c.state)
    else c
  let c := if c.lastState = .SwitchPhases ∧ c.state ≠ .SwitchPhases ∧ c.seq.switchingOngoing then
      c.switchPhasesNow
    else c
  if c.hlc.sessionStopPwmOffDeadline.any fun t => t ≤ c.now then
    let c := { c with hlc := { c.hlc with sessionStopPwmOffDeadline := none } }
    if c.pwm.running then c.cpStateX1 else c
  else c

/-- The `switch` over the states. -/
def runState : Charger :=
  match c.state with
  | .Disabled => c.caseDisabled init
  | .Idle => c.caseIdle cfg init
  | .WaitingForAuthentication => c.caseWaitingForAuthentication cfg i init time
  | .SwitchPhases => c.caseSwitchPhases cfg init time
  | .T_step_EF => c.caseTStepEf cfg init time
  | .T_step_X1 => c.caseTStepX1 cfg init time
  | .Reinit => c.caseReinit init
  | .PrepareCharging => c.casePrepareCharging cfg init time
  | .Charging => c.caseCharging cfg init
  | .ChargingPausedEV => c.caseChargingPausedEv cfg init
  | .ChargingPausedEVSE => c.caseChargingPausedEvse cfg init
  | .StoppingCharging => c.caseStoppingCharging cfg init time
  | .Finished => c.caseFinished cfg init

end Cases

section Loop

variable (cfg : ChargerConfig) (i : ChargerInputs)

/-- One pass of the loop; `true` when the call returns from within it. -/
def pass (c : Charger) : Bool × Charger :=
  let c := c.processPendingReinitRequest
  let init := c.initializeState
  let c := c.noteState
  let c := if c.acWithSocTimeout then { c with acWithSocTimer := c.acWithSocTimer - 50 } else c
  if c.acWithSocTimeout ∧ c.acWithSocTimer < 0 then
    (true, ({ c with acWithSocTimeout := false, acWithSocTimer := 3600000 }).emit .acWithSocTimeout)
  else
    let c := c.beforeState init
    (false, c.runState cfg i init (c.now - c.currentStateStarted))

/-- The last pass has not changed the state. -/
def settled (c : Charger) : Bool := c.control.lastStateDetectStateChange = c.state

/-- The ramp of a pause, as seen from outside. -/
def publishPauseRamp (c : Charger) : Charger :=
  { c with dcPauseRampStart :=
      if c.state = .StoppingCharging then c.hlc.d20PauseRampStart else none }

/-- `run_state_machine`, with at most `n` passes after the first one. -/
def runStateMachine (n : Nat) (c : Charger) : Charger :=
  let (returned, c) := c.pass cfg i
  if returned then c
  else if c.settled then c.publishPauseRamp
  else match n with
    | 0 => c
    | n + 1 => runStateMachine n c

end Loop

end Charger

end EverestCore.Evse

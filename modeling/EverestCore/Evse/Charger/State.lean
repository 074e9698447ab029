import EverestCore.Evse.Iec.State

/-!
# The state of the charger (`Charger.hpp`)

`Charger` is the session state machine of an EVSE. The members of `shared_context` and
`internal_context` are grouped by what they are about. `Control` holds the state and the flags of
the session that other modules rely on; `log` is everything the charger has sent out, newest first.

* `Pwm`: `cp_state_X1`, `cp_state_F`, `cp_state_E`, `update_pwm_now` and its variants.
* `BcbToggle`: the detection of a wake-up by the EV.
* `Limits`: `get_max_current_internal`, `power_available`, `check_soft_over_current`.
* `stopChargingOnFatalError`: `stop_charging_on_fatal_error_internal`.

Time is in milliseconds and `now` is the reading of every clock; a sleep advances it. Amperes, watts
and duty cycles are rationals. Left out: log messages and what only they depend on, signed meter
values, tariffs, and the persistent store.
-/

namespace EverestCore.Evse

open Iec (CPEvent Reason)

/-! ## Types -/

inductive EvseState
  | Disabled | Idle | WaitingForAuthentication | PrepareCharging | Charging | ChargingPausedEV
  | ChargingPausedEVSE | StoppingCharging | Finished | T_step_EF | T_step_X1 | Reinit | SwitchPhases
  deriving DecidableEq

inductive ShutdownType
  | None | ErrorShutdown | EmergencyShutdown
  deriving DecidableEq

inductive ErrorHandlingEvents
  | ForceErrorShutdown | ForceEmergencyShutdown | AllErrorsPreventingChargingCleared
  | AllErrorCleared

inductive ChargeMode
  | AC | DC
  deriving DecidableEq

inductive HlcTerminatePause
  | Unknown | Terminate | Pause
  deriving DecidableEq

inductive SessionStopAction
  | Terminate | Pause | FailedTermination
  deriving DecidableEq

/-- The CP state of a phase switch or of a reinit. -/
inductive CpMethod
  | E | F | X1
  deriving DecidableEq

inductive EnableSource
  | Unspecified | LocalAPI | LocalKeyLock | ServiceTechnician | RemoteKeyLock | MobileApp
  | FirmwareUpdate | CSMS
  deriving DecidableEq

inductive EnableState
  | Unassigned | Disable | Enable
  deriving DecidableEq

structure EnableDisableSource where
  enableSource : EnableSource
  enableState : EnableState
  enablePriority : Int

/-- `types::authorization::ProvidedIdToken`: its value and whether it is from Plug and Charge. -/
structure ProvidedIdToken where
  value : String
  pnc : Bool

inductive StopTransactionReason
  | EmergencyStop | EVDisconnected | HardReset | Local | Other | PowerLoss | Reboot | Remote
  | SoftReset | UnlockCommand | DeAuthorized | EnergyLimitReached | GroundFault | LocalOutOfCredit
  | MasterPass | OvercurrentFault | PowerQuality | SOCLimitReached | StoppedByEV | TimeLimitReached
  | Timeout | ReqEnergyTransferRejected | EVSEDisabled

inductive StartSessionReason
  | EVConnected | Authorized

/-- `types::powermeter::TransactionRequestStatus`. -/
inductive MeterStatus
  | OK | NOT_SUPPORTED | UNEXPECTED_ERROR

/-- `types::evse_manager::PauseChargingEVSEReasonEnum`. -/
inductive PauseReason
  | Error | NoEnergy | UserPause
  deriving DecidableEq

/-- `types::iso15118::EvseError`, those that are signalled here. -/
inductive EvseError
  | Error_EmergencyShutdown | Error_ErrorShutdown | Error_UtilityInterruptEvent

/-- `types::evse_manager::SessionEventEnum`, those without data. -/
inductive SessionEvent
  | Enabled | Disabled | AuthRequired | Authorized | Deauthorized | PluginTimeout | PrepareCharging
  | ChargingStarted | ChargingPausedEV | StoppingCharging | SwitchingPhases | ChargingFinished
  | SessionFinished
  deriving DecidableEq

/-- The errors that the charger raises or clears. -/
inductive RaisedError
  | overcurrent | powermeterTransactionStartFailed | authorizationTimeout | cableCheckFault
  | errorsOnUnplug

/-- What the charger sends out. -/
inductive ChargerOutput
  -- calls of the IEC state machine
  | allowPowerOn (value : Bool) (reason : Reason)
  | setPwm (dutyCycle : Rat) (time : Int)
  | pwmOff (method : CpMethod) (time : Int)
  | enable (value : Bool)
  | switchThreePhasesWhileCharging (threePhases : Bool)
  | setAuthorized (value : Bool)
  | setOvercurrentLimit (ampere : Rat)
  -- events of the session
  | sessionStarted (reason : StartSessionReason) (token : Option ProvidedIdToken)
  | transactionStarted (token : ProvidedIdToken)
  | transactionFinished (reason : StopTransactionReason) (token : Option ProvidedIdToken)
  | simpleEvent (e : SessionEvent)
  | chargingPausedEvse (reasons : List PauseReason)
  -- signals
  | state (s : EvseState)
  | maxCurrent (ampere : Rat)
  | acWithSocTimeout
  | dcSupplyOff
  | dcEnforceTargetLimits
  | slacReset
  | slacStart
  | hlcStopCharging
  | hlcPauseCharging
  | hlcResumeCharging
  | hlcError (e : EvseError)
  | hlcPlugInTimeout
  | hlcNoEnergyAvailable
  -- calls of the error handling
  | raiseError (e : RaisedError)
  | clearError (e : RaisedError)

/-! ## Configuration -/

/-- `config_context`, and what `setup` keeps elsewhere. -/
structure ChargerConfig where
  chargeMode : ChargeMode := .AC
  acHlcEnabled : Bool := false
  acHlcUse5percent : Bool := false
  acEnforceHlc : Bool := false
  acLimitSlacInitRetries : Bool := true
  acWithSocTimeout : Bool := false
  switch3ph1phDelayS : Int := 10
  switch3ph1phCpState : CpMethod := .X1
  softOverCurrentTimeoutMs : Int := 7000
  softOverCurrentTolerancePercent : Rat := 10
  softOverCurrentMeasurementNoiseA : Rat := 1 / 2
  stateFAfterFaultMs : Int := 300
  reinitDurationMs : Int := 3000
  reinitMethod : CpMethod := .F
  failOnPowermeterErrors : Bool := false
  raiseMrec9 : Bool := false
  sleepBeforeEnablingPwmHlcModeMs : Int := 1000
  hlcChargeLoopWithoutEnergyTimeoutS : Int := 300

/-- What a run of the state machine reads from its environment. -/
structure ChargerInputs where
  ppAmpacity : Option Rat          -- `read_pp_ampacity`
  meterStart : List MeterStatus    -- the answers of the billing meters to a start
  sessionUuid : String              -- `generate_session_id`

/-! ## State -/

/-- The state, and the flags of the session. -/
structure Control where
  currentState : EvseState := .Idle
  lastStateDetectStateChange : EvseState := .Idle
  shutdownType : ShutdownType := .None
  lastShutdownType : ShutdownType := .None
  contactorOpen : Bool := true
  flagEvPluggedIn : Bool := false
  sessionActive : Bool := false
  flagTransactionActive : Bool := false
  flagDisableRequested : Bool := false
  connectorEnabled : Bool := true
  activeEnableDisableSource : EnableDisableSource := ⟨.Unspecified, .Unassigned, 10000⟩
  enableDisableSourceTable : List EnableDisableSource := []
  tStepEfReturnState : EvseState := .Idle
  tStepX1ReturnState : EvseState := .Idle
  tStepX1UntilUnmatched : Bool := false
  switchingPhasesReturnState : EvseState := .Idle   -- not initialised, and set before it is read

/-- The control pilot signal. -/
structure Pwm where
  running : Bool := false
  lastDutyCycle : Rat := 0               -- `update_pwm_last_duty_cycle`
  setLastAmpere : Rat := 0
  lastUpdate : Int := 0
  switchedOffAt : Option Int := none
  cpStateFActive : Bool := false

/-- The detection of BCB toggles. -/
structure BcbToggle where
  sequenceStarted : Bool := false
  count : Nat := 0
  startOfBcb : Int := 0
  startOfSequence : Int := 0

/-- The high level communication. -/
structure Hlc where
  allowCloseContactor : Bool := false
  chargingActive : Bool := false
  terminatePause : HlcTerminatePause := .Unknown
  sessionPausedByEvse : Bool := false
  dcRenegotiation : Bool := false
  use5percentCurrentSession : Bool := false
  acEnabledCurrentSession : Bool := false
  failed : Bool := false
  sessionRestartedByEv : Bool := false
  sessionStopPwmOffDeadline : Option Int := none
  d20Active : Bool := false
  d20DynamicMode : Bool := false
  d20PauseRequested : Bool := false
  d20PauseConfirmed : Bool := false
  d20PauseNotified : Bool := false
  d20PauseRampStart : Option Int := none
  noEnergyTimeoutRunning : Bool := false
  noEnergyTimeoutStarted : Int := 0

/-- The data link. -/
structure Link where
  matchingStarted : Bool := false
  slacMatched : Bool := false
  dlinkEstablished : Bool := false
  slacRetries : Nat := 0
  slacRetriesExhausted : Bool := false
  wakeupLinkDeadline : Option Int := none

/-- The authorization, and the data of the transaction. -/
structure Authorization where
  flagAuthorized : Bool := false
  authorizedPnc : Bool := false
  flagExternallyCancelled : Bool := false
  sessionUuid : String := ""
  idToken : ProvidedIdToken := ⟨"", false⟩
  stopTransactionIdToken : Option ProvidedIdToken := none
  lastStopTransactionReason : Option StopTransactionReason := none

/-- The limits and measurements. -/
structure Limits where
  maxCurrent : Rat := 6
  maxCurrentValidUntil : Int := 0
  maxCurrentCable : Option Rat := none
  type2Socket : Bool := false   -- `connector_type`
  evseMaximumCurrentLimit : Rat := 0
  evseMaximumPowerLimit : Rat := 0
  drawnL1 : Rat := 0        -- `current_drawn_by_vehicle`
  drawnL2 : Rat := 0
  drawnL3 : Rat := 0
  overCurrent : Bool := false
  lastOverCurrentEvent : Int := 0
  dcPresentCurrent : Rat := 0

/-- The CP sequences: `T_step_EF`, `T_step_X1`, phase switching and reinit. -/
structure Sequences where
  efReturnPwm : Rat := 0
  efReturnAmpere : Rat := 0
  efX1Pause : Bool := false
  x1ReturnPwm : Rat := 0
  threePhases : Bool := false
  switchingOngoing : Bool := false
  reinitRequested : Bool := false
  reinitRunning : Bool := false
  reinitMethod : CpMethod := .F
  reinitDuration : Int := 3000
  reinitTimerActive : Bool := false
  reinitDeadline : Int := 0
  supportsCpStateE : Bool := false

structure Charger where
  control : Control := {}
  pwm : Pwm := {}
  bcb : BcbToggle := {}
  hlc : Hlc := {}
  link : Link := {}
  auth : Authorization := {}
  limits : Limits := {}
  seq : Sequences := {}
  now : Int := 0
  currentStateStarted : Int := 0
  lastState : EvseState := .Disabled
  internalLastShutdownType : ShutdownType := .None
  fatalErrorBecameActive : Int := 0
  fatalErrorTimerRunning : Bool := false
  iecAllowCloseContactor : Bool := false
  flagPausedByEvse : Bool := false
  legacyWakeupDone : Bool := false
  noEnergyWarningPrinted : Bool := false
  acX1FallbackTimeoutRunning : Bool := false
  acX1FallbackTimeoutStarted : Int := 0
  stoppingForEvsePause : Bool := false
  stoppingChargingTimeoutMs : Int := 20000
  lastChargingPausedEvseReasons : List PauseReason := []
  acWithSocTimeout : Bool := false
  acWithSocTimer : Int := 3600000
  lastDcEnforceTargetLimits : Int := 0
  dcPauseRampStart : Option Int := none
  log : List ChargerOutput := []

namespace Charger

/-- The constructor and `setup`. -/
def init (cfg : ChargerConfig) (type2Socket : Bool) (ppAmpacity : Option Rat) : Charger where
  limits := { type2Socket := type2Socket
              maxCurrentCable := if type2Socket then ppAmpacity else none }
  hlc := { chargingActive := cfg.chargeMode = .DC, acEnabledCurrentSession := cfg.acHlcEnabled }
  acWithSocTimeout := cfg.acWithSocTimeout
  log := [.setAuthorized false]

def emit (o : ChargerOutput) (c : Charger) : Charger := { c with log := o :: c.log }

/-- `set_state`, and the assignments of `current_state`. -/
def setState (s : EvseState) (c : Charger) : Charger :=
  { c with control := { c.control with currentState := s } }

variable (c : Charger)

def state : EvseState := c.control.currentState

/-- `flag_authorized` tells the IEC state machine about each assignment. -/
def setFlagAuthorized (value : Bool) (c : Charger) : Charger :=
  { c.emit (.setAuthorized value) with auth := { c.auth with flagAuthorized := value } }

def allowPowerOn (value : Bool) (reason : Reason) (c : Charger) : Charger :=
  c.emit (.allowPowerOn value reason)

/-! ## The control pilot -/

def pwm5Percent : Rat := 5 / 100

def iecMinX1BeforePwmMs : Int := 3000

def iecPwmMaxUpdateInterval : Int := 5000

def pwmSignalOff : Bool := !c.pwm.running || 1 ≤ c.pwm.lastDutyCycle

def notePwmSwitchedOff : Charger :=
  if c.pwmSignalOff then c else { c with pwm := { c.pwm with switchedOffAt := some c.now } }

def mustWaitInX1BeforePwm : Bool :=
  c.pwmSignalOff && c.pwm.switchedOffAt.any fun t => c.now - t < iecMinX1BeforePwmMs

/-- The common part of `cp_state_X1`, `cp_state_F` and `cp_state_E`. -/
def cpStateOff (method : CpMethod) (dutyCycle : Rat) (c : Charger) : Charger :=
  let c := c.notePwmSwitchedOff
  { c.emit (.pwmOff method c.now) with
    pwm := { c.pwm with
      running := false
      lastDutyCycle := dutyCycle
      setLastAmpere := 0
      cpStateFActive := method = .F } }

def cpStateX1 : Charger := c.cpStateOff .X1 1

def cpStateF : Charger := c.cpStateOff .F 0

/-- `cp_state_E`: X1 where the hardware has no state E. -/
def cpStateE : Charger :=
  if c.seq.supportsCpStateE then c.cpStateOff .E 0 else c.notePwmSwitchedOff.cpStateX1

/-- The CP state of a phase switch or a reinit. -/
def cpStateBy (method : CpMethod) (c : Charger) : Charger :=
  match method with
  | .E => c.cpStateE
  | .F => c.cpStateF
  | .X1 => c.cpStateX1

def updatePwmNow (dutyCycle : Rat) (c : Charger) : Charger :=
  if 1 ≤ dutyCycle then c.cpStateX1
  else if dutyCycle ≤ 0 then c.cpStateF
  else
    { c.emit (.setPwm dutyCycle c.now) with
      pwm := { c.pwm with
        running := true, lastDutyCycle := dutyCycle, lastUpdate := c.now,
        cpStateFActive := false } }

def updatePwmNowIfChanged (dutyCycle : Rat) (c : Charger) : Charger :=
  if c.pwm.lastDutyCycle ≠ dutyCycle then c.updatePwmNow dutyCycle else c

def ampereToDutyCycle (ampere : Rat) : Rat :=
  if ampere < 59 / 10 then 1
  else if ampere ≤ 61 / 10 then 1 / 10
  else if ampere < 525 / 10 then min ampere 51 / (6 / 10) / 100
  else if ampere ≤ 80 then (ampere / (25 / 10) + 64) / 100
  else if ampere ≤ 801 / 10 then 97 / 100
  else 1

def setPwmLastAmpere (ampere : Rat) (c : Charger) : Charger :=
  { c with pwm := { c.pwm with setLastAmpere := ampere } }

def updatePwmNowIfChangedAmpere (ampere : Rat) (c : Charger) : Charger :=
  if c.pwm.lastDutyCycle ≠ ampereToDutyCycle ampere then
    (c.updatePwmNow (ampereToDutyCycle ampere)).setPwmLastAmpere ampere
  else c

def updatePwmMaxEvery5secondsAmpere (ampere : Rat) (c : Charger) : Charger :=
  if c.pwm.lastDutyCycle ≠ ampereToDutyCycle ampere ∧
      iecPwmMaxUpdateInterval ≤ c.now - c.pwm.lastUpdate then
    (c.updatePwmNow (ampereToDutyCycle ampere)).setPwmLastAmpere ampere
  else c

/-! ## BCB toggles -/

def tpEvValdStateDurationMin : Int := 150

def tpEvValdStateDurationMax : Int := 450

def ttEvseValdToggle : Int := 3700

def bcbToggleReset : Charger :=
  { c with bcb := { c.bcb with count := 0, sequenceStarted := false } }

def bcbToggleDetectStartPulse : Charger :=
  let b := { c.bcb with startOfBcb := c.now }
  { c with bcb :=
      if b.count = 0 then { b with startOfSequence := c.now, sequenceStarted := true } else b }

def bcbToggleDetectStopPulse : Charger :=
  let pulseLength := c.now - c.bcb.startOfBcb
  if ¬ c.bcb.sequenceStarted then c
  else if tpEvValdStateDurationMin < pulseLength ∧ pulseLength < tpEvValdStateDurationMax then
    { c with bcb := { c.bcb with count := c.bcb.count + 1 } }
  else { c with bcb := { c.bcb with count := 0 } }

/-- `bcb_toggle_detected`, the result. -/
def bcbToggleDetected : Bool :=
  c.bcb.sequenceStarted &&
    (decide (ttEvseValdToggle < c.now - c.bcb.startOfSequence) || decide (3 ≤ c.bcb.count))

/-- `bcb_toggle_detected`, its effect: a detected sequence is not counted again. -/
def takeBcbToggle : Charger :=
  if c.bcbToggleDetected then { c with bcb := { c.bcb with count := 0 } } else c

inductive BcbCall
  | reset | startPulse | stopPulse | detected

/-- A call at its time. -/
def bcbCall (call : BcbCall × Int) (c : Charger) : Charger :=
  let c := { c with now := call.2 }
  match call.1 with
  | .reset => c.bcbToggleReset
  | .startPulse => c.bcbToggleDetectStartPulse
  | .stopPulse => c.bcbToggleDetectStopPulse
  | .detected => c.takeBcbToggle

/-! ### What a sequence of calls shows, the last call being the first of the list -/

def validLength (pulse : Int) : Bool :=
  tpEvValdStateDurationMin < pulse && pulse < tpEvValdStateDurationMax

/-- When the pulse began that has not ended. -/
def pulseStart : List (BcbCall × Int) → Option Int
  | [] | (.stopPulse, _) :: _ => none
  | (.startPulse, t) :: _ => some t
  | _ :: calls => pulseStart calls

/-- A pulse of a valid length has ended since the last reset. -/
def validPulse : List (BcbCall × Int) → Bool
  | [] | (.reset, _) :: _ => false
  | (.stopPulse, t) :: calls =>
    validPulse calls || (pulseStart calls).any fun s => validLength (t - s)
  | _ :: calls => validPulse calls

/-- When the last pulse since the last reset began. -/
def lastStart : List (BcbCall × Int) → Option Int
  | [] | (.reset, _) :: _ => none
  | (.startPulse, t) :: _ => some t
  | _ :: calls => lastStart calls

/-- How many of the last ends in a row since the last reset lie at a valid distance from the start
before them, whether or not the pulse had ended already. -/
def endsInARow : List (BcbCall × Int) → Nat
  | [] | (.reset, _) :: _ => 0
  | (.stopPulse, t) :: calls =>
    if (lastStart calls).any fun s => validLength (t - s) then endsInARow calls + 1 else 0
  | _ :: calls => endsInARow calls

/-- When the sequence began: with the last start since the last reset that follows no such end. -/
def sequenceStart : List (BcbCall × Int) → Option Int
  | [] | (.reset, _) :: _ => none
  | (.startPulse, t) :: calls => if endsInARow calls = 0 then some t else sequenceStart calls
  | _ :: calls => sequenceStart calls

/-- A sequence that has begun is not over in time, and less than three ends came in a row. -/
def inSequence (calls : List (BcbCall × Int)) (now : Int) : Bool :=
  (sequenceStart calls).all fun s => now - s ≤ ttEvseValdToggle && endsInARow calls < 3

/-- `P` holds at every query before which no valid pulse has ended since the last reset. -/
def AtIdleQueries (P : List (BcbCall × Int) → Int → Prop) : List (BcbCall × Int) → Prop
  | [] => True
  | (.detected, t) :: calls => (validPulse calls = false → P calls t) ∧ AtIdleQueries P calls
  | _ :: calls => AtIdleQueries P calls

/-- What a query answers after the calls. -/
def bcbAnswer (calls : List (BcbCall × Int)) (now : Int) : Bool :=
  bcbToggleDetected { calls.foldr bcbCall c with now := now }

variable {c}

/-- The detection after the given calls. -/
structure Tracks (calls : List (BcbCall × Int)) (b : BcbToggle) : Prop where
  started : b.sequenceStarted = (sequenceStart calls).isSome
  lastStart : ∀ s ∈ lastStart calls, b.startOfBcb = s
  count : b.count = endsInARow calls
  sequence : ∀ s ∈ sequenceStart calls, b.startOfSequence = s

theorem endsInARow_of_lastStart {calls : List (BcbCall × Int)} (h : lastStart calls = none) :
    endsInARow calls = 0 := by
  induction calls with
  | nil => rfl
  | cons call calls ih =>
    obtain ⟨call, t⟩ := call
    cases call with
    | reset => rfl
    | startPulse => cases h
    | stopPulse =>
      change lastStart calls = none at h
      simp [endsInARow, h]
    | detected => exact ih h

/-- The first start since the last reset begins a sequence. -/
theorem isSome_sequenceStart (calls : List (BcbCall × Int)) :
    (sequenceStart calls).isSome = (lastStart calls).isSome := by
  induction calls with
  | nil => rfl
  | cons call calls ih =>
    obtain ⟨call, t⟩ := call
    cases call with
    | reset => rfl
    | stopPulse | detected => exact ih
    | startPulse =>
      rw [sequenceStart, lastStart]
      split_ifs with hends
      · rfl
      · rw [ih, Option.isSome_some, Option.isSome_iff_ne_none]
        exact fun hnone => hends (endsInARow_of_lastStart hnone)

theorem Tracks.detected_iff {calls : List (BcbCall × Int)} (h : Tracks calls c.bcb) (now : Int) :
    bcbToggleDetected { c with now := now } = false ↔ inSequence calls now := by
  unfold bcbToggleDetected inSequence
  rw [h.started, h.count]
  cases hs : sequenceStart calls with
  | none => simp
  | some s => simp [h.sequence s hs]

/-- Each call is tracked, where a query changes nothing as long as its answer is false. -/
theorem Tracks.bcbCall {calls : List (BcbCall × Int)} {call : BcbCall} {t : Int}
    (h : call ≠ .reset → Tracks calls c.bcb)
    (hq : call = .detected → bcbToggleDetected { c with now := t } = false) :
    Tracks ((call, t) :: calls) (c.bcbCall (call, t)).bcb := by
  cases call with
  | reset => exact ⟨rfl, nofun, rfl, nofun⟩
  | startPulse =>
    have h := h nofun
    unfold Charger.bcbCall bcbToggleDetectStartPulse
    dsimp only
    split_ifs with hcount
    · have hends : endsInARow calls = 0 := h.count.symm.trans hcount
      exact ⟨by simp [sequenceStart, hends], by simp [Charger.lastStart], h.count,
        by simp [sequenceStart, hends]⟩
    · have hends : endsInARow calls ≠ 0 := h.count ▸ hcount
      exact ⟨by simpa [sequenceStart, hends] using h.started, by simp [Charger.lastStart], h.count,
        by simpa [sequenceStart, hends] using h.sequence⟩
  | stopPulse =>
    have h := h nofun
    unfold Charger.bcbCall bcbToggleDetectStopPulse
    dsimp only
    cases hs : Charger.lastStart calls with
    | none =>
      have hstarted : c.bcb.sequenceStarted = false := by
        rw [h.started, isSome_sequenceStart, hs]
        rfl
      rw [if_pos (by simp [hstarted])]
      refine ⟨h.started, h.lastStart, ?_, h.sequence⟩
      rw [h.count, endsInARow_of_lastStart hs]
      simp [endsInARow, hs]
    | some s =>
      have hstarted : c.bcb.sequenceStarted = true := by
        rw [h.started, isSome_sequenceStart, hs]
        rfl
      rw [if_neg (by simp [hstarted])]
      split_ifs with hvalid <;> rw [h.lastStart s hs] at hvalid
      · exact ⟨h.started, h.lastStart, by simp [endsInARow, hs, validLength, hvalid, h.count],
          h.sequence⟩
      · refine ⟨h.started, h.lastStart, ?_, h.sequence⟩
        simpa [endsInARow, hs, validLength] using hvalid
  | detected =>
    have h := h nofun
    unfold Charger.bcbCall takeBcbToggle
    dsimp only
    rw [if_neg (by simp [hq rfl])]
    exact ⟨h.started, h.lastStart, h.count, h.sequence⟩

/-- As long as every query without a valid pulse is answered with false, such calls are tracked. -/
theorem tracks_run (hc : c.bcb = {}) {calls : List (BcbCall × Int)} (hv : validPulse calls = false)
    (hq : AtIdleQueries (fun calls t => c.bcbAnswer calls t = false) calls) :
    Tracks calls (calls.foldr bcbCall c).bcb := by
  induction calls with
  | nil => exact ⟨by simp [hc, sequenceStart], nofun, by simp [hc, endsInARow], nofun⟩
  | cons call calls ih =>
    obtain ⟨call, t⟩ := call
    have hv' : call ≠ .reset → validPulse calls = false := by
      cases call <;> simp_all [validPulse]
    have hq' : AtIdleQueries (fun calls t => c.bcbAnswer calls t = false) calls := by
      cases call <;> simp_all [AtIdleQueries]
    refine Tracks.bcbCall (fun hne => ih (hv' hne) hq') fun heq => ?_
    subst heq
    exact hq.1 hv

/-- **A wake-up follows a valid pulse exactly when every query without one comes in time**: in every
run of calls, all queries before which no pulse of a valid length has ended since the last reset are
answered with false iff all of them come before the sequence is over and before three ends in a
row. -/
theorem toggle_detected_after_pulse (hc : c.bcb = {}) (calls : List (BcbCall × Int)) :
    AtIdleQueries (fun calls t => c.bcbAnswer calls t = false) calls ↔
      AtIdleQueries (fun calls t => inSequence calls t = true) calls := by
  induction calls with
  | nil => exact Iff.rfl
  | cons call calls ih =>
    obtain ⟨call, t⟩ := call
    cases call with
    | reset | startPulse | stopPulse => exact ih
    | detected =>
      refine Iff.trans (and_congr_left fun hq => ?_) (and_congr_right fun _ => ih)
      exact forall_congr' fun hv => (tracks_run hc hv hq).detected_iff t

/-- An end without a start and a pulse of 100 ms, with queries in time, are no wake-up. A pulse of
300 ms is one. -/
theorem toggle_detected_after_one_pulse :
    let calls := [(.detected, 6000), (.stopPulse, 2300), (.startPulse, 2000), (.detected, 1900),
      (.stopPulse, 1100), (.startPulse, 1000), (.detected, 500), (.stopPulse, 0)]
    AtIdleQueries (fun calls t => bcbAnswer {} calls t = false) calls ∧
      bcbAnswer {} calls.tail 6000 = true ∧ validPulse calls.tail = true := by
  intro calls
  refine ⟨(toggle_detected_after_pulse rfl calls).2 ?_, by decide, by decide⟩
  exact ⟨by decide, by decide, by decide, trivial⟩

/-- A wake-up by a pulse that has not ended, and by one of 100 ms whose end is seen four times. -/
theorem toggle_detected_without_pulse :
    let calls := [(.stopPulse, 300), (.stopPulse, 250), (.stopPulse, 200), (.stopPulse, 100),
      (.startPulse, 0)]
    (bcbAnswer {} [(.startPulse, 0)] 4000 = true ∧ validPulse [(.startPulse, 0)] = false) ∧
      bcbAnswer {} calls 300 = true ∧ validPulse calls = false := by
  decide

end Charger

end EverestCore.Evse

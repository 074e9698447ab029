import EverestCore.Lib.Machine
import Mathlib.Algebra.Order.Ring.Rat

/-!
# The state of the IEC 61851-1 state machine (`IECStateMachine.hpp`, `Timeout.hpp`)

The adapter between the board support package (BSP) and `Charger`. The state holds the members of
`IECStateMachine` and, in `log`, everything it has sent out: calls of the BSP and signals, the
newest first. Each call of the BSP's `allow_power_on` is logged with the values that
`pwm_running` and `power_on_allowed` had then.

* `AsyncTimeout`: `start`, `stop`, `reached`; the clock `steady_clock::now()` is an argument, in
  milliseconds.
* `State.callAllowPowerOnBsp`: `call_allow_power_on_bsp`.
* `State.connectorLock`, `connectorUnlock`, `checkConnectorLock`: the connector lock.

Left out: `last_amps` and `switch_three_phases_while_charging`, which are passed through to the
BSP, and log messages.
-/

namespace EverestCore.Evse.Iec

open EverestCore.Lib.Machine

/-! ## Events -/

inductive CPEvent
  | CarPluggedIn | CarRequestedPower | PowerOn | PowerOff | CarRequestedStopPower | CarUnplugged
  | EFtoBCD | BCDtoEF | BCDtoE
  deriving DecidableEq

inductive RawCPState
  | Disabled | A | B | C | D | E | F
  deriving DecidableEq

inductive AcPhases
  | SinglePhase | TwoPhases | ThreePhases
  deriving DecidableEq

inductive Reason
  | DCCableCheck | DCPreCharge | FullPowerCharging | PowerOff
  deriving DecidableEq

/-- `types::board_support_common::Event`. -/
inductive BspEvent
  | A | B | C | D | E | F | PowerOn | PowerOff | Disconnected

inductive Ampacity
  | None | A_13 | A_20 | A_32 | A_63_3ph_70_1ph

def fromBspEvent : BspEvent → RawCPState ⊕ CPEvent
  | .A => .inl .A
  | .B => .inl .B
  | .C => .inl .C
  | .D => .inl .D
  | .E => .inl .E
  | .F => .inl .F
  | .PowerOn => .inr .PowerOn
  | .PowerOff => .inr .PowerOff
  | .Disconnected => .inl .Disabled

/-- A call of the BSP's `allow_power_on`, and two members of the caller at that moment. -/
structure PowerCall where
  value : Bool
  reason : Reason
  pwmRunning : Bool
  powerOnAllowed : Bool
  deriving DecidableEq

/-- What the state machine sends out. -/
inductive Output
  -- calls of the BSP
  | allowPowerOn (call : PowerCall)
  | cpStateX1
  | cpStateE
  | cpStateF
  | pwmOn (dutyCycle : Rat)
  | enable (value : Bool)
  -- signals
  | event (e : CPEvent)
  | lock
  | unlock
  | rawCpStateChanged (cp : RawCPState)
  | pwmDutyCycle (dutyCycle : Rat)
  deriving DecidableEq

/-! ## Timers -/

structure AsyncTimeout where
  running : Bool := false
  startTime : Int := 0
  t : Int := 0

def AsyncTimeout.start (t now : Int) : AsyncTimeout := ⟨true, now, t⟩

def AsyncTimeout.stop (a : AsyncTimeout) : AsyncTimeout := { a with running := false }

/-- A timer stays reached until it is stopped or started again. -/
def AsyncTimeout.reached (a : AsyncTimeout) (now : Int) : Bool :=
  a.running && decide (a.t < now - a.startTime)

def powerOffUnderLoadInC1Timeout : Int := 6000

def unlockInStateFTimeout : Int := 5000

/-- `ev_simplified_mode_evse_limit_pwm`, the duty cycle for 10 A. -/
def evSimplifiedModeEvseLimitPwm : Rat := 10 / (6 / 10) / 100

/-! ## The state -/

/-- What does not change after `setup`. -/
structure Config where
  lockConnectorInStateB : Bool
  useAuthorized : Bool
  keepCableLockedLockDelayMs : Int
  hasVentilation : Bool

/-- The members of `IECStateMachine`. -/
structure State where
  pwmRunning : Bool := false
  lastPwmRunning : Bool := false
  evSimplifiedModeEvseLimit : Bool := false
  evSimplifiedMode : Bool := false
  powerOnAllowed : Bool := false
  lastPowerOnAllowed : Bool := false
  lastPowerOnForwarded : Bool := false
  powerOnReason : Reason := .PowerOff
  ppAmpacity : Nat := 0
  maxPhases : AcPhases := .ThreePhases
  carPluggedIn : Bool := false
  lastCpState : RawCPState := .Disabled
  cpStateFRequested : Bool := false
  signalledRawCpState : RawCPState := .Disabled
  timeoutStateC1 : AsyncTimeout := {}
  timeoutUnlockStateF : AsyncTimeout := {}
  timeoutCaptiveLock : AsyncTimeout := {}
  authorized : Bool
  keepCableLocked : Bool
  captiveUnlockWindow : Bool := false
  captiveLockDelayElapsed : Bool := false
  captiveLatched : Bool := false
  isLocked : Bool := false
  shouldBeLocked : Bool := false
  forceUnlocked : Bool := false
  enabled : Bool := false
  relaisOn : Bool := false
  stateETriggeredThroughHandle : Bool := false
  log : List Output := []   -- newest first

/-- The constructor of `IECStateMachine`. -/
def State.init (cfg : Config) (keepCableLocked : Bool) : State where
  authorized := !cfg.useAuthorized
  keepCableLocked := keepCableLocked

namespace State

def emit (o : Output) (s : State) : State := { s with log := o :: s.log }

/-- `call_allow_power_on_bsp`: the flag is cleared with the permission. -/
def callAllowPowerOnBsp (value : Bool) (s : State) : State :=
  let s := if value then s else { s with powerOnAllowed := false, powerOnReason := .PowerOff }
  let s := { s with lastPowerOnForwarded := value }
  s.emit (.allowPowerOn ⟨value, s.powerOnReason, s.pwmRunning, s.powerOnAllowed⟩)

variable (s : State)

/-- `r_bsp->call_cp_state_X1(); signal_pwm_duty_cycle(100.0);` -/
def commandX1 : State := (s.emit .cpStateX1).emit (.pwmDutyCycle 100)

/-! ## The connector lock -/

def connectorLock : State := { s with shouldBeLocked := true }

def connectorUnlock : State :=
  { s with shouldBeLocked := false, forceUnlocked := false }

/-- `captive_latched`: a plug that sits is held. -/
def latchCaptive : State :=
  onlyIf (s.keepCableLocked ∧ 0 < s.ppAmpacity ∧ s.captiveLockDelayElapsed ∧
    ¬ s.captiveUnlockWindow) (fun s => { s with captiveLatched := true }) s

/-- `should_be_locked_considering_relais_and_force`. -/
def mustBeLocked : Bool :=
  s.relaisOn || (s.shouldBeLocked && !s.forceUnlocked && s.authorized) ||
    (s.keepCableLocked && s.captiveLatched)

def checkConnectorLock : State :=
  let s := s.latchCaptive
  if !s.isLocked && s.mustBeLocked then { s.emit .lock with isLocked := true }
  else if s.isLocked && !s.mustBeLocked then { s.emit .unlock with isLocked := false }
  else s

end State

end EverestCore.Evse.Iec

import EverestCore.Evse.Iec.State

/-!
# The IEC 61851-1 state machine and its threads (`IECStateMachine.cpp`)

`stateMachine` is the mutex protected section of `state_machine`: the fall-through switch over
the control pilot state. It leaves the events to signal and the timers to start or stop to the
thread that called it, which does both after it released the mutex.

The public calls come from several threads: the BSP's events, `Charger`, the timers. Every call
is cut into the sections it runs under `state_machine_mutex` and the ones it runs outside
(`Task`), and the program `iec cfg` interleaves the sections of all calls arbitrarily. What the
calls do before they take the mutex (`authorized`, `enabled` and the other atomic members) belongs
to their first section.

* `Operation`: the public members and the timers' `signal_reached`.
* `start`: the first section of an operation. `resume`: the sections after it.
-/

namespace EverestCore.Evse.Iec

open EverestCore.Lib.Machine State

/-! ## The switch -/

inductive TimerControl
  | doNothing | start | stop
  deriving DecidableEq

/-- The members and the local variables of `state_machine`. -/
structure Frame where
  s : State
  events : List CPEvent := []   -- in the order of `push`
  timerStateC1 : TimerControl := .doNothing
  timerUnlockStateF : TimerControl := .doNothing

namespace Frame

def push (e : CPEvent) (f : Frame) : Frame := { f with events := f.events ++ [e] }

/-- Changes the members only. -/
def member (g : State → State) (f : Frame) : Frame := { f with s := g f.s }

def controlC1 (c : TimerControl) (f : Frame) : Frame := { f with timerStateC1 := c }

variable (f : Frame)

/-- The PWM is reset to X1 unless `Charger` wants state F. -/
def resetToX1 : Frame :=
  onlyIf (f.s.cpStateFRequested = false) (member commandX1) f

/-- `case RawCPState::Disabled`. -/
def caseDisabled : Frame :=
  onlyIf (f.s.lastCpState ≠ .Disabled) (fun f =>
    ((f.member ({ · with pwmRunning := false })).resetToX1.member fun s =>
      (({ s with evSimplifiedMode := false }).callAllowPowerOnBsp false).connectorUnlock).controlC1
        .stop) f

/-- `case RawCPState::A`. -/
def caseA : Frame :=
  let last := f.s.lastCpState
  let f := onlyIf (last ≠ .A) (fun f =>
    ((f.member ({ · with pwmRunning := false })).resetToX1.member fun s =>
      (({ s with evSimplifiedMode := false, carPluggedIn := false }).callAllowPowerOnBsp
        false).connectorUnlock).controlC1 .stop) f
  onlyIf (last ≠ .A ∧ last ≠ .Disabled) (push .CarUnplugged) f

/-- `case RawCPState::B`. -/
def caseB (cfg : Config) (f : Frame) : Frame :=
  let last := f.s.lastCpState
  let f := f.member (if cfg.lockConnectorInStateB then connectorLock
    else connectorUnlock)
  -- Table A.6: sequence 8.1, the EV stops charging
  let f := onlyIf (last = .C ∨ last = .D) (fun f =>
    ((f.push .CarRequestedStopPower).member (callAllowPowerOnBsp false)).controlC1 .stop) f
  -- Table A.6: sequence 1.1, plug-in
  let f := onlyIf (last = .A ∨ last = .Disabled ∨
      (f.s.carPluggedIn = false ∧ (last = .F ∨ last = .E))) (fun f =>
    (f.push .CarPluggedIn).member ({ · with carPluggedIn := true, evSimplifiedMode := false })) f
  onlyIf (last = .E ∨ last = .F) (push .EFtoBCD) f

/-- `case RawCPState::C`: the plug-in or the request for power. -/
def requestPower : Frame :=
  let last := f.s.lastCpState
  if last = .A ∨ last = .Disabled ∨ (f.s.carPluggedIn = false ∧ last = .F) then
    (f.push .CarPluggedIn).member ({ · with carPluggedIn := true, evSimplifiedMode := true })
  else onlyIf (last = .B) (push .CarRequestedPower) f

/-- `case RawCPState::C`: the PWM was switched off or on since the last run. -/
def pwmChange : Frame :=
  let f := onlyIf (f.s.pwmRunning = false ∧ f.s.lastPwmRunning) (controlC1 .start) f
  onlyIf (f.s.pwmRunning ∧ f.s.lastPwmRunning = false) (fun f =>
    onlyIf f.s.powerOnAllowed (member (callAllowPowerOnBsp true)) (f.controlC1 .stop)) f

/-- `case RawCPState::C`: the EV did not return to state B in time. -/
def c1Timeout (now : Int) (f : Frame) : Frame :=
  onlyIf (f.s.timeoutStateC1.reached now) (member (callAllowPowerOnBsp false)) f

/-- `case RawCPState::C`: with PWM, C2. -/
def powerInC2 : Frame :=
  onlyIf f.s.pwmRunning (fun f =>
    let f := onlyIf (f.s.powerOnAllowed ∧ (f.s.lastPowerOnAllowed = false ∨ f.s.lastCpState = .B))
      (member (callAllowPowerOnBsp true)) f
    onlyIf (f.s.lastPwmRunning = false ∧ f.s.evSimplifiedMode) (push .CarRequestedPower) f) f

/-- `case RawCPState::C`. -/
def caseC (now : Int) (f : Frame) : Frame :=
  ((((f.member connectorLock).requestPower).pwmChange).c1Timeout now).powerInC2

/-- `case RawCPState::D`: handled as state C where ventilation is supported. -/
def caseD (cfg : Config) (now : Int) (f : Frame) : Frame :=
  let f := f.member connectorLock
  if cfg.hasVentilation then f.caseC now
  else (f.member (callAllowPowerOnBsp false)).controlC1 .stop

/-- `case RawCPState::E`. -/
def caseE : Frame :=
  let last := f.s.lastCpState
  let byEvse := f.s.stateETriggeredThroughHandle
  let f := f.member ({ · with stateETriggeredThroughHandle := false })
  let f := onlyIf (byEvse = false) (member connectorUnlock) f
  onlyIf (last ≠ .E) (fun f =>
    let f := (f.controlC1 .stop).member fun s =>
      { s.callAllowPowerOnBsp false with pwmRunning := false }
    let f := onlyIf (byEvse = false) resetToX1 f
    onlyIf (last = .B ∨ last = .C ∨ last = .D) (fun f =>
      onlyIf (byEvse = false) (push .BCDtoE) (f.push .BCDtoEF)) f) f

/-- `case RawCPState::F`. -/
def caseF (now : Int) (f : Frame) : Frame :=
  let last := f.s.lastCpState
  let f := (f.controlC1 .stop).member (callAllowPowerOnBsp false)
  let f := onlyIf (last ≠ .F) (fun f =>
    { f.member ({ · with pwmRunning := false }) with timerUnlockStateF := .start }) f
  let f := onlyIf (last = .B ∨ last = .C ∨ last = .D) (push .BCDtoEF) f
  onlyIf (f.s.timeoutUnlockStateF.reached now) (member connectorUnlock) f

/-- `switch (cp_state)`. -/
def switch (cfg : Config) (now : Int) (cpState : RawCPState) (f : Frame) : Frame :=
  match cpState with
  | .Disabled => f.caseDisabled
  | .A => f.caseA
  | .B => f.caseB cfg
  | .C => f.caseC now
  | .D => f.caseD cfg now
  | .E => f.caseE
  | .F => f.caseF now

end Frame

/-- The end of the mutex protected section. -/
def State.remember (cpState : RawCPState) (s : State) : State :=
  { s with
    lastCpState := cpState
    lastPwmRunning := s.pwmRunning
    lastPowerOnAllowed := s.powerOnAllowed }

variable (cfg : Config)

/-- `state_machine`, its mutex protected section. -/
def stateMachine (cpStateOpt : Option RawCPState) (now : Int) (s : State) : Frame :=
  let cpState := cpStateOpt.getD s.lastCpState
  let timerF := if cpState ≠ .F ∧ s.lastCpState = .F then TimerControl.stop else .doNothing
  let f := Frame.switch cfg now cpState { s := s, timerUnlockStateF := timerF }
  f.member fun s => s.checkConnectorLock.remember cpState

/-! ## The threads -/

/-- The control pilot output that `Charger` asks for. -/
inductive CpCommand
  | pwm (value : Rat)
  | X1
  | E
  | F
  deriving DecidableEq

/-- What a call has still to do after a section. -/
inductive Task
  -- the calls of the BSP after the flags are set, then `feed_state_machine(nullopt)`
  | command (c : CpCommand)
  -- `feed_state_machine`, about to take the mutex
  | feed (cpStateOpt : Option RawCPState)
  -- the end of `state_machine`
  | controlTimers (c1 f : TimerControl) (cpStateOpt : Option RawCPState) (events : List CPEvent)
  -- the end of `feed_state_machine`
  | publish (cpStateOpt : Option RawCPState) (events : List CPEvent)
  -- `signal_event` for a relais event
  | signal (e : CPEvent)
  -- the end of `set_pp_ampacity`
  | debounceCaptiveLock (c : TimerControl)
  -- the end of `set_keep_cable_locked`
  | stopCaptiveLock
  deriving DecidableEq

/-- The public members of `IECStateMachine` and the expiry of its timers. -/
inductive Operation
  | bspEvent (e : BspEvent)
  | allowPowerOn (value : Bool) (reason : Reason)
  | setPpAmpacity (ampacity : Ampacity)
  | setPwm (value : Rat)
  | setCpStateX1
  | setCpStateE
  | setCpStateF
  | setMaxPhases (phases : AcPhases)
  | enable (en : Bool)
  | connectorForceUnlock
  | setAuthorized (a : Bool)
  | setKeepCableLocked (enabled : Bool)
  | setEvSimplifiedModeEvseLimit (l : Bool)
  | timeoutStateC1Reached
  | timeoutUnlockStateFReached
  | timeoutCaptiveLockReached

def AsyncTimeout.control (c : TimerControl) (duration now : Int) (a : AsyncTimeout) :
    AsyncTimeout :=
  match c with
  | .doNothing => a
  | .start => .start duration now
  | .stop => a.stop

namespace State

/-- The flags that `set_pwm` and `set_cp_state_*` set under the mutex. -/
def setCpFlags (c : CpCommand) (s : State) : State :=
  match c with
  | .pwm _ => { s with pwmRunning := true, cpStateFRequested := false }
  | .X1 => { s with pwmRunning := false, cpStateFRequested := false }
  | .F => { s with pwmRunning := false, cpStateFRequested := true }
  | .E => { s with pwmRunning := false, stateETriggeredThroughHandle := true }

/-- The duty cycle `set_pwm` puts out. -/
def limitedPwm (value : Rat) (s : State) : Rat :=
  if s.evSimplifiedModeEvseLimit ∧ s.evSimplifiedMode ∧ evSimplifiedModeEvseLimitPwm < value then
    evSimplifiedModeEvseLimitPwm
  else value

/-- The calls of the BSP that follow. -/
def commandCp (c : CpCommand) (s : State) : State :=
  match c with
  | .pwm value =>
    (s.emit (.pwmOn (s.limitedPwm value * 100))).emit (.pwmDutyCycle (s.limitedPwm value * 100))
  | .X1 => s.commandX1
  | .F => (s.emit .cpStateF).emit (.pwmDutyCycle 100)
  | .E => (s.emit .cpStateE).emit (.pwmDutyCycle 100)

/-- `allow_power_on`, its mutex protected section. -/
def allowPowerOn (value : Bool) (reason : Reason) (s : State) : State :=
  let s := { s with powerOnAllowed := value, powerOnReason := reason }
  if value then s else s.callAllowPowerOnBsp false

/-- The relais confirmed by the BSP. -/
def relaisEvent (e : CPEvent) (s : State) : State :=
  let s := match e with
    | .PowerOn => { s with relaisOn := true }
    | .PowerOff => { s with relaisOn := false }
    | _ => s
  s.checkConnectorLock

/-- `switch (pp.ampacity)`. -/
def ampacityOf (ampacity : Ampacity) (s : State) : Nat :=
  match ampacity with
  | .A_13 => 13
  | .A_20 => 20
  | .A_32 => 32
  | .A_63_3ph_70_1ph => if s.maxPhases = .SinglePhase then 70 else 63
  | .None => 0

/-- `set_pp_ampacity`, its mutex protected section, and what to do with the debounce timer. -/
def setPpAmpacity (cfg : Config) (ampacity : Ampacity) (s : State) : State × TimerControl :=
  let plugWasPresent := 0 < s.ppAmpacity
  let s := { s with ppAmpacity := s.ampacityOf ampacity }
  if s.keepCableLocked then
    if s.ppAmpacity = 0 then
      (({ s with captiveUnlockWindow := false, captiveLockDelayElapsed := false
        }).checkConnectorLock, .stop)
    else if ¬ plugWasPresent ∧ s.captiveLockDelayElapsed = false then
      if 0 < cfg.keepCableLockedLockDelayMs then (s.checkConnectorLock, .start)
      else (({ s with captiveLockDelayElapsed := true }).checkConnectorLock, .doNothing)
    else (s.checkConnectorLock, .doNothing)
  else (s, .doNothing)

def connectorForceUnlock (s : State) : State :=
  let cp := s.lastCpState
  let s := onlyIf s.keepCableLocked (fun s =>
    { onlyIf (0 < s.ppAmpacity) ({ · with captiveUnlockWindow := true }) s with
      captiveLatched := false }) s
  let s := onlyIf (s.relaisOn = false) (fun s => { s.emit .unlock with isLocked := false }) s
  onlyIf (cp = .B ∨ cp = .C) (fun s => ({ s with forceUnlocked := true }).checkConnectorLock) s

/-- `set_keep_cable_locked`, its mutex protected section. -/
def setKeepCableLocked (enabled : Bool) (s : State) : State :=
  ({ s with
    keepCableLocked := enabled
    captiveUnlockWindow := false
    captiveLatched := false
    captiveLockDelayElapsed := decide (0 < s.ppAmpacity) }).checkConnectorLock

/-- The debounce of a captive cable elapsed. -/
def captiveLockDebounced (s : State) : State :=
  (onlyIf (0 < s.ppAmpacity) ({ · with captiveLockDelayElapsed := true }) s).checkConnectorLock

/-- The raw state and the events of one run of the state machine are signalled. -/
def publish (cpStateOpt : Option RawCPState) (events : List CPEvent) (s : State) : State :=
  let s := match cpStateOpt with
    | some cp => onlyIf (cp ≠ s.signalledRawCpState)
      (fun s => { s.emit (.rawCpStateChanged cp) with signalledRawCpState := cp }) s
    | none => s
  events.foldl (fun s e => s.emit (.event e)) s

end State

/-- The flags of `set_pwm` and `set_cp_state_*`, and the rest of the call. -/
def setCp (c : CpCommand) (s : State) : State × List Task := (s.setCpFlags c, [.command c])

def processBspEvent (e : BspEvent) (s : State) : State × List Task :=
  match fromBspEvent e with
  | .inl raw => (s, [.feed (some raw)])
  | .inr event => (s.relaisEvent event, [.signal event])

/-- The first section of a call. -/
def start (op : Operation) (now : Int) (s : State) : State × List Task :=
  match op with
  | .bspEvent e => if s.enabled then processBspEvent e s else (s, [])
  | .allowPowerOn value reason => (s.allowPowerOn value reason, [.feed none])
  | .setPpAmpacity ampacity =>
    let (s, c) := s.setPpAmpacity cfg ampacity
    (s, [.debounceCaptiveLock c])
  | .setPwm value =>
    if 1 ≤ value then setCp .X1 s else if value ≤ 0 then setCp .F s else setCp (.pwm value) s
  | .setCpStateX1 => setCp .X1 s
  | .setCpStateE => setCp .E s
  | .setCpStateF => setCp .F s
  | .setMaxPhases phases => ({ s with maxPhases := phases }, [])
  | .enable en => (({ s with enabled := en }).emit (.enable en), [])
  | .connectorForceUnlock => (s.connectorForceUnlock, [])
  | .setAuthorized a =>
    if cfg.useAuthorized then ({ s with authorized := a }, [.feed none]) else (s, [])
  | .setKeepCableLocked enabled =>
    if s.keepCableLocked = enabled then (s, [])
    else (s.setKeepCableLocked enabled, [.stopCaptiveLock])
  | .setEvSimplifiedModeEvseLimit l => ({ s with evSimplifiedModeEvseLimit := l }, [])
  | .timeoutStateC1Reached => (s, if s.timeoutStateC1.reached now then [.feed none] else [])
  | .timeoutUnlockStateFReached =>
    (s, if s.timeoutUnlockStateF.reached now then [.feed none] else [])
  | .timeoutCaptiveLockReached =>
    (onlyIf (s.timeoutCaptiveLock.reached now) captiveLockDebounced s, [])

/-- The next section of a call. -/
def resume (t : Task) (now : Int) (s : State) : State × List Task :=
  match t with
  | .command c => (s.commandCp c, [.feed none])
  | .feed cp =>
    let f := stateMachine cfg cp now s
    (f.s, [.controlTimers f.timerStateC1 f.timerUnlockStateF cp f.events])
  | .controlTimers c1 f cp events =>
    ({ s with
      timeoutStateC1 := s.timeoutStateC1.control c1 powerOffUnderLoadInC1Timeout now
      timeoutUnlockStateF := s.timeoutUnlockStateF.control f unlockInStateFTimeout now },
      [.publish cp events])
  | .publish cp events => (s.publish cp events, [])
  | .signal e => (s.emit (.event e), [])
  | .debounceCaptiveLock c =>
    -- `keep_cable_locked` is read again, without the mutex
    (onlyIf s.keepCableLocked (fun s => { s with
      timeoutCaptiveLock := s.timeoutCaptiveLock.control c cfg.keepCableLockedLockDelayMs now }) s,
      [])
  | .stopCaptiveLock => ({ s with timeoutCaptiveLock := s.timeoutCaptiveLock.stop }, [])

/-- All calls of an `IECStateMachine`, by any number of threads. -/
def iec : Program State Operation Int Task where
  start := start cfg
  resume := resume cfg

/-- A state machine after `setup`, with no call under way. -/
def initial (keepCableLocked : Bool) : Threads State Task :=
  ⟨init cfg keepCableLocked, []⟩

end EverestCore.Evse.Iec

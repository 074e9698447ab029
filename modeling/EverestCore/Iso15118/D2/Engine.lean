import EverestCore.Iso15118.D2.States
import EverestCore.Lib.Machine

/-!
# The ISO 15118-2 SECC engine (`d2_secc_engine.cpp`, `d2/states.cpp`)

The engine feeds its state machine with requests, control events and timeouts. Most control events
change the context and never reach a state.

* `Engine.feed`: a transition leaves the old state, which clears the CP state timer where the state
  may have parked a request.
* `Engine.onPacket`, `Engine.onControlEvent`, `Engine.onTimeout`: the engine's interface.
* `Engine.step`: one input of the engine. A run is `Lib.Machine.run`.
-/

namespace EverestCore.Iso15118.D2

/-- `D2SeccEngine`. -/
structure Engine where
  ctx : Context
  state : State
  stopChargingGuardArmed : Bool

namespace Engine

/-- The constructor, for a configuration from `make_d2_config`. -/
def init (config : SessionConfig) (pauseCtx : Option PauseContext) : Engine where
  ctx := { config := config, pauseCtx := pauseCtx }
  state := .sessionSetup
  stopChargingGuardArmed := false

/-- `leave`: no parked request's timer survives its state. -/
def leave (s : State) (c : Context) : Context :=
  match s with
  | .cableCheck _ _ | .postCharge _ _ => c.stopTimeout .CPSTATE
  | _ => c

def feed (e : Engine) (o : Outcome) : Engine :=
  match o.2 with
  | .stay s => { e with ctx := o.1, state := s }
  | .goto s => { e with ctx := leave e.state o.1, state := s }

section Interface

variable (crypto : Crypto) (env : Env)

/-- `on_packet`, with `StateBase::feed`. -/
def onPacket (request : Request) (e : Engine) : Engine :=
  if unknownSession request e.ctx then
    { e with
      ctx := respondAndTerminate e.state.id request.body .FAILED_UnknownSession e.ctx }
  else e.feed (onRequest crypto env e.state request e.ctx)

/-- `on_control_event`, `StopCharging`: the guard is armed once. -/
def onStopCharging (requested : Bool) (e : Engine) : Engine :=
  let c := if requested ∧ ¬ e.stopChargingGuardArmed then
      e.ctx.startTimeout env.now .STOP_CHARGING timeoutStopChargingGuard
    else if ¬ requested ∧ e.stopChargingGuardArmed then e.ctx.stopTimeout .STOP_CHARGING
    else e.ctx
  { e with
    ctx := { c with
      evse := { c.evse with chargerStopRequested := requested }
      chargerStopIgnored := if requested then c.chargerStopIgnored else false }
    stopChargingGuardArmed := requested }

/-- `on_control_event`, `AcTransferLimits`: the capability current of one phase. -/
def onAcTransferLimits (power : Rat) (c : Context) : Context :=
  let phases : Rat :=
    if c.config.supportedEnergyTransferModes.contains .AC_three_phase_core then 3 else 1
  if 0 < power ∧ 0 < c.config.acNominalVoltage then
    { c with config := { c.config with
      acCapabilityMaxCurrent := power / (c.config.acNominalVoltage * phases) } }
  else c

def applyDcCapabilities (limits : DcTransferLimits) (c : Context) : Context :=
  { c with config := { c.config with
    dcCapabilityMaxPower := max 0 limits.powerMax
    dcMinCurrent := max 0 limits.currentMin
    dcMinVoltage := max 0 limits.voltageMin } }

def applyPhysicalValues (acNominalVoltage : Option Rat) (c : Context) : Context :=
  match acNominalVoltage with
  | some v => if 0 < v then { c with config := { c.config with acNominalVoltage := v } } else c
  | none => c

/-- `on_control_event`, `EvseError`. -/
def onEvseError (code : EvseErrorCode) (c : Context) : Context :=
  let emergency := code = .EmergencyShutdown ∧ ¬ c.evse.emergencyShutdown
  let c := { c with evse := { c.evse with activeError := code } }
  if emergency then
    ({ c with evse := { c.evse with emergencyShutdown := true } }).startTimeout env.now
      .EMERGENCY_SHUTDOWN timeoutEmergencyShutdownGuard
  else c

/-- `on_control_event`, `CpStateChanged`: unplugging ends the session. -/
def onCpStateChanged (cp : CpState) (c : Context) : Context :=
  let c := { c with evse := { c.evse with currentCpState := cp } }
  if cp = .A then { c.stopSession with sessionEndedWithError := true } else c

/-- The events that only the state machine handles. -/
def feedControl (event : ControlEvent) (e : Engine) : Engine :=
  e.feed (onControlMessage crypto env e.state event e.ctx)

def onControlEvent (event : ControlEvent) (e : Engine) : Engine :=
  let e := { e with ctx := e.ctx.record (.received event) }
  match event with
  | .stopCharging stop => e.onStopCharging env stop
  | .updateAcMaxCurrent | .dcTransferLimits | .updateIsolationStatus => e
  | .updatePowersupplyLimits limits => { e with ctx := applyDcCapabilities limits e.ctx }
  | .acTransferLimits power => { e with ctx := onAcTransferLimits power e.ctx }
  | .physicalValues voltage => { e with ctx := applyPhysicalValues voltage e.ctx }
  | .noEnergyPause mode =>
    { e with ctx := { e.ctx with config := { e.ctx.config with noEnergyPause := mode } } }
  | .meterInfo info =>
    { e with ctx := { e.ctx with evse := { e.ctx.evse with latestMeterInfo := some info } } }
  | .pauseCharging true => e
  | .evseError code => { e with ctx := onEvseError env code e.ctx }
  | .cpStateChanged cp =>
    ({ e with ctx := onCpStateChanged cp e.ctx }).feedControl crypto env event
  | event => e.feedControl crypto env event

def onTimeout (timeout : TimeoutType) (e : Engine) : Engine :=
  match timeout with
  | .SEQUENCE => { e with ctx := e.ctx.stopSession }
  | .EMERGENCY_SHUTDOWN =>
    if e.ctx.sessionStopped then e
    else { e with ctx := { e.ctx.stopSession with sessionEndedWithError := true } }
  | .STOP_CHARGING =>
    { e with
      ctx := if e.ctx.sessionStopped ∨ e.ctx.sessionPaused then e.ctx
        else { e.ctx with chargerStopIgnored := true }
      stopChargingGuardArmed := false }
  | timeout => e.feed (onTimeoutEvent e.state timeout e.ctx)

end Interface

def isFinished (e : Engine) : Bool :=
  (e.ctx.sessionStopped || e.ctx.sessionPaused) && !e.ctx.responseAvailable

end Engine

/-! ## Runs -/

/-- An input of the engine. -/
inductive Input
  | packet (request : Request)
  | control (event : ControlEvent)
  | timeout (type : TimeoutType)
  -- `take_outgoing`
  | takeOutgoing

/-- One input, with the readings of the environment while it is handled. -/
def Engine.step (crypto : Crypto) (e : Engine) (i : Env × Input) : Engine :=
  match i.2 with
  | .packet request => e.onPacket crypto i.1 request
  | .control event => e.onControlEvent crypto i.1 event
  | .timeout type => e.onTimeout type
  | .takeOutgoing => { e with ctx := { e.ctx with responseAvailable := false } }

end EverestCore.Iso15118.D2

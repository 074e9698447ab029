import EverestCore.Lib.Machine
import Mathlib.Algebra.Group.Nat.Defs
import Mathlib.Algebra.Ring.Int.Defs

/-!
# The limitation of power consumption

`LpcUseCaseHandler` is the state machine of the EEBUS use case LPC. It follows the heartbeats of an
energy guard, keeps the last consumption limit that was received, and passes the limit that applies
in its state to the energy manager.

Times are in nanoseconds. A call gets the readings of the steady clock in the order in which it
takes them, the readings of the wall clock for the schedules it makes, and the answers of the gRPC
service. The sum of a time and the duration of a limit, which can be any 64-bit number, wraps
around.

* `translateToExternalLimits`: the schedule of a limit.
* `Handler.setState`, `Handler.runStateMachine`, `Handler.handleInitState`, ...: the state machine.
* `Handler.applyLimitForCurrentState`: what is passed on.
* `Handler.handleEvent`, `Handler.processReceivedLimit`: what comes in.
* `Handler.step`: any call.

The logging is left out; `Effect` keeps what is told the energy manager and the gRPC service.
-/

namespace EverestCore.Eebus

variable {W : Type}

/-! ## Limits -/

/-- `LoadLimit`, with powers in `W`. -/
structure LoadLimit (W : Type) where
  durationNanoseconds : Int := 0
  deleteDuration : Bool := false
  isActive : Bool := false
  value : W

structure NumberWithSource (W : Type) where
  value : W
  source : String

structure LimitsReq (W : Type) where
  totalPowerW : Option (NumberWithSource W) := none

structure ScheduleReqEntry (W : Type) where
  timestamp : Int
  limitsToLeaves : LimitsReq W
  limitsToRoot : LimitsReq W

/-- `ExternalLimits`: the schedule for the import. -/
structure ExternalLimits (W : Type) where
  scheduleImport : List (ScheduleReqEntry W)

def createActiveReq (timestamp : Int) (totalPowerW : W) : ScheduleReqEntry W :=
  let limitsReq := { totalPowerW := some { value := totalPowerW, source := "EEBUS LPC" } }
  { timestamp, limitsToLeaves := limitsReq, limitsToRoot := limitsReq }

def createInactiveReq (timestamp : Int) : ScheduleReqEntry W :=
  { timestamp, limitsToLeaves := {}, limitsToRoot := {} }

def translateToExternalLimits (loadLimit : LoadLimit W) (now : Int) : ExternalLimits W where
  scheduleImport :=
    if loadLimit.isActive then
      createActiveReq now loadLimit.value ::
        if 0 < loadLimit.durationNanoseconds then
          [createInactiveReq (now + loadLimit.durationNanoseconds)]
        else []
    else [createInactiveReq now]

/-! ## The handler -/

def second : Int := 1000000000

def HEARTBEAT_TIMEOUT : Int := 120 * second
def LPC_INIT_TIMEOUT : Int := 120 * second
def LPC_RECOVERY_TIMEOUT : Int := 120 * second
def LPC_DEFAULT_FAILSAFE_DURATION : Int := 2 * 3600 * second
def LPC_VENDOR_CONFIG_MIN : Int := 2 * 3600 * second
def LPC_CS_MAXIMUM : Int := 24 * 3600 * second

/-- `TP::min()`. -/
def timePointMin : Int := -2 ^ 63

inductive State
  | init | unlimitedControlled | limited | failsafe | unlimitedAutonomous
  deriving DecidableEq

inductive Effect (W : Type)
  | updateLimits (limits : ExternalLimits W)
  | startHeartbeat
  | configure (nominalMax failsafeLimit : W) (failsafeDuration : Int)
  | approveOrDenyConsumptionLimit (msgCounter : Nat) (approve : Bool) (reason : String)

structure Config (W : Type) where
  maxNominalPower : W
  allCallbacksValid : Bool
  stub : Bool

structure Handler (W : Type) where
  state : State := .init
  stateChanged : Bool := false
  limitValueChanged : Bool := false
  currentLimit : Option (LoadLimit W) := none
  activeEmsSki : Option String := none
  lastHeartbeatTimestamp : Int := timePointMin
  initTimestamp : Int := timePointMin
  failsafeEntry : Int := timePointMin
  failsafeFirstHeartbeat : Int := timePointMin
  lastLimitReceivedTimestamp : Int := timePointMin
  failsafeDurationTimeout : Int := LPC_DEFAULT_FAILSAFE_DURATION
  failsafeControlLimit : W
  log : List (Effect W) := []

/-- What a call reads: the clocks, and the answers of the service. -/
structure Readings (W : Type) where
  clock : Nat → Int
  wall : Nat → Int
  consumptionLimit : Option (LoadLimit W) := none
  failsafeDurationMinimum : Option Int := none
  failsafeConsumptionActivePowerLimit : Option W := none
  pendingConsumptionLimit : Option (List (Nat × LoadLimit W)) := none

inductive Event
  | dataUpdateHeartbeat
  | dataUpdateLimit
  | dataUpdateFailsafeDurationMinimum
  | dataUpdateFailsafeConsumptionActivePowerLimit
  | writeApprovalRequired
  | useCaseSupportUpdate
  | other (name : String)

def isDataEvent : Event → Bool
  | .dataUpdateHeartbeat | .dataUpdateLimit | .dataUpdateFailsafeDurationMinimum
  | .dataUpdateFailsafeConsumptionActivePowerLimit | .writeApprovalRequired => true
  | _ => false

def failsafeDurationIsValid (duration : Int) : Bool :=
  LPC_VENDOR_CONFIG_MIN ≤ duration && duration ≤ LPC_CS_MAXIMUM

section Valid

variable [Zero W] [LE W] [DecidableLE W]

def limitValueIsValid (limit : LoadLimit W) : Bool := (0 : W) ≤ limit.value

def failsafeLimitIsValid (watts : W) : Bool := (0 : W) ≤ watts

end Valid

namespace Handler

/-! ### The state machine -/

variable (s : Handler W)

def limitExpired (now : Int) : Bool :=
  s.currentLimit.any fun limit => !limit.deleteDuration && limit.durationNanoseconds != 0 &&
    (s.lastLimitReceivedTimestamp + limit.durationNanoseconds).bmod (2 ^ 64) ≤ now

def limitIsActive : Bool := s.currentLimit.any (·.isActive)

def limitIsDeactivated : Bool := s.currentLimit.any fun limit => !limit.isActive

def heartbeatHasTimeout (now : Int) : Bool :=
  HEARTBEAT_TIMEOUT < now - s.lastHeartbeatTimestamp

/-- `set_state`; `entry` is what the clock reads there. -/
def setState (newState : State) (entry : Int) (s : Handler W) : Handler W :=
  if s.state = newState then s
  else
    let s := { s with state := newState, stateChanged := true }
    let s :=
      if newState = .failsafe then
        { s with failsafeEntry := entry, failsafeFirstHeartbeat := timePointMin }
      else s
    if newState = .failsafe ∨ newState = .unlimitedAutonomous then
      { s with
        currentLimit := none
        lastLimitReceivedTimestamp := timePointMin
        activeEmsSki := none }
    else s

def handleInitState (now entry : Int) (limitIsActive limitIsDeactivated : Bool) (s : Handler W) :
    Handler W :=
  if LPC_INIT_TIMEOUT < now - s.initTimestamp then s.setState .unlimitedAutonomous entry
  else if limitIsActive then s.setState .limited entry
  else if limitIsDeactivated then s.setState .unlimitedControlled entry
  else s

def handleLimitedState (entry : Int) (heartbeatHasTimeout limitIsDeactivated limitExpired : Bool)
    (s : Handler W) : Handler W :=
  if heartbeatHasTimeout then s.setState .failsafe entry
  else if limitIsDeactivated || limitExpired then s.setState .unlimitedControlled entry
  else s

def handleUnlimitedControlledState (entry : Int) (heartbeatHasTimeout limitIsActive : Bool)
    (s : Handler W) : Handler W :=
  if heartbeatHasTimeout then s.setState .failsafe entry
  else if limitIsActive then s.setState .limited entry
  else s

def handleUnlimitedAutonomousState (entry : Int)
    (heartbeatHasTimeout limitIsActive limitIsDeactivated : Bool) (s : Handler W) : Handler W :=
  if heartbeatHasTimeout then s
  else if limitIsDeactivated then s.setState .unlimitedControlled entry
  else if limitIsActive then s.setState .limited entry
  else s

def handleFailsafeState (now entry : Int) (heartbeatHasTimeout limitIsActive : Bool)
    (s : Handler W) : Handler W :=
  if s.failsafeEntry + s.failsafeDurationTimeout ≤ now then s.setState .unlimitedAutonomous entry
  else if s.failsafeFirstHeartbeat ≠ timePointMin ∧
      s.failsafeFirstHeartbeat + LPC_RECOVERY_TIMEOUT ≤ now then
    s.setState .unlimitedAutonomous entry
  else if heartbeatHasTimeout then s
  -- a limit that arrived after the failsafe state was entered
  else if s.failsafeEntry ≤ s.lastLimitReceivedTimestamp then
    s.setState (if limitIsActive then .limited else .unlimitedControlled) entry
  else if s.failsafeFirstHeartbeat = timePointMin then
    { s with failsafeFirstHeartbeat := s.lastHeartbeatTimestamp }
  else s

/-- An active limit of the failsafe value. -/
def failsafeLimit : LoadLimit W :=
  { isActive := true, value := s.failsafeControlLimit }

section Apply

variable [Zero W]

/-- No limit. -/
def unlimitedLimit : LoadLimit W := { isActive := false, value := 0 }

/-- The limit that applies in the state. -/
def limitForCurrentState (s : Handler W) : LoadLimit W :=
  match s.state with
  | .init | .failsafe => s.failsafeLimit
  | .limited => s.currentLimit.getD s.failsafeLimit
  | .unlimitedControlled | .unlimitedAutonomous => unlimitedLimit

variable (cfg : Config W)

def applyLimitForCurrentState (wall : Int) (s : Handler W) : Handler W :=
  if !cfg.allCallbacksValid then s
  else
    { s with
      log := s.log ++ [.updateLimits (translateToExternalLimits s.limitForCurrentState wall)] }

/-- An expired limit is dropped. -/
def dropExpired (now : Int) (s : Handler W) : Handler W :=
  if s.limitExpired now then { s with currentLimit := none } else s

/-- The transition of the state machine; what it tells of the limit is from before it is dropped. -/
def transition (now entry : Int) (s : Handler W) : Handler W :=
  match s.state with
  | .init =>
    (s.dropExpired now).handleInitState now entry s.limitIsActive s.limitIsDeactivated
  | .limited =>
    (s.dropExpired now).handleLimitedState entry (s.heartbeatHasTimeout now) s.limitIsDeactivated
      (s.limitExpired now)
  | .unlimitedControlled =>
    (s.dropExpired now).handleUnlimitedControlledState entry (s.heartbeatHasTimeout now)
      s.limitIsActive
  | .unlimitedAutonomous =>
    (s.dropExpired now).handleUnlimitedAutonomousState entry (s.heartbeatHasTimeout now)
      s.limitIsActive s.limitIsDeactivated
  | .failsafe =>
    (s.dropExpired now).handleFailsafeState now entry (s.heartbeatHasTimeout now) s.limitIsActive

variable (r : Readings W)

/-- `run_state_machine`; the clock is read at `k`. -/
def runStateMachine (k : Nat) (s : Handler W) : Handler W :=
  if s.initTimestamp = timePointMin then s
  else
    let s := s.transition (r.clock k) (r.clock (k + 1))
    if s.stateChanged || s.limitValueChanged then
      { s with stateChanged := false, limitValueChanged := false }.applyLimitForCurrentState cfg
        (r.wall k)
    else s

/-! ### Calls -/

def startHeartbeat (s : Handler W) : Handler W :=
  if !cfg.stub then s else { s with log := s.log ++ [.startHeartbeat] }

def configureUseCase (s : Handler W) : Handler W :=
  if !cfg.stub then s
  else
    { s with
      log := s.log ++ [.configure cfg.maxNominalPower s.failsafeControlLimit
        LPC_DEFAULT_FAILSAFE_DURATION] }

def start (s : Handler W) : Handler W :=
  ({ s with initTimestamp := r.clock 0, lastHeartbeatTimestamp := r.clock 1 }.startHeartbeat
    cfg).applyLimitForCurrentState cfg (r.wall 0)

/-- `process_received_limit` before the state machine runs. -/
def receive (limit : LoadLimit W) (now : Int) (s : Handler W) : Handler W :=
  { s with
    currentLimit := some limit
    lastLimitReceivedTimestamp := now
    limitValueChanged := true }

def processReceivedLimit (limit : LoadLimit W) (s : Handler W) : Handler W :=
  (s.receive limit (r.clock 0)).runStateMachine cfg r 1

def updateLimitFromEvent (s : Handler W) : Handler W :=
  match cfg.stub, r.consumptionLimit with
  | true, some limit => s.processReceivedLimit cfg r limit
  | _, _ => s

def handleDataUpdateFailsafeDurationMinimum (s : Handler W) : Handler W :=
  match r.failsafeDurationMinimum with
  | none => s
  | some duration =>
    if failsafeDurationIsValid duration then { s with failsafeDurationTimeout := duration } else s

variable [LE W] [DecidableLE W]

def handleDataUpdateFailsafeConsumptionActivePowerLimit (s : Handler W) : Handler W :=
  match r.failsafeConsumptionActivePowerLimit with
  | none => s
  | some limit => if failsafeLimitIsValid limit then { s with failsafeControlLimit := limit } else s

/-- The answer to one pending write. -/
def approval (entry : Nat × LoadLimit W) : Effect W :=
  if limitValueIsValid entry.2 then .approveOrDenyConsumptionLimit entry.1 true ""
  else
    .approveOrDenyConsumptionLimit entry.1 false
      "LPC-001: Active Power Consumption Limit must be >= 0 W"

def approvePendingWrites (s : Handler W) : Handler W :=
  match cfg.stub, r.pendingConsumptionLimit with
  | true, some loadLimits => { s with log := s.log ++ loadLimits.map approval }
  | _, _ => s

/-- The handler of an event. -/
def dispatch (event : Event) (s : Handler W) : Handler W :=
  match event with
  | .dataUpdateHeartbeat => { s with lastHeartbeatTimestamp := r.clock 0 }
  | .dataUpdateLimit => s.updateLimitFromEvent cfg r
  | .dataUpdateFailsafeDurationMinimum => s.handleDataUpdateFailsafeDurationMinimum r
  | .dataUpdateFailsafeConsumptionActivePowerLimit =>
    s.handleDataUpdateFailsafeConsumptionActivePowerLimit r
  | .writeApprovalRequired => s.approvePendingWrites cfg r
  | .useCaseSupportUpdate => (s.configureUseCase cfg).startHeartbeat cfg
  | .other _ => s

/-- The first data event connects its energy guard. -/
def connect (ski : String) (event : Event) (s : Handler W) : Handler W :=
  if s.activeEmsSki.isNone && isDataEvent event then { s with activeEmsSki := some ski } else s

/-- Another energy guard is connected. -/
def ignores (ski : String) (s : Handler W) : Bool := s.activeEmsSki.any (ski ≠ ·)

def handleEvent (ski : String) (event : Event) (s : Handler W) : Handler W :=
  let s := s.connect ski event
  if s.ignores ski then s else (s.dispatch cfg r event).runStateMachine cfg r 3

end Apply

end Handler

/-- The calls. -/
inductive Call (W : Type)
  | handleEvent (ski : String) (event : Event)
  | processReceivedLimit (limit : LoadLimit W)
  | runStateMachine

/-- When the state machine was run last in a call. -/
def Call.time (r : Readings W) : Call W → Int
  | .handleEvent _ _ => r.clock 3
  | .processReceivedLimit _ | .runStateMachine => r.clock 1

def Handler.step [Zero W] [LE W] [DecidableLE W] (cfg : Config W) (s : Handler W)
    (call : Call W × Readings W) : Handler W :=
  match call.1 with
  | .handleEvent ski event => s.handleEvent cfg call.2 ski event
  | .processReceivedLimit limit => s.processReceivedLimit cfg call.2 limit
  | .runStateMachine => s.runStateMachine cfg call.2 1

end EverestCore.Eebus

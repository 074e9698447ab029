import EverestCore.Lib.Statechart

/-!
# The MCS data link

`link_state_machine` follows the data link of the Megawatt Charging System: a composite state for
the session, with the lifecycle of the link inside. It does nothing itself; it emits effects for its
owner: what to publish and which timers to start and stop.

The tables are those of the source, row by row. An event is offered to the inner machine first; the
rows of the outer machine leave the active substate and enter `unmatched`, or `retryWait` directly.

* `MachineData` and its functions: the data and the effects.
* `onEntry`, `onExit`: the actions of the substates.
* `Session.transitionTable`, `Link.transitionTable`, `link`: the machines.
* `LinkStateMachine`: the state after the start and a run of events.

Beside the effects the log records where the retry budget is refilled.
-/

namespace EverestCore.McsDataLink

open Lib.Statechart

inductive LinkState
  | unmatched | matching | matched
  deriving DecidableEq

inductive InternalState
  | unmatched | matching | matched | paused | retryWait
  deriving DecidableEq

inductive TimerId
  | linkDetect | retryWait | syncRepetition
  deriving DecidableEq

inductive Effect
  | publishState (state : LinkState)
  | publishDlinkReady (ready : Bool)
  | publishRequestErrorRoutine
  | publishEvMac (mac : String)
  | startTimer (timer : TimerId) (timeoutMs : Int)
  | stopTimer (timer : TimerId)
  deriving DecidableEq

structure LinkConfig where
  connRetryMax : Int := 3
  linkDetectTimeoutMs : Int := 4000
  syncRepetitionMs : Int := 4000
  retryWaitMs : Int := 3000
  publishEvMac : Bool := true

inductive Event
  | reset (enable : Bool)
  | enterBcd (carrierUp : Bool)
  | leaveBcd
  | carrierUp
  | carrierDown
  | linkLost
  | linkDetectTimeout (mayRepeat : Bool)
  | retryWaitElapsed (carrierUp : Bool)
  | dlinkError
  | dlinkTerminate
  | dlinkPause
  | neighborReachable (mac : String)

/-- What is emitted, or that the retry budget was refilled. -/
inductive Entry
  | effect (e : Effect)
  | refilled
  deriving DecidableEq

/-! ## The data -/

structure MachineData where
  cfg : LinkConfig
  log : List Entry := []
  current : InternalState := .unmatched
  lastState : Option LinkState := none
  ready : Bool := false
  retries : Int := 0
  ignored : Nat := 0
  publishedMac : String := ""
  routineResetPending : Bool := false
  syncWindowArmed : Bool := false

namespace MachineData

def emit (e : Effect) (d : MachineData) : MachineData := { d with log := d.log ++ [.effect e] }

def emitState (value : LinkState) (d : MachineData) : MachineData :=
  if d.lastState = some value then d
  else { d with lastState := some value }.emit (.publishState value)

variable (d : MachineData)

def emitDlinkReady : MachineData :=
  { d with ready := true }.emit (.publishDlinkReady true)

def withdrawDlinkReady : MachineData :=
  if !d.ready then d else { d with ready := false }.emit (.publishDlinkReady false)

def emitErrorRoutine : MachineData := d.emit .publishRequestErrorRoutine

def emitEvMac (mac : String) (d : MachineData) : MachineData :=
  if !d.cfg.publishEvMac || mac.isEmpty || mac = d.publishedMac then d
  else { d with publishedMac := mac }.emit (.publishEvMac mac)

def forgetEvMac : MachineData := { d with publishedMac := "" }

def startTimer (timer : TimerId) (timeoutMs : Int) (d : MachineData) : MachineData :=
  d.emit (.startTimer timer timeoutMs)

def stopTimer (timer : TimerId) (d : MachineData) : MachineData := d.emit (.stopTimer timer)

def openSyncWindow : MachineData :=
  if d.cfg.syncRepetitionMs ≤ 0 then d
  else { d with syncWindowArmed := true }.startTimer .syncRepetition d.cfg.syncRepetitionMs

def closeSyncWindow : MachineData :=
  if !d.syncWindowArmed then d else { d with syncWindowArmed := false }.stopTimer .syncRepetition

def retriesLeft : Bool := d.retries < d.cfg.connRetryMax

def takeRetry : MachineData := { d with retries := d.retries + 1 }

def refillRetries : MachineData :=
  { d with retries := 0, log := d.log ++ [.refilled] }

end MachineData

/-! ## The substates -/

def onEntry : InternalState → MachineData → MachineData
  | .unmatched, d => ({ d with current := .unmatched }.forgetEvMac).emitState .unmatched
  | .matching, d =>
    ((({ d with current := .matching }.forgetEvMac).emitState .matching).startTimer .linkDetect
      d.cfg.linkDetectTimeoutMs)
  | .matched, d => ({ d with current := .matched }.emitState .matched).emitDlinkReady
  | .paused, d => { d with current := .paused }
  | .retryWait, d =>
    ((({ d with current := .retryWait }.forgetEvMac).emitState .unmatched).startTimer .retryWait
      d.cfg.retryWaitMs)

def onExit : InternalState → MachineData → MachineData
  | .matching, d => d.stopTimer .linkDetect
  | .retryWait, d => d.stopTimer .retryWait
  | _, d => d

/-! ## The inner machine -/

/-- The kinds of events, as the tables name them. -/
inductive Kind
  | reset | enterBcd | leaveBcd | carrierUp | carrierDown | linkLost | linkDetectTimeout
  | retryWaitElapsed | dlinkError | dlinkTerminate | dlinkPause | neighborReachable
  deriving DecidableEq

def Event.kind : Event → Kind
  | .reset _ => .reset
  | .enterBcd _ => .enterBcd
  | .leaveBcd => .leaveBcd
  | .carrierUp => .carrierUp
  | .carrierDown => .carrierDown
  | .linkLost => .linkLost
  | .linkDetectTimeout _ => .linkDetectTimeout
  | .retryWaitElapsed _ => .retryWaitElapsed
  | .dlinkError => .dlinkError
  | .dlinkTerminate => .dlinkTerminate
  | .dlinkPause => .dlinkPause
  | .neighborReachable _ => .neighborReachable

abbrev Guard := Event → MachineData → Bool
abbrev Act := Event → MachineData → MachineData

namespace Session

def always : Guard := fun _ _ => true

/-- `carrier`, for the events that tell of it. -/
def carrier : Guard
  | .enterBcd carrierUp, _ | .retryWaitElapsed carrierUp, _ => carrierUp
  | _, _ => false

def noCarrier : Guard
  | .enterBcd carrierUp, _ | .retryWaitElapsed carrierUp, _ => !carrierUp
  | _, _ => false

def retriesLeft : Guard := fun _ d => d.retriesLeft

def noRetries : Guard := fun _ d => !d.retriesLeft

def mayRepeat : Guard
  | .linkDetectTimeout mayRepeat, d => mayRepeat && d.retriesLeft
  | _, _ => false

def restartAfterFailure : Guard
  | .linkDetectTimeout mayRepeat, d => !mayRepeat && d.retriesLeft
  | _, _ => false

def none : Act := fun _ d => d

def spendInitRetry : Act := fun _ d => d.takeRetry

def newConnection : Act := fun _ d => d.refillRetries

def beginCommInit : Act := fun _ d => d.openSyncWindow

def beginNewConnection : Act := fun e d => beginCommInit e (newConnection e d)

def repeatCommInit : Act := fun _ d => d.takeRetry

def restartMatching : Act := fun _ d => (d.withdrawDlinkReady.emitState .unmatched).takeRetry

def giveUp : Act := fun _ d => d.withdrawDlinkReady

def requestErrorRoutine : Act := fun _ d =>
  { d with routineResetPending := true }.emitErrorRoutine

def publishEvMac : Act
  | .neighborReachable mac, d => d.emitEvMac mac
  | _, d => d

/-- A row of the inner table. -/
def row (source : InternalState) (event : Kind) (target : Option InternalState) (action : Act)
    (guard : Guard) : Row InternalState Event MachineData where
  source := some source
  event e := e.kind = event
  target := target
  action := action
  guard := guard

def transitionTable : List (Row InternalState Event MachineData) :=
  [row .unmatched .enterBcd (some .matched) newConnection carrier,
    row .unmatched .enterBcd (some .matching) beginNewConnection noCarrier,
    row .matching .carrierUp (some .matched) none always,
    row .matching .linkDetectTimeout (some .matching) repeatCommInit mayRepeat,
    row .matching .linkDetectTimeout (some .retryWait) spendInitRetry restartAfterFailure,
    row .matching .linkDetectTimeout (some .unmatched) none noRetries,
    row .matched .carrierDown (some .matching) restartMatching retriesLeft,
    row .matched .carrierDown (some .unmatched) giveUp noRetries,
    row .matched .linkLost (some .matching) restartMatching retriesLeft,
    row .matched .linkLost (some .unmatched) giveUp noRetries,
    row .matched .dlinkPause (some .paused) none always,
    row .matched .neighborReachable .none publishEvMac always,
    row .paused .carrierUp (some .matched) none always,
    row .paused .neighborReachable (some .matched) publishEvMac always,
    row .retryWait .retryWaitElapsed (some .matched) requestErrorRoutine carrier,
    row .retryWait .retryWaitElapsed (some .matching) requestErrorRoutine noCarrier,
    row .retryWait .enterBcd (some .matched) none carrier,
    row .retryWait .enterBcd (some .matching) beginCommInit noCarrier,
    row .retryWait .dlinkError .none none always]

end Session

/-! ## The outer machine -/

namespace Link

def always : Guard := fun _ _ => true

def retriesLeft : Guard := fun _ d => d.retriesLeft

def noRetries : Guard := fun _ d => !d.retriesLeft

def routineResetPending : Guard := fun _ d => d.routineResetPending

def noRoutineResetPending : Guard := fun _ d => !d.routineResetPending

def endConnection : Act := fun _ d =>
  ({ d with routineResetPending := false }.closeSyncWindow.withdrawDlinkReady).refillRetries

def absorbRoutineReset : Act := fun _ d => { d with routineResetPending := false }

def spendRetry : Act := fun _ d => d.closeSyncWindow.withdrawDlinkReady.takeRetry

def giveUp : Act := fun _ d => d.closeSyncWindow.withdrawDlinkReady

/-- A row of the outer table; `Session` is entered at its initial state. -/
def row (event : Kind) (target : Option InternalState) (action : Act) (guard : Guard) :
    Row InternalState Event MachineData where
  source := none
  event e := e.kind = event
  target := target
  action := action
  guard := guard

def transitionTable : List (Row InternalState Event MachineData) :=
  [row .reset none absorbRoutineReset routineResetPending,
    row .reset (some .unmatched) endConnection noRoutineResetPending,
    row .leaveBcd (some .unmatched) endConnection always,
    row .dlinkTerminate (some .unmatched) endConnection always,
    row .dlinkError (some .retryWait) spendRetry retriesLeft,
    row .dlinkError (some .unmatched) giveUp noRetries]

end Link

def link : Chart InternalState Event MachineData where
  inner := Session.transitionTable
  outer := Link.transitionTable
  entry := onEntry
  exit := onExit
  ignored d := { d with ignored := d.ignored + 1 }

/-! ## The machine -/

/-- The active substate and the data. -/
abbrev LinkStateMachine := InternalState × MachineData

/-- `start`: the initial state is entered. -/
def start (cfg : LinkConfig) : LinkStateMachine := (.unmatched, onEntry .unmatched { cfg })

def publishedState : InternalState → LinkState
  | .matching => .matching
  | .matched | .paused => .matched
  | .unmatched | .retryWait => .unmatched

end EverestCore.McsDataLink

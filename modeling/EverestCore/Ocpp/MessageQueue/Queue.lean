import EverestCore.Lib.Machine
import EverestCore.Ocpp.MessageQueue.Core

/-!
# The message queue

`State` holds the members of `MessageQueue`, `Op` what its threads do: each constructor is one
section that runs with `message_mutex` held, or one access to a member without it. The worker, the
threads that push, the websocket thread and the timer threads may take their sections in any order,
so a run is an arbitrary list of `Op`s.

* `pushCall`, `pushCallAsync`: the flags are read before the lock is taken, so each push comes with
  the flags its thread has seen, and with the time since it made the message.
* `workerPass`: the body of the loop of `start`, once the wait of the condition variable is over.
  A waiting worker may wake up whenever its condition holds, also spuriously, so notifications
  are left out, and with them `external_notify`. `actionDone` is the second half of a pass that
  runs an idle action, between which and the first one the lock is free.
* `receive`, `pause`, `resume`, `resumeNow`, `runWhenIdle`, `setRegistrationStatusAccepted`,
  `stop`, the setters, `addStoppedTransactionId`, `addMeterValueMessageId`,
  `notifyStartTransactionHandled`.
* `Op.inFlightTimeout`, `Op.notifyQueueTimer`, `Op.resumeTimer`: a timer that is due calls back.
  `boost::asio` may already have posted the callback of an expiry when the timer is stopped or set
  anew; `Op.lateInFlightTimeout`, `Op.lateNotify` and `Op.lateResume` are these calls.
* `boot`: the constructor and `get_persisted_messages_from_db`. `Lifetime`, `databaseAfter`: what
  earlier runs of the program leave in the database.

`Op.advance` moves the clock, which never goes back. Messages are received well formed.
-/

namespace EverestCore.Ocpp.MessageQueue

open EverestCore.Lib Ocpp.MessageType

variable {M : Type}

/-- The flags that a push reads without the lock. -/
structure Flags where
  running : Bool := true
  paused : Bool := true
  resuming : Bool := false

/-- Where the worker thread is: in its loop, in an idle action (with `paused_for_action` and
`pause_resume_ctr_before`), or returned. -/
inductive Worker
  | loop
  | action (pausedForAction : Bool) (pauseResumeCtrBefore : Nat)
  | returned
deriving DecidableEq

/-- What the callback of `resume_timer` captures, and when it is due. -/
structure ResumeTimer where
  expectedPauseResumeCtr : Nat
  expiry : Int

/-- A `std::map`, as the list of its entries. -/
abbrev Entries (α : Type) := List (MessageId × α)

namespace Entries

variable {α : Type}

def at? (k : MessageId) (es : Entries α) : Option α := (es.find? (·.1 == k)).map (·.2)

def erase (k : MessageId) (es : Entries α) : Entries α := es.filter (·.1 != k)

def put (k : MessageId) (a : α) (es : Entries α) : Entries α := (k, a) :: erase k es

end Entries

structure State (M : Type) extends Core M, Flags where
  config : MessageQueueConfig M
  newMessage : Bool := false
  isRegistrationStatusAccepted : Bool := false
  /-- The number of `idle_actions`; what they do with the queue are steps of their own. -/
  idleActions : Nat := 0
  nextMessageToSend : Option MessageId := none
  resumeTimer : Option ResumeTimer := none
  pauseResumeCtr : Nat := 0
  messageIdTransactionIdMap : Entries Int := []
  startTransactionMidMeterValuesMidMap : Entries (List MessageId) := []
  worker : Worker := .loop

namespace State

def onCore (f : Core M → Core M) (q : State M) : State M := { q with toCore := f q.toCore }

@[simp] theorem toCore_onCore (f : Core M → Core M) (q : State M) :
    (q.onCore f).toCore = f q.toCore := rfl

end State

/-! ## Pushing -/

/-- A call of `push_call` or `push_call_async`: the message, the flags that the calling thread read,
and the time since it made the `ControlMessage`. -/
structure Push (M : Type) where
  call : Call M
  seen : Flags
  delay : Nat := 0

namespace State

variable [MessageType M] [DecidableEq M]

/-- The `ControlMessage` of a push. -/
def newControlMessage (p : Push M) (stallUntilAccepted : Bool) (q : State M) : ControlMessage M :=
  .make q.allocated (q.now - p.delay) p.call stallUntilAccepted

/-- `make_shared`. -/
def allocate (q : State M) : State M := q.onCore fun c => { c with allocated := c.allocated + 1 }

variable (m : ControlMessage M)

def addToNormalMessageQueue (q : State M) : State M :=
  { q.onCore (·.addToNormalMessageQueue q.config m) with newMessage := true }

def addToTransactionMessageQueue (q : State M) : State M :=
  { q.onCore (·.addToTransactionMessageQueue q.config m) with newMessage := true }

def pushCall (p : Push M) (stallUntilAccepted : Bool) (q : State M) : State M :=
  if !p.seen.running then q
  else
    let m := q.newControlMessage p stallUntilAccepted
    let q := q.allocate
    if m.isTransaction then q.addToTransactionMessageQueue m
    else if !p.seen.paused || p.seen.resuming || m.stallUntilAccepted ||
        q.config.checkQueue m.messageType || m.isBoot then
      q.addToNormalMessageQueue m
    else q

def pushCallAsync (p : Push M) (q : State M) : State M :=
  let m := q.newControlMessage p false
  let q := q.allocate.onCore (·.note [.called m.ref])
  if !p.seen.running then q.onCore (·.note [.promiseSet m.ref .offline])
  else if m.isTransaction then q.addToTransactionMessageQueue m
  else if p.seen.paused && !q.config.checkQueue m.messageType && !p.seen.resuming &&
      !m.isBoot then
    q.onCore (·.note [.promiseSet m.ref .offline])
  else q.addToNormalMessageQueue m

/-- The end of `push_call_result` and of `push_call_error`, for a response with the id `id`. -/
def responseSent (seen : Flags) (id : MessageId) (q : State M) : State M :=
  if seen.running && q.nextMessageToSend == some id then { q with nextMessageToSend := none } else q

/-! ## Pausing -/

def handleTimeoutOrCallerror (reply : Reply) (newId : MessageId) (q : State M) : State M :=
  q.onCore (·.handleTimeoutOrCallerror q.config reply newId)

def pause (newId : MessageId) (q : State M) : State M :=
  { q.handleTimeoutOrCallerror .offline newId with
    pauseResumeCtr := q.pauseResumeCtr + 1
    resumeTimer := none
    paused := true
    resuming := false }

def resumeNow (expectedPauseResumeCtr : Nat) (q : State M) : State M :=
  if q.pauseResumeCtr == expectedPauseResumeCtr then { q with paused := false, resuming := false }
  else q

/-- `resume`, with a delay in seconds. -/
def resume (delayOnReconnect : Int) (q : State M) : State M :=
  if !q.paused then q
  else
    let q := { q with pauseResumeCtr := q.pauseResumeCtr + 1 }
    if q.pauseResumeCtr > 1 && decide (delayOnReconnect > 0) then
      { q with
        resuming := true
        resumeTimer := some ⟨q.pauseResumeCtr, q.now + seconds delayOnReconnect⟩ }
    else q.resumeNow q.pauseResumeCtr

/-! ## The worker -/

/-- The predicate of `cv.wait`. -/
def awake (q : State M) : Bool :=
  !q.running || (q.idleActions > 0 && q.inFlight.isNone) ||
    (!q.paused && q.newMessage && q.inFlight.isNone)

/-- The part of a pass before an idle action. `pause` finds nothing in flight and makes no id. -/
def beginAction (newId : MessageId) (q : State M) : State M :=
  let pausedForAction := !q.paused
  let q := { q with idleActions := q.idleActions - 1 }
  let q := if pausedForAction then q.pause newId else q
  { q with worker := .action pausedForAction q.pauseResumeCtr }

/-- The part of a pass after an idle action, and the test of the loop. -/
def actionDone (stillConnected : Bool) (q : State M) : State M :=
  match q.worker with
  | .action pausedForAction pauseResumeCtrBefore =>
    let q :=
      if pausedForAction && stillConnected && pauseResumeCtrBefore == q.pauseResumeCtr then
        q.resume 0
      else q
    { q with worker := if q.running then .loop else .returned }
  | _ => q

/-- The message that a pass puts in flight, with its transaction id replaced if one is known. -/
def outgoing (q : State M) : ControlMessage M :=
  let m := { m with messageAttempts := m.messageAttempts + 1 }
  match q.messageIdTransactionIdMap.at? m.uniqueId with
  | some id => m.withTransactionId id
  | none => m

def currentMessageTimeout (attempt : Int) (q : State M) : Int :=
  seconds (q.config.messageTimeoutSeconds + q.config.transactionMessageRetryInterval * attempt)

/-- Put the selected message in flight and call `send_callback`, which returns `sendOk`. -/
def send (sendOk : Bool) (newId : MessageId) (t : QueueType) (m : ControlMessage M)
    (q : State M) : State M :=
  let m' := q.outgoing m
  let q := { q.onCore (·.take q.isRegistrationStatusAccepted t m') with
    messageIdTransactionIdMap := q.messageIdTransactionIdMap.erase m.uniqueId }
  let q :=
    if sendOk then
      q.onCore fun c => { c with
        inFlightTimeoutTimer :=
          some ⟨m.ref, m.uniqueId, c.now + q.currentMessageTimeout m'.messageAttempts⟩ }
    else q.handleTimeoutOrCallerror .offline newId
  if q.transactionMessageQueue.isEmpty && q.normalMessageQueue.isEmpty then
    { q with newMessage := false }
  else q

/-- `next_message_to_send` is set to the id of another message. -/
def heldBack (q : State M) : Bool :=
  match q.nextMessageToSend with
  | some id => id != m.uniqueId
  | none => false

/-- The part of a pass from "prioritize the message with the oldest timestamp" on. -/
def sendNext (sendOk : Bool) (newId : MessageId) (q : State M) : State M :=
  match q.nextMessage q.isRegistrationStatusAccepted with
  | none => { q with newMessage := false }
  | some (t, m) => if q.heldBack m then q else q.send sendOk newId t m

/-- A pass of the loop of `start`. A worker that finds `running` unset after its wait passes once
more. -/
def workerPass (sendOk : Bool) (newId : MessageId) (q : State M) : State M :=
  match q.worker with
  | .loop =>
    if !q.awake then q
    else if q.running && q.idleActions > 0 && q.inFlight.isNone then q.beginAction newId
    else
      let q := if q.paused || q.inFlight.isSome then q else q.sendNext sendOk newId
      if q.running then q else { q with worker := .returned }
  | _ => q

/-! ## Receiving -/

end State

/-- A message from the central system; a CALLRESULT comes with whether its payload is an object. -/
inductive Received
  | call (id : MessageId)
  | callResult (id : MessageId) (isObject : Bool)
  | callError (id : MessageId)

namespace State

variable [MessageType M] [DecidableEq M]

/-- The part of `receive` for a CALLERROR. -/
def receiveError (id newId : MessageId) (q : State M) : State M :=
  match q.inFlight with
  | none => q
  | some m => if m.uniqueId != id then q else q.handleTimeoutOrCallerror (.error id) newId

/-- The part of `receive` for a CALLRESULT. -/
def receiveResult (id : MessageId) (q : State M) : State M :=
  match q.inFlight with
  | none => q
  | some m => if m.uniqueId != id then q else q.onCore (·.handleCallResult q.config id)

/-- `receive`: a CALLRESULT without an object is a CALLERROR. -/
def receive (newId : MessageId) (q : State M) : Received → State M
  | .call id => { q with nextMessageToSend := some id }
  | .callResult id true => { q with nextMessageToSend := none }.receiveResult id
  | .callResult id false => { q with nextMessageToSend := none }.receiveError id newId
  | .callError id => { q with nextMessageToSend := none }.receiveError id newId

/-! ## Timers -/

/-- The callback of `in_flight_timeout_timer`. -/
def inFlightTimedOut (message : Nat) (messageId newId : MessageId) (q : State M) : State M :=
  match q.inFlight with
  | none => q
  | some m =>
    if m.ref != message || m.uniqueId != messageId then q
    else q.handleTimeoutOrCallerror .offline newId

/-! ## Transaction ids -/

def addMeterValueMessageId (startTransactionMessageId meterValueMessageId : MessageId)
    (q : State M) : State M :=
  let ids := (q.startTransactionMidMeterValuesMidMap.at? startTransactionMessageId).getD []
  { q with
    startTransactionMidMeterValuesMidMap :=
      q.startTransactionMidMeterValuesMidMap.put startTransactionMessageId
        (ids ++ [meterValueMessageId]) }

def addStoppedTransactionId (stopTransactionMessageId : MessageId) (transactionId : Int)
    (q : State M) : State M :=
  { q with
    messageIdTransactionIdMap :=
      q.messageIdTransactionIdMap.put stopTransactionMessageId transactionId }

def notifyStartTransactionHandled (startTransactionMessageId : MessageId) (transactionId : Int)
    (q : State M) : State M :=
  let ids := (q.startTransactionMidMeterValuesMidMap.at? startTransactionMessageId).getD []
  { q.onCore fun c => { c with
      transactionMessageQueue := c.transactionMessageQueue.map fun m =>
        if ids.contains m.uniqueId then m.withTransactionId transactionId else m } with
    startTransactionMidMeterValuesMidMap :=
      q.startTransactionMidMeterValuesMidMap.erase startTransactionMessageId }

end State

/-! ## Runs -/

inductive Op (M : Type)
  | pushCall (p : Push M) (stallUntilAccepted : Bool)
  | pushCallAsync (p : Push M)
  | responseSent (seen : Flags) (id : MessageId)
  | workerPass (sendOk : Bool) (newId : MessageId)
  | actionDone (stillConnected : Bool)
  | workerReturns
  | receive (msg : Received) (newId : MessageId)
  | resetNextMessageToSend
  | pause (newId : MessageId)
  | resume (delayOnReconnect : Int)
  | runWhenIdle
  | setRegistrationStatusAccepted
  | updateTransactionMessageAttempts (n : Int)
  | updateTransactionMessageRetryInterval (n : Int)
  | updateMessageTimeout (n : Int)
  | addStoppedTransactionId (stopTransactionMessageId : MessageId) (transactionId : Int)
  | addMeterValueMessageId (startTransactionMessageId meterValueMessageId : MessageId)
  | notifyStartTransactionHandled (startTransactionMessageId : MessageId) (transactionId : Int)
  | inFlightTimeout (newId : MessageId)
  | lateInFlightTimeout (message : Nat) (messageId newId : MessageId)
  | notifyQueueTimer
  | lateNotify
  | resumeTimer
  | lateResume (expectedPauseResumeCtr : Nat)
  | advance (d : Nat)
  | stop
  | joined

namespace State

variable [MessageType M] [DecidableEq M]

def step (q : State M) : Op M → State M
  | .pushCall p stallUntilAccepted => q.pushCall p stallUntilAccepted
  | .pushCallAsync p => q.pushCallAsync p
  | .responseSent seen id => q.responseSent seen id
  | .workerPass sendOk newId => q.workerPass sendOk newId
  | .actionDone stillConnected => q.actionDone stillConnected
  -- the test of the loop of a worker that is not waiting
  | .workerReturns =>
    if !q.running && q.worker == .loop then { q with worker := .returned } else q
  | .receive msg newId => q.receive newId msg
  | .resetNextMessageToSend => { q with nextMessageToSend := none }
  | .pause newId => q.pause newId
  | .resume delayOnReconnect => q.resume delayOnReconnect
  | .runWhenIdle => { q with idleActions := q.idleActions + 1 }
  | .setRegistrationStatusAccepted =>
    { q with isRegistrationStatusAccepted := true, newMessage := true }
  | .updateTransactionMessageAttempts n =>
    { q with config := { q.config with transactionMessageAttempts := n } }
  | .updateTransactionMessageRetryInterval n =>
    { q with config := { q.config with transactionMessageRetryInterval := n } }
  | .updateMessageTimeout n => { q with config := { q.config with messageTimeoutSeconds := n } }
  | .addStoppedTransactionId stopId id => q.addStoppedTransactionId stopId id
  | .addMeterValueMessageId startId meterValueId => q.addMeterValueMessageId startId meterValueId
  | .notifyStartTransactionHandled startId id => q.notifyStartTransactionHandled startId id
  | .inFlightTimeout newId =>
    match q.inFlightTimeoutTimer with
    | some timer =>
      if timer.expiry ≤ q.now then
        (q.onCore fun c => { c with inFlightTimeoutTimer := none }).inFlightTimedOut
          timer.message timer.messageId newId
      else q
    | none => q
  | .lateInFlightTimeout message messageId newId => q.inFlightTimedOut message messageId newId
  | .notifyQueueTimer =>
    match q.notifyQueueTimer with
    | some t =>
      if t ≤ q.now then
        { q.onCore fun c => { c with notifyQueueTimer := none } with newMessage := true }
      else q
    | none => q
  | .lateNotify => { q with newMessage := true }
  | .resumeTimer =>
    match q.resumeTimer with
    | some timer =>
      if timer.expiry ≤ q.now then
        { q with resumeTimer := none }.resumeNow timer.expectedPauseResumeCtr
      else q
    | none => q
  | .lateResume expectedPauseResumeCtr => q.resumeNow expectedPauseResumeCtr
  | .advance d => q.onCore fun c => { c with now := c.now + d }
  | .stop => { q with running := false, idleActions := 0 }
  -- the end of `stop`, when `worker_thread.join` has returned
  | .joined =>
    if q.worker == .returned then
      { q.onCore fun c => { c with inFlightTimeoutTimer := none, notifyQueueTimer := none } with
        resumeTimer := none }
    else q

end State

section Boot

variable [MessageType M] [DecidableEq M]

/-- The `ControlMessage` of a persisted message. -/
def Row.load (r : Row M) (ref : Nat) : ControlMessage M :=
  { ControlMessage.make ref r.timestamp r.jsonMessage true with
    messageType := r.messageType
    messageAttempts := r.messageAttempts }

/-- `get_persisted_messages_from_db`, for one row of the table `t`. -/
def Core.loadRow (ignoreSecurityEventNotifications : Bool) (t : QueueType) (c : Core M)
    (r : Row M) : Core M :=
  if ignoreSecurityEventNotifications && r.messageType == securityEventNotification then
    { c with database := c.database.removeMessageQueueMessage r.uniqueId t }
  else
    let m := r.load c.allocated
    { (c.pushBack t m).note [.queued m] with allocated := c.allocated + 1 }

/-- `get_persisted_messages_from_db`, for the table `t`. -/
def Core.loadTable (ignoreSecurityEventNotifications : Bool) (t : QueueType) (c : Core M) :
    Core M :=
  (c.database.getMessageQueueMessages t).foldl
    (Core.loadRow ignoreSecurityEventNotifications t) c

/-- The constructor and `get_persisted_messages_from_db`. -/
def boot (config : MessageQueueConfig M) (ignoreSecurityEventNotifications : Bool)
    (database : Database M) (now : Int) : State M :=
  let c : Core M := { database := database, now := now }
  let c := c.loadTable ignoreSecurityEventNotifications .normal
  let c := c.loadTable ignoreSecurityEventNotifications .transaction
  let c :=
    if config.queueAllMessages then c
    else { c with database := c.database.clearMessageQueue .normal }
  { toCore := c
    config := config
    newMessage := !database.normal.isEmpty || !database.transaction.isEmpty }

/-- The state after the steps `ops` of a queue that was booted. -/
def runFrom (q : State M) (ops : List (Op M)) : State M := Machine.run State.step q ops

/-- A run of the program: how the queue is booted and what happens until the power is lost. -/
structure Lifetime (M : Type) where
  config : MessageQueueConfig M
  ignoreSecurityEventNotifications : Bool := false
  now : Int := 0
  ops : List (Op M)

def Lifetime.run (l : Lifetime M) (db : Database M) : State M :=
  runFrom (boot l.config l.ignoreSecurityEventNotifications db l.now) l.ops

/-- What the database holds after the runs `past` of the program, which started on an empty one. -/
def databaseAfter (past : List (Lifetime M)) : Database M :=
  past.foldl (fun db l => (l.run db).database) {}

end Boot

end EverestCore.Ocpp.MessageQueue

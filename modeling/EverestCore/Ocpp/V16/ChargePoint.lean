import EverestCore.Ocpp.MessageQueue.Effects

/-!
# A transaction on the message queue of OCPP 1.6

How `charge_point_impl.cpp` drives the message queue for one transaction. The MeterValues.req and
the StopTransaction.req of a transaction may be queued before the central system has given it an id;
the id is put into them when the StartTransaction.conf is handled.

* `ChargePoint.start`: `start_transaction`.
* `ChargePoint.sendMeterValue`: `send_meter_value`, up to `dispatch_call`.
  `ChargePoint.stopTransaction`: `stop_transaction`, up to `dispatch_call`; `setFinished` is what
  follows it. `ChargePoint.dispatch`: a `dispatch_call` of one of them, by `push_call`.
* `ChargePoint.startTransactionResponse`: the queue receives the StartTransaction.conf.
  `checkFinished`, `notifyHandled` and `setTransactionId` are the parts of
  `handleStartTransactionResponse` that follow: `add_stopped_transaction_id` for a finished
  transaction, `notify_start_transaction_handled`, and `set_transaction_id`.
* `ChargePoint.onQueue`: a step of the queue, with the calls of
  `start_transaction_message_retry_callback` it makes.

Every other use of the queue is a step `Act.queue`, those for other transactions included. The
threads may take their steps in any order, so a run is an arbitrary list of `Act`s.

`ChargePoint.messages` and `ChargePoint.handed` are not part of the program: they record which
messages are those of the transaction, and which of them were handed to `send_callback` after the
StartTransaction.conf was received.
-/

namespace EverestCore.Ocpp.V16

open EverestCore.Lib MessageQueue

/-- `Transaction`. The stop id is an empty string until it is set. -/
structure Transaction where
  internalTransactionId : Int
  startTransactionMessageId : MessageId
  transactionId : Option Int := none
  stopTransactionMessageId : Option MessageId := none
  finished : Bool := false

/-- How far the StartTransaction.conf is handled; `uniqueId` is the id of the message. -/
inductive ResponseHandler
  | waiting
  | received (uniqueId : MessageId) (transactionId : Int)
  | checked (uniqueId : MessageId) (transactionId : Int)
  | notified (transactionId : Int)
  | handled (transactionId : Int)

/-- The transaction id of the StartTransaction.conf, once it is received. -/
def ResponseHandler.transactionId? : ResponseHandler → Option Int
  | .waiting => none
  | .received _ id | .checked _ id | .notified id | .handled id => some id

structure ChargePoint where
  queue : State MessageType
  transaction : Transaction
  /-- The id of the StopTransaction.req, while `stop_transaction` is under way. -/
  stopping : Option MessageId := none
  /-- The calls that were made and not yet pushed. -/
  dispatching : List (Call MessageType) := []
  handler : ResponseHandler := .waiting
  messages : List Nat := []
  handed : List (ControlMessage MessageType) := []

namespace Transaction

/-- The test of `get_transaction(transaction_message_id)`. -/
def hasMessageId (id : MessageId) (t : Transaction) : Bool :=
  t.startTransactionMessageId == id || t.stopTransactionMessageId == some id

/-- `start_transaction_message_retry_callback`. -/
def onRetry (t : Transaction) : Event MessageType → Transaction
  | .startTransactionRetried newId oldId =>
    if t.hasMessageId oldId then { t with startTransactionMessageId := newId } else t
  | _ => t

end Transaction

namespace ChargePoint

/-- What happened on the queue between `q` and `q'`, newest first. -/
def newEvents (q q' : State MessageType) : List (Event MessageType) :=
  q'.log.take (q'.log.length - q.log.length)

variable (cp : ChargePoint)

/-- The message is one of the transaction, and handed to `send_callback` after the
StartTransaction.conf was received. -/
def handsOver : Event MessageType → Option (ControlMessage MessageType)
  | .sent m =>
    if cp.messages.contains m.ref && cp.handler.transactionId?.isSome then some m else none
  | _ => none

def onQueue (q : State MessageType) (cp : ChargePoint) : ChargePoint :=
  { cp with
    queue := q
    transaction := (newEvents cp.queue q).foldr (fun e t => t.onRetry e) cp.transaction
    handed := (newEvents cp.queue q).filterMap cp.handsOver ++ cp.handed }

/-- `start_transaction`, for the queue `q`. -/
def start (q : State MessageType) (internalTransactionId : Int) (messageId : MessageId)
    (seen : Flags) (delay : Nat) (stall : Bool) : ChargePoint where
  queue := q.pushCall ⟨⟨messageId, .startTransaction, {}⟩, seen, delay⟩ stall
  transaction :=
    { internalTransactionId := internalTransactionId
      startTransactionMessageId := messageId }

/-- `send_meter_value`, up to `dispatch_call`. A finished transaction is not the one of its
connector any more. -/
def sendMeterValue (messageId : MessageId) (cp : ChargePoint) : ChargePoint :=
  if cp.transaction.finished then cp
  else match cp.transaction.transactionId with
    | some id =>
      { cp with
        dispatching := ⟨messageId, .meterValues, { transactionId := some id }⟩ :: cp.dispatching }
    | none =>
      { cp with
        queue := cp.queue.addMeterValueMessageId cp.transaction.startTransactionMessageId messageId
        dispatching := ⟨messageId, .meterValues, {}⟩ :: cp.dispatching }

/-- `stop_transaction`, up to `dispatch_call`. -/
def stopTransaction (messageId : MessageId) (cp : ChargePoint) : ChargePoint :=
  if cp.transaction.finished || cp.stopping.isSome then cp
  else
    let id := cp.transaction.transactionId.getD cp.transaction.internalTransactionId
    { cp with
      stopping := some messageId
      dispatching :=
        ⟨messageId, .stopTransaction, { transactionId := some id }⟩ :: cp.dispatching }

/-- The messages that were queued. -/
def queuedRefs (es : List (Event MessageType)) : List Nat :=
  es.filterMap fun
    | .queued m => some m.ref
    | _ => none

/-- `dispatch_call`, of the `n`-th call that is under way. -/
def dispatch (n : Nat) (seen : Flags) (delay : Nat) (stall : Bool) (cp : ChargePoint) :
    ChargePoint :=
  match cp.dispatching[n]? with
  | none => cp
  | some call =>
    let q := cp.queue.pushCall ⟨call, seen, delay⟩ stall
    { cp.onQueue q with
      dispatching := cp.dispatching.eraseIdx n
      messages := queuedRefs (newEvents cp.queue q) ++ cp.messages }

/-- The end of `stop_transaction`: `set_finished`, `set_stop_transaction_message_id` and
`add_stopped_transaction`. -/
def setFinished : ChargePoint :=
  match cp.stopping with
  | none => cp
  | some messageId =>
    if cp.dispatching.any (·.action == .stopTransaction) then cp
    else
      { cp with
        stopping := none
        transaction := { cp.transaction with
          finished := true
          stopTransactionMessageId := some messageId } }

/-- The StartTransaction.conf with the id `transactionId` is received. -/
def startTransactionResponse (transactionId : Int) (newId : MessageId) (cp : ChargePoint) :
    ChargePoint :=
  match cp.handler, cp.queue.inFlight with
  | .waiting, some m =>
    if m.messageType == .startTransaction &&
        m.uniqueId == cp.transaction.startTransactionMessageId then
      { cp.onQueue (cp.queue.receive newId (.callResult m.uniqueId true)) with
        handler := .received m.uniqueId transactionId }
    else cp
  | _, _ => cp

/-- The queue after `add_stopped_transaction_id`, which is called for a finished transaction. -/
def addStoppedTransactionId (transactionId : Int) (cp : ChargePoint) : State MessageType :=
  match cp.transaction.finished, cp.transaction.stopTransactionMessageId with
  | true, some stopId => cp.queue.addStoppedTransactionId stopId transactionId
  | _, _ => cp.queue

/-- `get_transaction` and `add_stopped_transaction_id`. -/
def checkFinished : ChargePoint :=
  match cp.handler with
  | .received uniqueId transactionId =>
    if cp.transaction.hasMessageId uniqueId then
      { cp with
        queue := cp.addStoppedTransactionId transactionId
        handler := .checked uniqueId transactionId }
    else cp
  | _ => cp

def notifyHandled : ChargePoint :=
  match cp.handler with
  | .checked uniqueId transactionId =>
    { cp with
      queue := cp.queue.notifyStartTransactionHandled uniqueId transactionId
      handler := .notified transactionId }
  | _ => cp

def setTransactionId : ChargePoint :=
  match cp.handler with
  | .notified transactionId =>
    { cp with
      transaction := { cp.transaction with transactionId := some transactionId }
      handler := .handled transactionId }
  | _ => cp

end ChargePoint

inductive Act
  | queue (op : Op MessageType)
  | sendMeterValue (messageId : MessageId)
  | stopTransaction (messageId : MessageId)
  | dispatch (n : Nat) (seen : Flags) (delay : Nat) (stall : Bool)
  | setFinished
  | startTransactionResponse (transactionId : Int) (newId : MessageId)
  | checkFinished
  | notifyHandled
  | setTransactionId

namespace ChargePoint

def step (cp : ChargePoint) : Act → ChargePoint
  | .queue op => cp.onQueue (cp.queue.step op)
  | .sendMeterValue messageId => cp.sendMeterValue messageId
  | .stopTransaction messageId => cp.stopTransaction messageId
  | .dispatch n seen delay stall => cp.dispatch n seen delay stall
  | .setFinished => cp.setFinished
  | .startTransactionResponse transactionId newId => cp.startTransactionResponse transactionId newId
  | .checkFinished => cp.checkFinished
  | .notifyHandled => cp.notifyHandled
  | .setTransactionId => cp.setTransactionId

def run (cp : ChargePoint) (acts : List Act) : ChargePoint := Machine.run step cp acts

end ChargePoint

end EverestCore.Ocpp.V16

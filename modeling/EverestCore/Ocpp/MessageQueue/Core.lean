import EverestCore.Ocpp.MessageQueue.Message

/-!
# What the message queue holds

The two deques, the message in flight, the database and the timers of `MessageQueue`, and the
functions of `message_queue.hpp` that move messages between them. They all run with
`message_mutex` held.

* `Core.addToNormalMessageQueue`, `Core.addToTransactionMessageQueue`.
* `Core.checkQueueSizes` with the two loops it calls, `dropMessagesFromNormalMessageQueue` and
  `dropUpdateMessagesFromTransactionalMessageQueue`.
* `Core.handleTimeoutOrCallerror`, `Core.handleCallResult`, `Core.resetInFlight`.
* `Core.nextMessage`: the message the worker selects. `Core.take`: it becomes the one in flight.

`Core.log` records, newest first, what happened to the messages, with the calls of
`promise.set_value` and of `start_transaction_message_retry_callback` among it; `Core.allocated`
counts the `ControlMessage`s made so far. No function reads either of them, but for the `ref` of a
new message. `ocpp::create_message_id` is a parameter.

`check_queue_sizes` loops until nothing is left to drop. A pass drops a message or is the last one,
so the number of messages bounds the number of passes (`trimNormal`, `trimTransaction`).
-/

namespace EverestCore.Ocpp.MessageQueue

open Ocpp.MessageType

variable {M : Type}

/-- What a promise is given: an `EnhancedMessage` with a CALLRESULT, with a CALLERROR, or one
whose `offline` flag is set. -/
inductive Reply
  | result (id : MessageId)
  | error (id : MessageId)
  | offline
deriving DecidableEq

inductive Event (M : Type)
  /-- A message was put on a queue, by a push or from the database. -/
  | queued (m : ControlMessage M)
  /-- `send_callback` was called. -/
  | sent (m : ControlMessage M)
  /-- The message in flight was answered by a CALLRESULT. -/
  | answered (m : ControlMessage M)
  /-- The message in flight failed and is back on its queue, as `m`. -/
  | retried (m : ControlMessage M)
  /-- The message in flight failed and has had its `limit` of attempts. -/
  | givenUp (m : ControlMessage M) (limit : Int)
  /-- The message in flight failed and is of a kind that is not sent again. -/
  | dropped (m : ControlMessage M)
  /-- A queued message was dropped because of the size of the queues. -/
  | trimmed (m : ControlMessage M)
  /-- `push_call_async` returned the future of the message `ref`. -/
  | called (ref : Nat)
  /-- `promise.set_value`. -/
  | promiseSet (ref : Nat) (value : Reply)
  /-- `start_transaction_message_retry_callback`. -/
  | startTransactionRetried (newId oldId : MessageId)
deriving DecidableEq

/-- What the callback of `in_flight_timeout_timer` captures, and when it is due. -/
structure InFlightTimeout where
  message : Nat
  messageId : MessageId
  expiry : Int

structure Core (M : Type) where
  database : Database M := {}
  transactionMessageQueue : List (ControlMessage M) := []
  normalMessageQueue : List (ControlMessage M) := []
  inFlight : Option (ControlMessage M) := none
  inFlightTimeoutTimer : Option InFlightTimeout := none
  notifyQueueTimer : Option Int := none
  now : Int
  allocated : Nat := 0
  log : List (Event M) := []

/-! ## Trimming -/

section Trimming

variable [MessageType M]

/-- The loop of `drop_messages_from_normal_message_queue`: at most `n` messages are dropped, from
the front. Returns what stays and what is dropped. -/
def dropNormal [DecidableEq M] :
    Nat → List (ControlMessage M) → List (ControlMessage M) × List (ControlMessage M)
  | _, [] => ([], [])
  | 0, ms => (ms, [])
  | n + 1, m :: ms =>
    if m.isBoot then
      let (kept, dropped) := dropNormal (n + 1) ms
      (m :: kept, dropped)
    else
      let (kept, dropped) := dropNormal n ms
      (kept, m :: dropped)

/-- The loop of `drop_update_messages_from_transactional_message_queue`, where `remove` is
`remove_next_update_message`. -/
def dropUpdates :
    Bool → List (ControlMessage M) → List (ControlMessage M) × List (ControlMessage M)
  | _, [] => ([], [])
  | remove, m :: ms =>
    if remove && m.isUpdate && decide (ms.length > 1) then
      let (kept, dropped) := dropUpdates false ms
      (kept, m :: dropped)
    else
      let (kept, dropped) := dropUpdates true ms
      (m :: kept, dropped)

/-- `number_of_dropped_messages`. -/
def MessageQueueConfig.dropLimit (cfg : MessageQueueConfig M) (size : Nat) : Nat :=
  min size (max (cfg.queuesTotalSizeThreshold.tdiv 10) 1).toNat

end Trimming

namespace Core

/-- Messages leave the database under their initial ids. -/
def forget (t : QueueType) (ms : List (ControlMessage M)) (c : Core M) : Core M :=
  { c with
    database := ms.foldl (fun db m => db.removeMessageQueueMessage m.initialUniqueId t) c.database }

def note (es : List (Event M)) (c : Core M) : Core M := { c with log := es ++ c.log }

def queueSize (c : Core M) : Nat :=
  c.transactionMessageQueue.length + c.normalMessageQueue.length

variable (cfg : MessageQueueConfig M)

/-- The normal queue keeps `kept` only; the other messages leave the database as well, if the
database has them. -/
def trimFromNormal (kept dropped : List (ControlMessage M)) (c : Core M) : Core M :=
  let c := if cfg.queueAllMessages then c.forget .normal dropped else c
  { c with normalMessageQueue := kept }.note (dropped.reverse.map .trimmed)

/-- The transaction queue keeps `kept` only. -/
def trimFromTransaction (kept dropped : List (ControlMessage M)) (c : Core M) : Core M :=
  { c.forget .transaction dropped with transactionMessageQueue := kept }.note
    (dropped.reverse.map .trimmed)

variable [MessageType M]

section

variable [DecidableEq M]

def dropMessagesFromNormalMessageQueue (cfg : MessageQueueConfig M) (c : Core M) : Core M :=
  let (kept, dropped) :=
    dropNormal (cfg.dropLimit c.normalMessageQueue.length) c.normalMessageQueue
  c.trimFromNormal cfg kept dropped

/-- The first loop of `check_queue_sizes`, at most `n` times. -/
def trimNormal (cfg : MessageQueueConfig M) : Nat → Core M → Core M
  | 0, c => c
  | n + 1, c =>
    if c.queueSize > cfg.sizeThreshold && !c.normalMessageQueue.isEmpty then
      let c' := c.dropMessagesFromNormalMessageQueue cfg
      if c'.normalMessageQueue.length == c.normalMessageQueue.length then c'
      else trimNormal cfg n c'
    else c

end

/-- Returns whether a message was dropped. -/
def dropUpdateMessagesFromTransactionalMessageQueue (c : Core M) : Core M × Bool :=
  let (kept, dropped) := dropUpdates true c.transactionMessageQueue
  (c.trimFromTransaction kept dropped, !dropped.isEmpty)

/-- The second loop of `check_queue_sizes`, at most `n` times. -/
def trimTransaction (cfg : MessageQueueConfig M) : Nat → Core M → Core M
  | 0, c => c
  | n + 1, c =>
    if c.queueSize > cfg.sizeThreshold then
      let (c', dropped) := c.dropUpdateMessagesFromTransactionalMessageQueue
      if dropped then trimTransaction cfg n c' else c'
    else c

variable [DecidableEq M]

def checkQueueSizes (c : Core M) : Core M :=
  if c.queueSize ≤ cfg.sizeThreshold then c
  else
    let c := c.trimNormal cfg (c.normalMessageQueue.length + 1)
    c.trimTransaction cfg (c.transactionMessageQueue.length + 1)

/-! ## Onto the queues -/

def pushFront (t : QueueType) (m : ControlMessage M) (c : Core M) : Core M :=
  match t with
  | .normal => { c with normalMessageQueue := m :: c.normalMessageQueue }
  | .transaction => { c with transactionMessageQueue := m :: c.transactionMessageQueue }

def pushBack (t : QueueType) (m : ControlMessage M) (c : Core M) : Core M :=
  match t with
  | .normal => { c with normalMessageQueue := c.normalMessageQueue ++ [m] }
  | .transaction => { c with transactionMessageQueue := c.transactionMessageQueue ++ [m] }

def store (t : QueueType) (m : ControlMessage M) (c : Core M) : Core M :=
  { c with database := c.database.insertMessageQueueMessage m.row t }

variable (m : ControlMessage M)

def addToNormalMessageQueue (c : Core M) : Core M :=
  let c := if m.isBoot then c.pushFront .normal m else c.pushBack .normal m
  let c := if cfg.checkQueue m.messageType then c.store .normal m else c
  (c.note [.queued m]).checkQueueSizes cfg

def addToTransactionMessageQueue
    (c : Core M) : Core M :=
  (((c.pushBack .transaction m).store .transaction m).note [.queued m]).checkQueueSizes cfg

/-! ## In flight -/

def resetInFlight (c : Core M) : Core M := { c with inFlight := none, inFlightTimeoutTimer := none }

/-- The queue a message is kept on, and the table it is kept in. -/
def queueType : QueueType :=
  if m.isTransaction then .transaction else .normal

/-- Whether the queue keeps a message until it is answered or given up. -/
def persistent : Bool :=
  m.isTransaction || cfg.checkQueue m.messageType

/-- When a failed message of the queue is sent again. -/
def retryTime (now : Int) (m : ControlMessage M) : Int :=
  if cfg.transactionMessageRetryInterval > 0 then
    m.timestamp + seconds cfg.transactionMessageRetryInterval * m.messageAttempts
  else now

/-- Put a failed message back on its queue and set the timer for it. -/
def retry (t : QueueType) (m : ControlMessage M) (c : Core M) : Core M :=
  { (c.pushFront t m).note [.retried m] with notifyQueueTimer := some m.timestamp }

/-- `handle_timeout_or_callerror`: `reply` is `.offline` for a timeout. -/
def handleTimeoutOrCallerror (reply : Reply) (newId : MessageId) (c : Core M) : Core M :=
  match c.inFlight with
  | none => c
  | some m =>
    let c :=
      if persistent cfg m then
        if m.messageAttempts < cfg.transactionMessageAttempts then
          let c := c.retry (queueType m)
            { m.withId newId with timestamp := retryTime cfg c.now m }
          if isStartTransactionMessage m.messageType then
            c.note [.startTransactionRetried newId m.uniqueId]
          else c
        else
          (c.note [.promiseSet m.ref reply,
            .givenUp m cfg.transactionMessageAttempts]).forget (queueType m) [m]
      else if m.isBoot then
        c.retry .normal { m.withId newId with
          timestamp := m.timestamp + seconds cfg.bootNotificationRetryIntervalSeconds }
      else c.note [.promiseSet m.ref reply, .dropped m]
    c.resetInFlight

/-- `handle_call_result`, for a CALLRESULT with the id `id`. -/
def handleCallResult (id : MessageId) (c : Core M) : Core M :=
  match c.inFlight with
  | none => c
  | some m =>
    if m.uniqueId == id then
      let c := c.note [.promiseSet m.ref (.result id), .answered m]
      let c := if persistent cfg m then c.forget (queueType m) [m] else c
      c.resetInFlight
    else c

/-! ## Selecting a message -/

/-- `is_transaction_message_available`, for the message selected from the normal queue. -/
def isTransactionMessageAvailable (now : Int) (accepted : Bool)
    (message : Option (ControlMessage M)) (m : ControlMessage M) : Bool :=
  if !allowedToSendMessage now accepted m then false
  else match message with
    | none => true
    | some message =>
      if message.isBoot then false else decide (m.timestamp ≤ message.timestamp)

/-- The message that the worker selects, and its queue. -/
def nextMessage (accepted : Bool) (c : Core M) : Option (QueueType × ControlMessage M) :=
  let message := c.normalMessageQueue.find? (allowedToSendMessage c.now accepted)
  match c.transactionMessageQueue with
  | [] => message.map ((.normal, ·))
  | m :: _ =>
    if isTransactionMessageAvailable c.now accepted message m then some (.transaction, m)
    else message.map ((.normal, ·))

/-- The selected message is erased from its queue and, as `m`, handed to `send_callback`. -/
def take (accepted : Bool) (t : QueueType) (m : ControlMessage M) (c : Core M) : Core M :=
  let c := match t with
    | .normal => { c with
        normalMessageQueue :=
          c.normalMessageQueue.eraseP (allowedToSendMessage c.now accepted) }
    | .transaction => { c with transactionMessageQueue := c.transactionMessageQueue.tail }
  { c with inFlight := some m }.note [.sent m]

end Core

end EverestCore.Ocpp.MessageQueue

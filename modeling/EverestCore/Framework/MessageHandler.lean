import EverestCore.Lib.Crowd
import EverestCore.Lib.OrderedMap
import Mathlib.Data.Finset.Basic
import Mathlib.Data.String.Basic

/-!
# The message handler of the framework

`MessageHandler` sorts the messages of a module by their type. The messages that are operations
(variables, commands, errors, requests for the configuration) go through a queue to a dispatcher
thread, and from there to the workers of a pool: messages of different topics are handled in
parallel, those of one topic one after another. A topic is `in_flight` while one of its messages is
with the pool; what arrives meanwhile waits in `pending_messages`, and the worker that is done with
a message hands the next one of the topic to the pool.

Queue operations and sections under the monitor `operations` are atomic; between two of them any
other thread may run. Any number of threads may call `add`, and the pool may have any number of
workers, which come and go. The messages of the other channels share nothing with the operations.

* `getMsgType`, `Handler.add`: `get_msg_type`, `add`.
* `Handler.dispatchOperationMessage`, `Handler.onOperationMessageDone`: the sections of
  `dispatch_operation_message` and `on_operation_message_done`.
* `Thread`: where a thread is. `messageHandler`: the threads.
* `History`, `watched`: what has arrived and what was handled, which no thread reads.
-/

namespace EverestCore.Framework

open Lib Lib.Machine

variable {δ : Type}

/-! ## Messages -/

inductive MqttMessageType
  | Var | Cmd | CmdResult | ExternalMQTT | RaiseError | ClearError | ConfigurationRequest
  | ConfigurationResponse | Telemetry | Heartbeat | ModuleReady | GlobalReady

/-- `string_to_mqtt_message_type`; no type is read back from the text of `Telemetry`. -/
def stringToMqttMessageType (str : String) : Option MqttMessageType :=
  if str = "Var" then some .Var
  else if str = "Cmd" then some .Cmd
  else if str = "CmdResult" then some .CmdResult
  else if str = "ExternalMQTT" then some .ExternalMQTT
  else if str = "RaiseError" then some .RaiseError
  else if str = "ClearError" then some .ClearError
  else if str = "ConfigurationRequest" then some .ConfigurationRequest
  else if str = "ConfigurationResponse" then some .ConfigurationResponse
  else if str = "Heartbeat" then some .Heartbeat
  else if str = "ModuleReady" then some .ModuleReady
  else if str = "GlobalReady" then some .GlobalReady
  else none

/-- A message: the text under `msg_type`, if there is one, and the rest of the payload. -/
structure ParsedMessage (δ : Type) where
  topic : String
  msgType : Option String
  data : δ

def getMsgType (m : ParsedMessage δ) : Option MqttMessageType :=
  match m.msgType with
  | none => some .ExternalMQTT
  | some str => stringToMqttMessageType str

/-- The branch of `add` for the type of the message. -/
def isOperation : MqttMessageType → Bool
  | .CmdResult | .ConfigurationResponse => false
  | .GlobalReady => false
  | .ExternalMQTT => false
  | _ => true

/-! ## The shared state -/

/-- The state of the operations: the queue of the dispatcher, `OperationTopics` and the queue of the
pool. -/
structure Handler (δ : Type) where
  running : Bool := true
  operationMessageQueue : List (ParsedMessage δ) := []
  inFlight : Finset String := ∅
  pendingMessages : OrderedMap String (List (ParsedMessage δ)) := ∅
  operationThreadPool : List (ParsedMessage δ) := []

/-- `add` takes the message for an operation. -/
def Handler.takes (s : Handler δ) (m : ParsedMessage δ) : Bool :=
  s.running && (getMsgType m).any isOperation

namespace Handler

def add (m : ParsedMessage δ) (s : Handler δ) : Handler δ :=
  if s.takes m then { s with operationMessageQueue := s.operationMessageQueue ++ [m] } else s

/-- The section of `dispatch_operation_message`; the result tells whether the message is to be
scheduled. -/
def dispatchOperationMessage (m : ParsedMessage δ) (s : Handler δ) : Handler δ × Bool :=
  if m.topic ∈ s.inFlight then
    let pendingQueue := (s.pendingMessages.find? m.topic).getD []
    ({ s with pendingMessages := s.pendingMessages.insert m.topic (pendingQueue ++ [m]) }, false)
  else ({ s with inFlight := insert m.topic s.inFlight }, true)

/-- `schedule_operation_message`: the operation is the last in the queue of the pool. -/
def scheduleOperationMessage (m : ParsedMessage δ) (s : Handler δ) : Handler δ :=
  { s with operationThreadPool := s.operationThreadPool ++ [m] }

/-- `in_flight.erase`. -/
def release (topic : String) (s : Handler δ) : Handler δ :=
  { s with inFlight := s.inFlight.erase topic }

/-- What the first section of `on_operation_message_done` leaves to be done. -/
inductive Completion (δ : Type)
  | released
  | next (m : ParsedMessage δ)
  | missing

/-- The first section of `on_operation_message_done`. -/
def onOperationMessageDone (topic : String) (s : Handler δ) : Handler δ × Completion δ :=
  if ¬ s.running then (s.release topic, .released)
  else
    match s.pendingMessages.find? topic with
    | none => (s.release topic, .released)
    | some [] => ({ s with pendingMessages := s.pendingMessages.erase topic }, .missing)
    | some [m] => ({ s with pendingMessages := s.pendingMessages.erase topic }, .next m)
    | some (m :: rest) =>
      ({ s with pendingMessages := s.pendingMessages.insert topic rest }, .next m)

end Handler

/-! ## The threads -/

/-- Where a thread is, between two atomic steps. -/
inductive Thread (δ : Type)
  -- the dispatcher waits for a message
  | dispatcher
  -- it has taken one
  | dispatch (m : ParsedMessage δ)
  -- it gives one to the pool
  | dispatcherSchedules (m : ParsedMessage δ)
  -- a worker of the pool waits for an operation
  | worker
  -- it has taken one and calls the handler
  | operation (m : ParsedMessage δ)
  -- it is in the handler
  | handling (m : ParsedMessage δ)
  -- the handler has returned
  | done (topic : String)
  -- it gives the next message of its topic to the pool
  | workerSchedules (m : ParsedMessage δ)
  -- it reports that there is no next message
  | missing (topic : String)

/-- What may start at any time. -/
inductive Call (δ : Type)
  | add (m : ParsedMessage δ)
  | startWorker

/-- The next step of a thread; `retires` tells whether a worker without work leaves the pool. -/
def proceed (thread : Thread δ) (retires : Bool) (s : Handler δ) : Handler δ × List (Thread δ) :=
  match thread with
  | .dispatcher =>
    match s.operationMessageQueue with
    | [] => (s, [.dispatcher])
    | m :: rest => ({ s with operationMessageQueue := rest }, [.dispatch m])
  | .dispatch m =>
    let (s, schedules) := s.dispatchOperationMessage m
    (s, [if schedules then .dispatcherSchedules m else .dispatcher])
  | .dispatcherSchedules m => (s.scheduleOperationMessage m, [.dispatcher])
  | .worker =>
    match s.operationThreadPool with
    | [] => (s, if retires then [] else [.worker])
    | m :: rest => ({ s with operationThreadPool := rest }, [.operation m])
  | .operation m => (s, [.handling m])
  | .handling m => (s, [.done m.topic])
  | .done topic =>
    match s.onOperationMessageDone topic with
    | (s, .released) => (s, [.worker])
    | (s, .next m) => (s, [.workerSchedules m])
    | (s, .missing) => (s, [.missing topic])
  | .workerSchedules m => (s.scheduleOperationMessage m, [.worker])
  | .missing topic => (s.release topic, [.worker])

/-- The dispatcher, the workers and the callers of `add`. -/
def messageHandler (δ : Type) : Program (Handler δ) (Call δ) Bool (Thread δ) where
  start call _ s :=
    match call with
    | .add m => (s.add m, [])
    | .startWorker => (s, [.worker])
  resume := proceed

/-! ## The history -/

/-- A handler is called, or returns. -/
inductive Event (δ : Type)
  | started (m : ParsedMessage δ)
  | finished (m : ParsedMessage δ)

/-- The operations in the order in which they arrived, and how they were handled. -/
structure History (δ : Type) where
  arrived : List (ParsedMessage δ) := []
  log : List (Event δ) := []

namespace History

def onCall (call : Call δ) (s : Handler δ) (h : History δ) : History δ :=
  match call with
  | .add m => if s.takes m then { h with arrived := h.arrived ++ [m] } else h
  | .startWorker => h

def onProceed (thread : Thread δ) (h : History δ) : History δ :=
  match thread with
  | .operation m => { h with log := h.log ++ [.started m] }
  | .handling m => { h with log := h.log ++ [.finished m] }
  | _ => h

end History

/-- The threads with their history. -/
def watched (δ : Type) : Program (Handler δ × History δ) (Call δ) Bool (Thread δ) :=
  (messageHandler δ).watch (fun call _ s => History.onCall call s) fun thread _ _ =>
    History.onProceed thread

/-- After the constructor: the dispatcher waits. -/
def initial (δ : Type) : Threads (Handler δ × History δ) (Thread δ) where
  shared := ({}, {})
  pending := [.dispatcher]

end EverestCore.Framework

import EverestCore.Ocpp.DateTime
import Mathlib.Data.List.Basic

/-!
# Messages of the OCPP message queue

`message_queue.hpp` is a template over the message type of OCPP 1.6 or 2.x; `MessageType` is what
it asks of that type, with the two instances of `v16/message_queue.cpp` and
`v2/message_queue.cpp`.

* `Call`: the JSON array of a CALL, `[2, id, action, payload]`.
* `ControlMessage`, `ControlMessage.make` (the constructor), `allowedToSendMessage`.
* `MessageQueueConfig`, `MessageQueueConfig.checkQueue`.
* `Database`: the tables `NORMAL_QUEUE` and `TRANSACTION_QUEUE` of `database_handler_common.cpp`,
  as lists of rows in the order of their insertion, with `insertMessageQueueMessage`,
  `removeMessageQueueMessage`, `getMessageQueueMessages` and `clearMessageQueue`.

Message ids are only compared and are numbers here. Of a payload the queue reads and writes two
fields, `transactionId` (1.6) and `eventType` (2.x); the rest of the JSON object is left out, and so
are the message types of responses, which the queue never holds. A time stamp is stored without the
rounding of RFC 3339.
-/

namespace EverestCore.Ocpp

abbrev MessageId := Nat

namespace V2

inductive TransactionEventEnum
  | ended | started | updated
deriving DecidableEq

end V2

/-- The fields of `message.at(CALL_PAYLOAD)` that the queue reads or writes. -/
structure Payload where
  transactionId : Option Int := none
  eventType : Option V2.TransactionEventEnum := none
deriving DecidableEq

/-- What the queue asks of the message types of an OCPP version. -/
class MessageType (M : Type) where
  bootNotification : M
  securityEventNotification : M
  isTransactionMessage : M → Bool
  isStartTransactionMessage : M → Bool
  isTransactionUpdateMessage : M → Payload → Bool
  boot_not_transaction : isTransactionMessage bootNotification = false
  transaction_of_update :
    ∀ t p, isTransactionUpdateMessage t p = true → isTransactionMessage t = true
  update_of_transactionId :
    ∀ t p id, isTransactionUpdateMessage t { p with transactionId := id } =
      isTransactionUpdateMessage t p

namespace V16

/-- `v16::MessageType`, without the responses. -/
inductive MessageType
  | authorize | bootNotification | cancelReservation | certificateSigned | changeAvailability
  | changeConfiguration | clearCache | clearChargingProfile | dataTransfer | deleteCertificate
  | diagnosticsStatusNotification | extendedTriggerMessage | firmwareStatusNotification
  | getCompositeSchedule | getConfiguration | getDiagnostics | getInstalledCertificateIds
  | getLocalListVersion | getLog | heartbeat | installCertificate | logStatusNotification
  | meterValues | remoteStartTransaction | remoteStopTransaction | reserveNow | reset
  | securityEventNotification | sendLocalList | setChargingProfile | signCertificate
  | signedFirmwareStatusNotification | signedUpdateFirmware | startTransaction | statusNotification
  | stopTransaction | triggerMessage | unlockConnector | updateFirmware | internalError
deriving DecidableEq

instance : Ocpp.MessageType MessageType where
  bootNotification := .bootNotification
  securityEventNotification := .securityEventNotification
  isTransactionMessage t :=
    t == .startTransaction || t == .stopTransaction || t == .meterValues ||
      t == .securityEventNotification
  isStartTransactionMessage t := t == .startTransaction
  isTransactionUpdateMessage t _ := t == .meterValues
  boot_not_transaction := rfl
  transaction_of_update t _ h := by simp_all
  update_of_transactionId _ _ _ := rfl

end V16

namespace V2

/-- `v2::MessageType`, without the responses. -/
inductive MessageType
  | authorize | bootNotification | cancelReservation | certificateSigned | changeAvailability
  | clearCache | clearChargingProfile | clearDisplayMessage | clearedChargingLimit
  | clearVariableMonitoring | costUpdated | customerInformation | dataTransfer | deleteCertificate
  | firmwareStatusNotification | get15118EVCertificate | getBaseReport | getCertificateStatus
  | getChargingProfiles | getCompositeSchedule | getDisplayMessages | getInstalledCertificateIds
  | getLocalListVersion | getLog | getMonitoringReport | getReport | getTransactionStatus
  | getVariables | heartbeat | installCertificate | logStatusNotification | meterValues
  | notifyChargingLimit | notifyCustomerInformation | notifyDisplayMessages | notifyEVChargingNeeds
  | notifyEVChargingSchedule | notifyEvent | notifyMonitoringReport | notifyReport | publishFirmware
  | publishFirmwareStatusNotification | reportChargingProfiles | requestStartTransaction
  | requestStopTransaction | reservationStatusUpdate | reserveNow | reset
  | securityEventNotification | sendLocalList | setChargingProfile | setDisplayMessage
  | setMonitoringBase | setMonitoringLevel | setNetworkProfile | setVariableMonitoring
  | setVariables | signCertificate | statusNotification | transactionEvent | triggerMessage
  | unlockConnector | unpublishFirmware | updateFirmware | adjustPeriodicEventStream | afrrSignal
  | batterySwap | changeTransactionTariff | clearDERControl | clearTariffs
  | closePeriodicEventStream | getCRL | getDERControl | getPeriodicEventStream | getTariffs
  | notifyAllowedEnergyTransfer | notifyDERAlarm | notifyDERStartStop | notifyPeriodicEventStream
  | notifyPriorityCharging | notifySettlement | openPeriodicEventStream | pullDynamicScheduleUpdate
  | reportDERControl | requestBatterySwap | setDefaultTariff | setDERControl | updateDynamicSchedule
  | usePriorityCharging | vatNumberValidation | internalError
deriving DecidableEq

instance : Ocpp.MessageType MessageType where
  bootNotification := .bootNotification
  securityEventNotification := .securityEventNotification
  isTransactionMessage t := t == .transactionEvent || t == .securityEventNotification
  isStartTransactionMessage _ := false
  isTransactionUpdateMessage t p := t == .transactionEvent && p.eventType == some .updated
  boot_not_transaction := rfl
  transaction_of_update t p h := by simp_all
  update_of_transactionId _ _ _ := rfl

end V2

namespace MessageQueue

open Ocpp.MessageType

variable {M : Type}

/-- A CALL as a JSON array. -/
structure Call (M : Type) where
  messageId : MessageId
  action : M
  payload : Payload := {}
deriving DecidableEq

/-- `ControlMessage`. The queues share these objects; `ref` stands for the address of this one, and
two pointers are equal iff their `ref` is. -/
structure ControlMessage (M : Type) where
  ref : Nat
  message : Call M
  messageType : M
  messageAttempts : Int
  timestamp : Int
  initialUniqueId : MessageId
  stallUntilAccepted : Bool
deriving DecidableEq

namespace ControlMessage

/-- The constructor, with the clock at `timestamp`. -/
def make (ref : Nat) (timestamp : Int) (call : Call M) (stallUntilAccepted : Bool) :
    ControlMessage M where
  ref := ref
  message := call
  messageType := call.action
  messageAttempts := 0
  timestamp := timestamp
  initialUniqueId := call.messageId
  stallUntilAccepted := stallUntilAccepted

variable (m : ControlMessage M)

def uniqueId : MessageId := m.message.messageId

/-- `message[MESSAGE_ID] = id`. -/
def withId (id : MessageId) : ControlMessage M :=
  { m with message := { m.message with messageId := id } }

/-- `message.at(CALL_PAYLOAD)["transactionId"] = id`. -/
def withTransactionId (id : Int) : ControlMessage M :=
  { m with message :=
      { m.message with payload := { m.message.payload with transactionId := some id } } }

variable [MessageType M]

/-- `is_transaction_message`. -/
def isTransaction : Bool := isTransactionMessage m.messageType

/-- `is_transaction_update_message`. -/
def isUpdate : Bool :=
  isTransactionUpdateMessage m.messageType m.message.payload

/-- `is_boot_notification_message`. -/
def isBoot [DecidableEq M] (m : ControlMessage M) : Bool := m.messageType == bootNotification

theorem isTransaction_of_isUpdate {m : ControlMessage M} (h : m.isUpdate) : m.isTransaction :=
  transaction_of_update _ _ h

theorem isTransaction_of_isBoot [DecidableEq M] {m : ControlMessage M} (h : m.isBoot) :
    m.isTransaction = false := by
  rw [isBoot, beq_iff_eq] at h
  rw [isTransaction, h, boot_not_transaction]

end ControlMessage

def allowedToSendMessage (time : Int) (isRegistrationStatusAccepted : Bool)
    (m : ControlMessage M) : Bool :=
  if m.stallUntilAccepted && !isRegistrationStatusAccepted then false
  else if m.timestamp > time then false
  else true

structure MessageQueueConfig (M : Type) where
  transactionMessageAttempts : Int := 3
  transactionMessageRetryInterval : Int := 30
  queuesTotalSizeThreshold : Int := 500
  queueAllMessages : Bool := false
  messageTypesDiscardForQueueing : List M := []
  messageTimeoutSeconds : Int := 30
  bootNotificationRetryIntervalSeconds : Int := 60

def MessageQueueConfig.checkQueue [DecidableEq M] (cfg : MessageQueueConfig M) (t : M) : Bool :=
  cfg.queueAllMessages && !cfg.messageTypesDiscardForQueueing.contains t

/-- The threshold as the `size_t` that the sizes are compared with. -/
def MessageQueueConfig.sizeThreshold (cfg : MessageQueueConfig M) : Nat :=
  (cfg.queuesTotalSizeThreshold % 2 ^ 64).toNat

/-! ## The database -/

inductive QueueType
  | normal | transaction
deriving DecidableEq

/-- `DBTransactionMessage`. -/
structure Row (M : Type) where
  jsonMessage : Call M
  messageType : M
  messageAttempts : Int
  timestamp : Int
  uniqueId : MessageId

/-- The row that `add_to_*_message_queue` writes for a message. -/
def ControlMessage.row (m : ControlMessage M) : Row M where
  jsonMessage := m.message
  messageType := m.messageType
  messageAttempts := m.messageAttempts
  timestamp := m.timestamp
  uniqueId := m.uniqueId

structure Database (M : Type) where
  normal : List (Row M) := []
  transaction : List (Row M) := []

namespace Database

variable (db : Database M)

def getMessageQueueMessages : QueueType → List (Row M)
  | .normal => db.normal
  | .transaction => db.transaction

def setTable (t : QueueType) (rows : List (Row M)) : Database M :=
  match t with
  | .normal => { db with normal := rows }
  | .transaction => { db with transaction := rows }

/-- `insert_message_queue_message`: `UNIQUE_ID` is the primary key, and the exception for a second
row with the same key is caught by the caller. -/
def insertMessageQueueMessage (r : Row M) (t : QueueType) : Database M :=
  let rows := db.getMessageQueueMessages t
  if rows.any (·.uniqueId == r.uniqueId) then db else db.setTable t (rows ++ [r])

def removeMessageQueueMessage (id : MessageId) (t : QueueType) : Database M :=
  db.setTable t ((db.getMessageQueueMessages t).filter (·.uniqueId != id))

def clearMessageQueue (t : QueueType) : Database M := db.setTable t []

end Database

end MessageQueue

end EverestCore.Ocpp

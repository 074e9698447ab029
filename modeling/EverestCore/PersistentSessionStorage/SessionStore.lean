import EverestCore.Lib.Machine
import Mathlib.Algebra.Group.Nat.Defs
import Mathlib.Algebra.Ring.Int.Defs
import Mathlib.Data.Rat.Defs

/-!
# The session store of the session storage module

Model of the table `SESSIONS` (`migrations/1_up-initial.sql`) and of the statements that
`storage/session_store.cpp` runs on it.

The conversions of the generated types, the dates of SQLite and the size of a session as JSON are
the parameter `Codec`. A `double` and a `float` are rationals here, and the cast between them is
one of its functions. Statements do not fail, apart from the insertion of a session id that is
there already or beyond the last id.

Results:
* `ids_apply`: an operation adds no id but the next of the counter.
* `ids_run_subset`: without a session start no id is added.
* `id_not_reused`: an id whose row is gone does not come back.
-/

namespace EverestCore.PersistentSessionStorage

open EverestCore.Lib List

/-- `types::session_storage::SessionState`; the column `STATE` has no other text. -/
inductive SessionState where
  | opened | finished | stale
deriving DecidableEq

inductive TransactionEvent where
  | started | updated | ended
deriving DecidableEq

/-- `..._to_string` of an enumeration given by its texts. -/
def enumToString {α : Type} [DecidableEq α] (texts : List (α × String)) (a : α) : String :=
  ((texts.find? (·.1 = a)).map (·.2)).getD ""

/-- `string_to_...` of such an enumeration, which throws on any other text. -/
def enumFromString {α : Type} (texts : List (α × String)) (s : String) : Option α :=
  (texts.find? (·.2 = s)).map (·.1)

inductive StartSessionReason where
  | evConnected | authorized
deriving DecidableEq

/-- The texts of `StartSessionReason`. -/
def StartSessionReason.texts : List (StartSessionReason × String) :=
  [(.evConnected, "EVConnected"), (.authorized, "Authorized")]

inductive IdTokenType where
  | central | eMaid | macAddress | iso14443 | iso15693 | keyCode | local_ | noAuthorization
deriving DecidableEq

/-- The texts of `IdTokenType`. -/
def IdTokenType.texts : List (IdTokenType × String) :=
  [(.central, "Central"), (.eMaid, "eMAID"), (.macAddress, "MacAddress"),
    (.iso14443, "ISO14443"), (.iso15693, "ISO15693"), (.keyCode, "KeyCode"), (.local_, "Local"),
    (.noAuthorization, "NoAuthorization")]

inductive AuthorizationType where
  | ocpp | rfid | autocharge | plugAndCharge | bankCard
deriving DecidableEq

/-- The texts of `AuthorizationType`. -/
def AuthorizationType.texts : List (AuthorizationType × String) :=
  [(.ocpp, "OCPP"), (.rfid, "RFID"), (.autocharge, "Autocharge"),
    (.plugAndCharge, "PlugAndCharge"), (.bankCard, "BankCard")]

inductive StopTransactionReason where
  | emergencyStop | evDisconnected | hardReset | local_ | other | powerLoss | reboot | remote
  | softReset | unlockCommand | deAuthorized | energyLimitReached | groundFault | localOutOfCredit
  | masterPass | overcurrentFault | powerQuality | socLimitReached | stoppedByEv | timeLimitReached
  | timeout | reqEnergyTransferRejected | evseDisabled
deriving DecidableEq

/-- The texts of `StopTransactionReason`. -/
def StopTransactionReason.texts : List (StopTransactionReason × String) :=
  [(.emergencyStop, "EmergencyStop"), (.evDisconnected, "EVDisconnected"),
    (.hardReset, "HardReset"), (.local_, "Local"), (.other, "Other"), (.powerLoss, "PowerLoss"),
    (.reboot, "Reboot"), (.remote, "Remote"), (.softReset, "SoftReset"),
    (.unlockCommand, "UnlockCommand"), (.deAuthorized, "DeAuthorized"),
    (.energyLimitReached, "EnergyLimitReached"), (.groundFault, "GroundFault"),
    (.localOutOfCredit, "LocalOutOfCredit"), (.masterPass, "MasterPass"),
    (.overcurrentFault, "OvercurrentFault"), (.powerQuality, "PowerQuality"),
    (.socLimitReached, "SOCLimitReached"), (.stoppedByEv, "StoppedByEV"),
    (.timeLimitReached, "TimeLimitReached"), (.timeout, "Timeout"),
    (.reqEnergyTransferRejected, "ReqEnergyTransferRejected"), (.evseDisabled, "EVSEDisabled")]

/-! ## The table -/

/-- The columns of `SESSIONS` besides `ID` and `SESSION_ID`. -/
structure Record where
  ocppTransactionId : Option String := none
  ocppTransactionTimestampStart : Option String := none
  ocppTransactionTimestampStop : Option String := none
  evseId : Int
  evseIdString : String := ""
  connectorId : Int := 1
  state : SessionState
  timestampStart : String
  startReason : String
  timestampStop : Option String := none
  transactionTimestampStart : Option String := none
  transactionTimestampStop : Option String := none
  energyWhImportStart : Option ℚ := none
  energyWhImportStop : Option ℚ := none
  idTokenHash : Option String := none
  idTokenType : Option String := none
  authorizationType : Option String := none
  stopReason : Option String := none
  signedMeterValueStart : Option String := none
  signedMeterValueStop : Option String := none
  cost : Option String := none
deriving DecidableEq

/-- A row of `SESSIONS`. -/
structure Row where
  id : Nat
  sessionId : String
  record : Record
deriving DecidableEq

/-- The greatest rowid. -/
def maxRowId : Nat := 2 ^ 63 - 1

/-- The rows in the order of their ids, and the greatest id given so far. -/
structure SessionTable where
  rows : List Row
  sequence : Nat
  ascending : rows.Pairwise (·.id < ·.id)
  positive : ∀ r ∈ rows, 0 < r.id
  numbered : ∀ r ∈ rows, r.id ≤ sequence
  bounded : sequence ≤ maxRowId
  unique : rows.Pairwise (·.sessionId ≠ ·.sessionId)

namespace SessionTable

/-- The table before the first session. -/
def empty : SessionTable where
  rows := []
  sequence := 0
  ascending := .nil
  positive := forall_mem_nil _
  numbered := forall_mem_nil _
  bounded := Nat.zero_le _
  unique := .nil

variable (t : SessionTable)

def ids : List Nat := t.rows.map (·.id)

/-- `INSERT INTO SESSIONS`: the id is a new one. Fails if there is none left, or the session id is
there already. -/
def insert (sessionId : String) (record : Record) : Option SessionTable :=
  if h : t.sequence < maxRowId ∧ ∀ r ∈ t.rows, r.sessionId ≠ sessionId then
    some
      { rows := t.rows ++ [⟨t.sequence + 1, sessionId, record⟩]
        sequence := t.sequence + 1
        ascending := pairwise_append.mpr ⟨t.ascending, pairwise_singleton _ _,
          fun r hr s hs => mem_singleton.mp hs ▸ Nat.lt_succ_of_le (t.numbered r hr)⟩
        positive := forall_mem_append.mpr ⟨t.positive, forall_mem_singleton.mpr (by simp)⟩
        numbered := forall_mem_append.mpr
          ⟨fun r hr => (t.numbered r hr).trans (Nat.le_succ _),
            forall_mem_singleton.mpr le_rfl⟩
        bounded := h.1
        unique := pairwise_append.mpr ⟨t.unique, pairwise_singleton _ _,
          fun r hr s hs => mem_singleton.mp hs ▸ h.2 r hr⟩ }
  else none

variable (p : Row → Bool)

/-- `DELETE FROM SESSIONS WHERE`. -/
def delete : SessionTable where
  rows := t.rows.filter (!p ·)
  sequence := t.sequence
  ascending := t.ascending.filter _
  positive := fun r hr => t.positive r (mem_filter.mp hr).1
  numbered := fun r hr => t.numbered r (mem_filter.mp hr).1
  bounded := t.bounded
  unique := t.unique.filter _

/-- A row where `p` holds, with its columns set. -/
def setWhere (f : Record → Record) (r : Row) : Row :=
  if p r then { r with record := f r.record } else r

@[simp] theorem setWhere_id (p : Row → Bool) (f : Record → Record) (r : Row) :
    (setWhere p f r).id = r.id := by
  unfold setWhere
  split <;> rfl

@[simp] theorem setWhere_sessionId (p : Row → Bool) (f : Record → Record) (r : Row) :
    (setWhere p f r).sessionId = r.sessionId := by
  unfold setWhere
  split <;> rfl

/-- `UPDATE SESSIONS SET WHERE`, for the columns of a record. -/
def update (f : Record → Record) : SessionTable where
  rows := t.rows.map (setWhere p f)
  sequence := t.sequence
  ascending := pairwise_map.mpr (by simpa using t.ascending)
  positive := forall_mem_map.mpr (by simpa using t.positive)
  numbered := forall_mem_map.mpr (by simpa using t.numbered)
  bounded := t.bounded
  unique := pairwise_map.mpr (by simpa using t.unique)

/-- The number of rows a statement is about. -/
def changes : Nat := t.rows.countP p

end SessionTable

/-! ## Sessions -/

structure Transaction (Meter : Type) where
  timestampStart : String
  timestampStop : Option String
  energyWhImportStart : ℚ
  energyWhImportStop : Option ℚ
  idTokenHash : Option String
  idTokenType : Option IdTokenType
  authorizationType : Option AuthorizationType
  stopReason : Option StopTransactionReason
  signedMeterValueStart : Option Meter
  signedMeterValueStop : Option Meter

structure Session (Meter Cost : Type) where
  sessionId : String
  ocppTransactionId : Option String
  ocppTransactionTimestampStart : Option String
  ocppTransactionTimestampStop : Option String
  evseId : Int
  evseIdString : String
  connectorId : Int
  state : SessionState
  timestampStart : String
  startReason : StartSessionReason
  timestampStop : Option String
  transaction : Option (Transaction Meter)
  cost : Option Cost

/-- What the store uses of the JSON library, of SQLite's dates and of floating point numbers. -/
structure Codec (Meter Cost : Type) where
  /-- `json::parse(text).get<SignedMeterValue>()`, nothing where it throws. -/
  parseMeter : String → Option Meter
  dumpMeter : Meter → String
  parseCost : String → Option Cost
  dumpCost : Cost → String
  /-- `static_cast<float>` of a `double`. -/
  toFloat : ℚ → ℚ
  /-- `julianday()`, nothing for `NULL`. -/
  julianday : String → Option ℚ
  /-- `json(session).dump().size()`, nothing where it throws. -/
  dumpSize : Session Meter Cost → Option Nat

section Reading

variable {Meter Cost : Type} (codec : Codec Meter Cost)

/-- A nullable column through a conversion that may throw. -/
def convertOptional {α β : Type} (convert : α → Option β) : Option α → Option (Option β)
  | none => some none
  | some a => (convert a).map some

/-- `row_to_transaction`, for a row with the given start of the transaction. -/
def rowToTransaction (r : Record) (timestampStart : String) : Option (Transaction Meter) := do
  let idTokenType ← convertOptional (enumFromString IdTokenType.texts) r.idTokenType
  let authorizationType ←
    convertOptional (enumFromString AuthorizationType.texts) r.authorizationType
  let stopReason ← convertOptional (enumFromString StopTransactionReason.texts) r.stopReason
  let signedMeterValueStart ← convertOptional codec.parseMeter r.signedMeterValueStart
  let signedMeterValueStop ← convertOptional codec.parseMeter r.signedMeterValueStop
  return {
    timestampStart
    timestampStop := r.transactionTimestampStop
    -- a column that is NULL reads as 0
    energyWhImportStart := codec.toFloat (r.energyWhImportStart.getD 0)
    energyWhImportStop := r.energyWhImportStop.map codec.toFloat
    idTokenHash := r.idTokenHash
    idTokenType, authorizationType, stopReason, signedMeterValueStart, signedMeterValueStop }

/-- `row_to_session`: nothing where it throws. -/
def rowToSession (row : Row) : Option (Session Meter Cost) := do
  let r := row.record
  let startReason ← enumFromString StartSessionReason.texts r.startReason
  let transaction ← convertOptional (rowToTransaction codec r) r.transactionTimestampStart
  let cost ← convertOptional codec.parseCost r.cost
  return {
    sessionId := row.sessionId
    ocppTransactionId := r.ocppTransactionId
    ocppTransactionTimestampStart := r.ocppTransactionTimestampStart
    ocppTransactionTimestampStop := r.ocppTransactionTimestampStop
    evseId := r.evseId
    evseIdString := r.evseIdString
    connectorId := r.connectorId
    state := r.state
    timestampStart := r.timestampStart
    startReason
    timestampStop := r.timestampStop
    transaction, cost }

end Reading

/-! ## Operations -/

structure SessionStart where
  sessionId : String
  evseId : Int
  evseIdString : String
  connectorId : Int
  timestampStart : String
  startReason : StartSessionReason

structure TransactionStart (Meter : Type) where
  sessionId : String
  timestampStart : String
  energyWhImportStart : ℚ
  idTokenHash : Option String
  idTokenType : Option IdTokenType
  authorizationType : Option AuthorizationType
  signedMeterValueStart : Option Meter

structure TransactionFinish (Meter : Type) where
  sessionId : String
  timestampStop : String
  energyWhImportStop : ℚ
  stopReason : Option StopTransactionReason
  signedMeterValueStop : Option Meter
  signedMeterValueStart : Option Meter
  closesSession : Bool

structure OcppTransactionEvent where
  sessionId : String
  transactionEvent : TransactionEvent
  transactionId : Option String
  timestamp : String

namespace SessionTable

variable {Meter Cost : Type} (codec : Codec Meter Cost) (t : SessionTable)

def markOlderOpenStale (evseId : Int) (newId : Nat) : SessionTable :=
  t.update (fun r => r.record.evseId = evseId ∧ r.record.state = .opened ∧ r.id < newId)
    fun r => { r with state := .stale }

/-- `prune`: all but the newest records. A negative `OFFSET` is none. -/
def prune (maxSessions : Int) : SessionTable :=
  let old := (t.ids.reverse).drop maxSessions.toNat
  t.delete fun r => r.id ∈ old

/-- `store_session_started`. The transaction of a failed insertion is rolled back. -/
def storeSessionStarted (maxSessions : Int) (session : SessionStart) : Bool × SessionTable :=
  match t.insert session.sessionId
    { evseId := session.evseId
      evseIdString := session.evseIdString
      connectorId := session.connectorId
      state := .opened
      timestampStart := session.timestampStart
      startReason := enumToString StartSessionReason.texts session.startReason } with
  | none => (false, t)
  | some inserted =>
    let newId := inserted.sequence
    (true, (inserted.markOlderOpenStale session.evseId newId).prune maxSessions)

/-- An update of the rows where `p` holds, and whether there was one. -/
def updateAny (p : Row → Bool) (f : Record → Record) : Bool × SessionTable :=
  (t.changes p != 0, t.update p f)

def storeTransactionStarted (transaction : TransactionStart Meter) : Bool × SessionTable :=
  t.updateAny
    (fun r => r.sessionId = transaction.sessionId ∧ r.record.state = .opened ∧
      r.record.transactionTimestampStart = none)
    fun r =>
      { r with
        transactionTimestampStart := some transaction.timestampStart
        energyWhImportStart := some transaction.energyWhImportStart
        idTokenHash := transaction.idTokenHash
        idTokenType := transaction.idTokenType.map (enumToString IdTokenType.texts)
        authorizationType :=
          transaction.authorizationType.map (enumToString AuthorizationType.texts)
        signedMeterValueStart := transaction.signedMeterValueStart.map codec.dumpMeter }

def storeTransactionFinished (finish : TransactionFinish Meter) : Bool × SessionTable :=
  t.updateAny
    (fun r => r.sessionId = finish.sessionId ∧ r.record.state = .opened ∧
      r.record.transactionTimestampStart ≠ none ∧ r.record.transactionTimestampStop = none)
    fun r =>
      { r with
        transactionTimestampStop := some finish.timestampStop
        energyWhImportStop := some finish.energyWhImportStop
        stopReason := finish.stopReason.map (enumToString StopTransactionReason.texts)
        signedMeterValueStop := finish.signedMeterValueStop.map codec.dumpMeter
        -- a late start value does not replace the one that is there
        signedMeterValueStart :=
          r.signedMeterValueStart.or (finish.signedMeterValueStart.map codec.dumpMeter)
        state := if finish.closesSession then .finished else r.state
        timestampStop :=
          if finish.closesSession then some finish.timestampStop else r.timestampStop }

def storeSessionFinished (sessionId timestampStop : String) : Bool × SessionTable :=
  t.updateAny (fun r => r.sessionId = sessionId ∧ r.record.state = .opened)
    fun r => { r with state := .finished, timestampStop := some timestampStop }

/-- `store_ocpp_transaction_event`: an event without an id keeps the stored one. -/
def storeOcppTransactionEvent (event : OcppTransactionEvent) : Bool × SessionTable :=
  t.updateAny (fun r => r.sessionId = event.sessionId)
    fun r =>
      { r with
        ocppTransactionId := event.transactionId.or r.ocppTransactionId
        ocppTransactionTimestampStart :=
          if event.transactionEvent = .started then some event.timestamp
          else r.ocppTransactionTimestampStart
        ocppTransactionTimestampStop :=
          if event.transactionEvent = .ended then some event.timestamp
          else r.ocppTransactionTimestampStop }

def updateCost (sessionId : String) (cost : Cost) : Bool × SessionTable :=
  t.updateAny (fun r => r.sessionId = sessionId)
    fun r => { r with cost := some (codec.dumpCost cost) }

/-- The condition of `clear_sessions`: up to the row of the session id, nothing where there is no
such row. -/
def clearCondition (upToSessionId : Option String) (r : Row) : Bool :=
  match upToSessionId with
  | none => true
  | some sessionId =>
    match t.rows.find? (·.sessionId = sessionId) with
    | none => false
    | some last => r.id ≤ last.id

def clearSessions (upToSessionId : Option String) : Nat × SessionTable :=
  (t.changes (t.clearCondition upToSessionId), t.delete (t.clearCondition upToSessionId))

end SessionTable

/-- The calls that write to the store. -/
inductive Operation (Meter Cost : Type) where
  | storeSessionStarted (session : SessionStart)
  | storeTransactionStarted (transaction : TransactionStart Meter)
  | storeTransactionFinished (finish : TransactionFinish Meter)
  | storeSessionFinished (sessionId timestampStop : String)
  | storeOcppTransactionEvent (event : OcppTransactionEvent)
  | updateCost (sessionId : String) (cost : Cost)
  | clearSessions (upToSessionId : Option String)

namespace Operation

variable {Meter Cost : Type} (codec : Codec Meter Cost) (maxSessions : Int)

/-- The table after a call. -/
def apply (t : SessionTable) : Operation Meter Cost → SessionTable
  | storeSessionStarted session => (t.storeSessionStarted maxSessions session).2
  | storeTransactionStarted transaction => (t.storeTransactionStarted codec transaction).2
  | storeTransactionFinished finish => (t.storeTransactionFinished codec finish).2
  | storeSessionFinished sessionId timestampStop =>
    (t.storeSessionFinished sessionId timestampStop).2
  | storeOcppTransactionEvent event => (t.storeOcppTransactionEvent event).2
  | updateCost sessionId cost => (t.updateCost codec sessionId cost).2
  | clearSessions upToSessionId => (t.clearSessions upToSessionId).2

/-- Only the start of a session inserts a record, unless it is rejected. -/
def Inserts (t : SessionTable) : Operation Meter Cost → Prop
  | storeSessionStarted session => (t.storeSessionStarted maxSessions session).1 = true
  | _ => False

end Operation

/-! ## Ids -/

namespace SessionTable

variable {t : SessionTable} {id : Nat} (p : Row → Bool)

@[simp] theorem ids_update (f : Record → Record) : (t.update p f).ids = t.ids := by
  rw [ids, update, map_map, ids]
  exact map_congr_left fun r _ => setWhere_id p f r

theorem ids_updateAny_subset (f : Record → Record) : (t.updateAny p f).2.ids ⊆ t.ids := by
  rw [updateAny, ids_update]
  exact List.Subset.refl _

theorem ids_delete_subset : (t.delete p).ids ⊆ t.ids :=
  map_subset _ (filter_subset_self _)

theorem ids_insert {sessionId : String} {record : Record} {inserted : SessionTable}
    (h : t.insert sessionId record = some inserted) :
    inserted.ids = t.ids ++ [t.sequence + 1] ∧ inserted.sequence = t.sequence + 1 := by
  rw [insert] at h
  split at h
  · obtain rfl := Option.some.inj h
    exact ⟨by simp [ids], rfl⟩
  · cases h

theorem storeSessionStarted_rejected {maxSessions : Int} {session : SessionStart}
    (h : ¬ (t.storeSessionStarted maxSessions session).1 = true) :
    (t.storeSessionStarted maxSessions session).2 = t := by
  revert h
  unfold storeSessionStarted
  split
  · exact fun _ => rfl
  · exact fun h => absurd rfl h

/-- A started session gets a new id, and all others lose or keep their rows. -/
theorem storeSessionStarted_ids (maxSessions : Int) (session : SessionStart) :
    (t.storeSessionStarted maxSessions session).2.ids ⊆ t.ids ++ [t.sequence + 1] ∧
      t.sequence ≤ (t.storeSessionStarted maxSessions session).2.sequence := by
  unfold storeSessionStarted
  split
  · exact ⟨subset_append_left _ _, le_rfl⟩
  · rename_i inserted h
    obtain ⟨hids, hseq⟩ := ids_insert h
    constructor
    · refine Subset.trans (ids_delete_subset _) ?_
      rw [markOlderOpenStale, ids_update, hids]
      exact List.Subset.refl _
    · exact (Nat.le_succ _).trans hseq.ge

end SessionTable

namespace Operation

variable {Meter Cost : Type} (codec : Codec Meter Cost) (maxSessions : Int) (t : SessionTable)

/-- An operation that does not insert keeps to the ids of the table. -/
theorem ids_apply_subset {op : Operation Meter Cost} (h : ¬ op.Inserts maxSessions t) :
    (op.apply codec maxSessions t).ids ⊆ t.ids ∧
      (op.apply codec maxSessions t).sequence = t.sequence := by
  cases op with
  | storeSessionStarted =>
    rw [apply, SessionTable.storeSessionStarted_rejected h]
    exact ⟨List.Subset.refl _, rfl⟩
  | clearSessions => exact ⟨SessionTable.ids_delete_subset _, rfl⟩
  | storeSessionFinished =>
    exact ⟨SessionTable.ids_updateAny_subset _ _, rfl⟩
  | _ => exact ⟨SessionTable.ids_updateAny_subset _ _, rfl⟩

/-- An operation adds no id but the next of the counter. -/
theorem ids_apply (op : Operation Meter Cost) :
    (op.apply codec maxSessions t).ids ⊆ t.ids ++ [t.sequence + 1] ∧
      t.sequence ≤ (op.apply codec maxSessions t).sequence := by
  by_cases h : op.Inserts maxSessions t
  · cases op with
    | storeSessionStarted session => exact SessionTable.storeSessionStarted_ids maxSessions session
    | _ => exact h.elim
  · obtain ⟨hids, hseq⟩ := ids_apply_subset codec maxSessions t h
    exact ⟨Subset.trans hids (subset_append_left _ _), hseq.ge⟩

theorem ids_run_subset {ops : List (Operation Meter Cost)}
    (h : Machine.Along (apply codec maxSessions) (fun t op => ¬ op.Inserts maxSessions t) t ops) :
    (Machine.run (apply codec maxSessions) t ops).ids ⊆ t.ids := by
  induction ops generalizing t with
  | nil => exact List.Subset.refl _
  | cons op ops ih =>
    exact Subset.trans (ih _ h.2) (ids_apply_subset codec maxSessions t h.1).1

/-- **An id whose row is gone does not come back.** -/
theorem id_not_reused {id : Nat} (ops : List (Operation Meter Cost)) (hg : id ≤ t.sequence)
    (hgo : id ∉ t.ids) : id ∉ (Machine.run (apply codec maxSessions) t ops).ids := by
  have hk : ∀ (t : SessionTable) (op : Operation Meter Cost), id ≤ t.sequence ∧ id ∉ t.ids →
      id ≤ (op.apply codec maxSessions t).sequence ∧ id ∉ (op.apply codec maxSessions t).ids := by
    rintro t op ⟨hle, hnot⟩
    obtain ⟨hids, hseq⟩ := ids_apply codec maxSessions t op
    refine ⟨hle.trans hseq, fun hmem => ?_⟩
    rcases mem_append.mp (hids hmem) with hold | hnew
    · exact hnot hold
    · rw [mem_singleton.mp hnew] at hle
      omega
  exact (Machine.run_invariant hk ops ⟨hg, hgo⟩).2

/-- Of three sessions the first is pruned and the second is cleared; it can start again then, with a
new id. -/
theorem removed_id_not_reused :
    let codec : Codec Unit Unit :=
      ⟨fun _ => none, fun _ => "", fun _ => none, fun _ => "", id, fun _ => none, fun _ => none⟩
    let start : String → Operation Unit Unit := fun sessionId =>
      .storeSessionStarted ⟨sessionId, 1, "", 1, "", .authorized⟩
    let t := Machine.run (apply codec 2) SessionTable.empty
      [start "a", start "b", start "c", .clearSessions (some "b")]
    t.ids = [3] ∧ (Machine.run (apply codec 2) t [start "b"]).ids = [3, 4] ∧
      2 ∉ (Machine.run (apply codec 2) t [start "b"]).ids := by
  refine ⟨by decide, by decide, id_not_reused _ 2 _ _ (by decide) (by decide)⟩

end Operation

end EverestCore.PersistentSessionStorage

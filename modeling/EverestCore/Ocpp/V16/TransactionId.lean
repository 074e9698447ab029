import EverestCore.Ocpp.MessageQueue.TransactionIds
import EverestCore.Ocpp.V16.ChargePoint

/-!
# Transaction ids are put into every message

The MeterValues.req of a transaction are listed under the id of its StartTransaction.req until that
one is answered. The list is not moved when the StartTransaction.req is sent again under a new id,
so the MeterValues.req that were queued before the retry keep no transaction id. The
StartTransaction.conf is handled after the queue has received it, and until then nothing keeps the
worker from sending the next message of the transaction.

Results:
* `transaction_id_substituted`: in a run of such steps every message of the transaction that is
  handed to `send_callback` after the StartTransaction.conf was received carries its transaction id.
* `transaction_id_lost`: a MeterValues.req that is queued before its StartTransaction.req is
  retried.
-/

namespace EverestCore.Ocpp.V16

open EverestCore.Lib MessageQueue List Option State Core ChargePoint ControlMessage Ocpp.MessageType

namespace ChargePoint

variable (cp : ChargePoint)

abbrev startId : MessageId := cp.transaction.startTransactionMessageId

abbrev stopId : Option MessageId := cp.transaction.stopTransactionMessageId

/-! ## The condition -/

/-- The message ids in use. -/
def usedIds : List MessageId :=
  cp.startId :: (cp.stopId.toList ++
    cp.stopping.toList ++ cp.dispatching.map (·.messageId) ++ cp.queue.uniqueIds ++
    cp.queue.messageIdTransactionIdMap.map (·.1) ++
    cp.queue.startTransactionMidMeterValuesMidMap.flatMap (fun e => e.1 :: e.2))

/-- The ids of the messages of the transaction. -/
def ownIds : List MessageId :=
  cp.dispatching.map (·.messageId) ++
    (cp.queue.present.filter fun m => cp.messages.contains m.ref).map (·.uniqueId)

/-- The message ids that the step makes are new, and what it does for other transactions it does
under other ids. -/
def keepsIdsApart : Act → Bool
  | .queue op =>
    op.madeId.all (fun id => !cp.usedIds.contains id) &&
      match op with
      | .addStoppedTransactionId id _ => !cp.ownIds.contains id
      | .addMeterValueMessageId startId id =>
        startId != cp.startId && !cp.ownIds.contains id
      | .notifyStartTransactionHandled startId _ =>
        startId != cp.startId
      | .receive (.callResult id true) _ => id != cp.startId
      | _ => true
  | .sendMeterValue id | .stopTransaction id => !cp.usedIds.contains id
  | _ => true

/-- The StartTransaction.req is not sent again while MeterValues.req are listed under its id, and
while its answer is handled no message is sent, made or left out that still lacks the transaction
id. -/
def inOrder : Act → Bool
  | .queue op =>
    (match cp.queue.failing op with
      | some m =>
        !(m.messageType == .startTransaction && retries cp.queue.config m &&
          m.uniqueId == cp.startId) ||
          (cp.queue.listed cp.startId).isEmpty
      | none => true) &&
    match cp.queue.sending op with
    | some m =>
      !cp.messages.contains m.ref ||
        match cp.handler with
        | .received _ _ => false
        | .checked _ _ => m.message.action != .meterValues
        | _ => true
    | none => true
  | .sendMeterValue _ =>
    match cp.handler with
    | .notified _ => false
    | _ => true
  | .stopTransaction _ =>
    match cp.handler with
    | .checked _ _ | .notified _ => false
    | _ => true
  | .checkFinished =>
    match cp.handler with
    | .received _ _ => cp.stopping.isNone
    | _ => true
  | .notifyHandled =>
    match cp.handler with
    | .checked _ _ => cp.dispatching.all (·.action != .meterValues)
    | _ => true
  | _ => true

/-! ## What is known of the calls -/

variable (k : Call MessageType)

/-- A MeterValues.req that gets its transaction id by `notify_start_transaction_handled`. -/
def AwaitsMeter : Prop :=
  k.action = .meterValues ∧
    k.messageId ∈ cp.queue.listed cp.startId ∧
    cp.queue.messageIdTransactionIdMap.at? k.messageId = none ∧
    (∀ s, s ≠ cp.startId → k.messageId ∉ cp.queue.listed s) ∧
    ¬ (cp.stopId = some k.messageId ∨ cp.stopping = some k.messageId)

/-- A StopTransaction.req that gets its transaction id by `add_stopped_transaction_id`. -/
def AwaitsStop : Prop :=
  k.action = .stopTransaction ∧
    cp.queue.messageIdTransactionIdMap.at? k.messageId = none ∧
    (∀ s, k.messageId ∉ cp.queue.listed s) ∧
    (cp.stopId = some k.messageId ∨ cp.stopping = some k.messageId)

/-- A call that is sent with the transaction id `id`. -/
def Carries (id : Int) (cp : ChargePoint) (k : Call MessageType) : Prop :=
  (cp.queue.messageIdTransactionIdMap.at? k.messageId = some id ∨
    cp.queue.messageIdTransactionIdMap.at? k.messageId = none ∧ k.payload.transactionId = some id) ∧
  ∀ s, k.messageId ∉ cp.queue.listed s

/-- What is known of a call that waits. -/
def Expected : Prop :=
  match cp.handler with
  | .waiting | .received _ _ => cp.AwaitsMeter k ∨ cp.AwaitsStop k
  | .checked _ id => cp.AwaitsMeter k ∨ cp.Carries id k
  | .notified id | .handled id => cp.Carries id k

/-- What is known of the call in flight. -/
def Flying : Prop :=
  match cp.handler with
  | .waiting | .received _ _ => False
  | .checked _ id | .notified id | .handled id => k.payload.transactionId = some id

/-- The calls of the transaction, on the queue and not yet pushed. -/
structure Following (cp : ChargePoint) : Prop where
  follows : cp.queue.toCore.Follows cp.messages cp.Expected cp.Flying
  pending : ∀ k ∈ cp.dispatching, cp.Expected k

/-- The StartTransaction.req is in flight, or queued before the messages `refs`. -/
def Leads (startId : MessageId) (refs : List Nat) (c : Core MessageType) : Prop :=
  ∃ s, s.uniqueId = startId ∧ s.messageType = .startTransaction ∧ s.ref ∉ refs ∧
    (c.inFlight = some s ∨ ∃ pre post, c.transactionMessageQueue = pre ++ s :: post ∧
      ∀ m ∈ pre, m.ref ∉ refs)

/-- What holds in every state, whatever became of the StartTransaction.req. -/
structure Sound (cp : ChargePoint) : Prop where
  nodup : (cp.dispatching.map (·.messageId) ++ cp.queue.uniqueIds).Nodup
  allocated : ∀ m ∈ cp.queue.present, m.ref < cp.queue.allocated
  stops : ∀ m ∈ cp.queue.present, m.messageType = .startTransaction →
    cp.stopId ≠ some m.uniqueId ∧ cp.stopping ≠ some m.uniqueId
  unstarted : cp.startId ∉ cp.dispatching.map (·.messageId)
  pending : ∀ k ∈ cp.dispatching, k.action = .meterValues ∨ k.action = .stopTransaction
  transactionId : cp.transaction.transactionId =
    match cp.handler with
    | .handled id => some id
    | _ => none
  finished : cp.transaction.finished = cp.stopId.isSome
  once : cp.stopping ≠ none → cp.stopId = none
  handed : ∀ m ∈ cp.handed, ∃ id, cp.handler.transactionId? = some id ∧
    m.message.payload.transactionId = some id

/-- The messages of the transaction are where they should be. While the StartTransaction.conf is not
received, the StartTransaction.req leads them, or it is given up and its id not used any more. -/
def Known : Prop :=
  match cp.handler with
  | .waiting =>
    (Leads cp.startId cp.messages cp.queue.toCore ∧ cp.Following) ∨ cp.startId ∉ cp.queue.uniqueIds
  | .received id _ | .checked id _ =>
    id = cp.startId ∧ cp.startId ∉ cp.queue.uniqueIds ∧ cp.Following
  | _ => cp.Following

structure Inv (cp : ChargePoint) : Prop extends cp.Sound where
  known : cp.Known

/-! ## Steps of the queue -/

variable {q : State MessageType} {es : List (Event MessageType)} {cp cp' : ChargePoint}
    {m : ControlMessage MessageType} {newId id : MessageId} {k : Call MessageType}

theorem newEvents_eq {q' : State MessageType} (h : q'.log = es ++ q.log) : newEvents q q' = es := by
  simp [newEvents, h]

/-- The transaction after the message `m` has failed. -/
def afterFailure (m : ControlMessage MessageType) (newId : MessageId) (cp : ChargePoint) :
    Transaction :=
  if retries cp.queue.config m && m.messageType == .startTransaction &&
      cp.transaction.hasMessageId m.uniqueId then
    { cp.transaction with startTransactionMessageId := newId }
  else cp.transaction

/-- What a message that is sent adds to the messages handed over. -/
def handOver (m : ControlMessage MessageType) (cp : ChargePoint) :
    List (ControlMessage MessageType) :=
  (cp.handsOver (.sent m)).toList ++ cp.handed

theorem foldr_onRetry (hes : ∀ e ∈ es, ∀ newId oldId, e ≠ .startTransactionRetried newId oldId)
    (t : Transaction) : es.foldr (fun e t => t.onRetry e) t = t := by
  induction es with
  | nil => rfl
  | cons e es ih =>
    rw [forall_mem_cons] at hes
    rw [foldr_cons, ih hes.2]
    cases e with
    | startTransactionRetried newId oldId => exact absurd rfl (hes.1 newId oldId)
    | _ => rfl

theorem foldr_retryCalls (m : ControlMessage MessageType) (newId : MessageId) (cp : ChargePoint) :
    (if retries cp.queue.config m then retryCalls cp.queue.config newId m else []).foldr
      (fun e t => t.onRetry e) cp.transaction = cp.afterFailure m newId := by
  unfold afterFailure retryCalls
  by_cases hst : m.messageType = .startTransaction
  · have hk : persistent cp.queue.config m := by
      simp [persistent, isTransaction, hst, isTransactionMessage]
    cases retries cp.queue.config m <;>
      cases hhas : cp.transaction.hasMessageId m.uniqueId <;>
      simp [hst, hk, hhas, Transaction.onRetry, isStartTransactionMessage]
  · simp [hst, isStartTransactionMessage]

theorem onQueue_eq (sent : List (Event MessageType)) (hlog : q.log = es ++ (sent ++ cp.queue.log))
    (hes : ∀ e ∈ es, ∀ m, e ≠ .sent m) (hse : ∀ e ∈ sent, ∃ m, e = .sent m) :
    cp.onQueue q = { cp with
      queue := q
      transaction := es.foldr (fun e t => t.onRetry e) cp.transaction
      handed := sent.filterMap cp.handsOver ++ cp.handed } := by
  have hq : es.filterMap cp.handsOver = [] := by
    refine filterMap_eq_nil_iff.mpr fun e he => ?_
    cases e with
    | sent m => exact absurd rfl (hes _ he m)
    | _ => rfl
  have hsa : ∀ t : Transaction, sent.foldr (fun e t => t.onRetry e) t = t := by
    refine foldr_onRetry fun e he newId oldId heq => ?_
    obtain ⟨m, rfl⟩ := hse e he
    cases heq
  rw [← append_assoc] at hlog
  unfold onQueue
  rw [newEvents_eq hlog, foldr_append, hsa, filterMap_append, hq, nil_append]

theorem onQueue_plain (hlog : q.log = es ++ cp.queue.log) (hes : ∀ e ∈ es, e.Plain) :
    cp.onQueue q = { cp with queue := q } := by
  rw [onQueue_eq [] hlog (fun e he => (hes e he).1) (by simp),
    foldr_onRetry fun e he => (hes e he).2]
  rfl

theorem onQueue_sent (hlog : q.log = .sent m :: cp.queue.log) :
    cp.onQueue q = { cp with queue := q, handed := cp.handOver m } := by
  have hlog : q.log = [] ++ ([.sent m] ++ cp.queue.log) := hlog
  rw [onQueue_eq _ hlog (by simp) (by simp), handOver]
  cases ho : cp.handsOver (.sent m) <;> simp [ho]

/-- A step of the queue in which `m` fails, after `sent` is sent. -/
theorem onQueue_failed {c : Core MessageType} {reply : Reply} (sent : List (Event MessageType))
    (hlog : c.log = sent ++ cp.queue.log) (hse : ∀ e ∈ sent, ∃ m, e = .sent m)
    (h : Failed cp.queue.config reply newId m c q.toCore) :
    cp.onQueue q = { cp with
      queue := q
      transaction := cp.afterFailure m newId
      handed := sent.filterMap cp.handsOver ++ cp.handed } := by
  obtain ⟨es, hlog', hes⟩ := h.log
  rw [hlog] at hlog'
  rw [onQueue_eq sent hlog' (fun e he x => ?_) hse, foldr_append,
    foldr_onRetry fun e he => (hes e he).2, foldr_retryCalls]
  rcases mem_append.mp he with he | he
  · split_ifs at he
    · rw [eq_of_mem_retryCalls he]
      simp
    · cases he
  · exact (hes e he).1 x

theorem afterFailure_cases (m : ControlMessage MessageType) (newId : MessageId) (cp : ChargePoint) :
    cp.afterFailure m newId = cp.transaction ∨
      retries cp.queue.config m ∧ m.messageType = .startTransaction ∧
        cp.transaction.hasMessageId m.uniqueId ∧
        cp.afterFailure m newId = { cp.transaction with startTransactionMessageId := newId } := by
  unfold afterFailure
  split_ifs with h
  · simp only [Bool.and_eq_true, beq_iff_eq] at h
    exact .inr ⟨h.1.1, h.1.2, h.2, rfl⟩
  · exact .inl rfl

theorem Sound.hasMessageId {x : ControlMessage MessageType} (hs : cp.Sound)
    (hx : x ∈ cp.queue.present) (hid : x.uniqueId = m.uniqueId)
    (ht : x.messageType = .startTransaction) (hhas : cp.transaction.hasMessageId m.uniqueId) :
    m.uniqueId = cp.startId := by
  simp only [Transaction.hasMessageId, Bool.or_eq_true, beq_iff_eq] at hhas
  exact (hhas.resolve_right (hid ▸ (hs.stops x hx ht).1)).symm

theorem onQueue_step (cp : ChargePoint) (op : Op MessageType) :
    ∃ t h, cp.onQueue (cp.queue.step op) =
        { cp with queue := cp.queue.step op, transaction := t, handed := h } ∧
      (t = cp.transaction ∨ ∃ m newId, cp.queue.failing op = some m ∧ op.newId = some newId ∧
        (∃ x ∈ cp.queue.present, x.uniqueId = m.uniqueId ∧ x.messageType = m.messageType) ∧
        t = cp.afterFailure m newId) ∧
      (h = cp.handed ∨ ∃ m, cp.queue.sending op = some m ∧
        h = cp.handOver (cp.queue.outgoing m)) := by
  cases hse : cp.queue.sending op with
  | none =>
    rcases (effect_step cp.queue op).log hse with
      ⟨es, hlog, hes⟩ | ⟨m, newId, reply, hin, hfa, hnew, hc⟩
    · exact ⟨_, _, onQueue_plain hlog hes, .inl rfl, .inl rfl⟩
    · refine ⟨_, _, onQueue_failed [] rfl (by simp) hc,
        .inr ⟨m, newId, hfa, hnew, ?_, rfl⟩, .inl rfl⟩
      exact ⟨m, by simp [present, hin], rfl, rfl⟩
  | some m =>
    obtain ⟨sendOk, newId, t, c, hop, hsel, ht, hco⟩ := sending_cases hse
    have hlog : c.log = .sent (cp.queue.outgoing m) :: cp.queue.log := by cases ht <;> rfl
    rcases hco with ⟨timer, hco⟩ | ⟨rfl, hf⟩
    · refine ⟨_, _, onQueue_sent (m := cp.queue.outgoing m) ?_, .inl rfl, .inr ⟨m, rfl, rfl⟩⟩
      rw [hco]
      exact hlog
    · refine ⟨_, _, onQueue_failed [.sent (cp.queue.outgoing m)] hlog (by simp) hf,
        .inr ⟨_, newId, ?_, by rw [hop]; rfl, ?_, rfl⟩, .inr ⟨m, rfl, ?_⟩⟩
      · simp [hop, failing, hsel]
      · exact ⟨m, mem_present_of_sending hse, by simp, by simp⟩
      · unfold handOver
        cases ho : cp.handsOver (.sent (cp.queue.outgoing m)) <;> simp [ho]

/-! ## Ids that a step leaves alone -/

/-- The step to `cp'` does not concern the messages with the id `id`. -/
structure SameFor (id : MessageId) (cp cp' : ChargePoint) : Prop where
  at? : cp'.queue.messageIdTransactionIdMap.at? id = cp.queue.messageIdTransactionIdMap.at? id
  listed : ∀ s, id ∈ cp'.queue.listed s → id ∈ cp.queue.listed s
  start : id ∈ cp.queue.listed cp.startId →
    cp'.startId = cp.startId ∧ id ∈ cp'.queue.listed cp.startId
  stop : (cp'.stopId = some id ∨ cp'.stopping = some id) ↔
    (cp.stopId = some id ∨ cp.stopping = some id)
  handler : cp'.handler = cp.handler

namespace SameFor

theorem of_idMaps (hm : cp'.queue.idMaps = cp.queue.idMaps) (hst : cp'.startId = cp.startId)
    (hsp : (cp'.stopId = some id ∨ cp'.stopping = some id) ↔
      (cp.stopId = some id ∨ cp.stopping = some id))
    (hh : cp'.handler = cp.handler) : SameFor id cp cp' := by
  have hat : cp'.queue.messageIdTransactionIdMap = cp.queue.messageIdTransactionIdMap :=
    congrArg Prod.fst hm
  have hl := listed_of_idMaps hm
  exact ⟨by rw [hat], fun s hmem => hl s ▸ hmem, fun hmem => ⟨hst, (hl _).symm ▸ hmem⟩, hsp, hh⟩

variable (h : SameFor k.messageId cp cp')

include h

theorem awaitsMeter (hk : cp.AwaitsMeter k) : cp'.AwaitsMeter k := by
  obtain ⟨hact, hl, hno, ho, hst⟩ := hk
  obtain ⟨hsr, hl'⟩ := h.start hl
  refine ⟨hact, hsr ▸ hl', h.at? ▸ hno, fun s hs hmem => ?_, h.stop.not.mpr hst⟩
  exact ho s (hsr ▸ hs) (h.listed s hmem)

theorem awaitsStop (hk : cp.AwaitsStop k) : cp'.AwaitsStop k := by
  obtain ⟨hact, hno, ho, hst⟩ := hk
  exact ⟨hact, h.at? ▸ hno, fun s hmem => ho s (h.listed s hmem), h.stop.mpr hst⟩

theorem carries {id : Int} (hk : cp.Carries id k) : cp'.Carries id k := by
  refine ⟨?_, fun s hmem => hk.2 s (h.listed s hmem)⟩
  rw [h.at?]
  exact hk.1

theorem expected (hk : cp.Expected k) : cp'.Expected k := by
  unfold Expected at hk ⊢
  rw [h.handler]
  split at hk
  · exact hk.imp h.awaitsMeter h.awaitsStop
  · exact hk.imp h.awaitsMeter h.awaitsStop
  · exact hk.imp h.awaitsMeter h.carries
  · exact h.carries hk
  · exact h.carries hk

end SameFor

/-- What it means for an id to be new. -/
structure Fresh (id : MessageId) (cp : ChargePoint) : Prop where
  start : id ≠ cp.startId
  stop : cp.stopId ≠ some id
  stopping : cp.stopping ≠ some id
  dispatching : id ∉ cp.dispatching.map (·.messageId)
  queue : id ∉ cp.queue.uniqueIds
  at? : cp.queue.messageIdTransactionIdMap.at? id = none
  listed : ∀ s, id ∉ cp.queue.listed s

theorem Fresh.not_own (h : cp.Fresh id) : id ∉ cp.ownIds := by
  intro hmem
  rcases mem_append.mp hmem with hmem | hmem
  · exact h.dispatching hmem
  · obtain ⟨m, hm, hid⟩ := mem_map.mp hmem
    exact h.queue (hid ▸ List.mem_map_of_mem (mem_of_mem_filter hm))

theorem Fresh.nodup (h : cp.Fresh id) (hs : cp.Sound) :
    (id :: (cp.dispatching.map (·.messageId) ++ cp.queue.uniqueIds)).Nodup :=
  nodup_cons.mpr ⟨fun hmem => (mem_append.mp hmem).elim h.dispatching h.queue, hs.nodup⟩

theorem fresh_of_not_used (h : id ∉ cp.usedIds) : cp.Fresh id := by
  simp only [usedIds, mem_cons, mem_append, not_or, mem_toList] at h
  obtain ⟨hst, ⟨⟨⟨⟨hsp, hsto⟩, hdis⟩, hq⟩, hmap⟩, hl⟩ := h
  refine ⟨hst, hsp, hsto, hdis, hq, ?_, fun s hmem => hl ?_⟩
  · rw [Entries.at?, map_eq_none_iff, List.find?_eq_none]
    intro e he heq
    exact hmap (mem_map.mpr ⟨e, he, by simpa using heq⟩)
  · unfold listed Entries.at? at hmem
    cases hf : cp.queue.startTransactionMidMeterValuesMidMap.find? (·.1 == s) with
    | none => simp [hf] at hmem
    | some e =>
      rw [hf] at hmem
      exact mem_flatMap.mpr ⟨e, mem_of_find?_eq_some hf, mem_cons_of_mem _ hmem⟩

theorem nodup_of_subperm {l l₁ l₂ : List MessageId} (h : (l ++ l₂).Nodup)
    (hsub : l₁.Subperm l₂) : (l ++ l₁).Nodup := by
  obtain ⟨x, hp, hsub⟩ := hsub
  exact (hp.append_left l).nodup_iff.mp (h.sublist (hsub.append_left l))

theorem mem_ownIds (hm : m ∈ cp.queue.present) (hown : m.ref ∈ cp.messages) :
    m.uniqueId ∈ cp.ownIds := by
  refine mem_append_right _ (List.mem_map_of_mem (mem_filter.mpr ⟨hm, ?_⟩))
  simpa using hown

theorem mem_ownIds_of_dispatching (hk : k ∈ cp.dispatching) : k.messageId ∈ cp.ownIds :=
  mem_append_left _ (List.mem_map_of_mem hk)

/-- The call in flight, when it is to be sent again under a new id. -/
theorem expected_retry (hf : cp.Fresh newId) (hk : cp.Flying k) :
    cp.Expected { k with messageId := newId } := by
  unfold Flying at hk
  unfold Expected
  split at hk
  · exact hk.elim
  · exact hk.elim
  · exact .inr ⟨.inr ⟨hf.at?, hk⟩, hf.listed⟩
  · exact ⟨.inr ⟨hf.at?, hk⟩, hf.listed⟩
  · exact ⟨.inr ⟨hf.at?, hk⟩, hf.listed⟩

/-- The messages of the transaction are listed under the id of its StartTransaction.req only. -/
theorem not_listed_of_expected (hk : cp.Expected k) {s : MessageId}
    (hs : s ≠ cp.startId) : k.messageId ∉ cp.queue.listed s := by
  unfold Expected at hk
  split at hk
  · exact hk.elim (fun h => h.2.2.2.1 s hs) fun h => h.2.2.1 s
  · exact hk.elim (fun h => h.2.2.2.1 s hs) fun h => h.2.2.1 s
  · exact hk.elim (fun h => h.2.2.2.1 s hs) fun h => h.2 s
  · exact hk.2 s
  · exact hk.2 s

/-! ## The StartTransaction.req -/

theorem lead_of_split {α : Type} {pre post pre' post' : List α} {s m : α}
    (h : pre ++ s :: post = pre' ++ m :: post') (hne : s ≠ m) :
    ∃ a b, pre' ++ post' = a ++ s :: b ∧ a ⊆ pre := by
  rcases append_eq_append_iff.mp h with ⟨l, rfl, hl⟩ | ⟨l, rfl, hl⟩ <;> cases l with
  | nil => exact absurd (List.cons.inj hl).1 (by first | exact hne | exact hne.symm)
  | cons x l => ?_
  · obtain ⟨rfl, rfl⟩ := List.cons.inj hl
    exact ⟨pre, l ++ post', by simp, fun _ hx => hx⟩
  · obtain ⟨rfl, rfl⟩ := List.cons.inj hl
    exact ⟨pre' ++ l, post, by simp, by simp⟩

namespace Leads

variable {startId : MessageId} {refs : List Nat} {c c' : Core MessageType}

theorem extend {r : Nat} (hr : ∀ m ∈ c.present, m.ref ≠ r) (h : Leads startId refs c) :
    Leads startId (r :: refs) c := by
  obtain ⟨s, hid, ht, hnot, hle⟩ := h
  have hnew : ∀ m ∈ c.present, m.ref ∉ refs → m.ref ∉ r :: refs := fun m hm hnot hmem =>
    (mem_cons.mp hmem).elim (hr m hm) hnot
  rcases hle with hin | ⟨pre, post, hq, hpre⟩
  · exact ⟨s, hid, ht, hnew s (by simp [present, hin]) hnot, .inl hin⟩
  · refine ⟨s, hid, ht, hnew s (by simp [present, hq]) hnot, .inr ⟨pre, post, hq, ?_⟩⟩
    exact fun m hm => hnew m (by simp [present, hq, hm]) (hpre m hm)

variable {cfg : MessageQueueConfig MessageType} {P : ControlMessage MessageType → Prop}

theorem trim (htr : Trim cfg P c c') (h : Leads startId refs c) : Leads startId refs c' := by
  obtain ⟨s, hid, ht, hnot, hle⟩ := h
  refine ⟨s, hid, ht, hnot, ?_⟩
  cases htr with
  | normal => simpa using hle
  | @transaction pre' post' m hq hu =>
    refine hle.imp_right ?_
    rintro ⟨pre, post, hsp, hpre⟩
    have hne : s ≠ m := by
      rintro rfl
      simp [isUpdate, ht, isTransactionUpdateMessage] at hu
    obtain ⟨a, b, hr, hsub⟩ := lead_of_split (hsp.symm.trans hq) hne
    exact ⟨a, b, hr, fun x hx => hpre x (hsub hx)⟩

theorem trims (ht : Trims cfg P c c') (h : Leads startId refs c) : Leads startId refs c' :=
  ht.keep (I := Leads startId refs) (fun htm hx => hx.trim htm) h

theorem enqueue (cfg : MessageQueueConfig MessageType) (m : ControlMessage MessageType)
    (async : Bool) (h : Leads startId refs c) :
    Leads startId refs ((c.create async).enqueue cfg m) := by
  obtain ⟨s, hid, ht, hnot, hin | ⟨pre, post, hq, hpre⟩⟩ := h
  · exact ⟨s, hid, ht, hnot, .inl (by simpa using hin)⟩
  · exact ⟨s, hid, ht, hnot,
      .inr ⟨pre, post ++ if m.isTransaction then [m] else [], by simp [hq], hpre⟩⟩

theorem taken {m' : ControlMessage MessageType} (hta : Taken m m' c c') (hin : c.inFlight = none)
    (hid' : m'.uniqueId = m.uniqueId) (href : m'.ref = m.ref)
    (ht' : m'.messageType = m.messageType) (h : Leads startId refs c) : Leads startId refs c' := by
  obtain ⟨s, hid, ht, hnot, hfly | ⟨pre, post, hq, hpre⟩⟩ := h
  · rw [hin] at hfly
    cases hfly
  · cases hta with
    | transaction hq' =>
      cases pre with
      | nil =>
        obtain ⟨rfl, rfl⟩ := List.cons.inj (hq'.symm.trans hq)
        exact ⟨m', hid'.trans hid, ht'.trans ht, href ▸ hnot, .inl rfl⟩
      | cons x pre =>
        obtain ⟨rfl, rfl⟩ := List.cons.inj (hq'.symm.trans hq)
        exact ⟨s, hid, ht, hnot, .inr ⟨pre, post, rfl, fun y hy => hpre y (.tail _ hy)⟩⟩
    | normal _ => exact ⟨s, hid, ht, hnot, .inr ⟨pre, post, hq, hpre⟩⟩

/-- The message in flight fails. If it is the StartTransaction.req, it is sent again under the new
id, or it is gone. -/
theorem failed {reply : Reply} (hf : Failed cfg reply newId m c c')
    (hin : c.inFlight = some m) (hno : c.uniqueIds.Nodup) (hown : m.ref ∉ refs)
    (h : Leads startId refs c) :
    if m.uniqueId = startId then
      m.messageType = .startTransaction ∧
        if retries cfg m then Leads newId refs c' else startId ∉ c'.uniqueIds
    else Leads startId refs c' := by
  have hg : ∀ e, m.uniqueId ∉ (c.ended cfg m e reply).uniqueIds := fun e =>
    (nodup_cons.mp (((present_ended hin e reply).map _).nodup_iff.mp hno)).1
  obtain ⟨s, hid, ht, hnot, hfly | ⟨pre, post, hq, hpre⟩⟩ := h
  · obtain rfl : m = s := Option.some.inj (hin.symm.trans hfly)
    rw [if_pos hid]
    refine ⟨ht, hf.elim (fun hr => ?_) fun e hr _ => ?_⟩
    · have htr : m.isTransaction := by
        rw [isTransaction, ht]
        rfl
      rw [if_pos hr, retried_eq, if_pos htr]
      exact ⟨again cfg c.now newId m, rfl, ht, hnot, .inr ⟨[], _, rfl, by simp⟩⟩
    · rw [if_neg (by simp [hr]), ← hid]
      exact hg e
  · have hne : m.uniqueId ≠ startId := by
      rintro heq
      refine hg (.answered m) (heq ▸ hid ▸ List.mem_map_of_mem ?_)
      simp [present, ended, hq]
    rw [if_neg hne]
    refine ⟨s, hid, ht, hnot, .inr ?_⟩
    refine hf.elim (fun _ => ?_) fun _ _ _ => ⟨pre, post, hq, hpre⟩
    rw [retried_eq]
    dsimp only
    split_ifs
    · exact ⟨again cfg c.now newId m :: pre, post, congrArg _ hq, forall_mem_cons.mpr ⟨hown, hpre⟩⟩
    · exact ⟨pre, post, hq, hpre⟩

theorem effect {op : Op MessageType} (heff : Effect q op c) (hqu : q.sending op = none)
    (hans : ∀ newId, op ≠ .receive (.callResult startId true) newId)
    (h : Leads startId refs q.toCore) :
    Leads startId refs c ∨ ∃ m newId reply, q.inFlight = some m ∧
      Failed q.config reply newId m q.toCore c := by
  cases heff with
  | substituted ids id =>
    obtain ⟨s, hid, ht, hnot, hin | ⟨pre, post, hq, hpre⟩⟩ := h
    · exact .inl ⟨s, hid, ht, hnot, .inl hin⟩
    · let f : ControlMessage MessageType → ControlMessage MessageType := fun m =>
        if ids.contains m.uniqueId then m.withTransactionId id else m
      have hf : ∀ m, (f m).uniqueId = m.uniqueId ∧ (f m).messageType = m.messageType ∧
          (f m).ref = m.ref := by
        intro m
        dsimp only [f]
        split_ifs <;> exact ⟨rfl, rfl, rfl⟩
      refine .inl ⟨f s, (hf s).1.trans hid, (hf s).2.1.trans ht, (hf s).2.2 ▸ hnot, .inr
        ⟨pre.map f, post.map f, ?_, fun m hm => ?_⟩⟩
      · rw [← map_cons, ← map_append, ← hq]
      · obtain ⟨x, hx, rfl⟩ := mem_map.mp hm
        exact (hf x).2.2 ▸ hpre x hx
  | queued _ _ hc => exact .inl ((h.enqueue q.config _ _).trims hc)
  | sent hop hsel | sendFailed hop hsel => simp [sending, hop, hsel] at hqu
  | failed hm _ hc => exact .inr ⟨_, _, _, hm, hc⟩
  | @answered newId id m hop hm hid =>
    obtain ⟨s, hsid, ht, hnot, hin | hq⟩ := h
    · obtain rfl : m = s := Option.some.inj (hm.symm.trans hin)
      exact absurd hop (hid ▸ hsid ▸ hans newId)
    · rw [handleCallResult_eq hm hid]
      exact .inl ⟨s, hsid, ht, hnot, .inr hq⟩
  | _ => exact .inl h

/-- The worker does not send a message of the transaction before the StartTransaction.req. -/
theorem not_selected {t : QueueType} {W F : Call MessageType → Prop}
    (hsel : q.selected = some (t, m)) (hf : q.toCore.Follows refs W F)
    (h : Leads startId refs q.toCore) : m.ref ∉ refs := by
  obtain ⟨hin, hne⟩ := nextMessage_of_selected hsel
  obtain ⟨s, -, -, hnot, hfly | ⟨pre, post, hq, hpre⟩⟩ := h
  · rw [hin] at hfly
    cases hfly
  · rcases (nextMessage_cases hne).2 with ⟨-, rest, hq'⟩ | ⟨-, hfi⟩
    · cases pre with
      | nil =>
        obtain ⟨rfl, -⟩ := List.cons.inj (hq'.symm.trans hq)
        exact hnot
      | cons x pre =>
        obtain ⟨rfl, -⟩ := List.cons.inj (hq'.symm.trans hq)
        exact hpre m mem_cons_self
    · exact hf.normal m (mem_of_find?_eq_some hfi)

end Leads

/-- What becomes of the StartTransaction.req when a message fails. -/
theorem leads_failed (hs : cp.Sound) {c c' : Core MessageType} {reply : Reply}
    (hf : Failed cp.queue.config reply newId m c c') (hin : c.inFlight = some m)
    (hno : c.uniqueIds.Nodup) (hown : m.ref ∉ cp.messages)
    (hfr : ∃ x ∈ cp.queue.present, x.uniqueId = m.uniqueId ∧ x.messageType = m.messageType)
    (h : Leads cp.startId cp.messages c) :
    Leads (cp.afterFailure m newId).startTransactionMessageId cp.messages c' ∨
      (cp.afterFailure m newId).startTransactionMessageId ∉ c'.uniqueIds := by
  have hle := h.failed hf hin hno hown
  by_cases hid : m.uniqueId = cp.startId
  · rw [if_pos hid] at hle
    obtain ⟨ht, hle⟩ := hle
    have hhas : cp.transaction.hasMessageId m.uniqueId := by
      simp [Transaction.hasMessageId, hid]
    by_cases hr : retries cp.queue.config m
    · exact .inl (by simpa [afterFailure, hr, ht, hhas] using hle)
    · exact .inr (by simpa [afterFailure, hr] using hle)
  · rw [if_neg hid] at hle
    rcases afterFailure_cases m newId cp with hsa | ⟨_, ht, hhas, _⟩
    · exact .inl (hsa ▸ hle)
    · obtain ⟨x, hx, hxid, hxt⟩ := hfr
      exact absurd (hs.hasMessageId hx hxid (hxt.trans ht) hhas) hid

/-! ## Steps of the queue, for the charge point -/

section QueueStep

variable {op : Op MessageType}

/-- A message of the transaction that is sent comes from the transaction queue. -/
theorem expected_of_sending (h : cp.Following) (hse : cp.queue.sending op = some m)
    (hown : m.ref ∈ cp.messages) : cp.Expected m.message := by
  obtain ⟨sendOk, newId, t, c, -, hsel, -⟩ := sending_cases hse
  rcases (nextMessage_cases (nextMessage_of_selected hsel).2).2 with
    ⟨-, rest, hq⟩ | ⟨-, hf⟩
  · exact (h.follows.waiting m (hq ▸ mem_cons_self) hown).2
  · exact absurd hown (h.follows.normal m (mem_of_find?_eq_some hf))

/-- A message of the transaction that is sent while or after its transaction id is handled. -/
theorem flying_of_sending (hord : cp.inOrder (.queue op)) (hhan : cp.handler ≠ .waiting)
    (h : cp.Following) (hse : cp.queue.sending op = some m) (hown : m.ref ∈ cp.messages) :
    cp.Flying (cp.queue.outgoing m).message := by
  have hcar : ∀ {id}, cp.Carries id m.message →
      (cp.queue.outgoing m).message.payload.transactionId = some id := by
    rintro id ⟨h | ⟨h, hp⟩, -⟩
    · simp only [outgoing, uniqueId, h]
      rfl
    · simp only [outgoing, uniqueId, h]
      exact hp
  have hk := expected_of_sending h hse hown
  have hg := (Bool.and_eq_true_iff.mp hord).2
  have hown : cp.messages.contains m.ref := by simpa using hown
  rw [hse] at hg
  simp only [hown, Bool.not_true, Bool.false_or] at hg
  unfold Expected at hk
  unfold Flying
  cases hh : cp.handler with
  | waiting => exact absurd hh hhan
  | received => simp [hh] at hg
  | checked =>
    rw [hh] at hk hg
    refine hcar (hk.resolve_left fun hm => ?_)
    simp [hm.1] at hg
  | notified | handled =>
    rw [hh] at hk
    exact hcar hk

variable (hs : cp.Sound) (hids : cp.keepsIdsApart (.queue op) = true)
    (hord : cp.inOrder (.queue op) = true)

include hids in
theorem fresh_madeId (h : op.madeId = some id) : cp.Fresh id := by
  have hall := (Bool.and_eq_true_iff.mp hids).1
  rw [h, all_some] at hall
  exact fresh_of_not_used (by simpa using hall)

include hs hord in
/-- The transaction keeps everything but the id of its StartTransaction.req, which changes only
while nothing is listed under it. -/
theorem transaction_queue :
    ∃ startId, (cp.step (.queue op)).transaction =
        { cp.transaction with startTransactionMessageId := startId } ∧
      (startId = cp.startId ∨
        cp.queue.listed cp.startId = [] ∧
          cp.startId ∈ cp.queue.uniqueIds ∧
          op.madeId = some startId) := by
  obtain ⟨t, h, heq, ht, -⟩ := onQueue_step cp op
  have htr : (cp.step (.queue op)).transaction = t := congrArg transaction heq
  rw [htr]
  rcases ht with rfl | ⟨m, newId, hf, hnew, ⟨x, hx, hid, hty⟩, rfl⟩
  · exact ⟨_, rfl, .inl rfl⟩
  · rcases afterFailure_cases m newId cp with hsa | ⟨hr, hst, hhas, ha⟩
    · exact ⟨_, hsa, .inl rfl⟩
    · refine ⟨newId, ha, .inr ?_⟩
      have hown := hs.hasMessageId hx hid (hty.trans hst) hhas
      have he := (Bool.and_eq_true_iff.mp hord).1
      rw [hf] at he
      simp only [hst, hr, hown, beq_self_eq_true, Bool.and_self, Bool.not_true,
        Bool.false_or, List.isEmpty_iff] at he
      exact ⟨he, hown ▸ hid ▸ List.mem_map_of_mem hx, madeId_of_newId hnew⟩

include hs hids hord in
/-- A step of the queue does not concern a message of the transaction that it does not send. -/
theorem sameFor_queue (hown : id ∈ cp.ownIds ∨ op.madeId = some id)
    (hse : ∀ m, cp.queue.sending op = some m → m.uniqueId ≠ id) :
    SameFor id cp (cp.step (.queue op)) := by
  have ha := (Bool.and_eq_true_iff.mp hids).2
  have hsto : ∀ transactionId, op ≠ .addStoppedTransactionId id transactionId := by
    rintro transactionId rfl
    rcases hown with hown | hown
    · simp [hown] at ha
    · cases hown
  have hm : ∀ s, op ≠ .addMeterValueMessageId s id := by
    rintro s rfl
    rcases hown with hown | hown
    · simp [hown] at ha
    · cases hown
  have hst : (cp.queue.step op).listed cp.startId = cp.queue.listed cp.startId :=
    listed_step (by rintro x rfl; simp at ha) (by rintro x rfl; simp at ha)
  obtain ⟨startId, ht, hsr⟩ := transaction_queue hs hord
  refine ⟨at?_step hse hsto, fun s => mem_listed_of_step hm,
    fun hmem => ⟨?_, hst.symm ▸ hmem⟩, ?_, rfl⟩
  · rw [ChargePoint.startId, ht]
    refine hsr.resolve_right fun he => ?_
    simp [he.1] at hmem
  · rw [ChargePoint.stopId, ht]
    exact Iff.rfl

include hs hids hord in
theorem following_queue
    (hfly : ∀ m, cp.queue.sending op = some m → m.ref ∈ cp.messages →
      cp.Flying (cp.queue.outgoing m).message)
    (h : cp.Following) : (cp.step (.queue op)).Following := by
  have hsa : ∀ {k}, (k.messageId ∈ cp.ownIds ∨ op.madeId = some k.messageId) →
      (∀ m, cp.queue.sending op = some m → m.uniqueId ≠ k.messageId) → cp.Expected k →
      (cp.step (.queue op)).Expected k :=
    fun hown hse => (sameFor_queue hs hids hord hown hse).expected
  have hr : ∀ {k : Call MessageType} {newId}, op.newId = some newId → cp.Flying k →
      cp.Expected { k with messageId := newId } :=
    fun hnew hk => expected_retry (fresh_madeId hids (madeId_of_newId hnew)) hk
  refine ⟨?_, fun k hk => hsa (.inl (mem_ownIds_of_dispatching hk)) (fun m hm heq => ?_)
    (h.pending k hk)⟩
  · cases hse : cp.queue.sending op with
    | none =>
      have heff := effect_step cp.queue op
      refine (h.follows.effect heff hse ?_ ?_).mono (fun m hm hown hk => ?_) fun m _ _ hk => hk
      · exact fun m newId hin hown hnew hk => hr hnew hk
      · intro startId id hop m hm hown
        refine not_listed_of_expected (h.follows.waiting m hm hown).2 ?_
        subst hop
        simpa [keepsIdsApart, Op.madeId, Op.newId] using hids
      · refine hsa ?_ (by simp [hse]) hk
        rcases heff.present.2 m (mem_append_left _ hm) with
          ⟨x, hx, href, -, hid | hma⟩ | ⟨href, -, hma⟩
        · have hmem := mem_ownIds hx (href ▸ hown)
          rw [hid] at hmem
          exact .inl hmem
        · exact .inr hma
        · exact .inr hma
    | some m =>
      obtain ⟨sendOk, newId, t, c, hop, hsel, ht, hc⟩ := sending_cases hse
      have hsa : ∀ {k}, (k.messageId ∈ cp.ownIds ∨ op.madeId = some k.messageId) →
          m.uniqueId ≠ k.messageId → cp.Expected k → (cp.step (.queue op)).Expected k := by
        refine fun hown hne => hsa hown fun x hx => ?_
        cases hse.symm.trans hx
        exact hne
      have ht' : c.Follows cp.messages (cp.step (.queue op)).Expected cp.Flying := by
        refine h.follows.taken ht (nodup_append.mp hs.nodup).2.1 (by simp) (by simp)
          (fun x hx hown hne => ?_) fun _ hown _ => hfly m hse hown
        exact hsa (.inl (mem_ownIds (mem_append_left _ hx) hown)) hne.symm
      rcases hc with ⟨timer, hc⟩ | ⟨rfl, hf⟩
      · change (cp.queue.step op).toCore.Follows _ _ _
        rw [hc]
        exact { ht' with }
      · have hnew : op.newId = some newId := by
          rw [hop]
          rfl
        have hma := madeId_of_newId hnew
        refine ht'.failed hf ht.inFlight fun hown hk => ?_
        refine hsa (.inr hma) (fun heq => ?_) (hr hnew hk)
        exact (fresh_madeId hids hma).queue (mem_map.mpr ⟨m, mem_present_of_sending hse, heq⟩)
  · refine disjoint_of_nodup_append hs.nodup (List.mem_map_of_mem hk) ?_
    exact heq ▸ List.mem_map_of_mem (mem_present_of_sending hm)

/-- The fields of `Sound` that are about the messages of the queue. -/
theorem Sound.effect {c : Core MessageType} (hs : cp.Sound) (heff : Effect cp.queue op c)
    (hf : ∀ id, op.madeId = some id → cp.Fresh id) :
    (cp.dispatching.map (·.messageId) ++ c.uniqueIds).Nodup ∧
      (∀ m ∈ c.present, m.ref < c.allocated) ∧
      ∀ m ∈ c.present, m.messageType = .startTransaction →
        cp.stopId ≠ some m.uniqueId ∧ cp.stopping ≠ some m.uniqueId := by
  refine ⟨nodup_of_subperm ?_ heff.uniqueIds, heff.numbered hs.allocated, fun m hm ht => ?_⟩
  · cases hma : op.madeId with
    | none => exact hs.nodup
    | some id => exact perm_middle.nodup_iff.mpr ((hf id hma).nodup hs)
  · rcases heff.present.2 m hm with ⟨x, hx, -, ht', hid | hma⟩ | ⟨-, -, hma⟩
    · exact hid ▸ hs.stops x hx (ht'.trans ht)
    · exact ⟨(hf _ hma).stop, (hf _ hma).stopping⟩
    · exact ⟨(hf _ hma).stop, (hf _ hma).stopping⟩

include hs hids hord in
theorem sound_queue (hse : ∀ m, cp.queue.sending op = some m → m.ref ∈ cp.messages →
      ∀ id, cp.handler.transactionId? = some id →
        (cp.queue.outgoing m).message.payload.transactionId = some id) :
    (cp.step (.queue op)).Sound := by
  obtain ⟨hno, ha, hst⟩ := hs.effect (effect_step cp.queue op) fun id hid =>
    fresh_madeId hids hid
  obtain ⟨startId, ht, hsr⟩ := transaction_queue hs hord
  obtain ⟨t, h, heq, -, hh⟩ := onQueue_step cp op
  rw [show cp.step (.queue op) = _ from heq] at ht ⊢
  obtain rfl : t = _ := ht
  refine { hs with
    nodup := hno, allocated := ha, stops := hst, unstarted := fun hmem => ?_,
    handed := fun m hm => ?_ }
  · rcases hsr with hsa | ⟨-, -, hma⟩
    · exact hs.unstarted (hsa ▸ hmem)
    · exact (fresh_madeId hids hma).dispatching hmem
  · rcases hh with rfl | ⟨x, hx, rfl⟩
    · exact hs.handed m hm
    · rcases mem_append.mp hm with hm | hm
      · simp only [handsOver] at hm
        split_ifs at hm with ho
        · obtain rfl := Option.some.inj (mem_toList.mp hm)
          simp only [ref_outgoing, Bool.and_eq_true, contains_iff_mem, isSome_iff_exists] at ho
          obtain ⟨hown, id, hid⟩ := ho
          exact ⟨id, hid, hse x hx hown id hid⟩
        · simp at hm
      · exact hs.handed m hm

include hs hids hord in
theorem gone_queue (h : cp.startId ∉ cp.queue.uniqueIds) :
    (cp.step (.queue op)).startId = cp.startId ∧ cp.startId ∉ (cp.queue.step op).uniqueIds := by
  obtain ⟨startId, ht, hst⟩ := transaction_queue hs hord
  rw [ChargePoint.startId, ht]
  refine ⟨hst.resolve_right fun hn => h hn.2.1, fun hmem => ?_⟩
  rcases mem_append.mp ((effect_step cp.queue op).uniqueIds.subset hmem) with
    hm | hmem
  · exact (fresh_madeId hids (mem_toList.mp hm)).start rfl
  · exact h hmem

include hs hids in
/-- A step of the queue, while the StartTransaction.req is not answered. -/
theorem leads_queue (hF : cp.Following) (hw : cp.handler = .waiting)
    (h : Leads cp.startId cp.messages cp.queue.toCore) :
    Leads (cp.step (.queue op)).startId cp.messages (cp.queue.step op).toCore ∨
      (cp.step (.queue op)).startId ∉ (cp.queue.step op).uniqueIds := by
  have hno : cp.queue.uniqueIds.Nodup := (nodup_append.mp hs.nodup).2.1
  have hans : ∀ newId, op ≠ .receive (.callResult cp.startId true) newId := by
    rintro newId rfl
    simp [keepsIdsApart] at hids
  have hfl : ∀ m, cp.queue.inFlight = some m → m.ref ∉ cp.messages := by
    intro m hm hown
    have hfly := (hF.follows.flying m hm hown).2
    rw [Flying, hw] at hfly
    exact hfly
  have hst : (cp.step (.queue op)).transaction = (cp.onQueue (cp.queue.step op)).transaction := rfl
  rw [ChargePoint.startId, hst]
  cases hse : cp.queue.sending op with
  | none =>
    have heff := effect_step cp.queue op
    have hca : ((cp.onQueue (cp.queue.step op)).transaction = cp.transaction ∧
        Leads cp.startId cp.messages (cp.queue.step op).toCore) ∨
        ∃ m newId reply, cp.queue.inFlight = some m ∧
          Failed cp.queue.config reply newId m cp.queue.toCore (cp.queue.step op).toCore := by
      rcases heff.log hse with ⟨es, hlog, hes⟩ | ⟨m, newId, reply, hin, -, -, hc⟩
      · exact (h.effect heff hse hans).imp_left fun hle =>
          ⟨by rw [onQueue_plain hlog hes], hle⟩
      · exact .inr ⟨m, newId, reply, hin, hc⟩
    rcases hca with ⟨htr, hle⟩ | ⟨m, newId, reply, hin, hc⟩
    · rw [htr]
      exact .inl hle
    · rw [onQueue_failed [] rfl (by simp) hc]
      exact leads_failed hs hc hin hno (hfl _ hin) ⟨_, by simp [present, hin], rfl, rfl⟩ h
  | some m =>
    obtain ⟨sendOk, newId, t, c, hop, hsel, ht, hco⟩ := sending_cases hse
    have hin := (nextMessage_of_selected hsel).1
    have hle : Leads cp.startId cp.messages c :=
      h.taken ht hin (by simp) (by simp) (by simp)
    have hlog : c.log = .sent (cp.queue.outgoing m) :: cp.queue.log := by cases ht <;> rfl
    rcases hco with ⟨timer, hco⟩ | ⟨rfl, hf⟩
    · rw [onQueue_sent (m := cp.queue.outgoing m) (by rw [hco]; exact hlog), hco]
      exact .inl hle
    · rw [onQueue_failed [.sent (cp.queue.outgoing m)] hlog (by simp) hf]
      refine leads_failed hs hf ht.inFlight ?_ ?_
        ⟨m, mem_present_of_sending hse, by simp, by simp⟩ hle
      · exact (ht.uniqueIds hin (by simp)).nodup_iff.mpr hno
      · rw [ref_outgoing]
        exact h.not_selected hsel hF.follows

include hs hids hord in
/-- A step of the queue after the StartTransaction.conf was received. -/
theorem answered_queue (hhan : cp.handler ≠ .waiting) (h : cp.Following) :
    (cp.step (.queue op)).Sound ∧ (cp.step (.queue op)).Following := by
  have hfly : ∀ m, cp.queue.sending op = some m → m.ref ∈ cp.messages →
      cp.Flying (cp.queue.outgoing m).message := fun m => flying_of_sending hord hhan h
  refine ⟨sound_queue hs hids hord fun m hse hown id hid => ?_, following_queue hs hids hord hfly h⟩
  have hfly := hfly m hse hown
  unfold Flying at hfly
  cases hh : cp.handler with
  | waiting => exact absurd hh hhan
  | received => simp [hh] at hfly
  | checked | notified | handled =>
    rw [hh] at hfly hid
    exact hfly.trans hid

include hids hord in
theorem inv_queue (h : cp.Inv) : (cp.step (.queue op)).Inv := by
  have hs := h.toSound
  have hk := h.known
  have hhan : (cp.step (.queue op)).handler = cp.handler := rfl
  unfold Known at hk
  cases hh : cp.handler with
  | waiting =>
    rw [hh] at hk
    have hso : (cp.step (.queue op)).Sound :=
      sound_queue hs hids hord fun m _ _ id hid => by
        simp [hh, ResponseHandler.transactionId?] at hid
    refine ⟨hso, ?_⟩
    unfold Known
    rw [hhan, hh]
    rcases hk with ⟨hle, hF⟩ | hg
    · refine (leads_queue hs hids hF hh hle).imp_left fun hle' => ⟨hle', ?_⟩
      refine following_queue hs hids hord (fun m hse hown => ?_) hF
      obtain ⟨sendOk, newId, t, c, -, hsel, -⟩ := sending_cases hse
      exact absurd hown (hle.not_selected hsel hF.follows)
    · obtain ⟨hst, hg'⟩ := gone_queue hs hids hord hg
      rw [hst]
      exact .inr hg'
  | received id transactionId | checked id transactionId =>
    rw [hh] at hk
    obtain ⟨hid, hg, hF⟩ := hk
    obtain ⟨hso, hF'⟩ := answered_queue hs hids hord (by simp [hh]) hF
    obtain ⟨hst, hg'⟩ := gone_queue hs hids hord hg
    refine ⟨hso, ?_⟩
    unfold Known
    rw [hhan, hh, hst]
    exact ⟨hid, hg', hF'⟩
  | notified transactionId | handled transactionId =>
    rw [hh] at hk
    obtain ⟨hso, hF'⟩ := answered_queue hs hids hord (by simp [hh]) hk
    refine ⟨hso, ?_⟩
    unfold Known
    rw [hhan, hh]
    exact hF'

end QueueStep

/-! ## Steps of the charge point that leave the messages on the queue -/

theorem Following.imp (h : cp.Following) (hc : cp'.queue.toCore = cp.queue.toCore)
    (hmes : cp'.messages = cp.messages)
    (hW : ∀ k, k.messageId ∈ cp.ownIds → cp.Expected k → cp'.Expected k)
    (hF : ∀ k, cp.Flying k → cp'.Flying k)
    (hp : ∀ k ∈ cp'.dispatching, k ∈ cp.dispatching ∨ cp'.Expected k) : cp'.Following := by
  refine ⟨?_, fun k hk => (hp k hk).elim (fun hk => ?_) id⟩
  · rw [hc, hmes]
    refine h.follows.mono (fun m hm hown hk => ?_) fun m _ _ => hF _
    exact hW _ (mem_ownIds (mem_append_left _ hm) hown) hk
  · exact hW k (mem_ownIds_of_dispatching hk) (h.pending k hk)

theorem Known.imp (h : cp.Known) (hh : cp'.handler = cp.handler) (hst : cp'.startId = cp.startId)
    (hle : Leads cp.startId cp.messages cp.queue.toCore →
      Leads cp.startId cp'.messages cp'.queue.toCore)
    (hg : cp.startId ∉ cp.queue.uniqueIds → cp.startId ∉ cp'.queue.uniqueIds)
    (hF : cp.Following → cp'.Following) : cp'.Known := by
  unfold Known at h ⊢
  rw [hh, hst]
  split at h
  · exact h.imp (fun hw => ⟨hle hw.1, hF hw.2⟩) hg
  · exact ⟨h.1, hg h.2.1, hF h.2.2⟩
  · exact ⟨h.1, hg h.2.1, hF h.2.2⟩
  · exact hF h

theorem known_of_same (h : cp.Known) (hc : cp'.queue.toCore = cp.queue.toCore)
    (hm : cp'.messages = cp.messages) (hh : cp'.handler = cp.handler)
    (hst : cp'.startId = cp.startId) (hsa : ∀ id ∈ cp.ownIds, SameFor id cp cp')
    (hp : ∀ k ∈ cp'.dispatching, k ∈ cp.dispatching ∨ cp'.Expected k) : cp'.Known := by
  refine h.imp hh hst (fun hle => by rwa [hc, hm]) (fun hg => by rwa [hc]) fun hF => ?_
  refine hF.imp hc hm (fun k hk => (hsa _ hk).expected) (fun k hk => ?_) hp
  unfold Flying at hk ⊢
  rwa [hh]

theorem Sound.call (h : cp.Sound) (hf : cp.Fresh k.messageId)
    (hact : k.action = .meterValues ∨ k.action = .stopTransaction) :
    ChargePoint.Sound { cp with dispatching := k :: cp.dispatching } :=
  { h with
    nodup := hf.nodup h
    unstarted := fun hmem =>
      (mem_cons.mp hmem).elim (fun heq => hf.start heq.symm) h.unstarted
    pending := forall_mem_cons.mpr ⟨hact, h.pending⟩ }

theorem inv_sendMeterValue (hids : cp.keepsIdsApart (.sendMeterValue id))
    (hord : cp.inOrder (.sendMeterValue id)) (h : cp.Inv) : (cp.step (.sendMeterValue id)).Inv := by
  have hf : cp.Fresh id := fresh_of_not_used (by simpa [keepsIdsApart] using hids)
  have ht := h.transactionId
  simp only [step, sendMeterValue]
  split_ifs with hfin
  · exact h
  · cases htid : cp.transaction.transactionId with
    | some transactionId =>
      have hhan : cp.handler = .handled transactionId := by
        rw [htid] at ht
        split at ht
        · rename_i hh
          rw [hh, Option.some.inj ht]
        · cases ht
      refine ⟨h.toSound.call hf (.inl rfl), known_of_same h.known rfl rfl rfl rfl
        (fun x _ => .of_idMaps rfl rfl Iff.rfl rfl)
        (forall_mem_cons.mpr ⟨.inr ?_, fun k hk => .inl hk⟩)⟩
      rw [hhan]
      exact ⟨.inr ⟨hf.at?, rfl⟩, hf.listed⟩
    | none =>
      have hl := fun s => listed_addMeterValueMessageId cp.startId id s cp.queue
      refine ⟨{ h.toSound.call (k := ⟨id, .meterValues, {}⟩) hf (.inl rfl) with },
        known_of_same h.known rfl rfl rfl rfl
          (fun x hx => ⟨rfl, fun s hmem => ?_, fun hmem => ⟨rfl, ?_⟩, Iff.rfl, rfl⟩)
          (forall_mem_cons.mpr ⟨.inr ?_, fun k hk => .inl hk⟩)⟩
      · rw [hl] at hmem
        split_ifs at hmem with hs
        · rcases mem_append.mp hmem with hmem | hmem
          · rwa [hs]
          · exact absurd (mem_singleton.mp hmem ▸ hx) hf.not_own
        · exact hmem
      · rw [hl, if_pos rfl]
        exact mem_append_left _ hmem
      · cases hh : cp.handler with
        | waiting | received | checked =>
          refine .inl ⟨rfl, ?_, hf.at?, fun s hs => ?_, not_or.mpr ⟨hf.stop, hf.stopping⟩⟩
          · rw [hl, if_pos rfl]
            exact mem_append_right _ mem_cons_self
          · rw [hl, if_neg hs]
            exact hf.listed s
        | notified => simp [inOrder, hh] at hord
        | handled transactionId =>
          rw [hh, htid] at ht
          cases ht

theorem inv_stopTransaction (hids : cp.keepsIdsApart (.stopTransaction id))
    (hord : cp.inOrder (.stopTransaction id)) (h : cp.Inv) :
    (cp.step (.stopTransaction id)).Inv := by
  have hf : cp.Fresh id := fresh_of_not_used (by simpa [keepsIdsApart] using hids)
  simp only [step, stopTransaction]
  split_ifs with hg
  · exact h
  · simp only [Bool.or_eq_true, isSome_iff_ne_none, not_or, Bool.not_eq_true, ne_eq, not_not] at hg
    obtain ⟨hfin, hno⟩ := hg
    have hst : cp.stopId = none := by
      have := h.finished
      rw [hfin] at this
      simpa using this.symm
    refine ⟨{ h.toSound.call (k := ⟨id, .stopTransaction, _⟩) hf (.inr rfl) with
      stops := fun m hm hty => ⟨(h.stops m hm hty).1, fun heq => ?_⟩
      once := fun _ => hst }, known_of_same h.known rfl rfl rfl rfl
        (fun x hx => .of_idMaps rfl rfl ?_ rfl)
        (forall_mem_cons.mpr ⟨.inr ?_, fun k hk => .inl hk⟩)⟩
    · exact hf.queue (Option.some.inj heq ▸ List.mem_map_of_mem hm)
    · have hne : id ≠ x := fun heq => hf.not_own (heq ▸ hx)
      simp [hno, hne]
    · have ht := h.transactionId
      cases hh : cp.handler with
      | waiting | received => exact .inr ⟨rfl, hf.at?, hf.listed, .inr rfl⟩
      | checked | notified => simp [inOrder, hh] at hord
      | handled transactionId =>
        rw [hh] at ht
        refine ⟨.inr ⟨hf.at?, ?_⟩, hf.listed⟩
        rw [ht, getD_some]

theorem inv_setFinished (h : cp.Inv) : (cp.step .setFinished).Inv := by
  simp only [step, setFinished]
  cases hsto : cp.stopping with
  | none => exact h
  | some id =>
    have hst : cp.transaction.stopTransactionMessageId = none := h.once (by simp [hsto])
    dsimp only
    split_ifs
    · exact h
    · refine ⟨{ h.toSound with
        stops := fun m hm ht => ⟨hsto ▸ (h.stops m hm ht).2, nofun⟩
        finished := rfl
        once := nofun }, known_of_same h.known rfl rfl rfl rfl
          (fun x hx => .of_idMaps rfl rfl ?_ rfl) fun k hk => .inl hk⟩
      simp [ChargePoint.stopId, hst, hsto]

theorem inv_setTransactionId (h : cp.Inv) : (cp.step .setTransactionId).Inv := by
  obtain ⟨queue, transaction, stopping, dispatching, handler, messages, handed⟩ := cp
  cases handler with
  | notified transactionId =>
    exact ⟨{ h.toSound with transactionId := rfl },
      Following.imp h.known rfl rfl (fun _ _ hk => hk) (fun _ hk => hk) fun _ hk => .inl hk⟩
  | _ => exact h

/-- `add_stopped_transaction_id` registers the StopTransaction.req. -/
theorem addStoppedTransactionId_spec (hfin : cp.transaction.finished = cp.stopId.isSome)
    (transactionId : Int) :
    (cp.addStoppedTransactionId transactionId).toCore = cp.queue.toCore ∧
      (∀ s, (cp.addStoppedTransactionId transactionId).listed s = cp.queue.listed s) ∧
      ∀ x, (cp.addStoppedTransactionId transactionId).messageIdTransactionIdMap.at? x =
        if cp.stopId = some x then some transactionId
        else cp.queue.messageIdTransactionIdMap.at? x := by
  unfold ChargePoint.stopId at *
  unfold addStoppedTransactionId
  rw [hfin]
  cases hst : cp.transaction.stopTransactionMessageId with
  | none => exact ⟨rfl, fun _ => rfl, fun x => by simp⟩
  | some stopId =>
    refine ⟨rfl, fun _ => rfl, fun x => ?_⟩
    simp only [isSome_some, State.addStoppedTransactionId, Entries.at?_put, some_inj, eq_comm]

/-- The StopTransaction.req of a finished transaction gets its transaction id. -/
theorem inv_checkFinished (hord : cp.inOrder .checkFinished) (h : cp.Inv) :
    (cp.step .checkFinished).Inv := by
  simp only [step, checkFinished]
  split
  · rename_i id transactionId hh
    obtain ⟨hc, hl, hat⟩ := addStoppedTransactionId_spec h.finished transactionId
    generalize cp.addStoppedTransactionId transactionId = q at hc hl hat
    obtain ⟨queue, transaction, stopping, dispatching, handler, messages, handed⟩ := cp
    obtain rfl : handler = _ := hh
    obtain ⟨hid, hg, hF⟩ := h.known
    obtain rfl : id = transaction.startTransactionMessageId := hid
    obtain rfl : stopping = none := by simpa [inOrder] using hord
    rw [if_pos (by simp [Transaction.hasMessageId])]
    have hs := h.toSound
    refine ⟨{ hs with
      nodup := hc ▸ hs.nodup, allocated := hc ▸ hs.allocated, stops := hc ▸ hs.stops },
      rfl, hc ▸ hg, hF.imp hc rfl (fun k _ hk => ?_) (fun k hk => hk.elim) fun k hk => .inl hk⟩
    rcases hk with ⟨hact, hmem, hno, ho, hst⟩ | ⟨-, -, hnot, hst⟩
    · refine .inl ⟨hact, hl _ ▸ hmem, ?_, fun s hs => hl s ▸ ho s hs, hst⟩
      exact (hat _).trans ((if_neg (not_or.mp hst).1).trans hno)
    · have hst := hst.resolve_right nofun
      exact .inr ⟨.inl ((hat _).trans (if_pos hst)), fun s => hl s ▸ hnot s⟩
  · exact h

/-- The MeterValues.req of the transaction get their transaction id. -/
theorem inv_notifyHandled (hord : cp.inOrder .notifyHandled) (h : cp.Inv) :
    (cp.step .notifyHandled).Inv := by
  obtain ⟨queue, transaction, stopping, dispatching, handler, messages, handed⟩ := cp
  cases handler with
  | checked id transactionId =>
    obtain ⟨hid, -, hF⟩ := h.known
    obtain rfl : id = transaction.startTransactionMessageId := hid
    obtain ⟨hno, ha, hst⟩ := h.toSound.effect (effect_step queue
      (.notifyStartTransactionHandled transaction.startTransactionMessageId transactionId)) nofun
    have hl : ∀ s, (queue.notifyStartTransactionHandled
        transaction.startTransactionMessageId transactionId).listed s = _ := fun s =>
      listed_notifyStartTransactionHandled _ s transactionId queue
    have hnot : ∀ {k : Call MessageType}, (∀ s, s ≠ transaction.startTransactionMessageId →
        k.messageId ∉ queue.listed s) → ∀ s, k.messageId ∉ (queue.notifyStartTransactionHandled
          transaction.startTransactionMessageId transactionId).listed s := by
      intro k hk s
      rw [hl]
      split_ifs with hs
      · exact not_mem_nil
      · exact hk s hs
    have hn : ∀ k ∈ dispatching, k.action ≠ .meterValues := by
      simpa [inOrder] using hord
    refine ⟨{ h.toSound with nodup := hno, allocated := ha, stops := hst },
      ⟨fun m hm hown => ?_, hF.follows.flying, hF.follows.normal, hF.follows.bounded⟩,
      fun k hk => ?_⟩
    · obtain ⟨x, hx, rfl⟩ := mem_map.mp hm
      split_ifs at hown ⊢ with hmem
      · obtain ⟨ht, hk⟩ := hF.follows.waiting x hx hown
        rcases hk with ⟨-, -, hnn, ho, -⟩ | hk
        · exact ⟨ht, .inr ⟨hnn, rfl⟩, hnot ho⟩
        · exact absurd (contains_iff_mem.mp hmem) (hk.2 _)
      · obtain ⟨ht, hk⟩ := hF.follows.waiting x hx hown
        rcases hk with hk | hk
        · exact absurd (contains_iff_mem.mpr hk.2.1) hmem
        · exact ⟨ht, hk.1, hnot fun s _ => hk.2 s⟩
    · have hk' := (hF.pending k hk).resolve_left fun hme => hn k hk hme.1
      exact ⟨hk'.1, hnot fun s _ => hk'.2 s⟩
  | _ => exact h

/-! ## Pushing and answering -/

/-- A message of the transaction is pushed: it is queued, or the queue is not running. -/
theorem pushCall_transaction (q : State MessageType) (call : Call MessageType) (seen : Flags)
    (delay : Nat) (stall : Bool) (hact : isTransactionMessage call.action) :
    q.pushCall ⟨call, seen, delay⟩ stall = q ∨
      (q.pushCall ⟨call, seen, delay⟩ stall).idMaps = q.idMaps ∧
      (q.pushCall ⟨call, seen, delay⟩ stall).toCore = ((q.create false).enqueue q.config
          (q.newControlMessage ⟨call, seen, delay⟩ stall)).checkQueueSizes q.config := by
  have ht : (q.newControlMessage ⟨call, seen, delay⟩ stall).isTransaction := hact
  have hm := State.idMaps_step q (.pushCall ⟨call, seen, delay⟩ stall)
  simp only [State.step] at hm
  unfold State.pushCall at hm ⊢
  split_ifs at hm ⊢
  · exact .inl rfl
  · refine .inr ⟨hm, ?_⟩
    rw [if_pos ht, ← addToTransactionMessageQueue_eq ht]
    rfl

theorem queuedRefs_trimmed (hes : ∀ e ∈ es, ∃ x, e = .trimmed x) :
    queuedRefs (es ++ [.queued m]) = [m.ref] := by
  unfold queuedRefs
  rw [filterMap_append, filterMap_eq_nil_iff.mpr fun e he => ?_]
  · rfl
  · obtain ⟨x, rfl⟩ := hes e he
    rfl

/-- A call of the transaction is not pushed, since the queue is not running. -/
theorem inv_undispatched (n : Nat) (h : cp.Inv) :
    ChargePoint.Inv { cp with dispatching := cp.dispatching.eraseIdx n } := by
  have hsub : (cp.dispatching.eraseIdx n).Sublist cp.dispatching := eraseIdx_sublist ..
  refine ⟨{ h.toSound with
    nodup := h.nodup.sublist ((hsub.map _).append_right _)
    unstarted := fun hmem => h.unstarted ((hsub.map _).subset hmem)
    pending := fun k hk => h.pending k (hsub.subset hk) }, ?_⟩
  exact known_of_same h.known rfl rfl rfl rfl (fun x _ => .of_idMaps rfl rfl Iff.rfl rfl)
    fun k hk => .inl (hsub.subset hk)

theorem inv_dispatched {n : Nat} {call : Call MessageType} {P : ControlMessage MessageType → Prop}
    (hn : cp.dispatching[n]? = some call) (hm : m.message = call)
    (ht : m.messageType = call.action) (href : m.ref = cp.queue.allocated)
    (hma : q.idMaps = cp.queue.idMaps)
    (hc : Trims cp.queue.config P ((cp.queue.create false).enqueue cp.queue.config m) q.toCore)
    (h : cp.Inv) :
    ChargePoint.Inv { cp with
      queue := q
      dispatching := cp.dispatching.eraseIdx n
      messages := m.ref :: cp.messages } := by
  have hmem : call ∈ cp.dispatching := mem_of_getElem? hn
  have hact := h.pending call hmem
  have hu := (inv_undispatched n h).toSound
  have htr : m.isTransaction := by
    rcases hact with ha | ha <;>
      simp [isTransaction, ht, ha, isTransactionMessage]
  have hid : m.uniqueId = call.messageId := by rw [uniqueId, hm]
  have hal : q.allocated = cp.queue.allocated + 1 := by simp [hc.kept.allocated]
  have hp := present_enqueue cp.queue.config m (cp.queue.create false)
  have hpre : ∀ x ∈ q.present, x = m ∨ x ∈ cp.queue.present := fun x hx =>
    mem_cons.mp (hp.subset (hc.present.subset hx))
  have hno : ((cp.dispatching.eraseIdx n).map (·.messageId) ++ q.uniqueIds).Nodup := by
    have hre : cp.dispatching.Perm (call :: cp.dispatching.eraseIdx n) := by
      obtain ⟨hlt, rfl⟩ := List.getElem?_eq_some_iff.mp hn
      exact (getElem_cons_eraseIdx_perm hlt).symm
    have hall := ((hre.map (·.messageId)).append_right cp.queue.uniqueIds).nodup_iff.mp h.nodup
    refine nodup_of_subperm (perm_middle.nodup_iff.mpr hall) ?_
    change q.uniqueIds.Subperm (call.messageId :: _)
    rw [← hid]
    exact (hc.present.map _).subperm.trans (hp.map _).subperm
  refine ⟨{ hu with
    nodup := hno, allocated := fun x hx => ?_, stops := fun x hx hst => ?_ },
    h.known.imp rfl rfl (fun hle => ?_) (fun hg hmem' => ?_) fun hF => ?_⟩
  · rw [hal]
    rcases hpre x hx with rfl | hx
    · exact href ▸ Nat.lt_succ_self _
    · exact Nat.lt_succ_of_lt (h.allocated x hx)
  · rcases hpre x hx with rfl | hx
    · rw [ht] at hst
      rcases hact with ha | ha <;> (rw [ha] at hst; cases hst)
    · exact h.stops x hx hst
  · exact ((hle.extend fun x hx => href ▸ (h.allocated x hx).ne).enqueue _ m false).trims hc
  · obtain ⟨x, hx, hxid⟩ := mem_map.mp hmem'
    rcases hpre x hx with rfl | hx
    · exact h.unstarted (hxid ▸ hid ▸ List.mem_map_of_mem hmem)
    · exact hg (hxid ▸ List.mem_map_of_mem hx)
  · have hsa : ∀ id, SameFor id cp { cp with
        queue := q
        dispatching := cp.dispatching.eraseIdx n
        messages := m.ref :: cp.messages } := fun id => .of_idMaps hma rfl Iff.rfl rfl
    have hold : ∀ x ∈ cp.queue.present, x.ref ∈ m.ref :: cp.messages → x.ref ∈ cp.messages :=
      fun x hx hmem => (mem_cons.mp hmem).resolve_left (href ▸ (h.allocated x hx).ne)
    have hrf : ∀ r ∈ m.ref :: cp.messages, r ≤ cp.queue.allocated :=
      forall_mem_cons.mpr ⟨href.le, fun r hr => (hF.follows.bounded r hr).le⟩
    have hf := (hF.follows.enqueue cp.queue.config false hold
      (fun _ => ⟨htr, hm ▸ hF.pending call hmem⟩) hrf).trims hc
    exact ⟨hf.mono (fun x _ _ => (hsa _).expected) fun x _ _ hk => hk, fun k hk =>
      (hsa _).expected (hF.pending k ((eraseIdx_sublist ..).subset hk))⟩

theorem inv_dispatch (n : Nat) (seen : Flags) (delay : Nat) (stall : Bool) (h : cp.Inv) :
    (cp.step (.dispatch n seen delay stall)).Inv := by
  simp only [step, dispatch]
  cases hn : cp.dispatching[n]? with
  | none => exact h
  | some call =>
    dsimp only
    have hact : isTransactionMessage call.action := by
      rcases h.pending call (mem_of_getElem? hn) with ha | ha <;> rw [ha] <;> rfl
    rcases pushCall_transaction cp.queue call seen delay stall hact with hq | ⟨hm, hco⟩
    · have hlog : cp.queue.log = [] ++ cp.queue.log := rfl
      rw [hq, onQueue_plain hlog (by simp), newEvents_eq hlog]
      exact inv_undispatched n h
    · have hc := trims_checkQueueSizes cp.queue.config ((cp.queue.create false).enqueue
        cp.queue.config (cp.queue.newControlMessage ⟨call, seen, delay⟩ stall))
      rw [← hco] at hc
      obtain ⟨es, hlog, hes⟩ := hc.log
      have hlog : (cp.queue.pushCall ⟨call, seen, delay⟩ stall).log =
          (es ++ [.queued (cp.queue.newControlMessage ⟨call, seen, delay⟩ stall)]) ++
            cp.queue.log := by
        rw [hlog, enqueue_eq, append_assoc]
        rfl
      rw [onQueue_plain hlog fun e he => ?_, newEvents_eq hlog, queuedRefs_trimmed hes]
      · have h' := inv_dispatched hn rfl rfl rfl hm hc h
        exact h'
      · rcases mem_append.mp he with he | he
        · obtain ⟨x, rfl⟩ := hes e he
          simp [Event.Plain]
        · rw [mem_singleton.mp he]
          simp [Event.Plain]

/-- The StartTransaction.conf is received: nothing is in flight any more. -/
theorem inv_answered (hh : cp.handler = .waiting) (hin : cp.queue.inFlight = some m)
    (hid : m.uniqueId = cp.startId) (transactionId : Int) (newId : MessageId) (h : cp.Inv) :
    ChargePoint.Inv { cp.onQueue (cp.queue.receive newId (.callResult m.uniqueId true)) with
      handler := .received m.uniqueId transactionId } := by
  have hc : (cp.queue.receive newId (.callResult m.uniqueId true)).toCore =
      cp.queue.toCore.ended cp.queue.config m (.answered m) (.result m.uniqueId) := by
    simp only [receive, receiveResult, hin, bne_self_eq_false, Bool.false_eq_true,
      if_false, onCore, handleCallResult_eq hin rfl]
  have hm : (cp.queue.receive newId (.callResult m.uniqueId true)).idMaps = cp.queue.idMaps :=
    State.idMaps_step cp.queue (.receive (.callResult m.uniqueId true) newId)
  generalize cp.queue.receive newId (.callResult m.uniqueId true) = q at hc hm
  have hlog : q.log = [.promiseSet m.ref (.result m.uniqueId), .answered m] ++ cp.queue.log := by
    rw [hc]
    rfl
  rw [onQueue_plain hlog (by simp [Event.Plain])]
  obtain ⟨queue, transaction, stopping, dispatching, handler, messages, handed⟩ := cp
  obtain rfl : handler = _ := hh
  have hp : queue.present.Perm (m :: q.present) := hc ▸ present_ended hin _ _
  have hall : (m.uniqueId :: (dispatching.map (·.messageId) ++ q.uniqueIds)).Nodup :=
    perm_middle.nodup_iff.mp (((hp.map _).append_left _).nodup_iff.mp h.nodup)
  have hmem : ∀ x ∈ q.present, x ∈ queue.present := fun x hx =>
    hp.symm.subset (mem_cons_of_mem m hx)
  obtain ⟨-, hF⟩ := h.known.resolve_right fun hnot =>
    hnot (hid ▸ List.mem_map_of_mem (hp.symm.subset mem_cons_self))
  have hsa : ∀ id, SameFor id
      ⟨queue, transaction, stopping, dispatching, .waiting, messages, handed⟩
      ⟨q, transaction, stopping, dispatching, .waiting, messages, handed⟩ := fun id =>
    .of_idMaps hm rfl Iff.rfl rfl
  have hs := h.toSound
  refine ⟨{ hs with
    nodup := (nodup_cons.mp hall).2
    allocated := fun x hx => ?_
    stops := fun x hx => hs.stops x (hmem x hx)
    handed := fun x hx => ?_ }, hid, fun hg => ?_, ?_, fun k hk => ?_⟩
  · rw [hc]
    exact hs.allocated x (hmem x hx)
  · obtain ⟨id, hno, -⟩ := hs.handed x hx
    cases hno
  · exact (nodup_cons.mp hall).1 (hid ▸ mem_append_right _ hg)
  · have hf : q.toCore.Follows _ _ _ := hc ▸ hF.follows.kept (kept_ended ..) (by rintro _ ⟨⟩)
    exact hf.mono (fun x _ _ => (hsa _).expected) fun _ _ _ hk => hk
  · exact (hsa _).expected (hF.pending k hk)

theorem inv_startTransactionResponse (transactionId : Int) (newId : MessageId) (h : cp.Inv) :
    (cp.step (.startTransactionResponse transactionId newId)).Inv := by
  simp only [step, startTransactionResponse]
  cases hh : cp.handler with
  | waiting =>
    cases hin : cp.queue.inFlight with
    | none => exact h
    | some m =>
      dsimp only
      split_ifs with hg
      · simp only [Bool.and_eq_true, beq_iff_eq] at hg
        exact inv_answered hh hin hg.2 transactionId newId h
      · exact h
  | _ => exact h

/-! ## Runs -/

theorem inv_start (hnum : ∀ m ∈ q.present, m.ref < q.allocated) {messageId : MessageId}
    (hids : (messageId :: q.uniqueIds).Nodup) (internalTransactionId : Int) (seen : Flags)
    (delay : Nat) (stall : Bool) :
    (start q internalTransactionId messageId seen delay stall).Inv := by
  obtain ⟨hg, hno⟩ := nodup_cons.mp hids
  unfold start
  rcases pushCall_transaction q ⟨messageId, .startTransaction, {}⟩ seen delay stall rfl with
    hq | ⟨-, hco⟩
  · rw [hq]
    exact ⟨⟨hno, hnum, fun x _ _ => ⟨by simp, by simp⟩, by simp, by simp, rfl, rfl, by simp,
      by simp⟩, .inr hg⟩
  · generalize hm : q.newControlMessage ⟨⟨messageId, .startTransaction, {}⟩, seen, delay⟩ stall = m
      at hco
    have hid : m.uniqueId = messageId := by rw [← hm]; rfl
    have ht : m.messageType = .startTransaction := by rw [← hm]; rfl
    have href : m.ref = q.allocated := by rw [← hm]; rfl
    have htr : m.isTransaction := by
      rw [isTransaction, ht]
      rfl
    have hc := trims_checkQueueSizes q.config ((q.create false).enqueue q.config m)
    rw [← hco] at hc
    have hle : Leads messageId [] ((q.create false).enqueue q.config m) :=
      ⟨m, hid, ht, by simp, .inr ⟨q.transactionMessageQueue, [], by simp [htr], by simp⟩⟩
    refine ⟨⟨?_, fun x hx => ?_, fun x _ _ => ⟨by simp, by simp⟩, by simp, by simp, rfl, rfl,
      by simp, by simp⟩, .inl ⟨hle.trims hc, ⟨by simp, by simp, by simp, by simp⟩, by simp⟩⟩
    · refine nodup_of_subperm (l := []) (hid ▸ hids) ?_
      exact (hc.present.map _).subperm.trans ((present_enqueue ..).map _).subperm
    · rw [hc.kept.allocated, enqueue_eq]
      rcases mem_cons.mp ((present_enqueue ..).subset (hc.present.subset hx)) with
        rfl | hx
      · rw [href]
        exact Nat.lt_succ_self _
      · exact Nat.lt_succ_of_lt (hnum x hx)

/-- A step that is in order keeps what is known of the messages of the transaction. -/
theorem inv_step (cp : ChargePoint) (act : Act)
    (hact : cp.keepsIdsApart act ∧ cp.inOrder act) (h : cp.Inv) : (cp.step act).Inv := by
  cases act with
  | queue op => exact inv_queue hact.1 hact.2 h
  | sendMeterValue messageId => exact inv_sendMeterValue hact.1 hact.2 h
  | stopTransaction messageId => exact inv_stopTransaction hact.1 hact.2 h
  | dispatch n seen delay stall => exact inv_dispatch n seen delay stall h
  | setFinished => exact inv_setFinished h
  | startTransactionResponse transactionId newId =>
    exact inv_startTransactionResponse transactionId newId h
  | checkFinished => exact inv_checkFinished hact.2 h
  | notifyHandled => exact inv_notifyHandled hact.2 h
  | setTransactionId => exact inv_setTransactionId h

end ChargePoint

/-- **Every message gets its transaction id**: a transaction is started on a queue that has run in
any way, and from then on the threads take their steps in any order. If message ids are not used
twice and every step is in order, then each MeterValues.req and each StopTransaction.req of the
transaction that is handed to `send_callback` after the StartTransaction.conf was received carries
the transaction id of the StartTransaction.conf. -/
theorem transaction_id_substituted {cfg : MessageQueueConfig MessageType} {ignore : Bool}
    {db : Database MessageType} {now : Int} {before : List (Op MessageType)}
    {internalTransactionId : Int} {messageId : MessageId} {seen : Flags} {delay : Nat}
    {stall : Bool} {acts : List Act}
    (hids : (messageId :: (runFrom (boot cfg ignore db now) before).uniqueIds).Nodup)
    (hacts : Machine.Along step (fun cp act => cp.keepsIdsApart act = true ∧ cp.inOrder act = true)
      (.start (runFrom (boot cfg ignore db now) before) internalTransactionId messageId seen delay
        stall) acts) :
    let cp := (start (runFrom (boot cfg ignore db now) before) internalTransactionId
      messageId seen delay stall).run acts
    ∀ m ∈ cp.handed, ∃ id, cp.handler.transactionId? = some id ∧
      m.message.payload.transactionId = some id := by
  have hst := inv_start (numbered_run cfg ignore db now before) hids
    internalTransactionId seen delay stall
  exact (Machine.run_invariant_along inv_step acts hacts hst).handed

/-- A charge point that has started a transaction with the message 1. -/
def startedChargePoint : ChargePoint :=
  .start (runFrom (boot {} false {} 0) [.resume 0]) (-1) 1 ⟨true, false, false⟩ 0 false

/-- The StartTransaction.conf is received and handled, and the next message sent. -/
def answerAndSend : List Act :=
  [.startTransactionResponse 77 0, .checkFinished, .notifyHandled, .setTransactionId,
    .queue (.workerPass true 0)]

/-- The MeterValues.req is queued while the StartTransaction.req is in flight. -/
theorem meter_values_get_transaction_id :
    let cp := startedChargePoint.run
      ([.queue (.workerPass true 0), .sendMeterValue 2, .dispatch 0 ⟨true, false, false⟩ 0 false] ++
        answerAndSend)
    cp.handed ≠ [] ∧ ∀ m ∈ cp.handed, m.message.payload.transactionId = some 77 := by
  refine ⟨by decide, fun m hm => ?_⟩
  obtain ⟨id, hid, hm⟩ := transaction_id_substituted (by decide) (by decide) m hm
  rw [hm, ← hid]
  decide

/-- The MeterValues.req is queued before the first attempt to send the StartTransaction.req fails.
After the second attempt is answered it is sent without a transaction id. -/
theorem transaction_id_lost :
    let cp := startedChargePoint.run
      ([.sendMeterValue 2, .dispatch 0 ⟨true, false, false⟩ 0 false, .queue (.workerPass false 11),
        .queue (.advance 30000000000), .queue .notifyQueueTimer, .queue (.workerPass true 0)] ++
        answerAndSend)
    cp.handler.transactionId? = some 77 ∧
      cp.handed.map (fun m => (m.uniqueId, m.messageType, m.message.payload.transactionId)) =
        [(2, .meterValues, none)] := by
  decide

end EverestCore.Ocpp.V16

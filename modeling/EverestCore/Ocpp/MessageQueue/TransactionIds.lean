import EverestCore.Ocpp.MessageQueue.Effects
import Mathlib.Data.List.Nodup
import Mathlib.Data.List.Perm.Subperm

/-!
# The ids of messages and of transactions

`message_id_transaction_id_map` and `start_transaction_mid_meter_values_mid_map` are keyed by
message ids, and a message that is sent again gets a new one. This module says what a step does to
the maps and to the ids of the messages, and follows a given set of messages through a step.

Results:
* `State.idMaps_step`: what a step does to the maps.
* `Effect.uniqueIds`: a step makes at most the id `Op.madeId`.
* `Core.Follows.effect`, `Core.Follows.taken`: what is known of the messages after a step.
-/

namespace EverestCore.Ocpp.MessageQueue

open Ocpp.MessageType List Nat MessageQueue.Core State Entries

/-! ## The maps -/

namespace Entries

variable {α : Type}

theorem at?_erase (k k' : MessageId) (es : Entries α) :
    (erase k es).at? k' = if k' = k then none else es.at? k' := by
  unfold at? erase
  rw [List.find?_filter]
  split_ifs with hk
  · simp [hk]
  · congr 2
    funext e
    by_cases he : e.1 = k'
    · simp [he, hk]
    · simp [he]

theorem at?_put (k k' : MessageId) (a : α) (es : Entries α) :
    (put k a es).at? k' = if k' = k then some a else es.at? k' := by
  have he := at?_erase k k' es
  unfold put
  split_ifs with hk
  · simp [at?, hk]
  · rw [if_neg hk] at he
    rw [← he]
    simp [at?, Ne.symm hk]

end Entries

variable {M : Type}

namespace State

/-- The MeterValues.req that wait for the StartTransaction.req `startId` to be handled. -/
def listed (startId : MessageId) (q : State M) : List MessageId :=
  (q.startTransactionMidMeterValuesMidMap.at? startId).getD []

variable {q : State M} {op : Op M}

theorem listed_of_idMaps {q' : State M} (h : q'.idMaps = q.idMaps) (startId : MessageId) :
    q'.listed startId = q.listed startId := by
  have hsnd : q'.startTransactionMidMeterValuesMidMap = q.startTransactionMidMeterValuesMidMap :=
    congrArg Prod.snd h
  rw [listed, hsnd, listed]

variable [MessageType M] [DecidableEq M]

/-- The message that a step hands to `send_callback`. -/
def sending (q : State M) : Op M → Option (ControlMessage M)
  | .workerPass _ _ => q.selected.map (·.2)
  | _ => none

/-- A step that hands a message to `send_callback` is a pass of the worker. -/
theorem sending_cases {m : ControlMessage M} (h : q.sending op = some m) :
    ∃ sendOk newId t c, op = .workerPass sendOk newId ∧ q.selected = some (t, m) ∧
      Taken m (q.outgoing m) q.toCore c ∧
      ((∃ timer, (q.step op).toCore = { c with inFlightTimeoutTimer := some timer }) ∨
        sendOk = false ∧ Failed q.config .offline newId (q.outgoing m) c (q.step op).toCore) := by
  cases op with
  | workerPass sendOk newId =>
    obtain ⟨⟨t, x⟩, hsel, rfl⟩ := Option.map_eq_some_iff.mp h
    rcases workerPass_cases sendOk newId q with ⟨hno, _⟩ | ⟨t', m', hsel', hc, _⟩
    · exact absurd (hsel.symm.trans hno) nofun
    · cases hsel.symm.trans hsel'
      obtain ⟨c, ht, hend⟩ := send_cases hsel sendOk newId
      refine ⟨sendOk, newId, t, c, rfl, hsel, ht, ?_⟩
      rw [show (q.step (.workerPass sendOk newId)).toCore = _ from hc]
      cases sendOk with
      | true => exact .inl hend
      | false => exact .inr ⟨rfl, hend⟩
  | _ => cases h

theorem idMaps_step (q : State M) (op : Op M) :
    (q.step op).idMaps = match op with
      | .workerPass _ _ =>
        (match q.sending op with
          | some m => q.messageIdTransactionIdMap.erase m.uniqueId
          | none => q.messageIdTransactionIdMap, q.startTransactionMidMeterValuesMidMap)
      | .addStoppedTransactionId id transactionId =>
        (q.messageIdTransactionIdMap.put id transactionId, q.startTransactionMidMeterValuesMidMap)
      | .addMeterValueMessageId startId id =>
        (q.messageIdTransactionIdMap,
          q.startTransactionMidMeterValuesMidMap.put startId (q.listed startId ++ [id]))
      | .notifyStartTransactionHandled startId _ =>
        (q.messageIdTransactionIdMap, q.startTransactionMidMeterValuesMidMap.erase startId)
      | _ => q.idMaps := by
  cases op with
  | workerPass sendOk newId =>
    rcases workerPass_cases sendOk newId q with ⟨hno, _, h⟩ | ⟨t, m, hsel, _, h⟩
    · simp only [sending, hno]
      exact h
    · simp only [sending, hsel]
      refine h.trans ?_
      unfold send
      dsimp only
      split_ifs <;> rfl
  | actionDone stillConnected =>
    simp only [step, actionDone, resume, resumeNow]
    repeat' split
    all_goals rfl
  | workerReturns =>
    simp only [step]
    split_ifs <;> rfl
  | addStoppedTransactionId | addMeterValueMessageId | notifyStartTransactionHandled | stop => rfl
  | _ => exact (same_of_not_steers rfl).2.2

omit [MessageType M] [DecidableEq M] in
theorem listed_addMeterValueMessageId (startId id s : MessageId) (q : State M) :
    (q.addMeterValueMessageId startId id).listed s =
      if s = startId then q.listed startId ++ [id] else q.listed s := by
  unfold listed addMeterValueMessageId
  rw [at?_put]
  split_ifs <;> rfl

omit [MessageType M] [DecidableEq M] in
theorem listed_notifyStartTransactionHandled (startId s : MessageId) (id : Int) (q : State M) :
    (q.notifyStartTransactionHandled startId id).listed s =
      if s = startId then [] else q.listed s := by
  unfold listed notifyStartTransactionHandled
  rw [at?_erase]
  split_ifs <;> rfl

/-- A step leaves the transaction id of a message it neither sends nor registers. -/
theorem at?_step {id : MessageId} (hs : ∀ m, q.sending op = some m → m.uniqueId ≠ id)
    (hadd : ∀ transactionId, op ≠ .addStoppedTransactionId id transactionId) :
    (q.step op).messageIdTransactionIdMap.at? id = q.messageIdTransactionIdMap.at? id := by
  have hma := congrArg Prod.fst (idMaps_step q op)
  change (q.step op).messageIdTransactionIdMap = _ at hma
  rw [hma]
  split
  · split
    · rename_i m hm
      rw [at?_erase, if_neg fun heq => hs m hm heq.symm]
    · rfl
  · rw [at?_put, if_neg]
    rintro rfl
    exact hadd _ rfl
  all_goals rfl

theorem listed_step {startId : MessageId} (hadd : ∀ id, op ≠ .addMeterValueMessageId startId id)
    (hnot : ∀ transactionId, op ≠ .notifyStartTransactionHandled startId transactionId) :
    (q.step op).listed startId = q.listed startId := by
  have hm := congrArg Prod.snd (idMaps_step q op)
  change (q.step op).startTransactionMidMeterValuesMidMap = _ at hm
  unfold listed
  rw [hm]
  split
  · rfl
  · rfl
  · rw [at?_put, if_neg]
    rintro rfl
    exact hadd _ rfl
  · rw [at?_erase, if_neg]
    rintro rfl
    exact hnot _ rfl
  · rfl

/-- A step lists no message but the one it registers. -/
theorem mem_listed_of_step {startId id : MessageId}
    (hadd : ∀ startId, op ≠ .addMeterValueMessageId startId id)
    (h : id ∈ (q.step op).listed startId) : id ∈ q.listed startId := by
  have hm := congrArg Prod.snd (idMaps_step q op)
  change (q.step op).startTransactionMidMeterValuesMidMap = _ at hm
  unfold listed at h ⊢
  rw [hm] at h
  split at h
  · exact h
  · exact h
  · rw [at?_put] at h
    split_ifs at h with heq
    · rw [Option.getD_some, mem_append, mem_singleton] at h
      rcases h with h | rfl
      · rwa [heq]
      · exact absurd rfl (hadd _)
    · exact h
  · rw [at?_erase] at h
    split_ifs at h
    · cases h
    · exact h
  · exact h

end State

/-! ## The ids of the messages -/

variable [MessageType M] [DecidableEq M]

/-- The message id that a step makes, for the message it pushes or for one that is sent again. -/
def Op.madeId : Op M → Option MessageId
  | .pushCall p _ | .pushCallAsync p => some p.call.messageId
  | op => op.newId

omit [MessageType M] [DecidableEq M] in
theorem madeId_of_newId {op : Op M} {newId : MessageId} (h : op.newId = some newId) :
    op.madeId = some newId := by
  cases op <;> first | exact h | cases h

namespace Core

/-- The messages on the queues and in flight. -/
def present (c : Core M) : List (ControlMessage M) :=
  c.transactionMessageQueue ++ (c.normalMessageQueue ++ c.inFlight.toList)

def uniqueIds (c : Core M) : List MessageId := c.present.map (·.uniqueId)

end Core

variable {cfg : MessageQueueConfig M} {P : ControlMessage M → Prop} {c c' : Core M}
    {m : ControlMessage M} {reply : Reply} {newId : MessageId} {q : State M} {op : Op M}

theorem Trims.inFlight (h : Trims cfg P c c') : c'.inFlight = c.inFlight := by
  refine h.keep (I := fun x => x.inFlight = c.inFlight) (fun ht hx => ?_) rfl
  cases ht <;> simpa [trimFromTransaction] using hx

theorem Trims.present (h : Trims cfg P c c') : c'.present.Sublist c.present := by
  rw [Core.present, h.inFlight]
  exact h.kept.transaction.append (h.kept.normal.append_right _)

theorem Core.present_enqueue (cfg : MessageQueueConfig M) (m : ControlMessage M) (c : Core M) :
    (c.enqueue cfg m).present.Perm (m :: c.present) := by
  refine perm_iff_count.mpr fun x => ?_
  cases ht : m.isTransaction <;> cases hb : m.isBoot <;>
    simp [present, ht, hb, count_cons] <;> omega

omit [MessageType M] [DecidableEq M] in
theorem Taken.present {m' : ControlMessage M} (h : Taken m m' c c') (hin : c.inFlight = none) :
    ∃ rest, c.present.Perm (m :: rest) ∧ c'.present.Perm (m' :: rest) := by
  cases h with
  | @transaction rest hq =>
    refine ⟨rest ++ c.normalMessageQueue, by simp [Core.present, hq, hin], ?_⟩
    simpa [Core.present] using perm_append_singleton m' (rest ++ c.normalMessageQueue)
  | @normal pre post hq =>
    refine ⟨c.transactionMessageQueue ++ (pre ++ post), ?_, ?_⟩
    · simpa [Core.present, hq, hin] using @perm_middle _ m (c.transactionMessageQueue ++ pre) post
    · simpa [Core.present] using
        perm_append_singleton m' (c.transactionMessageQueue ++ (pre ++ post))

theorem State.mem_present_of_sending (h : q.sending op = some m) : m ∈ q.present := by
  obtain ⟨_, _, t, c, -, hsel, ht, -⟩ := sending_cases h
  obtain ⟨rest, hq, -⟩ := ht.present (nextMessage_of_selected hsel).1
  exact hq.symm.subset mem_cons_self

theorem Core.present_ended (hin : c.inFlight = some m) (e : Event M) (reply : Reply) :
    c.present.Perm (m :: (c.ended cfg m e reply).present) := by
  simpa [present, ended, hin] using
    perm_append_singleton m (c.transactionMessageQueue ++ c.normalMessageQueue)

/-- The message in flight is put back on a queue or gone; the others stay. -/
theorem Failed.present (h : Failed cfg reply newId m c c') (hin : c.inFlight = some m) :
    ∃ rest, c.present.Perm (m :: rest) ∧
      (c'.present.Perm (again cfg c.now newId m :: rest) ∨ c'.present = rest) := by
  refine h.elim (fun _ => ?_) fun e _ _ => ⟨_, Core.present_ended hin e reply, .inr rfl⟩
  rw [Core.retried_eq]
  refine ⟨c.transactionMessageQueue ++ c.normalMessageQueue, ?_, .inl ?_⟩
  · simpa [Core.present, hin] using
      perm_append_singleton m (c.transactionMessageQueue ++ c.normalMessageQueue)
  · cases m.isTransaction <;> simp [Core.present]

omit [MessageType M] [DecidableEq M] in
theorem Taken.uniqueIds {m' : ControlMessage M} (h : Taken m m' c c') (hin : c.inFlight = none)
    (hid : m'.uniqueId = m.uniqueId) : c'.uniqueIds.Perm c.uniqueIds := by
  obtain ⟨rest, hold, hnew⟩ := h.present hin
  refine (hnew.map _).trans (.trans ?_ (hold.map _).symm)
  rw [map_cons, map_cons, hid]

theorem Failed.uniqueIds (h : Failed cfg reply newId m c c') (hin : c.inFlight = some m) :
    c'.uniqueIds.Subperm (newId :: c.uniqueIds) := by
  obtain ⟨rest, hold, hnew⟩ := h.present hin
  have hr : (rest.map (·.uniqueId)).Subperm c.uniqueIds :=
    (sublist_cons_self _ _).subperm.trans (hold.map _).symm.subperm
  rcases hnew with hnew | hnew
  · exact (hnew.map _).subperm.trans ((subperm_cons _).mpr hr)
  · rw [Core.uniqueIds, hnew]
    exact hr.trans (sublist_cons_self _ _).subperm

/-- The messages keep their ids in a step, but for the id that it makes. -/
theorem Effect.uniqueIds (h : Effect q op c) :
    c.uniqueIds.Subperm (op.madeId.toList ++ q.uniqueIds) := by
  have hk : ∀ {l : List MessageId}, l.Subperm q.uniqueIds →
      l.Subperm (op.madeId.toList ++ q.uniqueIds) :=
    fun hl => hl.trans (sublist_append_right _ _).subperm
  cases h with
  | substituted ids id =>
    refine hk ?_
    rw [Core.uniqueIds, Core.present, map_append, map_substituted fun _ _ => rfl, ← map_append]
    exact .refl _
  | @queued p stall async c hop hst hc =>
    have hma : op.madeId = some p.call.messageId := by
      rw [hop]
      cases async <;> rfl
    rw [hma]
    exact (hc.present.map _).subperm.trans ((present_enqueue ..).map _).subperm
  | sent _ hsel hc =>
    exact hk (hc.uniqueIds (nextMessage_of_selected hsel).1 (by simp)).subperm
  | sendFailed hop hsel hc hc' =>
    have hp := hc.uniqueIds (nextMessage_of_selected hsel).1 (by simp)
    rw [hop]
    exact (hc'.uniqueIds hc.inFlight).trans (hp.cons _).subperm
  | @failed newId m reply c hm hf hc hnew =>
    rw [madeId_of_newId hnew]
    exact hc.uniqueIds hm
  | answered _ hm hid =>
    rw [Core.handleCallResult_eq hm hid]
    exact hk ((sublist_cons_self _ _).subperm.trans ((present_ended hm _ _).map _).symm.subperm)
  | _ => exact hk (.refl _)

/-- Where a message of `c` comes from: it was one of `c₀`, where it may have had another id than
`id`, or it is new. -/
def ControlMessage.From (id : Option MessageId) (c₀ c : Core M) (m : ControlMessage M) : Prop :=
  (∃ x ∈ c₀.present, x.ref = m.ref ∧ x.messageType = m.messageType ∧
    (x.uniqueId = m.uniqueId ∨ id = some m.uniqueId)) ∨
  (m.ref = c₀.allocated ∧ c₀.allocated < c.allocated ∧ id = some m.uniqueId)

theorem Failed.mem_present (h : Failed cfg reply newId m c c') (hin : c.inFlight = some m) :
    c'.allocated = c.allocated ∧ ∀ x ∈ c'.present, x ∈ c.present ∨ x = again cfg c.now newId m := by
  obtain ⟨rest, hold, hnew⟩ := h.present hin
  have hr : ∀ x ∈ rest, x ∈ c.present := fun x hx => hold.symm.subset (.tail _ hx)
  refine ⟨?_, fun x hx => ?_⟩
  · exact h.elim (motive := fun x => x.allocated = c.allocated)
      (fun _ => by rw [Core.retried_eq]) fun _ _ _ => rfl
  · rcases hnew with hnew | hnew
    · exact (mem_cons.mp (hnew.subset hx)).symm.imp_left (hr x)
    · exact .inl (hr x (hnew ▸ hx))

theorem Effect.present (h : Effect q op c) :
    q.allocated ≤ c.allocated ∧ ∀ m ∈ c.present, m.From op.madeId q.toCore c := by
  have hold : ∀ {c : Core M} {m : ControlMessage M}, m ∈ q.present →
      m.From op.madeId q.toCore c := fun hm => .inl ⟨_, hm, rfl, rfl, .inl rfl⟩
  cases h with
  | substituted =>
    refine ⟨le_refl _, fun m hm => ?_⟩
    rcases mem_append.mp hm with hm | hm
    · obtain ⟨x, hx, rfl⟩ := mem_map.mp hm
      refine .inl ⟨x, mem_append_left _ hx, ?_⟩
      split_ifs <;> exact ⟨rfl, rfl, .inl rfl⟩
    · exact hold (mem_append_right _ hm)
  | discarded | refused => exact ⟨le_succ _, fun m hm => hold hm⟩
  | @queued p stall async c hop hst hc =>
    have ha : c.allocated = q.allocated + 1 := by simp [hc.kept.allocated]
    have hma : op.madeId = some p.call.messageId := by
      rw [hop]
      cases async <;> rfl
    refine ⟨by omega, fun m hm => ?_⟩
    rcases mem_cons.mp ((present_enqueue ..).subset (hc.present.subset hm)) with rfl | hm
    · exact .inr ⟨rfl, by omega, hma⟩
    · exact hold hm
  | @sent newId t m c _ hsel hc =>
    obtain ⟨rest, hq, hc'⟩ := hc.present (nextMessage_of_selected hsel).1
    refine ⟨hc.kept.allocated.ge, fun x hx => ?_⟩
    rcases mem_cons.mp (hc'.subset hx) with rfl | hx
    · exact .inl ⟨m, hq.symm.subset mem_cons_self, by simp, by simp, .inl (by simp)⟩
    · exact hold (hq.symm.subset (mem_cons_of_mem m hx))
  | @sendFailed newId t m c c' hop hsel hc hc' =>
    obtain ⟨rest, hq, ht⟩ := hc.present (nextMessage_of_selected hsel).1
    obtain ⟨ha, hmem⟩ := hc'.mem_present hc.inFlight
    have hr : ∀ x ∈ c.present, x ≠ q.outgoing m → x ∈ q.present := fun x hx hne =>
      hq.symm.subset (.tail m ((mem_cons.mp (ht.subset hx)).resolve_left hne))
    refine ⟨(ha.trans hc.kept.allocated).ge, fun x hx => ?_⟩
    have hm : m ∈ q.present := hq.symm.subset mem_cons_self
    rcases hmem x hx with hx | rfl
    · by_cases hout : x = q.outgoing m
      · exact .inl ⟨m, hm, by simp [hout], by simp [hout], .inl (by simp [hout])⟩
      · exact hold (hr x hx hout)
    · refine .inl ⟨m, hm, ?_, ?_, .inr (by rw [hop]; rfl)⟩
      · exact (ref_outgoing m q).symm
      · exact (messageType_outgoing m q).symm
  | @failed newId m reply c hm _ hc hnew =>
    obtain ⟨ha, hmem⟩ := hc.mem_present hm
    refine ⟨ha.ge, fun x hx => ?_⟩
    rcases hmem x hx with hx | rfl
    · exact hold hx
    · exact .inl ⟨m, by simp [Core.present, hm], rfl, rfl, .inr (madeId_of_newId hnew)⟩
  | answered _ hm hid =>
    rw [Core.handleCallResult_eq hm hid]
    refine ⟨le_refl _, fun x hx => hold ?_⟩
    exact (Core.present_ended hm _ _).symm.subset (mem_cons_of_mem _ hx)
  | _ => exact ⟨le_refl _, fun m hm => hold hm⟩

theorem Effect.numbered (h : Effect q op c) (hq : ∀ m ∈ q.present, m.ref < q.allocated) :
    ∀ m ∈ c.present, m.ref < c.allocated := by
  intro m hm
  rcases h.present.2 m hm with ⟨x, hx, href, -⟩ | ⟨href, hlt, -⟩
  · exact href ▸ (hq x hx).trans_le h.present.1
  · exact href ▸ hlt

/-- The messages on the queue and in flight are among those made so far. -/
theorem numbered_run (cfg : MessageQueueConfig M) (ignore : Bool) (db : Database M) (now : Int)
    (ops : List (Op M)) :
    ∀ m ∈ (runFrom (boot cfg ignore db now) ops).present,
      m.ref < (runFrom (boot cfg ignore db now) ops).allocated := by
  have hl : ∀ {t : QueueType} {c : Core M}, (∀ m ∈ c.present, m.ref < c.allocated) →
      ∀ m ∈ (c.loadTable ignore t).present, m.ref < (c.loadTable ignore t).allocated := by
    intro t c hc
    refine loadTable_keeps (I := fun c => ∀ m ∈ c.present, m.ref < c.allocated)
      (P := fun _ => True) (fun {c r} _ hc => ?_) (fun _ _ => trivial) hc
    unfold loadRow
    split_ifs
    · exact hc
    · intro m hm
      have hm : m ∈ c.present ∨ m = r.load c.allocated := by
        cases t <;>
          simp only [Core.present, note, pushBack, mem_append, mem_singleton]
            at hm ⊢ <;> tauto
      rcases hm with hm | rfl
      · exact lt_succ_of_lt (hc m hm)
      · exact lt_succ_self _
  refine keeps_run (I := fun c => ∀ m ∈ c.present, m.ref < c.allocated) Effect.numbered ops ?_
  have hb := hl (t := .transaction) (hl (t := .normal)
    (c := ({ database := db, now := now } : Core M)) (by simp [Core.present]))
  unfold boot
  split_ifs <;> exact hb

/-! ## What a step logs -/

/-- Neither a message that is handed to `send_callback` nor a call of the retry callback. -/
def Event.Plain (e : Event M) : Prop :=
  (∀ m, e ≠ .sent m) ∧ ∀ newId oldId, e ≠ .startTransactionRetried newId oldId

theorem Trims.log (h : Trims cfg P c c') :
    ∃ es, c'.log = es ++ c.log ∧ ∀ e ∈ es, ∃ m, e = .trimmed m := by
  refine h.keep (I := fun x => ∃ es, x.log = es ++ c.log ∧ ∀ e ∈ es, ∃ m, e = .trimmed m)
    (fun ht hx => ?_) ⟨[], rfl, by simp⟩
  obtain ⟨es, hlog, hes⟩ := hx
  cases ht with
  | @normal _ _ m =>
    refine ⟨.trimmed m :: es, by simp [hlog], ?_⟩
    exact forall_mem_cons.mpr ⟨⟨m, rfl⟩, hes⟩
  | @transaction _ _ m =>
    refine ⟨.trimmed m :: es, by simp [trimFromTransaction, note, forget, hlog], ?_⟩
    exact forall_mem_cons.mpr ⟨⟨m, rfl⟩, hes⟩

theorem Failed.log (h : Failed cfg reply newId m c c') :
    ∃ es, c'.log = (if retries cfg m then retryCalls cfg newId m else []) ++ es ++ c.log ∧
      ∀ e ∈ es, e.Plain := by
  refine h.elim (fun hr => ⟨[.retried (again cfg c.now newId m)], ?_, ?_⟩)
    fun e hnot he => ⟨[.promiseSet m.ref reply, e], ?_, ?_⟩
  · rw [Core.retried_eq]
    simp [hr]
  · simp [Event.Plain]
  · simp [hnot, ended]
  · rcases he with ⟨rfl, -⟩ | ⟨rfl, -⟩ <;> simp [Event.Plain]

theorem Effect.log (h : Effect q op c) (hq : q.sending op = none) :
    (∃ es, c.log = es ++ q.log ∧ ∀ e ∈ es, e.Plain) ∨
    ∃ m newId reply, q.inFlight = some m ∧ q.failing op = some m ∧ op.newId = some newId ∧
      Failed q.config reply newId m q.toCore c := by
  cases h with
  | refused =>
    exact .inl ⟨[.promiseSet q.allocated .offline, .called q.allocated], rfl, by simp [Event.Plain]⟩
  | @queued p stall async c hop hst hc =>
    obtain ⟨es, hlog, hes⟩ := hc.log
    refine .inl ⟨es ++ .queued (q.newControlMessage p stall) ::
      (if async then [.called q.allocated] else []), ?_, ?_⟩
    · rw [hlog]
      cases async <;> simp [create]
    · intro e he
      rcases mem_append.mp he with he | he
      · obtain ⟨m, rfl⟩ := hes e he
        simp [Event.Plain]
      · cases async <;> simp at he <;> rcases he with rfl | rfl <;> simp [Event.Plain]
  | sent hop hsel | sendFailed hop hsel => simp [sending, hop, hsel] at hq
  | failed hm hf hc hnew => exact .inr ⟨_, _, _, hm, hf, hnew, hc⟩
  | @answered newId id m hop hm hid =>
    rw [Core.handleCallResult_eq hm hid]
    exact .inl ⟨[.promiseSet m.ref (.result id), .answered m], rfl, by simp [Event.Plain]⟩
  | _ => exact .inl ⟨[], rfl, by simp⟩

/-! ## Following messages -/

/-- The messages `refs` are on the transaction queue, where `W` is known of their calls, or in
flight, where `F` is. -/
structure Core.Follows (refs : List Nat) (W F : Call M → Prop) (c : Core M) : Prop where
  waiting : ∀ m ∈ c.transactionMessageQueue, m.ref ∈ refs → m.isTransaction = true ∧ W m.message
  flying : ∀ m, c.inFlight = some m → m.ref ∈ refs → m.isTransaction = true ∧ F m.message
  normal : ∀ m ∈ c.normalMessageQueue, m.ref ∉ refs
  bounded : ∀ r ∈ refs, r < c.allocated

namespace Core.Follows

variable {refs : List Nat} {W F W' F' : Call M → Prop} {c c' : Core M} {m : ControlMessage M}

omit [DecidableEq M] in
theorem mono (h : c.Follows refs W F)
    (hW : ∀ m ∈ c.transactionMessageQueue, m.ref ∈ refs → W m.message → W' m.message)
    (hF : ∀ m, c.inFlight = some m → m.ref ∈ refs → F m.message → F' m.message) :
    c.Follows refs W' F' where
  waiting m hm href := (h.waiting m hm href).imp_right (hW m hm href)
  flying m hm href := (h.flying m hm href).imp_right (hF m hm href)
  normal := h.normal
  bounded := h.bounded

omit [DecidableEq M] in
theorem kept (hk : Kept c c') (hin : ∀ m, c'.inFlight = some m → c.inFlight = some m)
    (h : c.Follows refs W F) : c'.Follows refs W F where
  waiting m hm := h.waiting m (hk.transaction.subset hm)
  flying m hm := h.flying m (hin m hm)
  normal m hm := h.normal m (hk.normal.subset hm)
  bounded r hr := hk.allocated ▸ h.bounded r hr

theorem trims (ht : Trims cfg P c c') (h : c.Follows refs W F) : c'.Follows refs W F :=
  h.kept ht.kept fun _ hm => ht.inFlight ▸ hm

/-- A message is queued, and the messages `refs'` are followed from now on. -/
theorem enqueue {refs' : List Nat} (cfg : MessageQueueConfig M) (async : Bool)
    (hold : ∀ x ∈ c.present, x.ref ∈ refs' → x.ref ∈ refs)
    (hnew : m.ref ∈ refs' → m.isTransaction ∧ W m.message)
    (hre : ∀ r ∈ refs', r ≤ c.allocated) (h : c.Follows refs W F) :
    ((c.create async).enqueue cfg m).Follows refs' W F := by
  refine ⟨fun x hx href => ?_, fun x hx href => ?_, fun x hx href => ?_, fun r hr => ?_⟩
  · rw [enqueue_eq] at hx
    rcases mem_append.mp hx with hx | hx
    · exact h.waiting x hx (hold x (mem_append_left _ hx) href)
    · split_ifs at hx
      · obtain rfl := mem_singleton.mp hx
        exact hnew href
      · cases hx
  · have hx : c.inFlight = some x := by simpa using hx
    exact h.flying x hx (hold x (by simp [present, hx]) href)
  · rcases mem_normal_enqueue.mp hx with hx | ⟨rfl, hnot⟩
    · have hx : x ∈ c.normalMessageQueue := hx
      exact h.normal x hx (hold x (by simp [present, hx]) href)
    · exact Bool.false_ne_true (hnot.symm.trans (hnew href).1)
  · rw [enqueue_eq]
    exact lt_succ_of_le (hre r hr)

omit [DecidableEq M] in
theorem taken {m' : ControlMessage M} (ht : Taken m m' c c') (hno : c.uniqueIds.Nodup)
    (href : m'.ref = m.ref) (hty : m'.isTransaction = m.isTransaction)
    (hW : ∀ x ∈ c.transactionMessageQueue, x.ref ∈ refs → x.uniqueId ≠ m.uniqueId →
      W x.message → W' x.message)
    (hF : m ∈ c.transactionMessageQueue → m.ref ∈ refs → W m.message → F' m'.message)
    (h : c.Follows refs W F) : c'.Follows refs W' F' := by
  cases ht with
  | @transaction rest hq =>
    have ho : ∀ x ∈ rest, x.uniqueId ≠ m.uniqueId := by
      intro x hx heq
      simp only [uniqueIds, present, hq, cons_append, map_cons, nodup_cons] at hno
      exact hno.1 (heq ▸ mem_map_of_mem (mem_append_left _ hx))
    refine ⟨fun x hx href => ?_, fun x hx href' => ?_, h.normal, h.bounded⟩
    · have hmem : x ∈ c.transactionMessageQueue := hq ▸ mem_cons_of_mem m hx
      exact (h.waiting x hmem href).imp_right (hW x hmem href (ho x hx))
    · have hmem : m ∈ c.transactionMessageQueue := hq ▸ mem_cons_self
      obtain rfl := Option.some.inj hx
      rw [href] at href'
      rw [hty]
      exact (h.waiting m hmem href').imp_right (hF hmem href')
  | @normal pre post hq =>
    have hmem : m ∈ c.normalMessageQueue := by simp [hq]
    have hnot := h.normal m hmem
    refine ⟨fun x hx href => ?_, fun x hx href' => ?_, fun x hx => ?_, h.bounded⟩
    · refine (h.waiting x hx href).imp_right (hW x hx href fun heq => ?_)
      simp only [uniqueIds, present, map_append] at hno
      refine disjoint_of_nodup_append hno (mem_map_of_mem hx) ?_
      rw [heq]
      exact mem_append_left _ (mem_map_of_mem hmem)
    · obtain rfl := Option.some.inj hx
      exact absurd (href ▸ href') hnot
    · have hx : x ∈ pre ++ post := hx
      refine h.normal x ?_
      rw [hq, mem_append]
      exact (mem_append.mp hx).imp_right (mem_cons_of_mem m)

theorem failed (hf : Failed cfg reply newId m c c') (hin : c.inFlight = some m)
    (hr : m.ref ∈ refs → F m.message → W (m.withId newId).message) (h : c.Follows refs W F) :
    c'.Follows refs W F := by
  refine hf.elim (fun _ => ?_) fun e _ _ => h.kept (kept_ended ..) nofun
  rw [retried_eq]
  refine ⟨fun x hx href => ?_, nofun, fun x hx href => ?_, h.bounded⟩ <;> dsimp only at hx <;>
    split_ifs at hx with ht
  · rcases mem_cons.mp hx with rfl | hx
    · exact (h.flying m hin href).imp_right (hr href)
    · exact h.waiting x hx href
  · exact h.waiting x hx href
  · exact h.normal x hx href
  · rcases mem_cons.mp hx with rfl | hx
    · exact ht (h.flying m hin href).1
    · exact h.normal x hx href

/-- What a step that sends nothing does to the messages that are followed, if it puts no
transaction id into them. -/
theorem effect (heff : Effect q op c) (hq : q.sending op = none)
    (hre : ∀ m newId, q.inFlight = some m → m.ref ∈ refs → op.newId = some newId →
      F m.message → W (m.withId newId).message)
    (hsub : ∀ startId id, op = .notifyStartTransactionHandled startId id →
      ∀ m ∈ q.transactionMessageQueue, m.ref ∈ refs → m.uniqueId ∉ q.listed startId)
    (h : q.toCore.Follows refs W F) : c.Follows refs W F := by
  cases heff with
  | substituted _ id hop =>
    obtain ⟨startId, hop, rfl⟩ := hop
    refine ⟨fun x hx href => ?_, h.flying, h.normal, h.bounded⟩
    obtain ⟨m, hm, rfl⟩ := mem_map.mp hx
    split_ifs at href ⊢ with hl
    · exact absurd (contains_iff_mem.mp hl) (hsub startId id hop m hm href)
    · exact h.waiting m hm href
  | discarded | refused =>
    exact ⟨h.waiting, h.flying, h.normal, fun r hr => lt_succ_of_lt (h.bounded r hr)⟩
  | queued _ _ hc =>
    refine (h.enqueue q.config _ (fun _ _ hx => hx) (fun hmem => ?_) fun r hr => ?_).trims hc
    · exact absurd (h.bounded _ hmem) (lt_irrefl _)
    · exact (h.bounded r hr).le
  | sent hop hsel | sendFailed hop hsel => simp [sending, hop, hsel] at hq
  | failed hm _ hc hnew => exact h.failed hc hm fun href => hre _ _ hm href hnew
  | answered _ hm hid =>
    rw [handleCallResult_eq hm hid]
    exact h.kept (kept_ended ..) nofun
  | _ => exact { h with }

end Core.Follows

end EverestCore.Ocpp.MessageQueue

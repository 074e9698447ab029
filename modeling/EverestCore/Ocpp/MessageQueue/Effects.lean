import EverestCore.Ocpp.MessageQueue.Queue
import EverestCore.Ocpp.MessageQueue.Trim

/-!
# What a step does to the messages

Each step of the queue has one of a few effects on what the queue holds (`Effect`). The invariants
of the queue are proved effect by effect, and the functions of `Queue.lean` are looked into here
only.

Results:
* **`State.effect_step`**: every step has an `Effect`.
-/

namespace EverestCore.Ocpp.MessageQueue

open EverestCore.Lib Ocpp.MessageType MessageQueue.Core ControlMessage List

variable {M : Type} [MessageType M] [DecidableEq M]

/-! ## Queueing -/

attribute [simp] note forget resetInFlight

namespace Core

/-- A new `ControlMessage` is made, by `push_call_async` if `async`. -/
def create (async : Bool) (c : Core M) : Core M :=
  { c with
    allocated := c.allocated + 1
    log := if async then .called c.allocated :: c.log else c.log }

attribute [simp] create

/-- A new message goes to the end of its queue, a BootNotification to the front. -/
def place (m : ControlMessage M) (c : Core M) : Core M :=
  if m.isBoot then c.pushFront (queueType m) m else c.pushBack (queueType m) m

/-- `add_to_normal_message_queue` or `add_to_transaction_message_queue`, up to
`check_queue_sizes`. -/
def enqueue (cfg : MessageQueueConfig M) (m : ControlMessage M) (c : Core M) : Core M :=
  (if persistent cfg m then (c.place m).store (queueType m) m else c.place m).note [.queued m]

variable {cfg : MessageQueueConfig M} {m : ControlMessage M}

theorem addToTransactionMessageQueue_eq (h : m.isTransaction) (c : Core M) :
    c.addToTransactionMessageQueue cfg m = (c.enqueue cfg m).checkQueueSizes cfg := by
  have hb : m.isBoot = false := by
    cases hb : m.isBoot with
    | true => rw [isTransaction_of_isBoot hb] at h; cases h
    | false => rfl
  simp [addToTransactionMessageQueue, enqueue, place, queueType, persistent, h, hb]

theorem addToNormalMessageQueue_eq (h : m.isTransaction = false) (c : Core M) :
    c.addToNormalMessageQueue cfg m = (c.enqueue cfg m).checkQueueSizes cfg := by
  simp [addToNormalMessageQueue, enqueue, place, queueType, persistent, h]

@[simp] theorem enqueue_eq (cfg : MessageQueueConfig M) (m : ControlMessage M) (c : Core M) :
    c.enqueue cfg m = { c with
      database :=
        if persistent cfg m then c.database.insertMessageQueueMessage m.row (queueType m)
        else c.database
      transactionMessageQueue := c.transactionMessageQueue ++ if m.isTransaction then [m] else []
      normalMessageQueue :=
        if m.isTransaction then c.normalMessageQueue
        else if m.isBoot then m :: c.normalMessageQueue else c.normalMessageQueue ++ [m]
      log := .queued m :: c.log } := by
  have hb := isTransaction_of_isBoot (m := m)
  unfold enqueue place queueType
  split_ifs <;> simp_all [note, store, pushBack, pushFront]

theorem mem_normal_enqueue {m x : ControlMessage M} {c : Core M} :
    x ∈ (c.enqueue cfg m).normalMessageQueue ↔
      x ∈ c.normalMessageQueue ∨ x = m ∧ m.isTransaction = false := by
  rw [enqueue_eq]
  cases m.isTransaction <;> cases m.isBoot <;> simp [or_comm]

/-! ## Failures -/

/-- Whether a message that failed is sent again. -/
def retries (cfg : MessageQueueConfig M) (m : ControlMessage M) : Bool :=
  if persistent cfg m then decide (m.messageAttempts < cfg.transactionMessageAttempts) else m.isBoot

/-- When a message that failed is sent again. -/
def retryAt (cfg : MessageQueueConfig M) (now : Int) (m : ControlMessage M) : Int :=
  if persistent cfg m then retryTime cfg now m
  else m.timestamp + seconds cfg.bootNotificationRetryIntervalSeconds

/-- The message `m`, as it is sent again under the id `newId`. -/
def again (cfg : MessageQueueConfig M) (now : Int) (newId : MessageId) (m : ControlMessage M) :
    ControlMessage M :=
  { m.withId newId with timestamp := retryAt cfg now m }

/-- The calls of `start_transaction_message_retry_callback` when `m` is sent again. -/
def retryCalls (cfg : MessageQueueConfig M) (newId : MessageId) (m : ControlMessage M) :
    List (Event M) :=
  if persistent cfg m && isStartTransactionMessage m.messageType then
    [.startTransactionRetried newId m.uniqueId]
  else []

theorem eq_of_mem_retryCalls {newId : MessageId} {e : Event M} (he : e ∈ retryCalls cfg newId m) :
    e = .startTransactionRetried newId m.uniqueId := by
  unfold retryCalls at he
  split_ifs at he
  · exact mem_singleton.mp he
  · cases he

end Core

/-- What becomes of the message `m` in flight when it fails. -/
inductive Failed (cfg : MessageQueueConfig M) (reply : Reply) (newId : MessageId)
    (m : ControlMessage M) (c : Core M) : Core M → Prop
  | retried (hretry : Core.retries cfg m = true) :
      Failed cfg reply newId m c
        ((c.retry (queueType m) (again cfg c.now newId m)).note
          (retryCalls cfg newId m)).resetInFlight
  | givenUp (hkeep : persistent cfg m = true)
      (hlimit : cfg.transactionMessageAttempts ≤ m.messageAttempts) :
      Failed cfg reply newId m c
        ((c.note [.promiseSet m.ref reply, .givenUp m cfg.transactionMessageAttempts]).forget
          (queueType m) [m]).resetInFlight
  | dropped (hkeep : persistent cfg m = false) (hboot : m.isBoot = false) :
      Failed cfg reply newId m c (c.note [.promiseSet m.ref reply, .dropped m]).resetInFlight

variable {m : ControlMessage M} {c : Core M}

theorem Core.failed_handleTimeoutOrCallerror (cfg : MessageQueueConfig M) (reply : Reply)
    (newId : MessageId) (h : c.inFlight = some m) :
    Failed cfg reply newId m c (c.handleTimeoutOrCallerror cfg reply newId) := by
  unfold Core.handleTimeoutOrCallerror
  rw [h]
  dsimp only
  by_cases hk : persistent cfg m
  · rw [if_pos hk]
    by_cases hl : m.messageAttempts < cfg.transactionMessageAttempts
    · have hr : Core.retries cfg m := by simp [Core.retries, hk, hl]
      have : Failed cfg reply newId m c _ := .retried hr
      split_ifs with hst
      · simpa [again, retryAt, retryCalls, hk, hst] using this
      · simpa [again, retryAt, retryCalls, hk, hst, note] using this
    · rw [if_neg hl]
      exact .givenUp hk (Int.not_lt.mp hl)
  · rw [if_neg hk]
    rw [Bool.not_eq_true] at hk
    by_cases hb : m.isBoot
    · rw [if_pos hb]
      have hr : Core.retries cfg m := by simp [Core.retries, hk, hb]
      have ht : queueType m = .normal := by
        simp [queueType, isTransaction_of_isBoot hb]
      have : Failed cfg reply newId m c _ := .retried hr
      simpa [again, retryAt, retryCalls, hk, note, ht] using this
    · rw [if_neg hb]
      exact .dropped hk (by simpa using hb)

variable {cfg : MessageQueueConfig M}

theorem Core.handleTimeoutOrCallerror_disarmed {reply : Reply}
    {newId : MessageId} (h : c.inFlight = some m) :
    { c with inFlightTimeoutTimer := none }.handleTimeoutOrCallerror cfg reply newId =
      c.handleTimeoutOrCallerror cfg reply newId := by
  unfold Core.handleTimeoutOrCallerror
  rw [h]
  dsimp only
  cases queueType m <;> split_ifs <;> rfl

/-- The message `m` in flight is not sent again: `e` says why, and its promise is given `reply`. -/
def Core.ended (cfg : MessageQueueConfig M) (m : ControlMessage M) (e : Event M) (reply : Reply)
    (c : Core M) : Core M :=
  { c with
    database :=
      if persistent cfg m then
        c.database.removeMessageQueueMessage m.initialUniqueId (queueType m)
      else c.database
    inFlight := none
    inFlightTimeoutTimer := none
    log := .promiseSet m.ref reply :: e :: c.log }

theorem Core.handleCallResult_eq {id : MessageId}
    (hin : c.inFlight = some m) (hid : m.uniqueId = id) :
    c.handleCallResult cfg id = c.ended cfg m (.answered m) (.result id) := by
  unfold ended
  simp only [handleCallResult, hin, hid, beq_self_eq_true, if_true]
  split_ifs <;> rfl

/-- What is put back on its queue when the message in flight is sent again. -/
theorem Core.retried_eq (cfg : MessageQueueConfig M) (newId : MessageId) (m : ControlMessage M)
    (c : Core M) :
    ((c.retry (queueType m) (again cfg c.now newId m)).note
        (retryCalls cfg newId m)).resetInFlight = { c with
      transactionMessageQueue :=
        if m.isTransaction then again cfg c.now newId m :: c.transactionMessageQueue
        else c.transactionMessageQueue
      normalMessageQueue :=
        if m.isTransaction then c.normalMessageQueue
        else again cfg c.now newId m :: c.normalMessageQueue
      inFlight := none
      inFlightTimeoutTimer := none
      notifyQueueTimer := some (retryAt cfg c.now m)
      log := retryCalls cfg newId m ++ .retried (again cfg c.now newId m) :: c.log } := by
  unfold queueType
  split_ifs <;> rfl

variable {c' : Core M}

/-- A message that fails is put back on its queue, or it is given up or dropped. -/
@[elab_as_elim] theorem Failed.elim {reply : Reply} {newId : MessageId}
    {motive : Core M → Prop} (h : Failed cfg reply newId m c c')
    (retried : Core.retries cfg m →
      motive ((c.retry (queueType m) (again cfg c.now newId m)).note
        (retryCalls cfg newId m)).resetInFlight)
    (ended : ∀ e, Core.retries cfg m = false →
      (e = .givenUp m cfg.transactionMessageAttempts ∧
          cfg.transactionMessageAttempts ≤ m.messageAttempts ∨
        e = .dropped m ∧ persistent cfg m = false) → motive (c.ended cfg m e reply)) :
    motive c' := by
  cases h with
  | retried hr => exact retried hr
  | givenUp hk hl =>
    have := ended _ (by simp [Core.retries, hk, hl]) (.inl ⟨rfl, hl⟩)
    rwa [Core.ended, if_pos hk] at this
  | dropped hk hb =>
    have := ended _ (by simp [Core.retries, hk, hb]) (.inr ⟨rfl, hk⟩)
    rwa [Core.ended, if_neg (by simp [hk])] at this

/-! ## Sending -/

/-- The queued message `m` is put in flight as `m'`. -/
inductive Taken (m m' : ControlMessage M) (c : Core M) : Core M → Prop
  | transaction {rest : List (ControlMessage M)} (hq : c.transactionMessageQueue = m :: rest) :
      Taken m m' c
        ({ c with transactionMessageQueue := rest, inFlight := some m' }.note [.sent m'])
  | normal {pre post : List (ControlMessage M)} (hq : c.normalMessageQueue = pre ++ m :: post) :
      Taken m m' c
        ({ c with normalMessageQueue := pre ++ post, inFlight := some m' }.note [.sent m'])

namespace Core

/-- The selected message is the head of the transaction queue or the first allowed one of the
normal queue. -/
theorem nextMessage_cases {accepted : Bool} {t : QueueType}
    (h : c.nextMessage accepted = some (t, m)) :
    allowedToSendMessage c.now accepted m ∧
      ((t = .transaction ∧ ∃ rest, c.transactionMessageQueue = m :: rest) ∨
        (t = .normal ∧
          c.normalMessageQueue.find? (allowedToSendMessage c.now accepted) = some m)) := by
  have hn : (c.normalMessageQueue.find? (allowedToSendMessage c.now accepted)).map
      ((QueueType.normal, ·)) = some (t, m) →
      allowedToSendMessage c.now accepted m ∧ t = .normal ∧
        c.normalMessageQueue.find? (allowedToSendMessage c.now accepted) = some m := by
    intro hmap
    obtain ⟨a, ha, hp⟩ := Option.map_eq_some_iff.mp hmap
    cases hp
    exact ⟨find?_some ha, rfl, ha⟩
  unfold nextMessage at h
  dsimp only at h
  split at h
  · exact ⟨(hn h).1, .inr (hn h).2⟩
  · rename_i m0 rest hq
    split_ifs at h with hav
    · cases h
      refine ⟨?_, .inl ⟨rfl, rest, hq⟩⟩
      unfold isTransactionMessageAvailable at hav
      split_ifs at hav with hall
      simpa using hall
    · exact ⟨(hn h).1, .inr (hn h).2⟩

theorem taken_take {accepted : Bool} {t : QueueType}
    (h : c.nextMessage accepted = some (t, m)) (m' : ControlMessage M) :
    Taken m m' c (c.take accepted t m') := by
  obtain ⟨hall, ⟨rfl, rest, hq⟩ | ⟨rfl, hf⟩⟩ := nextMessage_cases h
  · have ht : c.transactionMessageQueue.tail = rest := by rw [hq, tail_cons]
    have : Taken m m' c _ := .transaction hq
    simpa only [take, ht] using this
  · obtain ⟨_, pre, post, hq, hpre⟩ := find?_eq_some_iff_append.mp hf
    have he : c.normalMessageQueue.eraseP (allowedToSendMessage c.now accepted) = pre ++ post := by
      rw [hq, eraseP_append_right _ (by simpa using hpre), eraseP_cons_of_pos hall]
    have : Taken m m' c _ := .normal hq
    simpa only [take, he] using this

end Core

namespace State

/-- A push puts its message on a queue. -/
def admits (p : Push M) (stall : Bool) (q : State M) : Bool :=
  let m := q.newControlMessage p stall
  p.seen.running && (m.isTransaction || !p.seen.paused || p.seen.resuming ||
    m.stallUntilAccepted || q.config.checkQueue m.messageType || m.isBoot)

/-- A pass of the worker looks for a message to send. -/
def sends (q : State M) : Bool :=
  q.worker == .loop && q.awake && !(q.running && q.idleActions > 0 && q.inFlight.isNone) &&
    !(q.paused || q.inFlight.isSome)

/-- The message that a pass of the worker sends, with its queue. -/
def selected (q : State M) : Option (QueueType × ControlMessage M) :=
  if q.sends then
    (q.nextMessage q.isRegistrationStatusAccepted).filter fun (_, m) => !q.heldBack m
  else none

/-- The message in flight, if the callback of a timeout was set for it. -/
def timedOut (message : Nat) (messageId : MessageId) (q : State M) : Option (ControlMessage M) :=
  q.inFlight.filter fun m => m.ref == message && m.uniqueId == messageId

/-- The message that fails in a step. -/
def failing (q : State M) : Op M → Option (ControlMessage M)
  | .pause _ => q.inFlight
  | .receive (.callError id) _ => q.inFlight.filter (·.uniqueId == id)
  | .receive (.callResult id false) _ => q.inFlight.filter (·.uniqueId == id)
  | .inFlightTimeout _ =>
    (q.inFlightTimeoutTimer.filter (·.expiry ≤ q.now)).bind fun timer =>
      q.timedOut timer.message timer.messageId
  | .lateInFlightTimeout message messageId _ => q.timedOut message messageId
  | .workerPass false _ => q.selected.map fun (_, m) => q.outgoing m
  | _ => none

end State

omit [MessageType M] [DecidableEq M] in
theorem Taken.inFlight {m' : ControlMessage M} {c' : Core M} (h : Taken m m' c c') :
    c'.inFlight = some m' := by
  cases h <;> rfl

namespace State

theorem nextMessage_of_selected {q : State M} {t : QueueType} {m : ControlMessage M}
    (h : q.selected = some (t, m)) :
    q.inFlight = none ∧ q.nextMessage q.isRegistrationStatusAccepted = some (t, m) := by
  unfold selected at h
  split_ifs at h with hs
  refine ⟨?_, (Option.filter_eq_some_iff.mp h).1⟩
  simp only [sends, Bool.and_eq_true, Bool.not_eq_true', Bool.or_eq_false_iff,
    Option.isSome_eq_false_iff, Option.isNone_iff_eq_none] at hs
  exact hs.2.2

section Outgoing

omit [MessageType M] [DecidableEq M]

/-- A pass changes the attempts of a message and, maybe, its transaction id. -/
theorem outgoing_cases (m : ControlMessage M) (q : State M) :
    q.outgoing m = { m with messageAttempts := m.messageAttempts + 1 } ∨
      ∃ id, q.outgoing m =
        { m with messageAttempts := m.messageAttempts + 1 }.withTransactionId id := by
  unfold outgoing
  dsimp only
  split
  · exact .inr ⟨_, rfl⟩
  · exact .inl rfl

variable (m : ControlMessage M) (q : State M)

/-- What neither depends on the attempts nor on the transaction id is as before the pass. -/
theorem outgoing_same {α : Type} {p : ControlMessage M → α}
    (ha : ∀ m n, p { m with messageAttempts := n } = p m)
    (hid : ∀ m id, p (m.withTransactionId id) = p m) : p (q.outgoing m) = p m := by
  rcases outgoing_cases m q with h | ⟨id, h⟩
  · rw [h, ha]
  · rw [h, hid, ha]

@[simp] theorem ref_outgoing : (q.outgoing m).ref = m.ref :=
  outgoing_same m q (fun _ _ => rfl) fun _ _ => rfl

@[simp] theorem messageType_outgoing : (q.outgoing m).messageType = m.messageType :=
  outgoing_same m q (fun _ _ => rfl) fun _ _ => rfl

@[simp] theorem uniqueId_outgoing : (q.outgoing m).uniqueId = m.uniqueId :=
  outgoing_same m q (fun _ _ => rfl) fun _ _ => rfl

@[simp] theorem initialUniqueId_outgoing : (q.outgoing m).initialUniqueId = m.initialUniqueId :=
  outgoing_same m q (fun _ _ => rfl) fun _ _ => rfl

end Outgoing

variable (m : ControlMessage M) (q : State M)

omit [DecidableEq M] in
@[simp] theorem isTransaction_outgoing : (q.outgoing m).isTransaction = m.isTransaction := by
  rw [isTransaction, messageType_outgoing, isTransaction]

@[simp] theorem isBoot_outgoing : (q.outgoing m).isBoot = m.isBoot := by
  rw [isBoot, messageType_outgoing, isBoot]

end State

/-! ## What is left -/

section Kept

omit [MessageType M] [DecidableEq M]

/-- Messages and rows may be gone, and nothing is new. -/
structure Kept (c c' : Core M) : Prop where
  transaction : c'.transactionMessageQueue.Sublist c.transactionMessageQueue
  normal : c'.normalMessageQueue.Sublist c.normalMessageQueue
  transactionRows : c'.database.transaction ⊆ c.database.transaction
  normalRows : c'.database.normal ⊆ c.database.normal
  allocated : c'.allocated = c.allocated
  now : c'.now = c.now
  notifyQueueTimer : c'.notifyQueueTimer = c.notifyQueueTimer

namespace Kept

theorem refl (c : Core M) : Kept c c :=
  ⟨.refl _, .refl _, List.Subset.refl _, List.Subset.refl _, rfl, rfl, rfl⟩

theorem trans {c' c'' : Core M} (h : Kept c c') (h' : Kept c' c'') : Kept c c'' where
  transaction := h'.transaction.trans h.transaction
  normal := h'.normal.trans h.normal
  transactionRows := List.Subset.trans h'.transactionRows h.transactionRows
  normalRows := List.Subset.trans h'.normalRows h.normalRows
  allocated := h'.allocated.trans h.allocated
  now := h'.now.trans h.now
  notifyQueueTimer := h'.notifyQueueTimer.trans h.notifyQueueTimer

theorem remove (id : MessageId) (t : QueueType) (c : Core M) :
    Kept c { c with database := c.database.removeMessageQueueMessage id t } := by
  cases t with
  | normal => exact { refl c with normalRows := filter_subset_self _ }
  | transaction => exact { refl c with transactionRows := filter_subset_self _ }

end Kept

theorem sublist_split {α : Type} (pre post : List α) (a : α) :
    (pre ++ post).Sublist (pre ++ a :: post) :=
  (sublist_cons_self a post).append_left pre

theorem Taken.kept {m' : ControlMessage M} {c' : Core M} (h : Taken m m' c c') : Kept c c' := by
  cases h with
  | @transaction rest hq =>
    exact { Kept.refl c with transaction := hq ▸ sublist_cons_self m rest }
  | @normal pre post hq => exact { Kept.refl c with normal := hq ▸ sublist_split pre post m }

end Kept

theorem Trim.kept {P : ControlMessage M → Prop} (h : Trim cfg P c c') : Kept c c' := by
  cases h with
  | @normal pre post m hq =>
    unfold trimFromNormal
    split_ifs
    · exact { Kept.remove m.initialUniqueId .normal c with
        normal := hq ▸ sublist_split pre post m }
    · exact { Kept.refl c with normal := hq ▸ sublist_split pre post m }
  | @transaction pre post m hq =>
    exact { Kept.remove m.initialUniqueId .transaction c with
      transaction := hq ▸ sublist_split pre post m }

theorem Trims.kept {P : ControlMessage M → Prop} (h : Trims cfg P c c') : Kept c c' :=
  h.keep (I := Kept c) (fun ht hc => hc.trans ht.kept) (Kept.refl c)

/-- Trimming removes neither a BootNotification nor a transaction message but an update message, and
none of the last two. -/
structure Selective (c c' : Core M) : Prop extends Kept c c' where
  boots : c'.normalMessageQueue.filter (·.isBoot) = c.normalMessageQueue.filter (·.isBoot)
  events : c'.transactionMessageQueue.filter (fun m => !m.isUpdate) =
    c.transactionMessageQueue.filter fun m => !m.isUpdate
  lastTwo : c'.transactionMessageQueue.reverse.take 2 = c.transactionMessageQueue.reverse.take 2

theorem Trim.selective {P : ControlMessage M → Prop} {c₀ : Core M} (h : Trim cfg P c c')
    (hc : Selective c₀ c) : Selective c₀ c' := by
  have hk := hc.toKept.trans h.kept
  cases h with
  | normal hq hboot =>
    refine { hk with
      boots := hc.boots ▸ ?_, events := hc.events ▸ ?_, lastTwo := hc.lastTwo ▸ ?_ } <;>
      simp [hq, hboot]
  | transaction hq hupdate hlast =>
    refine { hk with boots := hc.boots, events := hc.events ▸ ?_, lastTwo := hc.lastTwo ▸ ?_ }
    · simp [trimFromTransaction, hq, hupdate]
    · have hle : 2 ≤ (reverse _).length := hlast.trans_eq (length_reverse ..).symm
      simp [trimFromTransaction, hq, take_append_of_le_length hle]

/-- **Trimming ends and is selective**: more passes change nothing, what is kept is kept in order,
and after it the excess is covered or only protected messages are left. -/
theorem trimming_bounded_and_selective (cfg : MessageQueueConfig M) (c : Core M) :
    (∀ k, c.trimNormal cfg (c.normalMessageQueue.length + 1 + k) =
      c.trimNormal cfg (c.normalMessageQueue.length + 1)) ∧
    (∀ k, c.trimTransaction cfg (c.transactionMessageQueue.length + 1 + k) =
      c.trimTransaction cfg (c.transactionMessageQueue.length + 1)) ∧
    Selective c (c.checkQueueSizes cfg) ∧
    ((c.checkQueueSizes cfg).queueSize ≤ cfg.sizeThreshold ∨
      (∀ m ∈ (c.checkQueueSizes cfg).normalMessageQueue, m.isBoot = true) ∧
      ∀ m ∈ (c.checkQueueSizes cfg).transactionMessageQueue.take
        ((c.checkQueueSizes cfg).transactionMessageQueue.length - 2), m.isUpdate = false) := by
  have hn := trimNormal_done cfg (Nat.lt_succ_self c.normalMessageQueue.length)
  refine ⟨hn.2, (trimTransaction_done cfg (Nat.lt_succ_self _)).2.2, ?_, ?_⟩
  · exact (trims_checkQueueSizes cfg c).keep (fun h => h.selective) ⟨.refl c, rfl, rfl, rfl⟩
  · unfold checkQueueSizes
    split_ifs with hsi
    · exact .inl hsi
    · generalize c.trimNormal cfg (c.normalMessageQueue.length + 1) = c₁ at hn ⊢
      obtain ⟨hd, hq, -⟩ := trimTransaction_done cfg (c := c₁) (Nat.lt_succ_self _)
      by_cases hs : c₁.queueSize ≤ cfg.sizeThreshold
      · rw [trimTransaction_of_le hs]
        exact .inl hs
      · refine hd.imp_right fun hu => ⟨?_, hu⟩
        rw [hq]
        simpa [droppable, filter_eq_nil_iff] using hn.1.resolve_left hs

theorem Core.kept_ended (cfg : MessageQueueConfig M) (m : ControlMessage M) (e : Event M)
    (reply : Reply) (c : Core M) : Kept c (c.ended cfg m e reply) := by
  have hrow := Kept.remove m.initialUniqueId (queueType m) c
  unfold ended
  split_ifs
  · exact { hrow with }
  · exact { Kept.refl c with }

omit [MessageType M] [DecidableEq M] in
/-- What does not depend on the transaction id is as before `notify_start_transaction_handled`. -/
theorem map_substituted {α : Type} {p : ControlMessage M → α}
    (hp : ∀ m id, p (m.withTransactionId id) = p m) (ids : List MessageId) (id : Int)
    (ms : List (ControlMessage M)) :
    (ms.map fun m => if ids.contains m.uniqueId then m.withTransactionId id else m).map p =
      ms.map p := by
  rw [map_map]
  refine map_congr_left fun m _ => ?_
  rw [Function.comp, apply_ite p, hp, ite_self]

/-- The id that a message gets when it is sent again after the step. -/
def Op.newId : Op M → Option MessageId
  | .workerPass _ newId | .receive _ newId | .pause newId | .inFlightTimeout newId
  | .lateInFlightTimeout _ _ newId => some newId
  | _ => none

/-- What a step does to what the queue holds. -/
inductive Effect (q : State M) (op : Op M) : Core M → Prop
  | unchanged : Effect q op q.toCore
  | elapsed {d : Nat} (hop : op = .advance d) :
      Effect q op { q.toCore with now := q.now + d }
  | notified {t : Int} (hop : op = .notifyQueueTimer) (harmed : q.notifyQueueTimer = some t)
      (hdue : t ≤ q.now) : Effect q op { q.toCore with notifyQueueTimer := none }
  | disarmed : Effect q op { q.toCore with inFlightTimeoutTimer := none }
  | joined (hworker : q.worker = .returned) :
      Effect q op { q.toCore with inFlightTimeoutTimer := none, notifyQueueTimer := none }
  | substituted (ids : List MessageId) (id : Int)
      (hop : ∃ startId, op = .notifyStartTransactionHandled startId id ∧
        ids = (q.startTransactionMidMeterValuesMidMap.at? startId).getD []) :
      Effect q op { q.toCore with
        transactionMessageQueue := q.transactionMessageQueue.map fun m =>
          if ids.contains m.uniqueId then m.withTransactionId id else m }
  | discarded {p : Push M} {stall : Bool} (hop : op = .pushCall p stall) :
      Effect q op (q.create false)
  | refused {p : Push M} (hop : op = .pushCallAsync p) :
      Effect q op ((q.create true).note [.promiseSet q.allocated .offline])
  | queued {p : Push M} {stall async : Bool} {c : Core M}
      (hop : op = if async then .pushCallAsync p else .pushCall p stall)
      (hstall : async = true → stall = false)
      (hc : Trims q.config
        (· ∈ ((q.create async).enqueue q.config (q.newControlMessage p stall)).exposed q.config)
        ((q.create async).enqueue q.config (q.newControlMessage p stall)) c)
      (hadmitted : q.admits p stall = true) : Effect q op c
  | sent {newId : MessageId} {t : QueueType} {m : ControlMessage M} {c : Core M}
      (hop : op = .workerPass true newId) (hsel : q.selected = some (t, m))
      (hc : Taken m (q.outgoing m) q.toCore c) (timer : InFlightTimeout) :
      Effect q op { c with inFlightTimeoutTimer := some timer }
  | sendFailed {newId : MessageId} {t : QueueType} {m : ControlMessage M} {c c' : Core M}
      (hop : op = .workerPass false newId) (hsel : q.selected = some (t, m))
      (hc : Taken m (q.outgoing m) q.toCore c)
      (hc' : Failed q.config .offline newId (q.outgoing m) c c') : Effect q op c'
  | failed {newId : MessageId} {m : ControlMessage M} {reply : Reply} {c : Core M}
      (hm : q.inFlight = some m) (hfail : q.failing op = some m)
      (hc : Failed q.config reply newId m q.toCore c) (hnew : op.newId = some newId) :
      Effect q op c
  | answered {newId id : MessageId} {m : ControlMessage M}
      (hop : op = .receive (.callResult id true) newId) (hm : q.inFlight = some m)
      (hid : m.uniqueId = id) :
      Effect q op (q.handleCallResult q.config id)

/-! ## Every step has an effect -/

/-- The steps that may stop the queue, end the worker or change the maps of ids. -/
def Op.steers : Op M → Bool
  | .workerPass _ _ | .actionDone _ | .workerReturns | .stop | .addStoppedTransactionId _ _
  | .addMeterValueMessageId _ _ | .notifyStartTransactionHandled _ _ => true
  | _ => false

namespace State

/-- The maps of transaction ids and of message ids. -/
def idMaps (q : State M) : Entries Int × Entries (List MessageId) :=
  (q.messageIdTransactionIdMap, q.startTransactionMidMeterValuesMidMap)

variable {q : State M} {op : Op M} {newId : MessageId} {q' : State M} {m : ControlMessage M}

theorem same_of_not_steers (h : op.steers = false) :
    (q.step op).running = q.running ∧ (q.step op).worker = q.worker ∧
      (q.step op).idMaps = q.idMaps := by
  cases op with
  | workerPass | actionDone | workerReturns | stop | addStoppedTransactionId
  | addMeterValueMessageId | notifyStartTransactionHandled => cases h
  | _ =>
    simp only [step, pushCall, pushCallAsync, responseSent, receive, receiveError, receiveResult,
      resume, resumeNow, inFlightTimedOut]
    repeat' split
    all_goals trivial

theorem effect_enqueue {p : Push M} (stall async : Bool)
    (hop : op = if async then .pushCallAsync p else .pushCall p stall)
    (hst : async → stall = false) (hadm : q.admits p stall) :
    Effect q op (((q.create async).enqueue q.config (q.newControlMessage p stall)).checkQueueSizes
      q.config) :=
  .queued hop hst (trims_checkQueueSizes _ _) hadm

omit [MessageType M] [DecidableEq M] in
@[simp] theorem config_onCore (f : Core M → Core M) (q : State M) :
    (q.onCore f).config = q.config := rfl

theorem effect_pushCall (p : Push M) (stall : Bool) (q : State M) :
    Effect q (.pushCall p stall) (q.pushCall p stall).toCore := by
  have hqu := effect_enqueue (q := q) (p := p) stall false rfl nofun
  unfold pushCall
  split_ifs with hrun
  · exact .unchanged
  · dsimp only
    split_ifs with ht hn
    · rw [← addToTransactionMessageQueue_eq ht] at hqu
      exact hqu (by simp_all [admits])
    · rw [← addToNormalMessageQueue_eq (by simpa using ht)] at hqu
      exact hqu (by simp_all [admits, allocate])
    · exact .discarded rfl

theorem effect_pushCallAsync (p : Push M) (q : State M) :
    Effect q (.pushCallAsync p) (q.pushCallAsync p).toCore := by
  have hqu := effect_enqueue (q := q) (p := p) false true rfl fun _ => rfl
  unfold pushCallAsync
  dsimp only
  split_ifs with hrun ht href
  · exact .refused rfl
  · rw [← addToTransactionMessageQueue_eq ht] at hqu
    exact hqu (by simp_all [admits])
  · exact .refused rfl
  · rw [← addToNormalMessageQueue_eq (by simpa using ht)] at hqu
    have hadm : q.admits p false := by
      simp only [allocate, config_onCore] at href
      cases hp : p.seen.paused <;> cases hres : p.seen.resuming <;>
        simp_all [admits, Classical.or_iff_not_imp_left]
    exact hqu hadm

section Fails

variable (hq : q'.toCore = q.toCore ∨ q'.toCore = { q.toCore with inFlightTimeoutTimer := none })

include hq

theorem effect_same : Effect q op q'.toCore := by
  rcases hq with hq | hq <;> rw [hq]
  · exact .unchanged
  · exact .disarmed

/-- The message in flight fails, with its timer stopped before or not. -/
theorem effect_fails (hcon : q'.config = q.config) (hm : q.inFlight = some m)
    (hf : q.failing op = some m) (hnew : op.newId = some newId) (reply : Reply) :
    Effect q op (q'.handleTimeoutOrCallerror reply newId).toCore := by
  have hend : (q'.handleTimeoutOrCallerror reply newId).toCore =
      q.toCore.handleTimeoutOrCallerror q.config reply newId := by
    unfold handleTimeoutOrCallerror
    rw [toCore_onCore, hcon]
    rcases hq with hq | hq <;> rw [hq]
    exact handleTimeoutOrCallerror_disarmed hm
  rw [hend]
  exact .failed hm hf (failed_handleTimeoutOrCallerror _ _ _ hm) hnew

theorem effect_inFlightTimedOut {message : Nat} {messageId : MessageId}
    (hcon : q'.config = q.config) (hnew : op.newId = some newId)
    (hf : ∀ m, q.timedOut message messageId = some m → q.failing op = some m) :
    Effect q op (q'.inFlightTimedOut message messageId newId).toCore := by
  have hin : q'.inFlight = q.inFlight := by rcases hq with hq | hq <;> rw [hq]
  unfold inFlightTimedOut
  rw [hin]
  cases hm : q.inFlight with
  | none => exact effect_same hq
  | some m =>
    dsimp only
    split_ifs with ho
    · exact effect_same hq
    · exact effect_fails hq hcon hm (hf m (by simp_all [timedOut])) hnew _

end Fails

theorem effect_receive (msg : Received) (newId : MessageId) (q : State M) :
    Effect q (.receive msg newId) (q.receive newId msg).toCore := by
  have he : ∀ {msg id}, (∀ m, q.inFlight = some m → m.uniqueId = id →
      q.failing (.receive msg newId) = some m) → Effect q (.receive msg newId)
        ({ q with nextMessageToSend := none }.receiveError id newId).toCore := by
    intro msg id hf
    unfold receiveError
    cases hm : q.inFlight with
    | none => exact .unchanged
    | some m =>
      dsimp only
      split_ifs with ho
      · exact .unchanged
      · exact effect_fails (.inl rfl) rfl hm (hf m hm (by simpa using ho)) rfl _
  match msg with
  | .call id => exact .unchanged
  | .callResult id true =>
    simp only [receive, receiveResult]
    cases hm : q.inFlight with
    | none => exact .unchanged
    | some m =>
      dsimp only
      split_ifs with ho
      · exact .unchanged
      · exact .answered rfl hm (by simpa using ho)
  | .callResult id false | .callError id => exact he fun m hm hid => by simp [failing, hm, hid]

/-- The selected message is put in flight, and fails if `send_callback` does. -/
theorem send_cases {t : QueueType} (hsel : q.selected = some (t, m)) (sendOk : Bool)
    (newId : MessageId) :
    ∃ c, Taken m (q.outgoing m) q.toCore c ∧
      if sendOk then
        ∃ timer, (q.send sendOk newId t m).toCore = { c with inFlightTimeoutTimer := some timer }
      else Failed q.config .offline newId (q.outgoing m) c (q.send sendOk newId t m).toCore := by
  have ht := taken_take (nextMessage_of_selected hsel).2 (q.outgoing m)
  refine ⟨_, ht, ?_⟩
  unfold send
  rw [apply_ite State.toCore, ite_self]
  cases sendOk with
  | true => exact ⟨_, rfl⟩
  | false => exact failed_handleTimeoutOrCallerror q.config .offline newId ht.inFlight

theorem beginAction_same (h : q.inFlight = none) (newId : MessageId) :
    (q.beginAction newId).toCore = q.toCore ∧ (q.beginAction newId).idMaps = q.idMaps := by
  unfold beginAction
  dsimp only
  split_ifs
  · simp [pause, handleTimeoutOrCallerror, Core.handleTimeoutOrCallerror, h, onCore, idMaps]
  · exact ⟨rfl, rfl⟩

variable (sendOk : Bool)

theorem sendNext_cases (newId : MessageId) (q : State M) :
    ((q.nextMessage q.isRegistrationStatusAccepted).filter (fun (_, m) => !q.heldBack m) = none ∧
      (q.sendNext sendOk newId).toCore = q.toCore ∧ (q.sendNext sendOk newId).idMaps = q.idMaps) ∨
    ∃ t m, (q.nextMessage q.isRegistrationStatusAccepted).filter (fun (_, m) => !q.heldBack m) =
      some (t, m) ∧ q.sendNext sendOk newId = q.send sendOk newId t m := by
  unfold sendNext
  split
  · rename_i hne
    exact .inl ⟨by rw [hne]; rfl, rfl, rfl⟩
  · rename_i t m hne
    split_ifs with hh
    · exact .inl ⟨by simp [hne, hh], rfl, rfl⟩
    · exact .inr ⟨t, m, by simp [hne, hh], rfl⟩

/-- A pass of the worker sends the selected message or leaves the messages and the maps. -/
theorem workerPass_cases (newId : MessageId) (q : State M) :
    (q.selected = none ∧ (q.workerPass sendOk newId).toCore = q.toCore ∧
      (q.workerPass sendOk newId).idMaps = q.idMaps) ∨
    ∃ t m, q.selected = some (t, m) ∧
      (q.workerPass sendOk newId).toCore = (q.send sendOk newId t m).toCore ∧
      (q.workerPass sendOk newId).idMaps = (q.send sendOk newId t m).idMaps := by
  unfold workerPass selected sends
  cases hw : q.worker with
  | action | returned => simp
  | loop =>
    cases ha : q.awake with
    | false => simp
    | true =>
      cases hid : (q.running && decide (q.idleActions > 0) && q.inFlight.isNone) with
      | true => simpa using beginAction_same (by simp_all) newId
      | false =>
        cases hb : (q.paused || q.inFlight.isSome) with
        | true =>
          simp only [beq_self_eq_true, Bool.not_true, Bool.and_false, Bool.false_eq_true, if_false,
            if_true, true_and]
          split_ifs <;> exact .inl ⟨rfl, rfl⟩
        | false =>
          simp only [beq_self_eq_true, Bool.not_true, Bool.not_false, Bool.and_self,
            Bool.false_eq_true, if_false, if_true]
          rcases sendNext_cases sendOk newId q with ⟨hno, hc, hm⟩ | ⟨t, m, hs, hse⟩
          · refine .inl ⟨hno, ?_⟩
            split_ifs <;> exact ⟨hc, hm⟩
          · refine .inr ⟨t, m, hs, ?_⟩
            rw [hse]
            split_ifs <;> exact ⟨rfl, rfl⟩

theorem effect_workerPass (newId : MessageId) (q : State M) :
    Effect q (.workerPass sendOk newId) (q.workerPass sendOk newId).toCore := by
  rcases workerPass_cases sendOk newId q with ⟨-, hc, -⟩ | ⟨t, m, hsel, hc, -⟩
  · exact hc ▸ .unchanged
  · rw [hc]
    obtain ⟨c, ht, hend⟩ := send_cases hsel sendOk newId
    cases sendOk with
    | true =>
      obtain ⟨timer, hend⟩ := hend
      exact hend ▸ .sent rfl hsel ht timer
    | false => exact .sendFailed rfl hsel ht hend

/-- **Every step has an effect.** -/
theorem effect_step (q : State M) (op : Op M) : Effect q op (q.step op).toCore := by
  cases op with
  | pushCall p stall => exact effect_pushCall p stall q
  | pushCallAsync p => exact effect_pushCallAsync p q
  | workerPass sendOk newId => exact effect_workerPass sendOk newId q
  | receive msg newId => exact effect_receive msg newId q
  | responseSent | actionDone | workerReturns | resume | resumeTimer | lateResume =>
    simp only [step, responseSent, actionDone, resume, resumeNow]
    repeat' split
    all_goals exact .unchanged
  | pause newId =>
    cases hm : q.inFlight with
    | none =>
      have hs : (q.pause newId).toCore = q.toCore := by
        simp [pause, handleTimeoutOrCallerror, Core.handleTimeoutOrCallerror, hm]
      exact hs ▸ .unchanged
    | some m =>
      have hf : q.failing (.pause newId) = some m := hm
      exact effect_fails (.inl rfl) rfl hm hf rfl .offline
  | notifyStartTransactionHandled startId id => exact .substituted _ id ⟨startId, rfl, rfl⟩
  | inFlightTimeout =>
    simp only [step]
    split
    · rename_i timer ht
      split_ifs with hdue
      · refine effect_inFlightTimedOut (.inr rfl) rfl rfl fun m hm => ?_
        rw [failing, ht, Option.filter_some_pos (by simpa using hdue)]
        exact hm
      · exact .unchanged
    · exact .unchanged
  | lateInFlightTimeout => exact effect_inFlightTimedOut (.inl rfl) rfl rfl fun m hm => hm
  | notifyQueueTimer =>
    simp only [step]
    split
    · rename_i t ha
      split_ifs with hdue
      · exact .notified rfl ha hdue
      · exact .unchanged
    · exact .unchanged
  | advance => exact .elapsed rfl
  | joined =>
    simp only [step]
    split_ifs with hw
    · exact .joined (by simpa using hw)
    · exact .unchanged
  | _ => exact .unchanged

theorem keeps_run {I : Core M → Prop} (hI : ∀ {q op c}, Effect q op c → I q.toCore → I c)
    (ops : List (Op M)) (hq : I q.toCore) : I (runFrom q ops).toCore :=
  Machine.run_invariant (I := fun q => I q.toCore) (fun q op hq => hI (effect_step q op) hq) ops hq

end State

/-! ## Booting -/

/-- What the load of each row of a table keeps, the load of the table keeps. -/
theorem Core.loadTable_keeps {ignore : Bool} {t : QueueType} {I : Core M → Prop} {P : Row M → Prop}
    (hI : ∀ {c r}, P r → I c → I (loadRow ignore t c r))
    (hr : ∀ r ∈ c.database.getMessageQueueMessages t, P r) (hc : I c) :
    I (c.loadTable ignore t) := by
  unfold loadTable
  generalize c.database.getMessageQueueMessages t = rows at hr
  induction rows generalizing c with
  | nil => exact hc
  | cons r rows ih =>
    rw [forall_mem_cons] at hr
    exact ih (hI hr.1 hc) hr.2

end EverestCore.Ocpp.MessageQueue

import EverestCore.Ocpp.MessageQueue.Effects

/-!
# Wake-ups of the worker

A failed message is queued again with a time stamp at which it may be sent, and `notify_queue_timer`
is set to wake the worker then. There is one timer for all messages. A second failure sets it anew,
also to a later time, and its callback does not set it for the next message: the wake-up of the
message that is due earlier, or of one that is due later, is lost.

Results:
* `retry_wake_up_kept`: so does every run of such steps.
* `retry_wake_up_lost`: a StartTransaction that is to be sent again in 30 s, and a BootNotification
  that fails after it.
-/

namespace EverestCore.Ocpp.MessageQueue

open EverestCore.Lib Ocpp.MessageType List MessageQueue.Core

variable {M : Type} [MessageType M] [DecidableEq M]

namespace Core

/-- The messages on the queues. -/
def queued (c : Core M) : List (ControlMessage M) :=
  c.transactionMessageQueue ++ c.normalMessageQueue

/-- The timer is set for a time not later than that of any queued message in the future. -/
def Armed (c : Core M) : Prop :=
  ∀ m ∈ c.queued, c.now < m.timestamp → ∃ t, c.notifyQueueTimer = some t ∧ t ≤ m.timestamp

end Core

namespace State

/-- A failed message is not set to be sent later than a queued message, and when the timer calls
back no queued message is to be sent later. -/
def keepsWakeUps (q : State M) (op : Op M) : Bool :=
  (match q.failing op with
    | some m => !retries q.config m || q.queued.all fun x =>
        decide (q.now < x.timestamp → retryAt q.config q.now m ≤ x.timestamp)
    | none => true) &&
  match op, q.notifyQueueTimer with
    | .notifyQueueTimer, some t =>
      decide (q.now < t) || q.queued.all fun x => decide (x.timestamp ≤ q.now)
    | _, _ => true

end State

namespace Core.Armed

variable {c c' : Core M} {cfg : MessageQueueConfig M} {m : ControlMessage M}

omit [MessageType M] [DecidableEq M] in
theorem kept (h : c.Armed) (hk : Kept c c') : c'.Armed := by
  intro m hm hf
  rw [hk.now] at hf
  rw [hk.notifyQueueTimer]
  exact h m ((hk.transaction.append hk.normal).subset hm) hf

theorem enqueue (h : c.Armed) (cfg : MessageQueueConfig M) (hm : m.timestamp ≤ c.now) :
    (c.enqueue cfg m).Armed := by
  intro x hx hf
  have hmem : x ∈ c.queued ∨ x = m := by
    rw [queued, mem_append, mem_normal_enqueue] at hx
    simp only [enqueue_eq, mem_append, queued] at hx ⊢
    split_ifs at hx <;> simp only [mem_singleton, not_mem_nil] at hx <;> tauto
  rw [enqueue_eq] at hf ⊢
  rcases hmem with hx | rfl
  · exact h x hx hf
  · exact absurd hf (Int.not_lt.mpr hm)

/-- A failed message sets the timer for itself, which is early enough for the others. -/
theorem failed {reply : Reply} {newId : MessageId} (hfai : Failed cfg reply newId m c c')
    (he : retries cfg m → ∀ x ∈ c.queued, c.now < x.timestamp → retryAt cfg c.now m ≤ x.timestamp)
    (h : c.Armed) : c'.Armed := by
  refine hfai.elim (fun hr x hx hf => ?_) fun _ _ _ => h.kept (kept_ended ..)
  refine ⟨retryAt cfg c.now m, rfl, ?_⟩
  rw [retried_eq] at hx hf
  have hmem : x = again cfg c.now newId m ∨ x ∈ c.queued := by
    simp only [queued, mem_append] at hx ⊢
    split_ifs at hx <;> simp only [mem_cons] at hx <;> tauto
  rcases hmem with rfl | hx
  · exact Int.le_refl _
  · exact he hr x hx hf

theorem effect {q : State M} {op : Op M} {c : Core M} (heff : Effect q op c)
    (hk : q.keepsWakeUps op) (hw : q.worker ≠ .returned) (h : q.toCore.Armed) : c.Armed := by
  obtain ⟨hfa, ht⟩ := Bool.and_eq_true_iff.mp hk
  have he : ∀ m, q.failing op = some m → retries q.config m →
      ∀ x ∈ q.queued, q.now < x.timestamp → retryAt q.config q.now m ≤ x.timestamp := by
    intro m hm hr x hx
    rw [hm] at hfa
    dsimp only at hfa
    rw [hr, Bool.not_true, Bool.false_or] at hfa
    exact of_decide_eq_true (all_eq_true.mp hfa x hx)
  cases heff with
  | elapsed =>
    intro m hm hf
    exact h m hm (by grind)
  | @notified t hop ha hdue =>
    -- the timer is not set any more, and nothing needs it
    intro m hm hf
    rw [hop, ha] at ht
    have hall := (Bool.or_eq_true_iff.mp ht).resolve_left (by simpa using hdue)
    have hp : m.timestamp ≤ q.now := by simpa using all_eq_true.mp hall m hm
    exact absurd hf (Int.not_lt.mpr hp)
  | joined hret => exact absurd hret hw
  | substituted ids id =>
    intro m hm hf
    rcases mem_append.mp hm with hm | hm
    · obtain ⟨x, hx, rfl⟩ := mem_map.mp hm
      have := h x (mem_append_left _ hx)
      split_ifs at hf ⊢ <;> exact this hf
    · exact h m (mem_append_right _ hm) hf
  | @queued p stall async c _ _ hc =>
    refine kept (enqueue (c := q.create async) h q.config ?_) hc.kept
    simp [State.newControlMessage, ControlMessage.make]
  | sent _ _ hc => exact h.kept { hc.kept with }
  | @sendFailed _ _ m c _ hop hsel hc hc' =>
    have hm : q.failing op = some (q.outgoing m) := by
      rw [hop, State.failing, hsel]
      rfl
    refine (h.kept hc.kept).failed hc' fun hr x hx => ?_
    rw [hc.kept.now]
    exact he _ hm hr x ((hc.kept.transaction.append hc.kept.normal).subset hx)
  | failed hm hfai hc => exact h.failed hc (he _ hfai)
  | answered _ hm hid => exact handleCallResult_eq hm hid ▸ h.kept (kept_ended ..)
  | _ => exact h

end Core.Armed

/-! ## Runs -/

/-- The queue and its worker are where they were. -/
def SameFlags (q q' : State M) : Prop := q'.running = q.running ∧ q'.worker = q.worker

namespace State

theorem sameFlags_sendNext (sendOk : Bool) (newId : MessageId) (q : State M) :
    SameFlags q (q.sendNext sendOk newId) := by
  unfold sendNext send
  dsimp only
  repeat' split
  all_goals exact ⟨rfl, rfl⟩

/-- The queue does not start again, and its worker returns only when it was stopped. -/
theorem running_step {q : State M} {op : Op M} (h : (q.step op).running) :
    q.running ∧ ((q.step op).worker = .returned → q.worker = .returned) := by
  cases hop : op.steers with
  | false =>
    obtain ⟨hrun, hw, -⟩ := same_of_not_steers (q := q) hop
    exact ⟨hrun ▸ h, fun hr => hw ▸ hr⟩
  | true =>
    cases op with
    | workerPass sendOk newId =>
      obtain ⟨hrun, hw⟩ := sameFlags_sendNext sendOk newId q
      revert h
      simp only [step, workerPass]
      repeat' split
      all_goals simp_all [beginAction]
    | actionDone stillConnected =>
      revert h
      simp only [step, actionDone, resume, resumeNow]
      repeat' split
      all_goals simp_all
    | workerReturns =>
      simp only [step] at h ⊢
      split_ifs at h ⊢ <;> simp_all
    | stop => cases h
    | addStoppedTransactionId | addMeterValueMessageId | notifyStartTransactionHandled =>
      exact ⟨h, fun hr => hr⟩
    | _ => cases hop

end State

/-- A step that keeps the wake-ups keeps the timer of a running queue armed. -/
theorem armed_step {q : State M} {op : Op M} (hk : q.keepsWakeUps op)
    (h : q.running → q.worker ≠ .returned ∧ q.toCore.Armed) :
    (q.step op).running → (q.step op).worker ≠ .returned ∧ (q.step op).toCore.Armed := by
  intro hrun
  obtain ⟨hb, hret⟩ := State.running_step hrun
  obtain ⟨hw, ha⟩ := h hb
  exact ⟨fun hr => hw (hret hr), ha.effect (State.effect_step q op) hk hw⟩

/-- Nothing on the queues or in the transaction table is to be sent later than `now`. -/
def Core.Due (now : Int) (c : Core M) : Prop :=
  (∀ m ∈ c.queued, m.timestamp ≤ now) ∧ c.now = now ∧
    ∀ r ∈ c.database.transaction, r.timestamp ≤ now

theorem Core.Due.loadRow {now : Int} {c : Core M} (h : c.Due now) (ignore : Bool) {t : QueueType}
    {r : Row M} (hr : r.timestamp ≤ now) : (Core.loadRow ignore t c r).Due now := by
  obtain ⟨hq, hnow, hro⟩ := h
  unfold Core.loadRow
  split_ifs
  · refine ⟨hq, hnow, ?_⟩
    cases t with
    | normal => exact hro
    | transaction => exact fun x hx => hro x (mem_filter.mp hx).1
  · cases t <;> refine ⟨?_, hnow, hro⟩ <;> intro m hm <;>
      simp only [queued, note, pushBack, mem_append, mem_singleton] at hm
    · rcases hm with hm | hm | rfl
      · exact hq m (mem_append_left _ hm)
      · exact hq m (mem_append_right _ hm)
      · exact hr
    · rcases hm with (hm | rfl) | hm
      · exact hq m (mem_append_left _ hm)
      · exact hr
      · exact hq m (mem_append_right _ hm)

/-- The messages from the database are not to be sent in the future. -/
theorem armed_boot {db : Database M} {now : Int}
    (hdb : ∀ r ∈ db.normal ++ db.transaction, r.timestamp ≤ now) (cfg : MessageQueueConfig M)
    (ignore : Bool) : (boot cfg ignore db now).toCore.Armed := by
  rw [forall_mem_append] at hdb
  have he : Core.Due now ({ database := db, now := now } : Core M) :=
    ⟨by simp [queued], rfl, hdb.2⟩
  have hn := loadTable_keeps (I := Core.Due now) (P := fun r => r.timestamp ≤ now)
    (t := .normal) (fun hr hc => hc.loadRow ignore hr) hdb.1 he
  have hl := loadTable_keeps (I := Core.Due now) (P := fun r => r.timestamp ≤ now)
    (t := .transaction) (fun hr hc => hc.loadRow ignore hr) hn.2.2 hn
  have ha : ∀ {c : Core M}, c.Due now → c.Armed := by
    intro c hc m hm hf
    have := hc.1 m hm
    rw [hc.2.1] at hf
    omega
  unfold boot
  split_ifs
  · exact ha hl
  · exact ha ⟨hl.1, hl.2.1, hl.2.2⟩

/-- The message is one that the worker waits for: the head of the transaction queue or a normal
message, not held back by the registration status. -/
def State.awaits (m : ControlMessage M) (q : State M) : Prop :=
  (q.transactionMessageQueue.head? = some m ∨ m ∈ q.normalMessageQueue) ∧
    (m.stallUntilAccepted = true → q.isRegistrationStatusAccepted = true)

/-- **No wake-up is lost** in a run in which every failed message is set to be sent no later than
the queued ones and the timer calls back only when no queued message is to be sent later, and which
starts with no persisted message from the future: whenever the queue is running, not paused, has
nothing in flight and `new_message` is unset, the timer is set for a time not later than that of any
message that the worker waits for. -/
theorem retry_wake_up_kept {cfg : MessageQueueConfig M} {ignore : Bool} {db : Database M}
    {now : Int} {ops : List (Op M)} (hdb : ∀ r ∈ db.normal ++ db.transaction, r.timestamp ≤ now)
    (hkeep : Machine.Along State.step (fun q op => q.keepsWakeUps op = true)
      (boot cfg ignore db now) ops) :
    let q := runFrom (boot cfg ignore db now) ops
    q.running = true → q.paused = false → q.inFlight = none → q.newMessage = false →
      ∀ m, q.awaits m → q.now < m.timestamp →
        ∃ t, q.notifyQueueTimer = some t ∧ t ≤ m.timestamp := by
  intro q hr _ _ _ m hm hf
  have hb : (boot cfg ignore db now).running = true →
      (boot cfg ignore db now).worker ≠ .returned ∧ (boot cfg ignore db now).toCore.Armed :=
    fun _ => ⟨nofun, armed_boot hdb cfg ignore⟩
  have ha := (Machine.run_invariant_along
    (I := fun q : State M => q.running = true → q.worker ≠ .returned ∧ q.toCore.Armed)
    (fun q op hkeep h => armed_step hkeep h) ops hkeep hb hr).2
  refine ha m ?_ hf
  rcases hm.1 with hm | hm
  · exact mem_append_left _ (mem_of_mem_head? hm)
  · exact mem_append_right _ hm

/-- A StartTransaction of OCPP 1.6 that cannot be sent, and a pass that finds nothing to send. -/
def failedStart : List (Op V16.MessageType) :=
  [.resume 0,
    .pushCall { call := ⟨1, .startTransaction, {}⟩, seen := ⟨true, false, false⟩ } false,
    .workerPass false 11, .workerPass true 0]

/-- The timer is set for the StartTransaction, in 30 s. -/
theorem failed_start_wakes_worker :
    let q := runFrom (boot {} false {} 0) failedStart
    q.newMessage = false ∧ q.transactionMessageQueue.map (·.timestamp) = [30000000000] ∧
      ∃ t, q.notifyQueueTimer = some t ∧ t ≤ 30000000000 := by
  have hk : Machine.Along State.step (fun q op => q.keepsWakeUps op = true)
      (boot (M := V16.MessageType) {} false {} 0) failedStart := by decide
  have hw := retry_wake_up_kept (by simp) hk (by decide) (by decide) (by decide) (by decide)
  exact ⟨by decide, by decide, hw _ ⟨.inl rfl, by decide⟩ (by decide)⟩

/-- A BootNotification fails after the StartTransaction: the worker sleeps, the StartTransaction is
to be sent again in 30 s, and the timer is set for the BootNotification, in 60 s. -/
theorem retry_wake_up_lost :
    let q := runFrom (boot (M := V16.MessageType) {} false {} 0) (failedStart.take 3 ++
        [.pushCall { call := ⟨2, .bootNotification, {}⟩, seen := ⟨true, false, false⟩ } false,
          .workerPass false 12, .workerPass true 0])
    q.running = true ∧ q.paused = false ∧ q.inFlight = none ∧ q.newMessage = false ∧
      q.now = 0 ∧ q.transactionMessageQueue.map (·.timestamp) = [30000000000] ∧
      q.transactionMessageQueue.all (fun m => !m.stallUntilAccepted) = true ∧
      q.notifyQueueTimer = some 60000000000 := by
  decide

end EverestCore.Ocpp.MessageQueue

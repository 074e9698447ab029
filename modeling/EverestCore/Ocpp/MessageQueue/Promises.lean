import EverestCore.Ocpp.MessageQueue.Effects
import Mathlib.Data.List.Nodup

/-!
# The promises of asynchronous calls

`push_call_async` returns a future, whose promise is with the `ControlMessage`. It is given a value
when the message is refused, answered, given up or dropped after a failure. `check_queue_sizes`
drops messages as well, but gives their promises no value: the caller is left with a broken promise.

Results:
* `async_call_settled_once`: after every run of such steps each message of `push_call_async` is in
  exactly one place.
* `async_call_trimmed`: a queue of one message, and a second message that drops the first.
-/

namespace EverestCore.Ocpp.MessageQueue

open EverestCore.Lib Ocpp.MessageType List Event

variable {M : Type}

/-- The message whose promise is given a value. -/
def Event.settledRef : Event M → Option Nat
  | .promiseSet ref _ => some ref
  | _ => none

namespace Core

/-- The messages on the transaction queue, on the normal queue, in flight, and with a promise that
was given a value. -/
def accounts (c : Core M) : List Nat :=
  c.transactionMessageQueue.map (·.ref) ++ (c.normalMessageQueue.map (·.ref) ++
    (c.inFlight.toList.map (·.ref) ++ c.log.filterMap settledRef))

structure Accounted (c : Core M) : Prop where
  nodup : c.accounts.Nodup
  lt_allocated : ∀ r ∈ c.accounts, r < c.allocated
  called : ∀ r, .called r ∈ c.log → r ∈ c.accounts

end Core

variable [MessageType M] [DecidableEq M]

namespace State

/-- What the queue holds when the push of a step has queued its message, before it is trimmed. -/
def filled (q : State M) : Op M → Option (Core M)
  | .pushCall p stall =>
    if q.admits p stall then
      some ((q.create false).enqueue q.config (q.newControlMessage p stall))
    else none
  | .pushCallAsync p =>
    if q.admits p false then
      some ((q.create true).enqueue q.config (q.newControlMessage p false))
    else none
  | _ => none

/-- The messages that trimming reaches are not those of `push_call_async`. -/
def sparesCalls (q : State M) (op : Op M) : Bool :=
  match q.filled op with
  | some c => (c.exposed q.config).all fun m => !c.log.contains (.called m.ref)
  | none => true

end State

namespace Core.Accounted

variable {c c' : Core M} {cfg : MessageQueueConfig M} {m : ControlMessage M}

omit [MessageType M] [DecidableEq M] in
theorem of_perm (h : c.Accounted) (hp : c'.accounts.Perm c.accounts)
    (ha : c'.allocated = c.allocated) (hc : ∀ r, .called r ∈ c'.log → .called r ∈ c.log) :
    c'.Accounted where
  nodup := hp.nodup_iff.mpr h.nodup
  lt_allocated r hr := ha ▸ h.lt_allocated r (hp.mem_iff.mp hr)
  called r hr := hp.mem_iff.mpr (h.called r (hc r hr))

omit [MessageType M] [DecidableEq M] in
theorem of_new (h : c.Accounted) (hp : c'.accounts.Perm (c.allocated :: c.accounts))
    (ha : c'.allocated = c.allocated + 1)
    (hc : ∀ r, .called r ∈ c'.log → r = c.allocated ∨ .called r ∈ c.log) : c'.Accounted where
  nodup := by
    refine hp.nodup_iff.mpr (nodup_cons.mpr ⟨fun hmem => ?_, h.nodup⟩)
    exact absurd (h.lt_allocated _ hmem) (Nat.lt_irrefl _)
  lt_allocated r hr := by
    rw [ha]
    rcases mem_cons.mp (hp.mem_iff.mp hr) with rfl | hr
    · exact Nat.lt_succ_self _
    · exact Nat.lt_succ_of_lt (h.lt_allocated r hr)
  called r hr := by
    refine hp.mem_iff.mpr (mem_cons.mpr ?_)
    exact (hc r hr).imp_right (h.called r)

theorem trim {P : ControlMessage M → Prop} (ht : Trim cfg P c c')
    (hP : ∀ m, P m → .called m.ref ∉ c.log) (h : c.Accounted) :
    c'.Accounted ∧ ∀ r, .called r ∈ c'.log → .called r ∈ c.log := by
  obtain ⟨m, hm, hp, hc⟩ : ∃ m, P m ∧ c.accounts.Perm (m.ref :: c'.accounts) ∧
      ∀ r, .called r ∈ c'.log → .called r ∈ c.log := by
    cases ht with
    | normal hq _ hm | transaction hq _ _ hm =>
      refine ⟨_, hm, perm_iff_count.mpr fun r => ?_, by simp [trimFromTransaction]⟩
      simp [accounts, hq, trimFromTransaction, count_cons, filterMap_cons, settledRef]
      omega
  refine ⟨⟨(nodup_cons.mp (hp.nodup_iff.mp h.nodup)).2, fun r hr => ?_, fun r hr => ?_⟩, hc⟩
  · rw [ht.kept.allocated]
    exact h.lt_allocated r (hp.mem_iff.mpr (mem_cons_of_mem _ hr))
  · have hmem := hp.mem_iff.mp (h.called r (hc r hr))
    refine (mem_cons.mp hmem).resolve_left ?_
    rintro rfl
    exact hP m hm (hc _ hr)

theorem trims {P : ControlMessage M → Prop} (ht : Trims cfg P c c')
    (hP : ∀ m, P m → .called m.ref ∉ c.log) (h : c.Accounted) : c'.Accounted := by
  have hk : c'.Accounted ∧ ∀ r, .called r ∈ c'.log → .called r ∈ c.log := by
    refine ht.keep (I := fun x => x.Accounted ∧ ∀ r, .called r ∈ x.log → .called r ∈ c.log)
      (fun htm hx => ?_) ⟨h, fun _ hr => hr⟩
    obtain ⟨hx', hc⟩ := trim htm (fun m hm hmem => hP m hm (hx.2 _ hmem)) hx.1
    exact ⟨hx', fun r hr => hx.2 r (hc r hr)⟩
  exact hk.1

theorem enqueue (cfg : MessageQueueConfig M) (async : Bool) (hm : m.ref = c.allocated)
    (h : c.Accounted) : ((c.create async).enqueue cfg m).Accounted := by
  refine h.of_new (perm_iff_count.mpr fun r => ?_) (by simp) fun r hr => ?_
  · have hlog : (if async then .called c.allocated :: c.log else c.log).filterMap
        settledRef = c.log.filterMap settledRef := by
      cases async <;> simp [filterMap_cons, settledRef]
    simp only [accounts, enqueue_eq, create, filterMap_cons, settledRef, hlog,
      count_append, count_cons]
    split_ifs <;> simp_all <;> omega
  · cases async with
    | false => exact .inr (by simpa using hr)
    | true => simpa using hr

omit [MessageType M] [DecidableEq M] in
theorem taken {m' : ControlMessage M} (ht : Taken m m' c c') (hin : c.inFlight = none)
    (href : m'.ref = m.ref) (h : c.Accounted) : c'.Accounted := by
  cases ht with
  | transaction hq | normal hq =>
    refine h.of_perm (perm_iff_count.mpr fun r => ?_) rfl (by simp)
    simp [accounts, hq, hin, href, count_cons, filterMap_cons, settledRef]
    omega

theorem ended (hin : c.inFlight = some m) {e : Event M} {reply : Reply}
    (he : e.settledRef = none ∧ ∀ r, .called r ≠ e) (h : c.Accounted) :
    (c.ended cfg m e reply).Accounted := by
  have hv : settledRef (.promiseSet m.ref reply : Event M) = some m.ref := rfl
  refine h.of_perm (perm_iff_count.mpr fun r => ?_) rfl (by simp [Core.ended, he.2])
  simp [accounts, Core.ended, hin, he.1, hv, count_cons]

theorem failed {reply : Reply} {newId : MessageId} (hf : Failed cfg reply newId m c c')
    (hin : c.inFlight = some m) (h : c.Accounted) : c'.Accounted := by
  refine hf.elim (fun _ => ?_) fun e _ he => h.ended hin ?_
  · have hca : ∀ e ∈ retryCalls cfg newId m, e.settledRef = none ∧ ∀ r, .called r ≠ e :=
      fun e he => by
        rw [eq_of_mem_retryCalls he]
        exact ⟨rfl, by simp⟩
    have hlog := filterMap_eq_nil_iff.mpr fun e he => (hca e he).1
    have href : (again cfg c.now newId m).ref = m.ref := rfl
    rw [retried_eq]
    refine h.of_perm (perm_iff_count.mpr fun r => ?_) rfl fun r hr => ?_
    · simp only [accounts, hin, filterMap_append, hlog, filterMap_cons, settledRef]
      split_ifs <;> simp [href, count_cons] <;> omega
    · have hnot : .called r ∉ retryCalls cfg newId m := fun hmem => (hca _ hmem).2 r rfl
      simpa [hnot] using hr
  · rcases he with ⟨rfl, -⟩ | ⟨rfl, -⟩ <;> exact ⟨rfl, by simp⟩

theorem effect {q : State M} {op : Op M} (heff : Effect q op c) (hs : q.sparesCalls op)
    (h : q.toCore.Accounted) : c.Accounted := by
  cases heff with
  | unchanged => exact h
  | substituted ids id =>
    refine h.of_perm ?_ rfl fun _ hr => hr
    rw [accounts, map_substituted fun _ _ => rfl]
    exact .refl _
  | discarded =>
    exact ⟨h.nodup, fun r hr => Nat.lt_succ_of_lt (h.lt_allocated r hr), h.called⟩
  | refused =>
    refine h.of_new (perm_iff_count.mpr fun r => ?_) rfl fun r hr => ?_
    · simp [accounts, count_cons, filterMap_cons, settledRef]
      omega
    · simpa using hr
  | @queued p stall async c hop hst hc hadm =>
    have hf : q.filled op =
        some ((q.create async).enqueue q.config (q.newControlMessage p stall)) := by
      cases async with
      | false => simp [hop, State.filled, hadm]
      | true =>
        obtain rfl := hst rfl
        simp [hop, State.filled, hadm]
    rw [State.sparesCalls, hf] at hs
    refine trims hc (fun m hm => ?_) (h.enqueue q.config async rfl)
    simpa using all_eq_true.mp hs m hm
  | sent _ hsel hc =>
    have hc := h.taken hc (State.nextMessage_of_selected hsel).1 (by simp)
    exact hc.of_perm (.refl _) rfl fun _ hr => hr
  | sendFailed _ hsel hc hc' =>
    exact (h.taken hc (State.nextMessage_of_selected hsel).1 (by simp)).failed hc' hc.inFlight
  | failed hm _ hc => exact h.failed hc hm
  | answered _ hm hid => exact handleCallResult_eq hm hid ▸ h.ended hm ⟨rfl, by simp⟩
  | _ => exact h.of_perm (.refl _) rfl fun _ hr => hr

theorem loadRow (h : c.Accounted) (ignore : Bool) (t : QueueType) (r : Row M) :
    (Core.loadRow ignore t c r).Accounted := by
  unfold Core.loadRow
  split_ifs
  · exact h.of_perm (.refl _) rfl fun _ hr => hr
  · have href : (r.load c.allocated).ref = c.allocated := rfl
    refine h.of_new (perm_iff_count.mpr fun x => ?_) rfl fun x hx => ?_
    · cases t <;>
        simp [accounts, pushBack, href, count_cons, filterMap_cons, settledRef] <;> omega
    · cases t <;> exact .inr (by simpa [pushBack] using hx)

end Core.Accounted

theorem accounted_boot (cfg : MessageQueueConfig M) (ignore : Bool) (db : Database M) (now : Int) :
    (boot cfg ignore db now).toCore.Accounted := by
  have he : ({ database := db, now := now } : Core M).Accounted :=
    ⟨nodup_nil, by simp [Core.accounts], by simp⟩
  have hn := Core.loadTable_keeps (I := Core.Accounted) (P := fun _ => True) (t := .normal)
    (fun _ hc => hc.loadRow ignore _ _) (fun _ _ => trivial) he
  have hl := Core.loadTable_keeps (I := Core.Accounted) (P := fun _ => True) (t := .transaction)
    (fun _ hc => hc.loadRow ignore _ _) (fun _ _ => trivial) hn
  unfold boot
  split_ifs
  · exact hl
  · exact hl.of_perm (.refl _) rfl fun _ hr => hr

theorem accounted_step {q : State M} {op : Op M} (hs : q.sparesCalls op)
    (h : q.toCore.Accounted) : (q.step op).toCore.Accounted :=
  h.effect (State.effect_step q op) hs

/-- **Every asynchronous call is settled once**, in a run that does not trim the queues of one: each
message of `push_call_async` is on the transaction queue, on the normal queue, in flight, or its
promise was given a value, and it is so at one of these places and once. -/
theorem async_call_settled_once {cfg : MessageQueueConfig M} {ignore : Bool} {db : Database M}
    {now : Int} {ops : List (Op M)}
    (hspare : Machine.Along State.step (fun q op => q.sparesCalls op = true)
      (boot cfg ignore db now) ops) {r : Nat}
    (hr : .called r ∈ (runFrom (boot cfg ignore db now) ops).log) :
    (runFrom (boot cfg ignore db now) ops).accounts.count r = 1 := by
  have h := Machine.run_invariant_along (I := fun q : State M => q.toCore.Accounted)
    (fun q op hspare h => accounted_step hspare h) ops hspare (accounted_boot cfg ignore db now)
  exact count_eq_one_of_mem h.nodup (h.called r hr)

/-- Two asynchronous calls on a queue that is not paused. -/
def twoCalls : List (Op V16.MessageType) :=
  [.resume 0,
    .pushCallAsync { call := ⟨1, .heartbeat, {}⟩, seen := ⟨true, false, false⟩ },
    .pushCallAsync { call := ⟨2, .heartbeat, {}⟩, seen := ⟨true, false, false⟩ }]

/-- With room for both, the first of them is sent, answered and accounted for. -/
theorem first_call_accounted :
    let q := runFrom (boot {} false {} 0) (twoCalls ++ [.setRegistrationStatusAccepted,
      .workerPass true 3, .actionDone true, .receive (.callResult 1 true) 4])
    .promiseSet 0 (.result 1) ∈ q.log ∧ q.accounts.count 0 = 1 :=
  ⟨by decide, async_call_settled_once (by decide) (by decide)⟩

/-- With room for one message, the second call drops the first, whose promise is not set. -/
theorem async_call_trimmed :
    let q := runFrom (boot { queuesTotalSizeThreshold := 1 } false {} 0) twoCalls
    .called 0 ∈ q.log ∧ q.accounts.count 0 = 0 ∧ q.normalMessageQueue.map (·.ref) = [1] := by
  decide

end EverestCore.Ocpp.MessageQueue

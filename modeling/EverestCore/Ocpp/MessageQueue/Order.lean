import EverestCore.Lib.Log
import EverestCore.Ocpp.MessageQueue.Effects
import Mathlib.Data.List.Induction
import Mathlib.Data.List.Nodup

/-!
# Transaction messages keep their order

The abstract view of the queue is a `Ledger`: the transaction messages that are still to be
answered, in the order in which they were queued, and the message in flight, which is the first of
them if it is a transaction message. The ledger reads the log of the queue (`Ledger.read`): only the
first message is ever sent, and nothing is sent while a message is in flight. The queue refines it:
at any time the ledger accepts the log and agrees with what the queue holds (`Core.Refines`).

Results:
* `transaction_messages_in_order`: a transaction message is sent only when every transaction message
  queued before it is answered, given up or trimmed, and only one message is in flight at a time.
-/

namespace EverestCore.Ocpp.MessageQueue

open EverestCore.Lib Ocpp.MessageType List Event Log Option ControlMessage

variable {M : Type} [MessageType M] [DecidableEq M]

/-! ## Kinds of messages -/

/-- Transaction messages are on the transaction queue and in its table, and only they. -/
structure Core.Typed (c : Core M) : Prop where
  transaction : ∀ m ∈ c.transactionMessageQueue, m.isTransaction = true
  normal : ∀ m ∈ c.normalMessageQueue, m.isTransaction = false
  transactionRows : ∀ r ∈ c.database.transaction, isTransactionMessage r.messageType = true
  normalRows : ∀ r ∈ c.database.normal, isTransactionMessage r.messageType = false

namespace Core

variable {c c' : Core M} {cfg : MessageQueueConfig M} {m : ControlMessage M}

namespace Typed

section

omit [DecidableEq M]

theorem kept (h : c.Typed) (hk : Kept c c') : c'.Typed where
  transaction m hm := h.transaction m (hk.transaction.subset hm)
  normal m hm := h.normal m (hk.normal.subset hm)
  transactionRows r hr := h.transactionRows r (hk.transactionRows hr)
  normalRows r hr := h.normalRows r (hk.normalRows hr)

theorem pushFront (h : c.Typed) (m : ControlMessage M) : (c.pushFront (queueType m) m).Typed := by
  unfold queueType
  split_ifs with hm
  · exact { h with transaction := forall_mem_cons.mpr ⟨hm, h.transaction⟩ }
  · exact { h with normal := forall_mem_cons.mpr ⟨by simpa using hm, h.normal⟩ }

theorem pushBack (h : c.Typed) (m : ControlMessage M) : (c.pushBack (queueType m) m).Typed := by
  unfold queueType
  split_ifs with hm
  · exact { h with transaction := forall_mem_append.mpr ⟨h.transaction, by simpa using hm⟩ }
  · exact { h with normal := forall_mem_append.mpr ⟨h.normal, by simpa using hm⟩ }

theorem store (h : c.Typed) (m : ControlMessage M) : (c.store (queueType m) m).Typed := by
  have hrow : isTransactionMessage m.row.messageType = m.isTransaction := rfl
  unfold queueType Core.store Database.insertMessageQueueMessage
  dsimp only
  split_ifs with hm hdup hdup
  · exact h
  · exact { h with
      transactionRows := forall_mem_append.mpr ⟨h.transactionRows, by simpa [hrow] using hm⟩ }
  · exact h
  · exact { h with
      normalRows := forall_mem_append.mpr ⟨h.normalRows, by simpa [hrow] using hm⟩ }

end

theorem enqueue (h : c.Typed) (cfg : MessageQueueConfig M) (m : ControlMessage M) :
    (c.enqueue cfg m).Typed := by
  have hp : (c.place m).Typed := by
    unfold place
    split_ifs
    · exact h.pushFront m
    · exact h.pushBack m
  unfold Core.enqueue
  split_ifs
  · exact { hp.store m with }
  · exact { hp with }

theorem failed {reply : Reply} {newId : MessageId} (hf : Failed cfg reply newId m c c')
    (h : c.Typed) : c'.Typed := by
  refine hf.elim (fun _ => ?_) fun e _ _ => h.kept (kept_ended ..)
  have hfr : (c.pushFront (queueType m) (again cfg c.now newId m)).Typed :=
    h.pushFront (again cfg c.now newId m)
  exact { hfr with }

theorem effect {q : State M} {op : Op M} (heff : Effect q op c) (h : q.toCore.Typed) : c.Typed := by
  cases heff with
  | substituted ids id =>
    refine { h with transaction := fun m hm => ?_ }
    obtain ⟨x, hx, rfl⟩ := mem_map.mp hm
    have := h.transaction x hx
    split_ifs <;> exact this
  | @queued p stall async c _ _ hc =>
    have hcre : (q.create async).Typed := { h with }
    exact (hcre.enqueue _ _).kept hc.kept
  | sent _ _ hc => exact { h.kept hc.kept with }
  | sendFailed _ _ hc hc' => exact (h.kept hc.kept).failed hc'
  | failed _ _ hc => exact h.failed hc
  | answered _ hm hid => exact handleCallResult_eq hm hid ▸ h.kept (kept_ended ..)
  | _ => exact { h with }

end Typed

/-- The row is of the kind of the table `t`. -/
def RowFits (t : QueueType) (r : Row M) : Prop :=
  isTransactionMessage r.messageType = (t == .transaction)

omit [DecidableEq M] in
theorem Typed.rowsFit (h : c.Typed) (t : QueueType) :
    ∀ r ∈ c.database.getMessageQueueMessages t, RowFits t r := by
  intro r hr
  cases t with
  | normal => exact h.normalRows r hr
  | transaction => exact h.transactionRows r hr

theorem Typed.loadRow (h : c.Typed) (ignore : Bool) {t : QueueType} {r : Row M} (hr : RowFits t r) :
    (Core.loadRow ignore t c r).Typed := by
  unfold Core.loadRow
  split_ifs
  · exact h.kept { Kept.remove r.uniqueId t c with }
  · have ht : queueType (r.load c.allocated) = t := by
      unfold queueType isTransaction
      cases t <;> simp_all [Row.load, RowFits]
    have := h.pushBack (r.load c.allocated)
    rw [ht] at this
    exact { this with }

theorem Typed.loadTable (h : c.Typed) (ignore : Bool) (t : QueueType) :
    (c.loadTable ignore t).Typed :=
  loadTable_keeps (I := Typed) (fun hr hc => hc.loadRow ignore hr) (h.rowsFit t) h

theorem typed_boot {db : Database M} (ht : ∀ r ∈ db.transaction, isTransactionMessage r.messageType)
    (hn : ∀ r ∈ db.normal, isTransactionMessage r.messageType = false)
    (cfg : MessageQueueConfig M) (ignore : Bool) (now : Int) :
    (boot cfg ignore db now).toCore.Typed := by
  have he : Typed ({ database := db, now := now } : Core M) :=
    ⟨forall_mem_nil _, forall_mem_nil _, ht, hn⟩
  have hl := (he.loadTable ignore .normal).loadTable ignore .transaction
  unfold boot
  split_ifs
  · exact hl
  · exact { hl with normalRows := forall_mem_nil _ }

/-- The tables hold rows of their own kind, whatever the program has done before. -/
theorem typed_databaseAfter (past : List (Lifetime M)) :
    (∀ r ∈ (databaseAfter past).transaction, isTransactionMessage r.messageType) ∧
      ∀ r ∈ (databaseAfter past).normal, isTransactionMessage r.messageType = false := by
  induction past using List.reverseRecOn with
  | nil => exact ⟨nofun, nofun⟩
  | append_singleton past l ih =>
    have := State.keeps_run (I := Typed) Typed.effect l.ops
      (typed_boot ih.1 ih.2 l.config l.ignoreSecurityEventNotifications l.now)
    rw [databaseAfter, foldl_concat]
    exact ⟨this.transactionRows, this.normalRows⟩

/-- **Each queue and its table hold their kind.** -/
theorem typed_run (past : List (Lifetime M)) (cfg : MessageQueueConfig M) (ignore : Bool)
    (now : Int) (ops : List (Op M)) :
    (runFrom (boot cfg ignore (databaseAfter past) now) ops).toCore.Typed :=
  State.keeps_run (I := Typed) Typed.effect ops
    (typed_boot (typed_databaseAfter past).1 (typed_databaseAfter past).2 cfg ignore now)

end Core

/-! ## The ledger -/

section Ledger

omit [DecidableEq M]

/-- The transaction messages that are to be answered, in their order, and the message in flight. -/
structure Ledger where
  waiting : List Nat := []
  inFlight : Option Nat := none

namespace Event

/-- The transaction message that an event puts on the queue. -/
def entered : Event M → Option Nat
  | .queued m => if m.isTransaction then some m.ref else none
  | _ => none

/-- The message `r` is answered, given up after its attempts, or trimmed as an update message. -/
def settles (r : Nat) : Event M → Bool
  | .answered m => m.ref == r
  | .givenUp m limit => m.ref == r && decide (limit ≤ m.messageAttempts)
  | .trimmed m => m.ref == r && m.isUpdate
  | _ => false

/-- A message was handed to `send_callback`. -/
def isSent : Event M → Bool
  | .sent _ => true
  | _ => false

/-- The message in flight was answered or failed. -/
def isReturned : Event M → Bool
  | .answered _ | .retried _ | .givenUp _ _ | .dropped _ => true
  | _ => false

end Event

/-- The transaction messages that were queued, the last one first. -/
def entered (log : List (Event M)) : List Nat := log.filterMap Event.entered

/-- The transaction message `a` was queued before the transaction message `b`. -/
def QueuedBefore (log : List (Event M)) (a b : Nat) : Prop := [b, a].Sublist (entered log)

namespace Ledger

/-- The message in flight is settled, if `ok`. -/
def settle (s : Ledger) (m : ControlMessage M) (ok : Bool) : Option Ledger :=
  if ok = true ∧ s.inFlight = some m.ref ∧
      (m.isTransaction = true → s.waiting.head? = some m.ref) then
    some ⟨if m.isTransaction then s.waiting.tail else s.waiting, none⟩
  else none

/-- The ledger after an event, if the event is in order. -/
def read (s : Ledger) : Event M → Option Ledger
  | .queued m => some (if m.isTransaction then { s with waiting := s.waiting ++ [m.ref] } else s)
  | .sent m =>
    if s.inFlight = none ∧ (m.isTransaction = true → s.waiting.head? = some m.ref) then
      some { s with inFlight := some m.ref }
    else none
  | .retried m => if s.inFlight = some m.ref then some { s with inFlight := none } else none
  | .answered m => s.settle m true
  | .givenUp m limit => s.settle m (decide (limit ≤ m.messageAttempts))
  | .dropped m => s.settle m (!m.isTransaction)
  | .trimmed m =>
    if m.isTransaction then
      if m.isUpdate = true ∧ m.ref ∈ s.waiting then
        some { s with waiting := s.waiting.erase m.ref }
      else none
    else some s
  | .called _ | .promiseSet _ _ | .startTransactionRetried _ _ => some s

variable {s s' : Ledger} {m : ControlMessage M}

theorem settle_eq_some {ok : Bool} (h : s.settle m ok = some s') :
    ok ∧ s.inFlight = some m.ref ∧
      (m.isTransaction → s.waiting.head? = some m.ref) ∧
      s' = ⟨if m.isTransaction then s.waiting.tail else s.waiting, none⟩ := by
  obtain ⟨hs, hs'⟩ := ite_none_right_eq_some.mp h
  exact ⟨hs.1, hs.2.1, hs.2.2, (some.inj hs').symm⟩

theorem read_sent (h : s.read (.sent m) = some s') :
    s.inFlight = none ∧ (m.isTransaction → s.waiting.head? = some m.ref) ∧
      s' = { s with inFlight := some m.ref } := by
  obtain ⟨hs, hs'⟩ := ite_none_right_eq_some.mp h
  exact ⟨hs.1, hs.2, (some.inj hs').symm⟩

theorem read_retried (h : s.read (.retried m) = some s') :
    s.inFlight = some m.ref ∧ s' = { s with inFlight := none } := by
  obtain ⟨hs, hs'⟩ := ite_none_right_eq_some.mp h
  exact ⟨hs, (some.inj hs').symm⟩

theorem read_trimmed (h : s.read (.trimmed m) = some s') :
    (m.isUpdate ∧ s' = { s with waiting := s.waiting.erase m.ref }) ∨ s' = s := by
  simp only [read] at h
  split_ifs at h with ht hs
  · exact .inl ⟨hs.1, (some.inj h).symm⟩
  · exact .inr (some.inj h).symm

theorem brackets_read : Log.Brackets (read (M := M)) (·.inFlight.isSome) isSent isReturned where
  opens {s t s'} h ht := by
    cases t with
    | sent m =>
      obtain ⟨hno, _, rfl⟩ := read_sent h
      exact ⟨by rw [hno]; rfl, rfl⟩
    | _ => cases ht
  closes {s t s'} h ht := by
    cases t with
    | retried m =>
      obtain ⟨hs, rfl⟩ := read_retried h
      exact ⟨by rw [hs]; rfl, rfl⟩
    | answered m | givenUp m limit | dropped m =>
      obtain ⟨_, hs, _, rfl⟩ := settle_eq_some h
      exact ⟨by rw [hs]; rfl, rfl⟩
    | _ => cases ht
  keeps {s t s'} h hp hq := by
    cases t with
    | queued m =>
      cases h
      split_ifs <;> rfl
    | trimmed m => rcases read_trimmed h with ⟨_, rfl⟩ | rfl <;> rfl
    | called _ | promiseSet _ _ | startTransactionRetried _ _ => cases h; rfl
    | sent _ => cases hp
    | _ => cases hq

theorem entered_cons (e : Event M) (log : List (Event M)) :
    entered (e :: log) = e.entered.toList ++ entered log := by
  unfold entered
  cases h : e.entered <;> simp [h]

/-- Settling takes the first message off the ledger, if it is a transaction message. -/
theorem waiting_settle {ok : Bool} (h : s.settle m ok = some s') :
    s'.waiting.Sublist s.waiting ∧
      ∀ r ∈ s.waiting, r ∈ s'.waiting ∨ (m.isTransaction ∧ m.ref = r) := by
  obtain ⟨_, _, hh, rfl⟩ := settle_eq_some h
  split_ifs with ht
  · obtain ⟨rest, hre⟩ := List.head?_eq_some_iff.mp (hh ht)
    rw [hre, tail_cons]
    refine ⟨sublist_cons_self _ _, fun r hr => ?_⟩
    rcases mem_cons.mp hr with rfl | hr
    · exact .inr ⟨ht, rfl⟩
    · exact .inl hr
  · exact ⟨List.Sublist.refl _, fun r hr => .inl hr⟩

/-- An event adds a message at the end or takes away what it settles. -/
theorem waiting_read {e : Event M} (h : s.read e = some s') :
    (∃ r, e.entered = some r ∧ s'.waiting = s.waiting ++ [r]) ∨
      (e.entered = none ∧ s'.waiting.Sublist s.waiting ∧
        ∀ r ∈ s.waiting, r ∈ s'.waiting ∨ e.settles r) := by
  have hs : s'.waiting = s.waiting → e.entered = none →
      e.entered = none ∧ s'.waiting.Sublist s.waiting ∧
        ∀ r ∈ s.waiting, r ∈ s'.waiting ∨ e.settles r :=
    fun hw he => ⟨he, hw ▸ List.Sublist.refl _, fun r hr => .inl (hw ▸ hr)⟩
  cases e with
  | queued m =>
    cases h
    split_ifs with ht
    · exact .inl ⟨m.ref, by simp [Event.entered, ht], rfl⟩
    · exact .inr ⟨by simp [Event.entered, ht], List.Sublist.refl _, fun r hr => .inl hr⟩
  | sent m =>
    obtain ⟨_, _, rfl⟩ := read_sent h
    exact .inr (hs rfl rfl)
  | retried m =>
    obtain ⟨_, rfl⟩ := read_retried h
    exact .inr (hs rfl rfl)
  | answered m =>
    obtain ⟨hsub, hall⟩ := waiting_settle h
    exact .inr ⟨rfl, hsub, fun r hr => (hall r hr).imp_right fun hm => by
      simp [settles, hm.2]⟩
  | givenUp m limit =>
    obtain ⟨hsub, hall⟩ := waiting_settle h
    have hl := (settle_eq_some h).1
    exact .inr ⟨rfl, hsub, fun r hr =>
      (hall r hr).imp_right fun hm => by simpa [settles, hm.2] using hl⟩
  | dropped m =>
    obtain ⟨hsub, hall⟩ := waiting_settle h
    have ho := (settle_eq_some h).1
    exact .inr ⟨rfl, hsub, fun r hr => (hall r hr).imp_right fun hm => by simp_all⟩
  | trimmed m =>
    rcases read_trimmed h with ⟨hu, rfl⟩ | rfl
    · refine .inr ⟨rfl, erase_sublist, fun r hr => ?_⟩
      by_cases hm : m.ref = r
      · exact .inr (by simp [settles, hm, hu])
      · exact .inl ((mem_erase_of_ne (Ne.symm hm)).mpr hr)
    · exact .inr (hs rfl rfl)
  | called _ | promiseSet _ _ | startTransactionRetried _ _ =>
    cases h
    exact .inr (hs rfl rfl)

/-- The ledger has the messages in the order in which they were queued, and those it has no more
are settled. -/
theorem waiting_of_replay {log : List (Event M)} (h : replay read {} log = some s) :
    s.waiting.Sublist (entered log).reverse ∧
      ∀ r ∈ entered log, r ∈ s.waiting ∨ ∃ e ∈ log, e.settles r := by
  induction log generalizing s with
  | nil =>
    cases h
    exact ⟨.slnil, nofun⟩
  | cons e log ih =>
    obtain ⟨s0, h0, he⟩ := replay_cons_eq_some.mp h
    obtain ⟨hsub, hall⟩ := ih h0
    rw [entered_cons]
    rcases waiting_read he with ⟨r, hr, hw⟩ | ⟨hno, hle, hset⟩
    · rw [hr, hw]
      refine ⟨by simpa using hsub.append_right [r], fun x hx => ?_⟩
      rcases mem_cons.mp hx with rfl | hx
      · exact .inl (mem_append_right _ mem_cons_self)
      · refine (hall x hx).imp (mem_append_left _) ?_
        exact fun ⟨e', he', hs⟩ => ⟨e', mem_cons_of_mem e he', hs⟩
    · rw [hno]
      refine ⟨hle.trans hsub, fun x hx => ?_⟩
      rcases hall x hx with hx | ⟨e', he', hs⟩
      · exact (hset x hx).imp_right fun hs => ⟨e, mem_cons_self, hs⟩
      · exact .inr ⟨e', mem_cons_of_mem e he', hs⟩

end Ledger

/-- A message of an accepted log is sent only when those queued before it are settled. -/
theorem settled_of_replay {log : List (Event M)} {s : Ledger} {b : ControlMessage M}
    (h : replay Ledger.read {} (.sent b :: log) = some s) (hno : (entered log).Nodup)
    (hb : b.isTransaction) {a : Nat} (hab : QueuedBefore log a b.ref) : ∃ e ∈ log, e.settles a := by
  obtain ⟨s0, h0, hs⟩ := replay_cons_eq_some.mp h
  obtain ⟨hsub, hall⟩ := Ledger.waiting_of_replay h0
  obtain ⟨rest, hr⟩ := List.head?_eq_some_iff.mp ((Ledger.read_sent hs).2.1 hb)
  refine (hall a (hab.subset (by simp))).resolve_left fun ha => ?_
  -- otherwise `b` stands before `a` on the ledger
  have hne : a ≠ b.ref := by
    rintro rfl
    simpa using hno.sublist hab
  rw [hr] at ha hsub
  have hba : [b.ref, a].Sublist (entered log).reverse :=
    (cons_sublist_cons.mpr (singleton_sublist.mpr ((mem_cons.mp ha).resolve_left hne))).trans hsub
  exact not_sublist_swap hno hab (by simpa using hba.reverse)

/-- Transaction messages are sent in the order in which they were queued. -/
def InOrder (log : List (Event M)) : Prop :=
  Log.Always (fun e log => ∀ b, e = .sent b → b.isTransaction = true →
    ∀ a, QueuedBefore log a b.ref → ∃ e' ∈ log, e'.settles a = true) log

theorem inOrder_of_replay {log : List (Event M)} {s : Ledger}
    (h : replay Ledger.read {} log = some s) (hno : (entered log).Nodup) : InOrder log := by
  induction log generalizing s with
  | nil => trivial
  | cons e log ih =>
    obtain ⟨s0, h0, _⟩ := replay_cons_eq_some.mp h
    have hn : (entered log).Nodup := by
      rw [Ledger.entered_cons] at hno
      exact (nodup_append.mp hno).2.1
    refine ⟨?_, ih h0 hn⟩
    rintro b rfl hb a hab
    exact settled_of_replay h hn hb hab

end Ledger

/-! ## The queue refines the ledger -/

namespace Core

/-- The message in flight, if it is a transaction message. -/
def sentTransaction (c : Core M) : List (ControlMessage M) :=
  match c.inFlight with
  | some m => if m.isTransaction then [m] else []
  | none => []

/-- The transaction messages that are to be answered. -/
def waiting (c : Core M) : List (ControlMessage M) := c.sentTransaction ++ c.transactionMessageQueue

variable {c c' : Core M} {cfg : MessageQueueConfig M} {m : ControlMessage M}

omit [DecidableEq M] in
def ledger (c : Core M) : Ledger := ⟨c.waiting.map (·.ref), c.inFlight.map (·.ref)⟩

/-- The ledger accepts the log and agrees with what the queue holds. -/
structure Refines (c : Core M) : Prop where
  typed : c.Typed
  accepted : replay Ledger.read {} c.log = some c.ledger
  fresh : ∀ r ∈ entered c.log, r < c.allocated
  nodup : (entered c.log).Nodup

omit [DecidableEq M] in
theorem Refines.note (h : c.Refines) (ht : c'.Typed) (es : List (Event M))
    (hlog : c'.log = es ++ c.log) (ha : c'.allocated = c.allocated)
    (hes : ∀ e ∈ es, e.entered = none)
    (hr : replay Ledger.read c.ledger es = some c'.ledger) : c'.Refines := by
  have he : entered c'.log = entered c.log := by
    rw [hlog, entered, filterMap_append, filterMap_eq_nil_iff.mpr hes]
    rfl
  refine ⟨ht, ?_, by rw [he, ha]; exact h.fresh, by rw [he]; exact h.nodup⟩
  rw [hlog, replay_append, h.accepted]
  exact hr

omit [DecidableEq M] in
/-- Nothing changes but what the ledger does not see. -/
theorem Refines.congr (h : c.Refines) (ht : c'.Typed) (hl : c'.ledger = c.ledger)
    (hlog : c'.log = c.log) (ha : c'.allocated = c.allocated) : c'.Refines :=
  h.note ht [] hlog ha (by simp) (by rw [hl]; rfl)

theorem Refines.trim {P : ControlMessage M → Prop} (ht : Trim cfg P c c') (h : c.Refines) :
    c'.Refines := by
  have hty := h.typed.kept ht.kept
  cases ht with
  | @normal pre post m hq hb =>
    have hm : m.isTransaction = false := h.typed.normal m (by simp [hq])
    refine h.note hty [.trimmed m] (by simp) (by simp) (by simp [Event.entered]) ?_
    simp [replay, Ledger.read, hm, ledger, waiting, sentTransaction]
  | @transaction pre post m hq hu =>
    refine h.note hty [.trimmed m] rfl rfl (by simp [Event.entered]) ?_
    have hm := isTransaction_of_isUpdate hu
    have hmem : m.ref ∈ c.waiting.map (·.ref) := by simp [waiting, hq]
    have he : (c.waiting.map (·.ref)).erase m.ref =
        (c.trimFromTransaction (pre ++ post) [m]).waiting.map (·.ref) := by
      have hno : (c.waiting.map (·.ref)).Nodup :=
        (nodup_reverse.mpr h.nodup).sublist (Ledger.waiting_of_replay h.accepted).1
      simp only [waiting, sentTransaction, trimFromTransaction, Core.note, forget, hq] at hno ⊢
      simp only [map_append, map_cons, ← append_assoc] at hno ⊢
      rw [erase_append_right _ fun hin => ?_, erase_cons_head]
      exact (nodup_append.mp hno).2.2 _ hin _ mem_cons_self rfl
    simp only [replay, bind_some, Ledger.read, hm, if_true, ledger, hu, hmem, and_self, he]
    rfl

omit [DecidableEq M] in
/-- A new message joins the ledger at its end, if it is a transaction message. -/
theorem Refines.queued (h : c.Refines) (hty : c'.Typed) (href : m.ref = c.allocated)
    (hlog : c'.log = .queued m :: c.log) (ha : c'.allocated = c.allocated + 1)
    (hin : c'.inFlight = c.inFlight) (hq : c'.transactionMessageQueue =
      c.transactionMessageQueue ++ if m.isTransaction then [m] else []) : c'.Refines := by
  have hnew : m.ref ∉ entered c.log := fun hmem => (h.fresh m.ref hmem).ne href
  refine ⟨hty, ?_, ?_, ?_⟩
  · rw [hlog, replay, h.accepted]
    cases ht : m.isTransaction <;>
      simp [Ledger.read, ledger, waiting, sentTransaction, hin, hq, ht]
  · rw [hlog, Ledger.entered_cons, ha]
    refine forall_mem_append.mpr ⟨fun r hr => ?_, fun r hr => Nat.lt_succ_of_lt (h.fresh r hr)⟩
    cases ht : m.isTransaction <;> simp [Event.entered, ht] at hr
    omega
  · rw [hlog, Ledger.entered_cons]
    cases ht : m.isTransaction
    · simpa [Event.entered, ht] using h.nodup
    · simpa [Event.entered, ht] using ⟨hnew, h.nodup⟩

theorem Refines.enqueue (h : c.Refines) (cfg : MessageQueueConfig M) (async : Bool)
    (href : m.ref = c.allocated) : ((c.create async).enqueue cfg m).Refines := by
  -- the call of `push_call_async` is no matter of the ledger
  have hc : Refines { c with log := if async then .called c.allocated :: c.log else c.log } := by
    cases async
    · exact h
    · exact h.note { h.typed with } [.called c.allocated] rfl rfl (by simp [Event.entered]) rfl
  have hcre : (c.create async).Typed := { h.typed with }
  refine hc.queued (hcre.enqueue cfg m) href ?_ ?_ ?_ ?_ <;> simp

omit [DecidableEq M] in
theorem Refines.taken {m' : ControlMessage M} (ht : Taken m m' c c') (hin : c.inFlight = none)
    (href : m'.ref = m.ref) (hty : m'.isTransaction = m.isTransaction) (h : c.Refines) :
    c'.Refines := by
  have htp := h.typed.kept ht.kept
  cases ht with
  | @transaction rest hq =>
    have hm : m.isTransaction := h.typed.transaction m (by simp [hq])
    refine h.note htp [.sent m'] rfl rfl (by simp [Event.entered]) ?_
    simp [replay, Ledger.read, ledger, waiting, sentTransaction, hin, hq, href, hty, hm]
  | @normal pre post hq =>
    have hm : m.isTransaction = false := h.typed.normal m (by simp [hq])
    refine h.note htp [.sent m'] rfl rfl (by simp [Event.entered]) ?_
    simp [replay, Ledger.read, ledger, waiting, sentTransaction, hin, hty, hm]

/-- The message in flight is not sent again, for a reason that the ledger accepts. -/
theorem Refines.ended (hin : c.inFlight = some m) {e : Event M} {reply : Reply}
    (he : e.entered = none) (hr : ∀ s : Ledger, s.read e = s.settle m true) (h : c.Refines) :
    (c.ended cfg m e reply).Refines := by
  refine h.note (h.typed.kept (kept_ended ..)) [.promiseSet m.ref reply, e] rfl rfl
    (forall_mem_cons.mpr ⟨rfl, forall_mem_singleton.mpr he⟩) ?_
  have hp : ∀ s : Ledger, s.read (.promiseSet m.ref reply : Event M) = some s := fun _ => rfl
  cases hm : m.isTransaction <;>
    simp [replay, hr, hp, Ledger.settle, ledger, waiting, sentTransaction, hin, hm, Core.ended]

theorem Refines.failed {reply : Reply} {newId : MessageId} (hf : Failed cfg reply newId m c c')
    (hin : c.inFlight = some m) (h : c.Refines) : c'.Refines := by
  refine hf.elim (fun hr => ?_) fun e _ he => ?_
  · have hret : Failed cfg reply newId m c _ := .retried hr
    have ht := h.typed.failed hret
    rw [retried_eq] at ht ⊢
    have hca : ∀ e ∈ retryCalls cfg newId m, e.entered = none ∧
        ∀ s : Ledger, s.read e = some s := fun e he => by
      rw [eq_of_mem_retryCalls he]
      exact ⟨rfl, fun _ => rfl⟩
    refine h.note ht (retryCalls cfg newId m ++ [.retried (again cfg c.now newId m)])
      (append_cons ..) rfl ?_ ?_
    · exact forall_mem_append.mpr ⟨fun e he => (hca e he).1, by simp [Event.entered]⟩
    · have hs : replay Ledger.read c.ledger [.retried (again cfg c.now newId m)] =
          some { c.ledger with inFlight := none } := by
        simp [replay, Ledger.read, ledger, hin, again, withId]
      rw [replay_append, hs, bind_some, replay_of_forall fun e he => (hca e he).2 _]
      cases hm : m.isTransaction <;>
        simp [ledger, waiting, sentTransaction, hin, hm, again, withId]
  · rcases he with ⟨rfl, hl⟩ | ⟨rfl, hk⟩
    · exact h.ended hin rfl fun s => by simp [Ledger.read, hl]
    · exact h.ended hin rfl fun s => by simp_all [Ledger.read, persistent]

theorem Refines.effect {q : State M} {op : Op M} (heff : Effect q op c) (h : q.toCore.Refines) :
    c.Refines := by
  have ht := h.typed.effect heff
  cases heff with
  | substituted ids id =>
    refine h.congr ht ?_ rfl rfl
    simp only [ledger, waiting, sentTransaction, map_append,
      map_substituted (p := fun m : ControlMessage M => m.ref) fun _ _ => rfl]
  | discarded =>
    exact ⟨ht, h.accepted, fun r hr => Nat.lt_succ_of_lt (h.fresh r hr), h.nodup⟩
  | refused =>
    have : Refines { q.toCore with
        log := .promiseSet q.allocated .offline :: .called q.allocated :: q.log } :=
      h.note { h.typed with } [.promiseSet q.allocated .offline, .called q.allocated] rfl rfl
        (by simp [Event.entered]) rfl
    exact ⟨ht, this.accepted, fun r hr => Nat.lt_succ_of_lt (this.fresh r hr), this.nodup⟩
  | queued _ _ hc => exact hc.keep Refines.trim (h.enqueue q.config _ rfl)
  | sent _ hsel hc =>
    have := h.taken hc (State.nextMessage_of_selected hsel).1 (by simp) (by simp)
    exact this.congr ht rfl rfl rfl
  | sendFailed _ hsel hc hc' =>
    have := h.taken hc (State.nextMessage_of_selected hsel).1 (by simp) (by simp)
    exact this.failed hc' hc.inFlight
  | failed hm _ hc => exact h.failed hc hm
  | answered _ hm hid => exact handleCallResult_eq hm hid ▸ h.ended hm rfl fun _ => rfl
  | _ => exact h.congr ht rfl rfl rfl

theorem Refines.loadRow (h : c.Refines) (ignore : Bool) {t : QueueType} {r : Row M}
    (hr : RowFits t r) : (Core.loadRow ignore t c r).Refines := by
  have ht := h.typed.loadRow ignore hr
  unfold Core.loadRow at ht ⊢
  split_ifs at ht ⊢
  · exact h.congr ht rfl rfl rfl
  · have htr : (r.load c.allocated).isTransaction = (t == .transaction) := hr
    refine h.queued ht (m := r.load c.allocated) rfl ?_ ?_ ?_ ?_ <;>
      cases t <;> simp [Core.pushBack, htr]

theorem Refines.loadTable (h : c.Refines) (ignore : Bool) (t : QueueType) :
    (c.loadTable ignore t).Refines :=
  loadTable_keeps (I := Refines) (fun hr hc => hc.loadRow ignore hr) (h.typed.rowsFit t) h

theorem refines_boot (past : List (Lifetime M)) (cfg : MessageQueueConfig M) (ignore : Bool)
    (now : Int) : (boot cfg ignore (databaseAfter past) now).toCore.Refines := by
  obtain ⟨htr, hn⟩ := typed_databaseAfter past
  have he : Refines ({ database := databaseAfter past, now := now } : Core M) :=
    ⟨⟨forall_mem_nil _, forall_mem_nil _, htr, hn⟩, rfl, forall_mem_nil _, nodup_nil⟩
  have hl := (he.loadTable ignore .normal).loadTable ignore .transaction
  have ht := typed_boot htr hn cfg ignore now
  unfold boot at ht ⊢
  split_ifs at ht ⊢
  · exact hl
  · exact hl.congr ht rfl rfl rfl

/-- **Every state of the queue refines the ledger.** -/
theorem refines_run (past : List (Lifetime M)) (cfg : MessageQueueConfig M) (ignore : Bool)
    (now : Int) (ops : List (Op M)) :
    (runFrom (boot cfg ignore (databaseAfter past) now) ops).toCore.Refines :=
  State.keeps_run Refines.effect ops (refines_boot past cfg ignore now)

end Core

/-- **Transaction messages keep their order**: whatever earlier runs of the program have left in the
database, and in every interleaving of the threads, a transaction message is handed to
`send_callback` only when each transaction message queued before it has been answered by a
CALLRESULT, given up after its attempts, or trimmed as an update message. Only one message is in
flight at a time. -/
theorem transaction_messages_in_order (past : List (Lifetime M)) (cfg : MessageQueueConfig M)
    (ignore : Bool) (now : Int) (ops : List (Op M)) :
    InOrder (runFrom (boot cfg ignore (databaseAfter past) now) ops).log ∧
      Log.Alternate isSent isReturned
        (runFrom (boot cfg ignore (databaseAfter past) now) ops).log := by
  have h := Core.refines_run past cfg ignore now ops
  exact ⟨inOrder_of_replay h.accepted h.nodup,
    alternate_of_replay Ledger.brackets_read rfl h.accepted⟩

end EverestCore.Ocpp.MessageQueue

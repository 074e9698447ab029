import EverestCore.Ocpp.MessageQueue.Order

/-!
# The transaction table mirrors the transaction messages

A transaction message gets a row when it is queued and loses it when it is answered, given up or
trimmed. The row carries the id that the message had then, `initial_unique_id`, while every retry
gives the message a new one.

Results:
* `transaction_table_mirrors_queue`: what this means for the rows, for the end of a message and for
  a reboot.
-/

namespace EverestCore.Ocpp.MessageQueue

open EverestCore.Lib Ocpp.MessageType List MessageQueue.Core ControlMessage Event Database

variable {M : Type} [MessageType M] [DecidableEq M]

/-- The initial id of the transaction message that is answered, given up or trimmed. -/
def Event.settledId : Event M → Option MessageId
  | .answered m | .givenUp m _ | .trimmed m =>
    if m.isTransaction then some m.initialUniqueId else none
  | _ => none

/-- The keys of `TRANSACTION_QUEUE`. -/
def Core.rowIds (c : Core M) : List MessageId := c.database.transaction.map (·.uniqueId)

/-- The id under which a message is pushed. -/
def Op.pushedId : Op M → Option MessageId
  | .pushCall p _ | .pushCallAsync p => some p.call.messageId
  | _ => none

/-- The ids under which messages are pushed. -/
def pushedIds (ops : List (Op M)) : List MessageId := ops.filterMap Op.pushedId

/-- The initial ids of the transaction messages that are to be answered. -/
abbrev Core.waitingIds (c : Core M) : List MessageId := c.waiting.map (·.initialUniqueId)

/-- The table has one row for each transaction message that is to be answered, and then the rows
`rest` that are still to be loaded; `used` has the ids that were given to messages so far. -/
structure Mirrors (used : List MessageId) (rest : List (Row M)) (c : Core M) : Prop where
  typed : c.Typed
  rows : c.rowIds = c.waitingIds ++ rest.map (·.uniqueId)
  nodup : c.rowIds.Nodup
  named : ∀ r ∈ c.database.transaction, r.jsonMessage.messageId = r.uniqueId
  known : ∀ id ∈ c.rowIds, id ∈ used
  kept : ∀ m, .queued m ∈ c.log → m.isTransaction = true →
    m.initialUniqueId ∈ c.waitingIds ∨ ∃ e ∈ c.log, e.settledId = some m.initialUniqueId
  gone : ∀ e ∈ c.log, ∀ id, e.settledId = some id → id ∈ used ∧ id ∉ c.rowIds

theorem filter_ne_split {pre post : List MessageId} {x : MessageId}
    (h : (pre ++ x :: post).Nodup) : (pre ++ x :: post).filter (· != x) = pre ++ post := by
  have hpre : x ∉ pre := fun hx => (nodup_append.mp h).2.2 x hx x mem_cons_self rfl
  have hp : x ∉ post := (nodup_cons.mp (nodup_append.mp h).2.1).1
  have hall : ∀ l : List MessageId, x ∉ l → l.filter (· != x) = l := fun l hl =>
    filter_eq_self.mpr fun y hy => bne_iff_ne.mpr fun hyx => hl (hyx ▸ hy)
  rw [filter_append, filter_cons_of_neg (by simp), hall pre hpre, hall post hp]

namespace Mirrors

variable {used : List MessageId} {rest : List (Row M)} {c c' : Core M} {m : ControlMessage M}
  {cfg : MessageQueueConfig M}

omit [DecidableEq M] in
theorem mono {used' : List MessageId} (h : Mirrors used rest c) (hsub : used ⊆ used') :
    Mirrors used' rest c :=
  { h with
    known := fun id hid => hsub (h.known id hid)
    gone := fun e he id hid => ⟨hsub (h.gone e he id hid).1, (h.gone e he id hid).2⟩ }

omit [DecidableEq M] in
/-- The log gets the events `es`; the messages that are gone end. -/
theorem log {used' : List MessageId} (h : Mirrors used rest c) (hus : used ⊆ used')
    (es : List (Event M)) (hlog : c'.log = es ++ c.log)
    (hr : ∀ id ∈ c.waitingIds, id ∈ c'.waitingIds ∨ ∃ e ∈ es, e.settledId = some id)
    (hnew : ∀ id ∈ c'.rowIds, id ∈ c.rowIds ∨ id ∉ used)
    (hq : ∀ m, .queued m ∈ es → m.isTransaction → m.initialUniqueId ∈ c'.waitingIds)
    (hen : ∀ e ∈ es, ∀ id, e.settledId = some id → id ∈ used' ∧ id ∉ c'.rowIds) :
    (∀ m, .queued m ∈ c'.log → m.isTransaction →
      m.initialUniqueId ∈ c'.waitingIds ∨ ∃ e ∈ c'.log, e.settledId = some m.initialUniqueId) ∧
    ∀ e ∈ c'.log, ∀ id, e.settledId = some id → id ∈ used' ∧ id ∉ c'.rowIds := by
  rw [hlog]
  refine ⟨fun m hm ht => ?_, forall_mem_append.mpr ⟨hen, fun e he id hid => ?_⟩⟩
  · rcases mem_append.mp hm with hm | hm
    · exact .inl (hq m hm ht)
    · rcases h.kept m hm ht with hw | ⟨e, he, hid⟩
      · refine (hr _ hw).imp_right ?_
        exact fun ⟨e, he, hid⟩ => ⟨e, mem_append_left _ he, hid⟩
      · exact .inr ⟨e, mem_append_right _ he, hid⟩
  · obtain ⟨hid, hg⟩ := h.gone e he id hid
    exact ⟨hus hid, fun hrow => (hnew id hrow).elim hg fun hnot => hnot hid⟩

omit [DecidableEq M] in
theorem note (h : Mirrors used rest c) (ht : c'.Typed)
    (hdb : c'.database.transaction = c.database.transaction)
    (hw : c'.waitingIds = c.waitingIds) (es : List (Event M)) (hlog : c'.log = es ++ c.log)
    (hes : ∀ e ∈ es, e.settledId = none ∧ ∀ m, e = .queued m → m.isTransaction = false) :
    Mirrors used rest c' := by
  have hids : c'.rowIds = c.rowIds := by rw [rowIds, hdb, rowIds]
  obtain ⟨hk, hg⟩ := h.log (List.Subset.refl _) es hlog
    (fun id hid => .inl (hw ▸ hid)) (fun id hid => .inl (hids ▸ hid))
    (fun m hm htr => absurd htr (by simp [(hes _ hm).2 m rfl]))
    (fun e he id hid => absurd hid (by simp [(hes e he).1]))
  exact ⟨ht, by rw [hids, hw, h.rows], hids ▸ h.nodup, hdb ▸ h.named, hids ▸ h.known, hk, hg⟩

omit [DecidableEq M] in
/-- The transaction message with the initial id `id` ends and its row is deleted. -/
theorem settle (h : Mirrors used [] c) (ht : c'.Typed) (pre post : List MessageId)
    {id : MessageId} (hw : c.waitingIds = pre ++ id :: post)
    (hdb : c'.database.transaction = c.database.transaction.filter (·.uniqueId != id))
    (hw' : c'.waitingIds = pre ++ post) (es : List (Event M)) (hlog : c'.log = es ++ c.log)
    (hes : ∀ e ∈ es, (e.settledId = none ∨ e.settledId = some id) ∧ ∀ m, e ≠ .queued m)
    (hend : ∃ e ∈ es, e.settledId = some id) : Mirrors used [] c' := by
  have hids : c'.rowIds = c.rowIds.filter (· != id) := by
    rw [rowIds, hdb, rowIds, filter_map]
    rfl
  have hin : ∀ {x}, x ∈ c'.rowIds ↔ x ∈ c.rowIds ∧ x ≠ id := by simp [hids]
  have hro := h.rows
  rw [hw, map_nil, append_nil] at hro
  have hle : ∀ x ∈ c.waitingIds, x ∈ c'.waitingIds ∨ ∃ e ∈ es, e.settledId = some x := by
    intro x hx
    by_cases hx' : x = id
    · exact .inr (hx' ▸ hend)
    · exact .inl (by simpa [hw, hw', hx'] using hx)
  have hen : ∀ e ∈ es, ∀ x, e.settledId = some x → x ∈ used ∧ x ∉ c'.rowIds := by
    intro e he x hx
    have hs := (hes e he).1.resolve_left (by simp [hx])
    obtain rfl : id = x := Option.some.inj (hs.symm.trans hx)
    exact ⟨h.known id (by simp [hro]), fun hrow => (hin.mp hrow).2 rfl⟩
  obtain ⟨hk, hg⟩ := h.log (List.Subset.refl _) es hlog hle
    (fun x hx => .inl (hin.mp hx).1) (fun m hm => absurd rfl ((hes _ hm).2 m)) hen
  refine ⟨ht, ?_, hids ▸ h.nodup.filter _, ?_, fun x hx => h.known x (hin.mp hx).1, hk, hg⟩
  · -- the ids of the other messages differ from the one that is deleted
    rw [hids, hro, hw', map_nil, append_nil]
    exact filter_ne_split (hro ▸ h.nodup)
  · exact fun r hr => h.named r (mem_filter.mp (hdb ▸ hr)).1

omit [DecidableEq M] in
/-- A transaction message is queued under an id that no message has had. -/
theorem add (h : Mirrors used [] c) (ht : c'.Typed) (hid : m.message.messageId = m.initialUniqueId)
    (hf : m.initialUniqueId ∉ used)
    (hdb : c'.database.transaction = c.database.transaction ++ [m.row])
    (hw : c'.waitingIds = c.waitingIds ++ [m.initialUniqueId])
    (hlog : c'.log = .queued m :: c.log) :
    Mirrors (m.initialUniqueId :: used) [] c' := by
  have hids : c'.rowIds = c.rowIds ++ [m.initialUniqueId] := by
    rw [rowIds, hdb, map_append, rowIds, ← hid]
    rfl
  have hin : ∀ {x}, x ∈ c'.rowIds ↔ x ∈ c.rowIds ∨ x = m.initialUniqueId := by simp [hids]
  have hnew : m.initialUniqueId ∉ c.rowIds := fun hmem => hf (h.known _ hmem)
  obtain ⟨hk, hg⟩ := h.log (subset_cons_self _ _) [.queued m] hlog
    (fun x hx => .inl (hw ▸ mem_append_left _ hx))
    (fun x hx => (hin.mp hx).imp_right fun (hx : x = _) => hx ▸ hf)
    (by simp [hw]) (by simp [settledId])
  refine ⟨ht, by simp [hids, hw, h.rows], ?_, ?_, fun x hx => ?_, hk, hg⟩
  · rw [hids]
    exact h.nodup.append (nodup_singleton _) (by simpa using hnew)
  · rw [hdb]
    exact forall_mem_append.mpr ⟨h.named, by simp [row, uniqueId]⟩
  · exact mem_cons.mpr ((hin.mp hx).symm.imp_right (h.known x))

/-! ## Effects -/

theorem trim {P : ControlMessage M → Prop} (htr : Trim cfg P c c') (h : Mirrors used [] c) :
    Mirrors used [] c' := by
  have ht := h.typed.kept htr.kept
  cases htr with
  | @normal pre post m hq hb =>
    have hm : m.isTransaction = false := h.typed.normal m (by simp [hq])
    rw [trimFromNormal_eq] at ht ⊢
    refine h.note ht ?_ rfl [.trimmed m] rfl (by simp [settledId, hm])
    dsimp only
    split_ifs <;> rfl
  | @transaction pre post m hq hu =>
    have hm := isTransaction_of_isUpdate hu
    refine h.settle ht ((c.sentTransaction ++ pre).map (·.initialUniqueId))
      (post.map (·.initialUniqueId)) ?_ rfl ?_ [.trimmed m] rfl ?_ ?_
    · simp [waitingIds, Core.waiting, hq]
    · simp [waitingIds, Core.waiting, Core.sentTransaction, trimFromTransaction]
    · simp [settledId, hm]
    · simp [settledId, hm]

omit [DecidableEq M] in
theorem taken {m' : ControlMessage M} (ht : Taken m m' c c') (hin : c.inFlight = none)
    (hid : m'.initialUniqueId = m.initialUniqueId) (hty : m'.isTransaction = m.isTransaction)
    (h : Mirrors used [] c) : Mirrors used [] c' := by
  have htp := h.typed.kept ht.kept
  cases ht with
  | @transaction rest hq =>
    have hm : m.isTransaction := h.typed.transaction m (by simp [hq])
    refine h.note htp rfl ?_ [.sent m'] rfl (by simp [settledId])
    simp [waitingIds, Core.waiting, Core.sentTransaction, hin, hq, hm, hty, hid]
  | @normal pre post hq =>
    have hm : m.isTransaction = false := h.typed.normal m (by simp [hq])
    refine h.note htp rfl ?_ [.sent m'] rfl (by simp [settledId])
    simp [waitingIds, Core.waiting, Core.sentTransaction, hin, hm, hty]

/-- The message in flight ends with the event `e`; its row is deleted if it has one. -/
theorem ended (h : Mirrors used [] c) (hm : c.inFlight = some m) {e : Event M} {reply : Reply}
    (hq : ∀ m, e ≠ .queued m)
    (he : if m.isTransaction then e.settledId = some m.initialUniqueId else e.settledId = none) :
    Mirrors used [] (c.ended cfg m e reply) := by
  have hty := h.typed.kept (kept_ended cfg m e reply c)
  have hp : settledId (.promiseSet m.ref reply : Event M) = none := rfl
  cases ht : m.isTransaction with
  | true =>
    rw [ht, if_pos rfl] at he
    refine h.settle hty [] (c.transactionMessageQueue.map (·.initialUniqueId)) ?_ ?_ ?_
      [.promiseSet m.ref reply, e] rfl ?_ ⟨e, by simp, he⟩
    · simp [waitingIds, Core.waiting, Core.sentTransaction, hm, ht]
    · simp [Core.ended, Core.persistent, Core.queueType, ht]
      rfl
    · simp [waitingIds, Core.waiting, Core.sentTransaction, Core.ended]
    · simp [he, hp, hq]
  | false =>
    rw [ht, if_neg Bool.false_ne_true] at he
    refine h.note hty ?_ ?_ [.promiseSet m.ref reply, e] rfl ?_
    · have htp : Core.queueType m = .normal := by simp [Core.queueType, ht]
      simp only [Core.ended, htp]
      split_ifs <;> rfl
    · simp [waitingIds, Core.waiting, Core.sentTransaction, Core.ended, hm, ht]
    · simp [he, hp, hq]

theorem failed {reply : Reply} {newId : MessageId} (hf : Failed cfg reply newId m c c')
    (hm : c.inFlight = some m) (h : Mirrors used [] c) : Mirrors used [] c' := by
  refine hf.elim (fun hr => ?_) fun e _ he => ?_
  · have hret : Failed cfg reply newId m c _ := .retried hr
    have hty := h.typed.failed hret
    rw [retried_eq] at hty ⊢
    refine h.note hty rfl ?_ (retryCalls cfg newId m ++
      [.retried (again cfg c.now newId m)]) (append_cons ..) ?_
    · cases ht : m.isTransaction <;>
        simp [waitingIds, Core.waiting, Core.sentTransaction, hm, ht, again, withId]
    · refine forall_mem_append.mpr ⟨fun e he => ?_, by simp [settledId]⟩
      rw [eq_of_mem_retryCalls he]
      exact ⟨rfl, by simp⟩
  · refine h.ended hm ?_ ?_
    · rcases he with ⟨rfl, -⟩ | ⟨rfl, -⟩ <;> simp
    · rcases he with ⟨rfl, -⟩ | ⟨rfl, hk⟩
      · split_ifs with ht <;> simp [settledId, ht]
      · simp_all [Core.persistent, settledId]

omit [DecidableEq M] in
theorem create (h : Mirrors used [] c) (async : Bool) : Mirrors used [] (c.create async) := by
  have ht : (c.create async).Typed := { h.typed with }
  cases async
  · exact h.note ht rfl rfl [] rfl (by simp)
  · exact h.note ht rfl rfl [.called c.allocated] rfl (by simp [settledId])

theorem enqueue (h : Mirrors used [] c) (cfg : MessageQueueConfig M)
    (hid : m.message.messageId = m.initialUniqueId) (hf : m.initialUniqueId ∉ used) :
    Mirrors (m.initialUniqueId :: used) [] (c.enqueue cfg m) := by
  have ht := h.typed.enqueue cfg m
  rw [enqueue_eq] at ht ⊢
  cases htr : m.isTransaction with
  | true =>
    have hnew : (c.database.transaction.any (·.uniqueId == m.uniqueId)) = false := by
      rw [any_eq_false]
      intro r hr hs
      rw [beq_iff_eq, uniqueId, hid] at hs
      exact hf (hs ▸ h.known _ (mem_map_of_mem hr))
    rw [htr] at ht
    refine h.add ht hid hf ?_ ?_ rfl
    · simp [Core.persistent, Core.queueType, htr, insertMessageQueueMessage,
        getMessageQueueMessages, setTable, row, hnew]
    · simp [waitingIds, Core.waiting, Core.sentTransaction]
  | false =>
    rw [htr] at ht
    refine (h.note ht ?_ ?_ [.queued m] rfl ?_).mono (subset_cons_self _ _)
    · have htp : Core.queueType m = .normal := by simp [Core.queueType, htr]
      simp only [htp, insertMessageQueueMessage]
      split_ifs <;> rfl
    · simp [waitingIds, Core.waiting, Core.sentTransaction]
    · simp [settledId, htr]

/-- A step mirrors its database, if it pushes no message under an id that was used before. -/
theorem effect {q : State M} {op : Op M} (heff : Effect q op c)
    (hf : ∀ id, op.pushedId = some id → id ∉ used) (h : Mirrors used [] q.toCore) :
    Mirrors (op.pushedId.toList ++ used) [] c := by
  have ht := h.typed.effect heff
  have hmo : ∀ {c : Core M}, Mirrors used [] c → Mirrors (op.pushedId.toList ++ used) [] c :=
    fun h => h.mono (subset_append_right _ _)
  cases heff with
  | unchanged => exact hmo h
  | substituted ids id =>
    refine hmo (h.note ht rfl ?_ [] rfl (by simp))
    simp only [waitingIds, Core.waiting, map_append,
      map_substituted (p := fun m : ControlMessage M => m.initialUniqueId) fun _ _ => rfl]
    rfl
  | refused =>
    exact hmo (h.note ht rfl rfl [.promiseSet q.allocated .offline, .called q.allocated] rfl
      (by simp [settledId]))
  | @queued p stall async c hop hst hc =>
    have hid : op.pushedId = some p.call.messageId := by
      rw [hop]
      split_ifs <;> rfl
    rw [hid]
    exact hc.keep trim
      ((h.create async).enqueue q.config (m := q.newControlMessage p stall) rfl (hf _ hid))
  | sent _ hsel hc =>
    have := h.taken hc (State.nextMessage_of_selected hsel).1 (by simp) (by simp)
    exact hmo (this.note ht rfl rfl [] rfl (by simp))
  | sendFailed _ hsel hc hc' =>
    have := h.taken hc (State.nextMessage_of_selected hsel).1 (by simp) (by simp)
    exact hmo (this.failed hc' hc.inFlight)
  | failed hm _ hc => exact hmo (h.failed hc hm)
  | @answered newId id m _ hm hid =>
    rw [handleCallResult_eq hm hid]
    refine hmo (h.ended hm (by simp) ?_)
    split_ifs with htr <;> simp [settledId, htr]
  | _ => exact hmo (h.note ht rfl rfl [] rfl (by simp))

theorem run (ops : List (Op M)) {q : State M} (h : Mirrors used [] q.toCore)
    (hno : (pushedIds ops).Nodup) (hf : ∀ id ∈ pushedIds ops, id ∉ used) :
    Mirrors (pushedIds ops ++ used) [] (runFrom q ops).toCore := by
  induction ops generalizing q used with
  | nil => exact h
  | cons op ops ih =>
    have hst : Mirrors (op.pushedId.toList ++ used) [] (q.step op).toCore := by
      refine h.effect (State.effect_step q op) fun id hid => hf id ?_
      exact mem_filterMap.mpr ⟨op, mem_cons_self, hid⟩
    have hc : pushedIds (op :: ops) = op.pushedId.toList ++ pushedIds ops := by
      unfold pushedIds
      cases h : op.pushedId <;> simp [h]
    rw [hc] at hno hf ⊢
    obtain ⟨_, hr, hd⟩ := nodup_append.mp hno
    refine (ih hst hr fun id hid hus => ?_).mono ?_
    · rcases mem_append.mp hus with hus | hus
      · exact hd id hus id hid rfl
      · exact hf id (mem_append_right _ hid) hus
    · intro id hid
      simp only [mem_append] at hid ⊢
      tauto

/-! ## Booting -/

variable {r : Row M}

theorem loadNormal (h : Mirrors used rest c) (ignore : Bool) (hr : Core.RowFits .normal r) :
    Mirrors used rest (loadRow ignore .normal c r) := by
  have ht := h.typed.loadRow ignore hr
  have hn : (r.load c.allocated).isTransaction = false := hr
  unfold loadRow at ht ⊢
  split_ifs at ht ⊢
  · exact h.note ht rfl rfl [] rfl (by simp)
  · exact h.note ht rfl rfl [.queued (r.load c.allocated)] rfl (by simp [settledId, hn])

omit [DecidableEq M] in
theorem load (h : Mirrors used (r :: rest) c) (ht : c'.Typed) (hid : m.initialUniqueId = r.uniqueId)
    (hdb : c'.database = c.database) (hw : c'.waitingIds = c.waitingIds ++ [m.initialUniqueId])
    (hlog : c'.log = .queued m :: c.log) : Mirrors used rest c' := by
  have hids : c'.rowIds = c.rowIds := by rw [rowIds, hdb, rowIds]
  obtain ⟨hk, hg⟩ := h.log (List.Subset.refl _) [.queued m] hlog
    (fun x hx => .inl (hw ▸ mem_append_left _ hx)) (fun x hx => .inl (hids ▸ hx))
    (by simp [hw]) (by simp [settledId])
  refine ⟨ht, ?_, hids ▸ h.nodup, hdb ▸ h.named, hids ▸ h.known, hk, hg⟩
  rw [hids, h.rows, hw, map_cons, append_assoc, ← hid]
  rfl

omit [DecidableEq M] in
theorem ignoreRow (h : Mirrors used (r :: rest) c) (ht : c'.Typed)
    (hdb : c'.database.transaction = c.database.transaction.filter (·.uniqueId != r.uniqueId))
    (hw : c'.waitingIds = c.waitingIds) (hlog : c'.log = c.log) : Mirrors used rest c' := by
  have hr := h.rows
  rw [map_cons] at hr
  have hids : c'.rowIds = c.waitingIds ++ rest.map (·.uniqueId) := by
    rw [← filter_ne_split (hr ▸ h.nodup), ← hr, rowIds, hdb, rowIds, filter_map]
    rfl
  have hsub : c'.rowIds.Sublist c.rowIds := by
    rw [hids, hr]
    exact (sublist_cons_self _ _).append_left _
  obtain ⟨hk, hg⟩ := h.log (List.Subset.refl _) [] hlog
    (fun x hx => .inl (hw ▸ hx)) (fun x hx => .inl (hsub.subset hx))
    (by simp) (by simp)
  refine ⟨ht, hw ▸ hids, h.nodup.sublist hsub, ?_,
    fun id hid => h.known id (hsub.subset hid), hk, hg⟩
  exact fun x hx => h.named x (mem_filter.mp (hdb ▸ hx)).1

theorem loadTransaction (h : Mirrors used (r :: rest) c) (ignore : Bool)
    (hr : Core.RowFits .transaction r) (hn : r.jsonMessage.messageId = r.uniqueId) :
    Mirrors used rest (loadRow ignore .transaction c r) := by
  have ht := h.typed.loadRow ignore hr
  unfold loadRow at ht ⊢
  split_ifs at ht ⊢
  · exact h.ignoreRow ht rfl rfl rfl
  · exact h.load ht (m := r.load c.allocated) hn rfl
      (by simp [waitingIds, Core.waiting, Core.sentTransaction, pushBack]) rfl

theorem loadTable (h : Mirrors used c.database.transaction c) (ignore : Bool) :
    Mirrors used [] (c.loadTable ignore .transaction) := by
  have hr := h.typed.transactionRows
  have hn := h.named
  change Mirrors used [] (c.database.transaction.foldl _ c)
  generalize c.database.transaction = rows at h hr hn
  induction rows generalizing c with
  | nil => exact h
  | cons r rows ih =>
    rw [forall_mem_cons] at hr hn
    exact ih (h.loadTransaction ignore hr.1 hn.1) hr.2 hn.2

end Mirrors

/-- What a run of the program leaves in the database for the next one. -/
structure Database.Sound (used : List MessageId) (db : Database M) : Prop where
  transactionRows : ∀ r ∈ db.transaction, isTransactionMessage r.messageType = true
  normalRows : ∀ r ∈ db.normal, isTransactionMessage r.messageType = false
  nodup : (db.transaction.map (·.uniqueId)).Nodup
  named : ∀ r ∈ db.transaction, r.jsonMessage.messageId = r.uniqueId
  known : ∀ id ∈ db.transaction.map (·.uniqueId), id ∈ used

theorem mirrors_boot {used : List MessageId} {db : Database M} (h : db.Sound used)
    (cfg : MessageQueueConfig M) (ignore : Bool) (now : Int) :
    Mirrors used [] (boot cfg ignore db now).toCore := by
  have he : Mirrors used db.transaction ({ database := db, now := now } : Core M) :=
    ⟨⟨by simp, by simp, h.transactionRows, h.normalRows⟩, rfl, h.nodup, h.named, h.known,
      by simp, by simp⟩
  have hn : Mirrors used db.transaction (loadTable ignore .normal { database := db, now := now }) ∧
      (loadTable ignore .normal { database := db, now := now }).database.transaction =
        db.transaction := by
    refine loadTable_keeps
      (I := fun c => Mirrors used db.transaction c ∧ c.database.transaction = db.transaction)
      ?_ (he.typed.rowsFit .normal) ⟨he, rfl⟩
    rintro c r hr ⟨hc, hdb⟩
    refine ⟨hc.loadNormal ignore hr, ?_⟩
    unfold loadRow
    split_ifs <;> exact hdb
  obtain ⟨hc, hdb⟩ := hn
  have hl := Mirrors.loadTable (hdb.symm ▸ hc) ignore
  unfold boot
  split_ifs
  · exact hl
  · exact hl.note { hl.typed with normalRows := by simp [clearMessageQueue,
      setTable] } rfl rfl [] rfl (by simp)

omit [DecidableEq M] in
theorem Mirrors.sound {used : List MessageId} {c : Core M} (h : Mirrors used [] c) :
    c.database.Sound used :=
  ⟨h.typed.transactionRows, h.typed.normalRows, h.nodup, h.named, h.known⟩

/-- The ids under which messages were pushed in the runs `past` of the program. -/
def pastIds (past : List (Lifetime M)) : List MessageId := past.flatMap fun l => pushedIds l.ops

theorem sound_databaseAfter {past : List (Lifetime M)} (hno : (pastIds past).Nodup) :
    (databaseAfter past).Sound (pastIds past) := by
  induction past using List.reverseRecOn with
  | nil => exact ⟨by simp [databaseAfter], by simp [databaseAfter], nodup_nil,
      by simp [databaseAfter], by simp [databaseAfter]⟩
  | append_singleton past l ih =>
    have hids : pastIds (past ++ [l]) = pastIds past ++ pushedIds l.ops := by
      simp [pastIds]
    rw [hids] at hno ⊢
    obtain ⟨hp, hops, hd⟩ := nodup_append.mp hno
    have hb := mirrors_boot (ih hp) l.config l.ignoreSecurityEventNotifications l.now
    have hrun := hb.run l.ops hops fun id hid hus => hd id hus id hid rfl
    rw [databaseAfter, foldl_concat]
    exact (hrun.mono (by simp [subset_def, or_comm])).sound

/-- **Every state mirrors its database**, through any number of runs of the program. -/
theorem mirrors_run {past : List (Lifetime M)} {ops : List (Op M)}
    (hno : (pastIds past ++ pushedIds ops).Nodup) (cfg : MessageQueueConfig M) (ignore : Bool)
    (now : Int) :
    Mirrors (pushedIds ops ++ pastIds past) []
      (runFrom (boot cfg ignore (databaseAfter past) now) ops).toCore := by
  obtain ⟨hp, hops, hd⟩ := nodup_append.mp hno
  exact (mirrors_boot (sound_databaseAfter hp) cfg ignore now).run ops hops
    fun id hid hus => hd id hus id hid rfl

/-- Nothing is in flight after the boot, and a boot that ignores no message keeps the table. -/
theorem boot_table (cfg : MessageQueueConfig M) (db : Database M) (now : Int) :
    (boot cfg false db now).inFlight = none ∧
      (boot cfg false db now).database.transaction = db.transaction := by
  have hk : ∀ {t : QueueType} {c : Core M},
      c.inFlight = none ∧ c.database.transaction = db.transaction →
      (c.loadTable false t).inFlight = none ∧
        (c.loadTable false t).database.transaction = db.transaction := by
    intro t c hc
    refine loadTable_keeps (P := fun _ => True)
      (I := fun c => c.inFlight = none ∧ c.database.transaction = db.transaction) ?_ (by simp) hc
    intro c r _ hc
    cases t <;> exact hc
  have hl := hk (t := .transaction)
    (hk (t := .normal) (c := { database := db, now := now }) ⟨rfl, rfl⟩)
  unfold boot
  split_ifs
  · exact hl
  · exact hl

/-- **The transaction table mirrors memory**: if no two messages are pushed under the same id, then
in every state, whatever earlier runs of the program have left in the database,
* the table has exactly the initial ids of the transaction message in flight and of the messages of
  the transaction queue, in their order;
* a transaction message has its row until it is answered, given up or trimmed, and no longer;
* a reboot at this point puts the same messages on the transaction queue again. -/
theorem transaction_table_mirrors_queue {past : List (Lifetime M)} {ops : List (Op M)}
    (hunique : (pastIds past ++ pushedIds ops).Nodup) (cfg : MessageQueueConfig M) (ignore : Bool)
    (now : Int) :
    let q := runFrom (boot cfg ignore (databaseAfter past) now) ops
    (q.rowIds = q.waiting.map (·.initialUniqueId) ∧ q.rowIds.Nodup) ∧
      (∀ m, .queued m ∈ q.log → m.isTransaction = true →
        (m.initialUniqueId ∈ q.rowIds ↔ ∀ e ∈ q.log, e.settledId ≠ some m.initialUniqueId)) ∧
      ∀ cfg' now', (boot cfg' false q.database now').transactionMessageQueue.map
        (·.initialUniqueId) = q.waiting.map (·.initialUniqueId) := by
  intro q
  have h : Mirrors _ [] q.toCore := mirrors_run hunique cfg ignore now
  have hro : q.rowIds = q.waitingIds := h.rows.trans (append_nil _)
  refine ⟨⟨hro, h.nodup⟩, fun m hm ht => ⟨fun hrow e he hid => ?_, fun hall => ?_⟩,
    fun cfg' now' => ?_⟩
  · exact (h.gone e he _ hid).2 hrow
  · rw [hro]
    exact (h.kept m hm ht).resolve_right fun ⟨e, he, hid⟩ => hall e he hid
  · have hb := (mirrors_boot h.sound cfg' false now').rows
    obtain ⟨hin, hdb⟩ := boot_table cfg' q.database now'
    rw [rowIds, hdb, waitingIds, Core.waiting, Core.sentTransaction, hin, map_nil, append_nil] at hb
    exact hb.symm.trans hro

/-- A StartTransaction and a MeterValues of OCPP 1.6 are pushed, and the first one cannot be sent:
it is on the queue under another id, and in the table under its initial one. -/
theorem transaction_table_after_retry : let ops : List (Op V16.MessageType) :=
      [.pushCall { call := ⟨1, .startTransaction, {}⟩, seen := {} } false,
        .pushCall { call := ⟨2, .meterValues, {}⟩, seen := {} } false, .resume 0,
        .workerPass false 11]
    let q := runFrom (boot {} false (databaseAfter []) 0) ops
    q.waiting.map (·.uniqueId) = [11, 2] ∧ q.rowIds = [1, 2] ∧
      q.rowIds = q.waiting.map (·.initialUniqueId) := by
  refine ⟨by decide, by decide, ?_⟩
  exact (transaction_table_mirrors_queue (by decide) {} false 0).1.1

end EverestCore.Ocpp.MessageQueue

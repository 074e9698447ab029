import EverestCore.Ocpp.MessageQueue.Core

/-!
# What trimming removes

`check_queue_sizes` removes messages one at a time: from anywhere in the normal queue, but never a
BootNotification, and update messages from the transaction queue, but never one of its last two.
`Trim` is one such removal, so that what holds of a queue survives `check_queue_sizes` once it
survives a `Trim`.

Which messages are removed depends on how far the queues are over the threshold (`Core.excess`).
The normal queue gives whole batches of non-BootNotification messages from its front until the
excess is covered; only if it has too few of them does the transaction queue cover the rest, by
passes that drop every other update message (`dropRounds`). `Core.exposed` lists these messages.

Results:
* **`Core.trims_checkQueueSizes`**: `check_queue_sizes` is a sequence of `Trim`s of exposed
  messages.
-/

namespace EverestCore.Ocpp.MessageQueue

open Ocpp.MessageType List Nat MessageQueueConfig

variable {M : Type} [MessageType M] [DecidableEq M] (cfg : MessageQueueConfig M)

/-- The size of a batch of `drop_messages_from_normal_message_queue`. -/
def MessageQueueConfig.batch : Nat :=
  (max (cfg.queuesTotalSizeThreshold.tdiv 10) 1).toNat

/-- The excess `e`, rounded up to whole batches. -/
def MessageQueueConfig.wholeBatches (e : Nat) : Nat :=
  cfg.batch * ((e + cfg.batch - 1) / cfg.batch)

/-- What at most `n` passes over the transaction queue `ms` drop, until `e` messages are dropped. -/
def dropRounds : Nat → Nat → List (ControlMessage M) → List (ControlMessage M)
  | 0, _, _ => []
  | n + 1, e, ms =>
    if e = 0 then []
    else
      let (kept, dropped) := dropUpdates true ms
      dropped ++ dropRounds n (e - dropped.length) kept

namespace Core

/-- How many messages the queues hold over the threshold. -/
def excess (cfg : MessageQueueConfig M) (c : Core M) : Nat := c.queueSize - cfg.sizeThreshold

/-- The messages of the normal queue that trimming may drop. -/
def droppable (c : Core M) : List (ControlMessage M) :=
  c.normalMessageQueue.filter fun m => !m.isBoot

/-- The messages that trimming reaches. -/
def exposed (cfg : MessageQueueConfig M) (c : Core M) : List (ControlMessage M) :=
  c.droppable.take (cfg.wholeBatches (c.excess cfg)) ++
    dropRounds (c.transactionMessageQueue.length + 1) (c.excess cfg - c.droppable.length)
      c.transactionMessageQueue

end Core

/-- One message that meets `P` is dropped because of the size of the queues. -/
inductive Trim (cfg : MessageQueueConfig M) (P : ControlMessage M → Prop) :
    Core M → Core M → Prop
  | normal {c : Core M} {pre post : List (ControlMessage M)} {m : ControlMessage M}
      (hq : c.normalMessageQueue = pre ++ m :: post) (hboot : m.isBoot = false) (hP : P m) :
      Trim cfg P c (c.trimFromNormal cfg (pre ++ post) [m])
  | transaction {c : Core M} {pre post : List (ControlMessage M)} {m : ControlMessage M}
      (hq : c.transactionMessageQueue = pre ++ m :: post) (hupdate : m.isUpdate = true)
      (hlast : 2 ≤ post.length) (hP : P m) :
      Trim cfg P c (c.trimFromTransaction (pre ++ post) [m])

/-- Messages that meet `P` are dropped because of the size of the queues. -/
abbrev Trims (P : ControlMessage M → Prop) : Core M → Core M → Prop :=
  Relation.ReflTransGen (Trim cfg P)

theorem Trims.mono {cfg : MessageQueueConfig M} {P Q : ControlMessage M → Prop}
    (hPQ : ∀ m, P m → Q m) {c c' : Core M} (h : Trims cfg P c c') : Trims cfg Q c c' := by
  refine Relation.ReflTransGen.mono ?_ _ _ h
  intro a b hab
  cases hab with
  | normal hq hb hP => exact .normal hq hb (hPQ _ hP)
  | transaction hq hu hl hP => exact .transaction hq hu hl (hPQ _ hP)

theorem Trims.keep {cfg : MessageQueueConfig M} {P : ControlMessage M → Prop} {I : Core M → Prop}
    (hI : ∀ {c c'}, Trim cfg P c c' → I c → I c') {c c' : Core M} (h : Trims cfg P c c')
    (hc : I c) : I c' := by
  induction h with
  | refl => exact hc
  | tail _ hst ih => exact hI hst ih

/-! ## The two loops -/

/-- The first `n` messages but BootNotifications are dropped, and the others kept. -/
theorem dropNormal_spec (n : Nat) (ms : List (ControlMessage M)) :
    (dropNormal n ms).2 = (ms.filter fun m => !m.isBoot).take n ∧
      ((dropNormal n ms).1.filter fun m => !m.isBoot) = (ms.filter fun m => !m.isBoot).drop n ∧
      (dropNormal n ms).1.length + (dropNormal n ms).2.length = ms.length := by
  induction ms generalizing n with
  | nil => cases n <;> exact ⟨rfl, rfl, rfl⟩
  | cons m ms ih =>
    cases n with
    | zero => exact ⟨rfl, rfl, rfl⟩
    | succ n =>
      have h := (ih n).2.2
      have h' := (ih (n + 1)).2.2
      cases hb : m.isBoot with
      | true =>
        refine ⟨by simp [dropNormal, hb, ih], by simp [dropNormal, hb, ih], ?_⟩
        simp only [dropNormal, hb, if_true, length_cons]
        omega
      | false =>
        refine ⟨by simp [dropNormal, hb, ih], by simp [dropNormal, hb, ih], ?_⟩
        simp only [dropNormal, hb, Bool.false_eq_true, if_false, length_cons]
        omega

omit [DecidableEq M] in
theorem dropUpdates_length (remove : Bool) (ms : List (ControlMessage M)) :
    (dropUpdates remove ms).1.length + (dropUpdates remove ms).2.length = ms.length := by
  induction ms generalizing remove with
  | nil => rfl
  | cons m ms ih =>
    have h1 := ih true
    have h2 := ih false
    simp only [dropUpdates]
    split_ifs <;> simp only [length_cons] <;> omega

omit [DecidableEq M] in
/-- A pass that drops nothing leaves no update message before the last two messages. -/
theorem dropUpdates_none {ms : List (ControlMessage M)} (h : (dropUpdates true ms).2 = []) :
    (dropUpdates true ms).1 = ms ∧ ∀ m ∈ ms.take (ms.length - 2), m.isUpdate = false := by
  induction ms with
  | nil => simp [dropUpdates]
  | cons m ms ih =>
    rw [dropUpdates] at h ⊢
    split_ifs at h ⊢ with hr
    obtain ⟨hk, hu⟩ := ih h
    refine ⟨congrArg (m :: ·) hk, ?_⟩
    by_cases hlen : ms.length ≤ 1
    · simp [Nat.sub_eq_zero_of_le (show ms.length + 1 ≤ 2 by omega)]
    · have htake : (m :: ms).length - 2 = ms.length - 2 + 1 := by
        rw [length_cons]
        omega
      rw [htake, take_succ_cons, forall_mem_cons]
      exact ⟨by simpa [not_le.mp hlen] using hr, hu⟩

namespace Core

section

omit [MessageType M] [DecidableEq M]

variable (cfg : MessageQueueConfig M)

@[simp] theorem trimFromNormal_eq (kept dropped : List (ControlMessage M)) (c : Core M) :
    c.trimFromNormal cfg kept dropped = { c with
      database := if cfg.queueAllMessages then (c.forget .normal dropped).database else c.database
      normalMessageQueue := kept
      log := dropped.reverse.map .trimmed ++ c.log } := by
  unfold trimFromNormal
  split_ifs <;> rfl

theorem trimFromNormal_nil (c : Core M) : c.trimFromNormal cfg c.normalMessageQueue [] = c := by
  simp [forget]

theorem trimFromNormal_cons (rest kept : List (ControlMessage M))
    (m : ControlMessage M) (dropped : List (ControlMessage M)) (c : Core M) :
    c.trimFromNormal cfg kept (m :: dropped) =
      (c.trimFromNormal cfg rest [m]).trimFromNormal cfg kept dropped := by
  cases h : cfg.queueAllMessages <;> simp [forget, h]

theorem trimFromTransaction_nil (c : Core M) :
    c.trimFromTransaction c.transactionMessageQueue [] = c := rfl

theorem trimFromTransaction_cons (rest kept : List (ControlMessage M)) (m : ControlMessage M)
    (dropped : List (ControlMessage M)) (c : Core M) :
    c.trimFromTransaction kept (m :: dropped) =
      (c.trimFromTransaction rest [m]).trimFromTransaction kept dropped := by
  simp [trimFromTransaction, forget, note]

end

/-- The loop over the rest `ms` of the normal queue, with `pre` behind it. -/
theorem trims_dropNormal (cfg : MessageQueueConfig M) {P : ControlMessage M → Prop} (n : Nat)
    (ms pre : List (ControlMessage M)) (c : Core M) (hq : c.normalMessageQueue = pre ++ ms)
    (hP : ∀ m ∈ (dropNormal n ms).2, P m) :
    Trims cfg P c (c.trimFromNormal cfg (pre ++ (dropNormal n ms).1) (dropNormal n ms).2) := by
  induction ms generalizing n pre c with
  | nil =>
    have hnil : dropNormal n ([] : List (ControlMessage M)) = ([], []) := by cases n <;> rfl
    rw [hnil, ← hq, trimFromNormal_nil]
  | cons m ms ih =>
    cases n with
    | zero =>
      change Trims cfg P c (c.trimFromNormal cfg (pre ++ m :: ms) [])
      rw [← hq, trimFromNormal_nil]
    | succ n =>
      cases hb : m.isBoot with
      | true =>
        have := ih (n + 1) (pre ++ [m]) c (by simpa using hq) (by simpa [dropNormal, hb] using hP)
        simpa [dropNormal, hb] using this
      | false =>
        simp only [dropNormal, hb, Bool.false_eq_true, if_false, mem_cons, forall_eq_or_imp] at hP ⊢
        rw [trimFromNormal_cons cfg (pre ++ ms)]
        exact .head (.normal hq hb hP.1) (ih n pre _ rfl hP.2)

/-- The loop over the rest `ms` of the transaction queue, with `pre` on the swap queue. -/
theorem trims_dropUpdates (cfg : MessageQueueConfig M) {P : ControlMessage M → Prop}
    (remove : Bool) (ms pre : List (ControlMessage M)) (c : Core M)
    (hq : c.transactionMessageQueue = pre ++ ms) (hP : ∀ m ∈ (dropUpdates remove ms).2, P m) :
    Trims cfg P c
      (c.trimFromTransaction (pre ++ (dropUpdates remove ms).1) (dropUpdates remove ms).2) := by
  induction ms generalizing remove pre c with
  | nil =>
    change Trims cfg P c (c.trimFromTransaction (pre ++ []) [])
    rw [← hq, trimFromTransaction_nil]
  | cons m ms ih =>
    cases hr : remove && m.isUpdate && decide (ms.length > 1) with
    | true =>
      simp only [dropUpdates, hr, if_true, mem_cons, forall_eq_or_imp] at hP ⊢
      simp only [Bool.and_eq_true, decide_eq_true_eq] at hr
      rw [trimFromTransaction_cons (pre ++ ms)]
      exact .head (.transaction hq hr.1.2 hr.2 hP.1) (ih false pre _ rfl hP.2)
    | false =>
      simp only [dropUpdates, hr, Bool.false_eq_true, if_false] at hP ⊢
      simpa using ih true (pre ++ [m]) c (by simpa using hq) hP

end Core

/-! ## Which messages are dropped -/

omit [DecidableEq M] [MessageType M] in
theorem MessageQueueConfig.batch_pos (cfg : MessageQueueConfig M) : 0 < cfg.batch := by
  unfold batch
  omega

omit [DecidableEq M] [MessageType M] in
theorem MessageQueueConfig.dropLimit_eq (cfg : MessageQueueConfig M) (size : Nat) :
    cfg.dropLimit size = min size cfg.batch := rfl

omit [DecidableEq M] [MessageType M] in
theorem MessageQueueConfig.wholeBatches_eq (cfg : MessageQueueConfig M) {e : Nat} (he : 0 < e) :
    cfg.wholeBatches e = cfg.batch + cfg.wholeBatches (e - cfg.batch) := by
  have hb := cfg.batch_pos
  unfold wholeBatches
  have hdiv : (e + cfg.batch - 1) / cfg.batch =
      (e - cfg.batch + cfg.batch - 1) / cfg.batch + 1 := by
    by_cases hle : cfg.batch ≤ e
    · have : e + cfg.batch - 1 = e - cfg.batch + cfg.batch - 1 + cfg.batch := by omega
      rw [this, add_div_right _ hb]
    · have h1 : (e + cfg.batch - 1) / cfg.batch = 1 := by
        have : e + cfg.batch - 1 = e - 1 + cfg.batch := by omega
        rw [this, add_div_right _ hb, div_eq_of_lt (by omega)]
      have h2 : (e - cfg.batch + cfg.batch - 1) / cfg.batch = 0 := div_eq_of_lt (by omega)
      rw [h1, h2]
  rw [hdiv, mul_add, mul_one, add_comm]

namespace Core

variable (cfg : MessageQueueConfig M)

theorem droppable_dropMessages (c : Core M) :
    (c.dropMessagesFromNormalMessageQueue cfg).droppable =
      c.droppable.drop (cfg.dropLimit c.normalMessageQueue.length) :=
  (dropNormal_spec _ _).2.1

theorem transactionMessageQueue_dropMessages (c : Core M) :
    (c.dropMessagesFromNormalMessageQueue cfg).transactionMessageQueue =
      c.transactionMessageQueue := by
  simp [dropMessagesFromNormalMessageQueue]

/-- A pass of the first loop shortens the normal queue by what it drops. -/
theorem length_dropMessages (c : Core M) :
    (c.dropMessagesFromNormalMessageQueue cfg).normalMessageQueue.length +
      min (cfg.dropLimit c.normalMessageQueue.length) c.droppable.length =
      c.normalMessageQueue.length := by
  obtain ⟨hd, -, h⟩ := dropNormal_spec (cfg.dropLimit c.normalMessageQueue.length)
    c.normalMessageQueue
  rw [hd, length_take] at h
  exact h

theorem trims_dropMessages (c : Core M) :
    Trims cfg (· ∈ c.droppable.take (cfg.dropLimit c.normalMessageQueue.length)) c
      (c.dropMessagesFromNormalMessageQueue cfg) := by
  refine trims_dropNormal cfg _ _ [] c rfl ?_
  intro m hm
  rwa [(dropNormal_spec _ _).1] at hm

/-- What the rest of the first loop drops after a pass was within reach before it. -/
theorem take_drop_droppable {cfg : MessageQueueConfig M} {c : Core M} (he : 0 < c.excess cfg)
    {m : ControlMessage M}
    (hm : m ∈ (c.droppable.drop (cfg.dropLimit c.normalMessageQueue.length)).take
      (cfg.wholeBatches ((c.dropMessagesFromNormalMessageQueue cfg).excess cfg))) :
    m ∈ c.droppable.take (cfg.wholeBatches (c.excess cfg)) := by
  have hlen : c.droppable.length ≤ c.normalMessageQueue.length := length_filter_le _ _
  have hp := length_dropMessages cfg c
  rw [dropLimit_eq] at hm hp
  by_cases hfew : c.droppable.length ≤ min c.normalMessageQueue.length cfg.batch
  · rw [drop_of_length_le hfew, take_nil] at hm
    simp at hm
  · have hmin : min c.normalMessageQueue.length cfg.batch = cfg.batch := by omega
    have hexc : (c.dropMessagesFromNormalMessageQueue cfg).excess cfg =
        c.excess cfg - cfg.batch := by
      unfold excess queueSize at *
      rw [transactionMessageQueue_dropMessages]
      omega
    rw [hmin, hexc] at hm
    rw [cfg.wholeBatches_eq he, take_add]
    exact mem_append_right _ hm

theorem trims_trimNormal (n : Nat) (c : Core M) :
    Trims cfg (· ∈ c.droppable.take (cfg.wholeBatches (c.excess cfg))) c (c.trimNormal cfg n) := by
  induction n generalizing c with
  | zero => exact .refl
  | succ n ih =>
    unfold trimNormal
    by_cases hl : (decide (c.queueSize > cfg.sizeThreshold) && !c.normalMessageQueue.isEmpty)
    · have he : 0 < c.excess cfg := by
        simp only [Bool.and_eq_true, decide_eq_true_eq] at hl
        unfold excess
        omega
      have hp : Trims cfg (· ∈ c.droppable.take (cfg.wholeBatches (c.excess cfg))) c
          (c.dropMessagesFromNormalMessageQueue cfg) := by
        refine (trims_dropMessages cfg c).mono fun m hm => ?_
        refine take_subset_take_left _ ?_ hm
        rw [dropLimit_eq, cfg.wholeBatches_eq he]
        omega
      dsimp only
      split_ifs
      · exact hp
      · refine hp.trans ((ih _).mono fun m hm => ?_)
        rw [droppable_dropMessages] at hm
        exact take_drop_droppable he hm
    · rw [if_neg hl]

/-- The first loop ends when the excess is covered or nothing is left to drop. -/
theorem trimNormal_done {n : Nat} {c : Core M} (hn : c.normalMessageQueue.length < n) :
    ((c.trimNormal cfg n).queueSize ≤ cfg.sizeThreshold ∨ (c.trimNormal cfg n).droppable = []) ∧
      ∀ k, c.trimNormal cfg (n + k) = c.trimNormal cfg n := by
  induction n generalizing c with
  | zero => omega
  | succ n ih =>
    have hp := length_dropMessages cfg c
    rw [dropLimit_eq] at hp
    have hb := cfg.batch_pos
    simp only [Nat.add_right_comm n 1]
    by_cases hl : (decide (c.queueSize > cfg.sizeThreshold) && !c.normalMessageQueue.isEmpty)
    · have hst := fun n => (rfl : c.trimNormal cfg (n + 1) = _).trans (if_pos hl)
      simp only [Bool.and_eq_true, Bool.not_eq_true', isEmpty_eq_false_iff, ← length_pos_iff] at hl
      by_cases hs : (c.dropMessagesFromNormalMessageQueue cfg).normalMessageQueue.length =
          c.normalMessageQueue.length
      · simp only [hst, if_pos (beq_iff_eq.mpr hs)]
        refine ⟨.inr ?_, fun _ => trivial⟩
        rw [droppable_dropMessages, dropLimit_eq, drop_of_length_le (by omega)]
      · simp only [hst, if_neg (beq_iff_eq.not.mpr hs)]
        exact ih (by omega)
    · have hst := fun n => (rfl : c.trimNormal cfg (n + 1) = _).trans (if_neg hl)
      simp only [hst]
      refine ⟨?_, fun _ => trivial⟩
      by_cases hsi : c.queueSize ≤ cfg.sizeThreshold
      · exact .inl hsi
      · have hnil : c.normalMessageQueue = [] := by
          simpa [not_le.mp hsi] using hl
        simp [droppable, hnil]

/-- The first loop shortens the queues by as many messages as it drops. -/
theorem trimNormal_size (n : Nat) (c : Core M) :
    (c.trimNormal cfg n).transactionMessageQueue = c.transactionMessageQueue ∧
      (c.trimNormal cfg n).queueSize + c.droppable.length =
        c.queueSize + (c.trimNormal cfg n).droppable.length := by
  induction n generalizing c with
  | zero => exact ⟨rfl, rfl⟩
  | succ n ih =>
    have hp := length_dropMessages cfg c
    have hd := droppable_dropMessages cfg c
    have ht := transactionMessageQueue_dropMessages cfg c
    have hs : (c.dropMessagesFromNormalMessageQueue cfg).queueSize + c.droppable.length =
        c.queueSize + (c.dropMessagesFromNormalMessageQueue cfg).droppable.length := by
      unfold queueSize
      rw [ht, hd, length_drop]
      omega
    unfold trimNormal
    split_ifs with hl
    · dsimp only
      split_ifs
      · exact ⟨ht, hs⟩
      · obtain ⟨h1, h2⟩ := ih (c.dropMessagesFromNormalMessageQueue cfg)
        exact ⟨h1.trans ht, by omega⟩
    · exact ⟨rfl, rfl⟩

end Core

namespace Core

omit [DecidableEq M] in
/-- A pass of the second loop shortens the queues by what it drops. -/
theorem excess_dropUpdateMessages (cfg : MessageQueueConfig M) (c : Core M) :
    c.dropUpdateMessagesFromTransactionalMessageQueue.1.excess cfg =
      c.excess cfg - (dropUpdates true c.transactionMessageQueue).2.length := by
  have hlen := dropUpdates_length true c.transactionMessageQueue
  have hs : c.dropUpdateMessagesFromTransactionalMessageQueue.1.queueSize =
      (dropUpdates true c.transactionMessageQueue).1.length + c.normalMessageQueue.length := rfl
  unfold excess
  rw [hs, queueSize]
  omega

theorem trims_trimTransaction (cfg : MessageQueueConfig M) (n : Nat) (c : Core M) :
    Trims cfg (· ∈ dropRounds n (c.excess cfg) c.transactionMessageQueue) c
      (c.trimTransaction cfg n) := by
  induction n generalizing c with
  | zero => exact .refl
  | succ n ih =>
    unfold trimTransaction
    by_cases hl : c.queueSize > cfg.sizeThreshold
    · have he : c.excess cfg ≠ 0 := by
        unfold excess
        omega
      rw [if_pos hl, dropRounds, if_neg he]
      dsimp only
      have hp : Trims cfg (· ∈ (dropUpdates true c.transactionMessageQueue).2) c
          c.dropUpdateMessagesFromTransactionalMessageQueue.1 :=
        trims_dropUpdates cfg true _ [] c rfl fun m hm => hm
      have hf := hp.mono fun m hm => mem_append_left
        (dropRounds n (c.excess cfg - (dropUpdates true c.transactionMessageQueue).2.length)
          (dropUpdates true c.transactionMessageQueue).1) hm
      split_ifs
      · refine hf.trans ((ih _).mono fun m hm => mem_append_right _ ?_)
        rwa [excess_dropUpdateMessages] at hm
      · exact hf
    · rw [if_neg hl]

omit [DecidableEq M] in
theorem trimTransaction_of_le {cfg : MessageQueueConfig M} {n : Nat} {c : Core M}
    (h : c.queueSize ≤ cfg.sizeThreshold) : c.trimTransaction cfg n = c := by
  cases n with
  | zero => rfl
  | succ n => exact if_neg (not_lt.mpr h)

omit [DecidableEq M] in
/-- The second loop ends when the excess is covered or a pass drops nothing. -/
theorem trimTransaction_done (cfg : MessageQueueConfig M) {n : Nat} {c : Core M}
    (hn : c.transactionMessageQueue.length < n) :
    ((c.trimTransaction cfg n).queueSize ≤ cfg.sizeThreshold ∨
      ∀ m ∈ (c.trimTransaction cfg n).transactionMessageQueue.take
        ((c.trimTransaction cfg n).transactionMessageQueue.length - 2), m.isUpdate = false) ∧
      (c.trimTransaction cfg n).normalMessageQueue = c.normalMessageQueue ∧
      ∀ k, c.trimTransaction cfg (n + k) = c.trimTransaction cfg n := by
  induction n generalizing c with
  | zero => omega
  | succ n ih =>
    have hlen := dropUpdates_length true c.transactionMessageQueue
    simp only [Nat.add_right_comm n 1]
    by_cases hl : c.queueSize > cfg.sizeThreshold
    · have hst := fun n => (rfl : c.trimTransaction cfg (n + 1) = _).trans (if_pos hl)
      cases hd : (dropUpdates true c.transactionMessageQueue).2 with
      | nil =>
        obtain ⟨hk, hu⟩ := dropUpdates_none hd
        have hc : c.dropUpdateMessagesFromTransactionalMessageQueue = (c, false) := by
          simp [dropUpdateMessagesFromTransactionalMessageQueue, hd, hk, trimFromTransaction_nil]
        simp only [hst, hc]
        exact ⟨.inr hu, rfl, fun _ => rfl⟩
      | cons m ms =>
        rw [hd, length_cons] at hlen
        have hc : c.dropUpdateMessagesFromTransactionalMessageQueue.2 := by
          simp [dropUpdateMessagesFromTransactionalMessageQueue, hd]
        simp only [hst, if_pos hc]
        refine ih ?_
        show (dropUpdates true c.transactionMessageQueue).1.length < n
        omega
    · have hst := fun n => (rfl : c.trimTransaction cfg (n + 1) = _).trans (if_neg hl)
      simp only [hst]
      exact ⟨.inl (not_lt.mp hl), trivial, fun _ => trivial⟩

/-- **`check_queue_sizes` drops exposed messages, one after another.** -/
theorem trims_checkQueueSizes (cfg : MessageQueueConfig M) (c : Core M) :
    Trims cfg (· ∈ c.exposed cfg) c (c.checkQueueSizes cfg) := by
  unfold checkQueueSizes
  split_ifs with hsi
  · exact .refl
  · obtain ⟨ht, hlen⟩ := trimNormal_size cfg (c.normalMessageQueue.length + 1) c
    have hd := (trimNormal_done cfg (lt_succ_self c.normalMessageQueue.length)).1
    have hf := trims_trimNormal cfg (c.normalMessageQueue.length + 1) c
    have hs := trims_trimTransaction cfg
      ((c.trimNormal cfg (c.normalMessageQueue.length + 1)).transactionMessageQueue.length + 1)
      (c.trimNormal cfg (c.normalMessageQueue.length + 1))
    revert ht hlen hd hf hs
    generalize c.trimNormal cfg (c.normalMessageQueue.length + 1) = c'
    intro ht hlen hd hf hs
    refine (hf.mono fun m hm => mem_append_left _ hm).trans ?_
    by_cases hsi' : c'.queueSize ≤ cfg.sizeThreshold
    · -- the normal queue has covered the excess, and the second loop is not entered
      rw [trimTransaction_of_le hsi']
    · refine hs.mono fun m hm => mem_append_right _ ?_
      rw [hd.resolve_left hsi', length_nil] at hlen
      have hr : c'.excess cfg = c.excess cfg - c.droppable.length := by
        unfold excess
        omega
      rwa [ht, hr] at hm

end Core

end EverestCore.Ocpp.MessageQueue

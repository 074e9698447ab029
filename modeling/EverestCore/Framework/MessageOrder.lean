import EverestCore.Framework.MessageHandler

/-!
# The order of the messages of one topic

The dispatcher and the workers hand the messages of a topic over through two shared tables. Seen
from one topic, every section is one of a few steps or none at all: `Lane.Step` is the machine of a
single topic, and each section of the handler refines it for every topic at once. Of a lane at most
one message is under way at any time, so it does not matter in which place it is.

Results:
* **`handled_in_order`**: messages of one topic are handled one at a time, in order and exactly
  once.
-/

namespace EverestCore.Framework

open Lib Lib.Machine List Option Thread Handler Event OrderedMap

variable {δ : Type}

/-! ## One topic -/

/-- How far a message is that is with the pool, or that its worker has just handled. -/
inductive Stage (δ : Type)
  | scheduled (m : ParsedMessage δ)
  | handling (m : ParsedMessage δ)
  | done

namespace Stage

/-- The message, until it is handled. -/
def message : Stage δ → List (ParsedMessage δ)
  | .scheduled m | .handling m => [m]
  | .done => []

/-- The message whose handler is running. -/
def running : Stage δ → List (ParsedMessage δ)
  | .handling m => [m]
  | .scheduled _ | .done => []

end Stage

namespace Event

def message : Event δ → ParsedMessage δ
  | .started m | .finished m => m

def finished? : Event δ → Option (ParsedMessage δ)
  | .finished m => some m
  | .started _ => none

end Event

/-- A handler is called for one message after another. -/
def oneByOne (ms : List (ParsedMessage δ)) : List (Event δ) :=
  ms.flatMap fun m => [.started m, .finished m]

/-- What there is of one topic. -/
@[ext]
structure Lane (δ : Type) where
  queue : List (ParsedMessage δ)
  dispatched : Option (ParsedMessage δ)
  pending : Option (List (ParsedMessage δ))
  inFlight : Bool
  underWay : Multiset (Stage δ)
  arrived : List (ParsedMessage δ)
  log : List (Event δ)

namespace Lane

/-- The messages of the topic that were handled. -/
def handled (l : Lane δ) : List (ParsedMessage δ) := l.log.filterMap finished?

/-- What may become of the messages of one topic. -/
inductive Step : Lane δ → Lane δ → Prop
  | arrive (l : Lane δ) (m : ParsedMessage δ) :
    Step l { l with queue := l.queue ++ [m], arrived := l.arrived ++ [m] }
  | take {l : Lane δ} {m : ParsedMessage δ} {rest : List (ParsedMessage δ)}
    (hqueue : l.queue = m :: rest) (hnone : l.dispatched = none) :
    Step l { l with queue := rest, dispatched := some m }
  | defer {l : Lane δ} {m : ParsedMessage δ} (hm : l.dispatched = some m)
    (hflight : l.inFlight = true) :
    Step l { l with dispatched := none, pending := some (l.pending.getD [] ++ [m]) }
  | schedule {l : Lane δ} {m : ParsedMessage δ} (hm : l.dispatched = some m)
    (hflight : l.inFlight = false) :
    Step l { l with
      dispatched := none, inFlight := true, underWay := .scheduled m ::ₘ l.underWay }
  | start {l : Lane δ} {m : ParsedMessage δ} {others : Multiset (Stage δ)}
    (h : l.underWay = .scheduled m ::ₘ others) :
    Step l { l with underWay := .handling m ::ₘ others, log := l.log ++ [.started m] }
  | finish {l : Lane δ} {m : ParsedMessage δ} {others : Multiset (Stage δ)}
    (h : l.underWay = .handling m ::ₘ others) :
    Step l { l with underWay := .done ::ₘ others, log := l.log ++ [.finished m] }
  | release {l : Lane δ} {others : Multiset (Stage δ)} (h : l.underWay = .done ::ₘ others)
    (hnone : l.pending = none) :
    Step l { l with underWay := others, inFlight := false }
  | next {l : Lane δ} {m : ParsedMessage δ} {rest : List (ParsedMessage δ)}
    {others : Multiset (Stage δ)} (h : l.underWay = .done ::ₘ others)
    (hpending : l.pending = some (m :: rest)) :
    Step l { l with
      underWay := .scheduled m ::ₘ others, pending := if rest = [] then none else some rest }

/-- The invariant of a topic, at the stage `now`. -/
structure At (l : Lane δ) (now : Option (Stage δ)) : Prop where
  underWay : l.underWay = now.elim 0 ({·})
  inFlight : l.inFlight = now.isSome
  pending : ∀ q, l.pending = some q → q ≠ [] ∧ now.isSome = true
  log : l.log = oneByOne l.handled ++ (now.elim [] Stage.running).map .started
  arrived : l.arrived = l.handled ++ now.elim [] Stage.message ++ l.pending.getD [] ++
    l.dispatched.toList ++ l.queue

theorem At.eq_of_cons {l : Lane δ} {now : Option (Stage δ)} (h : l.At now) {x : Stage δ}
    {others : Multiset (Stage δ)} (hx : l.underWay = x ::ₘ others) : now = some x ∧ others = 0 := by
  have hone := h.underWay.symm.trans hx
  cases now with
  | none => exact absurd hone.symm (Multiset.cons_ne_zero)
  | some y =>
    obtain ⟨rfl, rfl⟩ := (Multiset.singleton_eq_cons_iff others).1 hone
    exact ⟨rfl, rfl⟩

/-- **No step of a topic takes its messages out of order.** -/
theorem At.step {l l' : Lane δ} {now : Option (Stage δ)} (h : l.At now) (hst : Step l l') :
    ∃ now', l'.At now' := by
  cases hst with
  | arrive m =>
    refine ⟨now, h.underWay, h.inFlight, h.pending, h.log, ?_⟩
    rw [h.arrived, append_assoc]
    rfl
  | take hqu hno =>
    refine ⟨now, h.underWay, h.inFlight, h.pending, h.log, ?_⟩
    rw [h.arrived, hqu, hno]
    simp [handled]
  | @defer m hm hf =>
    refine ⟨now, h.underWay, h.inFlight, fun q hq => ?_, h.log, ?_⟩
    · cases hq
      exact ⟨by simp, h.inFlight ▸ hf⟩
    · rw [h.arrived, hm]
      simp [handled]
  | @schedule m hm hf =>
    cases now with
    | some x => cases hf.symm.trans h.inFlight
    | none =>
      have hno : l.pending = none := by
        rw [eq_none_iff_forall_not_mem]
        intro q hq
        cases (h.pending q hq).2
      refine ⟨some (.scheduled m), ?_, rfl, fun q hq => ?_, ?_, ?_⟩
      · rw [h.underWay]
        rfl
      · cases hno.symm.trans hq
      · exact h.log
      · rw [h.arrived, hm, hno]
        simp [handled, Stage.message]
  | @start m others hx =>
    obtain ⟨rfl, rfl⟩ := h.eq_of_cons hx
    have hh : (l.log ++ [started m]).filterMap finished? = l.log.filterMap finished? := by
      simp [finished?]
    refine ⟨some (.handling m), rfl, h.inFlight, h.pending, ?_, ?_⟩
    · show l.log ++ [.started m] =
        oneByOne ((l.log ++ [started m]).filterMap finished?) ++ [.started m]
      rw [hh]
      exact congrArg (· ++ [started m]) (h.log.trans (append_nil _))
    · show l.arrived = (l.log ++ [started m]).filterMap finished? ++ _ ++ _ ++ _ ++ _
      rw [hh]
      exact h.arrived
  | @finish m others hx =>
    obtain ⟨rfl, rfl⟩ := h.eq_of_cons hx
    have hh : (l.log ++ [finished m]).filterMap finished? = l.log.filterMap finished? ++ [m] := by
      simp [finished?]
    refine ⟨some .done, rfl, h.inFlight, h.pending, ?_, ?_⟩
    · show l.log ++ [.finished m] = oneByOne ((l.log ++ [finished m]).filterMap finished?) ++ []
      rw [hh, oneByOne, flatMap_append]
      refine (congrArg (· ++ [finished m]) h.log).trans ?_
      simp [oneByOne, Stage.running, handled]
    · show l.arrived = (l.log ++ [finished m]).filterMap finished? ++ _ ++ _ ++ _ ++ _
      rw [hh]
      exact h.arrived.trans (by simp [Stage.message, handled])
  | release hx hno =>
    obtain ⟨rfl, rfl⟩ := h.eq_of_cons hx
    refine ⟨none, rfl, rfl, fun q hq => ?_, h.log, ?_⟩
    · cases hno.symm.trans hq
    · exact h.arrived
  | @next m rest others hx hp =>
    obtain ⟨rfl, rfl⟩ := h.eq_of_cons hx
    refine ⟨some (.scheduled m), rfl, h.inFlight, fun q hq => ⟨?_, rfl⟩, h.log, ?_⟩
    · rintro rfl
      split at hq
      · cases hq
      · next hne => exact hne (Option.some.inj hq)
    · rw [h.arrived, hp]
      by_cases hr : rest = []
      · simp [handled, Stage.message, hr]
      · simp [handled, Stage.message, hr]

end Lane

/-! ## The topics of the handler -/

namespace Thread

/-- What the thread has under way of the topic `t`. -/
def stage (t : String) : Thread δ → Option (Stage δ)
  | .dispatcherSchedules m | .operation m | .workerSchedules m =>
    if m.topic = t then some (.scheduled m) else none
  | .handling m => if m.topic = t then some (.handling m) else none
  | .done topic | .missing topic => if topic = t then some .done else none
  | .dispatcher | .dispatch _ | .worker => none

/-- What the dispatcher has taken from its queue; other threads are not the dispatcher. -/
def dispatching : Thread δ → Option (Option (ParsedMessage δ))
  | .dispatch m => some (some m)
  | .dispatcher | .dispatcherSchedules _ => some none
  | _ => none

end Thread

/-- What is under way of the topic `t`: in the queue of the pool and with the threads. -/
def underWay (pool : List (ParsedMessage δ)) (crowd : Multiset (Thread δ)) (t : String) :
    Multiset (Stage δ) :=
  ((pool.filter (·.topic = t)).map Stage.scheduled : List (Stage δ)) +
    crowd.filterMap (stage t)

/-- The topic `t`, where the dispatcher has taken `d`. -/
def lane (s : Handler δ × History δ) (crowd : Multiset (Thread δ)) (d : Option (ParsedMessage δ))
    (t : String) : Lane δ where
  queue := s.1.operationMessageQueue.filter (·.topic = t)
  dispatched := d.filter (·.topic = t)
  pending := s.1.pendingMessages.find? t
  inFlight := t ∈ s.1.inFlight
  underWay := underWay s.1.operationThreadPool crowd t
  arrived := s.2.arrived.filter (·.topic = t)
  log := s.2.log.filter (·.message.topic = t)

section UnderWay

variable {pool : List (ParsedMessage δ)} {crowd : Multiset (Thread δ)} {thread thread' : Thread δ}
  {t : String} {m : ParsedMessage δ}

theorem underWay_cons_some {x : Stage δ} (h : thread.stage t = some x) :
    underWay pool (thread ::ₘ crowd) t = x ::ₘ underWay pool crowd t := by
  rw [underWay, Multiset.filterMap_cons_some _ _ _ h, Multiset.add_cons]
  rfl

theorem underWay_cons_none (h : thread.stage t = none) :
    underWay pool (thread ::ₘ crowd) t = underWay pool crowd t := by
  rw [underWay, Multiset.filterMap_cons_none _ _ h]
  rfl

theorem underWay_congr (h : thread'.stage t = thread.stage t) :
    underWay pool (thread' ::ₘ crowd) t = underWay pool (thread ::ₘ crowd) t := by
  rw [underWay, underWay, Multiset.filterMap_cons, h, ← Multiset.filterMap_cons]

/-- A message that goes to the pool, or comes from there, stays under way. -/
theorem underWay_pool {pool' : List (ParsedMessage δ)} (hp : pool'.Perm (m :: pool))
    (h : thread.stage t = if m.topic = t then some (.scheduled m) else none)
    (h' : thread'.stage t = none) :
    underWay pool' (thread' ::ₘ crowd) t = underWay pool (thread ::ₘ crowd) t := by
  have hf := Multiset.coe_eq_coe.2 ((hp.filter (·.topic = t)).map Stage.scheduled)
  rw [underWay_cons_none h', underWay, hf]
  by_cases ht : m.topic = t
  · rw [underWay_cons_some (h.trans (if_pos ht)), filter_cons_of_pos (by simpa using ht),
      map_cons, ← Multiset.cons_coe, Multiset.cons_add]
    rfl
  · rw [underWay_cons_none (h.trans (if_neg ht)), filter_cons_of_neg (by simpa using ht)]
    rfl

end UnderWay

/-- The invariant of the message handler. -/
structure Inv (s : Handler δ × History δ) (crowd : Multiset (Thread δ)) : Prop where
  running : s.1.running = true
  noMissing : ∀ topic, .missing topic ∉ crowd
  topics : ∃ d, crowd.filterMap dispatching = {d} ∧ ∀ t, ∃ now, (lane s crowd d t).At now

variable {crowd : Multiset (Thread δ)} {thread : Thread δ} {d : Option (ParsedMessage δ)}

theorem Inv.leaves {s : Handler δ × History δ} (h : Inv s (thread ::ₘ crowd)) :
    Inv s (crowd + ([thread] : List (Thread δ))) := by
  rw [Multiset.coe_singleton, Multiset.add_comm, Multiset.singleton_add]
  exact h

theorem dispatching_cons {e : Option (ParsedMessage δ)} (ht : thread.dispatching = some e) :
    (thread ::ₘ crowd).filterMap dispatching = {d} ↔ d = e ∧ crowd.filterMap dispatching = 0 := by
  rw [Multiset.filterMap_cons_some _ _ _ ht, eq_comm, Multiset.singleton_eq_cons_iff]

/-- A section that is a step of each topic, or leaves it as it is. -/
theorem Inv.of_lanes {s s' : Handler δ × History δ} {crowd' : Multiset (Thread δ)}
    {d' : Option (ParsedMessage δ)} (hrun : s'.1.running)
    (hm : ∀ topic, .missing topic ∉ crowd') (hd : crowd'.filterMap dispatching = {d'})
    (hl : ∀ t, ∃ now, (lane s crowd d t).At now)
    (h : ∀ t, lane s' crowd' d' t = lane s crowd d t ∨
      ∃ l, Lane.Step (lane s crowd d t) l ∧ lane s' crowd' d' t = l) :
    Inv s' crowd' := by
  refine ⟨hrun, hm, d', hd, fun t => ?_⟩
  obtain ⟨now, hnow⟩ := hl t
  rcases h t with heq | ⟨l, hst, heq⟩
  · exact ⟨now, heq ▸ hnow⟩
  · exact heq ▸ hnow.step hst

section Sections

variable {s : Handler δ × History δ} {crowd : Multiset (Thread δ)} {m : ParsedMessage δ}
  {rest : List (ParsedMessage δ)} {topic : String}

theorem Inv.noMissing_cons {thread thread' : Thread δ} (h : Inv s (thread ::ₘ crowd))
    (hne : ∀ topic, thread' ≠ .missing topic) (topic : String) :
    .missing topic ∉ thread' ::ₘ crowd := by
  intro hmem
  rcases Multiset.mem_cons.1 hmem with heq | hmem
  · exact hne topic heq.symm
  · exact h.noMissing topic (Multiset.mem_cons_of_mem hmem)

/-- A section of a thread that is not the dispatcher's choice of a message. -/
theorem Inv.goes_on {s' : Handler δ × History δ} {thread thread' : Thread δ}
    (h : Inv s (thread ::ₘ crowd)) (hrun : s'.1.running = s.1.running)
    (hne : ∀ topic, thread' ≠ .missing topic) (hd : thread'.dispatching = thread.dispatching)
    (hl : ∀ d t, lane s' (thread' ::ₘ crowd) d t = lane s (thread ::ₘ crowd) d t ∨
      ∃ l, Lane.Step (lane s (thread ::ₘ crowd) d t) l ∧ lane s' (thread' ::ₘ crowd) d t = l) :
    Inv s' (thread' ::ₘ crowd) := by
  obtain ⟨d, hone, hat⟩ := h.topics
  rw [Multiset.filterMap_cons, ← hd, ← Multiset.filterMap_cons] at hone
  exact Inv.of_lanes (hrun.trans h.running) (h.noMissing_cons hne) hone hat (hl d)

theorem dispatcher_inv (h : Inv s (.dispatcher ::ₘ crowd))
    (hq : s.1.operationMessageQueue = m :: rest) :
    Inv ({ s.1 with operationMessageQueue := rest }, s.2) (.dispatch m ::ₘ crowd) := by
  obtain ⟨d, hd, hl⟩ := h.topics
  obtain ⟨rfl, ho⟩ := (dispatching_cons rfl).1 hd
  refine Inv.of_lanes h.running (h.noMissing_cons nofun)
    ((dispatching_cons rfl).2 ⟨rfl, ho⟩) hl fun t => ?_
  by_cases ht : m.topic = t
  · have hh : (lane s (.dispatcher ::ₘ crowd) none t).queue = m :: rest.filter (·.topic = t) := by
      simp [lane, hq, ht]
    refine .inr ⟨_, .take hh rfl, ?_⟩
    exact Lane.ext rfl (by simp [lane, ht]) rfl rfl (underWay_congr rfl) rfl rfl
  · refine .inl (Lane.ext ?_ ?_ rfl rfl (underWay_congr rfl) rfl rfl)
    · simp [lane, hq, ht]
    · simp [lane, ht]

theorem dispatch_inv (h : Inv s (.dispatch m ::ₘ crowd)) :
    Inv ((s.1.dispatchOperationMessage m).1, s.2)
      ((if (s.1.dispatchOperationMessage m).2 then .dispatcherSchedules m else .dispatcher) ::ₘ
        crowd) := by
  obtain ⟨d, hd, hl⟩ := h.topics
  obtain ⟨rfl, ho⟩ := (dispatching_cons rfl).1 hd
  by_cases hf : m.topic ∈ s.1.inFlight
  · rw [dispatchOperationMessage, if_pos hf]
    refine Inv.of_lanes h.running (h.noMissing_cons nofun)
      ((dispatching_cons rfl).2 ⟨rfl, ho⟩) hl fun t => ?_
    by_cases ht : m.topic = t
    · refine .inr ⟨_, .defer (m := m) ?_ ?_, ?_⟩
      · simp [lane, ht]
      · simp [lane, ← ht, hf]
      · refine Lane.ext rfl rfl ?_ rfl (underWay_congr rfl) rfl rfl
        simp [lane, ← ht, find?_insert]
    · refine .inl (Lane.ext rfl ?_ ?_ rfl (underWay_congr rfl) rfl rfl)
      · simp [lane, ht, Option.filter]
      · simp [lane, Ne.symm ht, find?_insert]
  · rw [dispatchOperationMessage, if_neg hf]
    refine Inv.of_lanes h.running (h.noMissing_cons nofun)
      ((dispatching_cons rfl).2 ⟨rfl, ho⟩) hl fun t => ?_
    by_cases ht : m.topic = t
    · refine .inr ⟨_, .schedule (m := m) ?_ ?_, ?_⟩
      · simp [lane, ht]
      · simp [lane, ← ht, hf]
      · refine Lane.ext rfl rfl rfl ?_ ?_ rfl rfl
        · simp [lane, ← ht]
        · have hs : (Thread.dispatcherSchedules m).stage t = some (.scheduled m) := if_pos ht
          have hno : (dispatch m).stage t = none := rfl
          show underWay _ (.dispatcherSchedules m ::ₘ crowd) t =
            .scheduled m ::ₘ underWay _ (.dispatch m ::ₘ crowd) t
          rw [underWay_cons_some hs, underWay_cons_none hno]
    · refine .inl (Lane.ext rfl ?_ rfl ?_ ?_ rfl rfl)
      · simp [lane, ht, Option.filter]
      · simp [lane, Ne.symm ht]
      · exact underWay_congr (if_neg ht)

/-- `schedule_operation_message`: a message goes from a thread to the pool. -/
theorem schedule_inv {thread thread' : Thread δ} (h : Inv s (thread ::ₘ crowd))
    (hst : ∀ t, thread.stage t = if m.topic = t then some (.scheduled m) else none)
    (hst' : ∀ t, thread'.stage t = none) (hd' : thread'.dispatching = thread.dispatching)
    (hne : ∀ topic, thread' ≠ .missing topic) :
    Inv (s.1.scheduleOperationMessage m, s.2) (thread' ::ₘ crowd) := by
  refine h.goes_on rfl hne hd' fun d t => .inl (Lane.ext rfl rfl rfl rfl ?_ rfl rfl)
  exact underWay_pool (perm_append_singleton m _) (hst t) (hst' t)

theorem worker_inv (h : Inv s (.worker ::ₘ crowd)) (hp : s.1.operationThreadPool = m :: rest) :
    Inv ({ s.1 with operationThreadPool := rest }, s.2) (.operation m ::ₘ crowd) := by
  refine h.goes_on rfl nofun rfl fun d t => .inl (Lane.ext rfl rfl rfl rfl ?_ rfl rfl)
  exact (underWay_pool (hp ▸ .refl _) rfl rfl).symm

theorem operation_inv (h : Inv s (.operation m ::ₘ crowd)) :
    Inv (s.1, { s.2 with log := s.2.log ++ [.started m] }) (.handling m ::ₘ crowd) := by
  refine h.goes_on rfl nofun rfl fun d t => ?_
  by_cases ht : m.topic = t
  · refine .inr ⟨_, .start (underWay_cons_some (if_pos ht)), ?_⟩
    refine Lane.ext rfl rfl rfl rfl (underWay_cons_some (if_pos ht)) rfl ?_
    simp [lane, ht, message]
  · refine .inl (Lane.ext rfl rfl rfl rfl ?_ rfl ?_)
    · exact underWay_congr ((if_neg ht).trans (if_neg ht).symm)
    · simp [lane, ht, message]

theorem handling_inv (h : Inv s (.handling m ::ₘ crowd)) :
    Inv (s.1, { s.2 with log := s.2.log ++ [.finished m] }) (.done m.topic ::ₘ crowd) := by
  refine h.goes_on rfl nofun rfl fun d t => ?_
  by_cases ht : m.topic = t
  · refine .inr ⟨_, .finish (underWay_cons_some (if_pos ht)), ?_⟩
    refine Lane.ext rfl rfl rfl rfl (underWay_cons_some (if_pos ht)) rfl ?_
    simp [lane, ht, message]
  · refine .inl (Lane.ext rfl rfl rfl rfl ?_ rfl ?_)
    · exact underWay_congr ((if_neg ht).trans (if_neg ht).symm)
    · simp [lane, ht, message]

theorem release_inv (h : Inv s (.done topic ::ₘ crowd))
    (hno : s.1.pendingMessages.find? topic = none) :
    Inv (s.1.release topic, s.2) (.worker ::ₘ crowd) := by
  refine h.goes_on rfl nofun rfl fun d t => ?_
  by_cases ht : topic = t
  · subst ht
    refine .inr ⟨_, .release (underWay_cons_some (if_pos rfl)) hno, ?_⟩
    refine Lane.ext rfl rfl rfl ?_ (underWay_cons_none rfl) rfl rfl
    simp [lane, Handler.release]
  · refine .inl (Lane.ext rfl rfl rfl ?_ ?_ rfl rfl)
    · simp [lane, Handler.release, Ne.symm ht]
    · exact underWay_congr (if_neg ht).symm

theorem next_inv (h : Inv s (.done topic ::ₘ crowd))
    (hp : s.1.pendingMessages.find? topic = some (m :: rest)) (hm : m.topic = topic)
    {pending : OrderedMap String (List (ParsedMessage δ))}
    (hf : ∀ t, pending.find? t = if t = topic then if rest = [] then none else some rest
      else s.1.pendingMessages.find? t) :
    Inv ({ s.1 with pendingMessages := pending }, s.2) (.workerSchedules m ::ₘ crowd) := by
  refine h.goes_on rfl nofun rfl fun d t => ?_
  by_cases ht : topic = t
  · subst ht
    refine .inr ⟨_, .next (underWay_cons_some (if_pos rfl)) hp, ?_⟩
    exact Lane.ext rfl rfl ((hf topic).trans (if_pos rfl)) rfl
      (underWay_cons_some (if_pos hm)) rfl rfl
  · refine .inl (Lane.ext rfl rfl ?_ rfl ?_ rfl rfl)
    · exact (hf t).trans (if_neg (Ne.symm ht))
    · exact underWay_congr ((if_neg (hm ▸ ht)).trans (if_neg ht).symm)

/-- The first section of `on_operation_message_done`: there is a next message, or none is
pending. -/
theorem done_inv (retires : Bool) (h : Inv s (.done topic ::ₘ crowd)) :
    Inv ((proceed (.done topic) retires s.1).1, s.2)
      (crowd + (proceed (.done topic) retires s.1).2) := by
  obtain ⟨d, -, hl⟩ := h.topics
  obtain ⟨now, hnow⟩ := hl topic
  have hto : ∀ q, s.1.pendingMessages.find? topic = some q → ∀ m ∈ q, m.topic = topic := by
    intro q hq m hm
    have hmem : m ∈ (lane s (.done topic ::ₘ crowd) d topic).arrived := by
      rw [hnow.arrived]
      simp [lane, hq, hm]
    simpa [lane] using (mem_filter.1 hmem).2
  have hrun : ¬ ¬ s.1.running := not_not_intro h.running
  unfold proceed onOperationMessageDone
  dsimp only
  rw [if_neg hrun]
  cases hp : s.1.pendingMessages.find? topic with
  | none => exact (release_inv h hp).leaves
  | some q =>
    cases q with
    | nil => exact absurd rfl (hnow.pending [] hp).1
    | cons m rest =>
      have hm := hto _ hp m mem_cons_self
      cases rest with
      | nil => exact (next_inv h hp hm fun t => by simp [find?_erase]).leaves
      | cons m' rest =>
        exact (next_inv h hp hm fun t => by simp [find?_insert]).leaves

theorem add_inv (h : Inv s crowd) (m : ParsedMessage δ) :
    Inv (s.1.add m, History.onCall (.add m) s.1 s.2) crowd := by
  unfold add History.onCall
  dsimp only
  split
  · obtain ⟨d, hd, hl⟩ := h.topics
    refine Inv.of_lanes h.running h.noMissing hd hl fun t => ?_
    by_cases ht : m.topic = t
    · refine .inr ⟨_, .arrive _ m, ?_⟩
      simp [lane, ht]
    · simp [lane, ht]
  · exact h

theorem startWorker_inv (h : Inv s crowd) : Inv s (.worker ::ₘ crowd) := by
  obtain ⟨d, hd, hl⟩ := h.topics
  have hd' : (.worker ::ₘ crowd).filterMap dispatching = {d} := by
    rw [Multiset.filterMap_cons_none _ _ rfl, hd]
  refine Inv.of_lanes h.running ?_ hd' hl fun t => .inl ?_
  · intro topic
    simpa using h.noMissing topic
  · exact Lane.ext rfl rfl rfl rfl (underWay_cons_none rfl) rfl rfl

theorem retire_inv (h : Inv s (.worker ::ₘ crowd)) : Inv s crowd := by
  obtain ⟨d, hd, hl⟩ := h.topics
  rw [Multiset.filterMap_cons_none _ _ rfl] at hd
  refine Inv.of_lanes h.running ?_ hd hl fun t => .inl ?_
  · intro topic
    simpa using h.noMissing topic
  · exact Lane.ext rfl rfl rfl rfl (underWay_cons_none rfl).symm rfl rfl

end Sections

/-- **Every section keeps the invariant.** -/
theorem keepsCrowd_inv : (watched δ).KeepsCrowd (Inv (δ := δ)) where
  start call _ s crowd h := by
    cases call with
    | add m =>
      show Inv (s.1.add m, History.onCall (.add m) s.1 s.2) (crowd + 0)
      rw [Multiset.add_zero]
      exact add_inv h m
    | startWorker => exact (startWorker_inv h).leaves
  resume thread retires s crowd h := by
    show Inv ((proceed thread retires s.1).1, History.onProceed thread s.2)
      (crowd + (proceed thread retires s.1).2)
    cases thread with
    | dispatcher =>
      unfold proceed
      cases hq : s.1.operationMessageQueue with
      | nil => exact h.leaves
      | cons m rest => exact (dispatcher_inv h hq).leaves
    | dispatch m => exact (dispatch_inv h).leaves
    | dispatcherSchedules m =>
      have hinv : Inv (s.1.scheduleOperationMessage m, s.2) (.dispatcher ::ₘ crowd) :=
        schedule_inv h (fun _ => rfl) (fun _ => rfl) rfl nofun
      exact hinv.leaves
    | worker =>
      unfold proceed
      cases hp : s.1.operationThreadPool with
      | nil =>
        cases retires with
        | true =>
          show Inv s (crowd + 0)
          rw [Multiset.add_zero]
          exact retire_inv h
        | false => exact h.leaves
      | cons m rest => exact (worker_inv h hp).leaves
    | operation m => exact (operation_inv h).leaves
    | handling m => exact (handling_inv h).leaves
    | done topic => exact done_inv retires h
    | workerSchedules m =>
      have hinv : Inv (s.1.scheduleOperationMessage m, s.2) (.worker ::ₘ crowd) :=
        schedule_inv h (fun _ => rfl) (fun _ => rfl) rfl nofun
      exact hinv.leaves
    | missing topic => exact absurd (Multiset.mem_cons_self _ _) (h.noMissing topic)

theorem initial_inv : Inv (initial δ).shared (initial δ).pending where
  running := rfl
  noMissing topic := by simp [initial]
  topics := by
    refine ⟨none, rfl, fun t => ⟨none, ?_, ?_, fun q hq => ?_, rfl, rfl⟩⟩
    · rfl
    · simp [lane, initial]
    · cases hq

/-! ## At rest -/

/-- The thread waits at an empty queue. -/
def Thread.blocked (s : Handler δ) : Thread δ → Bool
  | .dispatcher => s.operationMessageQueue.isEmpty
  | .worker => s.operationThreadPool.isEmpty
  | _ => false

/-- A step of a thread that does not wait. -/
def Moves (c : Threads (Handler δ × History δ) (Thread δ)) : Action (Call δ) Bool → Prop
  | .call _ _ => False
  | .proceed n _ => ∃ thread, c.pending[n]? = some thread ∧ thread.blocked c.shared.1 = false

/-- What a thread has at most still to do. -/
def Thread.work : Thread δ → Nat
  | .dispatch _ => 8
  | .dispatcherSchedules _ | .workerSchedules _ => 6
  | .operation _ => 4
  | .handling _ => 3
  | .done _ => 2
  | .missing _ => 1
  | .dispatcher | .worker => 0

/-- What is at most still to do with the messages that no thread holds. -/
def Handler.work (s : Handler δ) : Nat :=
  9 * s.operationMessageQueue.length + 7 * s.pendingMessages.total List.length +
    5 * s.operationThreadPool.length

/-- What is at most still to do. -/
def work (c : Threads (Handler δ × History δ) (Thread δ)) : Nat :=
  c.shared.1.work + (c.pending.map Thread.work).sum

theorem sum_work_eraseIdx {l : List (Thread δ)} {n : Nat} (h : l[n]? = some thread) :
    (l.map Thread.work).sum = thread.work + ((l.eraseIdx n).map Thread.work).sum := by
  obtain ⟨hn, rfl⟩ := List.getElem?_eq_some_iff.1 h
  exact ((getElem_cons_eraseIdx_perm hn).symm.map Thread.work).sum_nat

theorem total_pending (pending : OrderedMap String (List (ParsedMessage δ))) (topic : String) :
    pending.total List.length =
      ((pending.find? topic).getD []).length + (pending.erase topic).total List.length := by
  cases h : pending.find? topic with
  | none => rw [total_erase_of_none h, getD_none, length_nil, Nat.zero_add]
  | some q => exact total_of_find? h

theorem dispatchOperationMessage_work (s : Handler δ) (m : ParsedMessage δ) :
    (s.dispatchOperationMessage m).1.work =
      s.work + if (s.dispatchOperationMessage m).2 then 0 else 7 := by
  unfold dispatchOperationMessage
  split
  · have hto := total_pending s.pendingMessages m.topic
    simp [Handler.work, total_insert]
    omega
  · rfl

theorem onOperationMessageDone_work (s : Handler δ) (topic : String) :
    (s.onOperationMessageDone topic).1.work + (match (s.onOperationMessageDone topic).2 with
        | .next _ => 7
        | _ => 0) ≤ s.work := by
  have hto := total_pending s.pendingMessages topic
  unfold onOperationMessageDone
  split
  · exact Nat.le_refl _
  · cases hp : s.pendingMessages.find? topic with
    | none => exact Nat.le_refl _
    | some q =>
      rw [hp, getD_some] at hto
      cases q with
      | nil =>
        simp [Handler.work]
        omega
      | cons m rest =>
        cases rest with
        | nil =>
          simp [Handler.work]
          simp at hto
          omega
        | cons m' rest =>
          simp [Handler.work, total_insert]
          simp at hto
          omega

/-- **A thread that does not wait gets something done.** -/
theorem proceed_work {s : Handler δ} (retires : Bool) (h : thread.blocked s = false) :
    (proceed thread retires s).1.work + ((proceed thread retires s).2.map Thread.work).sum <
      s.work + thread.work := by
  cases thread with
  | dispatcher =>
    unfold proceed
    cases hq : s.operationMessageQueue with
    | nil => simp [blocked, hq] at h
    | cons m rest =>
      simp [Handler.work, Thread.work, hq]
      omega
  | dispatch m =>
    have hw := dispatchOperationMessage_work s m
    simp only [proceed, map_cons, map_nil, sum_cons, sum_nil, Thread.work]
    cases hs : (s.dispatchOperationMessage m).2 with
    | true | false =>
      simp [hs] at hw
      simp [hw]
  | dispatcherSchedules | workerSchedules =>
    simp [proceed, Handler.work, Handler.scheduleOperationMessage, Thread.work]
    omega
  | worker =>
    unfold proceed
    cases hp : s.operationThreadPool with
    | nil => simp [blocked, hp] at h
    | cons m rest =>
      simp [Handler.work, Thread.work, hp]
      omega
  | operation | handling => simp [proceed, Thread.work]
  | done topic =>
    have hw := onOperationMessageDone_work s topic
    simp only [proceed]
    rcases hd : s.onOperationMessageDone topic with ⟨s', completion⟩
    rw [hd] at hw
    cases completion with
    | released | next | missing =>
      simp [Thread.work] at hw ⊢
      omega
  | missing => simp [proceed, Handler.work, Handler.release, Thread.work]

theorem step_work {c : Threads (Handler δ × History δ) (Thread δ)} {a : Action (Call δ) Bool}
    (h : Moves c a) : work ((watched δ).step c a) < work c := by
  cases a with
  | call i k => exact h.elim
  | proceed n retires =>
    obtain ⟨thread, hn, hb⟩ := h
    have hw := proceed_work retires hb
    have hsum := sum_work_eraseIdx hn
    have hst : (watched δ).step c (.proceed n retires) =
        ⟨((proceed thread retires c.shared.1).1, History.onProceed thread c.shared.2),
          c.pending.eraseIdx n ++ (proceed thread retires c.shared.1).2⟩ := by
      simp only [Program.step, hn]
      rfl
    rw [hst, work, work, map_append, sum_append, hsum]
    dsimp only
    omega

/-! ## The messages of one topic -/

/-- What holds of one topic. -/
structure Orderly (c : Threads (Handler δ × History δ) (Thread δ)) (t : String) : Prop where
  -- the handlers were called in the order of arrival, each for one message at a time
  order : c.shared.2.log.filter (·.message.topic = t) <+:
    oneByOne (c.shared.2.arrived.filter (·.topic = t))
  -- one message at most is scheduled or running, and then the topic is in flight
  atMostOne : (underWay c.shared.1.operationThreadPool c.pending t).card ≤ 1
  inFlight : t ∈ c.shared.1.inFlight ↔
    (underWay c.shared.1.operationThreadPool c.pending t).card = 1
  pending : c.shared.1.pendingMessages.contains t = true → t ∈ c.shared.1.inFlight
  -- no worker finds that the next message is missing
  noMissing : .missing t ∉ c.pending
  -- once all threads wait, and there is a worker, everything was handled
  handled : .worker ∈ c.pending → (∀ thread ∈ c.pending, thread.blocked c.shared.1 = true) →
    c.shared.2.log.filter (·.message.topic = t) = oneByOne (c.shared.2.arrived.filter (·.topic = t))

theorem oneByOne_append (ms ms' : List (ParsedMessage δ)) :
    oneByOne (ms ++ ms') = oneByOne ms ++ oneByOne ms' :=
  flatMap_append

theorem Lane.At.order {l : Lane δ} {now : Option (Stage δ)} (h : l.At now) :
    l.log <+: oneByOne l.arrived := by
  have hlog := h.log
  rw [h.arrived]
  simp only [append_assoc]
  rw [oneByOne_append]
  cases now with
  | none =>
    rw [hlog, elim_none, map_nil, append_nil]
    exact prefix_append _ _
  | some x =>
    cases x with
    | handling m =>
      rw [hlog, elim_some, elim_some]
      exact (prefix_append_right_inj _).2 ⟨.finished m :: _, rfl⟩
    | scheduled | done =>
      rw [hlog, elim_some, Stage.running, map_nil, append_nil]
      exact prefix_append _ _

theorem Lane.At.handled_all {l : Lane δ} {now : Option (Stage δ)} (h : l.At now)
    (hno : l.underWay = 0) (hd : l.dispatched = none) (hqu : l.queue = []) :
    l.log = oneByOne l.arrived := by
  have hnow : now = none := by
    cases now with
    | none => rfl
    | some x => exact absurd (h.underWay.symm.trans hno) (Multiset.singleton_ne_zero x)
  subst hnow
  have hp : l.pending = none := by
    rw [eq_none_iff_forall_not_mem]
    intro q hq
    cases (h.pending q hq).2
  have ha : l.arrived = l.handled := by
    rw [h.arrived, hp, hd, hqu]
    simp
  rw [ha]
  exact h.log.trans (append_nil _)

theorem stage_of_blocked {s : Handler δ} (h : thread.blocked s) (t : String) :
    thread.stage t = none := by
  cases thread with
  | dispatcher | worker => rfl
  | _ => cases h

theorem Inv.orderly {c : Threads (Handler δ × History δ) (Thread δ)}
    (h : Inv c.shared c.pending) (t : String) : Orderly c t := by
  obtain ⟨d, hd, hl⟩ := h.topics
  obtain ⟨now, hnow⟩ := hl t
  have hca : (underWay c.shared.1.operationThreadPool c.pending t).card =
      if now.isSome then 1 else 0 := by
    refine (congrArg Multiset.card hnow.underWay).trans ?_
    cases now with
    | none | some => rfl
  have hf : t ∈ c.shared.1.inFlight ↔ now.isSome := by
    rw [← hnow.inFlight]
    exact decide_eq_true_iff.symm
  refine ⟨hnow.order, ?_, ?_, fun hcon => ?_, h.noMissing t, fun hw hb => ?_⟩
  · rw [hca]
    split
    · exact Nat.le_refl 1
    · exact Nat.zero_le 1
  · rw [hca, hf]
    cases now with
    | none | some => simp
  · obtain ⟨q, hq⟩ := isSome_iff_exists.1 hcon
    exact hf.2 (hnow.pending q hq).2
  · have hp : c.shared.1.operationThreadPool = [] := isEmpty_iff.1 (hb _ hw)
    have hu : underWay c.shared.1.operationThreadPool c.pending t = 0 := by
      have hno : c.pending.filterMap (stage t) = [] :=
        filterMap_eq_nil_iff.2 fun thread hmem => stage_of_blocked (hb thread hmem) t
      rw [underWay, hp, Multiset.filterMap_coe, hno]
      rfl
    -- the dispatcher waits, so it has taken nothing and its queue is empty
    have hmem : d ∈ (c.pending : Multiset (Thread δ)).filterMap dispatching := by
      rw [hd]
      exact Multiset.mem_singleton_self d
    obtain ⟨thread, ht, hdis⟩ := (Multiset.mem_filterMap _ _).1 hmem
    have hwa := hb thread (Multiset.mem_coe.1 ht)
    cases thread with
    | dispatcher =>
      cases hdis
      refine hnow.handled_all hu rfl ?_
      show c.shared.1.operationMessageQueue.filter _ = []
      rw [isEmpty_iff.1 hwa]
      rfl
    | worker => cases hdis
    | _ => cases hwa

/-- **The messages of one topic are handled one at a time, in order and exactly once**, in every
interleaving of the callers of `add`, the dispatcher and any number of workers; and the threads come
to rest when nothing more arrives. -/
theorem handled_in_order (actions : List (Action (Call δ) Bool)) :
    (∀ t, Orderly (run (watched δ).step (initial δ) actions) t) ∧
      ∀ moves, Along (watched δ).step Moves (run (watched δ).step (initial δ) actions) moves →
        moves.length ≤ work (run (watched δ).step (initial δ) actions) := by
  refine ⟨fun t => ?_, fun moves h => ?_⟩
  · exact Inv.orderly (Program.run_crowd keepsCrowd_inv actions initial_inv) t
  · exact length_le_of_descends (fun c a => step_work) moves h

end EverestCore.Framework

import EverestCore.Lib.PrioritySweep
import Mathlib.Algebra.Order.BigOperators.Group.List
import Mathlib.Data.List.Chain

/-!
# Step functions given by their periods

A list of periods with ascending starts stands for a function of time, the period in force
(`PrioritySweep.lastAt`). Two operations on such lists:

* `push`, `merge`: a period is left out where it compares equal to the last one that was kept.
* `sweep`: the breakpoints of several lists, with the periods in force of all of them. The cursors
  that come to the next breakpoint move on together, and `sentinel` stands for no further one.

Results:
* `lastAt_merge`: in force after merging is what is kept for the period in force before, which is
  this period or one that it compares equal to.
* `merge_lossless_iff`: exactly when merging does not change a value of the period in force.
* `sweep_spec`: with as many rounds as there are periods the sweep comes to its end, and the
  periods at each instant are those of all lists.
-/

namespace EverestCore.Lib.StepFunction

open List

open PrioritySweep (lastAt lastAt_cons lastAt_eq_none lastAt_cons_of_lt lastAt_cons_of_le lastAt_map
  Timeline)

variable {P : Type} {start : P → Int} {l : List P}

theorem lastAt_start (hl : l.Pairwise (start · < start ·)) {p : P} (hp : p ∈ l) :
    lastAt start l (start p) = some p := by
  induction l with
  | nil => exact absurd hp not_mem_nil
  | cons a l ih =>
    obtain ⟨ha, hl⟩ := pairwise_cons.mp hl
    rcases mem_cons.mp hp with rfl | hp
    · exact lastAt_cons_of_lt le_rfl ha
    · exact lastAt_cons_of_le (ih hl hp)

/-! ## Merging -/

section Merge

variable (same : P → P → Bool)

/-- A period is added unless it compares equal to the last one. -/
def push (out : List P) (p : P) : List P :=
  if out.getLast?.any (same p) then out else out ++ [p]

/-- What is kept for a period, if `e` was kept last. -/
def keep (e : Option P) (p : P) : P := (e.filter (same p)).getD p

/-- What is kept of a list, if `e` was kept before it. -/
def mergeFrom (e : Option P) : List P → List P
  | [] => []
  | p :: l => (if e.any (same p) then [] else [p]) ++ mergeFrom (some (keep same e p)) l

/-- What is kept of a list. -/
abbrev merge : List P → List P := mergeFrom same none

/-- Each period after the one that is kept for it. -/
def traceFrom (e : Option P) : List P → List (P × P)
  | [] => []
  | p :: l => (keep same e p, p) :: traceFrom (some (keep same e p)) l

abbrev trace : List P → List (P × P) := traceFrom same none

variable {same} {e : Option P} {p : P}

theorem some_keep (h : e.any (same p)) : some (keep same e p) = e := by
  obtain ⟨q, rfl, hq⟩ := (Option.any_eq_true _ _).1 h
  simp [keep, Option.filter, hq]

theorem keep_of_not (h : ¬ e.any (same p)) : keep same e p = p := by
  cases e <;> simp_all [keep, Option.filter]

theorem foldl_push_append (out l : List P) :
    l.foldl (push same) out = out ++ mergeFrom same out.getLast? l := by
  induction l generalizing out with
  | nil => exact (append_nil out).symm
  | cons p l ih =>
    rw [foldl_cons, ih, push, mergeFrom]
    by_cases h : out.getLast?.any (same p)
    · rw [if_pos h, if_pos h, some_keep h]
      rfl
    · rw [if_neg h, if_neg h, keep_of_not h, List.getLast?_concat, append_assoc]

variable (l : List P)

theorem foldl_push : l.foldl (push same) [] = merge same l := foldl_push_append [] l

theorem mergeFrom_sublist (e : Option P) (l : List P) : (mergeFrom same e l).Sublist l := by
  induction l generalizing e with
  | nil => exact .slnil
  | cons p l ih =>
    rw [mergeFrom]
    split
    · exact (ih _).cons p
    · exact (ih _).cons_cons p

theorem merge_sublist : (merge same l).Sublist l := mergeFrom_sublist none l

theorem head?_merge : (merge same l).head? = l.head? := by
  cases l <;> rfl

theorem map_snd_trace (same : P → P → Bool) (e : Option P) (l : List P) :
    (traceFrom same e l).map Prod.snd = l := by
  induction l generalizing e with
  | nil => rfl
  | cons p l ih => rw [traceFrom, map_cons, ih]

/-- Kept for a period is the period itself or one that it compares equal to. -/
theorem trace_same (e : Option P) (l : List P) :
    ∀ x ∈ traceFrom same e l, x.1 = x.2 ∨ same x.2 x.1 := by
  induction l generalizing e with
  | nil => exact forall_mem_nil _
  | cons p l ih =>
    refine forall_mem_cons.mpr ⟨?_, ih _⟩
    by_cases h : e.any (same p)
    · rw [← some_keep h] at h
      exact .inr h
    · exact .inl (keep_of_not h)

/-- In force after merging is what is kept for the period in force. -/
theorem lastAt_mergeFrom {l : List P} (hl : l.Pairwise (start · < start ·)) (e : Option P)
    (t : Int) : (lastAt start (mergeFrom same e l) t).or e =
      ((lastAt (start ∘ Prod.snd) (traceFrom same e l) t).map Prod.fst).or e := by
  induction l generalizing e with
  | nil => rfl
  | cons p l ih =>
    obtain ⟨hp, hl⟩ := pairwise_cons.mp hl
    have ih := ih hl (some (keep same e p))
    rw [mergeFrom, traceFrom, lastAt_cons]
    by_cases h : e.any (same p)
    · rw [if_pos h, nil_append]
      rw [some_keep h] at ih ⊢
      rw [ih]
      cases lastAt (start ∘ Prod.snd) (traceFrom same e l) t with
      | some x => rfl
      | none => by_cases hpt : start p ≤ t <;> simp [hpt, some_keep h]
    · rw [if_neg h, singleton_append, lastAt_cons]
      rw [keep_of_not h] at ih ⊢
      by_cases hpt : start p ≤ t
      · simp only [Function.comp, hpt, if_true, ih]
        cases lastAt (start ∘ Prod.snd) (traceFrom same (some p) l) t <;> rfl
      · -- before `p` nothing of what follows is in force
        have ha : ∀ b ∈ l, t < start b := fun b hb => (not_le.mp hpt).trans (hp b hb)
        have hx : ∀ x ∈ traceFrom same (some p) l, t < (start ∘ Prod.snd) x := fun x hx =>
          ha x.2 (map_snd_trace same (some p) l ▸ mem_map_of_mem hx)
        rw [lastAt_eq_none fun b hb => ha b ((mergeFrom_sublist _ l).subset hb), lastAt_eq_none hx]
        simp [hpt]

/-- **In force after merging is what is kept for the period in force.** -/
theorem lastAt_merge {l : List P} (hl : l.Pairwise (start · < start ·)) (t : Int) :
    lastAt start (merge same l) t = (lastAt (start ∘ Prod.snd) (trace same l) t).map Prod.fst := by
  simpa using lastAt_mergeFrom hl none t

theorem lastAt_trace (same : P → P → Bool) (l : List P) (t : Int) :
    (lastAt (start ∘ Prod.snd) (trace same l) t).map Prod.snd = lastAt start l t := by
  have h : lastAt start ((trace same l).map Prod.snd) t = _ :=
    lastAt_map (k := start ∘ Prod.snd) fun _ _ => Iff.rfl
  rw [← h, map_snd_trace]

/-- The period in force after merging is the one in force before, or one it compares equal to. -/
theorem exists_lastAt_merge {l : List P} (hl : l.Pairwise (start · < start ·)) {t : Int} {p : P}
    (hp : lastAt start l t = some p) :
    ∃ q, lastAt start (merge same l) t = some q ∧ (q = p ∨ same p q) := by
  rw [← lastAt_trace same] at hp
  obtain ⟨x, hx, rfl⟩ := Option.map_eq_some_iff.mp hp
  refine ⟨x.1, by rw [lastAt_merge hl, hx]; rfl, trace_same none l x ?_⟩
  exact mem_of_mem_filter (mem_of_getLast? hx)

section Lossless

variable {V : Type} {val : P → V}

/-- Merging keeps the value of every period iff no two neighbours compare equal that differ in it:
what is kept for a period and the period before compare in the same way. -/
theorem trace_lossless_iff (hs : ∀ q p e, val e = val p → same q e = same q p)
    {e p : P} (he : val e = val p) (l : List P) :
    (∀ x ∈ traceFrom same (some e) l, val x.1 = val x.2) ↔
      (p :: l).IsChain fun p q => same q p → val q = val p := by
  induction l generalizing e p with
  | nil => simp [traceFrom]
  | cons q l ih =>
    rw [traceFrom, isChain_cons_cons, ← hs q p e he, forall_mem_cons]
    by_cases h : same q e
    · rw [show keep same (some e) q = e from Option.some.inj (some_keep h)]
      constructor
      · rintro ⟨heq, hall⟩
        exact ⟨fun _ => heq.symm.trans he, (ih heq).mp hall⟩
      · rintro ⟨hval, hc⟩
        have heq : val e = val q := he.trans (hval h).symm
        exact ⟨heq, (ih heq).mpr hc⟩
    · rw [keep_of_not (by simpa using h)]
      constructor
      · rintro ⟨-, hall⟩
        exact ⟨fun hs => absurd hs h, (ih rfl).mp hall⟩
      · rintro ⟨-, hc⟩
        exact ⟨rfl, (ih rfl).mpr hc⟩

/-- **Merging does not change a value of the period in force iff no two neighbours that compare
equal differ in it.** -/
theorem merge_lossless_iff (hsa : ∀ q p e, val e = val p → same q e = same q p) {l : List P}
    (hl : l.Pairwise (start · < start ·)) :
    (∀ t, (lastAt start (merge same l) t).map val = (lastAt start l t).map val) ↔
      l.IsChain fun p q => same q p → val q = val p := by
  have ht : (∀ x ∈ trace same l, val x.1 = val x.2) ↔
      l.IsChain fun p q => same q p → val q = val p := by
    cases l with
    | nil => simp [traceFrom]
    | cons p l =>
      rw [trace, traceFrom, forall_mem_cons, ← trace_lossless_iff hsa rfl l]
      exact and_iff_right rfl
  rw [← ht]
  have hs : (trace same l).Pairwise fun x y => start x.2 < start y.2 := by
    rw [← map_snd_trace same none l, pairwise_map] at hl
    exact hl
  constructor
  · intro h x hx
    have hla : lastAt (start ∘ Prod.snd) (trace same l) (start x.2) = some x :=
      lastAt_start hs hx
    have heq := h (start x.2)
    rw [lastAt_merge hl, ← lastAt_trace same l, hla] at heq
    exact Option.some.inj heq
  · intro h t
    rw [lastAt_merge hl, ← lastAt_trace same l]
    cases hx : lastAt (start ∘ Prod.snd) (trace same l) t with
    | none => rfl
    | some x => exact congrArg some (h x (mem_of_mem_filter (mem_of_getLast? hx)))

end Lossless

end Merge

/-! ## Sweeping over several lists -/

section Sweep

variable (start) (sentinel : Int)

/-- The start that comes next in a list, if it is after `current` and before `lowest`. -/
def lower (current lowest : Int) : List P → Int
  | [] => lowest
  | n :: _ => if current < start n ∧ start n < lowest then start n else lowest

/-- The next breakpoint after `current`, or `sentinel`. A cursor is a period and the rest of its
list. -/
def nextLowest (current lowest : Int) (its : List (P × List P)) : Int :=
  its.foldl (fun lowest it => lower start current lowest it.2) lowest

/-- A cursor whose next period starts at the breakpoint moves on to it. -/
def advance (next : Int) (it : P × List P) : P × List P :=
  match it.2 with
  | [] => it
  | n :: ns => if start n = next then (n, ns) else it

/-- The breakpoints from `current` on, with the periods of all cursors; none if there are more
than the given number of rounds. -/
def sweep : Nat → Int → List (P × List P) → Option (List (Int × List P))
  | 0, _, _ => none
  | n + 1, current, its =>
    if nextLowest start current sentinel its = sentinel then some [(current, its.map Prod.fst)]
    else
      (sweep n (nextLowest start current sentinel its)
        (its.map (advance start (nextLowest start current sentinel its)))).map
          ((current, its.map Prod.fst) :: ·)

/-- The periods in force of all lists. -/
def inForce (lists : List (List P)) (t : Int) : List P := lists.filterMap (lastAt start · t)

/-- The cursor stands at the period in force at `current`. -/
structure Reading (current : Int) (list : List P) (it : P × List P) : Prop where
  split : ∃ before, list = before ++ it.1 :: it.2
  sorted : list.Pairwise (start · < start ·)
  bounded : ∀ p ∈ list, start p < sentinel
  begun : start it.1 ≤ current
  ahead : ∀ b ∈ it.2, current < start b

variable {start sentinel}
  {current : Int} {lists : List (List P)} {its : List (P × List P)} {next : Int}

theorem nextLowest_spec (its : List (P × List P)) (lowest : Int) :
    (nextLowest start current lowest its = lowest ∨
      ∃ it ∈ its, ∃ n ns, it.2 = n :: ns ∧ start n = nextLowest start current lowest its ∧
        current < start n) ∧
    nextLowest start current lowest its ≤ lowest ∧
    ∀ it ∈ its, ∀ n ns, it.2 = n :: ns → current < start n →
      nextLowest start current lowest its ≤ start n := by
  induction its generalizing lowest with
  | nil => exact ⟨.inl rfl, le_rfl, forall_mem_nil _⟩
  | cons it its ih =>
    obtain ⟨hf, hle, hmin⟩ := ih (lower start current lowest it.2)
    have hlo : lower start current lowest it.2 ≤ lowest ∧
        (lower start current lowest it.2 = lowest ∨ ∃ n ns, it.2 = n :: ns ∧
          start n = lower start current lowest it.2 ∧ current < start n) ∧
        ∀ n ns, it.2 = n :: ns → current < start n → lower start current lowest it.2 ≤ start n := by
      cases it.2 with
      | nil => exact ⟨le_rfl, .inl rfl, nofun⟩
      | cons n ns =>
        rw [lower]
        split_ifs with h
        · refine ⟨h.2.le, .inr ⟨n, ns, rfl, rfl, h.1⟩, ?_⟩
          rintro m ms ⟨⟩ _
          exact le_rfl
        · refine ⟨le_rfl, .inl rfl, ?_⟩
          rintro m ms ⟨⟩ hm
          exact not_lt.mp fun hlt => h ⟨hm, hlt⟩
    refine ⟨?_, hle.trans hlo.1, forall_mem_cons.mpr ⟨?_, hmin⟩⟩
    · rcases hf with heq | ⟨it', hit', hr⟩
      · rcases hlo.2.1 with hl | ⟨n, ns, hn, hst, hlt⟩
        · exact .inl (heq.trans hl)
        · exact .inr ⟨it, mem_cons_self, n, ns, hn, hst.trans heq.symm, hlt⟩
      · exact .inr ⟨it', mem_cons_of_mem _ hit', hr⟩
    · exact fun n ns hn hlt => hle.trans (hlo.2.2 n ns hn hlt)

theorem lastAt_append {l m : List P} {t : Int} {b : P} (h : lastAt start m t = some b) :
    lastAt start (l ++ m) t = some b := by
  induction l with
  | nil => exact h
  | cons a l ih => exact lastAt_cons_of_le ih

namespace Reading

variable {current t next : Int} {list : List P} {it : P × List P}

section

variable (h : Reading start sentinel current list it)

include h

theorem lastAt_eq (ht : current ≤ t)
    (hne : ∀ b ∈ it.2, t < start b) : lastAt start list t = some it.1 := by
  obtain ⟨before, hs⟩ := h.split
  rw [hs]
  exact lastAt_append (lastAt_cons_of_lt (h.begun.trans ht) hne)

theorem rest_sorted : it.2.Pairwise (start · < start ·) := by
  obtain ⟨before, hsp⟩ := h.split
  have hs := h.sorted
  rw [hsp] at hs
  exact (pairwise_cons.mp (pairwise_append.mp hs).2.1).2

/-- At the next breakpoint of all lists the moved cursor stands at the period in force. -/
theorem advance (hlt : current < next) (hmin : ∀ n ns, it.2 = n :: ns → next ≤ start n) :
    Reading start sentinel next list (StepFunction.advance start next it) := by
  obtain ⟨front, rest⟩ := it
  have hr := h.rest_sorted
  cases rest with
  | nil => exact ⟨h.split, h.sorted, h.bounded, h.begun.trans hlt.le, forall_mem_nil _⟩
  | cons n ns =>
    obtain ⟨hn, -⟩ := pairwise_cons.mp hr
    unfold StepFunction.advance
    by_cases heq : start n = next
    · simp only [heq, if_true]
      obtain ⟨before, hs⟩ := h.split
      refine ⟨⟨before ++ [front], by rw [hs]; simp⟩, h.sorted, h.bounded, heq.le, ?_⟩
      exact fun b hb => heq ▸ hn b hb
    · simp only [heq, if_false]
      have hne : next < start n := lt_of_le_of_ne (hmin n ns rfl) (Ne.symm heq)
      refine ⟨h.split, h.sorted, h.bounded, h.begun.trans hlt.le, ?_⟩
      exact forall_mem_cons.mpr ⟨hne, fun b hb => hne.trans (hn b hb)⟩

end

end Reading

section

variable (h : List.Forall₂ (Reading start sentinel current) lists its)

include h

/-- Until the next period of any list the cursors' periods are those in force. -/
theorem inForce_eq {t : Int} (ht : current ≤ t) (hne : ∀ it ∈ its, ∀ b ∈ it.2, t < start b) :
    inForce start lists t = its.map Prod.fst := by
  induction h with
  | nil => rfl
  | cons hit _ ih =>
    obtain ⟨hh, hta⟩ := forall_mem_cons.mp hne
    rw [inForce, filterMap_cons, hit.lastAt_eq ht hh, map_cons]
    exact congrArg _ (ih hta)

theorem forall₂_advance
    (hlt : current < next) (hmin : ∀ it ∈ its, ∀ n ns, it.2 = n :: ns → next ≤ start n) :
    List.Forall₂ (Reading start sentinel next) lists (its.map (advance start next)) := by
  induction h with
  | nil => exact .nil
  | cons hit _ ih =>
    obtain ⟨hh, ht⟩ := forall_mem_cons.mp hmin
    exact .cons (hit.advance hlt hh) (ih ht)

/-- What a cursor has before it is ordered, after `current` and before the sentinel. -/
theorem ahead_of_mem :
    ∀ it ∈ its, it.2.Pairwise (start · < start ·) ∧
      ∀ b ∈ it.2, current < start b ∧ start b < sentinel := by
  induction h with
  | nil => exact forall_mem_nil _
  | cons hit _ ih =>
    refine forall_mem_cons.mpr ⟨⟨hit.rest_sorted, fun b hb => ⟨hit.ahead b hb, ?_⟩⟩, ih⟩
    refine hit.bounded b ?_
    obtain ⟨before, hs⟩ := hit.split
    rw [hs]
    exact mem_append_right _ (mem_cons_of_mem _ hb)

end

/-- The periods that the cursors have before them. -/
def remaining (its : List (P × List P)) : Nat := (its.map (·.2.length)).sum

theorem length_advance_le (next : Int) (it : P × List P) :
    (advance start next it).2.length ≤ it.2.length := by
  obtain ⟨front, rest⟩ := it
  cases rest with
  | nil => exact le_rfl
  | cons n ns =>
    unfold advance
    by_cases h : start n = next <;> simp [h]

theorem remaining_advance_lt {it : P × List P} (hit : it ∈ its) {n : P} {ns : List P}
    (hn : it.2 = n :: ns) (hst : start n = next) :
    remaining (its.map (advance start next)) < remaining its := by
  rw [remaining, map_map]
  refine sum_lt_sum _ _ (fun it _ => length_advance_le next it) ⟨it, hit, ?_⟩
  simp only [Function.comp, advance, hn, hst, if_true, length_cons]
  exact Nat.lt_succ_self _

/-- **The sweep gives the breakpoints of all lists**, with one round more than the periods that
the cursors have before them. -/
theorem sweep_spec {fuel : Nat} (h : List.Forall₂ (Reading start sentinel current) lists its)
    (hfu : remaining its < fuel) :
    ∃ segs, sweep start sentinel fuel current its = some segs ∧
      Timeline (fun _ => True) (inForce start lists) current segs := by
  induction fuel generalizing current its with
  | zero => exact absurd hfu (Nat.not_lt_zero _)
  | succ fuel ih =>
    have ha := ahead_of_mem h
    obtain ⟨hf, hle, hlow⟩ : _ ∧ _ ∧ _ := nextLowest_spec its sentinel
    generalize hne : nextLowest start current sentinel its = next at hf hle hlow
    have hmin : ∀ it ∈ its, ∀ n ns, it.2 = n :: ns → next ≤ start n := by
      intro it hit n ns hn
      exact hlow it hit n ns hn ((ha it hit).2 n (hn ▸ mem_cons_self)).1
    by_cases hend : next = sentinel
    · -- no list has a further period, as all of them start before the sentinel
      have hd : ∀ it ∈ its, it.2 = [] := by
        intro it hit
        cases hr : it.2 with
        | nil => rfl
        | cons n ns =>
          have hn := ((ha it hit).2 n (hr ▸ mem_cons_self)).2
          exact absurd (hmin it hit n ns hr) (not_le.mpr (hend ▸ hn))
      refine ⟨_, by rw [sweep, hne, if_pos hend], .single fun t ht _ => ?_⟩
      refine inForce_eq h ht fun it hit b hb => ?_
      exact absurd (hd it hit ▸ hb) not_mem_nil
    · obtain ⟨it, hit, n, ns, hn, hst, hlt⟩ := hf.resolve_left hend
      rw [hst] at hlt
      have hl := remaining_advance_lt hit hn hst
      obtain ⟨segs, hse, hbre⟩ := ih (forall₂_advance h hlt hmin) (by omega)
      refine ⟨_, by rw [sweep, hne, if_neg hend, hse]; rfl, hbre.cons hlt ?_⟩
      intro t ht htn
      refine inForce_eq h ht fun it' hit' b hb => htn.trans_le ?_
      obtain ⟨m, ms, hm⟩ := exists_cons_of_ne_nil (ne_nil_of_mem hb)
      have hs := (ha it' hit').1
      rw [hm] at hb hs
      rcases mem_cons.mp hb with rfl | hb
      · exact hmin it' hit' b ms hm
      · exact (hmin it' hit' m ms hm).trans ((pairwise_cons.mp hs).1 b hb).le

theorem sweep_mono {n m : Nat} {segs : List (Int × List P)}
    (h : sweep start sentinel n current its = some segs) (hle : n ≤ m) :
    sweep start sentinel m current its = some segs := by
  induction n generalizing m current its segs with
  | zero => cases h
  | succ n ih =>
    obtain ⟨m, rfl⟩ : ∃ k, m = k + 1 := ⟨m - 1, by omega⟩
    rw [sweep] at h ⊢
    by_cases hend : nextLowest start current sentinel its = sentinel
    · rwa [if_pos hend] at h ⊢
    · rw [if_neg hend] at h ⊢
      obtain ⟨rest, hr, rfl⟩ := Option.map_eq_some_iff.mp h
      rw [ih hr (by omega)]
      rfl

end Sweep

end EverestCore.Lib.StepFunction

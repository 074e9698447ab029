import Mathlib.Data.List.Basic

/-!
# Machines and threads over a shared state

A machine answers inputs one after another by changing its state. Threads share a state that a
mutex protects: each thread runs one critical section at a time and leaves the rest of its work
as a continuation, and between two sections of one thread any other thread may run. A
configuration is the shared state with the continuations of all threads under way, so a run of a
`Program` is an arbitrary interleaving of critical sections.

Results:
* **`Program.run_invariant`**: what every critical section keeps holds in every interleaving.
-/

namespace EverestCore.Lib.Machine

variable {σ ι κ τ : Type}

/-- The state after the inputs `is`. -/
def run (step : σ → ι → σ) (s : σ) (is : List ι) : σ := is.foldl step s

@[simp] theorem run_nil (step : σ → ι → σ) (s : σ) : run step s [] = s := rfl

@[simp] theorem run_cons (step : σ → ι → σ) (s : σ) (i : ι) (is : List ι) :
    run step s (i :: is) = run step (step s i) is := rfl

theorem run_concat (step : σ → ι → σ) (s : σ) (is : List ι) (i : ι) :
    run step s (is ++ [i]) = step (run step s is) i := by
  simp [run]

variable {I : σ → Prop}

theorem run_invariant {step : σ → ι → σ} (hst : ∀ s i, I s → I (step s i)) :
    ∀ (is : List ι) {s : σ}, I s → I (run step s is)
  | [], _, h => h
  | i :: is, _, h => run_invariant hst is (hst _ i h)

/-- Every step of the run on `is` from `s` meets `P`. -/
def Along (step : σ → ι → σ) (P : σ → ι → Prop) (s : σ) : List ι → Prop
  | [] => True
  | i :: is => P s i ∧ Along step P (step s i) is

instance Along.decidable (step : σ → ι → σ) (P : σ → ι → Prop) [∀ s i, Decidable (P s i)] :
    ∀ (is : List ι) (s : σ), Decidable (Along step P s is)
  | [], _ => .isTrue trivial
  | i :: is, s => @instDecidableAnd _ _ _ (Along.decidable step P is (step s i))

variable {P : σ → ι → Prop}

theorem along_concat {step : σ → ι → σ} {i : ι} :
    ∀ {is : List ι} {s : σ}, Along step P s (is ++ [i]) ↔ Along step P s is ∧ P (run step s is) i
  | [], _ => ⟨fun h => ⟨trivial, h.1⟩, fun h => ⟨h.2, trivial⟩⟩
  | _ :: _, _ => by
    simp only [List.cons_append, Along, along_concat, run_cons, and_assoc]

/-- What every step that meets `P` keeps holds after every run whose steps meet `P`. -/
theorem run_invariant_along {step : σ → ι → σ} (hst : ∀ s i, P s i → I s → I (step s i)) :
    ∀ (is : List ι) {s : σ}, Along step P s is → I s → I (run step s is)
  | [], _, _, h => h
  | i :: is, _, hP, h => run_invariant_along hst is hP.2 (hst _ i hP.1 h)

/-- A second machine watches the inputs. What every step keeps that the watcher allows holds after
every run that the watcher allows. -/
theorem run_watched {τ : Type} {step : σ → ι → σ} {watch : τ → ι → τ} {allows : τ → ι → Prop}
    {R : σ → τ → Prop} (hst : ∀ s t i, allows t i → R s t → R (step s i) (watch t i)) :
    ∀ (is : List ι) {s : σ} {t : τ}, Along watch allows t is → R s t →
      R (run step s is) (run watch t is)
  | [], _, _, _, h => h
  | i :: is, _, _, hP, h => run_watched hst is hP.2 (hst _ _ i hP.1 h)

/-- Where an invariant turns the condition `P` into `Q`, the runs that meet `P` meet `Q`. -/
theorem along_of_invariant {step : σ → ι → σ} {Q : σ → ι → Prop}
    (hst : ∀ s i, P s i → I s → Q s i ∧ I (step s i)) :
    ∀ (is : List ι) {s : σ}, Along step P s is → I s → Along step Q s is
  | [], _, _, _ => trivial
  | i :: is, _, hP, h =>
    have hi := hst _ i hP.1 h
    ⟨hi.1, along_of_invariant hst is hP.2 hi.2⟩

/-! ## Conditional commands -/

/-- `if (b) f`. -/
def onlyIf (b : Prop) [Decidable b] (f : σ → σ) (s : σ) : σ := if b then f s else s

theorem onlyIf_pos {b : Prop} [Decidable b] (h : b) (f : σ → σ) (s : σ) : onlyIf b f s = f s :=
  if_pos h

theorem onlyIf_neg {b : Prop} [Decidable b] (h : ¬ b) (f : σ → σ) (s : σ) : onlyIf b f s = s :=
  if_neg h

theorem onlyIf_frame {p : σ → τ} (b : Prop) [Decidable b] {f : σ → σ} {s : σ}
    (hf : p (f s) = p s) : p (onlyIf b f s) = p s := by
  unfold onlyIf
  split
  · exact hf
  · rfl

/-! ## Threads -/

/-- Threads over the shared state `σ`: calls `ι`, readings of the environment `κ` and
continuations `τ`. -/
structure Program (σ ι κ τ : Type) where
  start : ι → κ → σ → σ × List τ
  resume : τ → κ → σ → σ × List τ

/-- The scheduler lets a new call run its first section, or the `n`-th thread its next one. -/
inductive Action (ι κ : Type)
  | call (i : ι) (k : κ)
  | proceed (n : Nat) (k : κ)

/-- The shared state and what the threads under way have still to do. -/
structure Threads (σ τ : Type) where
  shared : σ
  pending : List τ

namespace Program

variable (p : Program σ ι κ τ)

/-- One action of the scheduler; there may be no thread number `n`. -/
def step (c : Threads σ τ) : Action ι κ → Threads σ τ
  | .call i k =>
    let (s, ts) := p.start i k c.shared
    ⟨s, c.pending ++ ts⟩
  | .proceed n k =>
    match c.pending[n]? with
    | none => c
    | some t =>
      let (s, ts) := p.resume t k c.shared
      ⟨s, c.pending.eraseIdx n ++ ts⟩

/-- Every critical section keeps `I`. -/
structure Keeps (I : σ → Prop) : Prop where
  start : ∀ i k s, I s → I (p.start i k s).1
  resume : ∀ t k s, I s → I (p.resume t k s).1

variable {p} {I : σ → Prop}

theorem step_invariant (h : p.Keeps I) (c : Threads σ τ) (a : Action ι κ)
    (hc : I c.shared) : I (p.step c a).shared := by
  cases a with
  | call i k => exact h.start i k _ hc
  | proceed n k =>
    simp only [step]
    split
    · exact hc
    · exact h.resume _ k _ hc

variable {c : Threads σ τ}

/-- **What every critical section keeps holds in every interleaving of the threads.** -/
theorem run_invariant (h : p.Keeps I) (as : List (Action ι κ))
    (hc : I c.shared) : I (run p.step c as).shared :=
  Machine.run_invariant (I := fun c => I c.shared) (fun c a => step_invariant h c a) as hc

/-! ## Conditions on the sections -/

/-- A condition on the sections, read as one on the actions of the scheduler. -/
def Guard (onStart : ι → κ → σ → Prop) (onResume : τ → κ → σ → Prop) (c : Threads σ τ) :
    Action ι κ → Prop
  | .call i k => onStart i k c.shared
  | .proceed n k =>
    match c.pending[n]? with
    | none => True
    | some t => onResume t k c.shared

instance Guard.decidable (onStart : ι → κ → σ → Prop) (onResume : τ → κ → σ → Prop)
    [∀ i k s, Decidable (onStart i k s)] [∀ t k s, Decidable (onResume t k s)] (c : Threads σ τ) :
    (a : Action ι κ) → Decidable (Guard onStart onResume c a)
  | .call i k => inferInstanceAs (Decidable (onStart i k c.shared))
  | .proceed n k =>
    match h : c.pending[n]? with
    | none => .isTrue (by simp only [Guard, h])
    | some t => decidable_of_iff (onResume t k c.shared) (by simp only [Guard, h])

variable {onStart : ι → κ → σ → Prop} {onResume : τ → κ → σ → Prop}

theorem step_invariant_guarded (hst : ∀ i k s, onStart i k s → I s → I (p.start i k s).1)
    (hres : ∀ t k s, onResume t k s → I s → I (p.resume t k s).1) (c : Threads σ τ)
    (a : Action ι κ) (ha : Guard onStart onResume c a) (hc : I c.shared) :
    I (p.step c a).shared := by
  cases a with
  | call i k => exact hst i k _ ha hc
  | proceed n k =>
    simp only [step]
    cases hn : c.pending[n]? with
    | none => exact hc
    | some t =>
      simp only [Guard, hn] at ha
      exact hres t k _ ha hc

/-- What every section that meets the condition keeps holds in every interleaving whose sections
meet it. -/
theorem run_invariant_guarded (hst : ∀ i k s, onStart i k s → I s → I (p.start i k s).1)
    (hres : ∀ t k s, onResume t k s → I s → I (p.resume t k s).1) (as : List (Action ι κ))
    (has : Along p.step (Guard onStart onResume) c as) (hc : I c.shared) :
    I (run p.step c as).shared :=
  run_invariant_along (I := fun c => I c.shared)
    (fun c a ha hc => step_invariant_guarded hst hres c a ha hc) as has hc

/-! ## What threads rely on -/

/-- Sections that meet the condition keep `I`, and leave behind threads for which `J` holds. What a
thread relies on, no section of another thread takes away. -/
structure Relies (p : Program σ ι κ τ) (onStart : ι → κ → σ → Prop) (onResume : τ → κ → σ → Prop)
    (I : σ → Prop) (J : τ → σ → Prop) : Prop where
  start : ∀ i k s, onStart i k s → I s →
    I (p.start i k s).1 ∧ ∀ t ∈ (p.start i k s).2, J t (p.start i k s).1
  resume : ∀ t k s, onResume t k s → I s → J t s →
    I (p.resume t k s).1 ∧ ∀ t' ∈ (p.resume t k s).2, J t' (p.resume t k s).1
  stableStart : ∀ t i k s, J t s → J t (p.start i k s).1
  stableResume : ∀ t t' k s, J t s → J t (p.resume t' k s).1

theorem step_relies
    {J : τ → σ → Prop} (h : Relies p onStart onResume I J) (c : Threads σ τ) (a : Action ι κ)
    (ha : Guard onStart onResume c a) (hc : I c.shared ∧ ∀ t ∈ c.pending, J t c.shared) :
    I (p.step c a).shared ∧ ∀ t ∈ (p.step c a).pending, J t (p.step c a).shared := by
  obtain ⟨hI, hJ⟩ := hc
  cases a with
  | call i k =>
    obtain ⟨hI', hnew⟩ := h.start i k _ ha hI
    refine ⟨hI', fun t ht => ?_⟩
    rcases List.mem_append.mp ht with ht | ht
    · exact h.stableStart t i k _ (hJ t ht)
    · exact hnew t ht
  | proceed n k =>
    simp only [step]
    cases hn : c.pending[n]? with
    | none => exact ⟨hI, hJ⟩
    | some t =>
      simp only [Guard, hn] at ha
      obtain ⟨hI', hnew⟩ := h.resume t k _ ha hI (hJ t (List.mem_of_getElem? hn))
      refine ⟨hI', fun t' ht' => ?_⟩
      rcases List.mem_append.mp ht' with ht' | ht'
      · exact h.stableResume t' t k _ (hJ t' (List.mem_of_mem_eraseIdx ht'))
      · exact hnew t' ht'

/-- **What the sections keep, as long as each thread finds what it relies on, holds in every
interleaving whose sections meet the condition.** -/
theorem run_relies
    {J : τ → σ → Prop} (h : Relies p onStart onResume I J) (as : List (Action ι κ))
    (has : Along p.step (Guard onStart onResume) c as)
    (hc : I c.shared ∧ ∀ t ∈ c.pending, J t c.shared) :
    I (run p.step c as).shared ∧ ∀ t ∈ (run p.step c as).pending, J t (run p.step c as).shared :=
  run_invariant_along (I := fun c => I c.shared ∧ ∀ t ∈ c.pending, J t c.shared)
    (fun c a ha hc => step_relies h c a ha hc) as has hc

/-! ## History variables -/

/-- The threads with a history variable `γ` that every section may extend. -/
def watch {γ : Type} (p : Program σ ι κ τ) (onStart : ι → κ → σ → γ → γ)
    (onResume : τ → κ → σ → γ → γ) : Program (σ × γ) ι κ τ where
  start i k s := (((p.start i k s.1).1, onStart i k s.1 s.2), (p.start i k s.1).2)
  resume t k s := (((p.resume t k s.1).1, onResume t k s.1 s.2), (p.resume t k s.1).2)

/-- The threads without the history variable. -/
def erase {γ : Type} (c : Threads (σ × γ) τ) : Threads σ τ := ⟨c.shared.1, c.pending⟩

theorem step_watch {γ : Type} (onStart : ι → κ → σ → γ → γ) (onResume : τ → κ → σ → γ → γ)
    (c : Threads (σ × γ) τ) (a : Action ι κ) :
    erase ((p.watch onStart onResume).step c a) = p.step (erase c) a := by
  cases a with
  | call i k => rfl
  | proceed n k =>
    simp only [step, erase]
    cases c.pending[n]? with
    | none | some => rfl

theorem run_watch {γ : Type} (onStart : ι → κ → σ → γ → γ) (onResume : τ → κ → σ → γ → γ) :
    ∀ (as : List (Action ι κ)) (c : Threads (σ × γ) τ),
      erase (run (p.watch onStart onResume).step c as) = run p.step (erase c) as
  | [], _ => rfl
  | a :: as, c => by
    rw [run_cons, run_cons, run_watch onStart onResume as, step_watch]

end Program

end EverestCore.Lib.Machine

import EverestCore.Lib.Machine
import Mathlib.Data.Multiset.Filter

/-!
# Crowds of threads

Where an invariant of threads over a shared state speaks of the threads, it does not matter which
number a thread has: what is left to do is a multiset. A section takes one thread out of the crowd
and puts back what the thread leaves.

Results:
* **`Program.run_crowd`**: what every section keeps holds in every interleaving.
-/

namespace EverestCore.Lib.Machine

variable {σ ι κ τ : Type}

/-- A run whose steps all lower `rank` is no longer than the rank at its start. -/
theorem length_le_of_descends {step : σ → ι → σ} {P : σ → ι → Prop} {rank : σ → Nat}
    (hst : ∀ s i, P s i → rank (step s i) < rank s) :
    ∀ (is : List ι) {s : σ}, Along step P s is → is.length ≤ rank s
  | [], _, _ => Nat.zero_le _
  | i :: is, s, h => by
    have hlt := hst s i h.1
    have hle := length_le_of_descends hst is h.2
    rw [List.length_cons]
    omega

@[simp] theorem crowd_add_singleton (crowd : Multiset τ) (t : τ) : crowd + {t} = t ::ₘ crowd := by
  rw [Multiset.add_comm, Multiset.singleton_add]

theorem crowd_add_concat (crowd : Multiset τ) (ts : List τ) (t : τ) :
    crowd + ((ts ++ [t] : List τ) : Multiset τ) = t ::ₘ crowd + ts := by
  rw [← Multiset.coe_add, ← Multiset.add_assoc, Multiset.coe_singleton, crowd_add_singleton,
    Multiset.cons_add]

namespace Program

variable (p : Program σ ι κ τ)

/-- Every section keeps `I`, whatever the rest of the crowd is at. -/
structure KeepsCrowd (I : σ → Multiset τ → Prop) : Prop where
  start : ∀ i k s crowd, I s crowd → I (p.start i k s).1 (crowd + (p.start i k s).2)
  resume : ∀ t k s crowd, I s (t ::ₘ crowd) → I (p.resume t k s).1 (crowd + (p.resume t k s).2)

variable {p}

theorem coe_eq_cons_eraseIdx {l : List τ} {n : Nat} {t : τ} (h : l[n]? = some t) :
    (l : Multiset τ) = t ::ₘ (l.eraseIdx n : Multiset τ) := by
  obtain ⟨hn, rfl⟩ := List.getElem?_eq_some_iff.1 h
  exact (Multiset.coe_eq_coe.2 (List.getElem_cons_eraseIdx_perm hn)).symm

theorem step_crowd {I : σ → Multiset τ → Prop} (h : p.KeepsCrowd I) (c : Threads σ τ)
    (a : Action ι κ) (hc : I c.shared c.pending) : I (p.step c a).shared (p.step c a).pending := by
  cases a with
  | call i k =>
    exact h.start i k _ _ hc
  | proceed n k =>
    simp only [step]
    cases hn : c.pending[n]? with
    | none => exact hc
    | some t =>
      rw [← Multiset.coe_add]
      refine h.resume t k _ _ ?_
      rw [← coe_eq_cons_eraseIdx hn]
      exact hc

/-- **What every section keeps of the shared state and the crowd holds in every interleaving.** -/
theorem run_crowd {I : σ → Multiset τ → Prop} (h : p.KeepsCrowd I) (as : List (Action ι κ))
    {c : Threads σ τ} (hc : I c.shared c.pending) :
    I (run p.step c as).shared (run p.step c as).pending :=
  Machine.run_invariant (I := fun c => I c.shared c.pending) (fun c a => step_crowd h c a) as hc

end Program

end EverestCore.Lib.Machine

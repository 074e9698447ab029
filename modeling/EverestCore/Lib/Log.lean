import Mathlib.Data.List.Basic

/-!
# Histories, newest entry first

Results:
* `since_append`: new entries that do not satisfy `q` join `since q`.
* `followedBy_cons`: what the newest entry means for `FollowedBy`.
* `not_sublist_swap`: two entries of a history without repetitions stand in one order only.
* `alternate_of_replay`: a checker that opens with `p` and closes with `q` accepts only histories in
  which they alternate.
* `nested_of_replay`: the same for nested pairs.
-/

namespace EverestCore.Lib.Log

variable {α : Type*} {p q : α → Bool}

/-- The entries newer than the last `q`, or all of them. -/
def since (q : α → Bool) (log : List α) : List α := log.takeWhile fun t => !q t

theorem since_append {new : List α} (h : ∀ t ∈ new, q t = false) (log : List α) :
    since q (new ++ log) = new ++ since q log :=
  List.takeWhile_append_of_pos fun t ht => by simp [h t ht]

theorem since_cons_neg {t : α} (h : q t = false) (log : List α) :
    since q (t :: log) = t :: since q log :=
  List.takeWhile_cons_of_pos (by simp [h])

theorem since_cons_pos {t : α} (h : q t) (log : List α) : since q (t :: log) = [] :=
  List.takeWhile_cons_of_neg (by simp [h])

/-- Every `p` is followed by a `q`: there is none among the entries since the last `q`. -/
def FollowedBy (p q : α → Bool) (log : List α) : Prop := ∀ t ∈ since q log, p t = false

instance (log : List α) : Decidable (FollowedBy p q log) := by
  unfold FollowedBy
  infer_instance

@[simp] theorem followedBy_nil : FollowedBy p q [] := by
  simp [FollowedBy, since]

theorem followedBy_cons (t : α) (log : List α) :
    FollowedBy p q (t :: log) ↔ q t ∨ (p t = false ∧ FollowedBy p q log) := by
  cases hq : q t with
  | true => simp [FollowedBy, since_cons_pos hq]
  | false => simp [FollowedBy, since_cons_neg hq]

/-- Two entries of a list without duplicates stand in one order only. -/
theorem not_sublist_swap {l : List α} (hl : l.Nodup) {a b : α} (hab : [a, b].Sublist l)
    (hba : [b, a].Sublist l) : False := by
  induction l with
  | nil => cases hab
  | cons x l ih =>
    obtain ⟨hx, hl⟩ := List.nodup_cons.mp hl
    cases hab with
    | cons _ hab =>
      cases hba with
      | cons _ hba => exact ih hl hab hba
      | cons_cons _ hba => exact hx (hab.subset (by simp))
    | cons_cons _ hab =>
      cases hba with
      | cons _ hba | cons_cons _ hba => exact hx (hba.subset (by simp))

/-! ## Brackets -/

/-- Every entry meets `P` together with the entries before it. -/
def Always (P : α → List α → Prop) : List α → Prop
  | [] => True
  | t :: log => P t log ∧ Always P log

instance Always.decidable (P : α → List α → Prop) [∀ t log, Decidable (P t log)] :
    ∀ log : List α, Decidable (Always P log)
  | [] => .isTrue trivial
  | _ :: log => @instDecidableAnd _ _ _ (Always.decidable P log)

/-- A `p` is open: there is one that no `q` follows. -/
abbrev Open (p q : α → Bool) (log : List α) : Prop := ¬ FollowedBy p q log

/-- There is a `p` only where none is open, and a `q` only where one is. -/
def Alternate (p q : α → Bool) : List α → Prop :=
  Always fun t log => (p t = true → ¬ Open p q log) ∧ (q t = true → Open p q log)

/-- There is a `p'` or a `q'` only where a `p` is open, and a `q` only where no `p'` is. -/
def Nested (p q p' q' : α → Bool) : List α → Prop :=
  Always fun t log => (p' t = true ∨ q' t = true → Open p q log) ∧ (q t = true → ¬ Open p' q' log)

instance (log : List α) : Decidable (Alternate p q log) :=
  Always.decidable _ log

instance (p' q' : α → Bool) (log : List α) : Decidable (Nested p q p' q' log) :=
  Always.decidable _ log

/-! ## Checkers -/

section Replay

variable {σ : Type*} {δ : σ → α → Option σ} {s s' : σ}

/-- The state after the entries, from the oldest one on. -/
def replay (δ : σ → α → Option σ) (s : σ) : List α → Option σ
  | [] => some s
  | t :: log => (replay δ s log).bind fun r => δ r t

theorem replay_cons_eq_some {t : α} {log : List α} : replay δ s (t :: log) = some s' ↔
    ∃ r, replay δ s log = some r ∧ δ r t = some s' := by
  simp [replay, Option.bind_eq_some_iff]

theorem replay_append (new log : List α) :
    replay δ s (new ++ log) = (replay δ s log).bind fun r => replay δ r new := by
  induction new with
  | nil => simp [replay]
  | cons t new ih => simp [replay, ih, Option.bind_assoc]

theorem replay_of_forall {new : List α} (h : ∀ t ∈ new, δ s t = some s) :
    replay δ s new = some s := by
  induction new with
  | nil => rfl
  | cons t new ih =>
    rw [List.forall_mem_cons] at h
    rw [replay, ih h.2, Option.bind_some, h.1]

/-- `isOpen` is set by `p`, cleared by `q` and kept by the other entries. -/
structure Brackets (δ : σ → α → Option σ) (isOpen : σ → Bool) (p q : α → Bool) : Prop where
  opens : ∀ {s t s'}, δ s t = some s' → p t = true → isOpen s = false ∧ isOpen s' = true
  closes : ∀ {s t s'}, δ s t = some s' → q t = true → isOpen s = true ∧ isOpen s' = false
  keeps : ∀ {s t s'}, δ s t = some s' → p t = false → q t = false → isOpen s' = isOpen s

variable {isOpen isOpen' : σ → Bool} {p' q' : α → Bool}

theorem Brackets.open_iff (h : Brackets δ isOpen p q) (h0 : isOpen s = false) {log : List α}
    (hs : replay δ s log = some s') : isOpen s' ↔ Open p q log := by
  induction log generalizing s' with
  | nil =>
    cases hs
    simp [h0, Open]
  | cons t log ih =>
    obtain ⟨r, hr, ht⟩ := replay_cons_eq_some.mp hs
    have ih := ih hr
    unfold Open at ih ⊢
    rw [followedBy_cons]
    cases hq : q t with
    | true => simp [(h.closes ht hq).2]
    | false =>
      cases hp : p t with
      | true => simp [(h.opens ht hp).2]
      | false => simpa [h.keeps ht hp hq] using ih

/-- What holds for every entry that the checker accepts holds throughout. -/
theorem always_of_replay {P : α → List α → Prop}
    (h : ∀ {log r t s'}, replay δ s log = some r → δ r t = some s' → P t log) :
    ∀ {log s'}, replay δ s log = some s' → Always P log
  | [], _, _ => trivial
  | _ :: _, _, hs => by
    obtain ⟨r, hr, ht⟩ := replay_cons_eq_some.mp hs
    exact ⟨h hr ht, always_of_replay h hr⟩

/-- **An accepted history alternates.** -/
theorem alternate_of_replay (h : Brackets δ isOpen p q) (h0 : isOpen s = false) {log : List α}
    (hs : replay δ s log = some s') : Alternate p q log := by
  refine always_of_replay (fun hr ht => ?_) hs
  rw [← h.open_iff h0 hr]
  exact ⟨fun hp => by simp [(h.opens ht hp).1], fun hq => (h.closes ht hq).1⟩

/-- **An accepted history is nested**, if the inner pair needs the outer one to be open. -/
theorem nested_of_replay (h : Brackets δ isOpen p q) (h' : Brackets δ isOpen' p' q')
    (hin : ∀ {s t s'}, δ s t = some s' → p' t ∨ q' t → isOpen s)
    (hout : ∀ {s t s'}, δ s t = some s' → q t → isOpen' s = false)
    (h0 : isOpen s = false) (h0' : isOpen' s = false) {log : List α}
    (hs : replay δ s log = some s') : Nested p q p' q' log := by
  refine always_of_replay (fun hr ht => ?_) hs
  rw [← h.open_iff h0 hr, ← h'.open_iff h0' hr]
  exact ⟨hin ht, fun hq => by simp [hout ht hq]⟩

end Replay

end EverestCore.Lib.Log

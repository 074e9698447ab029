import Mathlib.Data.List.Basic
import Mathlib.Tactic.Linarith

/-!
# Sweeping a priority list of intervals

A list of half-open intervals `[start e, stop e)` is given in priority order. The sweep walks the
time line from `now` to `fin` and cuts it into segments, each labelled with the interval in force
there or with nothing. It never looks at the intervals twice at one instant: a scan of the list
finds the first interval that covers the current instant, and on its way keeps the earliest start
of the intervals it passes, which is where a better one takes over.

Results:
* **`sweep_spec`**: with enough fuel the loop returns, its segments start at `now`, strictly
  increase, stay below `fin`, and the last segment at or before any `t` of the window carries the
  first interval of the list that covers `t` (`Timeline`).
-/

namespace EverestCore.Lib.PrioritySweep

open List Or

variable {E : Type} (start stop : E → Int)

/-- The interval covers the instant `t`. -/
def Covers (e : E) (t : Int) : Prop := start e ≤ t ∧ t < stop e

instance (e : E) (t : Int) : Decidable (Covers start stop e t) := by
  unfold Covers; infer_instance

/-- The variables of the inner scan. -/
structure Scan (E : Type) where
  earliest : Int
  nextEarliest : Int
  chosen : Option E

/-- The inner scan at the instant `current`. It breaks at the first interval that has started. -/
def scan (current : Int) : List E → Scan E → Scan E
  | [], s => s
  | e :: es, s =>
    if start e ≤ s.earliest then
      if current < stop e then
        if start e ≤ current then ⟨start e, s.earliest, some e⟩
        else scan current es ⟨start e, s.earliest, some e⟩
      else scan current es s
    else scan current es s

/-- One round of the loop: the label of the segment that begins at `current` and the instant the
next one begins at. `none` stands for a dereference of an empty choice. -/
def body (es : List E) (fin current : Int) : Option (Option E × Int) :=
  let s := scan start stop current es ⟨fin, fin, none⟩
  if current < s.earliest then some (none, s.earliest)
  else match s.chosen with
    | none => none
    | some e => some (some e, if stop e < s.nextEarliest then stop e else s.nextEarliest)

/-- How a run of the loop can go wrong. -/
inductive Fault
  | nullDereference | outOfFuel

/-- The loop: at least one round, and another one while the window is not used up. -/
def sweep (es : List E) (fin : Int) : Nat → Int → Except Fault (List (Int × Option E))
  | 0, _ => .error .outOfFuel
  | n + 1, current =>
    match body start stop es fin current with
    | none => .error .nullDereference
    | some (label, next) =>
      if next < fin then (sweep es fin n next).map ((current, label) :: ·)
      else .ok [(current, label)]

/-- The last element at or before `t`. -/
def lastAt {α : Type} (k : α → Int) (l : List α) (t : Int) : Option α :=
  (l.filter fun a => k a ≤ t).getLast?

variable {start stop}

/-! ## One scan -/

/-- What a scan leaves behind: no interval of the list has started by `current` and ends after
it, and `earliest` bounds the starts to come; or the scan stopped at the first such interval, and
`nextEarliest` bounds the starts of the ones it passed. -/
inductive ScanResult (start stop : E → Int) (current lim : Int) (es : List E) : Scan E → Prop
  | gap (r : Scan E) (hlt : current < r.earliest) (hle : r.earliest ≤ lim)
      (hcut : r.earliest = lim ∨ ∃ x ∈ es, r.earliest = start x)
      (hall : ∀ x ∈ es, current < stop x → r.earliest ≤ start x) :
      ScanResult start stop current lim es r
  | hit (pre post : List E) (e : E) (next : Int) (hes : es = pre ++ e :: post)
      (hcov : Covers start stop e current) (hlt : current < next) (hle : next ≤ lim)
      (hcut : next = lim ∨ ∃ x ∈ es, next = start x)
      (hpre : ∀ x ∈ pre, current < stop x → next ≤ start x) :
      ScanResult start stop current lim es ⟨start e, next, some e⟩

variable {es : List E} {current t fin : Int} {α : Type} {k : α → Int} {l : List α} {now next : Int}
    {label : Option E}

theorem cut_cons {x : E} {cut lim lim' : Int} (hlim : lim' = lim ∨ lim' = start x)
    (hcut : cut = lim' ∨ ∃ y ∈ es, cut = start y) : cut = lim ∨ ∃ y ∈ x :: es, cut = start y := by
  rcases hcut with rfl | ⟨y, hy, rfl⟩
  · exact hlim.imp id fun h => ⟨x, mem_cons_self, h⟩
  · exact inr ⟨y, mem_cons_of_mem _ hy, rfl⟩

/-- Prepending an interval that the scan passed without breaking. -/
theorem ScanResult.cons {lim lim' : Int} {r : Scan E} {x : E}
    (h : ScanResult start stop current lim' es r) (hle' : lim' ≤ lim)
    (hlim : lim' = lim ∨ lim' = start x) (hx : current < stop x → lim' ≤ start x) :
    ScanResult start stop current lim (x :: es) r := by
  cases h with
  | gap _ hlt hle hcut hall =>
    refine .gap r hlt (hle.trans hle') (cut_cons hlim hcut) fun y hy hst => ?_
    rcases mem_cons.mp hy with rfl | hy
    · exact hle.trans (hx hst)
    · exact hall y hy hst
  | hit pre post e next hes hcov hlt hle hcut hpre =>
    refine .hit (x :: pre) post e next (by rw [hes]; rfl) hcov hlt (hle.trans hle')
      (cut_cons hlim hcut) fun y hy hst => ?_
    rcases mem_cons.mp hy with rfl | hy
    · exact hle.trans (hx hst)
    · exact hpre y hy hst

/-- **One scan** before its limit either finds a gap or stops at the first covering interval. -/
theorem scan_spec (start stop : E → Int) : ∀ (es : List E) (s : Scan E),
    current < s.earliest →
      ScanResult start stop current s.earliest es (scan start stop current es s)
  | [], s, hlt => .gap s hlt le_rfl (inl rfl) fun _ hx => absurd hx not_mem_nil
  | e :: es, s, hlt => by
    unfold scan
    split_ifs with hs hc hb
    · exact .hit [] es e s.earliest rfl ⟨hb, hc⟩ hlt le_rfl (inl rfl)
        fun _ hx => absurd hx not_mem_nil
    · exact (scan_spec start stop es ⟨start e, s.earliest, some e⟩ (not_le.mp hb)).cons hs
        (inr rfl) fun _ => le_rfl
    · exact (scan_spec start stop es s hlt).cons le_rfl (inl rfl) fun h => absurd h hc
    · exact (scan_spec start stop es s hlt).cons le_rfl (inl rfl) fun _ => (not_le.mp hs).le

/-! ## One round -/

/-- The interval in force at `t`: the first of the list that covers it. -/
def inForce (start stop : E → Int) (es : List E) (t : Int) : Option E :=
  es.find? fun e => decide (Covers start stop e t)

theorem inForce_eq_none : inForce start stop es t = none ↔ ∀ e ∈ es, ¬ Covers start stop e t := by
  simp [inForce]

theorem inForce_of_split {pre post : List E} {e : E} (he : Covers start stop e t)
    (hpre : ∀ x ∈ pre, ¬ Covers start stop x t) :
    inForce start stop (pre ++ e :: post) t = some e := by
  unfold inForce
  rw [List.find?_append, List.find?_eq_none.mpr (by simpa using hpre), List.find?_cons_of_pos]
  · rfl
  · simpa using he

/-- The instants at which a sweep can cut the time line: the ends of the intervals. -/
def IsCut (start stop : E → Int) (es : List E) (t : Int) : Prop :=
  ∃ e ∈ es, t = start e ∨ t = stop e

/-- **One round** inside the window moves forward, not past its end, and its label is in force
on the whole stretch. -/
theorem body_spec (start stop : E → Int) (es : List E) (h : current < fin) :
    ∃ label next, body start stop es fin current = some (label, next) ∧ current < next ∧
      next ≤ fin ∧ (next = fin ∨ IsCut start stop es next) ∧
      ∀ t, current ≤ t → t < next → inForce start stop es t = label := by
  have hs := scan_spec start stop es ⟨fin, fin, none⟩ h
  unfold body
  generalize scan start stop current es ⟨fin, fin, none⟩ = r at hs
  cases hs with
  | gap _ hlt hle hcut hall =>
    refine ⟨none, r.earliest, if_pos hlt, hlt, hle,
      hcut.imp id fun ⟨x, hx, hc⟩ => ⟨x, hx, inl hc⟩, fun t ht hn => ?_⟩
    rw [inForce_eq_none]
    rintro e he ⟨h1, h2⟩
    have := hall e he (ht.trans_lt h2)
    omega
  | hit pre post e next hes hcov hlt hle hcut hpre =>
    refine ⟨some e, if stop e < next then stop e else next, ?_, ?_, ?_, ?_, fun t ht hn => ?_⟩
    · simp only [if_neg (not_lt.mpr hcov.1)]
    · split_ifs
      · exact hcov.2
      · exact hlt
    · simp only at hle
      split_ifs <;> omega
    · split_ifs
      · exact inr ⟨e, by rw [hes]; simp, inr rfl⟩
      · exact hcut.imp id fun ⟨x, hx, hc⟩ => ⟨x, hx, inl hc⟩
    · have hn' : t < stop e ∧ t < next := by split_ifs at hn <;> omega
      rw [hes]
      refine inForce_of_split ⟨hcov.1.trans ht, hn'.1⟩ fun x hx hcx => ?_
      have := hpre x hx (ht.trans_lt hcx.2)
      have := hcx.1
      omega

/-- A scan past the end of the window breaks at the first interval that reaches it. -/
theorem scan_past (h : fin ≤ current) : ∀ {es : List E},
    (∃ e ∈ es, start e ≤ fin ∧ current < stop e) → ∃ e ∈ es, current < stop e ∧
      start e ≤ current ∧ scan start stop current es ⟨fin, fin, none⟩ = ⟨start e, fin, some e⟩
  | [], ⟨_, he, _⟩ => absurd he not_mem_nil
  | x :: xs, ⟨e, he, hsc⟩ => by
    by_cases hc : start x ≤ fin ∧ current < stop x
    · have hb : start x ≤ current := hc.1.trans h
      exact ⟨x, mem_cons_self, hc.2, hb, by simp [scan, hc.1, hc.2, hb]⟩
    · have he' : e ∈ xs := by
        rcases mem_cons.mp he with rfl | he
        · exact absurd hsc hc
        · exact he
      obtain ⟨y, hy, h1, h2, h3⟩ := scan_past h ⟨e, he', hsc⟩
      refine ⟨y, mem_cons_of_mem _ hy, h1, h2, ?_⟩
      rw [scan, ← h3]
      by_cases hs : start x ≤ fin
      · rw [if_pos hs, if_neg fun hlt => hc ⟨hs, hlt⟩]
      · rw [if_neg hs]

/-- Past the end of the window the first interval that reaches it is taken. -/
theorem body_past (h : fin ≤ current) (hex : ∃ e ∈ es, start e ≤ fin ∧ current < stop e) :
    ∃ e ∈ es, body start stop es fin current = some (some e, fin) := by
  obtain ⟨e, he, h1, h2, h3⟩ := scan_past h hex
  refine ⟨e, he, ?_⟩
  unfold body
  rw [h3]
  simp only [if_neg (not_lt.mpr h2), if_neg (not_lt.mpr (h.trans h1.le))]

/-! ## Segments of the time line -/

theorem lastAt_cons {a : α} :
    lastAt k (a :: l) t = (lastAt k l t).or (if k a ≤ t then some a else none) := by
  unfold lastAt
  by_cases h : k a ≤ t
  · rw [filter_cons_of_pos (by simpa using h), List.getLast?_cons, if_pos h]
    cases (l.filter fun a => k a ≤ t).getLast? <;> rfl
  · rw [filter_cons_of_neg (by simpa using h), if_neg h, Option.or_none]

theorem lastAt_eq_none (h : ∀ b ∈ l, t < k b) : lastAt k l t = none := by
  have hnil : l.filter (fun a => k a ≤ t) = [] := by
    rw [filter_eq_nil_iff]
    intro b hb
    simpa using h b hb
  rw [lastAt, hnil]
  rfl

theorem lastAt_cons_of_lt {a : α} (ha : k a ≤ t) (hl : ∀ b ∈ l, t < k b) :
    lastAt k (a :: l) t = some a := by
  rw [lastAt_cons, lastAt_eq_none hl, if_pos ha]
  rfl

theorem lastAt_cons_of_le {a b : α} (h : lastAt k l t = some b) : lastAt k (a :: l) t = some b := by
  rw [lastAt_cons, h]
  rfl

theorem lastAt_map {β : Type} {k' : β → Int} {f : α → β} {u : Int}
    (h : ∀ a ∈ l, k' (f a) ≤ u ↔ k a ≤ t) : lastAt k' (l.map f) u = (lastAt k l t).map f := by
  unfold lastAt
  rw [filter_map, List.getLast?_map]
  congr 2
  exact filter_congr fun a ha => by simp [h a ha]

/-- The segments from `now` on carry the values of `f` at the instants in `W`. -/
structure Timeline (W : Int → Prop) (f : Int → α) (now : Int) (segs : List (Int × α)) : Prop where
  head : segs.head?.map Prod.fst = some now
  ordered : segs.Pairwise fun a b => a.1 < b.1
  lower : ∀ a ∈ segs, now ≤ a.1
  inForce : ∀ t, now ≤ t → W t → (lastAt Prod.fst segs t).map Prod.snd = some (f t)

namespace Timeline

variable {W : Int → Prop} {f : Int → α} {x : α}

theorem single (h : ∀ t, now ≤ t → W t → f t = x) : Timeline W f now [(now, x)] where
  head := rfl
  ordered := pairwise_singleton _ _
  lower := forall_mem_singleton.mpr le_rfl
  inForce t ht hw := by
    rw [lastAt_cons_of_lt (k := Prod.fst) ht (forall_mem_nil _), h t ht hw]
    rfl

/-- A segment in front of those that begin where it ends. -/
theorem cons {segs : List (Int × α)} (hs : Timeline W f next segs) (hlt : now < next)
    (h : ∀ t, now ≤ t → t < next → f t = x) : Timeline W f now ((now, x) :: segs) where
  head := rfl
  ordered := pairwise_cons.mpr ⟨fun b hb => hlt.trans_le (hs.lower b hb), hs.ordered⟩
  lower := forall_mem_cons.mpr ⟨le_rfl, fun a ha => hlt.le.trans (hs.lower a ha)⟩
  inForce t ht hw := by
    by_cases hn : t < next
    · rw [lastAt_cons_of_lt (k := Prod.fst) ht fun b hb => hn.trans_le (hs.lower b hb), h t ht hn]
      rfl
    · obtain ⟨b, hb, hx⟩ := Option.map_eq_some_iff.mp (hs.inForce t (not_lt.mp hn) hw)
      rw [lastAt_cons_of_le hb]
      exact congrArg some hx

end Timeline

/-! ## The whole sweep -/

/-- The segments of a finished sweep over `[now, fin)`. -/
structure Segments (start stop : E → Int) (es : List E) (now fin : Int)
    (segs : List (Int × Option E)) : Prop
    extends Timeline (· < fin) (PrioritySweep.inForce start stop es) now segs where
  cuts : ∀ a ∈ segs, a.1 = now ∨ a.1 < fin ∧ IsCut start stop es a.1
  labels : ∀ a ∈ segs, ∀ e, a.2 = some e → e ∈ es

theorem Segments.single (hlab : ∀ e, label = some e → e ∈ es)
    (hin : ∀ t, now ≤ t → t < fin → PrioritySweep.inForce start stop es t = label) :
    Segments start stop es now fin [(now, label)] :=
  ⟨.single hin, forall_mem_singleton.mpr (inl rfl), forall_mem_singleton.mpr hlab⟩

/-- A round in front of a finished sweep that begins where the round ends. -/
theorem Segments.cons {segs : List (Int × Option E)} (h : Segments start stop es next fin segs)
    (hlt : now < next) (hfin : next < fin) (hcut : IsCut start stop es next)
    (hlab : ∀ e, label = some e → e ∈ es)
    (hin : ∀ t, now ≤ t → t < next → PrioritySweep.inForce start stop es t = label) :
    Segments start stop es now fin ((now, label) :: segs) := by
  refine ⟨h.toTimeline.cons hlt hin, forall_mem_cons.mpr ⟨inl rfl, fun a ha => inr ?_⟩,
    forall_mem_cons.mpr ⟨hlab, h.labels⟩⟩
  exact (h.cuts a ha).elim (fun heq => heq ▸ ⟨hfin, hcut⟩) id

/-- **The sweep returns the law of the list**: any fuel beyond the window's length is enough. -/
theorem sweep_spec (start stop : E → Int) (es : List E) (fin : Int) :
    ∀ (n : Nat) (now : Int), now < fin →
    (fin - now).toNat ≤ n → ∃ segs, (∀ fuel, n ≤ fuel →
      sweep start stop es fin fuel now = .ok segs) ∧ Segments start stop es now fin segs
  | 0, now, hlt, hn => by omega
  | n + 1, now, hlt, hn => by
    obtain ⟨label, next, hb, hp, hle, hcut, hin⟩ := body_spec start stop es hlt
    have hlab : ∀ e, label = some e → e ∈ es := fun e he =>
      mem_of_find?_eq_some ((hin now le_rfl hp).trans he)
    by_cases hne : next < fin
    · obtain ⟨segs, hs, hse⟩ := sweep_spec start stop es fin n next hne (by omega)
      refine ⟨(now, label) :: segs, fun fuel hf => ?_, hse.cons hp hne
        (hcut.resolve_left hne.ne) hlab hin⟩
      obtain ⟨m, rfl⟩ : ∃ m, fuel = m + 1 := ⟨fuel - 1, by omega⟩
      rw [sweep, hb]
      simp only [if_pos hne, hs m (by omega)]
      rfl
    · refine ⟨[(now, label)], fun fuel hf => ?_, .single hlab fun t ht hf =>
        hin t ht (hf.trans_le (not_lt.mp hne))⟩
      obtain ⟨m, rfl⟩ : ∃ m, fuel = m + 1 := ⟨fuel - 1, by omega⟩
      rw [sweep, hb]
      simp only [if_neg hne]

theorem sweep_past (start stop : E → Int) (h : fin ≤ now)
    (hex : ∃ e ∈ es, start e ≤ fin ∧ now < stop e) :
    ∃ segs, (∀ fuel, 1 ≤ fuel → sweep start stop es fin fuel now = .ok segs) ∧
      Segments start stop es now fin segs := by
  obtain ⟨e, he, hb⟩ := body_past h hex
  refine ⟨[(now, some e)], fun fuel hf => ?_, .single (fun x hx => Option.some.inj hx ▸ he)
    fun t ht hf => absurd hf (not_lt.mpr (h.trans ht))⟩
  obtain ⟨m, rfl⟩ : ∃ m, fuel = m + 1 := ⟨fuel - 1, by omega⟩
  rw [sweep, hb]
  simp only [if_neg (lt_irrefl fin)]

end EverestCore.Lib.PrioritySweep

import EverestCore.Lib.Machine

/-!
# Statecharts

A state machine given by tables of transitions, with a single composite state whose substates are
`S`. An event is offered to the substate first and then to the composite state. A transition with a
target leaves the substate, acts and enters the target; one without a target only acts. An event
that no transition takes is ignored.

* `Row`: a transition. `Chart`: the tables with the entry and exit actions.
* `Chart.process`: one event.

Results:
* `Chart.process_keeps`: a property that every row and an ignored event keep.
-/

namespace EverestCore.Lib.Statechart

variable {S E D : Type}

/-- A transition of the substate `source`, or of the composite state where there is none. -/
structure Row (S E D : Type) where
  source : Option S
  event : E → Bool
  target : Option S
  action : E → D → D
  guard : E → D → Bool

/-- Tables, entry and exit actions, and what is done with an event that is ignored. -/
structure Chart (S E D : Type) where
  inner : List (Row S E D)
  outer : List (Row S E D)
  entry : S → D → D
  exit : S → D → D
  ignored : D → D

namespace Chart

variable (chart : Chart S E D)

/-- Take a transition. -/
def take (row : Row S E D) (e : E) (c : S × D) : S × D :=
  match row.target with
  | none => (c.1, row.action e c.2)
  | some t => (t, chart.entry t (row.action e (chart.exit c.1 c.2)))

variable [DecidableEq S]

/-- The row can be taken. -/
def enabled (row : Row S E D) (c : S × D) (e : E) : Bool :=
  row.source.all (· = c.1) && row.event e && row.guard e c.2

/-- Process an event. -/
def process (c : S × D) (e : E) : S × D :=
  match (chart.inner ++ chart.outer).find? (enabled · c e) with
  | some row => chart.take row e c
  | none => (c.1, chart.ignored c.2)

variable {chart}

/-- **What every row keeps, every event keeps.** -/
theorem process_keeps {I : S → D → Prop} (hi : ∀ s d, I s d → I s (chart.ignored d))
    (hrow : ∀ row ∈ chart.inner ++ chart.outer, ∀ s d e, enabled row (s, d) e → I s d →
      I (chart.take row e (s, d)).1 (chart.take row e (s, d)).2)
    (c : S × D) (e : E) (h : I c.1 c.2) : I (chart.process c e).1 (chart.process c e).2 := by
  unfold process
  split
  · rename_i row hf
    have he : enabled row c e := List.find?_some (p := (enabled · c e)) hf
    exact hrow row (List.mem_of_find?_eq_some hf) c.1 c.2 e he h
  · exact hi c.1 c.2 h

end Chart

end EverestCore.Lib.Statechart

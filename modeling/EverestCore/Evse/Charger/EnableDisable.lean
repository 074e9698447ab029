import EverestCore.Evse.Charger.Steps
import EverestCore.Lib.KeyedTable

/-!
# The enable state and its sources

Several sources enable and disable an EVSE, each with a priority. `enable_disable` decides by the
table of their latest entries, and applies a decision through `flag_disable_requested`: the flag is
set when the decision turns to `Disable`, and cleared only when a later call finds the charger in
`Disabled`.

Results:
* **`enable_disable_decides`**: each call returns the decision, and exactly when the flag agrees
  with it after the call; and the charger is in `Disabled` only after a decision to disable it, as
  long as the flag agrees.
* `enabled_session_stays_disabled`: a session that is torn down hides an `Enable`.
-/

namespace EverestCore.Evse

open EverestCore.Lib.KeyedTable List EnableDisableSource
open EverestCore.Lib.Machine

/-! ## The decision -/

/-- Among the latest entries that are not `Unassigned`, the smallest priority number is that of a
`Disable`. -/
def DisableWins (history : List EnableDisableSource) : Prop :=
  ∃ e, latest enableSource e.enableSource history = some e ∧
    e.enableState = .Disable ∧
    ∀ e', latest enableSource e'.enableSource history = some e' →
      e'.enableState ≠ .Unassigned → e.enablePriority ≤ e'.enablePriority

namespace Charger

/-- What the loop over the table knows: nothing is assigned yet, or the winner has the smallest
priority number, and a `Disable` wins over an `Enable` with the same one. -/
structure Winner (seen : List EnableDisableSource) (acc : Bool × EnableDisableSource) : Prop where
  unassigned : acc.2.enableState = .Unassigned → acc.1 = true ∧
    ∀ e ∈ seen, e.enableState = .Unassigned
  assigned : acc.2.enableState ≠ .Unassigned → acc.2 ∈ seen ∧
    (acc.1 = true ↔ acc.2.enableState ≠ .Disable) ∧
    ∀ e ∈ seen, e.enableState ≠ .Unassigned → acc.2.enablePriority ≤ e.enablePriority ∧
      (e.enablePriority = acc.2.enablePriority → e.enableState = .Disable →
        acc.2.enableState = .Disable)

namespace Winner

variable {seen : List EnableDisableSource} {acc : Bool × EnableDisableSource}
  {entry : EnableDisableSource}

theorem extend (h : Winner seen acc)
    (hu : acc.2.enableState = .Unassigned → entry.enableState = .Unassigned)
    (he : acc.2.enableState ≠ .Unassigned → entry.enableState ≠ .Unassigned →
      acc.2.enablePriority ≤ entry.enablePriority ∧
        (entry.enablePriority = acc.2.enablePriority → entry.enableState = .Disable →
          acc.2.enableState = .Disable)) : Winner (seen ++ [entry]) acc := by
  refine ⟨fun hs => ?_, fun hs => ?_⟩
  · obtain ⟨ht, hall⟩ := h.unassigned hs
    refine ⟨ht, fun e he => ?_⟩
    rcases mem_append.mp he with he | he
    · exact hall e he
    · exact mem_singleton.mp he ▸ hu hs
  · obtain ⟨hm, ht, hall⟩ := h.assigned hs
    refine ⟨mem_append_left _ hm, ht, fun e hmem => ?_⟩
    rcases mem_append.mp hmem with hmem | hmem
    · exact hall e hmem
    · exact mem_singleton.mp hmem ▸ he hs

theorem replace (he : entry.enableState ≠ .Unassigned)
    (hall : ∀ e ∈ seen, e.enableState ≠ .Unassigned → entry.enablePriority ≤ e.enablePriority ∧
      (e.enablePriority = entry.enablePriority → e.enableState = .Disable →
        entry.enableState = .Disable)) :
    Winner (seen ++ [entry]) (decide (entry.enableState ≠ .Disable), entry) := by
  refine ⟨fun hs => absurd hs he, fun _ => ⟨by simp, by simp, fun e hmem hs => ?_⟩⟩
  rcases mem_append.mp hmem with hmem | hmem
  · exact hall e hmem hs
  · rw [mem_singleton.mp hmem]
    exact ⟨le_rfl, fun _ h => h⟩

theorem consider (h : Winner seen acc) (entry : EnableDisableSource) :
    Winner (seen ++ [entry]) (considerEntry acc entry) := by
  unfold considerEntry
  dsimp only
  by_cases hu : entry.enableState = .Unassigned
  · rw [if_pos hu]
    exact h.extend (fun _ => hu) fun _ he => absurd hu he
  rw [if_neg hu]
  by_cases hw : acc.2.enableState = .Unassigned
  · rw [if_pos hw]
    refine replace hu fun e he hs => ?_
    exact absurd ((h.unassigned hw).2 e he) hs
  rw [if_neg hw]
  obtain ⟨-, -, hall⟩ := h.assigned hw
  by_cases heq : entry.enablePriority = acc.2.enablePriority
  · rw [if_pos heq]
    by_cases hd : entry.enableState = .Disable
    · have hr : Winner (seen ++ [entry]) (decide (entry.enableState ≠ .Disable), entry) := by
        refine replace hu fun e he hs => ⟨?_, fun _ _ => hd⟩
        rw [heq]
        exact (hall e he hs).1
      simpa [hd] using hr
    · rw [if_neg hd]
      exact h.extend (fun hs => absurd hs hw) fun _ _ => ⟨heq.ge, fun _ hs => absurd hs hd⟩
  rw [if_neg heq]
  by_cases hlt : entry.enablePriority < acc.2.enablePriority
  · rw [if_pos hlt]
    refine replace hu fun e he hs => ?_
    have hle := (hall e he hs).1
    exact ⟨by omega, by omega⟩
  · rw [if_neg hlt]
    exact h.extend (fun hs => absurd hs hw) fun _ _ => ⟨by omega, fun h => absurd h heq⟩

theorem eq_false_iff (h : Winner seen acc) : acc.1 = false ↔ ∃ e ∈ seen, e.enableState = .Disable ∧
    ∀ e' ∈ seen, e'.enableState ≠ .Unassigned → e.enablePriority ≤ e'.enablePriority := by
  by_cases hw : acc.2.enableState = .Unassigned
  · obtain ⟨ht, hall⟩ := h.unassigned hw
    refine iff_of_false (by simp [ht]) ?_
    rintro ⟨e, he, hd, -⟩
    have := hall e he
    simp [hd] at this
  · obtain ⟨hm, ht, hall⟩ := h.assigned hw
    constructor
    · intro hf
      have hd : acc.2.enableState = .Disable := by
        by_contra hd
        simp [ht.mpr hd] at hf
      exact ⟨acc.2, hm, hd, fun e he hs => (hall e he hs).1⟩
    · rintro ⟨e, he, hd, hmin⟩
      have hs : e.enableState ≠ .Unassigned := by simp [hd]
      have heq : e.enablePriority = acc.2.enablePriority :=
        le_antisymm (hmin acc.2 hm hw) (hall e he hs).1
      have hdis := (hall e he hs).2 heq hd
      by_contra hf
      exact ht.mp (by simpa using hf) hdis

end Winner

/-- The loop over the table decides by the smallest priority number. -/
theorem winner_parseEnableDisableSourceTable (table : List EnableDisableSource) :
    Winner table (parseEnableDisableSourceTable table) := by
  unfold parseEnableDisableSourceTable
  induction table using List.reverseRecOn with
  | nil => exact ⟨fun _ => ⟨rfl, by simp⟩, fun h => absurd rfl h⟩
  | append_singleton table entry ih =>
    rw [foldl_append]
    exact ih.consider entry

theorem parseEnableDisableSourceTable_eq_false (history : List EnableDisableSource) :
    (parseEnableDisableSourceTable (build enableSource history)).1 = false ↔
      DisableWins history := by
  rw [(winner_parseEnableDisableSourceTable _).eq_false_iff]
  simp only [DisableWins, mem_build]

/-- The winner is a `Disable` exactly when the table disables. -/
theorem parseEnableDisableSourceTable_snd (table : List EnableDisableSource) :
    (parseEnableDisableSourceTable table).2.enableState = .Disable ↔
      (parseEnableDisableSourceTable table).1 = false := by
  have hw := winner_parseEnableDisableSourceTable table
  generalize parseEnableDisableSourceTable table = acc at hw ⊢
  by_cases hu : acc.2.enableState = .Unassigned
  · simp [hu, (hw.unassigned hu).1]
  · have ht := (hw.assigned hu).2.1
    cases hf : acc.1 <;> simp_all

end Charger

/-! ## Steps that are not about the enable state -/

namespace View

/-- What the flag knows: it is set in `Disabled`, and after a decision to disable. -/
structure DisableInv (v : View) : Prop where
  sequenced : v.Sequenced
  disabled : v.state = .Disabled → v.control.flagDisableRequested = true
  active : v.control.activeEnableDisableSource.enableState = .Disable →
    v.control.flagDisableRequested = true

/-- The enable state, with `flag`, `source` and `table`. -/
structure Decided (flag : Bool) (source : EnableDisableSource) (table : List EnableDisableSource)
    (v : View) : Prop where
  sequenced : v.Sequenced
  disabled : v.state = .Disabled → flag = true
  flag : v.control.flagDisableRequested = flag
  source : v.control.activeEnableDisableSource = source
  table : v.control.enableDisableSourceTable = table

section Decided

variable {v w : View} {flag init : Bool} {source : EnableDisableSource}
  {table : List EnableDisableSource}

theorem Case.disableRequested (h : Case init v w) (hq : v.Sequenced) (hs : w.state = .Disabled) :
    v.state = .Disabled ∨ v.control.flagDisableRequested := by
  cases h with
  | disabled h | enabled h => exact .inl h
  | disables _ hd | finishedDisabled _ hd => exact .inr hd
  | proceeds h _ _ hw | transactionStarts h _ _ hw | prepares h _ hw | preparesWithPower h _ hw =>
    exact absurd hs (hw.ongoing (by simp [h])).2.1
  | switched h => simp [hq.switching h] at hs
  | efEnds h => rcases hq.ef h with hr | hr <;> simp [hr] at hs
  | x1Ends h => rcases hq.x1 h with hr | hr <;> simp [hr] at hs
  | stopping h hw => rcases hw with rfl | rfl <;> simp [h] at hs
  | _ => simp_all

theorem Decided.pendingReinit (h : PendingReinit v w) (hv : Decided flag source table v) :
    Decided flag source table w := by
  have hq := hv.sequenced.pendingReinit h
  cases h with
  | none => exact hv
  | stops | starts => exact ⟨hq, fun hs => by simp at hs, hv.flag, hv.source, hv.table⟩

theorem Decided.pass (h : Pass v w) (hv : Decided flag source table v) :
    Decided flag source table w := by
  have hi := h.inputs
  refine ⟨hv.sequenced.pass h, fun hs => ?_, ?_, ?_, ?_⟩
  · obtain ⟨u, init, hr, -, hc⟩ := h.out
    have hu := hv.pendingReinit hr
    rcases hc.disableRequested hu.sequenced.note hs with hd | hd
    · exact hu.disabled hd
    · exact hu.flag.symm.trans hd
  · exact (congrArg Inputs.disableRequested hi).trans hv.flag
  · exact (congrArg Inputs.activeSource hi).trans hv.source
  · exact (congrArg Inputs.sourceTable hi).trans hv.table

theorem Decided.called (h : Called v w) (hv : Decided flag source table v) :
    Decided flag source table w := by
  obtain ⟨hq, hd, hf, hs, ht⟩ := hv
  have hq := hq.called h
  cases h with
  | errorSequence h => cases h <;> constructor <;> simp_all [throughEf, throughX1Ef]
  | evaluated | pluggedIn | stopPreparing | resumedByEv | switchesPhases | currentDemand
  | renegotiates | basicChargingX1 | basicChargingEf | matchesAgain =>
    constructor <;> simp_all [throughEf, throughX1Ef]
  | _ => exact ⟨hq, hd, hf, hs, ht⟩

end Decided

end View

namespace Charger

variable {cfg : ChargerConfig}

theorem keepsApart_decided (flag : Bool) (source : EnableDisableSource)
    (table : List EnableDisableSource) :
    KeepsApart cfg (fun _ => true) (View.Decided flag source table) where
  pass i c _ h := by
    rcases pass_view cfg i c with hp | ⟨-, -, hv⟩
    · exact h.pass hp
    · have hu := h.pendingReinit (processPendingReinitRequest_view c)
      rw [hv]
      exact { hu with sequenced := { hu.sequenced with } }
  called _ _ hc h := h.called hc

variable (c : Charger)

theorem decided_step {flag : Bool} {source : EnableDisableSource}
    {table : List EnableDisableSource} (op : Op) (hop : op.isEnabling = false)
    (h : View.Decided flag source table c.view) :
    View.Decided flag source table (c.step cfg op).view := by
  refine (keepsApart_decided flag source table).step c op hop
    (fun k _ => passesMeet_true k.inputs k.bound k.before) (fun hr => ?_) h
  rcases revoked_view cfg c op hr with hv | hv | hv <;> rw [hv]
  · exact h
  · exact { h with sequenced := { h.sequenced with } }
  · exact h.called .unauthorized

theorem decided_self {v : View} (h : v.DisableInv) : View.Decided v.control.flagDisableRequested
    v.control.activeEnableDisableSource v.control.enableDisableSourceTable v :=
  ⟨h.sequenced, h.disabled, rfl, rfl, rfl⟩

theorem disableInv_of_decided {v w : View} (h : v.DisableInv)
    (hw : View.Decided v.control.flagDisableRequested v.control.activeEnableDisableSource
      v.control.enableDisableSourceTable w) : w.DisableInv where
  sequenced := hw.sequenced
  disabled hs := hw.flag.trans (hw.disabled hs)
  active hs := by
    rw [hw.source] at hs
    exact hw.flag.trans (h.active hs)

/-! ## The calls -/

section Calls

/-- The table with the entry of a source. -/
abbrev tableWith (source : EnableDisableSource) (c : Charger) : List EnableDisableSource :=
  put enableSource source c.control.enableDisableSourceTable

variable (c : Charger) (connectorId : Int) (source : EnableDisableSource)

theorem table_update (table : List EnableDisableSource) :
    enableDisableSourceTableUpdate source table = put enableSource source table := by
  induction table with
  | nil => rfl
  | cons entry table ih =>
    unfold enableDisableSourceTableUpdate put
    rw [ih]

theorem decideEnabled_fst : (c.decideEnabled connectorId source).1 =
    (parseEnableDisableSourceTable (c.tableWith source)).1 := by
  simp [decideEnabled, table_update]

theorem decided_decideEnabled (h : c.view.DisableInv) :
    View.Decided c.control.flagDisableRequested
      (parseEnableDisableSourceTable (c.tableWith source)).2 (c.tableWith source)
      (c.decideEnabled connectorId source).2.view := by
  rw [tableWith, ← table_update]
  exact ⟨{ h.sequenced with }, h.disabled, rfl, rfl, rfl⟩

/-- What `enable_disable` does before the state machine runs: a new decision to disable sets the
flag, and a decision to enable clears it in `Disabled` only. -/
theorem decided_beforeDisableRun (hid : connectorId ≠ 0) (h : c.view.DisableInv) :
    View.Decided (!(c.decideEnabled connectorId source).1 ||
        (c.control.flagDisableRequested && decide (c.state ≠ .Disabled)))
      (parseEnableDisableSourceTable (c.tableWith source)).2 (c.tableWith source)
      (c.beforeDisableRun connectorId source).2.view := by
  have hd := decided_decideEnabled c connectorId source h
  have hsnd := parseEnableDisableSourceTable_snd (c.tableWith source)
  rw [← decideEnabled_fst c connectorId source] at hsnd
  have hce : (c.decideEnabled connectorId source).2.control.connectorEnabled =
      (c.decideEnabled connectorId source).1 := by simp [decideEnabled, hid]
  have hst : (c.decideEnabled connectorId source).2.state = c.state := rfl
  unfold beforeDisableRun
  dsimp only
  generalize (c.decideEnabled connectorId source).1 = e at hsnd hce ⊢
  generalize (c.decideEnabled connectorId source).2 = d at hd hce hst ⊢
  cases e with
  | false =>
    -- a disabled charger is not left, and the flag is set unless it was set before
    have hl : d.leaveDisabled = d := by simp [leaveDisabled, hce]
    have hw : d.control.activeEnableDisableSource.enableState = .Disable := by
      rw [show d.control.activeEnableDisableSource = _ from hd.source]
      exact hsnd.mpr rfl
    rw [hl, hw]
    by_cases hc : decisionChanged c.control.activeEnableDisableSource.enableState .Disable
    · rw [if_pos hc]
      exact ⟨{ hd.sequenced with }, fun _ => rfl, rfl, hd.source, hd.table⟩
    · have hla : c.control.activeEnableDisableSource.enableState = .Disable := by
        by_contra hne
        exact hc (by simp [decisionChanged, Ne.symm hne])
      have hf : c.control.flagDisableRequested := h.active hla
      rw [if_neg hc]
      exact ⟨hd.sequenced, fun _ => rfl, hd.flag.trans hf, hd.source, hd.table⟩
  | true =>
    have hv : (if decisionChanged c.control.activeEnableDisableSource.enableState
          d.leaveDisabled.control.activeEnableDisableSource.enableState = true then
          (true, d.leaveDisabled.applyDecision true) else (false, d.leaveDisabled)).2.view =
        d.leaveDisabled.view := by
      split_ifs <;> rfl
    rw [hv]
    unfold leaveDisabled
    rw [hce, hst]
    by_cases hs : c.state = .Disabled
    · simp only [Bool.not_true, Bool.false_or, hs, ne_eq, not_true_eq_false, decide_false,
        Bool.and_false]
      exact ⟨⟨nofun, nofun, nofun⟩, nofun, rfl, hd.source, hd.table⟩
    · simp only [Bool.not_true, Bool.false_or, hs, ne_eq, not_false_eq_true, decide_true,
        Bool.and_true]
      exact hd

variable (cfg : ChargerConfig) (i : ChargerInputs) (n : Nat)

theorem decided_enableDisable (hid : connectorId ≠ 0) (h : c.view.DisableInv) :
    View.Decided (!(c.enableDisable cfg i n connectorId source).1 ||
        (c.control.flagDisableRequested && decide (c.state ≠ .Disabled)))
      (parseEnableDisableSourceTable (c.tableWith source)).2 (c.tableWith source)
      (c.enableDisable cfg i n connectorId source).2.view := by
  have hb := decided_beforeDisableRun c connectorId source hid h
  unfold enableDisable
  dsimp only
  split_ifs
  · exact (keepsApart_decided _ _ _).run i n _ (passesMeet_true i n _) hb
  · exact hb

theorem disableInv_enableDisable (hid : connectorId ≠ 0) (h : c.view.DisableInv) :
    (c.enableDisable cfg i n connectorId source).2.view.DisableInv := by
  have hd := decided_enableDisable c connectorId source cfg i n hid h
  refine ⟨hd.sequenced, fun hs => hd.flag.trans (hd.disabled hs), fun hs => ?_⟩
  have hf : (c.enableDisable cfg i n connectorId source).1 = false := by
    rw [hd.source, parseEnableDisableSourceTable_snd,
      ← decideEnabled_fst c connectorId source] at hs
    exact hs
  rw [hd.flag, hf]
  rfl

/-- The initial state is an entry of its own, with the state as it is. -/
theorem decided_enableDisableInitialStatePublish (h : c.view.DisableInv) :
    View.Decided c.control.flagDisableRequested
      { unassignedSource with enableState := if c.state = .Disabled then .Disable else .Enable }
      (c.tableWith
        { unassignedSource with enableState := if c.state = .Disabled then .Disable else .Enable })
      c.enableDisableInitialStatePublish.view := by
  rw [tableWith, ← table_update]
  unfold enableDisableInitialStatePublish
  by_cases hs : c.state = .Disabled <;>
    simp only [hs, decide_true, decide_false, Bool.false_eq_true, if_true, if_false]
  all_goals exact ⟨{ h.sequenced with }, h.disabled, rfl, rfl, rfl⟩

theorem disableInv_enableDisableInitialStatePublish (h : c.view.DisableInv) :
    c.enableDisableInitialStatePublish.view.DisableInv := by
  have hd := decided_enableDisableInitialStatePublish c h
  refine ⟨hd.sequenced, fun hs => hd.flag.trans (hd.disabled hs), fun hs => ?_⟩
  apply h.disabled
  by_contra hne
  have hne : ¬ c.state = .Disabled := hne
  rw [hd.source] at hs
  simp [hne] at hs

end Calls

/-! ## Runs -/

/-- The entry that a step adds for its source. -/
def entryOf (c : Charger) : Op → Option EnableDisableSource
  | .enableDisable _ source _ _ => some source
  | .enableDisableInitialStatePublish => some { unassignedSource with
      enableState := if c.state = .Disabled then .Disable else .Enable }
  | _ => none

/-- The entries of a run, the oldest first. -/
def entries (cfg : ChargerConfig) : Charger → List Op → List EnableDisableSource
  | _, [] => []
  | c, op :: ops => (c.entryOf op).toList ++ entries cfg (c.step cfg op) ops

/-- `enable_disable` is called for a connector, and not for the whole EVSE. -/
def Op.forConnector : Op → Bool
  | .enableDisable connectorId .. => decide (connectorId ≠ 0)
  | _ => true

theorem isEnabling_cases (op : Op) : op.isEnabling = false ∨
    op = .enableDisableInitialStatePublish ∨
    ∃ connectorId source i n, op = .enableDisable connectorId source i n := by
  cases op with
  | enableDisable connectorId source i n => exact .inr (.inr ⟨_, _, _, _, rfl⟩)
  | enableDisableInitialStatePublish => exact .inr (.inl rfl)
  | _ => exact .inl rfl

theorem disableInv_step (op : Op) (hop : op.forConnector)
    (h : c.view.DisableInv) : (c.step cfg op).view.DisableInv := by
  rcases isEnabling_cases op with hn | rfl | ⟨connectorId, source, i, n, rfl⟩
  · exact disableInv_of_decided h (decided_step c op hn (decided_self h))
  · exact disableInv_enableDisableInitialStatePublish c h
  · exact disableInv_enableDisable c connectorId source cfg i n
      (by simpa [Op.forConnector] using hop) h

variable (ops : List Op)

theorem disableInv_run (hops : ∀ op ∈ ops, op.forConnector) (c : Charger)
    (h : c.view.DisableInv) : (run (step cfg) c ops).view.DisableInv := by
  induction ops generalizing c with
  | nil => exact h
  | cons op ops ih =>
    rw [forall_mem_cons] at hops
    exact ih hops.2 _ (disableInv_step c op hops.1 h)

theorem disableInv_init (cfg : ChargerConfig) (type2Socket : Bool) (ppAmpacity : Option Rat) :
    (init cfg type2Socket ppAmpacity).view.DisableInv :=
  ⟨⟨nofun, nofun, nofun⟩, nofun, nofun⟩

theorem table_step (op : Op) (hop : op.forConnector)
    (h : c.view.DisableInv) : (c.step cfg op).control.enableDisableSourceTable =
      (c.entryOf op).toList.foldl (fun table e => put enableSource e table)
        c.control.enableDisableSourceTable := by
  rcases isEnabling_cases op with hn | rfl | ⟨connectorId, source, i, n, rfl⟩
  · have he : c.entryOf op = none := by cases op <;> first | rfl | cases hn
    rw [he]
    exact (decided_step c op hn (decided_self h)).table
  · exact (decided_enableDisableInitialStatePublish c h).table
  · have hid : connectorId ≠ 0 := by simpa [Op.forConnector] using hop
    exact (decided_enableDisable c connectorId source cfg i n hid h).table

theorem table_run (hops : ∀ op ∈ ops, op.forConnector) (c : Charger)
    (h : c.view.DisableInv) : (run (step cfg) c ops).control.enableDisableSourceTable =
      (entries cfg c ops).foldl (fun table e => put enableSource e table)
        c.control.enableDisableSourceTable := by
  induction ops generalizing c with
  | nil => rfl
  | cons op ops ih =>
    rw [forall_mem_cons] at hops
    rw [run_cons, ih hops.2 _ (disableInv_step c op hops.1 h), table_step c op hops.1 h]
    exact (foldl_append ..).symm

theorem entries_concat (op : Op) : ∀ (ops : List Op) (c : Charger),
    entries cfg c (ops ++ [op]) = entries cfg c ops ++ ((run (step cfg) c ops).entryOf op).toList
  | [], c => by simp [entries]
  | op' :: ops, c => by
    rw [cons_append, entries, entries, entries_concat op ops, append_assoc, run_cons]

/-- The step is a call of `enable_disable`. -/
def Op.decides : Op → Bool
  | .enableDisable .. => true
  | _ => false

theorem flag_run (hops : ∀ op ∈ ops, op.decides = false) (c : Charger)
    (h : c.view.DisableInv) : (run (step cfg) c ops).control.flagDisableRequested =
      c.control.flagDisableRequested := by
  induction ops generalizing c with
  | nil => rfl
  | cons op ops ih =>
    rw [forall_mem_cons] at hops
    have hc : op.forConnector := by
      cases op <;> first | rfl | cases hops.1
    rw [run_cons, ih hops.2 _ (disableInv_step c op hc h)]
    rcases isEnabling_cases op with hn | rfl | ⟨connectorId, source, i, n, rfl⟩
    · exact (decided_step c op hn (decided_self h)).flag
    · exact (decided_enableDisableInitialStatePublish c h).flag
    · cases hops.1

/-- **What `enable_disable` returns and what it leaves behind**, for every call in every run. It
returns the decision on the latest entries. The flag agrees with it, unless an `Enable` finds the
flag set outside of `Disabled`. As long as they agree, the charger is in `Disabled` only after a
decision to disable it. -/
theorem enable_disable_decides (cfg : ChargerConfig) (type2Socket : Bool)
    (ppAmpacity : Option Rat) (ops : List Op) (hops : ∀ op ∈ ops, op.forConnector = true)
    (connectorId : Int) (hid : connectorId ≠ 0) (source : EnableDisableSource)
    (i : ChargerInputs) (n : Nat) :
    let c := run (step cfg) (init cfg type2Socket ppAmpacity) ops
    let r := c.enableDisable cfg i n connectorId source
    let history := entries cfg (init cfg type2Socket ppAmpacity)
      (ops ++ [.enableDisable connectorId source i n])
    (r.1 = false ↔ DisableWins history) ∧
      ((r.2.control.flagDisableRequested = true ↔ r.1 = false) ↔
        (DisableWins history ∨ c.control.flagDisableRequested = false ∨ c.state = .Disabled)) ∧
      ((r.2.control.flagDisableRequested = true ↔ r.1 = false) →
        ∀ later : List Op, (∀ op ∈ later, op.decides = false) →
          (run (step cfg) r.2 later).state = .Disabled → r.1 = false) := by
  intro c r history
  have hinv : c.view.DisableInv := disableInv_run ops hops _ (disableInv_init ..)
  have hd := decided_enableDisable c connectorId source cfg i n hid hinv
  have hta : c.tableWith source = build enableSource history := by
    have ht : c.control.enableDisableSourceTable = build enableSource
        (entries cfg (init cfg type2Socket ppAmpacity) ops) :=
      table_run ops hops _ (disableInv_init cfg type2Socket ppAmpacity)
    have hh : history = entries cfg (init cfg type2Socket ppAmpacity) ops ++ [source] :=
      entries_concat _ ops _
    rw [tableWith, hh, build_concat, ht]
  have hret : r.1 = false ↔ DisableWins history := by
    rw [← parseEnableDisableSourceTable_eq_false, ← hta, ← decideEnabled_fst c connectorId source]
    rfl
  have hf : r.2.control.flagDisableRequested =
      (!r.1 || (c.control.flagDisableRequested && decide (c.state ≠ .Disabled))) := hd.flag
  refine ⟨hret, ?_, fun ha later hl hs => ?_⟩
  · rw [← hret, hf]
    cases r.1 <;> cases c.control.flagDisableRequested <;> by_cases hs : c.state = .Disabled <;>
      simp [hs]
  · have hinv' : r.2.view.DisableInv :=
      disableInv_enableDisable c connectorId source cfg i n hid hinv
    have hids : ∀ op ∈ later, op.forConnector = true := by
      intro op hop
      have hn := hl op hop
      cases op <;> first | rfl | cases hn
    have hrun : (run (step cfg) r.2 later).view.DisableInv := disableInv_run later hids r.2 hinv'
    rw [← ha, ← flag_run later hl r.2 hinv']
    exact hrun.disabled hs

/-- Two sources disagree while the EV is charging. -/
def contestedWhileCharging : List Op :=
  chargingSession ++ [.enableDisable 1 ⟨.CSMS, .Enable, 20⟩ plainInputs 4,
    .enableDisable 1 ⟨.MobileApp, .Disable, 30⟩ plainInputs 4]

/-- A third source decides, and the EVSE is disabled once the contactor opens. -/
theorem charging_evse_disabled :
    let c := run (step {}) (init {} false none) contestedWhileCharging
    let r := c.enableDisable {} plainInputs 4 1 ⟨.LocalKeyLock, .Disable, 10⟩
    let later := [.processEvent .PowerOff plainInputs 8]
    (c.state = .Charging ∧ (run (step {}) r.2 later).state = .Disabled) ∧ r.1 = false ∧
      DisableWins (entries {} (init {} false none)
        (contestedWhileCharging ++
          [.enableDisable 1 ⟨.LocalKeyLock, .Disable, 10⟩ plainInputs 4])) := by
  have h := enable_disable_decides {} false none contestedWhileCharging (by decide) 1
    (by decide) ⟨.LocalKeyLock, .Disable, 10⟩ plainInputs 4
  refine ⟨by decide +kernel, ?_, h.1.mp (by decide +kernel)⟩
  exact h.2.2 (by decide +kernel) [.processEvent .PowerOff plainInputs 8] (by decide)
    (by decide +kernel)

/-- A charging EVSE is disabled: the session is torn down once the contactor opens. -/
def disabledWhileCharging : List Op :=
  chargingSession ++ [.enableDisable 1 ⟨.LocalAPI, .Disable, 0⟩ plainInputs 4]

/-- **An `Enable` during the teardown is lost.** The call returns that the EVSE is enabled, but the
flag stays set, and with the open contactor the charger goes to `Disabled`. -/
theorem enabled_session_stays_disabled :
    let c := run (step {}) (init {} false none) disabledWhileCharging
    let r := c.enableDisable {} plainInputs 4 1 ⟨.LocalAPI, .Enable, 0⟩
    r.1 = true ∧ r.2.control.flagDisableRequested = true ∧
      (r.2.processEvent {} plainInputs 8 .PowerOff).state = .Disabled := by
  exact ⟨by decide +kernel, by decide +kernel, by decide +kernel⟩

end Charger

end EverestCore.Evse

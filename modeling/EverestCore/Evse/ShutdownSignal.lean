import EverestCore.Evse.ErrorHandling

/-!
# The shutdown signal follows the worst active error

`raise_inoperative_error` signals a shutdown when it raises the Inoperative error, and again only
if the kind of shutdown changed. It compares the errors that are active now with a set that holds
one error for each type and sub-type, and skips everything if the types and sub-types are the same.
So the signal is right as long as that set shows whether one of the errors has severity High
(`severityShows`). `process_error` then adds up all errors but those of the over-voltage monitor
(`overVoltageOnly`).

Results:
* **`shutdown_follows_worst_error`**: for every sequence of events.
  `equal_kinds_hide_emergency` is a sequence in which the set does not show the severity.
-/

namespace EverestCore.Evse.ErrorHandling

open EverestCore.Lib EverestCore.Lib.Machine List

/-! ## Errors that prevent charging -/

/-- An error that prevents charging is active on `p_evse` or on something that is connected. -/
def Fatal (cfg : Config) (s : State) (e : Error) : Prop :=
  ∃ src, cfg.present src = true ∧ e ∈ s.active src ∧ preventsCharging src e = true

variable {s : State}

theorem mem_errorsPreventCharging {cfg : Config} {e : Error} :
    e ∈ errorsPreventCharging cfg s ↔ Fatal cfg s e := by
  have hall : ∀ src, src ∈ collectOrder := by
    intro src
    cases src <;> decide
  rw [errorsPreventCharging, mem_flatMap]
  constructor
  · rintro ⟨src, -, he⟩
    split_ifs at he with hsrc
    · obtain ⟨he, hf⟩ := mem_filter.mp he
      exact ⟨src, hsrc, he, hf⟩
    · cases he
  · rintro ⟨src, hsrc, he, hf⟩
    exact ⟨src, hall src, by rw [if_pos hsrc]; exact mem_filter.mpr ⟨he, hf⟩⟩

theorem isEmergency_iff {errors : List Error} :
    isEmergency errors ↔ ∃ e ∈ errors, e.severity = .High := by
  simp [isEmergency]

theorem preventsCharging_inoperative {e : Error} (h : e.type = inoperative) :
    preventsCharging .evse e = false := by
  simp [preventsCharging, ignoreErrors, h, inoperative]

section Update

variable (cfg : Config) (s : State) (f : List Error → List Error)

theorem update_evse : (s.update .evse f).active .evse = f (s.active .evse) := rfl

theorem update_of_ne {src : Source} (h : src ≠ .evse) :
    (s.update .evse f).active src = s.active src := if_neg h

/-- A change of `p_evse` that keeps its errors that prevent charging. -/
theorem errorsPreventCharging_update (h : ∀ db : List Error,
    (f db).filter (preventsCharging .evse) = db.filter (preventsCharging .evse)) :
    errorsPreventCharging cfg (s.update .evse f) = errorsPreventCharging cfg s := by
  refine flatMap_congr fun src _ => ?_
  by_cases hsrc : src = .evse
  · subst hsrc
    rw [update_evse, h]
  · rw [update_of_ne s f hsrc]

end Update

theorem filter_clearError (db : List Error) :
    (clearError inoperative "" db).filter (preventsCharging .evse) =
      db.filter (preventsCharging .evse) := by
  rw [clearError, filter_filter]
  refine filter_congr fun e _ => ?_
  by_cases h : e.type = inoperative
  · simp [preventsCharging_inoperative h]
  · simp [h]

theorem filter_raiseError (rank : Nat) {e : Error} (h : e.type = inoperative) (db : List Error) :
    (raiseError rank e db).filter (preventsCharging .evse) =
      db.filter (preventsCharging .evse) := by
  unfold raiseError
  split_ifs
  · rfl
  · rw [filter_append, filter_cons, preventsCharging_inoperative h,
      if_neg Bool.false_ne_true, ← filter_append, take_append_drop]

theorem isErrorActive_raiseError (rank : Nat) (e : Error) (db : List Error) :
    isErrorActive e.type e.subType (raiseError rank e db) := by
  unfold raiseError
  split_ifs with h
  · exact h
  · simp [isErrorActive]

theorem isErrorActive_clearError (type subType : String) (db : List Error) :
    isErrorActive type subType (clearError type subType db) = false := by
  simp only [isErrorActive, clearError, any_eq_false, mem_filter, Bool.not_eq_true',
    Bool.not_eq_true]
  exact fun e he => he.2

/-! ## `process_error` before it counts -/

/-- The last shutdown or all-clear that was signalled. -/
def lastSignalError (signals : List Signal) : Option ErrorHandlingEvents :=
  signals.findSome? fun
    | .error e => some e
    | .allErrorsCleared => none

/-- What a raise for `causes` that is not skipped leaves. -/
structure Raises (cfg : Config) (causes : List Error) (s s' : State) : Prop where
  fatal : errorsPreventCharging cfg s' = errorsPreventCharging cfg s
  active : s'.isInoperative = true
  stored : s'.inoperativeCauses = causesOf causes
  signals : s'.signals =
    if !s.isInoperative || isEmergency causes != isEmergency (causeErrors s.inoperativeCauses) then
      .error (shutdown (isEmergency causes)) :: s.signals
    else s.signals

variable (cfg : Config)

/-- A raise is skipped for the same causes, and made for all others. -/
theorem raiseInoperativeError_cases (rank : Nat) {causes : List Error}
    (hc : causes ≠ []) (s : State) : let s' := raiseInoperativeError cfg rank causes s
    (s.isInoperative ∧ sameCauses (causesOf causes) s.inoperativeCauses ∧ s' = s) ∨
      Raises cfg causes s s' := by
  obtain ⟨primary, others, rfl⟩ := exists_cons_of_ne_nil hc
  simp only [raiseInoperativeError]
  by_cases hs : (s.isInoperative && sameCauses (causesOf (primary :: others)) s.inoperativeCauses)
  · rw [if_pos hs]
    rw [Bool.and_eq_true] at hs
    exact .inl ⟨hs.1, hs.2, rfl⟩
  · refine .inr ?_
    set e := inoperativeError cfg primary others
    set t := if s.isInoperative then s.update .evse (clearError inoperative "") else s with ht
    have hcl : errorsPreventCharging cfg t = errorsPreventCharging cfg s := by
      rw [ht]
      split_ifs
      · exact errorsPreventCharging_update cfg s _ filter_clearError
      · rfl
    have hr : errorsPreventCharging cfg (t.update .evse (raiseError rank e)) =
        errorsPreventCharging cfg s :=
      (errorsPreventCharging_update cfg t _ (filter_raiseError rank rfl)).trans hcl
    have hact : (t.update .evse (raiseError rank e)).isInoperative :=
      isErrorActive_raiseError rank e (t.active .evse)
    have hsig : t.signals = s.signals := by
      rw [ht]
      split_ifs <;> rfl
    split_ifs with hsg
    · exact ⟨hr, hact, rfl, by rw [if_pos hsg, ← hsig]; rfl⟩
    · exact ⟨hr, hact, rfl, by rw [if_neg hsg, ← hsig]; rfl⟩

/-- What a clear leaves. -/
structure Clears (cfg : Config) (s s' : State) : Prop where
  fatal : errorsPreventCharging cfg s' = errorsPreventCharging cfg s
  active : s'.isInoperative = false
  evse : ∀ e ∈ s.active .evse, e ∈ s'.active .evse ∨ e.type = inoperative ∧ e.subType = ""
  others : ∀ src, src ≠ .evse → s'.active src = s.active src
  count : s'.signals.count .allErrorsCleared = s.signals.count .allErrorsCleared

theorem clearInoperativeError_clears (s : State) : Clears cfg s (clearInoperativeError s) := by
  unfold clearInoperativeError
  split_ifs with hact
  · refine ⟨errorsPreventCharging_update cfg s _ filter_clearError,
      isErrorActive_clearError _ _ _, fun e he => ?_, fun src hsrc => update_of_ne s _ hsrc, ?_⟩
    · by_cases h : e.type = inoperative ∧ e.subType = ""
      · exact .inr h
      · refine .inl (mem_filter.mpr ⟨he, ?_⟩)
        simpa [imp_iff_not_or] using h
    · simp [State.signal, State.update]
  · exact ⟨rfl, by simpa using hact, fun e he => .inl he, fun _ _ => rfl, rfl⟩

/-- The Inoperative error is active iff an error prevents charging. -/
theorem isInoperative_evaluateErrors (rank : Nat) (s : State) :
    (evaluateErrors cfg rank s).isInoperative ↔ errorsPreventCharging cfg s ≠ [] := by
  unfold evaluateErrors
  dsimp only
  split_ifs with hf
  · refine iff_of_true ?_ hf
    rcases raiseInoperativeError_cases cfg rank hf s with ⟨hact, -, heq⟩ | h
    · rw [heq]
      exact hact
    · exact h.active
  · have h := (clearInoperativeError_clears cfg s).active
    simp [h, hf]

theorem errorsPreventCharging_evaluateErrors (rank : Nat) (s : State) :
    errorsPreventCharging cfg (evaluateErrors cfg rank s) = errorsPreventCharging cfg s := by
  unfold evaluateErrors
  dsimp only
  split_ifs with hf
  · rcases raiseInoperativeError_cases cfg rank hf s with ⟨-, -, heq⟩ | h
    · rw [heq]
    · exact h.fatal
  · exact (clearInoperativeError_clears cfg s).fatal

/-! ## The severity -/

/-- The set of causes shows whether an error is of severity High: it does for the errors that are
active now, and it still does if their types and sub-types are those it was made of. -/
def severityShows (cfg : Config) (s : State) : Bool :=
  let fatal := errorsPreventCharging cfg s
  isEmergency (causeErrors (causesOf fatal)) == isEmergency fatal &&
    (!(s.isInoperative && sameCauses (causesOf fatal) s.inoperativeCauses) ||
      isEmergency (causeErrors s.inoperativeCauses) == isEmergency fatal)

/-- What is remembered of the causes says which shutdown was signalled. -/
def Follows (s : State) : Prop :=
  s.isInoperative = true →
    lastSignalError s.signals = some (shutdown (isEmergency (causeErrors s.inoperativeCauses)))

/-- The evaluation keeps it, and leaves the shutdown that the errors ask for. -/
theorem evaluateErrors_follows {cfg : Config} (rank : Nat) (hs : Follows s)
    (hsh : severityShows cfg s) : let s' := evaluateErrors cfg rank s
    Follows s' ∧ (s'.isInoperative →
      lastSignalError s'.signals =
        some (shutdown (isEmergency (errorsPreventCharging cfg s)))) := by
  simp only [severityShows, Bool.and_eq_true, beq_iff_eq, Bool.or_eq_true, Bool.not_eq_true',
    Bool.and_eq_false_iff] at hsh
  obtain ⟨hnow, hb⟩ := hsh
  unfold evaluateErrors
  dsimp only
  split_ifs with hf
  · rcases raiseInoperativeError_cases cfg rank hf s with ⟨hact, hsa, heq⟩ | h
    · -- skipped: the shutdown of the remembered causes is the one of the errors
      rw [heq]
      refine ⟨hs, fun _ => ?_⟩
      have hk := hb.resolve_left (by simp [hact, hsa])
      rw [← hk]
      exact hs hact
    · have hl : lastSignalError (raiseInoperativeError cfg rank
          (errorsPreventCharging cfg s) s).signals =
          some (shutdown (isEmergency (errorsPreventCharging cfg s))) := by
        rw [h.signals]
        split_ifs with hsig
        · rfl
        · -- the kind of shutdown did not change
          simp only [Bool.or_eq_true, Bool.not_eq_true', bne_iff_ne, ne_eq, not_or,
            Bool.not_eq_false, not_not] at hsig
          rw [hsig.2]
          exact hs hsig.1
      refine ⟨fun _ => ?_, fun _ => hl⟩
      rw [hl, h.stored, hnow]
  · have h := (clearInoperativeError_clears cfg s).active
    exact ⟨fun h' => absurd h' (by simp [h]), fun h' => absurd h' (by simp [h])⟩

/-! ## The count -/

/-- Only the over-voltage monitor has errors, and none of them prevents charging. -/
def overVoltageOnly (cfg : Config) (s : State) : Bool :=
  cfg.present .overVoltageMonitor && !(s.active .overVoltageMonitor).isEmpty &&
    (errorsPreventCharging cfg s).isEmpty &&
    countedSources.all fun src => !cfg.present src ||
      (s.active src).all fun e => src == .evse && e.type == inoperative && e.subType == ""

theorem errorCount_eq_zero {cfg : Config} :
    errorCount cfg s = 0 ↔
      ∀ src, src ≠ .overVoltageMonitor → cfg.present src → s.active src = [] := by
  have hc : ∀ src, src ≠ .overVoltageMonitor ↔ src ∈ countedSources := by
    intro src
    cases src <;> decide
  simp only [errorCount, List.sum_eq_zero_iff_forall_eq_nat, List.mem_map, hc]
  constructor
  · intro h src hsrc hpre
    have hlen := h _ ⟨src, hsrc, rfl⟩
    rw [if_pos hpre] at hlen
    exact List.eq_nil_of_length_eq_zero hlen
  · rintro h _ ⟨src, hsrc, rfl⟩
    split_ifs with hpre
    · rw [h src hsrc hpre, List.length_nil]
    · rfl

/-- When nothing is counted, nothing is active, unless only the over-voltage monitor has errors. -/
theorem evaluateErrors_count {cfg : Config} (rank : Nat) (hon : overVoltageOnly cfg s = false)
    (hco : errorCount cfg (evaluateErrors cfg rank s) = 0) (src : Source)
    (hpre : cfg.present src) : (evaluateErrors cfg rank s).active src = [] := by
  rw [errorCount_eq_zero] at hco
  by_cases hsrc : src = .overVoltageMonitor
  · subst hsrc
    -- the Inoperative error would have been counted
    have hi : ¬ (evaluateErrors cfg rank s).isInoperative := by
      rw [State.isInoperative, hco .evse (by decide) rfl]
      exact Bool.false_ne_true
    have hno : errorsPreventCharging cfg s = [] := by
      by_contra h
      exact hi ((isInoperative_evaluateErrors cfg rank s).mpr h)
    have hev : evaluateErrors cfg rank s = clearInoperativeError s := by
      simp [evaluateErrors, hno]
    have hc := clearInoperativeError_clears cfg s
    rw [hev] at hco ⊢
    rw [hc.others _ (by decide)]
    by_contra hne
    have hall : ∀ src' ∈ countedSources, cfg.present src' → ∀ e ∈ s.active src',
        src' = .evse ∧ e.type = inoperative ∧ e.subType = "" := by
      intro src' hsrc' hpre' e he
      have hg := hco src' (by rintro rfl; exact absurd hsrc' (by decide)) hpre'
      by_cases hes : src' = .evse
      · subst hes
        rcases hc.evse e he with h | h
        · rw [hg] at h
          cases h
        · exact ⟨rfl, h⟩
      · rw [hc.others src' hes] at hg
        rw [hg] at he
        cases he
    have ht : overVoltageOnly cfg s := by
      simp only [overVoltageOnly, hpre, hno, Bool.true_and, isEmpty_nil, Bool.and_true,
        Bool.and_eq_true, Bool.not_eq_true', isEmpty_eq_false_iff, all_eq_true,
        Bool.or_eq_true, beq_iff_eq]
      refine ⟨hne, fun src' hsrc' => ?_⟩
      by_cases hp : cfg.present src'
      · exact .inr fun e he => ⟨⟨(hall src' hsrc' hp e he).1, (hall src' hsrc' hp e he).2.1⟩,
          (hall src' hsrc' hp e he).2.2⟩
      · exact .inl (by simpa using hp)
    rw [ht] at hon
    cases hon
  · exact hco src hsrc hpre

/-! ## Whole histories -/

/-- An event that the check sees for what it is. -/
def plain (cfg : Config) (s : State) : Event → Bool
  -- the Inoperative error belongs to `process_error`
  | .raised src e _ => !(src == .evse && e.type == inoperative && e.subType == "")
  | .cleared _ _ _ => true
  | .process _ => severityShows cfg s && !overVoltageOnly cfg s

theorem isInoperative_update {src : Source} {f : List Error → List Error}
    (hf : src = .evse → ∀ db, isErrorActive inoperative "" (f db) → isErrorActive inoperative "" db)
    (h : (s.update src f).isInoperative) : s.isInoperative := by
  by_cases hsrc : src = .evse
  · subst hsrc
    exact hf rfl _ h
  · have hs : (s.update src f).active .evse = s.active .evse := if_neg fun h' => hsrc h'.symm
    rwa [State.isInoperative, hs] at h

theorem step_follows (s : State) (event : Event) (hp : plain cfg s event)
    (hs : Follows s) : Follows (step cfg s event) := by
  cases event with
  | raised src e rank =>
    refine fun h => hs (isInoperative_update (fun hsrc db hdb => ?_) h)
    unfold raiseError at hdb
    split_ifs at hdb with hin
    · exact hdb
    · have hne : (e.type == inoperative && e.subType == "") = false := by
        simpa [plain, hsrc, imp_iff_not_or] using hp
      rw [isErrorActive, any_append, any_cons, hne, Bool.false_or, ← any_append,
        take_append_drop] at hdb
      exact hdb
  | cleared src type subType =>
    refine fun h => hs (isInoperative_update (fun _ db hdb => ?_) h)
    simp only [isErrorActive, clearError, any_eq_true, mem_filter] at hdb ⊢
    obtain ⟨e, ⟨he, -⟩, hkey⟩ := hdb
    exact ⟨e, he, hkey⟩
  | process rank =>
    simp only [plain, Bool.and_eq_true] at hp
    have hf := (evaluateErrors_follows rank hs hp.1).1
    simp only [step, processError]
    split_ifs
    · exact hf
    · exact hf

theorem count_evaluateErrors (rank : Nat) (s : State) :
    (evaluateErrors cfg rank s).signals.count .allErrorsCleared =
      s.signals.count .allErrorsCleared := by
  unfold evaluateErrors
  dsimp only
  split_ifs with hf
  · rcases raiseInoperativeError_cases cfg rank hf s with ⟨-, -, heq⟩ | h
    · rw [heq]
    · rw [h.signals]
      split_ifs
      · exact count_cons_of_ne (by simp)
      · rfl
  · exact (clearInoperativeError_clears cfg s).count

/-- Counting adds a signal at most. -/
theorem processError_eq (rank : Nat) (s : State) : let s' := processError cfg rank s
    let t := evaluateErrors cfg rank s
    s'.active = t.active ∧ lastSignalError s'.signals = lastSignalError t.signals ∧
      (s'.signals.count .allErrorsCleared ≠ s.signals.count .allErrorsCleared →
        errorCount cfg t = 0) := by
  simp only [processError]
  split_ifs with hc
  · exact ⟨rfl, rfl, fun _ => hc⟩
  · exact ⟨rfl, rfl, fun h => absurd (count_evaluateErrors cfg rank s) h⟩

/-- **The shutdown signal follows the worst active error.** For every history from a state without
the Inoperative error whose events are plain, after every `process_error`: the Inoperative error is
active iff an error prevents charging; while it is, the last signal is the emergency shutdown iff
such an error has severity High, and the error shutdown otherwise; and that all errors are cleared
is signalled only if no error at all is active. -/
theorem shutdown_follows_worst_error (cfg : Config) (s₀ : State) (h₀ : s₀.isInoperative = false)
    (events : List Event) (rank : Nat)
    (hrun : Along (step cfg) (fun s event => plain cfg s event = true) s₀
      (events ++ [.process rank])) :
    let before := run (step cfg) s₀ events
    let s := run (step cfg) s₀ (events ++ [.process rank])
    (s.isInoperative = true ↔ ∃ e, Fatal cfg s e) ∧
      (s.isInoperative = true →
        (lastSignalError s.signals = some .ForceEmergencyShutdown ↔
          ∃ e, Fatal cfg s e ∧ e.severity = .High) ∧
        (lastSignalError s.signals = some .ForceErrorShutdown ↔
          ¬ ∃ e, Fatal cfg s e ∧ e.severity = .High)) ∧
      (s.signals.count .allErrorsCleared ≠ before.signals.count .allErrorsCleared →
        ∀ src, cfg.present src = true → s.active src = []) := by
  intro before s
  obtain ⟨ha, hp⟩ := along_concat.mp hrun
  simp only [plain, Bool.and_eq_true, Bool.not_eq_true'] at hp
  have hf : Follows before :=
    run_invariant_along (fun s event => step_follows cfg s event) events ha
      fun h => absurd h (by simp [h₀])
  have hs : s = processError cfg rank before := run_concat _ _ _ _
  obtain ⟨hact, hl, hc⟩ := processError_eq cfg rank before
  rw [← hs] at hact hl hc
  have hi : s.isInoperative = (evaluateErrors cfg rank before).isInoperative := by
    rw [State.isInoperative, hact]
    rfl
  have hfa : ∀ e, Fatal cfg s e ↔ e ∈ errorsPreventCharging cfg before := by
    intro e
    rw [← errorsPreventCharging_evaluateErrors cfg rank before, mem_errorsPreventCharging, Fatal,
      hact]
    rfl
  refine ⟨?_, fun h => ?_, fun h src hpre => ?_⟩
  · rw [hi, isInoperative_evaluateErrors]
    simp only [hfa]
    exact ⟨exists_mem_of_ne_nil _, fun ⟨_, he⟩ => ne_nil_of_mem he⟩
  · have hsig := (evaluateErrors_follows rank hf hp.1).2 (hi ▸ h)
    rw [hl, hsig]
    simp only [hfa, ← isEmergency_iff]
    cases isEmergency (errorsPreventCharging cfg before) <;> simp [shutdown]
  · rw [hact]
    exact evaluateErrors_count rank hp.2 (hc h) src hpre

/-- Everything is connected. -/
def allConnected : Config where
  connected := fun _ => true
  inoperativeErrorUseVendorId := false

/-- No error anywhere. -/
def noErrors : State where
  active := fun _ => []
  inoperativeCauses := ∅
  signals := []

/-- An error without texts. -/
def bare (type : String) (severity : Severity) : Error := ⟨type, "", "", "", "", severity⟩

/-- A fault of the SLAC module, and then an emergency of the HLC module: two kinds. -/
theorem shutdown_follows_emergency :
    lastSignalError (run (step allConnected) noErrors
      ([.raised .slac (bare "generic/CommunicationFault" .Medium) 0, .process 0,
        .raised .hlc (bare "generic/VendorError" .High) 0] ++ [.process 0])).signals =
      some .ForceEmergencyShutdown := by
  have h := shutdown_follows_worst_error allConnected noErrors (by decide)
    [.raised .slac (bare "generic/CommunicationFault" .Medium) 0, .process 0,
      .raised .hlc (bare "generic/VendorError" .High) 0] 0 (by decide +kernel)
  exact (h.2.1 (by decide +kernel)).1.mpr
    ⟨bare "generic/VendorError" .High, ⟨.hlc, rfl, by decide +kernel, by decide +kernel⟩, rfl⟩

/-- The same kind of fault in both modules hides the emergency, and a warning of the over-voltage
monitor is not counted. -/
theorem equal_kinds_hide_emergency :
    let faults := run (step allConnected) noErrors
      [.raised .slac (bare "generic/CommunicationFault" .Medium) 0, .process 0,
        .raised .hlc (bare "generic/CommunicationFault" .High) 0, .process 0]
    let warning := run (step allConnected) noErrors
      [.raised .overVoltageMonitor (bare "over_voltage_monitor/VendorWarning" .Low) 0, .process 0]
    bare "generic/CommunicationFault" .High ∈ faults.active .hlc ∧
      lastSignalError faults.signals = some .ForceErrorShutdown ∧
      warning.active .overVoltageMonitor ≠ [] ∧ warning.signals = [.allErrorsCleared] := by
  decide +kernel

end EverestCore.Evse.ErrorHandling

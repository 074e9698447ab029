import EverestCore.Evse.Charger.Steps

/-!
# Emergency shutdown

An emergency shutdown has to withdraw the power in every state. The states react by themselves, when
they evaluate the error. Some do not: `StoppingCharging` waits for the relays first,
`ChargingPausedEV` and `Reinit` never look at the error, and `ChargingPausedEVSE` looks at the end
of the session first.

Results:
* **`emergency_shutdown_withdraws_power`**: when a call with a pending emergency shutdown ends with
  an open contactor or without power.
* `pausing_overlooks_emergency_shutdown`: a pause hides an emergency shutdown.
-/

namespace EverestCore.Evse

open EverestCore.Lib.Log View.Inputs
open EverestCore.Lib.Machine

/-! ## Withdrawn power -/

namespace View

/-- The last `allow_power_on(true)` is followed by an `allow_power_on(false)`. -/
def Withdrawn (v : View) : Prop :=
  FollowedBy (fun m => decide (m = .power true)) (fun m => decide (m = .power false)) v.marks

instance (v : View) : Decidable v.Withdrawn := by
  unfold Withdrawn
  infer_instance

section Withdrawn

variable {v : View} {init : Bool}

@[simp] theorem withdrawn_push (m : Mark) : (v.push m).Withdrawn ↔
    m = .power false ∨ (m ≠ .power true ∧ v.Withdrawn) := by
  simp only [Withdrawn, push, followedBy_cons, decide_eq_true_eq, decide_eq_false_iff_not, ne_eq]

@[simp] theorem withdrawn_setState (s : EvseState) : (v.setState s).Withdrawn ↔ v.Withdrawn :=
  .rfl

@[simp] theorem withdrawn_endUntilUnmatched : v.endUntilUnmatched.Withdrawn ↔ v.Withdrawn :=
  .rfl

theorem SameSession.withdrawn {w : View} (h : SameSession v w) : w.Withdrawn ↔ v.Withdrawn := by
  rw [Withdrawn, h.marks, Withdrawn]

@[simp] theorem withdrawn_startSession : v.startSession.Withdrawn ↔ v.Withdrawn := by
  simp [startSession, Withdrawn, push, followedBy_cons]

@[simp] theorem withdrawn_stopSession : v.stopSession.Withdrawn ↔ v.Withdrawn := by
  simp [stopSession, Withdrawn, push, followedBy_cons]

@[simp] theorem withdrawn_startTransaction : v.startTransaction.Withdrawn ↔ v.Withdrawn := by
  simp [startTransaction, Withdrawn, push, followedBy_cons]

@[simp] theorem withdrawn_evaluate : v.evaluate.Withdrawn ↔ v.Withdrawn ∨
    ¬ (v.control.lastShutdownType = v.control.shutdownType ∨ v.control.shutdownType = .None) := by
  unfold View.evaluate
  split_ifs with h
  · exact ⟨.inl, fun hv => hv.resolve_right (not_not.mpr h)⟩
  · exact iff_of_true ((withdrawn_push _).mpr (.inl rfl)) (.inr h)

@[simp] theorem withdrawn_enterIdle : (v.enterIdle init).Withdrawn ↔ v.Withdrawn := by
  unfold enterIdle deauthorize
  split_ifs
  · exact withdrawn_stopSession
  · exact .rfl
  · exact .rfl

@[simp] theorem withdrawn_enterWaiting : (v.enterWaiting init).Withdrawn ↔ init ∨ v.Withdrawn := by
  cases init with
  | false => simp [enterWaiting]
  | true =>
    simp only [enterWaiting, if_true]
    split_ifs <;> simp

@[simp] theorem withdrawn_enterFinished :
    (v.enterFinished init).Withdrawn ↔ init ∨ v.Withdrawn := by
  cases init <;> simp [enterFinished]

end Withdrawn

/-! ## The invariant -/

/-- The power is withdrawn after every evaluated error, while there is no session, and once
`Finished` is initialised. -/
structure PowerInv (v : View) : Prop where
  fault : v.control.lastShutdownType ≠ .None → v.Withdrawn
  idle : v.state = .Idle ∨ v.state = .Disabled → v.Withdrawn
  finished : v.state = .Finished → v.control.lastStateDetectStateChange = .Finished → v.Withdrawn

/-- `fault` of `PowerInv`. -/
def Faulted (v : View) : Prop := v.control.lastShutdownType ≠ .None → v.Withdrawn

/-- The evaluation of an error withdraws the power, if it did so the last time. -/
theorem Faulted.error {v : View} (h : v.Faulted) (hs : v.control.shutdownType ≠ .None) :
    v.Withdrawn ∨ v.control.lastShutdownType ≠ v.control.shutdownType := by
  by_contra hn
  rw [not_or, not_not] at hn
  exact hn.1 (h (hn.2 ▸ hs))

theorem SameSession.faulted {v w : View} (h : SameSession v w) (hv : v.Faulted) : w.Faulted := by
  rw [Faulted, h.shutdown, h.withdrawn]
  exact hv

namespace PowerInv

variable {v w : View} {init : Bool}

theorem of_state (hf : w.Faulted)
    (h : w.state ≠ .Idle ∧ w.state ≠ .Disabled ∧ w.state ≠ .Finished) : w.PowerInv :=
  ⟨hf, fun hs => (hs.elim h.1 h.2.1).elim, fun hs => absurd hs h.2.2⟩

theorem errorSequence (h : ErrorSequence v w) (hv : v.PowerInv) : w.PowerInv := by
  cases h with
  | none => exact hv
  | ef | x1 => exact of_state hv.fault (by simp)

/-- The outcomes of a state that is noted, and initialised if `init` says so. -/
theorem case (h : Case init v w) (hq : v.Sequenced) (hf : v.Faulted)
    (hi : v.state = .Idle ∨ v.state = .Disabled → v.Withdrawn)
    (hfin : init = false → v.state = .Finished → v.Withdrawn)
    (hl : v.control.lastStateDetectStateChange = v.state) : w.PowerInv := by
  have he := hf.error
  unfold Faulted at hf
  -- most outcomes are decided by their marks
  cases h with
  | proceeds h _ _ hw | transactionStarts h _ _ hw =>
    exact of_state (hw.same.faulted (by simp_all [Faulted])) (hw.ongoing (by simp [h]))
  | prepares h _ hw | preparesWithPower h _ hw =>
    exact of_state (hw.same.faulted (by simp_all [Faulted])) (hw.ongoing (by simp [h]))
  | switched h =>
    have hr := hq.switching h
    constructor <;> simp_all
  | efEnds h =>
    have hr := hq.ef h
    rcases hr with hr | hr <;> constructor <;> simp_all
  | x1Ends h =>
    have hr := hq.x1 h
    rcases hr with hr | hr <;> constructor <;> simp_all
  | stopping _ hw | stoppingEnds _ hw | stoppingPausesEvse _ hw | stoppingFaults _ hw
  | stoppingPausesEv _ hw => rcases hw with rfl | rfl <;> constructor <;> simp_all
  | waitingEnds | finished | finishedIdle | finishedDisabled =>
    cases init <;> constructor <;> simp_all
  | _ => constructor <;> simp_all

theorem pass (h : Pass v w) (hq : v.Sequenced) (hv : v.PowerInv) : w.PowerInv := by
  obtain ⟨u, init, hr, hin, hc⟩ := h.out
  have hu : u.Faulted := hr.same.faulted hv.fault
  refine case hc (hq.pendingReinit hr).note hu ?_ ?_ rfl
  · -- a pending reinit leaves `Idle` and `Disabled`
    cases hr with
    | none => exact hv.idle
    | stops | starts => exact fun h => by simp at h
  · intro hi hs
    have hl := hin hi
    cases hr with
    | none => exact hv.finished hs (hl.trans hs)
    | stops | starts => simp at hs

theorem called (h : Called v w) (hv : v.PowerInv) : w.PowerInv := by
  cases h with
  | pluggedIn h => exact of_state (fun _ => hv.idle (.inl h)) (by simp)
  | evaluated =>
    have he := Faulted.error hv.fault
    obtain ⟨hf, hi, hn⟩ := hv
    constructor <;> simp_all
  | authorizedFirst h =>
    have hw := withdrawn_startSession.mpr (hv.idle (.inl h))
    exact ⟨fun _ => hw, fun _ => hw, fun _ _ => hw⟩
  | powerOff | renegotiates =>
    have hw : (v.push (.power false)).Withdrawn := (withdrawn_push _).mpr (.inl rfl)
    exact ⟨fun _ => hw, fun _ => hw, fun _ _ => hw⟩
  | errorSequence h => exact errorSequence h hv
  | stopPreparing | resumedByEv | switchesPhases | currentDemand | basicChargingX1
  | basicChargingEf | matchesAgain => exact of_state hv.fault (by simp)
  | _ => exact { hv with }

theorem enabling (h : Enabling v w) (hv : v.PowerInv) : w.PowerInv := by
  cases h with
  | leavesDisabled h => exact ⟨hv.fault, fun _ => hv.idle (.inr h), nofun⟩
  | _ => exact { hv with }

theorem stopSession (hv : v.PowerInv) : v.stopSession.PowerInv :=
  ⟨fun h => withdrawn_stopSession.mpr (hv.fault h), fun h => withdrawn_stopSession.mpr (hv.idle h),
    fun h hl => withdrawn_stopSession.mpr (hv.finished h hl)⟩

end PowerInv

/-! ## Passes with an error -/

/-- The power may flow: the contactor is closed, and no `allow_power_on(false)` was given since. -/
def Powered (v : View) : Prop := v.control.contactorOpen = false ∧ ¬ v.Withdrawn

instance (v : View) : Decidable v.Powered := by
  unfold Powered
  infer_instance

/-- These states evaluate an error before anything else. -/
def Reacts (v : View) : Prop :=
  v.state = .WaitingForAuthentication ∨ v.state = .SwitchPhases ∨ v.state = .T_step_EF ∨
    v.state = .T_step_X1 ∨ v.state = .PrepareCharging ∨ v.state = .Charging ∨
    (v.state = .ChargingPausedEVSE ∧ v.sessionEnds = false)

section Error

variable {v w : View} {init : Bool}

theorem Case.withdrawn_of_reacts (h : Case init v w) (hv : v.Reacts) (hf : v.Faulted)
    (he : v.control.shutdownType ≠ .None) : w.Withdrawn := by
  have hev := hf.error he
  unfold Reacts at hv
  cases h with
  | waitingEnds => cases init <;> simp_all
  | _ => simp_all

theorem Case.withdrawn (h : Case init v w) (hv : v.Withdrawn)
    (he : v.control.shutdownType ≠ .None) : w.Withdrawn := by
  cases h with
  | stopping _ hw | stoppingEnds _ hw | stoppingPausesEvse _ hw | stoppingFaults _ hw
  | stoppingPausesEv _ hw => rcases hw with rfl | rfl <;> simp_all
  | _ => simp_all

theorem Case.withdrawn_of_finished (h : Case init v w) (hs : v.state = .Finished)
    (hv : init = false → v.Withdrawn) : w.Withdrawn := by
  cases h with
  | finished | finishedIdle | finishedDisabled => cases init <;> simp_all
  | _ => exact absurd (hs.symm.trans ‹v.state = _›) (by decide)

theorem Pass.withdrawn (h : Pass v w) (hv : v.Withdrawn) (he : v.control.shutdownType ≠ .None) :
    w.Withdrawn := by
  obtain ⟨u, init, hr, -, hc⟩ := h.out
  exact hc.withdrawn (hr.same.withdrawn.mpr hv) (by cases hr <;> exact he)

end Error

end View

namespace Charger

variable {cfg : ChargerConfig}

/-- What holds in every run with `ac_with_soc_timeout` off. -/
structure Safe (v : View) : Prop where
  sequenced : v.Sequenced
  power : v.PowerInv
  timeout : v.socTimeout = false

theorem Safe.called {v w : View} (h : View.Called v w) (hv : Safe v) : Safe w := by
  refine ⟨hv.sequenced.called h, hv.power.called h, ?_⟩
  have ht := hv.timeout
  cases h with
  | evaluated => exact (congrArg socTimeout v.inputs_evaluate).trans ht
  | errorSequence h => exact (congrArg socTimeout h.inputs).trans ht
  | _ => exact ht

theorem Safe.enabling {v w : View} (h : View.Enabling v w) (hv : Safe v) : Safe w := by
  refine ⟨hv.sequenced.enabling h, hv.power.enabling h, ?_⟩
  have ht := hv.timeout
  cases h <;> exact ht

theorem pass_view_of_safe (i : ChargerInputs) {c : Charger} (h : c.view.socTimeout = false) :
    View.Pass c.view (c.pass cfg i).2.view := by
  rcases pass_view cfg i c with hp | ⟨-, hs, -⟩
  · exact hp
  · rw [h] at hs
    cases hs

theorem keeps_safe : Keeps cfg (fun _ => true) Safe where
  pass i c _ h := by
    have hp : View.Pass c.view (c.pass cfg i).2.view := pass_view_of_safe i h.timeout
    exact ⟨h.sequenced.pass hp, h.power.pass hp h.sequenced,
      (congrArg socTimeout hp.inputs).trans h.timeout⟩
  called _ _ hc h := h.called hc
  enabling _ _ he h := h.enabling he

theorem safe_step (c : Charger) (op : Op) (h : Safe c.view) : Safe (c.step cfg op).view := by
  refine keeps_safe.step c op (fun k _ => passesMeet_true k.inputs k.bound k.before) ?_ h
  intro hr
  rcases revoked_view cfg c op hr with hv | hv | hv <;> rw [hv]
  · exact h
  · exact ⟨{ h.sequenced with }, h.power.stopSession, h.timeout⟩
  · exact h.called .unauthorized

theorem safe_init (h : cfg.acWithSocTimeout = false) (type2Socket : Bool)
    (ppAmpacity : Option Rat) : Safe (init cfg type2Socket ppAmpacity).view := by
  refine ⟨⟨nofun, nofun, nofun⟩, ⟨fun _ => ?_, fun _ => ?_, nofun⟩, h⟩
  all_goals
    exact followedBy_nil

theorem safe_run (h : cfg.acWithSocTimeout = false) (type2Socket : Bool) (ppAmpacity : Option Rat)
    (ops : List Op) : Safe (run (step cfg) (init cfg type2Socket ppAmpacity) ops).view :=
  run_invariant (I := fun c : Charger => Safe c.view) safe_step ops
    (safe_init h type2Socket ppAmpacity)

/-- **The CP sequences go on with the session, in every run**: `T_step_EF` and `T_step_X1` return to
`PrepareCharging` or `WaitingForAuthentication`, a switch of phases to `PrepareCharging`. -/
theorem cp_sequences_resume (cfg : ChargerConfig) (type2Socket : Bool) (ppAmpacity : Option Rat)
    (ops : List Op) : (run (step cfg) (init cfg type2Socket ppAmpacity) ops).view.Sequenced := by
  have hI : Keeps cfg (fun _ => true) View.Sequenced := by
    refine ⟨⟨fun i c _ h => ?_, fun _ _ hc h => h.called hc⟩, fun _ _ he h => h.enabling he⟩
    rcases pass_view cfg i c with hp | ⟨-, -, hv⟩
    · exact h.pass hp
    · exact hv ▸ { h.pendingReinit (processPendingReinitRequest_view c) with }
  refine run_invariant (I := fun c : Charger => c.view.Sequenced) (fun c op h => ?_) ops
    ⟨nofun, nofun, nofun⟩
  refine hI.step c op (fun k _ => passesMeet_true _ _ _) (fun hr => ?_) h
  rcases revoked_view cfg c op hr with hv | hv | hv <;> rw [hv]
  · exact h
  · exact { h with }
  · exact h.called .unauthorized

/-- **Power is withdrawn where no session needs it**, in every run with `ac_with_soc_timeout` off:
in `Idle` and `Disabled`, in `Finished` once it is initialised, and after an error was evaluated. -/
theorem power_withdrawn_in_every_run (h : cfg.acWithSocTimeout = false) (type2Socket : Bool)
    (ppAmpacity : Option Rat) (ops : List Op) :
    (run (step cfg) (init cfg type2Socket ppAmpacity) ops).view.PowerInv :=
  (safe_run h type2Socket ppAmpacity ops).power

/-- An emergency shutdown during the charging. -/
def shutdownWhileCharging : List Op :=
  chargingSession ++ [.errorEvent .ForceEmergencyShutdown]

/-- The error is evaluated while the contactor is still closed. -/
theorem power_withdrawn_after_charging :
    let c := run (step {}) (init {} false none) (shutdownWhileCharging ++ [.tick plainInputs 4])
    (c.control.contactorOpen = false ∧ c.control.lastShutdownType ≠ .None) ∧ c.view.PowerInv :=
  ⟨by decide +kernel, power_withdrawn_in_every_run rfl false none _⟩

/-! ## Overlooked errors -/

/-- `StoppingCharging` has lasted for too long, and no pause of the ramp is to be notified first. -/
def hardStopDue (c : Charger) : Bool :=
  !c.pendingInit && !c.d20PauseAtZero &&
    decide (c.stoppingChargingTimeoutMs < c.now - c.currentStateStarted)

/-- `Reinit` ends with the next pass. -/
def reinitEnding (c : Charger) : Bool :=
  if c.pendingInit then decide (c.seq.reinitDuration ≤ 0) else c.reinitOver

/-- `ChargingPausedEV` is left with the next pass, for a state that evaluates errors. -/
def pauseEnding (cfg : ChargerConfig) (c : Charger) : Bool :=
  !c.sessionEnds && if c.hlc.chargingActive then c.restartedByEv else !(c.powerAvailable cfg).1

/-- No pass of a call that starts here evaluates an error while the contactor is closed. -/
def overlooksError (cfg : ChargerConfig) (c : Charger) : Bool :=
  match c.pendingState with
  | .StoppingCharging => !c.hardStopDue
  | .ChargingPausedEV => !c.pauseEnding cfg
  | .ChargingPausedEVSE => c.sessionEnds
  | .Reinit => !c.reinitEnding
  | _ => false

/-- What a pass leaves alone before it runs its state, besides the view. -/
structure SameTiming (c d : Charger) : Prop where
  now : d.now = c.now
  bcb : d.bcb = c.bcb
  limits : d.limits = c.limits
  timeout : d.stoppingChargingTimeoutMs = c.stoppingChargingTimeoutMs
  started : d.currentStateStarted = c.currentStateStarted
  hlc : ∃ t, d.hlc = { c.hlc with sessionStopPwmOffDeadline := t }
  timer : d.seq.reinitTimerActive = c.seq.reinitTimerActive
  due : d.seq.reinitDeadline = c.seq.reinitDeadline
  length : d.seq.reinitDuration = c.seq.reinitDuration

namespace SameTiming

variable {c d e : Charger}

theorem trans (h : SameTiming c d) (h' : SameTiming d e) : SameTiming c e := by
  obtain ⟨t, ht⟩ := h.hlc
  obtain ⟨t', ht'⟩ := h'.hlc
  exact ⟨h'.now.trans h.now, h'.bcb.trans h.bcb, h'.limits.trans h.limits,
    h'.timeout.trans h.timeout, h'.started.trans h.started, ⟨t', by rw [ht', ht]⟩,
    h'.timer.trans h.timer, h'.due.trans h.due, h'.length.trans h.length⟩

theorem cpStateX1 (c : Charger) : SameTiming c c.cpStateX1 := by
  unfold Charger.cpStateX1 cpStateOff notePwmSwitchedOff
  split_ifs <;> exact ⟨rfl, rfl, rfl, rfl, rfl, ⟨_, rfl⟩, rfl, rfl, rfl⟩

theorem processPendingReinitRequest (c : Charger) :
    SameTiming c c.processPendingReinitRequest.noteState := by
  unfold Charger.processPendingReinitRequest advanceReinit
  split_ifs <;> exact ⟨rfl, rfl, rfl, rfl, rfl, ⟨_, rfl⟩, rfl, rfl, rfl⟩

theorem beforeState (init : Bool) (c : Charger) :
    SameTiming { c with currentStateStarted := if init then c.now else c.currentStateStarted }
      (c.beforeState init) := by
  unfold Charger.beforeState
  obtain ⟨d, hd, hcd⟩ : ∃ d, (if init = true then
      ({ c with currentStateStarted := c.now }).emit (.state c.state) else c) = d ∧ SameTiming
        { c with currentStateStarted := if init then c.now else c.currentStateStarted } d :=
    ⟨_, rfl, by cases init <;> exact ⟨rfl, rfl, rfl, rfl, rfl, ⟨_, rfl⟩, rfl, rfl, rfl⟩⟩
  obtain ⟨q, hq, hdq⟩ : ∃ q, (if d.lastState = .SwitchPhases ∧ d.state ≠ .SwitchPhases ∧
      d.seq.switchingOngoing then d.switchPhasesNow else d) = q ∧ SameTiming d q :=
    ⟨_, rfl, by split_ifs <;> exact ⟨rfl, rfl, rfl, rfl, rfl, ⟨_, rfl⟩, rfl, rfl, rfl⟩⟩
  simp only [hd, hq]
  refine hcd.trans (hdq.trans ?_)
  have hcut : SameTiming q { q with hlc := { q.hlc with sessionStopPwmOffDeadline := none } } :=
    ⟨rfl, rfl, rfl, rfl, rfl, ⟨_, rfl⟩, rfl, rfl, rfl⟩
  split_ifs
  · exact hcut.trans (cpStateX1 _)
  · exact hcut
  · exact ⟨rfl, rfl, rfl, rfl, rfl, ⟨_, rfl⟩, rfl, rfl, rfl⟩

end SameTiming

/-! ## The next pass -/

section NextPass

variable (c : Charger)

/-- The charger of a pass that runs its state. -/
def ready : Charger := c.processPendingReinitRequest.noteState.beforeState c.pendingInit

theorem view_ready : c.ready.view = c.processPendingReinitRequest.view.note := by
  simp [ready]

theorem same_ready : View.SameSession c.view c.ready.view ∧
    c.ready.view.inputs = { c.view.inputs with reinitDue := false } := by
  have hr := processPendingReinitRequest_view c
  rw [view_ready]
  exact ⟨{ hr.same with }, hr.inputs⟩

theorem state_ready : c.ready.state = c.pendingState :=
  (congrArg View.state (view_ready c)).trans (state_processPendingReinitRequest c)

theorem sameTiming_ready : SameTiming
    { c with currentStateStarted := if c.pendingInit then c.now else c.currentStateStarted }
    c.ready := by
  have h := SameTiming.processPendingReinitRequest c
  have hb := SameTiming.beforeState c.pendingInit c.processPendingReinitRequest.noteState
  obtain ⟨t, ht⟩ := h.hlc
  refine SameTiming.trans ?_ hb
  refine ⟨h.now, h.bcb, h.limits, h.timeout, ?_, ⟨t, ht⟩, h.timer, h.due, h.length⟩
  simp only [h.now, h.started]

theorem time_ready : c.ready.now - c.ready.currentStateStarted =
    if c.pendingInit then 0 else c.now - c.currentStateStarted := by
  rw [(sameTiming_ready c).now, (sameTiming_ready c).started]
  cases c.pendingInit <;> simp

theorem pass_eq (cfg : ChargerConfig) (i : ChargerInputs) (h : c.acWithSocTimeout = false) :
    c.pass cfg i = (false, c.ready.runState cfg i c.pendingInit
      (if c.pendingInit then 0 else c.now - c.currentStateStarted)) := by
  have hsoc : c.processPendingReinitRequest.noteState.acWithSocTimeout = false :=
    (congrArg socTimeout (processPendingReinitRequest_view c).inputs).trans h
  unfold pass
  dsimp only
  rw [initializeState_processPendingReinitRequest]
  simp only [hsoc, Bool.false_eq_true, if_false, false_and]
  rw [← time_ready]
  rfl

end NextPass

/-! ## The states that overlook an error -/

section Exact

variable (cfg : ChargerConfig) (c : Charger)

/-- A closed contactor keeps `StoppingCharging`; it stops hard after its timeout. -/
theorem view_caseStoppingCharging_of_closed (h : c.control.contactorOpen = false) (time : Int) :
    (c.caseStoppingCharging cfg false time).view =
      if c.d20PauseAtZero = false ∧ c.stoppingChargingTimeoutMs < time then
        c.view.push (.power false)
      else c.view := by
  unfold caseStoppingCharging
  simp only [Bool.false_eq_true, if_false]
  have hv : ((c.notifyD20PauseAtZero time).hardStop time).view =
      if c.d20PauseAtZero = false ∧ c.stoppingChargingTimeoutMs < time then
        c.view.push (.power false)
      else c.view := by
    rw [view_hardStop, view_notifyD20PauseAtZero]
    unfold notifyD20PauseAtZero
    cases hz : c.d20PauseAtZero with
    | false => simp
    | true =>
      simp only [if_true, Bool.true_eq_false, false_and, if_false]
      rw [if_neg]
      simp only [stoppingChargingD20PauseTimeoutMs]
      omega
  have ho : ((c.notifyD20PauseAtZero time).hardStop time).control.contactorOpen = false := by
    have hc := congrArg (fun v => v.control.contactorOpen) hv
    simp only [apply_ite (fun v : View => v.control.contactorOpen), View.control_push,
      ite_self] at hc
    exact hc.trans h
  simp only [ho, Bool.false_eq_true, not_false_eq_true, if_true]
  exact hv

theorem initStoppingCharging_timeout : 0 ≤ c.initStoppingCharging.stoppingChargingTimeoutMs := by
  unfold initStoppingCharging askToStop
  dsimp only
  have h1 : 0 ≤ stoppingChargingTimeout := by decide
  have h2 : 0 ≤ d20PauseRampTimeoutMs := by decide
  have h3 : 0 ≤ stoppingChargingD20PauseTimeoutMs := by decide
  split_ifs
  · exact h2
  · exact h3
  · exact h3
  · exact h1
  · rw [(SameTiming.cpStateX1 _).timeout]
    exact h1

theorem view_caseStoppingCharging_init (h : c.control.contactorOpen = false) :
    (c.caseStoppingCharging cfg true 0).view = c.view := by
  have hv : c.initStoppingCharging.view = c.view := view_initStoppingCharging c
  have hc : c.initStoppingCharging.control.contactorOpen = false :=
    (congrArg (fun v => v.control.contactorOpen) hv).trans h
  have ht := initStoppingCharging_timeout c
  have hk := view_caseStoppingCharging_of_closed cfg c.initStoppingCharging hc 0
  rw [if_neg (by omega), hv] at hk
  exact hk

theorem view_caseChargingPausedEvse_of_ends (init : Bool) (h : c.sessionEnds) :
    (c.caseChargingPausedEvse cfg init).view = c.view.setState .StoppingCharging := by
  unfold caseChargingPausedEvse
  obtain ⟨w, hw, hv⟩ := initialised init c (f := initChargingPausedEvse) (g := fun _ v => v)
    (by simp) rfl
  have he : w.sessionEnds := by rw [← sessionEnds_view, hv, sessionEnds_view, h]
  simp only [hw, if_pos he, view_setState, hv]

theorem sessionEnds_ready : c.ready.sessionEnds = c.sessionEnds := by
  obtain ⟨hs, hi⟩ := same_ready c
  have hp := congrArg evPluggedIn hi
  have hd := congrArg disableRequested hi
  rw [← sessionEnds_view, ← sessionEnds_view, View.sessionEnds, hs.authorized, hs.transaction]
  rw [show c.ready.view.control.flagEvPluggedIn = _ from hp,
    show c.ready.view.control.flagDisableRequested = _ from hd]
  rfl

variable (i : ChargerInputs)

section

variable (hsoc : c.acWithSocTimeout = false)

include hsoc

theorem view_pass_of_stopping
    (h : c.pendingState = .StoppingCharging) (hc : c.control.contactorOpen = false) :
    (c.pass cfg i).2.view =
      if c.hardStopDue then c.ready.view.push (.power false) else c.ready.view := by
  have hs : c.ready.state = .StoppingCharging := (state_ready c).trans h
  have hc : c.ready.control.contactorOpen = false :=
    (congrArg contactorOpen (same_ready c).2).trans hc

  have ht := sameTiming_ready c
  obtain ⟨t, hh⟩ := ht.hlc
  have hz : c.ready.d20PauseAtZero = c.d20PauseAtZero := by
    unfold d20PauseAtZero
    rw [hh, ht.limits]
  rw [pass_eq c cfg i hsoc]
  unfold runState hardStopDue
  simp only [hs]
  cases c.pendingInit with
  | true =>
    exact view_caseStoppingCharging_init cfg c.ready hc
  | false =>
    rw [view_caseStoppingCharging_of_closed cfg c.ready hc, hz, ht.timeout]
    simp

theorem view_pass_of_pausedEv
    (h : c.pendingState = .ChargingPausedEV) (hc : c.state = .ChargingPausedEV) :
    (c.pass cfg i).2.view = if c.sessionEnds then c.ready.view.setState .StoppingCharging
      else if c.pauseEnding cfg then c.ready.view.setState
        (if c.hlc.chargingActive then .PrepareCharging else .ChargingPausedEVSE)
      else c.ready.view := by
  have hs : c.ready.state = .ChargingPausedEV := (state_ready c).trans h
  have ht := sameTiming_ready c
  obtain ⟨t, hh⟩ := ht.hlc
  have hr : c.ready.restartedByEv = c.restartedByEv :=
    restartedByEv_congr c ht.bcb ht.now (by rw [hh])
  have ha : (c.ready.powerAvailable cfg).1 = (c.powerAvailable cfg).1 :=
    powerAvailable_congr cfg c (hs.trans hc.symm) ht.now ⟨_, _, ht.limits⟩
  have hca : c.ready.hlc.chargingActive = c.hlc.chargingActive := by rw [hh]
  rw [pass_eq c cfg i hsoc]
  unfold runState pauseEnding
  simp only [hs]
  rw [view_caseChargingPausedEv, sessionEnds_ready, hr, ha, hca]
  cases c.sessionEnds <;> cases c.hlc.chargingActive <;> cases (c.powerAvailable cfg).1 <;> simp

theorem view_pass_of_reinit (h : c.pendingState = .Reinit) :
    (c.pass cfg i).2.view = if c.reinitEnding then c.ready.view.setState .WaitingForAuthentication
      else c.ready.view := by
  have hs : c.ready.state = .Reinit := (state_ready c).trans h
  have ht := sameTiming_ready c
  have ho : c.ready.reinitOver = c.reinitOver := by
    unfold reinitOver
    rw [ht.timer, ht.due, ht.now]
  rw [pass_eq c cfg i hsoc]
  unfold runState reinitEnding
  simp only [hs]
  rw [view_caseReinit, ho, ht.length]

end

end Exact

/-! ## Calls -/

section Calls

variable {c : Charger} {i : ChargerInputs}

theorem settled_iff : c.settled ↔ c.view.control.lastStateDetectStateChange = c.view.state := by
  simp [settled]

theorem last_ready : c.ready.view.control.lastStateDetectStateChange = c.ready.view.state := by
  rw [view_ready]
  rfl

theorem powered_ready : c.ready.view.Powered ↔ c.view.Powered := by
  obtain ⟨hs, hi⟩ := same_ready c
  have ho : c.ready.view.control.contactorOpen = c.view.control.contactorOpen :=
    congrArg contactorOpen hi
  rw [View.Powered, ho, hs.withdrawn, View.Powered]

theorem reinitDue_pass (hsoc : c.acWithSocTimeout = false) :
    (c.pass cfg i).2.view.reinitDue = false := by
  have hp : View.Pass c.view (c.pass cfg i).2.view := pass_view_of_safe i hsoc
  exact congrArg reinitDue hp.inputs

/-- `StoppingCharging` never stops hard when it is entered. -/
theorem overlooksError_of_entered (hr : c.view.reinitDue = false)
    (hs : c.state = .StoppingCharging) (hn : ¬ c.settled) : c.overlooksError cfg := by
  have hp : c.pendingState = .StoppingCharging :=
    (pendingState_of_not_due c hr (by simp [hs])).trans hs
  have hi : c.pendingInit := by
    simp only [settled, decide_eq_true_eq] at hn
    simp [pendingInit, hp, ← hs, hn]
  simp [overlooksError, hp, hardStopDue, hi]

/-- A pass that overlooks an error leaves the power on, and so does the next one. -/
theorem pass_of_overlooksError (hsoc : c.acWithSocTimeout = false) (hp : c.view.Powered)
    (ho : c.overlooksError cfg) : (c.pass cfg i).2.view.Powered ∧
      ((c.pass cfg i).2.settled ∨ (c.pass cfg i).2.overlooksError cfg) := by
  have hr : c.ready.view.Powered := powered_ready.mpr hp
  have hst : (c.pass cfg i).2.view = c.ready.view → (c.pass cfg i).2.view.Powered ∧
      ((c.pass cfg i).2.settled ∨ (c.pass cfg i).2.overlooksError cfg) := by
    intro hv
    rw [settled_iff, hv]
    exact ⟨hr, .inl last_ready⟩
  have hs : (c.pass cfg i).2.view = c.ready.view.setState .StoppingCharging →
      (c.pass cfg i).2.view.Powered ∧
      ((c.pass cfg i).2.settled ∨ (c.pass cfg i).2.overlooksError cfg) := by
    intro hv
    refine ⟨hv ▸ hr, ?_⟩
    by_cases hset : (c.pass cfg i).2.settled
    · exact .inl hset
    · exact .inr (overlooksError_of_entered (reinitDue_pass hsoc) (congrArg View.state hv) hset)
  unfold overlooksError at ho
  split at ho
  case h_1 h =>
    apply hst
    rw [view_pass_of_stopping cfg c i hsoc h hp.1, if_neg (by simpa using ho)]
  case h_2 h =>
    have hc : c.state = .ChargingPausedEV :=
      (state_of_pendingState c (by simp [h]) (by simp [h])).trans h
    have hv := view_pass_of_pausedEv cfg c i hsoc h hc
    by_cases he : c.sessionEnds
    · rw [if_pos he] at hv
      exact hs hv
    · rw [if_neg he, if_neg (by simpa using ho)] at hv
      exact hst hv
  case h_3 h =>
    apply hs
    rw [pass_eq c cfg i hsoc]
    unfold runState
    simp only [(state_ready c).trans h]
    exact view_caseChargingPausedEvse_of_ends cfg c.ready _ ((sessionEnds_ready c).trans ho)
  case h_4 h =>
    apply hst
    rw [view_pass_of_reinit cfg c i hsoc h, if_neg (by simpa using ho)]
  case h_5 => cases ho

theorem case_ready (hsoc : c.acWithSocTimeout = false) :
    View.Case c.pendingInit c.ready.view (c.pass cfg i).2.view := by
  rw [pass_eq c cfg i hsoc]
  exact case_view ..

/-- A state that evaluates errors withdraws the power in its next pass. -/
theorem pass_of_reacts (hc : Safe c.view) (he : c.view.control.shutdownType ≠ .None)
    (h : c.ready.view.Reacts) : (c.pass cfg i).2.view.Withdrawn := by
  obtain ⟨hs, hi⟩ := same_ready c
  have ht : c.ready.view.control.shutdownType = c.view.control.shutdownType :=
    congrArg shutdownType hi
  exact (case_ready hc.timeout).withdrawn_of_reacts h (hs.faulted hc.power.fault) (ht ▸ he)

/-- The state after this pass evaluates errors, and it is run. -/
structure Due (c : Charger) : Prop where
  reacts : c.view.Reacts
  state : c.state ≠ .Charging
  reinitDue : c.view.reinitDue = false
  entered : ¬ c.settled = true

theorem Due.ready (h : Due c) : c.ready.view.Reacts := by
  have hp := pendingState_of_not_due c h.reinitDue h.state
  have hs : c.ready.view.state = c.view.state := (state_ready c).trans hp
  have he : c.ready.view.sessionEnds = c.view.sessionEnds := by
    rw [sessionEnds_view, sessionEnds_view, sessionEnds_ready]
  unfold View.Reacts
  rw [hs, he]
  exact h.reacts

theorem due_of_pass {s : EvseState} (hc : Safe c.view)
    (hv : (c.pass cfg i).2.view = c.ready.view.setState s) (hs : c.pendingState ≠ s)
    (h : (c.ready.view.setState s).Reacts) (hn : s ≠ .Charging) : Due (c.pass cfg i).2 := by
  refine ⟨hv ▸ h, ?_, reinitDue_pass hc.timeout, ?_⟩
  · exact fun h => hn ((congrArg View.state hv).symm.trans h)
  · rw [settled_iff, hv]
    exact fun h => hs ((state_ready c).symm.trans (last_ready.symm.trans h))

/-- A pass that does not overlook an error withdraws the power, or the next one does. -/
theorem pass_of_not_overlooksError (hc : Safe c.view) (he : c.view.control.shutdownType ≠ .None)
    (hp : c.view.Powered) (ho : c.overlooksError cfg = false) :
    (c.pass cfg i).2.view.Withdrawn ∨ Due (c.pass cfg i).2 := by
  have hr : c.ready.view.state = c.pendingState := state_ready c
  have hst : ∀ s, c.pendingState = s → s ≠ .Reinit → s ≠ .StoppingCharging → c.state = s := by
    rintro s rfl h h'
    exact state_of_pendingState c h h'
  cases h : c.pendingState with
  | WaitingForAuthentication =>
    exact .inl (pass_of_reacts hc he (by simp [View.Reacts, hr, h]))
  | ChargingPausedEVSE =>
    have hen : c.ready.view.sessionEnds = false := by
      rw [sessionEnds_view, sessionEnds_ready]
      simpa [overlooksError, h] using ho
    exact .inl (pass_of_reacts hc he (by simp [View.Reacts, hr, h, hen]))
  | Disabled =>
    exact absurd (hc.power.idle (.inr (hst _ h (by decide) (by decide)))) hp.2
  | Idle => exact absurd (hc.power.idle (.inl (hst _ h (by decide) (by decide)))) hp.2
  | Finished =>
    refine .inl ((case_ready hc.timeout).withdrawn_of_finished (hr.trans h) fun hi => ?_)
    have hs := hst _ h (by decide) (by decide)
    simp only [pendingInit, h, Bool.or_eq_false_iff, decide_eq_false_iff_not, not_not] at hi
    exact absurd (hc.power.finished hs hi.1) hp.2
  | StoppingCharging =>
    have hv := view_pass_of_stopping cfg c i hc.timeout h hp.1
    rw [if_pos (by simpa [overlooksError, h] using ho)] at hv
    rw [hv]
    exact .inl ((View.withdrawn_push _).mpr (.inl rfl))
  | Reinit =>
    have hv := view_pass_of_reinit cfg c i hc.timeout h
    rw [if_pos (by simpa [overlooksError, h] using ho)] at hv
    exact .inr (due_of_pass hc hv (by simp [h]) (.inl rfl) (by decide))
  | ChargingPausedEV =>
    have hv := view_pass_of_pausedEv cfg c i hc.timeout h (hst _ h (by decide) (by decide))
    have hen : c.pauseEnding cfg := by simpa [overlooksError, h] using ho
    have hn : c.sessionEnds = false := by
      simp only [pauseEnding, Bool.and_eq_true, Bool.not_eq_true'] at hen
      exact hen.1
    have hns : c.ready.view.sessionEnds = false := by
      rw [sessionEnds_view, sessionEnds_ready, hn]
    rw [if_neg (by simp [hn]), if_pos hen] at hv
    right
    cases hca : c.hlc.chargingActive with
    | true =>
      rw [hca] at hv
      exact due_of_pass hc hv (by simp [h]) (by simp [View.Reacts]) (by decide)
    | false =>
      rw [hca] at hv
      refine due_of_pass hc hv (by simp [h]) ?_ (by decide)
      exact .inr (.inr (.inr (.inr (.inr (.inr ⟨rfl, hns⟩)))))
  | _ => exact .inl (pass_of_reacts hc he (by simp [View.Reacts, hr, h]))

end Calls

/-! ## Whole calls -/

/-- A reachable charger with an error. -/
structure Erring (c : Charger) : Prop where
  safe : Safe c.view
  error : c.view.control.shutdownType ≠ .None

section Whole

variable {c : Charger} {i : ChargerInputs}

theorem Erring.pass (h : Erring c) : Erring (c.pass cfg i).2 := by
  have hp : View.Pass c.view (c.pass cfg i).2.view := pass_view_of_safe i h.safe.timeout
  refine ⟨keeps_safe.pass i c rfl h.safe, ?_⟩
  have he : (c.pass cfg i).2.view.control.shutdownType = c.view.control.shutdownType :=
    congrArg shutdownType hp.inputs
  exact he ▸ h.error

/-- With an error a call never permits the power again. -/
theorem run_of_withdrawn (n : Nat) (hc : Erring c) (hw : c.view.Withdrawn) :
    (c.runStateMachine cfg i n).view.Withdrawn := by
  refine (runStateMachine_invariant
    (I := fun v => Safe v ∧ v.control.shutdownType ≠ .None ∧ v.Withdrawn) ?_ n c
    ⟨hc.safe, hc.error, hw⟩).2.2
  rintro d ⟨hs, he, hw⟩
  have h : Erring (d.pass cfg i).2 := Erring.pass ⟨hs, he⟩
  exact ⟨h.safe, h.error, (pass_view_of_safe i hs.timeout).withdrawn hw he⟩

theorem run_of_pass_withdrawn (n : Nat) (hc : Erring c)
    (hw : (c.pass cfg i).2.view.Withdrawn) : (c.runStateMachine cfg i n).view.Withdrawn := by
  rcases runStateMachine_cases i n c with hv | ⟨m, -, -, hv⟩
  · exact hv ▸ hw
  · exact hv ▸ run_of_withdrawn m hc.pass hw

theorem contactorOpen_run (n : Nat) (hc : Safe c.view) :
    (c.runStateMachine cfg i n).control.contactorOpen = c.control.contactorOpen := by
  refine (runStateMachine_invariant
    (I := fun v => Safe v ∧ v.control.contactorOpen = c.control.contactorOpen) ?_ n c
    ⟨hc, rfl⟩).2
  rintro d ⟨h, ho⟩
  have hp : View.Pass d.view (d.pass cfg i).2.view := pass_view_of_safe i h.timeout
  exact ⟨keeps_safe.pass i d rfl h, (congrArg contactorOpen hp.inputs).trans ho⟩

theorem run_of_overlooksError : ∀ (n : Nat) (c : Charger), Safe c.view → c.view.Powered →
    c.overlooksError cfg → (c.runStateMachine cfg i n).view.Powered := by
  intro n
  induction n using Nat.strong_induction_on with
  | _ n ih =>
    intro c hc hp ho
    obtain ⟨hpow, hne⟩ := pass_of_overlooksError (i := i) hc.timeout hp ho
    rcases runStateMachine_cases i n c with hv | ⟨m, rfl, hs, hv⟩ <;> rw [hv]
    · exact hpow
    · exact ih m (by omega) _ (keeps_safe.pass i c rfl hc) hpow (hne.resolve_left (by simp [hs]))

theorem run_of_not_overlooksError (n : Nat) (hc : Erring c) (hp : c.view.Powered)
    (ho : c.overlooksError cfg = false) (hend : (c.runStateMachine cfg i n).settled) :
    (c.runStateMachine cfg i n).view.Withdrawn := by
  rcases pass_of_not_overlooksError (i := i) hc.safe hc.error hp ho with hw | hd
  · exact run_of_pass_withdrawn n hc hw
  · -- a state has been entered, so there is a second pass
    rcases runStateMachine_cases i n c with hv | ⟨m, -, -, hv⟩
    · rw [settled_iff, hv, ← settled_iff] at hend
      exact absurd hend hd.entered
    · rw [hv]
      exact run_of_pass_withdrawn m hc.pass (pass_of_reacts hc.pass.safe hc.pass.error hd.ready)

end Whole

/-- **When an emergency shutdown leaves the power on.** At the end of every call of
`run_state_machine` with a pending emergency shutdown, in every run, the contactor is open or the
power withdrawn, unless the power was on before the call and the call overlooks the error. -/
theorem emergency_shutdown_withdraws_power (hsoc : cfg.acWithSocTimeout = false)
    (type2Socket : Bool) (ppAmpacity : Option Rat) (ops : List Op) (op : Op) (k : Call)
    (hk : k ∈ (run (step cfg) (init cfg type2Socket ppAmpacity) ops).calls cfg op)
    (he : k.before.control.shutdownType = .EmergencyShutdown)
    (hend : (k.after cfg).settled = true) :
    ((k.after cfg).control.contactorOpen = true ∨ (k.after cfg).view.Withdrawn) ↔
      ¬ (k.before.view.Powered ∧ k.before.overlooksError cfg = true) := by
  have hs := safe_run hsoc type2Socket ppAmpacity ops
  have hq : ∀ k ∈ (run (step cfg) (init cfg type2Socket ppAmpacity) ops).calls cfg op,
      passesMeet cfg (fun _ => true) k.inputs k.bound k.before = true :=
    fun k _ => passesMeet_true k.inputs k.bound k.before
  have hc : Erring k.before :=
    ⟨keeps_safe.calls _ op hq hs k hk, by
      show k.before.control.shutdownType ≠ .None
      rw [he]
      decide⟩
  have ho : (k.after cfg).control.contactorOpen = k.before.control.contactorOpen :=
    contactorOpen_run k.bound hc.safe
  by_cases hp : k.before.view.Powered
  · cases hov : k.before.overlooksError cfg with
    | true =>
      have ha : (k.after cfg).view.Powered :=
        run_of_overlooksError k.bound k.before hc.safe hp hov
      exact iff_of_false (by
        rintro (h | h)
        · exact absurd (ha.1.symm.trans h) (by decide)
        · exact ha.2 h) (fun h => h ⟨hp, rfl⟩)
    | false =>
      have hw := run_of_not_overlooksError k.bound hc hp hov hend
      exact iff_of_true (.inr hw) (by simp)
  · refine iff_of_true ?_ (fun h => hp h.1)
    rw [ho]
    by_cases hop : k.before.control.contactorOpen = true
    · exact .inl hop
    · have hw : k.before.view.Withdrawn := by
        by_contra hw
        exact hp ⟨by simpa using hop, hw⟩
      exact .inr (run_of_withdrawn k.bound hc hw)

theorem emergency_shutdown_while_charging :
    let c := run (step {}) (init {} false none) shutdownWhileCharging
    let k : Call := ⟨(c.powerAvailable {}).2, plainInputs, 4⟩
    (k.before.view.Powered ∧ k.before.state = .Charging) ∧
      (((k.after {}).control.contactorOpen = true ∨ (k.after {}).view.Withdrawn) ↔
        ¬ (k.before.view.Powered ∧ k.before.overlooksError {} = true)) := by
  intro c k
  refine ⟨by decide +kernel, ?_⟩
  exact emergency_shutdown_withdraws_power rfl false none shutdownWhileCharging
    (.tick plainInputs 4) k List.mem_cons_self (by decide +kernel) (by decide +kernel)

/-- An emergency shutdown right after a pause. -/
def shutdownWhilePausing : List Op :=
  chargingSession ++ [.pauseCharging, .tick plainInputs 4, .errorEvent .ForceEmergencyShutdown]

/-- **A pause hides an emergency shutdown.** `StoppingCharging` waits for the contactor to open
before it looks at the error, and withdraws the power only after its timeout. -/
theorem pausing_overlooks_emergency_shutdown :
    let c := run (step {}) (init {} false none) shutdownWhilePausing
    let k : Call := ⟨(c.powerAvailable {}).2, plainInputs, 4⟩
    k ∈ c.calls {} (.tick plainInputs 4) ∧
      k.before.control.shutdownType = .EmergencyShutdown ∧ (k.after {}).settled = true ∧
      ¬ ((k.after {}).control.contactorOpen = true ∨ (k.after {}).view.Withdrawn) := by
  exact ⟨List.mem_cons_self, by decide +kernel, by decide +kernel, by decide +kernel⟩

end Charger

end EverestCore.Evse

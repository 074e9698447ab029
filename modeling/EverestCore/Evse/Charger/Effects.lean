import EverestCore.Evse.Charger.View

/-!
# The effects of the charger on its view

Most functions of the charger leave its view alone, and a few change it in a known way. From these
follow the outcomes of the states and of a pass.

Results:
* **`pass_view`**: a pass has only the outcomes of `View.Pass`, unless the timeout cuts it short.
-/

namespace EverestCore.Evse

open View

namespace Charger

variable (cfg : ChargerConfig) (i : ChargerInputs) (init : Bool) (time : Int) (c : Charger)

/-! ## Functions that leave the view alone -/

@[simp] theorem control_view : c.view.control = c.control := rfl

@[simp] theorem authorized_view : c.view.authorized = c.auth.flagAuthorized := rfl

@[simp] theorem state_view : c.view.state = c.state := rfl

variable (o : ChargerOutput)

@[simp] theorem auth_emit : (c.emit o).auth = c.auth := rfl

@[simp] theorem state_emit : (c.emit o).state = c.state := rfl

theorem view_ite (p : Prop) [Decidable p] (a b : Charger) :
    (if p then a else b).view = if p then a.view else b.view := by
  split <;> rfl

@[simp] theorem view_emit : (c.emit o).view = c.view.record o.mark := by
  cases h : o.mark <;>
    simp only [view, emit, List.filterMap_cons, h, record, push]

@[simp] theorem view_notePwmSwitchedOff : c.notePwmSwitchedOff.view = c.view := by
  unfold notePwmSwitchedOff
  split <;> rfl

variable (method : CpMethod) (dutyCycle : Rat)

@[simp] theorem view_cpStateOff : (c.cpStateOff method dutyCycle).view = c.view :=
  view_notePwmSwitchedOff c

@[simp] theorem view_cpStateX1 : c.cpStateX1.view = c.view := view_cpStateOff ..

@[simp] theorem view_cpStateF : c.cpStateF.view = c.view := view_cpStateOff ..

@[simp] theorem view_cpStateE : c.cpStateE.view = c.view := by
  simp [cpStateE, view_ite]

@[simp] theorem view_cpStateBy : (c.cpStateBy method).view = c.view := by
  cases method <;> simp [cpStateBy]

@[simp] theorem view_updatePwmNow : (c.updatePwmNow dutyCycle).view = c.view := by
  unfold updatePwmNow
  split_ifs
  · exact view_cpStateX1 c
  · exact view_cpStateF c
  · rfl

variable (ampere : Rat)

@[simp] theorem view_setPwmLastAmpere : (c.setPwmLastAmpere ampere).view = c.view :=
  rfl

@[simp] theorem view_updatePwmNowIfChanged : (c.updatePwmNowIfChanged dutyCycle).view = c.view := by
  simp [updatePwmNowIfChanged, view_ite]

@[simp] theorem view_updatePwmNowIfChangedAmpere :
    (c.updatePwmNowIfChangedAmpere ampere).view = c.view := by
  simp [updatePwmNowIfChangedAmpere, view_ite]

@[simp] theorem view_updatePwmMaxEvery5secondsAmpere :
    (c.updatePwmMaxEvery5secondsAmpere ampere).view = c.view := by
  simp [updatePwmMaxEvery5secondsAmpere, view_ite]

@[simp] theorem view_bcbToggleDetectStopPulse : c.bcbToggleDetectStopPulse.view = c.view := by
  unfold bcbToggleDetectStopPulse
  dsimp only
  split_ifs <;> rfl

@[simp] theorem view_expirePowerBudget : c.expirePowerBudget.view = c.view := by
  unfold expirePowerBudget
  split <;> rfl

@[simp] theorem view_powerAvailable : (c.powerAvailable cfg).2.view = c.view :=
  view_expirePowerBudget c

@[simp] theorem view_checkSoftOverCurrent : (c.checkSoftOverCurrent cfg).view = c.view := by
  unfold checkSoftOverCurrent
  dsimp only
  split_ifs <;> rfl

@[simp] theorem view_resumeEvsePauseMarker : c.resumeEvsePauseMarker.view = c.view := by
  unfold resumeEvsePauseMarker
  split_ifs <;> rfl

variable (value : Bool)

@[simp] theorem view_loseDlink : c.loseDlink.view = c.view := rfl

@[simp] theorem view_switchPhasesNow : c.switchPhasesNow.view = c.view := rfl

/-! ## Functions with an effect on the view -/

variable (s : EvseState)

@[simp] theorem view_setState : (c.setState s).view = c.view.setState s := rfl

@[simp] theorem view_allowPowerOn (reason : Iec.Reason) :
    (c.allowPowerOn value reason).view = c.view.push (.power value) := rfl

@[simp] theorem view_setFlagAuthorized :
    (c.setFlagAuthorized value).view = { c.view with authorized := value } := rfl

@[simp] theorem view_endUntilUnmatched : c.endUntilUnmatched.view = c.view.endUntilUnmatched := rfl

@[simp] theorem view_startTStepX1ThenEf :
    (c.startTStepX1ThenEf s).view = c.view.throughX1Ef s := rfl

@[simp] theorem view_startSession (authFirst : Bool) :
    (c.startSession i authFirst).view = c.view.startSession := by
  unfold startSession
  split_ifs <;> rfl

@[simp] theorem view_stopSession : c.stopSession.view = c.view.stopSession := rfl

@[simp] theorem view_stopTransaction : c.stopTransaction.view = c.view.stopTransaction := rfl

theorem view_emergencyShutdown : (c.emergencyShutdown cfg).view = c.view.push (.power false) := by
  simp [emergencyShutdown, view_ite]

theorem view_errorShutdown : (c.errorShutdown cfg).view = c.view.push (.power false) := by
  simp [errorShutdown, view_ite]

theorem view_shutDown : (c.shutDown cfg).view =
    if c.control.lastShutdownType = c.control.shutdownType ∨ c.control.shutdownType = .None
    then c.view else c.view.push (.power false) := by
  unfold shutDown
  by_cases heq : c.control.lastShutdownType = c.control.shutdownType
  · simp [heq]
  · cases hs : c.control.shutdownType with
    | None => simp
    | EmergencyShutdown =>
      rw [hs] at heq
      simp only [heq, if_false]
      exact view_emergencyShutdown cfg _
    | ErrorShutdown =>
      rw [hs] at heq
      simp only [heq, if_false]
      exact view_errorShutdown cfg _

@[simp] theorem view_stopChargingOnFatalError :
    (c.stopChargingOnFatalError cfg).2.view = c.view.evaluate := by
  have h : (c.stopChargingOnFatalError cfg).2.view = { (c.shutDown cfg).view with
      control := { (c.shutDown cfg).view.control with
        lastShutdownType := (c.shutDown cfg).view.control.shutdownType } } := rfl
  rw [h, view_shutDown]
  rfl

@[simp] theorem view_deauthorizeInternal :
    (c.deauthorizeInternal cfg).2.view = c.view.deauthorize := by
  unfold deauthorizeInternal View.deauthorize
  by_cases ha : c.control.sessionActive
  · by_cases hs : c.state = .Disabled ∨ c.state = .Idle ∨ c.state = .WaitingForAuthentication
    · by_cases hf : c.auth.flagAuthorized
      · simp [ha, hs, hf, View.stopSession]
      · simp [ha, hs, hf, view_ite]
    · simp [ha, hs]
  · simp [ha]

theorem view_prepareErrorSequence (limitRetries : Bool) :
    (c.prepareErrorSequence limitRetries).view =
      { c.view with control := { c.control with tStepEfReturnState := c.state } } := by
  unfold prepareErrorSequence
  dsimp only
  split_ifs <;> rfl

@[simp] theorem view_startTStepX1UntilUnmatched : c.startTStepX1UntilUnmatched.view =
    ({ c.view with control := { c.control with tStepX1UntilUnmatched := true } }).setState
      .T_step_X1 := rfl

/-- `request_error_sequence_internal`: a sequence returns to the state it starts in. -/
theorem requestErrorSequenceInternal_view :
    View.ErrorSequence c.view (c.requestErrorSequenceInternal cfg).view := by
  unfold requestErrorSequenceInternal
  dsimp only
  split_ifs with hs
  · exact .none
  · rw [view_loseDlink, view_startTStepX1UntilUnmatched, ← control_view, view_prepareErrorSequence]
    exact .x1 hs
  · rw [view_loseDlink, view_emit, view_setState, view_prepareErrorSequence]
    exact .ef hs
  · exact .none

/-! ## The states -/

theorem state_of_view {w : Charger} (h : w.view = c.view) : w.state = c.state :=
  congrArg View.state h

theorem initialised {f : Charger → Charger} {g : Bool → View → View}
    (hf : (f c).view = g true c.view) (hg : g false c.view = c.view) :
    ∃ w, (if init = true then f c else c) = w ∧ w.view = g init c.view := by
  cases init with
  | true => exact ⟨_, rfl, hf⟩
  | false => exact ⟨_, rfl, hg.symm⟩

theorem caseDisabled_view (h : c.state = .Disabled) :
    View.Case init c.view (c.caseDisabled init).view := by
  unfold caseDisabled
  obtain ⟨w, hw, hv⟩ := initialised init c (f := initDisabled) (g := fun _ v => v)
    (by simp [initDisabled]) rfl
  rw [← state_of_view c hv] at h
  simp only [hw, ← hv]
  split_ifs with hd
  · exact .disabled h hd
  · exact .enabled h (by simpa using hd)

theorem view_initIdle : (c.initIdle cfg).view = c.view.enterIdle true := by
  -- after `deauthorize_internal` the view loses the transaction and the last error
  have hv : ∀ d : Charger, ({ (d.deauthorizeInternal cfg).2 with
      control := { (d.deauthorizeInternal cfg).2.control with flagTransactionActive := false } } :
        Charger).clearErrorsOnUnplug.view =
      { d.view.deauthorize with control := { d.view.deauthorize.control with
        flagTransactionActive := false, lastShutdownType := .None } } := by
    intro d
    rw [← view_deauthorizeInternal cfg d]
    rfl
  have hx : (c.clearHlcSession cfg).cpStateX1.view = c.view := by
    rw [view_cpStateX1]
    rfl
  rw [show (c.initIdle cfg).view = _ from hv _]
  rw [← hx]
  rfl

theorem caseIdle_view (h : c.state = .Idle) : View.Case init c.view (c.caseIdle cfg init).view := by
  unfold caseIdle
  obtain ⟨w, hw, hv⟩ := initialised init c (g := enterIdle) (view_initIdle cfg c) rfl
  have hd : w.control.flagDisableRequested = c.control.flagDisableRequested := by
    have hi := (congrArg inputs hv).trans (inputs_enterIdle ..)
    exact congrArg View.Inputs.disableRequested hi
  simp only [hw]
  split_ifs with hf
  · rw [view_setState, hv]
    exact .disables h (hd ▸ hf)
  all_goals
    simp only [view_cpStateF, view_cpStateX1, hv]
    exact .idle h (by simpa [hd] using hf)

@[simp] theorem view_initHlc : (c.initHlc cfg).view = c.view := by
  unfold initHlc
  split <;> rfl

@[simp] theorem view_start5percent : (c.start5percent cfg).view = c.view := by
  unfold start5percent
  dsimp only
  split_ifs
  · rfl
  · rw [view_updatePwmNow]
    rfl
  · rfl

theorem view_initWaitingForAuthentication :
    (c.initWaitingForAuthentication cfg i).view = c.view.enterWaiting true := by
  unfold initWaitingForAuthentication enterWaiting
  rw [view_start5percent, view_initHlc, view_emit, view_ite, view_startSession]
  rfl

@[simp] theorem view_readCable : (c.readCable i).view = c.view := by
  unfold readCable
  split_ifs <;> rfl

@[simp] theorem view_awaitEnergy : (c.awaitEnergy cfg time).2.view = c.view := by
  unfold awaitEnergy
  cases cfg.chargeMode with
  | AC => rfl
  | DC =>
    dsimp only
    split_ifs <;> simp only [view_emit, ChargerOutput.mark, record] <;>
      exact view_powerAvailable cfg c

theorem proceedEimAc_view : View.Onward c.view (c.proceedEimAc cfg).view := by
  unfold proceedEimAc fallBackToNominal
  split_ifs
  · exact .prepares
  · exact .prepares
  · exact .throughX1
  · exact .waits
  · exact .waits
  · exact .prepares
  · exact .throughEf
  · exact .prepares
  · exact .prepares

theorem proceedPncAc_view : View.Onward c.view c.proceedPncAc.view := by
  unfold proceedPncAc
  split_ifs
  · exact .prepares
  · exact .prepares
  · exact .waits

theorem startTransaction_view : (c.startTransaction cfg i).2.view =
    if (c.startTransaction cfg i).1 then c.view.startTransaction else c.view := by
  unfold startTransaction
  split_ifs <;> simp_all <;> rfl

theorem proceedToCharging_view : View.Onward c.view (c.proceedToCharging cfg).view := by
  unfold proceedToCharging
  split
  · split_ifs
    · exact proceedPncAc_view c
    · exact proceedEimAc_view cfg c
  · exact .prepares

/-- With its transaction open the session goes on; else a transaction is started first. -/
theorem proceedAuthorized_view :
    (c.control.flagTransactionActive ∧ View.Onward c.view (c.proceedAuthorized cfg i).view) ∨
      (c.control.flagTransactionActive = false ∧
        (View.Onward c.view.startTransaction (c.proceedAuthorized cfg i).view ∨
          (c.proceedAuthorized cfg i).view = c.view)) := by
  unfold proceedAuthorized
  dsimp only
  have hv := startTransaction_view cfg i c
  split_ifs with ht hs
  · exact .inl ⟨ht, proceedToCharging_view cfg c⟩
  · rw [if_pos hs] at hv
    refine .inr ⟨by simpa using ht, .inl ?_⟩
    rw [← hv]
    exact proceedToCharging_view cfg _
  · rw [if_neg hs] at hv
    exact .inr ⟨by simpa using ht, .inr hv⟩

theorem stopChargingOnFatalError_eq : ∃ d, c.stopChargingOnFatalError cfg =
    (decide (c.control.shutdownType ≠ .None), d) ∧ d.view = c.view.evaluate :=
  ⟨_, rfl, view_stopChargingOnFatalError cfg c⟩

/-- The start of a state whose initialisation leaves the view alone and that evaluates the error. -/
theorem evaluated {f : Charger → Charger} (hf : (f c).view = c.view) :
    ∃ w d, (if init = true then f c else c) = w ∧ w.stopChargingOnFatalError cfg =
      (decide (c.control.shutdownType ≠ .None), d) ∧ d.view = c.view.evaluate ∧
      d.control = { c.control with lastShutdownType := c.control.shutdownType } := by
  obtain ⟨w, hw, hv⟩ := initialised init c (f := f) (g := fun _ v => v) hf rfl
  obtain ⟨d, hd, he⟩ := stopChargingOnFatalError_eq cfg w
  rw [← control_view w, hv] at hd
  rw [hv] at he
  exact ⟨w, d, hw, hd, he, by rw [← control_view, he, control_evaluate, control_view]⟩

theorem caseWaitingForAuthentication_view (h : c.state = .WaitingForAuthentication) :
    View.Case init c.view (c.caseWaitingForAuthentication cfg i init time).view := by
  unfold caseWaitingForAuthentication
  obtain ⟨w, hw, hv⟩ := initialised init c (g := enterWaiting)
    (view_initWaitingForAuthentication cfg i c) rfl
  obtain ⟨d, hd, hev⟩ := stopChargingOnFatalError_eq cfg w
  have hc : w.control.shutdownType = c.control.shutdownType := by
    rw [← control_view, hv, control_enterWaiting, control_view]
  rw [hv] at hev
  simp only [hw, hd, hc]
  by_cases hs : c.control.shutdownType = .None
  · rw [if_neg (by simp [hs])]
    have hd : ((d.readCable i).awaitEnergy cfg time).2.view =
        (c.view.enterWaiting init).evaluate := by
      rw [view_awaitEnergy, view_readCable, hev]
    split_ifs with hend hca hr
    · rw [view_setState, hev]
      exact .waitingEnds h
    · rw [view_readCable, hev]
      exact .waiting h hs
    · have htx : ((d.readCable i).awaitEnergy cfg time).2.control.flagTransactionActive =
          c.view.control.flagTransactionActive := by
        rw [← control_view, hd, control_evaluate, control_enterWaiting]
      rcases proceedAuthorized_view cfg i ((d.readCable i).awaitEnergy cfg time).2 with
        ⟨ht, hw⟩ | ⟨ht, hw | hw⟩
      · rw [hd] at hw
        exact .proceeds h hs (htx ▸ ht) hw
      · rw [hd] at hw
        exact .transactionStarts h hs (htx ▸ ht) hw
      · rw [hw, hd]
        exact .waiting h hs
    · rw [hd]
      exact .waiting h hs
  · rw [if_pos (by simp [hs]), view_setState, view_emit, hev]
    exact .waitingEnds h

theorem none_of_not_sequenceAborted {t : ShutdownType}
    (h : ¬ c.sequenceAborted (decide (t ≠ .None))) : t = .None := by
  simp only [sequenceAborted, Bool.or_eq_true, decide_eq_true_eq, not_or, not_not] at h
  exact h.1.1

theorem caseSwitchPhases_view (h : c.state = .SwitchPhases) :
    View.Case init c.view (c.caseSwitchPhases cfg init time).view := by
  unfold caseSwitchPhases
  obtain ⟨w, d, hw, hd, hv, hc⟩ := evaluated cfg init c (f := initSwitchPhases cfg)
    (by simp [initSwitchPhases])
  simp only [hw, hd]
  split_ifs with ha
  · rw [view_setState, hv, hc]
    exact .switched h
  · rw [view_setState, view_switchPhasesNow, hv, hc]
    exact .switched h
  · rw [hv]
    exact .switching h (none_of_not_sequenceAborted d ha)

theorem caseTStepEf_view (h : c.state = .T_step_EF) :
    View.Case init c.view (c.caseTStepEf cfg init time).view := by
  unfold caseTStepEf
  obtain ⟨w, d, hw, hd, hv, hc⟩ := evaluated cfg init c (f := initTStepEf)
    (by rw [initTStepEf, view_cpStateF]; rfl)
  have hp : d.restorePwmAfterEf.view = d.view := by simp [restorePwmAfterEf, view_ite]
  simp only [hw, hd]
  split_ifs with ha
  · rw [view_setState, view_cpStateX1, hv, hc]
    exact .efEnds h
  · rw [view_setState, hp, hv, hc]
    exact .efEnds h
  · rw [view_cpStateX1]
    exact hv ▸ .ef h (none_of_not_sequenceAborted d ha)
  · exact hv ▸ .ef h (none_of_not_sequenceAborted d ha)

theorem caseTStepX1_view (h : c.state = .T_step_X1) :
    View.Case init c.view (c.caseTStepX1 cfg init time).view := by
  unfold caseTStepX1
  obtain ⟨w, d, hw, hd, hv, hc⟩ := evaluated cfg init c (f := initTStepX1)
    (by simp [initTStepX1, view_ite])
  have hp : d.restorePwmAfterX1.view = d.view := by simp [restorePwmAfterX1, view_ite]
  have he : View.Case init c.view
      (c.view.evaluate.setState c.view.x1ReturnState).endUntilUnmatched := .x1Ends h
  simp only [hw, hd]
  by_cases ha : d.sequenceAborted (decide (c.control.shutdownType ≠ .None))
  · rw [if_pos ha, view_endUntilUnmatched, view_setState, hv, hc]
    exact he
  rw [if_neg ha]
  split_ifs with hu
  · rw [view_setState, view_endUntilUnmatched, hv]
    exact .x1ToEf h (by simpa [hc] using hu)
  · exact hv ▸ .x1 h (none_of_not_sequenceAborted d ha)
  · -- the exit of a sequence that does not wait for the data link
    have hn : c.view.control.tStepX1UntilUnmatched = false := by simpa [hc] using hu
    rw [endUntilUnmatched_of_not _ (by simpa using hn), x1ReturnState, hn] at he
    rw [view_setState, hp, hv, hc]
    exact he
  · exact hv ▸ .x1 h (none_of_not_sequenceAborted d ha)

theorem seq_cpStateBy : (c.cpStateBy method).seq = c.seq := by
  unfold cpStateBy cpStateE cpStateF cpStateX1 cpStateOff notePwmSwitchedOff
  cases method <;> dsimp only <;> split_ifs <;> rfl

theorem initReinit_reinitOver : c.initReinit.reinitOver = decide (c.seq.reinitDuration ≤ 0) := by
  unfold initReinit reinitOver
  simp only [seq_cpStateBy]
  by_cases hd : 0 < c.seq.reinitDuration
  · simp [hd]
  · simp [hd, not_lt.mp hd]

@[simp] theorem view_initReinit : c.initReinit.view = c.view := by
  exact view_cpStateBy ..

@[simp] theorem view_endReinit : c.endReinit.view = c.view := by
  exact view_cpStateX1 _

theorem view_caseReinit : (c.caseReinit init).view =
    if (if init then decide (c.seq.reinitDuration ≤ 0) else c.reinitOver) = true then
      c.view.setState .WaitingForAuthentication
    else c.view := by
  unfold caseReinit
  cases init with
  | true => simp [initReinit_reinitOver, view_ite]
  | false => simp [view_ite]

theorem caseReinit_view (h : c.state = .Reinit) :
    View.Case init c.view (c.caseReinit init).view := by
  rw [view_caseReinit]
  generalize (if init = true then _ else c.reinitOver) = ends
  cases ends with
  | true => exact .reinitEnds h
  | false => exact .reinit h

theorem none_of_not_chargingEnds {t : ShutdownType}
    (h : ¬ c.chargingEnds (decide (t ≠ .None))) : t = .None := by
  simp only [chargingEnds, Bool.or_eq_true, decide_eq_true_eq, not_or, not_not] at h
  exact h.1.1.1.1

@[simp] theorem view_initPrepareCharging : (c.initPrepareCharging cfg).view = c.view := by
  unfold initPrepareCharging
  cases cfg.chargeMode with
  | AC => rfl
  | DC =>
    dsimp only
    split_ifs <;> simp only [view_emit, ChargerOutput.mark, record, view_powerAvailable] <;>
      rfl

@[simp] theorem view_preparePwm : (c.preparePwm cfg).2.view = c.view := by
  unfold preparePwm
  dsimp only
  split_ifs <;> simp

theorem prepareAc_view : View.Prepared c.view (c.prepareAc time).view := by
  unfold prepareAc
  split_ifs
  · exact .charges
  · exact .waits
  · exact .wakesUp
  · exact .pausedByEv
  · exact .waits

theorem prepareWithPwm_view : View.Prepared c.view (c.prepareWithPwm cfg time).view := by
  unfold prepareWithPwm
  dsimp only
  have hp := view_preparePwm cfg c
  generalize (c.preparePwm cfg) = r at hp ⊢
  have ha := view_powerAvailable cfg r.2
  generalize (r.2.powerAvailable cfg) = q at ha ⊢
  split_ifs
  · exact ha ▸ hp ▸ .waits
  · rw [← hp, ← ha]
    exact prepareAc_view time q.2
  · exact hp ▸ .waits

theorem prepareSession_view : View.Prepared c.view (c.prepareSession cfg time).view := by
  unfold prepareSession
  have hr : (if c.hlcSessionEnded = true then c.resumeEvsePauseMarker else c).view = c.view := by
    simp [view_ite]
  generalize (if c.hlcSessionEnded = true then c.resumeEvsePauseMarker else c) = w at hr ⊢
  rw [← hr]
  dsimp only
  split_ifs
  · rw [view_setState, ← hr]
    exact .pausedByEv
  · have h := requestErrorSequenceInternal_view cfg w.clearWakeupLinkDeadline
    exact .linkLost h
  · exact prepareWithPwm_view cfg time w.clearWakeupLinkDeadline
  · exact prepareWithPwm_view cfg time w

theorem casePrepareCharging_view (h : c.state = .PrepareCharging) :
    View.Case init c.view (c.casePrepareCharging cfg init time).view := by
  unfold casePrepareCharging
  obtain ⟨w, d, hw, hd, hv, -⟩ := evaluated cfg init c (f := initPrepareCharging cfg) (by simp)
  simp only [hw, hd]
  split_ifs with he
  · rw [view_setState, hv]
    exact .prepareStops h
  · have hs := none_of_not_chargingEnds d he
    have hp := prepareSession_view cfg time (d.allowCableCheck cfg)
    unfold allowCableCheck at hp ⊢
    split_ifs at hp ⊢
    · rw [view_allowPowerOn, hv] at hp
      exact .preparesWithPower h hs hp
    · rw [hv] at hp
      exact .prepares h hs hp

@[simp] theorem view_initCharging : c.initCharging.view = c.view := rfl

@[simp] theorem view_requestD20Pause : c.requestD20Pause.view = c.view := by
  unfold requestD20Pause
  split_ifs <;> rfl

@[simp] theorem view_stopsWithoutEnergy : (c.stopsWithoutEnergy cfg).2.view = c.view := by
  unfold stopsWithoutEnergy
  dsimp only
  have ha := view_powerAvailable cfg c
  split_ifs <;> exact ha

@[simp] theorem view_enforceTargetLimits : c.enforceTargetLimits.view = c.view := by
  unfold enforceTargetLimits
  split_ifs <;> rfl

@[simp] theorem view_startChargingAc : c.startChargingAc.view = c.view.push (.power true) := by
  unfold startChargingAc
  dsimp only
  split_ifs <;> simp only [view_updatePwmNowIfChanged, view_updatePwmNowIfChangedAmpere] <;> rfl

theorem charge_view :
    (c.charge cfg init).view = if init then c.view.push (.power true) else c.view := by
  unfold charge
  cases cfg.chargeMode with
  | DC => simp [chargeDc, view_ite]
  | AC => simp [chargeAc, view_ite]

theorem caseCharging_view (h : c.state = .Charging) :
    View.Case init c.view (c.caseCharging cfg init).view := by
  unfold caseCharging
  obtain ⟨w, d, hw, hd, hv, -⟩ := evaluated cfg init c (f := initCharging) (by simp)
  have hq : (if d.d20Scheduled = true then d.requestD20Pause else d).view = c.view.evaluate := by
    simp [view_ite, hv]
  simp only [hw, hd]
  generalize (if d.d20Scheduled = true then d.requestD20Pause else d) = q at hq ⊢
  have hx : (q.stopsWithoutEnergy cfg).2.view = c.view.evaluate := by simp [hq]
  split_ifs with he
  · rw [view_setState, hq]
    exact .chargingStops h
  · rw [view_setState, hx]
    exact .chargingStops h
  · have hs := none_of_not_chargingEnds q fun hc => he (.inl hc)
    rw [charge_view, hx]
    cases init with
    | true => exact .chargingStarts h hs
    | false => exact .charging h hs

theorem sessionEnds_view : c.view.sessionEnds = c.sessionEnds := by
  simp [View.sessionEnds, sessionEnds, chargingEnds]

/-! ### Pauses -/

theorem view_restartByEv : c.restartByEv.view =
    if c.restartedByEv then c.view.setState .PrepareCharging else c.view := by
  unfold restartByEv takeBcbToggle
  dsimp only
  split_ifs <;> rfl

@[simp] theorem view_stopPausedPwm : c.stopPausedPwm.view = c.view := by
  simp [stopPausedPwm, view_ite]

@[simp] theorem view_keepNominalPwm : c.keepNominalPwm.view = c.view := by
  simp [keepNominalPwm, view_ite]

variable {d : Charger}

theorem restartedByEv_congr (hb : d.bcb = c.bcb) (hn : d.now = c.now)
    (hr : d.hlc.sessionRestartedByEv = c.hlc.sessionRestartedByEv) :
    d.restartedByEv = c.restartedByEv := by
  unfold Charger.restartedByEv bcbToggleDetected
  rw [hb, hn, hr]

theorem limits_expirePowerBudget : c.expirePowerBudget.limits = { c.limits with maxCurrent :=
    if 1000 ≤ c.now - c.limits.maxCurrentValidUntil ∧ 0 < c.limits.maxCurrent then 0
    else c.limits.maxCurrent } := by
  unfold expirePowerBudget
  split_ifs <;> rfl

/-- The available power does not depend on a measured overcurrent. -/
theorem powerAvailable_congr (hs : d.state = c.state) (hn : d.now = c.now)
    (hl : ∃ b t, d.limits = { c.limits with overCurrent := b, lastOverCurrentEvent := t }) :
    (d.powerAvailable cfg).1 = (c.powerAvailable cfg).1 := by
  obtain ⟨b, t, hl⟩ := hl
  have hs : d.expirePowerBudget.state = c.expirePowerBudget.state := by
    unfold expirePowerBudget
    split_ifs <;> exact hs
  have hd := limits_expirePowerBudget d
  have hc := limits_expirePowerBudget c
  rw [hl, hn] at hd
  have hm : d.expirePowerBudget.getMaxCurrentInternal =
      c.expirePowerBudget.getMaxCurrentInternal := by
    unfold getMaxCurrentInternal
    rw [hs, hd, hc]
  unfold Charger.powerAvailable
  dsimp only
  rw [hm, hd, hc]

/-- What decides about the pause of an EV. -/
structure SamePause (c d : Charger) : Prop where
  view : d.view = c.view
  hlc : d.hlc = c.hlc
  bcb : d.bcb = c.bcb
  now : d.now = c.now
  limits : ∃ b t, d.limits = { c.limits with overCurrent := b, lastOverCurrentEvent := t }

theorem SamePause.trans {c e : Charger} (h : SamePause c d) (h' : SamePause d e) :
    SamePause c e := by
  obtain ⟨b, t, hl⟩ := h.limits
  obtain ⟨b', t', hl'⟩ := h'.limits
  exact ⟨h'.view.trans h.view, h'.hlc.trans h.hlc, h'.bcb.trans h.bcb, h'.now.trans h.now,
    ⟨b', t', by rw [hl', hl]⟩⟩

theorem view_caseChargingPausedEv : (c.caseChargingPausedEv cfg init).view =
    if c.sessionEnds then c.view.setState .StoppingCharging
    else if c.hlc.chargingActive then
      if c.restartedByEv then c.view.setState .PrepareCharging else c.view
    else if (c.powerAvailable cfg).1 then c.view
    else c.view.setState .ChargingPausedEVSE := by
  unfold caseChargingPausedEv
  obtain ⟨d, hd, hcd⟩ : ∃ d : Charger,
      (if init = true then c.emit (.simpleEvent .ChargingPausedEV) else c) = d ∧ SamePause c d := by
    cases init <;> exact ⟨_, rfl, rfl, rfl, rfl, rfl, _, _, rfl⟩
  obtain ⟨q, hq, hdq⟩ : ∃ q : Charger,
      (if cfg.chargeMode = .AC then d.checkSoftOverCurrent cfg else d) = q ∧ SamePause d q := by
    unfold checkSoftOverCurrent
    dsimp only
    split_ifs <;> exact ⟨_, rfl, rfl, rfl, rfl, rfl, _, _, rfl⟩
  simp only [hd, hq]
  have hcq := hcd.trans hdq
  have hr := restartedByEv_congr c hcq.bcb hcq.now (by rw [hcq.hlc])
  have ha := powerAvailable_congr cfg c (state_of_view c hcq.view) hcq.now hcq.limits
  rw [← sessionEnds_view c, ← hcd.view, sessionEnds_view, ← hcq.hlc, ← hr, ← ha]
  simp only [view_ite, view_setState, view_stopPausedPwm, view_restartByEv, view_keepNominalPwm,
    view_powerAvailable, hdq.view]

theorem caseChargingPausedEv_view (h : c.state = .ChargingPausedEV) :
    View.Case init c.view (c.caseChargingPausedEv cfg init).view := by
  rw [view_caseChargingPausedEv]
  split_ifs
  · exact .pausedEvStops h
  · exact .pausedEvResumed h
  · exact .pausedEv h
  · exact .pausedEv h
  · exact .pausedEvNoEnergy h

@[simp] theorem view_initChargingPausedEvse : c.initChargingPausedEvse.view = c.view := by
  unfold initChargingPausedEvse
  split_ifs
  · exact view_cpStateX1 c
  · rfl

@[simp] theorem view_signalFault : (c.signalFault cfg).view = c.view := by
  simp [signalFault, view_ite]

@[simp] theorem view_announcePause (reasons : List PauseReason) :
    (c.announcePause reasons).view = c.view := by
  unfold announcePause
  split_ifs <;> rfl

theorem resumeFromEvsePause_view : c.resumeFromEvsePause.view = c.view ∨
    c.resumeFromEvsePause.view = c.view.setState .PrepareCharging ∨
    c.resumeFromEvsePause.view = c.view.setState .ChargingPausedEV := by
  unfold resumeFromEvsePause
  split_ifs <;> simp

theorem caseChargingPausedEvse_view (h : c.state = .ChargingPausedEVSE) :
    View.Case init c.view (c.caseChargingPausedEvse cfg init).view := by
  unfold caseChargingPausedEvse
  obtain ⟨w, hw, hv⟩ := initialised init c (f := initChargingPausedEvse) (g := fun _ v => v)
    (by simp) rfl
  rw [← state_of_view c hv] at h
  simp only [hw, ← hv]
  by_cases he : w.sessionEnds
  · rw [if_pos he]
    exact .pausedEvseStops h (by rw [sessionEnds_view, he])
  · have hq : ((w.signalFault cfg).emit (.clearError .cableCheckFault)).view = w.view := by simp
    generalize (w.signalFault cfg).emit (.clearError .cableCheckFault) = q at hq ⊢
    obtain ⟨d, hd, hv⟩ := stopChargingOnFatalError_eq cfg q
    have hx : (d.powerAvailable cfg).2.view = w.view.evaluate := by simp [hv, hq]
    have he : w.view.sessionEnds = false := by
      rw [sessionEnds_view]
      simpa using he
    simp only [hd]
    split_ifs with hr
    · have hs : w.view.control.shutdownType = .None := by
        have hqc : q.control = w.control := congrArg View.control hq
        by_contra hs
        simp [pauseReasons, hqc, show w.control.shutdownType ≠ .None from hs] at hr
      rcases resumeFromEvsePause_view (d.powerAvailable cfg).2 with hp | hp | hp <;> rw [hp, hx]
      · exact .pausedEvse h he
      · exact .pausedEvseResumed h hs
      · exact .pausedEvseParked h hs
    · rw [view_announcePause, hx]
      exact .pausedEvse h he

/-! ### The end of a session -/

@[simp] theorem view_askToStop : c.askToStop.view = c.view := by
  unfold askToStop
  dsimp only
  split_ifs <;> first | rfl | exact view_cpStateX1 _

@[simp] theorem view_initStoppingCharging : c.initStoppingCharging.view = c.view := by
  exact view_askToStop _

@[simp] theorem view_notifyD20PauseAtZero : (c.notifyD20PauseAtZero time).view = c.view := by
  unfold notifyD20PauseAtZero
  split_ifs <;> rfl

theorem view_hardStop : (c.hardStop time).view =
    if c.stoppingChargingTimeoutMs < time then c.view.push (.power false) else c.view := by
  simp [hardStop, view_ite]

/-- The charging was stopped by the EVSE: an error is looked at only if nothing else says so. -/
theorem stoppedByEvse_view : (c.stoppedByEvse cfg).2.view = c.view.evaluate ∨
    (c.stoppedByEvse cfg).1 ∧ (c.stoppedByEvse cfg).2.view = c.view := by
  unfold stoppedByEvse
  dsimp only
  have ha := view_powerAvailable cfg c
  split_ifs
  · exact .inr ⟨rfl, ha⟩
  · exact .inl (by rw [view_stopChargingOnFatalError, ha])

theorem caseStoppingCharging_view (h : c.state = .StoppingCharging) :
    View.Case init c.view (c.caseStoppingCharging cfg init time).view := by
  unfold caseStoppingCharging
  obtain ⟨w, hw, hv⟩ := initialised init c (f := initStoppingCharging) (g := fun _ v => v)
    (by simp) rfl
  rw [← state_of_view c hv] at h
  simp only [hw, ← hv]
  have hq : ((w.notifyD20PauseAtZero time).hardStop time).view = w.view ∨
      ((w.notifyD20PauseAtZero time).hardStop time).view = w.view.push (.power false) := by
    rw [view_hardStop, view_notifyD20PauseAtZero]
    split_ifs
    · exact .inr rfl
    · exact .inl rfl
  generalize (w.notifyD20PauseAtZero time).hardStop time = q at hq ⊢
  split_ifs with ho he hb
  · rw [view_setState]
    exact .stoppingEnds h hq
  · show View.Case init w.view ((q.stoppedByEvse cfg).2.view.setState .ChargingPausedEVSE)
    rcases stoppedByEvse_view cfg q with hv | ⟨-, hv⟩ <;> rw [hv]
    · exact .stoppingFaults h hq
    · exact .stoppingPausesEvse h hq
  · rcases stoppedByEvse_view cfg q with hv | ⟨hc, -⟩
    · rw [view_setState, hv]
      exact .stoppingPausesEv h hq
    · exact absurd hc hb
  · exact .stopping h hq

theorem view_initFinished : (c.initFinished cfg).view = c.view.enterFinished true := by
  simp only [initFinished, view_allowPowerOn, view_ite, view_emit, view_stopTransaction,
    ChargerOutput.mark, record, ite_self]
  rfl

theorem caseFinished_view (h : c.state = .Finished) :
    View.Case init c.view (c.caseFinished cfg init).view := by
  unfold caseFinished
  obtain ⟨w, hw, hv⟩ := initialised init c (g := enterFinished) (view_initFinished cfg c) rfl
  have hd : w.stopSession.control.flagDisableRequested = c.control.flagDisableRequested := by
    have hi := (congrArg inputs hv).trans (inputs_enterFinished ..)
    exact congrArg View.Inputs.disableRequested hi
  simp only [hw]
  split_ifs with hend hf
  · rw [view_setState, view_stopSession, hv]
    exact .finishedDisabled h (hd ▸ hf)
  · rw [view_setState, view_stopSession, hv]
    exact .finishedIdle h (by simpa [hd] using hf)
  · rw [hv]
    exact .finished h

/-! ## A pass -/

theorem case_view : View.Case init c.view (c.runState cfg i init time).view := by
  unfold runState
  cases h : c.state with
  | Disabled => exact caseDisabled_view init c h
  | Idle => exact caseIdle_view cfg init c h
  | WaitingForAuthentication => exact caseWaitingForAuthentication_view cfg i init time c h
  | SwitchPhases => exact caseSwitchPhases_view cfg init time c h
  | T_step_EF => exact caseTStepEf_view cfg init time c h
  | T_step_X1 => exact caseTStepX1_view cfg init time c h
  | Reinit => exact caseReinit_view init c h
  | PrepareCharging => exact casePrepareCharging_view cfg init time c h
  | Charging => exact caseCharging_view cfg init c h
  | ChargingPausedEV => exact caseChargingPausedEv_view cfg init c h
  | ChargingPausedEVSE => exact caseChargingPausedEvse_view cfg init c h
  | StoppingCharging => exact caseStoppingCharging_view cfg init time c h
  | Finished => exact caseFinished_view cfg init c h

/-- A requested reinit starts, or it is held back by the data link. -/
theorem advanceReinit_view (hr : c.seq.reinitRequested) :
    (c.view.reinitDue ∧ c.advanceReinit.view =
      ({ c.view with reinitDue := false }).endUntilUnmatched.setState .Reinit) ∨
      (c.view.reinitDue = false ∧ c.advanceReinit.view = c.view) := by
  unfold advanceReinit
  by_cases hm : c.link.slacMatched
  · right
    refine ⟨by simp [view, hm], ?_⟩
    split_ifs <;> rfl
  · left
    rw [if_neg hm]
    exact ⟨by simp [view, hr, hm], rfl⟩

theorem processPendingReinitRequest_view :
    View.PendingReinit c.view c.processPendingReinitRequest.view := by
  unfold processPendingReinitRequest
  split_ifs with hr hs
  · rcases advanceReinit_view (c.setState .StoppingCharging) hr with ⟨hd, hv⟩ | ⟨hd, hv⟩
    · rw [hv]
      exact .starts hd
    · rw [hv]
      exact .stops hs hd
  · rcases advanceReinit_view c hr with ⟨hd, hv⟩ | ⟨hd, hv⟩
    · rw [hv]
      exact .starts hd
    · rw [hv]
      exact .none hd
  · exact .none (by simp [view, hr])

@[simp] theorem view_noteState : c.noteState.view = c.view.note := rfl

@[simp] theorem view_beforeState : (c.beforeState init).view = c.view := by
  unfold beforeState
  obtain ⟨w, hw, hv⟩ : ∃ w, (if init = true then
      ({ c with currentStateStarted := c.now }).emit (.state c.state) else c) = w ∧
      w.view = c.view := ⟨_, rfl, by cases init <;> rfl⟩
  obtain ⟨q, hq, hwq⟩ : ∃ q, (if w.lastState = .SwitchPhases ∧ w.state ≠ .SwitchPhases ∧
      w.seq.switchingOngoing then w.switchPhasesNow else w) = q ∧ q.view = w.view :=
    ⟨_, rfl, by simp [view_ite]⟩
  simp only [hw, hq]
  rw [← hv, ← hwq]
  split_ifs
  · exact view_cpStateX1 _
  · rfl
  · rfl

theorem initializeState_false (h : c.initializeState = false) :
    c.view.control.lastStateDetectStateChange = c.view.state := by
  unfold initializeState at h
  simp only [Bool.or_eq_false_iff, decide_eq_false_iff_not, not_not] at h
  exact h.1

/-- **A pass has only the outcomes of `View.Pass`**, unless the timeout cuts it short. -/
theorem pass_view : View.Pass c.view (c.pass cfg i).2.view ∨
    (c.pass cfg i).1 ∧ c.view.socTimeout ∧ (c.pass cfg i).2.view =
      { c.processPendingReinitRequest.view.note with socTimeout := false } := by
  unfold pass
  have hr := processPendingReinitRequest_view c
  have hi := initializeState_false c.processPendingReinitRequest
  generalize c.processPendingReinitRequest = p at hr hi ⊢
  dsimp only
  have hw : (if p.noteState.acWithSocTimeout = true then
      { p.noteState with acWithSocTimer := p.noteState.acWithSocTimer - 50 }
        else p.noteState).view =
        p.view.note := by split_ifs <;> rfl
  generalize (if p.noteState.acWithSocTimeout = true then
    { p.noteState with acWithSocTimer := p.noteState.acWithSocTimer - 50 } else p.noteState) = w
    at hw ⊢
  split_ifs with ht
  · refine .inr ⟨rfl, ?_, ?_⟩
    · have hsoc : p.view.socTimeout = c.view.socTimeout :=
        congrArg View.Inputs.socTimeout hr.inputs
      rw [← hsoc]
      exact (congrArg socTimeout hw).symm.trans ht.1
    · rw [← hw]
      rfl
  · refine .inl ⟨⟨p.view, p.initializeState, hr, hi, ?_⟩⟩
    have hb := view_beforeState p.initializeState w
    rw [hw] at hb
    rw [← hb]
    exact case_view cfg i _ _ _

/-! ## The next pass -/

/-- The state that the next pass runs: a requested reinit comes first. -/
def pendingState (c : Charger) : EvseState :=
  if c.seq.reinitRequested ∧ ¬ c.link.slacMatched then .Reinit
  else if c.seq.reinitRequested ∧ c.state = .Charging then .StoppingCharging
  else c.state

/-- The next pass initialises its state. -/
def pendingInit (c : Charger) : Bool :=
  c.control.lastStateDetectStateChange ≠ c.pendingState ||
    c.internalLastShutdownType ≠ c.control.shutdownType

theorem state_advanceReinit :
    c.advanceReinit.state = if c.link.slacMatched then c.state else .Reinit := by
  unfold advanceReinit
  split_ifs <;> rfl

theorem state_processPendingReinitRequest :
    c.processPendingReinitRequest.state = c.pendingState := by
  have hset : (c.setState .StoppingCharging).advanceReinit.state =
      if c.link.slacMatched then .StoppingCharging else .Reinit := state_advanceReinit _
  unfold processPendingReinitRequest pendingState
  split_ifs <;> simp_all [state_advanceReinit]

theorem initializeState_processPendingReinitRequest :
    c.processPendingReinitRequest.initializeState = c.pendingInit := by
  unfold initializeState pendingInit
  rw [state_processPendingReinitRequest]
  unfold processPendingReinitRequest advanceReinit
  split_ifs <;> rfl

theorem pendingState_of_not_due (hr : c.view.reinitDue = false) (hs : c.state ≠ .Charging) :
    c.pendingState = c.state := by
  have hr : ¬ (c.seq.reinitRequested ∧ ¬ c.link.slacMatched) := by
    intro h
    simp [view, h.1, h.2] at hr
  unfold pendingState
  rw [if_neg hr, if_neg fun h => hs h.2]

theorem state_of_pendingState (h : c.pendingState ≠ .Reinit)
    (h' : c.pendingState ≠ .StoppingCharging) : c.state = c.pendingState := by
  unfold pendingState at *
  split_ifs at *
  · exact absurd rfl h
  · exact absurd rfl h'
  · rfl

/-- The timeout cuts the next pass short. -/
def pendingCut (c : Charger) : Bool := c.acWithSocTimeout && decide (c.acWithSocTimer < 50)

theorem pass_fst : (c.pass cfg i).1 = c.pendingCut := by
  have ht : c.processPendingReinitRequest.noteState.acWithSocTimeout = c.acWithSocTimeout ∧
      c.processPendingReinitRequest.noteState.acWithSocTimer = c.acWithSocTimer := by
    unfold processPendingReinitRequest advanceReinit
    split_ifs <;> exact ⟨rfl, rfl⟩
  unfold pass pendingCut
  dsimp only
  generalize c.processPendingReinitRequest.noteState = w at ht ⊢
  obtain ⟨h1, h2⟩ := ht
  rw [← h1, ← h2]
  cases hsoc : w.acWithSocTimeout with
  | false => simp [hsoc]
  | true =>
    simp only [if_true, true_and]
    split_ifs with h
    · simpa using by omega
    · simpa using by omega

end Charger

end EverestCore.Evse

import EverestCore.Evse.Charger.Interface
import EverestCore.Lib.Log

/-!
# The charger as seen by its sessions

A view of the charger keeps what decides about power, sessions and the enable state: the control
part of its state, the authorization, a reinit that can start, and the marks among its outputs. On
views the charger is a small nondeterministic machine.

`Effects.lean` shows that the charger has only these outcomes.
-/

namespace EverestCore.Evse

/-- The outputs that matter here. -/
inductive Mark
  | power (on : Bool)
  | sessionStarted
  | sessionFinished
  | transactionStarted
  | transactionFinished
  deriving DecidableEq

/-- The mark of an output. -/
@[simp] def ChargerOutput.mark : ChargerOutput → Option Mark
  | .allowPowerOn value _ => some (.power value)
  | .sessionStarted _ _ => some .sessionStarted
  | .simpleEvent e => if e = .SessionFinished then some .sessionFinished else none
  | .transactionStarted _ => some .transactionStarted
  | .transactionFinished _ _ => some .transactionFinished
  | _ => none

/-- What is kept of a charger. `reinitDue`: a reinit is requested and not held back by the data
link; `socTimeout`: `ac_with_soc_timeout`; `marks`: newest first. -/
structure View where
  control : Control
  authorized : Bool
  reinitDue : Bool
  socTimeout : Bool
  marks : List Mark

def Charger.view (c : Charger) : View where
  control := c.control
  authorized := c.auth.flagAuthorized
  reinitDue := c.seq.reinitRequested && !c.link.slacMatched
  socTimeout := c.acWithSocTimeout
  marks := c.log.filterMap ChargerOutput.mark

namespace View

/-! ## Operations -/

def state (v : View) : EvseState := v.control.currentState

def setState (s : EvseState) (v : View) : View :=
  { v with control := { v.control with currentState := s } }

def push (m : Mark) (v : View) : View := { v with marks := m :: v.marks }

/-- An output that may have a mark. -/
@[simp] def record (v : View) : Option Mark → View
  | none => v
  | some m => v.push m

/-- `stop_charging_on_fatal_error`: a new error withdraws the power. -/
def evaluate (v : View) : View :=
  let w := if v.control.lastShutdownType = v.control.shutdownType ∨
      v.control.shutdownType = .None then v else v.push (.power false)
  { w with control := { w.control with lastShutdownType := w.control.shutdownType } }

def startSession (v : View) : View :=
  ({ v with
    control := { v.control with sessionActive := true }, authorized := false }).push .sessionStarted

def stopSession (v : View) : View :=
  ({ v with
    control := { v.control with sessionActive := false }, authorized := false }).push
      .sessionFinished

def startTransaction (v : View) : View :=
  ({ v with control := { v.control with flagTransactionActive := true } }).push .transactionStarted

def stopTransaction (v : View) : View :=
  ({ v with control := { v.control with flagTransactionActive := false } }).push
    .transactionFinished

/-- `deauthorize_internal`. -/
def deauthorize (v : View) : View :=
  if v.control.sessionActive ∧ v.authorized ∧
      (v.state = .Disabled ∨ v.state = .Idle ∨ v.state = .WaitingForAuthentication) then
    v.stopSession
  else v

/-- The session cannot go on. -/
def sessionEnds (v : View) : Bool :=
  !v.authorized || !v.control.flagTransactionActive || !v.control.flagEvPluggedIn ||
    v.control.flagDisableRequested

def endUntilUnmatched (v : View) : View :=
  { v with control := { v.control with tStepX1UntilUnmatched := false } }

/-- `T_step_EF`, and then `s`. -/
def throughEf (s : EvseState) (v : View) : View :=
  ({ v with control := { v.control with tStepEfReturnState := s } }).setState .T_step_EF

/-- `T_step_X1` until the data link is left, `T_step_EF`, and then `s`. -/
def throughX1Ef (s : EvseState) (v : View) : View :=
  ({ v with control := { v.control with
    tStepEfReturnState := s, tStepX1UntilUnmatched := true } }).setState .T_step_X1

/-- `T_step_X1`, and then `s`. -/
def throughX1 (s : EvseState) (v : View) : View :=
  ({ v with control := { v.control with
    tStepX1ReturnState := s, tStepX1UntilUnmatched := false } }).setState .T_step_X1

/-- The state after an aborted `T_step_X1`. -/
def x1ReturnState (v : View) : EvseState :=
  if v.control.tStepX1UntilUnmatched then v.control.tStepEfReturnState
  else v.control.tStepX1ReturnState

/-! ## Initialisations -/

/-- `Idle`: nothing of the last session is left. -/
def enterIdle (init : Bool) (v : View) : View :=
  if init then
    let v := v.deauthorize
    { v with control := { v.control with
      flagTransactionActive := false, lastShutdownType := .None } }
  else v

/-- `WaitingForAuthentication`: no power, and a session. -/
def enterWaiting (init : Bool) (v : View) : View :=
  if init then
    let v := v.push (.power false)
    if v.control.sessionActive then v else v.startSession
  else v

/-- `Finished`: no transaction and no power. -/
def enterFinished (init : Bool) (v : View) : View :=
  if init then
    (if v.control.flagTransactionActive then v.stopTransaction else v).push (.power false)
  else v

/-! ## What the operations keep -/

section Fields

variable (v : View) (init : Bool) (s : EvseState)

@[simp] theorem state_setState : (v.setState s).state = s := rfl

@[simp] theorem control_setState :
    (v.setState s).control = { v.control with currentState := s } := rfl

@[simp] theorem state_push (m : Mark) : (v.push m).state = v.state := rfl

@[simp] theorem state_startTransaction : v.startTransaction.state = v.state := rfl

@[simp] theorem state_endUntilUnmatched : v.endUntilUnmatched.state = v.state := rfl

@[simp] theorem control_endUntilUnmatched :
    v.endUntilUnmatched.control = { v.control with tStepX1UntilUnmatched := false } := rfl

@[simp] theorem state_throughEf : (v.throughEf s).state = .T_step_EF := rfl

@[simp] theorem state_throughX1Ef : (v.throughX1Ef s).state = .T_step_X1 := rfl

@[simp] theorem state_throughX1 : (v.throughX1 s).state = .T_step_X1 := rfl

@[simp] theorem control_push (m : Mark) : (v.push m).control = v.control := rfl

@[simp] theorem control_stopSession :
    v.stopSession.control = { v.control with sessionActive := false } := rfl

@[simp] theorem control_startTransaction :
    v.startTransaction.control = { v.control with flagTransactionActive := true } := rfl

@[simp] theorem control_evaluate : v.evaluate.control =
    { v.control with lastShutdownType := v.control.shutdownType } := by
  unfold evaluate
  split_ifs <;> rfl

@[simp] theorem authorized_setState : (v.setState s).authorized = v.authorized := rfl

@[simp] theorem authorized_endUntilUnmatched : v.endUntilUnmatched.authorized = v.authorized := rfl

@[simp] theorem authorized_stopSession : v.stopSession.authorized = false := rfl

@[simp] theorem authorized_evaluate : v.evaluate.authorized = v.authorized := by
  unfold evaluate
  split_ifs <;> rfl

@[simp] theorem control_enterWaiting : (v.enterWaiting init).control =
    { v.control with sessionActive := init || v.control.sessionActive } := by
  unfold enterWaiting
  cases init with
  | false => rfl
  | true =>
    by_cases hs : v.control.sessionActive
    · simp only [if_true, control_push, hs]
      rw [Bool.true_or, ← hs]
    · simp only [if_true, control_push, hs]
      rfl

@[simp] theorem control_enterFinished : (v.enterFinished init).control =
    { v.control with flagTransactionActive := !init && v.control.flagTransactionActive } := by
  unfold enterFinished
  cases init with
  | false => rfl
  | true =>
    simp only [if_true, control_push, Bool.not_true, Bool.false_and]
    split_ifs with ht
    · rfl
    · rw [show false = v.control.flagTransactionActive by simpa using ht]

@[simp] theorem state_evaluate : v.evaluate.state = v.state := by
  simp [state]

@[simp] theorem control_deauthorize : v.deauthorize.control =
    { v.control with sessionActive := v.deauthorize.control.sessionActive } := by
  unfold deauthorize
  split_ifs <;> rfl

@[simp] theorem state_enterIdle : (v.enterIdle init).state = v.state := by
  unfold enterIdle deauthorize
  split_ifs <;> rfl

@[simp] theorem state_enterWaiting : (v.enterWaiting init).state = v.state := by
  simp [state]

@[simp] theorem state_enterFinished : (v.enterFinished init).state = v.state := by
  simp [state]

@[simp] theorem x1ReturnState_evaluate : v.evaluate.x1ReturnState = v.x1ReturnState := by
  simp [x1ReturnState]

theorem endUntilUnmatched_of_not (h : v.control.tStepX1UntilUnmatched = false) :
    v.endUntilUnmatched = v := by
  unfold endUntilUnmatched
  rw [← h]

end Fields

/-! ## The states -/

/-- From an authorized session on. -/
inductive Onward : View → View → Prop
  | waits {v} : Onward v v
  | prepares {v} : Onward v (v.setState .PrepareCharging)
  | throughEf {v} : Onward v (v.throughEf .PrepareCharging)
  | throughX1 {v} : Onward v (v.throughX1 .PrepareCharging)

/-- `request_error_sequence_internal`. -/
inductive ErrorSequence : View → View → Prop
  | none {v} : ErrorSequence v v
  | ef {v : View} (h : v.state = .WaitingForAuthentication ∨ v.state = .PrepareCharging) :
      ErrorSequence v (v.throughEf v.state)
  | x1 {v : View} (h : v.state = .WaitingForAuthentication ∨ v.state = .PrepareCharging) :
      ErrorSequence v (v.throughX1Ef v.state)

/-- `PrepareCharging`, without an error. -/
inductive Prepared : View → View → Prop
  | waits {v} : Prepared v v
  | pausedByEv {v} : Prepared v (v.setState .ChargingPausedEV)
  | charges {v} : Prepared v (v.setState .Charging)
  | wakesUp {v} : Prepared v (v.throughEf .PrepareCharging)
  | linkLost {v w} (h : ErrorSequence v w) : Prepared v w

/-- What a change of the state leaves alone. -/
structure SameSession (v w : View) : Prop where
  marks : w.marks = v.marks
  authorized : w.authorized = v.authorized
  active : w.control.sessionActive = v.control.sessionActive
  transaction : w.control.flagTransactionActive = v.control.flagTransactionActive
  shutdown : w.control.lastShutdownType = v.control.lastShutdownType

section Same

variable {v w : View}

theorem Onward.same (h : Onward v w) : SameSession v w := by
  cases h <;> exact ⟨rfl, rfl, rfl, rfl, rfl⟩

theorem ErrorSequence.same (h : ErrorSequence v w) : SameSession v w := by
  cases h <;> exact ⟨rfl, rfl, rfl, rfl, rfl⟩

theorem Prepared.same (h : Prepared v w) : SameSession v w := by
  cases h with
  | linkLost h => exact h.same
  | _ => exact ⟨rfl, rfl, rfl, rfl, rfl⟩

theorem Onward.ongoing (h : Onward v w) (hs : v.state = .WaitingForAuthentication) :
    w.state ≠ .Idle ∧ w.state ≠ .Disabled ∧ w.state ≠ .Finished := by
  cases h <;> simp [hs]

theorem Prepared.ongoing (h : Prepared v w) (hs : v.state = .PrepareCharging) :
    w.state ≠ .Idle ∧ w.state ≠ .Disabled ∧ w.state ≠ .Finished := by
  cases h with
  | linkLost h => cases h <;> simp [hs]
  | _ => simp [hs]

end Same

/-- The outcomes of the states of the source, in its order. -/
inductive Case (init : Bool) : View → View → Prop
  | disabled {v : View} (h : v.state = .Disabled) (hd : v.control.flagDisableRequested = true) :
      Case init v v
  | enabled {v : View} (h : v.state = .Disabled) (hd : v.control.flagDisableRequested = false) :
      Case init v (v.setState .Idle)
  | idle {v : View} (h : v.state = .Idle) (hd : v.control.flagDisableRequested = false) :
      Case init v (v.enterIdle init)
  | disables {v : View} (h : v.state = .Idle) (hd : v.control.flagDisableRequested = true) :
      Case init v ((v.enterIdle init).setState .Disabled)
  | waitingEnds {v : View} (h : v.state = .WaitingForAuthentication) :
      Case init v ((v.enterWaiting init).evaluate.setState .Finished)
  | waiting {v : View} (h : v.state = .WaitingForAuthentication)
      (hs : v.control.shutdownType = .None) : Case init v (v.enterWaiting init).evaluate
  | proceeds {v w : View} (h : v.state = .WaitingForAuthentication)
      (hs : v.control.shutdownType = .None)
      (ht : v.control.flagTransactionActive = true)
      (hw : Onward (v.enterWaiting init).evaluate w) : Case init v w
  | transactionStarts {v w : View} (h : v.state = .WaitingForAuthentication)
      (hs : v.control.shutdownType = .None)
      (ht : v.control.flagTransactionActive = false)
      (hw : Onward (v.enterWaiting init).evaluate.startTransaction w) : Case init v w
  | switching {v : View} (h : v.state = .SwitchPhases) (hs : v.control.shutdownType = .None) :
      Case init v v.evaluate
  | switched {v : View} (h : v.state = .SwitchPhases) :
      Case init v (v.evaluate.setState v.control.switchingPhasesReturnState)
  | ef {v : View} (h : v.state = .T_step_EF) (hs : v.control.shutdownType = .None) :
      Case init v v.evaluate
  | efEnds {v : View} (h : v.state = .T_step_EF) :
      Case init v (v.evaluate.setState v.control.tStepEfReturnState)
  | x1 {v : View} (h : v.state = .T_step_X1) (hs : v.control.shutdownType = .None) :
      Case init v v.evaluate
  | x1Ends {v : View} (h : v.state = .T_step_X1) :
      Case init v (v.evaluate.setState v.x1ReturnState).endUntilUnmatched
  | x1ToEf {v : View} (h : v.state = .T_step_X1) (hu : v.control.tStepX1UntilUnmatched = true) :
      Case init v (v.evaluate.endUntilUnmatched.setState .T_step_EF)
  | reinit {v : View} (h : v.state = .Reinit) : Case init v v
  | reinitEnds {v : View} (h : v.state = .Reinit) :
      Case init v (v.setState .WaitingForAuthentication)
  | prepareStops {v : View} (h : v.state = .PrepareCharging) :
      Case init v (v.evaluate.setState .StoppingCharging)
  | prepares {v w : View} (h : v.state = .PrepareCharging) (hs : v.control.shutdownType = .None)
      (hw : Prepared v.evaluate w) : Case init v w
  | preparesWithPower {v w : View} (h : v.state = .PrepareCharging)
      (hs : v.control.shutdownType = .None)
      (hw : Prepared (v.evaluate.push (.power true)) w) : Case init v w
  | chargingStops {v : View} (h : v.state = .Charging) :
      Case init v (v.evaluate.setState .StoppingCharging)
  | charging {v : View} (h : v.state = .Charging) (hs : v.control.shutdownType = .None) :
      Case init v v.evaluate
  | chargingStarts {v : View} (h : v.state = .Charging) (hs : v.control.shutdownType = .None) :
      Case init v (v.evaluate.push (.power true))
  | pausedEv {v : View} (h : v.state = .ChargingPausedEV) : Case init v v
  | pausedEvStops {v : View} (h : v.state = .ChargingPausedEV) :
      Case init v (v.setState .StoppingCharging)
  | pausedEvResumed {v : View} (h : v.state = .ChargingPausedEV) :
      Case init v (v.setState .PrepareCharging)
  | pausedEvNoEnergy {v : View} (h : v.state = .ChargingPausedEV) :
      Case init v (v.setState .ChargingPausedEVSE)
  | pausedEvse {v : View} (h : v.state = .ChargingPausedEVSE) (he : v.sessionEnds = false) :
      Case init v v.evaluate
  | pausedEvseStops {v : View} (h : v.state = .ChargingPausedEVSE) (he : v.sessionEnds = true) :
      Case init v (v.setState .StoppingCharging)
  | pausedEvseResumed {v : View} (h : v.state = .ChargingPausedEVSE)
      (hs : v.control.shutdownType = .None) : Case init v (v.evaluate.setState .PrepareCharging)
  | pausedEvseParked {v : View} (h : v.state = .ChargingPausedEVSE)
      (hs : v.control.shutdownType = .None) : Case init v (v.evaluate.setState .ChargingPausedEV)
  | stopping {v w : View} (h : v.state = .StoppingCharging)
      (hw : w = v ∨ w = v.push (.power false)) :
      Case init v w
  | stoppingEnds {v w : View} (h : v.state = .StoppingCharging)
      (hw : w = v ∨ w = v.push (.power false)) : Case init v (w.setState .Finished)
  | stoppingPausesEvse {v w : View} (h : v.state = .StoppingCharging)
      (hw : w = v ∨ w = v.push (.power false)) : Case init v (w.setState .ChargingPausedEVSE)
  | stoppingFaults {v w : View} (h : v.state = .StoppingCharging)
      (hw : w = v ∨ w = v.push (.power false)) :
      Case init v (w.evaluate.setState .ChargingPausedEVSE)
  | stoppingPausesEv {v w : View} (h : v.state = .StoppingCharging)
      (hw : w = v ∨ w = v.push (.power false)) : Case init v (w.evaluate.setState .ChargingPausedEV)
  | finished {v : View} (h : v.state = .Finished) : Case init v (v.enterFinished init)
  | finishedIdle {v : View} (h : v.state = .Finished)
      (hd : v.control.flagDisableRequested = false) :
      Case init v ((v.enterFinished init).stopSession.setState .Idle)
  | finishedDisabled {v : View} (h : v.state = .Finished)
      (hd : v.control.flagDisableRequested = true) :
      Case init v ((v.enterFinished init).stopSession.setState .Disabled)

/-! ## Passes and calls -/

/-- `process_pending_reinit_request`. -/
inductive PendingReinit : View → View → Prop
  | none {v : View} (h : v.reinitDue = false) : PendingReinit v v
  | stops {v : View} (hs : v.state = .Charging) (h : v.reinitDue = false) :
      PendingReinit v (v.setState .StoppingCharging)
  | starts {v : View} (h : v.reinitDue = true) :
      PendingReinit v (({ v with reinitDue := false }).endUntilUnmatched.setState .Reinit)

theorem PendingReinit.same {v w : View} (h : PendingReinit v w) : SameSession v w := by
  cases h <;> exact ⟨rfl, rfl, rfl, rfl, rfl⟩

/-- What the states leave alone: it is set by the calls. -/
structure Inputs where
  shutdownType : ShutdownType
  contactorOpen : Bool
  evPluggedIn : Bool
  disableRequested : Bool
  connectorEnabled : Bool
  activeSource : EnableDisableSource
  sourceTable : List EnableDisableSource
  reinitDue : Bool
  socTimeout : Bool

def inputs (v : View) : Inputs where
  shutdownType := v.control.shutdownType
  contactorOpen := v.control.contactorOpen
  evPluggedIn := v.control.flagEvPluggedIn
  disableRequested := v.control.flagDisableRequested
  connectorEnabled := v.control.connectorEnabled
  activeSource := v.control.activeEnableDisableSource
  sourceTable := v.control.enableDisableSourceTable
  reinitDue := v.reinitDue
  socTimeout := v.socTimeout

section Inputs

variable (v : View) (init : Bool)

@[simp] theorem inputs_setState (s : EvseState) : (v.setState s).inputs = v.inputs := rfl

@[simp] theorem inputs_push (m : Mark) : (v.push m).inputs = v.inputs := rfl

@[simp] theorem inputs_endUntilUnmatched : v.endUntilUnmatched.inputs = v.inputs := rfl

@[simp] theorem inputs_startTransaction : v.startTransaction.inputs = v.inputs := rfl

@[simp] theorem inputs_stopSession : v.stopSession.inputs = v.inputs := rfl

@[simp] theorem inputs_evaluate : v.evaluate.inputs = v.inputs := by
  unfold evaluate
  split_ifs <;> rfl

@[simp] theorem inputs_deauthorize : v.deauthorize.inputs = v.inputs := by
  unfold deauthorize
  split_ifs <;> rfl

@[simp] theorem inputs_enterIdle : (v.enterIdle init).inputs = v.inputs := by
  cases init
  · rfl
  · exact inputs_deauthorize v

@[simp] theorem inputs_enterWaiting : (v.enterWaiting init).inputs = v.inputs := by
  unfold enterWaiting
  dsimp only
  split_ifs <;> rfl

@[simp] theorem inputs_enterFinished : (v.enterFinished init).inputs = v.inputs := by
  unfold enterFinished
  split_ifs <;> rfl

end Inputs

theorem Onward.inputs {v w : View} (h : Onward v w) : w.inputs = v.inputs := by
  cases h <;> rfl

theorem ErrorSequence.inputs {v w : View} (h : ErrorSequence v w) : w.inputs = v.inputs := by
  cases h <;> rfl

theorem Prepared.inputs {v w : View} (h : Prepared v w) : w.inputs = v.inputs := by
  cases h with
  | linkLost h => exact h.inputs
  | _ => rfl

theorem Case.inputs {init : Bool} {v w : View} (h : Case init v w) : w.inputs = v.inputs := by
  cases h with
  | proceeds _ _ _ hw | transactionStarts _ _ _ hw | prepares _ _ hw | preparesWithPower _ _ hw =>
    simp [hw.inputs]
  | stopping _ hw | stoppingEnds _ hw | stoppingPausesEvse _ hw | stoppingFaults _ hw
  | stoppingPausesEv _ hw => rcases hw with rfl | rfl <;> simp
  | _ => simp

theorem PendingReinit.inputs {v w : View} (h : PendingReinit v w) :
    w.inputs = { v.inputs with reinitDue := false } := by
  cases h with
  | none h | stops _ h =>
    rw [← h]
    rfl
  | starts => rfl

/-- The state is noted before it is run. -/
def note (v : View) : View :=
  { v with control := { v.control with lastStateDetectStateChange := v.state } }

@[simp] theorem state_note (v : View) : v.note.state = v.state := rfl

@[simp] theorem inputs_note (v : View) : v.note.inputs = v.inputs := rfl

/-- A pass that runs its state. A changed state is always initialised. -/
structure Pass (v w : View) : Prop where
  out : ∃ u init, PendingReinit v u ∧
    (init = false → u.control.lastStateDetectStateChange = u.state) ∧ Case init u.note w

theorem Pass.inputs {v w : View} (h : Pass v w) :
    w.inputs = { v.inputs with reinitDue := false } := by
  obtain ⟨u, init, hr, -, hc⟩ := h.out
  rw [hc.inputs, inputs_note, hr.inputs]

/-- The outcomes of the calls and events, but for `enable_disable` and its initial state,
`deauthorize` and a rejected `authorize`. -/
inductive Called : View → View → Prop
  | same {v} : Called v v
  | unplugged {v : View} :
      Called v { v with control := { v.control with flagEvPluggedIn := false } }
  | contactor {v : View} (isOpen : Bool) :
      Called v { v with control := { v.control with contactorOpen := isOpen } }
  | pluggedIn {v : View} (h : v.state = .Idle) :
      Called v (({ v with control := { v.control with flagEvPluggedIn := true } }).setState
        .WaitingForAuthentication)
  | stopPreparing {v : View} (h : v.state = .PrepareCharging) :
      Called v (v.setState .ChargingPausedEVSE)
  | resumedByEv {v : View} (h : v.state = .ChargingPausedEV) :
      Called v (v.setState .PrepareCharging)
  | error {v : View} (t : ShutdownType) :
      Called v { v with control := { v.control with shutdownType := t } }
  | evaluated {v : View} : Called v v.evaluate
  | authorizedFirst {v : View} (h : v.state = .Idle) (hs : v.control.sessionActive = false) :
      Called v { v.startSession with authorized := true }
  | authorized {v : View} (hs : v.control.sessionActive = true) :
      Called v { v with authorized := true }
  | unauthorized {v : View} : Called v { v with authorized := false }
  | switchesPhases {v : View} (h : v.state = .Charging) :
      Called v (({ v with control := { v.control with
        switchingPhasesReturnState := .PrepareCharging } }).setState .SwitchPhases)
  | reinitDue {v : View} (due : Bool) : Called v { v with reinitDue := due }
  | currentDemand {v : View} (h : v.state = .PrepareCharging) : Called v (v.setState .Charging)
  | powerOff {v : View} : Called v (v.push (.power false))
  | renegotiates {v : View} (h : v.state = .Charging) :
      Called v ((v.push (.power false)).setState .PrepareCharging)
  | errorSequence {v w : View} (h : ErrorSequence v w) : Called v w
  | basicChargingX1 {v : View} (h : v.state = .WaitingForAuthentication)
      (ha : v.authorized = true) :
      Called v (v.throughX1Ef .PrepareCharging)
  | basicChargingEf {v : View} (h : v.state = .WaitingForAuthentication)
      (ha : v.authorized = true) :
      Called v (v.throughEf .PrepareCharging)
  | matchesAgain {v : View} (h : v.state = .WaitingForAuthentication ∨ v.state = .PrepareCharging) :
      Called v (v.throughX1Ef .WaitingForAuthentication)

/-- The steps of `enable_disable`, and its initial state. -/
inductive Enabling : View → View → Prop
  | published {v : View} (table : List EnableDisableSource) (source : EnableDisableSource) :
      Enabling v { v with control := { v.control with
        enableDisableSourceTable := table, activeEnableDisableSource := source } }
  | decided {v : View} (table : List EnableDisableSource) (source : EnableDisableSource)
      (enabled : Bool) :
      Enabling v { v with control := { v.control with
        enableDisableSourceTable := table
        activeEnableDisableSource := source
        connectorEnabled := enabled } }
  | leavesDisabled {v : View} (h : v.state = .Disabled) :
      Enabling v (({ v with control := { v.control with flagDisableRequested := false } }).setState
        .Idle)
  | disableRequested {v : View} :
      Enabling v { v with control := { v.control with flagDisableRequested := true } }

/-! ## The CP sequences -/

/-- A state that goes on with the session. -/
def Resumes (s : EvseState) : Prop := s = .PrepareCharging ∨ s = .WaitingForAuthentication

/-- The CP sequences return to a state that goes on with the session. -/
structure Sequenced (v : View) : Prop where
  ef : v.state = .T_step_EF → Resumes v.control.tStepEfReturnState
  x1 : v.state = .T_step_X1 → Resumes v.x1ReturnState
  switching : v.state = .SwitchPhases → v.control.switchingPhasesReturnState = .PrepareCharging

namespace Sequenced

variable {v w : View}

theorem of_state (h : w.state ≠ .T_step_EF ∧ w.state ≠ .T_step_X1 ∧ w.state ≠ .SwitchPhases) :
    w.Sequenced :=
  ⟨fun hs => absurd hs h.1, fun hs => absurd hs h.2.1, fun hs => absurd hs h.2.2⟩

variable {s : EvseState}

theorem setState (v : View)
    (h : s ≠ .T_step_EF ∧ s ≠ .T_step_X1 ∧ s ≠ .SwitchPhases) : (v.setState s).Sequenced :=
  of_state h

theorem of_resumes (h : Resumes w.state) : w.Sequenced := by
  apply of_state
  rcases h with h | h <;> simp [h]

theorem push {m : Mark} (h : v.Sequenced) : (v.push m).Sequenced := ⟨h.ef, h.x1, h.switching⟩

theorem evaluate (h : v.Sequenced) : v.evaluate.Sequenced where
  ef := by simpa [state] using h.ef
  x1 := by simpa [state] using h.x1
  switching := by simpa [state] using h.switching

theorem throughEf (v : View) (h : Resumes s) : (v.throughEf s).Sequenced :=
  ⟨fun _ => h, nofun, nofun⟩

theorem throughX1Ef (v : View) (h : Resumes s) : (v.throughX1Ef s).Sequenced :=
  ⟨nofun, fun _ => h, nofun⟩

theorem throughX1 (v : View) (h : Resumes s) : (v.throughX1 s).Sequenced :=
  ⟨nofun, fun _ => h, nofun⟩

theorem errorSequence (h : ErrorSequence v w) (hv : v.Sequenced) : w.Sequenced := by
  cases h with
  | none => exact hv
  | ef hs => exact throughEf v hs.symm
  | x1 hs => exact throughX1Ef v hs.symm

theorem onward (h : Onward v w) (hv : v.Sequenced) : w.Sequenced := by
  cases h with
  | waits => exact hv
  | prepares => exact of_resumes (.inl rfl)
  | throughEf => exact throughEf v (.inl rfl)
  | throughX1 => exact throughX1 v (.inl rfl)

theorem prepared (h : Prepared v w) (hv : v.Sequenced) : w.Sequenced := by
  cases h with
  | waits => exact hv
  | pausedByEv | charges => exact setState v (by decide)
  | wakesUp => exact throughEf v (.inl rfl)
  | linkLost h => exact errorSequence h hv

theorem note (h : v.Sequenced) : v.note.Sequenced := ⟨h.ef, h.x1, h.switching⟩

theorem pendingReinit (h : PendingReinit v w) (hv : v.Sequenced) : w.Sequenced := by
  cases h with
  | none => exact hv
  | stops => exact setState v (by decide)
  | starts => exact setState _ (by decide)

theorem case {init : Bool} (h : Case init v w) (hv : v.Sequenced) : w.Sequenced := by
  cases h with
  | disabled | reinit | pausedEv => exact hv
  | enabled | reinitEnds => exact setState v (by decide)
  | idle h => exact of_state (by rw [state_enterIdle, h]; decide)
  | waiting h => exact of_resumes (.inr (by simp [h]))
  | proceeds h _ _ hw => exact onward hw (of_resumes (.inr (by simp [h])))
  | transactionStarts h _ _ hw =>
    have hw' : (v.enterWaiting init).evaluate.Sequenced := of_resumes (.inr (by simp [h]))
    exact onward hw ⟨hw'.ef, hw'.x1, hw'.switching⟩
  | switching | ef | x1 | charging | pausedEvse => exact hv.evaluate
  | switched h => exact setState _ (by rw [hv.switching h]; decide)
  | efEnds h => exact of_resumes (hv.ef h)
  | x1Ends h => exact of_resumes (hv.x1 h)
  | x1ToEf h hu =>
    have hr := hv.x1 h
    rw [x1ReturnState, if_pos hu] at hr
    exact ⟨fun _ => by simpa [endUntilUnmatched, View.setState] using hr, nofun, nofun⟩
  | prepares _ _ hw => exact prepared hw hv.evaluate
  | preparesWithPower _ _ hw => exact prepared hw hv.evaluate.push
  | chargingStarts => exact hv.evaluate.push
  | stopping _ hw =>
    rcases hw with rfl | rfl
    · exact hv
    · exact hv.push
  | finished h => exact of_state (by rw [state_enterFinished, h]; decide)
  | _ => exact setState _ (by decide)

theorem pass (h : Pass v w) (hv : v.Sequenced) : w.Sequenced := by
  obtain ⟨u, init, hr, -, hc⟩ := h.out
  exact case hc (pendingReinit hr hv).note

theorem called (h : Called v w) (hv : v.Sequenced) : w.Sequenced := by
  cases h with
  | pluggedIn | stopPreparing | resumedByEv | currentDemand | renegotiates =>
    exact setState _ (by decide)
  | evaluated => exact hv.evaluate
  | switchesPhases => exact ⟨nofun, nofun, fun _ => rfl⟩
  | errorSequence h => exact errorSequence h hv
  | basicChargingX1 => exact throughX1Ef v (.inl rfl)
  | basicChargingEf => exact throughEf v (.inl rfl)
  | matchesAgain => exact throughX1Ef v (.inr rfl)
  | _ => exact ⟨hv.ef, hv.x1, hv.switching⟩

theorem enabling (h : Enabling v w) (hv : v.Sequenced) : w.Sequenced := by
  cases h with
  | leavesDisabled => exact setState _ (by decide)
  | _ => exact ⟨hv.ef, hv.x1, hv.switching⟩

end Sequenced

end View

end EverestCore.Evse

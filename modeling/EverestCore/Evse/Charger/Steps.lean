import EverestCore.Evse.Charger.Effects

/-!
# The steps of the charger on its view

The outcomes of the calls, and the rules by which an invariant of the views is carried over a run.

Results:
* **`called_view`**: a call that neither runs the state machine nor takes an authorization back, and
  is not about the enable state, has only the outcomes of `View.Called`.
* **`Keeps.step`**, `Keeps.calls`: what the steps of the view keep holds after each step of the
  charger, and where the state machine is called.
-/

namespace EverestCore.Evse

open List

open Iec (CPEvent)

namespace Charger

section Outcomes

variable (cfg : ChargerConfig) (i : ChargerInputs) (c : Charger)

/-! ## Calls -/

theorem processCpEventsIndependent_view (e : CPEvent) :
    View.Called c.view (c.processCpEventsIndependent e).view := by
  cases e with
  | CarUnplugged => exact .unplugged
  | PowerOff => exact .contactor true
  | PowerOn => exact .contactor false
  | _ => exact .same

theorem processCpEventsState_view (e : CPEvent) :
    View.Called c.view (c.processCpEventsState cfg e).view := by
  unfold processCpEventsState
  split
  case h_1 hs => exact .pluggedIn hs
  case h_5 hs =>
    unfold stopPreparing
    dsimp only
    split_ifs
    · exact .same
    · exact .stopPreparing hs
  case h_8 hs =>
    dsimp only
    split_ifs
    · exact .resumedByEv hs
    · exact .same
    · exact .same
  -- the other events leave the view alone
  case h_9 | h_11 =>
    split_ifs
    · rw [view_bcbToggleDetectStopPulse]
      exact .same
    · exact .same
  case h_10 => split_ifs <;> exact .same
  all_goals exact .same

@[simp] theorem view_grantAuthorization (token : ProvidedIdToken) :
    (c.grantAuthorization token).view = { c.view with authorized := true } := rfl

theorem authorize_view (token : ProvidedIdToken) :
    View.Called c.view (c.authorize i true token).2.view := by
  unfold authorize
  rw [if_pos rfl]
  split_ifs with hc hs
  · exact .same
  · exact .same
  · unfold acceptAuthorization
    rw [view_grantAuthorization, view_ite, view_startSession]
    split_ifs with ha
    · exact .authorized ha
    · refine .authorizedFirst ?_ (by simpa using ha)
      by_contra hi
      exact hs ⟨ha, hi⟩

@[simp] theorem view_signalStopReason (reason : StopTransactionReason) :
    (c.signalStopReason reason).view = c.view := by
  unfold signalStopReason
  split_ifs
  · split <;> rfl
  · rfl

theorem cancelTransaction_view (reason : StopTransactionReason) (idTag : Option ProvidedIdToken) :
    View.Called c.view (c.cancelTransaction reason idTag).2.view := by
  unfold cancelTransaction
  split_ifs
  · show View.Called c.view { (c.signalStopReason reason).view with authorized := false }
    rw [view_signalStopReason]
    exact .unauthorized
  · exact .same
  · exact .same

theorem switchThreePhasesWhileCharging_view (threePhases : Bool) :
    View.Called c.view (c.switchThreePhasesWhileCharging threePhases).2.view := by
  unfold switchThreePhasesWhileCharging
  split_ifs
  · exact .same
  · cases hs : c.state with
    | Charging => exact .switchesPhases hs
    | _ => exact .same

theorem startReinit_view : View.Called c.view (c.startReinit cfg).2.view := by
  unfold startReinit
  split_ifs
  · exact .same
  · exact .same
  · exact .same
  · exact .reinitDue (true && !c.link.slacMatched)

@[simp] theorem view_endHlcSession (t : HlcTerminatePause) : (c.endHlcSession t).view = c.view := by
  unfold endHlcSession
  dsimp only
  split_ifs
  · exact view_cpStateX1 _
  · rfl

theorem notifySessionStopResSent_view (action : SessionStopAction) :
    View.Called c.view (c.notifySessionStopResSent action).view := by
  unfold notifySessionStopResSent
  by_cases h : c.state = .Idle ∨ ¬ c.hlc.chargingActive
  · rw [if_pos h]
    exact .same
  · rw [if_neg h]
    cases action with
    | FailedTermination =>
      rw [view_cpStateX1]
      exact .same
    | _ => exact .same

theorem view_dlinkErrorWhileStopping :
    (c.dlinkErrorWhileStopping cfg).view = c.view.push (.power false) := by
  simp [dlinkErrorWhileStopping, view_ite]

@[simp] theorem view_leaveAcHlc : (c.leaveAcHlc cfg).view = c.view := by
  unfold leaveAcHlc
  split <;> rfl

theorem recoverDlink_view : View.Called c.view (c.recoverDlink cfg).view := by
  unfold recoverDlink
  have hw := view_leaveAcHlc cfg c
  generalize c.leaveAcHlc cfg = w at hw ⊢
  rw [← hw]
  dsimp only
  split_ifs with h5 hs
  · rw [← state_view, view_cpStateX1] at hs
    rw [view_startTStepX1ThenEf, view_cpStateX1]
    exact .matchesAgain hs
  · have h := startReinit_view cfg w.cpStateX1
    rwa [view_cpStateX1] at h
  · exact .same

theorem pncWithoutChargingLoop_view (h : c.pncWithoutChargingLoop cfg) :
    c.view.state = .WaitingForAuthentication ∧ c.view.authorized := by
  simp only [pncWithoutChargingLoop, Bool.and_eq_true, decide_eq_true_eq] at h
  exact ⟨h.1.1.1.2, h.1.1.2⟩

theorem dlinkError_view : View.Called c.view (c.dlinkError cfg).view := by
  unfold dlinkError
  dsimp only
  split_ifs with hr hs hp
  · exact .same
  · rw [view_dlinkErrorWhileStopping]
    exact .powerOff
  · obtain ⟨hs, ha⟩ := pncWithoutChargingLoop_view cfg _ hp
    exact .basicChargingX1 hs ha
  · exact recoverDlink_view cfg { c.loseDlink with hlc := { c.loseDlink.hlc with
      sessionStopPwmOffDeadline := none, allowCloseContactor := false, failed := true } }

theorem dlinkTerminate_view : View.Called c.view (c.dlinkTerminate cfg).2.view := by
  unfold dlinkTerminate
  dsimp only
  split_ifs with hi hp hl
  · exact .same
  · obtain ⟨hs, ha⟩ := pncWithoutChargingLoop_view cfg _ hp
    exact .basicChargingEf hs ha
  · exact dlinkError_view cfg c.loseDlink
  · rw [view_endHlcSession]
    exact .same

/-- The step takes an authorization back. -/
def Op.isRevocation : Op → Bool
  | .deauthorize => true
  | .authorize a _ _ => !a
  | _ => false

/-- The step is about the enable state. -/
def Op.isEnabling : Op → Bool
  | .enableDisable .. | .enableDisableInitialStatePublish => true
  | _ => false

/-- The step does not run the state machine, is not about the enable state and takes no
authorization back. -/
def Op.isCall : Op → Bool
  | .processEvent .. | .tick .. => false
  | op => !op.isRevocation && !op.isEnabling

/-- **Such a step has only the outcomes of `View.Called`.** -/
theorem called_view (op : Op) (h : op.isCall) : View.Called c.view (c.step cfg op).view := by
  cases op with
  | processEvent | tick | enableDisable | deauthorize | enableDisableInitialStatePublish =>
    exact absurd h Bool.false_ne_true
  | errorEvent => exact .error _
  | authorize a token i =>
    cases a with
    | true => exact authorize_view i c token
    | false => exact absurd h Bool.false_ne_true
  | cancelTransaction reason idTag => exact cancelTransaction_view c reason idTag
  | pauseCharging =>
    simp only [step, pauseCharging]
    split_ifs <;> exact .same
  | resumeCharging =>
    simp only [step, resumeCharging]
    split_ifs <;> exact .same
  | switchThreePhasesWhileCharging threePhases =>
    exact switchThreePhasesWhileCharging_view c threePhases
  | startReinit => exact startReinit_view cfg c
  | setMaxCurrent ampere validUntil =>
    simp only [step, setMaxCurrent]
    split_ifs <;> exact .same
  | setDlinkReady =>
    simp only [step, setDlinkReady]
    split_ifs <;> exact .same
  | setSlacMatched matched => exact .reinitDue (c.seq.reinitRequested && !matched)
  | notifyHlcPauseNotified =>
    simp only [step, notifyHlcPauseNotified]
    split_ifs <;> exact .same
  | notifyCurrentdemandStarted =>
    simp only [step, notifyCurrentdemandStarted]
    split_ifs with hs
    · exact .currentDemand hs
    · exact .same
  | notifyHlcSessionStartedByEv =>
    simp only [step, notifyHlcSessionStartedByEv]
    split_ifs <;> exact .same
  | notifySessionStopResSent action => exact notifySessionStopResSent_view c action
  | dcOpenContactorRequest => exact .powerOff
  | dcRenegotiationStarted =>
    simp only [step, dcRenegotiationStarted]
    split_ifs with hs
    · exact .renegotiates hs
    · exact .same
  | dlinkPause =>
    simp only [step, dlinkPause]
    split_ifs
    · exact .same
    · rw [view_endHlcSession]
      exact .same
  | dlinkTerminate => exact dlinkTerminate_view cfg c
  | dlinkError => exact dlinkError_view cfg c
  | requestErrorSequence => exact .errorSequence (requestErrorSequenceInternal_view cfg c)
  | stopChargingOnFatalError =>
    simp only [step, view_stopChargingOnFatalError]
    exact .evaluated
  | _ => exact .same

/-- What takes an authorization back ends the session at most. -/
theorem revoked_view (op : Op) (h : op.isRevocation) : (c.step cfg op).view = c.view ∨
    (c.step cfg op).view = c.view.stopSession ∨
    (c.step cfg op).view = { c.view with authorized := false } := by
  cases op with
  | deauthorize =>
    rw [show (c.step cfg .deauthorize).view = _ from view_deauthorizeInternal cfg c,
      View.deauthorize]
    split_ifs <;> simp
  | authorize a token i =>
    cases a with
    | true => cases h
    | false =>
      have hv : ∀ d : Charger, (d.setFlagAuthorized false).view =
          { d.view with authorized := false } := fun _ => rfl
      rw [show (c.step cfg (.authorize false token i)).view = _ from hv _, view_ite]
      split_ifs
      · exact .inr (.inl rfl)
      · exact .inr (.inr rfl)
  | _ => cases h

end Outcomes

/-! ## Runs -/

section Runs

variable {cfg : ChargerConfig} {Q : Charger → Bool}

/-- Every pass of the call meets `Q`. -/
def passesMeet (cfg : ChargerConfig) (Q : Charger → Bool) (i : ChargerInputs) (n : Nat)
    (c : Charger) : Bool :=
  Q c && ((c.pass cfg i).1 || (c.pass cfg i).2.settled ||
    match n with
    | 0 => true
    | n + 1 => passesMeet cfg Q i n (c.pass cfg i).2)

theorem passesMeet_true (i : ChargerInputs) :
    ∀ (n : Nat) (c : Charger), passesMeet cfg (fun _ => true) i n c := by
  intro n
  induction n with
  | zero =>
    unfold passesMeet
    simp
  | succ n ih =>
    unfold passesMeet
    simp [ih]

/-- What the passes that meet `Q` keep, a run of the state machine keeps if all its passes do. -/
theorem runStateMachine_induction {I : Charger → Prop} {i : ChargerInputs}
    (hpa : ∀ c, Q c → I c → I (c.pass cfg i).2) (hpub : ∀ c, I c → I c.publishPauseRamp) :
    ∀ (n : Nat) (c : Charger), passesMeet cfg Q i n c → I c → I (c.runStateMachine cfg i n) := by
  intro n
  induction n with
  | zero =>
    intro c hq h
    unfold passesMeet at hq
    unfold runStateMachine
    have hp := hpa c (by simp_all) h
    split_ifs
    · exact hp
    · exact hpub _ hp
    · exact hp
  | succ n ih =>
    intro c hq h
    unfold passesMeet at hq
    unfold runStateMachine
    rw [Bool.and_eq_true] at hq
    have hp := hpa c hq.1 h
    split_ifs with hr hs
    · exact hp
    · exact hpub _ hp
    · exact ih _ (by simpa [hr, hs] using hq.2) hp

theorem runStateMachine_invariant {I : View → Prop} {i : ChargerInputs}
    (hp : ∀ c : Charger, I c.view → I (c.pass cfg i).2.view) (n : Nat) (c : Charger)
    (h : I c.view) : I (c.runStateMachine cfg i n).view :=
  runStateMachine_induction (I := fun c => I c.view) (fun c _ => hp c) (fun _ h => h) n c
    (passesMeet_true i n c) h

/-- A call ends with its first pass, or it goes on with the next one. -/
theorem runStateMachine_cases (i : ChargerInputs) (n : Nat) (c : Charger) :
    (c.runStateMachine cfg i n).view = (c.pass cfg i).2.view ∨
      ∃ m, n = m + 1 ∧ (c.pass cfg i).2.settled = false ∧
        c.runStateMachine cfg i n = (c.pass cfg i).2.runStateMachine cfg i m := by
  cases n with
  | zero =>
    unfold runStateMachine
    split_ifs <;> exact .inl rfl
  | succ m =>
    have hrun : c.runStateMachine cfg i (m + 1) = if (c.pass cfg i).1 then (c.pass cfg i).2
        else if (c.pass cfg i).2.settled then (c.pass cfg i).2.publishPauseRamp
        else (c.pass cfg i).2.runStateMachine cfg i m := rfl
    rw [hrun]
    split_ifs with hr hs
    · exact .inl rfl
    · exact .inl rfl
    · exact .inr ⟨m, rfl, by simpa using hs, rfl⟩

/-- Passes and calls keep `I`; of the passes, those that meet `Q`. -/
structure KeepsApart (cfg : ChargerConfig) (Q : Charger → Bool) (I : View → Prop) : Prop where
  pass : ∀ i c, Q c = true → I c.view → I (c.pass cfg i).2.view
  called : ∀ v w, View.Called v w → I v → I w

/-- All steps of the view keep `I`; of the passes, those that meet `Q`. -/
structure Keeps (cfg : ChargerConfig) (Q : Charger → Bool) (I : View → Prop) : Prop
    extends KeepsApart cfg Q I where
  enabling : ∀ v w, View.Enabling v w → I v → I w

variable {I : View → Prop}

theorem KeepsApart.run (hI : KeepsApart cfg Q I) (i : ChargerInputs) (n : Nat) (c : Charger)
    (hq : passesMeet cfg Q i n c) (h : I c.view) : I (c.runStateMachine cfg i n).view :=
  runStateMachine_induction (I := fun c => I c.view) (hI.pass i) (fun _ h => h) n c hq h

theorem Keeps.beforeDisableRun (hI : Keeps cfg Q I) (connectorId : Int)
    (source : EnableDisableSource) (c : Charger) (h : I c.view) :
    I (c.beforeDisableRun connectorId source).2.view := by
  have hd : I (c.decideEnabled connectorId source).2.view :=
    hI.enabling _ _ (.decided _ _ _) h
  have hl : I (c.decideEnabled connectorId source).2.leaveDisabled.view := by
    unfold leaveDisabled
    split_ifs with hs
    · have hs : (c.decideEnabled connectorId source).2.view.state = .Disabled := hs.1
      exact hI.enabling _ _ (.leavesDisabled hs) hd
    · exact hd
  unfold Charger.beforeDisableRun
  dsimp only
  split_ifs
  · unfold applyDecision
    split_ifs
    · exact hl
    · exact hI.enabling _ _ .disableRequested hl
  · exact hl

theorem KeepsApart.calls (hI : KeepsApart cfg Q I) (c : Charger) (op : Op)
    (hop : op.isEnabling = false)
    (hq : ∀ k ∈ c.calls cfg op, passesMeet cfg Q k.inputs k.bound k.before)
    (h : I c.view) : ∀ k ∈ c.calls cfg op, I k.before.view := by
  cases op with
  | processEvent e i n =>
    have h1 := hI.called _ _ (processCpEventsIndependent_view c e) h
    have h2 := hI.run i n _ (hq ⟨_, i, n⟩ mem_cons_self) h1
    have h3 := hI.called _ _ (processCpEventsState_view cfg _ e) h2
    intro k hk
    simp only [Charger.calls, mem_cons, not_mem_nil, or_false] at hk
    rcases hk with rfl | rfl
    · exact h1
    · exact h3
  | tick i n =>
    intro k hk
    simp only [Charger.calls, mem_singleton] at hk
    subst hk
    rw [view_powerAvailable]
    exact h
  | enableDisable connectorId source i n => cases hop
  | _ => exact fun k hk => absurd hk not_mem_nil

theorem Keeps.calls (hI : Keeps cfg Q I) (c : Charger) (op : Op)
    (hq : ∀ k ∈ c.calls cfg op, passesMeet cfg Q k.inputs k.bound k.before)
    (h : I c.view) : ∀ k ∈ c.calls cfg op, I k.before.view := by
  cases op with
  | enableDisable connectorId source i n =>
    intro k hk
    simp only [Charger.calls] at hk
    split_ifs at hk
    · rw [mem_singleton] at hk
      subst hk
      exact hI.beforeDisableRun connectorId source c h
    · exact absurd hk not_mem_nil
  | enableDisableInitialStatePublish => exact fun k hk => absurd hk not_mem_nil
  | _ => exact hI.toKeepsApart.calls c _ rfl hq h

/-- **What passes and calls keep, a step keeps that is not about the enable state.** A step that
takes an authorization back is left to the caller. -/
theorem KeepsApart.step (hI : KeepsApart cfg Q I) (c : Charger) (op : Op)
    (hop : op.isEnabling = false)
    (hq : ∀ k ∈ c.calls cfg op, passesMeet cfg Q k.inputs k.bound k.before)
    (hr : op.isRevocation → I (c.step cfg op).view) (h : I c.view) : I (c.step cfg op).view := by
  have hca := hI.calls c op hop hq h
  cases hcl : op.isCall with
  | true => exact hI.called _ _ (called_view cfg c op hcl) h
  | false =>
    cases hrev : op.isRevocation with
    | true => exact hr hrev
    | false =>
      cases op with
      | processEvent e i n =>
        have hk : (⟨c.beforeSecondRun cfg i n e, i, n⟩ : Call) ∈
            c.calls cfg (.processEvent e i n) := by simp [Charger.calls]
        exact hI.run i n _ (hq _ hk) (hca _ hk)
      | tick i n =>
        exact hI.run i n _ (hq _ mem_cons_self) (hca _ mem_cons_self)
      | authorize a token i => cases a <;> simp_all [Op.isCall, Op.isRevocation, Op.isEnabling]
      | _ => simp_all [Op.isCall, Op.isRevocation, Op.isEnabling]

/-- **What the steps of the view keep, a step of the charger keeps.** -/
theorem Keeps.step (hI : Keeps cfg Q I) (c : Charger) (op : Op)
    (hq : ∀ k ∈ c.calls cfg op, passesMeet cfg Q k.inputs k.bound k.before)
    (hrev : op.isRevocation → I (c.step cfg op).view) (h : I c.view) : I (c.step cfg op).view := by
  cases op with
  | enableDisable connectorId source i n =>
    have hb := hI.beforeDisableRun connectorId source c h
    simp only [Charger.calls] at hq
    simp only [Charger.step, Charger.enableDisable]
    split_ifs at hq ⊢
    · exact hI.run i n _ (hq _ mem_cons_self) hb
    · exact hb
  | enableDisableInitialStatePublish =>
    refine hI.enabling c.view c.enableDisableInitialStatePublish.view ?_ h
    unfold enableDisableInitialStatePublish
    dsimp only
    split_ifs <;> exact .published _ _
  | _ => exact hI.toKeepsApart.step c _ rfl hq hrev h

end Runs

end Charger

end EverestCore.Evse

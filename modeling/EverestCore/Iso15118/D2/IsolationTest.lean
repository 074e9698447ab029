import EverestCore.Iso15118.D2.History
import EverestCore.Lib.Log

/-!
# No DC energy transfer without a fresh isolation test

`process_dc_power_delivery` does not look at the result of the cable check. That it has passed is a
consequence of the state graph: `PreChargeStart` is entered from `CableCheck` with a finished check.
There are two ways around it.

* A pause before the cable check skips it. `process_dc_power_delivery` then relies on the pause to
  refuse the start, but a control event may lift the pause in between.
* After an ignored stop a finished cable check is answered FAILED, and the state machine still goes
  on. A withdrawn stop makes the following responses positive again.

`Bypass` reads off the requests, the control events and the timeouts whether one of them may have
been taken.

Results:
* **`dc_start_after_cable_check`**: in every run in which the EV requests the energy transfer only
  during a pause once the cable check may have been bypassed, the energy transfer starts only after
  a fresh isolation test.
* `lifted_pause_skips_cable_check`: a run with a request after the pause.
-/

namespace EverestCore.Iso15118.D2

open EverestCore.Lib.Machine EverestCore.Lib.Log Engine Context State

/-! ## The property -/

/-- A positive and final answer to a `CableCheckReq`. -/
def Trace.finishesCableCheck : Trace → Bool
  | .staged _ _ res =>
    res.type = .CableCheckRes && res.responseCode = .OK && res.evseProcessing = some .Finished
  | _ => false

/-- The history since the cable check was last invalidated, or since the start. -/
def sinceInvalidation (log : List Trace) : List Trace :=
  since (fun t => t = .cableCheckInvalidated) log

/-- The module has reported a passed cable check since it was last invalidated. -/
def ResultReceived (log : List Trace) : Prop :=
  .received (.cableCheckFinished true) ∈ sinceInvalidation log

/-- The EV was told about a passed cable check since it was last invalidated. -/
def ResultAnswered (log : List Trace) : Prop :=
  ∃ t ∈ sinceInvalidation log, t.finishesCableCheck = true

/-- Every start of the energy transfer follows an isolation test. -/
def IsolationTested : List Trace → Prop
  | [] => True
  | t :: log => (t.grantsStart = true → ResultReceived log ∧ ResultAnswered log) ∧
      IsolationTested log

instance (log : List Trace) : Decidable (ResultReceived log) := by
  unfold ResultReceived
  infer_instance

instance (log : List Trace) : Decidable (ResultAnswered log) := by
  unfold ResultAnswered
  infer_instance

instance IsolationTested.decidable : (log : List Trace) → Decidable (IsolationTested log)
  | [] => .isTrue trivial
  | _ :: log => @instDecidableAnd _ _ _ (IsolationTested.decidable log)

/-- What the inputs show: the pause that is on, whether a stop may have been ignored, and whether
the cable check may have been bypassed. -/
structure Bypass where
  pause : NoEnergyPauseMode
  stopIgnored : Bool := false
  bypassed : Bool := false

namespace Bypass

/-- The cable check may be bypassed by charge parameters during a pause before the cable check, and
by the withdrawal of a stop that was ignored. -/
def after (b : Bypass) (i : Env × Input) : Bypass :=
  match i.2 with
  | .packet ⟨_, .chargeParameterDiscovery _⟩ =>
    { b with bypassed := b.bypassed || b.pause = .BeforeCableCheck }
  | .control (.noEnergyPause mode) => { b with pause := mode }
  | .control (.stopCharging false) => { b with bypassed := b.bypassed || b.stopIgnored }
  | .timeout .STOP_CHARGING => { b with stopIgnored := true }
  | _ => b

/-- Once the cable check may have been bypassed, a pause is on that refuses the start whenever the
EV requests the energy transfer. -/
def Allows (b : Bypass) (i : Env × Input) : Prop :=
  match i.2 with
  | .packet ⟨_, .powerDelivery req⟩ =>
    req.chargeProgress = .Start → b.bypassed = true → b.pause.refusesStart = true
  | _ => True

instance (b : Bypass) (i : Env × Input) : Decidable (b.Allows i) := by
  unfold Allows
  split <;> infer_instance

end Bypass

/-! ## Neutral entries -/

theorem neutral_iff {t : Trace} :
    t.neutral ↔ t.grantsStart = false ∧ t ≠ .cableCheckInvalidated := by
  simp [Trace.neutral]

theorem sinceInvalidation_append {new : List Trace} (h : ∀ t ∈ new, t ≠ .cableCheckInvalidated)
    (log : List Trace) : sinceInvalidation (new ++ log) = new ++ sinceInvalidation log :=
  since_append (fun t ht => by simpa using h t ht) log

theorem ResultReceived.append {new log : List Trace} (h : ResultReceived log)
    (hnew : ∀ t ∈ new, t ≠ .cableCheckInvalidated) : ResultReceived (new ++ log) := by
  unfold ResultReceived
  rw [sinceInvalidation_append hnew]
  exact List.mem_append_right new h

theorem ResultAnswered.append {new log : List Trace} (h : ResultAnswered log)
    (hnew : ∀ t ∈ new, t ≠ .cableCheckInvalidated) : ResultAnswered (new ++ log) := by
  obtain ⟨t, ht, hf⟩ := h
  refine ⟨t, ?_, hf⟩
  rw [sinceInvalidation_append hnew]
  exact List.mem_append_right new ht

theorem IsolationTested.append {new log : List Trace} (h : IsolationTested log)
    (hnew : ∀ t ∈ new, t.grantsStart = false) : IsolationTested (new ++ log) := by
  induction new with
  | nil => exact h
  | cons t new ih =>
    refine ⟨?_, ih fun t' ht' => hnew t' (List.mem_cons_of_mem t ht')⟩
    intro ht
    rw [hnew t List.mem_cons_self] at ht
    cases ht

section Quiet

variable {c c' : Context}

theorem Quiet.isolationTested (hq : Quiet c c') (h : IsolationTested c.log) :
    IsolationTested c'.log := by
  obtain ⟨new, hnew, hn⟩ := hq.added
  rw [hnew.log]
  exact h.append fun t ht => (neutral_iff.mp (hn t ht)).1

theorem Quiet.resultReceived (hq : Quiet c c') (h : ResultReceived c.log) :
    ResultReceived c'.log := by
  obtain ⟨new, hnew, hn⟩ := hq.added
  rw [hnew.log]
  exact h.append fun t ht => (neutral_iff.mp (hn t ht)).2

theorem Quiet.resultAnswered (hq : Quiet c c') (h : ResultAnswered c.log) :
    ResultAnswered c'.log := by
  obtain ⟨new, hnew, hn⟩ := hq.added
  rw [hnew.log]
  exact h.append fun t ht => (neutral_iff.mp (hn t ht)).2

end Quiet

/-! ## The invariant -/

/-- The states in which a cable check may be done. -/
def State.checkPhase : State → Bool
  | .cableCheck _ _ | .preChargeStart | .preCharge | .dcChargeLoop | .meteringReceipt true => true
  | _ => false

/-- What the engine knows about the cable check in the state `s`, and the inputs about it. -/
structure Checked (c : Context) (s : State) (b : Bypass) : Prop where
  tested : IsolationTested c.log
  received : c.evse.cableCheckDone = true → ResultReceived c.log
  phase : c.evse.cableCheckDone = true → s.checkPhase = true
  answered : s.beforeStart = true → b.bypassed = true ∨ c.evse.cableCheckDone = true ∧
    (ResultAnswered c.log ∨ c.regime.downgrades = true)
  pause : c.regime.noEnergyPause = b.pause
  stopIgnored : c.regime.stopIgnored = true → b.stopIgnored = true

namespace Checked

variable {c c' : Context} {s s' : State} {b : Bypass}

theorem quiet (h : Checked c s b) (hq : Quiet c c') (hs : s.checkPhase → s'.checkPhase)
    (hb : s'.beforeStart → s.beforeStart ∨ b.bypassed) : Checked c' s' b := by
  refine ⟨hq.isolationTested h.tested, ?_, ?_, fun hbefore => ?_, ?_, ?_⟩
  · intro hd
    rw [hq.done] at hd
    exact hq.resultReceived (h.received hd)
  · intro hd
    rw [hq.done] at hd
    exact hs (h.phase hd)
  · rw [hq.done, hq.regime]
    exact ((hb hbefore).symm.imp_right h.answered).elim .inl
      (.imp_right (.imp_right (.imp_left hq.resultAnswered)))
  · rw [hq.regime]
    exact h.pause
  · rw [hq.regime]
    exact h.stopIgnored

theorem quiet_stay (h : Checked c s b) (hq : Quiet c c') : Checked c' s b :=
  h.quiet hq id .inl

theorem feed (e : Engine) {o : Outcome} (h : Checked o.1 o.2.state b) :
    Checked (e.feed o).ctx (e.feed o).state b := by
  rw [feed_state]
  exact h.quiet_stay (quiet_feed e o)

/-- A request may bypass the cable check. -/
theorem packet (h : Checked c s b) (env : Env) (request : Request) :
    Checked c s (b.after (env, .packet request)) := by
  obtain ⟨id, body⟩ := request
  cases body with
  | chargeParameterDiscovery req =>
    refine { h with answered := fun hs => (h.answered hs).imp_left fun hb => ?_ }
    simp [Bypass.after, hb]
  | _ => exact h

theorem timeout (h : Checked c s b) (env : Env) (type : TimeoutType) :
    Checked c s (b.after (env, .timeout type)) := by
  cases type with
  | STOP_CHARGING => exact { h with stopIgnored := fun _ => rfl }
  | _ => exact h

/-- A stop is ignored. -/
theorem stopIgnored_timeout (h : Checked c s b) (hst : Steady c c')
    (hr : c'.regime = { c.regime with stopIgnored := true }) (env : Env) :
    Checked c' s (b.after (env, .timeout .STOP_CHARGING)) := by
  refine ⟨hst.log ▸ h.tested, ?_, ?_, fun hs => ?_, hr ▸ h.pause, fun _ => rfl⟩
  · rw [hst.done, hst.log]
    exact h.received
  · rw [hst.done]
    exact h.phase
  · rw [hst.done, hst.log, hr]
    exact (h.answered hs).imp_right fun ha => ⟨ha.1, .inr (by simp [Regime.downgrades])⟩

/-- A control event changes the regime as the inputs show. Where it ends the failing of responses,
the cable check may have been bypassed. -/
theorem regime_onControl {r : Regime} (hp : r.noEnergyPause = b.pause)
    (hs : r.stopIgnored → b.stopIgnored) (env : Env) (event : ControlEvent) :
    (r.onControl event).noEnergyPause = (b.after (env, .control event)).pause ∧
      ((r.onControl event).stopIgnored → (b.after (env, .control event)).stopIgnored) ∧
      (b.bypassed → (b.after (env, .control event)).bypassed) ∧
      (r.downgrades → (b.after (env, .control event)).bypassed ∨
        (r.onControl event).downgrades) := by
  cases event with
  | stopCharging stop =>
    cases stop with
    | false =>
      refine ⟨hp, nofun, fun hb => by simp [Bypass.after, hb], fun hd => ?_⟩
      rcases Bool.or_eq_true_iff.mp hd with hd | hd
      · exact .inl (by simp [Bypass.after, hs hd])
      · exact .inr hd
    | true => exact ⟨hp, hs, id, .inr⟩
  | evseError code =>
    cases code with
    | EmergencyShutdown =>
      exact ⟨hp, hs, id, fun _ => .inr (by simp [Regime.onControl, Regime.downgrades])⟩
    | _ => exact ⟨hp, hs, id, .inr⟩
  | noEnergyPause mode => exact ⟨rfl, hs, id, .inr⟩
  | _ => exact ⟨hp, hs, id, .inr⟩

theorem control {event : ControlEvent} (h : Checked c s b)
    (hst : Steady (c.record (.received event)) c') (hr : c'.regime = c.regime.onControl event)
    (env : Env) : Checked c' s (b.after (env, .control event)) := by
  obtain ⟨hpause, hstop, hby, hdown⟩ := regime_onControl h.pause h.stopIgnored env event
  have hlog : c'.log = [.received event] ++ c.log := hst.log
  have hd : c'.evse.cableCheckDone = c.evse.cableCheckDone := hst.done
  have hnew : ∀ t ∈ [Trace.received event], t ≠ .cableCheckInvalidated := by simp
  refine ⟨?_, ?_, ?_, ?_, hr ▸ hpause, hr ▸ hstop⟩
  · rw [hlog]
    exact h.tested.append (by simp [Trace.grantsStart])
  · rw [hlog, hd]
    exact fun hdone => (h.received hdone).append hnew
  · rw [hd]
    exact h.phase
  · intro hs
    rw [hlog, hd, hr]
    rcases h.answered hs with hb | ⟨hdone, ha | ha⟩
    · exact .inl (hby hb)
    · exact .inr ⟨hdone, .inl (ha.append hnew)⟩
    · exact (hdown ha).imp_right fun ha => ⟨hdone, .inr ha⟩

/-! ### The cable check -/

/-- A positive and final answer is staged, or every response is failed. -/
theorem answered_respond (c : Context) {res : Response}
    (hres : (Trace.staged .CableCheck .cableCheck res).finishesCableCheck) :
    ResultAnswered (c.respond .CableCheck .cableCheck res).log ∨ c.regime.downgrades := by
  by_cases hd : c.regime.downgrades
  · exact .inr hd
  · left
    have hn : (c.chargerStopIgnored || c.evse.emergencyShutdown) = false :=
      Bool.eq_false_iff.mpr hd
    have hlog : (c.respond .CableCheck .cableCheck res).log =
        .staged .CableCheck .cableCheck res :: c.log := by
      simp [respond, setResponse, record, downgraded, hn]
    refine ⟨_, ?_, hres⟩
    rw [hlog, sinceInvalidation, since_cons_neg (by simp)]
    exact List.mem_cons_self

variable {initiated pending : Bool} {event : ControlEvent} {crypto : Crypto}

theorem processCableCheck (env : Env) (h : Checked c (.cableCheck initiated pending) b)
    (pending' : Bool) :
    Checked (D2.processCableCheck env initiated pending' c).1
      (D2.processCableCheck env initiated pending' c).2.state b := by
  have hq := quiet_processCableCheck env (.refl c) initiated pending'
  have hinit : Quiet c (initiateCableCheck env initiated c) :=
    (Quiet.refl c).ite (((Quiet.refl c).signal _).startTimeout _ _ _)
  unfold D2.processCableCheck at hq ⊢
  dsimp only at hq ⊢
  split
  · next hf =>
    rw [if_pos hf] at hq
    exact h.quiet hq (fun _ => rfl) (by simp [Next.state, beforeStart])
  · next hf =>
    rw [if_neg hf] at hq
    split
    · next hfin =>
      rw [if_pos hfin] at hq
      have hstays : Checked _ (.cableCheck true pending) b :=
        h.quiet hq (fun _ => rfl) (by simp [beforeStart])
      refine { hstays with phase := fun _ => rfl, answered := fun _ => .inr ?_ }
      -- the answer is positive and final only with a check that is done
      have hres : (initiateCableCheck env initiated c).evse.cableCheckDone ∧ (Trace.staged
          .CableCheck .cableCheck
          (cableCheckResponse (initiateCableCheck env initiated c))).finishesCableCheck := by
        revert hf hfin
        unfold cableCheckResponse
        split
        · simp [ResponseCode.failed]
        · simp [ResponseCode.failed, Trace.finishesCableCheck]
      rw [hq.done, hq.regime, ← hinit.done, ← hinit.regime]
      exact ⟨hres.1, answered_respond _ hres.2⟩
    · next hfin =>
      rw [if_neg hfin] at hq
      exact h.quiet hq (fun _ => rfl) (by simp [Next.state, beforeStart])

theorem cableCheckOnRequest (env : Env) (h : Checked c (.cableCheck initiated pending) b) :
    Checked (D2.cableCheckOnRequest env initiated pending c).1
      (D2.cableCheckOnRequest env initiated pending c).2.state b := by
  unfold D2.cableCheckOnRequest
  split
  · exact processCableCheck env h pending
  · exact h.quiet (((Quiet.refl c).stopTimeout _).startTimeout _ _ _) (fun _ => rfl)
      (by simp [Next.state, beforeStart])

theorem setCableCheckResult (h : Checked c (.cableCheck initiated pending) b)
    (hlog : event = .cableCheckFinished true → ResultReceived c.log) :
    Checked (D2.setCableCheckResult event c) (.cableCheck initiated pending) b := by
  unfold D2.setCableCheckResult
  split
  · exact ⟨h.tested, fun _ => hlog rfl, fun _ => rfl, by simp [beforeStart], h.pause, h.stopIgnored⟩
  · exact h.quiet_stay ((Quiet.refl c).update rfl rfl rfl rfl)
  · exact h

theorem cableCheckOnControl (env : Env) (h : Checked c (.cableCheck initiated pending) b)
    (hlog : event = .cableCheckFinished true → ResultReceived c.log) :
    Checked (D2.cableCheckOnControl env initiated pending event c).1
      (D2.cableCheckOnControl env initiated pending event c).2.state b := by
  have hset := h.setCableCheckResult hlog
  unfold D2.cableCheckOnControl
  dsimp only
  split
  · exact processCableCheck env (hset.quiet_stay ((Quiet.refl _).stopTimeout _)) false
  · exact hset

theorem cableCheckOnTimeout (timeout : TimeoutType)
    (h : Checked c (.cableCheck initiated pending) b) :
    Checked (D2.cableCheckOnTimeout initiated pending timeout c).1
      (D2.cableCheckOnTimeout initiated pending timeout c).2.state b := by
  refine h.quiet (quiet_onTimeoutEvent (.cableCheck initiated pending) timeout) (fun _ => ?_) ?_
  all_goals
    unfold D2.cableCheckOnTimeout
    split_ifs <;> simp [Next.state, checkPhase, beforeStart]

/-! ### Power delivery -/

theorem processDcPowerDelivery {req : PowerDeliveryRequest} (h : Checked c s b)
    (hs : s = .preCharge ∨ s = .dcChargeLoop)
    (hg : req.chargeProgress = .Start → b.bypassed → b.pause.refusesStart) :
    Checked (D2.processDcPowerDelivery s req c).1
      (D2.processDcPowerDelivery s req c).2.state b := by
  have hca := dcPowerDelivery s req c
  generalize D2.processDcPowerDelivery s req c = o at hca
  cases hca with
  | refused hq hst =>
    rw [hst]
    exact h.quiet_stay hq
  | @started c' res hreq hp hext hcode hdo hre =>
    have hk : ∀ t ∈ [Trace.staged s.id (.powerDelivery req) res, .signal .SETUP_FINISHED],
        t ≠ .cableCheckInvalidated := by simp
    refine ⟨?_, ?_, fun _ => rfl, by simp [Next.state, beforeStart], hre ▸ h.pause,
      hre ▸ h.stopIgnored⟩
    · rw [hext.log]
      refine ⟨fun hgr => ?_, by simp [Trace.grantsStart], h.tested⟩
      rcases hs with rfl | rfl
      · -- the start is granted: no pause is on, and the response is not failed
        have hby : ¬ b.bypassed := fun hb => by
          have hon := hg hreq hb
          rw [← h.pause] at hon
          exact absurd (hp.symm.trans hon) (by simp)
        have hok : res.responseCode = .OK := by
          simp only [Trace.grantsStart, State.id, Bool.and_eq_true, decide_eq_true_eq] at hgr
          exact hgr.2
        obtain ⟨hd, ha⟩ := (h.answered rfl).resolve_left hby
        have ha := ha.resolve_right fun hdown => hcode hdown hok
        have hsig : ∀ t ∈ [Trace.signal .SETUP_FINISHED], t ≠ .cableCheckInvalidated := by simp
        exact ⟨(h.received hd).append hsig, ha.append hsig⟩
      · simp [Trace.grantsStart, State.id] at hgr
    · intro hd
      rw [hdo] at hd
      rw [hext.log]
      exact (h.received hd).append hk
  | @ended o c' hq hq' hst =>
    have hd : o.1.evse.cableCheckDone = false := hq'.done.trans rfl
    have hre : o.1.regime = c.regime := hq'.regime.trans hq.regime
    have hinv : ∀ t ∈ [Trace.cableCheckInvalidated], t.grantsStart = false := by
      simp [Trace.grantsStart]
    refine ⟨hq'.isolationTested ((hq.isolationTested h.tested).append hinv), ?_, ?_, ?_,
      hre ▸ h.pause, hre ▸ h.stopIgnored⟩
    · simp [hd]
    · simp [hd]
    · simp [hst]

/-! ### Steps -/

/-- The other requests of the states in which the cable check may be done. -/
theorem checkPhase_onRequest (crypto : Crypto) (env : Env) (request : Request) (c : Context)
    (hc : s.id ≠ .CableCheck) (hreq : dcPowerDeliveryReq s request.body = none)
    (hs : s.checkPhase) : (D2.onRequest crypto env s request c).2.state.checkPhase := by
  unfold D2.onRequest
  split
  -- the requests that the states of the phase answer
  case h_10 dc id exi _ =>
    have hdc : dc := by
      cases dc
      · cases hs
      · rfl
    unfold meteringReceiptOnRequest
    dsimp only
    split_ifs <;> simp [Next.state, checkPhase, hdc]
  case h_12 => exact absurd rfl hc
  case h_13 | h_14 => rfl
  case h_15 _ hb | h_17 _ hb => simp [dcPowerDeliveryReq, hb] at hreq
  case h_16 =>
    unfold processCurrentDemand
    dsimp only
    split_ifs <;> rfl
  case h_26 => exact hs
  -- and those of the other states
  all_goals cases hs

theorem beforeStart_chargeParameters {req : ChargeParameterDiscoveryRequest}
    (hs : s.beforeStart = false) (hpause : c.config.noEnergyPause ≠ .BeforeCableCheck) :
    (processChargeParameterDiscovery s req c).2.state.beforeStart = false := by
  unfold processChargeParameterDiscovery
  split
  · exact hs
  · next schedules _ =>
    have hconfig : ∀ c : Context, (setSaSchedules schedules c).config = c.config := by
      intro c
      cases schedules <;> rfl
    simp only [Next.state, afterChargeParameters, hconfig]
    split_ifs with hdc hp
    · exact absurd hp hpause
    · rfl
    · rfl

theorem beforeStart_processAcPowerDelivery {req : PowerDeliveryRequest}
    (hs : s.beforeStart = false) :
    (processAcPowerDelivery s req c).2.state.beforeStart = false := by
  simp only [processAcPowerDelivery, renegotiate]
  repeat' split
  all_goals first | rfl | exact hs

/-- `PreChargeStart` is entered from `CableCheck`, or when the cable check is skipped. -/
theorem beforeStart_onRequest (crypto : Crypto) (env : Env) (request : Request) (c : Context)
    (hc : s.id ≠ .CableCheck) (hreq : dcPowerDeliveryReq s request.body = none)
    (hskip : ∀ req, request.body = .chargeParameterDiscovery req →
      c.config.noEnergyPause ≠ .BeforeCableCheck) (hs : s.beforeStart = false) :
    (D2.onRequest crypto env s request c).2.state.beforeStart = false := by
  unfold D2.onRequest
  split
  case h_2 | h_3 | h_21 => rfl
  case h_8 hb | h_19 hb => exact beforeStart_chargeParameters hs (hskip _ hb)
  case h_9 =>
    unfold acPowerDeliveryOnRequest
    split
    · rfl
    · exact beforeStart_processAcPowerDelivery rfl
  case h_12 => exact absurd rfl hc
  case h_13 | h_14 => cases hs
  case h_15 _ hb | h_17 _ hb => simp [dcPowerDeliveryReq, hb] at hreq
  case h_25 => exact beforeStart_processAcPowerDelivery rfl
  case h_26 => exact hs
  all_goals
    simp only [sessionSetupOnRequest, processPaymentSelection, identificationOnRequest,
      processPaymentDetails, forwardToBackend, authorizationOnRequest, answerAuthorization,
      meteringReceiptOnRequest, processSessionStop, processCurrentDemand, acceptWeldingDetection,
      acceptSessionStop, answerChargingStatus]
    repeat' split
    all_goals rfl

theorem beforeStart_onControlMessage (crypto : Crypto) (env : Env) (event : ControlEvent)
    (c : Context) (hc : s.id ≠ .CableCheck) (hs : s.beforeStart = false) :
    (D2.onControlMessage crypto env s event c).2.state.beforeStart = false := by
  cases s with
  | cableCheck => exact absurd rfl hc
  | preChargeStart | preCharge => cases hs
  | _ =>
    simp only [D2.onControlMessage, identificationOnControl, authorizationOnControl,
      acPowerDeliveryOnControl, postChargeOnControl, processSessionStop]
    repeat' split
    all_goals rfl

theorem beforeStart_onTimeoutEvent (timeout : TimeoutType) (c : Context)
    (hs : s.beforeStart = false) : (D2.onTimeoutEvent s timeout c).2.state.beforeStart = false := by
  cases s with
  | preChargeStart | preCharge => cases hs
  | _ =>
    simp only [D2.onTimeoutEvent, acPowerDeliveryOnTimeout, D2.cableCheckOnTimeout,
      postChargeOnTimeout]
    repeat' split
    all_goals rfl

theorem onRequest {env : Env} {request : Request} (h : Checked c s b)
    (hg : ∀ req, request.body = .powerDelivery req → req.chargeProgress = .Start →
      b.bypassed → b.pause.refusesStart)
    (hskip : ∀ req, request.body = .chargeParameterDiscovery req →
      b.pause = .BeforeCableCheck → b.bypassed) :
    Checked (D2.onRequest crypto env s request c).1
      (D2.onRequest crypto env s request c).2.state b := by
  cases hreq : dcPowerDeliveryReq s request.body with
  | some req =>
    rw [onRequest_of_dcPowerDeliveryReq crypto env hreq]
    unfold dcPowerDeliveryReq at hreq
    split at hreq
    · next hb =>
      cases hreq
      exact h.processDcPowerDelivery (.inl rfl) (hg _ hb)
    · next hb =>
      cases hreq
      exact h.processDcPowerDelivery (.inr rfl) (hg _ hb)
    · cases hreq
  | none =>
    have hq := quiet_onRequest crypto env (c := c) s request hreq
    by_cases hc : s.id = .CableCheck
    · cases s with
      | cableCheck initiated pending =>
        cases hb : request.body with
        | cableCheck =>
          simp only [D2.onRequest, hb]
          exact h.cableCheckOnRequest env
        | _ =>
          simp only [D2.onRequest, hb] at hq ⊢
          exact h.quiet_stay hq
      | _ => cases hc
    · refine h.quiet hq (checkPhase_onRequest crypto env request c hc hreq) fun hbefore => ?_
      by_contra hno
      obtain ⟨hs, hby⟩ := not_or.mp hno
      refine absurd hbefore (Bool.eq_false_iff.mp
        (beforeStart_onRequest crypto env request c hc hreq ?_ (by simpa using hs)))
      exact fun req hb hpause => hby (hskip req hb (h.pause ▸ hpause))

theorem onControlMessage {env : Env} (h : Checked c s b)
    (hlog : event = .cableCheckFinished true → ResultReceived c.log) :
    Checked (D2.onControlMessage crypto env s event c).1
      (D2.onControlMessage crypto env s event c).2.state b := by
  by_cases hs : s.checkPhase
  · cases s with
    | cableCheck initiated pending => exact h.cableCheckOnControl env hlog
    | _ => first | exact h | cases hs
  · have hc : s.id ≠ .CableCheck := by
      intro hid
      cases s <;> first | exact absurd rfl hs | cases hid
    refine h.quiet (quiet_onControlMessage crypto env s event (absurd · hc)) (absurd · hs) ?_
    intro hbefore
    by_contra hno
    exact absurd hbefore (Bool.eq_false_iff.mp
      (beforeStart_onControlMessage crypto env event c hc (by simpa using (not_or.mp hno).1)))

theorem onTimeoutEvent (h : Checked c s b) (timeout : TimeoutType) :
    Checked (D2.onTimeoutEvent s timeout c).1 (D2.onTimeoutEvent s timeout c).2.state b := by
  by_cases hs : s.checkPhase
  · cases s with
    | cableCheck initiated pending => exact h.cableCheckOnTimeout timeout
    | _ => first | exact h | cases hs
  · refine h.quiet (quiet_onTimeoutEvent s timeout) (absurd · hs) fun hbefore => ?_
    by_contra hno
    exact absurd hbefore (Bool.eq_false_iff.mp
      (beforeStart_onTimeoutEvent timeout c (by simpa using (not_or.mp hno).1)))

/-- **Every step that is allowed keeps what is known about the cable check.** -/
theorem step {e : Engine} {i : Env × Input} (hi : b.Allows i) (h : Checked e.ctx e.state b) :
    Checked (e.step crypto i).ctx (e.step crypto i).state (b.after i) := by
  obtain ⟨env, i⟩ := i
  cases i with
  | packet request =>
    have h' := h.packet env request
    simp only [Engine.step, Engine.onPacket]
    split
    · exact h'.quiet_stay (quiet_respondAndTerminate (.refl e.ctx) (by decide) _ _)
    · obtain ⟨id, body⟩ := request
      refine feed e (h'.onRequest ?_ ?_)
      · rintro req hb
        obtain rfl : body = .powerDelivery req := hb
        exact hi
      · rintro req hb
        obtain rfl : body = .chargeParameterDiscovery req := hb
        exact fun hpause => by simp [Bypass.after, show b.pause = .BeforeCableCheck from hpause]
  | control event =>
    simp only [Engine.step]
    obtain ⟨e', he, hs, hst, hr⟩ := onControlEvent_cases crypto env event e
    have h' : Checked e'.ctx e'.state (b.after (env, .control event)) := by
      rw [hs]
      exact h.control hst hr env
    rcases he with he | he
    · rwa [he]
    · rw [he]
      refine feed e' (h'.onControlMessage ?_)
      rintro rfl
      rw [ResultReceived, hst.log]
      simp [sinceInvalidation, since, record]
  | timeout type =>
    simp only [Engine.step]
    have h' := h.timeout env type
    rcases onTimeout_cases type e with ⟨hst, hs, hr | ⟨rfl, hr⟩⟩ | he
    · rw [hs]
      exact h'.quiet_stay ((Quiet.refl e.ctx).update hst.log hst.path hst.done hr)
    · rw [hs]
      exact h.stopIgnored_timeout hst hr env
    · rw [he]
      exact feed e (h'.onTimeoutEvent type)
  | takeOutgoing => exact h.quiet_stay ((Quiet.refl e.ctx).update rfl rfl rfl rfl)

end Checked

/-! ## Runs -/

/-- **In every run in which the EV requests the energy transfer only during a pause once the cable
check may have been bypassed, a positive answer to `PowerDeliveryReq(Start)` in `PreCharge` follows
a cable check that passed and was answered since it was last invalidated.** -/
theorem dc_start_after_cable_check (crypto : Crypto) (config : SessionConfig)
    (pauseCtx : Option PauseContext) (inputs : List (Env × Input))
    (hinputs : Along Bypass.after Bypass.Allows { pause := config.noEnergyPause } inputs) :
    IsolationTested (run (Engine.step crypto) (init config pauseCtx) inputs).ctx.log := by
  have hi : Checked (init config pauseCtx).ctx (init config pauseCtx).state
      { pause := config.noEnergyPause } := ⟨trivial, nofun, nofun, nofun, rfl, nofun⟩
  exact (run_watched (R := fun (e : Engine) b => Checked e.ctx e.state b)
    (fun _ _ i hi h => Checked.step (i := i) hi h) inputs hinputs hi).tested

/-! ### Two sessions -/

/-- No certificate or signature is accepted. -/
def noCrypto : Crypto where
  validateContractChain := fun _ _ _ => ⟨.FAILED_CertChainError, "", "", false⟩
  verifyAuthorizationSignature := fun _ _ => false
  verifyMeteringReceiptSignature := fun _ _ => false
  relayedResponseFailed := fun _ => true

/-- A DC charger with external payment, paused before the cable check or not. -/
def dcConfig (pause : NoEnergyPauseMode) : SessionConfig where
  chargeServiceId := 1
  supportedEnergyTransferModes := [.DC_extended]
  offeredVasServices := []
  acNominalVoltage := 230
  acCapabilityMaxCurrent := 32
  dcCapabilityMaxPower := 150000
  dcMinCurrent := 1
  dcMinVoltage := 200
  saScheduleDuration := 86400
  pncEnabled := false
  eimEnabled := true
  centralContractValidationAllowed := false
  certInstallService := false
  tlsActive := false
  receiptRequired := false
  noEnergyPause := pause
  authTimeoutEimMs := 55000
  authTimeoutPncMs := 55000

/-- The messages up to the charge parameters. -/
def dcSetup : List Input :=
  [.packet ⟨0, .sessionSetup⟩,
    .packet ⟨7, .serviceDiscovery⟩,
    .packet ⟨7, .paymentServiceSelection .ExternalPayment [⟨1, none⟩]⟩,
    .control (.authorizationResponse true false),
    .packet ⟨7, .authorization none []⟩,
    .packet ⟨7, .chargeParameterDiscovery ⟨.DC_extended, none, some ⟨none, 200, none, 400⟩⟩⟩]

/-- The messages from the pre-charge to the energy transfer. -/
def dcStart : List Input :=
  [.packet ⟨7, .preCharge⟩, .packet ⟨7, .powerDelivery ⟨.Start, 1, none⟩⟩]

/-- A run at one instant. -/
def atOnce (inputs : List Input) : List (Env × Input) :=
  inputs.map fun i => (⟨0, 7, 0⟩, i)

/-- A pause that is lifted after the charge parameters: the energy transfer starts, and there was no
cable check. -/
theorem lifted_pause_skips_cable_check :
    ¬ IsolationTested (run (Engine.step noCrypto) (init (dcConfig .BeforeCableCheck) none)
      (atOnce (dcSetup ++ [.control (.noEnergyPause .None)] ++ dcStart))).ctx.log := by
  decide +kernel

/-- The same messages with a cable check. -/
def checkedSession : List (Env × Input) :=
  atOnce (dcSetup ++ [.control (.cpStateChanged .C), .packet ⟨7, .cableCheck⟩,
    .control (.cableCheckFinished true), .packet ⟨7, .cableCheck⟩] ++ dcStart)

theorem checked_dc_start :
    Along Bypass.after Bypass.Allows { pause := .None } checkedSession ∧
      (run (Engine.step noCrypto) (init (dcConfig .None) none)
        checkedSession).ctx.log.any Trace.grantsStart = true ∧
      IsolationTested (run (Engine.step noCrypto) (init (dcConfig .None) none)
        checkedSession).ctx.log := by
  have hinputs : Along Bypass.after Bypass.Allows { pause := .None } checkedSession := by
    decide +kernel
  refine ⟨hinputs, by decide +kernel, ?_⟩
  exact dc_start_after_cable_check noCrypto (dcConfig .None) none checkedSession hinputs

end EverestCore.Iso15118.D2

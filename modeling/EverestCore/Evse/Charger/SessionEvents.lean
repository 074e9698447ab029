import EverestCore.Evse.Charger.Steps

/-!
# Session and transaction events

A billing back end relies on the order of the events `SessionStarted`, `TransactionStarted`,
`TransactionFinished` and `SessionFinished`. The charger sends them from five places, guarded by
`session_active` and `flag_transaction_active`.

Results:
* **`session_events_bracketed`**: the events of every run are bracketed, if it is not deauthorized
  while it waits with an authorization, and the timeout drops no event.
* `deauthorized_session_finishes_twice`: it is not bracketed otherwise.
-/

namespace EverestCore.Evse

open EverestCore.Lib.Log
open EverestCore.Lib.Machine

/-! ## Billing -/

/-- What a billing back end knows. -/
inductive Billing
  | idle | session | transaction
  deriving DecidableEq

namespace Billing

/-- The events a back end accepts. -/
def next : Billing → Mark → Option Billing
  | b, .power _ => some b
  | .idle, .sessionStarted => some .session
  | .session, .sessionFinished => some .idle
  | .session, .transactionStarted => some .transaction
  | .transaction, .transactionFinished => some .session
  | _, _ => none

def inSession : Billing → Bool
  | .idle => false
  | _ => true

def inTransaction : Billing → Bool
  | .transaction => true
  | _ => false

end Billing

def isMark (m t : Mark) : Bool := decide (t = m)

/-- The events of sessions and transactions are properly bracketed. -/
structure Bracketed (marks : List Mark) : Prop where
  sessions : Alternate (isMark .sessionStarted) (isMark .sessionFinished) marks
  transactions : Alternate (isMark .transactionStarted) (isMark .transactionFinished) marks
  nested : Nested (isMark .sessionStarted) (isMark .sessionFinished)
    (isMark .transactionStarted) (isMark .transactionFinished) marks

theorem brackets_inSession : Brackets Billing.next Billing.inSession
    (isMark .sessionStarted) (isMark .sessionFinished) := by
  refine ⟨?_, ?_, ?_⟩ <;> intro s t s' h <;> cases s <;> cases t <;>
    simp_all [Billing.next, Billing.inSession, isMark] <;> simp [← h]

theorem brackets_inTransaction : Brackets Billing.next Billing.inTransaction
    (isMark .transactionStarted) (isMark .transactionFinished) := by
  refine ⟨?_, ?_, ?_⟩ <;> intro s t s' h <;> cases s <;> cases t <;>
    simp_all [Billing.next, Billing.inTransaction, isMark] <;> simp [← h]

theorem bracketed_of_replay {marks : List Mark} {b : Billing}
    (h : replay Billing.next .idle marks = some b) : Bracketed marks where
  sessions := alternate_of_replay brackets_inSession rfl h
  transactions := alternate_of_replay brackets_inTransaction rfl h
  nested := by
    refine nested_of_replay brackets_inSession brackets_inTransaction ?_ ?_ rfl rfl h
    · intro s t s' ht hp
      cases s <;> cases t <;> simp_all [Billing.next, Billing.inSession, isMark]
    · intro s t s' ht hq
      cases s <;> cases t <;> simp_all [Billing.next, Billing.inTransaction, isMark]

namespace View

/-- The back end, as the flags have it. -/
def billing (v : View) : Billing :=
  if v.control.flagTransactionActive then .transaction
  else if v.control.sessionActive then .session
  else .idle

/-- A back end has accepted all events, and knows what the flags say. -/
structure Billed (v : View) : Prop where
  accepted : replay Billing.next .idle v.marks = some v.billing
  nested : v.control.flagTransactionActive = true → v.control.sessionActive = true

namespace Billed

variable {v w : View} {init : Bool}

theorem inTransaction (h : v.Billed) (hs : v.control.sessionActive = false) :
    v.control.flagTransactionActive = false := by
  by_contra ht
  have := h.nested (by simpa using ht)
  simp [hs] at this

theorem push {m : Mark} {b : Billing} (h : v.Billed) (hm : v.billing.next m = some b)
    (hw : w.marks = m :: v.marks) (hb : w.billing = b)
    (hn : w.control.flagTransactionActive → w.control.sessionActive) : w.Billed := by
  refine ⟨?_, hn⟩
  rw [hw, hb, replay, h.accepted]
  exact hm

theorem same (h : SameSession v w) (hv : v.Billed) : w.Billed := by
  refine ⟨?_, by rw [h.transaction, h.active]; exact hv.nested⟩
  rw [h.marks, hv.accepted, billing, billing, h.transaction, h.active]

theorem power (on : Bool) (h : v.Billed) : (v.push (.power on)).Billed :=
  h.push rfl rfl rfl h.nested

section

variable (h : v.Billed)

include h

theorem evaluate : v.evaluate.Billed := by
  unfold View.evaluate
  split_ifs
  · exact { h with }
  · exact { h.power false with }

theorem startSession (hs : v.control.sessionActive = false) : v.startSession.Billed := by
  have ht := h.inTransaction hs
  refine h.push (m := .sessionStarted) (b := .session) ?_ rfl ?_ fun _ => rfl
  · simp [billing, ht, hs, Billing.next]
  · simp [billing, View.startSession, ht]

theorem stopSession (hs : v.control.sessionActive)
    (ht : v.control.flagTransactionActive = false) : v.stopSession.Billed := by
  refine h.push (m := .sessionFinished) (b := .idle) ?_ rfl ?_ ?_
  · simp [billing, ht, hs, Billing.next]
  · simp [billing, View.stopSession, ht]
  · simp [View.stopSession, ht]

theorem startTransaction (hs : v.control.sessionActive)
    (ht : v.control.flagTransactionActive = false) : v.startTransaction.Billed := by
  refine h.push (m := .transactionStarted) (b := .transaction) ?_ rfl ?_ fun _ => hs
  · simp [billing, ht, hs, Billing.next]
  · simp [billing, View.startTransaction]

theorem stopTransaction (ht : v.control.flagTransactionActive) : v.stopTransaction.Billed := by
  have hs := h.nested ht
  refine h.push (m := .transactionFinished) (b := .session) ?_ rfl ?_ nofun
  · simp [billing, ht, Billing.next]
  · simp [billing, View.stopTransaction, hs]

theorem enterWaiting : (v.enterWaiting init).Billed := by
  cases init with
  | false => exact h
  | true =>
    show (if (v.push (.power false)).control.sessionActive = true then v.push (.power false)
      else (v.push (.power false)).startSession).Billed
    split_ifs with hs
    · exact h.power false
    · exact (h.power false).startSession (by simpa using hs)

theorem enterFinished : (v.enterFinished init).Billed := by
  unfold View.enterFinished
  split_ifs with _ ht
  · exact (h.stopTransaction ht).power false
  · exact h.power false
  · exact h

theorem deauthorize (ht : v.control.flagTransactionActive = false) : v.deauthorize.Billed := by
  unfold View.deauthorize
  split_ifs with hs
  · exact h.stopSession hs.1 ht
  · exact h

theorem enterIdle (ht : v.control.flagTransactionActive = false) : (v.enterIdle init).Billed := by
  cases init with
  | false => exact h
  | true =>
    have hd := (h.deauthorize ht).accepted
    have htd : v.deauthorize.control.flagTransactionActive = false := by
      rw [control_deauthorize]
      exact ht
    refine ⟨?_, nofun⟩
    simp only [billing, htd] at hd
    exact hd

end

theorem stopped (hb : v.Billed) (hw : w = v ∨ w = v.push (.power false)) : w.Billed := by
  rcases hw with rfl | rfl
  · exact hb
  · exact hb.power false

end Billed

/-! ## The invariant -/

/-- There may be no session yet: it starts when `WaitingForAuthentication` is initialised. -/
def Unstarted (v : View) : Prop :=
  v.state = .Idle ∨ v.state = .Disabled ∨ v.state = .Reinit ∨
    (v.state = .WaitingForAuthentication ∧
      v.control.lastStateDetectStateChange ≠ .WaitingForAuthentication) ∨
    (v.state = .T_step_EF ∧ v.control.tStepEfReturnState = .WaitingForAuthentication) ∨
    (v.state = .T_step_X1 ∧ v.x1ReturnState = .WaitingForAuthentication)

/-- The flags are what a back end knows; there is a session with each authorization, and in each
state from `WaitingForAuthentication` on; and there is no transaction without an EV, nor once
`Finished` is initialised. -/
structure SessionInv (v : View) : Prop where
  billed : v.Billed
  authorized : v.authorized = true → v.control.sessionActive = true
  idle : v.state = .Idle ∨ v.state = .Disabled →
    v.control.flagTransactionActive = false ∧
      v.control.lastStateDetectStateChange ≠ .WaitingForAuthentication
  finished : v.state = .Finished → v.control.lastStateDetectStateChange = .Finished →
    v.control.flagTransactionActive = false
  active : v.control.sessionActive = true ∨ v.Unstarted

/-- The invariant of a state that is noted, and initialised if `init` says so. -/
structure Entered (init : Bool) (v : View) : Prop where
  billed : v.Billed
  authorized : v.authorized = true → v.control.sessionActive = true
  idle : v.state = .Idle ∨ v.state = .Disabled → v.control.flagTransactionActive = false
  finished : v.state = .Finished → init = false → v.control.flagTransactionActive = false
  active : v.control.sessionActive = true ∨ v.state = .Idle ∨ v.state = .Disabled ∨
    v.state = .Reinit ∨ (v.state = .WaitingForAuthentication ∧ init = true) ∨
    (v.state = .T_step_EF ∧ v.control.tStepEfReturnState = .WaitingForAuthentication) ∨
    (v.state = .T_step_X1 ∧ v.x1ReturnState = .WaitingForAuthentication)
  last : v.control.lastStateDetectStateChange = v.state

/-- The states that are only reached with a session. -/
def midSession : EvseState → Bool
  | .SwitchPhases | .PrepareCharging | .Charging | .ChargingPausedEV | .ChargingPausedEVSE
  | .StoppingCharging | .Finished => true
  | _ => false

section Invariant

variable {v w : View} {init : Bool}

theorem SessionInv.entered (hv : v.SessionInv)
    (hi : init = false → v.control.lastStateDetectStateChange = v.state) :
    v.note.Entered init where
  billed := { hv.billed with }
  authorized := hv.authorized
  idle h := (hv.idle h).1
  finished h hin := hv.finished h ((hi hin).trans h)
  active := by
    refine hv.active.imp id (.imp id (.imp id (.imp id (.imp ?_ id))))
    rintro ⟨h, hl⟩
    refine ⟨h, ?_⟩
    by_contra hin
    exact hl ((hi (by simpa using hin)).trans h)
  last := rfl

theorem SessionInv.of_active (hb : w.Billed) (ha : w.control.sessionActive)
    (hs : w.state ≠ .Idle ∧ w.state ≠ .Disabled ∧ w.state ≠ .Finished) : w.SessionInv :=
  ⟨hb, fun _ => ha, fun h => (h.elim hs.1 hs.2.1).elim, fun h => absurd h hs.2.2, .inl ha⟩

theorem SessionInv.to_idle (hb : w.Billed) (ha : w.authorized → w.control.sessionActive)
    (hs : w.state = .Idle ∨ w.state = .Disabled) (ht : w.control.flagTransactionActive = false)
    (hl : w.control.lastStateDetectStateChange ≠ .WaitingForAuthentication) : w.SessionInv :=
  ⟨hb, ha, fun _ => ⟨ht, hl⟩, fun _ _ => ht, .inr (hs.imp id .inl)⟩

theorem Entered.inSession (hv : v.Entered init) {s : EvseState} (hs : v.state = s)
    (hm : midSession s) : v.control.sessionActive := by
  subst hs
  rcases hv.active with h | h | h | h | ⟨h, -⟩ | ⟨h, -⟩ | ⟨h, -⟩
  · exact h
  all_goals
    rw [h] at hm
    cases hm

theorem SessionInv.inSession (hv : v.SessionInv) {s : EvseState} (hs : v.state = s)
    (hm : midSession s) : v.control.sessionActive :=
  have he : v.note.Entered true := hv.entered nofun
  he.inSession hs hm

/-- A waiting state has its session once it is initialised. -/
theorem Entered.waiting (hv : v.Entered init) (hs : v.state = .WaitingForAuthentication) :
    (v.enterWaiting init).evaluate.control.sessionActive := by
  have ha := hv.active
  simp only [hs] at ha
  simpa [or_comm] using ha

/-- A finished session has no transaction once it is initialised. -/
theorem Entered.finished_transaction (hv : v.Entered init) (hs : v.state = .Finished) :
    (v.enterFinished init).control.flagTransactionActive = false := by
  have ht := hv.finished hs
  cases init with
  | true => simp
  | false => simpa using ht rfl

theorem Entered.finished_session (hv : v.Entered init) (hs : v.state = .Finished) :
    (v.enterFinished init).control.sessionActive := by
  simpa using hv.inSession hs rfl

theorem Case.billed (h : Case init v w) (hv : v.Entered init) : w.Billed := by
  have hb := hv.billed
  cases h with
  | disabled | reinit | pausedEv => exact hb
  | enabled | reinitEnds | pausedEvStops | pausedEvResumed | pausedEvNoEnergy
  | pausedEvseStops => exact { hb with }
  | idle h => exact hb.enterIdle (hv.idle (.inl h))
  | disables h =>
    have hi : (v.enterIdle init).Billed := hb.enterIdle (hv.idle (.inl h))
    exact { hi with }
  | waitingEnds => exact { hb.enterWaiting.evaluate with }
  | waiting => exact hb.enterWaiting.evaluate
  | proceeds _ _ _ hw => exact .same hw.same hb.enterWaiting.evaluate
  | transactionStarts h _ ht hw =>
    have hs := hb.enterWaiting.evaluate.startTransaction (hv.waiting h) (by simpa using ht)
    exact .same hw.same hs
  | switching | ef | x1 | charging | pausedEvse => exact hb.evaluate
  | prepares _ _ hw => exact .same hw.same hb.evaluate
  | preparesWithPower _ _ hw => exact .same hw.same (hb.evaluate.power true)
  | chargingStarts => exact hb.evaluate.power true
  | stopping _ hw => exact hb.stopped hw
  | stoppingEnds _ hw | stoppingPausesEvse _ hw => exact { hb.stopped hw with }
  | stoppingFaults _ hw | stoppingPausesEv _ hw => exact { (hb.stopped hw).evaluate with }
  | finished => exact hb.enterFinished
  | finishedIdle h | finishedDisabled h =>
    exact { hb.enterFinished.stopSession (hv.finished_session h) (hv.finished_transaction h) with }
  | _ => exact { hb.evaluate with }

theorem SessionInv.case (h : Case init v w) (hv : v.Entered init) (hq : v.Sequenced) :
    w.SessionInv := by
  have hb := h.billed hv
  have hwa := hv.waiting
  obtain ⟨-, ha, hid, hfin, hact, hl⟩ := hv
  cases h with
  | proceeds h _ _ hw | transactionStarts h _ _ hw =>
    exact of_active hb (hw.same.active.trans (hwa h)) (hw.ongoing (by simp [h]))
  | prepares h _ hw | preparesWithPower h _ hw =>
    exact of_active hb (hw.same.active.trans (by simpa [h] using hact)) (hw.ongoing (by simp [h]))
  | stopping _ hw | stoppingEnds _ hw | stoppingPausesEvse _ hw | stoppingFaults _ hw
  | stoppingPausesEv _ hw =>
    rcases hw with rfl | rfl <;> refine ⟨hb, ?_, ?_, ?_, ?_⟩ <;> simp_all [Unstarted]
  | idle h | disables h =>
    refine to_idle hb ?_ (by simp [h]) ?_ ?_ <;> unfold enterIdle deauthorize <;>
      split_ifs <;> simp_all
  | switched h =>
    have hr := hq.switching h
    refine ⟨hb, ?_, ?_, ?_, ?_⟩ <;> simp_all
  | efEnds h =>
    rcases hq.ef h with hr | hr <;> refine ⟨hb, ?_, ?_, ?_, ?_⟩ <;> simp_all [Unstarted]
  | x1Ends h =>
    rcases hq.x1 h with hr | hr <;> refine ⟨hb, ?_, ?_, ?_, ?_⟩ <;> simp_all [Unstarted]
  | x1ToEf h hu =>
    refine ⟨hb, ?_, ?_, ?_, ?_⟩ <;> simp_all [Unstarted, x1ReturnState]
  | _ => refine ⟨hb, ?_, ?_, ?_, ?_⟩ <;> simp_all [Unstarted]

namespace SessionInv

theorem pendingReinit (h : PendingReinit v w) (hv : v.SessionInv) : w.SessionInv := by
  have hb : w.Billed := .same h.same hv.billed
  cases h with
  | none => exact hv
  | stops hs => exact of_active hb (hv.inSession hs rfl) (by simp)
  | starts =>
    exact ⟨hb, hv.authorized, fun h => by simp at h, nofun, .inr (.inr (.inr (.inl rfl)))⟩

theorem pass (h : Pass v w) (hv : v.SessionInv) (hq : v.Sequenced) : w.SessionInv := by
  obtain ⟨u, init, hr, hi, hc⟩ := h.out
  exact case hc ((hv.pendingReinit hr).entered hi) (hq.pendingReinit hr).note

theorem evaluate (hv : v.SessionInv) : v.evaluate.SessionInv := by
  obtain ⟨hb, ha, hi, hf, hs⟩ := hv
  refine ⟨hb.evaluate, ?_, ?_, ?_, ?_⟩
  · simpa using ha
  · simpa using hi
  · simpa using hf
  · simpa [Unstarted] using hs

theorem errorSequence (h : ErrorSequence v w) (hv : v.SessionInv) : w.SessionInv := by
  have hb : w.Billed := .same h.same hv.billed
  have hmid := hv.inSession (s := .PrepareCharging)
  cases h with
  | none => exact hv
  | ef hs | x1 hs =>
    refine ⟨hb, hv.authorized, fun h => by simp at h, by simp, ?_⟩
    rcases hs with hs | hs
    · exact .inr (by simp [Unstarted, throughEf, throughX1Ef, x1ReturnState, hs])
    · exact .inl (hmid hs rfl)

theorem called (h : Called v w) (hv : v.SessionInv) : w.SessionInv := by
  have hb := hv.billed
  cases h with
  | pluggedIn h =>
    refine ⟨{ hb with }, hv.authorized, fun h => by simp at h, nofun, .inr ?_⟩
    exact .inr (.inr (.inr (.inl ⟨rfl, (hv.idle (.inl h)).2⟩)))
  | stopPreparing h | resumedByEv h | currentDemand h | switchesPhases h =>
    exact of_active { hb with } (hv.inSession h rfl) (by simp)
  | evaluated => exact hv.evaluate
  | authorizedFirst h hs =>
    obtain ⟨ht, hl⟩ := hv.idle (.inl h)
    exact to_idle { hb.startSession hs with } (fun _ => rfl) (.inl h) ht hl
  | authorized hs => exact ⟨{ hb with }, fun _ => hs, hv.idle, hv.finished, .inl hs⟩
  | unauthorized => exact ⟨{ hb with }, nofun, hv.idle, hv.finished, hv.active⟩
  | powerOff => exact { hv with billed := hb.power false }
  | renegotiates h => exact of_active { hb.power false with } (hv.inSession h rfl) (by simp)
  | errorSequence h => exact hv.errorSequence h
  | basicChargingX1 _ ha | basicChargingEf _ ha =>
    exact of_active { hb with } (hv.authorized ha) (by simp)
  | matchesAgain h =>
    exact ⟨{ hb with }, hv.authorized, fun h => by simp at h, nofun,
      .inr (.inr (.inr (.inr (.inr (.inr ⟨rfl, rfl⟩)))))⟩
  | _ => exact ⟨{ hb with }, hv.authorized, hv.idle, hv.finished, hv.active⟩

theorem enabling (h : Enabling v w) (hv : v.SessionInv) : w.SessionInv := by
  have hb := hv.billed
  cases h with
  | leavesDisabled h =>
    obtain ⟨ht, hl⟩ := hv.idle (.inr h)
    exact to_idle { hb with } hv.authorized (.inl rfl) ht hl
  | _ => exact ⟨{ hb with }, hv.authorized, hv.idle, hv.finished, hv.active⟩

theorem deauthorize (hv : v.SessionInv)
    (h : ¬ (v.state = .WaitingForAuthentication ∧ v.authorized)) : v.deauthorize.SessionInv := by
  unfold View.deauthorize
  split_ifs with hs
  · have hi : v.state = .Idle ∨ v.state = .Disabled := by
      rcases hs.2.2 with hd | hi | hw
      · exact .inr hd
      · exact .inl hi
      · exact absurd ⟨hw, hs.2.1⟩ h
    obtain ⟨ht, hl⟩ := hv.idle hi
    exact to_idle (hv.billed.stopSession hs.1 ht) nofun hi ht hl
  · exact hv

/-- A pass that is cut short notes its state and does nothing else. -/
theorem noted (hv : v.SessionInv) (hw : v.state = .WaitingForAuthentication →
      v.control.lastStateDetectStateChange ≠ .WaitingForAuthentication → v.control.sessionActive)
    (hf : v.state = .Finished → v.control.lastStateDetectStateChange ≠ .Finished →
      v.control.flagTransactionActive = false) :
    { v.note with socTimeout := false }.SessionInv where
  billed := { hv.billed with }
  authorized := hv.authorized
  idle h := ⟨(hv.idle h).1, by
    show v.state ≠ .WaitingForAuthentication
    rcases h with h | h <;> (rw [show v.state = _ from h]; decide)⟩
  finished h _ := by
    by_cases hl : v.control.lastStateDetectStateChange = .Finished
    · exact hv.finished h hl
    · exact hf h hl
  active := by
    rw [or_iff_not_imp_left]
    intro ha
    exact (hv.active.resolve_left ha).imp id (.imp id (.imp id (.imp
      (fun h => absurd (hw h.1 h.2) ha) id)))

end SessionInv

end Invariant

end View

/-! ## Runs -/

namespace Charger

variable {cfg : ChargerConfig}

/-- The timeout cuts the next pass short, and the initialisation that is lost would have sent
`SessionStarted` or `TransactionFinished`. -/
def losesEvent (c : Charger) : Bool :=
  c.pendingCut && c.pendingInit &&
    ((decide (c.pendingState = .WaitingForAuthentication) && !c.control.sessionActive) ||
      (decide (c.pendingState = .Finished) && c.control.flagTransactionActive))

/-- The condition on a step: no pass loses an event, an authorization is never refused, and none is
withdrawn while the charger waits with it. -/
def keepsSession (cfg : ChargerConfig) (c : Charger) (op : Op) : Bool :=
  (c.calls cfg op).all
      (fun k => passesMeet cfg (fun c => !c.losesEvent) k.inputs k.bound k.before) &&
    match op with
    | .authorize a _ _ => a
    | .deauthorize => !(decide (c.state = .WaitingForAuthentication) && c.auth.flagAuthorized)
    | _ => true

/-- What holds in every run whose steps meet the condition. -/
structure InSession (v : View) : Prop where
  sequenced : v.Sequenced
  session : v.SessionInv

theorem inSession_cut (c : Charger) (i : ChargerInputs) (h : InSession c.view)
    (hq : c.losesEvent = false) (hcut : (c.pass cfg i).1) :
    InSession { c.processPendingReinitRequest.view.note with socTimeout := false } := by
  have hr := processPendingReinitRequest_view c
  rw [pass_fst] at hcut
  have hin : ∀ s, c.processPendingReinitRequest.view.state = s →
      c.processPendingReinitRequest.view.control.lastStateDetectStateChange ≠ s →
        c.pendingState = s ∧ c.pendingInit := by
    rintro s rfl hl
    refine ⟨(state_processPendingReinitRequest c).symm, ?_⟩
    rw [← initializeState_processPendingReinitRequest, initializeState]
    simpa using .inl hl
  refine ⟨{ h.sequenced.pendingReinit hr with }, (h.session.pendingReinit hr).noted ?_ ?_⟩
  all_goals
    intro hst hl
    obtain ⟨hp, hi⟩ := hin _ hst hl
    simp only [hr.same.active, hr.same.transaction]
    simpa [losesEvent, hcut, hi, hp] using hq

theorem keeps_inSession : Keeps cfg (fun c => !c.losesEvent) InSession where
  pass i c hq h := by
    rcases pass_view cfg i c with hp | ⟨hcut, -, hv⟩
    · exact ⟨h.sequenced.pass hp, h.session.pass hp h.sequenced⟩
    · rw [hv]
      exact inSession_cut c i h (by simpa using hq) hcut
  called _ _ hc h := ⟨h.sequenced.called hc, h.session.called hc⟩
  enabling _ _ he h := ⟨h.sequenced.enabling he, h.session.enabling he⟩

theorem inSession_step (c : Charger) (op : Op) (hk : keepsSession cfg c op)
    (h : InSession c.view) : InSession (c.step cfg op).view := by
  simp only [keepsSession, Bool.and_eq_true, List.all_eq_true] at hk
  refine keeps_inSession.step c op hk.1 (fun hr => ?_) h
  cases op with
  | deauthorize =>
    show InSession (c.deauthorizeInternal cfg).2.view
    rw [view_deauthorizeInternal]
    have hw : ¬ (c.view.state = .WaitingForAuthentication ∧ c.view.authorized) := by
      rintro ⟨hs, ha⟩
      have hs : c.state = .WaitingForAuthentication := hs
      have ha : c.auth.flagAuthorized := ha
      simp [hs, ha] at hk
    refine ⟨?_, h.session.deauthorize hw⟩
    unfold View.deauthorize
    split_ifs
    · exact ⟨h.sequenced.ef, h.sequenced.x1, h.sequenced.switching⟩
    · exact h.sequenced
  | authorize a token i => simp_all [Op.isRevocation]
  | _ => cases hr

theorem inSession_init (cfg : ChargerConfig) (type2Socket : Bool) (ppAmpacity : Option Rat) :
    InSession (init cfg type2Socket ppAmpacity).view :=
  ⟨⟨nofun, nofun, nofun⟩, ⟨⟨rfl, nofun⟩, nofun, fun _ => ⟨rfl, nofun⟩, nofun, .inr (.inl rfl)⟩⟩

/-- **The events of a run are bracketed**, if no step of it loses an event and no authorization is
withdrawn while the charger waits with it. -/
theorem session_events_bracketed (cfg : ChargerConfig) (type2Socket : Bool)
    (ppAmpacity : Option Rat) (ops : List Op)
    (hops : Along (step cfg) (fun c op => keepsSession cfg c op = true)
      (init cfg type2Socket ppAmpacity) ops) :
    Bracketed (run (step cfg) (init cfg type2Socket ppAmpacity) ops).view.marks := by
  have h := run_invariant_along (I := fun c : Charger => InSession c.view) inSession_step ops hops
    (inSession_init cfg type2Socket ppAmpacity)
  exact bracketed_of_replay h.session.billed.accepted

/-- A session with a transaction, up to the unplugged EV. -/
def wholeSession : List Op :=
  chargingSession ++ [.processEvent .CarUnplugged plainInputs 8,
    .processEvent .PowerOff plainInputs 8]

theorem whole_session_bracketed :
    (run (step {}) (init {} false none) wholeSession).view.marks ≠ [] ∧
      Bracketed (run (step {}) (init {} false none) wholeSession).view.marks :=
  ⟨by decide +kernel, session_events_bracketed {} false none wholeSession (by decide +kernel)⟩

/-- The authorization is withdrawn before the transaction starts, and the EV is unplugged. -/
def deauthorizedSession : List Op :=
  [.processEvent .CarPluggedIn plainInputs 4, .authorize true ⟨"tag", false⟩ plainInputs,
    .deauthorize, .processEvent .CarUnplugged plainInputs 4]

/-- **A deauthorized session finishes twice.** `deauthorize` ends the session and leaves the state;
when the EV is unplugged, `Finished` ends it again. -/
theorem deauthorized_session_finishes_twice :
    (run (step {}) (init {} false none) deauthorizedSession).view.marks.filter
        (fun m => !isMark (.power false) m) =
      [.sessionFinished, .sessionFinished, .sessionStarted] ∧
      ¬ Alternate (isMark .sessionStarted) (isMark .sessionFinished)
        (run (step {}) (init {} false none) deauthorizedSession).view.marks :=
  ⟨by decide +kernel, by decide +kernel⟩

end Charger

end EverestCore.Evse

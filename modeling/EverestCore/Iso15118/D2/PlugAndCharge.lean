import EverestCore.Iso15118.D2.Contract

/-!
# Whose authorization releases the energy of ISO 15118-2

The controller owns one pause context (`d2_pause_ctx`), which outlives the engine of a session. A
session that returns to the paused one is bound to its payment option, and with a contract it is
authorized without a question to the module. But the pause context keeps the session id and the
payment option only. So

* a resumed session is authorized for whatever contract its `PaymentDetailsReq` presents, and
* an answer of the module that arrives before the first `AuthorizationReq`, which asks it, is taken
  for the answer to that question.

A station runs sessions one after another. It remembers, which the code does not, for which contract
the module said yes in the session at hand and in the paused one.

Results:
* **`finished_only_if_authorized`**: in these runs `AuthorizationRes(OK, Finished)` is staged only
  if the session is authorized.
* `resumed_with_another_contract`: a run in which it is not.
-/

namespace EverestCore.Iso15118.D2

open EverestCore.Lib.Machine ContractView List

/-! ## Stations -/

/-- A paused session: its contract, and what the module said yes to. -/
structure PausedSession where
  emaid : String
  granted : List (Option String)

/-- The session at hand, with the history that the code does not keep. -/
structure Station where
  engine : Engine
  -- what the module was asked about each time it said yes in the state `Authorization`
  granted : List (Option String) := []
  -- the session that the pause context is from, if that is not the one at hand
  previous : Option PausedSession := none

/-- What happens to a station. -/
inductive Event
  | input (i : Env × Input)
  | newSession (config : SessionConfig)

/-- The question that the input answers with yes. -/
def Engine.answered (e : Engine) : Input → List (Option String)
  | .control (.authorizationResponse true _) =>
    match e.state with
    | .authorization _ => [e.ctx.log.findSome? Trace.asks]
    | _ => []
  | _ => []

namespace Station

/-- The first session; nothing was paused. -/
def init (config : SessionConfig) : Station where
  engine := Engine.init config none

/-- What the module said yes to in the paused session, if the session at hand resumes it. -/
def inherited (st : Station) : List (Option String) :=
  if st.engine.ctx.session.sessionResumed then (st.previous.map PausedSession.granted).getD []
  else []

/-- The session that the next one may resume. -/
def resumable (st : Station) : Option PausedSession :=
  if st.engine.ctx.sessionPaused then
    some ⟨st.engine.ctx.session.contractEmaid, st.granted ++ st.inherited⟩
  else st.previous

/-- One event. The next session starts with the pause context that the last one left. -/
def step (crypto : Crypto) (st : Station) : Event → Station
  | .input i =>
    { st with engine := st.engine.step crypto i, granted := st.granted ++ st.engine.answered i.2 }
  | .newSession config =>
    { engine := Engine.init config st.engine.ctx.pauseCtx, previous := st.resumable }

/-- The module authorized the session at hand. -/
def Authorized (st : Station) : Prop :=
  if st.engine.ctx.session.contractSelected then
    some st.engine.ctx.session.contractEmaid ∈ st.granted ++ st.inherited
  else st.granted ≠ []

instance (st : Station) : Decidable st.Authorized := by
  unfold Authorized
  infer_instance

/-- The contract is the one of the paused session, and no answer came before the question. -/
def SameContract (st : Station) (a : AuthorizationState) : Prop :=
  if st.engine.ctx.session.sessionResumed then
    st.previous.map PausedSession.emaid = some st.engine.ctx.session.contractEmaid
  else a.authorized = false

instance (st : Station) (a : AuthorizationState) : Decidable (st.SameContract a) := by
  unfold SameContract
  infer_instance

/-- The condition on the first `AuthorizationReq` of a contract, once it passes the checks. -/
def Heeds (crypto : Crypto) (st : Station) : Event → Prop
  | .input (_, .packet request) =>
    match st.engine.state, request.body with
    | .authorization a, .authorization challenge exi =>
      st.engine.ctx.session.contractSelected = true →
        unknownSession request st.engine.ctx = false →
        acceptsFirst crypto a challenge exi st.engine.ctx.session.contractLeafDer →
        st.SameContract a
    | _, _ => True
  | _ => True

instance (crypto : Crypto) (st : Station) (ev : Event) : Decidable (st.Heeds crypto ev) := by
  unfold Heeds
  split
  · split <;> infer_instance
  · infer_instance

end Station

/-! ## The invariant -/

/-- The module said yes to the contract of the paused session. -/
def Recorded (previous : Option PausedSession) : Prop :=
  ∃ r, previous = some r ∧ some r.emaid ∈ r.granted

/-- `Station.Authorized`, on the view. -/
def Granted (v : ContractView) (granted : List (Option String)) (previous : Option PausedSession) :
    Prop :=
  if v.selected then
    some v.emaid ∈ granted ∨ (v.resumed = true ∧ ∃ r, previous = some r ∧ some v.emaid ∈ r.granted)
  else granted ≠ []

/-- The state `Authorization` is authorized only if the session is. -/
structure Waiting (v : ContractView) (a : AuthorizationState) (granted : List (Option String))
    (previous : Option PausedSession) : Prop where
  external : v.selected = false → a.authorized = true → granted ≠ []
  resumed : v.selected = true → a.firstReqMsg = false → v.resumed = true →
    previous.map PausedSession.emaid = some v.emaid
  asked : v.selected = true → a.firstReqMsg = false → v.resumed = false →
    v.asked = some v.emaid ∧ (a.authorized = true → some v.emaid ∈ granted)

/-- What holds in every state of a station, by the phase of its session. -/
structure Sound (v : ContractView) (s : State) (granted : List (Option String))
    (previous : Option PausedSession) : Prop where
  setup : s = .sessionSetup → v.selected = false
  early : s.early = true → v.resumed = true → v.pauseCtx.isSome = true
  waiting : ∀ a, s = .authorization a → Waiting v a granted previous
  charging : s.charging = true → Granted v granted previous
  marks : (∃ t ∈ v.marks, t.finishes = true) → s.charging = true
  -- the pause context of a contract is from a session that was authorized
  recorded : v.sessionPaused = false → ∀ p, v.pauseCtx = some p →
    p.selectedPaymentOption = .Contract → Recorded previous
  resumed : v.selected = true → v.resumed = true → Recorded previous
  paused : v.sessionPaused = true → s.charging = true ∧
    ∀ p, v.pauseCtx = some p → p.selectedPaymentOption = .Contract → v.selected = true

def Station.Sound (st : Station) : Prop :=
  D2.Sound st.engine.ctx.view st.engine.state st.granted st.previous

section Invariant

variable {v : ContractView} {s : State} {granted : List (Option String)}
  {previous : Option PausedSession}

theorem Granted.mono (h : Granted v granted previous) (more : List (Option String)) :
    Granted v (granted ++ more) previous := by
  unfold Granted at h ⊢
  split at h
  · rename_i hsel
    rw [if_pos hsel]
    exact h.imp_left (mem_append_left more)
  · rename_i hsel
    rw [if_neg hsel]
    exact append_ne_nil_of_left_ne_nil h more

theorem Sound.grant (h : Sound v s granted previous) (more : List (Option String)) :
    Sound v s (granted ++ more) previous where
  setup := h.setup
  early := h.early
  waiting a ha :=
    { external := fun hsel hau =>
        append_ne_nil_of_left_ne_nil ((h.waiting a ha).external hsel hau) more
      resumed := (h.waiting a ha).resumed
      asked := fun hsel hf hres =>
        ((h.waiting a ha).asked hsel hf hres).imp_right fun hin hau =>
          mem_append_left more (hin hau) }
  charging hs := (h.charging hs).mono more
  marks := h.marks
  recorded := h.recorded
  resumed := h.resumed
  paused := h.paused

/-- Before the session charges it did not pause, and was told of no authorization. -/
theorem Sound.open (h : Sound v s granted previous) (hs : s.charging = false) :
    v.sessionPaused = false ∧ ∀ t ∈ v.marks, t.finishes = false := by
  refine ⟨?_, fun t ht => ?_⟩
  · by_contra hp
    have := (h.paused (by simpa using hp)).1
    simp [hs] at this
  · by_contra hf
    have := h.marks ⟨t, ht, by simpa using hf⟩
    simp [hs] at this

theorem Sound.of_charging (hs : s.charging) (charging : Granted v granted previous)
    (recorded : v.sessionPaused = false → ∀ p, v.pauseCtx = some p →
      p.selectedPaymentOption = .Contract → Recorded previous)
    (resumed : v.selected → v.resumed → Recorded previous)
    (paused : v.sessionPaused → ∀ p, v.pauseCtx = some p →
      p.selectedPaymentOption = .Contract → v.selected) :
    Sound v s granted previous where
  setup := by rintro rfl; simp [State.charging, State.early] at hs
  early he := by revert hs; cases s <;> simp [State.charging, State.early] at he ⊢
  waiting a := by rintro rfl; simp [State.charging] at hs
  charging _ := charging
  marks _ := hs
  recorded := recorded
  resumed := resumed
  paused hp := ⟨hs, paused hp⟩

variable {a : AuthorizationState} {v' : ContractView} {s' : State}

theorem Sound.of_authorization (waiting : Waiting v a granted previous)
    (marks : ∀ t ∈ v.marks, t.finishes = false)
    (recorded : ∀ p, v.pauseCtx = some p → p.selectedPaymentOption = .Contract → Recorded previous)
    (resumed : v.selected → v.resumed → Recorded previous)
    (paused : v.sessionPaused = false) : Sound v (.authorization a) granted previous where
  setup := nofun
  early := nofun
  waiting a' ha' := by cases ha'; exact waiting
  charging := nofun
  marks := by
    rintro ⟨t, ht, hf⟩
    simp [marks t ht] at hf
  recorded _ := recorded
  resumed := resumed
  paused hp := by simp [paused] at hp

theorem Sound.charged (h : Sound v s granted previous) (hs : s.charging) (hv : Charged v v')
    (hs' : s'.charging) : Sound v' s' granted previous := by
  cases hv with
  | kept =>
    exact .of_charging hs' (h.charging hs) h.recorded h.resumed fun hp => (h.paused hp).2
  | paused id =>
    refine .of_charging hs' (h.charging hs) nofun h.resumed fun _ p hp ho => ?_
    cases hp
    by_contra hsel
    simp [option, hsel] at ho
  | terminated => exact .of_charging hs' (h.charging hs) (fun _ => nofun) h.resumed fun _ => nofun

/-- The state `Authorization` is entered without an authorization. -/
theorem Waiting.fresh (v : ContractView) (challenge : Option GenChallenge)
    (granted : List (Option String)) (previous : Option PausedSession) :
    Waiting v { genChallenge := challenge } granted previous :=
  ⟨nofun, nofun, nofun⟩

theorem charging_of_early (hs : s.early) : s.charging = false := by
  cases s <;> first | rfl | simp [State.early] at hs

theorem Sound.approached (h : Sound v s granted previous) (hs : s.early)
    (hv : Early v s v' s') : Sound v' s' granted previous := by
  obtain ⟨hpau, hm⟩ := h.open (charging_of_early hs)
  have hrec := h.recorded hpau
  have hno : (∃ t ∈ v.marks, t.finishes) → s'.charging := by
    rintro ⟨t, ht, hf⟩
    simp [hm t ht] at hf
  cases hv with
  | kept hs' hse =>
    exact
      { setup := fun hset => h.setup (hse hset)
        early := fun _ => h.early hs
        waiting := fun a ha => by simp [ha, State.early] at hs'
        charging := fun hc => by simp [charging_of_early hs'] at hc
        marks := hno
        recorded := h.recorded
        resumed := h.resumed
        paused := fun hp => by simp [hpau] at hp }
  | rejoined hset hso =>
    have hsel := h.setup hset
    exact
      { setup := by simp
        early := fun _ _ => hso
        waiting := by simp
        charging := by rintro ⟨⟩
        marks := hno
        recorded := h.recorded
        resumed := fun hsel' => by simp [hsel] at hsel'
        paused := fun hp => by simp [hpau] at hp }
  | contract ho =>
    refine
      { setup := by simp
        early := fun _ => h.early hs
        waiting := by simp
        charging := by rintro ⟨⟩
        marks := hno
        recorded := h.recorded
        resumed := fun _ hres => ?_
        paused := fun hp => by simp [hpau] at hp }
    -- a session that resumes another one is bound to its payment option
    obtain ⟨p, hp⟩ := Option.isSome_iff_exists.1 (h.early hs hres)
    exact hrec p hp (ho p hp hres)
  | external =>
    exact .of_authorization (.fresh v none granted previous) hm hrec h.resumed hpau
  | identified emaid challenge =>
    exact .of_authorization (.fresh _ (some challenge) granted previous) hm hrec h.resumed
      hpau

theorem Waiting.granted_of_authorized (h : Waiting v a granted previous)
    (hres : v.selected → v.resumed → Recorded previous)
    (hf : a.firstReqMsg = false) (ha : a.authorized) : Granted v granted previous := by
  unfold Granted
  by_cases hsel : v.selected
  · rw [if_pos hsel]
    by_cases hr : v.resumed
    · obtain ⟨r, rfl, hin⟩ := hres hsel hr
      have he : r.emaid = v.emaid := by simpa using h.resumed hsel hf hr
      exact .inr ⟨hr, r, rfl, he ▸ hin⟩
    · exact .inl ((h.asked hsel hf (by simpa using hr)).2 ha)
  · rw [if_neg hsel]
    exact h.external (by simpa using hsel) ha

section

variable (h : Sound v (.authorization a) granted previous)

include h

theorem Sound.answers
    (hf : a.firstReqMsg = false) (hv : Answers v a v' s') : Sound v' s' granted previous := by
  obtain ⟨hpau, -⟩ := h.open rfl
  cases hv with
  | waits => exact h
  | finished ha new hnew =>
    have hg := (h.waiting a rfl).granted_of_authorized h.resumed hf ha
    refine .of_charging rfl hg h.recorded h.resumed fun hp => ?_
    simp [hpau] at hp

/-- The first `AuthorizationReq` asks the module, or resumes with the same contract. -/
theorem Sound.ask
    (hs : v.selected → if v.resumed then previous.map PausedSession.emaid = some v.emaid
      else a.authorized = false)
    (chainPem : String) : Sound (v.ask chainPem) (.authorization (v.start a)) granted previous := by
  obtain ⟨hp, hm⟩ := h.open rfl
  have hw := h.waiting a rfl
  by_cases hask : v.selected ∧ ¬ v.resumed
  · have hres : v.resumed = false := by simpa using hask.2
    have hv : v.ask chainPem = { v with marks := .requireAuthPnc v.emaid chainPem :: v.marks } :=
      if_pos hask
    have hnot : (v.start a).authorized = false := by
      have := hs hask.1
      simp only [hres, Bool.false_eq_true, if_false] at this
      simp [start, this, hres]
    rw [hv]
    refine .of_authorization ⟨?_, ?_, ?_⟩ ?_ (h.recorded hp) h.resumed hp
    · simp [hask.1]
    · simp [hres]
    · exact fun _ _ _ => ⟨rfl, by simp [hnot]⟩
    · simpa [Trace.finishes] using hm
  · have hv : v.ask chainPem = v := if_neg hask
    rw [hv]
    refine .of_authorization ⟨fun hsel ha => ?_, fun hsel _ hr => ?_, fun hsel _ hr => ?_⟩ hm
      (h.recorded hp) h.resumed hp
    · exact hw.external hsel (by simpa [start, hsel] using ha)
    · simpa [hr] using hs hsel
    · exact absurd ⟨hsel, by simp [hr]⟩ hask

theorem Sound.answer (authorized revoked : Bool) :
    Sound v (authorizationOnControl a (.authorizationResponse authorized revoked))
      (granted ++ if authorized then [v.asked] else []) previous := by
  obtain ⟨hp, hm⟩ := h.open rfl
  have hw := h.waiting a rfl
  refine .of_authorization ⟨fun _ ha => ?_, hw.resumed, fun hsel hf hres => ?_⟩ hm
    (h.recorded hp) h.resumed hp
  · obtain rfl : authorized := ha
    simp
  · have hak := (hw.asked hsel hf hres).1
    refine ⟨hak, fun ha => ?_⟩
    obtain rfl : authorized := ha
    simp [hak]

end

end Invariant

/-! ## Runs of a station -/

theorem asked_view (c : Context) : c.view.asked = c.log.findSome? Trace.asks := by
  unfold asked Context.view
  induction c.log with
  | nil => rfl
  | cons t log ih =>
    by_cases ht : t.marked
    · rw [filter_cons_of_pos ht, findSome?_cons, findSome?_cons, ih]
    · have ha : t.asks = none := by
        by_contra hs
        simp [Trace.marked, Option.isSome_iff_ne_none.2 hs] at ht
      rw [filter_cons_of_neg ht, ih, findSome?_cons, ha]

theorem granted_iff (st : Station) :
    Granted st.engine.ctx.view st.granted st.previous ↔ st.Authorized := by
  unfold Granted Station.Authorized Station.inherited
  by_cases hsel : st.engine.ctx.session.contractSelected
  · by_cases hres : st.engine.ctx.session.sessionResumed
    · cases st.previous with
      | none | some => simp [Context.view, hsel, hres]
    · simp [Context.view, hsel, hres]
  · simp [Context.view, hsel]

variable (crypto : Crypto)

theorem sound_input {st : Station} (h : st.Sound) (i : Env × Input)
    (hh : st.Heeds crypto (.input i)) : (st.step crypto (.input i)).Sound := by
  obtain ⟨env, i⟩ := i
  have hm := Sound.grant h (st.engine.answered i)
  have hmv := moves_step crypto st.engine (env, i)
  have hg : (st.step crypto (.input (env, i))).Sound =
      D2.Sound (st.engine.step crypto (env, i)).ctx.view (st.engine.step crypto (env, i)).state
        (st.granted ++ st.engine.answered i) st.previous := rfl
  rw [hg]
  generalize (st.engine.step crypto (env, i)).ctx.view = v',
    (st.engine.step crypto (env, i)).state = s' at hmv ⊢
  cases hmv with
  | idle => exact hm
  | early hs hv => exact hm.approached hs hv
  | charging hs hv hs' => exact hm.charged hs hv hs'
  | @requested _ _ a request challenge exi hs hi hk hb hv =>
    subst hi
    rw [hs] at hm
    cases hv with
    | refused => exact hm
    | repeated hf hans => exact hm.answers hf hans
    | started hacc hans =>
      refine (hm.ask (fun hsel => ?_) _).answers rfl hans
      simp only [Station.Heeds, hs, hb] at hh
      exact hh hsel hk (hacc hsel)
  | @answered a authorized revoked hs hi =>
    subst hi
    have hsta : D2.Sound st.engine.ctx.view (.authorization a) st.granted st.previous := hs ▸ h
    have ha : st.engine.answered (.control (.authorizationResponse authorized revoked)) =
        if authorized then [st.engine.ctx.view.asked] else [] := by
      cases authorized with
      | true => simp only [Engine.answered, hs, asked_view, if_true]
      | false => rfl
    rw [ha]
    exact hsta.answer authorized revoked
  | @timedOut a hs reached =>
    rw [hs] at hm
    obtain ⟨hp, hma⟩ := hm.open rfl
    have hw := hm.waiting a rfl
    exact .of_authorization ⟨hw.external, hw.resumed, hw.asked⟩ hma (hm.recorded hp)
      hm.resumed hp

theorem sound_newSession {st : Station} (h : st.Sound) (config : SessionConfig) :
    (st.step crypto (.newSession config)).Sound where
  setup _ := rfl
  early := nofun
  waiting := nofun
  charging := nofun
  marks := by
    rintro ⟨t, ht, -⟩
    cases ht
  recorded _ p hp ho := by
    show Recorded st.resumable
    unfold Station.resumable
    split
    · next hpau =>
      obtain ⟨hs, hcon⟩ := Sound.paused h hpau
      have hsel : st.engine.ctx.session.contractSelected := hcon p hp ho
      have ha := (granted_iff st).1 (Sound.charging h hs)
      rw [Station.Authorized, if_pos hsel] at ha
      exact ⟨_, rfl, ha⟩
    · next hpau => exact Sound.recorded h (by simpa [Context.view] using hpau) p hp ho
  resumed := nofun
  paused := nofun

theorem step_sound (st : Station) (ev : Event) (hh : st.Heeds crypto ev)
    (h : st.Sound) : (st.step crypto ev).Sound := by
  cases ev with
  | input i => exact sound_input crypto h i hh
  | newSession config => exact sound_newSession crypto h config

theorem sound_init (config : SessionConfig) : (Station.init config).Sound where
  setup _ := rfl
  early := nofun
  waiting := nofun
  charging := nofun
  marks := by
    rintro ⟨t, ht, -⟩
    cases ht
  recorded _ := nofun
  resumed := nofun
  paused := nofun

theorem run_sound (config : SessionConfig) (events : List Event)
    (hh : Along (Station.step crypto) (Station.Heeds crypto) (Station.init config) events) :
    (run (Station.step crypto) (Station.init config) events).Sound :=
  run_invariant_along (step_sound crypto) events hh (sound_init config)

/-- **In every sequence of sessions that keeps clear of the defects,
`AuthorizationRes(OK, Finished)` is staged only in a session that the module authorized.** -/
theorem finished_only_if_authorized (crypto : Crypto) (config : SessionConfig) (events : List Event)
    (hheeds : Along (Station.step crypto) (Station.Heeds crypto) (Station.init config) events)
    (hfinished : ∃ t ∈ (run (Station.step crypto) (Station.init config) events).engine.ctx.log,
      t.finishes = true) :
    (run (Station.step crypto) (Station.init config) events).Authorized := by
  have h := run_sound crypto config events hheeds
  obtain ⟨t, ht, hf⟩ := hfinished
  have hm : t.marked = true := by simp [Trace.marked, hf]
  exact (granted_iff _).1 (Sound.charging h
    (Sound.marks h ⟨t, mem_filter.2 ⟨ht, hm⟩, hf⟩))

/-! ### Two contracts -/

/-- Two contracts, each with one certificate that also stands for its signatures. -/
def twoContracts : Crypto where
  validateContractChain := fun certificate _ emaid =>
    if certificate = (if emaid = "DE-ONE" then [1] else [2]) then ⟨.OK, emaid, "", false⟩
    else ⟨.FAILED_CertChainError, "", "", false⟩
  verifyAuthorizationSignature := fun exi leafDer => exi = leafDer
  verifyMeteringReceiptSignature := fun _ _ => false
  relayedResponseFailed := fun _ => true

/-- An AC charger with Plug and Charge. -/
def contractConfig : SessionConfig where
  chargeServiceId := 1
  supportedEnergyTransferModes := [.AC_three_phase_core]
  offeredVasServices := []
  acNominalVoltage := 230
  acCapabilityMaxCurrent := 32
  dcCapabilityMaxPower := 0
  dcMinCurrent := 0
  dcMinVoltage := 0
  saScheduleDuration := 86400
  pncEnabled := true
  eimEnabled := true
  centralContractValidationAllowed := false
  certInstallService := false
  tlsActive := true
  receiptRequired := false
  noEnergyPause := .None
  authTimeoutEimMs := 55000
  authTimeoutPncMs := 55000

/-- Inputs at one instant, each answer taken; session 7 and challenge 5 are drawn. -/
def taken (inputs : List Input) : List Event :=
  inputs.flatMap fun i => [.input (⟨0, 7, 5⟩, i), .input (⟨0, 7, 5⟩, .takeOutgoing)]

/-- The messages up to the first `AuthorizationReq`. -/
def presents (id : SessionId) (emaid : String) (certificate : Bytes) : List Event :=
  taken [.packet ⟨id, .sessionSetup⟩, .packet ⟨7, .serviceDiscovery⟩,
    .packet ⟨7, .paymentServiceSelection .Contract [⟨1, none⟩]⟩,
    .packet ⟨7, .paymentDetails emaid certificate []⟩,
    .packet ⟨7, .authorization (some 5) certificate⟩]

/-- The first contract is authorized, charges and pauses; the EV returns with a contract. -/
def pausedAndResumed (emaid : String) (certificate : Bytes) : List Event :=
  presents 0 "DE-ONE" [1] ++
  taken [.control (.authorizationResponse true false),
    .packet ⟨7, .authorization (some 5) [1]⟩,
    .packet ⟨7, .chargeParameterDiscovery
      ⟨.AC_three_phase_core, some ⟨none, 10, 400, 32, 6⟩, none⟩⟩,
    .packet ⟨7, .powerDelivery ⟨.Start, 1, none⟩⟩, .control (.closedContactor true),
    .packet ⟨7, .chargingStatus⟩, .packet ⟨7, .powerDelivery ⟨.Stop, 1, none⟩⟩,
    .packet ⟨7, .sessionStop .Pause⟩] ++
  [.newSession contractConfig] ++ presents 7 emaid certificate

/-- The EV returns with another contract, and is authorized although the module was never asked. -/
theorem resumed_with_another_contract :
    (∃ t ∈ (run (Station.step twoContracts) (Station.init contractConfig)
        (pausedAndResumed "DE-TWO" [2])).engine.ctx.log, t.finishes = true) ∧
      ¬ (run (Station.step twoContracts) (Station.init contractConfig)
        (pausedAndResumed "DE-TWO" [2])).Authorized := by
  decide +kernel

theorem resumed_with_same_contract :
    (∃ t ∈ (run (Station.step twoContracts) (Station.init contractConfig)
        (pausedAndResumed "DE-ONE" [1])).engine.ctx.log, t.finishes = true) ∧
      (run (Station.step twoContracts) (Station.init contractConfig)
        (pausedAndResumed "DE-ONE" [1])).Authorized := by
  have hf : ∃ t ∈ (run (Station.step twoContracts) (Station.init contractConfig)
      (pausedAndResumed "DE-ONE" [1])).engine.ctx.log, t.finishes = true := by decide +kernel
  exact ⟨hf, finished_only_if_authorized twoContracts contractConfig _ (by decide +kernel)
    hf⟩

end EverestCore.Iso15118.D2

import EverestCore.Eebus.LpcUseCaseHandler
import Mathlib

/-!
# The applied limit

The limit is passed on only when the state has changed or a limit has been received. Whether it
still is the one of the state after every call depends on two things that change without either: the
failsafe value, which an event may replace while it applies, and the expiry of the limit, which does
not keep the state machine from entering the limited state with it.

Results:
* **`applied_limit_matches_state`**: in every run of such calls after the start the limit matches.
* `Handler.limit_not_matching`: what happens in other calls.
-/

namespace EverestCore.Eebus

open Lib.Machine Handler

variable {W : Type}

def Effect.limits : Effect W → Option (ExternalLimits W)
  | .updateLimits limits => some limits
  | _ => none

namespace Handler

/-- What was passed to the energy manager last. -/
def lastLimits (s : Handler W) : Option (ExternalLimits W) :=
  (s.log.filterMap Effect.limits).getLast?

/-- The state machine would enter the limited state with an active limit. -/
def accepts (s : Handler W) (now : Int) : Bool :=
  match s.state with
  | .init => now - s.initTimestamp ≤ LPC_INIT_TIMEOUT
  | .limited => false
  | .unlimitedControlled | .unlimitedAutonomous => !s.heartbeatHasTimeout now
  | .failsafe =>
    now < s.failsafeEntry + s.failsafeDurationTimeout &&
      (s.failsafeFirstHeartbeat = timePointMin ||
        now < s.failsafeFirstHeartbeat + LPC_RECOVERY_TIMEOUT) &&
      !s.heartbeatHasTimeout now && s.failsafeEntry ≤ s.lastLimitReceivedTimestamp

/-- The limit with which the limited state would be entered has not expired. -/
def Fresh (s : Handler W) (now : Int) : Prop :=
  s.limitIsActive = true → s.accepts now = true → s.limitExpired now = false

section Matches

variable [Zero W]

/-- The last limit passed on is the one of the state. -/
def Matches (s : Handler W) (now : Int) : Prop :=
  match s.state with
  | .init | .failsafe =>
    ∃ wall, s.lastLimits = some (translateToExternalLimits s.failsafeLimit wall)
  | .limited => ∃ limit wall, s.currentLimit = some limit ∧ limit.isActive = true ∧
      s.limitExpired now = false ∧ s.lastLimits = some (translateToExternalLimits limit wall)
  | .unlimitedControlled | .unlimitedAutonomous =>
    ∃ wall, s.lastLimits = some (translateToExternalLimits unlimitedLimit wall)

/-- What holds before the state machine runs: the limit matches, unless one was just received. -/
structure Ready (s : Handler W) : Prop where
  notStarted : s.initTimestamp = timePointMin → s.state = .init
  present : s.state = .limited → s.currentLimit.isSome
  applied : s.state ≠ .limited ∨ s.limitValueChanged = false →
    ∃ wall, s.lastLimits = some (translateToExternalLimits s.limitForCurrentState wall)

end Matches

/-! ## The state machine -/

/-- The state in which a run of the state machine ends. -/
def target (now : Int) (s : Handler W) : State :=
  match s.state with
  | .init =>
    if LPC_INIT_TIMEOUT < now - s.initTimestamp then .unlimitedAutonomous
    else if s.limitIsActive then .limited
    else if s.limitIsDeactivated then .unlimitedControlled
    else .init
  | .limited =>
    if s.heartbeatHasTimeout now then .failsafe
    else if s.limitIsDeactivated || s.limitExpired now then .unlimitedControlled
    else .limited
  | .unlimitedControlled =>
    if s.heartbeatHasTimeout now then .failsafe
    else if s.limitIsActive then .limited
    else .unlimitedControlled
  | .unlimitedAutonomous =>
    if s.heartbeatHasTimeout now then .unlimitedAutonomous
    else if s.limitIsDeactivated then .unlimitedControlled
    else if s.limitIsActive then .limited
    else .unlimitedAutonomous
  | .failsafe =>
    if s.failsafeEntry + s.failsafeDurationTimeout ≤ now then .unlimitedAutonomous
    else if s.failsafeFirstHeartbeat ≠ timePointMin ∧
        s.failsafeFirstHeartbeat + LPC_RECOVERY_TIMEOUT ≤ now then
      .unlimitedAutonomous
    else if s.heartbeatHasTimeout now then .failsafe
    else if s.failsafeEntry ≤ s.lastLimitReceivedTimestamp then
      if s.limitIsActive then .limited else .unlimitedControlled
    else .failsafe

@[simp] theorem state_setState (newState : State) (entry : Int) (s : Handler W) :
    (s.setState newState entry).state = newState := by
  unfold setState
  split_ifs <;> first | assumption | rfl

variable {s : Handler W}

theorem setState_state {newState : State} (entry : Int) (h : s.state = newState) :
    s.setState newState entry = s :=
  if_pos h

variable (now : Int)

theorem dropExpired_eq (s : Handler W) :
    ∃ limit, s.dropExpired now = { s with currentLimit := limit } := by
  unfold dropExpired
  split
  · exact ⟨none, rfl⟩
  · exact ⟨s.currentLimit, rfl⟩

@[simp] theorem state_dropExpired (s : Handler W) : (s.dropExpired now).state = s.state := by
  obtain ⟨limit, hd⟩ := dropExpired_eq now s
  rw [hd]

/-- Apart from the first heartbeat in the failsafe state, a transition only enters a state. -/
theorem transition_eq (entry : Int) (s : Handler W) :
    ∃ first, s.transition now entry =
      { (s.dropExpired now).setState (s.target now) entry with
        failsafeFirstHeartbeat := first } := by
  obtain ⟨limit, hd⟩ := dropExpired_eq now s
  have hst : ∀ t, s.state = t → ∃ first, s.dropExpired now =
      { (s.dropExpired now).setState t entry with failsafeFirstHeartbeat := first } :=
    fun t ht => ⟨_, by rw [setState_state entry ((state_dropExpired now s).trans ht)]⟩
  unfold transition target
  cases hs : s.state <;>
    simp only [handleInitState, handleLimitedState, handleUnlimitedControlledState,
      handleUnlimitedAutonomousState, handleFailsafeState, hd] at hst ⊢ <;>
    split_ifs <;> first | exact ⟨_, rfl⟩ | exact hst _ hs | skip
  all_goals
    refine ⟨s.lastHeartbeatTimestamp, ?_⟩
    rw [setState_state entry (by exact hs)]

/-- How the state machine comes to the limited state: it stays there with a limit that is neither
deactivated nor expired, or enters it with an active one. -/
theorem target_limited {now : Int} (h : s.target now = .limited) :
    (s.state = .limited ∧ s.limitIsDeactivated = false ∧ s.limitExpired now = false) ∨
      (s.limitIsActive ∧ s.accepts now) := by
  unfold target at h
  cases hs : s.state <;> simp only [hs] at h <;> split_ifs at h <;> simp_all [accepts]
  -- in the failsafe state, the time for the recovery is not over
  rename_i hrec _ _ _
  exact or_iff_not_imp_left.2 hrec

@[simp] theorem state_transition (entry : Int) (s : Handler W) :
    (s.transition now entry).state = s.target now := by
  obtain ⟨first, heq⟩ := transition_eq now entry s
  simp [heq]

/-- What a transition leaves alone. -/
structure Moves (s s' : Handler W) : Prop where
  log : s'.log = s.log
  failsafeControlLimit : s'.failsafeControlLimit = s.failsafeControlLimit
  limitValueChanged : s'.limitValueChanged = s.limitValueChanged
  initTimestamp : s'.initTimestamp = s.initTimestamp
  changed : s'.state = s.state ∨ s'.stateChanged = true

theorem transition_moves (entry : Int) (s : Handler W) : Moves s (s.transition now entry) := by
  obtain ⟨first, heq⟩ := transition_eq now entry s
  obtain ⟨limit, hd⟩ := dropExpired_eq now s
  rw [heq, hd]
  unfold setState
  split_ifs <;> constructor <;> simp

theorem limitIsActive_transition {now entry : Int} (h : (s.transition now entry).limitIsActive) :
    s.limitIsActive ∧ s.limitIsDeactivated = false ∧ s.limitExpired now = false ∧
      (s.target now = .failsafe ∨ s.target now = .unlimitedAutonomous →
        s.state = s.target now) := by
  obtain ⟨first, heq⟩ := transition_eq now entry s
  rw [heq] at h
  unfold setState dropExpired at h
  split_ifs at h <;> cases hl : s.currentLimit <;>
    simp_all [limitIsActive, limitIsDeactivated]

/-- A limit that was not taken up is not taken up a moment later. -/
theorem accepts_transition {now entry later : Int} (hle : now ≤ later)
    (hact : (s.transition now entry).limitIsActive) :
    (s.transition now entry).accepts later = false := by
  obtain ⟨hact, hd, hexp, hk⟩ := limitIsActive_transition hact
  obtain ⟨first, heq⟩ := transition_eq now entry s
  obtain ⟨limit, hdr⟩ := dropExpired_eq now s
  have ht : s.target now = .limited ∨ s.state = s.target now := by
    unfold target at hk ⊢
    cases hs : s.state <;> simp only [hs] at hk ⊢ <;> split_ifs at hk ⊢ <;> simp_all
  rcases ht with ht | hsa
  · rw [heq, accepts]
    simp [ht]
  · -- it stays where it is, for want of a heartbeat or of a limit
    rw [heq, setState_state entry (by simpa using hsa), hdr]
    unfold target at hsa
    cases hs : s.state <;> simp only [hs] at hsa <;> split_ifs at hsa <;>
      simp_all [accepts, heartbeatHasTimeout]
    all_goals omega

theorem lastLimits_concat (limits : ExternalLimits W) (s : Handler W) :
    lastLimits { s with log := s.log ++ [.updateLimits limits] } = some limits := by
  simp [lastLimits, Effect.limits]

theorem lastLimits_append {effects : List (Effect W)} (h : ∀ e ∈ effects, e.limits = none)
    (s : Handler W) : lastLimits { s with log := s.log ++ effects } = s.lastLimits := by
  rw [lastLimits, List.filterMap_append, List.filterMap_eq_nil_iff.2 h, List.append_nil]
  rfl

section Run

variable [Zero W] {cfg : Config W} {r : Readings W} {k : Nat} {s : Handler W}

theorem Matches.applied {now : Int} (h : s.Matches now) :
    ∃ wall, s.lastLimits = some (translateToExternalLimits s.limitForCurrentState wall) := by
  unfold Matches at h
  unfold limitForCurrentState
  cases hs : s.state <;> simp only [hs] at h ⊢
  case limited =>
    obtain ⟨limit, wall, hl, -, -, hla⟩ := h
    rw [hl]
    exact ⟨wall, hla⟩
  all_goals exact h

/-- Conversely, in the limited state with an active limit that has not expired. -/
theorem matches_of_applied {now : Int}
    (h : ∃ wall, s.lastLimits = some (translateToExternalLimits s.limitForCurrentState wall))
    (hlim : s.state = .limited → ∃ limit, s.currentLimit = some limit ∧
      limit.isActive ∧ s.limitExpired now = false) : s.Matches now := by
  obtain ⟨wall, hl⟩ := h
  unfold Matches
  unfold limitForCurrentState at hl
  cases hs : s.state <;> simp only [hs] at hl ⊢
  case limited =>
    obtain ⟨limit, hli, hact, hexp⟩ := hlim hs
    rw [hli] at hl
    exact ⟨limit, wall, hli, hact, hexp, hl⟩
  all_goals exact ⟨wall, hl⟩

/-- The limited state is entered with an active limit that has not expired. -/
theorem transition_present {now entry : Int} (hr : s.Ready) (hf : s.Fresh now)
    (h : (s.transition now entry).state = .limited) :
    ∃ limit, s.currentLimit = some limit ∧ (s.transition now entry).currentLimit = some limit ∧
      limit.isActive ∧ (s.transition now entry).limitExpired now = false := by
  rw [state_transition] at h
  have hact : s.limitExpired now = false ∧
      ∃ limit, s.currentLimit = some limit ∧ limit.isActive := by
    rcases target_limited h with ⟨hs, hd, hexp⟩ | ⟨hact, hacc⟩
    · obtain ⟨limit, hl⟩ := Option.isSome_iff_exists.1 (hr.present hs)
      exact ⟨hexp, limit, hl, by simpa [limitIsDeactivated, hl] using hd⟩
    · exact ⟨hf hact hacc, (Option.any_eq_true _ _).1 hact⟩
  obtain ⟨hexp, limit, hl, hact⟩ := hact
  obtain ⟨first, heq⟩ := transition_eq now entry s
  have hk : (s.transition now entry).currentLimit = s.currentLimit ∧
      (s.transition now entry).lastLimitReceivedTimestamp = s.lastLimitReceivedTimestamp := by
    rw [heq, h, dropExpired, hexp]
    unfold setState
    split_ifs <;> simp_all
  refine ⟨limit, hl, hk.1.trans hl, hact, ?_⟩
  unfold limitExpired at hexp ⊢
  rw [hk.1, hk.2, hexp]

theorem limitForCurrentState_congr {s' : Handler W} (hst : s'.state = s.state)
    (hcon : s'.state = .init ∨ s'.state = .failsafe →
      s'.failsafeControlLimit = s.failsafeControlLimit)
    (hl : s'.state = .limited → ∃ limit, s'.currentLimit = some limit ∧
      s.currentLimit = some limit) : s'.limitForCurrentState = s.limitForCurrentState := by
  unfold limitForCurrentState failsafeLimit
  rw [← hst]
  cases hs : s'.state with
  | init =>
    rw [hcon (.inl hs)]
  | failsafe =>
    rw [hcon (.inr hs)]
  | limited =>
    obtain ⟨limit, h₁, h₂⟩ := hl hs
    rw [h₁, h₂]
    rfl
  | unlimitedControlled | unlimitedAutonomous => rfl

/-- **A run of the state machine makes the limit match.** -/
theorem run_matches (hv : cfg.allCallbacksValid) (hr : s.Ready)
    (hf : s.initTimestamp ≠ timePointMin → s.Fresh (r.clock k)) :
    (s.runStateMachine cfg r k).Matches (r.clock k) := by
  unfold runStateMachine
  by_cases hst : s.initTimestamp = timePointMin
  · rw [if_pos hst]
    have hin := hr.notStarted hst
    have hne : s.state ≠ .limited := fun h => by cases hin.symm.trans h
    exact matches_of_applied (hr.applied (.inl hne)) fun h => absurd h hne
  · rw [if_neg hst]
    dsimp only
    have hm := transition_moves (r.clock k) (r.clock (k + 1)) s
    have hpre : (s.transition (r.clock k) (r.clock (k + 1))).state = .limited → _ :=
      transition_present hr (hf hst)
    generalize s.transition (r.clock k) (r.clock (k + 1)) = s' at *
    split
    · rw [applyLimitForCurrentState, hv, Bool.not_true, if_neg nofun]
      refine matches_of_applied ⟨_, lastLimits_concat _ _⟩ fun h => ?_
      obtain ⟨limit, -, hl⟩ := hpre h
      exact ⟨limit, hl⟩
    · -- nothing is passed on: neither the state nor the limit has changed
      rename_i hfl
      obtain ⟨hsa, hvl⟩ := Bool.or_eq_false_iff.1 (Bool.not_eq_true _ ▸ hfl)
      have hs : s'.state = s.state := hm.changed.resolve_right (by rw [hsa]; nofun)
      obtain ⟨wall, hla⟩ := hr.applied (.inr (hm.limitValueChanged.symm.trans hvl))
      have hl : s'.limitForCurrentState = s.limitForCurrentState := by
        refine limitForCurrentState_congr hs (fun _ => hm.failsafeControlLimit) fun h => ?_
        obtain ⟨limit, hso, hso', -⟩ := hpre h
        exact ⟨limit, hso', hso⟩
      refine matches_of_applied ⟨wall, ?_⟩ fun h => ?_
      · rw [hl, ← hla, lastLimits, lastLimits, hm.log]
      · obtain ⟨limit, -, hl⟩ := hpre h
        exact ⟨limit, hl⟩

/-- After a run only the record of what was passed on and the flags differ. -/
theorem runStateMachine_eq (cfg : Config W) (r : Readings W) (k : Nat)
    (hst : s.initTimestamp ≠ timePointMin) :
    ∃ log changed changed', s.runStateMachine cfg r k =
      { s.transition (r.clock k) (r.clock (k + 1)) with
        log := log, stateChanged := changed, limitValueChanged := changed' } := by
  unfold runStateMachine
  rw [if_neg hst]
  dsimp only
  split
  · unfold applyLimitForCurrentState
    split
    · exact ⟨_, _, _, rfl⟩
    · exact ⟨_, _, _, rfl⟩
  · exact ⟨_, _, _, rfl⟩

theorem initTimestamp_runStateMachine :
    (s.runStateMachine cfg r k).initTimestamp = s.initTimestamp := by
  by_cases hst : s.initTimestamp = timePointMin
  · rw [runStateMachine, if_pos hst]
  · obtain ⟨log, changed, changed', heq⟩ := runStateMachine_eq cfg r k hst
    rw [heq]
    exact (transition_moves _ _ s).initTimestamp

theorem fresh_runStateMachine {later : Int} (hle : r.clock k ≤ later)
    (hst : s.initTimestamp ≠ timePointMin) : (s.runStateMachine cfg r k).Fresh later := by
  obtain ⟨log, changed, changed', heq⟩ := runStateMachine_eq cfg r k hst
  rw [heq]
  intro hact hacc
  have hnot := accepts_transition hle hact
  exact absurd (hnot.symm.trans hacc) nofun

/-- Between two calls. -/
structure Settled (s : Handler W) : Prop where
  notStarted : s.initTimestamp = timePointMin → s.state = .init
  applied : ∃ now, s.Matches now

theorem Settled.ready (h : s.Settled) : s.Ready := by
  obtain ⟨now, hnow⟩ := h.applied
  refine ⟨h.notStarted, fun hs => ?_, fun _ => hnow.applied⟩
  rw [Matches, hs] at hnow
  obtain ⟨limit, -, hl, -⟩ := hnow
  exact Option.isSome_iff_exists.2 ⟨limit, hl⟩

theorem Ready.receive (h : s.Ready) (limit : LoadLimit W) (now : Int) :
    (s.receive limit now).Ready := by
  refine ⟨h.notStarted, fun _ => rfl, fun hf => ?_⟩
  have hne : s.state ≠ .limited := hf.resolve_right nofun
  obtain ⟨wall, hl⟩ := h.applied (.inl hne)
  have hsa : (s.receive limit now).limitForCurrentState = s.limitForCurrentState :=
    limitForCurrentState_congr rfl (fun _ => rfl) fun hs => absurd hs hne
  exact ⟨wall, hsa ▸ hl⟩

theorem Ready.frame {s' : Handler W} (h : s.Ready) (hst : s'.state = s.state)
    (hin : s'.initTimestamp = s.initTimestamp) (hl : s'.currentLimit = s.currentLimit)
    (hv : s'.limitValueChanged = s.limitValueChanged) (hla : s'.lastLimits = s.lastLimits)
    (hcon : s.state = .init ∨ s.state = .failsafe →
      s'.failsafeControlLimit = s.failsafeControlLimit) : s'.Ready := by
  refine ⟨?_, ?_, fun hf => ?_⟩
  · rw [hin, hst]
    exact h.notStarted
  · rw [hst, hl]
    exact h.present
  · rw [hst, hv] at hf
    have hsa : s'.limitForCurrentState = s.limitForCurrentState := by
      refine limitForCurrentState_congr hst (hst ▸ hcon) fun hs => ?_
      obtain ⟨limit, hso⟩ := Option.isSome_iff_exists.1 (h.present (hst ▸ hs))
      exact ⟨limit, hl ▸ hso, hso⟩
    rw [hla, hsa]
    exact h.applied hf

theorem run_settled (hv : cfg.allCallbacksValid) (hr : s.Ready)
    (hf : s.initTimestamp ≠ timePointMin → s.Fresh (r.clock k)) :
    (s.runStateMachine cfg r k).Matches (r.clock k) ∧ (s.runStateMachine cfg r k).Settled := by
  have hm := run_matches hv hr hf
  refine ⟨hm, fun hst => ?_, _, hm⟩
  rw [initTimestamp_runStateMachine] at hst
  rw [runStateMachine, if_pos hst]
  exact hr.notStarted hst

/-- A handler that was just constructed and started. -/
def started (cfg : Config W) (failsafeControlLimit : W) (r : Readings W) : Handler W :=
  start cfg r { failsafeControlLimit }

theorem started_matches (hv : cfg.allCallbacksValid) (failsafeControlLimit : W)
    (now : Int) : (started cfg failsafeControlLimit r).Matches now := by
  unfold started start startHeartbeat applyLimitForCurrentState
  rw [hv, Bool.not_true, if_neg nofun]
  split
  · exact ⟨_, lastLimits_concat _ _⟩
  · exact ⟨_, lastLimits_concat _ _⟩

end Run

/-! ## Calls -/

theorem connect_eq (ski : String) (event : Event) (s : Handler W) :
    ∃ active, s.connect ski event = { s with activeEmsSki := active } := by
  unfold connect
  split
  · exact ⟨some ski, rfl⟩
  · exact ⟨s.activeEmsSki, rfl⟩

section Calls

variable [Zero W] [LE W] [DecidableLE W] (cfg : Config W)

/-- What is received with an event. -/
def received (r : Readings W) : Event → Option (LoadLimit W)
  | .dataUpdateLimit => if cfg.stub then r.consumptionLimit else none
  | _ => none

/-- The failsafe value is not replaced while it applies. -/
def KeepsFailsafe (s : Handler W) (r : Readings W) (event : Event) : Prop :=
  event = .dataUpdateFailsafeConsumptionActivePowerLimit →
    s.state = .init ∨ s.state = .failsafe →
      ∀ limit ∈ r.failsafeConsumptionActivePowerLimit, failsafeLimitIsValid limit = true →
        limit = s.failsafeControlLimit

/-- The condition on a call: the failsafe value is not replaced while it applies, the limited state
is not entered with an expired limit, and an event that is ignored does not come after the
expiry. -/
def Meets (s : Handler W) (call : Call W × Readings W) : Prop :=
  match call.1 with
  | .processReceivedLimit limit => (s.receive limit (call.2.clock 0)).Fresh (call.2.clock 1)
  | .runStateMachine => s.Fresh (call.2.clock 1)
  | .handleEvent ski event =>
    let s := s.connect ski event
    if s.ignores ski then s.state = .limited → s.limitExpired (call.2.clock 3) = false
    else
      s.KeepsFailsafe call.2 event ∧
        match received cfg call.2 event with
        | some limit => (s.receive limit (call.2.clock 0)).Fresh (call.2.clock 1)
        | none => (s.dispatch cfg call.2 event).Fresh (call.2.clock 3)

variable {cfg} {s : Handler W} {r : Readings W}

theorem dispatch_ready {event : Event} (hr : s.Ready) (hno : received cfg r event = none)
    (hk : s.KeepsFailsafe r event) : (s.dispatch cfg r event).Ready := by
  cases event with
  | dataUpdateHeartbeat => exact hr.frame rfl rfl rfl rfl rfl fun _ => rfl
  | dataUpdateLimit =>
    unfold dispatch updateLimitFromEvent
    dsimp only
    split
    · rename_i limit hst hans
      rw [received, hst, if_pos rfl, hans] at hno
      cases hno
    · exact hr
  | dataUpdateFailsafeDurationMinimum =>
    unfold dispatch handleDataUpdateFailsafeDurationMinimum
    dsimp only
    split
    · exact hr
    · split
      · exact hr.frame rfl rfl rfl rfl rfl fun _ => rfl
      · exact hr
  | dataUpdateFailsafeConsumptionActivePowerLimit =>
    unfold dispatch handleDataUpdateFailsafeConsumptionActivePowerLimit
    dsimp only
    split
    · exact hr
    · rename_i limit hans
      split
      · rename_i hv
        exact hr.frame rfl rfl rfl rfl rfl fun hs => hk rfl hs limit hans hv
      · exact hr
  | writeApprovalRequired =>
    unfold dispatch approvePendingWrites
    dsimp only
    split
    · refine hr.frame rfl rfl rfl rfl (lastLimits_append (fun e he => ?_) s) fun _ => rfl
      obtain ⟨entry, -, rfl⟩ := List.mem_map.1 he
      unfold approval
      split
      · rfl
      · rfl
    · exact hr
  | useCaseSupportUpdate =>
    have hcon : (s.configureUseCase cfg).Ready := by
      unfold configureUseCase
      split
      · exact hr
      · exact hr.frame rfl rfl rfl rfl (lastLimits_append (by simp [Effect.limits]) s) fun _ => rfl
    unfold dispatch startHeartbeat
    dsimp only
    split
    · exact hcon
    · exact hcon.frame rfl rfl rfl rfl (lastLimits_append (by simp [Effect.limits]) _) fun _ => rfl
  | other name => exact hr

theorem dispatched_matches {event : Event} (hv : cfg.allCallbacksValid)
    (hcl : Monotone r.clock) (hr : s.Ready) (hk : s.KeepsFailsafe r event)
    (hf : match received cfg r event with
      | some limit => (s.receive limit (r.clock 0)).Fresh (r.clock 1)
      | none => (s.dispatch cfg r event).Fresh (r.clock 3)) :
    ((s.dispatch cfg r event).runStateMachine cfg r 3).Matches (r.clock 3) ∧
      ((s.dispatch cfg r event).runStateMachine cfg r 3).Settled := by
  cases hrec : received cfg r event with
  | none =>
    rw [hrec] at hf
    exact run_settled hv (dispatch_ready hr hrec hk) fun _ => hf
  | some limit =>
    -- the state machine has already run when the limit was received
    rw [hrec] at hf
    have hdis : s.dispatch cfg r event = s.processReceivedLimit cfg r limit := by
      cases event with
      | dataUpdateLimit =>
        rw [received] at hrec
        split at hrec
        · rename_i hst
          rw [dispatch, updateLimitFromEvent, hst, hrec]
        · cases hrec
      | _ => cases hrec
    have hfi := run_settled hv (hr.receive limit (r.clock 0)) fun _ => hf
    rw [hdis]
    refine run_settled hv hfi.2.ready fun hs => ?_
    refine fresh_runStateMachine (hcl (by decide)) fun h => hs ?_
    exact initTimestamp_runStateMachine.trans h

/-- **After every call that meets the condition the limit matches.** -/
theorem step_matches {call : Call W × Readings W} (hv : cfg.allCallbacksValid)
    (hcl : Monotone call.2.clock) (hset : s.Settled) (hm : s.Meets cfg call) :
    (s.step cfg call).Matches (call.1.time call.2) ∧ (s.step cfg call).Settled := by
  obtain ⟨call, r⟩ := call
  cases call with
  | processReceivedLimit limit =>
    exact run_settled hv (hset.ready.receive limit (r.clock 0)) fun _ => hm
  | runStateMachine => exact run_settled hv hset.ready fun _ => hm
  | handleEvent ski event =>
    obtain ⟨active, hcon⟩ := connect_eq ski event s
    have hset' : (s.connect ski event).Settled := by
      rw [hcon]
      exact ⟨hset.notStarted, hset.applied⟩
    unfold Meets at hm
    unfold step handleEvent
    dsimp only at hm ⊢
    split at hm
    · rename_i hi
      rw [if_pos hi]
      refine ⟨?_, hset'⟩
      obtain ⟨now, hnow⟩ := hset'.applied
      refine matches_of_applied hnow.applied fun hs => ?_
      rw [Matches, hs] at hnow
      obtain ⟨limit, -, hl, hact, -⟩ := hnow
      exact ⟨limit, hl, hact, hm hs⟩
    · rename_i hi
      rw [if_neg hi]
      exact dispatched_matches hv hcl hset'.ready hm.1 hm.2

end Calls

end Handler

/-- **The applied limit matches the state** after the start and after every call of a run whose
calls all meet the condition. -/
theorem applied_limit_matches_state [Zero W] [LE W] [DecidableLE W] (cfg : Config W)
    (hvalid : cfg.allCallbacksValid = true) (failsafeControlLimit : W) (r : Readings W)
    (calls : List (Call W × Readings W))
    (hcalls : Along (step cfg) (fun s call => Monotone call.2.clock ∧ s.Meets cfg call)
      (started cfg failsafeControlLimit r) calls) :
    (∀ now, (started cfg failsafeControlLimit r).Matches now) ∧
      Along (step cfg) (fun s call => (s.step cfg call).Matches (call.1.time call.2))
        (started cfg failsafeControlLimit r) calls := by
  have hsta := started_matches hvalid failsafeControlLimit (r := r)
  have hi : (started cfg failsafeControlLimit r).state = .init := by
    unfold started start startHeartbeat applyLimitForCurrentState
    split <;> split <;> rfl
  refine ⟨hsta, along_of_invariant (I := Handler.Settled) (fun s call hc hs => ?_) calls
    hcalls ⟨fun _ => hi, 0, hsta 0⟩⟩
  exact step_matches hvalid hc.1 hs hc.2

/-! ### Runs -/

namespace Handler

def exampleConfig : Config Int where
  maxNominalPower := 32000
  allCallbacksValid := true
  stub := true

/-- The clocks at a time in seconds. -/
def readingsAt (seconds : Int) : Readings Int where
  clock _ := seconds * second
  wall _ := seconds * second

/-- A handler with a failsafe value of 4200 W. -/
def exampleHandler : Handler Int := started exampleConfig 4200 (readingsAt 0)

/-- A limit of 7000 W for ten seconds. -/
def shortLimit : LoadLimit Int :=
  { durationNanoseconds := 10 * second, isActive := true, value := 7000 }

/-- The limit is received and expires. -/
def limitedRun : List (Call Int × Readings Int) :=
  [(.processReceivedLimit shortLimit, readingsAt 1), (.runStateMachine, readingsAt 5),
    (.runStateMachine, readingsAt 11)]

/-- The failsafe value becomes 2000 W. -/
def failsafeRun : List (Call Int × Readings Int) :=
  [(.handleEvent "a" .dataUpdateFailsafeConsumptionActivePowerLimit,
    { readingsAt 1 with failsafeConsumptionActivePowerLimit := some 2000 })]

/-- A limit is received without heartbeat; when the next one comes, it has expired. -/
def lateHeartbeatRun : List (Call Int × Readings Int) :=
  [(.runStateMachine, readingsAt 121), (.processReceivedLimit shortLimit, readingsAt 130),
    (.handleEvent "a" .dataUpdateHeartbeat, readingsAt 141)]

/-- While the limit of one energy guard applies, another one shows up. -/
def otherGuardRun : List (Call Int × Readings Int) :=
  [(.handleEvent "a" .dataUpdateHeartbeat, readingsAt 1),
    (.processReceivedLimit shortLimit, readingsAt 2),
    (.handleEvent "b" .dataUpdateHeartbeat, readingsAt 20)]

theorem applied_limit_matches_state_limited :
    (run (step exampleConfig) exampleHandler limitedRun).state = .unlimitedControlled ∧
      Along (step exampleConfig)
        (fun s call => (s.step exampleConfig call).Matches (call.1.time call.2))
        exampleHandler limitedRun := by
  refine ⟨by decide, (applied_limit_matches_state exampleConfig rfl 4200 (readingsAt 0) limitedRun
    ⟨⟨fun _ _ _ => Int.le_refl _, ?_⟩, ⟨fun _ _ _ => Int.le_refl _, ?_⟩,
      ⟨fun _ _ _ => Int.le_refl _, ?_⟩, trivial⟩).2⟩
  all_goals
    unfold Meets Fresh
    decide

/-- The limit does not match: the new failsafe value is not passed on, the limited state is entered
without a limit, and an ignored event leaves an expired limit in force. -/
theorem limit_not_matching :
    ¬ (run (step exampleConfig) exampleHandler failsafeRun).Matches (1 * second) ∧
      ¬ (run (step exampleConfig) exampleHandler lateHeartbeatRun).Matches (141 * second) ∧
      ¬ (run (step exampleConfig) exampleHandler otherGuardRun).Matches (20 * second) := by
  refine ⟨?_, ?_, ?_⟩
  · rintro ⟨wall, h⟩
    have hv := congrArg (Option.map fun limits : ExternalLimits Int =>
      limits.scheduleImport.map (·.limitsToRoot)) h
    cases hv
  · rintro ⟨limit, wall, h, -⟩
    cases h
  · rintro ⟨limit, wall, -, -, h, -⟩
    cases h

end Handler

end EverestCore.Eebus

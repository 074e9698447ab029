import EverestCore.Evse.Iec.History

/-!
# No power-on edge is lost

State C forwards the permission of `allow_power_on` to the BSP on three edges: the PWM was
switched on, the permission was given, the EV came from state B. Each is a comparison with a
value that the last run of `state_machine` remembered, so an order of events that a run never sees
as an edge leaves the EV without power.

Two steps lose the edge:
* `missedEdge`: a run finds the EV in a state with power for the first time, coming from A, E or
  Disabled, when the PWM and the permission were both there at the run before.
* `unseenWithdrawal`: `allow_power_on(true)` of one thread comes after `allow_power_on(false)` of
  another and before the run that would have remembered the withdrawal.

Results:
* **`power_on_edge_not_lost`**: for every interleaving of the calls of all threads without these
  two steps. `power_on_edge_lost` is a run with the first of them.
-/

namespace EverestCore.Evse.Iec

open EverestCore.Lib.Machine Iec.Frame

/-! ## Since the last request -/

/-- The last request of `allow_power_on` was true, and since then the control pilot stayed in its
state or went from A or B into C, and no run found `timeout_state_c1` expired. -/
def undisturbed : List Entry → Bool
  | [] => false
  | .request value :: _ => value
  | .run last cp expired _ :: h =>
    (cp == last || (cp == .C && (last == .A || last == .B))) && !expired && undisturbed h

/-- A run enters a state with power from a state without a plugged-in EV, and PWM and permission
are both no news to it. -/
def missedEdge (cfg : Config) (t : Task) (now : Int) (s : State) : Bool :=
  match t with
  | .feed cpStateOpt =>
    let cp := cpStateOpt.getD s.lastCpState
    (cp == .C || (cp == .D && cfg.hasVentilation)) &&
      (s.lastCpState == .A || s.lastCpState == .E || s.lastCpState == .Disabled) &&
      s.pwmRunning && s.lastPwmRunning && s.powerOnAllowed && s.lastPowerOnAllowed &&
      !s.timeoutStateC1.reached now
  | _ => false

/-- In a state with power and PWM, the permission is given again before a run saw it withdrawn. -/
def unseenWithdrawal (cfg : Config) (op : Operation) (s : State) : Bool :=
  match op with
  | .allowPowerOn true _ =>
    (s.lastCpState == .C || (s.lastCpState == .D && cfg.hasVentilation)) && s.lastPwmRunning &&
      s.lastPowerOnAllowed && !s.powerOnAllowed
  | _ => false

/-- Neither of the two steps. -/
def keepsEdges (cfg : Config) : Threads (State × List Entry) Task → Action Operation Int → Prop :=
  Program.Guard (fun op _ s => unseenWithdrawal cfg op s.1 = false)
    (fun t now s => missedEdge cfg t now s.1 = false)

instance (cfg : Config) (c : Threads (State × List Entry) Task) (a : Action Operation Int) :
    Decidable (keepsEdges cfg c a) :=
  inferInstanceAs (Decidable (Program.Guard _ _ c a))

/-- What the steps without a lost edge keep. -/
structure Edges (cfg : Config) (p : Pilot) (h : List Entry) : Prop where
  -- in a state with power, a permission that the last run saw is forwarded
  settled : SupportsPower cfg p.lastCpState → p.lastPwmRunning = true →
    p.lastPowerOnAllowed = true → p.powerOnAllowed = true → p.passed = some true
  -- F and D without ventilation withdraw the permission at every run
  withheld : p.lastCpState = .F ∨ (p.lastCpState = .D ∧ cfg.hasVentilation = false) →
    p.lastPowerOnAllowed = false
  -- an undisturbed request still stands
  stands : undisturbed h = true → p.lastCpState = .A ∨ p.lastCpState = .B ∨ p.lastCpState = .C →
    p.powerOnAllowed = true

/-! ## The steps -/

section Steps

variable {cfg : Config} {s : State} {h : List Entry}

theorem start_edges (op : Operation) (now : Int) (hop : unseenWithdrawal cfg op s = false)
    (hs : Edges cfg s.pilot h) : Edges cfg (start cfg op now s).1.pilot (noteStart op now s h) := by
  rw [start_pilot]
  cases op with
  | allowPowerOn value =>
    cases value with
    | false =>
      exact ⟨fun _ _ _ hall => absurd hall Bool.false_ne_true, hs.withheld,
        fun hreq => absurd hreq Bool.false_ne_true⟩
    | true =>
      refine ⟨fun hp hpwm hall _ => ?_, hs.withheld, fun _ _ => rfl⟩
      have hp' : SupportsPower cfg s.lastCpState := hp
      have hpwm' : s.lastPwmRunning := hpwm
      have hall' : s.lastPowerOnAllowed := hall
      refine hs.settled hp hpwm hall ?_
      -- a withdrawal that no run saw is the excluded step
      change s.powerOnAllowed
      by_contra hg
      have hg' : s.powerOnAllowed = false := by simpa using hg
      rcases hp' with hC | ⟨hD, hv⟩
      · simp [unseenWithdrawal, hC, hpwm', hall', hg'] at hop
      · simp [unseenWithdrawal, hD, hv, hpwm', hall', hg'] at hop
  | setPwm | setCpStateX1 | setCpStateE | setCpStateF => exact ⟨hs.settled, hs.withheld, hs.stands⟩
  | _ => exact hs

/-- What a run in a state with power does. -/
structure PowerRun (p p' : Pilot) (cp : RawCPState) (expired : Bool) : Prop where
  pwm : p'.pwmRunning = p.pwmRunning
  allowed : p'.powerOnAllowed = (p.powerOnAllowed && !expired)
  lastPwm : p'.lastPwmRunning = p'.pwmRunning
  lastAllowed : p'.lastPowerOnAllowed = p'.powerOnAllowed
  lastCp : p'.lastCpState = cp
  passed : p'.passed =
    if expired then some false
    else if p.pwmRunning ∧ p.powerOnAllowed ∧ (p.lastPwmRunning = false ∨
        p.lastPowerOnAllowed = false ∨ p.lastCpState = .B) then some true
    else p.passed

theorem powerRun (cpStateOpt : Option RawCPState) (now : Int)
    (hp : SupportsPower cfg (cpStateOpt.getD s.lastCpState)) :
    PowerRun s.pilot (stateMachine cfg cpStateOpt now s).s.pilot
      (cpStateOpt.getD s.lastCpState) (s.timeoutStateC1.reached now) := by
  set cp := cpStateOpt.getD s.lastCpState with hcp
  rw [stateMachine_pilot, ← hcp, switch_pilot cfg now _ hp, caseC_pilot]
  have hs : (entered cp s).s = s := rfl
  simp only [hs]
  cases hexp : s.timeoutStateC1.reached now with
  | true =>
    -- the timer withdraws the permission, whether the EV was just plugged in or not
    rw [if_pos rfl]
    split_ifs
    · exact ⟨rfl, by simp [Pilot.remember, Pilot.withdraw], rfl, rfl, rfl, rfl⟩
    · exact ⟨rfl, by simp [Pilot.remember, Pilot.withdraw], rfl, rfl, rfl, rfl⟩
  | false =>
    rw [if_neg Bool.false_ne_true]
    by_cases hpl : plugsInC s.lastCpState s.carPluggedIn
    · split_ifs with he
      · exact ⟨rfl, (Bool.and_true _).symm, rfl, rfl, rfl, (if_pos he).symm⟩
      · exact ⟨rfl, (Bool.and_true _).symm, rfl, rfl, rfl, (if_neg he).symm⟩
    · split_ifs with he
      · exact ⟨rfl, (Bool.and_true _).symm, rfl, rfl, rfl, (if_pos he).symm⟩
      · exact ⟨rfl, (Bool.and_true _).symm, rfl, rfl, rfl, (if_neg he).symm⟩

variable {cpStateOpt : Option RawCPState} {now : Int}

/-- A run in a state with power: afterwards a permission with PWM is forwarded. -/
theorem run_settled
    (hf : missedEdge cfg (.feed cpStateOpt) now s = false) (hs : Edges cfg s.pilot h)
    (hp : SupportsPower cfg (cpStateOpt.getD s.lastCpState))
    (hpwm : (stateMachine cfg cpStateOpt now s).s.pilot.pwmRunning)
    (hall : (stateMachine cfg cpStateOpt now s).s.pilot.powerOnAllowed) :
    (stateMachine cfg cpStateOpt now s).s.pilot.passed = some true := by
  have hrun := powerRun cpStateOpt now hp
  rw [hrun.pwm] at hpwm
  rw [hrun.allowed, Bool.and_eq_true, Bool.not_eq_true'] at hall
  obtain ⟨hall, hexp⟩ := hall
  rw [hrun.passed, hexp, if_neg Bool.false_ne_true]
  split_ifs with he
  · rfl
  -- no edge: both were there at the run before, and the EV did not come from B
  have hlas : s.lastPwmRunning := by
    by_contra h'
    exact he ⟨hpwm, hall, .inl (eq_false_of_ne_true h')⟩
  have hls : s.lastPowerOnAllowed := by
    by_contra h'
    exact he ⟨hpwm, hall, .inr (.inl (eq_false_of_ne_true h'))⟩
  have hpwm' : s.pwmRunning := hpwm
  have hall' : s.powerOnAllowed := hall
  have hd : ¬ (s.lastCpState = .A ∨ s.lastCpState = .E ∨ s.lastCpState = .Disabled) := by
    intro hl
    rcases hp with hC | ⟨hD, hv⟩
    · rcases hl with h' | h' | h' <;>
        simp_all [missedEdge]
    · rcases hl with h' | h' | h' <;>
        simp_all [missedEdge]
  cases hl : s.lastCpState with
  | Disabled => exact absurd (.inr (.inr hl)) hd
  | A => exact absurd (.inl hl) hd
  | B => exact absurd ⟨hpwm, hall, .inr (.inr hl)⟩ he
  | C => exact hs.settled (.inl hl) hlas hls hall
  | D =>
    cases hv : cfg.hasVentilation with
    | true => exact hs.settled (.inr ⟨hl, hv⟩) hlas hls hall
    | false => exact absurd (hs.withheld (.inr ⟨hl, hv⟩)) (by simp [State.pilot, hls])
  | E => exact absurd (.inr (.inl hl)) hd
  | F => exact absurd (hs.withheld (.inl hl)) (by simp [State.pilot, hls])

/-- A run does not disturb a request: it leaves the permission as it is. -/
theorem run_stands (hs : Edges cfg s.pilot h)
    (hca : undisturbed (noteResume cfg (.feed cpStateOpt) now s h))
    (hcp : let cp := cpStateOpt.getD s.lastCpState; cp = .A ∨ cp = .B ∨ cp = .C) :
    (stateMachine cfg cpStateOpt now s).s.pilot.powerOnAllowed := by
  set cp := cpStateOpt.getD s.lastCpState with hcq
  simp only [noteResume, undisturbed, ← hcq, Bool.and_eq_true, Bool.or_eq_true, beq_iff_eq,
    Bool.not_eq_true'] at hca
  obtain ⟨⟨hm, hexp⟩, hca⟩ := hca
  have hl : s.lastCpState = .A ∨ s.lastCpState = .B ∨ s.lastCpState = .C := by
    rcases hm with hsa | ⟨-, hA | hB⟩
    · exact hsa ▸ hcp
    · exact .inl hA
    · exact .inr (.inl hB)
  have hall : s.powerOnAllowed := hs.stands hca hl
  rcases hcp with hA | hB | hC
  · have hls : s.lastCpState = .A := by
      rcases hm with hsa | ⟨hC, -⟩
      · rw [← hsa, hA]
      · rw [hA] at hC
        cases hC
    have hc : (entered .A s).caseA.s.pilot = s.pilot := caseA_again _ hls
    rw [stateMachine_pilot, ← hcq, hA]
    simp only [switch, hc]
    exact hall
  · have hlt : s.lastCpState = .B := by
      rcases hm with hsa | ⟨hC, -⟩
      · rw [← hsa, hB]
      · rw [hB] at hC
        cases hC
    have hc : ((entered .B s).caseB cfg).s.pilot = s.pilot := caseB_again cfg _ hlt
    rw [stateMachine_pilot, ← hcq, hB]
    simp only [switch, hc]
    exact hall
  · have hp : SupportsPower cfg (cpStateOpt.getD s.lastCpState) := .inl (hcq ▸ hC)
    rw [(powerRun cpStateOpt now hp).allowed, hexp]
    simpa [State.pilot] using hall

theorem run_edges
    (hf : missedEdge cfg (.feed cpStateOpt) now s = false) (hs : Edges cfg s.pilot h) :
    Edges cfg (stateMachine cfg cpStateOpt now s).s.pilot
      (noteResume cfg (.feed cpStateOpt) now s h) := by
  refine ⟨fun hp hpwm _ hall => ?_, fun hcp => ?_, fun hca hcp => ?_⟩
  · have hl := powerRun cpStateOpt now hp
    exact run_settled hf hs hp (hl.lastPwm ▸ hpwm) hall
  · have hl : (stateMachine cfg cpStateOpt now s).s.pilot.lastCpState =
        cpStateOpt.getD s.lastCpState := rfl
    rw [hl] at hcp
    rw [stateMachine_pilot]
    rcases hcp with hF | ⟨hD, hv⟩
    · simp only [hF, switch, caseF_pilot]
      split_ifs <;> rfl
    · simp only [hD, switch, caseD_pilot cfg now _ hv]
      rfl
  · exact run_stands hs hca hcp

end Steps

/-! ## Whole runs -/

theorem resume_edges {cfg : Config} {s : State} {h : List Entry} (t : Task) (now : Int)
    (ht : missedEdge cfg t now s = false) (hs : Edges cfg s.pilot h) :
    Edges cfg (resume cfg t now s).1.pilot (noteResume cfg t now s h) := by
  rw [resume_pilot]
  cases t with
  | feed cpStateOpt => exact run_edges ht hs
  | _ => exact hs

theorem edges_run (cfg : Config) (keepCableLocked : Bool) (run : List (Action Operation Int))
    (hrun : Along (watched cfg).step (keepsEdges cfg) (unwatched cfg keepCableLocked .Disabled)
      run) :
    let s := (Lib.Machine.run (watched cfg).step (unwatched cfg keepCableLocked .Disabled)
      run).shared
    Edges cfg s.1.pilot s.2 :=
  Program.run_invariant_guarded (p := watched cfg)
    (I := fun s : State × List Entry => Edges cfg s.1.pilot s.2)
    (fun op now _ hop hs => start_edges op now hop hs)
    (fun t now _ ht hs => resume_edges t now ht hs) run hrun
    ⟨fun _ hpwm => absurd hpwm Bool.false_ne_true, fun _ => rfl,
      fun h => absurd h Bool.false_ne_true⟩

/-- **No power-on edge is lost.** For every interleaving of the calls of all threads in which no
step is a `missedEdge` or an `unseenWithdrawal`: after a run of the state machine that leaves the
control pilot in C with `pwm_running`, where the last request was true and undisturbed since, the
BSP was last told that power is allowed. -/
theorem power_on_edge_not_lost (cfg : Config) (keepCableLocked : Bool)
    (run : List (Action Operation Int)) (n : Nat) (now : Int) (cpStateOpt : Option RawCPState)
    (hrun : Along (watched cfg).step (keepsEdges cfg) (unwatched cfg keepCableLocked .Disabled)
      (run ++ [.proceed n now]))
    (hfeed : (Lib.Machine.run (watched cfg).step (unwatched cfg keepCableLocked .Disabled)
      run).pending[n]? = some (.feed cpStateOpt)) :
    let s := (Lib.Machine.run (watched cfg).step (unwatched cfg keepCableLocked .Disabled)
      (run ++ [.proceed n now])).shared
    s.1.lastCpState = .C → s.1.pwmRunning = true → undisturbed s.2 = true →
      lastPassed s.1.log = some true := by
  intro s hC hpwm hc
  have he : Edges cfg s.1.pilot s.2 := edges_run cfg keepCableLocked _ hrun
  have hs : s.1 = (stateMachine cfg cpStateOpt now (Lib.Machine.run (watched cfg).step
      (unwatched cfg keepCableLocked .Disabled) run).shared.1).s := by
    simp only [s, run_concat, Program.step, hfeed]
    rfl
  -- a run remembers what it leaves
  have hl : s.1.lastPwmRunning = s.1.pwmRunning := by rw [hs]; rfl
  have hlas : s.1.lastPowerOnAllowed = s.1.powerOnAllowed := by rw [hs]; rfl
  have ha : s.1.powerOnAllowed = true := he.stands hc (.inr (.inr hC))
  exact he.settled (.inl hC) (hl.trans hpwm) (hlas.trans ha) ha

/-- PWM and permission come in the last of the states `before`, then the EV goes to C. -/
def thenC (before : List BspEvent) : List (Action Operation Int) :=
  pilotStates before ++ calls (.setPwm (1 / 2)) 4 ++
    calls (.allowPowerOn true .FullPowerCharging) 3 ++
    calls (.bspEvent .C) 0

/-- The EV is plugged in first. -/
theorem power_on_edge_kept :
    lastPassed (Lib.Machine.run (watched socket).step (unwatched socket false .Disabled)
      (thenC [.A, .B] ++ [.proceed 0 0])).shared.1.log = some true :=
  power_on_edge_not_lost socket false (thenC [.A, .B]) 0 0 (some .C) (by decide +kernel)
    (by decide +kernel) (by decide +kernel) (by decide +kernel) (by decide +kernel)

/-- The EV is plugged in and asks for power in one step. -/
theorem power_on_edge_lost :
    let c := Lib.Machine.run (watched socket).step (unwatched socket false .Disabled) (thenC [.A])
    let s := ((watched socket).step c (.proceed 0 0)).shared
    c.pending[0]? = some (.feed (some .C)) ∧ s.1.lastCpState = .C ∧ s.1.pwmRunning = true ∧
      undisturbed s.2 = true ∧ lastPassed s.1.log = some false := by
  decide +kernel

end EverestCore.Evse.Iec

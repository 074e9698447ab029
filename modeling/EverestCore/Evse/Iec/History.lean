import EverestCore.Evse.Iec.PowerPermission

/-!
# The history of a state machine

What the state machine promises about events and edges is a statement about the order in which
things happened, which the members do not keep. `watched cfg` runs the same threads as `iec cfg`
and writes down, beside the shared state, each request of `allow_power_on` and each run of
`state_machine`, under the mutex that orders them.

Results:
* `start_pilot`, `resume_pilot`: what each section that is not a run does to them.
* `caseC_pilot`, `caseA_pilot`, …: what a run does to them in each state.
* `history_erase`: the history is a history of `iec cfg`.
-/

namespace EverestCore.Evse.Iec

open EverestCore.Lib.Machine Lib.Machine State

/-! ## Entries -/

/-- What the history keeps. -/
inductive Entry
  -- `allow_power_on(value)`
  | request (value : Bool)
  -- `state_machine`, its mutex protected section
  | run (last cp : RawCPState) (expired : Bool) (events : List CPEvent)
  deriving DecidableEq

def noteStart (op : Operation) (_now : Int) (_s : State) (h : List Entry) : List Entry :=
  match op with
  | .allowPowerOn value _ => .request value :: h
  | _ => h

def noteResume (cfg : Config) (t : Task) (now : Int) (s : State) (h : List Entry) : List Entry :=
  match t with
  | .feed cpStateOpt =>
    .run s.lastCpState (cpStateOpt.getD s.lastCpState) (s.timeoutStateC1.reached now)
      (stateMachine cfg cpStateOpt now s).events :: h
  | _ => h

/-- The threads of `iec cfg` with their history, newest first. -/
def watched (cfg : Config) : Program (State × List Entry) Operation Int Task :=
  (iec cfg).watch noteStart (noteResume cfg)

/-- A state machine after `setup`, in the control pilot state `cp`, without a history. -/
def unwatched (cfg : Config) (keepCableLocked : Bool) (cp : RawCPState) :
    Threads (State × List Entry) Task :=
  ⟨({ init cfg keepCableLocked with lastCpState := cp }, []), []⟩

variable (cfg : Config)

theorem history_erase (keepCableLocked : Bool) (run : List (Action Operation Int)) :
    Program.erase (Lib.Machine.run (watched cfg).step (unwatched cfg keepCableLocked .Disabled) run)
      = Lib.Machine.run (iec cfg).step (initial cfg keepCableLocked) run :=
  Program.run_watch noteStart (noteResume cfg) run _

/-! ## The members of the control pilot -/

/-- The BSP is told that power is allowed. -/
def Pilot.forward (p : Pilot) : Pilot := { p with passed := some true }

/-- The BSP is told that power is not allowed, and the permission is forgotten. -/
def Pilot.withdraw (p : Pilot) : Pilot := { p with powerOnAllowed := false, passed := some false }

/-- The EV is taken for plugged in. -/
def Pilot.plugIn (p : Pilot) : Pilot := { p with carPluggedIn := true }

/-- What the first section of a call does to the members of the control pilot. -/
theorem start_pilot (op : Operation) (now : Int) (s : State) :
    (start cfg op now s).1.pilot = match op with
      | .allowPowerOn value _ =>
        { s.pilot with
          powerOnAllowed := value, passed := if value then s.pilot.passed else some false }
      | .setPwm value => { s.pilot with pwmRunning := !decide (1 ≤ value) && !decide (value ≤ 0) }
      | .setCpStateX1 | .setCpStateE | .setCpStateF => { s.pilot with pwmRunning := false }
      | _ => s.pilot :=
  (start_views cfg now s op).1

theorem resume_pilot (t : Task) (now : Int) (s : State) :
    (resume cfg t now s).1.pilot = match t with
      | .feed cpStateOpt => (stateMachine cfg cpStateOpt now s).s.pilot
      | _ => s.pilot := by
  cases t with
  | feed => rfl
  | _ =>
    refine (resume_views cfg now s _ ?_).2.1
    rintro cp ⟨⟩

/-! ## The switch -/

namespace Frame

variable (cfg : Config) (now : Int) (f : Frame)

/-- State C takes the EV for plugged in: it comes from a state without a car. -/
def plugsInC (last : RawCPState) (carPluggedIn : Bool) : Prop :=
  last = .A ∨ last = .Disabled ∨ (carPluggedIn = false ∧ last = .F)

instance (last : RawCPState) (carPluggedIn : Bool) : Decidable (plugsInC last carPluggedIn) :=
  inferInstanceAs (Decidable (_ ∨ _))

/-- State B does so after state E, too. -/
def plugsInB (last : RawCPState) (carPluggedIn : Bool) : Prop :=
  last = .A ∨ last = .Disabled ∨ (carPluggedIn = false ∧ (last = .F ∨ last = .E))

instance (last : RawCPState) (carPluggedIn : Bool) : Decidable (plugsInB last carPluggedIn) :=
  inferInstanceAs (Decidable (_ ∨ _))

theorem push_s (e : CPEvent) : (f.push e).s = f.s := rfl

theorem member_s (g : State → State) : (f.member g).s = g f.s := rfl

theorem controlC1_s (c : TimerControl) : (f.controlC1 c).s = f.s := rfl

theorem onlyIf_s (b : Prop) [Decidable b] (g : Frame → Frame) :
    (onlyIf b g f).s = if b then (g f).s else f.s := by
  unfold onlyIf
  split_ifs <;> rfl

theorem caseDisabled_pilot :
    f.caseDisabled.s.pilot = if f.s.lastCpState = .Disabled then f.s.pilot
      else { f.s.pilot.withdraw with pwmRunning := false } := by
  simp only [caseDisabled, resetToX1, onlyIf, ne_eq, ite_not]
  split_ifs <;> rfl

theorem caseA_pilot :
    f.caseA.s.pilot = if f.s.lastCpState = .A then f.s.pilot
      else { f.s.pilot.withdraw with pwmRunning := false, carPluggedIn := false } := by
  simp only [caseA, resetToX1, onlyIf]
  split_ifs <;> first
    | rfl
    | simp_all

theorem caseB_pilot :
    (f.caseB cfg).s.pilot = if f.s.lastCpState = .C ∨ f.s.lastCpState = .D then f.s.pilot.withdraw
      else if plugsInB f.s.lastCpState f.s.carPluggedIn then f.s.pilot.plugIn
      else f.s.pilot := by
  have hl : ((if cfg.lockConnectorInStateB then connectorLock
      else connectorUnlock) f.s).pilot = f.s.pilot := by
    split_ifs <;> rfl
  simp only [caseB, onlyIf_s, push_s, member_s, controlC1_s]
  generalize (if cfg.lockConnectorInStateB then connectorLock
    else connectorUnlock) f.s = t at hl ⊢
  have hla : f.s.lastCpState = t.lastCpState := congrArg Pilot.lastCpState hl.symm
  have hcar : f.s.carPluggedIn = t.carPluggedIn := congrArg Pilot.carPluggedIn hl.symm
  rw [← hl, hla, hcar]
  by_cases hst : t.lastCpState = .C ∨ t.lastCpState = .D
  · have hp : ¬ plugsInB t.lastCpState t.carPluggedIn := by
      rcases hst with h | h <;> simp [plugsInB, h]
    simp only [if_pos hst, ite_self]
    exact congrArg pilot (if_neg hp)
  · simp only [if_neg hst, ite_self]
    by_cases hp : plugsInB t.lastCpState t.carPluggedIn
    · rw [if_pos hp]
      exact congrArg pilot (if_pos hp)
    · rw [if_neg hp]
      exact congrArg pilot (if_neg hp)

theorem caseA_again (h : f.s.lastCpState = .A) : f.caseA.s.pilot = f.s.pilot := by
  rw [caseA_pilot, if_pos h]

theorem caseB_again (h : f.s.lastCpState = .B) : (f.caseB cfg).s.pilot = f.s.pilot := by
  rw [caseB_pilot, if_neg (by simp [h]), if_neg (by simp [plugsInB, h])]

theorem requestPower_s :
    f.requestPower.s = if plugsInC f.s.lastCpState f.s.carPluggedIn then
      { f.s with carPluggedIn := true, evSimplifiedMode := true } else f.s := by
  simp only [requestPower, onlyIf, ← plugsInC.eq_def]
  split_ifs <;> rfl

theorem pwmChange_s :
    f.pwmChange.s = if f.s.pwmRunning ∧ f.s.lastPwmRunning = false ∧ f.s.powerOnAllowed then
        f.s.callAllowPowerOnBsp true
      else f.s := by
  simp only [pwmChange, onlyIf]
  split_ifs <;> simp_all [controlC1, member]

theorem c1Timeout_s :
    (f.c1Timeout now).s =
      if f.s.timeoutStateC1.reached now then f.s.callAllowPowerOnBsp false else f.s := by
  simp only [c1Timeout, onlyIf]
  split_ifs <;> rfl

theorem powerInC2_s :
    f.powerInC2.s = if f.s.pwmRunning ∧ f.s.powerOnAllowed ∧
          (f.s.lastPowerOnAllowed = false ∨ f.s.lastCpState = .B) then
        f.s.callAllowPowerOnBsp true
      else f.s := by
  simp only [powerInC2, onlyIf]
  split_ifs <;> simp_all [member, push]

/-- One of the three edges forwards the permission, an expired timer withdraws it. -/
theorem edges_pilot :
    ((f.pwmChange.c1Timeout now).powerInC2).s.pilot = let p := f.s.pilot
      if f.s.timeoutStateC1.reached now then p.withdraw
      else if p.pwmRunning ∧ p.powerOnAllowed ∧ (p.lastPwmRunning = false ∨
          p.lastPowerOnAllowed = false ∨ p.lastCpState = .B) then p.forward
      else p := by
  have ht : f.pwmChange.s.timeoutStateC1 = f.s.timeoutStateC1 := by
    rw [pwmChange_s]
    split_ifs <;> rfl
  simp only [powerInC2_s, c1Timeout_s, ht, apply_ite pilot]
  by_cases hexp : f.s.timeoutStateC1.reached now
  · -- the permission is gone, so the edge of C2 forwards nothing
    simp only [if_pos hexp]
    rw [if_neg (fun h => Bool.false_ne_true h.2.1), pwmChange_s]
    split_ifs <;> rfl
  · simp only [if_neg hexp, pwmChange_s]
    by_cases he : f.s.pwmRunning ∧ f.s.lastPwmRunning = false ∧ f.s.powerOnAllowed
    · rw [if_pos (show f.s.pilot.pwmRunning ∧ _ from ⟨he.1, he.2.2, .inl he.2.1⟩)]
      split_ifs <;> rfl
    · simp only [if_neg he]
      refine if_congr ⟨fun h => ⟨h.1, h.2.1, .inr h.2.2⟩, fun h => ⟨h.1, h.2.1, ?_⟩⟩ rfl rfl
      exact h.2.2.resolve_left fun hl => he ⟨h.1, hl, h.2.1⟩

/-- State C: the EV may be taken for plugged in before the edges are looked at. -/
theorem caseC_pilot :
    (f.caseC now).s.pilot =
      let p := if plugsInC f.s.lastCpState f.s.carPluggedIn then f.s.pilot.plugIn else f.s.pilot
      if f.s.timeoutStateC1.reached now then p.withdraw
      else if p.pwmRunning ∧ p.powerOnAllowed ∧ (p.lastPwmRunning = false ∨
          p.lastPowerOnAllowed = false ∨ p.lastCpState = .B) then p.forward
      else p := by
  set g := (f.member connectorLock).requestPower with hg
  have hp : g.s.pilot = if plugsInC f.s.lastCpState f.s.carPluggedIn then f.s.pilot.plugIn
      else f.s.pilot := by
    rw [hg, requestPower_s]
    split_ifs with h h' h'
    · rfl
    · exact absurd h h'
    · exact absurd h' h
    · rfl
  have ht : g.s.timeoutStateC1 = f.s.timeoutStateC1 := by
    rw [hg, requestPower_s]
    split_ifs <;> rfl
  have hca : f.caseC now = ((g.pwmChange).c1Timeout now).powerInC2 := rfl
  rw [hca, edges_pilot, hp, ht]

theorem caseD_pilot (h : cfg.hasVentilation = false) :
    (f.caseD cfg now).s.pilot = f.s.pilot.withdraw := by
  simp only [caseD, h]
  rfl

theorem caseD_eq (h : cfg.hasVentilation) :
    f.caseD cfg now = (f.member connectorLock).caseC now := by
  simp only [caseD, h, if_true]

theorem onlyIf_pilot (b : Prop) [Decidable b] {g : Frame → Frame} {f : Frame}
    (h : (g f).s.pilot = f.s.pilot) : (onlyIf b g f).s.pilot = f.s.pilot :=
  onlyIf_frame (p := fun f : Frame => f.s.pilot) b h

theorem caseE_pilot :
    f.caseE.s.pilot = if f.s.lastCpState = .E then f.s.pilot
      else { f.s.pilot.withdraw with pwmRunning := false } := by
  -- the lock and the events are no part of the pilot
  have hu : (onlyIf (f.s.stateETriggeredThroughHandle = false) (member connectorUnlock)
      (f.member ({ · with stateETriggeredThroughHandle := false }))).s.pilot = f.s.pilot :=
    onlyIf_pilot _ rfl
  unfold caseE
  by_cases hl : f.s.lastCpState = .E
  · rw [if_pos hl, onlyIf_neg (not_not_intro hl)]
    exact hu
  · rw [if_neg hl, onlyIf_pos hl, ← hu]
    refine (onlyIf_pilot _ ?_).trans ((onlyIf_pilot _ ?_).trans rfl)
    · exact onlyIf_pilot _ rfl
    · exact onlyIf_pilot _ rfl

theorem caseF_pilot :
    (f.caseF now).s.pilot = if f.s.lastCpState = .F then f.s.pilot.withdraw
      else { f.s.pilot.withdraw with pwmRunning := false } := by
  simp only [caseF, onlyIf, ne_eq, ite_not]
  split_ifs <;> rfl

theorem switch_pilot {cp : RawCPState} (h : SupportsPower cfg cp) :
    (f.switch cfg now cp).s.pilot = (f.caseC now).s.pilot := by
  rcases h with rfl | ⟨rfl, hv⟩
  · rfl
  · have hl : (f.member connectorLock).s.pilot = f.s.pilot := rfl
    simp only [switch, caseD_eq cfg now f hv, caseC_pilot, hl]
    rfl

end Frame

/-- The end of a run. -/
def Pilot.remember (cp : RawCPState) (p : Pilot) : Pilot :=
  { p with
    lastCpState := cp
    lastPwmRunning := p.pwmRunning
    lastPowerOnAllowed := p.powerOnAllowed }

/-- The members after a run are those after the switch, remembered. -/
theorem stateMachine_pilot (cpStateOpt : Option RawCPState) (now : Int) (s : State) :
    let cp := cpStateOpt.getD s.lastCpState
    (stateMachine cfg cpStateOpt now s).s.pilot =
      (Frame.switch cfg now cp (entered cp s)).s.pilot.remember cp := by
  intro cp
  calc (stateMachine cfg cpStateOpt now s).s.pilot
      = (Frame.switch cfg now cp (entered cp s)).s.checkConnectorLock.pilot.remember cp := rfl
    _ = (Frame.switch cfg now cp (entered cp s)).s.pilot.remember cp := by
      rw [(checkConnectorLock_pilot _).1]

end EverestCore.Evse.Iec

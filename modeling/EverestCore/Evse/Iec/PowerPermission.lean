import EverestCore.Evse.Iec.Sections

/-!
# Power is allowed in the states C2 and D2 only

The permission to close the contactors is what the BSP was last told by `allow_power_on`. It is
given from two places of the switch and withdrawn from many, so the argument is about the calls
that a piece of code adds to the log: `Passes s s'` says that each of them is sound, and
`Withdraws s s'` that the permission is gone.

Results:
* **`power_allowed_in_c2_d2_only`**: for every interleaving of the calls of all threads.
-/

namespace EverestCore.Evse.Iec

open EverestCore.Lib.Machine Lib.Machine

/-! ## The calls of `allow_power_on` -/

/-- The control pilot states in which the EV may draw power. -/
def SupportsPower (cfg : Config) (cp : RawCPState) : Prop :=
  cp = .C ∨ (cp = .D ∧ cfg.hasVentilation = true)

/-- The permission is given with PWM only, and when `Charger` allowed it. -/
def PowerCall.Sound (c : PowerCall) : Prop :=
  c.value = true → c.pwmRunning = true ∧ c.powerOnAllowed = true

/-- The last permission was given in a state in which the machine still is, and soundly. -/
structure PowerGuarded (cfg : Config) (s : State) : Prop where
  last : lastPassed s.log = some true → SupportsPower cfg s.lastCpState
  sound : ∀ c ∈ powerCalls s.log, c.Sound

/-- All calls made between `s` and `s'` are sound. -/
def Passes (s s' : State) : Prop :=
  ∃ new, powerCalls s'.log = new ++ powerCalls s.log ∧ ∀ c ∈ new, c.Sound

/-- Between `s` and `s'` the permission was withdrawn, or it cannot have been given before. -/
def Withdraws (s s' : State) : Prop :=
  (∃ c, powerCalls s'.log = c :: powerCalls s.log ∧ c.value = false) ∨
    (powerCalls s'.log = powerCalls s.log ∧ s.lastCpState ≠ .C ∧ s.lastCpState ≠ .D)

section Rules

variable {cfg : Config} {s s' s'' : State}

theorem Passes.of_eq (h : powerCalls s'.log = powerCalls s.log) : Passes s s' := ⟨[], h, by simp⟩

theorem Passes.call {c : PowerCall} (h : powerCalls s'.log = c :: powerCalls s.log)
    (hc : c.Sound) : Passes s s' :=
  ⟨[c], h, by simpa using hc⟩

theorem Passes.trans (h : Passes s s') (h' : Passes s' s'') : Passes s s'' := by
  obtain ⟨new, hnew, hs⟩ := h
  obtain ⟨new', hnew', hs'⟩ := h'
  refine ⟨new' ++ new, by rw [hnew', hnew, List.append_assoc], fun c hc => ?_⟩
  rcases List.mem_append.mp hc with hc | hc
  · exact hs' c hc
  · exact hs c hc

theorem PowerCall.Sound.of_false {c : PowerCall} (h : c.value = false) : c.Sound :=
  fun h' => absurd h' (by simp [h])

theorem PowerGuarded.sound_of_passes (hs : PowerGuarded cfg s) (h : Passes s s') :
    ∀ c ∈ powerCalls s'.log, c.Sound := by
  obtain ⟨new, hnew, hso⟩ := h
  intro c hc
  rw [hnew] at hc
  rcases List.mem_append.mp hc with hc | hc
  · exact hso c hc
  · exact hs.sound c hc

/-- No call was made, and the machine is still in the same state. -/
theorem PowerGuarded.of_eq (hs : PowerGuarded cfg s) (hcp : s'.lastCpState = s.lastCpState)
    (hlog : powerCalls s'.log = powerCalls s.log) : PowerGuarded cfg s' := by
  refine ⟨fun h => ?_, hs.sound_of_passes (.of_eq hlog)⟩
  rw [hcp]
  exact hs.last (by rwa [lastPassed, ← hlog])

/-- Once the permission is withdrawn the machine may be in any state. -/
theorem PowerGuarded.of_withdraws (hs : PowerGuarded cfg s) (h : Withdraws s s') :
    PowerGuarded cfg s' := by
  rcases h with ⟨c, hlog, hc⟩ | ⟨hlog, hC, hD⟩
  · refine ⟨fun h => ?_, hs.sound_of_passes (.call hlog (.of_false hc))⟩
    simp [lastPassed, hlog, hc] at h
  · refine ⟨fun h => ?_, hs.sound_of_passes (.of_eq hlog)⟩
    rcases hs.last (by rwa [lastPassed, ← hlog]) with h | ⟨h, _⟩
    · exact absurd h hC
    · exact absurd h hD

end Rules

/-! ## The switch -/

namespace Frame

variable (cfg : Config) (now : Int) (f : Frame)

theorem caseDisabled_withdraws : Withdraws f.s f.caseDisabled.s := by
  simp only [caseDisabled, resetToX1, onlyIf]
  split_ifs with h
  · exact .inl ⟨_, rfl, rfl⟩
  · exact .inl ⟨_, rfl, rfl⟩
  · exact .inr ⟨rfl, by simp_all⟩

theorem caseA_withdraws : Withdraws f.s f.caseA.s := by
  simp only [caseA, resetToX1, onlyIf]
  split_ifs with h
  all_goals first
    | exact .inl ⟨_, rfl, rfl⟩
    | exact .inr ⟨rfl, by simp_all⟩

theorem caseB_withdraws : Withdraws f.s (f.caseB cfg).s := by
  simp only [caseB, onlyIf]
  split_ifs with h
  all_goals first
    | exact .inl ⟨_, rfl, rfl⟩
    | exact .inr ⟨rfl, by simp_all⟩

theorem caseE_withdraws : Withdraws f.s f.caseE.s := by
  simp only [caseE, resetToX1, onlyIf]
  split_ifs with h
  all_goals first
    | exact .inl ⟨_, rfl, rfl⟩
    | exact .inr ⟨rfl, by simp_all⟩

theorem caseF_withdraws : Withdraws f.s (f.caseF now).s := by
  simp only [caseF, onlyIf]
  split_ifs with h
  all_goals exact .inl ⟨_, rfl, rfl⟩

theorem caseD_withdraws (h : cfg.hasVentilation = false) : Withdraws f.s (f.caseD cfg now).s := by
  simp only [caseD, h]
  exact .inl ⟨_, rfl, rfl⟩

theorem requestPower_passes : Passes f.s f.requestPower.s := by
  simp only [requestPower, onlyIf]
  split_ifs <;> exact .of_eq rfl

theorem pwmChange_passes : Passes f.s f.pwmChange.s := by
  simp only [pwmChange, onlyIf]
  split_ifs with _ hon hall hon hall
  all_goals first
    | exact .of_eq rfl
    | exact .call rfl fun _ => ⟨hon.1, hall⟩

theorem c1Timeout_passes : Passes f.s (f.c1Timeout now).s := by
  simp only [c1Timeout, onlyIf]
  split_ifs
  · exact .call rfl (.of_false rfl)
  · exact .of_eq rfl

theorem powerInC2_passes : Passes f.s f.powerInC2.s := by
  simp only [powerInC2, onlyIf]
  split_ifs with hpwm hon
  all_goals first
    | exact .of_eq rfl
    | exact .call rfl fun _ => ⟨hpwm, hon.1⟩

/-- State C gives the permission only with PWM and when it was asked to. -/
theorem caseC_passes : Passes f.s (f.caseC now).s := by
  have hl : Passes f.s (f.member State.connectorLock).s := .of_eq rfl
  exact hl.trans <| (requestPower_passes _).trans <| (pwmChange_passes _).trans <|
    (c1Timeout_passes now _).trans (powerInC2_passes _)

/-- Every state in which the EV may not draw power withdraws the permission. -/
theorem switch_withdraws (cp : RawCPState) (h : ¬ SupportsPower cfg cp) :
    Withdraws f.s (f.switch cfg now cp).s := by
  cases cp with
  | Disabled => exact caseDisabled_withdraws f
  | A => exact caseA_withdraws f
  | B => exact caseB_withdraws cfg f
  | C => exact absurd (.inl rfl) h
  | D => exact caseD_withdraws cfg now f (by simpa [SupportsPower] using h)
  | E => exact caseE_withdraws f
  | F => exact caseF_withdraws now f

theorem switch_passes (cp : RawCPState) (h : SupportsPower cfg cp) :
    Passes f.s (f.switch cfg now cp).s := by
  rcases h with rfl | ⟨rfl, hv⟩
  · exact caseC_passes now f
  · simp only [switch, caseD, hv, if_true]
    exact (Passes.of_eq rfl).trans (caseC_passes now _)

end Frame

variable {cfg : Config} {s : State}

theorem stateMachine_guarded (hs : PowerGuarded cfg s)
    (cpStateOpt : Option RawCPState) (now : Int) :
    PowerGuarded cfg (stateMachine cfg cpStateOpt now s).s := by
  set cp := cpStateOpt.getD s.lastCpState with hcp
  have hlog : ∀ t : State, powerCalls (t.checkConnectorLock.remember cp).log = powerCalls t.log :=
    fun t => (checkConnectorLock_pilot t).2
  by_cases h : SupportsPower cfg cp
  · refine ⟨fun _ => h, ?_⟩
    simp only [stateMachine, Frame.member, ← hcp, hlog]
    exact hs.sound_of_passes (Frame.switch_passes cfg now _ cp h)
  · refine hs.of_withdraws ?_
    simp only [Withdraws, stateMachine, Frame.member, ← hcp, hlog]
    exact Frame.switch_withdraws cfg now _ cp h

/-! ## The sections of all calls -/

theorem start_guarded (hs : PowerGuarded cfg s) (op : Operation)
    (now : Int) : PowerGuarded cfg (start cfg op now s).1 := by
  obtain ⟨hp, hca⟩ := start_views cfg now s op
  have hcp : (start cfg op now s).1.lastCpState = s.lastCpState := by
    refine (congrArg Pilot.lastCpState hp).trans ?_
    cases op <;> rfl
  cases op with
  | allowPowerOn value =>
    cases value with
    | false => exact hs.of_withdraws (.inl ⟨_, hca, rfl⟩)
    | true => exact hs.of_eq hcp hca
  | _ => exact hs.of_eq hcp hca

theorem resume_guarded (hs : PowerGuarded cfg s) (t : Task)
    (now : Int) : PowerGuarded cfg (resume cfg t now s).1 := by
  by_cases hf : ∃ cp, t = .feed cp
  · obtain ⟨cp, rfl⟩ := hf
    exact stateMachine_guarded hs cp now
  · obtain ⟨-, hp, hca⟩ := resume_views cfg now s t (not_exists.mp hf)
    exact hs.of_eq (congrArg Pilot.lastCpState hp) hca

theorem keeps_powerGuarded (cfg : Config) : (iec cfg).Keeps (PowerGuarded cfg) where
  start op now _ hs := start_guarded hs op now
  resume t now _ hs := resume_guarded hs t now

/-- **Power is allowed in C2 and D2 only.** For every interleaving of the calls of all threads:
while the last value passed to the BSP's `allow_power_on` is true, the last processed control
pilot state is C, or D with ventilation, and every call that passed true was made while
`pwm_running` and `power_on_allowed` held. -/
theorem power_allowed_in_c2_d2_only (cfg : Config) (keepCableLocked : Bool)
    (run : List (Action Operation Int)) :
    let s := (Lib.Machine.run (iec cfg).step (initial cfg keepCableLocked) run).shared
    (lastPassed s.log = some true →
        s.lastCpState = .C ∨ (s.lastCpState = .D ∧ cfg.hasVentilation = true)) ∧
      ∀ call ∈ powerCalls s.log, call.value = true →
        call.pwmRunning = true ∧ call.powerOnAllowed = true := by
  have hi : PowerGuarded cfg (initial cfg keepCableLocked).shared :=
    ⟨fun h => by simp [initial, State.init, lastPassed, powerCalls] at h,
      fun c hc => by simp [initial, State.init, powerCalls] at hc⟩
  have hrun := Program.run_invariant (keeps_powerGuarded cfg) run hi
  exact ⟨hrun.last, hrun.sound⟩

end EverestCore.Evse.Iec

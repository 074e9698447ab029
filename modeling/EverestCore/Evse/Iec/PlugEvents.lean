import EverestCore.Evse.Iec.History

/-!
# Plug-in events bracket the other events

`Charger` reads `CarPluggedIn` and `CarUnplugged` as the ends of a session and the other events as
part of it. Here the events of each run are replayed in the order of the queue: `plugged` is what
the events and the state Disabled say, `bracketed` that every event came at its time.

The switch itself decides from the last control pilot state and from `car_plugged_in`, and
misses the plug-in or reports an end without a beginning when a state that is no plug-in (E, F, or
D without ventilation) comes between. `away` reads off the control pilot states alone whether the
EV was away since, and `announced` says that a run which ends or follows such a time does so in a
way that the switch recognises.

Results:
* **`plug_events_bracket`**: for every interleaving of the calls of all threads whose runs are
  announced. `unplugged_without_plug` is a run that is not.
-/

namespace EverestCore.Evse.Iec

open EverestCore.Lib.Machine Iec.Frame CPEvent State

/-! ## Replaying the events -/

/-- Whether the EV is plugged in after an event. -/
def CPEvent.plugs (plugged : Bool) : CPEvent → Bool
  | .CarPluggedIn => true
  | .CarUnplugged => false
  | _ => plugged

/-- Whether an event may come now. -/
def CPEvent.due (plugged : Bool) : CPEvent → Bool
  | .CarPluggedIn => !plugged
  | .CarUnplugged | .CarRequestedPower | .CarRequestedStopPower => plugged
  | .BCDtoEF | .BCDtoE | .EFtoBCD => plugged
  -- the relais confirm at any time
  | .PowerOn | .PowerOff => true

/-- Every event of a run comes at its time. -/
def inTurn : Bool → List CPEvent → Bool
  | _, [] => true
  | plugged, e :: es => e.due plugged && inTurn (e.plugs plugged) es

/-- What the events of all runs and the state Disabled say. -/
def plugged : List Entry → Bool
  | [] => false
  | .request _ :: h => plugged h
  | .run _ cp _ events :: h =>
    if cp = .Disabled then false else events.foldl plugs (plugged h)

/-- Every event of all runs came at its time. -/
def bracketed : List Entry → Bool
  | [] => true
  | .request _ :: h => bracketed h
  | .run _ _ _ events :: h => inTurn (plugged h) events && bracketed h

/-- Since the last state A or Disabled there was no state of a plugged-in EV: neither B nor C, nor
D where it is supported. -/
def away (cfg : Config) : List Entry → Bool
  | [] => true
  | .request _ :: h => away cfg h
  | .run _ cp _ _ :: h =>
    match cp with
    | .Disabled | .A => true
    | .B | .C => false
    | .D => !cfg.hasVentilation && away cfg h
    | .E | .F => away cfg h

/-- A run while the EV is away: it stays away, or its plug-in is one that the switch sees. -/
def announced (cfg : Config) (cp : RawCPState) (s : State) : Bool :=
  match cp with
  | .Disabled => true
  | .A => decide (s.lastCpState = .A ∨ s.lastCpState = .Disabled)
  | .B => decide (plugsInB s.lastCpState s.carPluggedIn)
  | .C => decide (plugsInC s.lastCpState s.carPluggedIn)
  | .D => !cfg.hasVentilation || decide (plugsInC s.lastCpState s.carPluggedIn)
  | .E | .F => decide (¬ (s.lastCpState = .B ∨ s.lastCpState = .C ∨ s.lastCpState = .D))

/-- A run that finds the EV away is not announced. -/
def unannounced (cfg : Config) (t : Task) (s : State × List Entry) : Bool :=
  match t with
  | .feed cpStateOpt => away cfg s.2 && !announced cfg (cpStateOpt.getD s.1.lastCpState) s.1
  | _ => false

/-- Every run that finds the EV away is announced. -/
def keepsBrackets (cfg : Config) :
    Threads (State × List Entry) Task → Action Operation Int → Prop :=
  Program.Guard (fun _ _ _ => True) fun t _ s => unannounced cfg t s = false

instance (cfg : Config) (c : Threads (State × List Entry) Task) (a : Action Operation Int) :
    Decidable (keepsBrackets cfg c a) :=
  inferInstanceAs (Decidable (Program.Guard _ _ c a))

/-! ## The events of the switch -/

namespace Frame

variable (cfg : Config) (now : Int) (f : Frame)

@[simp] theorem push_events (e : CPEvent) : (f.push e).events = f.events ++ [e] := rfl

@[simp] theorem member_events (g : State → State) : (f.member g).events = f.events := rfl

@[simp] theorem controlC1_events (c : TimerControl) : (f.controlC1 c).events = f.events := rfl

@[simp] theorem onlyIf_events (b : Prop) [Decidable b] (g : Frame → Frame) :
    (Lib.Machine.onlyIf b g f).events = if b then (g f).events else f.events := by
  unfold Lib.Machine.onlyIf
  split_ifs <;> rfl

@[simp] theorem resetToX1_events : f.resetToX1.events = f.events := by
  simp [resetToX1]

theorem caseDisabled_events : f.caseDisabled.events = f.events := by
  simp [caseDisabled]

theorem caseA_events :
    f.caseA.events = f.events ++
      if f.s.lastCpState ≠ .A ∧ f.s.lastCpState ≠ .Disabled then [.CarUnplugged] else [] := by
  simp only [caseA, onlyIf_events, push_events, controlC1_events, member_events, resetToX1_events,
    ite_self]
  split_ifs <;> simp

theorem caseB_events :
    (f.caseB cfg).events = f.events ++
      ((if f.s.lastCpState = .C ∨ f.s.lastCpState = .D then [.CarRequestedStopPower] else []) ++
        ((if plugsInB f.s.lastCpState f.s.carPluggedIn then [.CarPluggedIn] else []) ++
          if f.s.lastCpState = .E ∨ f.s.lastCpState = .F then [.EFtoBCD] else [])) := by
  have hcar : (if f.s.lastCpState = .C ∨ f.s.lastCpState = .D then
      callAllowPowerOnBsp false ((if cfg.lockConnectorInStateB then connectorLock
        else connectorUnlock) f.s)
      else (if cfg.lockConnectorInStateB then connectorLock
        else connectorUnlock) f.s).carPluggedIn = f.s.carPluggedIn := by
    split_ifs <;> rfl
  simp only [caseB, onlyIf_events, push_events, member_events, controlC1_events, onlyIf_s, push_s,
    member_s, controlC1_s, hcar, ← plugsInB.eq_def]
  split_ifs <;> simp

/-- The events of the states C and D; in C2, simplified mode makes up for the request of power. -/
def powerEvents (s : State) (late : Bool) : List CPEvent :=
  (if plugsInC s.lastCpState s.carPluggedIn then [.CarPluggedIn]
    else if s.lastCpState = .B then [.CarRequestedPower] else []) ++
  if late then [.CarRequestedPower] else []

theorem requestPower_events : f.requestPower.events = f.events ++ powerEvents f.s false := by
  simp only [requestPower, ← plugsInC.eq_def, powerEvents]
  split_ifs <;> simp_all

theorem powerInC2_events : ∃ late, f.powerInC2.events = f.events ++
    if late = true then [.CarRequestedPower] else [] := by
  simp only [powerInC2, onlyIf_events, member_events, push_events, ite_self]
  split_ifs
  · exact ⟨true, rfl⟩
  · exact ⟨false, by simp⟩
  · exact ⟨false, by simp⟩

theorem pwmChange_events : f.pwmChange.events = f.events := by
  simp [pwmChange]

theorem c1Timeout_events : (f.c1Timeout now).events = f.events := by
  simp [c1Timeout]

theorem caseC_events : ∃ late, (f.caseC now).events = f.events ++ powerEvents f.s late := by
  have hb : ((f.member connectorLock).requestPower.pwmChange.c1Timeout now).events =
      f.events ++ powerEvents f.s false := by
    rw [c1Timeout_events, pwmChange_events, requestPower_events]
    rfl
  obtain ⟨late, hl⟩ :=
    powerInC2_events ((f.member connectorLock).requestPower.pwmChange.c1Timeout now)
  refine ⟨late, hl.trans ?_⟩
  rw [hb]
  simp [powerEvents]

theorem caseD_events : ∃ late, (f.caseD cfg now).events =
    f.events ++ if cfg.hasVentilation then powerEvents f.s late else [] := by
  cases hv : cfg.hasVentilation with
  | true =>
    rw [caseD_eq cfg now f hv]
    exact caseC_events now (f.member connectorLock)
  | false => exact ⟨false, by simp [caseD, hv]⟩

theorem caseE_events :
    ∃ byEv, f.caseE.events = f.events ++
      if f.s.lastCpState = .B ∨ f.s.lastCpState = .C ∨ f.s.lastCpState = .D then
        .BCDtoEF :: if byEv = true then [.BCDtoE] else []
      else [] := by
  refine ⟨!f.s.stateETriggeredThroughHandle, ?_⟩
  simp only [caseE, onlyIf_events, push_events, member_events, controlC1_events,
    resetToX1_events, ite_self]
  split_ifs <;> simp_all

theorem caseF_events :
    (f.caseF now).events = f.events ++
      if f.s.lastCpState = .B ∨ f.s.lastCpState = .C ∨ f.s.lastCpState = .D then [.BCDtoEF]
      else [] := by
  simp only [caseF, Lib.Machine.onlyIf]
  split_ifs <;> simp [member, push, controlC1]

end Frame

/-- The events of a run: `late` and `byEv` are what else it depends on. -/
def switchEvents (cfg : Config) (s : State) (late byEv : Bool) : RawCPState → List CPEvent
  | .Disabled => []
  | .A => if s.lastCpState ≠ .A ∧ s.lastCpState ≠ .Disabled then [.CarUnplugged] else []
  | .B =>
    (if s.lastCpState = .C ∨ s.lastCpState = .D then [.CarRequestedStopPower] else []) ++
      ((if plugsInB s.lastCpState s.carPluggedIn then [.CarPluggedIn] else []) ++
        if s.lastCpState = .E ∨ s.lastCpState = .F then [.EFtoBCD] else [])
  | .C => powerEvents s late
  | .D => if cfg.hasVentilation then powerEvents s late else []
  | .E =>
    if s.lastCpState = .B ∨ s.lastCpState = .C ∨ s.lastCpState = .D then
      .BCDtoEF :: if byEv then [.BCDtoE] else []
    else []
  | .F =>
    if s.lastCpState = .B ∨ s.lastCpState = .C ∨ s.lastCpState = .D then [.BCDtoEF] else []

theorem switch_events (cfg : Config) (cp : RawCPState) (now : Int) (s : State) :
    ∃ late byEv, (switch cfg now cp (entered cp s)).events = switchEvents cfg s late byEv cp := by
  cases cp with
  | Disabled => exact ⟨false, false, caseDisabled_events _⟩
  | A => exact ⟨false, false, caseA_events _⟩
  | B => exact ⟨false, false, caseB_events cfg _⟩
  | C =>
    obtain ⟨late, h⟩ := caseC_events now (entered .C s)
    exact ⟨late, false, h⟩
  | D =>
    obtain ⟨late, h⟩ := caseD_events cfg now (entered .D s)
    exact ⟨late, false, h⟩
  | E =>
    obtain ⟨byEv, h⟩ := caseE_events (entered .E s)
    exact ⟨false, byEv, h⟩
  | F => exact ⟨false, false, caseF_events now _⟩

/-! ## One run -/

/-- The events that do not change whether the EV is plugged in. -/
def CPEvent.withinSession (e : CPEvent) : Prop := e ≠ .CarPluggedIn ∧ e ≠ .CarUnplugged

theorem CPEvent.withinSession.due_plugs {e : CPEvent} (h : e.withinSession) :
    e.due true ∧ e.plugs true := by
  obtain ⟨hin, hout⟩ := h
  cases e with
  | CarPluggedIn => exact absurd rfl hin
  | CarUnplugged => exact absurd rfl hout
  | _ => exact ⟨rfl, rfl⟩

/-- With the EV plugged in, they come at their time and leave it plugged in. -/
theorem inTurn_session : ∀ {es : List CPEvent}, (∀ e ∈ es, e.withinSession) →
    inTurn true es ∧ es.foldl plugs true
  | [], _ => ⟨rfl, rfl⟩
  | e :: es, h => by
    obtain ⟨hdue, hp⟩ := (h e (by simp)).due_plugs
    have hr : inTurn true es ∧ es.foldl plugs true :=
      inTurn_session fun e' he' => h e' (by simp [he'])
    simp only [inTurn, List.foldl_cons, hdue, hp, Bool.true_and]
    exact hr

section Run

variable {cfg : Config} {s : State}

/-- A run of an EV that is plugged in: it is unplugged in A, and everywhere else the events are
within the session. -/
theorem switch_events_session (cp : RawCPState) (now : Int)
    (hd : ¬ (s.lastCpState = .A ∨ s.lastCpState = .Disabled)) (hcar : s.carPluggedIn) :
    let events := (switch cfg now cp (entered cp s)).events
    if cp = .A then events = [.CarUnplugged] else ∀ e ∈ events, e.withinSession := by
  have hB : ¬ plugsInB s.lastCpState s.carPluggedIn := by simp_all [plugsInB]
  have hC : ¬ plugsInC s.lastCpState s.carPluggedIn := by simp_all [plugsInC]
  obtain ⟨late, byEv, he⟩ := switch_events cfg cp now s
  rw [he]
  cases cp <;> simp only [switchEvents, powerEvents] <;> split_ifs <;>
    simp_all [withinSession]

instance (cfg : Config) (cp : RawCPState) : Decidable (SupportsPower cfg cp) :=
  inferInstanceAs (Decidable (_ ∨ _))

/-- An announced run of an EV that is away: it is plugged in where the control pilot says so, and
nothing happens everywhere else. -/
theorem switch_events_away (cp : RawCPState) (now : Int) (h : announced cfg cp s) :
    let events := (switch cfg now cp (entered cp s)).events
    if cp = .B ∨ SupportsPower cfg cp then
      ∃ rest, events = .CarPluggedIn :: rest ∧ ∀ e ∈ rest, e.withinSession
    else events = [] := by
  obtain ⟨late, byEv, he⟩ := switch_events cfg cp now s
  have hst : cp = .B → ¬ (s.lastCpState = .C ∨ s.lastCpState = .D) := by
    rintro rfl (hl | hl) <;> simp [announced, plugsInB, hl] at h
  rw [he]
  cases cp <;> simp only [switchEvents, powerEvents] <;> split_ifs <;>
    simp_all [withinSession, announced, SupportsPower]

theorem run_carPluggedIn {cpStateOpt : Option RawCPState} (now : Int)
    (hA : cpStateOpt.getD s.lastCpState ≠ .A) (hcar : s.carPluggedIn) :
    (stateMachine cfg cpStateOpt now s).s.carPluggedIn := by
  change (stateMachine cfg cpStateOpt now s).s.pilot.carPluggedIn
  rw [stateMachine_pilot]
  generalize cpStateOpt.getD s.lastCpState = cp at hA
  have hp : SupportsPower cfg cp → (switch cfg now cp (entered cp s)).s.pilot.carPluggedIn := by
    intro hs
    rw [switch_pilot cfg now _ hs, caseC_pilot, entered_s]
    dsimp only
    split_ifs <;> first
      | rfl
      | exact hcar
  cases cp with
  | Disabled =>
    rw [switch, caseDisabled_pilot, entered_s]
    split_ifs <;> exact hcar
  | A => exact absurd rfl hA
  | B =>
    rw [switch, caseB_pilot, entered_s]
    split_ifs <;> first
      | rfl
      | exact hcar
  | C => exact hp (.inl rfl)
  | D =>
    cases hv : cfg.hasVentilation with
    | true => exact hp (.inr ⟨rfl, hv⟩)
    | false =>
      rw [switch, caseD_pilot cfg now _ hv, entered_s]
      exact hcar
  | E =>
    rw [switch, caseE_pilot, entered_s]
    split_ifs <;> exact hcar
  | F =>
    rw [switch, caseF_pilot, entered_s]
    split_ifs <;> exact hcar

theorem run_plugIn {cpStateOpt : Option RawCPState} (now : Int)
    (hann : announced cfg (cpStateOpt.getD s.lastCpState) s)
    (hcp : cpStateOpt.getD s.lastCpState = .B ∨ SupportsPower cfg (cpStateOpt.getD s.lastCpState)) :
    (stateMachine cfg cpStateOpt now s).s.carPluggedIn := by
  change (stateMachine cfg cpStateOpt now s).s.pilot.carPluggedIn
  rw [stateMachine_pilot]
  generalize cpStateOpt.getD s.lastCpState = cp at hann hcp
  rcases hcp with rfl | hpo
  · have hp : plugsInB s.lastCpState s.carPluggedIn := by simpa [announced] using hann
    have hst : ¬ (s.lastCpState = .C ∨ s.lastCpState = .D) := by
      rintro (hl | hl) <;> simp [plugsInB, hl] at hp
    rw [switch, caseB_pilot, entered_s, if_neg hst, if_pos hp]
    rfl
  · have hp : plugsInC s.lastCpState s.carPluggedIn := by
      rcases hpo with rfl | ⟨rfl, hv⟩
      · simpa [announced] using hann
      · simpa [announced, hv] using hann
    rw [switch_pilot cfg now _ hpo, caseC_pilot, entered_s, if_pos hp]
    dsimp only
    split_ifs <;> rfl

end Run

/-! ## Whole runs -/

/-- What announced runs keep. -/
structure Brackets (cfg : Config) (s : State) (h : List Entry) : Prop where
  sound : bracketed h = true
  -- the events say what the control pilot says
  here : plugged h = !away cfg h
  -- `car_plugged_in` may be stale when it is set, never when it is not
  known : plugged h = true → s.carPluggedIn = true
  door : s.lastCpState = .A ∨ s.lastCpState = .Disabled → away cfg h = true

theorem away_run (cfg : Config) (last cp : RawCPState) (expired : Bool) (events : List CPEvent)
    (h : List Entry) :
    away cfg (.run last cp expired events :: h) = if cp = .A ∨ cp = .Disabled then true
      else if cp = .B ∨ SupportsPower cfg cp then false
      else away cfg h := by
  cases cp <;> simp [away, SupportsPower]

variable {cfg : Config} {s : State}

theorem Brackets.run {s' : State} {h : List Entry} {last cp : RawCPState}
    {expired : Bool} {events : List CPEvent} (hs : Brackets cfg s h) (hl : s'.lastCpState = cp)
    (htu : inTurn (plugged h) events)
    (hh : plugged (.run last cp expired events :: h) = !away cfg (.run last cp expired events :: h))
    (hk : plugged (.run last cp expired events :: h) → s'.carPluggedIn) :
    Brackets cfg s' (.run last cp expired events :: h) := by
  refine ⟨by simp [bracketed, htu, hs.sound], hh, hk, fun hd => ?_⟩
  rw [away_run, if_pos (hl ▸ hd)]

theorem run_brackets {h : List Entry} (cpStateOpt : Option RawCPState)
    (now : Int) (hs : Brackets cfg s h) (hf : unannounced cfg (.feed cpStateOpt) (s, h) = false) :
    Brackets cfg (stateMachine cfg cpStateOpt now s).s
      (noteResume cfg (.feed cpStateOpt) now s h) := by
  have hno : noteResume cfg (.feed cpStateOpt) now s h =
      .run s.lastCpState (cpStateOpt.getD s.lastCpState) (s.timeoutStateC1.reached now)
        (switch cfg now (cpStateOpt.getD s.lastCpState)
          (entered (cpStateOpt.getD s.lastCpState) s)).events :: h := rfl
  set cp := cpStateOpt.getD s.lastCpState with hcp
  rw [hno]
  cases hp : plugged h with
  | true =>
    have hh : away cfg h = false := by simpa [hp] using hs.here
    have hcar : s.carPluggedIn := hs.known hp
    have hdo : ¬ (s.lastCpState = .A ∨ s.lastCpState = .Disabled) := fun hd => by
      simp [hs.door hd] at hh
    have he := @switch_events_session cfg s cp now hdo hcar
    generalize (switch cfg now cp (entered cp s)).events = events at he
    by_cases hA : cp = .A
    · rw [if_pos hA] at he
      subst he
      refine hs.run rfl ?_ ?_ ?_ <;>
        simp [inTurn, due, plugs, plugged, away_run, hp, hA]
    · rw [if_neg hA] at he
      obtain ⟨htu, hst⟩ := inTurn_session he
      refine hs.run rfl (hp ▸ htu) ?_ fun _ => run_carPluggedIn now hA hcar
      rw [away_run, hh]
      by_cases hD : cp = .Disabled <;> simp [plugged, hD, hA, hp, hst]
  | false =>
    have hh : away cfg h := by simpa [hp] using hs.here
    have hann : announced cfg cp s := by
      simpa [unannounced, hh, ← hcp] using hf
    have he := switch_events_away cp now hann
    generalize (switch cfg now cp (entered cp s)).events = events at he
    by_cases hin : cp = .B ∨ SupportsPower cfg cp
    · rw [if_pos hin] at he
      obtain ⟨rest, rfl, hr⟩ := he
      obtain ⟨htu, hst⟩ := inTurn_session hr
      have hout : cp ≠ .A ∧ cp ≠ .Disabled := by
        constructor <;> rintro h' <;> simp [h', SupportsPower] at hin
      refine hs.run rfl ?_ ?_ fun _ => run_plugIn now hann hin
      · simp [inTurn, due, plugs, hp, htu]
      · simp [plugged, away_run, plugs, hout, hin, hst]
    · rw [if_neg hin] at he
      subst he
      refine hs.run rfl ?_ ?_ ?_ <;> simp [inTurn, plugged, away_run, hp, hh, hin]

theorem start_brackets {h : List Entry} (op : Operation) (now : Int) (hs : Brackets cfg s h) :
    Brackets cfg (start cfg op now s).1 (noteStart op now s h) := by
  -- no call writes the members, and a request is no run
  have hpi := start_pilot cfg op now s
  have hcar : (start cfg op now s).1.carPluggedIn = s.carPluggedIn := by
    change (start cfg op now s).1.pilot.carPluggedIn = _
    rw [hpi]
    cases op <;> rfl
  have hl : (start cfg op now s).1.lastCpState = s.lastCpState := by
    change (start cfg op now s).1.pilot.lastCpState = _
    rw [hpi]
    cases op <;> rfl
  have hno : bracketed (noteStart op now s h) = bracketed h ∧
      plugged (noteStart op now s h) = plugged h ∧
      away cfg (noteStart op now s h) = away cfg h := by
    cases op <;> exact ⟨rfl, rfl, rfl⟩
  obtain ⟨hb, hp, ha⟩ := hno
  refine ⟨hb.trans hs.sound, by rw [hp, ha, hs.here], ?_, ?_⟩
  · rw [hp, hcar]
    exact hs.known
  · rw [hl, ha]
    exact hs.door

theorem resume_brackets {h : List Entry} (t : Task) (now : Int)
    (ht : unannounced cfg t (s, h) = false) (hs : Brackets cfg s h) :
    Brackets cfg (resume cfg t now s).1 (noteResume cfg t now s h) := by
  have ho : (resume cfg t now s).1.pilot = s.pilot → noteResume cfg t now s h = h →
      Brackets cfg (resume cfg t now s).1 (noteResume cfg t now s h) := by
    intro hp hno
    have hcar : (resume cfg t now s).1.carPluggedIn = s.carPluggedIn :=
      congrArg Pilot.carPluggedIn hp
    have hl : (resume cfg t now s).1.lastCpState = s.lastCpState :=
      congrArg Pilot.lastCpState hp
    rw [hno]
    exact ⟨hs.sound, hs.here, hcar ▸ hs.known, hl ▸ hs.door⟩
  cases t with
  | feed cpStateOpt => exact run_brackets cpStateOpt now hs ht
  | _ => exact ho (resume_pilot cfg _ now s) rfl

/-- **Plug-in events bracket everything else.** For every interleaving of the calls of all threads
that starts in the control pilot state Disabled or A, or in any other: where every run that finds
the EV away is announced, every event of every run comes at its time. -/
theorem plug_events_bracket (cfg : Config) (keepCableLocked : Bool) (cp : RawCPState)
    (run : List (Action Operation Int))
    (hrun : Along (watched cfg).step (keepsBrackets cfg) (unwatched cfg keepCableLocked cp) run) :
    bracketed (Lib.Machine.run (watched cfg).step (unwatched cfg keepCableLocked cp)
      run).shared.2 = true := by
  have hi : Brackets cfg (unwatched cfg keepCableLocked cp).shared.1 [] :=
    ⟨rfl, rfl, fun h => absurd h Bool.false_ne_true, fun _ => rfl⟩
  have hinv : Brackets cfg _ _ := Program.run_invariant_guarded (p := watched cfg)
    (I := fun s : State × List Entry => Brackets cfg s.1 s.2)
    (fun op now _ _ hs => start_brackets op now hs)
    (fun t now _ ht hs => resume_brackets t now ht hs) run hrun hi
  exact hinv.sound

/-- A session that stops in E and is resumed. -/
theorem plug_events_bracket_session :
    bracketed (Lib.Machine.run (watched socket).step (unwatched socket false .Disabled)
      (pilotStates [.A, .B, .C, .E, .B, .A])).shared.2 = true :=
  plug_events_bracket socket false .Disabled (pilotStates [.A, .B, .C, .E, .B, .A])
    (by decide +kernel)

/-- A diode fault without an EV: state E between two states A. -/
theorem unplugged_without_plug :
    (Lib.Machine.run (watched socket).step (unwatched socket false .A)
        (pilotStates [.E, .A])).shared.2 =
      [.run .E .A false [.CarUnplugged], .run .A .E false []] ∧
    bracketed (Lib.Machine.run (watched socket).step (unwatched socket false .A)
      (pilotStates [.E, .A])).shared.2 = false := by
  decide +kernel

end EverestCore.Evse.Iec

import EverestCore.Slac.MatchWaiting

/-!
# The deadlines of `CM_SLAC_MATCH.REQ`

A session waits for its `CM_SLAC_MATCH.REQ` no longer than `TT_EVSE_match_session`, and no longer
than `TT_match_sequence` once a `CM_VALIDATE` of its EV is complete. Both deadlines are acted upon
by `update` only: `is_slac_match_req` does not ask for them, as `start_atten_in_time` does for its
own. A request that is delivered after a deadline and before the next `update` is confirmed. While
the link comes up, nothing acts upon the deadlines, and a repeated request is confirmed again.

History variables beside the module, which the code does not read, remember the time of the last
command, since when a session waits and when the validation of its EV was complete.

Results:
* **`Watched.confirmed_on_time`**: in every run without such a request, every step is `OnTime`.
* `Watched.late_request_confirmed`: a run with a late request.
-/

namespace EverestCore.Slac

open Lib.Machine Controller Session List

/-! ## The history variables -/

/-- What was added to the history. -/
def fresh (before after : Context) : List Trace :=
  after.log.take (after.log.length - before.log.length)

/-- The session that a `CM_SLAC_MATCH.REQ` is for. -/
def Command.matchReq : Command → Option (MacAddress × RunId)
  | .event (.message ⟨_, .slacMatchReq req⟩) => some (req.pevMac, req.runId)
  | _ => none

/-- The module, the time of its last command, since when each session waits and when its EV was
validated. The times are kept while the link of the session comes up. -/
structure Watched where
  controller : Controller
  now : Int := 0
  entered : Times := fun _ => none
  validated : Times := fun _ => none

namespace Watched

def machine (w : Watched) : Machine := w.controller.machine

/-- One command of the module. -/
def step (w : Watched) (i : Reading × Reading × Command) : Watched :=
  let c := w.controller.step i
  let now := i.1.env.now
  { controller := c
    now := now
    entered := fun p =>
      if c.machine.waits p then if w.machine.waits p then w.entered p else some now
      else if c.machine.linking p then w.entered p else none
    validated := fun p =>
      if c.machine.waits p then
        if (fresh w.machine.ctx c.machine.ctx).any (Trace.validated p.1) then some now
        else if w.machine.waits p then w.validated p else none
      else if c.machine.linking p then w.validated p else none }

/-- The deadlines of the session `p` are not over. -/
def inTime (w : Watched) (now : Int) (p : MacAddress × RunId) : Bool :=
  (w.entered p).any (fun t => now ≤ t + ttEvseMatchSessionMs * 1000) &&
    (w.validated p).all fun t => now ≤ t + ttMatchSequenceMs * 1000

/-- Every session that is confirmed in the step was asked in time. -/
def OnTime (w : Watched) (i : Reading × Reading × Command) : Prop :=
  ∀ p ∈ (fresh w.machine.ctx (w.step i).machine.ctx).filterMap Trace.matchCnf,
    w.inTime i.1.env.now p = true

/-- The step is no `CM_SLAC_MATCH.REQ` of a session with a deadline that has passed since the last
command, nor one after a deadline while the link comes up. -/
def Prompt (w : Watched) (i : Reading × Reading × Command) : Prop :=
  ∀ p ∈ i.2.2.matchReq, w.controller.active = true →
    w.inTime w.now p = true ∨ w.machine.linking p = true → w.inTime i.1.env.now p = true

/-! ## The deadlines -/

/-- The invariant of the module with its history variables. -/
structure Inv (w : Watched) : Prop where
  sound : w.controller.Sound
  agrees : w.machine.Agrees w.entered w.validated
  punctual : w.controller.active = true → w.machine.Punctual w.now

theorem fresh_of_append {before after : Context} {new : List Trace}
    (h : after.log = new ++ before.log) : fresh before after = new := by
  rw [fresh, h, length_append, Nat.add_sub_cancel, take_left]

variable {w : Watched}

/-- **The timers agree with the history variables after every step.** -/
theorem step_inv (h : w.Inv) (i : Reading × Reading × Command) : (w.step i).Inv := by
  obtain ⟨⟨new, hlog, -, ha⟩, hp⟩ := step_goes h.agrees h.sound i
  refine ⟨step_sound i h.sound, ?_, hp⟩
  intro sub hsub s hs timer window hst
  have hw : (w.step i).machine.waits s.identity := by
    rw [Machine.waits, hsub]
    exact Matching.waits_of_mem hs hst
  have hf : fresh w.machine.ctx (w.step i).machine.ctx = new := fresh_of_append hlog
  obtain ⟨t, ht, hti, hwin⟩ := ha sub hsub s hs timer window hst
  refine ⟨t, ?_, hti, ?_⟩
  · show (if (w.step i).machine.waits s.identity then _ else _) = _
    rw [if_pos hw]
    exact ht
  · have hval : (w.step i).validated s.identity =
        arms i.1.env.now new (since w.machine.waits none w.validated) s.identity := by
      show (if (w.step i).machine.waits s.identity then
        if (fresh w.machine.ctx (w.step i).machine.ctx).any _ then _ else _ else _) = _
      rw [if_pos hw, hf]
      rfl
    rw [hval]
    exact hwin

theorem not_expired_arm {t ms now : Int} :
    (Timer.arm t ms).expired now = false ↔ now ≤ t + ms * 1000 := by
  rw [Timer.expired, decide_eq_false_iff_not, Int.not_lt]
  rfl

theorem inTime_of_agrees {s : Session} (h : s.Agrees w.entered w.validated)
    {msg : Message} (hans : s.answers msg) {now : Int} (hl : s.late now = false) :
    w.inTime now s.identity := by
  obtain ⟨data, state⟩ := s
  cases state with
  | waitSlacMatch timer window =>
    obtain ⟨t, ht, hti, hwin⟩ := h timer window rfl
    obtain ⟨hexp, hexp'⟩ := Bool.or_eq_false_iff.1 hl
    refine Bool.and_eq_true_iff.2 ⟨?_, ?_⟩
    · rw [hti] at hexp
      rw [ht]
      exact decide_eq_true (not_expired_arm.1 hexp)
    · rw [Option.all_eq_true]
      intro t' ht'
      rw [hwin, ht'] at hexp'
      exact decide_eq_true (not_expired_arm.1 hexp')
  | _ => simp [answers] at hans

/-- **A step that asks no session too late confirms none too late**: a session that waits has not
missed a deadline at the time of the last command, whose `update` would have ended it. -/
theorem step_onTime (h : w.Inv) {i : Reading × Reading × Command}
    (hi : w.Prompt i) : w.OnTime i := by
  obtain ⟨⟨new, hlog, hcnf, -⟩, -⟩ := step_goes h.agrees h.sound i
  have hf : fresh w.machine.ctx (w.step i).machine.ctx = new := fresh_of_append hlog
  intro p hp
  rw [hf] at hp
  obtain ⟨x, hx, hxp⟩ := mem_filterMap.1 hp
  obtain ⟨ev, hev, hact, src, req, rfl, rfl, ha⟩ := hcnf x hx p hxp
  refine hi _ (by rw [hev]; rfl) hact ?_
  cases hs : w.machine.state with
  | matching sub =>
    rw [show w.controller.machine.state = _ from hs] at ha
    obtain ⟨s, hmem, hans, hid⟩ := ha
    rw [← hid]
    exact .inl (inTime_of_agrees (h.agrees sub hs s hmem) hans (h.punctual hact sub hs s hmem))
  | _ =>
    rw [show w.controller.machine.state = _ from hs] at ha
    exact .inr ha

/-- Before the first `init`. -/
def initial (config : EvseSlacConfig) (evseMac : MacAddress) (env : Env) : Watched where
  controller := Controller.initial config evseMac env

theorem initial_inv (config : EvseSlacConfig) (evseMac : MacAddress) (env : Env) :
    (initial config evseMac env).Inv where
  sound := Controller.initial_sound config evseMac env
  agrees := fun _ hsub => by cases hsub
  punctual := nofun

/-- **Every confirmation is sent in time**, in every run in which no request comes after a deadline
and before the next command, or after a deadline while the link comes up. -/
theorem confirmed_on_time (config : EvseSlacConfig) (evseMac : MacAddress) (env : Env)
    (inputs : List (Reading × Reading × Command))
    (h : Along step Prompt (initial config evseMac env) inputs) :
    Along step OnTime (initial config evseMac env) inputs := by
  refine along_of_invariant (I := Inv) ?_ inputs h (initial_inv config evseMac env)
  exact fun w i hi hinv => ⟨step_onTime hinv hi, step_inv hinv i⟩

/-! ### A late request -/

instance (w : Watched) (i : Reading × Reading × Command) : Decidable (w.Prompt i) :=
  Option.decidableForallMem _

instance (w : Watched) (i : Reading × Reading × Command) : Decidable (w.OnTime i) :=
  List.decidableBAll _ _

/-- The module before it starts, with the MAC address 1. -/
def idle (config : EvseSlacConfig) : Watched := initial config 1 ⟨0, fun _ _ => true, 0, 0⟩

/-- The exchange with the EV 5 up to its response at 1.6 s, and its request `delay` later. -/
def requestAfter (delay : Int) : List (Reading × Reading × Command) :=
  (exchange true).dropLast ++ [command true (1600000 + delay) (.event (.message
      ⟨5, .slacMatchReq { mvfLength := 0x3e, pevMac := 5, evseMac := 1, runId := 7 }⟩))]

/-- The last moment at which the request is in time. It is repeated at once, while the link to the
modem comes up. -/
theorem confirmed_on_time_at_deadline :
    let request := requestAfter 10000000
    let modem := command true 0 (.event (.message ⟨0, .deviceInfo .Qualcomm⟩))
    let inputs := request.insertIdx 1 modem ++ request.drop 11
    let w := idle { linkDoDetect := true }
    (run step w inputs).controller.segment.filterMap Trace.matchCnf = [(5, 7), (5, 7)] ∧
    Along step OnTime w inputs :=
  ⟨by decide +kernel, confirmed_on_time { linkDoDetect := true } 1 _ _ (by decide +kernel)⟩

/-- **A request after the deadline and before the next `update` is confirmed.** -/
theorem late_request_confirmed :
    let w := idle {}
    (run step w (requestAfter 10000001)).controller.segment.filterMap Trace.matchCnf = [(5, 7)] ∧
    ¬ Along step OnTime w (requestAfter 10000001) := by
  decide +kernel

end Watched

end EverestCore.Slac

import EverestCore.McsDataLink.LinkStateMachine

/-!
# The outputs of the MCS data link machine

The owner of the machine only sees its effects. What they add up to, the link reported ready, the
state published last, the timers that run, has to agree with the state of the machine, although they
come from entry, exit and transition actions of two machines. Between the exit of one substate and
the entry of the next the actions are free to publish and to count; `Between` says what they have
arranged so far.

Results:
* **`outputs_consistent`**: in every run the outputs agree with the state, and the error routine is
  requested at most `conn_retry_max` times between two refills of the budget.
-/

namespace EverestCore.McsDataLink

open Lib.Machine Lib.Statechart List Session

/-! ## What the effects add up to -/

/-- The state published last, whether D-LINK_READY is outstanding, the timers that are armed, and
the error routines requested since the budget was refilled; `worst` is the most there ever were. -/
structure View where
  published : Option LinkState := none
  ready : Bool := false
  linkDetect : Bool := false
  retryWait : Bool := false
  routines : Int := 0
  worst : Int := 0

def View.arm (timer : TimerId) (armed : Bool) (v : View) : View :=
  match timer with
  | .linkDetect => { v with linkDetect := armed }
  | .retryWait => { v with retryWait := armed }
  | .syncRepetition => v

def View.on (v : View) : Entry → View
  | .effect (.publishState state) => { v with published := some state }
  | .effect (.publishDlinkReady ready) => { v with ready }
  | .effect .publishRequestErrorRoutine =>
    { v with routines := v.routines + 1, worst := max v.worst (v.routines + 1) }
  | .effect (.publishEvMac _) => v
  | .effect (.startTimer timer _) => v.arm timer true
  | .effect (.stopTimer timer) => v.arm timer false
  | .refilled => { v with routines := 0 }

def view (log : List Entry) : View := log.foldl View.on {}

theorem view_concat (log : List Entry) (entry : Entry) :
    view (log ++ [entry]) = (view log).on entry := by
  rw [view, foldl_append]
  rfl

theorem View.routines_on (v : View) {entry : Entry} (h : entry ≠ .refilled) :
    (v.on entry).routines =
      v.routines + if entry = .effect .publishRequestErrorRoutine then 1 else 0 := by
  cases entry with
  | refilled => exact absurd rfl h
  | effect e =>
    cases e with
    | startTimer timer | stopTimer timer => cases timer <;> exact (Int.add_zero _).symm
    | publishRequestErrorRoutine => rfl
    | _ => exact (Int.add_zero _).symm

theorem View.worst_on (v : View) (entry : Entry) : v.worst ≤ (v.on entry).worst := by
  cases entry with
  | refilled => exact Int.le_refl _
  | effect e =>
    cases e with
    | startTimer timer | stopTimer timer => cases timer <;> exact Int.le_refl _
    | publishRequestErrorRoutine => exact Int.le_max_left _ _
    | _ => exact Int.le_refl _

theorem routines_foldl : ∀ (seg : List Entry) (v : View), .refilled ∉ seg →
    (seg.foldl View.on v).routines =
      v.routines + (seg.count (.effect .publishRequestErrorRoutine) : Nat)
  | [], v, _ => (Int.add_zero _).symm
  | entry :: seg, v, h => by
    rw [foldl_cons, routines_foldl seg _ fun hmem => h (mem_cons_of_mem _ hmem),
      v.routines_on fun heq => h (heq ▸ mem_cons_self), count_cons]
    split
    · rename_i heq
      subst heq
      rw [if_pos (beq_self_eq_true _)]
      omega
    · rename_i hne
      rw [if_neg (by simpa using hne)]
      omega

theorem worst_foldl : ∀ (seg : List Entry) (v : View), v.worst ≤ (seg.foldl View.on v).worst
  | [], _ => Int.le_refl _
  | entry :: seg, v => Int.le_trans (v.worst_on entry) (worst_foldl seg _)

/-- There never are more than the worst. -/
def View.Bounded (v : View) : Prop := 0 ≤ v.routines ∧ v.routines ≤ v.worst

theorem View.Bounded.on {v : View} (h : v.Bounded) (entry : Entry) : (v.on entry).Bounded := by
  obtain ⟨h₀, h₁⟩ := h
  cases entry with
  | refilled => exact ⟨Int.le_refl 0, Int.le_trans h₀ h₁⟩
  | effect e =>
    cases e with
    | startTimer timer | stopTimer timer => cases timer <;> exact ⟨h₀, h₁⟩
    | publishRequestErrorRoutine => exact ⟨by show 0 ≤ v.routines + 1; omega, Int.le_max_right _ _⟩
    | _ => exact ⟨h₀, h₁⟩

theorem bounded_foldl : ∀ (log : List Entry) {v : View}, v.Bounded → (log.foldl View.on v).Bounded
  | [], _, h => h
  | entry :: log, _, h => bounded_foldl log (h.on entry)

/-- Between two refills there are no more requests than the worst. -/
theorem count_le_worst {log before seg after : List Entry} (hlog : log = before ++ seg ++ after)
    (hseg : .refilled ∉ seg) :
    (seg.count (.effect .publishRequestErrorRoutine) : Nat) ≤ (view log).worst := by
  have hb : (view before).Bounded := bounded_foldl before ⟨Int.le_refl 0, Int.le_refl 0⟩
  have hr := routines_foldl seg (view before) hseg
  have hmid := (bounded_foldl seg hb).2
  have hw := worst_foldl after (seg.foldl View.on (view before))
  have hv : view log = after.foldl View.on (seg.foldl View.on (view before)) := by
    rw [hlog, view, foldl_append, foldl_append]
    rfl
  have hpos := hb.1
  rw [hv]
  omega

/-! ## Between the substates -/

/-- D-LINK_READY is outstanding. -/
def InternalState.up : InternalState → Bool
  | .matched | .paused => true
  | _ => false

/-- An attempt is spent on a routine that is still to be requested. -/
def InternalState.owed : InternalState → Int
  | .retryWait => 1
  | _ => 0

/-- After the exit of a substate: `p` is published, D-LINK_READY is outstanding if `up`, no timer is
armed, and `k` attempts are spent on routines still to be requested. -/
structure Between (cfg : LinkConfig) (p : LinkState) (up : Bool) (k : Int) (d : MachineData) :
    Prop where
  config : d.cfg = cfg
  lastState : d.lastState = some p
  published : (view d.log).published = some p
  ready : d.ready = up
  viewReady : (view d.log).ready = up
  linkDetect : (view d.log).linkDetect = false
  retryWait : (view d.log).retryWait = false
  routines : (view d.log).routines + k ≤ d.retries
  retries : d.retries ≤ cfg.connRetryMax
  worst : (view d.log).worst ≤ cfg.connRetryMax

/-- In a substate. -/
structure Inv (cfg : LinkConfig) (s : InternalState) (d : MachineData) : Prop where
  config : d.cfg = cfg
  current : d.current = s
  lastState : d.lastState = some (publishedState s)
  published : (view d.log).published = some (publishedState s)
  ready : d.ready = s.up
  viewReady : (view d.log).ready = s.up
  linkDetect : (view d.log).linkDetect = true ↔ s = .matching
  retryWait : (view d.log).retryWait = true ↔ s = .retryWait
  routines : (view d.log).routines + s.owed ≤ d.retries
  retries : d.retries ≤ cfg.connRetryMax
  worst : (view d.log).worst ≤ cfg.connRetryMax

theorem view_emit (e : Effect) (d : MachineData) :
    view (d.emit e).log = (view d.log).on (.effect e) := view_concat d.log _

section Actions

variable {cfg : LinkConfig} {p : LinkState} {up : Bool} {k : Int} {s : InternalState}
  {d : MachineData}

section

variable (h : Between cfg p up k d)

include h

theorem Between.emit {e : Effect}
    (he : ∀ v : View, v.on (.effect e) = v) : Between cfg p up k (d.emit e) := by
  have hv : view (d.emit e).log = view d.log := (view_emit e d).trans (he _)
  exact ⟨h.config, h.lastState, hv ▸ h.published, h.ready, hv ▸ h.viewReady,
    hv ▸ h.linkDetect, hv ▸ h.retryWait, hv ▸ h.routines, h.retries, hv ▸ h.worst⟩

theorem Between.emitState (value : LinkState) : Between cfg value up k (d.emitState value) := by
  unfold MachineData.emitState
  split
  · rename_i hs
    cases h.lastState.symm.trans hs
    exact h
  · refine ⟨h.config, rfl, ?_, h.ready, ?_, ?_, ?_, ?_, h.retries, ?_⟩
    all_goals rw [view_emit]
    · rfl
    · exact h.viewReady
    · exact h.linkDetect
    · exact h.retryWait
    · exact h.routines
    · exact h.worst

theorem Between.emitDlinkReady : Between cfg p true k d.emitDlinkReady := by
  have hv : view d.emitDlinkReady.log = (view d.log).on (.effect (.publishDlinkReady true)) :=
    view_concat d.log _
  exact ⟨h.config, h.lastState, hv ▸ h.published, rfl, hv ▸ rfl, hv ▸ h.linkDetect,
    hv ▸ h.retryWait, hv ▸ h.routines, h.retries, hv ▸ h.worst⟩

theorem Between.withdrawDlinkReady : Between cfg p false k d.withdrawDlinkReady := by
  unfold MachineData.withdrawDlinkReady
  split
  · rename_i hr
    have hup : up = false := by simpa [h.ready] using hr
    exact hup ▸ h
  · refine ⟨h.config, h.lastState, ?_, rfl, ?_, ?_, ?_, ?_, h.retries, ?_⟩
    all_goals rw [view_emit]
    · exact h.published
    · rfl
    · exact h.linkDetect
    · exact h.retryWait
    · exact h.routines
    · exact h.worst

end

theorem retriesLeft_emitState (value : LinkState) (d : MachineData) :
    (d.emitState value).retriesLeft = d.retriesLeft := by
  unfold MachineData.emitState
  split <;> rfl

theorem retriesLeft_withdrawDlinkReady (d : MachineData) :
    d.withdrawDlinkReady.retriesLeft = d.retriesLeft := by
  unfold MachineData.withdrawDlinkReady
  split <;> rfl

theorem retriesLeft_closeSyncWindow (d : MachineData) :
    d.closeSyncWindow.retriesLeft = d.retriesLeft := by
  unfold MachineData.closeSyncWindow
  split <;> rfl

section

variable (h : Between cfg p up k d)

include h

theorem Between.openSyncWindow : Between cfg p up k d.openSyncWindow := by
  unfold MachineData.openSyncWindow
  split
  · exact h
  · have h' : Between cfg p up k { d with syncWindowArmed := true } := { h with }
    exact h'.emit fun _ => rfl

theorem Between.closeSyncWindow : Between cfg p up k d.closeSyncWindow := by
  unfold MachineData.closeSyncWindow
  split
  · exact h
  · have h' : Between cfg p up k { d with syncWindowArmed := false } := { h with }
    exact h'.emit fun _ => rfl

theorem Between.emitEvMac (mac : String) : Between cfg p up k (d.emitEvMac mac) := by
  unfold MachineData.emitEvMac
  split
  · exact h
  · have h' : Between cfg p up k { d with publishedMac := mac } := { h with }
    exact h'.emit fun _ => rfl

theorem Between.takeRetry (hle : d.retriesLeft) : Between cfg p up (k + 1) d.takeRetry := by
  have hlt : d.retries < cfg.connRetryMax := h.config ▸ of_decide_eq_true hle
  refine { h with routines := ?_, retries := ?_ }
  · show (view d.log).routines + (k + 1) ≤ d.retries + 1
    have hr := h.routines
    omega
  · show d.retries + 1 ≤ cfg.connRetryMax
    omega

theorem Between.refillRetries (hmax : 0 ≤ cfg.connRetryMax) :
    Between cfg p up 0 d.refillRetries := by
  have hv : view d.refillRetries.log = (view d.log).on .refilled := view_concat d.log _
  exact ⟨h.config, h.lastState, hv ▸ h.published, h.ready, hv ▸ h.viewReady,
    hv ▸ h.linkDetect, hv ▸ h.retryWait, hv ▸ Int.le_refl 0, hmax, hv ▸ h.worst⟩

end

theorem Between.requestErrorRoutine (h : Between cfg p up (k + 1) d) (hk : 0 ≤ k) (e : Event) :
    Between cfg p up k (Session.requestErrorRoutine e d) := by
  have hv : view (Session.requestErrorRoutine e d).log =
      (view d.log).on (.effect .publishRequestErrorRoutine) := view_concat d.log _
  have hr := h.routines
  have hret := h.retries
  refine ⟨h.config, h.lastState, hv ▸ h.published, h.ready, hv ▸ h.viewReady,
    hv ▸ h.linkDetect, hv ▸ h.retryWait, ?_, h.retries, ?_⟩
  · rw [hv]
    show (view d.log).routines + 1 + k ≤ d.retries
    omega
  · rw [hv]
    exact Int.max_le.2 ⟨h.worst, by omega⟩

theorem Between.spent (h : Between cfg p up k d) {k' : Int} (hk : k' ≤ k) :
    Between cfg p up k' d := by
  have hr := h.routines
  exact { h with routines := by omega }

/-! ### Exit and entry -/

theorem onExit_between (h : Inv cfg s d) :
    Between cfg (publishedState s) s.up s.owed (onExit s d) := by
  have hl : s ≠ .matching → (view d.log).linkDetect = false :=
    fun hs => Bool.eq_false_iff.2 (mt h.linkDetect.1 hs)
  have hr : s ≠ .retryWait → (view d.log).retryWait = false :=
    fun hs => Bool.eq_false_iff.2 (mt h.retryWait.1 hs)
  cases s with
  | matching =>
    have hv := view_emit (.stopTimer .linkDetect) d
    exact ⟨h.config, h.lastState, hv ▸ h.published, h.ready, hv ▸ h.viewReady, hv ▸ rfl,
      hv ▸ hr nofun, hv ▸ h.routines, h.retries, hv ▸ h.worst⟩
  | retryWait =>
    have hv := view_emit (.stopTimer .retryWait) d
    exact ⟨h.config, h.lastState, hv ▸ h.published, h.ready, hv ▸ h.viewReady,
      hv ▸ hl nofun, hv ▸ rfl, hv ▸ h.routines, h.retries, hv ▸ h.worst⟩
  | unmatched | matched | paused =>
    exact ⟨h.config, h.lastState, h.published, h.ready, h.viewReady, hl nofun, hr nofun,
      h.routines, h.retries, h.worst⟩

theorem retriesLeft_onExit : (onExit s d).retriesLeft = d.retriesLeft := by
  cases s <;> rfl

theorem current_emitState (value : LinkState) (d : MachineData) :
    (d.emitState value).current = d.current := by
  unfold MachineData.emitState
  split <;> rfl

theorem Between.settle (h : Between cfg (publishedState s) s.up s.owed d) (hc : d.current = s)
    (hl : s ≠ .matching) (hr : s ≠ .retryWait) : Inv cfg s d := by
  refine ⟨h.config, hc, h.lastState, h.published, h.ready, h.viewReady, ?_, ?_, h.routines,
    h.retries, h.worst⟩
  · rw [h.linkDetect]
    exact ⟨nofun, fun hs => absurd hs hl⟩
  · rw [h.retryWait]
    exact ⟨nofun, fun hs => absurd hs hr⟩

theorem onEntry_unmatched (h : Between cfg p false 0 d) :
    Inv cfg .unmatched (onEntry .unmatched d) := by
  have h' : Between cfg p false 0 { d with current := .unmatched }.forgetEvMac := { h with }
  exact Between.settle (h'.emitState .unmatched) (current_emitState _ _) nofun nofun

theorem onEntry_matched (h : Between cfg p up 0 d) : Inv cfg .matched (onEntry .matched d) := by
  have h' : Between cfg p up 0 { d with current := .matched } := { h with }
  exact Between.settle (h'.emitState .matched).emitDlinkReady (current_emitState _ _) nofun nofun

theorem onEntry_paused (h : Between cfg .matched true 0 d) :
    Inv cfg .paused (onEntry .paused d) := by
  have h' : Between cfg .matched true 0 { d with current := .paused } := { h with }
  exact Between.settle h' rfl nofun nofun

theorem Between.start (h : Between cfg (publishedState s) s.up s.owed d) (hc : d.current = s)
    {timer : TimerId} (timeoutMs : Int)
    (ht : (s = .matching ∧ timer = .linkDetect) ∨ (s = .retryWait ∧ timer = .retryWait)) :
    Inv cfg s (d.startTimer timer timeoutMs) := by
  have hv := view_emit (.startTimer timer timeoutMs) d
  have ho : ((view d.log).on (.effect (.startTimer timer timeoutMs))).published =
        (view d.log).published ∧
      ((view d.log).on (.effect (.startTimer timer timeoutMs))).ready = (view d.log).ready ∧
      ((view d.log).on (.effect (.startTimer timer timeoutMs))).routines = (view d.log).routines ∧
      ((view d.log).on (.effect (.startTimer timer timeoutMs))).worst = (view d.log).worst := by
    cases timer <;> exact ⟨rfl, rfl, rfl, rfl⟩
  obtain ⟨hpub, hre, hr, hw⟩ := ho
  unfold MachineData.startTimer
  refine ⟨h.config, hc, h.lastState, ?_, h.ready, ?_, ?_, ?_, ?_, h.retries, ?_⟩
  all_goals rw [hv]
  · exact hpub.trans h.published
  · exact hre.trans h.viewReady
  · rcases ht with ⟨rfl, rfl⟩ | ⟨rfl, rfl⟩
    · exact ⟨fun _ => rfl, fun _ => rfl⟩
    · refine ⟨fun hon => ?_, nofun⟩
      exact absurd (h.linkDetect.symm.trans hon) nofun
  · rcases ht with ⟨rfl, rfl⟩ | ⟨rfl, rfl⟩
    · refine ⟨fun hon => ?_, nofun⟩
      exact absurd (h.retryWait.symm.trans hon) nofun
    · exact ⟨fun _ => rfl, fun _ => rfl⟩
  · rw [hr]
    exact h.routines
  · rw [hw]
    exact h.worst

theorem onEntry_matching (h : Between cfg p false 0 d) :
    Inv cfg .matching (onEntry .matching d) := by
  have h' : Between cfg p false 0 { d with current := .matching }.forgetEvMac := { h with }
  have hc : ({ d with current := .matching }.forgetEvMac.emitState .matching).current =
      .matching := current_emitState _ _
  exact Between.start (h'.emitState .matching) hc _ (.inl ⟨rfl, rfl⟩)

theorem onEntry_retryWait (h : Between cfg p false 1 d) :
    Inv cfg .retryWait (onEntry .retryWait d) := by
  have h' : Between cfg p false 1 { d with current := .retryWait }.forgetEvMac := { h with }
  have hc : ({ d with current := .retryWait }.forgetEvMac.emitState .unmatched).current =
      .retryWait := current_emitState _ _
  exact Between.start (h'.emitState .unmatched) hc _ (.inr ⟨rfl, rfl⟩)

end Actions

/-! ## The tables -/

section Tables

variable {cfg : LinkConfig}

/-- A row that can be taken keeps the invariant. -/
def RowKeeps (cfg : LinkConfig) (row : Row InternalState Event MachineData) : Prop :=
  ∀ s d e, Chart.enabled row (s, d) e = true → Inv cfg s d →
    Inv cfg (link.take row e (s, d)).1 (link.take row e (s, d)).2

theorem rowKeeps_inner {source target : InternalState} {event : Kind} {action : Act} {guard : Guard}
    (h : ∀ (e : Event) (d d' : MachineData), guard e d → d'.retriesLeft = d.retriesLeft →
      Between cfg (publishedState source) source.up source.owed d' →
      Inv cfg target (onEntry target (action e d'))) :
    RowKeeps cfg (row source event (some target) action guard) := by
  intro s d e he hinv
  simp only [Chart.enabled, row, Option.all_some, Bool.and_eq_true, decide_eq_true_eq]
    at he
  obtain ⟨⟨rfl, -⟩, hg⟩ := he
  exact h e d _ hg retriesLeft_onExit (onExit_between hinv)

theorem rowKeeps_outer {target : InternalState} {event : Kind} {action : Act} {guard : Guard}
    (h : ∀ (s : InternalState) (e : Event) (d d' : MachineData), guard e d →
      d'.retriesLeft = d.retriesLeft → Between cfg (publishedState s) s.up s.owed d' →
      Inv cfg target (onEntry target (action e d'))) :
    RowKeeps cfg (Link.row event (some target) action guard) := by
  intro s d e he hinv
  simp only [Chart.enabled, Link.row, Bool.and_eq_true] at he
  exact h s e d _ he.2 retriesLeft_onExit (onExit_between hinv)

theorem Inv.emitEvMac {s : InternalState} {d : MachineData} (h : Inv cfg s d) (mac : String) :
    Inv cfg s (d.emitEvMac mac) := by
  unfold MachineData.emitEvMac
  split
  · exact h
  · have hv : view ({ d with publishedMac := mac }.emit (.publishEvMac mac)).log = view d.log :=
      view_emit _ _
    exact ⟨h.config, h.current, h.lastState, hv ▸ h.published, h.ready, hv ▸ h.viewReady,
      hv ▸ h.linkDetect, hv ▸ h.retryWait, hv ▸ h.routines, h.retries, hv ▸ h.worst⟩

theorem restartMatching_keeps {d d' : MachineData} (hle : d.retriesLeft)
    (hs : d'.retriesLeft = d.retriesLeft)
    (h : Between cfg (publishedState .matched) InternalState.matched.up InternalState.matched.owed
      d') (e : Event) : Inv cfg .matching (onEntry .matching (restartMatching e d')) := by
  have hle' : (d'.withdrawDlinkReady.emitState .unmatched).retriesLeft := by
    rw [retriesLeft_emitState, retriesLeft_withdrawDlinkReady, hs, hle]
  have h' := (h.withdrawDlinkReady.emitState .unmatched).takeRetry hle'
  exact onEntry_matching (h'.spent (by decide))

theorem session_keeps (hmax : 0 ≤ cfg.connRetryMax) :
    ∀ row ∈ transitionTable, RowKeeps cfg row := by
  intro row hrow
  simp only [transitionTable, mem_cons, not_mem_nil, or_false] at hrow
  rcases hrow with rfl | rfl | rfl | rfl | rfl | rfl | rfl | rfl | rfl | rfl | rfl | rfl | rfl |
    rfl | rfl | rfl | rfl | rfl | rfl
  · exact rowKeeps_inner fun e d d' _ _ h => onEntry_matched (h.refillRetries hmax)
  · exact rowKeeps_inner fun e d d' _ _ h =>
      onEntry_matching (h.refillRetries hmax).openSyncWindow
  · exact rowKeeps_inner fun e d d' _ _ h => onEntry_matched h
  · refine rowKeeps_inner fun e d d' hg hs h => ?_
    have hle : d.retriesLeft := by
      cases e with
      | linkDetectTimeout mayRepeat => exact (Bool.and_eq_true_iff.1 hg).2
      | _ => cases hg
    exact onEntry_matching ((h.takeRetry (hs.trans hle)).spent (by decide))
  · refine rowKeeps_inner fun e d d' hg hs h => ?_
    have hle : d.retriesLeft := by
      cases e with
      | linkDetectTimeout mayRepeat => exact (Bool.and_eq_true_iff.1 hg).2
      | _ => cases hg
    exact onEntry_retryWait (h.takeRetry (hs.trans hle))
  · exact rowKeeps_inner fun e d d' _ _ h => onEntry_unmatched h
  · exact rowKeeps_inner fun e d d' hg hs h => restartMatching_keeps hg hs h e
  · exact rowKeeps_inner fun e d d' _ _ h => onEntry_unmatched h.withdrawDlinkReady
  · exact rowKeeps_inner fun e d d' hg hs h => restartMatching_keeps hg hs h e
  · exact rowKeeps_inner fun e d d' _ _ h => onEntry_unmatched h.withdrawDlinkReady
  · exact rowKeeps_inner fun e d d' _ _ h => onEntry_paused h
  · intro s d e _ h
    cases e with
    | neighborReachable mac => exact h.emitEvMac mac
    | _ => exact h
  · exact rowKeeps_inner fun e d d' _ _ h => onEntry_matched h
  · refine rowKeeps_inner fun e d d' _ _ h => ?_
    cases e with
    | neighborReachable mac => exact onEntry_matched (h.emitEvMac mac)
    | _ => exact onEntry_matched h
  · exact rowKeeps_inner fun e d d' _ _ h =>
      onEntry_matched (Between.requestErrorRoutine h (Int.le_refl 0) e)
  · exact rowKeeps_inner fun e d d' _ _ h =>
      onEntry_matching (Between.requestErrorRoutine h (Int.le_refl 0) e)
  · exact rowKeeps_inner fun e d d' _ _ h => onEntry_matched (h.spent (by decide))
  · exact rowKeeps_inner fun e d d' _ _ h =>
      onEntry_matching (h.spent (by decide)).openSyncWindow
  · exact fun s d e _ h => h

theorem owed_nonneg (s : InternalState) : 0 ≤ s.owed := by
  cases s <;> decide

section

variable (hmax : 0 ≤ cfg.connRetryMax)

include hmax

theorem endConnection_keeps {p : LinkState} {up : Bool} {k : Int}
    {d : MachineData} (h : Between cfg p up k d) (e : Event) :
    Inv cfg .unmatched (onEntry .unmatched (Link.endConnection e d)) := by
  have h' : Between cfg p up k { d with routineResetPending := false } := { h with }
  exact onEntry_unmatched (h'.closeSyncWindow.withdrawDlinkReady.refillRetries hmax)

theorem link_keeps : ∀ row ∈ Link.transitionTable, RowKeeps cfg row := by
  intro row hrow
  simp only [Link.transitionTable, mem_cons, not_mem_nil, or_false] at hrow
  rcases hrow with rfl | rfl | rfl | rfl | rfl | rfl
  · exact fun s d e _ h => { h with }
  · exact rowKeeps_outer fun s e d d' _ _ h => endConnection_keeps hmax h e
  · exact rowKeeps_outer fun s e d d' _ _ h => endConnection_keeps hmax h e
  · exact rowKeeps_outer fun s e d d' _ _ h => endConnection_keeps hmax h e
  · refine rowKeeps_outer fun s e d d' hg hs h => ?_
    have hle : d'.closeSyncWindow.withdrawDlinkReady.retriesLeft := by
      rw [retriesLeft_withdrawDlinkReady, retriesLeft_closeSyncWindow, hs]
      exact hg
    have h' := h.closeSyncWindow.withdrawDlinkReady.takeRetry hle
    have how := owed_nonneg s
    exact onEntry_retryWait (h'.spent (by omega))
  · refine rowKeeps_outer fun s e d d' _ _ h => ?_
    exact onEntry_unmatched (h.closeSyncWindow.withdrawDlinkReady.spent (owed_nonneg s))

theorem process_inv (m : LinkStateMachine) (e : Event)
    (h : Inv cfg m.1 m.2) : Inv cfg (link.process m e).1 (link.process m e).2 := by
  refine Chart.process_keeps (fun s d h => { h with }) (fun row hrow => ?_) m e h
  rcases mem_append.1 hrow with hin | ho
  · exact session_keeps hmax row hin
  · exact link_keeps hmax row ho

theorem start_inv : Inv cfg (start cfg).1 (start cfg).2 :=
  ⟨rfl, rfl, rfl, rfl, rfl, rfl, ⟨nofun, nofun⟩, ⟨nofun, nofun⟩, Int.le_refl 0, hmax, hmax⟩

end

end Tables

/-! ## Runs -/

/-- The outputs agree with the state. -/
structure Consistent (cfg : LinkConfig) (m : LinkStateMachine) : Prop where
  ready : (view m.2.log).ready = true ↔ m.2.current = .matched ∨ m.2.current = .paused
  published : (view m.2.log).published = some (publishedState m.2.current)
  linkDetect : (view m.2.log).linkDetect = true ↔ m.2.current = .matching
  retryWait : (view m.2.log).retryWait = true ↔ m.2.current = .retryWait
  retries : m.2.retries ≤ cfg.connRetryMax
  routines : ∀ before seg after, m.2.log = before ++ seg ++ after → .refilled ∉ seg →
    (seg.count (.effect .publishRequestErrorRoutine) : Nat) ≤ cfg.connRetryMax

theorem InternalState.up_iff (s : InternalState) : s.up ↔ s = .matched ∨ s = .paused := by
  cases s <;> decide

theorem Inv.consistent {cfg : LinkConfig} {m : LinkStateMachine} (h : Inv cfg m.1 m.2) :
    Consistent cfg m := by
  obtain ⟨s, d⟩ := m
  have hc : d.current = s := h.current
  refine ⟨?_, ?_, ?_, ?_, h.retries, ?_⟩
  · rw [hc, h.viewReady]
    exact s.up_iff
  · rw [hc]
    exact h.published
  · rw [hc]
    exact h.linkDetect
  · rw [hc]
    exact h.retryWait
  · intro before seg after hlog hseg
    exact Int.le_trans (count_le_worst hlog hseg) h.worst

/-- **The outputs are consistent**: after the start and any events, the effects agree with the state
of the machine, and no more error routines are requested on a budget than it has attempts. -/
theorem outputs_consistent (cfg : LinkConfig) (hmax : 0 ≤ cfg.connRetryMax) (events : List Event) :
    Consistent cfg (run link.process (start cfg) events) :=
  Inv.consistent (run_invariant (process_inv hmax) events (start_inv hmax))

/-- The link fails twice and is restarted. -/
def restarts : List Event :=
  [.enterBcd false, .carrierUp, .dlinkError, .retryWaitElapsed true, .reset false, .linkLost]

theorem outputs_consistent_restarts : (run link.process (start {}) restarts).1 = .matching ∧
    Consistent {} (run link.process (start {}) restarts) :=
  ⟨by decide, outputs_consistent {} (by decide) restarts⟩

end EverestCore.McsDataLink

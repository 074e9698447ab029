import EverestCore.Slac.NetworkKey

/-!
# Sessions that wait for their `CM_SLAC_MATCH.REQ`

A session starts to wait when its `CM_ATTEN_CHAR.RSP` is accepted, and a complete `CM_VALIDATE` of
its EV arms a second timer, the validation window. All that sessions do in one event happens at the
time that was sampled for it. The two timers can be read off the history: `Session.Agrees` compares
them with the times at which the session started to wait and at which the validation was complete.

Results:
* **`Controller.step_goes`**: after every command of the module the timers agree with the times, and
  only a session that is asked is confirmed.
-/

namespace EverestCore.Slac

open List Matching ValidateHandler Trace

/-! ## Waiting -/

/-- The `CM_VALIDATE.CNF` of a complete validation, with at least one toggle. -/
def Trace.validated (mac : MacAddress) : Trace → Bool
  | .sent mac' (.validateCnf toggleNum result) _ => mac' = mac && toggleNum ≠ 0 && result = 2
  | _ => false

/-- The session `p` waits for its `CM_SLAC_MATCH.REQ`. -/
def Matching.waits (m : Matching) (p : MacAddress × RunId) : Bool :=
  m.sessions.any fun s => s.identity = p && s.awaitingSlacMatch

def Machine.waits (m : Machine) (p : MacAddress × RunId) : Bool :=
  match m.state with
  | .matching sub => sub.waits p
  | _ => false

/-- A time for a session. -/
abbrev Times := MacAddress × RunId → Option Int

/-! ## The time of an event

All that sessions do in one event happens at the time that was sampled for it. -/

section Clock

variable (c : Context)

theorem env_onUpdate (s : Session) : (s.onUpdate c).2.env = c.env := by
  unfold Session.onUpdate
  repeat' split
  all_goals rfl

theorem env_pipe {f : Session → Context → Session × Context}
    (hf : ∀ s c, (f s c).2.env = c.env) : ∀ (ss : List Session) (c : Context),
      (pipe f ss c).2.env = c.env
  | [], _ => rfl
  | s :: ss, c => (env_pipe hf ss (f s c).2).trans (hf s c)

theorem mem_pipe {f : Session → Context → Session × Context}
    (hf : ∀ s c, (f s c).2.env = c.env) {s' : Session} {ss : List Session} :
    ∀ {c : Context}, s' ∈ (pipe f ss c).1 → ∃ s ∈ ss, ∃ c', c'.env = c.env ∧ s' = (f s c').1 := by
  induction ss with
  | nil => exact fun h => absurd h not_mem_nil
  | cons s ss ih =>
    intro c h
    rcases mem_cons.1 h with rfl | h
    · exact ⟨s, mem_cons_self, c, rfl, rfl⟩
    · obtain ⟨t, ht, c', hc', heq⟩ := ih h
      exact ⟨t, mem_cons_of_mem s ht, c', hc'.trans (hf s c), heq⟩

theorem env_tick (v : ValidateHandler) : (v.tick c).2.1.env = c.env := by
  unfold tick
  repeat' split
  all_goals rfl

theorem env_serveValidate (m : Matching) : (m.serveValidate c).2.env = c.env := by
  unfold serveValidate
  split
  · exact env_tick c m.validate
  · rfl

theorem env_matching_onUpdate (m : Matching) : (m.onUpdate c).2.env = c.env :=
  (env_pipe (fun s c => env_onUpdate c s) _ _).trans (env_serveValidate c (m.conclude c))

end Clock

/-! ## Sessions that wait -/

/-- A session that has missed a deadline. -/
def Session.late (now : Int) (s : Session) : Bool :=
  match s.state with
  | .waitSlacMatch t window => t.expired now || window.any (·.expired now)
  | _ => false

/-- The timers of a session that waits agree with the history variables. -/
def Session.Agrees (e v : Times) (s : Session) : Prop :=
  ∀ timer window, s.state = .waitSlacMatch timer window → ∃ t, e s.identity = some t ∧
    timer = Timer.arm t ttEvseMatchSessionMs ∧
    window = (v s.identity).map (Timer.arm · ttMatchSequenceMs)

/-- The sessions of the machine agree with the history variables. -/
def Machine.Agrees (e v : Times) (m : Machine) : Prop :=
  ∀ sub, m.state = .matching sub → ∀ s ∈ sub.sessions, s.Agrees e v

/-- The validations that are complete after the entries `new`. -/
def arms (now : Int) (new : List Trace) (v : Times)
    (p : MacAddress × RunId) : Option Int :=
  if new.any (validated p.1) then some now else v p

theorem arms_append (now : Int) (new new' : List Trace) (v : Times) :
    arms now new' (arms now new v) = arms now (new' ++ new) v := by
  funext p
  unfold arms
  rw [any_append]
  cases new'.any (validated p.1) with
  | true | false => rfl

theorem arms_of_none {now : Int} {new : List Trace} (v : Times)
    (h : ∀ x ∈ new, ∀ mac, x.validated mac = false) : arms now new v = v := by
  funext p
  refine if_neg ?_
  rw [any_eq_true]
  rintro ⟨x, hx, hv⟩
  simp [h x hx] at hv

section Update

variable {e v : Times}

theorem Session.Agrees.onUpdate {s : Session} (h : s.Agrees e v) (c : Context) :
    (s.onUpdate c).1.Agrees e v := by
  obtain ⟨data, state⟩ := s
  intro timer window hs
  unfold Session.onUpdate at hs ⊢
  cases state with
  | waitSlacMatch =>
    dsimp only at hs ⊢
    split at hs
    · cases hs
    · next hexp =>
      rw [if_neg hexp]
      exact h timer window hs
  | matchComplete | failed => cases hs
  | _ =>
    dsimp only at hs
    repeat' split at hs
    all_goals cases hs

theorem onUpdate_log (s : Session) (c : Context) :
    (s.onUpdate c).2.log = c.log ∨
      ∃ mac ind taken, (s.onUpdate c).2.log = .sent mac (.attenCharInd ind) taken :: c.log := by
  unfold Session.onUpdate
  repeat' split
  all_goals first | exact .inl rfl | exact .inr ⟨_, _, _, rfl⟩

/-- What is neither a `CM_SLAC_MATCH.CNF` nor the end of a validation. -/
def Trace.plain (x : Trace) : Prop := x.matchCnf = none ∧ ∀ mac, x.validated mac = false

theorem pipe_onUpdate_agrees : ∀ (ss : List Session) (c : Context), (∀ s ∈ ss, s.Agrees e v) →
    (∀ s ∈ (pipe Session.onUpdate ss c).1, s.Agrees e v) ∧
      ∃ new, (pipe Session.onUpdate ss c).2.log = new ++ c.log ∧ ∀ x ∈ new, x.plain
  | [], c, _ => ⟨forall_mem_nil _, [], rfl, forall_mem_nil _⟩
  | s :: ss, c, h => by
    obtain ⟨hs, hss⟩ := forall_mem_cons.1 h
    obtain ⟨hr, new, hlog, hp⟩ := pipe_onUpdate_agrees ss (s.onUpdate c).2 hss
    refine ⟨forall_mem_cons.2 ⟨hs.onUpdate c, hr⟩, ?_⟩
    rcases onUpdate_log s c with hsa | ⟨mac, ind, taken, hse⟩
    · exact ⟨new, hlog.trans (by rw [hsa]), hp⟩
    · refine ⟨new ++ [.sent mac (.attenCharInd ind) taken], hlog.trans ?_, ?_⟩
      · rw [hse, append_assoc, singleton_append]
      · simp only [forall_mem_append, forall_mem_singleton]
        exact ⟨hp, rfl, fun _ => rfl⟩

theorem ofInt_eq_zero_iff {toggles : Int} (h₀ : 0 ≤ toggles) (h₁ : toggles ≤ 255) :
    BitVec.ofInt 8 toggles = 0 ↔ toggles = 0 := by
  obtain ⟨n, rfl⟩ := Int.eq_ofNat_of_zero_le h₀
  rw [BitVec.ofInt_natCast, ← BitVec.toNat_inj, BitVec.toNat_ofNat]
  have hn : n < 2 ^ 8 := by omega
  rw [Nat.mod_eq_of_lt hn]
  simp

/-- The EV whose validation is complete gets a `CM_VALIDATE.CNF` that says so. -/
theorem tick_cases (h : ValidateHandler) (c : Context) :
    (∃ toggleNum taken, (h.tick c).2.1.log =
        .sent h.ownerMac (.validateCnf toggleNum 2) taken :: c.log ∧
      (h.tick c).2.2 = if toggleNum = 0 then none else some h.ownerMac) ∨
    ((h.tick c).2.2 = none ∧ ∃ new, (h.tick c).2.1.log = new ++ c.log ∧ ∀ x ∈ new, x.plain) := by
  unfold tick
  split
  · refine .inl ⟨_, _, rfl, ?_⟩
    have hlow : 0 ≤ max 0 (min (c.env.bcTransitionCount - h.baselineBc) 255) := by omega
    have hz := ofInt_eq_zero_iff hlow (by omega)
    exact if_congr hz.symm rfl rfl
  · split
    · split
      · refine .inr ⟨rfl, [_], rfl, fun x hx => ?_⟩
        rw [mem_singleton.1 hx]
        exact ⟨rfl, fun mac => by simp [validated]⟩
      · exact .inr ⟨rfl, [], rfl, forall_mem_nil _⟩
    · exact .inr ⟨rfl, [], rfl, forall_mem_nil _⟩

/-- The window of a session of the EV `owner` is armed, that of the others is not. -/
theorem Session.Agrees.armed {s : Session} (h : s.Agrees e v) (now : Int) {owner : MacAddress}
    {new : List Trace} (hnew : ∀ mac, new.any (validated mac) = decide (owner = mac)) :
    (if awaitsSlacMatch owner s then armValidationWindow now s else s).Agrees e
      (arms now new v) := by
  obtain ⟨data, state⟩ := s
  cases state with
  | waitSlacMatch t w =>
    intro timer window hs
    obtain ⟨t₀, he, ht, hw⟩ := h t w rfl
    by_cases how : data.evMac = owner
    · rw [if_pos (by simp [awaitsSlacMatch, Session.awaitingSlacMatch, how])] at hs ⊢
      cases hs
      refine ⟨t₀, he, ht, ?_⟩
      show _ = (arms now new v (data.evMac, data.runId)).map _
      rw [arms, if_pos (by simp [hnew, how])]
      rfl
    · have hne : ¬ owner = data.evMac := fun heq => how heq.symm
      rw [if_neg (by simp [awaitsSlacMatch, how])] at hs ⊢
      cases hs
      refine ⟨t₀, he, ht, ?_⟩
      show _ = (arms now new v (data.evMac, data.runId)).map _
      rw [arms, if_neg (by simp [hnew, hne])]
      exact hw
  | _ =>
    intro timer window hs
    rw [if_neg (by simp [awaitsSlacMatch, Session.awaitingSlacMatch])] at hs
    cases hs

/-- **A complete validation is remembered when it arms the windows.** -/
theorem serveValidate_agrees {m : Matching} (h : ∀ s ∈ m.sessions, s.Agrees e v) (c : Context) :
    ∃ new, (m.serveValidate c).2.log = new ++ c.log ∧ (∀ x ∈ new, x.matchCnf = none) ∧
      ∀ s ∈ (m.serveValidate c).1.sessions, s.Agrees e (arms c.now new v) := by
  have hno : ∀ {new : List Trace}, (∀ x ∈ new, x.plain) →
      ∀ s ∈ m.sessions, s.Agrees e (arms c.now new v) := fun hp s hs => by
    rw [arms_of_none v fun x hx => (hp x hx).2]
    exact h s hs
  unfold serveValidate
  split
  · unfold validateTick
    rcases tick_cases m.validate c with ⟨toggleNum, taken, hlog, hev⟩ | ⟨hev, new, hlog, hp⟩
    · refine ⟨[_], hlog, fun x hx => mem_singleton.1 hx ▸ rfl, ?_⟩
      dsimp only
      rw [hev]
      by_cases hz : toggleNum = 0
      · rw [if_pos hz]
        refine hno fun x hx => ?_
        rw [mem_singleton.1 hx]
        exact ⟨rfl, fun mac => by simp [validated, hz]⟩
      · rw [if_neg hz]
        intro s' hs'
        obtain ⟨s, hs, rfl⟩ := mem_map.1 hs'
        have hnow : (m.validate.tick c).2.1.now = c.now := congrArg Env.now (env_tick c _)
        rw [hnow]
        refine (h s hs).armed c.now fun mac => ?_
        simp only [any_cons, any_nil, validated, ne_eq, hz, not_false_eq_true,
          decide_true, Bool.and_true, Bool.or_false]
    · refine ⟨new, hlog, fun x hx => (hp x hx).1, ?_⟩
      dsimp only
      rw [hev]
      exact hno hp
  · exact ⟨[], rfl, forall_mem_nil _, hno (forall_mem_nil _)⟩

theorem onUpdate_late (s : Session) (c : Context) : (s.onUpdate c).1.late c.now = false := by
  obtain ⟨data, state⟩ := s
  unfold Session.onUpdate
  cases state with
  | waitSlacMatch =>
    dsimp only
    split
    · rfl
    · next hexp => exact Bool.eq_false_iff.2 hexp
  | _ =>
    dsimp only
    repeat' split
    all_goals rfl

/-- **No session that has missed a deadline is left by `update`.** -/
theorem matching_onUpdate_late (m : Matching) (c : Context) :
    ∀ s ∈ (m.onUpdate c).1.sessions, s.late c.now = false := by
  intro s hs
  obtain ⟨s, -, c', hc', rfl⟩ := mem_pipe (fun s c => env_onUpdate c s) hs
  have hnow : c'.now = c.now := congrArg Env.now (hc'.trans (env_serveValidate c _))
  exact hnow ▸ onUpdate_late s c'

theorem matching_onUpdate_agrees {m : Matching} (h : ∀ s ∈ m.sessions, s.Agrees e v)
    (c : Context) : ∃ new, (m.onUpdate c).2.log = new ++ c.log ∧ (∀ x ∈ new, x.matchCnf = none) ∧
      ∀ s ∈ (m.onUpdate c).1.sessions, s.Agrees e (arms c.now new v) := by
  have hcon : ∀ s ∈ (m.conclude c).sessions, s.Agrees e v := by
    unfold conclude
    repeat' split
    all_goals first | exact h | exact nofun
  obtain ⟨new, hlog, hcnf, hs⟩ := serveValidate_agrees hcon c
  obtain ⟨hpi, new', hlog', hp⟩ := pipe_onUpdate_agrees _ ((m.conclude c).serveValidate c).2 hs
  refine ⟨new' ++ new, ?_, fun x hx => ?_, ?_⟩
  · rw [append_assoc, ← hlog]
    exact hlog'
  · exact (mem_append.1 hx).elim (fun hx => (hp x hx).1) (hcnf x)
  · rw [← arms_append, arms_of_none _ fun x hx => (hp x hx).2]
    exact hpi

end Update

/-! ### Messages -/

variable {s : Session} {timer : Timer} {m : Matching}

theorem onMessage_waits {msg : Message} {c : Context} {window : Option Timer}
    (h : (s.onMessage msg c).1.state = .waitSlacMatch timer window) :
    s.state = .waitSlacMatch timer window ∨ ((∃ t, s.state = .waitAttenRsp t) ∧
      timer = Timer.arm c.now ttEvseMatchSessionMs ∧ window = none) := by
  obtain ⟨data, state⟩ := s
  unfold Session.onMessage at h
  dsimp only at h ⊢
  repeat' split at h
  all_goals first
    | exact .inl h
    | (cases h; exact .inr ⟨⟨_, rfl⟩, rfl, rfl⟩)
    | cases h

theorem onMessage_identity (msg : Message) (s : Session) (c : Context) :
    (s.onMessage msg c).1.identity = s.identity := by
  unfold Session.onMessage
  repeat' split
  all_goals rfl

theorem env_onMessage (msg : Message) (s : Session) (c : Context) :
    (s.onMessage msg c).2.env = c.env := by
  unfold Session.onMessage
  repeat' split
  all_goals rfl

/-- An entry that ends no validation, and confirms a session that was asked for it. -/
def Confirms (msg : Message) (ss : List Session) (x : Trace) : Prop :=
  (∀ mac, x.validated mac = false) ∧
    ∀ p, x.matchCnf = some p → ∃ s ∈ ss, s.answers msg = true ∧ s.identity = p

theorem onMessage_log (msg : Message) (s : Session) (c : Context) :
    (s.onMessage msg c).2.log = c.log ∨ (s.answers msg ∧ ∃ x : Trace,
      (s.onMessage msg c).2.log = x :: c.log ∧ x.matchCnf = some s.identity ∧
        ∀ mac, x.validated mac = false) := by
  obtain ⟨data, state⟩ := s
  unfold Session.onMessage
  dsimp only
  split
  case h_4 timer window req hp =>
    split
    · next hv =>
      have hrun : req.runId = data.runId := by
        simp only [MatchingSessionData.validateSlacMatchReq, Bool.and_eq_true,
          decide_eq_true_eq] at hv
        exact hv.2
      refine .inr ⟨by simp [Session.answers, hp, hv], _, rfl, ?_, fun _ => rfl⟩
      exact congrArg (fun run => some (data.evMac, run)) hrun
    · exact .inl rfl
  all_goals
    repeat' split
    all_goals exact .inl rfl

theorem pipe_onMessage_log (msg : Message) : ∀ (ss : List Session) (c : Context),
    ∃ new, (pipe (Session.onMessage msg) ss c).2.log = new ++ c.log ∧ ∀ x ∈ new, Confirms msg ss x
  | [], _ => ⟨[], rfl, forall_mem_nil _⟩
  | s :: ss, c => by
    obtain ⟨new, hlog, hc⟩ := pipe_onMessage_log msg ss (s.onMessage msg c).2
    have hr : ∀ x ∈ new, Confirms msg (s :: ss) x := by
      refine fun x hx => ⟨(hc x hx).1, fun p hp => ?_⟩
      obtain ⟨s', hs', h⟩ := (hc x hx).2 p hp
      exact ⟨s', mem_cons_of_mem s hs', h⟩
    rcases onMessage_log msg s c with hsa | ⟨hans, x, hse, hcnf, hval⟩
    · exact ⟨new, hlog.trans (by rw [hsa]), hr⟩
    · refine ⟨new ++ [x], hlog.trans ?_, ?_⟩
      · rw [hse, append_assoc, singleton_append]
      · simp only [forall_mem_append, forall_mem_singleton]
        refine ⟨hr, hval, fun p hp => ⟨s, mem_cons_self, hans, ?_⟩⟩
        exact Option.some.inj (hcnf.symm.trans hp)

theorem handleReq_spec (v : ValidateHandler) (req : ValidateReq) (mac : MacAddress) (c : Context) :
    (v.handleReq req mac c).2.env = c.env ∧
      ∃ new, (v.handleReq req mac c).2.log = new ++ c.log ∧ ∀ x ∈ new, x.plain := by
  have hp : ∀ (result : BitVec 8) (taken : Bool),
      (sent mac (.validateCnf 0 result) taken).plain :=
    fun result taken => ⟨rfl, fun mac => by simp [validated]⟩
  unfold handleReq
  repeat' split
  all_goals first
    | exact ⟨rfl, [], rfl, forall_mem_nil _⟩
    | exact ⟨rfl, [_], rfl, forall_mem_singleton.2 (hp _ _)⟩

theorem listen_spec (msg : Message) (m : Matching) (c : Context) :
    (m.listen msg c).2.env = c.env ∧
      (∀ s ∈ (m.listen msg c).1.sessions, s ∈ m.sessions ∨ ∃ t, s.state = .waitStartAtten t) ∧
      ∃ new, (m.listen msg c).2.log = new ++ c.log ∧ ∀ x ∈ new, x.plain := by
  have hk : ∀ s ∈ m.sessions, s ∈ m.sessions ∨ ∃ t, s.state = .waitStartAtten t :=
    fun s hs => .inl hs
  unfold Matching.listen addSession handleValidateReq
  split
  · split
    · exact ⟨rfl, hk, [], rfl, forall_mem_nil _⟩
    · split
      · refine ⟨rfl, fun s hs => ?_, [_], rfl, forall_mem_singleton.2 ⟨rfl, fun _ => rfl⟩⟩
        rcases mem_or_eq_of_mem_set hs with hs | rfl
        · exact .inl hs
        · exact .inr ⟨_, rfl⟩
      · split
        · exact ⟨rfl, hk, [], rfl, forall_mem_nil _⟩
        · refine ⟨rfl, ?_, [_], rfl, forall_mem_singleton.2 ⟨rfl, fun _ => rfl⟩⟩
          exact forall_mem_append.2 ⟨hk, forall_mem_singleton.2 (.inr ⟨_, rfl⟩)⟩
  · next req _ =>
    obtain ⟨henv, hlog⟩ := handleReq_spec m.validate req msg.srcMac c
    split
    · exact ⟨henv, hk, hlog⟩
    · exact ⟨rfl, hk, [], rfl, forall_mem_nil _⟩
  · exact ⟨rfl, hk, [], rfl, forall_mem_nil _⟩

/-- Since when a session waits after an event: the ones that waited before keep their times. -/
def since (waits : MacAddress × RunId → Bool) (t : Option Int)
    (e : Times) (p : MacAddress × RunId) : Option Int :=
  if waits p then e p else t

theorem Matching.waits_of_mem (hs : s ∈ m.sessions) {window : Option Timer}
    (h : s.state = .waitSlacMatch timer window) : m.waits s.identity :=
  any_eq_true.2 ⟨s, hs, by simp [Session.awaitingSlacMatch, h]⟩

theorem Matching.not_waits_of_mem (hno : (m.sessions.map Session.identity).Nodup)
    (hs : s ∈ m.sessions) (h : s.state = .waitAttenRsp timer) : m.waits s.identity = false := by
  refine any_eq_false.2 fun s' hs' => ?_
  rw [Bool.and_eq_true, decide_eq_true_eq]
  rintro ⟨hid, ha⟩
  cases inj_on_of_nodup_map hno hs' hs hid
  simp [Session.awaitingSlacMatch, h] at ha

/-- **`Matching` on `message`**: a session that starts to wait has its timer armed, and a session
is confirmed that was asked for it. -/
theorem matching_onMessage_agrees {e v : Times}
    (h : ∀ s ∈ m.sessions, s.Agrees e v) (hno : (m.sessions.map Session.identity).Nodup)
    (msg : Message) (c : Context) :
    (m.onMessage msg c).2.env = c.env ∧
      (∀ s ∈ (m.onMessage msg c).1.sessions,
        s.Agrees (since m.waits (some c.now) e) (since m.waits none v)) ∧
      ∃ new, (m.onMessage msg c).2.log = new ++ c.log ∧ ∀ x ∈ new, Confirms msg m.sessions x := by
  obtain ⟨henv, hmem, new, hlog, hpl⟩ := listen_spec msg m c
  have hco : ∀ x ∈ new, Confirms msg m.sessions x := fun x hx =>
    ⟨(hpl x hx).2, fun p hp => absurd hp (by simp [(hpl x hx).1])⟩
  -- the region `Listen` only puts sessions in `WaitStartAtten`
  have hold : ∀ s ∈ (m.listen msg c).1.sessions, (∀ t, s.state ≠ .waitStartAtten t) →
      s ∈ m.sessions := fun s hs hne => (hmem s hs).resolve_right fun ⟨t, ht⟩ => hne t ht
  have hk : ∀ s ∈ m.sessions, s.Agrees (since m.waits (some c.now) e) (since m.waits none v) := by
    intro s hs timer window hst
    rw [since, since, if_pos (waits_of_mem hs hst), if_pos (waits_of_mem hs hst)]
    exact h s hs timer window hst
  unfold onMessage pipeMessage
  dsimp only
  split
  · refine ⟨henv, fun s hs timer window hst => ?_, new, hlog, hco⟩
    exact hk s (hold s hs (by simp [hst])) timer window hst
  · refine ⟨(env_pipe (env_onMessage msg) _ _).trans henv, ?_, ?_⟩
    · intro s' hs' timer window hst
      obtain ⟨s, hs, c', hc', rfl⟩ := mem_pipe (env_onMessage msg) hs'
      rw [onMessage_identity]
      rcases onMessage_waits hst with hsa | ⟨⟨t, hrsp⟩, hti, hwin⟩
      · exact hk s (hold s hs (by simp [hsa])) timer window hsa
      · have hs := hold s hs (by simp [hrsp])
        have hnot := not_waits_of_mem hno hs hrsp
        have hnow : c'.now = c.now := congrArg Env.now (hc'.trans henv)
        rw [since, since, hnot]
        exact ⟨c.now, rfl, by rw [hti, hnow], hwin⟩
    · obtain ⟨new', hlog', hco'⟩ := pipe_onMessage_log msg (m.listen msg c).1.sessions
        (m.listen msg c).2
      refine ⟨new' ++ new, by rw [append_assoc, ← hlog]; exact hlog', fun x hx => ?_⟩
      rcases mem_append.1 hx with hx | hx
      · refine ⟨(hco' x hx).1, fun p hp => ?_⟩
        obtain ⟨s, hs, hans, hid⟩ := (hco' x hx).2 p hp
        refine ⟨s, hold s hs fun t ht => ?_, hans, hid⟩
        simp [Session.answers, ht] at hans
      · exact hco x hx

/-! ## The machine -/

namespace Machine

variable {e v : Times} {ok : MacAddress × RunId → Prop} {now : Int}
  {log : List Trace}

/-- What an event at `now` adds to the history `log`, and how the sessions wait after it: a session
that is confirmed is `ok`. -/
def Goes (ok : MacAddress × RunId → Prop) (e v : Times) (now : Int)
    (log : List Trace) (m : Machine) : Prop :=
  ∃ new, m.ctx.log = new ++ log ∧ (∀ x ∈ new, ∀ p, x.matchCnf = some p → ok p) ∧
    m.Agrees e (arms now new v)

variable {m : Machine} {c : Context}

theorem Goes.mono {ok' : MacAddress × RunId → Prop} (h : Goes ok e v now log m)
    (hok : ∀ p, ok p → ok' p) : Goes ok' e v now log m := by
  obtain ⟨new, hlog, hcnf, ha⟩ := h
  exact ⟨new, hlog, fun x hx p hp => hok p (hcnf x hx p hp), ha⟩

theorem Goes.andThen {m' : Machine} (h : Goes ok e v now log m)
    (h' : ∀ v', m.Agrees e v' → Goes ok e v' now m.ctx.log m') : Goes ok e v now log m' := by
  obtain ⟨new, hlog, hcnf, ha⟩ := h
  obtain ⟨new', hlog', hcnf', ha'⟩ := h' _ ha
  refine ⟨new' ++ new, by rw [hlog', hlog, append_assoc], fun x hx => ?_, ?_⟩
  · exact (mem_append.1 hx).elim (hcnf' x) (hcnf x)
  · rw [← arms_append]
    exact ha'

theorem goes_same {m' : Machine} (h : m.Agrees e v) (hst : m'.state = m.state)
    (hlog : m'.ctx.log = m.ctx.log) : Goes ok e v now m.ctx.log m' := by
  refine ⟨[], hlog, forall_mem_nil _, fun sub hsub => ?_⟩
  exact h sub (hst ▸ hsub)

/-- A state without sessions, after entries that are no confirmation. -/
theorem goes_of_state (hg : Grows c m.ctx) (hst : ∀ sub, m.state ≠ .matching sub) :
    Goes ok e v now c.log m := by
  obtain ⟨new, hlog, hq⟩ := hg
  refine ⟨new, hlog, fun x hx p hp => ?_, fun sub hsub => absurd hsub (hst sub)⟩
  cases (matchCnf_of_quiet (hq x hx)).symm.trans hp

/-- The time of the sessions. -/
def At (now : Int) (m : Machine) : Prop := ∀ sub, m.state = .matching sub → m.ctx.now = now

/-- What happened up to `now`, while the machine works at that time. -/
def GoesAt (ok : MacAddress × RunId → Prop) (e v : Times) (now : Int)
    (log : List Trace) (m : Machine) : Prop := Goes ok e v now log m ∧ m.At now

theorem goesAt_of_state (hg : Grows c m.ctx) (hst : ∀ sub, m.state ≠ .matching sub) :
    GoesAt ok e v now c.log m :=
  ⟨goes_of_state hg hst, fun sub hsub => absurd hsub (hst sub)⟩

theorem Passes.goesAt (h : Passes c m) : GoesAt ok e v now c.log m :=
  goesAt_of_state h.grows h.not_exchanging.1

theorem Polls.goesAt (h : Polls c m) : GoesAt ok e v now c.log m := by
  obtain ⟨s, vendor, rfl⟩ := h
  exact goesAt_of_state (Grows.send (fun _ => rfl) (.same rfl)) fun _ h => by cases h

/-- **`update`**: no session starts to wait, and nothing is confirmed. -/
theorem update_goes (h : m.Agrees e v) (hat : m.At now) :
    GoesAt ok e v now m.ctx.log (m.process .update) := by
  cases hs : m.state with
  | matching sub =>
    obtain ⟨new, hlog, hcnf, hsub⟩ := matching_onUpdate_agrees (h sub hs) m.ctx
    have hnow := hat sub hs
    have hst : GoesAt ok e v now m.ctx.log
        ⟨(sub.onUpdate m.ctx).2, .matching (sub.onUpdate m.ctx).1⟩ := by
      refine ⟨⟨new, hlog, fun x hx p hp => ?_, ?_⟩, fun _ _ => ?_⟩
      · cases (hcnf x hx).symm.trans hp
      · rintro _ ⟨⟩
        exact hnow ▸ hsub
      · exact (congrArg Env.now (env_matching_onUpdate m.ctx sub)).trans hnow
    have hl : ∀ {m' : Machine}, (∀ v', GoesAt ok e v' now (sub.onUpdate m.ctx).2.log m') →
        GoesAt ok e v now m.ctx.log m' :=
      fun hm' => ⟨hst.1.andThen fun v' _ => (hm' v').1, (hm' v).2⟩
    rw [process_update_matching hs]
    rcases exitMatching_cases (sub.onUpdate m.ctx).2 (sub.onUpdate m.ctx).1 with
      ⟨-, heq⟩ | ⟨-, hpo⟩ | hpas
    · rw [heq]
      exact hst
    · exact hl fun _ => hpo.goesAt
    · exact hl fun _ => hpas.goesAt
  | waitForLink s =>
    rw [process, hs]
    rcases updateWaitForLink_cases m.ctx s with heq | hpo | hpas
    · rw [processUpdate, heq]
      exact goesAt_of_state (.same rfl) fun _ h => by cases h
    · exact hpo.goesAt
    · exact hpas.goesAt
  | _ => exact (update_passes (by rw [hs]; rfl)).goesAt

/-- No session has missed a deadline at `now`. -/
def Punctual (now : Int) (m : Machine) : Prop :=
  ∀ sub, m.state = .matching sub → ∀ s ∈ sub.sessions, s.late now = false

theorem update_punctual (hat : m.At now) : (m.process .update).Punctual now := by
  intro sub' hsub
  have hno : ∀ {c m'}, Passes c m' → m'.state ≠ .matching sub' := fun h => h.not_exchanging.1 sub'
  have hpo : ∀ {c m'}, Polls c m' → m'.state ≠ .matching sub' := by
    rintro _ _ ⟨s, vendor, rfl⟩
    nofun
  cases hs : m.state with
  | matching sub =>
    rw [process_update_matching hs] at hsub
    rcases exitMatching_cases (sub.onUpdate m.ctx).2 (sub.onUpdate m.ctx).1 with
      ⟨-, heq⟩ | ⟨-, hp⟩ | hp
    · rw [heq] at hsub
      cases hsub
      exact hat sub hs ▸ matching_onUpdate_late sub m.ctx
    · exact absurd hsub (hpo hp)
    · exact absurd hsub (hno hp)
  | waitForLink s =>
    rw [process, hs] at hsub
    rcases updateWaitForLink_cases m.ctx s with heq | hp | hp
    · rw [processUpdate, heq] at hsub
      cases hsub
    · exact absurd hsub (hpo hp)
    · exact absurd hsub (hno hp)
  | _ => exact absurd hsub (hno (update_passes (by rw [hs]; rfl)))

/-- What happened up to `now`, once the sessions were updated. -/
def Updated (ok : MacAddress × RunId → Prop) (e v : Times) (now : Int) (log : List Trace)
    (m : Machine) : Prop := GoesAt ok e v now log m ∧ m.Punctual now

theorem Updated.goesAt (m : Machine) (h : Updated ok e v now log m) : GoesAt ok e v now log m := h.1

theorem GoesAt.update (m : Machine) (h : GoesAt ok e v now log m) :
    Updated ok e v now log (m.process .update) := by
  obtain ⟨new, -, -, ha⟩ := h.1
  refine ⟨⟨h.1.andThen fun v' ha => (update_goes ha h.2).1, ?_⟩, update_punctual h.2⟩
  have hg : GoesAt ok .. := update_goes ha h.2
  exact hg.2

/-- The link of the session `p` comes up. -/
def linking (m : Machine) (p : MacAddress × RunId) : Bool :=
  match m.state with
  | .waitForLink _ => m.ctx.matchConfirmCache.any fun cache => (cache.evMac, cache.runId) = p
  | _ => false

/-- Who may be confirmed by an event: the session that a `CM_SLAC_MATCH.REQ` names, if it waits or
its link comes up. -/
def Asked (m : Machine) (ev : Event) (p : MacAddress × RunId) : Prop :=
  ∃ src req, ev = .message ⟨src, .slacMatchReq req⟩ ∧ (req.pevMac, req.runId) = p ∧
    match m.state with
    | .matching sub =>
      ∃ s ∈ sub.sessions, s.answers ⟨src, .slacMatchReq req⟩ = true ∧ s.identity = p
    | _ => m.linking p = true

theorem messageWaitForLink_goes (m : Machine) {s : WaitForLink} (hs : m.state = .waitForLink s)
    (hk : Keyed m.ctx) (msg : Message) : GoesAt (m.Asked (.message msg)) e v now m.ctx.log
      (messageWaitForLink (m.ctx.receive msg) msg s) := by
  have hg : Grows m.ctx (m.ctx.receive msg) := Grows.record rfl (.same rfl)
  obtain ⟨cache, hca, hrun, -⟩ := hk
  have hca' : (m.ctx.receive msg).matchConfirmCache = some cache := hca
  unfold messageWaitForLink
  split
  · next hreq =>
    obtain ⟨src, payload⟩ := msg
    unfold isMatchReq at hreq
    rw [hca'] at hreq
    dsimp only at hreq
    split at hreq
    · next req cache' heq =>
      cases heq
      simp only [MatchingSessionData.validateSlacMatchReq, Bool.and_eq_true, decide_eq_true_eq]
        at hreq
      rw [sendMatchCnf, hca']
      refine ⟨⟨[_, _], rfl, fun x hx p hp => ?_, fun _ h => by cases h⟩, fun _ h => by cases h⟩
      rcases mem_cons.1 hx with rfl | hx
      · obtain rfl := Option.some.inj hp
        refine ⟨src, req, rfl, ?_, ?_⟩
        · rw [hrun, hreq.2.1.1.2, hreq.2.2]
        · rw [hs]
          simp [linking, hs, hca, hrun]
      · cases mem_singleton.1 hx
        cases hp
    · cases hreq
  · split
    · exact (enterMatched_passes hg).goesAt
    · exact goesAt_of_state hg fun _ h => by cases h

/-- **A frame.** -/
theorem message_goes (h : m.Agrees e v) (hso : m.Sound) (msg : Message) :
    GoesAt (m.Asked (.message msg)) (since m.waits (some m.ctx.now) e) (since m.waits none v)
      m.ctx.now m.ctx.log (m.process (.message msg)) := by
  cases hs : m.state with
  | matching sub =>
    obtain ⟨henv, ha, new, hlog, hc⟩ := matching_onMessage_agrees (h sub hs)
      (hso.matching sub hs).nodup msg (m.ctx.receive msg)
    have hnew : ∀ x ∈ new ++ [.received m.ctx.now msg], Confirms msg sub.sessions x := by
      simp only [forall_mem_append, forall_mem_singleton]
      exact ⟨hc, fun _ => rfl, nofun⟩
    have hw : m.waits = sub.waits := by
      funext p
      rw [waits, hs]
    rw [process, hs, hw]
    refine ⟨⟨new ++ [.received m.ctx.now msg], ?_, fun x hx p hp => ?_, ?_⟩, fun _ _ => ?_⟩
    · rw [append_assoc]
      exact hlog
    · obtain ⟨s, hmem, hans, rfl⟩ := (hnew x hx).2 p hp
      obtain ⟨src, req, rfl⟩ := Session.answers_matchReq hans
      refine ⟨src, req, rfl, (Session.answers_identity hans).symm, ?_⟩
      rw [hs]
      exact ⟨s, hmem, hans, rfl⟩
    · rintro _ ⟨⟩
      rw [arms_of_none _ fun x hx => (hnew x hx).1]
      exact ha
    · exact congrArg Env.now henv
  | waitForLink s =>
    rw [process, hs]
    exact messageWaitForLink_goes m hs (hso.waitForLink s hs) msg
  | _ => exact (message_passes msg (by rw [hs]; rfl)).goesAt

theorem Agrees.since (h : m.Agrees e v) (t t' : Option Int) :
    m.Agrees (since m.waits t e) (Slac.since m.waits t' v) := by
  intro sub hsub s hs timer window hst
  have hw : m.waits s.identity := by
    rw [waits, hsub]
    exact waits_of_mem hs hst
  rw [Slac.since, Slac.since, if_pos hw, if_pos hw]
  exact h sub hsub s hs timer window hst

/-- **One event of the machine.** -/
theorem process_goes (h : m.Agrees e v) (hso : m.Sound) (ev : Event) :
    GoesAt (m.Asked ev) (Slac.since m.waits (some m.ctx.now) e) (Slac.since m.waits none v)
      m.ctx.now m.ctx.log (m.process ev) := by
  have hat : m.At m.ctx.now := fun _ _ => rfl
  have hs : GoesAt (m.Asked ev) (Slac.since m.waits (some m.ctx.now) e)
      (Slac.since m.waits none v) m.ctx.now m.ctx.log m := ⟨goes_same (h.since _ _) rfl rfl, hat⟩
  cases ev with
  | message msg => exact message_goes h hso msg
  | reset => exact (reset_passes m).goesAt
  | enterBcd =>
    rcases enterBcd_cases m with heq | heq <;> rw [heq]
    · refine ⟨⟨[.enteredMatching], rfl, forall_mem_singleton.2 nofun, ?_⟩, fun _ _ => rfl⟩
      rintro _ ⟨⟩
      exact forall_mem_nil _
    · exact hs
  | leaveBcd =>
    rcases leaveBcd_cases m with hp | heq
    · exact hp.goesAt
    · exact heq.symm ▸ hs
  | update => exact update_goes (h.since _ _) hat

/-- **A public event.** -/
theorem handle_goes (h : m.Agrees e v) (hs : m.Sound) (env : Env) (throws : Nat → Bool)
    (ev : Event) :
    Goes (m.Asked ev) (Slac.since m.waits (some env.now) e) (Slac.since m.waits none v) env.now
        m.ctx.log (m.handle env throws ev).1 ∧
      ((m.handle env throws ev).2 → (m.handle env throws ev).1.Punctual env.now) :=
  (handle_rule GoesAt.update Updated.goesAt env throws ev
    ⟨goes_same (h.since _ _) rfl rfl, fun _ _ => rfl⟩ fun _ _ =>
      process_goes (m := m.sample env) h (sample_sound env hs) ev).imp And.left fun hp ht =>
        (hp ht).2

/-- `reset`, as the module sends it when it tears the machine down. -/
theorem handle_reset_goes (h : Goes ok e v now log m) (env : Env) (throws : Nat → Bool) :
    Goes ok e v now log (m.handle env throws .reset).1 := by
  have hg : GoesAt ok e v now log ((m.sample env).process .reset) :=
    ⟨h.andThen fun _ _ => (reset_passes (m.sample env)).goesAt.1,
      (show GoesAt ok e v .. from (reset_passes (m.sample env)).goesAt).2⟩
  unfold handle
  split
  · exact h.andThen fun _ ha => goes_same ha rfl rfl
  · rw [if_neg nofun]
    split
    · exact hg.1
    · exact (settle_rule GoesAt.update Updated.goesAt throws 31 2 hg).1.1

theorem restart_goes (h : m.Agrees e v) (env : Env) (throws : Nat → Bool) :
    Goes ok (Slac.since m.waits (some env.now) e) (Slac.since m.waits none v) env.now m.ctx.log
        (m.restart env throws).1 ∧
      ((m.restart env throws).2 → (m.restart env throws).1.Punctual env.now) := by
  have hp : Passes m.ctx (enterInit (m.sample env).leave) := ⟨leave_grows (m.sample env), rfl⟩
  exact (restart_rule GoesAt.update Updated.goesAt env throws
    ⟨goes_same (h.since _ _) rfl rfl, fun _ _ => rfl⟩ hp.goesAt).imp And.left fun hp ht =>
      (hp ht).2

end Machine

/-! ## The module -/

namespace Controller

variable {e v : Times}

/-- Who may be confirmed by a command. -/
def Asked (c : Controller) (i : Reading × Reading × Command) (p : MacAddress × RunId) : Prop :=
  ∃ ev, i.2.2 = .event ev ∧ c.active = true ∧ c.machine.Asked ev p

/-- **One command.** -/
theorem step_goes {c : Controller} (h : c.machine.Agrees e v) (hs : c.Sound)
    (i : Reading × Reading × Command) :
    Machine.Goes (c.Asked i) (since c.machine.waits (some i.1.env.now) e)
        (since c.machine.waits none v) i.1.env.now c.machine.ctx.log (c.step i).machine ∧
      ((c.step i).active → (c.step i).machine.Punctual i.1.env.now) := by
  refine step_rule (K := Machine.Goes _ _ _ _ _)
    (fun _ env throws hm => Machine.handle_reset_goes hm env throws) i
    (Machine.goes_same (h.since _ _) rfl rfl) (Machine.restart_goes h i.1.env i.1.throws)
    fun ev hev hact => ?_
  refine (Machine.handle_goes h hs.machine i.1.env i.1.throws ev).imp_left fun hg => ?_
  exact hg.mono fun p hp => ⟨ev, hev, hact, hp⟩

end Controller

end EverestCore.Slac

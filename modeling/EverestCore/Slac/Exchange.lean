import Mathlib.Data.List.Nodup
import EverestCore.Lib.Machine
import EverestCore.Slac.Matching

/-!
# The exchange that a session of SLAC goes through

A session answers a `CM_SLAC_MATCH.REQ` in its last state only, and each state before it stands for
a part of the exchange that is in the history. A repeated `CM_SLAC_PARM.REQ` starts the session
over, so the history is read back to the last one of the session.

The session goes on to wait for `CM_ATTEN_CHAR.RSP` whether or not its `CM_ATTEN_CHAR.IND` could be
sent. With `taken := true` only an indication that the transport took counts, with `taken := false`
every one that was handed to it; the invariants are about the latter.

Results:
* **`matching_update`**, **`matching_message`**: `Matching` keeps its invariant.
* **`parmReq_answered_iff`**: when failed sessions lock out no new one; `failed_session_locks_out`.
-/

namespace EverestCore.Slac

open List Session MatchingSessionData Trace

/-! ## The history -/

namespace Trace

/-- A `CM_SLAC_PARM.REQ` of the EV. -/
def isSlacParmReq (mac : MacAddress) (run : RunId) : Trace → Bool
  | .received _ ⟨src, .slacParmReq req⟩ =>
    src = mac && validateSlacParmReq req && req.runId = run
  | _ => false

/-- A valid `CM_START_ATTEN_CHAR.IND` for the session. -/
def isStartAttenChar (mac : MacAddress) (run : RunId) : Trace → Bool
  | .received _ ⟨_, .startAttenCharInd ind⟩ =>
    validateStartAttenChar { evseMac := 0, evMac := mac, runId := run } ind
  | _ => false

/-- A `CM_ATTEN_CHAR.IND` for the session, sent or at least handed to the transport. -/
def isAttenCharInd (taken : Bool) (mac : MacAddress) (run : RunId) : Trace → Bool
  | .sent mac' (.attenCharInd ind) taken' => mac' = mac && ind.runId = run && (!taken || taken')
  | _ => false

/-- The transport did not take a `CM_ATTEN_CHAR.IND`. -/
def refusedInd : Trace → Bool
  | .sent _ (.attenCharInd _) taken => !taken
  | _ => false

/-- A valid `CM_ATTEN_CHAR.RSP` for the session. -/
def isAttenCharRsp (mac : MacAddress) (run : RunId) : Trace → Bool
  | .received _ ⟨_, .attenCharRsp rsp⟩ =>
    validateAttenCharRsp { evseMac := 0, evMac := mac, runId := run } rsp
  | _ => false

/-- The destination and the run id of a `CM_SLAC_MATCH.CNF`. -/
def matchCnf : Trace → Option (MacAddress × RunId)
  | .sent mac (.slacMatchCnf cnf) _ => some (mac, cnf.runId)
  | _ => none

/-- When the frame was received. -/
def time : Trace → Int
  | .received now _ => now
  | _ => 0

/-- Neither an entry into `Matching` nor a `CM_SLAC_MATCH.CNF`. -/
def quiet (t : Trace) : Bool := t ≠ .enteredMatching && t.matchCnf.isNone

end Trace

/-- The history since `Matching` was last entered. -/
def sinceMatching (log : List Trace) : List Trace := log.takeWhile (· ≠ .enteredMatching)

/-- The messages before a `CM_SLAC_MATCH.CNF`, newest first. -/
def Exchanged (taken : Bool) (mac : MacAddress) (run : RunId) (log : List Trace) : Prop :=
  ∃ rsp ind start parm : Trace, [rsp, ind, start, parm].Sublist log ∧
    rsp.isAttenCharRsp mac run = true ∧ ind.isAttenCharInd taken mac run = true ∧
    start.isStartAttenChar mac run = true ∧ start.time ≤ parm.time + ttMatchSequenceMs * 1000 ∧
    parm.isSlacParmReq mac run = true

/-- Every `CM_SLAC_MATCH.CNF` goes to the same MAC address. -/
def OneMac (log : List Trace) : Prop :=
  ∀ p ∈ log.filterMap matchCnf, ∀ q ∈ log.filterMap matchCnf, p.1 = q.1

/-- Every `CM_SLAC_MATCH.CNF` comes after its exchange. -/
def AfterExchange (taken : Bool) (log : List Trace) : Prop :=
  ∀ cnf older, (cnf :: older).IsSuffix log → ∀ mac run, cnf.matchCnf = some (mac, run) →
    Exchanged taken mac run older

structure Fine (log : List Trace) : Prop where
  oneMac : OneMac log
  afterExchange : AfterExchange false log

variable {mac : MacAddress} {run : RunId} {log : List Trace} {x parm : Trace}
    {since : List Trace} {s s' : Session} {c : Context} {ss : List Session} {c' : Context}
    {m : Matching} {msg : Message} {src : MacAddress} {req : SlacMatchReq}

theorem Exchanged.mono (h : Exchanged false mac run log) (new : List Trace) :
    Exchanged false mac run (new ++ log) := by
  obtain ⟨rsp, ind, start, parm, hsub, h⟩ := h
  exact ⟨rsp, ind, start, parm, hsub.trans (sublist_append_right new log), h⟩

theorem fine_nil : Fine [] where
  oneMac := nofun
  afterExchange cnf older h := by simp at h

theorem AfterExchange.cons (h : AfterExchange false log)
    (hx : ∀ mac run, x.matchCnf = some (mac, run) → Exchanged false mac run log) :
    AfterExchange false (x :: log) := by
  intro cnf older hsuf mac run hcnf
  rcases suffix_cons_iff.1 hsuf with heq | hsuf
  · cases heq
    exact hx mac run hcnf
  · exact h cnf older hsuf mac run hcnf

theorem isAttenCharInd_taken (h : x.isAttenCharInd false mac run) (hx : x.refusedInd = false) :
    x.isAttenCharInd true mac run := by
  unfold isAttenCharInd at h ⊢
  split at h
  · simp only [refusedInd, Bool.not_eq_false'] at hx
    simpa [hx] using h
  · cases h

/-- Where the transport takes every indication, what was handed to it was sent. -/
theorem AfterExchange.taken (h : AfterExchange false log)
    (ht : ∀ x ∈ log, x.refusedInd = false) : AfterExchange true log := by
  intro cnf older hsuf mac run hcnf
  obtain ⟨rsp, ind, start, parm, hsub, hrsp, hind, h⟩ := h cnf older hsuf mac run hcnf
  refine ⟨rsp, ind, start, parm, hsub, hrsp, isAttenCharInd_taken hind (ht ind ?_), h⟩
  exact hsuf.subset (mem_cons_of_mem cnf (hsub.subset (by simp)))

theorem Fine.cons_quiet (h : Fine log) (hx : x.matchCnf = none) : Fine (x :: log) where
  oneMac := by
    rw [OneMac, filterMap_cons_none hx]
    exact h.oneMac
  afterExchange := h.afterExchange.cons (by simp [hx])

theorem matchCnf_of_quiet (h : x.quiet) : x.matchCnf = none := by
  simpa using (Bool.and_eq_true_iff.1 h).2

theorem ne_of_quiet (h : x.quiet) : x ≠ .enteredMatching := by
  simpa using (Bool.and_eq_true_iff.1 h).1

theorem Fine.append_quiet (h : Fine log) :
    ∀ {new : List Trace}, (∀ x ∈ new, x.quiet) → Fine (new ++ log)
  | [], _ => h
  | _ :: _, hq => (h.append_quiet (forall_mem_cons.1 hq).2).cons_quiet
      (matchCnf_of_quiet (forall_mem_cons.1 hq).1)

theorem matchCnf_cons (hx : x.matchCnf = some (mac, run))
    (hmac : ∀ p ∈ log.filterMap matchCnf, p.1 = mac) :
    ∀ p ∈ (x :: log).filterMap matchCnf, p.1 = mac := by
  rw [filterMap_cons_some hx]
  exact forall_mem_cons.2 ⟨rfl, hmac⟩

theorem Fine.cons_matchCnf (h : Fine log) (hx : x.matchCnf = some (mac, run))
    (hmac : ∀ p ∈ log.filterMap matchCnf, p.1 = mac) (hex : Exchanged false mac run log) :
    Fine (x :: log) where
  oneMac p hp q hq := by rw [matchCnf_cons hx hmac p hp, matchCnf_cons hx hmac q hq]
  afterExchange := h.afterExchange.cons fun _ _ hcnf => by
    cases hx.symm.trans hcnf
    exact hex

/-! ## What is added to the history -/

/-- The part of the history that the invariants are about. -/
def Context.segment (c : Context) : List Trace := sinceMatching c.log

theorem segment_send (mac : MacAddress) (frame : Frame) (c : Context) :
    (c.send mac frame).segment = .sent mac frame (c.env.delivers mac frame) :: c.segment := by
  simp [Context.segment, sinceMatching, Context.send, Context.record]

variable {new : List Trace}

theorem segment_append {a b : Context} (hlog : b.log = new ++ a.log)
    (hq : ∀ x ∈ new, x.quiet) : b.segment = new ++ a.segment := by
  unfold Context.segment sinceMatching
  rw [hlog, takeWhile_append_of_pos]
  intro x hx
  simpa using ne_of_quiet (hq x hx)

/-- From `c` to `c'` the history grew by the entries `new`. -/
structure Adds (c c' : Context) (new : List Trace) : Prop where
  log : c'.log = new ++ c.log
  cache : c'.matchConfirmCache = c.matchConfirmCache
  quiet : ∀ x ∈ new, x.quiet = true

namespace Adds

variable {a b c : Context} {new new' : List Trace}

theorem refl (c : Context) : Adds c c [] := ⟨rfl, rfl, nofun⟩

theorem trans (h : Adds a b new) (h' : Adds b c new') : Adds a c (new' ++ new) where
  log := by rw [h'.log, h.log, append_assoc]
  cache := h'.cache.trans h.cache
  quiet := forall_mem_append.2 ⟨h'.quiet, h.quiet⟩

theorem segment (h : Adds a b new) : b.segment = new ++ a.segment :=
  segment_append h.log h.quiet

theorem record {t : Trace} (ht : t.quiet) (c : Context) : Adds c (c.record t) [t] :=
  ⟨rfl, rfl, forall_mem_singleton.2 ht⟩

theorem send (mac : MacAddress) (frame : Frame) (c : Context)
    (h : ∀ taken, (sent mac frame taken).quiet) :
    Adds c (c.send mac frame) [.sent mac frame (c.env.delivers mac frame)] :=
  record (h _) c

end Adds

/-! ## Sessions -/

/-- Whose session it is. -/
def Session.identity (s : Session) : MacAddress × RunId := (s.data.evMac, s.data.runId)

/-- A `CM_START_ATTEN_CHAR.IND` in time for `parm`, with no indication before it. -/
def Started (mac : MacAddress) (run : RunId) (parm : Trace) (since : List Trace) : Prop :=
  ∃ newer start older, since = newer ++ start :: older ∧ start.isStartAttenChar mac run = true ∧
    start.time ≤ parm.time + ttMatchSequenceMs * 1000 ∧
    ∀ x ∈ older, x.isAttenCharInd false mac run = false

/-- The messages after `parm`, up to the response. -/
def Answered (mac : MacAddress) (run : RunId) (parm : Trace) (since : List Trace) :
    Prop :=
  ∃ rsp ind start, [rsp, ind, start].Sublist since ∧ rsp.isAttenCharRsp mac run = true ∧
    ind.isAttenCharInd false mac run = true ∧ start.isStartAttenChar mac run = true ∧
    start.time ≤ parm.time + ttMatchSequenceMs * 1000

/-- What the state of a session stands for. -/
def Phase (mac : MacAddress) (run : RunId) (parm : Trace) (since : List Trace) :
    SessionState → Prop
  | .waitStartAtten timer => timer = Timer.arm parm.time ttMatchSequenceMs ∧
      ∀ x ∈ since, x.isAttenCharInd false mac run = false
  | .sounding _ | .finalizeSounding _ => Started mac run parm since
  | .waitAttenRsp _ => Started mac run parm since ∧
      ∃ x ∈ since, x.isAttenCharInd false mac run = true
  | .waitSlacMatch _ _ => Answered mac run parm since
  | .matchComplete | .failed => True

/-- The history since the request that the session started with. -/
structure Begun (mac : MacAddress) (run : RunId) (parm : Trace) (since log : List Trace) :
    Prop where
  request : parm.isSlacParmReq mac run = true
  last : ∀ x ∈ since, x.isSlacParmReq mac run = false
  split : ∃ older, log = since ++ parm :: older

/-- The invariant of a session. -/
def SessionInv (s : Session) (log : List Trace) : Prop :=
  ∃ parm since, Begun s.data.evMac s.data.runId parm since log ∧
    Phase s.data.evMac s.data.runId parm since s.state

theorem Begun.cons (h : Begun mac run parm since log) (hx : x.isSlacParmReq mac run = false) :
    Begun mac run parm (x :: since) (x :: log) where
  request := h.request
  last := forall_mem_cons.2 ⟨hx, h.last⟩
  split := h.split.imp fun older heq => by rw [heq]; rfl

theorem Started.cons (h : Started mac run parm since) (x : Trace) :
    Started mac run parm (x :: since) := by
  obtain ⟨newer, start, older, rfl, h⟩ := h
  exact ⟨x :: newer, start, older, rfl, h⟩

/-- The entry is about another session. -/
structure Foreign (mac : MacAddress) (run : RunId) (x : Trace) : Prop where
  parmReq : x.isSlacParmReq mac run = false
  ind : x.isAttenCharInd false mac run = false

theorem Phase.cons {state : SessionState} (h : Phase mac run parm since state)
    (hx : x.isAttenCharInd false mac run = false) :
    Phase mac run parm (x :: since) state := by
  cases state with
  | waitStartAtten =>
    exact ⟨h.1, forall_mem_cons.2 ⟨hx, h.2⟩⟩
  | sounding | finalizeSounding => exact Started.cons h x
  | waitAttenRsp =>
    exact ⟨h.1.cons x, h.2.imp fun y hy => ⟨mem_cons_of_mem x hy.1, hy.2⟩⟩
  | waitSlacMatch =>
    obtain ⟨rsp, ind, start, hsub, h⟩ := h
    exact ⟨rsp, ind, start, hsub.cons x, h⟩
  | matchComplete | failed => trivial

theorem SessionInv.cons (h : SessionInv s log) (hx : Foreign s.data.evMac s.data.runId x) :
    SessionInv s (x :: log) := by
  obtain ⟨parm, since, hb, hp⟩ := h
  exact ⟨parm, x :: since, hb.cons hx.parmReq, hp.cons hx.ind⟩

/-- **What other sessions send and receive is no part of the exchange.** -/
theorem SessionInv.append (h : SessionInv s log) : ∀ {new : List Trace},
      (∀ x ∈ new, Foreign s.data.evMac s.data.runId x) → SessionInv s (new ++ log)
  | [], _ => h
  | _ :: _, hf => (h.append (forall_mem_cons.1 hf).2).cons (forall_mem_cons.1 hf).1

/-! ### Update -/

/-- Sessions that keep their identity, and are matched or not as before. -/
structure SameSession (s s' : Session) : Prop where
  identity : s'.identity = s.identity
  matched : s'.matched = s.matched

theorem isAttenCharInd_sendAttenChar (d : MatchingSessionData) (offset : Int) (taken : Bool) :
    (sent d.evMac (.attenCharInd (d.createAttenCharInd offset)) taken).isAttenCharInd false
      d.evMac d.runId := by
  simp [isAttenCharInd, createAttenCharInd]

theorem foreign_ind {d : MatchingSessionData} {offset : Int} {taken : Bool}
    (h : (d.evMac, d.runId) ≠ (mac, run)) :
    Foreign mac run (.sent d.evMac (.attenCharInd (d.createAttenCharInd offset)) taken) where
  parmReq := rfl
  ind := by
    rw [Ne, Prod.mk.injEq, not_and_or] at h
    rcases h with h | h <;>
      simp [isAttenCharInd, createAttenCharInd, h]

/-- What `update` does to a session. -/
structure Updates (s : Session) (c : Context) (o : Session × Context)
    (new : List Trace) : Prop where
  same : SameSession s o.1
  adds : Adds c o.2 new
  foreign : ∀ mac run, s.identity ≠ (mac, run) → ∀ x ∈ new, Foreign mac run x
  inv : SessionInv s c.segment → SessionInv o.1 o.2.segment

theorem Updates.silent (h : SameSession s s')
    (hinv : SessionInv s c.segment → SessionInv s' c.segment) :
    Updates s c (s', c) [] :=
  ⟨h, .refl c, nofun, hinv⟩

/-- The states that wait for a response have started, and stay started with an indication. -/
theorem Updates.indicates (h : SameSession s s')
    (hd : s'.data.evMac = s.data.evMac ∧ s'.data.runId = s.data.runId)
    (hst : ∃ timer, s'.state = .waitAttenRsp timer)
    (hs : ∀ parm since, Phase s.data.evMac s.data.runId parm since s.state →
      Started s.data.evMac s.data.runId parm since) :
    ∃ new, Updates s c (s', sendAttenChar s.data c) new := by
  refine ⟨_, h, .send _ _ c fun _ => rfl, ?_, ?_⟩
  · exact fun mac run hne => forall_mem_singleton.2 (foreign_ind hne)
  · rintro ⟨parm, since, hb, hp⟩
    obtain ⟨timer, ht⟩ := hst
    have hind := isAttenCharInd_sendAttenChar s.data c.config.soundingAttenAdjustment
      (c.env.delivers s.data.evMac
        (.attenCharInd (s.data.createAttenCharInd c.config.soundingAttenAdjustment)))
    rw [SessionInv, hd.1, hd.2, ht]
    refine ⟨parm, _ :: since, ?_, (hs parm since hp).cons _, _, mem_cons_self, hind⟩
    exact hb.cons rfl

theorem SessionInv.of_phase (h : SessionInv s log)
    (hd : s'.data.evMac = s.data.evMac ∧ s'.data.runId = s.data.runId)
    (hph : ∀ parm since, Phase s.data.evMac s.data.runId parm since s.state →
      Phase s.data.evMac s.data.runId parm since s'.state) :
    SessionInv s' log := by
  obtain ⟨parm, since, hb, hp⟩ := h
  rw [SessionInv, hd.1, hd.2]
  exact ⟨parm, since, hb, hph parm since hp⟩

/-- **A session on `update`.** -/
theorem onUpdate_updates (s : Session) (c : Context) :
    ∃ new, Updates s c (s.onUpdate c) new := by
  obtain ⟨data, state⟩ := s
  have hid : ∃ new, Updates ⟨data, state⟩ c (⟨data, state⟩, c) new :=
    ⟨[], .silent ⟨rfl, rfl⟩ id⟩
  have hf : state ≠ .matchComplete →
      ∃ new, Updates ⟨data, state⟩ c (⟨data, .failed⟩, c) new := fun hs =>
    ⟨[], .silent ⟨rfl, by simp [matched, hs]⟩ fun h =>
      h.of_phase ⟨rfl, rfl⟩ fun _ _ _ => trivial⟩
  unfold onUpdate
  cases state with
  | waitStartAtten | waitSlacMatch =>
    dsimp only
    split
    · exact hf nofun
    · exact hid
  | sounding =>
    dsimp only
    split
    · exact ⟨[], .silent ⟨rfl, rfl⟩ fun h => h.of_phase ⟨rfl, rfl⟩ fun _ _ hp => hp⟩
    · exact hid
  | finalizeSounding =>
    dsimp only
    split
    · exact Updates.indicates ⟨rfl, rfl⟩ ⟨rfl, rfl⟩ ⟨_, rfl⟩ fun _ _ hp => hp
    · exact hid
  | waitAttenRsp =>
    dsimp only
    split_ifs
    · exact hf nofun
    · exact Updates.indicates ⟨rfl, rfl⟩ ⟨rfl, rfl⟩ ⟨_, rfl⟩ fun _ _ hp => hp.1
    · exact hid
  | matchComplete | failed => exact hid

/-! ### Messages -/

/-- An indication is never before the start. -/
theorem Started.answered {rsp ind : Trace} (h : Started mac run parm since) (hmem : ind ∈ since)
    (hind : ind.isAttenCharInd false mac run) (hrsp : rsp.isAttenCharRsp mac run) :
    Answered mac run parm (rsp :: since) := by
  obtain ⟨newer, start, older, rfl, hst, ht, hno⟩ := h
  have hne : ind ∈ newer := by
    rcases mem_append.1 hmem with hmem | hmem
    · exact hmem
    · rcases mem_cons.1 hmem with rfl | hmem
      · unfold isAttenCharInd at hind
        split at hind
        · cases hst
        · cases hind
      · simp [hno ind hmem] at hind
  have hsub : [ind, start].Sublist (newer ++ start :: older) :=
    (singleton_sublist.2 hne).append (singleton_sublist.2 mem_cons_self)
  exact ⟨rsp, ind, start, hsub.cons_cons rsp, hrsp, hind, hst, ht⟩

/-- The session answers the message with a `CM_SLAC_MATCH.CNF`. -/
def Session.answers (m : Message) (s : Session) : Bool :=
  match s.state, m.payload with
  | .waitSlacMatch _ _, .slacMatchReq req => s.data.validateSlacMatchReq req
  | _, _ => false

/-- **A session that does not answer keeps its invariant**, once the message is in the history. -/
theorem onMessage_inv {m : Message} (hlog : c.segment = .received c.now m :: log)
    (hinv : SessionInv s log)
    (hpa : ∀ mac run, (received c.now m).isSlacParmReq mac run = false)
    (hans : s.answers m = false) :
    SameSession s (s.onMessage m c).1 ∧ (s.onMessage m c).2 = c ∧
      SessionInv (s.onMessage m c).1 c.segment := by
  have hf : Foreign s.data.evMac s.data.runId (.received c.now m) := ⟨hpa _ _, rfl⟩
  have hk : SessionInv s c.segment := hlog ▸ hinv.cons hf
  obtain ⟨parm, since, hb, hp⟩ := hinv
  have hb' := hlog ▸ hb.cons hf.parmReq
  obtain ⟨data, state⟩ := s
  obtain ⟨src, payload⟩ := m
  unfold onMessage
  dsimp only at hp hb hb' hans ⊢
  split
  case h_1 timer ind =>
    split_ifs with hok
    · obtain ⟨hexp, hv⟩ := Bool.and_eq_true_iff.1 hok
      refine ⟨⟨rfl, rfl⟩, rfl, parm, _, hb', [], _, since, rfl, hv, ?_, hp.2⟩
      rw [hp.1] at hexp
      exact Int.not_lt.1 (of_decide_eq_false (Bool.not_eq_true' _ ▸ hexp))
    · exact ⟨⟨rfl, rfl⟩, rfl, hk⟩
  case h_2 timer ind =>
    split_ifs
    · exact ⟨⟨rfl, rfl⟩, rfl, hk.of_phase ⟨rfl, rfl⟩ fun _ _ h => h⟩
    · exact ⟨⟨rfl, rfl⟩, rfl, hk.of_phase ⟨rfl, rfl⟩ fun _ _ h => h⟩
    · exact ⟨⟨rfl, rfl⟩, rfl, hk⟩
  case h_3 timer rsp =>
    split_ifs with hv
    · obtain ⟨hst, x, hmem, hx⟩ := hp
      exact ⟨⟨rfl, rfl⟩, rfl, parm, _, hb', hst.answered hmem hx hv⟩
    · exact ⟨⟨rfl, rfl⟩, rfl, hk⟩
  case h_4 timer window req =>
    rw [if_neg (by simpa [answers] using hans)]
    exact ⟨⟨rfl, rfl⟩, rfl, hk⟩
  case h_5 => exact ⟨⟨rfl, rfl⟩, rfl, hk⟩

/-! ## All sessions together -/

theorem pipe_append (f : Session → Context → Session × Context) (ss ss' : List Session)
    (c : Context) : pipe f (ss ++ ss') c =
      ((pipe f ss c).1 ++ (pipe f ss' (pipe f ss c).2).1, (pipe f ss' (pipe f ss c).2).2) := by
  induction ss generalizing c with
  | nil => rfl
  | cons s ss ih => simp [pipe, ih]

/-- Sessions that leave the context alone do not notice each other. -/
theorem pipe_const {f : Session → Context → Session × Context} (h : ∀ s ∈ ss, (f s c).2 = c) :
    pipe f ss c = (ss.map fun s => (f s c).1, c) := by
  induction ss with
  | nil => rfl
  | cons s ss ih =>
    have hs : (f s c).2 = c := h s mem_cons_self
    have hss := ih fun s' hs' => h s' (mem_cons_of_mem s hs')
    simp [pipe, hs, hss]

theorem pipe_id {f : Session → Context → Session × Context} (h : ∀ s ∈ ss, f s c = (s, c)) :
    pipe f ss c = (ss, c) := by
  rw [pipe_const fun s hs => by rw [h s hs], map_congr_left fun s hs => by rw [h s hs]]
  simp

/-- What `update` does to all sessions. -/
structure UpdatesAll (ss : List Session) (c : Context)
    (o : List Session × Context) (new : List Trace) : Prop where
  identities : o.1.map identity = ss.map identity
  matched : o.1.any matched = ss.any matched
  adds : Adds c o.2 new
  foreign : ∀ mac run, (∀ s ∈ ss, s.identity ≠ (mac, run)) → ∀ x ∈ new, Foreign mac run x
  inv : (∀ s ∈ ss, SessionInv s c.segment) → ∀ s ∈ o.1, SessionInv s o.2.segment

/-- **All sessions on `update`**: the indications of one are foreign to the others. -/
theorem pipe_updates : ∀ (ss : List Session) (c : Context),
    (ss.map identity).Nodup → ∃ new, UpdatesAll ss c (pipe onUpdate ss c) new
  | [], c, _ => ⟨[], rfl, rfl, .refl c, nofun, fun _ => nofun⟩
  | s :: ss, c, hno => by
    obtain ⟨hnot, hno⟩ := nodup_cons.1 hno
    obtain ⟨new, hs⟩ := onUpdate_updates s c
    obtain ⟨new', hss⟩ := pipe_updates ss (s.onUpdate c).2 hno
    have ho : ∀ s' ∈ ss, s'.identity ≠ s.identity := fun s' hs' heq =>
      hnot (heq ▸ mem_map_of_mem hs')
    refine ⟨new' ++ new, ?_, ?_, hs.adds.trans hss.adds, ?_, ?_⟩
    · simp [pipe, hs.same.identity, hss.identities]
    · simp [pipe, hs.same.matched, hss.matched]
    · intro mac run hne
      rw [forall_mem_cons] at hne
      exact forall_mem_append.2 ⟨hss.foreign mac run hne.2, hs.foreign mac run hne.1⟩
    · intro hinv
      rw [forall_mem_cons] at hinv
      refine forall_mem_cons.2 ⟨?_, hss.inv fun s' hs' => ?_⟩
      · show SessionInv (s.onUpdate c).1 (pipe onUpdate ss (s.onUpdate c).2).2.segment
        rw [hss.adds.segment]
        refine (hs.inv hinv.1).append (hss.foreign _ _ fun s' hs' heq => ho s' hs' ?_)
        exact heq.trans hs.same.identity
      · rw [hs.adds.segment]
        exact (hinv.2 s' hs').append (hs.foreign _ _ fun heq => ho s' hs' heq.symm)

/-! ## `Matching` -/

/-- The cached `CM_SLAC_MATCH.CNF` is that of its session, and goes where all others went, after its
exchange. -/
def Keyed (c : Context) : Prop :=
  ∃ cache, c.matchConfirmCache = some cache ∧ cache.message.runId = cache.runId ∧
    (∀ p ∈ c.segment.filterMap matchCnf, p.1 = cache.evMac) ∧
    Exchanged false cache.evMac cache.message.runId c.segment

theorem filterMap_quiet (h : ∀ x ∈ new, x.quiet) (log : List Trace) :
    (new ++ log).filterMap matchCnf = log.filterMap matchCnf := by
  rw [filterMap_append, filterMap_eq_nil_iff.2 fun x hx => matchCnf_of_quiet (h x hx), nil_append]

theorem Keyed.adds (h : Keyed c) (had : Adds c c' new) : Keyed c' := by
  obtain ⟨cache, hca, hrun, hmac, hex⟩ := h
  refine ⟨cache, had.cache.trans hca, hrun, ?_⟩
  rw [had.segment, filterMap_quiet had.quiet]
  exact ⟨hmac, hex.mono new⟩

/-- The invariant of `Matching`. -/
structure MatchingSound (m : Matching) (c : Context) : Prop where
  region : m.region = .init
  nodup : (m.sessions.map identity).Nodup
  sessions : ∀ s ∈ m.sessions, SessionInv s c.segment
  matched : m.anySessionMatched = true → Keyed c
  unmatched : m.anySessionMatched = false → c.segment.filterMap matchCnf = []

/-- From `c` to `c'` nothing was added that is about a session. -/
def Neutral (c c' : Context) : Prop :=
  ∃ new, Adds c c' new ∧ ∀ x ∈ new, ∀ mac run, Foreign mac run x

theorem Neutral.refl (c : Context) : Neutral c c := ⟨[], .refl c, nofun⟩

theorem Neutral.send {frame : Frame} (mac : MacAddress) (c : Context)
    (h : ∀ taken, (sent mac frame taken).quiet)
    (hind : ∀ ind, frame ≠ .attenCharInd ind) : Neutral c (c.send mac frame) := by
  refine ⟨_, .send mac frame c h, forall_mem_singleton.2 fun mac' run => ⟨rfl, ?_⟩⟩
  unfold isAttenCharInd
  split
  · next ind _ heq =>
    cases heq
    exact absurd rfl (hind ind)
  · rfl

theorem MatchingSound.neutral (h : MatchingSound m c) (hn : Neutral c c') :
    MatchingSound m c' := by
  obtain ⟨new, had, hf⟩ := hn
  refine ⟨h.region, h.nodup, fun s hs => ?_, fun hm => (h.matched hm).adds had, fun hm => ?_⟩
  · rw [had.segment]
    exact (h.sessions s hs).append fun x hx => hf x hx _ _
  · rw [had.segment, filterMap_quiet had.quiet]
    exact h.unmatched hm

/-! ### Update -/

theorem neutral_tick (v : ValidateHandler) (c : Context) : Neutral c (v.tick c).2.1 := by
  unfold ValidateHandler.tick
  split_ifs
  · exact .send _ c (fun _ => rfl) nofun
  · exact .send _ c (fun _ => rfl) nofun
  · exact .refl c
  · exact .refl c

/-- Sessions with the same identities and the same invariants. -/
structure Tends (ss ss' : List Session) : Prop where
  identities : ss'.map identity = ss.map identity
  matched : ss'.any matched = ss.any matched
  inv : ∀ log, (∀ s ∈ ss, SessionInv s log) → ∀ s ∈ ss', SessionInv s log

theorem Tends.refl (ss : List Session) : Tends ss ss :=
  ⟨rfl, rfl, fun _ h => h⟩

theorem tends_armValidationWindow (now : Int) (p : Session → Bool)
    (ss : List Session) :
    Tends ss (ss.map fun s => if p s then Matching.armValidationWindow now s else s) := by
  have hone : ∀ s : Session, SameSession s (if p s then Matching.armValidationWindow now s else s) ∧
      ∀ log, SessionInv s log →
        SessionInv (if p s then Matching.armValidationWindow now s else s) log := by
    rintro ⟨data, state⟩
    split
    · cases state with
      | waitSlacMatch =>
        exact ⟨⟨rfl, rfl⟩, fun log h => h.of_phase ⟨rfl, rfl⟩ fun _ _ hp => hp⟩
      | _ => exact ⟨⟨rfl, rfl⟩, fun log h => h⟩
    · exact ⟨⟨rfl, rfl⟩, fun log h => h⟩
  refine ⟨?_, ?_, fun log hinv s' hs' => ?_⟩
  · rw [map_map]
    exact map_congr_left fun s _ => (hone s).1.identity
  · rw [any_map]
    congr 1
    funext s
    exact (hone s).1.matched
  · obtain ⟨s, hs, rfl⟩ := mem_map.1 hs'
    exact (hone s).2 log (hinv s hs)

theorem serveValidate_tends (m : Matching) (c : Context) :
    (m.serveValidate c).1.region = m.region ∧ Neutral c (m.serveValidate c).2 ∧
      Tends m.sessions (m.serveValidate c).1.sessions := by
  unfold Matching.serveValidate
  split
  · refine ⟨rfl, neutral_tick m.validate c, ?_⟩
    unfold Matching.validateTick
    dsimp only
    split
    · exact .refl _
    · exact tends_armValidationWindow _ _ _
  · exact ⟨rfl, .refl c, .refl _⟩

theorem MatchingSound.tends {m' : Matching} (h : MatchingSound m c)
    (hreg : m'.region = m.region) (ht : Tends m.sessions m'.sessions) :
    MatchingSound m' c where
  region := hreg.trans h.region
  nodup := ht.identities ▸ h.nodup
  sessions := ht.inv _ h.sessions
  matched hm := h.matched (ht.matched.symm.trans hm)
  unmatched hm := h.unmatched (ht.matched.symm.trans hm)

theorem pipeUpdate_sound (c : Context) (hno : (m.sessions.map identity).Nodup) :
    (m.pipeUpdate c).1.region = m.region ∧ (∃ new, Adds c (m.pipeUpdate c).2 new) ∧
      (m.pipeUpdate c).1.anySessionMatched = m.anySessionMatched ∧
      (MatchingSound m c → MatchingSound (m.pipeUpdate c).1 (m.pipeUpdate c).2) := by
  obtain ⟨new, h⟩ := pipe_updates m.sessions c hno
  refine ⟨rfl, ⟨new, h.adds⟩, h.matched, fun hm => ⟨hm.region, ?_, h.inv hm.sessions, ?_, ?_⟩⟩
  · exact h.identities ▸ hm.nodup
  · exact fun hmat => (hm.matched (h.matched.symm.trans hmat)).adds h.adds
  · intro hmat
    rw [show (m.pipeUpdate c).2.segment = new ++ c.segment from h.adds.segment,
      filterMap_quiet h.adds.quiet]
    exact hm.unmatched (h.matched.symm.trans hmat)

theorem Neutral.adds (h : Neutral c c') : ∃ new, Adds c c' new :=
  h.imp fun _ hn => hn.1

theorem adds_trans {a b : Context} (h : ∃ new, Adds a b new) (h' : ∃ new, Adds b c new) :
    ∃ new, Adds a c new := by
  obtain ⟨new, h⟩ := h
  obtain ⟨new', h'⟩ := h'
  exact ⟨new' ++ new, h.trans h'⟩

/-- **`Matching` on `update`**: it ends once a session is matched. -/
theorem matching_update (h : MatchingSound m c) :
    (∃ new, Adds c (m.onUpdate c).2 new) ∧
      (m.anySessionMatched → (m.onUpdate c).1.region = .matched) ∧
      (m.anySessionMatched = false → (m.onUpdate c).1.region = .failed ∨
        (MatchingSound (m.onUpdate c).1 (m.onUpdate c).2 ∧
          (m.onUpdate c).1.anySessionMatched = false)) := by
  -- the regions `Listen` and `Pipe`, after any decision of the first one
  have hre : ∀ {m₁ : Matching}, m.conclude c = m₁ →
      (m₁.sessions.map identity).Nodup → (m.onUpdate c).1.region = m₁.region ∧
        (∃ new, Adds c (m.onUpdate c).2 new) ∧ (MatchingSound m₁ c →
          MatchingSound (m.onUpdate c).1 (m.onUpdate c).2 ∧
            (m.onUpdate c).1.anySessionMatched = m₁.anySessionMatched) := by
    rintro m₁ rfl hno
    obtain ⟨hreg, hn, ht⟩ := serveValidate_tends (m.conclude c) c
    obtain ⟨hreg', had', hmat', hs'⟩ := pipeUpdate_sound
      (m := ((m.conclude c).serveValidate c).1) ((m.conclude c).serveValidate c).2
      (ht.identities ▸ hno)
    refine ⟨hreg'.trans hreg, adds_trans hn.adds had', fun h₁ => ⟨?_, ?_⟩⟩
    · exact hs' ((h₁.neutral hn).tends hreg ht)
    · exact hmat'.trans ht.matched
  have hcon : m.conclude c = if m.anySessionMatched then { m with region := .matched }
      else if m.shouldFail c then { m with region := .failed }
      else if m.shouldReset c then m.resetMatchingSubfsm c else m :=
    if_neg (not_not_intro h.region)
  by_cases hm : m.anySessionMatched
  · rw [if_pos hm] at hcon
    obtain ⟨hreg, had, -⟩ := hre hcon h.nodup
    exact ⟨had, fun _ => hreg, fun hm' => absurd hm (by simp [hm'])⟩
  rw [if_neg hm] at hcon
  have hm' : m.anySessionMatched = false := by simpa using hm
  split_ifs at hcon with hf hr
  · obtain ⟨hreg, had, -⟩ := hre hcon h.nodup
    exact ⟨had, fun hm' => absurd hm' hm, fun _ => .inl hreg⟩
  · obtain ⟨-, had, hs⟩ := hre hcon nodup_nil
    have hrs : MatchingSound (m.resetMatchingSubfsm c) c :=
      ⟨h.region, nodup_nil, nofun, nofun, fun _ => h.unmatched hm'⟩
    exact ⟨had, fun hm' => absurd hm' hm, fun _ => .inr (hs hrs)⟩
  · obtain ⟨-, had, hs⟩ := hre hcon h.nodup
    obtain ⟨hs, hmat⟩ := hs h
    exact ⟨had, fun hm' => absurd hm' hm, fun _ => .inr ⟨hs, hmat.trans hm'⟩⟩

/-! ### Messages -/

/-- The context once a frame is in the history. -/
def Context.receive (msg : Message) (c : Context) : Context := c.record (.received c.now msg)

theorem Adds.receive (msg : Message) (c : Context) : Adds c (c.receive msg) [.received c.now msg] :=
  .record rfl c

theorem Neutral.receive (h : ∀ mac run, (received c.now msg).isSlacParmReq mac run = false) :
    Neutral c (c.receive msg) := by
  exact ⟨_, .receive msg c, forall_mem_singleton.2 fun mac run => ⟨h mac run, rfl⟩⟩

theorem Neutral.trans {a b : Context} (h : Neutral a b) (h' : Neutral b c) : Neutral a c := by
  obtain ⟨new, had, hf⟩ := h
  obtain ⟨new', had', hf'⟩ := h'
  exact ⟨new' ++ new, had.trans had', forall_mem_append.2 ⟨hf', hf⟩⟩

theorem Fine.adds (h : Fine c.segment) (had : ∃ new, Adds c c' new) :
    Fine c'.segment := by
  obtain ⟨new, had⟩ := had
  rw [had.segment]
  exact h.append_quiet had.quiet

theorem foreign_parmReq {req : SlacParmReq} (now : Int) (h : s.identity ≠ (src, req.runId)) :
    Foreign s.data.evMac s.data.runId (.received now ⟨src, .slacParmReq req⟩) where
  parmReq := by
    rw [Ne, identity, Prod.mk.injEq, not_and_or] at h
    rcases h with h | h <;> simp [isSlacParmReq, Ne.symm h]
  ind := rfl

/-- A session that starts, or starts over, next to sessions of others. -/
theorem startSession_sound {req : SlacParmReq} {d : MatchingSessionData}
    (h : MatchingSound m c) (hm : m.anySessionMatched = false)
    (hd : d.evMac = src ∧ d.runId = req.runId) (hv : validateSlacParmReq req)
    (hno : (ss.map identity).Nodup)
    (hss : ∀ s ∈ ss, s = start d c.now ∨ (s ∈ m.sessions ∧ s.identity ≠ (src, req.runId))) :
    let o := m.startSession ss d (c.receive ⟨src, .slacParmReq req⟩)
    MatchingSound o.1 o.2 ∧ ∃ new, Adds c o.2 new := by
  have hse := Adds.send d.evMac (.slacParmCnf d.createSlacParmCnf)
    (c.receive ⟨src, .slacParmReq req⟩) fun _ => rfl
  have had := (Adds.receive ⟨src, .slacParmReq req⟩ c).trans hse
  have hn : ss.any matched = false := by
    rw [any_eq_false]
    intro s hs
    rcases hss s hs with rfl | ⟨hs, -⟩
    · simp [start, matched]
    · exact any_eq_false.1 hm s hs
  refine ⟨⟨h.region, hno, fun s hs => ?_, fun hm' => ?_, fun _ => ?_⟩, _, had⟩
  · rw [show (m.startSession ss d _).2.segment = _ from had.segment]
    rcases hss s hs with rfl | ⟨hs, hne⟩
    · -- the request it starts with, and its confirmation
      refine ⟨.received c.now ⟨src, .slacParmReq req⟩, [_], ⟨?_, ?_, c.segment, rfl⟩, rfl, ?_⟩
      · simp [isSlacParmReq, start, hd.1, hd.2, hv]
      · exact forall_mem_singleton.2 rfl
      · exact forall_mem_singleton.2 rfl
    · refine (h.sessions s hs).append (forall_mem_cons.2 ⟨⟨rfl, rfl⟩, ?_⟩)
      exact forall_mem_singleton.2 (foreign_parmReq c.now hne)
  · exact absurd (hn.symm.trans hm') (by decide)
  · exact h.unmatched hm

/-- Sessions other than the one that is replaced have another identity. -/
theorem mem_set_identity {i : Nat} (hi : i < ss.length) (hno : (ss.map identity).Nodup)
    (hmem : s ∈ ss.set i s') : s = s' ∨ (s ∈ ss ∧ s.identity ≠ ss[i].identity) := by
  obtain ⟨j, hj, rfl⟩ := mem_iff_getElem.1 hmem
  rw [length_set] at hj
  rw [getElem_set]
  by_cases hij : i = j
  · exact .inl (if_pos hij)
  · rw [if_neg hij]
    refine .inr ⟨getElem_mem hj, fun heq => hij ?_⟩
    have hi' : i < (ss.map identity).length := by rwa [length_map]
    have hj' : j < (ss.map identity).length := by rwa [length_map]
    have hids : (ss.map identity)[i] = (ss.map identity)[j] := by
      rw [getElem_map, getElem_map, heq]
    exact (List.Nodup.getElem_inj_iff hno).1 hids

theorem addSession_sound (src : MacAddress) (req : SlacParmReq) (h : MatchingSound m c)
    (hm : m.anySessionMatched = false) :
    let o := m.addSession req src (c.receive ⟨src, .slacParmReq req⟩)
    MatchingSound o.1 o.2 ∧ ∃ new, Adds c o.2 new := by
  unfold Matching.addSession
  by_cases hv : validateSlacParmReq req
  · rw [if_neg (by simp [hv])]
    split
    · next i hf =>
      obtain ⟨hi, hp, -⟩ := List.findIdx?_eq_some_iff_getElem.1 hf
      have hid : m.sessions[i].identity = (src, req.runId) := by
        simpa [matchesIdentity, identity] using hp
      refine startSession_sound h hm ⟨rfl, rfl⟩ hv ?_ fun s hs => ?_
      · have hi' : i < (m.sessions.map identity).length := by rwa [length_map]
        have hsa := set_getElem_self hi'
        rw [getElem_map, hid] at hsa
        rw [map_set]
        exact hsa.symm ▸ h.nodup
      · exact hid ▸ mem_set_identity hi h.nodup hs
    · next hf =>
      have hno : ∀ s ∈ m.sessions, s.identity ≠ (src, req.runId) := by
        intro s hs heq
        obtain ⟨hmac, hrun⟩ := Prod.mk.inj heq
        have := List.findIdx?_eq_none_iff.1 hf s hs
        simp [matchesIdentity, hmac, hrun] at this
      split
      · -- no room for another session
        have had := Adds.receive ⟨src, .slacParmReq req⟩ c
        refine ⟨⟨h.region, h.nodup, fun s hs => ?_, fun hm' => ?_, fun _ => ?_⟩, _, had⟩
        · exact (h.sessions s hs).cons (foreign_parmReq c.now (hno s hs))
        · exact absurd (hm.symm.trans hm') (by decide)
        · exact h.unmatched hm
      · refine startSession_sound h hm ⟨rfl, rfl⟩ hv ?_ fun s hs => ?_
        · rw [map_append, nodup_append]
          refine ⟨h.nodup, nodup_singleton _, forall_mem_map.2 fun s hs => ?_⟩
          exact forall_mem_singleton.2 (hno s hs)
        · rcases mem_append.1 hs with hs | hs
          · exact .inr ⟨hs, hno s hs⟩
          · exact .inl (mem_singleton.1 hs)
  · rw [if_pos hv]
    have hn : Neutral c (c.receive ⟨src, .slacParmReq req⟩) := .receive fun mac run => by
      simp [isSlacParmReq, hv]
    exact ⟨h.neutral hn, hn.adds⟩

theorem handleReq_neutral (req : ValidateReq) (src : MacAddress) (v : ValidateHandler)
    (c : Context) : Neutral c (v.handleReq req src c).2 := by
  unfold ValidateHandler.handleReq
  split_ifs
  all_goals first | exact .refl c | exact .send src c (fun _ => rfl) nofun

theorem handleValidateReq_sound (req : ValidateReq) (src : MacAddress)
    (h : MatchingSound m c) :
    MatchingSound (m.handleValidateReq req src c).1 (m.handleValidateReq req src c).2 ∧
      Neutral c (m.handleValidateReq req src c).2 := by
  unfold Matching.handleValidateReq
  split
  · have hn := handleReq_neutral req src m.validate c
    exact ⟨(h.neutral hn).tends rfl (.refl _), hn⟩
  · exact ⟨h, .refl c⟩

/-- The exchange of a session that waits for its `CM_SLAC_MATCH.REQ`. -/
theorem SessionInv.exchanged (h : SessionInv s log) (hm : s.answers msg) :
    Exchanged false s.data.evMac s.data.runId log := by
  obtain ⟨parm, since, hb, hp⟩ := h
  unfold answers at hm
  split at hm
  · next hst _ =>
    rw [hst] at hp
    obtain ⟨rsp, ind, start, hsub, hrsp, hind, hs, ht⟩ := hp
    obtain ⟨older, rfl⟩ := hb.split
    have hpa : [parm].Sublist (parm :: older) := singleton_sublist.2 mem_cons_self
    exact ⟨rsp, ind, start, parm, hsub.append hpa, hrsp, hind, hs, ht, hb.request⟩
  · cases hm

theorem Session.answers_matchReq (h : s.answers msg) :
    ∃ src req, msg = ⟨src, .slacMatchReq req⟩ := by
  obtain ⟨src, payload⟩ := msg
  unfold answers at h
  split at h
  · next heq =>
    cases heq
    exact ⟨src, _, rfl⟩
  · cases h

theorem Session.answers_identity (h : s.answers ⟨src, .slacMatchReq req⟩) :
    s.identity = (req.pevMac, req.runId) := by
  unfold answers at h
  split at h
  · next heq =>
    cases heq
    simp only [validateSlacMatchReq, Bool.and_eq_true, decide_eq_true_eq] at h
    simp [identity, h]
  · cases h

theorem onMessage_matchReq (c : Context) :
    s.onMessage ⟨src, .slacMatchReq req⟩ c = if s.answers ⟨src, .slacMatchReq req⟩ then
        ({ s with state := .matchComplete }, matchCnf s.data req c)
      else (s, c) := by
  obtain ⟨data, state⟩ := s
  cases state <;> rfl

/-- **Exactly one session answers**: two of them would have the same identity. -/
theorem pipe_matchReq {ss' : List Session} (hno : ((ss ++ s :: ss').map identity).Nodup)
    (hs : s.answers ⟨src, .slacMatchReq req⟩) (c : Context) :
    pipe (onMessage ⟨src, .slacMatchReq req⟩) (ss ++ s :: ss') c =
      (ss ++ { s with state := .matchComplete } :: ss', matchCnf s.data req c) := by
  rw [map_append, map_cons, nodup_middle, nodup_cons] at hno
  have hnot : ∀ s' ∈ ss ++ ss', s'.answers ⟨src, .slacMatchReq req⟩ = false := by
    intro s' hs'
    rw [Bool.eq_false_iff]
    intro hs''
    refine hno.1 ?_
    rw [← map_append, answers_identity hs, ← answers_identity hs'']
    exact mem_map_of_mem hs'
  have ho : ∀ (t : List Session) (c : Context), (∀ s' ∈ t, s' ∈ ss ++ ss') →
      pipe (onMessage ⟨src, .slacMatchReq req⟩) t c = (t, c) := by
    intro t c ht
    refine pipe_id fun s' hs' => ?_
    rw [onMessage_matchReq, if_neg (by simp [hnot s' (ht s' hs')])]
  have hp : pipe (onMessage ⟨src, .slacMatchReq req⟩) (s :: ss') c =
      ({ s with state := .matchComplete } :: ss', matchCnf s.data req c) := by
    rw [pipe, onMessage_matchReq, if_pos hs]
    dsimp only
    rw [ho ss' _ fun s' hs' => mem_append_right ss hs']
  rw [pipe_append, ho ss c fun s' hs' => mem_append_left ss' hs']
  rw [hp]

theorem matchCnf_segment (d : MatchingSessionData) (req : SlacMatchReq) (c : Context) :
    ∃ x : Trace, (matchCnf d req c).segment = x :: c.segment ∧
      x.matchCnf = some (d.evMac, req.runId) ∧ ∀ mac run, Foreign mac run x := by
  have h := segment_send d.evMac (.slacMatchCnf (createSlacMatchCnf req
    (if c.config.debugSimulateFailedMatching then failedMatchSessionNmk
      else c.config.sessionNmk))) c
  exact ⟨_, h, rfl, fun _ _ => ⟨rfl, rfl⟩⟩

/-- The session that answers, and the others: the exclusive use of the key. -/
theorem matchReq_sound {ss' : List Session} (h : MatchingSound m c)
    (hm : m.anySessionMatched = false) (hss : m.sessions = ss ++ s :: ss')
    (hs : s.answers ⟨src, .slacMatchReq req⟩) (hf : Fine c.segment) :
    let c' := matchCnf s.data req (c.receive ⟨src, .slacMatchReq req⟩)
    MatchingSound { m with sessions := ss ++ { s with state := .matchComplete } :: ss' } c' ∧
      Fine c'.segment := by
  have hmem : s ∈ m.sessions := by simp [hss]
  obtain ⟨hmac, hrun⟩ := Prod.mk.inj (answers_identity hs)
  have hrec := Adds.receive ⟨src, .slacMatchReq req⟩ c
  have hn : Neutral c (c.receive ⟨src, .slacMatchReq req⟩) := .receive fun _ _ => rfl
  have hno : (c.receive ⟨src, .slacMatchReq req⟩).segment.filterMap matchCnf = [] := by
    exact h.unmatched hm
  have hex : Exchanged false s.data.evMac s.data.runId
      (c.receive ⟨src, .slacMatchReq req⟩).segment := by
    rw [hrec.segment]
    exact ((h.sessions s hmem).exchanged hs).mono _
  intro c'
  obtain ⟨x, hseg, hx, hfor⟩ :=
    matchCnf_segment s.data req (c.receive ⟨src, .slacMatchReq req⟩)
  rw [← hrun] at hx
  have hk : ∀ s' ∈ m.sessions, SessionInv s' c'.segment := by
    intro s' hs'
    rw [hseg]
    exact ((h.neutral hn).sessions s' hs').cons (hfor _ _)
  have hf' : Fine c'.segment := by
    rw [hseg]
    exact (hf.adds ⟨_, hrec⟩).cons_matchCnf hx (by simp [hno]) hex
  refine ⟨⟨h.region, ?_, fun s' hs' => ?_, fun _ => ?_, fun hm' => ?_⟩, hf'⟩
  · have := h.nodup
    rw [hss] at this
    simpa [identity] using this
  · rcases mem_append.1 hs' with hs' | hs'
    · exact hk s' (by simp [hss, hs'])
    · rcases mem_cons.1 hs' with rfl | hs'
      · exact (hk s hmem).of_phase ⟨rfl, rfl⟩ fun _ _ _ => trivial
      · exact hk s' (by simp [hss, hs'])
  · refine ⟨_, rfl, hrun.symm, ?_⟩
    rw [hseg]
    exact ⟨matchCnf_cons hx (by simp [hno]), hrun ▸ hex.mono [x]⟩
  · simp [Matching.anySessionMatched, matched] at hm'

theorem pipeMessage_sound (h : MatchingSound m c)
    (hp : ∀ mac run, (received c.now msg).isSlacParmReq mac run = false)
    (hans : ∀ s ∈ m.sessions, s.answers msg = false) :
    MatchingSound (m.pipeMessage msg (c.receive msg)).1
      (m.pipeMessage msg (c.receive msg)).2 ∧
      ∃ new, Adds c (m.pipeMessage msg (c.receive msg)).2 new := by
  have hn : Neutral c (c.receive msg) := .receive hp
  unfold Matching.pipeMessage
  split
  · exact ⟨h.neutral hn, hn.adds⟩
  · have hone := fun s hs => onMessage_inv (s := s) (c := c.receive msg)
      (Adds.receive msg c).segment
      (h.sessions s hs) hp (hans s hs)
    rw [pipe_const fun s hs => (hone s hs).2.1]
    have hmat :
        (m.sessions.map fun s => (s.onMessage msg (c.receive msg)).1).any matched =
        m.sessions.any matched := by
      rw [any_map, Bool.eq_iff_iff, any_eq_true, any_eq_true]
      refine exists_congr fun s => and_congr_right fun hs => ?_
      rw [Function.comp_apply, (hone s hs).1.matched]
    refine ⟨⟨h.region, ?_, fun s' hs' => ?_, fun hm => ?_, fun hm => ?_⟩, hn.adds⟩
    · have hids := map_congr_left fun s hs => (hone s hs).1.identity
      rw [map_map]
      exact hids ▸ h.nodup
    · obtain ⟨s, hs, rfl⟩ := mem_map.1 hs'
      exact (hone s hs).2.2
    · exact (h.neutral hn).matched (hmat.symm.trans hm)
    · exact (h.neutral hn).unmatched (hmat.symm.trans hm)

/-- No session listens for a `CM_SLAC_PARM.REQ`. -/
theorem pipeMessage_parmReq (src : MacAddress) (req : SlacParmReq) (m : Matching) (c : Context) :
    m.pipeMessage ⟨src, .slacParmReq req⟩ c = (m, c) := by
  have hid : pipe (onMessage ⟨src, .slacParmReq req⟩) m.sessions c = (m.sessions, c) :=
    pipe_id fun s _ => by
      obtain ⟨data, state⟩ := s
      cases state <;> rfl
  simp [Matching.pipeMessage, Matching.isValidateReq, hid]

/-- **`Matching` on `message`**, as long as no session is matched. -/
theorem matching_message (msg : Message) (h : MatchingSound m c)
    (hf : Fine c.segment) (hm : m.anySessionMatched = false) :
    MatchingSound (m.onMessage msg (c.receive msg)).1 (m.onMessage msg (c.receive msg)).2 ∧
      Fine (m.onMessage msg (c.receive msg)).2.segment := by
  obtain ⟨src, payload⟩ := msg
  unfold Matching.onMessage Matching.listen
  cases payload with
  | slacParmReq req =>
    obtain ⟨hso, had⟩ := addSession_sound src req h hm
    dsimp only
    rw [pipeMessage_parmReq]
    exact ⟨hso, hf.adds had⟩
  | validateReq req =>
    have hn : Neutral c (c.receive ⟨src, .validateReq req⟩) := .receive fun _ _ => rfl
    obtain ⟨hso, hn'⟩ := handleValidateReq_sound req src (h.neutral hn)
    exact ⟨hso, hf.adds (hn.trans hn').adds⟩
  | slacMatchReq req =>
    by_cases hany : ∃ s ∈ m.sessions, s.answers ⟨src, .slacMatchReq req⟩
    · obtain ⟨s, hs, hans⟩ := hany
      obtain ⟨ss, ss', hss⟩ := append_of_mem hs
      have hp := pipe_matchReq (hss ▸ h.nodup) hans (c.receive ⟨src, .slacMatchReq req⟩)
      dsimp only
      rw [Matching.pipeMessage, if_neg (by simp [Matching.isValidateReq]), hss, hp]
      exact matchReq_sound h hm hss hans hf
    · obtain ⟨hso, had⟩ := pipeMessage_sound h (fun _ _ => rfl) (by simpa using hany)
      exact ⟨hso, hf.adds had⟩
  | _ =>
    refine And.imp_right hf.adds (pipeMessage_sound h (fun _ _ => rfl) fun s _ => ?_)
    obtain ⟨data, state⟩ := s
    cases state <;> rfl

/-! ## Room for a new session -/

namespace Matching

/-- The sub-machine on a frame, or on `update`. -/
def step (m : Matching) : Context × Option Message → Matching
  | (c, some msg) => (m.onMessage msg c).1
  | (c, none) => (m.onUpdate c).1

/-- The sub-machine after the events since it was entered. -/
def after (entered : Context) (inputs : List (Context × Option Message)) : Matching :=
  Lib.Machine.run step (enter entered) inputs

/-- The sessions that have not failed. -/
def running (m : Matching) : Nat := m.sessions.countP fun s => !s.hasFailed

theorem length_pipe (f : Session → Context → Session × Context) :
    ∀ (ss : List Session) (c : Context), (pipe f ss c).1.length = ss.length
  | [], _ => rfl
  | s :: ss, c => congrArg (· + 1) (length_pipe f ss (f s c).2)

theorem length_step {limit : Int} (hpos : 0 < limit) (i : Context × Option Message)
    (hi : maxMatchingSessions i.1 = limit) (h : m.sessions.length ≤ limit) :
    (m.step i).sessions.length ≤ limit := by
  obtain ⟨c, _ | msg⟩ := i
  · have hcon : (m.conclude c).sessions.length ≤ limit := by
      unfold conclude resetMatchingSubfsm
      repeat' split
      all_goals first | exact h | exact Int.le_of_lt hpos
    have hser : ((m.conclude c).serveValidate c).1.sessions.length ≤ limit := by
      unfold serveValidate validateTick
      repeat' split
      all_goals simpa using hcon
    unfold step onUpdate pipeUpdate
    dsimp only
    rw [length_pipe]
    exact hser
  · have hl : (m.listen msg c).1.sessions.length ≤ limit := by
      unfold listen addSession startSession handleValidateReq
      repeat' split
      all_goals first
        | exact h
        | simp only [length_set, length_append, length_singleton] at *
          omega
    unfold step onMessage pipeMessage
    dsimp only
    split
    · exact hl
    · rw [length_pipe]
      exact hl

/-- There are never more sessions than the configuration allows. -/
theorem length_run {limit : Int} (hpos : 0 < limit) : ∀ (inputs : List (Context × Option Message)),
    (∀ i ∈ inputs, maxMatchingSessions i.1 = limit) → ∀ {m : Matching},
      m.sessions.length ≤ limit → (Lib.Machine.run step m inputs).sessions.length ≤ limit
  | [], _, _, h => h
  | i :: inputs, hi, _, h =>
    have hi := forall_mem_cons.1 hi
    length_run hpos inputs hi.2 (length_step hpos i hi.1 h)

end Matching

/-- **Dead sessions lock out no new ones just when there is room, or no session has failed**: in
every run with one configuration, a valid `CM_SLAC_PARM.REQ` of a new session is answered whenever
fewer than `max_matching_sessions` sessions run, iff `Matching` has fewer than that many sessions at
all or none of them has failed. -/
theorem parmReq_answered_iff (entered c : Context) (inputs : List (Context × Option Message))
    (hconfig : ∀ i ∈ inputs, i.1.config = c.config) (src : MacAddress) (req : SlacParmReq)
    (hv : validateSlacParmReq req = true)
    (hnew : ∀ s ∈ (Matching.after entered inputs).sessions,
      s.data.matchesIdentity src req.runId = false) :
    let m := Matching.after entered inputs
    (m.running < Matching.maxMatchingSessions c → ∃ cnf taken,
        (m.onMessage ⟨src, .slacParmReq req⟩ c).2.log =
          .sent src (.slacParmCnf cnf) taken :: c.log) ↔
      m.sessions.length < Matching.maxMatchingSessions c ∨
        ∀ s ∈ m.sessions, s.hasFailed = false := by
  intro m
  have hpos : 0 < Matching.maxMatchingSessions c := by
    unfold Matching.maxMatchingSessions
    omega
  have hle : m.sessions.length ≤ Matching.maxMatchingSessions c :=
    Matching.length_run hpos inputs
      (fun i hi => congrArg (max 1 ·.maxMatchingSessions) (hconfig i hi)) (Int.le_of_lt hpos)
  have hf : m.sessions.findIdx? (·.data.matchesIdentity src req.runId) = none := by
    rw [findIdx?_eq_none_iff]
    exact hnew
  have hru : m.running = m.sessions.length ↔ ∀ s ∈ m.sessions, s.hasFailed = false := by
    simp [Matching.running, countP_eq_length]
  have hru' : m.running ≤ m.sessions.length := countP_le_length
  rw [Matching.onMessage, Matching.listen, ← hru]
  dsimp only
  rw [pipeMessage_parmReq, Matching.addSession, if_neg (not_not.2 hv), hf]
  dsimp only
  split_ifs with hfull
  · have hno : ¬ ∃ cnf taken, c.log = Trace.sent src (.slacParmCnf cnf) taken :: c.log :=
      fun ⟨_, _, h⟩ => cons_ne_self _ _ h.symm
    simp only [hno, imp_false]
    omega
  · exact iff_of_true (fun _ => ⟨_, _, rfl⟩) (.inl (Int.not_le.1 hfull))

/-- At the time `now`, with room for so many sessions. -/
def atMost (sessions now : Int) : Context where
  config := { maxMatchingSessions := sessions }
  env := ⟨now, fun _ _ => true, 0, 0⟩
  evseMac := 1

/-- The EV 5 begins to sound, the EV 6 does not go on before `TT_match_sequence`. -/
def oneFails (sessions : Int) : Matching :=
  let start : StartAttenCharInd :=
    { numSounds := 10, timeout := 6, respType := 1, forwardingSta := 5, runId := 7 }
  .after (atMost sessions 0) [
    (atMost sessions 0, some ⟨5, .slacParmReq { runId := 7 }⟩),
    (atMost sessions 0, some ⟨6, .slacParmReq { runId := 8 }⟩),
    (atMost sessions 100000, some ⟨5, .startAttenCharInd start⟩), (atMost sessions 500000, none)]

/-- A third session has room beside one that runs and one that has failed. -/
theorem parmReq_answered_again :
    (oneFails 3).sessions.map (·.hasFailed) = [false, true] ∧
      ∃ cnf taken, ((oneFails 3).onMessage ⟨9, .slacParmReq { runId := 9 }⟩ (atMost 3 500000)).2.log
        = [.sent 9 (.slacParmCnf cnf) taken] :=
  ⟨by decide, (parmReq_answered_iff (atMost 3 0) (atMost 3 500000) _ (by simp [atMost]) 9
    { runId := 9 } rfl (by decide)).2 (.inl (by decide)) (by decide)⟩

/-- **The failed session takes the room of a new one.** -/
theorem failed_session_locks_out :
    (oneFails 2).running = 1 ∧ (oneFails 2).sessions.length = 2 ∧
      ((oneFails 2).onMessage ⟨9, .slacParmReq { runId := 9 }⟩ (atMost 2 500000)).2.log = [] := by
  decide

end EverestCore.Slac

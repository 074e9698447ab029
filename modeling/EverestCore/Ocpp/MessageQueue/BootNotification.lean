import EverestCore.Ocpp.MessageQueue.Effects

/-!
# BootNotifications

A BootNotification that was queued is on the normal queue or in flight until it is answered:
trimming skips it, and a failure puts it back on the queue. `handle_timeout_or_callerror` looks at
`check_queue` first, though. With `queue_all_messages` set and BootNotification not in the discard
set it is treated like any other queued message, and is dropped when it fails with its
`transaction_message_attempts` used up.

Results:
* `boot_notification_kept`: so does every run.
* `boot_notification_dropped`: a central system that does not answer for four and a half minutes
  loses the BootNotification.
-/

namespace EverestCore.Ocpp.MessageQueue

open EverestCore.Lib Ocpp.MessageType State

variable {M : Type} [MessageType M] [DecidableEq M]

/-- The BootNotification `r` is on the normal queue or in flight. -/
def Core.HoldsBoot (r : Nat) (c : Core M) : Prop :=
  ∃ m, (m ∈ c.normalMessageQueue ∨ c.inFlight = some m) ∧ m.isBoot = true ∧ m.ref = r

namespace State

/-- The step does not fail a BootNotification that the configuration queues and that has had its
attempts. -/
def sparesBoot (q : State M) (op : Op M) : Bool :=
  match q.failing op with
  | some m => !(m.isBoot && q.config.checkQueue m.messageType &&
      decide (q.config.transactionMessageAttempts ≤ m.messageAttempts))
  | none => true

/-- The step receives a CALLRESULT with the current id of the BootNotification `r`. -/
def answersBoot (r : Nat) (q : State M) (op : Op M) : Bool :=
  match op, q.inFlight with
  | .receive (.callResult id true) _, some m => m.ref == r && m.uniqueId == id
  | _, _ => false

end State

namespace Core.HoldsBoot

variable {r : Nat} {c c' : Core M} {m m' : ControlMessage M} {cfg : MessageQueueConfig M}

theorem trim {P : ControlMessage M → Prop} (ht : Trim cfg P c c') (h : c.HoldsBoot r) :
    c'.HoldsBoot r := by
  obtain ⟨m, hm, hb, href⟩ := h
  refine ⟨m, ?_, hb, href⟩
  cases ht with
  | @normal pre post x hq hx =>
    have hne : m ≠ x := by
      rintro rfl
      exact Bool.false_ne_true (hx.symm.trans hb)
    simpa [hq, hne] using hm
  | transaction => exact hm

theorem taken (ht : Taken m m' c c') (hin : c.inFlight = none)
    (hb' : m'.isBoot = m.isBoot) (href' : m'.ref = m.ref) (h : c.HoldsBoot r) : c'.HoldsBoot r := by
  obtain ⟨x, hx, hb, href⟩ := h
  rw [hin] at hx
  have hx := hx.resolve_right nofun
  cases ht with
  | transaction => exact ⟨x, .inl hx, hb, href⟩
  | @normal pre post hq =>
    by_cases hxm : x = m
    · exact ⟨m', .inr rfl, hb'.trans (hxm ▸ hb), href'.trans (hxm ▸ href)⟩
    · exact ⟨x, .inl (by simpa [hq, hxm] using hx), hb, href⟩

/-- A failed BootNotification goes back on the queue, unless it has had its attempts. -/
theorem failed {reply : Reply} {newId : MessageId} (hf : Failed cfg reply newId m c c')
    (hin : c.inFlight = some m)
    (hs : (m.isBoot && cfg.checkQueue m.messageType &&
      decide (cfg.transactionMessageAttempts ≤ m.messageAttempts)) = false)
    (h : c.HoldsBoot r) : c'.HoldsBoot r := by
  obtain ⟨x, hx, hb, href⟩ := h
  refine hf.elim (fun _ => ?_) fun e hr _ => ?_
  · rw [retried_eq]
    rcases hx with hx | hx
    · refine ⟨x, .inl ?_, hb, href⟩
      dsimp only
      split_ifs
      · exact hx
      · exact List.mem_cons_of_mem _ hx
    · obtain rfl : m = x := Option.some.inj (hin.symm.trans hx)
      refine ⟨again cfg c.now newId m, .inl ?_, hb, href⟩
      simp [ControlMessage.isTransaction_of_isBoot hb]
  · refine ⟨x, .inl (hx.resolve_right fun hx => ?_), hb, href⟩
    obtain rfl : m = x := Option.some.inj (hin.symm.trans hx)
    simp_all [retries, persistent, ControlMessage.isTransaction_of_isBoot hb]

theorem effect {q : State M} {op : Op M} {c : Core M} (heff : Effect q op c)
    (hs : q.sparesBoot op) (h : q.toCore.HoldsBoot r) : c.HoldsBoot r ∨ q.answersBoot r op := by
  cases heff with
  | queued _ _ hc =>
    refine .inl (hc.keep trim ?_)
    obtain ⟨m, hm, hb, href⟩ := h
    exact ⟨m, hm.imp (fun hm => mem_normal_enqueue.mpr (.inl hm)) fun hm => by
      simpa using hm, hb, href⟩
  | sent _ hsel hc =>
    have := h.taken hc (nextMessage_of_selected hsel).1 (by simp) (by simp)
    exact .inl this
  | @sendFailed _ _ m _ _ hop hsel hc hc' =>
    have hf : q.failing op = some (q.outgoing m) := by
      rw [hop, failing, hsel]
      rfl
    have := h.taken hc (nextMessage_of_selected hsel).1 (by simp) (by simp)
    refine .inl (this.failed hc' hc.inFlight ?_)
    rwa [sparesBoot, hf, Bool.not_eq_true'] at hs
  | failed hm hfa hc =>
    refine .inl (h.failed hc hm ?_)
    rwa [sparesBoot, hfa, Bool.not_eq_true'] at hs
  | @answered newId id m hop hm hid =>
    obtain ⟨x, hx | hx, hb, href⟩ := h
    · exact .inl (handleCallResult_eq hm hid ▸ ⟨x, .inl hx, hb, href⟩)
    · obtain rfl : m = x := Option.some.inj (hm.symm.trans hx)
      simp [answersBoot, hop, hm, href, hid]
  | _ => exact .inl h

end Core.HoldsBoot

/-- A step that spares it keeps a BootNotification, or answers it. -/
theorem holdsBoot_step {r : Nat} {q : State M} {op : Op M} (hs : q.sparesBoot op)
    (h : q.toCore.HoldsBoot r) : (q.step op).toCore.HoldsBoot r ∨ q.answersBoot r op :=
  h.effect (effect_step q op) hs

/-- **A BootNotification is never lost**: from any state in which it is on the normal queue or in
flight, it stays there in every run that receives no CALLRESULT with its current id and fails no
BootNotification that the configuration queues and that has had its attempts. -/
theorem boot_notification_kept {r : Nat} {q : State M} {ops : List (Op M)}
    (hspared : Machine.Along step (fun q op => q.sparesBoot op = true) q ops)
    (hopen : Machine.Along step (fun q op => q.answersBoot r op = false) q ops)
    (h : q.toCore.HoldsBoot r) : (runFrom q ops).toCore.HoldsBoot r := by
  induction ops generalizing q with
  | nil => exact h
  | cons op ops ih =>
    refine ih hspared.2 hopen.2 ((holdsBoot_step hspared.1 h).resolve_right ?_)
    rw [hopen.1]
    exact Bool.false_ne_true

/-- A BootNotification of OCPP 1.6 that is queued while the central system is connected and is sent
three times, each time until it times out. -/
def unansweredBoot : List (Op V16.MessageType) :=
  [.resume 0, .pushCall { call := ⟨1, .bootNotification, {}⟩, seen := ⟨true, false, false⟩ } false,
    .workerPass true 0, .advance 60000000000, .inFlightTimeout 2, .notifyQueueTimer,
    .workerPass true 0, .advance 90000000000, .inFlightTimeout 3, .notifyQueueTimer,
    .workerPass true 0, .advance 120000000000, .inFlightTimeout 4]

/-- A BootNotification is queued with `queue_all_messages` set and is given up after three
timeouts: it is neither on the queue nor in flight, and no CALLRESULT was received. -/
theorem boot_notification_dropped :
    let q := boot (M := V16.MessageType) { queueAllMessages := true } false {} 0
    (runFrom q (unansweredBoot.take 12)).inFlight.any (fun m => m.isBoot && m.ref == 0) = true ∧
      (runFrom q unansweredBoot).inFlight = none ∧
      (runFrom q unansweredBoot).normalMessageQueue = [] ∧
      unansweredBoot.all (fun op => match op with | .receive _ _ => false | _ => true) = true := by
  decide

/-- With `queue_all_messages` unset the same BootNotification is still there. -/
theorem unanswered_boot_kept :
    let q := runFrom (boot (M := V16.MessageType) {} false {} 0) (unansweredBoot.take 2)
    q.toCore.HoldsBoot 0 ∧ (runFrom q (unansweredBoot.drop 2)).toCore.HoldsBoot 0 := by
  have hq : (runFrom (boot (M := V16.MessageType) {} false {} 0)
      (unansweredBoot.take 2)).toCore.HoldsBoot 0 :=
    ⟨_, .inl List.mem_cons_self, by decide, by decide⟩
  exact ⟨hq, boot_notification_kept (by decide) (by decide) hq⟩

end EverestCore.Ocpp.MessageQueue

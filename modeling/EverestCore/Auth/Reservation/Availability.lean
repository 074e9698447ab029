import EverestCore.Auth.Reservation.Bookkeeping

/-!
# Reservations after a connector is lost

`on_connector_state_changed` cancels the reservation of the EVSE if it names the type of the
connector. Otherwise all reservations are admitted again, one after the other. A reservation for an
EVSE is then never cancelled, and one for any EVSE is admitted without a test if it names no
connector type.

Results:
* **`served_iff_losesNone`**: they are served just under the condition.
* `untyped_reservation_kept`: a reservation of an EVSE without a connector left.
-/

namespace EverestCore.Auth

open EverestCore.Lib List OrderedMap ReservationHandler Reservation

/-! ## The connector -/

/-- The connectors, the first one with the id in the state. -/
def setState (connectorId : Int) (state : ConnectorState) : List Connector → List Connector
  | [] => []
  | c :: cs =>
    if c.id == connectorId then { c with state := state } :: cs
    else c :: setState connectorId state cs

/-- The EVSE has an available connector of the type, and none that is occupied. -/
def EvseContext.Serves (type : ConnectorTypeEnum) (evse : EvseContext) : Prop :=
  (∃ c ∈ evse.connectors, c.hasType type = true ∧ c.state = .available) ∧
    ∀ c ∈ evse.connectors, c.state ≠ .occupied

instance (type : ConnectorTypeEnum) (evse : EvseContext) : Decidable (evse.Serves type) :=
  inferInstanceAs (Decidable (_ ∧ _))

section setState

variable {connectorId : Int} {cs : List Connector} {c : Connector} (state : ConnectorState)

/-- Only the first connector with the id is changed. -/
theorem setState_split (hf : cs.find? (·.id == connectorId) = some c) :
    ∃ pre post, cs = pre ++ c :: post ∧ (∀ x ∈ pre, ¬ (x.id == connectorId)) ∧
      setState connectorId state cs = pre ++ { c with state := state } :: post := by
  obtain ⟨hid, pre, post, rfl, hpre⟩ := List.find?_eq_some_iff_append.mp hf
  refine ⟨pre, post, rfl, by simpa using hpre, ?_⟩
  clear hf
  induction pre with
  | nil => exact if_pos hid
  | cons d pre ih =>
    rw [forall_mem_cons] at hpre
    rw [cons_append, setState, if_neg (by simpa using hpre.1)]
    exact congrArg (d :: ·) (ih hpre.2)

theorem find?_setState (hf : cs.find? (·.id == connectorId) = some c) :
    (setState connectorId state cs).find? (·.id == connectorId) =
      some { c with state := state } := by
  obtain ⟨pre, post, -, hpre, heq⟩ := setState_split state hf
  have hid := List.find?_some (p := fun x : Connector => x.id == connectorId) hf
  rw [heq, List.find?_append, List.find?_eq_none.mpr hpre, Option.none_or]
  exact List.find?_cons_of_pos (p := fun x : Connector => x.id == connectorId) hid

end setState

/-- A reservation that does not name the type of the connector is served after the change, unless
the connector is occupied, or the reservation names no type and no connector is left. -/
theorem serves_setState_iff {evse : EvseContext} {connectorId : Int} {state : ConnectorState}
    {c : Connector} {r : Reservation}
    (hf : evse.connectors.find? (·.id == connectorId) = some c) (hs : evse.Serves r.type)
    (hn : r.connectorType.any c.hasType = false) :
    let evse' := { evse with connectors := setState connectorId state evse.connectors }
    evse'.Serves r.type ↔
      state ≠ .occupied ∧
        (r.connectorType.isSome ∨ ∃ c ∈ evse'.connectors, c.state = .available) := by
  intro evse'
  obtain ⟨pre, post, hold, -, hnew⟩ := setState_split state hf
  have hmem : ∀ x, x ∈ evse'.connectors ↔ x = { c with state := state } ∨ x ∈ pre ++ post := by
    simp [evse', hnew, or_left_comm]
  have hr : ∀ x, x ∈ evse.connectors ↔ x = c ∨ x ∈ pre ++ post := by
    simp [hold, or_left_comm]
  constructor
  · rintro ⟨⟨d, hd, -, ha⟩, hocc⟩
    exact ⟨hocc _ ((hmem _).mpr (.inl rfl)), .inr ⟨d, hd, ha⟩⟩
  · rintro ⟨hocc, hle⟩
    refine ⟨?_, fun x hx => ?_⟩
    · cases ht : r.connectorType with
      | none =>
        rw [ht] at hle
        obtain ⟨d, hd, ha⟩ := hle.resolve_left (by simp)
        exact ⟨d, hd, by simp [type, ht, Connector.hasType], ha⟩
      | some t =>
        -- the connector of the reserved type is another one
        obtain ⟨⟨d, hd, hdt, ha⟩, -⟩ := hs
        refine ⟨d, (hmem d).mpr (.inr (((hr d).mp hd).resolve_left ?_)), hdt, ha⟩
        rintro rfl
        simp only [type, ht, Option.getD_some] at hdt
        simp [ht, hdt] at hn
    · rcases (hmem x).mp hx with rfl | hx
      · exact hocc
      · exact hs.2 x ((hr x).mpr (.inr hx))

/-! ## The loops of `check_reservations_and_cancel_if_not_possible` -/

namespace ReservationHandler

variable {evses : Evses} {specific : EvseReservations}

/-- Without cars, only the number of the reserved EVSEs is tested. -/
theorem isReservationPossible_nil (hk : ∀ e ∈ specific.keys, e ∈ evses.keys) :
    isReservationPossible evses none [] specific := by
  refine (isReservationPossible_iff hk).mpr fun o ho => ?_
  rw [show o = [] from ho.eq_nil]
  trivial

theorem readmitEvse_foldl (evses : Evses) (es : List (EvseId × Reservation))
    (specific : EvseReservations) (toCancel : List Int)
    (hs : (specific.entries ++ es).Pairwise (·.1 < ·.1))
    (hke : ∀ e ∈ specific.entries ++ es, e.1 ∈ evses.keys) :
    ∃ added : EvseReservations, added.entries = specific.entries ++ es ∧
      es.foldl (fun (specific, toCancel) (evseId, r) =>
        let added := specific.insert evseId r
        if isReservationPossible evses none [] added then (added, toCancel)
        else (added.erase evseId, toCancel ++ [r.reservationId])) (specific, toCancel) =
          (added, toCancel) := by
  induction es generalizing specific with
  | nil => exact ⟨specific, by simp, rfl⟩
  | cons e es ih =>
    obtain ⟨evseId, r⟩ := e
    have hlt : ∀ e ∈ specific.entries, e.1 < evseId := fun e he =>
      (pairwise_append.mp hs).2.2 e he (evseId, r) mem_cons_self
    have hent : (specific.insert evseId r).entries = specific.entries ++ [(evseId, r)] :=
      insertEntry_of_lt hlt
    have ha : (specific.insert evseId r).entries ++ es = specific.entries ++ (evseId, r) :: es := by
      rw [hent, append_assoc]
      rfl
    have hpos : isReservationPossible evses none [] (specific.insert evseId r) := by
      refine isReservationPossible_nil fun k hk => ?_
      obtain ⟨e, he, rfl⟩ := mem_map.mp hk
      exact hke e (ha ▸ mem_append_left _ he)
    obtain ⟨added, had, hf⟩ :=
      ih (specific.insert evseId r) (ha ▸ hs) (ha ▸ hke)
    refine ⟨added, had.trans ha, ?_⟩
    rw [foldl_cons]
    dsimp only
    rw [if_pos hpos]
    exact hf

theorem readmitEvseReservations_eq (hk : ∀ e ∈ specific.keys, e ∈ evses.keys) :
    readmitEvseReservations evses specific.entries = (specific, []) := by
  obtain ⟨added, hent, hf⟩ := readmitEvse_foldl evses specific.entries ∅ []
    specific.sorted fun e he => hk e.1 (mem_map_of_mem he)
  have heq : added = specific := ext_entries hent
  rwa [heq] at hf

/-- Each global reservation that names no connector type finds a place beside those that were
admitted before it. -/
def untypedFit (evses : Evses) (specific : EvseReservations) :
    List Reservation → List Reservation → Bool
  | _, [] => true
  | noEvse, r :: rs =>
    if isReservationPossible evses (some r.type) noEvse specific then
      untypedFit evses specific (noEvse ++ [r]) rs
    else r.connectorType.isSome && untypedFit evses specific noEvse rs

/-- A global reservation in the second loop. -/
def readmitStep (evses : Evses) (specific : EvseReservations) (s : List Reservation × List Int)
    (r : Reservation) : List Reservation × List Int :=
  if isReservationPossible evses r.connectorType s.1 specific then (s.1 ++ [r], s.2)
  else (s.1, s.2 ++ [r.reservationId])

/-- The reservations with the ids that are cancelled are those that are not kept. -/
theorem foldl_readmitStep (evses : Evses) (specific : EvseReservations)
    (rs noEvse : List Reservation) (toCancel : List Int) (hids : (rs.map (·.reservationId)).Nodup) :
    ∃ cancelled : List Int, (∀ id ∈ cancelled, id ∈ rs.map (·.reservationId)) ∧
      rs.foldl (readmitStep evses specific) (noEvse, toCancel) =
        (noEvse ++ rs.filter (fun r => !cancelled.contains r.reservationId),
          toCancel ++ cancelled) := by
  induction rs generalizing noEvse toCancel with
  | nil => exact ⟨[], by simp, by simp⟩
  | cons r rs ih =>
    obtain ⟨hr, hids⟩ := nodup_cons.mp (map_cons ▸ hids)
    rw [foldl_cons, readmitStep]
    split_ifs
    · obtain ⟨cancelled, hsub, hf⟩ := ih (noEvse ++ [r]) toCancel hids
      have hk : r.reservationId ∉ cancelled := fun hmem => hr (hsub _ hmem)
      refine ⟨cancelled, fun id hid => mem_cons_of_mem _ (hsub id hid), ?_⟩
      rw [hf, filter_cons, if_pos (by simpa using hk), append_assoc]
      rfl
    · obtain ⟨cancelled, hsub, hf⟩ := ih noEvse (toCancel ++ [r.reservationId]) hids
      refine ⟨r.reservationId :: cancelled, ?_, ?_⟩
      · exact forall_mem_cons.mpr ⟨mem_cons_self, fun id hid => mem_cons_of_mem _ (hsub id hid)⟩
      · have ho : ∀ x ∈ rs, (!cancelled.contains x.reservationId) =
            !(r.reservationId :: cancelled).contains x.reservationId := by
          intro x hx
          have hne : x.reservationId ≠ r.reservationId := fun heq =>
            hr (heq ▸ mem_map_of_mem hx)
          simp [hne]
        rw [hf, filter_cons, if_neg (by simp), append_assoc, filter_congr ho]
        rfl

theorem foldl_readmitStep_append (evses : Evses) (specific : EvseReservations)
    (rs noEvse : List Reservation) (toCancel : List Int) :
    ∃ kept, (rs.foldl (readmitStep evses specific) (noEvse, toCancel)).1 = noEvse ++ kept := by
  induction rs generalizing noEvse toCancel with
  | nil => exact ⟨[], by simp⟩
  | cons r rs ih =>
    rw [foldl_cons, readmitStep]
    split_ifs
    · obtain ⟨kept, hk⟩ := ih (noEvse ++ [r]) toCancel
      exact ⟨r :: kept, by rw [hk, append_assoc]; rfl⟩
    · exact ih noEvse _

theorem isReservationPossible_append (noEvse : List Reservation) (r : Reservation) :
    isReservationPossible evses (some r.type) noEvse specific =
      isReservationPossible evses none (noEvse ++ [r]) specific := by
  have ht : carTypes (some r.type) noEvse = carTypes none (noEvse ++ [r]) := by simp [carTypes]
  unfold isReservationPossible
  rw [ht]

theorem isReservationPossible_left {l l' : List Reservation}
    (hk : ∀ e ∈ specific.keys, e ∈ evses.keys)
    (h : isReservationPossible evses none (l ++ l') specific) :
    isReservationPossible evses none l specific := by
  rw [isReservationPossible_iff hk] at h ⊢
  have ht : carTypes none (l ++ l') = carTypes none l ++ l'.map (·.type) := by simp [carTypes]
  rw [ht] at h
  exact fun _ ho => (h _ (ho.append_right _)).left

/-- What the second loop admits can be served iff the reservations without a type fit. -/
theorem foldl_readmitStep_possible (hk : ∀ e ∈ specific.keys, e ∈ evses.keys)
    (rs noEvse : List Reservation) (toCancel : List Int)
    (hn : isReservationPossible evses none noEvse specific) :
    isReservationPossible evses none (rs.foldl (readmitStep evses specific) (noEvse, toCancel)).1
        specific ↔ untypedFit evses specific noEvse rs := by
  induction rs generalizing noEvse toCancel with
  | nil => exact iff_of_true hn rfl
  | cons r rs ih =>
    rw [foldl_cons, readmitStep, untypedFit]
    by_cases hf : isReservationPossible evses (some r.type) noEvse specific
    · have ht : isReservationPossible evses r.connectorType noEvse specific := by
        cases hty : r.connectorType with
        | none => exact hn
        | some t => rwa [type, hty] at hf
      rw [if_pos ht, if_pos hf]
      exact ih _ _ (isReservationPossible_append noEvse r ▸ hf)
    · rw [if_neg hf]
      cases hty : r.connectorType with
      | some t =>
        have hf : ¬ isReservationPossible evses (some t) noEvse specific := by
          rwa [type, hty] at hf
        rw [if_neg hf]
        simpa using ih noEvse _ hn
      | none =>
        -- admitted without a test, beside reservations with which it does not fit
        rw [if_pos hn]
        obtain ⟨kept, hkp⟩ := foldl_readmitStep_append evses specific rs (noEvse ++ [r]) toCancel
        rw [hkp]
        refine iff_of_false (fun hall => hf ?_) (by simp)
        rw [isReservationPossible_append]
        exact isReservationPossible_left hk hall

/-! ## The call -/

/-- The connector of the EVSE changes its state, as in `submit_event_for_connector`. -/
def setConnectorState (state : ConnectorState) (evseId : EvseId) (connectorId : Int)
    (h : ReservationHandler) : ReservationHandler :=
  match h.evses.find? evseId with
  | none => h
  | some evse =>
    if evse.connectors.any (·.id == connectorId) then
      h.updateEvse evseId { evse with connectors := setState connectorId state evse.connectors }
    else h

structure Served (h : ReservationHandler) : Prop where
  possible : isReservationPossible h.evses none h.globalReservations h.evseReservations = true
  serves : ∀ e ∈ h.evseReservations.entries,
    ∃ evse, h.evses.find? e.1 = some evse ∧ evse.Serves e.2.type

instance (h : ReservationHandler) : Decidable h.Served :=
  decidable_of_iff
    (isReservationPossible h.evses none h.globalReservations h.evseReservations = true ∧
      ∀ e ∈ h.evseReservations.entries,
        (h.evses.find? e.1).any (fun evse => decide (evse.Serves e.2.type)) = true)
    ⟨fun ⟨hpossible, hserves⟩ => ⟨hpossible, fun e he => by
        simpa [Option.any_eq_true] using hserves e he⟩,
      fun hs => ⟨hs.possible, fun e he => by simpa [Option.any_eq_true] using hs.serves e he⟩⟩

/-- Nothing is missed when the connector has changed to the state: the reservation of the EVSE is
cancelled as it names the type of the connector, or the EVSE still serves it and the global
reservations without a type fit. -/
def losesNone (state : ConnectorState) (evseId : EvseId) (connectorId : Int)
    (h : ReservationHandler) : Bool :=
  match h.evses.find? evseId with
  | none => true
  | some evse =>
    match evse.connectors.find? (·.id == connectorId) with
    | none => true
    | some c =>
      (h.namesConnector evseId c).isSome ||
        ((h.evseReservations.find? evseId).all fun r => state != .occupied &&
            (r.connectorType.isSome || evse.connectors.any (·.state == .available))) &&
          untypedFit h.evses h.evseReservations [] h.globalReservations

variable {h : ReservationHandler}

/-- When all reservations are admitted again, the EVSE-specific ones stay, and the global ones that
stay can be served iff those without a type fit. -/
theorem checkReservationsAndCancelIfNotPossible_spec (hc : h.Consistent) :
    let h' := h.checkReservationsAndCancelIfNotPossible
    h'.evses = h.evses ∧ h'.evseReservations = h.evseReservations ∧
      (isReservationPossible h'.evses none h'.globalReservations h'.evseReservations ↔
        untypedFit h.evses h.evseReservations [] h.globalReservations) := by
  intro h'
  have hids : (h.globalReservations.map (·.reservationId)).Nodup :=
    (nodup_append.mp hc.unique).2.1
  obtain ⟨cancelled, hsub, hf⟩ := foldl_readmitStep h.evses h.evseReservations
    h.globalReservations [] [] hids
  have hcan : h.reservationsToCancel = cancelled := by
    unfold reservationsToCancel
    rw [readmitEvseReservations_eq hc.evses]
    dsimp only
    rw [show readmitGlobalReservations _ _ _ _ = _ from hf]
    rfl
  obtain ⟨hw, -⟩ := foldl_cancelReservation_spec hc h.reservationsToCancel true .cancelled
  have hglo : h'.globalReservations =
      (h.globalReservations.foldl (readmitStep h.evses h.evseReservations) ([], [])).1 := by
    rw [hf, nil_append]
    exact hcan ▸ hw.global
  have hs : h'.evseReservations = h.evseReservations := by
    refine ext_entries (hw.evse.trans (filter_eq_self.mpr fun e he => ?_))
    rw [hcan]
    have hnot : e.2.reservationId ∉ cancelled := by
      intro hmem
      obtain ⟨g, hg, heq⟩ := mem_map.mp (hsub _ hmem)
      exact hc.disjoint he hg heq.symm
    simpa using hnot
  refine ⟨hw.evses, hs, ?_⟩
  rw [hs, hglo, show h'.evses = h.evses from hw.evses]
  exact foldl_readmitStep_possible hc.evses _ _ _ (isReservationPossible_nil hc.evses)

section Loss

variable {state : ConnectorState} {evseId : EvseId} {connectorId : Int} {evse' : EvseContext}

section

variable (hc : h.Consistent)

include hc

theorem consistent_insert (evseId : EvseId) (evse' : EvseContext) :
    Consistent { h with evses := h.evses.insert evseId evse' } :=
  ⟨hc.unique, hc.timers, fun e he => mem_keys_insert.mpr (.inr (hc.evses e he)), hc.stored⟩

/-- An EVSE that was reserved and is not any more is one place more for the global reservations. -/
theorem served_cancel (hs : h.Served) {r : Reservation}
    (hr : h.evseReservations.find? evseId = some r) (executeCallback : Bool)
    (reason : ReservationEndReason) :
    Served (cancelReservation r.reservationId executeCallback reason
      { h with evses := h.evses.insert evseId evse' }).1 := by
  have hc' := consistent_insert hc evseId evse'
  obtain ⟨hev, hspe, hg⟩ := cancel_evseReservation hc' hr executeCallback reason
  have hcan := consistent_cancel r.reservationId executeCallback reason hc'
  refine ⟨(isReservationPossible_iff hcan.evses).mpr ?_, fun e he => ?_⟩
  · rw [hev, hspe, hg]
    refine forall_arrives_of_fewer_places (· ≠ evseId) (fun type b => ?_)
      ((isReservationPossible_iff hc.evses).mp hs.possible)
    unfold CanTake
    rcases eq_or_ne b evseId with rfl | hne
    · have hres : b ∈ h.evseReservations.keys := by
        rw [OrderedMap.mem_keys, OrderedMap.contains, hr]
        rfl
      simp [hres]
    · simp only [find?_insert, OrderedMap.mem_keys_erase, hne, if_false, ne_eq,
        not_false_eq_true, true_and, and_true]
  · rw [hspe] at he
    rw [hev]
    obtain ⟨he, hne⟩ := mem_entries_erase.mp he
    rw [find?_insert, if_neg hne]
    exact hs.serves e he

/-- When all reservations are admitted again, they are served iff the changed EVSE serves its
reservation and the global reservations without a type fit. -/
theorem served_check_iff (hs : h.Served) :
    Served (checkReservationsAndCancelIfNotPossible
        { h with evses := h.evses.insert evseId evse' }) ↔
      (∀ r, h.evseReservations.find? evseId = some r → evse'.Serves r.type) ∧
        untypedFit (h.evses.insert evseId evse') h.evseReservations [] h.globalReservations =
          true := by
  obtain ⟨hev, hspe, hpos⟩ :=
    checkReservationsAndCancelIfNotPossible_spec (consistent_insert hc evseId evse')
  constructor
  · rintro ⟨hp, hser⟩
    refine ⟨fun r hr => ?_, hpos.mp hp⟩
    rw [hspe] at hser
    obtain ⟨evse, hf, hser⟩ := hser _ (mem_entries.mpr hr)
    rw [hev, find?_insert, if_pos rfl] at hf
    exact Option.some.inj hf ▸ hser
  · rintro ⟨hser, hfit⟩
    refine ⟨hpos.mpr hfit, fun e he => ?_⟩
    rw [hspe] at he
    rw [hev, find?_insert]
    split_ifs with heq
    · refine ⟨evse', rfl, hser _ ?_⟩
      rw [← heq]
      exact mem_entries.mp he
    · exact hs.serves e he

theorem served_iff_losesNone_of_find (hs : h.Served)
    (hst : state ≠ .available) {evse : EvseContext} {c : Connector}
    (hev : h.evses.find? evseId = some evse)
    (hf : evse.connectors.find? (·.id == connectorId) = some c) :
    let h' := h.updateEvse evseId
      { evse with connectors := setState connectorId state evse.connectors }
    (h'.onConnectorStateChanged state evseId connectorId).Served ↔
      h'.losesNone state evseId connectorId := by
  have hst' : ¬ (state == .available) := by simpa using hst
  have hu : ∀ evse', h.updateEvse evseId evse' =
      { h with evses := h.evses.insert evseId evse' } := fun evse' => by
    rw [updateEvse, if_pos (by rw [OrderedMap.contains, hev]; rfl)]
  have hcha : (setState connectorId state evse.connectors).find? (·.id == connectorId) =
      some { c with state := state } := find?_setState state hf
  rw [hu]
  intro h'
  have hev' : h'.evses.find? evseId =
      some { evse with connectors := setState connectorId state evse.connectors } :=
    find?_insert.trans (if_pos rfl)
  unfold onConnectorStateChanged losesNone
  rw [if_neg hst', hev']
  dsimp only
  rw [hcha]
  dsimp only
  cases hn : h'.namesConnector evseId { c with state := state } with
  | some r =>
    have hr : h.evseReservations.find? evseId = some r := (Option.filter_eq_some_iff.mp hn).1
    exact iff_of_true (served_cancel hc hs hr true .cancelled) rfl
  | none =>
    rw [Option.isSome_none, Bool.false_or, Bool.and_eq_true]
    refine (served_check_iff hc hs).trans (and_congr_left' ?_)
    have hn : (h.evseReservations.find? evseId).filter
      (fun r => r.connectorType.any c.hasType) = none := hn
    cases hr : h.evseReservations.find? evseId with
    | none => exact iff_of_true (by simp) rfl
    | some r =>
      rw [hr] at hn
      have hnot : r.connectorType.any c.hasType = false := by simpa [Option.filter] using hn
      obtain ⟨evse₀, hevse₀, hser⟩ := hs.serves _ (mem_entries.mpr hr)
      obtain rfl : evse = evse₀ := Option.some.inj (hev.symm.trans hevse₀)
      simp only [Option.some.injEq, forall_eq', Option.all_some, Bool.and_eq_true, bne_iff_ne,
        Bool.or_eq_true, any_eq_true, beq_iff_eq]
      exact serves_setState_iff hf hser hnot

/-- **After a connector is lost, the reservations that stay are served iff nothing is missed**: if
the bookkeeping is consistent, all reservations were served before and the connector changes to a
state other than `AVAILABLE`, then just under that condition the global reservations are serviceable
afterwards, and every EVSE-specific reservation is for an EVSE with an available connector of its
type and no occupied one. -/
theorem served_iff_losesNone (hs : h.Served) (hst : state ≠ .available) :
    let h' := h.setConnectorState state evseId connectorId
    (h'.onConnectorStateChanged state evseId connectorId).Served ↔
      h'.losesNone state evseId connectorId := by
  have hst' : ¬ (state == .available) := by simpa using hst
  unfold setConnectorState
  cases hev : h.evses.find? evseId with
  | none =>
    dsimp only
    unfold onConnectorStateChanged losesNone
    rw [if_neg hst', hev]
    exact iff_of_true hs rfl
  | some evse =>
    dsimp only
    by_cases hany : evse.connectors.any (·.id == connectorId)
    · obtain ⟨c, hf⟩ : ∃ c, evse.connectors.find? (·.id == connectorId) = some c := by
        rw [← Option.isSome_iff_exists, List.find?_isSome]
        simpa using hany
      rw [if_pos hany]
      exact served_iff_losesNone_of_find hc hs hst hev hf
    · have hf : evse.connectors.find? (·.id == connectorId) = none := by
        simpa using hany
      rw [if_neg hany]
      unfold onConnectorStateChanged losesNone
      rw [if_neg hst', hev]
      dsimp only
      rw [hf]
      exact iff_of_true hs rfl

end

end Loss

end ReservationHandler

/-- An EVSE with two connectors and a reservation for any of them. -/
def twoConnectors : ReservationHandler :=
  (empty
    ((∅ : Evses).insert 1 { connectors := [⟨1, .cType2, .available⟩, ⟨2, .cCCS2, .available⟩] })
    true 0).run [.makeReservation (some 1) { reservationId := 5, expiryTime := 100 }]

/-- One of the two connectors is left for the reservation. -/
theorem other_connector_serves :
    let h := (twoConnectors.setConnectorState .faulted 1 1).onConnectorStateChanged .faulted 1 1
    h.evseReservations.size = 1 ∧ h.Served :=
  ⟨by decide, (served_iff_losesNone (h := twoConnectors)
    (consistent_run _ (consistent_empty _ _ _)) (by decide) (by decide)).mpr (by decide)⟩

/-- The only connector of the EVSE is lost. The reservation of the EVSE names no connector type and
is not cancelled. -/
theorem untyped_reservation_kept :
    let h := (empty oneEvse true 0).run
      [.makeReservation (some 1) { reservationId := 5, expiryTime := 100 }]
    let h' := (h.setConnectorState .faulted 1 1).onConnectorStateChanged .faulted 1 1
    h.Served ∧ h'.evseReservations.keys = [1] ∧ ¬ h'.Served := by
  decide

-- a global reservation without a connector type is kept as well
example :
    let h := (empty oneEvse true 0).run
      [.makeReservation none { reservationId := 5, expiryTime := 100 }]
    let h' := (h.setConnectorState .faulted 1 1).onConnectorStateChanged .faulted 1 1
    h.Served ∧ h'.globalReservations.length = 1 ∧ ¬ h'.Served := by
  decide

end EverestCore.Auth

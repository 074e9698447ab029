import EverestCore.Auth.AuthHandler
import EverestCore.Auth.Reservation.Bookkeeping

/-!
# Authorizing a token beside the reservations of others

When a token authorizes an EVSE, the EVSE is one place less for the reservations that remain.
Without a reservation for the token this is tested by `is_charging_possible`, and the reservation of
the EVSE itself makes room for the car. A global reservation makes room for one car of its type, but
the EVSE may be another one than the car would have needed. The car may be at the EVSE already when
the decision is taken, since `select_evse` waits for it, so the reservations are compared with those
for which the EVSE was still free.

Results:
* **`authorization_keeps_reservations`**: when the reservations of others are still serviceable.
* `wrong_type_used`: a global reservation that is used at an EVSE of another type.
-/

namespace EverestCore.Auth

open EverestCore.Lib List ReservationHandler Option Authorization AuthHandler

/-- Sets whether a car is at the EVSE. -/
def setPluggedIn (pluggedIn : Bool) (evseId : EvseId) (evses : Evses) : Evses :=
  match evses.find? evseId with
  | some evse => evses.insert evseId { evse with pluggedIn := pluggedIn }
  | none => evses

/-- A car is at the EVSE. -/
def occupy (evseId : EvseId) (evses : Evses) : Evses := setPluggedIn true evseId evses

/-- No car is at the EVSE. -/
def vacate (evseId : EvseId) (evses : Evses) : Evses := setPluggedIn false evseId evses

section occupy

variable {evses : Evses} {specific : EvseReservations} {evseId : EvseId} {e : EvseId} {b : Bool}
  {type : ConnectorTypeEnum}

theorem find?_setPluggedIn : (setPluggedIn b evseId evses).find? e =
    (evses.find? e).map fun evse => if e = evseId then { evse with pluggedIn := b } else evse := by
  unfold setPluggedIn
  cases hev : evses.find? evseId with
  | none =>
    rcases eq_or_ne e evseId with rfl | hne
    · exact hev.trans (by rw [hev]; rfl)
    · simp [hne]
  | some evse =>
    rw [OrderedMap.find?_insert]
    rcases eq_or_ne e evseId with rfl | hne
    · simp [hev]
    · simp [hne]

theorem mem_keys_setPluggedIn (he : e ∈ evses.keys) : e ∈ (setPluggedIn b evseId evses).keys := by
  rw [OrderedMap.mem_keys, OrderedMap.contains] at he ⊢
  simpa [find?_setPluggedIn] using he

theorem canTake_setPluggedIn (hne : e ≠ evseId) :
    CanTake (setPluggedIn b evseId evses) specific type e ↔ CanTake evses specific type e := by
  simp [CanTake, find?_setPluggedIn, hne]

theorem canTake_occupy :
    CanTake (occupy evseId evses) specific type e ↔ CanTake evses specific type e ∧ e ≠ evseId := by
  rcases eq_or_ne e evseId with rfl | hne
  · refine iff_of_false ?_ fun h => h.2 rfl
    rintro ⟨evse', hf, hp, -⟩
    rw [occupy, find?_setPluggedIn] at hf
    obtain ⟨evse, -, rfl⟩ := Option.map_eq_some_iff.mp hf
    simp at hp
  · rw [occupy, canTake_setPluggedIn hne]
    exact (and_iff_left hne).symm

/-- A place for a car is one also when the EVSE was vacated. -/
theorem canTake_iff_vacate : CanTake evses specific type e ↔
    CanTake (vacate evseId evses) specific type e ∧
      (e = evseId → ∀ evse, evses.find? e = some evse → evse.pluggedIn = false) := by
  rcases eq_or_ne e evseId with rfl | hne
  · cases hev : evses.find? e with
    | none => simp [CanTake, vacate, find?_setPluggedIn, hev]
    | some evse =>
      simp only [CanTake, vacate, find?_setPluggedIn, hev, Option.map_some, if_true,
        Option.some.injEq, exists_eq_left', forall_eq', forall_const, true_and]
      exact And.comm
  · rw [vacate, canTake_setPluggedIn hne]
    simp [hne]

theorem canTake_insert {r : Reservation} :
    CanTake evses (specific.insert evseId r) type e ↔
      CanTake evses specific type e ∧ e ≠ evseId := by
  unfold CanTake
  simp only [OrderedMap.mem_keys_insert, not_or]
  constructor
  · rintro ⟨evse, hf, hp, hocc, ⟨hne, hres⟩, hc⟩
    exact ⟨⟨evse, hf, hp, hocc, hres, hc⟩, hne⟩
  · rintro ⟨⟨evse, hf, hp, hocc, hres, hc⟩, hne⟩
    exact ⟨evse, hf, hp, hocc, ⟨hne, hres⟩, hc⟩

end occupy

namespace ReservationHandler

structure JointlyServiceable (h : ReservationHandler) : Prop where
  consistent : h.Consistent
  possible : isReservationPossible h.evses none h.globalReservations h.evseReservations = true

/-- The reservations are jointly serviceable but for a car that may be at the EVSE. -/
structure ServiceableBeside (evseId : EvseId) (h : ReservationHandler) : Prop where
  consistent : h.Consistent
  possible : isReservationPossible (vacate evseId h.evses) none h.globalReservations
    h.evseReservations = true

/-- The reservations can be served with a car at the EVSE. -/
def PossibleWith (evseId : EvseId) (h : ReservationHandler) : Prop :=
  isReservationPossible (occupy evseId h.evses) none h.globalReservations h.evseReservations = true

variable {h : ReservationHandler} {evseId : EvseId}

theorem possibleWith_iff (hc : h.Consistent) :
    h.PossibleWith evseId ↔
      ∀ o : List ConnectorTypeEnum, o.Perm (carTypes none h.globalReservations) →
        Arrives (CanTake (occupy evseId h.evses) h.evseReservations) [] o :=
  isReservationPossible_iff fun e he => mem_keys_setPluggedIn (hc.evses e he)

theorem ServiceableBeside.arrives (hs : h.ServiceableBeside evseId) {o : List ConnectorTypeEnum}
    (ho : o.Perm (carTypes none h.globalReservations)) :
    Arrives (CanTake (vacate evseId h.evses) h.evseReservations) [] o :=
  (isReservationPossible_iff fun e he => mem_keys_setPluggedIn (hs.consistent.evses e he)).mp
    hs.possible o ho

/-- With one place more the reservations stay serviceable. -/
theorem JointlyServiceable.beside (hs : h.JointlyServiceable) (evseId : EvseId) :
    h.ServiceableBeside evseId := by
  refine ⟨hs.consistent, (isReservationPossible_iff fun e he =>
    mem_keys_setPluggedIn (hs.consistent.evses e he)).mpr ?_⟩
  exact forall_arrives_of_fewer_places _ (fun _ _ => canTake_iff_vacate)
    ((isReservationPossible_iff hs.consistent.evses).mp hs.possible)

theorem isChargingPossible_iff (hc : h.Consistent) :
    h.isChargingPossible evseId ↔
      evseId ∉ h.evseReservations.keys ∧ evseId ∈ h.evses.keys ∧ h.PossibleWith evseId := by
  unfold isChargingPossible
  rw [OrderedMap.mem_keys, OrderedMap.mem_keys]
  by_cases hres : h.evseReservations.contains evseId
  · simp [hres]
  rw [if_neg hres, and_iff_right hres]
  by_cases hev : h.evses.contains evseId
  · have hk : ∀ e ∈ (h.evseReservations.insert evseId { reservationId := 0 }).keys,
        e ∈ h.evses.keys := by
      intro e he
      rcases OrderedMap.mem_keys_insert.mp he with rfl | he
      · exact OrderedMap.mem_keys.mpr hev
      · exact hc.evses e he
    rw [if_neg (by simpa using hev), and_iff_right hev, possibleWith_iff hc,
      isReservationPossible_iff hk]
    refine forall_congr' fun o => imp_congr_right fun _ => arrives_congr fun type _ e => ?_
    rw [canTake_insert, canTake_occupy]
  · simp [hev]

variable {r : Reservation}

/-- When the reservation of an EVSE is used there, the others lose nothing. -/
theorem possibleWith_of_evse (hs : h.ServiceableBeside evseId)
    (hr : h.evseReservations.find? evseId = some r) :
    (h.onReservationUsed r.reservationId).PossibleWith evseId := by
  obtain ⟨hev, hspe, hg⟩ :=
    cancel_evseReservation hs.consistent hr false .usedToStartCharging
  have hc := consistent_cancel r.reservationId false .usedToStartCharging hs.consistent
  refine (possibleWith_iff hc).mpr ?_
  rw [hev, hspe, hg]
  intro o ho
  refine (arrives_congr fun type _ e => ?_).mp (hs.arrives ho)
  rw [canTake_occupy]
  rcases eq_or_ne e evseId with rfl | hne
  · have hres : e ∈ h.evseReservations.keys := by
      rw [OrderedMap.mem_keys, OrderedMap.contains, hr]
      rfl
    simp [CanTake, hres]
  · rw [vacate, canTake_setPluggedIn hne]
    simp [CanTake, OrderedMap.mem_keys_erase, hne]

theorem onReservationUsed_global (hc : h.Consistent) (hr : r ∈ h.globalReservations) :
    let h' := h.onReservationUsed r.reservationId
    h'.evses = h.evses ∧ h'.evseReservations = h.evseReservations ∧
      h'.globalReservations =
        h.globalReservations.filter (·.reservationId != r.reservationId) ∧
      (r :: h'.globalReservations).Perm h.globalReservations := by
  intro h'
  obtain ⟨hw, -⟩ := cancelReservation_spec hc r.reservationId false .usedToStartCharging
  have hg : h'.globalReservations = _ := hw.global
  refine ⟨hw.evses, OrderedMap.ext_entries (hw.evse.trans ?_), hg, ?_⟩
  · refine filter_eq_self.mpr fun e he => ?_
    simpa using hc.disjoint he hr
  · obtain ⟨s, t, hst⟩ := append_of_mem hr
    have hids : ((s ++ r :: t).map (·.reservationId)).Nodup :=
      hst ▸ (nodup_append.mp hc.unique).2.1
    have hne : ∀ x ∈ s ++ t, (!(x.reservationId == r.reservationId)) := by
      intro x hx
      have hno := (perm_middle.map Reservation.reservationId).nodup_iff.mp hids
      have hnot := (nodup_cons.mp (map_cons ▸ hno)).1
      have hne : x.reservationId ≠ r.reservationId := fun heq =>
        hnot (heq ▸ mem_map_of_mem hx)
      simpa using hne
    have hre : h'.globalReservations = s ++ t := by
      rw [hg, hst, filter_append, filter_cons, if_neg (by simp), ← filter_append]
      exact filter_eq_self.mpr hne
    rw [hre, hst]
    exact perm_middle.symm

/-- The EVSE can take the car of the global reservation `r`, or else every other global reservation
whose car the EVSE could take as well has room at the other EVSEs. -/
def LeavesRoom (evseId : EvseId) (r : Reservation) (h : ReservationHandler) : Prop :=
  let canTake := CanTake (vacate evseId h.evses) h.evseReservations
  let others := carTypes none
    (h.globalReservations.filter (·.reservationId != r.reservationId))
  canTake r.type evseId ∨ ∀ i : Fin others.length, canTake others[i] evseId →
    HasRoom (fun (j : Fin others.length) e => canTake others[j] e ∧ e ≠ evseId) i

/-- A car of a global reservation is at the EVSE: the others are serviceable iff it leaves room. -/
theorem possibleWith_iff_leavesRoom (hs : h.ServiceableBeside evseId)
    (hr : r ∈ h.globalReservations) :
    (h.onReservationUsed r.reservationId).PossibleWith evseId ↔ h.LeavesRoom evseId r := by
  obtain ⟨hev, hspe, hg, hpe⟩ := onReservationUsed_global hs.consistent hr
  have hc : (h.onReservationUsed r.reservationId).Consistent :=
    consistent_cancel r.reservationId false .usedToStartCharging hs.consistent
  rw [possibleWith_iff hc, hev, hspe, hg]
  unfold LeavesRoom
  extract_lets canTake others
  have ht : (r.type :: others).Perm (carTypes none h.globalReservations) := by
    simpa [carTypes, others, hg] using hpe.map (·.type)
  have hfree : ∀ {type e}, CanTake (occupy evseId h.evses) h.evseReservations type e ↔
      canTake type e ∧ e ≠ evseId := by
    intro type e
    rw [canTake_occupy]
    exact and_congr_left fun hne => (canTake_setPluggedIn hne).symm
  by_cases hfits : canTake r.type evseId
  · -- the car of the reservation is the first to come
    refine iff_of_true (fun o ho => ?_) (.inl hfits)
    refine (arrives_congr fun type _ e => ?_).mp
      ((hs.arrives ((ho.cons _).trans ht)).2 evseId hfits not_mem_nil)
    simp [hfree, canTake]
  · -- the others were serviceable, and lose a place
    have hothers : ∀ o : List ConnectorTypeEnum, o.Perm others → Arrives canTake [] o := fun o ho =>
      (hs.arrives ((perm_append_singleton r.type o).trans ((ho.cons _).trans ht))).left
    rw [or_iff_right hfits, forall_arrives_iff]
    simp only [hfree]
    exact (forall_arrives_iff.mp hothers).without_place_iff evseId

end ReservationHandler

/-! ## The decision on an EVSE -/

/-- If the EVSE has no reservation of its own and a global reservation matches the token, then
taking the EVSE for that reservation leaves room for the others. -/
def Authorization.Fits (a : Authorization) : Prop :=
  a.before.evseReservations.find? a.evseId = none →
    ∀ r, a.before.globalReservations.find? (matchesToken a.idToken a.parentIdToken) = some r →
      a.before.LeavesRoom a.evseId r

/-- The decision on the EVSE was to authorize it. -/
def Authorization.Decided (a : Authorization) : Prop :=
  ∃ result reservationId, a.parentIdToken = result.parentIdToken.map (·.value) ∧
    authorizeEvse a.evseId a.idToken result a.before = .authorized reservationId ∧
    a.after = useReservation reservationId a.before

namespace AuthHandler

open ReservationHandler

variable {evseId : EvseId} {idToken : List Char} {result : ValidationResult}
  {h : ReservationHandler} {reservationId : Option Int}

/-- An EVSE is authorized with the reservation that matches, or without one if charging is
possible. -/
theorem authorizeEvse_eq_authorized
    (ha : authorizeEvse evseId idToken result h = .authorized reservationId) :
    reservationId = h.matchesReservedIdentifier idToken (some evseId)
        (result.parentIdToken.map (·.value)) ∧
      (reservationId = none → h.isChargingPossible evseId) := by
  unfold authorizeEvse at ha
  generalize h.matchesReservedIdentifier idToken (some evseId)
    (result.parentIdToken.map (·.value)) = matched at ha
  dsimp only at ha
  cases hm : matched with
  | none =>
    rw [hm] at ha
    split_ifs at ha with hl hc hres hs
    · obtain rfl := Decision.authorized.inj ha
      exact ⟨rfl, fun _ => by simpa using hc⟩
    · simp at hs
  | some id =>
    rw [hm] at ha
    split_ifs at ha with hl hc hres
    · simp at hres
    · obtain rfl := Decision.authorized.inj ha
      exact ⟨rfl, nofun⟩

theorem authorizeEvse_refused {status : AuthorizationStatus}
    (href : authorizeEvse evseId idToken result h = .refused status) : status ≠ .accepted := by
  unfold authorizeEvse at href
  dsimp only at href
  split_ifs at href <;> cases href <;> simp

end AuthHandler

/-- The three ways in which an EVSE is authorized: with its own reservation, with a global one, or
without one. -/
inductive Authorization.Way (a : Authorization) : Prop
  | evse (r : Reservation) (hr : a.before.evseReservations.find? a.evseId = some r)
      (hmatch : matchesToken a.idToken a.parentIdToken r = true)
      (hafter : a.after = a.before.onReservationUsed r.reservationId)
  | global (r : Reservation) (hfree : a.before.evseReservations.find? a.evseId = none)
      (hr : a.before.globalReservations.find?
        (matchesToken a.idToken a.parentIdToken) = some r)
      (hafter : a.after = a.before.onReservationUsed r.reservationId)
  | without (hfree : a.before.evseReservations.find? a.evseId = none)
      (hr : a.before.globalReservations.find?
        (matchesToken a.idToken a.parentIdToken) = none)
      (hcharging : a.before.isChargingPossible a.evseId = true) (hafter : a.after = a.before)

variable {a : Authorization}

theorem Authorization.Decided.way (ha : a.Decided) : a.Way := by
  obtain ⟨result, reservationId, hp, hau, haf⟩ := ha
  obtain ⟨hm, hc⟩ := authorizeEvse_eq_authorized hau
  rw [matchesReservedIdentifier, bind_some, ← hp] at hm
  cases hs : a.before.evseReservations.find? a.evseId with
  | some r =>
    rw [hs] at hm
    by_cases hma : matchesToken a.idToken a.parentIdToken r
    · obtain rfl := hm.trans (if_pos hma)
      exact .evse r hs hma haf
    · -- charging is not possible at an EVSE that is reserved
      have hf := hc (hm.trans (if_neg hma))
      rw [isChargingPossible, OrderedMap.contains, hs] at hf
      simp at hf
  | none =>
    rw [hs] at hm
    cases hg : a.before.globalReservations.find? (matchesToken a.idToken a.parentIdToken) with
    | some r =>
      rw [hg] at hm
      obtain rfl := hm
      exact .global r hs hg haf
    | none =>
      rw [hg] at hm
      obtain rfl := hm
      exact .without hs hg (hc rfl) haf

/-- An EVSE that is authorized is not reserved for another token. -/
theorem Authorization.Way.matches (ha : a.Way) {r : Reservation}
    (hr : a.before.evseReservations.find? a.evseId = some r) :
    matchesToken a.idToken a.parentIdToken r := by
  cases ha with
  | evse r' hr' hm =>
    obtain rfl := some.inj (hr'.symm.trans hr)
    exact hm
  | global r' hf | without hf =>
    rw [hf] at hr
    cases hr

/-- The reservations that remain are serviceable iff the EVSE fits. -/
theorem Authorization.Way.fits_iff (ha : a.Way) (hs : a.before.ServiceableBeside a.evseId) :
    a.Fits ↔ a.after.PossibleWith a.evseId := by
  cases ha with
  | evse r hr hm haf =>
    rw [haf]
    refine iff_of_true (fun hnone => ?_) (possibleWith_of_evse hs hr)
    rw [hnone] at hr
    cases hr
  | global r hfr hr haf =>
    rw [haf, possibleWith_iff_leavesRoom hs (mem_of_find?_eq_some hr)]
    refine ⟨fun hf => hf hfr r hr, fun hroom _ r' hr' => ?_⟩
    obtain rfl := some.inj (hr.symm.trans hr')
    exact hroom
  | without hfr hr hcha haf =>
    rw [haf]
    refine iff_of_true (fun _ r hsome => ?_)
      ((isChargingPossible_iff hs.consistent).mp hcha).2.2
    rw [hr] at hsome
    cases hsome

/-! ## The token -/

section

variable (Rely : ReservationHandler → Prop)

/-- What happens while the mutex is released keeps a property of the reservations. -/
structure TokenEnv.Keeps (env : TokenEnv) : Prop where
  validating : ∀ s : AuthHandler, Rely s.reservationHandler →
    Rely (env.validating s).reservationHandler
  selecting : ∀ i, ∀ s : AuthHandler, Rely s.reservationHandler →
    Rely (env.selecting i s).reservationHandler

/-- An outcome that starts a transaction has gone through the decision on its EVSE. -/
def TokenOutcome.StartsAsDecided (idToken : List Char) (outcome : TokenOutcome) : Prop :=
  outcome.result = .usedToStartTransaction →
    ∃ a, outcome.authorization = some a ∧ Rely a.before ∧ a.Decided ∧ a.idToken = idToken ∧
      outcome.token.connectors = some [a.evseId]

end

namespace AuthHandler

open ReservationHandler

variable {env : TokenEnv} {evseIds : List EvseId}
  {s : AuthHandler} {token : ProvidedIdToken} {outcome : TokenOutcome}
  {Rely : ReservationHandler → Prop}

theorem selectEvse_state {wait : AuthHandler → AuthHandler} {idToken : IdToken} {s' : AuthHandler}
    {selected : SelectEvseResult}
    (hsel : s.selectEvse wait evseIds idToken = some (s', selected)) : s' = s ∨ s' = wait s := by
  unfold selectEvse at hsel
  split at hsel
  · exact .inl (congrArg Prod.fst (some.inj hsel)).symm
  · split at hsel
    · have hs' := (congrArg Prod.fst (some.inj hsel)).symm
      split_ifs at hs' with hno
      · exact .inr hs'
      · exact .inl hs'
    · have hs' := (congrArg Prod.fst (some.inj hsel)).symm
      split_ifs at hs' with hno
      · exact .inr hs'
      · exact .inl hs'
    · split at hsel
      · exact .inl (congrArg Prod.fst (some.inj hsel)).symm
      · split at hsel <;> exact .inl (congrArg Prod.fst (some.inj hsel)).symm
    · cases hsel

theorem authorizeLoop_spec (henv : env.Keeps Rely) (results : List ValidationResult) :
    ∀ (i : Nat) (last : ValidationResult) (token : ProvidedIdToken) (s : AuthHandler)
      (outcome : TokenOutcome), Rely s.reservationHandler →
      s.authorizeLoop env evseIds i results last token = some outcome →
      outcome.StartsAsDecided Rely token.idToken.value := by
  induction results with
  | nil =>
    rintro i last token s outcome - hl hres
    obtain rfl := some.inj hl
    cases hres
  | cons result results ih =>
    intro i last token s outcome hs hl
    rw [authorizeLoop] at hl
    by_cases he : evseIds.isEmpty
    · rw [if_pos he] at hl
      obtain rfl := some.inj hl
      exact nofun
    rw [if_neg he] at hl
    by_cases hacc : (result.authorizationStatus != .accepted)
    · rw [if_pos hacc] at hl
      exact ih _ _ _ _ _ hs hl
    rw [if_neg hacc] at hl
    by_cases hm : s.equalsMasterPassGroupId result.parentIdToken
    · rw [if_pos hm] at hl
      obtain rfl := some.inj hl
      exact nofun
    rw [if_neg hm] at hl
    dsimp only at hl
    split at hl
    · cases hl
    · obtain rfl := some.inj hl
      exact nofun
    · obtain rfl := some.inj hl
      exact nofun
    · next s' e hsel =>
      have hs' : Rely s'.reservationHandler := by
        rcases selectEvse_state hsel with rfl | rfl
        · exact hs
        · exact henv.selecting i _ hs
      split at hl
      · next status hd =>
        have hrest := fun hs => ih _ _ _ _ outcome hs hl
        refine hrest ?_
        unfold notifyEvse
        rw [if_neg (by simpa using authorizeEvse_refused hd)]
        exact hs'
      · next reservationId hd =>
        obtain rfl := some.inj hl
        exact fun _ => ⟨_, rfl, hs', ⟨result, reservationId, rfl, hd, rfl⟩, rfl, rfl⟩

theorem stopOnReswipe_ne (hst : s.stopOnReswipe evseIds token = some outcome) :
    outcome.result ≠ .usedToStartTransaction := by
  unfold stopOnReswipe at hst
  by_cases ht : (token.authorizationType != .rfid && token.authorizationType != .bankCard)
  · rw [if_pos ht] at hst
    cases hst
  rw [if_neg ht] at hst
  obtain ⟨e, -, rfl⟩ := map_eq_some_iff.mp hst
  split_ifs <;> simp

theorem stopWithParentIdToken_ne {results : List ValidationResult}
    (hst : s.stopWithParentIdToken evseIds token results = some outcome) :
    outcome.result ≠ .usedToStartTransaction := by
  unfold stopWithParentIdToken at hst
  split_ifs at hst
  obtain ⟨result, -, hres⟩ := exists_of_findSome?_eq_some hst
  unfold stopWithParent at hres
  by_cases hacc : (result.authorizationStatus != .accepted)
  · rw [if_pos hacc] at hres
    cases hres
  rw [if_neg hacc] at hres
  obtain ⟨parent, -, hp⟩ := bind_eq_some_iff.mp hres
  by_cases hm : s.equalsMasterPassGroupId (some parent)
  · rw [if_pos hm] at hp
    obtain rfl := some.inj hp
    simp
  · rw [if_neg hm] at hp
    obtain ⟨e, -, rfl⟩ := map_eq_some_iff.mp hp
    split_ifs <;> simp

theorem handleToken_spec (henv : env.Keeps Rely)
    (hs : Rely s.reservationHandler) (hout : s.handleToken env token = some outcome) :
    outcome.StartsAsDecided Rely token.idToken.value := by
  unfold handleToken at hout
  dsimp only at hout
  split at hout
  · next stopped hst =>
    obtain rfl := some.inj hout
    exact fun hres => absurd hres (stopOnReswipe_ne hst)
  by_cases hus : (!s.mayBeUsed (s.getReferencedEvses token) token)
  · rw [if_pos hus] at hout
    obtain rfl := some.inj hout
    exact nofun
  rw [if_neg hus] at hout
  have hval : Rely (s.validateToken env token).2.reservationHandler := by
    unfold validateToken
    split_ifs
    · exact hs
    · exact henv.validating s hs
  generalize s.validateToken env token = validated at hout hval
  obtain ⟨results, s'⟩ := validated
  split at hout
  · next stopped hst =>
    obtain rfl := some.inj hout
    exact fun hres => absurd hres (stopWithParentIdToken_ne hst)
  split_ifs at hout
  · obtain rfl := some.inj hout
    exact nofun
  · obtain rfl := some.inj hout
    exact nofun
  · exact authorizeLoop_spec henv results _ _ _ _ _ hval hout

end AuthHandler

/-- **Authorizing a token keeps the reservations of others exactly when the EVSE fits.** When
`handle_token` returns that the token was used to start a transaction, it has authorized one EVSE,
and that EVSE was not reserved for a token that does not match. If the reservations of that moment
are jointly serviceable, where the car may be at the EVSE already, then those that remain are
jointly serviceable with the EVSE occupied iff the EVSE fits the global reservation that was used,
if any. What is known of the reservations before holds at that moment as far as it is kept while the
mutex is released. -/
theorem authorization_keeps_reservations (env : TokenEnv) (Rely : ReservationHandler → Prop)
    (henv : env.Keeps Rely) (token : ProvidedIdToken) (s : AuthHandler)
    (hs : Rely s.reservationHandler) (outcome : TokenOutcome)
    (houtcome : s.handleToken env token = some outcome)
    (hresult : outcome.result = .usedToStartTransaction) :
    ∃ a, outcome.authorization = some a ∧ a.idToken = token.idToken.value ∧
      outcome.token.connectors = some [a.evseId] ∧ Rely a.before ∧
      (∀ r, a.before.evseReservations.find? a.evseId = some r →
        matchesToken a.idToken a.parentIdToken r = true) ∧
      (a.before.ServiceableBeside a.evseId →
        (a.Fits ↔ isReservationPossible (occupy a.evseId a.after.evses) none
          a.after.globalReservations a.after.evseReservations = true)) := by
  obtain ⟨a, hau, hrely, ha, hid, hc⟩ := handleToken_spec henv hs houtcome hresult
  exact ⟨a, hau, hid, hc, hrely, fun r hr => ha.way.matches hr, ha.way.fits_iff⟩

/-- Two EVSEs of different types, with a global reservation for each of the types. -/
def twoTypes : AuthHandler where
  reservationHandler :=
    (empty
      ((∅ : Evses).insert 1 (freeEvse .cType2) |>.insert 2 (freeEvse .cCCS2)) true 0).run
      [.makeReservation none
          { reservationId := 5, idToken := ['A'], expiryTime := 100, connectorType := some .cCCS2 },
        .makeReservation none
          { reservationId := 6, idToken := ['B'], expiryTime := 100,
            connectorType := some .cType2 }]

theorem jointlyServiceable_twoTypes : twoTypes.reservationHandler.JointlyServiceable :=
  ⟨consistent_run _ (consistent_empty _ _ _), by decide⟩

/-- A token that is valid without a validator, for some EVSEs. -/
def prevalidatedToken (value : List Char) (evseIds : List EvseId) : ProvidedIdToken :=
  { idToken := ⟨value, .central⟩, connectors := some evseIds, prevalidated := some true }

/-- The car arrives at the EVSE while `select_evse` waits for it. -/
def arrivesAt (evseId : EvseId) : TokenEnv where
  selecting _ s :=
    { s with
      reservationHandler :=
        { s.reservationHandler with evses := occupy evseId s.reservationHandler.evses }
      plugInQueue := s.plugInQueue ++ [evseId] }

theorem arrivesAt_keeps (evseId : EvseId) :
    (arrivesAt evseId).Keeps (ServiceableBeside evseId) := by
  refine ⟨fun _ hs => hs, fun _ s hs => ?_⟩
  have hc := hs.consistent
  have hkeys : ∀ e ∈ s.reservationHandler.evseReservations.keys,
      e ∈ (occupy evseId s.reservationHandler.evses).keys := fun e he =>
    mem_keys_setPluggedIn (hc.evses e he)
  refine ⟨⟨hc.unique, hc.timers, hkeys, hc.stored⟩, ?_⟩
  refine (isReservationPossible_iff fun e he => mem_keys_setPluggedIn (hkeys e he)).mpr
    fun o ho => (arrives_congr fun type _ e => ?_).mp (hs.arrives ho)
  simp only [CanTake, vacate, occupy, find?_setPluggedIn]
  cases s.reservationHandler.evses.find? e with
  | none => simp
  | some evse => by_cases he : e = evseId <;> simp [he]

/-- The token of the first reservation is used at the EVSE of its type, where the car arrives while
`select_evse` waits. -/
theorem right_type_used :
    ∃ a, (twoTypes.handleToken (arrivesAt 2) (prevalidatedToken ['a'] [1, 2])).bind
        (·.authorization) = some a ∧ a.evseId = 2 ∧ a.Fits ∧
      isReservationPossible (occupy a.evseId a.after.evses) none a.after.globalReservations
        a.after.evseReservations = true := by
  cases ho : twoTypes.handleToken (arrivesAt 2) (prevalidatedToken ['a'] [1, 2]) with
  | none => exact absurd ho (by decide)
  | some outcome =>
    have hr : (twoTypes.handleToken (arrivesAt 2) (prevalidatedToken ['a'] [1, 2])).map
        (·.result) = some .usedToStartTransaction := by decide
    have he : (twoTypes.handleToken (arrivesAt 2) (prevalidatedToken ['a'] [1, 2])).map
        (·.token.connectors) = some (some [2]) := by decide
    have hp : ((twoTypes.handleToken (arrivesAt 2) (prevalidatedToken ['a'] [1, 2])).bind
        (·.authorization)).all fun a => isReservationPossible (occupy a.evseId a.after.evses) none
          a.after.globalReservations a.after.evseReservations := by decide
    rw [ho] at hr he hp
    obtain ⟨a, ha, -, hc, hs, -, hiff⟩ := authorization_keeps_reservations (arrivesAt 2)
      (ServiceableBeside 2) (arrivesAt_keeps 2) _ _ (jointlyServiceable_twoTypes.beside 2) outcome
      ho (some.inj hr)
    have hevse : a.evseId = 2 := by
      simpa using hc.symm.trans (some.inj he)
    rw [bind_some, ha] at hp
    exact ⟨a, ha, hevse, (hiff (hevse ▸ hs)).mpr hp, hp⟩

/-- The token of the first reservation, for the type of EVSE 2, is used at EVSE 1. The second
reservation needs EVSE 1, and is left without a place. -/
theorem wrong_type_used :
    (twoTypes.handleToken {} (prevalidatedToken ['A'] [1])).map (fun outcome =>
      (outcome.result, outcome.token.connectors, outcome.authorization.map fun a =>
        (a.after.globalReservations.map (·.reservationId),
          isReservationPossible (occupy a.evseId a.after.evses) none a.after.globalReservations
            a.after.evseReservations))) =
      some (.usedToStartTransaction, some [1], some ([6], false)) := by
  decide

end EverestCore.Auth

import EverestCore.Lib.KeysetPaging
import EverestCore.PersistentSessionStorage.ContinuationToken

/-!
# Pages of sessions

Model of `SessionStore::get_sessions` (`storage/session_store.cpp`), and of a client that follows
the continuation tokens while other calls change the table between its requests.

Results:
* `pages_complete`: the client comes to the end if no session starts meanwhile. When it does, the
  pages are in the order of the ids and leave out no record that was there throughout.
-/

namespace EverestCore.PersistentSessionStorage

open EverestCore.Lib List KeysetPaging Option

def defaultPageLimit : Int := 100

def maxPageLimit : Int := 500

def pageByteBudget : Nat := 256 * 1024

structure SessionFilter where
  state : Option SessionState := none
  evseId : Option Int := none
  startedAfter : Option String := none

structure GetSessionsRequest where
  limit : Option Int := none
  continuationToken : Option String := none
  filter : Option SessionFilter := none

structure SessionList (Meter Cost : Type) where
  sessions : List (Session Meter Cost)
  continuationToken : Option String

section GetSessions

variable {Meter Cost : Type} (codec : Codec Meter Cost)

/-- `started_after` where the timestamp is readable, nothing where it is ignored. -/
def effectiveStartedAfter (filter : SessionFilter) : Option String :=
  filter.startedAfter.filter fun timestamp => (codec.julianday timestamp).isSome

/-- `julianday(TIMESTAMP_START) > julianday(@started_after)`, which `NULL` never is. -/
def startsAfter (timestampStart startedAfter : String) : Bool :=
  match codec.julianday timestampStart, codec.julianday startedAfter with
  | some start, some after => after < start
  | _, _ => false

/-- The filter of the query. -/
def matchesFilter (filter : SessionFilter) (r : Row) : Bool :=
  filter.state.all (r.record.state = ·) && filter.evseId.all (r.record.evseId = ·) &&
    (effectiveStartedAfter codec filter).all (startsAfter codec r.record.timestampStart)

/-- `SELECT .. WHERE ID > @cursor AND .. ORDER BY ID ASC LIMIT @limit + 1`. -/
def query (t : SessionTable) (cursor : Nat) (filter : SessionFilter) (limit : Nat) : List Row :=
  (remaining Row.id (matchesFilter codec filter) cursor t.rows).take (limit + 1)

/-- A row as a session, with the size of its JSON; nothing where one of them throws. -/
def readRow (row : Row) : Option (Session Meter Cost × Nat) := do
  let session ← rowToSession codec row
  let size ← codec.dumpSize session
  return (session, size)

/-- The variables of the loop over the rows. -/
structure PageState (Meter Cost : Type) where
  lastSeenId : Nat := 0
  processedRows : Nat := 0
  pageBytes : Nat := 0
  sessions : List (Session Meter Cost) := []
  moreRecordsFollow : Bool := false

/-- One row: an unreadable one is left out of the page, and passed nevertheless. -/
def PageState.step (s : PageState Meter Cost) (row : Row) : PageState Meter Cost :=
  let s := { s with lastSeenId := row.id, processedRows := s.processedRows + 1 }
  match readRow codec row with
  | none => s
  | some (session, size) =>
    { s with pageBytes := s.pageBytes + size, sessions := s.sessions ++ [session] }

/-- The loop over the rows, which leaves a full page at the next row. -/
def readPage (limit : Nat) : PageState Meter Cost → List Row → PageState Meter Cost
  | s, [] => s
  | s, row :: rest =>
    if s.processedRows = limit ∨ pageByteBudget < s.pageBytes then
      { s with moreRecordsFollow := true }
    else readPage limit (s.step codec row) rest

/-- `std::clamp(request.limit.value_or(DEFAULT_PAGE_LIMIT), 1, MAX_PAGE_LIMIT)`. -/
def effectiveLimit (limit : Option Int) : Nat :=
  (max 1 (min (limit.getD defaultPageLimit) maxPageLimit)).toNat

def getSessions (epoch : Epoch) (t : SessionTable) (request : GetSessionsRequest) :
    SessionList Meter Cost :=
  let limit := effectiveLimit request.limit
  let cursor := parseContinuationToken epoch.text request.continuationToken
  let filter := request.filter.getD {}
  let page := readPage codec limit {} (query codec t cursor filter limit)
  { sessions := page.sessions
    continuationToken :=
      if page.moreRecordsFollow then some (continuationToken epoch.text page.lastSeenId)
      else none }

end GetSessions

/-! ## One page -/

section ReadPage

variable {Meter Cost : Type} {codec : Codec Meter Cost} {limit : Nat}

/-- The rows that the loop has passed when it ends. -/
def seenRows (codec : Codec Meter Cost) (limit : Nat) : PageState Meter Cost → List Row → List Row
  | _, [] => []
  | s, row :: rest =>
    if s.processedRows = limit ∨ pageByteBudget < s.pageBytes then []
    else row :: seenRows codec limit (s.step codec row) rest

/-- The records of these rows that are on the page. -/
def readable (codec : Codec Meter Cost) (rows : List Row) : List Row :=
  rows.filter fun r => (readRow codec r).isSome

variable (s : PageState Meter Cost) (rows : List Row)

variable (row : Row)

@[simp] theorem step_processedRows : (s.step codec row).processedRows = s.processedRows + 1 := by
  unfold PageState.step
  cases readRow codec row <;> rfl

@[simp] theorem step_lastSeenId : (s.step codec row).lastSeenId = row.id := by
  unfold PageState.step
  cases readRow codec row <;> rfl

@[simp] theorem step_moreRecordsFollow :
    (s.step codec row).moreRecordsFollow = s.moreRecordsFollow := by
  unfold PageState.step
  cases readRow codec row <;> rfl

theorem rowToSession_of_readRow {row : Row} {read : Session Meter Cost × Nat}
    (h : readRow codec row = some read) : rowToSession codec row = some read.1 := by
  obtain ⟨session, hs, hsi⟩ := bind_eq_some_iff.mp h
  obtain ⟨size, -, heq⟩ := bind_eq_some_iff.mp hsi
  obtain rfl : (session, size) = read := some.inj heq
  exact hs

/-- The loop goes from `s` to `s'`, past the rows `seen` of `rows`. -/
structure Passes (codec : Codec Meter Cost) (limit : Nat) (s s' : PageState Meter Cost)
    (seen rows : List Row) : Prop where
  first : seen <+: rows
  length : s.processedRows + seen.length ≤ limit
  /-- The loop says that more follow just when it has not passed all rows. -/
  more : s'.moreRecordsFollow ↔ seen ≠ rows
  last : s'.lastSeenId = (seen.getLast?.map (·.id)).getD s.lastSeenId
  sessions : ∃ sessions, s'.sessions = s.sessions ++ sessions ∧
    List.Forall₂ (fun r session => rowToSession codec r = some session) (readable codec seen)
      sessions

theorem passes_readPage (hl : s.processedRows ≤ limit) (hm : s.moreRecordsFollow = false) :
    Passes codec limit s (readPage codec limit s rows) (seenRows codec limit s rows) rows := by
  induction rows generalizing s with
  | nil =>
    exact ⟨prefix_rfl, hl, by simp [readPage, seenRows, hm], rfl, [], (append_nil _).symm, .nil⟩
  | cons row rest ih =>
    rw [readPage, seenRows]
    by_cases hf : s.processedRows = limit ∨ pageByteBudget < s.pageBytes
    · rw [if_pos hf, if_pos hf]
      exact ⟨ nil_prefix, hl, by simp, rfl, [], (append_nil _).symm, .nil⟩
    · obtain ⟨hfi, hlen, hmo, hla, sessions, hs, hr⟩ := ih (s.step codec row)
        (by rw [step_processedRows]; omega) (by rw [step_moreRecordsFollow, hm])
      rw [step_processedRows] at hlen
      rw [if_neg hf, if_neg hf]
      refine ⟨(prefix_cons_inj row).mpr hfi, by rw [length_cons]; omega, by simp [hmo], ?_, ?_⟩
      · rw [hla, step_lastSeenId, List.getLast?_cons]
        cases (seenRows codec limit (s.step codec row) rest).getLast? <;> rfl
      cases hrow : readRow codec row with
      | none =>
        refine ⟨sessions, ?_, ?_⟩
        · rw [hs, PageState.step, hrow]
        · rwa [readable, filter_cons_of_neg (by rw [hrow]; simp)]
      | some read =>
        refine ⟨read.1 :: sessions, ?_, ?_⟩
        · rw [hs, PageState.step, hrow]
          simp
        · rw [readable, filter_cons_of_pos (by rw [hrow]; rfl)]
          exact .cons (rowToSession_of_readRow hrow) hr

theorem one_le_effectiveLimit (limit : Option Int) : 1 ≤ effectiveLimit limit := by
  unfold effectiveLimit
  omega

theorem seenRows_ne_nil {rows : List Row} (hl : 1 ≤ limit) (h : rows ≠ []) :
    seenRows codec limit {} rows ≠ [] := by
  obtain ⟨row, rest, rfl⟩ := exists_cons_of_ne_nil h
  have hf : ¬ (0 = limit ∨ pageByteBudget < 0) := by omega
  rw [seenRows, if_neg hf]
  exact cons_ne_nil _ _

/-- The cursor that a page names: the last row it has passed, if more follow. -/
def nextCursor (codec : Codec Meter Cost) (limit : Nat) (rows : List Row) : Option Nat :=
  if (readPage codec limit {} rows).moreRecordsFollow then
    some (readPage codec limit {} rows).lastSeenId
  else none

/-- **The loop makes a page of the rows**, also when the query has cut them after the limit. -/
theorem readPage_isPage (hl : 1 ≤ limit) (rows : List Row) :
    KeysetPaging.IsPage Row.id rows (seenRows codec limit {} (rows.take (limit + 1)))
      (nextCursor codec limit (rows.take (limit + 1))) := by
  have hp : Passes codec limit {} _ _ (rows.take (limit + 1)) :=
    passes_readPage {} _ limit.zero_le rfl
  refine ⟨hp.first.trans ( take_prefix _ _), fun hno => ?_, fun c hc => ?_⟩
  · -- without more rows the loop has passed all of the query, which then was not cut
    have hall : seenRows codec limit {} (rows.take (limit + 1)) = rows.take (limit + 1) := by
      by_contra hne
      rw [nextCursor, if_pos (hp.more.mpr hne)] at hno
      cases hno
    have hlen : 0 + _ ≤ limit := hp.length
    rw [hall, length_take] at hlen
    rw [hall, take_of_length_le (by omega)]
  · by_cases hf : (readPage codec limit {} (rows.take (limit + 1))).moreRecordsFollow
    · rw [nextCursor, if_pos hf, hp.last] at hc
      have hne : seenRows codec limit {} (rows.take (limit + 1)) ≠ [] := by
        refine seenRows_ne_nil hl fun hnil => hp.more.mp hf ?_
        rw [hnil, seenRows]
      obtain ⟨a, ha⟩ := List.getLast?_isSome.mpr hne |> isSome_iff_exists.mp
      rw [ha] at hc
      exact ⟨a, ha, some.inj hc⟩
    · rw [nextCursor, if_neg hf] at hc
      cases hc

end ReadPage

/-! ## A client that follows the tokens -/

/-- A client with its limit and filter, and what the other callers do between its requests. -/
structure Client (Meter Cost : Type) where
  codec : Codec Meter Cost
  epoch : Epoch
  maxSessions : Int
  /-- The table at the first request. -/
  table : SessionTable
  /-- The operations between a request and the next one. -/
  between : Nat → List (Operation Meter Cost)
  limit : Option Int
  filter : Option SessionFilter

namespace Client

variable {Meter Cost : Type} (c : Client Meter Cost)

/-- The table at the `k`-th request. -/
def tableAt : Nat → SessionTable
  | 0 => c.table
  | k + 1 => Machine.run (Operation.apply c.codec c.maxSessions) (tableAt k) (c.between k)

/-- The token of the `k`-th request: none at first, then the one of the page before. -/
def tokenAt : Nat → Option String
  | 0 => none
  | k + 1 =>
    (getSessions c.codec c.epoch (c.tableAt k)
      { limit := c.limit, continuationToken := tokenAt k, filter := c.filter }).continuationToken

/-- The reply to the `k`-th request. -/
def pageAt (k : Nat) : SessionList Meter Cost :=
  getSessions c.codec c.epoch (c.tableAt k)
    { limit := c.limit, continuationToken := c.tokenAt k, filter := c.filter }

/-- The `n`-th page is the first without a token. -/
def EndsAt (n : Nat) : Prop :=
  (c.pageAt n).continuationToken = none ∧ ∀ k < n, (c.pageAt k).continuationToken ≠ none

/-- The filter of all requests. -/
def matchesAll (r : Row) : Bool := matchesFilter c.codec (c.filter.getD {}) r

/-- The record id that the `k`-th request continues after. -/
def cursorAt (k : Nat) : Nat := parseContinuationToken c.epoch.text (c.tokenAt k)

/-- The rows that the query of the `k`-th request returns. -/
def rowsAt (k : Nat) : List Row :=
  query c.codec (c.tableAt k) (c.cursorAt k) (c.filter.getD {}) (effectiveLimit c.limit)

/-- The rows that the `k`-th page has passed. -/
def seenAt (k : Nat) : List Row := seenRows c.codec (effectiveLimit c.limit) {} (c.rowsAt k)

/-- The cursor that the `k`-th page names. -/
def nextAt (k : Nat) : Option Nat := nextCursor c.codec (effectiveLimit c.limit) (c.rowsAt k)

variable {c}

theorem continuationToken_pageAt (k : Nat) :
    (c.pageAt k).continuationToken = (c.nextAt k).map (continuationToken c.epoch.text) := by
  rw [nextAt, nextCursor, apply_ite (Option.map _)]
  rfl

theorem endsAt_iff {n : Nat} : c.EndsAt n ↔ KeysetPaging.Ends c.nextAt n := by
  simp only [EndsAt, KeysetPaging.Ends, continuationToken_pageAt, ne_eq, Option.map_eq_none_iff]

theorem isPage_seenAt (k : Nat) :
    KeysetPaging.IsPage Row.id
      (remaining Row.id c.matchesAll (c.cursorAt k) (c.tableAt k).rows)
      (c.seenAt k) (c.nextAt k) :=
  readPage_isPage (one_le_effectiveLimit c.limit) _

/-- **The requests of a client list the table by its ids.** A token stands for the last row of the
page, whose id is one that the token can be read back to. -/
theorem listing :
    KeysetPaging.Listing Row.id c.matchesAll (fun k => (c.tableAt k).rows) c.cursorAt c.seenAt
      c.nextAt where
  sorted := fun k => (c.tableAt k).ascending
  page := isPage_seenAt
  follows := by
    intro k id hne
    obtain ⟨r, hl, rfl⟩ := (isPage_seenAt k).last id hne
    have hs : r ∈ c.seenAt k := mem_of_getLast? hl
    have hrow : r ∈ (c.tableAt k).rows :=
      (mem_remaining.mp ((isPage_seenAt k).first.subset hs)).1
    have hto : c.tokenAt (k + 1) = some (continuationToken c.epoch.text r.id) := by
      change (c.pageAt k).continuationToken = _
      rw [continuationToken_pageAt, hne]
      rfl
    rw [cursorAt, hto]
    exact parse_continuationToken c.epoch ((c.tableAt k).positive r hrow)
      (((c.tableAt k).numbered r hrow).trans (c.tableAt k).bounded)

/-- The records that the pages up to the `n`-th list, page by page. -/
def recordsAt (c : Client Meter Cost) (k : Nat) : List Row := readable c.codec (c.seenAt k)

/-- `records k` are the records of the `k`-th page: matching rows of the table at that request,
whose sessions the page has. -/
def OnPage (c : Client Meter Cost) (k : Nat) (records : List Row) : Prop :=
  (∀ r ∈ records, r ∈ (c.tableAt k).rows ∧ c.matchesAll r = true) ∧
    List.Forall₂ (fun r session => rowToSession c.codec r = some session) records
      (c.pageAt k).sessions

theorem onPage_recordsAt (k : Nat) : c.OnPage k (c.recordsAt k) := by
  constructor
  · intro r hr
    have hse : r ∈ c.seenAt k := (mem_filter.mp hr).1
    obtain ⟨hrow, hm, -⟩ :=
      mem_remaining.mp ((isPage_seenAt k).first.subset hse)
    exact ⟨hrow, hm⟩
  · obtain ⟨sessions, hs, hre⟩ := (passes_readPage {} (c.rowsAt k) (Nat.zero_le _) rfl).sessions
    have hp : (c.pageAt k).sessions = sessions := hs
    rw [hp]
    exact hre

/-- What is there, readable and matching, at every request is on one of the pages. -/
theorem exists_mem_recordsAt {n id : Nat} (hn : c.EndsAt n)
    (hid : ∀ k ≤ n, ∃ r ∈ (c.tableAt k).rows,
      r.id = id ∧ c.matchesAll r ∧ (readRow c.codec r).isSome) :
    ∃ k ≤ n, ∃ r ∈ c.recordsAt k, r.id = id := by
  obtain ⟨r, hr, hrid, -⟩ := hid 0 (Nat.zero_le n)
  have hpos : c.cursorAt 0 < id := hrid ▸ (c.tableAt 0).positive r hr
  have hi : Nonempty Row := ⟨r⟩
  choose! row hrow using hid
  obtain ⟨k, hk, hs⟩ := c.listing.mem_seen (endsAt_iff.mp hn) row hpos fun k hk =>
    ⟨(hrow k hk).1, (hrow k hk).2.2.1, (hrow k hk).2.1⟩
  exact ⟨k, hk, row k, mem_filter.mpr ⟨hs, (hrow k hk).2.2.2⟩, (hrow k hk).2.1⟩

/-- **The pages of sessions are complete.** If no session starts meanwhile, a client that follows
the tokens comes to a page without one. Whenever it does, and whatever was done to the table
between its requests, the records on its pages are in the order of their ids, none is there
twice, and none is missing that was there, readable and matching, at every request. -/
theorem pages_complete (c : Client Meter Cost) :
    ((∀ k, Machine.Along (Operation.apply c.codec c.maxSessions)
        (fun t op => ¬ op.Inserts c.maxSessions t) (c.tableAt k) (c.between k)) →
      ∃ n, c.EndsAt n) ∧
      ∀ n, c.EndsAt n → ∃ records : Nat → List Row, (∀ k ≤ n, c.OnPage k (records k)) ∧
        ((List.range (n + 1)).flatMap records).Pairwise (·.id < ·.id) ∧
        (((List.range (n + 1)).flatMap records).map (·.id)).Nodup ∧
        ∀ id, (∀ k ≤ n, ∃ r ∈ (c.tableAt k).rows,
            r.id = id ∧ c.matchesAll r = true ∧ (readRow c.codec r).isSome) →
          id ∈ ((List.range (n + 1)).flatMap records).map (·.id) := by
  constructor
  · intro hno
    obtain ⟨n, hn⟩ := c.listing.exists_ends fun k =>
      Operation.ids_run_subset c.codec c.maxSessions (c.tableAt k) (hno k)
    exact ⟨n, endsAt_iff.mpr hn⟩
  · intro n hn
    have he := endsAt_iff.mp hn
    have ho : ((List.range (n + 1)).flatMap c.recordsAt).Pairwise (·.id < ·.id) := by
      have hf : (List.range (n + 1)).flatMap c.recordsAt
          = readable c.codec ((List.range (n + 1)).flatMap c.seenAt) := filter_flatMap.symm
      rw [hf]
      exact (c.listing.pairwise_seen he).filter _
    refine ⟨c.recordsAt, fun k _ => onPage_recordsAt k, ho, ?_, fun id hid => ?_⟩
    · exact pairwise_map.mpr (ho.imp fun hlt => hlt.ne)
    · obtain ⟨k, hk, r, hr, rfl⟩ := exists_mem_recordsAt hn hid
      refine mem_map_of_mem (mem_flatMap.mpr ⟨k, ?_, hr⟩)
      exact mem_range.mpr (Nat.lt_succ_of_le hk)

end Client

end EverestCore.PersistentSessionStorage

import EverestCore.Lib.Batching
import EverestCore.Lib.JsonText

/-!
# Splitting a `NotifyReportRequest` into several calls

Model of `v2/notify_report_requests_splitter.cpp` and of `to_json` in
`v2/messages/NotifyReport.cpp`.

Results:
* `payloads_lossless_and_sized`: the report data comes out as it went in, under consecutive
  numbers, and the calls of several elements keep the limit just when each leaves room for the
  further digits of its number.
-/

namespace EverestCore.Ocpp.V2

open EverestCore.Lib List Batching Json OrderedMap

structure NotifyReportRequest (ReportData : Type*) where
  requestId : Int
  /-- `generatedAt.to_rfc3339()`. -/
  generatedAt : String
  seqNo : Int := 0
  reportData : Option (List ReportData) := none
  tbc : Option Bool := none
  customData : Option Json := none

/-- A member that is written only where the request has a value for it. -/
def setOptional (j : Json) (key : String) (value : Option Json) : Json :=
  match value with
  | some v => j.setMember key v
  | none => j

/-- `to_json(json&, const NotifyReportRequest&)`. -/
def NotifyReportRequest.toJson {ReportData : Type*} (encode : ReportData → Json)
    (k : NotifyReportRequest ReportData) : Json :=
  let j := ofMembers
    [("requestId", .int k.requestId), ("generatedAt", .string k.generatedAt),
      ("seqNo", .int k.seqNo)]
  let j := setOptional j "reportData" (k.reportData.map fun data => .array (data.map encode))
  let j := setOptional j "tbc" (k.tbc.map .bool)
  setOptional j "customData" k.customData

/-- `NotifyReportRequestsSplitter`, with the callback as the ids it returns. -/
structure Splitter (ReportData : Type*) where
  originalRequest : NotifyReportRequest ReportData
  maxSize : Nat
  messageIds : Nat → String

/-- `[MessageTypeId::CALL, message_id, MESSAGE_TYPE, request]`. -/
def callJson (messageId : String) (request : Json) : Json :=
  .array [.int 2, .string messageId, .string "NotifyReport", request]

namespace Splitter

variable {ReportData : Type*} (encode : ReportData → Json) (s : Splitter ReportData)

/-- `request_json_template`: number 0, nothing to follow, no report data. -/
def requestJsonTemplate : Json :=
  NotifyReportRequest.toJson encode
    { requestId := s.originalRequest.requestId
      generatedAt := s.originalRequest.generatedAt
      tbc := some false }

/-- `create_request_template_json_and_return_skeleton_size`. -/
def jsonSkeletonSize : Nat :=
  (callJson "" (s.requestJsonTemplate encode)).byteSize + ",\"reportData\":".utf8ByteSize

/-- The loop of `create_next_report_data_json`: the report data so far, its size, and the
elements from the iterator on. -/
def appendFitting (remainingSize : Nat) :
    List Json → Nat → List ReportData → Json × List ReportData
  | reportData, _, [] => (.array reportData, [])
  | reportData, size, current :: rest =>
    -- one more for the separating comma
    let additional := (encode current).byteSize + 1
    if size + additional ≤ remainingSize then
      appendFitting remainingSize (reportData ++ [encode current]) (size + additional) rest
    else (.array reportData, current :: rest)

/-- `create_next_report_data_json`: the first element whatever its size, then what fits. -/
def createNextReportDataJson (it : List ReportData) (remainingSize : Nat) :
    Json × List ReportData :=
  match it with
  | [] => (.array [], [])
  | [first] => (.array [encode first], [])
  | first :: rest =>
    appendFitting encode remainingSize [encode first] (array [encode first]).byteSize rest

def createNextPayload (seqNo : Nat) (it : List ReportData) (messageId : String) :
    Json × List ReportData :=
  let baseLength := s.jsonSkeletonSize encode + messageId.utf8ByteSize
  let remainingSize := if baseLength ≤ s.maxSize then s.maxSize - baseLength else 0
  let next := createNextReportDataJson encode it remainingSize
  let request := s.requestJsonTemplate encode
  let request := request.setMember "reportData" next.1
  let request := request.setMember "tbc" (.bool !next.2.isEmpty)
  let request := request.setMember "seqNo" (.int seqNo)
  (callJson messageId request, next.2)

/-! ## One payload is one batch -/

/-- What a further element adds to a payload: its text and a comma. -/
def elementCost (r : ReportData) : Nat := (encode r).byteSize + 1

/-- `remaining_size` for the call with the given id. -/
def budget (messageId : String) : Nat :=
  s.maxSize - (s.jsonSkeletonSize encode + messageId.utf8ByteSize)

/-- The elements of one payload. The array around them costs one byte more than their commas. -/
def nextBatch (remainingSize : Nat) (it : List ReportData) : List ReportData × List ReportData :=
  next (elementCost encode) 1 remainingSize it

variable {encode} {s}

theorem appendFitting_eq {remainingSize size : Nat} {reportData : List Json}
    {it : List ReportData} :
    appendFitting encode remainingSize reportData size it = (.array (reportData ++
            (fill (elementCost encode) remainingSize size it).1.map encode),
          (fill (elementCost encode) remainingSize size it).2) := by
  induction it generalizing reportData size with
  | nil => simp [appendFitting, fill]
  | cons r rest ih =>
    rw [appendFitting, fill]
    by_cases h : size + ((encode r).byteSize + 1) ≤ remainingSize
    · rw [if_pos h, ih, elementCost, if_pos h]
      simp
    · rw [if_neg h, elementCost, if_neg h]
      simp

theorem createNextReportDataJson_eq (it : List ReportData) (remainingSize : Nat) :
    createNextReportDataJson encode it remainingSize
      = (.array ((nextBatch encode remainingSize it).1.map encode),
          (nextBatch encode remainingSize it).2) := by
  match it with
  | [] => rfl
  | [first] => rfl
  | first :: second :: rest =>
    have hs : (array [encode first]).byteSize = 1 + elementCost encode first :=
      byteSize_array (cons_ne_nil _ _)
    rw [createNextReportDataJson, appendFitting_eq, hs]
    · rfl
    · simp

/-- The request of a payload: the batch, whether more follow, and the number. -/
def requestOf (encode : ReportData → Json) (s : Splitter ReportData) (seqNo : Nat)
    (batch : List ReportData) (more : Bool) : Json :=
  .object
    [("generatedAt", .string s.originalRequest.generatedAt),
      ("reportData", .array (batch.map encode)),
      ("requestId", .int s.originalRequest.requestId), ("seqNo", .int seqNo), ("tbc", .bool more)]

/-- A payload. -/
def callOf (encode : ReportData → Json) (s : Splitter ReportData) (seqNo : Nat)
    (batch : List ReportData) (more : Bool) : Json :=
  callJson (s.messageIds seqNo) (requestOf encode s seqNo batch more)

theorem requestJsonTemplate_eq : s.requestJsonTemplate encode = .object
    [("generatedAt", .string s.originalRequest.generatedAt),
      ("requestId", .int s.originalRequest.requestId), ("seqNo", .int 0),
      ("tbc", .bool false)] := by
  simp (disch := decide) only [requestJsonTemplate, NotifyReportRequest.toJson, setOptional,
    ofMembers, setMember, Option.map_none, Option.map_some, foldl_cons,
    foldl_nil, insertEntry_nil, insertEntry_cons_of_lt,
    insertEntry_cons_of_gt]

theorem budget_eq (messageId : String) :
    (if s.jsonSkeletonSize encode + messageId.utf8ByteSize ≤ s.maxSize
      then s.maxSize - (s.jsonSkeletonSize encode + messageId.utf8ByteSize) else 0)
      = s.budget encode messageId := by
  rw [budget]
  by_cases h : s.jsonSkeletonSize encode + messageId.utf8ByteSize ≤ s.maxSize
  · rw [if_pos h]
  · rw [if_neg h]
    omega

theorem createNextPayload_eq (seqNo : Nat) (it : List ReportData) :
    s.createNextPayload encode seqNo it (s.messageIds seqNo)
      = (callOf encode s seqNo (nextBatch encode (s.budget encode (s.messageIds seqNo)) it).1
          (!(nextBatch encode (s.budget encode (s.messageIds seqNo)) it).2.isEmpty),
        (nextBatch encode (s.budget encode (s.messageIds seqNo)) it).2) := by
  simp (disch := decide) only [createNextPayload, budget_eq, createNextReportDataJson_eq,
    requestJsonTemplate_eq, setMember, insertEntry_cons_of_lt,
    insertEntry_cons_of_gt, insertEntry_cons_self, callOf, requestOf]

/-! ## All payloads -/

/-- The loop of `create_call_payloads`, which makes a payload also of no report data at all. -/
def createPayloads (encode : ReportData → Json) (s : Splitter ReportData) (seqNo : Nat)
    (it : List ReportData) : List Json :=
  if h : seqNo = 0 ∨ it ≠ [] then
    (s.createNextPayload encode seqNo it (s.messageIds seqNo)).1 ::
      createPayloads encode s (seqNo + 1)
        (s.createNextPayload encode seqNo it (s.messageIds seqNo)).2
  else []
termination_by it.length + (if seqNo = 0 then 1 else 0)
decreasing_by
  simp only [createNextPayload_eq, ↓reduceIte, add_zero]
  by_cases hit : it = []
  · subst hit
    rw [if_pos (h.resolve_right (not_not_intro rfl))]
    exact zero_lt_one
  · have : (nextBatch encode (s.budget encode (s.messageIds seqNo)) it).2.length < it.length :=
      length_next_lt hit
    omega

def createCallPayloads (encode : ReportData → Json) (s : Splitter ReportData) : List Json :=
  match s.originalRequest.reportData with
  | none => [callJson (s.messageIds 0) (s.originalRequest.toJson encode)]
  | some data => createPayloads encode s 0 data

/-- The elements of the payloads from number `seqNo` on. -/
def batchesFrom (encode : ReportData → Json) (s : Splitter ReportData) (seqNo : Nat)
    (it : List ReportData) : List (List ReportData) :=
  batches (elementCost encode) 1 (fun k => s.budget encode (s.messageIds k)) seqNo it

/-- The calls of the batches, numbered from `seqNo` on; all but the last say that more follow. -/
def callsOf (encode : ReportData → Json) (s : Splitter ReportData) :
    Nat → List (List ReportData) → List Json
  | _, [] => []
  | seqNo, batch :: more =>
    callOf encode s seqNo batch (!more.isEmpty) :: callsOf encode s (seqNo + 1) more

theorem createPayloads_nil {seqNo : Nat} (h : seqNo ≠ 0) :
    createPayloads encode s seqNo [] = [] := by
  rw [createPayloads, dif_neg (by simpa using h)]

theorem createPayloads_eq {seqNo : Nat} {it : List ReportData} (h : it ≠ []) :
    createPayloads encode s seqNo it = callsOf encode s seqNo (batchesFrom encode s seqNo it) := by
  induction hn : it.length using Nat.strong_induction_on generalizing seqNo it with
  | _ n ih =>
    have hb : batchesFrom encode s seqNo it
        = (nextBatch encode (s.budget encode (s.messageIds seqNo)) it).1 ::
          batchesFrom encode s (seqNo + 1)
            (nextBatch encode (s.budget encode (s.messageIds seqNo)) it).2 :=
      batches_of_ne_nil _ _ _ _ h
    have hlt : (nextBatch encode (s.budget encode (s.messageIds seqNo)) it).2.length < it.length :=
      length_next_lt h
    rw [createPayloads, dif_pos (.inr h), createNextPayload_eq, hb, callsOf]
    generalize nextBatch encode (s.budget encode (s.messageIds seqNo)) it = next at hlt ⊢
    have he : (batchesFrom encode s (seqNo + 1) next.2).isEmpty = next.2.isEmpty := by
      rw [Bool.eq_iff_iff, List.isEmpty_iff, List.isEmpty_iff]
      exact batches_eq_nil
    rw [he]
    congr 1
    by_cases hr : next.2 = []
    · rw [hr, createPayloads_nil (Nat.succ_ne_zero _), batchesFrom, batches_nil, callsOf]
    · exact ih _ (hn ▸ hlt) hr rfl

/-- The elements of all payloads; without report data there is one payload without elements. -/
def allBatches (encode : ReportData → Json) (s : Splitter ReportData) (data : List ReportData) :
    List (List ReportData) :=
  if data = [] then [[]] else batchesFrom encode s 0 data

variable {data : List ReportData} {k : Nat} {bs : List (List ReportData)} {batch : List ReportData}

/-- **The payloads are the batches of the report data**, one call each. -/
theorem createCallPayloads_eq (h : s.originalRequest.reportData = some data) :
    createCallPayloads encode s = callsOf encode s 0 (allBatches encode s data) := by
  rw [createCallPayloads, h, allBatches]
  by_cases hd : data = []
  · subst hd
    change createPayloads encode s 0 [] = _
    rw [createPayloads, dif_pos (.inl rfl), createNextPayload_eq]
    change _ :: createPayloads encode s 1 [] = _
    rw [createPayloads_nil one_ne_zero]
    rfl
  · rw [if_neg hd]
    exact createPayloads_eq hd

theorem flatten_allBatches (data : List ReportData) :
    (allBatches encode s data).flatten = data := by
  rw [allBatches]
  by_cases hd : data = []
  · rw [if_pos hd, hd]
    rfl
  · rw [if_neg hd]
    exact flatten_batches

/-! ## What the payloads say -/

/-- `payload[3][key]`. -/
def requestMember (payload : Json) (key : String) : Option Json :=
  payload.elements[3]?.bind (·.member? key)

/-- The elements of `payload[3]["reportData"]`. -/
def reportDataOf (payload : Json) : List Json :=
  ((requestMember payload "reportData").map elements).getD []

section CallOf

variable (k : Nat) (batch : List ReportData) (more : Bool)

theorem reportDataOf_callOf : reportDataOf (callOf encode s k batch more) = batch.map encode := by
  simp [reportDataOf, requestMember, callOf, callJson, requestOf, elements, member?]

theorem seqNo_callOf : requestMember (callOf encode s k batch more) "seqNo" = some (.int k) := by
  simp [requestMember, callOf, callJson, requestOf, elements, member?]

theorem tbc_callOf : requestMember (callOf encode s k batch more) "tbc" = some (.bool more) := by
  simp [requestMember, callOf, callJson, requestOf, elements, member?]

end CallOf

theorem getElem?_callsOf {i : Nat} :
    (callsOf encode s k bs)[i]?
      = bs[i]?.map fun b => callOf encode s (k + i) b (decide (i + 1 < bs.length)) := by
  induction bs generalizing k i with
  | nil => simp [callsOf]
  | cons b bs ih =>
    cases i with
    | zero =>
      have hm : (!bs.isEmpty) = decide (0 + 1 < (b :: bs).length) := by
        cases bs <;> simp
      simp only [callsOf, List.getElem?_cons_zero, Option.map_some, hm, add_zero]
    | succ i =>
      simp only [callsOf, List.getElem?_cons_succ, ih, length_cons, add_lt_add_iff_right]
      rw [add_right_comm, add_assoc]

theorem length_callsOf : (callsOf encode s k bs).length = bs.length := by
  induction bs generalizing k with
  | nil => rfl
  | cons b bs ih => rw [callsOf, length_cons, ih, length_cons]

theorem flatMap_callsOf : (callsOf encode s k bs).flatMap reportDataOf = bs.flatten.map encode := by
  induction bs generalizing k with
  | nil => rfl
  | cons b bs ih =>
    rw [callsOf, flatMap_cons, ih, reportDataOf_callOf, flatten_cons, map_append]

/-- The report data of the payloads is the given one, the payloads are numbered from 0, and all
but the last say that more follow. -/
structure Lossless (encode : ReportData → Json) (data : List ReportData) (payloads : List Json) :
    Prop where
  reportData : payloads.flatMap reportDataOf = data.map encode
  seqNo : ∀ (k : Nat) p, payloads[k]? = some p → requestMember p "seqNo" = some (.int k)
  tbc : ∀ (k : Nat) p, payloads[k]? = some p →
    requestMember p "tbc" = some (.bool (decide (k + 1 < payloads.length)))

theorem lossless_callsOf (h : bs.flatten = data) :
    Lossless encode data (callsOf encode s 0 bs) := by
  refine ⟨by rw [flatMap_callsOf, h], fun k p hp => ?_, fun k p hp => ?_⟩
  · rw [getElem?_callsOf, Option.map_eq_some_iff] at hp
    obtain ⟨b, _, rfl⟩ := hp
    rw [seqNo_callOf, zero_add]
  · rw [getElem?_callsOf, Option.map_eq_some_iff] at hp
    obtain ⟨b, _, rfl⟩ := hp
    rw [tbc_callOf, length_callsOf]

/-! ## The size of the payloads -/

/-- A payload of more than one element is not longer than the limit. -/
def Sized (maxSize : Nat) (payloads : List Json) : Prop :=
  ∀ p ∈ payloads, 1 < (reportDataOf p).length → p.byteSize ≤ maxSize

theorem byteSize_callJson (messageId : String) (request : Json) :
    (callJson messageId request).byteSize
      = (string messageId).byteSize + request.byteSize + 20 := by
  have hca : (int 2).byteSize = 1 := by decide
  have ht : (string "NotifyReport").byteSize = 14 := by decide
  rw [callJson, byteSize_array (cons_ne_nil _ _)]
  simp only [map_cons, map_nil, sum_cons, sum_nil]
  omega

/-- The request of a payload against the template: the report data with its key is added, and the
number and `tbc` take other bytes than the `0` and the `false`. -/
theorem byteSize_requestOf (k : Nat) (batch : List ReportData) (more : Bool) :
    (requestOf encode s k batch more).byteSize + (if more then 2 else 1)
      = (s.requestJsonTemplate encode).byteSize + 14
        + (array (batch.map encode)).byteSize + (toString k).utf8ByteSize := by
  have hkey : (quote "reportData").utf8ByteSize = 12 := by decide
  have hz : (int 0).byteSize = 1 := by decide
  have hf : (bool false).byteSize = 5 := by decide
  have htbc : (bool more).byteSize + (if more then 2 else 1) = 6 := by
    cases more <;> decide
  have hseq : (int k).byteSize = (toString k).utf8ByteSize := rfl
  rw [requestJsonTemplate_eq, requestOf, byteSize_object (cons_ne_nil _ _),
    byteSize_object (cons_ne_nil _ _)]
  simp only [map_cons, map_nil, sum_cons, sum_nil, memberSize]
  omega

/-- A payload has the bytes of its skeleton, id and elements, but its own number in place of the
skeleton's one digit, and a `true` is shorter than the skeleton's `false`. -/
theorem byteSize_callOf {more : Bool} (hid : ∀ c ∈ (s.messageIds k).toList, ¬ Json.Escaped c)
    (h : batch ≠ []) :
    (callOf encode s k batch more).byteSize + (if more then 2 else 1)
      = s.jsonSkeletonSize encode + (s.messageIds k).utf8ByteSize
        + batchCost (elementCost encode) 1 batch + (toString k).utf8ByteSize := by
  have he : (string "").byteSize = 2 := by decide
  have hlit : ",\"reportData\":".utf8ByteSize = 14 := by decide
  have hreq : (requestOf encode s k batch more).byteSize + _ = _ :=
    byteSize_requestOf k batch more
  have hstr := byteSize_string hid
  have hd : (array (batch.map encode)).byteSize = batchCost (elementCost encode) 1 batch := by
    rw [byteSize_array (by simpa using h), map_map]
    rfl
  have hca : (callOf encode s k batch more).byteSize = _ := byteSize_callJson _ _
  have hs : s.jsonSkeletonSize encode = _ + _ := rfl
  rw [byteSize_callJson] at hs
  omega

/-- Each message of more than one element leaves of its budget what the digits of its number take
beyond the first; one digit less where a `true` follows the `false` of the skeleton. The messages
are the greedy batches of the report data under the budgets. -/
def LeavesRoom (encode : ReportData → Json) (s : Splitter ReportData) (data : List ReportData) :
    Prop :=
  ∀ (k : Nat) batch, (batchesFrom encode s 0 data)[k]? = some batch → 1 < batch.length →
    batchCost (elementCost encode) 1 batch + (toString k).utf8ByteSize
      ≤ s.budget encode (s.messageIds k)
        + if k + 1 < (batchesFrom encode s 0 data).length then 2 else 1

/-- A batch of more than one element makes a payload within the limit just when it leaves room. -/
theorem byteSize_callOf_le {more : Bool} (hid : ∀ c ∈ (s.messageIds k).toList, ¬ Json.Escaped c)
    (h : 1 < batch.length)
    (hw : batchCost (elementCost encode) 1 batch ≤ s.budget encode (s.messageIds k)) :
    (callOf encode s k batch more).byteSize ≤ s.maxSize ↔
      batchCost (elementCost encode) 1 batch + (toString k).utf8ByteSize
        ≤ s.budget encode (s.messageIds k) + if more then 2 else 1 := by
  have hne : batch ≠ [] := by
    rintro rfl
    exact absurd h (by simp)
  have hs : (callOf encode s k batch more).byteSize + _ = _ := byteSize_callOf hid hne
  have hpos : 1 ≤ batchCost (elementCost encode) 1 batch := Nat.le_add_right _ _
  rw [budget] at hw ⊢
  omega

theorem sized_callsOf (hid : ∀ k, ∀ c ∈ (s.messageIds k).toList, ¬ Json.Escaped c)
    (hw : ∀ (k : Nat) batch, bs[k]? = some batch → 1 < batch.length →
      batchCost (elementCost encode) 1 batch ≤ s.budget encode (s.messageIds k)) :
    Sized s.maxSize (callsOf encode s 0 bs) ↔
      ∀ (k : Nat) batch, bs[k]? = some batch → 1 < batch.length →
        batchCost (elementCost encode) 1 batch + (toString k).utf8ByteSize
          ≤ s.budget encode (s.messageIds k) + if k + 1 < bs.length then 2 else 1 := by
  have hca : ∀ (k : Nat) batch, bs[k]? = some batch → 1 < batch.length →
      ((callOf encode s k batch (decide (k + 1 < bs.length))).byteSize ≤ s.maxSize ↔ _) :=
    fun k batch hk hlen => byteSize_callOf_le (hid k) hlen (hw k batch hk hlen)
  simp only [decide_eq_true_eq] at hca
  constructor
  · intro hs k batch hk hlen
    refine (hca k batch hk hlen).mp (hs _ ?_ ?_)
    · refine mem_of_getElem? (i := k) ?_
      rw [getElem?_callsOf, hk, zero_add]
      rfl
    · rwa [reportDataOf_callOf, length_map]
  · intro hr p hp hlen
    obtain ⟨k, hk⟩ := List.getElem?_of_mem hp
    rw [getElem?_callsOf, Option.map_eq_some_iff, zero_add] at hk
    obtain ⟨batch, hba, rfl⟩ := hk
    rw [reportDataOf_callOf, length_map] at hlen
    exact (hca k batch hba hlen).mpr (hr k batch hba hlen)

/-- Without report data there is nothing the limit says about, else the batches are the ones of
`LeavesRoom`. -/
theorem sized_allBatches (data : List ReportData)
    (hid : ∀ k, ∀ c ∈ (s.messageIds k).toList, ¬ Json.Escaped c) :
    Sized s.maxSize (callsOf encode s 0 (allBatches encode s data)) ↔ LeavesRoom encode s data := by
  by_cases hd : data = []
  · subst hd
    refine iff_of_true ?_ ?_
    · rintro p hp hlen
      obtain rfl := mem_singleton.mp hp
      exact absurd hlen (by rw [reportDataOf_callOf]; simp)
    · intro k batch hk
      rw [batchesFrom, batches_nil] at hk
      exact absurd hk (by simp)
  · rw [allBatches, if_neg hd, sized_callsOf hid]
    · rfl
    · intro k batch hk hlen
      have := batches_within hk hlen
      rwa [zero_add] at this

/-- **The report data is split without loss, and the limit is kept just where there is room for
the message numbers.** The payloads carry all of the report data in its order, are numbered from
0 and all but the last say that more follow. Those of more than one element are within the limit
iff each of them leaves room for the further digits of its number. -/
theorem payloads_lossless_and_sized (encode : ReportData → Json) (s : Splitter ReportData)
    (data : List ReportData) (hdata : s.originalRequest.reportData = some data)
    (hid : ∀ k, ∀ c ∈ (s.messageIds k).toList, ¬ Json.Escaped c) :
    Lossless encode data (createCallPayloads encode s) ∧
      (Sized s.maxSize (createCallPayloads encode s) ↔ LeavesRoom encode s data) := by
  rw [createCallPayloads_eq hdata]
  exact ⟨lossless_callsOf (flatten_allBatches data), sized_allBatches data hid⟩

/-- A report data element as `to_json` writes it. -/
def sampleElement : Json :=
  .object
    [("component", .object [("name", .string "c")]), ("variable", .object [("name", .string "v")]),
      ("variableAttribute", .array [.object []])]

/-- A request with `n` such elements, to be split at 268 bytes. -/
def sampleSplitter (n : Nat) : Splitter Unit where
  originalRequest :=
    { requestId := 1
      generatedAt := "2024-01-01T00:00:00.000Z"
      reportData := some (List.replicate n ()) }
  maxSize := 268
  messageIds := fun _ => "m"

theorem sampleSplitter_plain (n k : Nat) :
    ∀ c ∈ ((sampleSplitter n).messageIds k).toList, ¬ Json.Escaped c := by
  intro c hc
  obtain rfl : c = 'm' := by simpa [sampleSplitter] using hc
  decide

theorem payloads_lossless_and_sized_pair :
    Lossless (fun _ => sampleElement) [(), ()]
        (createCallPayloads (fun _ => sampleElement) (sampleSplitter 2)) ∧
      (Sized 268 (createCallPayloads (fun _ => sampleElement) (sampleSplitter 2)) ↔
        LeavesRoom (fun _ => sampleElement) (sampleSplitter 2) [(), ()]) :=
  payloads_lossless_and_sized (fun _ => sampleElement) (sampleSplitter 2) [(), ()] rfl
    (sampleSplitter_plain 2)

theorem budget_sampleSplitter (n k : Nat) :
    (sampleSplitter n).budget (fun _ => sampleElement) ((sampleSplitter n).messageIds k) = 153 := by
  have ht : (sampleSplitter n).requestJsonTemplate (fun _ => sampleElement) = .object
      [("generatedAt", .string "2024-01-01T00:00:00.000Z"), ("requestId", .int 1),
        ("seqNo", .int 0), ("tbc", .bool false)] := requestJsonTemplate_eq
  have hs : (sampleSplitter n).jsonSkeletonSize (fun _ => sampleElement) = _ + _ := rfl
  rw [ht] at hs
  rw [budget, hs.trans (by decide +kernel : _ = 114)]
  rfl

/-- Of 22 elements two fit into a message. The eleventh message has the number 10, whose second
digit no budget was kept for: it is one byte longer than the limit. -/
theorem eleventh_payload_too_long :
    ¬ Sized 268 (createCallPayloads (fun _ => sampleElement) (sampleSplitter 22)) := by
  have hc : elementCost (fun _ : Unit => sampleElement) () = 76 := by decide +kernel
  have hb : batchesFrom (fun _ => sampleElement) (sampleSplitter 22) 0 (List.replicate 22 ())
      = List.replicate 11 (List.replicate 2 ()) := by
    refine batches_replicate (n := 1) (m := 11) (fun k => ?_) fun k => ?_
    · rw [budget_sampleSplitter, hc]
    · rw [budget_sampleSplitter, hc]
      decide
  intro hs
  have hr : (sampleSplitter 22).originalRequest.reportData = some (List.replicate 22 ()) := rfl
  rw [createCallPayloads_eq hr] at hs
  have hro := (sized_allBatches _ (sampleSplitter_plain 22)).mp hs 10 [(), ()]
  rw [hb, budget_sampleSplitter, batchCost] at hro
  simp only [map_cons, map_nil, sum_cons, sum_nil, hc] at hro
  exact absurd (hro rfl (by decide)) (by decide)

end Splitter

end EverestCore.Ocpp.V2

import Rollout.Proofs.History.Ids
import Rollout.Proofs.Monitoring.Queries
import Rollout.Proofs.Monitoring.RecordPaths

/-!
# The listing of records

A query of the listing asks for the records of an operation or of a flow, for failed ones, and for
no more of them than a limit. The page shows the newest of the records that fit, as many as the
limit allows, and the page of each of them says the same as the listing (`Lists`). A negative limit
allows none, but it is counted from the end, so that all but the oldest ones are shown. Otherwise
the listing is right, as long as the ids and the limit are not too long to be read (`lists_iff`).
-/

namespace Rollout.Monitoring

open HistoryRoute (below listingPath)

/-- What a query of the listing asks for; what is absent is not asked for. -/
structure ListingQuery where
  operation : Option String := none
  flow : Option String := none
  failedOnly : Bool := false
  limit : Option Int := none
  deriving DecidableEq, Repr

namespace ListingQuery

/-- The record fits the filters. -/
def fits (asked : ListingQuery) (record : HistoryRecord) : Bool :=
  asked.operation.all (record.operation = .text ·) && asked.flow.all (record.flow = .text ·) &&
    (!asked.failedOnly || record.failed)

/-- The records that fit, newest first. -/
def matching (asked : ListingQuery) (h : History) : List HistoryRecord :=
  h.records.reverse.filter asked.fits

/-- The limit, which is 50 unless the query says otherwise. -/
def most (asked : ListingQuery) : Int :=
  asked.limit.getD 50

/-- The records to be shown: those that fit, up to the limit; none for a negative limit. -/
def newest (asked : ListingQuery) (h : History) : List HistoryRecord :=
  (asked.matching h).take asked.most.toNat

/-- The query is this one, with a numeral of any length for the limit. -/
structure IsOf (asked : ListingQuery) (query : List Char) : Prop where
  operation : Target.valueOf? (Target.namedValues false Text.unescapeLossy query) "operation" =
    asked.operation
  flow : Target.valueOf? (Target.namedValues false Text.unescapeLossy query) "flow" = asked.flow
  failedOnly : failedWords.contains (String.ofList (Text.lower
      ((Target.valueOf? (Target.namedValues false Text.unescapeLossy query) "failed").getD
        "").toList)) = asked.failedOnly
  limit : (Target.valueOf? (Target.namedValues false Text.unescapeLossy query) "limit").map
      (fun text => Text.numeral? text.toList) = asked.limit.map some

end ListingQuery

/-- The limit is not too long to be read. -/
def LimitIsRead (query : List Char) : Prop :=
  ∀ text, Target.valueOf? (Target.namedValues false Text.unescapeLossy query) "limit" = some text →
    ∃ n, Text.readInteger text.toList = .ok n

variable {asked : ListingQuery} {query : List Char} {h : History}

/-! ## Filters -/

theorem same_text (value : Datum) (text : String) :
    value.same (.text text) = decide (value = .text text) := by
  cases value with
  | text own => simp [Datum.same, beq_eq_decide]
  | _ => simp [Datum.same, Datum.sameNumber, Datum.number?]

/-- A filter is compared with the value, and lets all values pass when there is none. -/
theorem passes_filter {filter : Option String} (filled : ∀ text, filter = some text → text ≠ "")
    (value : Datum) :
    (!(HistoryRecord.textOrNull filter).isTruthy ||
      value.same (HistoryRecord.textOrNull filter)) = filter.all (value = .text ·) := by
  cases filter with
  | none => rfl
  | some text =>
    have truthy : (Datum.text text).isTruthy = true := by
      simpa [Datum.isTruthy] using filled text rfl
    show (!(Datum.text text).isTruthy || value.same (.text text)) = decide (value = .text text)
    rw [truthy, same_text, Bool.not_true, Bool.false_or]

theorem select_eq (is_of : asked.IsOf query) :
    h.select (HistoryRecord.textOrNull asked.operation) (HistoryRecord.textOrNull asked.flow)
      asked.failedOnly = asked.matching h := by
  have operation : ∀ text, asked.operation = some text → text ≠ "" := fun text filter =>
    value_of_valueOf? (is_of.operation.trans filter)
  have flow : ∀ text, asked.flow = some text → text ≠ "" := fun text filter =>
    value_of_valueOf? (is_of.flow.trans filter)
  rw [History.select, ListingQuery.matching]
  refine List.filter_congr fun record _ => ?_
  dsimp only
  rw [passes_filter operation, passes_filter flow, ListingQuery.fits]

/-! ## The limit -/

theorem readInteger_limit (is_of : asked.IsOf query) (read : LimitIsRead query) :
    Text.readInteger ((Target.valueOf? (Target.namedValues false Text.unescapeLossy query)
      "limit").getD "50").toList = .ok asked.most := by
  have limit := is_of.limit
  cases given : Target.valueOf? (Target.namedValues false Text.unescapeLossy query) "limit" with
  | none =>
    rw [given, Option.map_none, eq_comm, Option.map_eq_none_iff] at limit
    rw [ListingQuery.most, limit]
    rfl
  | some text =>
    rw [given, Option.map_some, eq_comm, Option.map_eq_some_iff] at limit
    obtain ⟨n, asks, written⟩ := limit
    obtain ⟨m, is_read⟩ := read text given
    rw [ListingQuery.most, asks]
    rcases Text.readInteger_of_numeral? written.symm with right | ⟨digits, long⟩
    · exact right
    · exact nomatch is_read.symm.trans long

theorem listingPage_of_read (is_of : asked.IsOf query) (read : LimitIsRead query) :
    listingPage h query = .history 200 (.record
      [("resolutions", .list ((takeUpTo asked.most (asked.matching h)).map HistoryRecord.summary)),
       ("total", .int (asked.matching h).length)]) := by
  rw [listingPage]
  simp only [readInteger_limit is_of read, is_of.operation, is_of.flow, is_of.failedOnly,
    select_eq is_of]

theorem listingPage_of_unread (unread : ¬ LimitIsRead query) :
    listingPage h query = .historyRefusal .badRequest "limit must be an integer" := by
  simp only [LimitIsRead, not_forall, not_exists] at unread
  obtain ⟨text, given, never⟩ := unread
  rw [listingPage]
  simp only [given, Option.getD_some]
  cases read : Text.readInteger text.toList with
  | error flaw => rfl
  | ok n => exact absurd read (never n)

/-- A negative limit leaves none where it reaches back to the first item. -/
theorem takeUpTo_eq_take {α : Type} {limit : Int} {items : List α}
    (allowed : 0 ≤ limit ∨ items.length + limit ≤ 0) :
    takeUpTo limit items = items.take limit.toNat := by
  rw [takeUpTo]
  by_cases nonneg : 0 ≤ limit
  · rw [if_neg (by omega)]
  · have none_left := allowed.resolve_left nonneg
    have start : (items.length + limit).toNat = limit.toNat := by omega
    rw [if_pos (by omega), start]

theorem allowed_of_length {α : Type} {limit : Int} {items : List α}
    (same : (takeUpTo limit items).length = (items.take limit.toNat).length) :
    0 ≤ limit ∨ items.length + limit ≤ 0 := by
  by_cases nonneg : 0 ≤ limit
  · exact .inl nonneg
  · rw [takeUpTo, if_pos (by omega), List.length_take, List.length_take] at same
    omega

/-! ## The page of a record that is listed -/

variable {s : Station} {r : Resolver} {now : Instant}

theorem isDecimal_repr (id : Nat) : IsDecimal id.repr.toList := by
  rw [Nat.toList_repr]
  exact ⟨Nat.toDigits_ne_nil, fun _ => Nat.isDigit_of_mem_toDigits (by decide) (by decide)⟩

theorem IsDecimal.single {segment : List Char} (decimal : IsDecimal segment) : '/' ∉ segment :=
  fun member => absurd (decimal.2 '/' member) (by decide)

theorem length_repr_le_iff {id : Nat} :
    id.repr.toList.length ≤ Text.maxNumeralDigits ↔ id < 10 ^ Text.maxNumeralDigits := by
  rw [Nat.toList_repr]
  exact Nat.length_toDigits_le_iff (by decide) (by decide)

/-- The path of the page of the record with the id. -/
def recordPath (id : Nat) : List Char :=
  below id.repr.toList

theorem answerTarget_recordPath (id : Nat) (query : List Char) :
    s.answerTarget r now ⟨recordPath id, query⟩ =
      s.answerHistory r now query (.record id.repr.toList) := by
  have decimal := isDecimal_repr id
  have lies : Target.dropLastSlashes (Target.mk (recordPath id) query).path =
      below id.repr.toList :=
    HistoryRoute.dropLastSlashes_below decimal.1 decimal.single
  exact answerTarget_single lies decimal.single

theorem recordPage_repr {id : Nat} (short : id < 10 ^ Text.maxNumeralDigits) :
    recordPage h id.repr.toList = .ok (recordAnswer h id) := by
  rw [recordPage_of_idChars (isDecimal_repr id).1 (isDecimal_repr id).all_isIdChar,
    toInteger_ofList _ (Text.readInteger_repr short)]
  rfl

theorem page_of_held (ascending : s.history.Ascending) {record : HistoryRecord}
    (held : record ∈ s.history.records) (short : record.id < 10 ^ Text.maxNumeralDigits)
    (query : List Char) :
    (s.answerTarget r now ⟨recordPath record.id, query⟩).1.1 = .history 200 record.toDatum := by
  rw [answerTarget_recordPath, answerHistory_record_ok query (recordPage_repr short), recordAnswer,
    ascending.find?_id held]

theorem status_of_long {id : Nat} (long : ¬ id < 10 ^ Text.maxNumeralDigits)
    (query : List Char) :
    (s.answerTarget r now ⟨recordPath id, query⟩).1.1.status = 500 := by
  have unfit : ¬ (IsDecimal id.repr.toList ∧
      id.repr.toList.length ≤ Text.maxNumeralDigits) :=
    fun fits => long (length_repr_le_iff.mp fits.2)
  obtain ⟨fault, failed⟩ := @recordPage_unread s.history _ (isDecimal_repr id).1
    (isDecimal_repr id).all_isIdChar unfit
  rw [answerTarget_recordPath, answerHistory_record_error query failed]
  rfl

/-! ## The listing as a whole -/

/-- The fields that the listing and the page of a record both show. -/
def sharedFields : List String :=
  ["record_id", "operation", "status", "flow", "bucket", "unresolved", "error_type", "recorded_at"]

theorem need_summary (record : HistoryRecord) :
    ∀ name ∈ sharedFields, record.toDatum.need name = record.summary.need name := by
  simp only [sharedFields, List.forall_mem_cons]
  exact ⟨rfl, rfl, rfl, rfl, rfl, rfl, rfl, rfl, nofun⟩

/-- The server lists what the query asks for: the newest records that fit, and how many there are;
and the page of each of them says the same of it. -/
structure Lists (s : Station) (r : Resolver) (now : Instant) (asked : ListingQuery)
    (target : Target) : Prop where
  page : (s.answerTarget r now target).1.1 = .history 200 (.record
    [("resolutions", .list ((asked.newest s.history).map HistoryRecord.summary)),
     ("total", .int (asked.matching s.history).length)])
  count : ((asked.newest s.history).length : Int) =
    min (max asked.most 0) (asked.matching s.history).length
  descending : (asked.newest s.history).Pairwise fun later earlier => earlier.id < later.id
  /-- No record that fits is skipped: those that are not shown are older than all that are. -/
  complete : ∀ record ∈ s.history.records, asked.fits record = true →
    record ∉ asked.newest s.history →
    ∀ shown ∈ asked.newest s.history, record.id < shown.id
  details : ∀ record ∈ asked.newest s.history, ∀ query, ∃ document,
    (s.answerTarget r now ⟨recordPath record.id, query⟩).1.1 = .history 200 document ∧
    ∀ name ∈ sharedFields, document.need name = record.summary.need name

theorem matching_descending (ascending : h.Ascending) (asked : ListingQuery) :
    (asked.matching h).Pairwise fun later earlier => earlier.id < later.id :=
  (List.pairwise_reverse.mpr ascending.ordered).filter _

theorem mem_records_of_newest {record : HistoryRecord} (shown : record ∈ asked.newest h) :
    record ∈ h.records :=
  List.mem_reverse.mp (List.mem_of_mem_filter (List.mem_of_mem_take shown))

/-- What fits and is not among the newest is older than these. -/
theorem older_of_not_newest (ascending : h.Ascending) {record : HistoryRecord}
    (held : record ∈ h.records) (fits : asked.fits record = true)
    (hidden : record ∉ asked.newest h) : ∀ shown ∈ asked.newest h, record.id < shown.id := by
  have split : asked.newest h ++ (asked.matching h).drop asked.most.toNat = asked.matching h :=
    List.take_append_drop _ _
  have matches_all : record ∈ asked.matching h :=
    List.mem_filter.mpr ⟨List.mem_reverse.mpr held, fits⟩
  have descending := matching_descending ascending asked
  rw [← split] at matches_all descending
  have later := (List.mem_append.mp matches_all).resolve_left hidden
  exact fun shown member => (List.pairwise_append.mp descending).2.2 shown member record later

theorem answerTarget_listing {target : Target}
    (lies : Target.dropLastSlashes target.path = listingPath.toList) :
    (s.answerTarget r now target).1.1 = listingPage s.history target.query := by
  rw [Station.answerTarget_of_some (HistoryRoute.ofPath?_listing lies)]
  rfl

variable {target : Target}

theorem fits_of_lists (lies : Target.dropLastSlashes target.path = listingPath.toList)
    (is_of : asked.IsOf target.query) (lists : Lists s r now asked target) :
    LimitIsRead target.query ∧
      (0 ≤ asked.most ∨ (asked.matching s.history).length + asked.most ≤ 0) ∧
      ∀ record ∈ asked.newest s.history, record.id < 10 ^ Text.maxNumeralDigits := by
  have page := lists.page
  rw [answerTarget_listing lies] at page
  have read : LimitIsRead target.query := by
    refine Classical.byContradiction fun unread => ?_
    rw [listingPage_of_unread unread] at page
    have statuses : 400 = 200 := congrArg Page.status page
    exact absurd statuses (by decide)
  refine ⟨read, ?_, fun record shown => Decidable.byContradiction fun long => ?_⟩
  · rw [listingPage_of_read is_of read] at page
    apply allowed_of_length
    simp only [Page.history, Page.mk.injEq, Option.some.injEq, Datum.record.injEq, List.cons.injEq,
      Prod.mk.injEq, Datum.list.injEq, true_and, and_true] at page
    simpa only [List.length_map, ListingQuery.newest] using congrArg List.length page
  · obtain ⟨document, detail, -⟩ := lists.details record shown []
    have failed : (s.answerTarget r now ⟨recordPath record.id, []⟩).1.1.status = 500 :=
      status_of_long long []
    rw [detail] at failed
    exact absurd failed (by simp [Page.history])

theorem lists_of_fits (ascending : s.history.Ascending)
    (lies : Target.dropLastSlashes target.path = listingPath.toList)
    (is_of : asked.IsOf target.query) (read : LimitIsRead target.query)
    (allowed : 0 ≤ asked.most ∨ (asked.matching s.history).length + asked.most ≤ 0)
    (short : ∀ record ∈ asked.newest s.history, record.id < 10 ^ Text.maxNumeralDigits) :
    Lists s r now asked target where
  page := by
    rw [answerTarget_listing lies, listingPage_of_read is_of read, takeUpTo_eq_take allowed]
    rfl
  count := by
    rw [ListingQuery.newest, List.length_take]
    omega
  descending := (matching_descending ascending asked).sublist (List.take_sublist _ _)
  complete _ held fits hidden := older_of_not_newest ascending held fits hidden
  details record shown query :=
    ⟨record.toDatum, page_of_held ascending (mem_records_of_newest shown) (short record shown)
      query, need_summary record⟩

/-- **Which listings are right.** Whatever was recorded and removed before, the server lists what a
query asks for just when the limit can be read and is not negative, or reaches back to all records
that fit, and when the ids to be shown can be read. -/
theorem lists_iff (reached : s.history.Reached)
    (lies : Target.dropLastSlashes target.path = listingPath.toList)
    (is_of : asked.IsOf target.query) :
    Lists s r now asked target ↔
      LimitIsRead target.query ∧
      (0 ≤ asked.most ∨ (asked.matching s.history).length + asked.most ≤ 0) ∧
      ∀ record ∈ asked.newest s.history, record.id < 10 ^ Text.maxNumeralDigits :=
  ⟨fits_of_lists lies is_of, fun ⟨read, allowed, short⟩ =>
    lists_of_fits reached.ascending lies is_of read allowed short⟩

/-- A history of two requests, of which the later one failed. -/
def twoRecords : History :=
  let first : History := (History.add {} ⟨0⟩ (.text "subset") none none none).2
  (first.add ⟨1000000⟩ (.text "execution") none none (some .noVersion)).2

theorem reached_twoRecords : twoRecords.Reached :=
  (History.Reached.add (.fresh _ _) _ _ _ _ _).add _ _ _ _ _

/-- The pages of this history. -/
def recordStation : Station where
  server := { serviceId := .null, startedAt := ⟨0⟩, ownHistory := some twoRecords }
  recorder := {}

/-- A query is of what its named values ask for. -/
theorem namedValues_asked {fields : List (String × String)}
    (filled : ∀ field ∈ fields, field.2 ≠ "") :
    Target.namedValues false Text.unescapeLossy (queryOf fields) = fields :=
  namedValues_queryOf _ fun field member => .inr (filled field member)

theorem lists_failed :
    twoRecords.Reached ∧
    ListingQuery.IsOf { failedOnly := true, limit := some 1 }
      (queryOf [("failed", "YES"), ("limit", "1")]) ∧
    Lists recordStation ⟨pilotSources, .null⟩ ⟨0⟩ { failedOnly := true, limit := some 1 }
      ⟨listingPath.toList, queryOf [("failed", "YES"), ("limit", "1")]⟩ := by
  have values := @namedValues_asked [("failed", "YES"), ("limit", "1")] (by decide)
  have is_of : ListingQuery.IsOf { failedOnly := true, limit := some 1 }
      (queryOf [("failed", "YES"), ("limit", "1")]) := by
    constructor <;> rw [values] <;> decide +kernel
  have read : LimitIsRead (queryOf [("failed", "YES"), ("limit", "1")]) := by
    intro text given
    rw [values] at given
    obtain rfl : "1" = text := Option.some.inj given
    exact ⟨1, by decide +kernel⟩
  have reached : recordStation.history.Reached := reached_twoRecords
  have few : ∀ record ∈ ListingQuery.newest { failedOnly := true, limit := some 1 } twoRecords,
      record.id < 10 := by
    decide +kernel
  refine ⟨reached, is_of, (lists_iff reached (by decide +kernel) is_of).mpr
    ⟨read, .inl (by decide), fun record shown => ?_⟩⟩
  exact Nat.lt_of_lt_of_le (few record shown) (Nat.le_self_pow (by decide) 10)

/-- With a limit of minus one, the newer of two records is listed. -/
theorem not_lists_negative :
    twoRecords.Reached ∧
    ListingQuery.IsOf { limit := some (-1) } (queryOf [("limit", "-1")]) ∧
    ¬ Lists recordStation ⟨pilotSources, .null⟩ ⟨0⟩ { limit := some (-1) }
      ⟨listingPath.toList, queryOf [("limit", "-1")]⟩ := by
  have values := @namedValues_asked [("limit", "-1")] (by decide)
  have is_of : ListingQuery.IsOf { limit := some (-1) } (queryOf [("limit", "-1")]) := by
    constructor <;> rw [values] <;> decide +kernel
  refine ⟨reached_twoRecords, is_of, fun lists => ?_⟩
  have allowed := (fits_of_lists (by decide +kernel) is_of lists).2.1
  revert allowed
  decide +kernel

end Rollout.Monitoring

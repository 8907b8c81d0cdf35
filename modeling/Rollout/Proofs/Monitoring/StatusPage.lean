import Rollout.Proofs.History.Window
import Rollout.Proofs.Monitoring.Listing

/-!
# The status page

The status is told whatever the catalog of image types does: when the catalog fails the service is
degraded, and its fault goes no further (`lookupPage_check`). Records that have outlived the time to
live are removed before the page is made up, and by nothing else. So what the page says of the
history is what the listings say after it (`Agrees`).
-/

namespace Rollout.Monitoring

open History (Outlived unexpired)
open HistoryRoute (listingPath)

variable {s : Station} {r : Resolver} {now : Instant} {span : Number} {target : Target}
  {h : History}

/-! ## Health -/

/-- The health that an answer of the catalog shows. -/
def CatalogHealth.ofAnswer : Except Fault (List ImageType) → CatalogHealth
  | .ok types => .healthy types.length
  | .error fault => .unavailable fault

/-- A page with the health of the catalog is given whether the catalog answers or fails. -/
theorem lookupPage_check (r : Resolver) (page : CatalogHealth → Page) :
    (Station.lookupPage (do return page (← CatalogHealth.check r))).1 =
      page (.ofAnswer (r.sources.imageTypes [])) := by
  rw [Station.lookupPage, Lookup.start, CatalogHealth.check, Fallible.bind_apply, Lookup.orElse,
    Fallible.bind_apply, Resolver.typeNames, Fallible.bind_apply, Lookup.ask]
  -- no question is put before this one, so the catalog is asked with an empty list of calls
  cases answer : r.sources.imageTypes [] with
  | ok types =>
    rw [CatalogHealth.ofAnswer, ← List.length_map ImageType.name]
    rfl
  | error fault => rfl

theorem serviceStatus_eq_healthy_iff {answer : Except Fault (List ImageType)} :
    (CatalogHealth.ofAnswer answer).serviceStatus = "healthy" ↔ ∃ types, answer = .ok types := by
  cases answer with
  | ok types => exact ⟨fun _ => ⟨types, rfl⟩, fun _ => rfl⟩
  | error fault =>
    have other : "degraded" ≠ "healthy" := by decide
    exact ⟨fun same => absurd same other, nofun⟩

theorem serviceStatus_eq_degraded_iff {answer : Except Fault (List ImageType)} :
    (CatalogHealth.ofAnswer answer).serviceStatus = "degraded" ↔
      ∃ fault, answer = .error fault := by
  cases answer with
  | ok types =>
    have other : "healthy" ≠ "degraded" := by decide
    exact ⟨fun same => absurd same other, nofun⟩
  | error fault => exact ⟨fun _ => ⟨fault, rfl⟩, fun _ => rfl⟩

/-! ## Agreement with the listings -/

/-- Whoever asks the server for a listing, and whenever, is shown these records and this total. -/
def ListsAs (s : Station) (asked : ListingQuery) (listed : List Datum) (total : Nat) : Prop :=
  ∀ (r : Resolver) (later : Instant) (target : Target),
    Target.dropLastSlashes target.path = listingPath.toList → asked.IsOf target.query →
    LimitIsRead target.query →
    (s.answerTarget r later target).1.1 =
      .history 200 (.record [("resolutions", .list listed), ("total", .int total)])

/-- The document has the time of the record that is listed first, which is the newest of those that
the history holds. It has none when none is listed, and then none is held. -/
def TimesFirst (document : Datum) (h : History) : List Datum → Prop
  | [] => document.need "last_resolution_time" = .ok .null ∧ h.records = []
  | first :: _ => ∃ newest ∈ h.records, first = newest.summary ∧
      document.need "last_resolution_time" = .ok (.text newest.recordedAt.isoText) ∧
      first.need "recorded_at" = .ok (.text newest.recordedAt.isoText) ∧
      ∀ record ∈ h.records, record.id ≤ newest.id

/-- What the document says of the history is what the listings of the server say. -/
structure Agrees (s : Station) (document : Datum) : Prop where
  /-- The resolved and the failed ones are in number the records that are listed without a filter,
  and the failed ones are those that are listed when only these are asked for. -/
  counts : ∃ resolved failed : Nat,
    document.need "resolutions" =
      .ok (.record [("resolved", .int resolved), ("failed", .int failed)]) ∧
    ∀ limit, (∃ listed, ListsAs s { limit := limit } listed (resolved + failed)) ∧
      ∃ listed, ListsAs s { failedOnly := true, limit := limit } listed failed
  /-- A listing without a filter, and with a limit that leaves room for one, starts with the record
  whose time is told. -/
  time : ∀ limit, 0 < ListingQuery.most { limit := limit } →
    ∃ listed total, ListsAs s { limit := limit } listed total ∧ TimesFirst document s.history listed

theorem listsAs_matching (s : Station) (asked : ListingQuery) :
    ListsAs s asked ((takeUpTo asked.most (asked.matching s.history)).map HistoryRecord.summary)
      (asked.matching s.history).length := by
  intro r later target lies is_of read
  rw [answerTarget_listing lies, listingPage_of_read is_of read]

/-- A listing without a query, and one of the records that failed. -/
example :
    ListingQuery.IsOf {} [] ∧ ListingQuery.IsOf { failedOnly := true } "failed=true".toList := by
  constructor <;> constructor <;> decide +kernel

theorem matching_unfiltered (limit : Option Int) (h : History) :
    ListingQuery.matching { limit := limit } h = h.records.reverse :=
  List.filter_eq_self.mpr fun _ _ => rfl

theorem counts_failed (limit : Option Int) (h : History) :
    h.counts.2 = (ListingQuery.matching { failedOnly := true, limit := limit } h).length := by
  have fits : ∀ record, ListingQuery.fits { failedOnly := true, limit := limit } record =
      record.failed := fun _ => rfl
  rw [ListingQuery.matching, List.filter_congr fun record _ => fits record, List.filter_reverse,
    List.length_reverse, ← List.countP_eq_length_filter, History.counts]

/-- The last of the records held is the newest one. -/
theorem id_le_of_reverse (ascending : h.Ascending) {newest : HistoryRecord}
    {rest : List HistoryRecord} (turned : h.records.reverse = newest :: rest) :
    ∀ record ∈ h.records, record.id ≤ newest.id := by
  have descending := List.pairwise_reverse.mpr ascending.ordered
  rw [turned, List.pairwise_cons] at descending
  intro record held
  rw [← List.mem_reverse, turned] at held
  rcases List.mem_cons.mp held with same | older
  · exact Nat.le_of_eq (congrArg HistoryRecord.id same)
  · exact Nat.le_of_lt (descending.1 record older)

theorem timesFirst_listed (ascending : h.Ascending) {limit : Option Int} {document : Datum}
    (room : 0 < ListingQuery.most { limit := limit })
    (told : document.need "last_resolution_time" =
      .ok (HistoryRecord.textOrNull (h.newestFirst.head?.map (·.recordedAt.isoText)))) :
    TimesFirst document h ((takeUpTo (ListingQuery.most { limit := limit })
      (ListingQuery.matching { limit := limit } h)).map HistoryRecord.summary) := by
  obtain ⟨n, most⟩ : ∃ n, (ListingQuery.most { limit := limit }).toNat = n + 1 :=
    Nat.exists_eq_succ_of_ne_zero (by omega)
  rw [takeUpTo_eq_take (.inl (Int.le_of_lt room)), most, matching_unfiltered]
  rw [History.newestFirst_eq] at told
  cases turned : h.records.reverse with
  | nil =>
    rw [turned] at told
    exact ⟨told, List.reverse_eq_nil_iff.mp turned⟩
  | cons newest rest =>
    rw [turned] at told
    have held : newest ∈ h.records := by
      rw [← List.mem_reverse, turned]
      exact List.mem_cons_self
    exact ⟨newest, held, rfl, told, rfl, id_le_of_reverse ascending turned⟩

theorem agrees_statusPage (ascending : s.history.Ascending) (service : ServiceInfo)
    (health : CatalogHealth) :
    ∃ document, statusPage service health s.history = .history 200 document ∧
      document.need "status" = .ok (.text health.serviceStatus) ∧ Agrees s document := by
  refine ⟨_, rfl, rfl, ⟨s.history.counts.1, s.history.counts.2, rfl, fun limit => ?_⟩,
    fun limit room => ⟨_, _, listsAs_matching s _, timesFirst_listed ascending room rfl⟩⟩
  have all : s.history.counts.1 + s.history.counts.2 =
      (ListingQuery.matching { limit := limit } s.history).length := by
    rw [History.counts_add, matching_unfiltered, List.length_reverse]
  rw [all, counts_failed limit]
  exact ⟨⟨_, listsAs_matching s _⟩, ⟨_, listsAs_matching s _⟩⟩

/-! ## The answer -/

/-- The station without the records that have outlived the time to live. -/
def swept (s : Station) (span : Number) (now : Instant) : Station :=
  s.putHistory { s.history with records := unexpired span ⟨s.history, now⟩ }

theorem history_putHistory (s : Station) (h : History) : (s.putHistory h).history = h := by
  obtain ⟨⟨_, _, _, own⟩, _⟩ := s
  cases own <;> rfl

theorem ascending_swept (ascending : s.history.Ascending) (span : Number) (now : Instant) :
    (swept s span now).history.Ascending := by
  rw [swept, history_putHistory]
  exact ascending.sublist List.filter_sublist (Nat.le_refl _)

theorem answerHistory_status (timed : s.history.ttl.number? = some span) (r : Resolver)
    (now : Instant) (query : List Char) :
    ∃ service : ServiceInfo,
      (s.answerHistory r now query .status).1.1 =
        statusPage service (.ofAnswer (r.sources.imageTypes [])) (swept s span now).history ∧
      (s.answerHistory r now query .status).2 = swept s span now := by
  have cleaned := History.cleanUp_of_timed (s := ⟨s.history, now⟩) timed
  simp only [Station.answerHistory, cleaned]
  exact ⟨_, lookupPage_check r _, rfl⟩

/-- The server answers a request for the status. -/
structure TellsStatus (s : Station) (r : Resolver) (now : Instant) (span : Number)
    (target : Target) : Prop where
  page : ∃ document, (s.answerTarget r now target).1.1 = .history 200 document ∧
    (document.need "status" = .ok (.text "healthy") ↔
      ∃ types, r.sources.imageTypes [] = .ok types) ∧
    (document.need "status" = .ok (.text "degraded") ↔
      ∃ fault, r.sources.imageTypes [] = .error fault) ∧
    Agrees (s.answerTarget r now target).2 document
  /-- Nothing but the records in the history has changed. -/
  after : (s.answerTarget r now target).2 = s.putHistory { s.history with
    records := s.history.records.filter fun record => !Outlived span now record }
  /-- Between 2004 and 2038 the records that are left are those whose age in microseconds is at most
  the time to live. -/
  left : ∀ seconds, span = .whole seconds → now.InEra →
    ∀ record ∈ s.history.records, record.recordedAt.InEra →
      (record ∈ (s.answerTarget r now target).2.history.records ↔
        now.microseconds ≤ record.recordedAt.microseconds + seconds * 1000000)

/-- **The status page is always given and agrees with the listings.** Whatever was recorded and
removed before, and whatever the catalog does, the page is given. It tells whether the catalog
answered, removes just the records that have outlived the time to live, and says of the others what
the listings say after it. -/
theorem tellsStatus (reached : s.history.Reached) (timed : s.history.ttl.number? = some span)
    (r : Resolver) (now : Instant)
    (lies : Target.dropLastSlashes target.path = "/api/v1/status".toList) :
    TellsStatus s r now span target := by
  -- the page is made up from the swept history, which is also the one that listings find later
  obtain ⟨service, shown, after⟩ := answerHistory_status timed r now target.query
  obtain ⟨document, given, status, agrees⟩ :=
    agrees_statusPage (ascending_swept reached.ascending span now) service
      (.ofAnswer (r.sources.imageTypes []))
  rw [← Station.answerTarget_of_some (HistoryRoute.ofPath?_status lies)] at shown after
  constructor
  · refine ⟨document, shown.trans given, ?_, ?_, after ▸ agrees⟩
    · rw [status, ← serviceStatus_eq_healthy_iff]
      simp
    · rw [status, ← serviceStatus_eq_degraded_iff]
      simp
  · exact after
  · rintro seconds rfl current record held recorded
    have age := History.outlived_whole_iff current recorded seconds
    rw [after, swept, history_putHistory]
    simp only [unexpired, List.mem_filter, held, true_and, Bool.not_eq_true',
      decide_eq_false_iff_not, age, Int.not_lt]

/-- The status of two records half a second after the first of them has outlived its time. -/
theorem tellsStatus_twoRecords :
    recordStation.history.Reached ∧ recordStation.history.ttl.number? = some (.whole 3600) ∧
    TellsStatus recordStation ⟨pilotSources, .null⟩ ⟨3600500000⟩ (.whole 3600)
      ⟨"/api/v1/status/".toList, []⟩ := by
  have reached : recordStation.history.Reached := reached_twoRecords
  have timed : recordStation.history.ttl.number? = some (.whole 3600) := rfl
  exact ⟨reached, timed, tellsStatus reached timed _ _ (by decide +kernel)⟩

/-- The record that failed is left, and its time is told. -/
example :
    let (answer, after) := recordStation.answerTarget ⟨pilotSources, .null⟩ ⟨3600500000⟩
      ⟨"/api/v1/status".toList, []⟩
    after.history.records.map (·.id) = [2] ∧
      ((answer.1.document.getD .null).need "last_resolution_time").toOption =
        some (.text "1970-01-01T00:00:01+00:00") := by
  decide +kernel

end Rollout.Monitoring

import Rollout.Datum.Order
import Rollout.Fallible
import Rollout.Flow
import Rollout.Instant
import Rollout.Resolution.Given

/-!
# The history of resolutions

A **history** keeps the latest records of resolver requests, in ascending order of their ids.
Ids count up from 1 and are never given twice, not even after the history was cleared. A history
holds at most as many records as its limit says, dropping the oldest ones, and a clean-up
removes the records that are older than its time to live.

The limit and the time to live are kept as they were given. Under an integer limit the latest
records are left (`dropOldest_int`); a value that is no number is a fault when it is compared, and
the record that was to be added is there all the same.
-/

namespace Rollout

/-- What became of one request. -/
structure HistoryRecord where
  id : Nat
  operation : Datum
  failed : Bool
  /-- The identity of the flow, if there was one. -/
  flow : Datum
  executionId : Datum
  bucket : Datum
  decisions : List (TypeKey × Decision)
  unresolved : List Datum
  /-- The kind of the fault and its words. -/
  fault : Option (String × String)
  recordedAt : Instant

namespace HistoryRecord

/-- The word for what became of the request. -/
def status (record : HistoryRecord) : String :=
  if record.failed then "failed" else "resolved"

/-- A text, or the missing value. -/
def textOrNull (text : Option String) : Datum :=
  (text.map Datum.text).getD .null

/-- The fields that a listing shows. -/
def summary (record : HistoryRecord) : Datum :=
  .record
    [("record_id", .int record.id),
     ("operation", record.operation),
     ("status", .text record.status),
     ("flow", record.flow),
     ("bucket", record.bucket),
     ("unresolved", .list record.unresolved),
     ("error_type", textOrNull (record.fault.map (·.1))),
     ("recorded_at", .text record.recordedAt.isoText)]

/-- The whole record as it is shown. -/
def toDatum (record : HistoryRecord) : Datum :=
  .record
    [("record_id", .int record.id),
     ("operation", record.operation),
     ("status", .text record.status),
     ("flow", record.flow),
     ("execution_id", record.executionId),
     ("bucket", record.bucket),
     ("decisions",
       .record (record.decisions.map fun (key, decision) => (key.text, decision.toDatum))),
     ("unresolved", .list record.unresolved),
     ("error", textOrNull (record.fault.map (·.2))),
     ("error_type", textOrNull (record.fault.map (·.1))),
     ("recorded_at", .text record.recordedAt.isoText)]

end HistoryRecord

/-- The latest records. -/
structure History where
  /-- The time to live in seconds. -/
  ttl : Datum := .int 3600
  limit : Datum := .int 500
  nextId : Nat := 1
  records : List HistoryRecord := []

namespace History

/-- The record of a request that ended at the instant. -/
def recordOf (id : Nat) (now : Instant) (operation : Datum) (flow : Option Flow)
    (resolution : Option Resolution) (fault : Option Fault) : HistoryRecord where
  id := id
  operation := operation
  failed := fault.isSome
  flow := (flow.map Flow.identity).getD .null
  executionId := (flow.map Flow.executionId).getD .null
  bucket := (resolution.map Resolution.bucket).getD .null
  decisions := (resolution.map Resolution.sortedDecisions).getD []
  unresolved := (resolution.map Resolution.unresolvedNames).getD []
  fault := fault.map fun fault => (fault.kind, fault.message)
  recordedAt := now

/-- The last items of a list, at most as many as the limit; a negative limit leaves none. -/
def latest {α : Type} (limit : Int) (items : List α) : List α :=
  items.drop (items.length - limit.toNat)

/-- Drops the first items as long as there are more than the limit. -/
def dropOldest {α : Type} (limit : Datum) : List α → Except Fault (List α)
  | [] => .ok []
  | item :: rest => do
    if ← (Datum.int (rest.length + 1)).exceeds limit then dropOldest limit rest
    else return item :: rest

/-- Under an integer limit the last items are left. -/
theorem dropOldest_int {α : Type} (limit : Int) (items : List α) :
    dropOldest (.int limit) items = .ok (latest limit items) := by
  induction items with
  | nil => simp [dropOldest, latest]
  | cons item rest ih =>
    by_cases h : limit < rest.length + 1
    · have hdrop : rest.length + 1 - limit.toNat = rest.length - limit.toNat + 1 := by omega
      simp [dropOldest, h, ih, latest, hdrop, bind, Except.bind]
    · have hdrop : rest.length + 1 - limit.toNat = 0 := by omega
      simp [dropOldest, h, latest, hdrop, bind, Except.bind, pure, Except.pure]

/-- Keeps a record, which has the next id, and drops the oldest ones beyond the limit. -/
def keep (h : History) (record : HistoryRecord) : Except Fault HistoryRecord × History :=
  let grown : History := { h with nextId := h.nextId + 1, records := h.records ++ [record] }
  match dropOldest h.limit grown.records with
  | .ok records => (.ok record, { grown with records := records })
  | .error fault => (.error fault, grown)

/-- Adds a record of a request under the next id. -/
def add (h : History) (now : Instant) (operation : Datum) (flow : Option Flow)
    (resolution : Option Resolution) (fault : Option Fault) :
    Except Fault HistoryRecord × History :=
  h.keep (recordOf h.nextId now operation flow resolution fault)

/-- Adds a record of a request with a resolution from outside. When its unresolved names cannot be
listed the id is spent and no record is kept. -/
def addGiven (h : History) (now : Instant) (operation : Datum) (flow : Option Flow)
    (given : Option GivenResolution) (fault : Option Fault) :
    Except Fault HistoryRecord × History :=
  let record := recordOf h.nextId now operation flow (given.map (·.resolution)) fault
  match given.elim (.ok []) GivenResolution.unresolvedNames with
  | .ok names => h.keep { record with unresolved := names }
  | .error fault => (.error fault, { h with nextId := h.nextId + 1 })

/-- The record with the id. -/
def find? (h : History) (id : Int) : Option HistoryRecord :=
  h.records.find? fun record => (record.id : Int) == id

/-- The records that fit the filters, newest first. With a filter that counts as false all
records fit. -/
def select (h : History) (operation flow : Datum) (failedOnly : Bool) : List HistoryRecord :=
  let fits (filter value : Datum) : Bool := !filter.isTruthy || value.same filter
  h.records.reverse.filter fun record =>
    fits operation record.operation && fits flow record.flow && (!failedOnly || record.failed)

/-- All records, newest first. -/
def newestFirst (h : History) : List HistoryRecord :=
  h.select .null .null false

/-- How many records tell of success, and how many of a fault. -/
def counts (h : History) : Nat × Nat :=
  (h.records.countP (!·.failed), h.records.countP (·.failed))

/-- The record is older than the time to live. -/
def isExpired (h : History) (now : Instant) (record : HistoryRecord) : Except Fault Bool :=
  (Datum.real (Instant.seconds (now.since record.recordedAt))).exceeds h.ttl

/-- Removes the expired records and tells how many there were. -/
def cleanUp (h : History) (now : Instant) : Except Fault (Nat × History) := do
  let kept ← Fallible.filter (fun record => (!·) <$> h.isExpired now record) h.records
  return (h.records.length - kept.length, { h with records := kept })

/-- Removes all records. -/
def clear (h : History) : History :=
  { h with records := [] }

end History

end Rollout

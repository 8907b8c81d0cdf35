import Rollout.Datum.Access
import Rollout.History
import Rollout.Monitoring.Page
import Rollout.Monitoring.Target
import Rollout.Resolution.Tiers
import Rollout.Text.LetterCase
import Rollout.Text.Numeral

/-!
# The history pages

Three pages show the history of resolutions: a status with the health of the image type catalog,
the listing of records under a query, and one record by its id. Slashes at the end of their
paths do not count.
-/

namespace Rollout.Monitoring

/-- A page of the history. -/
inductive HistoryRoute where
  | status
  | listing
  /-- The record with the id that stands in the last segment. -/
  | record (segment : List Char)
  deriving DecidableEq, Repr

namespace HistoryRoute

/-- The path of the listing, under which the records lie. -/
def listingPath : String := "/api/v1/resolutions"

/-- The page at a path. -/
def ofPath? (path : List Char) : Option HistoryRoute :=
  let path := Target.dropLastSlashes path
  if path = "/api/v1/status".toList then some status
  else if path = listingPath.toList then some listing
  else if (listingPath.toList ++ ['/']).isPrefixOf path then
    some (record (path.reverse.takeWhile (· ≠ '/')).reverse)
  else none

end HistoryRoute

/-! ## Status -/

/-- Whether the image type catalog answers. -/
inductive CatalogHealth where
  | healthy (imageTypes : Nat)
  | unavailable (fault : Fault)

namespace CatalogHealth

/-- Asks the image type catalog. -/
def check (r : Resolver) : Lookup CatalogHealth :=
  Lookup.orElse (do return healthy (← r.typeNames).length) fun fault => do
    Lookup.warn s!"Image type catalog health check failed: {fault.message}"
    return unavailable fault

/-- The health as it is shown. -/
def toDatum : CatalogHealth → Datum
  | healthy imageTypes =>
    .record [("status", .text "healthy"), ("image_types", .int imageTypes)]
  | unavailable fault =>
    .record
      [("status", .text "unavailable"),
       ("message", .text s!"Health check failed: {fault.message}")]

/-- The word for a service whose catalog is in this health. -/
def serviceStatus : CatalogHealth → String
  | healthy _ => "healthy"
  | unavailable _ => "degraded"

end CatalogHealth

/-- What the status says of a service apart from its catalog and its history. -/
structure ServiceInfo where
  id : Datum
  /-- The ticks since the service was started. -/
  uptime : Int
  planOrder : Datum

/-- The status page. -/
def statusPage (service : ServiceInfo) (health : CatalogHealth) (history : History) : Page :=
  let (resolved, failed) := history.counts
  .history 200 (.record
    [("service_id", service.id),
     ("uptime_seconds", .int (Instant.wholeSeconds service.uptime)),
     ("status", .text health.serviceStatus),
     ("catalog", health.toDatum),
     ("plan_order", service.planOrder),
     ("resolutions", .record [("resolved", .int resolved), ("failed", .int failed)]),
     ("last_resolution_time",
       HistoryRecord.textOrNull (history.newestFirst.head?.map (·.recordedAt.isoText)))])

/-! ## Listing -/

/-- The items before the limit; a negative limit counts from the end. -/
def takeUpTo {α : Type} (limit : Int) (items : List α) : List α :=
  items.take (if limit < 0 then (items.length + limit).toNat else limit.toNat)

/-- The words that ask for failed records only. -/
def failedWords : List String := ["1", "true", "yes"]

/-- The listing of the records that the query asks for. -/
def listingPage (history : History) (query : List Char) : Page :=
  let values := Target.namedValues false Text.unescapeLossy query
  match Text.readInteger ((Target.valueOf? values "limit").getD "50").toList with
  | .error _ => .historyRefusal .badRequest "limit must be an integer"
  | .ok limit =>
    let failedOnly := failedWords.contains
      (String.ofList (Text.lower ((Target.valueOf? values "failed").getD "").toList))
    let filter (name : String) := HistoryRecord.textOrNull (Target.valueOf? values name)
    let records := history.select (filter "operation") (filter "flow") failedOnly
    .history 200 (.record
      [("resolutions", .list ((takeUpTo limit records).map HistoryRecord.summary)),
       ("total", .int records.length)])

/-! ## One record -/

/-- The character may stand in a record id: a digit, or a raised one, which no numeral holds. -/
def isIdChar (c : Char) : Bool :=
  c.isDigit || ['²', '³', '¹'].contains c

/-- The page of the record whose id the segment gives. -/
def recordPage (history : History) (segment : List Char) : Except Fault Page := do
  let text := String.ofList segment
  if segment.isEmpty || !segment.all isIdChar then
    return .historyRefusal .badRequest s!"Invalid record id: {text}"
  let id ← (Datum.text text).toInteger
  match history.find? id with
  | some record => return .history 200 record.toDatum
  | none => return .historyRefusal .notFound s!"Resolution not found: {id}"

end Rollout.Monitoring

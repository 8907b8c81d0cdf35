import Rollout.History.Recorder
import Rollout.Monitoring.CatalogPages
import Rollout.Monitoring.HistoryPages

/-!
# The monitoring server

A **server** answers requests for the history pages and the catalog pages of one resolver. The
history that it shows is the one in which the resolver records, unless it was given one of its
own. The page with all decisions counts as a metadata request and is recorded like one. A
request that cannot be read, and a failure that no page explains, end in an error page.
-/

namespace Rollout.Monitoring

/-- A server of the monitoring pages. -/
structure Server where
  serviceId : Datum
  startedAt : Instant
  /-- The server was launched from the settings, and is stopped with the history that it shows. -/
  launched : Bool := false
  /-- The history that the server shows when it is not the resolver's. -/
  ownHistory : Option History := none

/-- A server with the recorder of its resolver. -/
structure Station where
  server : Server
  recorder : Recorder

namespace Station

/-- The history that the pages show. -/
def history (s : Station) : History :=
  match s.server.ownHistory with
  | some history => history
  | none => s.recorder.history.getD {}

/-- Puts a history in the place of the one that the pages show. -/
def putHistory (s : Station) (history : History) : Station :=
  match s.server.ownHistory with
  | some _ => { s with server := { s.server with ownHistory := some history } }
  | none => { s with recorder := { s.recorder with history := some history } }

/-- The error page for a fault that no other page explains. -/
def errorPage (fault : Fault) : Page × Journal :=
  (.historyRefusal .serverError fault.message,
    { notices := [.error s!"Error handling request: {fault.message}"] })

/-- The page that a look-up gives. -/
def lookupPage (lookup : Lookup Page) : Page × Journal :=
  match lookup.start with
  | (.ok page, journal) => (page, journal)
  | (.error fault, journal) => (faultPage fault, journal)

/-- Answers a request for a history page. -/
def answerHistory (s : Station) (r : Resolver) (now : Instant) (query : List Char) :
    HistoryRoute → (Page × Journal) × Station
  | .status =>
    match s.history.cleanUp now with
    | .error fault => (errorPage fault, s)
    | .ok (_, history) =>
      let s := s.putHistory history
      let service : ServiceInfo :=
        { id := s.server.serviceId, uptime := now.since s.server.startedAt,
          planOrder := r.planOrder }
      (lookupPage (do return statusPage service (← CatalogHealth.check r) s.history), s)
  | .listing => ((listingPage s.history query, {}), s)
  | .record segment =>
    match recordPage s.history segment with
    | .ok page => ((page, {}), s)
    | .error fault => (errorPage fault, s)

/-- Answers a request for a catalog page. -/
def answerCatalog (s : Station) (r : Resolver) (now : Instant) (query : List Char) :
    CatalogRoute → (Page × Journal) × Station
  | .decisions =>
    let (answer, journal, recorder) := s.recorder.run now .metadata none r.metadata
    let page := match answer with
      | .ok decisions => decisionsPage decisions
      | .error fault => faultPage fault
    ((page, journal), { s with recorder := recorder })
  | .version name label => (lookupPage (versionPage r name label query), s)
  | .plan name => (lookupPage (planPage r name), s)

/-- The page for a path that names none. -/
def unknownPage (path : List Char) : Page :=
  if CatalogRoute.isRedirected path then .plain 308 else .plain 404

/-- Answers a request for a target that was read. -/
def answerTarget (s : Station) (r : Resolver) (now : Instant) (target : Target) :
    (Page × Journal) × Station :=
  match HistoryRoute.ofPath? target.path with
  | some route => s.answerHistory r now target.query route
  | none =>
    let path := CatalogRoute.pathChars target.path
    match CatalogRoute.ofPath? path with
    | some route => s.answerCatalog r now target.query route
    | none => ((unknownPage path, {}), s)

/-- Answers the request for a target. A request line with blanks inside its target is no request
line. -/
def answer (s : Station) (r : Resolver) (now : Instant) (target : List Char) :
    (Page × Journal) × Station :=
  let target := Text.trim target
  if target.any Text.isBlank then ((.malformedRequest, {}), s)
  else
    match Target.ofText target with
    | .ok target => s.answerTarget r now target
    | .error fault => (errorPage fault, s)

end Station

end Rollout.Monitoring

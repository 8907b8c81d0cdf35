import Rollout.Catalog.Update
import Rollout.Fault.Reported
import Rollout.Instant.Span
import Rollout.Monitoring.Launch
import Rollout.Monitoring.Server
import Rollout.Session.Rehearsal

/-!
# Sessions

A **session** holds one catalog with a resolver over it, the recorder of the resolver, a
monitoring server, the settings and a clock. It is opened from an **opening** and goes on in
**steps**. A step gives an answer or a fault, the session after it, and a journal. After an update
of the catalog the session goes on with what the update left, also when it failed.
-/

namespace Rollout

/-- The state of a session. -/
structure Session where
  catalog : Catalog
  rehearsal : Rehearsal
  planOrder : Datum
  recorder : Recorder
  server : Option Monitoring.Server
  settings : Settings
  now : Instant

namespace Session

/-- What a step comes to. -/
structure Step (α : Type) where
  answer : Except Fault α
  session : Session
  journal : Journal := {}

/-! ## Opening -/

/-- Where the session's history comes from. -/
inductive HistoryChoice where
  /-- Nothing is recorded. -/
  | absent
  | within (ttl limit : Datum)
  | fromSettings

/-- An empty history as it was chosen. -/
def HistoryChoice.make : HistoryChoice → Settings.Reading (Option History)
  | absent => return none
  | within ttl limit => return some { ttl := ttl, limit := limit }
  | fromSettings => do return some (← Monitoring.historyFromSettings)

/-- The instant at which sessions open: the start of 2024. -/
def openingInstant : Instant where
  microseconds := 1704067200000000

/-- What a session is opened with. -/
structure Opening where
  environment : OrderedMap String String := OrderedMap.empty
  document : Datum := .record []
  rehearsal : Rehearsal := {}
  /-- The policy for plans that do not ascend; the settings decide when it counts as false. -/
  planOrder : Datum := .null
  history : HistoryChoice := .absent
  /-- The service that is served from the start. -/
  serviceId : Option Datum := none

/-- The policy that was chosen, or the one in the settings. -/
def choosePlanOrder (chosen : Datum) : Settings.Reading Datum := do
  if chosen.isTruthy then return chosen else return .text (← Settings.planOrder)

/-- A server that runs from the start shows a history of its own when nothing is recorded. -/
def serverFor (history : Option History) (serviceId : Datum) : Monitoring.Server where
  serviceId := serviceId
  startedAt := openingInstant
  ownHistory := if history.isSome then none else some {}

/-- The session that an opening describes, apart from its settings. -/
def Opening.prepare (o : Opening) : Settings.Reading Session := do
  let catalog ← ofExcept (Catalog.ofDatum o.document)
  let history ← o.history.make
  let planOrder ← choosePlanOrder o.planOrder
  return {
    catalog := catalog
    rehearsal := o.rehearsal
    planOrder := planOrder
    recorder := { history := history }
    server := o.serviceId.map (serverFor history)
    settings := {}
    now := openingInstant }

/-- Opens a session and gives the notices that this left. -/
def Opening.start (o : Opening) : Except Fault Session × List Notice :=
  let (answer, settings, notices) := o.prepare ({ environment := o.environment }, [])
  (answer.map fun s => { s with settings := settings }, notices)

/-! ## Steps -/

/-- The resolver over the catalog. -/
def resolver (s : Session) : Resolver where
  sources := s.rehearsal.sources s.catalog
  planOrder := s.planOrder

/-- Updates the catalog. -/
def change {α : Type} (s : Session) (update : Catalog.Update α) : Step α :=
  let (answer, catalog) := update.run s.catalog
  { answer := answer, session := { s with catalog := catalog } }

/-- Rehearses something else from now on. -/
def rehearse (s : Session) (rehearsal : Rehearsal) : Session :=
  { s with rehearsal := rehearsal }

/-- Meets a request, and records it if it is one of those that are recorded. -/
def meet (s : Session) (request : Request) : Step Reply :=
  let (report, recorder) := s.recorder.meet s.now s.resolver request
  { answer := report.answer
    session := { s with recorder := recorder }
    journal := report.journal }

/-- Uses the history for the operation. -/
def useHistory {α : Type} (s : Session) (operation : String)
    (f : History → Except Fault α × History) : Step α :=
  match s.recorder.history with
  | some history =>
    let (answer, history) := f history
    { answer := answer
      session := { s with recorder := { s.recorder with history := some history } } }
  | none => { answer := .error (.noOperation Datum.null.kind operation), session := s }

/-- Adds a record to the history, unless the history refuses it. -/
def addRecord (s : Session) (operation : Datum) (flow : Option Flow)
    (given : Option GivenResolution) (fault : Option Fault) : Step HistoryRecord :=
  s.useHistory "record" fun history => s.recorder.offer history fun history =>
    history.addGiven s.now operation flow given fault

/-- Removes the records that are older than the history's time to live, and tells how many there
were. -/
def cleanUp (s : Session) : Step Nat :=
  s.useHistory "cleanup_old_entries" fun history =>
    match history.cleanUp s.now with
    | .ok (removed, kept) => (.ok removed, kept)
    | .error fault => (.error fault, history)

/-- Removes all records of the history. -/
def clear (s : Session) : Step Unit :=
  s.useHistory "clear" fun history => (.ok (), history.clear)

/-- Lets the history refuse records with the words, or take them again. -/
def putRefusal (s : Session) (words : Option String) : Session :=
  { s with recorder := { s.recorder with refusal := words.map Fault.outage } }

/-- Moves the clock by a number of milliseconds, if it can go there. -/
def advance (s : Session) (milliseconds : Datum) : Step Instant :=
  match do s.now.after (← Span.ofMilliseconds milliseconds) with
  | .ok now => { answer := .ok now, session := { s with now := now } }
  | .error fault => { answer := .error fault, session := s }

/-! ## Monitoring -/

/-- Requests a page from the server. -/
def visit (s : Session) (target : List Char) : Step Monitoring.Page :=
  match s.server with
  | none => { answer := .error .noServer, session := s }
  | some server =>
    let ((page, journal), station) :=
      Monitoring.Station.answer ⟨server, s.recorder⟩ s.resolver s.now target
    { answer := .ok page
      session := { s with server := some station.server, recorder := station.recorder }
      journal := journal }

/-- The address at which a session serves its pages. -/
def monitoringAddress : String := "127.0.0.1:8090"

/-- The settings with the monitoring pages switched on. -/
def enableMonitoring (settings : Settings) : Settings :=
  (settings.setVariable Setting.monitoringEnabled.variableName (some "true")).setVariable
    Setting.monitoringBind.variableName (some monitoringAddress)

/-- The notice for a server whose address is taken. -/
def addressTaken : Notice :=
  .error "Failed to start monitoring server: [Errno 98] Address already in use"

/-- Switches the monitoring pages on and launches a server as the settings say; tells whether it
runs. A server that runs already is replaced by it, and goes on when the launch fails. -/
def startMonitoring (s : Session) (serviceId : Datum) (portTaken : Bool) : Step Bool :=
  let (answer, settings, notices) :=
    Monitoring.start s.recorder.history serviceId (enableMonitoring s.settings, [])
  let s := { s with settings := settings }
  match answer with
  | .error fault => { answer := .error fault, session := s, journal := { notices := notices } }
  | .ok start =>
    let s := { s with recorder := { s.recorder with history := start.history } }
    match start.launch with
    | .error fault => { answer := .error fault, session := s, journal := { notices := notices } }
    | .ok none => { answer := .ok false, session := s, journal := { notices := notices } }
    | .ok (some launch) =>
      if portTaken then
        { answer := .ok false, session := s, journal := { notices := notices ++ [addressTaken] } }
      else
        let server : Monitoring.Server :=
          { serviceId := launch.serviceId, startedAt := s.now, launched := true }
        { answer := .ok true
          session := { s with server := some server }
          journal := { notices := notices } }

/-- Stops the server. One that was launched clears the history that it shows; one that ran from
the start leaves it. -/
def stopMonitoring (s : Session) : Session :=
  match s.server with
  | some server =>
    if server.launched then
      let station : Monitoring.Station := ⟨server, s.recorder⟩
      { s with
        server := none
        recorder := (station.putHistory station.history.clear).recorder }
    else { s with server := none }
  | none => s

end Session

end Rollout

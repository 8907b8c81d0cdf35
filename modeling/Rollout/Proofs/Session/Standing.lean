import Rollout.Proofs.Catalog.Updates
import Rollout.Proofs.History.Ids
import Rollout.Proofs.Settings.Readings
import Rollout.Session

/-!
# How sessions come about

A session is opened, and then **events** happen in it: the steps that its callers take, in any order
and with any arguments, also those that fail. Whatever happens, the parts of the session come about
as their own theories have it (`Sound`): its catalog by a document and mutations, the histories that
it records in and shows by records and what removes them, and its settings by a log of what was set
and asked for. So what is said of every such catalog, history and log is said of every session
(`Reached.sound`); of a mutation it is that the session goes on with the whole of it or is left as
it was (`Sound.change_cases`).
-/

namespace Rollout

/-! ## Histories -/

namespace History

/-- The history, if there is one, comes about by records and by what removes them. -/
def ReachedIfAny (history : Option History) : Prop :=
  ∀ held, history = some held → held.Reached

theorem reachedIfAny_none : ReachedIfAny none := by
  intro held none_held
  cases none_held

theorem Reached.ifAny {history : History} (reached : history.Reached) :
    ReachedIfAny (some history) := by
  intro held same
  rw [← Option.some.inj same]
  exact reached

end History

namespace Recorder

variable {recorder : Recorder}

/-- What is recorded in comes about by records and by what removes them. -/
def Reached (recorder : Recorder) : Prop :=
  History.ReachedIfAny recorder.history

theorem reached_offer {history : History} (recorder : Recorder) (reached : history.Reached)
    {add : History → Except Fault HistoryRecord × History} (added : (add history).2.Reached) :
    (recorder.offer history add).2.Reached := by
  unfold offer
  split
  · exact reached
  · exact added

theorem Reached.record (reached : recorder.Reached) (now : Instant) (operation : Operation)
    (flow : Option Flow) (fault : Option Fault) (journal : Journal) :
    (recorder.record now operation flow fault journal).1.Reached := by
  unfold Recorder.record
  split
  · exact reached
  · rename_i history held
    have before := reached history held
    exact (recorder.reached_offer before (before.add now _ flow journal.reached fault)).ifAny

theorem Reached.run {α : Type} (reached : recorder.Reached) (now : Instant) (operation : Operation)
    (flow : Option Flow) (request : Lookup α) :
    (recorder.run now operation flow request).2.2.Reached :=
  reached.record now operation flow _ _

theorem Reached.meet (reached : recorder.Reached) (now : Instant) (r : Resolver)
    (request : Request) : (recorder.meet now r request).2.Reached := by
  unfold Recorder.meet
  split
  · exact reached
  · exact reached.run now _ _ _

end Recorder

namespace Monitoring

/-- The histories of a station come about by records and by what removes them. -/
structure Station.Reached (s : Station) : Prop where
  recorder : s.recorder.Reached
  own : History.ReachedIfAny s.server.ownHistory

namespace Station

variable {s : Station}

/-- So does the history that the pages show, which is a fresh one where there is none. -/
theorem Reached.history (reached : s.Reached) : s.history.Reached := by
  unfold Station.history
  split
  · rename_i history own
    exact reached.own history own
  · cases held : s.recorder.history with
    | some history => exact reached.recorder history held
    | none => exact .fresh _ _

theorem Reached.putHistory (reached : s.Reached) {history : History} (there : history.Reached) :
    (s.putHistory history).Reached := by
  unfold Station.putHistory
  split
  · exact ⟨reached.recorder, there.ifAny⟩
  · exact ⟨there.ifAny, reached.own⟩

theorem Reached.answerHistory (reached : s.Reached) (r : Resolver) (now : Instant)
    (query : List Char) (route : HistoryRoute) :
    (s.answerHistory r now query route).2.Reached := by
  cases route with
  | status =>
    unfold Station.answerHistory
    cases cleaned : s.history.cleanUp now with
    | error fault => exact reached
    | ok left => exact reached.putHistory (reached.history.cleanUp cleaned)
  | listing => exact reached
  | record segment =>
    unfold Station.answerHistory
    dsimp only
    split <;> exact reached

theorem Reached.answerCatalog (reached : s.Reached) (r : Resolver) (now : Instant)
    (query : List Char) (route : CatalogRoute) :
    (s.answerCatalog r now query route).2.Reached := by
  cases route with
  | decisions => exact ⟨reached.recorder.run now .metadata none r.metadata, reached.own⟩
  | version name label => exact reached
  | plan name => exact reached

/-- A page may clean the history up that it shows, and leave a record; nothing else. -/
theorem Reached.answer (reached : s.Reached) (r : Resolver) (now : Instant)
    (target : List Char) : (s.answer r now target).2.Reached := by
  unfold Station.answer Station.answerTarget
  dsimp only
  split
  · exact reached
  · split
    · split
      · exact reached.answerHistory r now _ _
      · split
        · exact reached.answerCatalog r now _ _
        · exact reached
    · exact reached

end Station

/-! ## Settings -/

open Settings

theorem asks_historyFromSettings : Asks historyFromSettings History.Reached := by
  have ttl : Asks historyTtl fun _ => True := asks_of_ask .historyTtl .int rfl
  have limit : Asks historyLimit fun _ => True := asks_of_ask .historyLimit .int rfl
  exact ttl.bind fun _ _ => limit.bind fun _ _ => asks_pure (.fresh _ _)

theorem asks_attempt {α : Type} {reading : Reading α} {fits : α → Prop}
    (asks : Asks reading fits) : Asks (attempt reading) fun _ => True :=
  fun s notices => ⟨(asks s notices).1, fun _ _ => trivial⟩

theorem asks_launchAddress : Asks launchAddress fun _ => True := by
  refine asks_monitoringBind.bind fun bind _ => ?_
  cases bind with
  | text address =>
    dsimp only
    split
    · exact asks_pure trivial
    · exact (asks_notify _).bind fun _ _ => asks_pure trivial
  | _ => exact asks_throw _

/-- A start asks for settings, and the history after it is the one before or a fresh one. -/
theorem asks_start {history : Option History} (serviceId : Datum)
    (reached : History.ReachedIfAny history) :
    Asks (start history serviceId) fun start => History.ReachedIfAny start.history := by
  have enabled : Asks monitoringEnabled fun _ => True := asks_of_ask .monitoringEnabled .bool rfl
  have attached : Asks (attachedHistory history) History.Reached := by
    cases history with
    | some held => exact asks_pure (reached held rfl)
    | none => exact asks_historyFromSettings
  refine enabled.bind fun on _ => ?_
  cases on with
  | false => exact asks_pure reached
  | true =>
    have address : Asks (attempt launchAddress) fun _ => True := asks_attempt asks_launchAddress
    exact attached.bind fun held there => address.bind fun _ _ => asks_pure there.ifAny

end Monitoring

/-! ## Sessions -/

namespace Session

open Settings (Asks asks_pure asks_ofExcept asks_of_ask)

variable {s : Session}

/-- Something that happens in a session. -/
inductive Event where
  | mutated (mutation : Catalog.Mutation)
  | rehearsed (rehearsal : Rehearsal)
  | met (request : Request)
  | added (operation : Datum) (flow : Option Flow) (given : Option GivenResolution)
    (fault : Option Fault)
  | cleanedUp
  | cleared
  | refusing (words : Option String)
  | advanced (milliseconds : Datum)
  | visited (target : List Char)
  | started (serviceId : Datum) (portTaken : Bool)
  | stopped

/-- The session after an event. -/
def after (s : Session) : Event → Session
  | .mutated mutation => (s.change mutation.update).session
  | .rehearsed rehearsal => s.rehearse rehearsal
  | .met request => (s.meet request).session
  | .added operation flow given fault => (s.addRecord operation flow given fault).session
  | .cleanedUp => s.cleanUp.session
  | .cleared => s.clear.session
  | .refusing words => s.putRefusal words
  | .advanced milliseconds => (s.advance milliseconds).session
  | .visited target => (s.visit target).session
  | .started serviceId portTaken => (s.startMonitoring serviceId portTaken).session
  | .stopped => s.stopMonitoring

/-- The session comes about from an opening by events. -/
inductive Reached : Session → Prop where
  | opened {o : Opening} {s : Session} : o.start.1 = .ok s → Reached s
  | after {s : Session} : Reached s → ∀ event : Event, Reached (s.after event)

/-- The parts of the session come about as their theories have it. -/
structure Sound (s : Session) : Prop where
  catalog : s.catalog.Arises
  recorder : s.recorder.Reached
  shown : ∀ server, s.server = some server → History.ReachedIfAny server.ownHistory
  settings : ∃ log, s.settings = Settings.afterAll log

/-! ## Opening -/

theorem asks_make (choice : HistoryChoice) : Asks choice.make History.ReachedIfAny := by
  cases choice with
  | absent => exact asks_pure History.reachedIfAny_none
  | within ttl limit => exact asks_pure (History.Reached.fresh ttl limit).ifAny
  | fromSettings =>
    exact Monitoring.asks_historyFromSettings.bind fun history fresh => asks_pure fresh.ifAny

theorem asks_choosePlanOrder (chosen : Datum) : Asks (choosePlanOrder chosen) fun _ => True := by
  have named : Asks Settings.planOrder fun _ => True := asks_of_ask .planOrder .text rfl
  unfold choosePlanOrder
  split
  · exact asks_pure trivial
  · exact named.bind fun _ _ => asks_pure trivial

/-- A server that runs from the start shows the resolver's history, or a fresh one. -/
theorem reached_serverFor (history : Option History) (serviceId : Datum) :
    History.ReachedIfAny (serverFor history serviceId).ownHistory := by
  unfold serverFor
  dsimp only
  split
  · exact History.reachedIfAny_none
  · exact (History.Reached.fresh _ _).ifAny

theorem asks_prepare (o : Opening) :
    Asks o.prepare fun s => s.catalog.Arises ∧ s.recorder.Reached ∧
      ∀ server, s.server = some server → History.ReachedIfAny server.ownHistory := by
  have read : Asks (ofExcept (Catalog.ofDatum o.document)) Catalog.Arises :=
    asks_ofExcept fun c described => .read described
  refine read.bind fun c arose => (asks_make o.history).bind fun history reached =>
    (asks_choosePlanOrder o.planOrder).bind fun _ _ => asks_pure ⟨arose, reached, ?_⟩
  intro server serves
  obtain ⟨serviceId, -, same⟩ := Option.map_eq_some_iff.mp serves
  rw [← same]
  exact reached_serverFor history serviceId

theorem sound_start {o : Opening} (opens : o.start.1 = .ok s) : s.Sound := by
  have asks := asks_prepare o { environment := o.environment } []
  unfold Opening.start at opens
  revert asks opens
  rcases o.prepare ({ environment := o.environment }, []) with ⟨answer, settings, notices⟩
  intro opens ⟨⟨asked, left⟩, fit⟩
  obtain ⟨prepared, answers, rfl⟩ := Fallible.map_eq_ok_iff.mp opens
  obtain ⟨arose, recorder, shown⟩ := fit prepared answers
  -- The log begins with the environment, and what the opening asked for comes after it.
  rw [← Settings.afterAll_environmentLog, Settings.afterAll_asked] at left
  exact ⟨arose, recorder, shown, _, left⟩

/-! ## Events -/

/-- What is done with a history that comes about leaves one that does. -/
theorem Sound.useHistory {α : Type} (sound : s.Sound) (operation : String)
    {f : History → Except Fault α × History}
    (keeps : ∀ history, history.Reached → (f history).2.Reached) :
    (s.useHistory operation f).session.Sound := by
  unfold Session.useHistory
  split
  · rename_i history held
    have kept := keeps history (sound.recorder history held)
    exact ⟨sound.catalog, kept.ifAny, sound.shown, sound.settings⟩
  · exact sound

theorem Sound.putSettings (sound : s.Sound) {settings : Settings}
    (logged : ∃ log, settings = Settings.afterAll log) : Sound { s with settings := settings } :=
  ⟨sound.catalog, sound.recorder, sound.shown, logged⟩

theorem Sound.putRecorder (sound : s.Sound) (recorder : Recorder) (reached : recorder.Reached) :
    Sound { s with recorder := recorder } :=
  ⟨sound.catalog, reached, sound.shown, sound.settings⟩

theorem Sound.putServer (sound : s.Sound) {server : Monitoring.Server} {recorder : Recorder}
    (reached : recorder.Reached) (own : History.ReachedIfAny server.ownHistory) :
    Sound { s with server := some server, recorder := recorder } := by
  refine ⟨sound.catalog, reached, ?_, sound.settings⟩
  intro shown same
  rw [← Option.some.inj same]
  exact own

theorem Sound.advance (sound : s.Sound) (milliseconds : Datum) :
    (s.advance milliseconds).session.Sound := by
  unfold Session.advance
  split
  · exact ⟨sound.catalog, sound.recorder, sound.shown, sound.settings⟩
  · exact sound

theorem Sound.station (sound : s.Sound) {server : Monitoring.Server}
    (serves : s.server = some server) : Monitoring.Station.Reached ⟨server, s.recorder⟩ :=
  ⟨sound.recorder, sound.shown server serves⟩

theorem Sound.visit (sound : s.Sound) (target : List Char) :
    (s.visit target).session.Sound := by
  unfold Session.visit
  split
  · exact sound
  · rename_i server serves
    have after := (sound.station serves).answer s.resolver s.now target
    exact sound.putServer after.recorder after.own

/-- Two variables are set. -/
theorem enableMonitoring_afterAll (log : List Settings.Event) :
    enableMonitoring (Settings.afterAll log) =
      Settings.afterAll
        (.set Setting.monitoringBind.variableName (some monitoringAddress) ::
          .set Setting.monitoringEnabled.variableName (some "true") :: log) :=
  rfl

/-- The server is started with the settings after two variables were set and some settings asked
for, and shows the resolver's history. -/
theorem Sound.startMonitoring (sound : s.Sound) (serviceId : Datum) (portTaken : Bool) :
    (s.startMonitoring serviceId portTaken).session.Sound := by
  obtain ⟨log, before⟩ := sound.settings
  have logged : ∀ settings, (∃ asked, settings = (enableMonitoring s.settings).asked asked) →
      ∃ log, settings = Settings.afterAll log := by
    intro settings ⟨asked, same⟩
    rw [same, before, enableMonitoring_afterAll, Settings.afterAll_asked]
    exact ⟨_, rfl⟩
  have asks := Monitoring.asks_start serviceId sound.recorder (enableMonitoring s.settings) []
  unfold Session.startMonitoring
  revert asks
  rcases Monitoring.start s.recorder.history serviceId (enableMonitoring s.settings, []) with
    ⟨answer, settings, notices⟩
  intro ⟨left, fit⟩
  -- The settings are kept however the start ends, also when it fails.
  have sound := sound.putSettings (logged settings left)
  cases answer with
  | error fault => exact sound
  | ok start =>
    -- So is the history, even if the port is taken; a new server has none of its own.
    have sound := sound.putRecorder { s.recorder with history := start.history } (fit start rfl)
    dsimp only
    split
    · exact sound
    · exact sound
    · split
      · exact sound
      · exact sound.putServer sound.recorder History.reachedIfAny_none

theorem Sound.stopMonitoring (sound : s.Sound) : s.stopMonitoring.Sound := by
  unfold Session.stopMonitoring
  split
  · rename_i server serves
    have station := sound.station serves
    have cleared := station.putHistory station.history.clear
    split
    · exact ⟨sound.catalog, cleared.recorder, nofun, sound.settings⟩
    · exact ⟨sound.catalog, sound.recorder, nofun, sound.settings⟩
  · exact sound

/-- One event leads from a session that comes about as it should to another. -/
theorem Sound.after (sound : s.Sound) (event : Event) : (s.after event).Sound := by
  cases event with
  | mutated mutation =>
    exact ⟨.update sound.catalog mutation, sound.recorder, sound.shown, sound.settings⟩
  | rehearsed rehearsal => exact ⟨sound.catalog, sound.recorder, sound.shown, sound.settings⟩
  | met request => exact sound.putRecorder _ (sound.recorder.meet s.now s.resolver request)
  | added operation flow given fault =>
    refine sound.useHistory "record" fun history reached => ?_
    exact s.recorder.reached_offer reached (reached.addGiven s.now operation flow given fault)
  | cleanedUp =>
    refine sound.useHistory "cleanup_old_entries" fun history reached => ?_
    cases cleaned : history.cleanUp s.now with
    | error fault => exact reached
    | ok left => exact reached.cleanUp cleaned
  | cleared => exact sound.useHistory "clear" fun history reached => reached.clear
  | refusing words => exact sound.putRecorder _ sound.recorder
  | advanced milliseconds => exact sound.advance milliseconds
  | visited target => exact sound.visit target
  | started serviceId portTaken => exact sound.startMonitoring serviceId portTaken
  | stopped => exact sound.stopMonitoring

/-- **Sessions are sound.** Whatever happens in a session, its parts come about as their theories
have it. -/
theorem Reached.sound (reached : s.Reached) : s.Sound := by
  induction reached with
  | opened opens => exact sound_start opens
  | after _ event ih => exact ih.after event

/-! ## Mutations -/

/-- In a session a mutation is made as a whole, or it is refused and leaves the session as it
was. -/
theorem Sound.change_cases (sound : s.Sound) (mutation : Catalog.Mutation) :
    (∃ fault, (s.change mutation.update).answer = .error fault ∧
        mutation.applyTo s.catalog = .error fault ∧ (s.change mutation.update).session = s) ∨
      ∃ changed, (s.change mutation.update).answer = .ok () ∧
        mutation.applyTo s.catalog = .ok changed ∧
        (s.change mutation.update).session = { s with catalog := changed } := by
  obtain ⟨refused, made⟩ :=
    (Catalog.update_atomic sound.catalog.coherent mutation).cases_run
  have session : (s.change mutation.update).session =
      { s with catalog := (mutation.update s.catalog).2 } := rfl
  have answer : (s.change mutation.update).answer = (mutation.update s.catalog).1 := rfl
  rw [session, answer]
  cases run : mutation.update s.catalog with
  | mk answer left =>
    cases answer with
    | error fault =>
      obtain ⟨rfl, whole⟩ := refused fault left run
      exact .inl ⟨fault, rfl, whole, rfl⟩
    | ok _ => exact .inr ⟨left, rfl, made left run, rfl⟩

end Session

end Rollout

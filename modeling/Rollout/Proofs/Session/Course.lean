import Rollout.Proofs.Catalog.Spelling
import Rollout.Proofs.Session.Standing

/-!
# What sessions answer

The requests that are met in a session are answered over its catalog, its rehearsal and its policy
for plans. Whatever else happens in it, to its recorder, its pages, its settings and its clock,
does not show in the answers (`answers_eq`).

So the courses of requests and the scripts of changes and requests, which are told without a
session, tell of sessions. As long as the catalog and the rehearsal stay, the reports of a session
are those of a course of requests with its recorder (`exists_serve`). Where nothing but the bucket
is rehearsed, its answers are those of the script of its changes and requests (`answers_script`).
-/

namespace Rollout

/-! ## Changes as mutations -/

namespace Catalog

/-- The change as a call with arguments from outside. -/
def Change.mutation : Change → Mutation
  | addType name description => .addType (.text name) description
  | addVersion imageType version path state releaseTag =>
    .addVersion (.text imageType) (.text version) path state releaseTag
  | setState imageType version state => .setState (.text imageType) (.text version) state
  | setPlan imageType entries => .setPlan (.text imageType) (entryData entries)
  | addRule name flowPattern imageType version => .addRule
    { name := name, flowPattern := .text flowPattern, imageType := .text imageType
      version := .text version }

theorem applyTo_mutation (c : Catalog) (change : Change) :
    change.mutation.applyTo c = change.applyTo c := by
  cases change with
  | addType name description =>
    show (c.registerType (.text name) description).map Prod.snd = _
    rw [Change.applyTo]
    cases c.registerType (.text name) description <;> rfl
  | addVersion imageType version path state releaseTag =>
    show (c.registerVersion (.text imageType) (.text version) path state releaseTag).map _ = _
    rw [Change.applyTo]
    cases c.registerVersion (.text imageType) (.text version) path state releaseTag <;> rfl
  | setState imageType version state =>
    show (c.changeState (.text imageType) (.text version) state).map _ = _
    rw [Change.applyTo]
    cases c.changeState (.text imageType) (.text version) state <;> rfl
  | setPlan imageType entries => rfl
  | addRule name flowPattern imageType version => rfl

/-- The call leaves the catalog after the change. -/
theorem update_mutation {c : Catalog} (coherent : c.Coherent) (change : Change) :
    (change.mutation.update c).2 = c.after change := by
  obtain ⟨refused, made⟩ := (update_atomic coherent change.mutation).cases_run
  rw [applyTo_mutation] at refused made
  unfold after
  cases run : change.mutation.update c with
  | mk answer left =>
    cases answer with
    | error fault =>
      obtain ⟨same, whole⟩ := refused fault left run
      rw [whole, same]
    | ok _ => rw [made left run]

end Catalog

/-- Where nothing but the bucket is rehearsed the sources are those of the catalog. -/
theorem Rehearsal.sources_plain (bucket : BucketSource) (c : Catalog) :
    ({ bucket := bucket } : Rehearsal).sources c = c.sources bucket.answer :=
  rfl

namespace Session

variable {s t : Session} {events others : List Event}

/-- The request that is met. -/
def Event.request? : Event → Option Request
  | met request => some request
  | _ => none

/-- The event changes what the sources answer. -/
def Event.changesSources : Event → Bool
  | mutated _ | rehearsed _ => true
  | _ => false

/-- The event bears on what is answered: it changes the sources, or a request is met. -/
def Event.bears (event : Event) : Bool :=
  event.changesSources || event.request?.isSome

/-- The report on the request that is met in the event. -/
def report? (s : Session) : Event → Option Report
  | .met request =>
    let step := s.meet request
    some ⟨step.answer, step.journal⟩
  | _ => none

/-- The reports on the requests that are met. -/
def reports (s : Session) : List Event → List Report
  | [] => []
  | event :: rest => (s.report? event).toList ++ (s.after event).reports rest

/-! ## What bears on answers -/

/-- Requests are answered over the same catalog, rehearsal and policy in both sessions. -/
structure SameGround (s t : Session) : Prop where
  catalog : s.catalog = t.catalog
  rehearsal : s.rehearsal = t.rehearsal
  planOrder : s.planOrder = t.planOrder

theorem SameGround.refl (s : Session) : s.SameGround s :=
  ⟨rfl, rfl, rfl⟩

theorem SameGround.trans {u : Session} (same : s.SameGround t) (next : t.SameGround u) :
    s.SameGround u :=
  ⟨same.catalog.trans next.catalog, same.rehearsal.trans next.rehearsal,
    same.planOrder.trans next.planOrder⟩

theorem SameGround.symm (same : s.SameGround t) : t.SameGround s :=
  ⟨same.catalog.symm, same.rehearsal.symm, same.planOrder.symm⟩

theorem SameGround.resolver_eq (same : s.SameGround t) : s.resolver = t.resolver := by
  rw [resolver, resolver, same.catalog, same.rehearsal, same.planOrder]

theorem sameGround_useHistory {α : Type} (s : Session) (operation : String)
    (f : History → Except Fault α × History) : (s.useHistory operation f).session.SameGround s := by
  unfold useHistory
  split <;> exact ⟨rfl, rfl, rfl⟩

theorem sameGround_startMonitoring (s : Session) (serviceId : Datum) (portTaken : Bool) :
    (s.startMonitoring serviceId portTaken).session.SameGround s := by
  unfold startMonitoring
  rcases Monitoring.start s.recorder.history serviceId (enableMonitoring s.settings, []) with
    ⟨answer, settings, notices⟩
  cases answer with
  | error fault => exact ⟨rfl, rfl, rfl⟩
  | ok start =>
    dsimp only
    split
    · exact ⟨rfl, rfl, rfl⟩
    · exact ⟨rfl, rfl, rfl⟩
    · split <;> exact ⟨rfl, rfl, rfl⟩

theorem sameGround_stopMonitoring (s : Session) : s.stopMonitoring.SameGround s := by
  unfold stopMonitoring
  split
  · split <;> exact ⟨rfl, rfl, rfl⟩
  · exact .refl s

/-- Only mutations and rehearsals change the ground. -/
theorem sameGround_after {event : Event} (steady : event.changesSources = false) :
    (s.after event).SameGround s := by
  cases event with
  | mutated mutation => cases steady
  | rehearsed rehearsal => cases steady
  | met request => exact ⟨rfl, rfl, rfl⟩
  | added operation flow given fault => exact s.sameGround_useHistory "record" _
  | cleanedUp => exact s.sameGround_useHistory "cleanup_old_entries" _
  | cleared => exact s.sameGround_useHistory "clear" _
  | refusing words => exact ⟨rfl, rfl, rfl⟩
  | advanced milliseconds =>
    show (s.advance milliseconds).session.SameGround s
    unfold advance
    split <;> exact ⟨rfl, rfl, rfl⟩
  | visited target =>
    show (s.visit target).session.SameGround s
    unfold visit
    split <;> exact ⟨rfl, rfl, rfl⟩
  | started serviceId portTaken => exact s.sameGround_startMonitoring serviceId portTaken
  | stopped => exact s.sameGround_stopMonitoring

theorem SameGround.after (same : s.SameGround t) (event : Event) :
    (s.after event).SameGround (t.after event) := by
  by_cases steady : event.changesSources = false
  · exact ((sameGround_after steady).trans same).trans (sameGround_after steady).symm
  · cases event with
    | mutated mutation =>
      refine ⟨?_, same.rehearsal, same.planOrder⟩
      show (mutation.update s.catalog).2 = (mutation.update t.catalog).2
      rw [same.catalog]
    | rehearsed rehearsal => exact ⟨same.catalog, rfl, same.planOrder⟩
    | _ => exact absurd rfl steady

/-- The recorder does not show in the answer to a request. -/
theorem answer_meet (s : Session) (request : Request) :
    (s.meet request).answer = (request.report s.resolver).answer :=
  (report_meet s.recorder s.now s.resolver request).answer_eq

theorem SameGround.answer_report? (same : s.SameGround t) (event : Event) :
    (s.report? event).map (·.answer) = (t.report? event).map (·.answer) := by
  cases event with
  | met request =>
    show some (s.meet request).answer = some (t.meet request).answer
    rw [answer_meet, answer_meet, same.resolver_eq]
  | _ => rfl

/-- The answers to the requests that are met. -/
def answers (s : Session) (events : List Event) : List (Except Fault Reply) :=
  (s.reports events).map (·.answer)

theorem answers_cons (s : Session) (event : Event) (rest : List Event) :
    s.answers (event :: rest) =
      ((s.report? event).map (·.answer)).toList ++ (s.after event).answers rest := by
  rw [answers, reports, List.map_append, answers, Option.toList_map]

/-- What does not bear on answers can be left out. -/
theorem SameGround.answers_filter (same : s.SameGround t) (events : List Event) :
    s.answers events = t.answers (events.filter Event.bears) := by
  induction events generalizing s t with
  | nil => rfl
  | cons event rest ih =>
    -- Both go on alike after an event that bears on answers; otherwise only the first one goes on.
    by_cases bears : event.bears = true
    · rw [List.filter_cons_of_pos bears, answers_cons, answers_cons, same.answer_report?,
        ih (same.after event)]
    · rw [List.filter_cons_of_neg bears, answers_cons]
      simp only [Event.bears, Bool.or_eq_true, not_or, Bool.not_eq_true] at bears
      have unasked : s.report? event = none := by
        cases event with
        | met request => cases bears.2
        | _ => rfl
      rw [unasked, ih ((sameGround_after bears.1).trans same)]
      rfl

/-- **Recording and serving do not show.** Two sessions over the same catalog, rehearsal and policy
answer alike, whatever happens to their recorders, pages, settings and clocks. -/
theorem answers_eq (same : s.SameGround t)
    (bearing : events.filter Event.bears = others.filter Event.bears) :
    s.answers events = t.answers others := by
  rw [same.answers_filter, bearing, ← (SameGround.refl t).answers_filter]

/-! ## Courses of requests -/

/-- What is done to a recorder before the first request can be told beforehand. -/
theorem exists_serve_of_tended (world : List Call → Resolver) (calls : List Call)
    (recorder tended : Recorder) (moments : Nat → Moment) (requests : List Request) :
    ∃ moments', serve world calls recorder moments' requests =
      serve world calls tended moments requests := by
  let first : Moment := ⟨(moments 0).now, fun _ => (moments 0).tend tended⟩
  refine ⟨fun n => n.casesOn first fun n => moments (n + 1), ?_⟩
  cases requests with
  | nil => rfl
  | cons request rest => rfl

/-- As long as the catalog and the rehearsal stay, the reports of a session are those of a course of
requests with its recorder. -/
theorem exists_serve (calls : List Call) (steady : ∀ event ∈ events, event.changesSources = false) :
    ∃ moments, s.reports events =
      serve (fun _ => s.resolver) calls s.recorder moments (events.filterMap Event.request?) := by
  induction events generalizing s calls with
  | nil => exact ⟨fun _ => ⟨s.now, id⟩, rfl⟩
  | cons event rest ih =>
    have here := sameGround_after (s := s) (steady event List.mem_cons_self)
    have later := fun other member => steady other (List.mem_cons_of_mem event member)
    cases event with
    | met request =>
      let step := s.meet request
      obtain ⟨moments, served⟩ := ih (s := step.session) (calls ++ step.journal.calls) later
      refine ⟨fun n => n.casesOn ⟨s.now, id⟩ moments, ?_⟩
      rw [show step.session.resolver = s.resolver from rfl] at served
      show ⟨step.answer, step.journal⟩ :: step.session.reports rest = _
      rw [served]
      rfl
    | _ =>
      obtain ⟨moments, served⟩ := ih calls later
      -- Whatever else happens is done to the recorder before the next request.
      obtain ⟨moments', tended⟩ :=
        exists_serve_of_tended (fun _ => s.resolver) calls s.recorder _ moments
          (rest.filterMap Event.request?)
      refine ⟨moments', ?_⟩
      rw [here.resolver_eq] at served
      exact served.trans tended.symm

/-- A session reports what is reported without a recorder, with at most a warning for each request
that it could not be recorded. -/
theorem recorded_reports (steady : ∀ event ∈ events, event.changesSources = false) :
    Recorded (unrecorded (fun _ => s.resolver) [] (events.filterMap Event.request?))
      (s.reports events) := by
  obtain ⟨moments, served⟩ := exists_serve (s := s) [] steady
  rw [served]
  exact recorded_serve _ [] s.recorder moments _

/-! ## Scripts -/

/-- The act of a script as it happens in a session. -/
def Event.ofAct : Act → Event
  | .change change => .mutated change.mutation
  | .request request => .met request

/-- The events are those of the script, with any others that do not bear on answers between
them. -/
def Follows (events : List Event) (script : List Act) : Prop :=
  events.filter Event.bears = script.map Event.ofAct

/-- Where nothing but the bucket is rehearsed, the answers of a session are those of its script. -/
theorem answers_ofAct {bucket : BucketSource} (arose : s.catalog.Arises)
    (plain : s.rehearsal = { bucket := bucket }) (script : List Act) :
    s.answers (script.map Event.ofAct) =
      Rollout.answers bucket.answer s.planOrder s.catalog script := by
  induction script generalizing s with
  | nil => rfl
  | cons act rest ih =>
    rw [List.map_cons, answers_cons]
    cases act with
    | change change =>
      have changed : (s.after (.mutated change.mutation)).catalog = s.catalog.after change :=
        Catalog.update_mutation arose.coherent change
      have later := ih (s := s.after (.mutated change.mutation))
        (.update arose change.mutation) plain
      rw [changed] at later
      exact later
    | request request =>
      have ground : s.resolver = s.catalog.resolver bucket.answer s.planOrder := by
        rw [resolver, plain, Rehearsal.sources_plain]
        rfl
      have later := ih (s := s.after (.met request)) arose plain
      show (s.meet request).answer :: (s.after (.met request)).answers _ = _
      rw [answer_meet, ground, later]
      rfl

theorem answers_script {bucket : BucketSource} {script : List Act} (sound : s.Sound)
    (plain : s.rehearsal = { bucket := bucket }) (follows : Follows events script) :
    s.answers events = Rollout.answers bucket.answer s.planOrder s.catalog script := by
  rw [(SameGround.refl s).answers_filter, follows]
  exact answers_ofAct sound.catalog plain script

/-- **Sessions heed type names up to their keys.** Two sessions with one bucket function and policy
follow scripts that differ at most in spellings of type names, and their catalogs differ in no more
than that. Then they answer alike. -/
theorem allAlike_answers {bucket : BucketSource} {script script' : List Act} (sound : s.Sound)
    (sound' : t.Sound) (plain : s.rehearsal = { bucket := bucket })
    (plain' : t.rehearsal = { bucket := bucket }) (planOrder : s.planOrder = t.planOrder)
    (named : s.catalog.plain = t.catalog.plain) (respelled : Respelled script script')
    (follows : Follows events script) (follows' : Follows others script') :
    AllAlike (s.answers events) (t.answers others) := by
  rw [answers_script sound plain follows, answers_script sound' plain' follows', ← planOrder]
  exact respelled.alike bucket.answer s.planOrder named

end Session

end Rollout

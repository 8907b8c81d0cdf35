import Rollout.History
import Rollout.Resolution.Requests

/-!
# Recording requests

A resolver may be given a history to record its requests in. A request is recorded when it is
over, whether it succeeded or failed, together with the resolution that it reached. A history
may fail to take a record: that leaves a warning and changes nothing else, so recording never
shows in what a request answers.
-/

namespace Rollout

/-- Where requests are recorded, if anywhere. -/
structure Recorder where
  history : Option History := none
  /-- The fault with which the history refuses records at present. -/
  refusal : Option Fault := none

namespace Recorder

/-- Lets a history add a record, unless records are refused at present. -/
def offer (recorder : Recorder) (history : History)
    (add : History → Except Fault HistoryRecord × History) :
    Except Fault HistoryRecord × History :=
  match recorder.refusal with
  | some refusal => (.error refusal, history)
  | none => add history

/-- Records a request that left the journal. -/
def record (recorder : Recorder) (now : Instant) (operation : Operation) (flow : Option Flow)
    (fault : Option Fault) (journal : Journal) : Recorder × Journal :=
  match recorder.history with
  | none => (recorder, journal)
  | some history =>
    let (answer, history) := recorder.offer history fun history =>
      history.add now (.text operation.name) flow journal.reached fault
    let notices := match answer with
      | .ok _ => []
      | .error failure =>
        [.warning s!"Failed to record {operation.name} resolution: {failure.message}"]
    ({ recorder with history := some history },
      { journal with notices := journal.notices ++ notices })

/-- Runs a request from an empty journal and records it. -/
def run {α : Type} (recorder : Recorder) (now : Instant) (operation : Operation)
    (flow : Option Flow) (request : Lookup α) : Except Fault α × Journal × Recorder :=
  let (answer, journal) := request.start
  let fault := match answer with
    | .ok _ => none
    | .error fault => some fault
  let (recorder, journal) := recorder.record now operation flow fault journal
  (answer, journal, recorder)

/-- Meets a request, and records it if it is one of those that are recorded. -/
def meet (recorder : Recorder) (now : Instant) (r : Resolver) (request : Request) :
    Report × Recorder :=
  match request.recording with
  | none => (request.report r, recorder)
  | some (operation, flow) =>
    let (answer, journal, recorder) := recorder.run now operation flow (request.lookup r)
    (⟨answer, journal⟩, recorder)

end Recorder

end Rollout

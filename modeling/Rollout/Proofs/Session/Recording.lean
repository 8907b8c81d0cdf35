import Rollout.History.Recorder

/-!
# Recording does not show

A resolver meets requests one after the other. Its sources may go by all calls that were made
before, also for earlier requests. Those requests that are recorded leave a record with a recorder,
and between two requests anything may be done to that recorder: its history may be cleaned up,
cleared, replaced or taken away, and it may begin or cease to refuse records.

Whatever the recorder is and whatever is done to it, every request is met as it is without one
(`recorded_serve`): it has the same answer or the same fault, puts the same questions and reaches
the same resolution. All that can be seen of the recording is a warning that it failed.
-/

namespace Rollout

/-! ## Courses of requests -/

/-- The time at which a request is made, and what was done to the recorder since the request
before. -/
structure Moment where
  now : Instant
  tend : Recorder → Recorder

/-- The reports on the requests, without a recorder. -/
def unrecorded (world : List Call → Resolver) (calls : List Call) : List Request → List Report
  | [] => []
  | request :: rest =>
    let report := request.report (world calls)
    report :: unrecorded world (calls ++ report.journal.calls) rest

/-- The reports on the requests, made at the moments, with a recorder. -/
def serve (world : List Call → Resolver) (calls : List Call) (recorder : Recorder)
    (moments : Nat → Moment) : List Request → List Report
  | [] => []
  | request :: rest =>
    let (report, recorder) :=
      ((moments 0).tend recorder).meet (moments 0).now (world calls) request
    report :: serve world (calls ++ report.journal.calls) recorder (fun n => moments (n + 1)) rest

/-- The report with one more warning. -/
def Report.warned (report : Report) (text : String) : Report :=
  { report with journal :=
      { report.journal with notices := report.journal.notices ++ [.warning text] } }

/-- Of the second report, at most a warning that the recording failed is not in the first. -/
inductive Report.Recorded (plain : Report) : Report → Prop where
  | silently : Recorded plain plain
  | warned (operation : Operation) (failure : Fault) : Recorded plain
      (plain.warned s!"Failed to record {operation.name} resolution: {failure.message}")

/-- The reports of the second list are those of the first, recorded. -/
inductive Recorded : List Report → List Report → Prop where
  | nil : Recorded [] []
  | cons {plain recorded : Report} {rest others : List Report}
      (first : plain.Recorded recorded) (later : Recorded rest others) :
      Recorded (plain :: rest) (recorded :: others)

variable {plain recorded : Report}

theorem Report.Recorded.answer_eq (same : plain.Recorded recorded) :
    recorded.answer = plain.answer := by
  cases same <;> rfl

theorem Report.Recorded.calls_eq (same : plain.Recorded recorded) :
    recorded.journal.calls = plain.journal.calls := by
  cases same <;> rfl

theorem Recorded.answers_eq {plain recorded : List Report} (same : Recorded plain recorded) :
    recorded.map (·.answer) = plain.map (·.answer) := by
  induction same with
  | nil => rfl
  | cons first _ ih => rw [List.map_cons, List.map_cons, first.answer_eq, ih]

/-! ## What recording changes -/

/-- Recording a request leaves its journal as it is, but for a warning that it failed. -/
theorem journal_record (recorder : Recorder) (now : Instant) (operation : Operation)
    (flow : Option Flow) (fault : Option Fault) (answer : Except Fault Reply) (journal : Journal) :
    Report.Recorded ⟨answer, journal⟩
      ⟨answer, (recorder.record now operation flow fault journal).2⟩ := by
  have unchanged : { journal with notices := journal.notices ++ [] } = journal := by
    rw [List.append_nil]
  rw [Recorder.record]
  split
  · exact .silently
  · rename_i history _
    rcases recorder.offer history fun history =>
      history.add now (.text operation.name) flow journal.reached fault with ⟨result, held⟩
    cases result with
    | ok entry =>
      dsimp only
      rw [unchanged]
      exact .silently
    | error failure => exact .warned operation failure

/-- One request is met as it is without a recorder, also when it fails and its recording fails on
top of that. -/
theorem report_meet (recorder : Recorder) (now : Instant) (r : Resolver) (request : Request) :
    (request.report r).Recorded (recorder.meet now r request).1 := by
  rw [Recorder.meet]
  split
  · exact .silently
  · exact journal_record recorder now _ _ _ _ _

/-- What is recorded of earlier requests has no influence on later ones. -/
theorem recorded_serve (world : List Call → Resolver) (calls : List Call) (recorder : Recorder)
    (moments : Nat → Moment) (requests : List Request) :
    Recorded (unrecorded world calls requests) (serve world calls recorder moments requests) := by
  induction requests generalizing calls recorder moments with
  | nil => exact .nil
  | cons request rest ih =>
    have met := report_meet ((moments 0).tend recorder) (moments 0).now (world calls) request
    rw [unrecorded, serve]
    revert met
    rcases ((moments 0).tend recorder).meet (moments 0).now (world calls) request with
      ⟨report, tended⟩
    intro met
    refine .cons met ?_
    -- the sources go by the calls made so far, which are the same in both courses
    have same : report.journal.calls = (request.report (world calls)).journal.calls := met.calls_eq
    rw [same]
    exact ih _ _ _

/-- **Recording does not show.** Requests have the same answers and faults with any two recorders,
whatever is done to them and whatever they refuse in between. Each report is the one that is given
when nothing is recorded, with at most a warning that the recording failed. -/
theorem answers_serve (world : List Call → Resolver) (requests : List Request)
    (recorder recorder' : Recorder) (moments moments' : Nat → Moment) :
    (serve world [] recorder moments requests).map (·.answer) =
        (serve world [] recorder' moments' requests).map (·.answer) ∧
      Recorded (unrecorded world [] requests) (serve world [] recorder moments requests) := by
  have first := recorded_serve world [] recorder moments requests
  have second := recorded_serve world [] recorder' moments' requests
  exact ⟨first.answers_eq.trans second.answers_eq.symm, first⟩

end Rollout

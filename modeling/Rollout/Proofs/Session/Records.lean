import Rollout.Proofs.Resolution.Blame
import Rollout.Proofs.Resolution.Renewal
import Rollout.Proofs.Resolution.Tolerance
import Rollout.Proofs.Session.Recording

/-!
# What records say of requests

A request that is recorded leaves one record, under the next id, and the record agrees with what the
caller was given (`meet_accounts`). How the request ended can be told from any record
(`Describes`). What it says of types depends on the request (`Accounts`): the versions that were
returned are those of its decisions, and the types that a fault says are unresolved are those that
it lists, but for exempt ones.

A source may raise any fault, so also the one that says that types are unresolved. That is no word
about the types of the request: no resolution was reached then, and the record lists nothing.
-/

namespace Rollout

/-- The decision is shown with the version, the path and the state of the info. -/
structure Decision.Shows (decision : Decision) (info : VersionInfo) : Prop where
  info_eq : decision.info = .ok info
  version_eq : decision.toDatum.need "version" = .ok info.version
  path_eq : decision.toDatum.need "path" = .ok info.path
  state_eq : decision.toDatum.need "state" = .ok (.text info.state.name)

theorem Decision.shows_info {decision : Decision} {version : ImageVersion}
    (chosen : decision.version = some version) : decision.Shows version.info := by
  obtain ⟨held, selection, plan⟩ := decision
  subst chosen
  exact ⟨rfl, rfl, rfl, rfl⟩

namespace HistoryRecord

/-- The record tells who asked for what, and how the request ended. -/
structure Describes (record : HistoryRecord) (now : Instant) (operation : Operation)
    (flow : Option Flow) (answer : Except Fault Reply) : Prop where
  operation_eq : record.operation = .text operation.name
  flow_eq : record.flow = (flow.map Flow.identity).getD .null
  executionId_eq : record.executionId = (flow.map Flow.executionId).getD .null
  recordedAt_eq : record.recordedAt = now
  failed_iff : record.status = "failed" ↔ ∃ fault, answer = .error fault
  resolved_iff : record.status = "resolved" ↔ ∃ reply, answer = .ok reply
  fault_eq : ∀ fault, answer = .error fault → record.fault = some (fault.kind, fault.message)
  unfaulted : ∀ reply, answer = .ok reply → record.fault = none

/-- Every decision of the record is shown as one of the versions. -/
def ShowsAmong (record : HistoryRecord) (infos : List (TypeKey × VersionInfo)) : Prop :=
  ∀ entry ∈ record.decisions, ∃ info, (entry.1, info) ∈ infos ∧ entry.2.Shows info

/-- What the record says of types agrees with what its request came to, when these were the
questions that it put. -/
inductive Accounts (record : HistoryRecord) (r : Resolver) (made : List Call) :
    Request → Except Fault Reply → Prop where
  /-- The versions that are returned are those of the decisions. -/
  | execution {flow : Option Flow} {infos : List (TypeKey × VersionInfo)}
      (keys : record.decisions.map Prod.fst = infos.map Prod.fst)
      (shows_infos : record.ShowsAmong infos) :
      Accounts record r made (.execution flow) (.ok (.versions infos))
  | subset {flow : Option Flow} {names exempt : Datum} {infos : List (TypeKey × VersionInfo)}
      (keys : record.decisions.map Prod.fst = infos.map Prod.fst)
      (shows_infos : record.ShowsAmong infos) :
      Accounts record r made (.subset flow names exempt) (.ok (.versions infos))
  /-- The decisions that are returned are those of the record, and one that there is no version for
  each type that it lists as unresolved. -/
  | metadata {entries : List (TypeKey × Decision)}
      (decided : record.decisions = entries.filter fun entry => entry.2 ≠ .noVersion)
      (unresolved : record.unresolved =
        (entries.filter fun entry => entry.2 = .noVersion).map fun entry => .text entry.1.text) :
      Accounts record r made .metadata (.ok (.decisions entries))
  /-- The types of the decisions are those whose pin was found to be invalid. -/
  | reconcile {flow : Option Flow} {pins : OrderedMap Datum VersionInfo}
      {index : OrderedMap TypeKey VersionInfo} {infos : List (TypeKey × VersionInfo)}
      (indexed : Resolver.pinsByKey pins = .ok index)
      (renewed : ∀ key, key ∈ record.decisions.map Prod.fst ↔
        ∃ info, r.sources.Checks [] index.entries (key, info) true)
      (shows_infos : record.ShowsAmong infos) :
      Accounts record r made (.reconcile flow pins) (.ok (.versions infos))
  /-- The types that are reported are those that the record lists. -/
  | executionUnresolved {flow : Option Flow} {names : List String}
      (listed : record.unresolved = names.map .text) :
      Accounts record r made (.execution flow) (.error (.unresolvedTypes names))
  | reconcileUnresolved {flow : Option Flow} {pins : OrderedMap Datum VersionInfo}
      {names : List String} (listed : record.unresolved = names.map .text) :
      Accounts record r made (.reconcile flow pins) (.error (.unresolvedTypes names))
  /-- Of a subset, the exempt types are listed by the record only. -/
  | subsetUnresolved {flow : Option Flow} {names exempt : Datum} {left exempted : NameSet}
      (listed : record.unresolved = left.toList.map .text)
      (read : NameSet.ofDatum exempt = .ok exempted) :
      Accounts record r made (.subset flow names exempt)
        (.error (.unresolvedTypes (left.diff exempted).toList))
  /-- A source raised the fault, and no resolution was reached. -/
  | raised {request : Request} {names : List String} (undecided : record.decisions = [])
      (unlisted : record.unresolved = [])
      (raised : r.sources.Raised made (.unresolvedTypes names)) :
      Accounts record r made request (.error (.unresolvedTypes names))
  /-- The fault is not that types are unresolved. -/
  | failed {request : Request} {fault : Fault} (settled : ¬ fault.IsUnresolved) :
      Accounts record r made request (.error fault)

/-- The record says of types what the resolution does, if one was reached. -/
structure Notes (record : HistoryRecord) (reached : Option Resolution) : Prop where
  decisions_eq : record.decisions = (reached.map Resolution.sortedDecisions).getD []
  unresolved_eq : record.unresolved = (reached.map Resolution.unresolvedNames).getD []

end HistoryRecord

/-! ## What a resolution shows -/

namespace Resolution

variable {resolution : Resolution}

theorem mem_sortedDecisions {entry : TypeKey × Decision} :
    entry ∈ resolution.sortedDecisions ↔ resolution.decisions.find? entry.1 = some entry.2 :=
  OrderedMap.mem_sortedBy

theorem IsVersioned.keys_versionInfos (versioned : resolution.IsVersioned) :
    resolution.versionInfos.map Prod.fst = resolution.sortedDecisions.map Prod.fst := by
  have each : ∀ entry ∈ resolution.sortedDecisions, ∃ version, entry.2.version = some version := by
    intro entry member
    exact versioned entry.1 entry.2 (mem_sortedDecisions.mp member)
  unfold versionInfos
  revert each
  generalize resolution.sortedDecisions = entries
  intro each
  induction entries with
  | nil => rfl
  | cons entry rest ih =>
    obtain ⟨version, chosen⟩ := each entry List.mem_cons_self
    have tail := ih fun other member => each other (List.mem_cons_of_mem entry member)
    simp [chosen, tail]

/-- The decision of a resolution for a type is shown as the version of the type. -/
theorem IsVersioned.shown (versioned : resolution.IsVersioned) {entry : TypeKey × Decision}
    (member : entry ∈ resolution.sortedDecisions) :
    ∃ info, (entry.1, info) ∈ resolution.versionInfos ∧ entry.2.Shows info := by
  have decided := mem_sortedDecisions.mp member
  obtain ⟨version, chosen⟩ := versioned entry.1 entry.2 decided
  have listed := mem_versionInfos.mpr ⟨entry.2, version, decided, chosen, rfl⟩
  exact ⟨version.info, listed, Decision.shows_info chosen⟩

theorem ascending_completed (resolution : Resolution) :
    ((Resolver.completed resolution).map fun entry => entry.1.text).Pairwise (· < ·) :=
  OrderedMap.strictly_ascending_sortedBy (fun _ _ => TypeKey.ext) _

section Completed

variable {wanted : NameSet} {includeNonActive : Bool}

/-- That there is no version is no decision of a resolution. -/
theorem IsProper.ne_noVersion (proper : resolution.IsProper wanted includeNonActive) {key : TypeKey}
    {decision : Decision} (decided : resolution.decisions.find? key = some decision) :
    decision ≠ .noVersion := by
  intro same
  apply (proper.fits key decision decided).selected
  rw [same]
  rfl

/-- The decisions are those of the completed ones that have a version. -/
theorem IsProper.sortedDecisions_eq (proper : resolution.IsProper wanted includeNonActive)
    (normalized : wanted.IsNormalized) :
    resolution.sortedDecisions =
      (Resolver.completed resolution).filter fun entry => entry.2 ≠ .noVersion := by
  refine OrderedMap.eq_of_ascending
    (OrderedMap.strictly_ascending_sortedBy (fun _ _ => TypeKey.ext) resolution.decisions)
    (resolution.ascending_completed.sublist (List.filter_sublist.map _)) ?_
  intro entry
  simp only [List.mem_filter, Resolver.mem_completed normalized proper.partitions,
    decide_eq_true_eq]
  rw [show entry ∈ _ ↔ _ from mem_sortedDecisions]
  constructor
  · intro decided
    have wants := proper.partitions.decided entry.1 entry.2 decided
    exact ⟨⟨wants, by rw [decided]; rfl⟩, proper.ne_noVersion decided⟩
  · rintro ⟨⟨-, same⟩, versioned⟩
    cases decided : resolution.decisions.find? entry.1 with
    | some decision => rw [same, decided]; rfl
    | none =>
      rw [decided] at same
      exact absurd same versioned

/-- The unresolved names are those of the completed decisions without a version. -/
theorem IsProper.unresolvedNames_eq (proper : resolution.IsProper wanted includeNonActive)
    (normalized : wanted.IsNormalized) :
    resolution.unresolvedNames =
      ((Resolver.completed resolution).filter fun entry => entry.2 = .noVersion).map
        fun entry => .text entry.1.text := by
  have names : resolution.unresolved.toList =
      ((Resolver.completed resolution).filter fun entry => entry.2 = .noVersion).map
        fun entry => entry.1.text := by
    refine NameSet.eq_of_mem_iff resolution.unresolved.ascending
      (resolution.ascending_completed.sublist (List.filter_sublist.map _)) ?_
    intro name
    rw [← NameSet.mem_def, proper.partitions.unresolved_iff]
    simp only [List.mem_map, List.mem_filter, Resolver.mem_completed normalized proper.partitions,
      decide_eq_true_eq]
    constructor
    · rintro ⟨wants, undecided⟩
      have own : (TypeKey.ofName name).text = name := normalized.text_ofName wants
      refine ⟨(.ofName name, .noVersion), ⟨⟨?_, by rw [undecided]; rfl⟩, rfl⟩, own⟩
      rw [own]
      exact wants
    · rintro ⟨entry, ⟨⟨wants, same⟩, unversioned⟩, rfl⟩
      refine ⟨wants, ?_⟩
      rw [TypeKey.ofName_text]
      cases decided : resolution.decisions.find? entry.1 with
      | none => rfl
      | some decision =>
        rw [decided, unversioned] at same
        exact absurd same.symm (proper.ne_noVersion decided)
  rw [unresolvedNames, names, List.map_map]
  rfl

end Completed

end Resolution

/-! ## Requests -/

namespace HistoryRecord

open Lookup Resolver

variable {record : HistoryRecord}

/-- Nothing is noted of a resolution that was not reached. -/
theorem accounts_unreached {r : Resolver} {request : Request} {journal : Journal} {fault : Fault}
    (notes : record.Notes journal.reached) (unnoted : journal.reached = none)
    (blamed : fault.IsUnresolved → r.sources.Raised journal.calls fault) :
    record.Accounts r journal.calls request (.error fault) := by
  rw [unnoted] at notes
  by_cases unresolved : fault.IsUnresolved
  · obtain ⟨names, rfl⟩ := unresolved.exists_names
    exact .raised notes.decisions_eq notes.unresolved_eq (blamed unresolved)
  · exact .failed unresolved

/-- The versions of a resolution are those of the decisions that are recorded. -/
theorem Notes.shows_versionInfos {resolution : Resolution} (notes : record.Notes (some resolution))
    (versioned : resolution.IsVersioned) :
    record.decisions.map Prod.fst = resolution.versionInfos.map Prod.fst ∧
      record.ShowsAmong resolution.versionInfos := by
  have decisions : record.decisions = resolution.sortedDecisions := notes.decisions_eq
  unfold ShowsAmong
  rw [decisions]
  exact ⟨versioned.keys_versionInfos.symm, fun _ member => versioned.shown member⟩

/-- Where none is exempt, the types that are reported are those that are recorded. -/
theorem Notes.listed {resolution : Resolution} (notes : record.Notes (some resolution)) :
    record.unresolved = (resolution.unresolved.diff NameSet.empty).toList.map .text := by
  rw [NameSet.diff_empty]
  exact notes.unresolved_eq

theorem accounts_execution (r : Resolver) (flow : Option Flow)
    (notes : record.Notes (r.execution flow).start.2.reached) :
    record.Accounts r (r.execution flow).start.2.calls (.execution flow)
      ((r.execution flow).start.1.map .versions) := by
  have concludes := r.concludes_execution flow
  revert notes concludes
  rcases (r.execution flow).start with ⟨result, journal⟩
  intro notes concludes
  cases concludes with
  | unreached unnoted blamed => exact accounts_unreached notes unnoted blamed
  | unread noted fails => cases fails
  | incomplete noted read =>
    cases read
    rw [noted] at notes
    exact .executionUnresolved notes.listed
  | complete noted read nothing versioned =>
    rw [noted] at notes
    obtain ⟨keys, shows_infos⟩ := notes.shows_versionInfos versioned
    exact .execution keys shows_infos

theorem accounts_subset (r : Resolver) (flow : Option Flow) (names exempt : Datum)
    (notes : record.Notes (r.subset flow names exempt).start.2.reached) :
    record.Accounts r (r.subset flow names exempt).start.2.calls (.subset flow names exempt)
      ((r.subset flow names exempt).start.1.map .versions) := by
  cases named : NameSet.ofDatum names with
  | error fault =>
    have failed : (r.subset flow names exempt).start = (.error fault, {}) := by
      rw [subset, named]
      rfl
    rw [failed]
    exact .failed (NameSet.external_ofDatum names fault named).not_isUnresolved
  | ok wanted =>
    have same : (r.subset flow names exempt).start =
        r.subsetWanted flow wanted (NameSet.ofDatum exempt) {} := by
      rw [subset, named]
      rfl
    have concludes := r.concludes_subsetWanted flow (NameSet.isNormalized_of_ofDatum named)
      (NameSet.ofDatum exempt) {} rfl
    rw [same] at notes ⊢
    revert notes concludes
    rcases r.subsetWanted flow wanted (NameSet.ofDatum exempt) {} with ⟨result, journal⟩
    intro notes concludes
    cases concludes with
    | unreached unnoted blamed => exact accounts_unreached notes unnoted blamed
    | unread noted fails => exact .failed (NameSet.external_ofDatum exempt _ fails).not_isUnresolved
    | incomplete noted read =>
      rw [noted] at notes
      exact .subsetUnresolved notes.unresolved_eq read
    | complete noted read nothing proper =>
      rw [noted] at notes
      obtain ⟨keys, shows_infos⟩ := notes.shows_versionInfos proper.versioned
      exact .subset keys shows_infos

/-- The resolution that the report for registered types completes. -/
def resolveNames (r : Resolver) (names : List Datum) : Lookup Resolution := do
  let book ← r.metadataBook
  r.resolve none (.list names) true (some book)

theorem blames_resolveNames (r : Resolver) (names : List Datum) :
    (resolveNames r names).Blames r.sources :=
  r.blames_metadataBook.bind fun book => r.blames_resolve none (.list names) (some book)

theorem proper_resolveNames (r : Resolver) (names : List Datum) (calls : List Call) :
    (resolveNames r names).Returns calls fun resolution _ =>
      ∃ wanted : NameSet, wanted.IsNormalized ∧ resolution.IsProper wanted true := by
  have booked : r.metadataBook.Returns calls fun _ _ => True := by
    refine ((leads_ask _ _ _).returns.imp fun _ _ _ _ => trivial).orElse fun fault after => ?_
    exact (leads_warn _ after).returns.bind fun _ _ _ => returns_pure trivial
  refine booked.bind fun book calls _ => (leads_give _ calls).returns.bind ?_
  rintro wanted calls ⟨named, -⟩
  have normalized := NameSet.isNormalized_of_ofDatum named
  exact (proper_resolveWanted r none normalized (some book) calls).imp
    fun _ _ _ proper => ⟨wanted, normalized, proper⟩

theorem accounts_report (r : Resolver) (names : List Datum) {journal : Journal}
    (unnoted : journal.reached = none)
    (notes : record.Notes (r.report names journal).2.reached) :
    record.Accounts r (r.report names journal).2.calls .metadata
      ((r.report names journal).1.map .decisions) := by
  have same : r.report names = resolveNames r names >>= fun resolution => do
      reach resolution
      return completed resolution := by
    simp only [report, resolveNames, bind_assoc]
  rw [same] at notes ⊢
  rcases (blames_resolveNames r names).bind_cases _ journal unnoted with
    ⟨fault, after, failed, unnoted, blamed⟩ | ⟨resolution, after, returned, -, onward⟩
  · rw [failed] at notes ⊢
    exact accounts_unreached notes unnoted blamed
  · obtain ⟨wanted, normalized, proper⟩ :=
      (proper_resolveNames r names _ journal rfl).2 resolution (by rw [returned])
    rw [onward] at notes ⊢
    exact .metadata (notes.decisions_eq.trans (proper.sortedDecisions_eq normalized))
      (notes.unresolved_eq.trans (proper.unresolvedNames_eq normalized))

theorem accounts_metadata (r : Resolver) (notes : record.Notes r.metadata.start.2.reached) :
    record.Accounts r r.metadata.start.2.calls .metadata (r.metadata.start.1.map .decisions) := by
  rw [metadata_eq, start] at notes ⊢
  rcases r.blames_metadataNames.bind_cases _ {} rfl with
    ⟨fault, after, failed, unnoted, blamed⟩ | ⟨names, after, returned, unnoted, onward⟩
  · rw [failed] at notes ⊢
    exact accounts_unreached notes unnoted blamed
  · rw [onward] at notes ⊢
    cases names with
    | none =>
      -- without registered types nothing is resolved, and nothing is returned
      have nothing : record.Notes after.reached := notes
      rw [unnoted] at nothing
      exact .metadata nothing.decisions_eq nothing.unresolved_eq
    | some names => exact accounts_report r names unnoted notes

/-- Where no pin is invalid, none is renewed; else the renewed ones are those of the decisions. -/
theorem accounts_renewed {r : Resolver} {flow : Option Flow} {pins : OrderedMap Datum VersionInfo}
    {index : OrderedMap TypeKey VersionInfo} {invalid : List TypeKey} {checks made : List Call}
    (indexed : pinsByKey pins = .ok index)
    (scans : r.sources.Scans [] index.entries (.ok invalid) checks) {resolution : Resolution}
    (notes : record.Notes (some resolution))
    (proper : resolution.IsProper (NameSet.ofList (invalid.map TypeKey.text)) false)
    (complete : resolution.unresolved.isEmpty = true) :
    record.Accounts r made (.reconcile flow pins) (.ok (.versions
      ((resolution.versionInfos.foldl (fun pins entry => pins.put entry.1 entry.2) index).sortedBy
        TypeKey.text))) := by
  have normalized := NameSet.isNormalized_keys invalid
  have wants : ∀ key : TypeKey,
      key.text ∈ NameSet.ofList (invalid.map TypeKey.text) ↔ key ∈ invalid := by
    intro key
    rw [NameSet.mem_ofList, TypeKey.text_mem_map_iff]
  have merges := merges_of_names (fun key member => scans.pinned member)
    (proper.partitions.names_versionInfos normalized complete proper.versioned)
  have decisions : record.decisions = resolution.sortedDecisions := notes.decisions_eq
  have types : ∀ key, key ∈ record.decisions.map Prod.fst ↔ key ∈ invalid := by
    intro key
    rw [decisions, ← wants, List.mem_map]
    constructor
    · rintro ⟨entry, member, rfl⟩
      exact proper.partitions.decided _ _ (Resolution.mem_sortedDecisions.mp member)
    · intro wanted
      obtain ⟨decision, decided⟩ := proper.partitions.decided_of_isEmpty complete wanted
      exact ⟨(key, decision), Resolution.mem_sortedDecisions.mpr decided, rfl⟩
  refine .reconcile indexed ?_ ?_
  · intro key
    rw [types, scans.mem_iff]
  · intro entry member
    have renewed := (types entry.1).mp (List.mem_map_of_mem member)
    obtain ⟨info, listed, shown⟩ := (notes.shows_versionInfos proper.versioned).2 entry member
    exact ⟨info, (merges.replaced entry.1 renewed info).mpr listed, shown⟩

theorem accounts_reconcile (r : Resolver) (flow : Option Flow)
    {pins : OrderedMap Datum VersionInfo} {index : OrderedMap TypeKey VersionInfo}
    (indexed : pinsByKey pins = .ok index)
    (notes : record.Notes (r.reconcile flow index).start.2.reached) :
    record.Accounts r (r.reconcile flow index).start.2.calls (.reconcile flow pins)
      ((r.reconcile flow index).start.1.map .versions) := by
  have scans := (leads_invalidPins r [] index.entries {} rfl).2
  rw [reconcile, start] at notes ⊢
  rcases (r.blames_invalidPins index.entries).bind_cases _ {} rfl with
    ⟨fault, after, failed, unnoted, blamed⟩ | ⟨invalid, after, returned, unnoted, onward⟩
  · rw [failed] at notes ⊢
    exact accounts_unreached notes unnoted blamed
  · rw [onward] at notes ⊢
    rw [returned] at scans
    by_cases nothing : invalid.isEmpty = true
    · rw [if_pos nothing] at notes ⊢
      obtain rfl := List.isEmpty_iff.mp nothing
      have blank : record.Notes after.reached := notes
      rw [unnoted] at blank
      have decisions : record.decisions = [] := blank.decisions_eq
      refine .reconcile indexed ?_ ?_
      · intro key
        rw [decisions, ← scans.mem_iff]
        rfl
      · intro entry member
        rw [decisions] at member
        cases member
    · rw [if_neg nothing] at notes ⊢
      have concludes := r.concludes_subsetWanted flow (NameSet.isNormalized_keys invalid)
        (.ok NameSet.empty) after unnoted
      rw [bind_pure_apply] at notes ⊢
      revert notes concludes
      rcases r.subsetWanted flow (NameSet.ofList (invalid.map TypeKey.text)) (.ok NameSet.empty)
        after with ⟨result, journal⟩
      intro notes concludes
      cases concludes with
      | unreached unnoted blamed => exact accounts_unreached notes unnoted blamed
      | unread noted fails => cases fails
      | incomplete noted read =>
        cases read
        dsimp only at notes
        rw [noted] at notes
        exact .reconcileUnresolved notes.listed
      | complete noted read nothing proper =>
        cases read
        dsimp only at notes
        rw [noted] at notes
        rw [NameSet.diff_empty] at nothing
        exact accounts_renewed indexed scans notes proper nothing

theorem report_of_lookup {α : Type} {r : Resolver} {request : Request} {lookup : Lookup α}
    {reply : α → Reply} (same : request.lookup r = lookup >>= fun a => pure (reply a)) :
    request.report r = ⟨lookup.start.1.map reply, lookup.start.2⟩ := by
  unfold Request.report
  rw [same, start, bind_pure_apply]
  rfl

theorem accounts_request (r : Resolver) {request : Request} {operation : Operation}
    {flow : Option Flow} (recorded : request.recording = some (operation, flow))
    (notes : record.Notes (request.report r).journal.reached) :
    record.Accounts r (request.report r).journal.calls request (request.report r).answer := by
  cases request with
  | execution flow =>
    rw [show (Request.execution flow).report r = _ from report_of_lookup rfl] at notes ⊢
    exact accounts_execution r flow notes
  | metadata =>
    rw [show Request.metadata.report r = _ from report_of_lookup rfl] at notes ⊢
    exact accounts_metadata r notes
  | subset flow names exempt =>
    rw [show (Request.subset flow names exempt).report r = _ from report_of_lookup rfl] at notes ⊢
    exact accounts_subset r flow names exempt notes
  | reconcile flow pins =>
    cases indexed : pinsByKey pins with
    | error fault => simp [Request.recording, indexed, Except.toOption] at recorded
    | ok index =>
      have same : (Request.reconcile flow pins).lookup r =
          r.reconcile flow index >>= fun infos => pure (.versions infos) := by
        rw [Request.lookup, indexed]
        rfl
      rw [report_of_lookup same] at notes ⊢
      exact accounts_reconcile r flow indexed notes
  | resolve => cases recorded
  | exact => cases recorded

/-! ## Records -/

/-- The record of a request that ended so. -/
theorem describes_recordOf (id : Nat) (now : Instant) (operation : Operation) (flow : Option Flow)
    (resolution : Option Resolution) (answer : Except Fault Reply) :
    (History.recordOf id now (.text operation.name) flow resolution
      (match answer with
        | .ok _ => none
        | .error fault => some fault)).Describes now operation flow answer := by
  cases answer with
  | ok reply =>
    constructor
    case failed_iff => simp [status, History.recordOf]
    case resolved_iff => simp [status, History.recordOf]
    case fault_eq => rintro _ ⟨⟩
    all_goals first | rfl | exact fun _ _ => rfl
  | error fault =>
    constructor
    case failed_iff => simp [status, History.recordOf]
    case resolved_iff => simp [status, History.recordOf]
    case fault_eq =>
      rintro _ ⟨⟩
      rfl
    case unfaulted => rintro _ ⟨⟩
    all_goals rfl

/-- With room for one record at least, the new one is kept. -/
theorem latest_concat {α : Type} {limit : Int} (room : 1 ≤ limit) (items : List α) (item : α) :
    History.latest limit (items ++ [item]) = History.latest (limit - 1) items ++ [item] := by
  unfold History.latest
  have kept : (items ++ [item]).length - limit.toNat = items.length - (limit - 1).toNat := by
    rw [List.length_append, List.length_singleton]
    omega
  rw [kept, List.drop_append_of_le_length (Nat.sub_le _ _)]

end HistoryRecord

/-- **A record agrees with what the caller was given.** Whatever the sources answer, a request that
is recorded leaves exactly one record, under the next id, and is met as it is without a recorder.
The record tells how the request ended, and what it says of types agrees with what was returned, or
with the fault. -/
theorem Recorder.meet_accounts (recorder : Recorder) {history : History} {limit : Int}
    (held : recorder.history = some history) (working : recorder.refusal = none)
    (limited : history.limit = .int limit) (room : 1 ≤ limit) (now : Instant) (r : Resolver)
    (request : Request) {operation : Operation} {flow : Option Flow}
    (recorded : request.recording = some (operation, flow)) :
    ∃ record : HistoryRecord,
      recorder.meet now r request =
        (request.report r, { recorder with history := some { history with
          nextId := history.nextId + 1
          records := History.latest (limit - 1) history.records ++ [record] } }) ∧
      record.id = history.nextId ∧
      record.Describes now operation flow (request.report r).answer ∧
      record.Accounts r (request.report r).journal.calls request (request.report r).answer := by
  refine ⟨History.recordOf history.nextId now (.text operation.name) flow
    (request.report r).journal.reached (match (request.report r).answer with
      | .ok _ => none
      | .error fault => some fault), ?_, rfl, HistoryRecord.describes_recordOf _ _ _ _ _ _,
    HistoryRecord.accounts_request r recorded ⟨rfl, rfl⟩⟩
  unfold Recorder.meet
  rw [recorded]
  simp only [Recorder.run, Recorder.record, held, Recorder.offer, working, History.add,
    History.keep, limited, History.dropOldest_int, HistoryRecord.latest_concat room,
    List.append_nil]
  unfold Request.report
  rcases (request.lookup r).start with ⟨answer, journal⟩
  cases answer <;> rfl

/-- A recorder with room for one record. -/
def narrowRecorder : Recorder where
  history := some { limit := .int 1 }

def wornResolver : Resolver :=
  Resolver.wornCatalog.resolver (fun _ => .ok (.int 10)) .null

def wornRequest : Request :=
  .reconcile (some Resolver.nightly) (versionSet Resolver.wornPins)

theorem Recorder.meet_accounts_worn :
    narrowRecorder.history = some { limit := .int 1 } ∧ narrowRecorder.refusal = none ∧
    (1 : Int) ≤ 1 ∧ wornRequest.recording = some (.reconcile, some Resolver.nightly) ∧
    ∃ record : HistoryRecord,
      (narrowRecorder.meet ⟨0⟩ wornResolver wornRequest).2.history =
        some { limit := .int 1, nextId := 2, records := [record] } ∧
      record.id = 1 ∧ record.status = "resolved" ∧
      record.decisions.map (fun entry => entry.1.text) = ["etl"] := by
  refine ⟨rfl, rfl, Int.le_refl 1, rfl, ?_⟩
  obtain ⟨record, met, id_eq, describes, -⟩ := narrowRecorder.meet_accounts rfl rfl rfl
    (Int.le_refl 1) ⟨0⟩ wornResolver wornRequest rfl
  have answered : ∃ reply, (wornRequest.report wornResolver).answer = .ok reply :=
    Fallible.exists_ok_of_isSome (by decide +kernel)
  have decided : ((narrowRecorder.meet ⟨0⟩ wornResolver wornRequest).2.history.map fun history =>
      history.records.map fun record => record.decisions.map fun entry => entry.1.text) =
        some [["etl"]] := by
    decide +kernel
  rw [met] at decided ⊢
  refine ⟨record, rfl, id_eq, describes.resolved_iff.mpr answered, ?_⟩
  simpa [History.latest] using decided

end Rollout

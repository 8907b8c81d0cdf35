import Rollout.History.Recorder
import Rollout.Proofs.Lookup.InStep
import Rollout.Proofs.Plan.Book
import Rollout.Proofs.Plan.Shares
import Rollout.Proofs.Resolution.Deciding

/-!
# Requests for metadata

A request for metadata takes a source that fails for one that found nothing: it runs in step with
the same request over **quieted** sources, where every fault is replaced by the empty answer. So it
never fails, and answers what it would have answered over them (`metadata_quieted`). Nothing is
assumed of the sources but that their answers are of the declared kinds; an answer may depend on
all calls made before.

The invariant that the tiers carry (`Carries`) is that the wanted names are decided or unresolved,
and that every decision has a version.
-/

namespace Rollout

/-- The sources with the empty answer in place of every fault of the look-ups that metadata is made
of. -/
def Sources.quieted (s : Sources) : Sources :=
  { s with
    imageTypes := fun calls => Lookup.answered (s.imageTypes calls) []
    findVersions := fun calls name label =>
      Lookup.answered (s.findVersions calls name label) (some [])
    activeVersions := fun calls names => Lookup.answered (s.activeVersions calls names) (some [])
    latestVersions := fun calls names => Lookup.answered (s.latestVersions calls names) (some [])
    allPlans := fun calls => Lookup.answered (s.allPlans calls) OrderedMap.empty }

/-- A plan book has names that are texts, and plans with integer percentages. -/
def PlanBook.IsTyped (book : PlanBook) : Prop :=
  ∀ entry ∈ book.entries, (∃ name, entry.1 = .text name) ∧
    ∀ plan : Plan, entry.2 = some plan → plan.IsWhole

/-- The types of versions that were found, if any, are named by texts. -/
def AreKeyed (versions : Option (List ImageVersion)) : Prop :=
  ∀ v ∈ versions.getD [], ∃ name, v.imageType = .text name

/-- What the sources answer, when they do, is of the declared kinds. -/
structure Sources.WellTyped (s : Sources) : Prop where
  imageTypes : ∀ calls types, s.imageTypes calls = .ok types →
    ∃ names : List String, types.map ImageType.name = names.map .text
  allPlans : ∀ calls book, s.allPlans calls = .ok book → book.IsTyped
  activeVersions : ∀ calls names versions, s.activeVersions calls names = .ok versions →
    AreKeyed versions
  latestVersions : ∀ calls names versions, s.latestVersions calls names = .ok versions →
    AreKeyed versions

namespace Resolver

/-- The resolver over the quieted sources. -/
def quieted (r : Resolver) : Resolver :=
  { r with sources := r.sources.quieted }

/-! ## One type -/

/-- The candidate that an answer holds for the name and label, if any. -/
def candidate (name label : Datum) (answer : Except Fault (Option (List ImageVersion))) :
    Option ImageVersion :=
  (Fallible.find? (·.isNamed name label) (answer.toOption.join.getD [])).toOption.join

/-- A fault holds as little as the empty answer. -/
theorem candidate_answered (name label : Datum)
    (answer : Except Fault (Option (List ImageVersion))) :
    candidate name label (Lookup.answered answer (some [])) = candidate name label answer := by
  cases answer <;> rfl

theorem exactVersion_apply (r : Resolver) (name label : Datum) (journal : Journal) :
    (r.exactVersion name label journal).1.toOption =
        candidate name label (r.sources.findVersions journal.calls name label) ∧
      (r.exactVersion name label journal).2 =
        { journal with calls := journal.calls ++ [.findVersions name label] } := by
  rw [exactVersion, Fallible.bind_apply, Lookup.ask, candidate]
  cases r.sources.findVersions journal.calls name label with
  | error fault => exact ⟨rfl, rfl⟩
  | ok found =>
    dsimp only [Except.toOption, Option.join_some]
    rw [Fallible.bind_apply, Lookup.give]
    cases Fallible.find? (·.isNamed name label) (found.getD []) with
    | error fault => exact ⟨rfl, rfl⟩
    | ok version => cases version <;> exact ⟨rfl, rfl⟩

/-- An entry chooses the candidate that is found for it, or passes the type on. -/
theorem chooseEntry_apply (r : Resolver) (key : TypeKey) (entry : PlanEntry) (plan : Plan)
    (journal : Journal) :
    (r.chooseEntry true key entry plan journal).1 =
        .ok (match candidate (.text key.text) entry.version
            (r.sources.findVersions journal.calls (.text key.text) entry.version) with
          | some version => .chosen version plan
          | none => .passed) ∧
      (r.chooseEntry true key entry plan journal).2.calls =
        journal.calls ++ [.findVersions (.text key.text) entry.version] := by
  have looked := exactVersion_apply r (.text key.text) entry.version journal
  rw [chooseEntry, if_pos rfl, Lookup.orElse, Fallible.bind_apply]
  revert looked
  rcases r.exactVersion (.text key.text) entry.version journal with ⟨result, after⟩
  rintro ⟨found, rfl⟩
  rw [← found]
  cases result <;> exact ⟨rfl, rfl⟩

/-- Without a flow no rule takes a type away from its plan. -/
def Unbarred (outcome outcome' : RampupOutcome) : Prop :=
  outcome = outcome' ∧ ∀ entry plan, outcome ≠ .excluded entry plan

theorem inStep_chooseEntry (r : Resolver) (key : TypeKey) (entry : PlanEntry) (plan : Plan) :
    Lookup.InStep Unbarred (r.chooseEntry true key entry plan)
      (r.quieted.chooseEntry true key entry plan) := by
  intro journal journal' same
  have left := chooseEntry_apply r key entry plan journal
  have right := chooseEntry_apply r.quieted key entry plan journal'
  rw [← same] at right
  have found : candidate (.text key.text) entry.version
      (r.quieted.sources.findVersions journal.calls (.text key.text) entry.version) =
      candidate (.text key.text) entry.version
        (r.sources.findVersions journal.calls (.text key.text) entry.version) :=
    candidate_answered _ _ _
  rw [found] at right
  refine ⟨_, _, left.1, right.1, ⟨rfl, ?_⟩, left.2.trans right.2.symm⟩
  intro other plan'
  split <;> nofun

/-- A plan of integers is walked in some order, or skipped. -/
theorem walkOrder_apply (r : Resolver) (key : TypeKey) {stored : Plan} (whole : stored.IsWhole) :
    ∃ walked, ∀ journal : Journal, (r.walkOrder true key stored journal).1 = .ok walked ∧
      (r.walkOrder true key stored journal).2.calls = journal.calls := by
  have settled : ∀ (step : Except Fault Plan × List Notice) (journal : Journal),
      Lookup.settle step journal =
        (step.1, { journal with notices := journal.notices ++ step.2 }) := fun _ _ => rfl
  rcases Plan.order_whole whole (.text key.text) (.ofName r.planOrder) with
    ⟨flaw, refused⟩ | ⟨-, walked, ordered, -⟩
  · refine ⟨[], fun journal => ?_⟩
    rw [walkOrder, Lookup.orElse, settled, refused]
    exact ⟨rfl, rfl⟩
  · refine ⟨walked, fun journal => ?_⟩
    rw [walkOrder, Lookup.orElse, settled, ordered]
    exact ⟨rfl, rfl⟩

theorem inStep_walkOrder (r : Resolver) (key : TypeKey) {stored : Plan} (whole : stored.IsWhole) :
    Lookup.InStep Eq (r.walkOrder true key stored) (r.quieted.walkOrder true key stored) := by
  obtain ⟨walked, applied⟩ := walkOrder_apply r key whole
  intro journal journal' same
  have left := applied journal
  have right := applied journal'
  exact ⟨walked, walked, left.1, right.1, rfl, left.2.trans (same.trans right.2.symm)⟩

theorem inStep_rampupType (r : Resolver) (key : TypeKey) {stored : Plan}
    (whole : stored.IsWhole) :
    Lookup.InStep Unbarred (r.rampupType true none key stored)
      (r.quieted.rampupType true none key stored) := by
  refine (inStep_walkOrder r key whole).bind ?_
  rintro plan _ rfl
  cases plan with
  | nil => exact Lookup.inStep_pure ⟨rfl, nofun⟩
  | cons head tail =>
    cases stored with
    | nil => exact Lookup.inStep_pure ⟨rfl, nofun⟩
    | cons first rest => exact inStep_chooseEntry r key first (head :: tail)

theorem inStep_rampupTypes (r : Resolver) {plans : List (TypeKey × Plan)}
    (whole : ∀ plan ∈ plans, plan.2.IsWhole) :
    Lookup.InStep
      (fun outcomes outcomes' => outcomes = outcomes' ∧
        outcomes.map Prod.fst = plans.map Prod.fst ∧ excludedTypes outcomes = [])
      (r.rampupTypes true none plans) (r.quieted.rampupTypes true none plans) := by
  induction plans with
  | nil => exact Lookup.inStep_pure ⟨rfl, rfl, rfl⟩
  | cons plan rest ih =>
    refine (inStep_rampupType r plan.1 (whole plan List.mem_cons_self)).bind ?_
    rintro outcome _ ⟨rfl, unbarred⟩
    refine (ih fun other member => whole other (List.mem_cons_of_mem _ member)).bind ?_
    rintro outcomes _ ⟨rfl, keys, nothing⟩
    refine Lookup.inStep_pure ⟨rfl, by rw [List.map_cons, List.map_cons, keys], ?_⟩
    rw [excludedTypes_eq] at nothing ⊢
    cases outcome with
    | excluded entry plan => exact absurd rfl (unbarred entry plan)
    | _ => exact nothing

/-! ## The tiers -/

/-- The wanted names are decided or unresolved, and every decision has a version. -/
structure Carries (wanted : NameSet) (resolution : Resolution) : Prop where
  partitions : resolution.Partitions wanted
  versioned : ∀ key decision, resolution.decisions.find? key = some decision →
    ∃ version, decision.version = some version

theorem carries_start (wanted : NameSet) : Carries wanted { unresolved := wanted } := by
  refine ⟨Resolution.partitions_start wanted .null, ?_⟩
  intro key decision found
  rw [OrderedMap.find?_empty] at found
  cases found

/-- The same resolution, which carries the wanted names. -/
def Carried (wanted : NameSet) (resolution resolution' : Resolution) : Prop :=
  resolution = resolution' ∧ Carries wanted resolution

theorem Carries.decideAll {wanted : NameSet} {resolution : Resolution}
    (carries : Carries wanted resolution) (normalized : wanted.IsNormalized)
    {decisions : List (TypeKey × Decision)}
    (members : ∀ decision ∈ decisions, decision.1.text ∈ wanted)
    (versions : ∀ decision ∈ decisions, ∃ version, decision.2.version = some version) :
    Carries wanted (resolution.decideAll decisions) := by
  constructor
  · exact carries.partitions.decideAll normalized members
  · exact Resolution.forall_decideAll carries.versioned versions

/-- The plans of an index are those of wanted types, with integer percentages. -/
def IndexTyped (wanted : NameSet) (index : OrderedMap TypeKey Plan) : Prop :=
  ∀ key plan, index.find? key = some plan → key.text ∈ wanted ∧ plan.IsWhole

theorem inStep_rampupTier (r : Resolver) {wanted : NameSet} (normalized : wanted.IsNormalized)
    {index : OrderedMap TypeKey Plan} (typed : IndexTyped wanted index) :
    Lookup.InStep (Carried wanted)
      (r.rampupTier true none index { unresolved := wanted })
      (r.quieted.rampupTier true none index { unresolved := wanted }) := by
  have start := carries_start wanted
  have stored : ∀ plan ∈ index.sortedBy TypeKey.text, plan.1.text ∈ wanted ∧ plan.2.IsWhole :=
    fun plan member => typed plan.1 plan.2 (OrderedMap.mem_sortedBy.mp member)
  rw [rampupTier, rampupTier]
  split
  · exact Lookup.inStep_pure ⟨rfl, start⟩
  · have placed : Lookup.InStep (fun place place' => place = none ∧ place' = none)
        (r.place none) (r.quieted.place none) := Lookup.inStep_pure ⟨rfl, rfl⟩
    refine placed.bind ?_
    rintro _ _ ⟨rfl, rfl⟩
    refine (inStep_rampupTypes r fun plan member => (stored plan member).2).bind ?_
    rintro outcomes _ ⟨rfl, keys, nothing⟩
    rw [nothing]
    refine Lookup.inStep_pure ⟨rfl, ?_⟩
    rw [takeChosen_eq]
    refine start.decideAll normalized ?_ ?_
    · intro decision member
      obtain ⟨outcome, among, -⟩ := OrderedMap.mem_filterMap_entry.mp member
      have listed : decision.1 ∈ (index.sortedBy TypeKey.text).map Prod.fst := by
        rw [← keys]
        exact List.mem_map_of_mem (f := Prod.fst) among
      obtain ⟨plan, planned, same⟩ := List.mem_map.mp listed
      rw [← same]
      exact (stored plan planned).1
    · intro decision member
      obtain ⟨outcome, -, made⟩ := OrderedMap.mem_filterMap_entry.mp member
      cases outcome with
      | chosen version plan =>
        have same := Option.some.inj made
        exact ⟨version, by rw [← same]⟩
      | _ => cases made

/-- Versions that are found by the same answer, up to the empty one, and can be indexed. -/
def Found (versions versions' : Option (List ImageVersion)) : Prop :=
  versions.getD [] = versions'.getD [] ∧ AreKeyed versions

theorem inStep_takeFirst (selection : Selection) {wanted : NameSet}
    (normalized : wanted.IsNormalized) {resolution : Resolution}
    (carries : Carries wanted resolution) {versions versions' : Option (List ImageVersion)}
    (found : Found versions versions') :
    Lookup.InStep (Carried wanted) (Lookup.give (takeFirst selection resolution versions))
      (Lookup.give (takeFirst selection resolution versions')) := by
  obtain ⟨same, keyed⟩ := found
  have keys : ∀ v ∈ versions.getD [], ∃ key, v.key = .ok key := by
    intro v member
    obtain ⟨name, is_text⟩ := keyed v member
    exact ⟨.ofName name, by rw [ImageVersion.key, is_text, TypeKey.ofDatum_text]⟩
  obtain ⟨first, indexed⟩ := firstByKey_total keys resolution.unresolved
  have taken : takeFirst selection resolution versions =
      .ok (resolution.decideAll (firstDecisions selection first)) := by
    rw [takeFirst_eq, indexed]
    rfl
  -- no version found and the empty list are taken alike
  have taken' : takeFirst selection resolution versions' =
      .ok (resolution.decideAll (firstDecisions selection first)) := by
    rw [takeFirst_eq, ← same, indexed]
    rfl
  have wants := wanted_of_firstDecisions selection carries.partitions indexed
  refine Lookup.inStep_give taken taken' ⟨rfl, carries.decideAll normalized wants ?_⟩
  intro decision member
  obtain ⟨⟨key, version⟩, -, rfl⟩ := List.mem_map.mp member
  exact ⟨version, rfl⟩

theorem inStep_activeTier (r : Resolver) (typed : r.sources.WellTyped) {wanted : NameSet}
    (normalized : wanted.IsNormalized) {resolution : Resolution}
    (carries : Carries wanted resolution) :
    Lookup.InStep (Carried wanted) (r.activeTier true resolution)
      (r.quieted.activeTier true resolution) := by
  rw [activeTier, activeTier]
  split
  · exact Lookup.inStep_pure ⟨rfl, carries⟩
  · have fetched : Lookup.InStep Found (r.fetchActive true resolution.unresolved)
        (r.quieted.fetchActive true resolution.unresolved) :=
      Lookup.inStep_caught _ _ _
        (fun calls versions found => ⟨rfl, typed.activeVersions calls _ versions found⟩)
        ⟨rfl, nofun⟩
    exact fetched.bind fun versions versions' found =>
      inStep_takeFirst .active normalized carries found

theorem inStep_nonActiveTier (r : Resolver) (typed : r.sources.WellTyped) {wanted : NameSet}
    (normalized : wanted.IsNormalized) {resolution : Resolution}
    (carries : Carries wanted resolution) :
    Lookup.InStep (Carried wanted) (r.nonActiveTier resolution)
      (r.quieted.nonActiveTier resolution) := by
  rw [nonActiveTier, nonActiveTier]
  split
  · exact Lookup.inStep_pure ⟨rfl, carries⟩
  · refine Lookup.InStep.bind (show Lookup.InStep Found _ _ from Lookup.inStep_caught _ _ _
      (fun calls versions found => ⟨rfl, typed.latestVersions calls _ versions found⟩)
      ⟨rfl, nofun⟩) ?_
    exact fun versions versions' found => inStep_takeFirst .nonActive normalized carries found

/-! ## All tiers -/

theorem indexEntry_typed {wanted : NameSet} {index : OrderedMap TypeKey Plan × List Notice}
    (typed : IndexTyped wanted index.1) (key : TypeKey) (name : Datum) {plan : Plan}
    (whole : plan.IsWhole) :
    IndexTyped wanted (PlanBook.indexEntry wanted index key name plan).1 := by
  intro other stored found
  rcases PlanBook.find?_of_indexEntry found with old | ⟨rfl, wants, rfl⟩
  · exact typed other stored old
  · exact ⟨wants, whole⟩

/-- A typed book is indexed without fault. -/
theorem indexEntries_typed {wanted : NameSet} {entries : List (Datum × Option Plan)}
    (typed : ∀ entry ∈ entries, (∃ name, entry.1 = .text name) ∧
      ∀ plan : Plan, entry.2 = some plan → plan.IsWhole)
    {index : OrderedMap TypeKey Plan × List Notice} (start : IndexTyped wanted index.1) :
    ∃ next, (PlanBook.indexEntries wanted index entries).1 = .ok next ∧
      IndexTyped wanted next := by
  induction entries generalizing index with
  | nil => exact ⟨index.1, rfl, start⟩
  | cons entry rest ih =>
    obtain ⟨given, plan⟩ := entry
    obtain ⟨⟨name, is_text⟩, whole⟩ := typed (given, plan) List.mem_cons_self
    obtain rfl : given = .text name := is_text
    rw [PlanBook.indexEntries, TypeKey.ofDatum_text]
    refine ih (fun other member => typed other (List.mem_cons_of_mem _ member)) ?_
    refine indexEntry_typed start _ _ ?_
    cases plan with
    | none => rintro _ ⟨⟩
    | some plan => exact whole plan rfl

theorem indexed_typed {book : PlanBook} (typed : book.IsTyped) (wanted : NameSet) :
    ∃ index, (book.indexed wanted).1 = .ok index ∧ IndexTyped wanted index := by
  refine indexEntries_typed typed ?_
  intro key plan found
  rw [OrderedMap.find?_empty] at found
  cases found

theorem inStep_resolveWanted (r : Resolver) (typed : r.sources.WellTyped) {wanted : NameSet}
    (normalized : wanted.IsNormalized) {book : PlanBook} (book_typed : book.IsTyped) :
    Lookup.InStep (Carried wanted) (r.resolveWanted none wanted true (some book))
      (r.quieted.resolveWanted none wanted true (some book)) := by
  rw [resolveWanted, resolveWanted]
  split
  · exact Lookup.inStep_pure ⟨rfl, carries_start wanted⟩
  · have booked : Lookup.InStep (fun given given' => given = book ∧ given' = book)
        (r.bookFor true wanted (some book)) (r.quieted.bookFor true wanted (some book)) :=
      Lookup.inStep_pure ⟨rfl, rfl⟩
    refine booked.bind ?_
    rintro given given' ⟨same, same'⟩
    rw [same, same']
    obtain ⟨index, indexed, index_typed⟩ := indexed_typed book_typed wanted
    have settled : Lookup.InStep (fun given given' => given = index ∧ given' = index)
        (Lookup.settle (PlanBook.indexed book wanted))
        (Lookup.settle (PlanBook.indexed book wanted)) :=
      Lookup.inStep_settle indexed ⟨rfl, rfl⟩
    refine settled.bind ?_
    rintro _ _ ⟨rfl, rfl⟩
    refine (inStep_rampupTier r normalized index_typed).bind ?_
    rintro ramped _ ⟨rfl, carries⟩
    refine (inStep_activeTier r typed normalized carries).bind ?_
    rintro active _ ⟨rfl, carries⟩
    exact inStep_nonActiveTier r typed normalized carries

/-! ## Metadata -/

/-- Every wanted name has one entry, in ascending order, and the entry has a version or says that
there is none. -/
theorem completed_spec {wanted : NameSet} (normalized : wanted.IsNormalized)
    {resolution : Resolution} (carries : Carries wanted resolution) :
    (completed resolution).map (fun entry => entry.1.text) = wanted.toList ∧
    ∀ entry ∈ completed resolution,
      entry.2 = .noVersion ∨ ∃ version, entry.2.version = some version := by
  refine ⟨names_completed normalized carries.partitions, ?_⟩
  intro entry member
  obtain ⟨-, same⟩ := (mem_completed normalized carries.partitions).mp member
  cases decided : resolution.decisions.find? entry.1 with
  | none =>
    rw [decided] at same
    exact .inl same
  | some decision =>
    rw [decided] at same
    rw [same]
    exact .inr (carries.versioned _ _ decided)

/-- What a report for registered types comes to. -/
def Reports (names : List String) (mapping mapping' : List (TypeKey × Decision)) : Prop :=
  mapping = mapping' ∧
    mapping.map (fun entry => entry.1.text) = (NameSet.normalized names).toList ∧
    ∀ entry ∈ mapping, entry.2 = .noVersion ∨ ∃ version, entry.2.version = some version

/-- A request for metadata once the registered names are known. -/
def report (r : Resolver) (names : List Datum) : Lookup (List (TypeKey × Decision)) := do
  let book ← r.metadataBook
  let resolution ← r.resolve none (.list names) true (some book)
  Lookup.reach resolution
  return completed resolution

theorem metadata_eq (r : Resolver) :
    r.metadata = (do
      match ← r.metadataNames with
      | none => return []
      | some names => r.report names) := rfl

theorem metadataNames_apply (r : Resolver) :
    (r.metadataNames {}).1 = .ok ((r.sources.imageTypes []).toOption.map
        fun types => types.map ImageType.name) ∧
      (r.metadataNames {}).2.calls = [.imageTypes] := by
  rw [metadataNames, typeNames, Lookup.orElse, Fallible.bind_apply, Fallible.bind_apply, Lookup.ask]
  cases r.sources.imageTypes [] <;> exact ⟨rfl, rfl⟩

/-- The answer without registered names. -/
theorem metadata_unlisted {r : Resolver} {fault : Fault}
    (failed : r.sources.imageTypes [] = .error fault) : r.metadata.start.1 = .ok [] := by
  have names := (metadataNames_apply r).1
  rw [failed] at names
  rw [metadata_eq, Lookup.start, Fallible.bind_apply]
  revert names
  rcases r.metadataNames {} with ⟨result, after⟩
  rintro ⟨⟩
  rfl

/-- The answer for registered names is the report, made after they were asked for. -/
theorem metadata_listed {r : Resolver} {types : List ImageType}
    (listed : r.sources.imageTypes [] = .ok types) :
    ∃ after : Journal, after.calls = [.imageTypes] ∧
      r.metadata.start.1 = (r.report (types.map ImageType.name) after).1 := by
  obtain ⟨names, calls⟩ := metadataNames_apply r
  rw [listed] at names
  rw [metadata_eq, Lookup.start, Fallible.bind_apply]
  revert names calls
  rcases r.metadataNames {} with ⟨result, after⟩
  rintro ⟨⟩ calls
  exact ⟨after, calls, rfl⟩

theorem inStep_report (r : Resolver) (typed : r.sources.WellTyped) (names : List String) :
    Lookup.InStep (Reports names) (r.report (names.map .text))
      (r.quieted.report (names.map .text)) := by
  have booked : Lookup.InStep (fun book book' => book = book' ∧ PlanBook.IsTyped book)
      r.metadataBook r.quieted.metadataBook :=
    Lookup.inStep_caught _ _ _ (fun calls book found => ⟨rfl, typed.allPlans calls book found⟩)
      ⟨rfl, nofun⟩
  refine booked.bind ?_
  rintro book _ ⟨rfl, book_typed⟩
  have normalized := NameSet.isNormalized_normalized names
  have given : Lookup.InStep
      (fun wanted wanted' => wanted = NameSet.normalized names ∧
        wanted' = NameSet.normalized names)
      (Lookup.give (NameSet.ofDatum (.list (names.map .text))))
      (Lookup.give (NameSet.ofDatum (.list (names.map .text)))) :=
    Lookup.inStep_give (NameSet.ofDatum_texts rfl) (NameSet.ofDatum_texts rfl) ⟨rfl, rfl⟩
  have resolved : Lookup.InStep (Carried (NameSet.normalized names))
      (r.resolve none (.list (names.map .text)) true (some book))
      (r.quieted.resolve none (.list (names.map .text)) true (some book)) := by
    refine given.bind ?_
    rintro _ _ ⟨rfl, rfl⟩
    exact inStep_resolveWanted r typed normalized book_typed
  refine resolved.bind ?_
  rintro resolution _ ⟨rfl, carries⟩
  refine (Lookup.inStep_reach resolution resolution).bind fun _ _ _ => ?_
  exact Lookup.inStep_pure ⟨rfl, completed_spec normalized carries⟩

/-- **Metadata never fails, and a source that fails counts as one that found nothing.** -/
theorem metadata_quieted {s : Sources} (typed : s.WellTyped) (planOrder : Datum) :
    ∃ mapping,
      (∀ (recorder : Recorder) (now : Instant),
        (recorder.run now .metadata none (Resolver.mk s planOrder).metadata).1 = .ok mapping) ∧
      (∀ (recorder : Recorder) (now : Instant),
        (recorder.run now .metadata none (Resolver.mk s.quieted planOrder).metadata).1 =
          .ok mapping) ∧
      ∀ (types : List ImageType) (names : List String), s.imageTypes [] = .ok types →
        types.map ImageType.name = names.map .text →
        mapping.map (fun entry => entry.1.text) = (NameSet.normalized names).toList ∧
        ∀ entry ∈ mapping, entry.2 = .noVersion ∨ ∃ version, entry.2.version = some version := by
  have reported := fun names => inStep_report (Resolver.mk s planOrder) typed names
  cases listed : s.imageTypes [] with
  | error fault =>
    -- the quieted sources list no type, and the report is as empty as without one
    have quieted_listed : (Resolver.mk s planOrder).quieted.sources.imageTypes [] = .ok [] := by
      rw [quieted, Sources.quieted]
      dsimp only
      rw [listed]
      rfl
    obtain ⟨after, -, answers⟩ := metadata_listed quieted_listed
    obtain ⟨mapping, _, -, right, ⟨rfl, keys, -⟩, -⟩ := reported [] after after rfl
    obtain rfl : mapping = [] := List.map_eq_nil_iff.mp keys
    refine ⟨[], fun _ _ => metadata_unlisted listed, fun _ _ => answers.trans right, ?_⟩
    intro types names found
    cases found
  | ok types =>
    obtain ⟨names, texts⟩ := typed.imageTypes [] types listed
    have quieted_listed : (Resolver.mk s planOrder).quieted.sources.imageTypes [] = .ok types := by
      rw [quieted, Sources.quieted]
      dsimp only
      rw [listed]
      rfl
    obtain ⟨after, calls, answers⟩ := metadata_listed (r := Resolver.mk s planOrder) listed
    obtain ⟨after', calls', answers'⟩ := metadata_listed quieted_listed
    -- both runs report on the same names, with the same calls behind them
    obtain ⟨mapping, _, left, right, ⟨rfl, spec⟩, -⟩ :=
      reported names after after' (calls.trans calls'.symm)
    rw [← texts] at left right
    refine ⟨mapping, fun _ _ => answers.trans left, fun _ _ => answers'.trans right, ?_⟩
    intro types' names' found texts'
    cases found
    obtain rfl : names = names' := by
      have same := texts.symm.trans texts'
      exact (List.map_inj_right fun _ _ => Datum.text.inj).mp same
    exact spec

/-- Sources that list a type and fail otherwise. -/
def outageSources : Sources :=
  let down := Fault.outage "down"
  { imageTypes := fun _ => .ok [{ name := .text "ML" }]
    findVersions := fun _ _ _ => .error down
    activeVersions := fun _ _ => .error down
    latestVersions := fun _ _ => .error down
    isInvalid := fun _ _ _ => .error down
    allPlans := fun _ => .error down
    plansFor := fun _ _ => .error down
    isExcluded := fun _ _ _ _ => (.error down, [])
    bucketOf := fun _ _ => .error down }

theorem wellTyped_outageSources : outageSources.WellTyped where
  imageTypes := by
    intro calls types listed
    cases listed
    exact ⟨["ML"], rfl⟩
  allPlans := nofun
  activeVersions := nofun
  latestVersions := nofun

theorem metadata_quieted_outage : outageSources.WellTyped ∧ ∃ mapping,
    (Recorder.run {} ⟨0⟩ .metadata none
      (Resolver.mk outageSources .null).metadata).1 = .ok mapping ∧
    mapping.map (fun entry => entry.1.text) = ["ml"] := by
  refine ⟨wellTyped_outageSources, ?_⟩
  obtain ⟨mapping, answers, -, spec⟩ := metadata_quieted wellTyped_outageSources .null
  refine ⟨mapping, answers {} ⟨0⟩, ?_⟩
  have keys := (spec _ ["ML"] rfl rfl).1
  rw [keys]
  decide +kernel

end Resolver

end Rollout

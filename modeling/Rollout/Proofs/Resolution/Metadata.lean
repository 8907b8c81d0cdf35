import Rollout.Proofs.Catalog.Log
import Rollout.Proofs.Lookup.Leads
import Rollout.Proofs.Resolution.Execution
import Rollout.Proofs.Resolution.Questions

/-!
# Metadata over a catalog

A request for metadata gives every registered type what the reference for one type says
(`Chooses`): the version that the first stored entry of its plan names, if the plan is let through
and the catalog holds that version; else the latest ACTIVE version; else the version added last;
else nothing, which happens to the types that no version was ever added to. The main statement is
`metadata_chooses`.

There is no flow, so neither the bucket function nor the evaluator is asked, whatever the sources
(`metadata_asks`).
-/

namespace Rollout

namespace Catalog

variable {c : Catalog} {policy : WalkPolicy} {key : TypeKey}

/-! ## The reference for one type -/

/-- The plan of the type offers the version: the first stored entry names it, and the plan is let
through under the policy. -/
structure Offers (c : Catalog) (policy : WalkPolicy) (key : TypeKey) (version : ImageVersion) :
    Prop where
  first : ∃ entry, (c.planOf key).head? = some entry ∧ c.Holds key entry.version version
  sound : (c.planOf key).IsSound
  ascends : policy = .reject → (c.planOf key).Ascends

/-- The decision for the type. -/
inductive Chooses (c : Catalog) (policy : WalkPolicy) (key : TypeKey) : Decision → Prop where
  | rampup {version : ImageVersion} {walked : Plan} (offers : c.Offers policy key version)
      (walks : c.Walks policy key walked) :
      Chooses c policy key { version := some version, selection := .rampup, plan := walked }
  | active {version : ImageVersion} (nothing : ∀ version, ¬ c.Offers policy key version)
      (latest : c.LatestActive key version) :
      Chooses c policy key { version := some version, selection := .active, plan := [] }
  | nonActive {version : ImageVersion} (nothing : ∀ version, ¬ c.Offers policy key version)
      (idle : ∀ version, ¬ c.LatestActive key version)
      (last : (c.versionsOf key).getLast? = some version) :
      Chooses c policy key { version := some version, selection := .nonActive, plan := [] }
  | noVersion (empty : c.versionsOf key = []) : Chooses c policy key .noVersion

theorem Offers.unique (kept : c.WellKept) {version version' : ImageVersion}
    (left : c.Offers policy key version) (right : c.Offers policy key version') :
    version = version' := by
  obtain ⟨entry, first, holds⟩ := left.first
  obtain ⟨entry', first', holds'⟩ := right.first
  obtain rfl := Option.some.inj (first.symm.trans first')
  exact holds.unique kept holds'

/-- A type without a plan is offered nothing. -/
theorem not_offers_of_no_plan (missing : c.planOf key = []) (version : ImageVersion) :
    ¬ c.Offers policy key version := by
  intro offers
  obtain ⟨entry, first, -⟩ := offers.first
  rw [missing] at first
  cases first

/-- Without a version no case but the last one applies. -/
theorem Chooses.eq_noVersion {decision : Decision} (chooses : c.Chooses policy key decision)
    (empty : c.versionsOf key = []) : decision = .noVersion := by
  cases chooses with
  | rampup offers =>
    obtain ⟨entry, -, member, -⟩ := offers.first
    rw [empty] at member
    cases member
  | active _ latest =>
    obtain ⟨before, after, whole, -⟩ := latest
    rw [empty] at whole
    simp at whole
  | nonActive _ _ last =>
    rw [empty] at last
    cases last
  | noVersion => rfl

theorem Chooses.unique (kept : c.WellKept) {a b : Decision} (left : c.Chooses policy key a)
    (right : c.Chooses policy key b) : a = b := by
  cases left with
  | noVersion empty => exact (right.eq_noVersion empty).symm
  | rampup offers walks =>
    cases right with
    | rampup offers' walks' => rw [offers.unique kept offers', walks.unique walks']
    | active nothing => exact absurd offers (nothing _)
    | nonActive nothing => exact absurd offers (nothing _)
    | noVersion empty => exact (Chooses.rampup offers walks).eq_noVersion empty
  | active nothing latest =>
    cases right with
    | rampup offers' => exact absurd offers' (nothing _)
    | active _ latest' => rw [latest.unique latest']
    | nonActive _ idle => exact absurd latest (idle _)
    | noVersion empty => exact (Chooses.active nothing latest).eq_noVersion empty
  | nonActive nothing idle last =>
    cases right with
    | rampup offers' => exact absurd offers' (nothing _)
    | active _ latest' => exact absurd latest' (idle _)
    | nonActive _ _ last' => rw [Option.some.inj (last.symm.trans last')]
    | noVersion empty => exact (Chooses.nonActive nothing idle last).eq_noVersion empty

/-- A type is given no version exactly when it has none. -/
theorem Chooses.eq_noVersion_iff {decision : Decision} (chooses : c.Chooses policy key decision) :
    decision = .noVersion ↔ c.versionsOf key = [] := by
  constructor
  · intro same
    cases chooses with
    | noVersion empty => exact empty
    | rampup | active | nonActive => cases same
  · exact chooses.eq_noVersion

end Catalog

namespace Resolver

variable {c : Catalog} (bucketOf : Flow → Except Fault Datum)

/-! ## The rampup tier -/

/-- What the first stored entry comes to, for a request that takes a refused plan and a missing
version for nothing. -/
inductive Opens (c : Catalog) (policy : WalkPolicy) (key : TypeKey) : RampupOutcome → Prop where
  | chosen {version : ImageVersion} {walked : Plan} (offers : c.Offers policy key version)
      (walks : c.Walks policy key walked) : Opens c policy key (.chosen version walked)
  | passed (nothing : ∀ version, ¬ c.Offers policy key version) : Opens c policy key .passed

theorem Opens.not_excluded {policy : WalkPolicy} {key : TypeKey} {outcome : RampupOutcome}
    (opens : Opens c policy key outcome) : excludedEntry key outcome = none := by
  cases opens <;> rfl

/-- A plan that is refused is skipped. -/
theorem yields_walkOrder_refused {planOrder : Datum} {key : TypeKey} {stored : Plan}
    {flaw : PlanFlaw}
    (refused : (stored.order (.text key.text) (.ofName planOrder)).1 =
      .error (.invalidPlan (.text key.text) flaw)) :
    ((c.resolver bucketOf planOrder).walkOrder true key stored).Yields (.ok []) :=
  (Lookup.yields_settle refused).orElse_error fun _ => rfl

theorem yields_chooseEntry_first (planOrder : Datum) (kept : c.WellKept) {key : TypeKey}
    {first : PlanEntry} {rest walked : Plan} (held : c.planOf key = first :: rest)
    (walks : c.Walks (.ofName planOrder) key walked) :
    ∃ outcome, Opens c (.ofName planOrder) key outcome ∧
      ((c.resolver bucketOf planOrder).chooseEntry true key first walked).Yields (.ok outcome) := by
  have leading : (c.planOf key).head? = some first := by rw [held]; rfl
  have member : first ∈ c.planOf key := held ▸ List.mem_cons_self
  -- the version comes from the stored plan, the plan that goes with it is the walked one
  obtain ⟨label, labelled⟩ := (kept.planOf key first member).labelled
  have looked := yields_exactVersion bucketOf planOrder kept key label
  rw [← labelled] at looked
  rw [chooseEntry, if_pos rfl]
  rcases looked with ⟨version, holds, found⟩ | ⟨absent, missed⟩
  · obtain ⟨sound, ascends⟩ :=
      (Plan.order_eq_ok_iff (kept.planOf_whole key) _ _).mp ⟨walked, walks⟩
    refine ⟨_, .chosen ⟨⟨first, leading, holds⟩, sound, ascends⟩ walks, ?_⟩
    refine Lookup.Yields.orElse_ok ?_ _
    exact found.bind_ok (Lookup.yields_pure _)
  · refine ⟨.passed, .passed fun version offers => ?_, missed.bind_error.orElse_error fun _ => rfl⟩
    obtain ⟨entry, leading', holds⟩ := offers.first
    obtain rfl := Option.some.inj (leading.symm.trans leading')
    exact absent version holds

theorem yields_rampupType_first (planOrder : Datum) (kept : c.WellKept) {key : TypeKey}
    {stored : Plan} (held : c.planOf key = stored) (filled : stored ≠ []) :
    ∃ outcome, Opens c (.ofName planOrder) key outcome ∧
      ((c.resolver bucketOf planOrder).rampupType true none key stored).Yields (.ok outcome) := by
  obtain ⟨first, rest, rfl⟩ := List.exists_cons_of_ne_nil filled
  have whole := kept.planOf_whole key
  rcases Plan.order_whole whole (.text key.text) (.ofName planOrder) with
    ⟨flaw, refused⟩ | ⟨-, walked, ordered, perm⟩
  · have nothing : ∀ version, ¬ c.Offers (.ofName planOrder) key version := by
      intro version offers
      obtain ⟨walked, walks⟩ :=
        (Plan.order_eq_ok_iff whole (.text key.text) _).mpr ⟨offers.sound, offers.ascends⟩
      exact nomatch refused.symm.trans walks
    refine ⟨.passed, .passed nothing, ?_⟩
    rw [held] at refused
    exact (yields_walkOrder_refused bucketOf refused).bind_ok (Lookup.yields_pure _)
  · obtain ⟨outcome, opens, chooses⟩ :=
      yields_chooseEntry_first bucketOf planOrder kept held ordered
    rw [held] at ordered perm
    -- the walked plan has as many entries as the stored one, so it is not empty
    obtain ⟨head, tail, rfl⟩ := List.exists_cons_of_ne_nil
      (List.ne_nil_of_length_pos (by rw [perm.length_eq]; exact Nat.succ_pos _))
    have walking : ((c.resolver bucketOf planOrder).walkOrder true key (first :: rest)).Yields
        (.ok (head :: tail)) := (Lookup.yields_settle ordered).orElse_ok _
    exact ⟨outcome, opens, walking.bind_ok chooses⟩

theorem yields_rampupTypes_first (planOrder : Datum) (kept : c.WellKept)
    {plans : List (TypeKey × Plan)}
    (stored : ∀ plan ∈ plans, c.planOf plan.1 = plan.2 ∧ plan.2 ≠ []) :
    ∃ outcomes, outcomes.map Prod.fst = plans.map Prod.fst ∧
      (∀ outcome ∈ outcomes, Opens c (.ofName planOrder) outcome.1 outcome.2) ∧
      ((c.resolver bucketOf planOrder).rampupTypes true none plans).Yields (.ok outcomes) := by
  induction plans with
  | nil => exact ⟨[], rfl, by simp, Lookup.yields_pure []⟩
  | cons plan rest ih =>
    obtain ⟨held, filled⟩ := stored plan List.mem_cons_self
    obtain ⟨outcome, opens, here⟩ := yields_rampupType_first bucketOf planOrder kept held filled
    obtain ⟨outcomes, keys, each, later⟩ :=
      ih fun other member => stored other (List.mem_cons_of_mem _ member)
    exact ⟨(plan.1, outcome) :: outcomes, by rw [List.map_cons, List.map_cons, keys],
      List.forall_mem_cons.mpr ⟨opens, each⟩,
      here.bind_ok (later.bind_ok (Lookup.yields_pure _))⟩

/-! ## The tiers -/

variable {wanted : NameSet}

/-- After the rampup tier every wanted type has what its first stored entry comes to. -/
structure Opened (c : Catalog) (policy : WalkPolicy) (wanted : NameSet) (resolution : Resolution) :
    Prop where
  partitions : resolution.Partitions wanted
  each : ∀ key : TypeKey, key.text ∈ wanted → ∃ outcome, Opens c policy key outcome ∧
    resolution.decisions.find? key = chosenDecision key outcome

theorem opened_of_outcomes (kept : c.WellKept) (normalized : wanted.IsNormalized)
    {policy : WalkPolicy} {index : OrderedMap TypeKey Plan} (indexes : Indexes c wanted index)
    {outcomes : List (TypeKey × RampupOutcome)}
    (keys : outcomes.map Prod.fst = (index.sortedBy TypeKey.text).map Prod.fst)
    (each : ∀ outcome ∈ outcomes, Opens c policy outcome.1 outcome.2) :
    Opened c policy wanted (takeChosen { unresolved := wanted } outcomes) := by
  have planned : ∀ key, key ∈ outcomes.map Prod.fst ↔ key.text ∈ wanted ∧ c.planOf key ≠ [] := by
    intro key
    rw [keys]
    exact indexes.mem_keys_iff kept
  have nodup : (outcomes.map Prod.fst).Nodup := by
    rw [keys]
    exact OrderedMap.nodup_sortedBy _ index
  rw [takeChosen_eq]
  constructor
  · refine (Resolution.partitions_start wanted .null).decideAll normalized fun decision member => ?_
    obtain ⟨outcome, among, -⟩ := OrderedMap.mem_filterMap_entry.mp member
    exact ((planned _).mp (List.mem_map_of_mem (f := Prod.fst) among)).1
  · intro key wants
    rw [Resolution.find?_decideAll, OrderedMap.find?_empty, Option.none_or,
      OrderedMap.lookupEntry_filterMap key chosenDecision nodup]
    cases found : OrderedMap.lookupEntry key outcomes with
    | some outcome => exact ⟨outcome, each _ (OrderedMap.mem_of_lookupEntry found), rfl⟩
    | none =>
      -- every plan with entries has an outcome, so the type has no such plan
      have absent := (OrderedMap.lookupEntry_eq_none_iff key outcomes).mp found
      rw [planned] at absent
      have missing : c.planOf key = [] :=
        Decidable.byContradiction fun filled => absent ⟨wants, filled⟩
      exact ⟨.passed, .passed (Catalog.not_offers_of_no_plan missing), rfl⟩

theorem yields_rampupTier_first (planOrder : Datum) (kept : c.WellKept)
    (normalized : wanted.IsNormalized) {index : OrderedMap TypeKey Plan}
    (indexes : Indexes c wanted index) :
    ∃ resolution, Opened c (.ofName planOrder) wanted resolution ∧
      ((c.resolver bucketOf planOrder).rampupTier true none index
        { unresolved := wanted }).Yields (.ok resolution) := by
  have stored : ∀ plan ∈ index.sortedBy TypeKey.text,
      c.planOf plan.1 = plan.2 ∧ plan.2 ≠ [] := by
    intro plan member
    exact ((indexes.find?_eq_some_iff kept).mp (OrderedMap.mem_sortedBy.mp member)).2
  obtain ⟨outcomes, keys, each, yields⟩ :=
    yields_rampupTypes_first bucketOf planOrder kept stored
  have opened := opened_of_outcomes kept normalized indexes keys each
  refine ⟨_, opened, ?_⟩
  rw [rampupTier]
  split
  · rename_i nothing
    -- without a plan there are no outcomes
    rw [OrderedMap.sortedBy, List.isEmpty_iff.mp nothing, List.mergeSort_nil] at keys
    obtain rfl := List.map_eq_nil_iff.mp keys
    exact Lookup.yields_pure _
  · -- no evaluator is asked, so the tier has nothing to replace
    have unreplaced : excludedTypes outcomes = [] := by
      rw [excludedTypes_eq, List.filterMap_eq_nil_iff]
      intro outcome member
      rw [(each outcome member).not_excluded]
      rfl
    have placed : ((c.resolver bucketOf planOrder).place none).Yields (.ok none) :=
      Lookup.yields_pure none
    refine placed.bind_ok (yields.bind_ok ?_)
    rw [unreplaced]
    exact Lookup.yields_pure _

/-- The last tier leaves what is decided, and decides every other wanted type that has a version. -/
theorem yields_nonActiveTier (planOrder : Datum) (kept : c.WellKept)
    (normalized : wanted.IsNormalized) {resolution : Resolution}
    (partitions : resolution.Partitions wanted) :
    ∃ next, next.Partitions wanted ∧
      (∀ key : TypeKey, key.text ∈ wanted → next.decisions.find? key =
        (resolution.decisions.find? key).or (((c.versionsOf key).getLast?).map fun version =>
          { version := some version, selection := .nonActive })) ∧
      ((c.resolver bucketOf planOrder).nonActiveTier resolution).Yields (.ok next) := by
  rw [nonActiveTier]
  split
  · rename_i nothing
    refine ⟨resolution, partitions, ?_, Lookup.yields_pure _⟩
    intro key wants
    obtain ⟨decision, decided⟩ := partitions.decided_of_isEmpty nothing wants
    rw [decided]
    rfl
  · have asked : resolution.unresolved.IsNormalized :=
      fun name member => normalized name ((partitions.unresolved_iff name).mp member).1
    obtain ⟨latest, indexed, listed⟩ := Catalog.firstByKey_latestVersions kept asked
    obtain ⟨next, taken, onward, decided⟩ := takeFirst_latest .nonActive normalized partitions
      (some (c.latestVersions resolution.unresolved)) indexed listed
    refine ⟨next, onward, decided, ?_⟩
    exact (yields_fetch true _ _ (Lookup.yields_ask _ fun _ => rfl)).bind_ok
      (Lookup.yields_give taken)

/-- What the tiers leave of a type, one after the other, is what the reference says. -/
theorem Opens.chooses {policy : WalkPolicy} {key : TypeKey} {outcome : RampupOutcome}
    (opens : Opens c policy key outcome) :
    c.Chooses policy key ((((chosenDecision key outcome).or
      ((c.latestActive key).map fun version =>
        { version := some version, selection := .active })).or
      ((c.versionsOf key).getLast?.map fun version =>
        { version := some version, selection := .nonActive })).getD .noVersion) := by
  cases opens with
  | chosen offers walks => exact .rampup offers walks
  | passed nothing =>
    cases latest : c.latestActive key with
    | some version => exact .active nothing (Catalog.latestActive_eq_some_iff.mp latest)
    | none =>
      cases last : (c.versionsOf key).getLast? with
      | some version =>
        exact .nonActive nothing (Catalog.latestActive_eq_none_iff.mp latest) last
      | none => exact .noVersion (List.getLast?_eq_none_iff.mp last)

/-- Every wanted type has the decision of the reference, where no decision stands for the one that
says that there is no version. -/
structure Chosen (c : Catalog) (policy : WalkPolicy) (wanted : NameSet) (resolution : Resolution) :
    Prop where
  partitions : resolution.Partitions wanted
  each : ∀ key : TypeKey, key.text ∈ wanted →
    c.Chooses policy key ((resolution.decisions.find? key).getD .noVersion)

theorem yields_resolveWanted_all (planOrder : Datum) (kept : c.WellKept)
    (normalized : wanted.IsNormalized) :
    ∃ resolution, Chosen c (.ofName planOrder) wanted resolution ∧
      ((c.resolver bucketOf planOrder).resolveWanted none wanted true (some c.allPlans)).Yields
        (.ok resolution) := by
  rw [resolveWanted]
  split
  · rename_i nothing
    refine ⟨_, ⟨Resolution.partitions_start wanted .null, ?_⟩, Lookup.yields_pure _⟩
    exact fun key wants => absurd wants (NameSet.not_mem_of_isEmpty nothing _)
  · obtain ⟨index, indexed, indexes⟩ := c.indexed_allPlans wanted
    obtain ⟨opened, each, ramping⟩ :=
      yields_rampupTier_first bucketOf planOrder kept normalized indexes
    obtain ⟨active, partitions, actives, activating⟩ :=
      yields_activeTier true planOrder kept bucketOf normalized each.partitions
    obtain ⟨last, partitions, lasts, completing⟩ :=
      yields_nonActiveTier bucketOf planOrder kept normalized partitions
    refine ⟨last, ⟨partitions, ?_⟩, ?_⟩
    · intro key wants
      obtain ⟨outcome, opens, decided⟩ := each.each key wants
      rw [lasts key wants, actives key wants, decided]
      exact opens.chooses
    · refine (Lookup.yields_pure _).bind_ok ((Lookup.yields_settle indexed).bind_ok ?_)
      exact ramping.bind_ok (activating.bind_ok completing)

theorem yields_metadata (planOrder : Datum) (kept : c.WellKept) :
    ∃ resolution, Chosen c (.ofName planOrder) c.registered resolution ∧
      (c.resolver bucketOf planOrder).metadata.Yields (.ok (completed resolution)) := by
  obtain ⟨resolution, chosen, resolved⟩ :=
    yields_resolveWanted_all bucketOf planOrder kept c.normalized_registered
  refine ⟨resolution, chosen, ?_⟩
  have named : (c.resolver bucketOf planOrder).metadataNames.Yields
      (.ok (some (c.types.values.map ImageType.name))) := by
    refine Lookup.Yields.orElse_ok ?_ _
    refine Lookup.Yields.bind_ok ?_ (Lookup.yields_pure _)
    exact (Lookup.yields_ask _ fun _ => rfl).bind_ok (Lookup.yields_pure _)
  have booked : (c.resolver bucketOf planOrder).metadataBook.Yields (.ok c.allPlans) :=
    (Lookup.yields_ask _ fun _ => rfl).orElse_ok _
  refine named.bind_ok (booked.bind_ok ?_)
  refine ((Lookup.yields_give (Catalog.ofDatum_types kept)).bind_ok resolved).bind_ok ?_
  exact (Lookup.yields_reach _).bind_ok (Lookup.yields_pure _)

end Resolver

/-! ## The questions of a request without a flow -/

/-- The question is not about a flow: it goes neither to the bucket function nor to the rule
evaluator. -/
def Call.IsPlain : Call → Prop
  | isExcluded .. | rulesFor .. | bucket _ => False
  | _ => True

namespace Resolver

open Lookup

variable (r : Resolver)

/-- Without a flow a resolution puts plain questions only. -/
theorem plain_questions : r.QuestionsHave none fun _ lookup => lookup.Asks Call.IsPlain where
  findVersions _ _ := asks_ask trivial _
  activeVersions _ := asks_ask trivial _
  latestVersions _ := asks_ask trivial _
  plansFor _ := asks_ask trivial _
  bucket := nofun
  isExcluded := nofun

/-- A request for metadata asks neither for a bucket nor for a rule, whatever the sources answer. -/
theorem metadata_asks : r.metadata.Asks Call.IsPlain := by
  have names : r.metadataNames.Asks Call.IsPlain := by
    refine Asks.orElse (Asks.bind ?_ fun names => asks_pure _) fun _ => asks_nothing fun _ => rfl
    exact (asks_ask trivial _).bind fun types => asks_pure _
  have book : r.metadataBook.Asks Call.IsPlain :=
    (asks_ask trivial _).orElse fun _ => asks_nothing fun _ => rfl
  refine names.bind fun names => ?_
  cases names with
  | none => exact asks_pure _
  | some names =>
    refine book.bind fun book => Asks.bind ?_ fun resolution => ?_
    · exact (asks_give _).bind fun wanted =>
        r.plain_questions.resolveWanted (closed_asks Call.IsPlain).composed wanted (some book)
    · exact Asks.bind (asks_nothing fun _ => rfl) fun _ => asks_pure _

/-! ## The reference -/

/-- **Metadata is what the reference says of each registered type alone.** Whatever changes made the
catalog, the request returns one entry for each registered type, with the only decision that the
reference allows; no version is given exactly to the types that none was ever added to, and neither
the bucket function nor the rule evaluator is asked. -/
theorem metadata_chooses (changes : List Catalog.Change) (bucketOf : Flow → Except Fault Datum)
    (planOrder : Datum) :
    ∃ mapping journal,
      (((Catalog.afterAll changes).resolver bucketOf planOrder).metadata).start =
        (.ok mapping, journal) ∧
      mapping.map (·.1.text) = (Catalog.afterAll changes).registered.toList ∧
      (∀ entry ∈ mapping, ∀ decision,
        (Catalog.afterAll changes).Chooses (.ofName planOrder) entry.1 decision ↔
          decision = entry.2) ∧
      (∀ entry ∈ mapping, entry.2 = .noVersion ↔
        ∀ change ∈ Catalog.performed Catalog.empty changes, change.added? entry.1 = none) ∧
      ∀ call ∈ journal.calls, call.IsPlain := by
  have kept := Catalog.wellKept_afterAll changes
  obtain ⟨resolution, chosen, yields⟩ := yields_metadata bucketOf planOrder kept
  obtain ⟨names, -, registered⟩ := Catalog.names_types kept
  have normalized : (Catalog.afterAll changes).registered.IsNormalized :=
    registered ▸ NameSet.isNormalized_normalized names
  have chooses : ∀ entry ∈ completed resolution,
      (Catalog.afterAll changes).Chooses (.ofName planOrder) entry.1 entry.2 := by
    intro entry member
    obtain ⟨wants, same⟩ := (mem_completed normalized chosen.partitions).mp member
    rw [same]
    exact chosen.each entry.1 wants
  -- `Yields` says nothing of the calls: of what kind they are holds over any sources
  refine ⟨completed resolution, _, Prod.ext yields.start_eq rfl,
    names_completed normalized chosen.partitions, ?_, ?_, (metadata_asks _).start⟩
  · intro entry member decision
    constructor
    · exact fun other => other.unique kept (chooses entry member)
    · rintro rfl
      exact chooses entry member
  · intro entry member
    rw [(chooses entry member).eq_noVersion_iff, (Catalog.tells_performed changes).versions,
      Catalog.logged_eq_nil_iff]

end Resolver

end Rollout

import Rollout.Proofs.Plan.Book
import Rollout.Proofs.Resolution.Division
import Rollout.Proofs.Resolution.Execution

/-!
# What decisions rest on

Nothing is assumed of the sources here: whatever they answer, and however the answers depend on
earlier calls, a resolution for a flow that returns has a reason for each of its decisions
(`resolve_accounted`). The reason for a version from a plan is the entry that owns the flow's bucket
in the plan as it is walked, together with the answer of the evaluator that the flow may have it
(`Justified`); the answer was given at one of the calls in the journal (`Judged`).

Where the evaluator goes by rules, a flow that a rule keeps away from a version does not get it from
a plan (`Sources.KeepsRule`).
-/

namespace Rollout

/-- The evaluator gave the answer at one of the calls. -/
def Judged (s : Sources) (calls : List Call) (flowName : Datum) (key : TypeKey) (label : Datum)
    (answer : Bool) : Prop :=
  ∃ before further, s.isExcluded before flowName key label = (.ok answer, further) ∧
    (before ++ .isExcluded flowName key label :: further) <+: calls

theorem Judged.mono {s : Sources} {calls after : List Call} {flowName : Datum} {key : TypeKey}
    {label : Datum} {answer : Bool} (judged : Judged s calls flowName key label answer)
    (grown : calls <+: after) : Judged s after flowName key label answer := by
  obtain ⟨before, further, answered, made⟩ := judged
  exact ⟨before, further, answered, made.trans grown⟩

/-- What the type of a plan comes to for a flow in the bucket, when the plan is walked in this order
and the calls were made. -/
inductive Justified (s : Sources) (calls : List Call) (flow : Flow) (bucket : Int) (key : TypeKey)
    (walked : Plan) : Option Decision → Prop where
  /-- The flow gets the version of the entry that owns its bucket. -/
  | rampup {entry : PlanEntry} {version : ImageVersion}
      (matched : walked.matchBucket (.int bucket) = .ok (some entry))
      (free : Judged s calls flow.name key entry.version false)
      (own : version.key = .ok key) (labelled : version.hasLabel entry.version = .ok true) :
      Justified s calls flow bucket key walked
        (some { version := some version, selection := .rampup, plan := walked })
  /-- The flow is kept away from that version. -/
  | replaced {entry : PlanEntry} {version : ImageVersion}
      (matched : walked.matchBucket (.int bucket) = .ok (some entry))
      (barred : Judged s calls flow.name key entry.version true)
      (own : version.key = .ok key) :
      Justified s calls flow bucket key walked
        (some { version := some version, selection := .active, plan := walked })
  /-- No entry owns the bucket. -/
  | active {version : ImageVersion} (missed : walked.matchBucket (.int bucket) = .ok none)
      (own : version.key = .ok key) :
      Justified s calls flow bucket key walked
        (some { version := some version, selection := .active, plan := [] })
  | unresolved (missed : walked.matchBucket (.int bucket) = .ok none) :
      Justified s calls flow bucket key walked none

theorem Justified.mono {s : Sources} {calls after : List Call} {flow : Flow} {bucket : Int}
    {key : TypeKey} {walked : Plan} {outcome : Option Decision}
    (justified : Justified s calls flow bucket key walked outcome) (grown : calls <+: after) :
    Justified s after flow bucket key walked outcome := by
  cases justified with
  | rampup matched free own labelled => exact .rampup matched (free.mono grown) own labelled
  | replaced matched barred own => exact .replaced matched (barred.mono grown) own
  | active missed own => exact .active missed own
  | unresolved missed => exact .unresolved missed

/-- The evaluator goes by the rules of a store, and the store lists the rule for every version that
the rule is about. -/
def Sources.KeepsRule (s : Sources) (rule : RampRule) : Prop :=
  ∃ store : List Call → TypeKey → Datum → Except Fault (List RampRule),
    (∀ calls flowName key label, (s.isExcluded calls flowName key label).1 =
      do RampRule.excludes (← store calls key label) flowName key label) ∧
    ∀ calls key label rules, store calls key label = .ok rules →
      rule.appliesTo key label = .ok true → rule ∈ rules

/-- A catalog keeps its own rules. -/
theorem Catalog.keepsRule {c : Catalog} {rule : RampRule} (member : rule ∈ c.rules)
    (bucketOf : Flow → Except Fault Datum) : (c.sources bucketOf).KeepsRule rule :=
  ⟨fun _ => c.rulesFor, fun _ _ _ _ => rfl, fun _ _ _ _ listed applies =>
    Fallible.mem_of_filter listed member applies⟩

/-- Where a rule is kept, its flows are not judged free of a version that it is about. -/
theorem Sources.KeepsRule.not_judged {s : Sources} {rule : RampRule} (keeps : s.KeepsRule rule)
    {flowName : Datum} (matching : rule.matchesFlow flowName = .ok true) {key : TypeKey}
    {label : Datum} (applies : rule.appliesTo key label = .ok true) (calls : List Call) :
    ¬ Judged s calls flowName key label false := by
  obtain ⟨store, judges, lists⟩ := keeps
  rintro ⟨before, further, answered, -⟩
  have judged := (judges before flowName key label).symm.trans (congrArg Prod.fst answered)
  obtain ⟨rules, listed, excludes⟩ := Fallible.bind_eq_ok_iff.mp judged
  -- the rule was among those that were tested, and none of them matched
  have tested := Fallible.forall_of_not_any excludes rule (lists _ _ _ _ listed applies)
  rw [applies] at tested
  exact nomatch tested.symm.trans matching

namespace Resolver

variable {r : Resolver} {flow : Flow} {bucket : Int} {calls : List Call} {key : TypeKey}
  {stored : Plan}

/-! ## One type -/

/-- The stored plan of the type is walked in this order. -/
def WalksAs (r : Resolver) (key : TypeKey) (stored walked : Plan) : Prop :=
  (stored.order (.text key.text) (.ofName r.planOrder)).1 = .ok walked

/-- What the rampup tier makes of a type, and why. -/
inductive Founded (r : Resolver) (flow : Flow) (bucket : Int) (calls : List Call) (key : TypeKey)
    (stored : Plan) : RampupOutcome → Prop where
  | passed {walked : Plan} (walks : r.WalksAs key stored walked)
      (missed : walked.matchBucket (.int bucket) = .ok none) :
      Founded r flow bucket calls key stored .passed
  | chosen {walked : Plan} {entry : PlanEntry} {version : ImageVersion}
      (walks : r.WalksAs key stored walked)
      (matched : walked.matchBucket (.int bucket) = .ok (some entry))
      (free : Judged r.sources calls flow.name key entry.version false)
      (own : version.key = .ok key) (labelled : version.hasLabel entry.version = .ok true) :
      Founded r flow bucket calls key stored (.chosen version walked)
  | excluded {walked : Plan} {entry : PlanEntry} (walks : r.WalksAs key stored walked)
      (matched : walked.matchBucket (.int bucket) = .ok (some entry))
      (barred : Judged r.sources calls flow.name key entry.version true) :
      Founded r flow bucket calls key stored (.excluded entry walked)

theorem Founded.mono {outcome : RampupOutcome} {after : List Call}
    (founded : Founded r flow bucket calls key stored outcome) (grown : calls <+: after) :
    Founded r flow bucket after key stored outcome := by
  cases founded with
  | passed walks missed => exact .passed walks missed
  | chosen walks matched free own labelled =>
    exact .chosen walks matched (free.mono grown) own labelled
  | excluded walks matched barred => exact .excluded walks matched (barred.mono grown)

/-- An empty plan passes its type on. -/
theorem Founded.eq_passed {outcome : RampupOutcome}
    (founded : Founded r flow bucket calls key [] outcome) : outcome = .passed := by
  have nothing : ∀ {walked entry}, r.WalksAs key [] walked →
      walked.matchBucket (.int bucket) ≠ .ok (some entry) := by
    intro walked entry walks matched
    have ordered : (Plan.order (.text key.text) (.ofName r.planOrder) []).1 = .ok [] := by
      cases WalkPolicy.ofName r.planOrder <;> rfl
    obtain rfl : [] = walked := Except.ok.inj (ordered.symm.trans walks)
    cases matched
  cases founded with
  | passed => rfl
  | chosen walks matched => exact absurd matched (nothing walks)
  | excluded walks matched => exact absurd matched (nothing walks)

theorem arrives_walkOrder {r : Resolver} {key : TypeKey} {stored : Plan}
    {result : Except Fault Plan}
    (ordered : (stored.order (.text key.text) (.ofName r.planOrder)).1 = result)
    (calls : List Call) : (r.walkOrder false key stored).Arrives calls result calls := by
  have settled := Lookup.arrives_settle ordered calls
  cases result with
  | ok walked => exact settled.orElse_ok _
  | error fault =>
    refine settled.orElse_error _ ?_
    split
    · contradiction
    · exact Lookup.arrives_throw _ _

theorem returns_isExcluded (s : Sources) (flowName : Datum) (key : TypeKey) (label : Datum)
    (calls : List Call) :
    (Lookup.askThrough (.isExcluded flowName key label)
      (s.isExcluded · flowName key label)).Returns calls fun answer after =>
        Judged s after flowName key label answer := by
  refine (Lookup.leads_askThrough _ _ calls).returns.imp ?_
  rintro answer after - ⟨answered, rfl⟩
  exact ⟨calls, _, Prod.ext answered rfl, List.prefix_rfl⟩

/-- For a flow in a bucket only the walked plan counts. -/
theorem rampupType_placed (r : Resolver) (tolerant : Bool) (flow : Flow) (bucket : Int)
    (key : TypeKey) (stored : Plan) :
    r.rampupType tolerant (some (flow, bucket)) key stored = (do
      let plan ← r.walkOrder tolerant key stored
      match ← Lookup.give (plan.matchBucket (.int bucket)) with
      | none => return .passed
      | some entry =>
        if ← Lookup.askThrough (.isExcluded flow.name key entry.version)
            (r.sources.isExcluded · flow.name key entry.version) then
          return .excluded entry plan
        else r.chooseEntry tolerant key entry plan) := by
  rw [rampupType]
  congr 1
  funext plan
  cases plan with
  | nil => rfl
  | cons head tail => cases stored <;> rfl

theorem returns_rampupType (r : Resolver) (flow : Flow) (bucket : Int) (key : TypeKey)
    (stored : Plan) (calls : List Call) :
    (r.rampupType false (some (flow, bucket)) key stored).Returns calls fun outcome after =>
      Founded r flow bucket after key stored outcome := by
  rw [rampupType_placed]
  refine (arrives_walkOrder rfl calls).returns.bind ?_
  rintro walked calls ⟨ordered, -⟩
  have walks : r.WalksAs key stored walked := ordered.symm
  refine (Lookup.leads_give _ calls).returns.bind ?_
  rintro owner calls ⟨matched, -⟩
  cases owner with
  | none => exact Lookup.returns_pure (.passed walks matched)
  | some entry =>
    refine (returns_isExcluded r.sources _ _ _ calls).bind fun barred calls judged => ?_
    cases barred with
    | true => exact Lookup.returns_pure (.excluded walks matched judged)
    | false =>
      have found := (leads_exactVersion r key entry.version calls).returns
      refine (found.imp fun version after grown looked => ?_).bind
        fun version after founded => Lookup.returns_pure founded
      obtain ⟨-, named, -⟩ := looked
      obtain ⟨own, labelled⟩ := named version rfl
      exact .chosen walks matched (judged.mono grown) own labelled

/-! ## All types -/

/-- The outcomes are those of the plans, each for its reason. -/
structure AllFounded (r : Resolver) (flow : Flow) (bucket : Int) (calls : List Call)
    (plans : List (TypeKey × Plan)) (outcomes : List (TypeKey × RampupOutcome)) : Prop where
  keys : outcomes.map Prod.fst = plans.map Prod.fst
  each : ∀ outcome ∈ outcomes, ∃ stored, (outcome.1, stored) ∈ plans ∧
    Founded r flow bucket calls outcome.1 stored outcome.2

theorem returns_rampupTypes (r : Resolver) (flow : Flow) (bucket : Int)
    (plans : List (TypeKey × Plan)) (calls : List Call) :
    (r.rampupTypes false (some (flow, bucket)) plans).Returns calls fun outcomes after =>
      AllFounded r flow bucket after plans outcomes := by
  induction plans generalizing calls with
  | nil => exact Lookup.returns_pure ⟨rfl, by simp⟩
  | cons plan rest ih =>
    obtain ⟨key, stored⟩ := plan
    refine (returns_rampupType r flow bucket key stored calls).bind fun outcome calls founded => ?_
    refine ((ih calls).imp fun outcomes after grown later => ?_).bind
      fun outcomes after all => Lookup.returns_pure all
    -- what was answered for the first type stays in the journal
    refine ⟨by rw [List.map_cons, List.map_cons, later.keys], List.forall_mem_cons.mpr ⟨?_, ?_⟩⟩
    · exact ⟨stored, List.mem_cons_self, founded.mono grown⟩
    · intro other member
      obtain ⟨plan, among, founded⟩ := later.each other member
      exact ⟨plan, List.mem_cons_of_mem _ among, founded⟩

/-- Every type has a version of its own to be replaced with. -/
structure Replaces (latest : TypeKey → Option ImageVersion)
    (excluded : List (TypeKey × PlanEntry × Plan)) : Prop where
  own : ∀ key version, latest key = some version → version.key = .ok key
  found : ∀ entry ∈ excluded, ∃ version, latest entry.1 = some version

/-! ## What a type comes to -/

/-- The type's plan, if it has entries, is walked in some order, and what the type comes to is
justified by it and by a bucket; without a plan the type gets an ACTIVE version or stays
unresolved. -/
inductive Accounted (r : Resolver) (flow : Flow) (calls : List Call) (reached : Datum)
    (key : TypeKey) (stored : Plan) (outcome : Option Decision) : Prop where
  | planned {walked : Plan} {bucket : Int} (filled : stored ≠ [])
      (walks : r.WalksAs key stored walked) (placed : reached = .int bucket) (low : 1 ≤ bucket)
      (high : bucket ≤ bucketCount)
      (justified : Justified r.sources calls flow bucket key walked outcome)
  | planless (missing : stored = [])
      (active : ∀ decision, outcome = some decision → ∃ version, version.key = .ok key ∧
        decision = { version := some version, selection := .active, plan := [] })

theorem Accounted.mono {after : List Call} {reached : Datum} {outcome : Option Decision}
    (accounted : Accounted r flow calls reached key stored outcome) (grown : calls <+: after) :
    Accounted r flow after reached key stored outcome := by
  cases accounted with
  | planned filled walks placed low high justified =>
    exact .planned filled walks placed low high (justified.mono grown)
  | planless missing active => exact .planless missing active

theorem Founded.justified {outcome : RampupOutcome} {latest : TypeKey → Option ImageVersion}
    (founded : Founded r flow bucket calls key stored outcome)
    (own : ∀ version, latest key = some version → version.key = .ok key)
    (found : ∀ excluded, excludedEntry key outcome = some excluded →
      ∃ version, latest key = some version) :
    ∃ walked, r.WalksAs key stored walked ∧
      Justified r.sources calls flow bucket key walked (tierDecision latest key outcome) := by
  cases founded with
  | passed walks missed => exact ⟨_, walks, .unresolved missed⟩
  | chosen walks matched free own labelled => exact ⟨_, walks, .rampup matched free own labelled⟩
  | excluded walks matched barred =>
    obtain ⟨version, held⟩ := found _ rfl
    refine ⟨_, walks, ?_⟩
    rw [tierDecision, replacement, held]
    exact .replaced matched barred (own version held)

/-- A type that is left over may get an ACTIVE version later. -/
theorem Accounted.orActive {reached : Datum} {outcome : Option Decision}
    (accounted : Accounted r flow calls reached key stored outcome)
    {latest : Option ImageVersion}
    (own : ∀ version, latest = some version → version.key = .ok key) :
    Accounted r flow calls reached key stored (outcome.or (latest.map fun version =>
      { version := some version, selection := .active })) := by
  cases outcome with
  | some decision => exact accounted
  | none =>
    cases latest with
    | none => exact accounted
    | some version =>
      cases accounted with
      | planned filled walks placed low high justified =>
        cases justified with
        | unresolved missed =>
          exact .planned filled walks placed low high (.active missed (own version rfl))
      | planless missing active =>
        refine .planless missing ?_
        rintro decision ⟨⟩
        exact ⟨version, own version rfl, rfl⟩

/-! ## The tiers -/

/-- The wanted names are decided or unresolved, and what each type comes to has a reason; `plans`
are those of the types. -/
structure AllAccounted (r : Resolver) (flow : Flow) (calls : List Call) (wanted : NameSet)
    (plans : TypeKey → Plan) (resolution : Resolution) : Prop where
  partitions : resolution.Partitions wanted
  each : ∀ key : TypeKey, key.text ∈ wanted →
    Accounted r flow calls resolution.bucket key (plans key) (resolution.decisions.find? key)

variable {wanted : NameSet}

theorem AllAccounted.mono {plans : TypeKey → Plan} {resolution : Resolution} {after : List Call}
    (accounted : AllAccounted r flow calls wanted plans resolution) (grown : calls <+: after) :
    AllAccounted r flow after wanted plans resolution :=
  ⟨accounted.partitions, fun key wants => (accounted.each key wants).mono grown⟩

/-- With an outcome for every indexed plan, and a version for every type to be replaced, every
wanted type is accounted for; a type without an indexed plan is passed on. -/
theorem accounted_of_outcomes (normalized : wanted.IsNormalized)
    {index : OrderedMap TypeKey Plan}
    (wants : ∀ key plan, index.find? key = some plan → key.text ∈ wanted)
    {outcomes : List (TypeKey × RampupOutcome)}
    (all : AllFounded r flow bucket calls (index.sortedBy TypeKey.text) outcomes)
    {latest : TypeKey → Option ImageVersion} (replaces : Replaces latest (excludedTypes outcomes))
    (low : 1 ≤ bucket) (high : bucket ≤ bucketCount) :
    AllAccounted r flow calls wanted (fun key => (index.find? key).getD [])
      ((takeChosen { unresolved := wanted, bucket := .int bucket } outcomes).decideAll
        (replacements latest (excludedTypes outcomes))) := by
  have listed : ∀ key, key ∈ outcomes.map Prod.fst ↔ key ∈ index.keys := by
    intro key
    rw [all.keys]
    exact ((List.mergeSort_perm index.entries _).map Prod.fst).mem_iff
  have nodup : (outcomes.map Prod.fst).Nodup := by
    rw [all.keys]
    exact OrderedMap.nodup_sortedBy _ index
  constructor
  · refine partitions_decided latest (Resolution.partitions_start wanted _) normalized ?_
    intro key member
    obtain ⟨stored, held⟩ :=
      Option.isSome_iff_exists.mp ((index.contains_iff key).mpr ((listed key).mp member))
    exact wants key stored held
  · intro key _
    rw [find?_decided latest _ nodup, OrderedMap.find?_empty, Option.none_or,
      Resolution.bucket_decideAll, takeChosen_eq, Resolution.bucket_decideAll]
    cases found : OrderedMap.lookupEntry key outcomes with
    | none =>
      have absent := (OrderedMap.lookupEntry_eq_none_iff key outcomes).mp found
      rw [listed, ← OrderedMap.find?_eq_none_iff] at absent
      rw [absent]
      exact .planless rfl nofun
    | some outcome =>
      have member := OrderedMap.mem_of_lookupEntry found
      obtain ⟨stored, among, founded⟩ := all.each _ member
      have held : index.find? key = some stored := OrderedMap.mem_sortedBy.mp among
      rw [held]
      by_cases empty : stored = []
      · -- the index keeps an empty plan where no spelling has another one
        subst empty
        obtain rfl : outcome = .passed := founded.eq_passed
        exact .planless rfl nofun
      · have replaced : ∀ excluded, excludedEntry key outcome = some excluded →
            ∃ version, latest key = some version := by
          intro excluded made
          cases outcome with
          | excluded entry plan => exact replaces.found _ (mem_excludedTypes.mpr member)
          | _ => cases made
        obtain ⟨walked, walks, justified⟩ := founded.justified (replaces.own key) replaced
        exact .planned empty walks rfl low high justified

theorem returns_rampupTier (r : Resolver) (flow : Flow) (normalized : wanted.IsNormalized)
    {index : OrderedMap TypeKey Plan}
    (wants : ∀ key plan, index.find? key = some plan → key.text ∈ wanted) (calls : List Call) :
    (r.rampupTier false (some flow) index { unresolved := wanted }).Returns calls
      fun resolution after =>
        AllAccounted r flow after wanted (fun key => (index.find? key).getD []) resolution := by
  rw [rampupTier]
  split
  · rename_i nothing
    refine Lookup.returns_pure ⟨Resolution.partitions_start wanted .null, fun key _ => ?_⟩
    rw [OrderedMap.find?, List.isEmpty_iff.mp nothing]
    exact .planless rfl (by rintro _ ⟨⟩)
  · refine (returns_place r (some flow) calls).bind fun placed calls placing => ?_
    obtain ⟨bucket, rfl, low, high⟩ := placing flow rfl
    refine (returns_rampupTypes r flow bucket _ calls).bind fun outcomes calls all => ?_
    refine (returns_ruleFallback r _ _ calls).imp ?_
    rintro resolution after grown ⟨latest, own, found, rfl⟩
    exact (accounted_of_outcomes normalized wants all ⟨own, found rfl⟩ low high).mono grown

theorem returns_activeTier {plans : TypeKey → Plan} {resolution : Resolution}
    (accounted : AllAccounted r flow calls wanted plans resolution)
    (normalized : wanted.IsNormalized) :
    (r.activeTier false resolution).Returns calls fun next after =>
      AllAccounted r flow after wanted plans next := by
  rw [activeTier]
  split
  · exact Lookup.returns_pure accounted
  · refine ((returns_fetchActive r resolution.unresolved calls).imp
      fun _ _ grown _ => accounted.mono grown).bind fun versions calls accounted => ?_
    refine (Lookup.leads_give _ calls).returns.imp ?_
    rintro next after - ⟨taken, rfl⟩
    rw [takeFirst_eq] at taken
    cases indexed : firstByKey (versions.getD []) resolution.unresolved with
    | error fault =>
      rw [indexed] at taken
      cases taken
    | ok first =>
      rw [indexed] at taken
      cases taken
      refine ⟨accounted.partitions.decideAll normalized
        (wanted_of_firstDecisions _ accounted.partitions indexed), fun key wants => ?_⟩
      rw [Resolution.bucket_decideAll, Resolution.find?_decideAll, lookupEntry_firstDecisions]
      exact (accounted.each key wants).orActive fun version found =>
        (own_of_firstByKey indexed found).2

/-! ## All tiers -/

/-- The book that a resolution goes by: the one that is given, or what the plan store answers when
it is asked before anything else. -/
def GoesBy (r : Resolver) (wanted : NameSet) (plans : Option PlanBook) (book : PlanBook) : Prop :=
  match plans with
  | some given => given = book
  | none => r.sources.plansFor [] wanted = .ok book

theorem returns_bookFor (r : Resolver) (wanted : NameSet) (plans : Option PlanBook) :
    (r.bookFor false wanted plans).Returns [] fun book _ => r.GoesBy wanted plans book := by
  cases plans with
  | some given => exact Lookup.returns_pure rfl
  | none =>
    rw [bookFor, fetch, if_neg Bool.false_ne_true]
    exact (Lookup.leads_ask _ _ []).returns.imp fun book after _ asked => asked.1

theorem returns_resolveWanted (r : Resolver) (flow : Flow) (normalized : wanted.IsNormalized)
    (plans : Option PlanBook) :
    (r.resolveWanted (some flow) wanted false plans).Returns [] fun resolution after =>
      resolution.Partitions wanted ∧ ∀ key : TypeKey, key.text ∈ wanted →
        ∃ book, r.GoesBy wanted plans book ∧
          Accounted r flow after resolution.bucket key (book.planOf key)
            (resolution.decisions.find? key) := by
  rw [resolveWanted]
  split
  · rename_i nothing
    exact Lookup.returns_pure ⟨Resolution.partitions_start wanted .null, fun key wants =>
      absurd wants (NameSet.not_mem_of_isEmpty nothing _)⟩
  · refine (returns_bookFor r wanted plans).bind fun book calls goes_by => ?_
    refine (Lookup.leads_settle _ calls).returns.bind ?_
    rintro index calls ⟨indexed, -⟩
    refine (returns_rampupTier r flow normalized
      (fun key plan => PlanBook.wanted_of_indexed indexed) calls).bind ?_
    intro resolution calls ramped
    refine (returns_activeTier ramped normalized).bind fun next after accounted => ?_
    refine Lookup.returns_pure ⟨accounted.partitions, fun key wants => ⟨book, goes_by, ?_⟩⟩
    rw [← PlanBook.getD_find?_indexed indexed wants]
    exact accounted.each key wants

/-- **Every decision is justified by what the sources answered.** A resolution for a flow that
returns accounts for each wanted type by the plan of the type and the answers of the evaluator, and
where the evaluator goes by rules, no plan gives a flow a version that a rule keeps it away from. -/
theorem resolve_accounted {r : Resolver} {flow : Flow} {names : Datum} {plans : Option PlanBook}
    {resolution : Resolution} {journal : Journal}
    (returned : (r.resolve (some flow) names false plans).start = (.ok resolution, journal)) :
    ∃ wanted, NameSet.ofDatum names = .ok wanted ∧ resolution.Partitions wanted ∧
      (∀ key : TypeKey, key.text ∈ wanted → ∃ book, r.GoesBy wanted plans book ∧
        Accounted r flow journal.calls resolution.bucket key (book.planOf key)
          (resolution.decisions.find? key)) ∧
      ∀ rule, r.sources.KeepsRule rule → rule.matchesFlow flow.name = .ok true →
        ∀ key decision version, resolution.decisions.find? key = some decision →
          decision.selection = .rampup → decision.version = some version →
          rule.appliesTo key version.version ≠ .ok true := by
  have returns : (r.resolve (some flow) names false plans).Returns [] fun resolution after =>
      ∃ wanted, NameSet.ofDatum names = .ok wanted ∧ resolution.Partitions wanted ∧
        ∀ key : TypeKey, key.text ∈ wanted → ∃ book, r.GoesBy wanted plans book ∧
          Accounted r flow after resolution.bucket key (book.planOf key)
            (resolution.decisions.find? key) := by
    refine (Lookup.leads_give _ []).returns.bind ?_
    rintro wanted _ ⟨listed, rfl⟩
    have normalized := NameSet.isNormalized_of_ofDatum listed
    exact (returns_resolveWanted r flow normalized plans).imp fun resolution after _ resolved =>
      ⟨wanted, listed, resolved⟩
  have accounted := Lookup.Leads.start returns
  rw [returned] at accounted
  obtain ⟨wanted, listed, partitions, each⟩ := accounted resolution rfl
  refine ⟨wanted, listed, partitions, each, ?_⟩
  intro rule keeps matching key decision version decided ramped chosen applies
  obtain ⟨book, -, accounted⟩ := each key (partitions.decided key decision decided)
  rw [decided] at accounted
  cases accounted with
  | planned _ _ _ _ _ justified =>
    cases justified with
    | rampup matched free own labelled =>
      cases chosen
      obtain ⟨named, same⟩ := RampRule.appliesTo_iff.mp applies
      -- the evaluator was asked about the label of the entry, which is that of the version
      have about := RampRule.appliesTo_iff.mpr ⟨named, sameLabel_trans same labelled⟩
      exact keeps.not_judged matching about _ free
    | replaced => cases ramped
    | active => cases ramped
  | planless _ active =>
    obtain ⟨other, -, rfl⟩ := active decision rfl
    cases ramped

theorem resolve_accounted_nightly : ∃ resolution journal,
    ((sampleCatalog.resolver (fun _ => .ok (.int 10)) .null).resolve (some nightly)
      (.list [.text " Etl "]) false none).start = (.ok resolution, journal) ∧
    Accounted (sampleCatalog.resolver (fun _ => .ok (.int 10)) .null) nightly journal.calls
      resolution.bucket (.ofName "etl") [⟨.text "3.1", .int 50⟩] (some nightlyDecision) := by
  have decided : (((sampleCatalog.resolver (fun _ => .ok (.int 10)) .null).resolve (some nightly)
      (.list [.text " Etl "]) false none).start.1.map
        (·.decisions.find? (.ofName "etl"))).toOption = some (some nightlyDecision) := by
    decide +kernel
  cases returned : ((sampleCatalog.resolver (fun _ => .ok (.int 10)) .null).resolve (some nightly)
      (.list [.text " Etl "]) false none).start with
  | mk result journal =>
    rw [returned] at decided
    cases result with
    | error fault => cases decided
    | ok resolution =>
      refine ⟨resolution, journal, rfl, ?_⟩
      obtain ⟨wanted, listed, -, each, -⟩ := resolve_accounted returned
      have texts : NameSet.ofDatum (.list [.text " Etl "]) = .ok (NameSet.normalized [" Etl "]) :=
        NameSet.ofData_texts [" Etl "]
      obtain rfl := Except.ok.inj (texts.symm.trans listed)
      obtain ⟨book, goes_by, accounted⟩ := each (.ofName "etl") (by decide +kernel)
      obtain rfl : sampleCatalog.plansFor (NameSet.normalized [" Etl "]) = book :=
        Except.ok.inj goes_by
      have planned : (sampleCatalog.plansFor (NameSet.normalized [" Etl "])).planOf
          (.ofName "etl") = [⟨.text "3.1", .int 50⟩] := by
        decide +kernel
      have same : resolution.decisions.find? (.ofName "etl") = some nightlyDecision :=
        Option.some.inj decided
      rw [planned, same] at accounted
      exact accounted

end Resolver

end Rollout

import Rollout.Proofs.Resolution.RampupTier

/-!
# Resolutions for executions

A resolution that fails with the first fault, over a well kept catalog. The tiers share one set of
unresolved names and one look-up of ACTIVE versions each, and still every wanted type gets what the
reference says of it alone; the fault, when there is one, is the first in the order of precedence
(`ends_resolveWanted`).
-/

namespace Rollout

namespace Resolver

variable {c : Catalog} {policy : WalkPolicy} {flow : Option Flow} {answer : Datum}
  {wanted : NameSet}

/-! ## The rampup tier -/

/-- The decision that the rampup tier takes, if any. -/
def rampDecision (c : Catalog) : TypeKey → RampupOutcome → Option Decision :=
  tierDecision c.latestActive

/-- The evaluator has an answer for every wanted type, where an entry of its plan counts. -/
def JudgesAll (c : Catalog) (policy : WalkPolicy) (placed : Option (Flow × Int))
    (wanted : NameSet) : Prop :=
  ∀ key : TypeKey, key.text ∈ wanted → c.Judges policy placed key

/-- After the rampup tier: every wanted type is decided as its plan says, with the answers that the
evaluator had for it, and where a rule takes it away from the plan there is a version to replace
it. -/
structure Ramped (c : Catalog) (policy : WalkPolicy) (placed : Option (Flow × Int))
    (wanted : NameSet) (resolution : Resolution) : Prop where
  partitions : resolution.Partitions wanted
  decided : ∀ key : TypeKey, key.text ∈ wanted → ∃ outcome, c.Ramps policy placed key outcome ∧
    resolution.decisions.find? key = rampDecision c key outcome ∧
    ∀ excluded, excludedEntry key outcome = some excluded →
      ∃ version, c.latestActive key = some version
  judges : JudgesAll c policy placed wanted

/-- The index holds the stored plans of the wanted types. -/
def Indexes (c : Catalog) (wanted : NameSet) (index : OrderedMap TypeKey Plan) : Prop :=
  ∀ key : TypeKey, index.find? key = if key.text ∈ wanted then c.plans.find? key else none

/-- The indexed plans are those of the wanted types that have one. -/
theorem Indexes.find?_eq_some_iff (kept : c.WellKept) {index : OrderedMap TypeKey Plan}
    (indexes : Indexes c wanted index) {key : TypeKey} {stored : Plan} :
    index.find? key = some stored ↔ key.text ∈ wanted ∧ c.planOf key = stored ∧ stored ≠ [] := by
  rw [indexes]
  constructor
  · intro found
    split at found
    · rename_i wants
      refine ⟨wants, ?_, (kept.plans key stored found).1⟩
      rw [Catalog.planOf, found, Option.getD_some]
    · cases found
  · rintro ⟨wants, held, filled⟩
    rw [if_pos wants]
    rw [Catalog.planOf] at held
    cases found : c.plans.find? key with
    | none =>
      rw [found] at held
      exact absurd held.symm filled
    | some plan =>
      rw [found] at held
      exact congrArg some held

/-- The flow gets its place, or the bucket function's answer is refused. -/
theorem yields_place (planOrder : Datum) (wanted : NameSet) {bucketOf : Flow → Except Fault Datum}
    (answers : ∀ f, flow = some f → bucketOf f = .ok answer) :
    (¬ c.Unplaced flow answer wanted ∧
      ((c.resolver bucketOf planOrder).place flow).Yields (.ok (Catalog.placeOf flow answer))) ∨
    ((flow ≠ none ∧ ∀ n, answer = .int n → ¬ (1 ≤ n ∧ n ≤ bucketCount)) ∧
      ((c.resolver bucketOf planOrder).place flow).Yields (.error (.invalidBucket answer))) := by
  cases flow with
  | none =>
    left
    exact ⟨fun unplaced => unplaced.given rfl, Lookup.yields_pure none⟩
  | some f =>
    have asked : (Lookup.ask (.bucket f.identity)
        ((c.sources bucketOf).bucketOf · f)).Yields (.ok answer) :=
      Lookup.yields_ask _ fun _ => answers f rfl
    by_cases bucket : ∃ n, answer = .int n ∧ 1 ≤ n ∧ n ≤ bucketCount
    · left
      obtain ⟨n, rfl, inside⟩ := bucket
      have placed : Catalog.placeOf (some f) (.int n) = some (f, n) := if_pos inside
      rw [placed]
      refine ⟨fun unplaced => unplaced.outside n rfl inside, ?_⟩
      refine Lookup.Yields.bind_ok (asked.bind_ok ?_) (Lookup.yields_pure _)
      dsimp only
      rw [if_pos inside]
      exact Lookup.yields_pure n
    · right
      refine ⟨⟨Option.some_ne_none f, fun n same inside => bucket ⟨n, same, inside⟩⟩, ?_⟩
      refine Lookup.Yields.bind_error (asked.bind_ok ?_)
      cases answer with
      | int n =>
        dsimp only
        rw [if_neg fun inside => bucket ⟨n, rfl, inside⟩]
        exact Lookup.yields_throw _
      | _ => exact Lookup.yields_throw _

/-- A place has a bucket. -/
theorem placeOf_positive :
    ∀ f n, Catalog.placeOf flow answer = some (f, n) → 1 ≤ n := by
  intro f n placed
  unfold Catalog.placeOf at placed
  split at placed
  · split at placed
    · rename_i inside
      cases placed
      exact inside.1
    · cases placed
  · cases placed

/-- The decisions of the tier, type by type. -/
theorem find?_ramped (c : Catalog) {outcomes : List (TypeKey × RampupOutcome)}
    (nodup : (outcomes.map Prod.fst).Nodup) (bucket : Datum) (key : TypeKey) :
    ((takeChosen { unresolved := wanted, bucket := bucket } outcomes).decideAll
        (replacements c.latestActive (excludedTypes outcomes))).decisions.find? key =
      (OrderedMap.lookupEntry key outcomes).bind (rampDecision c key) := by
  rw [find?_decided c.latestActive _ nodup]
  exact Option.none_or

/-- Either every type that is to be replaced has a version for that, or there is a first one
without. -/
theorem all_latestActive_or_split (c : Catalog) (excluded : List (TypeKey × PlanEntry × Plan)) :
    (∀ entry ∈ excluded, ∃ version, c.latestActive entry.1 = some version) ∨
    ∃ before stranded after, excluded = before ++ stranded :: after ∧
      (∀ entry ∈ before, ∃ version, c.latestActive entry.1 = some version) ∧
      c.latestActive stranded.1 = none := by
  induction excluded with
  | nil => exact .inl (by simp)
  | cons entry rest ih =>
    cases latest : c.latestActive entry.1 with
    | none => exact .inr ⟨[], entry, rest, rfl, by simp, latest⟩
    | some version =>
      rcases ih with all | ⟨before, stranded, after, rfl, found, missing⟩
      · left
        intro each member
        rcases List.mem_cons.mp member with rfl | member
        · exact ⟨version, latest⟩
        · exact all each member
      · refine .inr ⟨entry :: before, stranded, after, rfl, ?_, missing⟩
        intro each member
        rcases List.mem_cons.mp member with rfl | member
        · exact ⟨version, latest⟩
        · exact found each member

/-- The types of the indexed plans are the wanted ones with a plan. -/
theorem Indexes.mem_keys_iff (kept : c.WellKept) {index : OrderedMap TypeKey Plan}
    (indexes : Indexes c wanted index) {key : TypeKey} :
    key ∈ (index.sortedBy TypeKey.text).map Prod.fst ↔
      key.text ∈ wanted ∧ c.planOf key ≠ [] := by
  rw [List.mem_map]
  constructor
  · rintro ⟨⟨key, stored⟩, member, rfl⟩
    obtain ⟨wants, held, filled⟩ :=
      (indexes.find?_eq_some_iff kept).mp (OrderedMap.mem_sortedBy.mp member)
    rw [held]
    exact ⟨wants, filled⟩
  · rintro ⟨wants, filled⟩
    refine ⟨(key, c.planOf key), OrderedMap.mem_sortedBy.mpr ?_, rfl⟩
    exact (indexes.find?_eq_some_iff kept).mpr ⟨wants, rfl, filled⟩

section Batch

variable {placed : Option (Flow × Int)} {index : OrderedMap TypeKey Plan}
  {outcomes : List (TypeKey × RampupOutcome)}

theorem HasOutcomes.nodup
    (had : HasOutcomes c policy placed (index.sortedBy TypeKey.text) outcomes) :
    (outcomes.map Prod.fst).Nodup := by
  rw [had.keys]
  exact OrderedMap.nodup_sortedBy _ index

/-- With an outcome for every indexed plan there is one for every wanted type, and the other types
have no entry. -/
theorem ramps_of_outcomes (kept : c.WellKept) (indexes : Indexes c wanted index)
    (had : HasOutcomes c policy placed (index.sortedBy TypeKey.text) outcomes) {key : TypeKey}
    (wants : key.text ∈ wanted) :
    ∃ outcome, c.Ramps policy placed key outcome ∧
      (OrderedMap.lookupEntry key outcomes).bind (rampDecision c key) =
        rampDecision c key outcome ∧
      (∀ excluded, excludedEntry key outcome = some excluded → (key, outcome) ∈ outcomes) ∧
      c.Judges policy placed key := by
  cases found : OrderedMap.lookupEntry key outcomes with
  | some outcome =>
    have member := (OrderedMap.lookupEntry_eq_some_iff had.nodup).mp found
    exact ⟨outcome, had.ramp _ member, rfl, fun _ _ => member, had.judges _ member⟩
  | none =>
    have missing : c.planOf key = [] := by
      have absent := (OrderedMap.lookupEntry_eq_none_iff key outcomes).mp found
      rw [had.keys, indexes.mem_keys_iff kept] at absent
      exact Decidable.byContradiction fun filled => absent ⟨wants, filled⟩
    exact ⟨.passed, Catalog.ramps_of_no_plan policy placed missing, rfl, fun _ => nofun,
      Catalog.judges_of_no_plan missing⟩

theorem ramped_of_outcomes (kept : c.WellKept) (normalized : wanted.IsNormalized)
    (indexes : Indexes c wanted index)
    (had : HasOutcomes c policy placed (index.sortedBy TypeKey.text) outcomes)
    (found : ∀ entry ∈ excludedTypes outcomes, ∃ version, c.latestActive entry.1 = some version)
    (bucket : Datum) :
    Ramped c policy placed wanted
      ((takeChosen { unresolved := wanted, bucket := bucket } outcomes).decideAll
        (replacements c.latestActive (excludedTypes outcomes))) := by
  have wants : ∀ key ∈ outcomes.map Prod.fst, key.text ∈ wanted := by
    intro key member
    rw [had.keys] at member
    exact ((indexes.mem_keys_iff kept).mp member).1
  constructor
  · exact partitions_decided c.latestActive (Resolution.partitions_start wanted bucket) normalized
      wants
  · intro key wants
    obtain ⟨outcome, ramps, decided, member, -⟩ := ramps_of_outcomes kept indexes had wants
    refine ⟨outcome, ramps, by rw [find?_ramped c had.nodup, decided], ?_⟩
    intro excluded made
    cases outcome with
    | excluded entry plan =>
      exact found (key, entry, plan) (mem_excludedTypes.mpr (member excluded made))
    | _ => cases made
  · intro key wants
    obtain ⟨-, -, -, -, judges⟩ := ramps_of_outcomes kept indexes had wants
    exact judges

/-- The first type with a fault decides the fault of the resolution. -/
theorem refusal_of_type (kept : c.WellKept) (placed : ¬ c.Unplaced flow answer wanted)
    (indexes : Indexes c wanted index) {fault : Fault}
    (first : FirstFault c policy (Catalog.placeOf flow answer) (index.sortedBy TypeKey.text) fault)
    (judges : JudgesAll c policy (Catalog.placeOf flow answer) wanted) :
    c.Refusal policy flow answer wanted fault := by
  obtain ⟨before, plan, after, split, cleared, refused⟩ := first
  have split_keys : (index.sortedBy TypeKey.text).map Prod.fst =
      before.map Prod.fst ++ plan.1 :: after.map Prod.fst := by
    rw [split, List.map_append, List.map_cons]
  have here : plan.1 ∈ (index.sortedBy TypeKey.text).map Prod.fst := by
    rw [split_keys]
    exact List.mem_append_right _ List.mem_cons_self
  have wants := ((indexes.mem_keys_iff kept).mp here).1
  have refuses := refused (judges plan.1 wants)
  refine .ofType placed ⟨wants, ⟨fault, refuses⟩, ?_⟩ refuses
  -- a type with a fault has a plan, and none of those before this one has a fault
  rintro other wants ⟨fault', refuses'⟩
  refine TypeKey.le_of_split (OrderedMap.ascending_sortedBy _ index) split_keys ?_ ?_
  · refine (indexes.mem_keys_iff kept).mpr ⟨wants, ?_⟩
    intro missing
    exact (Catalog.ramps_of_no_plan policy _ missing).not_refuses kept _ refuses'
  · intro early
    obtain ⟨earlier, member, rfl⟩ := List.mem_map.mp early
    obtain ⟨outcome, ramps⟩ := cleared earlier member
    exact ramps.not_refuses kept _ refuses'

/-- Where no type has a fault, the first one that cannot be replaced decides the fault. -/
theorem refusal_of_stranded (kept : c.WellKept) (placed : ¬ c.Unplaced flow answer wanted)
    (indexes : Indexes c wanted index)
    (had : HasOutcomes c policy (Catalog.placeOf flow answer) (index.sortedBy TypeKey.text)
      outcomes)
    {before after : List (TypeKey × PlanEntry × Plan)} {stranded : TypeKey × PlanEntry × Plan}
    (split : excludedTypes outcomes = before ++ stranded :: after)
    (found : ∀ entry ∈ before, ∃ version, c.latestActive entry.1 = some version)
    (missing : c.latestActive stranded.1 = none) :
    c.Refusal policy flow answer wanted
      (.ruleFallbackFailed (.text stranded.1.text) stranded.2.1.version) := by
  obtain ⟨key, entry, plan⟩ := stranded
  have here : (key, entry, plan) ∈ excludedTypes outcomes := by
    rw [split]
    exact List.mem_append_right _ List.mem_cons_self
  have excluded := mem_excludedTypes.mp here
  have wants : key.text ∈ wanted := by
    have listed : key ∈ outcomes.map Prod.fst := List.mem_map_of_mem (f := Prod.fst) excluded
    rw [had.keys] at listed
    exact ((indexes.mem_keys_iff kept).mp listed).1
  have strands : c.Strands policy (Catalog.placeOf flow answer) key entry := by
    cases had.ramp _ excluded with
    | excluded walks picks barred =>
      exact ⟨⟨_, walks, picks⟩, barred, Catalog.latestActive_eq_none_iff.mp missing⟩
  refine .fallback placed ?_ ⟨wants, ⟨entry, strands⟩, ?_⟩ strands
  · intro key wants fault
    obtain ⟨outcome, ramps, -⟩ := ramps_of_outcomes kept indexes had wants
    exact ramps.not_refuses kept fault
  · rintro other wants ⟨entry', ⟨walked, walks, picks⟩, barred, idle⟩
    obtain ⟨outcome, ramps, -, member, -⟩ := ramps_of_outcomes kept indexes had wants
    have ascending : ((excludedTypes outcomes).map Prod.fst).Pairwise
        fun a b => a.text ≤ b.text := by
      have sorted := OrderedMap.ascending_sortedBy TypeKey.text index
      rw [← had.keys] at sorted
      exact sorted.sublist (keys_excludedTypes outcomes)
    have split_keys : (excludedTypes outcomes).map Prod.fst =
        before.map Prod.fst ++ key :: after.map Prod.fst := by
      rw [split, List.map_append, List.map_cons]
    -- a type that cannot be replaced is excluded, and those before this one can be
    refine TypeKey.le_of_split ascending split_keys ?_ ?_
    · cases ramps with
      | passed walks' nobody => exact (picks.absurd walks walks' nobody).elim
      | chosen walks' picks' free =>
        obtain rfl := picks.unique kept walks walks' picks'
        exact absurd barred free
      | excluded =>
        exact List.mem_map_of_mem (f := Prod.fst) (mem_excludedTypes.mpr (member _ rfl))
    · intro early
      obtain ⟨earlier, among, rfl⟩ := List.mem_map.mp early
      obtain ⟨version, latest⟩ := found earlier among
      exact idle version (Catalog.latestActive_eq_some_iff.mp latest)

end Batch

/-- The rampup tier takes every wanted type as far as the reference says, or fails with the fault
that has precedence. -/
theorem ends_rampupTier (planOrder : Datum) (kept : c.WellKept)
    {bucketOf : Flow → Except Fault Datum} (answers : ∀ f, flow = some f → bucketOf f = .ok answer)
    (normalized : wanted.IsNormalized) {index : OrderedMap TypeKey Plan}
    (indexes : Indexes c wanted index) :
    ((c.resolver bucketOf planOrder).rampupTier false flow index { unresolved := wanted }).Ends
      (fun resolution => ¬ c.Unplaced flow answer wanted ∧
        Ramped c (.ofName planOrder) (Catalog.placeOf flow answer) wanted resolution)
      (fun fault => JudgesAll c (.ofName planOrder) (Catalog.placeOf flow answer) wanted →
        c.Refusal (.ofName planOrder) flow answer wanted fault) := by
  rw [rampupTier]
  split
  · -- no wanted type has a plan, and the bucket is not asked for
    rename_i nothing
    have missing : ∀ key : TypeKey, key.text ∈ wanted → c.planOf key = [] := by
      intro key wants
      have absent : key ∉ (index.sortedBy TypeKey.text).map Prod.fst := by
        rw [OrderedMap.sortedBy, List.isEmpty_iff.mp nothing]
        simp
      rw [indexes.mem_keys_iff kept] at absent
      exact Decidable.byContradiction fun filled => absent ⟨wants, filled⟩
    refine .inl ⟨_, ⟨?_, Resolution.partitions_start wanted .null, ?_, ?_⟩, Lookup.yields_pure _⟩
    · rintro ⟨-, ⟨key, wants, filled⟩, -⟩
      exact filled (missing key wants)
    · intro key wants
      exact ⟨.passed, Catalog.ramps_of_no_plan _ _ (missing key wants), rfl, nofun⟩
    · exact fun key wants => Catalog.judges_of_no_plan (missing key wants)
  · rename_i something
    have planned : ∃ key : TypeKey, key.text ∈ wanted ∧ c.planOf key ≠ [] := by
      obtain ⟨⟨key, stored⟩, member⟩ := List.exists_mem_of_ne_nil index.entries
        (by simpa [OrderedMap.isEmpty] using something)
      obtain ⟨wants, held, filled⟩ := (indexes.find?_eq_some_iff kept).mp
        ((index.find?_eq_some_iff key stored).mpr member)
      exact ⟨key, wants, by rw [held]; exact filled⟩
    rcases yields_place planOrder wanted answers with
      ⟨placed, placing⟩ | ⟨⟨given, outside⟩, refused⟩
    · have stored : ∀ plan ∈ index.sortedBy TypeKey.text,
          c.planOf plan.1 = plan.2 ∧ plan.2 ≠ [] := by
        intro plan member
        exact ((indexes.find?_eq_some_iff kept).mp (OrderedMap.mem_sortedBy.mp member)).2
      have walked := (ends_rampupTypes bucketOf planOrder kept placeOf_positive stored).imp
        (fun _ had => had) fun _ first => refusal_of_type kept placed indexes first
      refine .after placing (walked.bind fun outcomes had => ?_)
      rcases all_latestActive_or_split c (excludedTypes outcomes) with
        found | ⟨before, stranded, after, split, found, missing⟩
      · exact .inl ⟨_, ⟨placed, ramped_of_outcomes kept normalized indexes had found _⟩,
          yields_ruleFallback bucketOf planOrder kept _ found⟩
      · have refusal := refusal_of_stranded kept placed indexes had split found missing
        exact .inr ⟨_, fun _ => refusal,
          yields_ruleFallback_error bucketOf planOrder kept _ split found missing⟩
    · exact .inr ⟨_, fun _ => .bucket ⟨given, planned, outside⟩, refused.bind_error⟩

/-! ## The active tier -/

/-- The active tier leaves what is decided, and decides every other wanted type that has an ACTIVE
version. -/
theorem yields_activeTier (tolerant : Bool) (planOrder : Datum) (kept : c.WellKept)
    (bucketOf : Flow → Except Fault Datum) (normalized : wanted.IsNormalized)
    {resolution : Resolution} (partitions : resolution.Partitions wanted) :
    ∃ next, next.Partitions wanted ∧
      (∀ key : TypeKey, key.text ∈ wanted → next.decisions.find? key =
        (resolution.decisions.find? key).or ((c.latestActive key).map fun version =>
          { version := some version, selection := .active })) ∧
      ((c.resolver bucketOf planOrder).activeTier tolerant resolution).Yields (.ok next) := by
  rw [activeTier]
  split
  · rename_i nothing
    refine ⟨resolution, partitions, ?_, Lookup.yields_pure _⟩
    intro key wants
    obtain ⟨decision, decided⟩ := partitions.decided_of_isEmpty nothing wants
    rw [decided]
    rfl
  · have asked : resolution.unresolved.IsNormalized :=
      fun name member => normalized name ((partitions.unresolved_iff name).mp member).1
    obtain ⟨active, indexed, listed⟩ := Catalog.firstByKey_activeVersions kept asked
    obtain ⟨next, taken, onward, decided⟩ := takeFirst_latest .active normalized partitions
      (some (c.activeVersions resolution.unresolved)) indexed listed
    refine ⟨next, onward, decided, ?_⟩
    exact (yields_fetchActive bucketOf tolerant planOrder _).bind_ok (Lookup.yields_give taken)

/-! ## All tiers -/

/-- A resolution without fault: the bucket is one, the wanted names are decided or unresolved, and
every wanted type gets what the reference says, with the answers that the evaluator had for it. -/
structure Resolved (c : Catalog) (policy : WalkPolicy) (flow : Option Flow) (answer : Datum)
    (wanted : NameSet) (resolution : Resolution) : Prop where
  placed : ¬ c.Unplaced flow answer wanted
  partitions : resolution.Partitions wanted
  settles : ∀ key : TypeKey, key.text ∈ wanted →
    c.Settles policy (Catalog.placeOf flow answer) key (resolution.decisions.find? key)
  judges : JudgesAll c policy (Catalog.placeOf flow answer) wanted

/-- What the rampup tier decides, and the active tier else, is what the reference says. -/
theorem Ramped.settles {placed : Option (Flow × Int)} {resolution : Resolution}
    (ramped : Ramped c policy placed wanted resolution) {key : TypeKey}
    (wants : key.text ∈ wanted) :
    c.Settles policy placed key ((resolution.decisions.find? key).or
      ((c.latestActive key).map fun version =>
        { version := some version, selection := .active })) := by
  obtain ⟨outcome, ramps, decided, replaced⟩ := ramped.decided key wants
  rw [decided]
  cases ramps with
  | passed walks nobody =>
    cases latest : c.latestActive key with
    | some version => exact .active walks nobody (Catalog.latestActive_eq_some_iff.mp latest)
    | none => exact .unresolved walks nobody (Catalog.latestActive_eq_none_iff.mp latest)
  | chosen walks picks free holds => exact .rampup walks picks free holds
  | excluded walks picks barred =>
    obtain ⟨version, latest⟩ := replaced _ rfl
    simp only [rampDecision, tierDecision, replacement, latest, Option.map_some, Option.some_or]
    exact .replaced walks picks barred (Catalog.latestActive_eq_some_iff.mp latest)

/-- The plans that a resolution runs on are those that the catalog holds for the wanted types. -/
def Books (r : Resolver) (c : Catalog) (wanted : NameSet) (plans : Option PlanBook) : Prop :=
  ∃ book index, (r.bookFor false wanted plans).Yields (.ok book) ∧
    (book.indexed wanted).1 = .ok index ∧ Indexes c wanted index

theorem books_asked (c : Catalog) (bucketOf : Flow → Except Fault Datum) (planOrder : Datum)
    (normalized : wanted.IsNormalized) : Books (c.resolver bucketOf planOrder) c wanted none := by
  obtain ⟨index, indexed, indexes⟩ := c.indexed_plansFor normalized
  exact ⟨_, index, Lookup.yields_ask _ fun _ => rfl, indexed, indexes⟩

theorem books_plansFor (r : Resolver) (c : Catalog) (normalized : wanted.IsNormalized) :
    Books r c wanted (some (c.plansFor wanted)) := by
  obtain ⟨index, indexed, indexes⟩ := c.indexed_plansFor normalized
  exact ⟨_, index, Lookup.yields_pure _, indexed, indexes⟩

theorem books_allPlans (r : Resolver) (c : Catalog) (wanted : NameSet) :
    Books r c wanted (some c.allPlans) := by
  obtain ⟨index, indexed, indexes⟩ := c.indexed_allPlans wanted
  exact ⟨_, index, Lookup.yields_pure _, indexed, indexes⟩

/-- The tiers give every wanted type what the reference says, or fail with the fault that has
precedence. -/
theorem ends_resolveWanted (planOrder : Datum) (kept : c.WellKept)
    {bucketOf : Flow → Except Fault Datum} (answers : ∀ f, flow = some f → bucketOf f = .ok answer)
    (normalized : wanted.IsNormalized) {plans : Option PlanBook}
    (books : Books (c.resolver bucketOf planOrder) c wanted plans) :
    ((c.resolver bucketOf planOrder).resolveWanted flow wanted false plans).Ends
      (Resolved c (.ofName planOrder) flow answer wanted)
      (fun fault => JudgesAll c (.ofName planOrder) (Catalog.placeOf flow answer) wanted →
        c.Refusal (.ofName planOrder) flow answer wanted fault) := by
  rw [resolveWanted]
  split
  · rename_i nothing
    have unwanted : ∀ key : TypeKey, key.text ∉ wanted :=
      fun key => NameSet.not_mem_of_isEmpty nothing key.text
    refine .inl ⟨_, ⟨?_, Resolution.partitions_start wanted .null, ?_, ?_⟩, Lookup.yields_pure _⟩
    · rintro ⟨-, ⟨key, wants, -⟩, -⟩
      exact unwanted key wants
    · intro key wants
      exact absurd wants (unwanted key)
    · exact fun key wants => absurd wants (unwanted key)
  · obtain ⟨book, index, booked, indexed, indexes⟩ := books
    have settled := Lookup.yields_settle indexed
    have ramp := ends_rampupTier planOrder kept answers normalized indexes
    refine .after booked (.after settled (ramp.bind ?_))
    rintro resolution ⟨placed, ramped⟩
    obtain ⟨next, partitions, decided, active⟩ :=
      yields_activeTier false planOrder kept bucketOf normalized ramped.partitions
    refine .inl ⟨next, ⟨placed, partitions, ?_, ramped.judges⟩,
      active.bind_ok (Lookup.yields_pure next)⟩
    intro key wants
    rw [decided key wants]
    exact ramped.settles wants

theorem ends_resolve (planOrder : Datum) (kept : c.WellKept)
    {bucketOf : Flow → Except Fault Datum} (answers : ∀ f, flow = some f → bucketOf f = .ok answer)
    {names : Datum} (listed : NameSet.ofDatum names = .ok wanted)
    (normalized : wanted.IsNormalized) {plans : Option PlanBook}
    (books : Books (c.resolver bucketOf planOrder) c wanted plans) :
    ((c.resolver bucketOf planOrder).resolve flow names false plans).Ends
      (Resolved c (.ofName planOrder) flow answer wanted)
      (fun fault => JudgesAll c (.ofName planOrder) (Catalog.placeOf flow answer) wanted →
        c.Refusal (.ofName planOrder) flow answer wanted fault) :=
  .after (Lookup.yields_give listed)
    (ends_resolveWanted planOrder kept answers normalized books)

/-! ## The reference -/

/-- **A resolution that returns gives every named type what the reference says of it alone.** The
flow falls into a bucket; the wanted names are those of the decided types and the unresolved ones,
and the decision for a type, or that it has none, is the only one that the reference allows. -/
theorem resolve_settles {c : Catalog} (reached : c.Reachable)
    {bucketOf : Flow → Except Fault Datum} {planOrder : Datum} {flow : Flow} {bucket : Int}
    (falls : bucketOf flow = .ok (.int bucket)) (low : 1 ≤ bucket) (high : bucket ≤ bucketCount)
    {names : Datum} {texts : List String} (listed : names.items = .ok (texts.map .text))
    {resolution : Resolution}
    (returned : ((c.resolver bucketOf planOrder).resolve (some flow) names false none).start.1 =
      .ok resolution) :
    resolution.Partitions (NameSet.normalized texts) ∧
    ∀ key : TypeKey, key.text ∈ NameSet.normalized texts → ∀ outcome,
      c.Settles (.ofName planOrder) (some (flow, bucket)) key outcome ↔
        outcome = resolution.decisions.find? key := by
  have kept := reached.wellKept
  have answers : ∀ f, some flow = some f → bucketOf f = .ok (.int bucket) := by
    rintro f ⟨⟩
    exact falls
  have place : Catalog.placeOf (some flow) (.int bucket) = some (flow, bucket) :=
    if_pos ⟨low, high⟩
  have normalized := NameSet.isNormalized_normalized texts
  rcases ends_resolve planOrder kept answers (NameSet.ofDatum_texts listed) normalized
      (books_asked c bucketOf planOrder normalized) with
    ⟨other, resolved, done⟩ | ⟨fault, -, failed⟩
  · obtain rfl : other = resolution := Except.ok.inj (done.start_eq.symm.trans returned)
    refine ⟨resolved.partitions, ?_⟩
    intro key wants outcome
    have settles := resolved.settles key wants
    rw [place] at settles
    constructor
    · intro other
      exact other.unique kept settles
    · rintro rfl
      exact settles
  · exact nomatch failed.start_eq.symm.trans returned

/-- A catalog with a rule that keeps nightly flows away from the version in its plan. -/
def sampleCatalog : Catalog :=
  [Catalog.Change.addVersion "etl" "3.0" .null (.text "ACTIVE") .null,
   .addVersion "etl" "3.1" .null (.text "NEW") .null,
   .setPlan "ETL" [("3.1", .int 50)],
   .addRule .null "night*" "etl" "3.1"].foldl Catalog.after Catalog.empty

def nightly : Flow := { name := .text "nightly" }

def nightlyDecision : Decision where
  version := some
    { imageType := .text "etl", version := .text "3.0", path := .text "registry/etl"
      state := .active }
  selection := .active
  plan := [⟨.text "3.1", .int 50⟩]

theorem resolve_settles_nightly : ∃ resolution,
    ((sampleCatalog.resolver (fun _ => .ok (.int 10)) .null).resolve (some nightly)
      (.list [.text " Etl "]) false none).start.1 = .ok resolution ∧
    sampleCatalog.Settles .normalize (some (nightly, 10)) (.ofName "etl")
      (some nightlyDecision) := by
  have decided : (((sampleCatalog.resolver (fun _ => .ok (.int 10)) .null).resolve (some nightly)
      (.list [.text " Etl "]) false none).start.1.map
        (·.decisions.find? (.ofName "etl"))).toOption = some (some nightlyDecision) := by
    decide +kernel
  cases returned : ((sampleCatalog.resolver (fun _ => .ok (.int 10)) .null).resolve (some nightly)
      (.list [.text " Etl "]) false none).start.1 with
  | error fault =>
    rw [returned] at decided
    cases decided
  | ok resolution =>
    rw [returned] at decided
    refine ⟨resolution, rfl, ?_⟩
    have reached : sampleCatalog.Reachable := Catalog.reachable_iff.mpr ⟨_, rfl⟩
    have listed : (Datum.list [.text " Etl "]).items = .ok ([" Etl "].map .text) := rfl
    have spec := resolve_settles reached rfl (by decide) (by decide) listed returned
    exact (spec.2 (.ofName "etl") (by decide +kernel) _).mpr (Option.some.inj decided).symm

end Resolver

end Rollout

import Rollout.Proofs.Lookup.Closed
import Rollout.Proofs.Resolution.Versions

/-!
# The questions of a resolution

What the tiers ask, and nothing else, decides which composed properties a resolution has: the
version catalog and the plan store are asked whatever the flow, the bucket function and the rule
evaluator only about a flow that is given (`QuestionsHave`). Their other steps are silent. The tiers
are gone through here once, and `QuestionsHave.resolveWanted` is what becomes of them.
-/

namespace Rollout.Resolver

open Lookup

variable {r : Resolver} {flow : Option Flow} {P : ∀ ⦃α : Type⦄, Lookup α → Prop} {tolerant : Bool}

/-- Every question that a resolution for the flow may put has the property. -/
structure QuestionsHave (r : Resolver) (flow : Option Flow)
    (P : ∀ ⦃α : Type⦄, Lookup α → Prop) : Prop where
  findVersions : ∀ name label,
    P (ask (.findVersions name label) (r.sources.findVersions · name label))
  activeVersions : ∀ names, P (ask (.activeVersions names) (r.sources.activeVersions · names))
  latestVersions : ∀ names, P (ask (.latestVersions names) (r.sources.latestVersions · names))
  plansFor : ∀ names, P (ask (.plansFor names) (r.sources.plansFor · names))
  bucket : ∀ f, flow = some f → P (ask (.bucket f.identity) (r.sources.bucketOf · f))
  isExcluded : ∀ f, flow = some f → ∀ key label,
    P (askThrough (.isExcluded f.name key label) (r.sources.isExcluded · f.name key label))

theorem determined_questions (r : Resolver) (flow : Option Flow) :
    r.QuestionsHave flow fun _ lookup => lookup.Determined where
  findVersions _ _ := determined_ask _ _
  activeVersions _ := determined_ask _ _
  latestVersions _ := determined_ask _ _
  plansFor _ := determined_ask _ _
  bucket _ _ := determined_ask _ _
  isExcluded _ _ _ _ := determined_askThrough _ _

/-! ## Looking up -/

theorem composed_fetch {α : Type} {lookup : Lookup α} (composed : Composed P) (has : P lookup)
    (what : String) (default : α) : P (fetch tolerant what default lookup) := by
  cases tolerant with
  | true => exact composed.orElse has fun _ =>
      composed.bind (composed.silent (silent_warn _)) fun _ => composed.silent (silent_pure _)
  | false => exact has

theorem QuestionsHave.fetchActive (questions : r.QuestionsHave flow P) (composed : Composed P)
    (names : NameSet) : P (r.fetchActive tolerant names) :=
  composed_fetch composed (questions.activeVersions names) _ _

theorem QuestionsHave.exactVersion (questions : r.QuestionsHave flow P) (composed : Composed P)
    (name label : Datum) : P (r.exactVersion name label) := by
  refine composed.bind (questions.findVersions name label) fun found =>
    composed.bind (composed.silent (silent_give ?_)) fun version => ?_
  · exact Fallible.failsOnly_find? (fun v => v.external_isNamed name label) _
  cases version with
  | some version => exact composed.silent (silent_pure version)
  | none => exact composed.silent (silent_throw id)

theorem QuestionsHave.bucketOf (questions : r.QuestionsHave flow P) (composed : Composed P)
    {f : Flow} (given : flow = some f) : P (r.bucketOf f) := by
  refine composed.bind (questions.bucket f given) fun answer => ?_
  split
  · split
    · exact composed.silent (silent_pure _)
    · exact composed.silent (silent_throw id)
  · exact composed.silent (silent_throw id)

/-! ## The rampup tier -/

theorem silent_walkOrder (r : Resolver) (tolerant : Bool) (key : TypeKey) (stored : Plan) :
    (r.walkOrder tolerant key stored).IsSilent := by
  have settled := Plan.settled_order (.text key.text) (.ofName r.planOrder) stored
  unfold walkOrder
  revert settled
  rcases stored.order (.text key.text) (.ofName r.planOrder) with ⟨result, notices⟩
  intro settled
  cases result with
  | ok walked => exact ⟨.ok walked, settled, fun _ => ⟨rfl, rfl, rfl⟩⟩
  | error fault =>
    -- a plan that is refused is skipped where that is allowed, and every other fault is passed on
    cases tolerant with
    | false => exact ⟨.error fault, settled, fun _ => by cases fault <;> exact ⟨rfl, rfl, rfl⟩⟩
    | true =>
      cases fault with
      | invalidPlan => exact ⟨.ok [], Fallible.failsOnly_ok [], fun _ => ⟨rfl, rfl, rfl⟩⟩
      | _ => exact ⟨_, settled, fun _ => ⟨rfl, rfl, rfl⟩⟩

theorem QuestionsHave.chooseEntry (questions : r.QuestionsHave flow P) (composed : Composed P)
    (key : TypeKey) (entry : PlanEntry) (plan : Plan) :
    P (r.chooseEntry tolerant key entry plan) := by
  have has := composed.bind (questions.exactVersion composed (.text key.text) entry.version)
    fun version => composed.silent (silent_pure (RampupOutcome.chosen version plan))
  rw [Resolver.chooseEntry]
  split
  · exact composed.orElse has fun _ =>
      composed.bind (composed.silent (silent_warn _)) fun _ => composed.silent (silent_pure _)
  · exact has

/-- A rule is asked about only for the flow in its place. -/
theorem QuestionsHave.rampupType (questions : r.QuestionsHave flow P) (composed : Composed P)
    {placed : Option (Flow × Int)} (given : ∀ f n, placed = some (f, n) → flow = some f)
    (key : TypeKey) (stored : Plan) : P (r.rampupType tolerant placed key stored) := by
  refine composed.bind (composed.silent (r.silent_walkOrder tolerant key stored)) fun walked => ?_
  split
  · exact questions.chooseEntry composed _ _ _
  · refine composed.bind (composed.silent (silent_give ?_)) fun owner => ?_
    · exact Plan.external_matchBucketFrom (.int 0) _ _
    cases owner with
    | none => exact composed.silent (silent_pure _)
    | some entry =>
      refine composed.bind (questions.isExcluded _ (given _ _ rfl) _ _) fun barred => ?_
      cases barred with
      | true => exact composed.silent (silent_pure _)
      | false => exact questions.chooseEntry composed _ _ _
  · exact composed.silent (silent_pure _)

theorem QuestionsHave.rampupTypes (questions : r.QuestionsHave flow P) (composed : Composed P)
    {placed : Option (Flow × Int)} (given : ∀ f n, placed = some (f, n) → flow = some f)
    (plans : List (TypeKey × Plan)) : P (r.rampupTypes tolerant placed plans) := by
  induction plans with
  | nil => exact composed.silent (silent_pure _)
  | cons plan rest ih =>
    exact composed.bind (questions.rampupType composed given _ _) fun outcome =>
      composed.bind ih fun _ => composed.silent (silent_pure _)

theorem composed_replaceExcluded (composed : Composed P) (active : OrderedMap TypeKey ImageVersion)
    (resolution : Resolution) (excluded : List (TypeKey × PlanEntry × Plan)) :
    P (replaceExcluded tolerant active resolution excluded) := by
  induction excluded generalizing resolution with
  | nil => exact composed.silent (silent_pure _)
  | cons first rest ih =>
    rw [replaceExcluded]
    split
    · exact ih _
    · split
      · exact composed.bind (composed.silent (silent_warn _)) fun _ => ih _
      · exact composed.silent (silent_throw id)

theorem QuestionsHave.ruleFallback (questions : r.QuestionsHave flow P) (composed : Composed P)
    (resolution : Resolution) (excluded : List (TypeKey × PlanEntry × Plan)) :
    P (r.ruleFallback tolerant resolution excluded) := by
  rw [Resolver.ruleFallback]
  split
  · exact composed.silent (silent_pure _)
  · exact composed.bind (questions.fetchActive composed _) fun versions =>
      composed.bind (composed.silent (silent_give (external_firstByKey _ _))) fun active =>
        composed_replaceExcluded composed active resolution excluded

theorem QuestionsHave.rampupTier (questions : r.QuestionsHave flow P) (composed : Composed P)
    (plans : OrderedMap TypeKey Plan) (resolution : Resolution) :
    P (r.rampupTier tolerant flow plans resolution) := by
  rw [Resolver.rampupTier]
  split
  · exact composed.silent (silent_pure _)
  · have onward : ∀ (placed : Option (Flow × Int)) (bucket : Datum),
        (∀ f n, placed = some (f, n) → flow = some f) →
        P (do
          let outcomes ← r.rampupTypes tolerant placed (plans.sortedBy TypeKey.text)
          r.ruleFallback tolerant (takeChosen { resolution with bucket := bucket } outcomes)
            (excludedTypes outcomes)) :=
      fun placed bucket given => composed.bind (questions.rampupTypes composed given _)
        fun outcomes => questions.ruleFallback composed _ _
    cases flow with
    | none => exact onward none _ (by rintro _ _ ⟨⟩)
    | some f =>
      -- the place holds the flow itself, which a property of look-ups cannot tell by itself
      rw [Resolver.place, bind_assoc]
      refine composed.bind (questions.bucketOf composed rfl) fun n => ?_
      rw [pure_bind]
      exact onward (some (f, n)) _ fun _ _ same => congrArg (·.map Prod.fst) same

/-! ## All tiers -/

/-! A later tier asks one question of the version catalog. -/

theorem composed_activeTier (composed : Composed P)
    (asks : ∀ names, P (ask (.activeVersions names) (r.sources.activeVersions · names)))
    (resolution : Resolution) : P (r.activeTier tolerant resolution) := by
  rw [Resolver.activeTier]
  split
  · exact composed.silent (silent_pure _)
  · exact composed.bind (composed_fetch composed (asks _) _ _) fun versions =>
      composed.silent (silent_give (external_takeFirst _ _ _))

theorem composed_nonActiveTier (composed : Composed P)
    (asks : ∀ names, P (ask (.latestVersions names) (r.sources.latestVersions · names)))
    (resolution : Resolution) : P (r.nonActiveTier resolution) := by
  rw [Resolver.nonActiveTier]
  split
  · exact composed.silent (silent_pure _)
  · exact composed.bind (composed_fetch composed (asks _) _ _) fun versions =>
      composed.silent (silent_give (external_takeFirst _ _ _))

theorem QuestionsHave.resolveWanted (questions : r.QuestionsHave flow P) (composed : Composed P)
    (wanted : NameSet) (plans : Option PlanBook) :
    P (r.resolveWanted flow wanted tolerant plans) := by
  rw [Resolver.resolveWanted]
  split
  · exact composed.silent (silent_pure _)
  · have booked : P (r.bookFor tolerant wanted plans) := by
      cases plans with
      | some book => exact composed.silent (silent_pure book)
      | none => exact composed_fetch composed (questions.plansFor wanted) _ _
    refine composed.bind booked fun book => ?_
    have settled := composed.silent (silent_settle (book.external_indexed wanted))
    refine composed.bind settled fun index => ?_
    refine composed.bind (questions.rampupTier composed _ _) fun ramped => ?_
    refine composed.bind (composed_activeTier composed questions.activeVersions _) fun active => ?_
    split
    · exact composed_nonActiveTier composed questions.latestVersions _
    · exact composed.silent (silent_pure _)

/-! ## Requests -/

/-- The last step of a request: the versions, unless a type is left over that is not exempt. -/
def conclude (exempt : Except Fault NameSet) (resolution : Resolution) :
    Lookup (List (TypeKey × VersionInfo)) := do
  Lookup.reach resolution
  let missing := resolution.unresolved.diff (← Lookup.give exempt)
  if missing.isEmpty then return resolution.versionInfos
  else throw (.unresolvedTypes missing.toList)

/-- Without exempt types, the last step looks at all that are left over. -/
theorem conclude_empty (resolution : Resolution) :
    conclude (.ok NameSet.empty) resolution = (do
      Lookup.reach resolution
      if resolution.unresolved.isEmpty then return resolution.versionInfos
      else throw (.unresolvedTypes resolution.unresolved.toList)) := by
  rw [← resolution.unresolved.diff_empty]
  rfl

/-- The request for all types is the one for named types with these names and none exempt. -/
theorem execution_eq (r : Resolver) (flow : Option Flow) :
    r.execution flow = (do
      let names ← r.typeNames
      let book ← Lookup.ask .allPlans r.sources.allPlans
      let wanted ← Lookup.give (NameSet.ofDatum (.list names))
      r.resolveWanted flow wanted false (some book) >>= conclude (.ok NameSet.empty)) := by
  simp only [execution, resolve, bind_assoc, ← conclude_empty]

/-- The request for named types resolves them over the plans that are answered for them. -/
theorem subsetWanted_eq (r : Resolver) (flow : Option Flow) (wanted : NameSet)
    (exempt : Except Fault NameSet) :
    r.subsetWanted flow wanted exempt = (do
      let book ← Lookup.ask (.plansFor wanted) (r.sources.plansFor · wanted)
      r.resolveWanted flow wanted false (some book) >>= conclude exempt) := rfl

theorem closed_conclude (closed : Closed P) (exempt : Except Fault NameSet)
    (resolution : Resolution) : P (conclude exempt resolution) := by
  refine closed.bind (closed.quiet (quiet_reach _)) fun _ =>
    closed.bind (closed.quiet (quiet_give _)) fun exempted => ?_
  dsimp only
  split
  · exact closed.quiet (quiet_pure _)
  · exact closed.quiet (quiet_throw _)

theorem QuestionsHave.concluded (questions : r.QuestionsHave flow P) (closed : Closed P)
    (wanted : NameSet) (plans : Option PlanBook) (exempt : Except Fault NameSet) :
    P (r.resolveWanted flow wanted tolerant plans >>= conclude exempt) :=
  closed.bind (questions.resolveWanted closed.composed wanted plans) fun resolution =>
    closed_conclude closed exempt resolution

theorem QuestionsHave.subsetWanted (questions : r.QuestionsHave flow P) (closed : Closed P)
    (wanted : NameSet) (exempt : Except Fault NameSet) :
    P (r.subsetWanted flow wanted exempt) :=
  closed.bind (questions.plansFor wanted) fun book =>
    questions.concluded closed wanted (some book) exempt

end Rollout.Resolver

import Rollout.Fallible
import Rollout.Sources

/-!
# The tiers

A version is chosen for each image type by the first **tier** that has one:

1. **rampup**: the entry of the type's plan that owns the flow's bucket, or the stored first
   entry when there is no flow; a flow that a rule excludes from that version gets the ACTIVE
   one instead;
2. **active**: the latest ACTIVE version;
3. **non-active**, on request only: the latest version in any state.

Each tier asks once for all types that the tiers before it left unresolved. A **tolerant**
resolution, which is one that asks for the third tier, takes a failed look-up for an empty one
and leaves a warning; any other resolution fails with it. What a source answers is taken apart
outside of the look-up: a version found under a name that is no text fails every resolution.
-/

namespace Rollout

/-- Resolves versions from sources, under a policy for plans that do not ascend. -/
structure Resolver where
  sources : Sources
  /-- The name of the policy, or what was given for it. -/
  planOrder : Datum

namespace Resolver

/-- Looks up, and takes `default` for a failure when tolerant. -/
def fetch {α : Type} (tolerant : Bool) (what : String) (default : α) (lookup : Lookup α) :
    Lookup α :=
  if tolerant then
    lookup.orElse fun fault => do
      Lookup.warn s!"Failed to fetch {what}: {fault.message}"
      return default
  else lookup

/-- The names of the registered image types. -/
def typeNames (r : Resolver) : Lookup (List Datum) := do
  let types ← Lookup.ask .imageTypes r.sources.imageTypes
  return types.map ImageType.name

/-- The version with exactly this name and label: the first candidate that has both. -/
def exactVersion (r : Resolver) (name label : Datum) : Lookup ImageVersion := do
  let found ← Lookup.ask (.findVersions name label) (r.sources.findVersions · name label)
  match ← Lookup.give (Fallible.find? (·.isNamed name label) (found.getD [])) with
  | some version => return version
  | none => throw (.versionNotFound name label "not in the image version catalog")

/-- Takes a version into the index, if its type is wanted and new to it. -/
def indexVersion (wanted : NameSet) (index : OrderedMap TypeKey ImageVersion)
    (version : ImageVersion) : Except Fault (OrderedMap TypeKey ImageVersion) := do
  let key ← version.key
  return if wanted.contains key.text && !index.contains key then index.put key version else index

/-- The first version of each wanted type, by key. -/
def firstByKey (versions : List ImageVersion) (wanted : NameSet) :
    Except Fault (OrderedMap TypeKey ImageVersion) :=
  versions.foldlM (indexVersion wanted) OrderedMap.empty

/-- The bucket that the bucket function answers, if it is one. -/
def bucketOf (r : Resolver) (flow : Flow) : Lookup Int := do
  match ← Lookup.ask (.bucket flow.identity) (r.sources.bucketOf · flow) with
  | .int n => if 1 ≤ n ∧ n ≤ bucketCount then return n else throw (.invalidBucket (.int n))
  | answer => throw (.invalidBucket answer)

/-! ## Rampup -/

/-- What the rampup tier makes of one type. -/
inductive RampupOutcome where
  /-- The type is left to the next tier. -/
  | passed
  /-- The plan chooses the version. -/
  | chosen (version : ImageVersion) (plan : Plan)
  /-- A rule excludes the flow from the entry's version. -/
  | excluded (entry : PlanEntry) (plan : Plan)

/-- The plan in walking order; a tolerant resolution skips one that is refused. -/
def walkOrder (r : Resolver) (tolerant : Bool) (key : TypeKey) (stored : Plan) :
    Lookup Plan :=
  (Lookup.settle (stored.order (.text key.text) (.ofName r.planOrder))).orElse fun fault =>
    match fault, tolerant with
    | .invalidPlan .., true => do
      Lookup.warn s!"Skipping rampup plan: {fault.message}"
      return []
    | _, _ => throw fault

/-- Looks up the version of a plan's entry. -/
def chooseEntry (r : Resolver) (tolerant : Bool) (key : TypeKey) (entry : PlanEntry)
    (plan : Plan) : Lookup RampupOutcome :=
  let lookup : Lookup RampupOutcome := do
    return .chosen (← r.exactVersion (.text key.text) entry.version) plan
  if tolerant then
    lookup.orElse fun fault => do
      Lookup.warn s!"Rampup version unavailable: {fault.message}"
      return .passed
  else lookup

/-- The rampup tier for one type. Without a flow the stored first entry counts, whatever the
order in which the plan is walked. -/
def rampupType (r : Resolver) (tolerant : Bool) (placed : Option (Flow × Int)) (key : TypeKey)
    (stored : Plan) : Lookup RampupOutcome := do
  let plan ← r.walkOrder tolerant key stored
  match plan, stored, placed with
  | _ :: _, first :: _, none => r.chooseEntry tolerant key first plan
  | _ :: _, _, some (flow, bucket) =>
    match ← Lookup.give (plan.matchBucket (.int bucket)) with
    | none => return .passed
    | some entry =>
      if ← Lookup.askThrough (.isExcluded flow.name key entry.version)
          (r.sources.isExcluded · flow.name key entry.version) then
        return .excluded entry plan
      else r.chooseEntry tolerant key entry plan
  | _, _, _ => return .passed

/-- The rampup tier for types in the given order. -/
def rampupTypes (r : Resolver) (tolerant : Bool) (placed : Option (Flow × Int)) :
    List (TypeKey × Plan) → Lookup (List (TypeKey × RampupOutcome))
  | [] => return []
  | (key, stored) :: rest => do
    let outcome ← r.rampupType tolerant placed key stored
    return (key, outcome) :: (← r.rampupTypes tolerant placed rest)

/-- The versions that the plans choose, as decisions. -/
def takeChosen (resolution : Resolution) (outcomes : List (TypeKey × RampupOutcome)) :
    Resolution :=
  outcomes.foldl
    (fun resolution (key, outcome) =>
      match outcome with
      | .chosen version plan =>
        resolution.decide key { version := some version, selection := .rampup, plan := plan }
      | _ => resolution)
    resolution

/-- The types that a rule takes away from their plan. -/
def excludedTypes (outcomes : List (TypeKey × RampupOutcome)) :
    List (TypeKey × PlanEntry × Plan) :=
  outcomes.filterMap fun (key, outcome) =>
    match outcome with
    | .excluded entry plan => some (key, entry, plan)
    | _ => none

/-- Gives excluded types their ACTIVE version. -/
def replaceExcluded (tolerant : Bool) (active : OrderedMap TypeKey ImageVersion) :
    Resolution → List (TypeKey × PlanEntry × Plan) → Lookup Resolution
  | resolution, [] => return resolution
  | resolution, (key, entry, plan) :: rest =>
    match active.find? key with
    | some version =>
      replaceExcluded tolerant active
        (resolution.decide key { version := some version, selection := .active, plan := plan })
        rest
    | none => do
      if tolerant then
        Lookup.warn s!"No ACTIVE version to replace rule-excluded {key.text}"
        replaceExcluded tolerant active resolution rest
      else throw (.ruleFallbackFailed (.text key.text) entry.version)

/-- Asks once for the ACTIVE versions of the types. -/
def fetchActive (r : Resolver) (tolerant : Bool) (names : NameSet) :
    Lookup (Option (List ImageVersion)) :=
  fetch tolerant "ACTIVE versions" none
    (Lookup.ask (.activeVersions names) (r.sources.activeVersions · names))

/-- The fallback of the types that rules take away from their plans, in one look-up. -/
def ruleFallback (r : Resolver) (tolerant : Bool) (resolution : Resolution)
    (excluded : List (TypeKey × PlanEntry × Plan)) : Lookup Resolution := do
  if excluded.isEmpty then return resolution
  let names := NameSet.ofList (excluded.map fun (key, _) => key.text)
  let versions ← r.fetchActive tolerant names
  let active ← Lookup.give (firstByKey (versions.getD []) names)
  replaceExcluded tolerant active resolution excluded

/-- The bucket of the flow, when there is one. -/
def place (r : Resolver) : Option Flow → Lookup (Option (Flow × Int))
  | none => return none
  | some flow => do return some (flow, ← r.bucketOf flow)

/-- The first tier, over the plans of the wanted types. -/
def rampupTier (r : Resolver) (tolerant : Bool) (flow : Option Flow)
    (plans : OrderedMap TypeKey Plan) (resolution : Resolution) : Lookup Resolution := do
  if plans.isEmpty then return resolution
  let placed ← r.place flow
  let outcomes ← r.rampupTypes tolerant placed (plans.sortedBy TypeKey.text)
  let resolution := { resolution with bucket := (placed.map fun (_, n) => .int n).getD .null }
  r.ruleFallback tolerant (takeChosen resolution outcomes) (excludedTypes outcomes)

/-! ## Active and non-active -/

/-- Takes the first version found for each unresolved type. -/
def takeFirst (selection : Selection) (resolution : Resolution)
    (versions : Option (List ImageVersion)) : Except Fault Resolution := do
  let first ← firstByKey (versions.getD []) resolution.unresolved
  return first.entries.foldl
    (fun resolution (key, version) =>
      resolution.decide key { version := some version, selection := selection })
    resolution

/-- The second tier. -/
def activeTier (r : Resolver) (tolerant : Bool) (resolution : Resolution) :
    Lookup Resolution := do
  if resolution.unresolved.isEmpty then return resolution
  let versions ← r.fetchActive tolerant resolution.unresolved
  Lookup.give (takeFirst .active resolution versions)

/-- The third tier. -/
def nonActiveTier (r : Resolver) (resolution : Resolution) : Lookup Resolution := do
  if resolution.unresolved.isEmpty then return resolution
  let names := resolution.unresolved
  let versions ← fetch true "latest non-ACTIVE versions" none
    (Lookup.ask (.latestVersions names) (r.sources.latestVersions · names))
  Lookup.give (takeFirst .nonActive resolution versions)

/-! ## All tiers -/

/-- The plans of the wanted types: those given, or those of the plan store. -/
def bookFor (r : Resolver) (tolerant : Bool) (wanted : NameSet) :
    Option PlanBook → Lookup PlanBook
  | some book => return book
  | none =>
    fetch tolerant "rampup plans" OrderedMap.empty
      (Lookup.ask (.plansFor wanted) (r.sources.plansFor · wanted))

/-- Runs the tiers for types whose names are normalized. -/
def resolveWanted (r : Resolver) (flow : Option Flow) (wanted : NameSet)
    (includeNonActive : Bool) (plans : Option PlanBook) : Lookup Resolution := do
  let resolution : Resolution := { unresolved := wanted }
  if wanted.isEmpty then return resolution
  let book ← r.bookFor includeNonActive wanted plans
  let relevant ← Lookup.settle (book.indexed wanted)
  let resolution ← r.rampupTier includeNonActive flow relevant resolution
  let resolution ← r.activeTier includeNonActive resolution
  if includeNonActive then r.nonActiveTier resolution else return resolution

/-- Runs the tiers for the named types. -/
def resolve (r : Resolver) (flow : Option Flow) (names : Datum)
    (includeNonActive : Bool) (plans : Option PlanBook) : Lookup Resolution := do
  r.resolveWanted flow (← Lookup.give (NameSet.ofDatum names)) includeNonActive plans

end Resolver

end Rollout

import Rollout.Resolution.Tiers

/-!
# Requests

What callers ask of a resolver. An **execution** wants a version for every registered type, a
**subset** for the named ones, where some types may be exempt; both fail when a type stays
unresolved. **Metadata** wants a decision for every registered type and never fails. To
**reconcile** pinned versions is to keep the valid ones and resolve the others anew. An
**exact** request looks one version up, in one of the allowed states.

The first four leave the resolution that they reached in the journal, also when they fail after
it. A **request** is any of these with what it is given, or a resolution as such, and a **reply** is
what it is met with.
-/

namespace Rollout

/-- A request that is recorded. -/
inductive Operation where
  | execution
  | metadata
  | subset
  | reconcile
  deriving DecidableEq, Repr

/-- The name under which a request is recorded. -/
def Operation.name : Operation → String
  | execution => "execution"
  | metadata => "metadata"
  | subset => "subset"
  | reconcile => "reconcile"

namespace Resolver

/-- A version for every registered type. -/
def execution (r : Resolver) (flow : Option Flow) : Lookup (List (TypeKey × VersionInfo)) := do
  let names ← r.typeNames
  let book ← Lookup.ask .allPlans r.sources.allPlans
  let resolution ← r.resolve flow (.list names) false (some book)
  Lookup.reach resolution
  if resolution.unresolved.isEmpty then return resolution.versionInfos
  else throw (.unresolvedTypes resolution.unresolved.toList)

/-- The decisions of a resolution, with one for every type that is still unresolved. -/
def completed (resolution : Resolution) : List (TypeKey × Decision) :=
  let decisions := resolution.unresolved.toList.foldl
    (fun decisions name => decisions.put (.ofName name) .noVersion) resolution.decisions
  decisions.sortedBy TypeKey.text

/-- The plan book for metadata, which is empty when the plan store fails. -/
def metadataBook (r : Resolver) : Lookup PlanBook :=
  Lookup.orElse (Lookup.ask .allPlans r.sources.allPlans) fun fault => do
    Lookup.warn s!"Failed to fetch rampup plans: {fault.message}"
    return OrderedMap.empty

/-- The registered names for metadata; none when the type catalog fails. -/
def metadataNames (r : Resolver) : Lookup (Option (List Datum)) :=
  Lookup.orElse (do return some (← r.typeNames)) fun fault => do
    Lookup.warn s!"Failed to list image types: {fault.message}"
    return none

/-- A decision for every registered type. -/
def metadata (r : Resolver) : Lookup (List (TypeKey × Decision)) := do
  match ← r.metadataNames with
  | none => return []
  | some names =>
    let book ← r.metadataBook
    let resolution ← r.resolve none (.list names) true (some book)
    Lookup.reach resolution
    return completed resolution

/-- A version for every wanted type that is not exempt, and for the exempt ones that have one.
Which types are exempt is read once the others are resolved. -/
def subsetWanted (r : Resolver) (flow : Option Flow) (wanted : NameSet)
    (exempt : Except Fault NameSet) : Lookup (List (TypeKey × VersionInfo)) := do
  let book ← Lookup.ask (.plansFor wanted) (r.sources.plansFor · wanted)
  let resolution ← r.resolveWanted flow wanted false (some book)
  Lookup.reach resolution
  let missing := resolution.unresolved.diff (← Lookup.give exempt)
  if missing.isEmpty then return resolution.versionInfos
  else throw (.unresolvedTypes missing.toList)

/-- A version for every named type that is not exempt, and for the exempt ones that have one. -/
def subset (r : Resolver) (flow : Option Flow) (names exempt : Datum) :
    Lookup (List (TypeKey × VersionInfo)) := do
  r.subsetWanted flow (← Lookup.give (NameSet.ofDatum names)) (NameSet.ofDatum exempt)

/-- Takes a pin into the pins by key. -/
def indexPin (index : OrderedMap TypeKey VersionInfo) (pin : Datum × VersionInfo) :
    Except Fault (OrderedMap TypeKey VersionInfo) := do
  return index.put (← TypeKey.ofDatum pin.1) pin.2

/-- The pins by key: of two spellings of one type the later one counts. -/
def pinsByKey (pins : OrderedMap Datum VersionInfo) :
    Except Fault (OrderedMap TypeKey VersionInfo) :=
  pins.entries.foldlM indexPin OrderedMap.empty

/-- The types whose pinned version is no longer valid. -/
def invalidPins (r : Resolver) : List (TypeKey × VersionInfo) → Lookup (List TypeKey)
  | [] => return []
  | (key, info) :: rest => do
    let invalid ← Lookup.ask (.isInvalid key info.version)
      (r.sources.isInvalid · key info.version)
    let others ← r.invalidPins rest
    return if invalid then key :: others else others

/-- The pinned versions, each invalid one replaced by one that is resolved anew. -/
def reconcile (r : Resolver) (flow : Option Flow) (pins : OrderedMap TypeKey VersionInfo) :
    Lookup (List (TypeKey × VersionInfo)) := do
  let invalid ← r.invalidPins pins.entries
  if invalid.isEmpty then return pins.sortedBy TypeKey.text
  let wanted := NameSet.ofList (invalid.map TypeKey.text)
  let resolved ← r.subsetWanted flow wanted (.ok NameSet.empty)
  return (resolved.foldl (fun pins (key, info) => pins.put key info) pins).sortedBy TypeKey.text

/-- The states that a value lists, none for a value that counts as false. -/
def allowedStates (allowed : Datum) : Except Fault (List State) := do
  let names ← if allowed.isTruthy then allowed.items else .ok []
  names.mapM State.ofDatum

/-- One version by its exact label, if its state is allowed; without allowed states every state
is. -/
def exact (r : Resolver) (name label allowed : Datum) : Lookup VersionInfo := do
  let version ← r.exactVersion name label
  let states ← Lookup.give (allowedStates allowed)
  if states.isEmpty || states.contains version.state then return version.info
  else
    let names := ", ".intercalate (NameSet.ofList (states.map State.name)).toList
    throw (.versionNotFound name label s!"state {version.state.name} is not one of {names}")

end Resolver

/-! ## Requests and replies -/

/-- What callers ask of a resolver. -/
inductive Request where
  | execution (flow : Option Flow)
  | metadata
  | subset (flow : Option Flow) (names exempt : Datum)
  | reconcile (flow : Option Flow) (pins : OrderedMap Datum VersionInfo)
  | resolve (flow : Option Flow) (names : Datum) (includeNonActive : Bool)
    (plans : Option PlanBook)
  | exact (name label allowed : Datum)

/-- What callers are given. -/
inductive Reply where
  | versions (versions : List (TypeKey × VersionInfo))
  | decisions (decisions : List (TypeKey × Decision))
  | resolution (resolution : Resolution)
  | version (info : VersionInfo)

/-- What a request comes to. -/
structure Report where
  answer : Except Fault Reply
  journal : Journal

namespace Request

/-- The look-up that meets the request. -/
def lookup (r : Resolver) : Request → Lookup Reply
  | execution flow => do return .versions (← r.execution flow)
  | metadata => do return .decisions (← r.metadata)
  | subset flow names exempt => do return .versions (← r.subset flow names exempt)
  | reconcile flow pins => do
    let pins ← Lookup.give (Resolver.pinsByKey pins)
    return .versions (← r.reconcile flow pins)
  | resolve flow names includeNonActive plans => do
    return .resolution (← r.resolve flow names includeNonActive plans)
  | exact name label allowed => do return .version (← r.exact name label allowed)

/-- The operation under which the request is recorded, with its flow. Pins whose names are no texts
are refused before anything is recorded. -/
def recording : Request → Option (Operation × Option Flow)
  | execution flow => some (.execution, flow)
  | metadata => some (.metadata, none)
  | subset flow _ _ => some (.subset, flow)
  | reconcile flow pins => (Resolver.pinsByKey pins).toOption.map fun _ => (.reconcile, flow)
  | resolve .. | exact .. => none

/-- What the request comes to when nothing is recorded. -/
def report (r : Resolver) (request : Request) : Report :=
  let (answer, journal) := (request.lookup r).start
  ⟨answer, journal⟩

end Request

end Rollout

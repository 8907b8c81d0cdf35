import Rollout.Rule
import Rollout.Sources

/-!
# The catalog

A **catalog** holds image types, their versions, rampup plans and ramp rules in the order in
which they came. The **latest** version of a type is the one added last: a version that is added
again leaves its old place. A plan without entries is no plan.

A catalog answers every question that a resolver puts (`sources`). Where labels have to be
compared, one that is no text is a fault.
-/

namespace Rollout

/-- Image types, versions, plans and rules. -/
structure Catalog where
  types : OrderedMap TypeKey ImageType := OrderedMap.empty
  versions : OrderedMap TypeKey (List ImageVersion) := OrderedMap.empty
  plans : OrderedMap TypeKey Plan := OrderedMap.empty
  rules : List RampRule := []

namespace Catalog

/-- The catalog that holds nothing. -/
def empty : Catalog := {}

/-! ## Changes -/

/-- The versions of a type, in the order in which they were added. -/
def versionsOf (c : Catalog) (key : TypeKey) : List ImageVersion :=
  (c.versions.find? key).getD []

/-- Registers an image type under its key, or describes it anew. -/
def addType (c : Catalog) (t : ImageType) : Except Fault Catalog := do
  let key ← t.key
  return { c with
    types := c.types.put key t
    versions := c.versions.put key (c.versionsOf key) }

/-- Adds a version as the latest of its type, in place of one with the same label, and registers
the type if it is new. -/
def addVersion (c : Catalog) (v : ImageVersion) : Except Fault Catalog := do
  let key ← v.key
  let others ← Fallible.filter (fun u => (!·) <$> u.hasLabel v.version) (c.versionsOf key)
  return { c with
    types := if c.types.contains key then c.types else c.types.put key { name := v.imageType }
    versions := c.versions.put key (others ++ [v]) }

/-- Changes the version of a type with the label, at its place, and gives the changed version;
nothing when there is no such version. -/
def changeVersion? (c : Catalog) (key : TypeKey) (label : Datum)
    (change : ImageVersion → Except Fault ImageVersion) :
    Except Fault (Option (ImageVersion × Catalog)) := do
  let found ← Fallible.changeFirst? (·.hasLabel label) change (c.versionsOf key)
  return found.map fun (v, versions) => (v, { c with versions := c.versions.put key versions })

/-- Gives a type its plan; a plan without entries takes the old one away. -/
def putPlan (c : Catalog) (key : TypeKey) (plan : Plan) : Catalog :=
  { c with plans := if plan.isEmpty then c.plans.erase key else c.plans.put key plan }

/-- Adds a rule. -/
def addRule (c : Catalog) (rule : RampRule) : Catalog :=
  { c with rules := c.rules ++ [rule] }

/-! ## Questions -/

/-- The versions of the type that have the label. -/
def findVersions (c : Catalog) (key : TypeKey) (label : Datum) :
    Except Fault (List ImageVersion) :=
  Fallible.filter (·.hasLabel label) (c.versionsOf key)

/-- The last version of each named type that passes the test, in the order of the keys. -/
def lastVersions (c : Catalog) (names : NameSet) (test : ImageVersion → Bool) :
    List ImageVersion :=
  (NameSet.normalized names.toList).toList.filterMap fun name =>
    ((c.versionsOf (.ofName name)).filter test).getLast?

/-- The latest ACTIVE version of each named type that has one. -/
def activeVersions (c : Catalog) (names : NameSet) : List ImageVersion :=
  c.lastVersions names fun v => v.state = .active

/-- The latest version of each named type that has one, in any state. -/
def latestVersions (c : Catalog) (names : NameSet) : List ImageVersion :=
  c.lastVersions names fun _ => true

/-- The version is unknown or no longer fit to run. -/
def isInvalid (c : Catalog) (key : TypeKey) (label : Datum) : Except Fault Bool := do
  match (← c.findVersions key label).getLast? with
  | some v => return v.state.isInvalid
  | none => return true

/-- The name that a key is stored under. -/
def storedName (key : TypeKey) : Datum :=
  .text key.text

/-- Distinct keys are stored under distinct names. -/
theorem storedName_injective (a b : TypeKey) (h : storedName a = storedName b) : a = b :=
  TypeKey.ext (Datum.text.inj h)

/-- Plans by key as a plan store answers them. -/
def bookOf (plans : OrderedMap TypeKey Plan) : PlanBook :=
  plans.mapEntries storedName storedName_injective some

/-- The plans of all types. -/
def allPlans (c : Catalog) : PlanBook :=
  bookOf c.plans

/-- The plans of the named types. -/
def plansFor (c : Catalog) (names : NameSet) : PlanBook :=
  let wanted := NameSet.normalized names.toList
  bookOf (c.plans.filterKeys fun key => wanted.contains key.text)

/-- The rules about the version of the type. -/
def rulesFor (c : Catalog) (key : TypeKey) (label : Datum) : Except Fault (List RampRule) :=
  Fallible.filter (·.appliesTo key label) c.rules

/-- The catalog, its rules and a bucket function as sources of a resolver. -/
def sources (c : Catalog) (bucketOf : Flow → Except Fault Datum) : Sources where
  imageTypes _ := .ok c.types.values
  findVersions _ name label := do
    return some (← c.findVersions (← TypeKey.ofDatum name) label)
  activeVersions _ names := .ok (some (c.activeVersions names))
  latestVersions _ names := .ok (some (c.latestVersions names))
  isInvalid _ key label := c.isInvalid key label
  allPlans _ := .ok c.allPlans
  plansFor _ names := .ok (c.plansFor names)
  isExcluded _ flowName key label :=
    let answer := do RampRule.excludes (← c.rulesFor key label) flowName key label
    (answer, [.rulesFor key label])
  bucketOf _ flow := bucketOf flow

end Catalog

end Rollout

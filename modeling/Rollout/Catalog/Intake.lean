import Rollout.Catalog
import Rollout.Datum.Access

/-!
# Catalog data from outside

Changes to a catalog arrive with loosely typed arguments, one by one or as a whole **catalog
document**. Every argument is read before anything is changed, so a change that is refused
leaves the catalog as it was.
-/

namespace Rollout.Catalog

/-- Registers a type under a name from outside. -/
def registerType (c : Catalog) (name description : Datum) :
    Except Fault (ImageType × Catalog) := do
  let t : ImageType := { name := name, description := description }
  return (t, ← c.addType t)

/-- The path of a version: the one given, or the type's own place in the registry. -/
def pathOr (key : TypeKey) (path : Datum) : Datum :=
  if path.isTruthy then path else .text s!"registry/{key.text}"

/-- Adds a version with arguments from outside. -/
def registerVersion (c : Catalog) (imageType version path state releaseTag : Datum) :
    Except Fault (ImageVersion × Catalog) := do
  let key ← TypeKey.ofDatum imageType
  let state ← State.ofDatum state
  let v : ImageVersion :=
    { imageType := imageType
      version := version
      path := pathOr key path
      state := state
      releaseTag := releaseTag }
  return (v, ← c.addVersion v)

/-- Puts a version into a state that is given from outside. An unknown version is reported
before an unknown state. -/
def changeState (c : Catalog) (imageType version state : Datum) :
    Except Fault (ImageVersion × Catalog) := do
  let key ← TypeKey.ofDatum imageType
  let change (v : ImageVersion) : Except Fault ImageVersion := do
    return { v with state := ← State.ofDatum state }
  match ← c.changeVersion? key version change with
  | some changed => return changed
  | none => throw (.missing (.text s!"{imageType.display}:{version.display}"))

/-- An entry of a plan, given as a pair of a version and a percentage. -/
def readEntry (item : Datum) : Except Fault PlanEntry := do
  let (version, percentage) ← item.pair
  return { version := version, percentage := .int (← percentage.toInteger) }

/-- Gives a type the plan with the entries from outside. -/
def changePlan (c : Catalog) (imageType entries : Datum) : Except Fault Catalog := do
  let plan ← (← entries.items).mapM readEntry
  return c.putPlan (← TypeKey.ofDatum imageType) plan

/-! ## Catalog documents -/

/-- An image type of a document. -/
def readType (c : Catalog) (item : Datum) : Except Fault Catalog := do
  let name ← item.need "name"
  return (← c.registerType name ((← item.optional "description").getD .null)).2

/-- A version of a document. -/
def readVersion (c : Catalog) (item : Datum) : Except Fault Catalog := do
  let imageType ← item.need "image_type"
  let version ← item.need "version"
  let path := (← item.optional "path").getD .null
  let state := (← item.optional "state").getD (.text State.new.name)
  let tag := (← item.optional "release_tag").getD .null
  return (← c.registerVersion imageType version path state tag).2

/-- A plan of a document: all its pairs are taken apart before the first one is read. -/
def readPlan (c : Catalog) (named : Datum × Datum) : Except Fault Catalog := do
  let pairs ← (← named.2.items).mapM Datum.pair
  c.changePlan named.1 (.list (pairs.map fun (version, percentage) => .list [version, percentage]))

/-- A rule of a document. -/
def readRule (c : Catalog) (item : Datum) : Except Fault Catalog := do
  let rule : RampRule :=
    { name := ← item.need "name"
      flowPattern := ← item.need "flow_pattern"
      imageType := ← item.need "image_type"
      version := ← item.need "version" }
  return c.addRule rule

/-- The items under a name of a document, none when the name is missing. -/
def itemsUnder (document : Datum) (name : String) : Except Fault (List Datum) := do
  match ← document.optional name with
  | some value => value.items
  | none => return []

/-- The named plans of a document. -/
def plansUnder (document : Datum) (name : String) : Except Fault (List (Datum × Datum)) := do
  match ← document.optional name with
  | some value => value.namedValues
  | none => return []

/-- The catalog that a document describes. -/
def ofDatum (document : Datum) : Except Fault Catalog := do
  let c ← (← itemsUnder document "image_types").foldlM readType empty
  let c ← (← itemsUnder document "versions").foldlM readVersion c
  let c ← (← plansUnder document "rampups").foldlM readPlan c
  (← itemsUnder document "rules").foldlM readRule c

end Rollout.Catalog

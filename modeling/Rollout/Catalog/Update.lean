import Rollout.Catalog.Intake

/-!
# Updates

An **update** works on a catalog step by step, with arguments from outside. Steps that were taken
stay taken when a later one fails, and a caller goes on with the catalog as the update left it.
What an update is given it therefore has to check in time.
-/

namespace Rollout.Catalog

/-- A computation that changes a catalog. One that fails leaves what it changed until then. -/
abbrev Update (α : Type) := ExceptT Fault (StateM Catalog) α

namespace Update

/-! ## Steps -/

/-- Gives a key its type. -/
def putType (key : TypeKey) (t : ImageType) : Update Unit :=
  modify fun c => { c with types := c.types.put key t }

/-- Gives a key its type, unless it has one. -/
def ensureType (key : TypeKey) (t : ImageType) : Update Unit :=
  modify fun c => { c with types := if c.types.contains key then c.types else c.types.put key t }

/-- Gives a key its list of versions. -/
def putVersions (key : TypeKey) (versions : List ImageVersion) : Update Unit :=
  modify fun c => { c with versions := c.versions.put key versions }

/-- The list of versions of a key, which is put there empty when there is none. -/
def openVersions (key : TypeKey) : Update (List ImageVersion) := do
  match (← get).versions.find? key with
  | some versions => return versions
  | none =>
    putVersions key []
    return []

/-- Puts a version at the end of the list of its key. Those with the same name and label leave the
list first. -/
def relist (key : TypeKey) (v : ImageVersion) : Update Unit := do
  let versions ← openVersions key
  let differs (u : ImageVersion) : Except Fault Bool := (!·) <$> u.isNamed v.imageType v.version
  putVersions key (← ofExcept (Fallible.filter differs versions))
  putVersions key ((← get).versionsOf key ++ [v])

/-! ## Updates from outside -/

/-- Registers a type, or describes it anew. -/
def registerType (name description : Datum) : Update ImageType := do
  let t : ImageType := { name := name, description := description }
  putType (← ofExcept t.key) t
  let _ ← openVersions (← ofExcept t.key)
  return t

/-- Adds a version as the latest of its type, in place of one with the same label, and registers the
type if it is new. -/
def registerVersion (imageType version path state releaseTag : Datum) : Update ImageVersion := do
  let key ← ofExcept (TypeKey.ofDatum imageType)
  let state ← ofExcept (State.ofDatum state)
  let v : ImageVersion :=
    { imageType := imageType
      version := version
      path := pathOr key path
      state := state
      releaseTag := releaseTag }
  ensureType key { name := imageType }
  relist key v
  return v

/-- Puts a version into a state. The state is read when the version has been found. -/
def changeState (imageType version state : Datum) : Update ImageVersion := do
  let key ← ofExcept (TypeKey.ofDatum imageType)
  let change (v : ImageVersion) : Except Fault ImageVersion := do
    return { v with state := ← State.ofDatum state }
  let versions := (← get).versionsOf key
  match ← ofExcept (Fallible.changeFirst? (·.isNamed imageType version) change versions) with
  | some (changed, versions) =>
    putVersions key versions
    return changed
  | none => throw (.missing (.text s!"{imageType.display}:{version.display}"))

/-- Gives a type the plan with the entries, or takes its plan away when there are none. The type
is read when all entries have been. -/
def changePlan (imageType entries : Datum) : Update Unit := do
  let plan ← ofExcept do (← entries.items).mapM readEntry
  let key ← ofExcept (TypeKey.ofDatum imageType)
  modify (·.putPlan key plan)

/-- Adds a rule. -/
def addRule (rule : RampRule) : Update RampRule := do
  modify (·.addRule rule)
  return rule

end Update

end Rollout.Catalog

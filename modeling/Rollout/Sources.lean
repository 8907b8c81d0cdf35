import Rollout.Flow
import Rollout.Image.Version
import Rollout.Plan.Book
import Rollout.Resolution

/-!
# Sources, and look-ups that consult them

Versions are resolved from **sources**: the catalog of image types and versions, the store of
rampup plans, the rule evaluator and the bucket function. Nothing is assumed of them. Each one
may answer or fail anew at every **call**, and may let its answer depend on the calls made
before.

A **look-up** is a computation that consults sources. It keeps a **journal**: the calls in their
order, the notices for the operator, and the resolution that was reached, which outlives a fault
that comes after it.
-/

namespace Rollout

/-- A question put to a source. -/
inductive Call where
  | imageTypes
  | findVersions (name label : Datum)
  | activeVersions (names : NameSet)
  | latestVersions (names : NameSet)
  | isInvalid (key : TypeKey) (label : Datum)
  | allPlans
  | plansFor (names : NameSet)
  | isExcluded (flowName : Datum) (key : TypeKey) (label : Datum)
  /-- The rule evaluator's own question to its store. -/
  | rulesFor (key : TypeKey) (label : Datum)
  | bucket (identity : Datum)
  deriving DecidableEq, Repr

/-- Where a resolver looks things up. The first argument of each source lists the calls made
before. -/
structure Sources where
  imageTypes : List Call → Except Fault (List ImageType)
  findVersions : List Call → (name label : Datum) → Except Fault (Option (List ImageVersion))
  activeVersions : List Call → NameSet → Except Fault (Option (List ImageVersion))
  latestVersions : List Call → NameSet → Except Fault (Option (List ImageVersion))
  isInvalid : List Call → TypeKey → (label : Datum) → Except Fault Bool
  allPlans : List Call → Except Fault PlanBook
  plansFor : List Call → NameSet → Except Fault PlanBook
  /-- The evaluator's answer, with the calls that it made for it. -/
  isExcluded : List Call → (flowName : Datum) → TypeKey → (label : Datum) →
    Except Fault Bool × List Call
  bucketOf : List Call → Flow → Except Fault Datum

/-- What a look-up leaves behind. -/
structure Journal where
  calls : List Call := []
  notices : List Notice := []
  reached : Option Resolution := none

/-- A computation that consults sources and may fail. -/
abbrev Lookup (α : Type) := ExceptT Fault (StateM Journal) α

namespace Lookup

variable {α : Type}

/-- Puts a question to a source. -/
def ask (call : Call) (source : List Call → Except Fault α) : Lookup α :=
  fun journal => (source journal.calls, { journal with calls := journal.calls ++ [call] })

/-- Puts a question to a source that puts questions of its own. -/
def askThrough (call : Call) (source : List Call → Except Fault α × List Call) : Lookup α :=
  fun journal =>
    let (answer, further) := source journal.calls
    (answer, { journal with calls := journal.calls ++ call :: further })

/-- Leaves notices for the operator. -/
def notify (notices : List Notice) : Lookup Unit :=
  fun journal => (.ok (), { journal with notices := journal.notices ++ notices })

/-- Leaves a warning. -/
def warn (text : String) : Lookup Unit :=
  notify [.warning text]

/-- Notes the resolution that was reached. -/
def reach (resolution : Resolution) : Lookup Unit :=
  fun journal => (.ok (), { journal with reached := some resolution })

/-- Goes on with a second look-up when the first one fails. -/
def orElse (lookup : Lookup α) (recover : Fault → Lookup α) : Lookup α :=
  fun journal =>
    match lookup journal with
    | (.ok a, after) => (.ok a, after)
    | (.error fault, after) => recover fault after

/-- A value or a fault without questions. -/
def give (answer : Except Fault α) : Lookup α :=
  fun journal => (answer, journal)

/-- Leaves the notices of a pure step and gives its value. -/
def settle (step : Except Fault α × List Notice) : Lookup α := do
  notify step.2
  give step.1

/-- Runs a look-up from an empty journal. -/
def start (lookup : Lookup α) : Except Fault α × Journal :=
  lookup {}

end Lookup

end Rollout

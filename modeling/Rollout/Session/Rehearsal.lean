import Rollout.Catalog

/-!
# Rehearsals

A **rehearsal** shows how a resolver bears up against its sources. Each source of a catalog can
be made to fail, or to give a **stand-in** in place of its own answer; a failure comes before a
stand-in. A stand-in that is malformed is a fault whenever its source is asked. The bucket function
can be replaced, and rules can be left unheeded.
-/

namespace Rollout

/-- A source that can be made to fail. -/
inductive SourceName where
  | imageTypes
  | findVersions
  | activeVersions
  | latestVersions
  | isInvalid
  | allPlans
  | plansFor
  | isExcluded
  | rulesFor
  deriving DecidableEq, Repr

/-- An answer in place of a source's own, if there is one. -/
abbrev StandIn (α : Type) := Option (Except Fault α)

/-- Answers that are given in place of the sources' own. -/
structure StandIns where
  imageTypes : StandIn (List ImageType) := none
  findVersions : StandIn (Option (List ImageVersion)) := none
  activeVersions : StandIn (Option (List ImageVersion)) := none
  latestVersions : StandIn (Option (List ImageVersion)) := none
  isInvalid : StandIn Bool := none
  allPlans : StandIn PlanBook := none
  plansFor : StandIn PlanBook := none
  isExcluded : StandIn Bool := none
  rulesFor : StandIn (List RampRule) := none

/-- Where the buckets of flows come from. -/
inductive BucketSource where
  /-- The digest of the flow's identity. -/
  | digest
  /-- One answer for every flow. -/
  | given (answer : Except Fault Datum)

/-- The bucket that the source answers for a flow. -/
def BucketSource.answer : BucketSource → Flow → Except Fault Datum
  | digest, flow => flow.bucket.map Datum.int
  | given answer, _ => answer

/-- What is tried out on the sources of a catalog. -/
structure Rehearsal where
  /-- The sources that fail, with what they say. -/
  outages : OrderedMap SourceName String := OrderedMap.empty
  standIns : StandIns := {}
  bucket : BucketSource := .digest
  heedsRules : Bool := true

namespace Rehearsal

/-- Lets a source fail with the words, or lets it work again. -/
def putOutage (r : Rehearsal) (source : SourceName) (words : Option String) : Rehearsal :=
  match words with
  | some words => { r with outages := r.outages.put source words }
  | none => { r with outages := r.outages.erase source }

/-- What a source answers that has an answer of its own. -/
def answer {α : Type} (r : Rehearsal) (source : SourceName) (standIn : StandIn α)
    (own : Except Fault α) : Except Fault α :=
  match r.outages.find? source, standIn with
  | some words, _ => .error (.outage words)
  | none, some answer => answer
  | none, none => own

/-- Whether rules exclude the flow, with the question for the rules if it was put. -/
def exclusion (r : Rehearsal) (c : Catalog) (flowName : Datum) (key : TypeKey)
    (label : Datum) : Except Fault Bool × List Call :=
  match r.outages.find? .isExcluded, r.standIns.isExcluded with
  | some words, _ => (.error (.outage words), [])
  | none, some answer => (answer, [])
  | none, none =>
    if r.heedsRules then
      ((r.answer .rulesFor r.standIns.rulesFor (c.rulesFor key label)).bind
          (RampRule.excludes · flowName key label),
        [.rulesFor key label])
    else (.ok false, [])

/-- The sources of a catalog under the rehearsal. -/
def sources (r : Rehearsal) (c : Catalog) : Sources :=
  let own := c.sources r.bucket.answer
  { own with
    imageTypes := fun calls =>
      r.answer .imageTypes r.standIns.imageTypes (own.imageTypes calls)
    findVersions := fun calls name label =>
      r.answer .findVersions r.standIns.findVersions (own.findVersions calls name label)
    activeVersions := fun calls names =>
      r.answer .activeVersions r.standIns.activeVersions (own.activeVersions calls names)
    latestVersions := fun calls names =>
      r.answer .latestVersions r.standIns.latestVersions (own.latestVersions calls names)
    isInvalid := fun calls key label =>
      r.answer .isInvalid r.standIns.isInvalid (own.isInvalid calls key label)
    allPlans := fun calls => r.answer .allPlans r.standIns.allPlans (own.allPlans calls)
    plansFor := fun calls names =>
      r.answer .plansFor r.standIns.plansFor (own.plansFor calls names)
    isExcluded := fun _ flowName key label => r.exclusion c flowName key label }

end Rehearsal

end Rollout

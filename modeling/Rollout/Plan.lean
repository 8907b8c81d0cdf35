import Rollout.Datum.Access
import Rollout.Datum.Order
import Rollout.Fallible
import Rollout.Notice

/-!
# Rampup plans

A **rampup plan** lists versions of one image type, each with the percentage of flows that it
is meant for. A plan is **walked** in order: its entries own consecutive stretches of the
buckets 1 to 100, each as many buckets as its percentage says, and what lies beyond the last
one is allocated to no entry.

Before it is walked a plan is checked and **ordered**: percentages outside 1 to 100 are
refused, and a plan that does not ascend is sorted, refused or walked as it is, as the policy
says. Two views of the allocation stand side by side: `matchBucket` finds the entry of one
bucket, and `bucketRanges` lists the buckets of every entry.

Percentages are kept as they were given. Any number is counted with; a value that is no number is
a fault as soon as it is.
-/

namespace Rollout

/-- The number of buckets that flows fall into. -/
def bucketCount : Int := 100

/-- One step of a rampup plan. -/
structure PlanEntry where
  version : Datum
  percentage : Datum
  deriving DecidableEq, Repr

/-- The steps of a plan in their order. -/
abbrev Plan := List PlanEntry

/-- What to do with a plan whose percentages do not ascend. -/
inductive WalkPolicy where
  /-- Sort it. -/
  | normalize
  /-- Refuse it. -/
  | reject
  /-- Walk it as it is. -/
  | preserve
  deriving DecidableEq, Repr

/-- The policy of a name; every value but two names stands for sorting. -/
def WalkPolicy.ofName : Datum → WalkPolicy
  | .text "reject" => .reject
  | .text "preserve" => .preserve
  | _ => .normalize

/-- The names of the policies that settings may give. -/
def WalkPolicy.names : List String := ["normalize", "reject", "preserve"]

namespace Plan

/-! ## Checks -/

/-- No entry has a larger percentage than the next one. -/
def isAscending : Plan → Except Fault Bool
  | a :: b :: rest => do
    if ← a.percentage.atMost b.percentage then isAscending (b :: rest) else return false
  | _ => return true

/-- The sum of the percentages and what came before them. -/
def totalFrom (sum : Datum) : Plan → Except Fault Datum
  | [] => return sum
  | entry :: rest => do totalFrom (← sum.plus "+" entry.percentage) rest

/-- The sum of the percentages. -/
def total (plan : Plan) : Except Fault Datum :=
  plan.totalFrom (.int 0)

/-- The value is a percentage that an entry may have. -/
def isPercentage (value : Datum) : Except Fault Bool := do
  if ← (Datum.int 1).atMost value then value.atMost (.int bucketCount) else return false

/-- The first entry stays before the second one. -/
def staysBefore (a b : PlanEntry) : Bool :=
  match a.percentage.atMost b.percentage with
  | .ok answer => answer
  | .error _ => false

/-- The plan in ascending order of its percentages, equal ones in their old order. -/
def sorted (plan : Plan) : Plan :=
  plan.mergeSort staysBefore

/-- The two plans have the same entries in the same order. -/
def same : Plan → Plan → Bool
  | [], [] => true
  | a :: as, b :: bs =>
    a.version.same b.version && a.percentage.same b.percentage && same as bs
  | _, _ => false

/-- The notice for a plan that allocates more than all buckets. -/
def overallocation (imageType total : Datum) : Except Fault (List Notice) := do
  if ← total.exceeds (.int bucketCount) then
    return [.warning (s!"Rampup plan for {imageType.display} allocates {← total.toInteger}%; " ++
      "entries past bucket 100 are unreachable")]
  else return []

/-- Checks the percentages of a plan and gives the notices for it. -/
def check (imageType : Datum) (plan : Plan) : Except Fault (List Notice) := do
  match ← Fallible.find? (fun entry => (!·) <$> isPercentage entry.percentage) plan with
  | some entry => throw (.invalidPlan imageType (.percentage entry.version entry.percentage))
  | none => overallocation imageType (← plan.total)

/-- Checks a plan and puts it into the order in which it is walked. -/
def order (imageType : Datum) (policy : WalkPolicy) (plan : Plan) :
    Except Fault Plan × List Notice :=
  match plan.check imageType with
  | .error fault => (.error fault, [])
  | .ok notices =>
    match if policy = .preserve then .ok true else plan.isAscending with
    | .error fault => (.error fault, notices)
    | .ok true => (.ok plan, notices)
    | .ok false =>
      if policy = .reject then (.error (.invalidPlan imageType .notAscending), notices)
      else
        (.ok plan.sorted, notices ++
          [.warning (s!"Rampup plan for {imageType.display} is not sorted by percentage, " ++
            "normalizing")])

/-! ## Buckets -/

/-- The first and last bucket of every entry, when this many buckets lie before the plan. A
range is cut at the last bucket, and one that starts beyond it is empty. -/
def bucketRangesFrom (floor : Datum) : Plan → Except Fault (List (Datum × Datum))
  | [] => return []
  | entry :: rest => do
    let first ← floor.plus "+" (.int 1)
    let last ← floor.plus "+" entry.percentage
    let cut := if ← last.exceeds (.int bucketCount) then .int bucketCount else last
    return (first, cut) :: (← bucketRangesFrom last rest)

/-- The first and last bucket of every entry. -/
def bucketRanges (plan : Plan) : Except Fault (List (Datum × Datum)) :=
  plan.bucketRangesFrom (.int 0)

/-- The entry owns the bucket, when this many buckets lie before it. -/
def owns (floor bucket : Datum) (entry : PlanEntry) : Except Fault Bool := do
  if ← floor.lessThan bucket then bucket.atMost (← floor.plus "+" entry.percentage)
  else return false

/-- The entry that owns the bucket, when this many buckets lie before the plan. -/
def matchBucketFrom (floor bucket : Datum) : Plan → Except Fault (Option PlanEntry)
  | [] => return none
  | entry :: rest => do
    if ← owns floor bucket entry then return some entry
    else matchBucketFrom (← floor.plus "+=" entry.percentage) bucket rest

/-- The entry that owns the bucket. -/
def matchBucket (plan : Plan) (bucket : Datum) : Except Fault (Option PlanEntry) :=
  plan.matchBucketFrom (.int 0) bucket

end Plan

end Rollout

import Rollout.Datum.Order
import Rollout.Datum.Sameness
import Rollout.Resolution

/-!
# Resolutions from outside

A resolution may be **given** from outside, with values of any kind among its unresolved names. The
texts among them are names. The other values are **strangers**: they are told apart by value, no
decision takes them away, and they are listed together with the names in ascending order. Values
that are in no order with one another cannot be listed.
-/

namespace Rollout

/-- A resolution, and the strangers among its unresolved names. -/
structure GivenResolution where
  resolution : Resolution
  strangers : List Datum := []

namespace GivenResolution

/-- Adds a value to the unresolved ones, unless it is there. -/
def addUnresolved (given : GivenResolution) : Datum → GivenResolution
  | .text name =>
    { given with resolution :=
        { given.resolution with unresolved := given.resolution.unresolved.insert name } }
  | value =>
    if given.strangers.any value.same then given
    else { given with strangers := given.strangers ++ [value] }

/-- The resolution without decisions that has the bucket and leaves the values unresolved. -/
def ofUnresolved (bucket : Datum) (values : List Datum) : GivenResolution :=
  values.foldl addUnresolved { resolution := { bucket := bucket } }

/-- Takes the decision unless the type has one, and tells whether it did. -/
def tryDecide (given : GivenResolution) (key : TypeKey) (decision : Decision) :
    Bool × GivenResolution :=
  let (taken, resolution) := given.resolution.tryDecide key decision
  (taken, { given with resolution := resolution })

/-- The names and the strangers in ascending order. -/
def unresolvedNames (given : GivenResolution) : Except Fault (List Datum) :=
  if given.strangers.isEmpty then .ok given.resolution.unresolvedNames
  else Datum.ascending (given.strangers ++ given.resolution.unresolvedNames)

end GivenResolution

end Rollout

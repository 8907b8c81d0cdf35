import Rollout.Decision
import Rollout.OrderedMap

/-!
# Resolutions

A **resolution** is built up while the tiers run: it holds the decisions made so far by key, the
names that are still unresolved, and the bucket of the flow, which is missing until it is known. A
decision stands: a second one for the same type is not taken.
-/

namespace Rollout

/-- Decisions by key, with the names still unresolved. -/
structure Resolution where
  decisions : OrderedMap TypeKey Decision := OrderedMap.empty
  unresolved : NameSet := NameSet.empty
  bucket : Datum := .null

namespace Resolution

/-- Takes the decision unless the type has one, and tells whether it did. -/
def tryDecide (r : Resolution) (key : TypeKey) (decision : Decision) : Bool × Resolution :=
  if r.decisions.contains key then (false, r)
  else
    (true, { r with
      decisions := r.decisions.put key decision
      unresolved := r.unresolved.erase key.text })

/-- Takes the decision unless the type has one. -/
def decide (r : Resolution) (key : TypeKey) (decision : Decision) : Resolution :=
  (r.tryDecide key decision).2

/-- The names that are still unresolved, in ascending order. -/
def unresolvedNames (r : Resolution) : List Datum :=
  r.unresolved.toList.map .text

/-- The decisions in ascending order of their keys. -/
def sortedDecisions (r : Resolution) : List (TypeKey × Decision) :=
  r.decisions.sortedBy TypeKey.text

/-- The chosen versions in ascending order of their keys; decisions without a version are left
out. -/
def versionInfos (r : Resolution) : List (TypeKey × VersionInfo) :=
  r.sortedDecisions.filterMap fun (key, decision) =>
    decision.version.map fun version => (key, version.info)

end Resolution

end Rollout

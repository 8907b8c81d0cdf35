import Rollout.Image.TypeKey
import Rollout.OrderedMap
import Rollout.Plan

/-!
# Plan books

A **plan book** is the answer of a plan store: plans under type names in whatever spelling,
where a plan may be missing or empty. A book is **indexed** by the keys of the types that are
asked for: of the plans that different spellings of one type hold, the first that is not empty
counts, and later ones that differ from it are reported. A name that is no text is a fault; the
plans before it have been reported by then.
-/

namespace Rollout

/-- Plans under the names that they are stored by. -/
abbrev PlanBook := OrderedMap Datum (Option Plan)

namespace PlanBook

/-- The notice for a plan that differs from the one already taken for its type. -/
def conflict (key : TypeKey) (name : Datum) : Notice :=
  .warning (s!"Conflicting rampup plans for {key.text} under key {name.quoted}, " ++
    "keeping the first")

/-- Takes the plan that a name of the type holds into the index, if the type is wanted. -/
def indexEntry (wanted : NameSet) (index : OrderedMap TypeKey Plan × List Notice)
    (key : TypeKey) (name : Datum) (plan : Plan) : OrderedMap TypeKey Plan × List Notice :=
  if !wanted.contains key.text then index
  else
    match index.1.find? key with
    | some (first :: rest) =>
      if plan.isEmpty || plan.same (first :: rest) then index
      else (index.1, index.2 ++ [conflict key name])
    | _ => (index.1.put key plan, index.2)

/-- Takes the plans of all entries into the index. -/
def indexEntries (wanted : NameSet) (index : OrderedMap TypeKey Plan × List Notice) :
    List (Datum × Option Plan) → Except Fault (OrderedMap TypeKey Plan) × List Notice
  | [] => (.ok index.1, index.2)
  | (name, plan) :: rest =>
    match TypeKey.ofDatum name with
    | .ok key => indexEntries wanted (indexEntry wanted index key name (plan.getD [])) rest
    | .error fault => (.error fault, index.2)

/-- The plans of the wanted types by key, and the notices for conflicting ones. -/
def indexed (book : PlanBook) (wanted : NameSet) :
    Except Fault (OrderedMap TypeKey Plan) × List Notice :=
  indexEntries wanted (OrderedMap.empty, []) book.entries

end PlanBook

end Rollout

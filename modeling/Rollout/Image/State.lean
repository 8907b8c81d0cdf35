import Rollout.Fault
import Rollout.Text.Blank
import Rollout.Text.Capital

/-!
# Lifecycle states

An image version is NEW, ACTIVE, UNSTABLE or DEPRECATED. A **state name** is read with blanks
around it and in any letter case.
-/

namespace Rollout

/-- The lifecycle state of an image version. -/
inductive State where
  | new
  | active
  | unstable
  | deprecated
  deriving DecidableEq, Repr

namespace State

/-- Every state. -/
def all : List State := [new, active, unstable, deprecated]

/-- The name of a state. -/
def name : State → String
  | new => "NEW"
  | active => "ACTIVE"
  | unstable => "UNSTABLE"
  | deprecated => "DEPRECATED"

/-- The state that a text names. -/
def ofText? (text : String) : Option State :=
  let word := String.ofList (Text.capitals (Text.trim text.toList))
  all.find? fun state => state.name == word

/-- Reads a state name. -/
def parse (text : String) : Except Fault State :=
  match ofText? text with
  | some state => .ok state
  | none => .error (.unknownState text)

/-- Reads a state from a value of any kind. -/
def ofDatum : Datum → Except Fault State
  | .text text => parse text
  | value => .error (.noOperation value.kind "strip")

/-- A version in this state is no longer fit to run. -/
def isInvalid : State → Bool
  | unstable | deprecated => true
  | new | active => false

end State

end Rollout

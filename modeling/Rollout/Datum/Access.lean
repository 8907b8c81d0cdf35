import Rollout.Fault
import Rollout.Text.Numeral

/-!
# Taking values from outside apart

A datum is used as a text, as an integer, as a list, as a pair or as a record, and a fault says
what is wrong when its kind does not fit. A text has its characters as items, a record the names
of its fields.
-/

namespace Rollout.Datum

/-- The text that an operation of texts is used on. -/
def toText (operation : String) : Datum → Except Fault String
  | text s => .ok s
  | value => .error (.noOperation value.kind operation)

/-- The integer that a value stands for: a number without its fraction, or a numeral. -/
def toInteger : Datum → Except Fault Int
  | int n => .ok n
  | bool b => .ok (if b then 1 else 0)
  | real b => .ok b.integerPart
  | infinite _ => .error .infiniteNumber
  | notANumber => .error .notANumber
  | text s =>
    match Text.readInteger s.toList with
    | .ok n => .ok n
    | .error .malformed => .error (.malformedNumeral s)
    | .error (.tooLong digits) => .error (.longNumeral digits)
  | value => .error (.noInteger value.kind)

/-- The items of a value that has some. -/
def items? : Datum → Option (List Datum)
  | list items => some items
  | text s => some (s.toList.map fun c => .text c.toString)
  | record fields => some (fields.map fun field => .text field.1)
  | _ => none

/-- The items of a value. -/
def items (value : Datum) : Except Fault (List Datum) :=
  match value.items? with
  | some items => .ok items
  | none => .error (.noItems value.kind)

/-- The fault of items that were to be as many as wanted. -/
def miscount (wanted : Nat) (items : List Datum) : Fault :=
  if items.length < wanted then .tooFew wanted items.length else .tooMany wanted

/-- The two items of a pair. -/
def pair (value : Datum) : Except Fault (Datum × Datum) :=
  match value.items? with
  | some [a, b] => .ok (a, b)
  | some items => .error (miscount 2 items)
  | none => .error (.noPair value.kind)

/-- The three items of a triple. -/
def triple (value : Datum) : Except Fault (Datum × Datum × Datum) :=
  match value.items? with
  | some [a, b, c] => .ok (a, b, c)
  | some items => .error (miscount 3 items)
  | none => .error (.noPair value.kind)

/-- The field that a record must have. -/
def need (name : String) : Datum → Except Fault Datum
  | record fields =>
    match field? fields name with
    | some value => .ok value
    | none => .error (.missing (.text name))
  | value => .error (.noFields value.kind)

/-- The field that a record may have. -/
def optional (name : String) : Datum → Except Fault (Option Datum)
  | record fields => .ok (field? fields name)
  | value => .error (.noOperation value.kind "get")

/-- The value can be the name of a field. -/
def isName : Datum → Bool
  | list _ | record _ => false
  | _ => true

/-- Gives a name a value among named values; a name that comes again keeps its place. -/
def putNamed (name value : Datum) : List (Datum × Datum) → List (Datum × Datum)
  | [] => [(name, value)]
  | (other, old) :: rest =>
    if other.same name then (other, value) :: rest else (other, old) :: putNamed name value rest

/-- The named values that a list of pairs gives. -/
def namedValuesFrom (place : Nat) (found : List (Datum × Datum)) :
    List Datum → Except Fault (List (Datum × Datum))
  | [] => .ok found
  | item :: rest =>
    match item.items? with
    | some [name, value] =>
      if name.isName then namedValuesFrom (place + 1) (putNamed name value found) rest
      else .error (.noName name.kind)
    | some items => .error (.entryLength place items.length)
    | none => .error (.noEntry place)

/-- The named values of a record, or of a list of pairs. -/
def namedValues : Datum → Except Fault (List (Datum × Datum))
  | record fields => .ok (fields.map fun field => (.text field.1, field.2))
  | value => do namedValuesFrom 0 [] (← value.items)

end Rollout.Datum

import Rollout.Datum.Number
import Rollout.Text.Quoted

/-!
# Loosely typed values

Options, catalog data, execution ids and the answers of a bucket function come from outside
with no type of their own. A **datum** is such a value. It has a kind, a truth value and two
texts: the one that stands inside a larger value, with its texts quoted, and the one that
stands by itself.
-/

namespace Rollout

/-- A value from outside. -/
inductive Datum where
  | null
  | bool (value : Bool)
  | int (value : Int)
  /-- A number with a fraction. -/
  | real (value : Binary)
  /-- A number beyond all others. -/
  | infinite (negative : Bool)
  /-- A number that is none. -/
  | notANumber
  | text (value : String)
  | list (items : List Datum)
  /-- Named values in the order they were given. -/
  | record (fields : List (String × Datum))
  deriving Repr, Inhabited

namespace Datum

/-- The name of a value's kind, as messages give it. -/
def kind : Datum → String
  | null => "NoneType"
  | bool _ => "bool"
  | int _ => "int"
  | real _ | infinite _ | notANumber => "float"
  | text _ => "str"
  | list _ => "list"
  | record _ => "dict"

/-- The value counts as true: it is neither missing, nor zero, nor empty. -/
def isTruthy : Datum → Bool
  | null => false
  | bool b => b
  | int n => n != 0
  | real b => b.significand != 0
  | infinite _ | notANumber => true
  | text s => s != ""
  | list items => !items.isEmpty
  | record fields => !fields.isEmpty

mutual

/-- The text of a value inside a larger one. -/
def quoted : Datum → String
  | null => "None"
  | bool true => "True"
  | bool false => "False"
  | int n => toString n
  | real b => b.text
  | infinite negative => if negative then "-inf" else "inf"
  | notANumber => "nan"
  | text s => Text.quoted s
  | list items => "[" ++ ", ".intercalate (quotedItems items) ++ "]"
  | record fields => "\x7b" ++ ", ".intercalate (quotedFields fields) ++ "\x7d"

/-- The texts of the items of a list. -/
def quotedItems : List Datum → List String
  | [] => []
  | item :: rest => item.quoted :: quotedItems rest

/-- The texts of the fields of a record. -/
def quotedFields : List (String × Datum) → List String
  | [] => []
  | (name, value) :: rest => (Text.quoted name ++ ": " ++ value.quoted) :: quotedFields rest

end

/-- The text of a value that stands by itself. -/
def display : Datum → String
  | text s => s
  | value => value.quoted

/-- The value of a decimal, which may be beyond all numbers. -/
def ofDecimal (d : Decimal) : Datum :=
  match Binary.ofDecimal? d with
  | some b => real b
  | none => infinite d.negative

/-- The number that a value is; a truth value counts as zero or one. -/
def number? : Datum → Option Number
  | int n => some (.whole n)
  | bool b => some (.whole (if b then 1 else 0))
  | real b => some (.real b)
  | infinite negative => some (.infinite negative)
  | notANumber => some .undefined
  | _ => none

/-- The value of a number. -/
def ofNumber : Number → Datum
  | .whole n => int n
  | .real b => real b
  | .infinite negative => infinite negative
  | .undefined => notANumber

/-- The integer that a value equals, if any. -/
def toInt? : Datum → Option Int
  | int n => some n
  | bool b => some (if b then 1 else 0)
  | real b => if b.isIntegral then some b.integerPart else none
  | _ => none

/-- The field of a record. -/
def field? (fields : List (String × Datum)) (name : String) : Option Datum :=
  (fields.find? (·.1 == name)).map (·.2)

end Datum

end Rollout

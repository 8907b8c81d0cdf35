import Rollout.Datum

/-!
# When two data are the same

Two data are **the same** when they hold the same value. Numbers are compared by value, whatever
their kind, so a truth value is the same as zero or one; the order of the fields of a record does
not count. Sameness is coarser than equality, which is decidable as well (`equal_iff`).
-/

namespace Rollout

namespace Datum

/-- The two values are one finite number. -/
def sameNumber (a b : Datum) : Bool :=
  match a.number?.bind Number.dyadic?, b.number?.bind Number.dyadic? with
  | some x, some y => x == y
  | _, _ => false

mutual

/-- The two values are the same. -/
def same : Datum → Datum → Bool
  | null, null => true
  | infinite a, infinite b => a == b
  | notANumber, notANumber => true
  | text a, text b => a == b
  | list as, list bs => sameItems as bs
  | record as, record bs => as.length == bs.length && sameFields as bs
  | a, b => a.sameNumber b

/-- The two lists have the same items in the same order. -/
def sameItems : List Datum → List Datum → Bool
  | [], [] => true
  | a :: as, b :: bs => a.same b && sameItems as bs
  | _, _ => false

/-- Every field has the same value among the other fields. -/
def sameFields : List (String × Datum) → List (String × Datum) → Bool
  | [], _ => true
  | (name, value) :: rest, others =>
    (match field? others name with
      | some other => value.same other
      | none => false) && sameFields rest others

end

/-! ## Equality -/

mutual

/-- The two values are written alike. -/
def equal : Datum → Datum → Bool
  | null, null => true
  | bool a, bool b => a == b
  | int a, int b => a == b
  | real a, real b => a == b
  | infinite a, infinite b => a == b
  | notANumber, notANumber => true
  | text a, text b => a == b
  | list as, list bs => equalItems as bs
  | record as, record bs => equalFields as bs
  | _, _ => false

/-- The two lists are written alike. -/
def equalItems : List Datum → List Datum → Bool
  | [], [] => true
  | a :: as, b :: bs => a.equal b && equalItems as bs
  | _, _ => false

/-- The two lists of fields are written alike. -/
def equalFields : List (String × Datum) → List (String × Datum) → Bool
  | [], [] => true
  | (name, a) :: as, (name', b) :: bs => name == name' && a.equal b && equalFields as bs
  | _, _ => false

end

mutual

/-- Data that are written alike are equal. -/
theorem equal_iff : (a b : Datum) → (a.equal b = true ↔ a = b)
  | null, b => by cases b <;> simp [equal]
  | bool _, b => by cases b <;> simp [equal]
  | int _, b => by cases b <;> simp [equal]
  | real _, b => by cases b <;> simp [equal]
  | infinite _, b => by cases b <;> simp [equal]
  | notANumber, b => by cases b <;> simp [equal]
  | text _, b => by cases b <;> simp [equal]
  | list as, b => by cases b <;> simp [equal, equalItems_iff as]
  | record as, b => by cases b <;> simp [equal, equalFields_iff as]

theorem equalItems_iff : (as bs : List Datum) → (equalItems as bs = true ↔ as = bs)
  | [], bs => by cases bs <;> simp [equalItems]
  | a :: as, bs => by cases bs <;> simp [equalItems, equal_iff a, equalItems_iff as]

theorem equalFields_iff :
    (as bs : List (String × Datum)) → (equalFields as bs = true ↔ as = bs)
  | [], bs => by cases bs <;> simp [equalFields]
  | (name, a) :: as, [] => by simp [equalFields]
  | (name, a) :: as, (name', b) :: bs => by
    simp [equalFields, equal_iff a b, equalFields_iff as bs]

end

instance : DecidableEq Datum := fun a b => decidable_of_iff _ (equal_iff a b)

end Datum

end Rollout

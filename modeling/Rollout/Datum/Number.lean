import Rollout.Datum.Binary

/-!
# Numbers of either kind

A **number** is an integer or a number with a fraction, and a fraction's kind has two infinities and
a value that is no number. Numbers of either kind are compared by value, exactly; what is no number
compares with nothing. Integers add up exactly. As soon as one summand has a fraction the other one
is rounded to its kind, and so is the sum.
-/

namespace Rollout

/-- A number of either kind. -/
inductive Number where
  | whole (value : Int)
  | real (value : Binary)
  /-- A number beyond all others. -/
  | infinite (negative : Bool)
  /-- A number that is none. -/
  | undefined
  deriving DecidableEq, Repr

namespace Number

/-- The exact value of a finite number. -/
def dyadic? : Number → Option Dyadic
  | whole n => some (.ofInt n)
  | real b => some b.toDyadic
  | infinite _ | undefined => none

/-- The first number is less than the second one. -/
def isLess : Number → Number → Bool
  | whole a, whole b => decide (a < b)
  | undefined, _ | _, undefined => false
  | infinite a, infinite b => a && !b
  | infinite a, _ => a
  | _, infinite b => !b
  | a, b => (do return (← a.dyadic?).blt (← b.dyadic?) : Option Bool).getD false

/-- The first number is at most the second one. -/
def isAtMost : Number → Number → Bool
  | whole a, whole b => decide (a ≤ b)
  | undefined, _ | _, undefined => false
  | infinite a, infinite b => a || !b
  | infinite a, _ => a
  | _, infinite b => !b
  | a, b => (do return (← a.dyadic?).ble (← b.dyadic?) : Option Bool).getD false

/-- Numbers with one exponent are in the order of their significands. -/
theorem blt_ofIntWithPrec (m n precision : Int) :
    (Dyadic.ofIntWithPrec m precision).blt (.ofIntWithPrec n precision) = decide (m < n) := by
  rw [Bool.eq_iff_iff, Dyadic.blt_iff_toRat, Dyadic.toRat_ofIntWithPrec_eq_mul_two_pow,
    Dyadic.toRat_ofIntWithPrec_eq_mul_two_pow, Rat.mul_lt_mul_right (Rat.zpow_pos (by decide)),
    Rat.intCast_lt_intCast, decide_eq_true_iff]

/-- The number as one of the kind with a fraction, unless it is too large. -/
def widened? : Number → Option Number
  | whole n => (Binary.ofInt? n).map real
  | number => some number

/-- The sum of numbers of the kind with a fraction. -/
def addWidened : Number → Number → Number
  | real a, real b =>
    match a.sum? b with
    | some sum => real sum
    | none => infinite a.negative
  | infinite a, infinite b => if a = b then infinite a else undefined
  | undefined, _ | _, undefined => undefined
  | infinite a, _ => infinite a
  | _, infinite b => infinite b
  | _, _ => undefined

/-- The sum, unless an integer is too large to take the kind of the other summand. -/
def add? : Number → Number → Option Number
  | whole a, whole b => some (whole (a + b))
  | a, b => do return (← a.widened?).addWidened (← b.widened?)

end Number

end Rollout

import Rollout.Datum.Decimal
import Rollout.Rounding

/-!
# Binary numbers

A number with a fraction has at most 53 significant bits and an exponent from −1074 to 971. A
decimal stands for the **nearest** such number, of two equally near ones for the even one, and a
number is written with the fewest digits that stand for it, of several such decimals the nearest
one. Comparisons and sums are exact before they are rounded.
-/

namespace Rollout

/-- The number `± significand · 2 ^ exponent`. -/
structure Binary where
  negative : Bool
  significand : Nat
  exponent : Int
  deriving DecidableEq, Repr

namespace Binary

/-- Zero with a sign. -/
def zero (negative : Bool) : Binary where
  negative := negative
  significand := 0
  exponent := 0

/-! ## Rounding -/

/-- The least exponent of a number. -/
def leastExponent : Int := -1074

/-- The greatest exponent of a number. -/
def greatestExponent : Int := 971

/-- How often a power of two goes into a fraction, rounded. -/
def quotientAt (n d : Nat) (exponent : Int) : Nat :=
  divideNearest (n <<< (-exponent).toNat) (d <<< exponent.toNat)

/-- The exponent with which a fraction has 53 bits before the point, or the least exponent. -/
def exponentFor (n d : Nat) : Int :=
  let guess : Int := (n.log2 : Int) - d.log2
  let place := if n <<< (-guess).toNat < d <<< guess.toNat then guess - 1 else guess
  max (place - 52) leastExponent

/-- The number nearest to a fraction, unless it is beyond all of them. -/
def nearest? (negative : Bool) (n d : Nat) : Option Binary :=
  let exponent := exponentFor n d
  let significand := quotientAt n d exponent
  if significand = 0 then some (zero negative)
  else
    let carried := significand = 1 <<< 53
    let exponent := if carried then exponent + 1 else exponent
    if exponent ≤ greatestExponent then
      some ⟨negative, if carried then 1 <<< 52 else significand, exponent⟩
    else none

/-- The number nearest to an integer. -/
def ofInt? (n : Int) : Option Binary :=
  nearest? (n < 0) n.natAbs 1

/-- The number nearest to an exact one. -/
def ofDyadic? : Dyadic → Option Binary
  | .zero => some (zero false)
  | .ofOdd n precision _ =>
    nearest? (n < 0) (n.natAbs <<< (-precision).toNat) (1 <<< precision.toNat)

/-- The number that a decimal stands for. What has no digit near the point is not worked out. -/
def ofDecimal? (d : Decimal) : Option Binary :=
  let place : Int := (Decimal.digitsOf d.significand).length + d.exponent
  if d.significand = 0 || place < -330 then some (zero d.negative)
  else if 310 < place then none
  else
    nearest? d.negative (d.significand * Decimal.powerOfTen d.exponent)
      (Decimal.powerOfTen (-d.exponent))

/-! ## Values -/

/-- The significand with its sign. -/
def signed (b : Binary) : Int :=
  if b.negative then -b.significand else b.significand

/-- The number as an exact one. -/
def toDyadic (b : Binary) : Dyadic :=
  .ofIntWithPrec b.signed (-b.exponent)

/-- The number without its sign and its fraction. -/
def wholePart (b : Binary) : Nat :=
  (b.significand <<< b.exponent.toNat) >>> (-b.exponent).toNat

/-- The number without its fraction. -/
def integerPart (b : Binary) : Int :=
  if b.negative then -b.wholePart else b.wholePart

/-- What is left of the number without its integer part, with its sign. -/
def fractionPart (b : Binary) : Dyadic :=
  b.toDyadic.sub (.ofInt b.integerPart)

/-- The number is an integer. -/
def isIntegral (b : Binary) : Bool :=
  b.significand % (1 <<< (-b.exponent).toNat) == 0

/-- The sum, rounded. -/
def sum? (a b : Binary) : Option Binary :=
  ofDyadic? (a.toDyadic.add b.toDyadic)

/-! ## Writing -/

/-- The number of places that the integer part of a fraction takes; for a fraction below one tenth,
less the zeros after the point. -/
def placesOf (n d : Nat) : Int :=
  if d ≤ n then (Decimal.digitsOf (n / d)).length
  else
    let size : Int := (Decimal.digitsOf (d / n)).length
    if d ≤ n * Decimal.powerOfTen (size - 1) then 2 - size else 1 - size

/-- A multiple of a power of ten that stands for the number: the nearest one, or else one of the
two around it. -/
def onGrid? (b : Binary) (exponent : Int) : Option Decimal :=
  let n := (b.significand <<< b.exponent.toNat) * Decimal.powerOfTen (-exponent)
  let d := (1 <<< (-b.exponent).toNat) * Decimal.powerOfTen exponent
  let decimals := [divideNearest n d, n / d, n / d + 1].map fun m => ⟨b.negative, m, exponent⟩
  decimals.find? fun decimal => ofDecimal? decimal = some b

/-- The decimal that equals the number. -/
def exactDecimal (b : Binary) : Decimal where
  negative := b.negative
  significand := (b.significand <<< b.exponent.toNat) * Nat.pow 5 (-b.exponent).toNat
  exponent := min b.exponent 0

/-- The decimal of the fewest digits that stands for the number. -/
def shortest (b : Binary) : Decimal :=
  let places := placesOf (b.significand <<< b.exponent.toNat) (1 <<< (-b.exponent).toNat)
  let found := (List.range 17).findSome? fun (n : Nat) => b.onGrid? (places - (n + 1 : Nat))
  found.getD b.exactDecimal

/-- The text of a number. -/
def text (b : Binary) : String :=
  if b.significand = 0 then (Decimal.text ⟨b.negative, 0, 0⟩) else b.shortest.text

end Binary

end Rollout

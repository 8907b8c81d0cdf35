/-!
# Decimal numbers

A **decimal** is a sign, a significand and a power of ten. It prints in positional notation while
its first digit stands between the fourth decimal place and the sixteenth place before the point,
and with an exponent of at least two digits otherwise; zeros at the end of the significand are not
printed.
-/

namespace Rollout

/-- The number `± significand · 10 ^ exponent`. -/
structure Decimal where
  negative : Bool
  significand : Nat
  exponent : Int
  deriving DecidableEq, Repr

namespace Decimal

/-- The digits of a natural number. -/
def digitsOf (n : Nat) : List Char :=
  (toString n).toList

/-- The digits without the zeros at their end. -/
def significantDigits (digits : List Char) : List Char :=
  (digits.reverse.dropWhile (· == '0')).reverse

/-- Digits with the point after the given count of them, at least one digit on either side. -/
def positional (digits : List Char) (point : Int) : List Char :=
  if point ≤ 0 then '0' :: '.' :: List.replicate (-point).toNat '0' ++ digits
  else if digits.length ≤ point.toNat then
    digits ++ List.replicate (point.toNat - digits.length) '0' ++ ['.', '0']
  else digits.take point.toNat ++ '.' :: digits.drop point.toNat

/-- One digit before the point and the exponent that goes with it. -/
def scientific (digits : List Char) (exponent : Int) : List Char :=
  let size := digitsOf exponent.natAbs
  digits.take 1 ++ (if digits.length ≤ 1 then [] else '.' :: digits.drop 1) ++
    'e' :: (if exponent < 0 then '-' else '+') :: (if size.length < 2 then '0' :: size else size)

/-- The text of a decimal. -/
def text (d : Decimal) : String :=
  let all := digitsOf d.significand
  let digits := significantDigits all
  let point : Int := all.length + d.exponent
  let body :=
    if d.significand = 0 then ['0', '.', '0']
    else if -4 < point && point ≤ 16 then positional digits point
    else scientific digits (point - 1)
  String.ofList (if d.negative then '-' :: body else body)

/-- A power of ten, at least the first one. -/
def powerOfTen (exponent : Int) : Nat :=
  Nat.pow 10 exponent.toNat

end Decimal

end Rollout

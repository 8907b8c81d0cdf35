/-!
# Rounding to 53 significant bits

Clocks and decimals are read as binary numbers of 53 significant bits. The nearest such number
to a fraction from 2 ^ 53 on is an integer; of two equally near ones it is the even one. Quotients
of at most 53 bits stand as they are.
-/

namespace Rollout

/-- The quotient rounded to the nearest number, halves to the even one. -/
def divideNearest (n d : Nat) : Nat :=
  let q := n / d
  let twice := 2 * (n % d)
  if twice < d then q
  else if d < twice then q + 1
  else if q % 2 = 0 then q else q + 1

/-- The integer nearest to a number, of two equally near ones the even one. -/
def nearestInteger : Dyadic → Int
  | .zero => 0
  | .ofOdd n precision _ =>
    let size := divideNearest (n.natAbs <<< (-precision).toNat) (1 <<< precision.toNat)
    if n < 0 then -(size : Int) else size

/-- The nearest number with 53 significant bits to a fraction from 2 ^ 53 on; a smaller fraction
loses what follows its integer part. -/
def nearest53 (n d : Nat) : Nat :=
  let whole := n / d
  let extra := whole.log2 - 52
  if extra = 0 then whole else divideNearest n (d <<< extra) <<< extra

/-- The nearest number with 53 significant bits to a fraction of either sign. -/
def nearestSigned53 (n : Int) (d : Nat) : Int :=
  if n < 0 then -(nearest53 n.natAbs d : Int) else nearest53 n.natAbs d

end Rollout

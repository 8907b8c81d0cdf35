import Rollout.Text.Blank
import Rollout.Text.Digit

/-!
# Integer numerals

An **integer numeral** is an optional sign and decimal digits, with single low lines allowed
between digits and blanks around the whole. Outside ASCII, digits and blanks of every script
count; inside ASCII only the space and the controls from tab to carriage return are blanks
here. A numeral may have at most 4300 digits.
-/

namespace Rollout.Text

/-- Why a text is no integer numeral. -/
inductive NumeralFlaw where
  /-- The text has another shape. -/
  | malformed
  /-- The text has more digits than a numeral may have. -/
  | tooLong (digits : Nat)
  deriving DecidableEq, Repr

/-- The most digits that a numeral may have. -/
def maxNumeralDigits : Nat := 4300

/-- An ASCII blank around a numeral. -/
def isNumeralBlank (c : Char) : Bool :=
  c == ' ' || (0x09 ≤ c.toNat && c.toNat ≤ 0x0D)

/-- The ASCII character that a character outside ASCII stands for in a numeral: the digit of
its value, a space for a blank, and a question mark, which no numeral holds, for all else. -/
def numeralChar (c : Char) : Char :=
  if c.toNat < 0x7F then c
  else if isBlank c then ' '
  else match digitValue? c with
    | some value => Char.ofNat ('0'.toNat + value)
    | none => '?'

/-- The value of an ASCII digit. -/
def asciiDigit? (c : Char) : Option Nat :=
  if c.isDigit then some (c.toNat - '0'.toNat) else none

/-- The digits that a text starts with and what follows them; the flag says whether the
character before was a digit, which a low line and the end of the digits ask for. -/
def leadingDigits (afterDigit : Bool) : List Char → Option (List Nat × List Char)
  | [] => if afterDigit then some ([], []) else none
  | c :: rest =>
    match asciiDigit? c with
    | some d => (leadingDigits true rest).map fun (ds, tail) => (d :: ds, tail)
    | none =>
      if !afterDigit then none
      else if c = '_' then leadingDigits false rest
      else some ([], c :: rest)

/-- The number that decimal digits stand for. -/
def ofDigits (digits : List Nat) : Nat :=
  digits.foldl (fun n d => 10 * n + d) 0

/-- The sign in front of a numeral and what follows it. -/
def leadingSign : List Char → Bool × List Char
  | '-' :: rest => (true, rest)
  | '+' :: rest => (false, rest)
  | s => (false, s)

/-- The integer that a numeral stands for. -/
def readInteger (s : List Char) : Except NumeralFlaw Int :=
  let (negative, body) := leadingSign ((s.map numeralChar).dropWhile isNumeralBlank)
  match leadingDigits false body with
  | none => .error .malformed
  | some (digits, rest) =>
    if maxNumeralDigits < digits.length then .error (.tooLong digits.length)
    else if !(rest.all isNumeralBlank) then .error .malformed
    else
      let n : Int := ofDigits digits
      .ok (if negative then -n else n)

end Rollout.Text

import Rollout.Text.Quoted
import Rollout.Text.Utf8

/-!
# Percent escapes

In a request a byte may be written as a **percent escape**, a percent sign and two hexadecimal
digits. Reading takes the escapes and the plain ASCII characters of a stretch together as bytes
of UTF-8; a percent sign that starts no escape stands for itself, and so does every character
outside ASCII.
-/

namespace Rollout.Text

/-- The value of a hexadecimal digit in either case. -/
def hexValue? (c : Char) : Option Nat :=
  if c.isDigit then some (c.toNat - '0'.toNat)
  else if 'a' ≤ c && c ≤ 'f' then some (c.toNat - 'a'.toNat + 10)
  else if 'A' ≤ c && c ≤ 'F' then some (c.toNat - 'A'.toNat + 10)
  else none

/-- The byte that two hexadecimal digits stand for. -/
def hexByte? (high low : Char) : Option UInt8 := do
  return UInt8.ofNat (16 * (← hexValue? high) + (← hexValue? low))

/-- A part of escaped text. -/
inductive EscapedPart where
  /-- A byte, plain or escaped. -/
  | byte (b : UInt8)
  /-- A character outside ASCII, which stands for itself. -/
  | char (c : Char)

/-- A character that starts no escape. -/
def EscapedPart.plain (c : Char) : EscapedPart :=
  if c.toNat < 0x80 then .byte (UInt8.ofNat c.toNat) else .char c

/-- The parts of escaped text. -/
def escapedParts : List Char → List EscapedPart
  | '%' :: high :: low :: rest =>
    match hexByte? high low with
    | some b => .byte b :: escapedParts rest
    | none => .plain '%' :: escapedParts (high :: low :: rest)
  | c :: rest => .plain c :: escapedParts rest
  | [] => []

/-- Decodes each stretch of bytes by itself; `run` holds the bytes of the present one in
reverse. -/
def joinParts (mend : List UInt8 → List Char) (run : List UInt8) : List EscapedPart → List Char
  | [] => decodeUtf8With mend run.reverse
  | .byte b :: rest => joinParts mend (b :: run) rest
  | .char c :: rest => decodeUtf8With mend run.reverse ++ c :: joinParts mend [] rest

/-- The text that escaped text stands for, with `mend` for bytes that start no character. -/
def unescapeWith (mend : List UInt8 → List Char) (s : List Char) : List Char :=
  joinParts mend [] (escapedParts s)

/-- The text that escaped text stands for, ill-formed bytes becoming replacement characters. -/
def unescapeLossy (s : List Char) : List Char :=
  unescapeWith (fun _ => ['\uFFFD']) s

/-- The percent escapes of bytes, in capital digits. -/
def escapeBytes (bytes : List UInt8) : List Char :=
  bytes.flatMap fun b => '%' :: (hexDigits b.toNat 2).map Char.toUpper

/-- The text that escaped text stands for, ill-formed bytes being left escaped. -/
def unescapeKeeping (s : List Char) : List Char :=
  unescapeWith escapeBytes s

end Rollout.Text

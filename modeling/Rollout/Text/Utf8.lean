/-!
# Reading UTF-8

Bytes are read as UTF-8 one **piece** at a time: a character, or a run of bytes that starts no
character together with the reason. An ill-formed run is the longest start of a well-formed
sequence, and at least one byte, so reading always goes on.
-/

namespace Rollout.Text

/-- Why bytes start no character. -/
inductive Utf8Flaw where
  /-- The first byte starts no sequence. -/
  | start
  /-- A byte of the sequence is not one that may follow. -/
  | continuation
  /-- The bytes end inside the sequence. -/
  | unfinished
  deriving DecidableEq, Repr

/-- What the next bytes are. -/
inductive Utf8Piece where
  /-- The sequence of one character. -/
  | char (c : Char)
  /-- Bytes that start no character. -/
  | flaw (why : Utf8Flaw) (bytes : List UInt8)

/-- What a first byte asks for: how many bytes follow, the bits it adds to the character, and
the span of the second byte, which leaves out surrogates, overlong forms and what lies beyond
the last code point. -/
def leadByte? (b : UInt8) : Option (Nat × Nat × UInt8 × UInt8) :=
  if b < 0x80 then some (0, b.toNat, 0x80, 0xBF)
  else if b < 0xC2 then none
  else if b < 0xE0 then some (1, b.toNat - 0xC0, 0x80, 0xBF)
  else if b = 0xE0 then some (2, 0, 0xA0, 0xBF)
  else if b = 0xED then some (2, 0x0D, 0x80, 0x9F)
  else if b < 0xF0 then some (2, b.toNat - 0xE0, 0x80, 0xBF)
  else if b = 0xF0 then some (3, 0, 0x90, 0xBF)
  else if b < 0xF4 then some (3, b.toNat - 0xF0, 0x80, 0xBF)
  else if b = 0xF4 then some (3, 4, 0x80, 0x8F)
  else none

/-- Reads the bytes that follow a first byte. The bytes read so far are given in reverse. -/
def continueUtf8 (value : Nat) (read : List UInt8) (low high : UInt8) :
    Nat → List UInt8 → Utf8Piece × List UInt8
  | 0, rest => (.char (Char.ofNat value), rest)
  | _ + 1, [] => (.flaw .unfinished read.reverse, [])
  | n + 1, b :: rest =>
    if low ≤ b && b ≤ high then
      continueUtf8 (value * 0x40 + (b.toNat - 0x80)) (b :: read) 0x80 0xBF n rest
    else (.flaw .continuation read.reverse, b :: rest)

/-- Reads the piece that starts with the given byte, and what is left. -/
def nextUtf8 (b : UInt8) (rest : List UInt8) : Utf8Piece × List UInt8 :=
  match leadByte? b with
  | none => (.flaw .start [b], rest)
  | some (count, value, low, high) => continueUtf8 value [b] low high count rest

theorem length_continueUtf8 (value : Nat) (read : List UInt8) (low high : UInt8) (n : Nat)
    (rest : List UInt8) : (continueUtf8 value read low high n rest).2.length ≤ rest.length := by
  induction n generalizing value read low high rest with
  | zero => simp [continueUtf8]
  | succ n ih =>
    cases rest with
    | nil => simp [continueUtf8]
    | cons b rest =>
      simp only [continueUtf8]
      split
      · exact Nat.le_trans (ih ..) (by simp)
      · simp

theorem length_nextUtf8 (b : UInt8) (rest : List UInt8) :
    (nextUtf8 b rest).2.length ≤ rest.length := by
  unfold nextUtf8
  split
  · simp
  · exact length_continueUtf8 ..

/-- All pieces of the bytes. -/
def utf8Pieces : List UInt8 → List Utf8Piece
  | [] => []
  | b :: rest => (nextUtf8 b rest).1 :: utf8Pieces (nextUtf8 b rest).2
termination_by bytes => bytes.length
decreasing_by
  have := length_nextUtf8 b rest
  simp
  omega

/-- The text of the bytes, with `mend` standing in for bytes that start no character. -/
def decodeUtf8With (mend : List UInt8 → List Char) (bytes : List UInt8) : List Char :=
  (utf8Pieces bytes).flatMap fun
    | .char c => [c]
    | .flaw _ run => mend run

/-- The text of the bytes, with one replacement character for each ill-formed run. -/
def decodeUtf8Lossy (bytes : List UInt8) : List Char :=
  decodeUtf8With (fun _ => ['\uFFFD']) bytes

/-- The place, the bytes and the reason of the first ill-formed run among pieces that start at
the given offset. -/
def firstFlaw? (offset : Nat) : List Utf8Piece → Option (Nat × List UInt8 × Utf8Flaw)
  | [] => none
  | .char c :: rest => firstFlaw? (offset + c.utf8Size) rest
  | .flaw why run :: _ => some (offset, run, why)

/-- The bytes of a text in UTF-8. -/
def encodeUtf8 (s : List Char) : List UInt8 :=
  (String.ofList s).toUTF8.toList

end Rollout.Text

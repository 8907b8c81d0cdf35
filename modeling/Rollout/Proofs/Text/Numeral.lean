import Mathlib.Algebra.Group.Nat.Defs
import Rollout.Text.Numeral

/-!
# Reading plain digits

Digits without a sign, blanks or low lines are read as the number that they write, if there are not
more than a numeral may have (`readInteger_digits`). The decimal form of a number is read as that
number (`readInteger_repr`). A raised digit stands for none and makes the text no numeral, wherever
it stands (`readInteger_flawed`).
-/

namespace Rollout.Text

theorem toNat_digit_bounds {c : Char} (digit : c.isDigit = true) :
    '0'.toNat ≤ c.toNat ∧ c.toNat ≤ '9'.toNat := by
  simpa [Char.isDigit, Char.le_def, UInt32.le_iff_toNat_le] using digit

theorem numeralChar_digit {c : Char} (digit : c.isDigit = true) : numeralChar c = c := by
  have bounds := toNat_digit_bounds digit
  have nine : '9'.toNat = 0x39 := rfl
  exact if_pos (by omega)

theorem map_numeralChar_digits {s : List Char} (digits : ∀ c ∈ s, c.isDigit = true) :
    s.map numeralChar = s :=
  (List.map_congr_left fun c member => numeralChar_digit (digits c member)).trans (List.map_id _)

/-- A digit is no blank, no sign and no low line. -/
theorem ne_of_digit {c d : Char} (digit : c.isDigit = true) (other : d.isDigit = false) :
    c ≠ d := by
  rintro rfl
  cases digit.symm.trans other

theorem not_numeralBlank_digit {c : Char} (digit : c.isDigit = true) :
    isNumeralBlank c = false := by
  have bounds := toNat_digit_bounds digit
  have zero : '0'.toNat = 0x30 := rfl
  have noSpace := ne_of_digit digit (show ' '.isDigit = false from rfl)
  simp only [isNumeralBlank, Bool.or_eq_false_iff, beq_eq_false_iff_ne, Bool.and_eq_false_iff,
    decide_eq_false_iff_not]
  exact ⟨noSpace, .inr (by omega)⟩

/-- All digits are read up to a character that is neither one nor a low line. -/
theorem leadingDigits_append {s : List Char} (digits : ∀ c ∈ s, c.isDigit = true)
    {afterDigit : Bool} (some_digit : afterDigit = true ∨ s ≠ []) {rest : List Char}
    (stops : ∀ c ∈ rest.head?, c.isDigit = false ∧ c ≠ '_') :
    leadingDigits afterDigit (s ++ rest) =
      some (s.map fun c => c.toNat - '0'.toNat, rest) := by
  induction s generalizing afterDigit with
  | nil =>
    obtain rfl : afterDigit = true := some_digit.resolve_right fun filled => filled rfl
    cases rest with
    | nil => rfl
    | cons c others =>
      obtain ⟨noDigit, noLine⟩ := stops c rfl
      simp [leadingDigits, asciiDigit?, noDigit, noLine]
  | cons c others ih =>
    have digit := digits c List.mem_cons_self
    have later := ih (fun d member => digits d (List.mem_cons_of_mem _ member)) (.inl rfl)
    simp [leadingDigits, asciiDigit?, digit, later]

theorem leadingSign_digit {c : Char} (digit : c.isDigit = true) (rest : List Char) :
    leadingSign (c :: rest) = (false, c :: rest) := by
  have noMinus := ne_of_digit digit (show '-'.isDigit = false from rfl)
  have noPlus := ne_of_digit digit (show '+'.isDigit = false from rfl)
  rw [leadingSign]
  · exact fun _ same => noMinus (List.cons.inj same).1
  · exact fun _ same => noPlus (List.cons.inj same).1

theorem ofDigits_digits (s : List Char) :
    ofDigits (s.map fun c => c.toNat - '0'.toNat) = Nat.ofDigitChars 10 s 0 := by
  rw [ofDigits, Nat.ofDigitChars, List.foldl_map]

/-- What is read of a text that starts with digits. -/
theorem readInteger_append {s : List Char} (digits : ∀ c ∈ s, c.isDigit = true) (filled : s ≠ [])
    {rest : List Char}
    (stops : ∀ c ∈ (rest.map numeralChar).head?, c.isDigit = false ∧ c ≠ '_') :
    readInteger (s ++ rest) =
      if maxNumeralDigits < s.length then .error (.tooLong s.length)
      else if !((rest.map numeralChar).all isNumeralBlank) then .error .malformed
      else .ok (Nat.ofDigitChars 10 s 0) := by
  obtain ⟨c, others, rfl⟩ := List.exists_cons_of_ne_nil filled
  have digit := digits c List.mem_cons_self
  have chars : (c :: others ++ rest).map numeralChar =
      c :: others ++ rest.map numeralChar := by
    rw [List.map_append, map_numeralChar_digits digits]
  have kept : (c :: others ++ rest.map numeralChar).dropWhile isNumeralBlank =
      c :: others ++ rest.map numeralChar :=
    List.dropWhile_cons_of_neg (by simp [not_numeralBlank_digit digit])
  have signless : leadingSign (c :: others ++ rest.map numeralChar) =
      (false, c :: others ++ rest.map numeralChar) :=
    leadingSign_digit digit _
  rw [readInteger, chars, kept, signless]
  simp only [leadingDigits_append digits (.inr filled) stops, List.length_map, ofDigits_digits,
    Bool.false_eq_true, if_false]

/-- Digits are read as the number that they write. -/
theorem readInteger_digits {s : List Char} (digits : ∀ c ∈ s, c.isDigit = true) (filled : s ≠ []) :
    readInteger s =
      if maxNumeralDigits < s.length then .error (.tooLong s.length)
      else .ok (Nat.ofDigitChars 10 s 0) := by
  have read := @readInteger_append s digits filled [] nofun
  rwa [List.append_nil] at read

/-- The decimal form of a number is read as the number, if it is not too long. -/
theorem readInteger_repr {n : Nat} (short : n < 10 ^ maxNumeralDigits) :
    readInteger n.repr.toList = .ok n := by
  have digits : ∀ c ∈ Nat.toDigits 10 n, c.isDigit = true := fun c member =>
    Nat.isDigit_of_mem_toDigits (by decide) (by decide) member
  have few : (Nat.toDigits 10 n).length ≤ maxNumeralDigits :=
    (Nat.length_toDigits_le_iff (by decide) (by decide)).mpr short
  rw [Nat.toList_repr, readInteger_digits digits Nat.toDigits_ne_nil, if_neg (by omega),
    Nat.ofDigitChars_toDigits (by decide) (by decide)]

/-- The integer that a numeral stands for, however many digits it has. -/
def numeral? (s : List Char) : Option Int :=
  let (negative, body) := leadingSign ((s.map numeralChar).dropWhile isNumeralBlank)
  match leadingDigits false body with
  | none => none
  | some (digits, rest) =>
    if rest.all isNumeralBlank then
      some (if negative then -(ofDigits digits : Int) else ofDigits digits)
    else none

/-- A numeral is read as its integer, or not at all for its length. -/
theorem readInteger_of_numeral? {s : List Char} {n : Int} (written : numeral? s = some n) :
    readInteger s = .ok n ∨ ∃ digits, readInteger s = .error (.tooLong digits) := by
  revert written
  rw [numeral?, readInteger]
  generalize leadingSign ((s.map numeralChar).dropWhile isNumeralBlank) = signed
  obtain ⟨negative, body⟩ := signed
  dsimp only
  cases leadingDigits false body with
  | none => nofun
  | some parts =>
    obtain ⟨digits, rest⟩ := parts
    dsimp only
    cases rest.all isNumeralBlank with
    | false => nofun
    | true =>
      intro written
      obtain rfl := Option.some.inj written
      by_cases long : maxNumeralDigits < digits.length
      · exact .inr ⟨_, if_pos long⟩
      · exact .inl (if_neg long)

/-- A character that stands for none of a numeral makes the text no numeral. -/
theorem readInteger_flawed {s : List Char} (digits : ∀ c ∈ s, c.isDigit = true) {c : Char}
    (flawed : numeralChar c = '?') (rest : List Char) :
    ∃ flaw, readInteger (s ++ c :: rest) = .error flaw := by
  have chars : (c :: rest).map numeralChar = '?' :: rest.map numeralChar := by
    rw [List.map_cons, flawed]
  cases s with
  | nil =>
    refine ⟨.malformed, ?_⟩
    rw [List.nil_append, readInteger, chars]
    rfl
  | cons first others =>
    have stops : ∀ d ∈ ((c :: rest).map numeralChar).head?, d.isDigit = false ∧ d ≠ '_' := by
      rw [chars]
      rintro d ⟨⟩
      decide
    rw [readInteger_append digits (List.cons_ne_nil _ _) stops, chars]
    split
    · exact ⟨_, rfl⟩
    · exact ⟨.malformed, rfl⟩

end Rollout.Text

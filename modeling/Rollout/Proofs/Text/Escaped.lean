import Rollout.Proofs.Text.Utf8
import Rollout.Text.Escaped

/-!
# Percent-encoded text

A text is **percent-encoded** when every character but letters, digits and four signs of ASCII is
written as the escapes of its bytes. What is left are characters that have no part in the shape of
a target (`isPlain_of_mem_percentEncode`), and reading takes the text back
(`unescapeWith_percentEncode`).
-/

namespace Rollout.Text

/-- The character stands for itself in percent-encoded text. -/
def isUnreserved (c : Char) : Bool :=
  c.isAlpha || c.isDigit || c == '-' || c == '.' || c == '_' || c == '~'

/-- A character in percent-encoded text. -/
def percentEncodeChar (c : Char) : List Char :=
  if isUnreserved c then [c] else escapeBytes (encodeUtf8 [c])

/-- A text in percent-encoded form. -/
def percentEncode (s : List Char) : List Char :=
  s.flatMap percentEncodeChar

/-- A text of unreserved characters is its own percent-encoded form. -/
theorem percentEncode_of_unreserved {s : List Char} (unreserved : s.all isUnreserved) :
    percentEncode s = s := by
  induction s with
  | nil => rfl
  | cons c rest ih =>
    rw [List.all_cons, Bool.and_eq_true] at unreserved
    rw [percentEncode, List.flatMap_cons, ← percentEncode, ih unreserved.2, percentEncodeChar,
      if_pos unreserved.1]
    rfl

/-! ## Escapes -/

theorem escapeBytes_cons (b : UInt8) (bytes : List UInt8) :
    escapeBytes (b :: bytes) =
      '%' :: (hexDigit (b.toNat / 16 % 16)).toUpper :: (hexDigit (b.toNat % 16)).toUpper ::
        escapeBytes bytes := by
  simp [escapeBytes, hexDigits]

theorem capitalDigit_spec : ∀ n < 16,
    hexValue? (hexDigit n).toUpper = some n ∧ isUnreserved (hexDigit n).toUpper = true := by
  decide

theorem hexByte?_digits (b : UInt8) :
    hexByte? (hexDigit (b.toNat / 16 % 16)).toUpper (hexDigit (b.toNat % 16)).toUpper =
      some b := by
  have high := (capitalDigit_spec (b.toNat / 16 % 16) (by omega)).1
  have low := (capitalDigit_spec (b.toNat % 16) (by omega)).1
  have byte := b.toNat_lt
  have whole : 16 * (b.toNat / 16 % 16) + b.toNat % 16 = b.toNat := by omega
  rw [hexByte?, high, low]
  show some (UInt8.ofNat (16 * (b.toNat / 16 % 16) + b.toNat % 16)) = some b
  rw [whole, UInt8.ofNat_toNat]

/-- Escapes are read as the bytes that they stand for. -/
theorem escapedParts_escapeBytes (bytes : List UInt8) (rest : List Char) :
    escapedParts (escapeBytes bytes ++ rest) = bytes.map .byte ++ escapedParts rest := by
  induction bytes with
  | nil => rfl
  | cons b bytes ih =>
    rw [escapeBytes_cons]
    simp only [List.cons_append, List.map_cons]
    rw [escapedParts, hexByte?_digits]
    exact congrArg _ ih

theorem toNat_lt_of_between {c first last : Char} (within : first.val ≤ c.val ∧ c.val ≤ last.val)
    (printed : 0x20 < first.toNat) (ascii : last.toNat < 0x7F) :
    0x20 < c.toNat ∧ c.toNat < 0x7F :=
  ⟨Nat.lt_of_lt_of_le printed (UInt32.le_iff_toNat_le.mp within.1),
    Nat.lt_of_le_of_lt (UInt32.le_iff_toNat_le.mp within.2) ascii⟩

theorem toNat_lt_of_unreserved {c : Char} (unreserved : isUnreserved c = true) :
    0x20 < c.toNat ∧ c.toNat < 0x7F := by
  have signs : c.isAlpha = true ∨ c.isDigit = true ∨ c ∈ ['-', '.', '_', '~'] := by
    simpa [isUnreserved, or_assoc] using unreserved
  rcases signs with letter | digit | sign
  · rcases Bool.or_eq_true_iff.mp letter with upper | lower
    · exact toNat_lt_of_between (of_decide_eq_true upper) (by decide) (by decide)
    · have within := (Bool.and_eq_true_iff.mp lower).imp of_decide_eq_true of_decide_eq_true
      exact toNat_lt_of_between within (by decide) (by decide)
  · have within := (Bool.and_eq_true_iff.mp digit).imp of_decide_eq_true of_decide_eq_true
    exact toNat_lt_of_between within (by decide) (by decide)
  · simp only [List.mem_cons, List.not_mem_nil, or_false] at sign
    rcases sign with rfl | rfl | rfl | rfl <;> decide

theorem escapedParts_unreserved {c : Char} (unreserved : isUnreserved c = true)
    (rest : List Char) :
    escapedParts (c :: rest) = (encodeUtf8 [c]).map .byte ++ escapedParts rest := by
  have ascii := (toNat_lt_of_unreserved unreserved).2
  have noSign : c ≠ '%' := by
    intro sign
    subst sign
    exact absurd unreserved (by decide)
  have bytes : encodeUtf8 [c] = [UInt8.ofNat c.toNat] :=
    encodeUtf8_ascii (by simpa using Nat.lt_succ_of_lt ascii)
  rw [bytes, escapedParts]
  · rw [EscapedPart.plain, if_pos (by omega)]
    rfl
  · intro high low after sign
    exact absurd sign noSign

/-- The parts of percent-encoded text are the bytes of the text. -/
theorem escapedParts_percentEncode (s : List Char) :
    escapedParts (percentEncode s) = (encodeUtf8 s).map .byte := by
  induction s with
  | nil => simp [percentEncode, escapedParts, encodeUtf8_eq]
  | cons c rest ih =>
    have bytes : encodeUtf8 (c :: rest) = encodeUtf8 [c] ++ encodeUtf8 rest := by
      simp [encodeUtf8_eq]
    rw [percentEncode, List.flatMap_cons, ← percentEncode, bytes, List.map_append, ← ih,
      percentEncodeChar]
    by_cases unreserved : isUnreserved c = true
    · rw [if_pos unreserved]
      exact escapedParts_unreserved unreserved _
    · rw [if_neg unreserved]
      exact escapedParts_escapeBytes _ _

theorem joinParts_bytes (mend : List UInt8 → List Char) (run bytes : List UInt8) :
    joinParts mend run (bytes.map .byte) = decodeUtf8With mend (run.reverse ++ bytes) := by
  induction bytes generalizing run with
  | nil => rw [List.append_nil]; rfl
  | cons b bytes ih =>
    rw [List.map_cons, joinParts, ih, List.reverse_cons, List.append_assoc]
    rfl

/-- Percent-encoded text is read as the text. -/
theorem unescapeWith_percentEncode (mend : List UInt8 → List Char) (s : List Char) :
    unescapeWith mend (percentEncode s) = s := by
  rw [unescapeWith, escapedParts_percentEncode, joinParts_bytes]
  exact decodeUtf8With_encodeUtf8 mend s

/-! ## The characters of percent-encoded text -/

theorem unreserved_of_mem_escapeBytes {bytes : List UInt8} {c : Char}
    (member : c ∈ escapeBytes bytes) : isUnreserved c = true ∨ c = '%' := by
  induction bytes with
  | nil => cases member
  | cons b bytes ih =>
    rw [escapeBytes_cons] at member
    simp only [List.mem_cons] at member
    rcases member with sign | high | low | later
    · exact .inr sign
    · exact .inl (high ▸ (capitalDigit_spec _ (by omega)).2)
    · exact .inl (low ▸ (capitalDigit_spec _ (by omega)).2)
    · exact ih later

theorem unreserved_of_mem_percentEncode {s : List Char} {c : Char}
    (member : c ∈ percentEncode s) : isUnreserved c = true ∨ c = '%' := by
  obtain ⟨d, -, inside⟩ := List.mem_flatMap.mp member
  unfold percentEncodeChar at inside
  split at inside
  · rename_i unreserved
    rw [List.mem_singleton] at inside
    exact .inl (inside ▸ unreserved)
  · exact unreserved_of_mem_escapeBytes inside

theorem percentEncode_ne_nil {s : List Char} (filled : s ≠ []) : percentEncode s ≠ [] := by
  intro empty
  have back := unescapeWith_percentEncode (fun _ => []) s
  rw [empty] at back
  have nothing : unescapeWith (fun _ => []) [] = [] := by
    simp [unescapeWith, escapedParts, joinParts, decodeUtf8With, utf8Pieces]
  exact filled (back.symm.trans nothing)

end Rollout.Text

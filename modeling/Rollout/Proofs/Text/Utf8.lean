import Rollout.Text.Utf8

/-!
# Text that is written and read as UTF-8

Reading takes back what writing makes of a text (`decodeUtf8With_encodeUtf8`). The bytes of a
character are one piece, whatever follows them (`utf8Pieces_encode`): the spans in which a second
byte may lie leave out shorter sequences, halves of pairs and what is no code point, and none of
these is what a character is written as.
-/

namespace Rollout.Text

/-! ## Bytes as a list -/

theorem toList_loop (bytes : ByteArray) (i : Nat) (read : List UInt8) :
    ByteArray.toList.loop bytes i read = read.reverse ++ bytes.data.toList.drop i := by
  fun_induction ByteArray.toList.loop bytes i read with
  | case1 i read more ih =>
    have within : i < bytes.data.toList.length := by simpa using more
    rw [ih, List.drop_eq_getElem_cons within]
    simp [ByteArray.get!, more]
  | case2 i read done =>
    rw [List.drop_eq_nil_of_le (by simpa using Nat.le_of_not_lt done)]
    simp

/-- The bytes of a text are those of its characters. -/
theorem encodeUtf8_eq (s : List Char) : encodeUtf8 s = s.flatMap String.utf8EncodeChar := by
  show ByteArray.toList.loop _ 0 [] = _
  rw [toList_loop]
  show (s.flatMap String.utf8EncodeChar).toByteArray.data.toList = _
  exact List.toList_data_toByteArray

theorem utf8EncodeChar_ascii {c : Char} (ascii : c.toNat < 0x80) :
    String.utf8EncodeChar c = [UInt8.ofNat c.toNat] := by
  have short : c.val.toNat ≤ 127 := by
    have same : c.toNat = c.val.toNat := rfl
    omega
  rw [String.utf8EncodeChar, if_pos short]
  rfl

/-- The bytes of ASCII text are the numbers of its characters. -/
theorem encodeUtf8_ascii {s : List Char} (ascii : ∀ c ∈ s, c.toNat < 0x80) :
    encodeUtf8 s = s.map fun c => UInt8.ofNat c.toNat := by
  rw [encodeUtf8_eq]
  induction s with
  | nil => rfl
  | cons c rest ih =>
    rw [List.flatMap_cons, utf8EncodeChar_ascii (ascii c List.mem_cons_self),
      ih fun d member => ascii d (List.mem_cons_of_mem _ member)]
    rfl

/-- The same, with a check that can be evaluated. -/
theorem encodeUtf8_of_all {s : List Char} (ascii : s.all (·.toNat < 0x80) = true) :
    encodeUtf8 s = s.map fun c => UInt8.ofNat c.toNat :=
  encodeUtf8_ascii (by simpa using ascii)

/-! ## Sequences -/

/-- What a first byte asks for, by its number. -/
theorem leadByte?_ofNat {n : Nat} (byte : n < 0x100) :
    leadByte? (UInt8.ofNat n) =
      if n < 0x80 then some (0, n, 0x80, 0xBF)
      else if n < 0xC2 then none
      else if n < 0xE0 then some (1, n - 0xC0, 0x80, 0xBF)
      else if n = 0xE0 then some (2, 0, 0xA0, 0xBF)
      else if n = 0xED then some (2, 0x0D, 0x80, 0x9F)
      else if n < 0xF0 then some (2, n - 0xE0, 0x80, 0xBF)
      else if n = 0xF0 then some (3, 0, 0x90, 0xBF)
      else if n < 0xF4 then some (3, n - 0xF0, 0x80, 0xBF)
      else if n = 0xF4 then some (3, 4, 0x80, 0x8F)
      else none := by
  have same : (UInt8.ofNat n).toNat = n := by simpa using byte
  unfold leadByte?
  simp only [UInt8.lt_iff_toNat_lt, ← UInt8.toNat_inj, same]
  rfl

/-- A byte that may follow, by its number. -/
theorem continueUtf8_ofNat {n low high : Nat} (above : low ≤ n) (below : n ≤ high)
    (byte : high < 0x100) (value : Nat) (read : List UInt8) (count : Nat) (rest : List UInt8) :
    continueUtf8 value read (UInt8.ofNat low) (UInt8.ofNat high) (count + 1)
        (UInt8.ofNat n :: rest) =
      continueUtf8 (value * 0x40 + (n - 0x80)) (UInt8.ofNat n :: read) 0x80 0xBF count rest := by
  have same : (UInt8.ofNat n).toNat = n := by
    rw [UInt8.toNat_ofNat']
    omega
  have inside : (UInt8.ofNat low ≤ UInt8.ofNat n && UInt8.ofNat n ≤ UInt8.ofNat high) = true := by
    rw [Bool.and_eq_true, decide_eq_true_iff, decide_eq_true_iff, UInt8.le_iff_toNat_le,
      UInt8.le_iff_toNat_le, UInt8.toNat_ofNat', UInt8.toNat_ofNat', UInt8.toNat_ofNat']
    omega
  rw [continueUtf8, if_pos inside, same]

/-- A byte that follows another one than the first, by the six bits that it carries. -/
theorem continueUtf8_bits {bits : Nat} (few : bits < 0x40) (value : Nat) (read : List UInt8)
    (count : Nat) (rest : List UInt8) :
    continueUtf8 value read 0x80 0xBF (count + 1) (UInt8.ofNat (bits + 128) :: rest) =
      continueUtf8 (value * 0x40 + bits) (UInt8.ofNat (bits + 128) :: read) 0x80 0xBF count
        rest := by
  have least : 128 ≤ bits + 128 := by omega
  have most : bits + 128 ≤ 191 := by omega
  have followed := continueUtf8_ofNat least most (by omega) value read count rest
  rw [Nat.add_sub_cancel] at followed
  exact followed

theorem nextUtf8_two {n : Nat} (low : 0x80 ≤ n) (high : n < 0x800) (rest : List UInt8) :
    nextUtf8 (UInt8.ofNat (n / 64 % 32 + 192)) (UInt8.ofNat (n % 64 + 128) :: rest) =
      (.char (Char.ofNat n), rest) := by
  have lead : leadByte? (UInt8.ofNat (n / 64 % 32 + 192)) = some (1, n / 64, 0x80, 0xBF) := by
    have value : n / 64 % 32 + 192 - 0xC0 = n / 64 := by omega
    rw [leadByte?_ofNat (by omega), if_neg (by omega), if_neg (by omega), if_pos (by omega), value]
  have whole : n / 64 * 0x40 + n % 64 = n := by omega
  rw [nextUtf8, lead]
  dsimp only
  rw [continueUtf8_bits (by omega), continueUtf8, whole]

/-- The first of three bytes keeps the second one from spelling a shorter sequence or half of a
pair. -/
theorem leadByte?_three {n : Nat} (low : 0x800 ≤ n) (high : n < 0x10000)
    (single : n < 0xD800 ∨ 0xDFFF < n) :
    ∃ least most, leadByte? (UInt8.ofNat (n / 4096 % 16 + 224)) =
        some (2, n / 4096, UInt8.ofNat least, UInt8.ofNat most) ∧
      most < 0x100 ∧ least ≤ n / 64 % 64 + 128 ∧ n / 64 % 64 + 128 ≤ most := by
  rw [leadByte?_ofNat (by omega), if_neg (by omega), if_neg (by omega), if_neg (by omega)]
  by_cases first : n / 4096 % 16 + 224 = 0xE0
  · have value : n / 4096 = 0 := by omega
    rw [if_pos first, value]
    exact ⟨0xA0, 0xBF, rfl, by omega, by omega, by omega⟩
  · rw [if_neg first]
    by_cases surrogate : n / 4096 % 16 + 224 = 0xED
    · have value : n / 4096 = 0x0D := by omega
      rw [if_pos surrogate, value]
      exact ⟨0x80, 0x9F, rfl, by omega, by omega, by omega⟩
    · have value : n / 4096 % 16 + 224 - 0xE0 = n / 4096 := by omega
      rw [if_neg surrogate, if_pos (by omega), value]
      exact ⟨0x80, 0xBF, rfl, by omega, by omega, by omega⟩

theorem nextUtf8_three {n : Nat} (low : 0x800 ≤ n) (high : n < 0x10000)
    (single : n < 0xD800 ∨ 0xDFFF < n) (rest : List UInt8) :
    nextUtf8 (UInt8.ofNat (n / 4096 % 16 + 224))
        (UInt8.ofNat (n / 64 % 64 + 128) :: UInt8.ofNat (n % 64 + 128) :: rest) =
      (.char (Char.ofNat n), rest) := by
  obtain ⟨least, most, lead, byte, above, below⟩ := leadByte?_three low high single
  have whole : (n / 4096 * 0x40 + (n / 64 % 64 + 128 - 0x80)) * 0x40 + n % 64 = n := by omega
  rw [nextUtf8, lead]
  dsimp only
  rw [continueUtf8_ofNat above below byte, continueUtf8_bits (by omega), continueUtf8, whole]

/-- The first of four bytes keeps the second one from spelling a shorter sequence or a number
that is no code point. -/
theorem leadByte?_four {n : Nat} (low : 0x10000 ≤ n) (high : n < 0x110000) :
    ∃ least most, leadByte? (UInt8.ofNat (n / 262144 % 8 + 240)) =
        some (3, n / 262144, UInt8.ofNat least, UInt8.ofNat most) ∧
      most < 0x100 ∧ least ≤ n / 4096 % 64 + 128 ∧ n / 4096 % 64 + 128 ≤ most := by
  rw [leadByte?_ofNat (by omega), if_neg (by omega), if_neg (by omega), if_neg (by omega),
    if_neg (by omega), if_neg (by omega), if_neg (by omega)]
  by_cases first : n / 262144 % 8 + 240 = 0xF0
  · have value : n / 262144 = 0 := by omega
    rw [if_pos first, value]
    exact ⟨0x90, 0xBF, rfl, by omega, by omega, by omega⟩
  · rw [if_neg first]
    by_cases middle : n / 262144 % 8 + 240 < 0xF4
    · have value : n / 262144 % 8 + 240 - 0xF0 = n / 262144 := by omega
      rw [if_pos middle, value]
      exact ⟨0x80, 0xBF, rfl, by omega, by omega, by omega⟩
    · have value : n / 262144 = 4 := by omega
      rw [if_neg middle, if_pos (by omega), value]
      exact ⟨0x80, 0x8F, rfl, by omega, by omega, by omega⟩

theorem nextUtf8_four {n : Nat} (low : 0x10000 ≤ n) (high : n < 0x110000) (rest : List UInt8) :
    nextUtf8 (UInt8.ofNat (n / 262144 % 8 + 240))
        (UInt8.ofNat (n / 4096 % 64 + 128) :: UInt8.ofNat (n / 64 % 64 + 128) ::
          UInt8.ofNat (n % 64 + 128) :: rest) =
      (.char (Char.ofNat n), rest) := by
  obtain ⟨least, most, lead, byte, above, below⟩ := leadByte?_four low high
  have whole : ((n / 262144 * 0x40 + (n / 4096 % 64 + 128 - 0x80)) * 0x40 + n / 64 % 64) * 0x40 +
      n % 64 = n := by omega
  rw [nextUtf8, lead]
  dsimp only
  rw [continueUtf8_ofNat above below byte, continueUtf8_bits (by omega),
    continueUtf8_bits (by omega), continueUtf8, whole]

/-- The bytes of a character are read as the character. -/
theorem utf8Pieces_encode (c : Char) (rest : List UInt8) :
    utf8Pieces (String.utf8EncodeChar c ++ rest) = .char c :: utf8Pieces rest := by
  have valid : c.val.toNat < 0xD800 ∨ 0xDFFF < c.val.toNat ∧ c.val.toNat < 0x110000 := c.valid
  have back : Char.ofNat c.val.toNat = c := Char.ofNat_toNat c
  unfold String.utf8EncodeChar
  dsimp only
  split
  · rw [List.cons_append, List.nil_append, utf8Pieces, nextUtf8, leadByte?_ofNat (by omega),
      if_pos (by omega)]
    simp only [continueUtf8, back]
  · split
    · simp only [List.cons_append, List.nil_append]
      rw [utf8Pieces, nextUtf8_two (by omega) (by omega), back]
    · split
      · simp only [List.cons_append, List.nil_append]
        rw [utf8Pieces, nextUtf8_three (by omega) (by omega) (by omega), back]
      · simp only [List.cons_append, List.nil_append]
        rw [utf8Pieces, nextUtf8_four (by omega) (by omega), back]

/-- Bytes that a text was written as are read as that text. -/
theorem decodeUtf8With_encodeUtf8 (mend : List UInt8 → List Char) (s : List Char) :
    decodeUtf8With mend (encodeUtf8 s) = s := by
  rw [encodeUtf8_eq]
  induction s with
  | nil => simp [decodeUtf8With, utf8Pieces]
  | cons c rest ih =>
    unfold decodeUtf8With at ih ⊢
    rw [List.flatMap_cons, utf8Pieces_encode, List.flatMap_cons, ih]
    rfl

end Rollout.Text

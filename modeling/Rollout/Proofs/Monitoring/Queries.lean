import Mathlib.Data.List.Basic
import Rollout.Monitoring.Target
import Rollout.Proofs.Monitoring.PlanPage
import Rollout.Proofs.Monitoring.Routes
import Rollout.Proofs.Text.Escaped

/-!
# Queries with percent-encoded values

Named values are written into a query as percent-encoded texts, with signs between them that no such
text holds. Any names and values are read back from it in their order (`namedValues_queryOf`).
-/

namespace Rollout

namespace Text

theorem utf8Pieces_encodeUtf8 (s : List Char) : utf8Pieces (encodeUtf8 s) = s.map .char := by
  rw [encodeUtf8_eq]
  induction s with
  | nil => simp [utf8Pieces]
  | cons c rest ih => rw [List.flatMap_cons, utf8Pieces_encode, ih, List.map_cons]

theorem firstFlaw?_chars (offset : Nat) (s : List Char) :
    firstFlaw? offset (s.map .char) = none := by
  induction s generalizing offset with
  | nil => rfl
  | cons c rest ih => exact ih _

/-- A sign that is neither unreserved nor a percent sign is not in percent-encoded text. -/
theorem not_mem_percentEncode {sign : Char} (reserved : isUnreserved sign = false)
    (other : sign ≠ '%') (s : List Char) : sign ∉ percentEncode s := by
  intro member
  rcases unreserved_of_mem_percentEncode member with unreserved | percent
  · exact absurd (unreserved.symm.trans reserved) (by decide)
  · exact other percent

theorem splitFirst_append {c : Char} {s : List Char} (absent : c ∉ s) (rest : List Char) :
    splitFirst c (s ++ c :: rest) = (s, rest) := by
  have dropped : (s ++ c :: rest).dropWhile (· ≠ c) = c :: rest := by
    rw [List.dropWhile_append_of_pos fun d member => ?_]
    · simp
    · simpa using fun same : d = c => absent (same ▸ member)
  rw [splitFirst, takeWhile_append_stop, takeWhile_absent absent, dropped, List.drop_one,
    List.tail_cons]

theorem ascii_percentEncode {s : List Char} {c : Char} (member : c ∈ percentEncode s) :
    c.toNat < 0x80 := by
  rcases unreserved_of_mem_percentEncode member with unreserved | rfl
  · exact Nat.lt_succ_of_lt (toNat_lt_of_unreserved unreserved).2
  · decide

/-! ## Text that is not blank -/

theorem decodeUtf8Lossy_ne_nil {bytes : List UInt8} (filled : bytes ≠ []) :
    decodeUtf8Lossy bytes ≠ [] := by
  obtain ⟨b, rest, rfl⟩ := List.exists_cons_of_ne_nil filled
  rw [decodeUtf8Lossy, decodeUtf8With, utf8Pieces, List.flatMap_cons]
  cases (nextUtf8 b rest).1 with
  | char c => exact List.cons_ne_nil _ _
  | flaw why run => exact List.cons_ne_nil _ _

theorem joinParts_ne_nil {run : List UInt8} {parts : List EscapedPart}
    (filled : run ≠ [] ∨ parts ≠ []) : joinParts (fun _ => ['\uFFFD']) run parts ≠ [] := by
  induction parts generalizing run with
  | nil =>
    have some_bytes := filled.resolve_right fun none_left => none_left rfl
    exact decodeUtf8Lossy_ne_nil (by simpa using some_bytes)
  | cons part rest ih =>
    cases part with
    | byte b => exact ih (.inl (List.cons_ne_nil b run))
    | char c => exact List.append_ne_nil_of_right_ne_nil _ (List.cons_ne_nil c _)

theorem escapedParts_ne_nil {s : List Char} (filled : s ≠ []) : escapedParts s ≠ [] := by
  unfold escapedParts
  split
  · split <;> exact List.cons_ne_nil _ _
  · exact List.cons_ne_nil _ _
  · exact absurd rfl filled

/-- Whatever the escapes are, text that is not blank does not become blank. -/
theorem unescapeLossy_ne_nil {s : List Char} (filled : s ≠ []) : unescapeLossy s ≠ [] :=
  joinParts_ne_nil (.inr (escapedParts_ne_nil filled))

end Text

namespace Monitoring

open Text

/-- Where blank values are not kept, no value that is read is blank. -/
theorem value_filled {query : List Char} {field : String × String}
    (read : field ∈ Target.namedValues false unescapeLossy query) : field.2 ≠ "" := by
  obtain ⟨part, -, kept⟩ := List.mem_filterMap.mp read
  dsimp only at kept
  split at kept
  · cases kept
  · rename_i present
    obtain rfl := Option.some.inj kept
    have value : (splitFirst '=' part).2 ≠ [] := by
      intro blank
      simp [blank] at present
    have text := @unescapeLossy_ne_nil
      ((splitFirst '=' part).2.map fun c => if c = '+' then ' ' else c) (by simpa using value)
    simpa using text

theorem value_of_valueOf? {query : List Char} {name value : String}
    (read : Target.valueOf? (Target.namedValues false unescapeLossy query) name = some value) :
    value ≠ "" := by
  obtain ⟨field, found, rfl⟩ := Option.map_eq_some_iff.mp read
  exact value_filled (List.mem_of_find?_eq_some found)

/-- A name and its value as a query holds them. -/
def queryField (field : String × String) : List Char :=
  percentEncode field.1.toList ++ '=' :: percentEncode field.2.toList

/-- The query that holds the named values. -/
def queryOf : List (String × String) → List Char
  | [] => []
  | [field] => queryField field
  | field :: rest => queryField field ++ '&' :: queryOf rest

theorem ampersand_not_mem_queryField (field : String × String) : '&' ∉ queryField field := by
  have absent : ∀ s, '&' ∉ percentEncode s := not_mem_percentEncode (by decide) (by decide)
  simp [queryField, absent]

theorem splitAll_queryOf (field : String × String) (rest : List (String × String)) :
    splitAll '&' (queryOf (field :: rest)) = (field :: rest).map queryField := by
  induction rest generalizing field with
  | nil => exact splitAll_absent (ampersand_not_mem_queryField field)
  | cons next others ih =>
    rw [queryOf, splitAll_append (ampersand_not_mem_queryField field), ih next]
    · rfl
    · nofun

theorem splitFirst_queryField (field : String × String) :
    splitFirst '=' (queryField field) =
      (percentEncode field.1.toList, percentEncode field.2.toList) :=
  splitFirst_append (not_mem_percentEncode (by decide) (by decide) _) _

/-- No plus sign stands for a space where every text is percent-encoded. -/
theorem map_plus_percentEncode (s : List Char) :
    (percentEncode s).map (fun c => if c = '+' then ' ' else c) = percentEncode s := by
  refine (List.map_congr_left fun c member => ?_).trans (List.map_id _)
  refine if_neg fun plus => ?_
  exact not_mem_percentEncode (by decide) (by decide) s (plus ▸ member)

variable {fields : List (String × String)}

theorem read_percentEncode (mend : List UInt8 → List Char) (text : String) :
    String.ofList (unescapeWith mend
      ((percentEncode text.toList).map fun c => if c = '+' then ' ' else c)) = text := by
  rw [map_plus_percentEncode, unescapeWith_percentEncode, String.ofList_toList]

/-- Names and values are read as they were, but for blank values that are not kept. -/
theorem namedValues_queryOf (mend : List UInt8 → List Char) {keepBlank : Bool}
    (kept : ∀ field ∈ fields, keepBlank = true ∨ field.2 ≠ "") :
    Target.namedValues keepBlank (unescapeWith mend) (queryOf fields) = fields := by
  cases fields with
  | nil => rfl
  | cons first rest =>
    rw [Target.namedValues, splitAll_queryOf, List.filterMap_map]
    refine (List.filterMap_congr fun field member => ?_).trans List.filterMap_some
    have filled : (queryField field).isEmpty = false := by simp [queryField]
    have blank : ((percentEncode field.2.toList).isEmpty && !keepBlank) = false := by
      rcases kept field member with keeps | some_value
      · simp [keeps]
      · have value : percentEncode field.2.toList ≠ [] :=
          percentEncode_ne_nil (by simpa using some_value)
        simp [value]
    simp only [Function.comp_apply, splitFirst_queryField, filled, blank, Bool.or_false,
      read_percentEncode]
    rfl

theorem ascii_queryField (field : String × String) : ∀ c ∈ queryField field, c.toNat < 0x80 := by
  intro c member
  rcases List.mem_append.mp member with name | rest
  · exact ascii_percentEncode name
  · rcases List.mem_cons.mp rest with rfl | value
    · decide
    · exact ascii_percentEncode value

theorem ascii_queryOf (fields : List (String × String)) : ∀ c ∈ queryOf fields, c.toNat < 0x80 := by
  induction fields with
  | nil => nofun
  | cons field rest ih =>
    cases rest with
    | nil => exact ascii_queryField field
    | cons next others =>
      intro c member
      rcases List.mem_append.mp member with here | later
      · exact ascii_queryField field c here
      · rcases List.mem_cons.mp later with rfl | there
        · decide
        · exact ih c there

theorem textValues_queryOf (fields : List (String × String)) :
    Target.textValues (queryOf fields) = .ok fields := by
  have bytes : Target.bytesOf (queryOf fields) = encodeUtf8 (queryOf fields) :=
    (encodeUtf8_ascii (ascii_queryOf fields)).symm
  have sound : firstFlaw? 0 (utf8Pieces (encodeUtf8 (queryOf fields))) = none := by
    rw [utf8Pieces_encodeUtf8, firstFlaw?_chars]
  have decoded : decodeUtf8Lossy (encodeUtf8 (queryOf fields)) = queryOf fields :=
    decodeUtf8With_encodeUtf8 _ _
  rw [Target.textValues, bytes]
  simp only [sound, decoded]
  exact congrArg Except.ok (namedValues_queryOf escapeBytes fun _ _ => .inl rfl)

end Monitoring

end Rollout

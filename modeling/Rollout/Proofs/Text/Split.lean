import Rollout.Text.Split

/-!
# Splitting and joining

The parts of a text do not hold the character that it is split at, and parts without the character
are found again in the text that joins them (`splitAll_intercalate`).
-/

namespace Rollout.Text

variable {c : Char}

/-- What stands before the first place of the character is the first part. -/
theorem splitAll_append {s : List Char} (absent : c ∉ s) (rest : List Char) :
    splitAll c (s ++ c :: rest) = s :: splitAll c rest := by
  induction s with
  | nil => simp [splitAll]
  | cons d others ih =>
    rw [List.mem_cons, not_or] at absent
    rw [List.cons_append, splitAll, if_neg (Ne.symm absent.1), ih absent.2]

theorem splitAll_absent {s : List Char} (absent : c ∉ s) : splitAll c s = [s] := by
  induction s with
  | nil => rfl
  | cons d others ih =>
    rw [List.mem_cons, not_or] at absent
    rw [splitAll, if_neg (Ne.symm absent.1), ih absent.2]

theorem splitAll_ne_nil (c : Char) (s : List Char) : splitAll c s ≠ [] := by
  cases s with
  | nil => simp [splitAll]
  | cons d rest =>
    rw [splitAll]
    split
    · simp
    · split <;> simp

theorem not_mem_of_mem_splitAll {s part : List Char} (member : part ∈ splitAll c s) : c ∉ part := by
  induction s generalizing part with
  | nil =>
    rw [splitAll, List.mem_singleton] at member
    subst member
    exact List.not_mem_nil
  | cons d rest ih =>
    rw [splitAll] at member
    split at member
    · rcases List.mem_cons.mp member with rfl | later
      · exact List.not_mem_nil
      · exact ih later
    · rename_i differs
      cases parts : splitAll c rest with
      | nil => exact absurd parts (splitAll_ne_nil c rest)
      | cons first others =>
        rw [parts] at member ih
        rcases List.mem_cons.mp member with rfl | later
        · rw [List.mem_cons, not_or]
          exact ⟨Ne.symm differs, ih List.mem_cons_self⟩
        · exact ih (List.mem_cons_of_mem first later)

theorem splitAll_intercalate {parts : List (List Char)} (filled : parts ≠ [])
    (absent : ∀ part ∈ parts, c ∉ part) : splitAll c ([c].intercalate parts) = parts := by
  induction parts with
  | nil => exact absurd rfl filled
  | cons part rest ih =>
    have here := absent part List.mem_cons_self
    cases rest with
    | nil => simpa using splitAll_absent here
    | cons next others =>
      have later := ih (List.cons_ne_nil next others) fun other member =>
        absent other (List.mem_cons_of_mem part member)
      rw [List.intercalate_cons_cons, List.append_assoc, List.singleton_append,
        splitAll_append here, later]

end Rollout.Text

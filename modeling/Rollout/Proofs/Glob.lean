import Rollout.Glob

/-!
# What a glob matches

The relation that a glob stands for, one rule for each way its front can be read (`Matches`), and
the proof that the rows of truth values decide it (`accepts_iff`). A row is described by what it
tells of each place of the text (`Tells`); every kind of piece turns a row for what follows it
into a row for the whole.
-/

namespace Rollout.Glob

/-- The pattern matches the whole text. -/
inductive Matches : List Char → List Char → Prop where
  | nil : Matches [] []
  /-- A star stands for nothing more. -/
  | pass {pattern text : List Char} : Matches pattern text → Matches ('*' :: pattern) text
  /-- A star takes one more character. -/
  | take {pattern text : List Char} {c : Char} :
      Matches ('*' :: pattern) text → Matches ('*' :: pattern) (c :: text)
  | any {pattern text : List Char} {c : Char} :
      Matches pattern text → Matches ('?' :: pattern) (c :: text)
  | oneOf {pattern body after text : List Char} {c : Char} :
      bracketed? pattern = some (body, after) → (CharSet.ofText body).holds c = true →
      Matches after text → Matches ('[' :: pattern) (c :: text)
  /-- A bracket that is never closed stands for itself. -/
  | unclosed {pattern text : List Char} :
      bracketed? pattern = none → Matches pattern text → Matches ('[' :: pattern) ('[' :: text)
  | one {pattern text : List Char} {c : Char} :
      c ≠ '*' → c ≠ '?' → c ≠ '[' → Matches pattern text → Matches (c :: pattern) (c :: text)

/-! ## Rows -/

/-- The row tells for each place of the text whether what follows has the property. -/
def Tells (holds : List Char → Prop) : List Char → List Bool → Prop
  | [], row => ∃ here, row = [here] ∧ (here = true ↔ holds [])
  | c :: text, row =>
    ∃ here later, row = here :: later ∧ (here = true ↔ holds (c :: text)) ∧ Tells holds text later

variable {holds : List Char → Prop} {text : List Char} {row : List Bool}

theorem Tells.head (tells : Tells holds text row) : row.headD false = true ↔ holds text := by
  cases text with
  | nil =>
    obtain ⟨here, rfl, told⟩ := tells
    exact told
  | cons c rest =>
    obtain ⟨here, later, rfl, told, -⟩ := tells
    exact told

theorem Tells.congr {holds' : List Char → Prop} (same : ∀ t, holds t ↔ holds' t)
    (tells : Tells holds text row) : Tells holds' text row := by
  induction text generalizing row with
  | nil =>
    obtain ⟨here, rfl, told⟩ := tells
    exact ⟨here, rfl, told.trans (same [])⟩
  | cons c rest ih =>
    obtain ⟨here, later, rfl, told, tail⟩ := tells
    exact ⟨here, later, rfl, told.trans (same _), ih tail⟩

theorem tells_endRow (text : List Char) : Tells (· = []) text (endRow text) := by
  induction text with
  | nil => exact ⟨true, rfl, by simp⟩
  | cons c rest ih => exact ⟨false, endRow rest, rfl, by simp, ih⟩

/-- The row of a star tells whether some end of the text has the property. -/
theorem Tells.stretch (tells : Tells holds text row) :
    Tells (fun t => ∃ u, u <:+ t ∧ holds u) text (stretchRow row) := by
  induction text generalizing row with
  | nil =>
    obtain ⟨here, rfl, told⟩ := tells
    refine ⟨here, by simp [stretchRow], told.trans ?_⟩
    simp
  | cons c rest ih =>
    obtain ⟨here, later, rfl, told, tail⟩ := tells
    refine ⟨_, stretchRow later, rfl, ?_, ih tail⟩
    rw [Bool.or_eq_true, told, (ih tail).head]
    simp only [List.suffix_cons_iff, or_and_right, exists_or, exists_eq_left]

/-- The text begins with a character that passes the test, and the rest has the property. -/
def Begins (test : Char → Bool) (holds : List Char → Prop) : List Char → Prop
  | [] => False
  | c :: rest => test c = true ∧ holds rest

theorem Tells.one (tells : Tells holds text row) (test : Char → Bool) :
    Tells (Begins test holds) text (oneRow test text row) := by
  induction text generalizing row with
  | nil => exact ⟨false, rfl, by simp [Begins]⟩
  | cons c rest ih =>
    obtain ⟨here, later, rfl, -, tail⟩ := tells
    refine ⟨_, oneRow test rest later, rfl, ?_, ih tail⟩
    rw [Bool.and_eq_true, List.drop_succ_cons, List.drop_zero, tail.head, Begins]

/-! ## Patterns -/

theorem matches_nil_iff : Matches [] text ↔ text = [] := by
  constructor
  · rintro ⟨⟩
    rfl
  · rintro rfl
    exact .nil

/-- A star matches whatever comes before an end that the rest of the pattern matches. -/
theorem matches_star_iff {pattern : List Char} :
    Matches ('*' :: pattern) text ↔ ∃ u, u <:+ text ∧ Matches pattern u := by
  constructor
  · intro matched
    induction text with
    | nil =>
      cases matched with
      | pass rest => exact ⟨[], List.suffix_rfl, rest⟩
    | cons c t ih =>
      cases matched with
      | pass rest => exact ⟨c :: t, List.suffix_rfl, rest⟩
      | take more =>
        obtain ⟨u, suffix, rest⟩ := ih more
        exact ⟨u, suffix.trans (List.suffix_cons c t), rest⟩
      | one star => exact absurd rfl star
  · rintro ⟨u, ⟨before, rfl⟩, rest⟩
    induction before with
    | nil => exact .pass rest
    | cons c before ih => exact .take ih

theorem matches_any_iff {pattern : List Char} :
    Matches ('?' :: pattern) text ↔ Begins (fun _ => true) (Matches pattern) text := by
  constructor
  · intro matched
    cases matched with
    | any rest => exact ⟨rfl, rest⟩
    | one _ any => exact absurd rfl any
  · intro begins
    cases text with
    | nil => cases begins
    | cons c t => exact .any begins.2

theorem matches_bracket_iff {pattern body after : List Char}
    (closed : bracketed? pattern = some (body, after)) :
    Matches ('[' :: pattern) text ↔
      Begins (CharSet.ofText body).holds (Matches after) text := by
  constructor
  · intro matched
    cases matched with
    | oneOf closed' member rest =>
      cases closed.symm.trans closed'
      exact ⟨member, rest⟩
    | unclosed missing => cases closed.symm.trans missing
    | one _ _ bracket => exact absurd rfl bracket
  · intro begins
    cases text with
    | nil => cases begins
    | cons c t => exact .oneOf closed begins.1 begins.2

theorem matches_unclosed_iff {pattern : List Char} (missing : bracketed? pattern = none) :
    Matches ('[' :: pattern) text ↔
      Begins (fun d => decide (d = '[')) (Matches pattern) text := by
  constructor
  · intro matched
    cases matched with
    | oneOf closed => cases missing.symm.trans closed
    | unclosed _ rest => exact ⟨rfl, rest⟩
    | one _ _ bracket => exact absurd rfl bracket
  · intro begins
    cases text with
    | nil => cases begins
    | cons d t =>
      obtain rfl := of_decide_eq_true begins.1
      exact .unclosed missing begins.2

theorem matches_one_iff {pattern : List Char} {c : Char} (star : c ≠ '*') (any : c ≠ '?')
    (bracket : c ≠ '[') :
    Matches (c :: pattern) text ↔
      Begins (fun d => decide (d = c)) (Matches pattern) text := by
  constructor
  · intro matched
    cases matched with
    | pass => exact absurd rfl star
    | take => exact absurd rfl star
    | any => exact absurd rfl any
    | oneOf => exact absurd rfl bracket
    | unclosed => exact absurd rfl bracket
    | one _ _ _ rest => exact ⟨decide_eq_true rfl, rest⟩
  · intro begins
    cases text with
    | nil => cases begins
    | cons d t =>
      obtain rfl := of_decide_eq_true begins.1
      exact .one star any bracket begins.2

/-- The row of a pattern tells where the pattern matches. -/
theorem tells_matchRow (pattern text : List Char) :
    Tells (Matches pattern) text (matchRow text (parse pattern)) := by
  induction pattern using parse.induct with
  | case1 =>
    rw [parse, matchRow]
    exact (tells_endRow text).congr fun _ => matches_nil_iff.symm
  | case2 rest ih =>
    rw [parse, matchRow]
    exact ih.stretch.congr fun _ => matches_star_iff.symm
  | case3 rest ih =>
    rw [parse, matchRow]
    exact (ih.one _).congr fun _ => matches_any_iff.symm
  | case4 rest body after closed ih =>
    rw [parse]
    split
    · rename_i closed'
      cases closed.symm.trans closed'
      rw [matchRow]
      exact (ih.one _).congr fun _ => (matches_bracket_iff closed).symm
    · rename_i missing
      cases closed.symm.trans missing
  | case5 rest missing ih =>
    rw [parse]
    split
    · rename_i closed
      cases missing.symm.trans closed
    · rw [matchRow]
      exact (ih.one _).congr fun _ => (matches_unclosed_iff missing).symm
  | case6 c rest star any bracket ih =>
    rw [parse, matchRow]
    · exact (ih.one _).congr fun _ => (matches_one_iff star any bracket).symm
    all_goals assumption

/-- A pattern is accepted exactly for the texts that it matches. -/
theorem accepts_iff {pattern text : String} :
    accepts pattern text = true ↔ Matches pattern.toList text.toList :=
  (tells_matchRow pattern.toList text.toList).head

end Rollout.Glob

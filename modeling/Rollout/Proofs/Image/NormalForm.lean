import Mathlib.Data.List.TakeWhile
import Rollout.Image.TypeKey

/-!
# Normal forms of names

A name is a **spelling** of its normal form: the form in letters of any case, with blanks around it
(`Spells`). Normalizing finds the one form that a name spells (`normalizeName_eq_iff`), so it does
not matter how often it is done, nor whether blanks are added or letters are made small before
(`normalizeName_closes`).

Blanks and letter case keep out of each other's way. No blank is a capital letter, and a capital
sigma that stands beside a blank ends or starts its word as it does at the end of the text. So small
letters of padded text are small letters with the same blanks around them (`lower_padded`).
-/

namespace Rollout

namespace Text

variable {s w before after : List Char} {c : Char}

/-! ## Padding -/

/-- The text holds nothing but blanks. -/
def IsPadding (s : List Char) : Prop :=
  ∀ c ∈ s, isBlank c = true

theorem IsPadding.reverse (padding : IsPadding s) : IsPadding s.reverse :=
  fun c member => padding c (List.mem_reverse.mp member)

theorem IsPadding.append (first : IsPadding s) (second : IsPadding w) : IsPadding (s ++ w) :=
  fun c member => (List.mem_append.mp member).elim (first c) (second c)

theorem isPadding_takeWhile (s : List Char) : IsPadding (s.takeWhile isBlank) :=
  fun _ member => List.mem_takeWhile_imp member

theorem trimStart_append (padding : IsPadding w) (s : List Char) :
    trimStart (w ++ s) = trimStart s :=
  List.dropWhile_append_of_pos padding

theorem trimEnd_append (padding : IsPadding w) (s : List Char) : trimEnd (s ++ w) = trimEnd s := by
  rw [trimEnd, List.reverse_append]
  exact congrArg List.reverse (trimStart_append padding.reverse s.reverse)

/-- Trimming takes away all padding around trimmed text. -/
theorem trim_padded (first : IsPadding before) (last : IsPadding after) (trimmed : Trimmed s) :
    trim (before ++ s ++ after) = s := by
  rw [trim, List.append_assoc, trimStart_append first]
  cases s with
  | nil =>
    rw [List.nil_append, ← List.append_nil after, trimStart_append last]
    rfl
  | cons c rest =>
    have head : ∀ d ∈ (c :: rest ++ after).head?, isBlank d = false := trimmed.1
    rw [trimStart_of_head head, trimEnd_append last, trimEnd_of_getLast trimmed.2]

/-- A text is its trimmed text with padding around it. -/
theorem exists_padding (s : List Char) :
    ∃ before after, IsPadding before ∧ IsPadding after ∧ s = before ++ trim s ++ after := by
  refine ⟨s.takeWhile isBlank, ((trimStart s).reverse.takeWhile isBlank).reverse,
    isPadding_takeWhile s, (isPadding_takeWhile _).reverse, ?_⟩
  have back : trim s ++ ((trimStart s).reverse.takeWhile isBlank).reverse = trimStart s := by
    rw [trim, trimEnd, ← List.reverse_append, List.takeWhile_append_dropWhile,
      List.reverse_reverse]
  rw [List.append_assoc, back, trimStart, List.takeWhile_append_dropWhile]

/-! ## Blanks beside letters -/

/-- The spans of one table lie apart from those of the other. -/
def spansApart (table other : List Span) : Bool :=
  table.all fun span => other.all fun span' => span.2 < span'.1 || span'.2 < span.1

theorem not_spansHold_of_apart {table other : List Span} (apart : spansApart table other = true)
    {n : Nat} (held : spansHold table n = true) : spansHold other n = false := by
  simp only [spansApart, List.all_eq_true, Bool.or_eq_true, decide_eq_true_eq] at apart
  simp only [spansHold, List.any_eq_true, Bool.and_eq_true, decide_eq_true_eq] at held
  obtain ⟨span, member, low, high⟩ := held
  simp only [spansHold, List.any_eq_false, Bool.and_eq_true, decide_eq_true_eq]
  intro span' member' within
  have := apart span member span' member'
  omega

theorem not_transparent_of_blank (blank : isBlank c = true) : isTransparent c = false :=
  not_spansHold_of_apart (by decide +kernel) blank

theorem not_cased_of_blank (blank : isBlank c = true) : isCased c = false :=
  not_spansHold_of_apart (by decide +kernel) blank

/-- The code points that the capitals lie among, those of ASCII included. -/
def capitalSpans : List Span :=
  (0x41, 0x5A) :: caseRuns.map fun run => (run.first, run.last)

theorem smallCode_blank {n : Nat} (blank : spansHold blankSpans n = true) : smallCode n = n := by
  have noCapital : spansHold capitalSpans n = false :=
    not_spansHold_of_apart (by decide +kernel) blank
  simp only [spansHold, capitalSpans, List.any_cons, List.any_map, Bool.or_eq_false_iff,
    List.any_eq_false, Function.comp_apply] at noCapital
  have beside : n < 0x41 ∨ 0x5A < n := by
    have outside := noCapital.1
    simp only [Bool.and_eq_false_iff, decide_eq_false_iff_not] at outside
    omega
  refine smallCode_eq_self beside fun run member => ?_
  have outside := noCapital.2 run member
  simp only [CaseRun.holds, Bool.and_eq_false_iff]
  simp only [Bool.and_eq_true, not_and] at outside
  by_cases low : decide (run.first ≤ n) = true
  · exact .inl (.inr (by simpa using outside low))
  · exact .inl (.inl (by simpa using low))

/-- Blanks stay as they are in small letters. -/
theorem settled_of_blank (blank : isBlank c = true) : Settled c := by
  have other : ∀ d : Char, isBlank d = false → c ≠ d := by
    rintro d visible rfl
    rw [blank] at visible
    cases visible
  refine ⟨other 'Σ' (by decide +kernel), ?_⟩
  rw [small, if_neg (other 'İ' (by decide +kernel)), smallCode_blank blank, Char.ofNat_toNat]

/-- Behind a blank, no cased letter is met. -/
theorem meetsCased_append (padding : IsPadding w) (s : List Char) :
    meetsCased (s ++ w) = meetsCased s := by
  rw [meetsCased, meetsCased, List.dropWhile_append]
  cases rest : s.dropWhile isTransparent with
  | cons c others => rfl
  | nil =>
    cases w with
    | nil => rfl
    | cons c others =>
      have blank := padding c List.mem_cons_self
      simp [not_transparent_of_blank blank, not_cased_of_blank blank]

/-! ## Small letters of padded text -/

theorem lowerAfter_settled_append (settled : ∀ c ∈ w, Settled c) (before s : List Char) :
    lowerAfter before (w ++ s) = w ++ lowerAfter (w.reverse ++ before) s := by
  induction w generalizing before with
  | nil => rfl
  | cons c rest ih =>
    obtain ⟨noSigma, same⟩ := settled c List.mem_cons_self
    have later := ih (fun d member => settled d (List.mem_cons_of_mem c member)) (c :: before)
    simp [lowerAfter, noSigma, same, later]

theorem lowerAfter_append_padding (padding : IsPadding w) (before s : List Char) :
    lowerAfter before (s ++ w) = lowerAfter before s ++ w := by
  induction s generalizing before with
  | nil => exact lowerAfter_of_settled fun c member => settled_of_blank (padding c member)
  | cons c rest ih =>
    rw [List.cons_append, lowerAfter_cons, lowerAfter_cons, ih, smallPiece, smallPiece,
      meetsCased_append padding, List.append_assoc]

/-- What stands before a blank does not change how a sigma is written after it. -/
theorem lowerAfter_padding (padding : IsPadding w) (before s : List Char) :
    lowerAfter (before ++ w) s = lowerAfter before s := by
  induction s generalizing before with
  | nil => rfl
  | cons c rest ih =>
    rw [lowerAfter_cons, lowerAfter_cons, ← List.cons_append, ih, smallPiece, smallPiece,
      meetsCased_append padding]

/-- Padding stays where it is while the letters between become small. -/
theorem lower_padded (first : IsPadding before) (last : IsPadding after) (s : List Char) :
    lower (before ++ s ++ after) = before ++ lower s ++ after := by
  have settled : ∀ c ∈ before, Settled c := fun c member => settled_of_blank (first c member)
  rw [lower, lowerAfter_append_padding last, lowerAfter_settled_append settled, List.append_nil]
  exact congrArg (before ++ · ++ after) (lowerAfter_padding first.reverse [] s)

/-- It does not matter whether blanks are dropped before letters are made small or after. -/
theorem trim_lower (s : List Char) : trim (lower s) = lower (trim s) := by
  obtain ⟨before, after, first, last, split⟩ := exists_padding s
  calc trim (lower s) = trim (before ++ lower (trim s) ++ after) := by
        rw [← lower_padded first last, ← split]
    _ = lower (trim s) := trim_padded first last (trimmed_lower (trimmed_trim s))

end Text

/-! ## Spellings -/

open Text

/-- The text in small letters. -/
def inSmallLetters (text : String) : String :=
  String.ofList (lower text.toList)

/-- The name is the form in letters of any case, with blanks around it. -/
def Spells (name form : String) : Prop :=
  ∃ before core after, name.toList = before ++ core ++ after ∧ IsPadding before ∧
    IsPadding after ∧ Trimmed core ∧ form.toList = lower core

/-- Normalizing gives the one form that the name spells. -/
theorem normalizeName_eq_iff {name form : String} :
    normalizeName name = form ↔ Spells name form := by
  constructor
  · rintro rfl
    obtain ⟨before, after, first, last, split⟩ := exists_padding name.toList
    exact ⟨before, _, after, split, first, last, trimmed_trim _, by simp [normalizeName]⟩
  · rintro ⟨before, core, after, split, first, last, trimmed, same⟩
    rw [normalizeName, split, trim_padded first last trimmed, ← same, String.ofList_toList]

theorem normalizeName_padded {before after : String} (first : IsPadding before.toList)
    (last : IsPadding after.toList) (name : String) :
    normalizeName (before ++ name ++ after) = normalizeName name := by
  obtain ⟨inner, core, outer, split, start, finish, trimmed, same⟩ :=
    normalizeName_eq_iff.mp (rfl : normalizeName name = normalizeName name)
  refine normalizeName_eq_iff.mpr ⟨before.toList ++ inner, core, outer ++ after.toList, ?_,
    first.append start, finish.append last, trimmed, same⟩
  simp [split]

theorem normalizeName_inSmallLetters (name : String) :
    normalizeName (inSmallLetters name) = normalizeName name := by
  rw [normalizeName, inSmallLetters, String.toList_ofList, trim_lower, lower_lower, normalizeName]

/-- Normalizing leads to one form for all the spellings that differ in blanks around a name and in
letters that are made small. -/
structure Closes (name : String) : Prop where
  again : normalizeName (normalizeName name) = normalizeName name
  padded : ∀ before after : String, IsPadding before.toList → IsPadding after.toList →
    normalizeName (before ++ name ++ after) = normalizeName name
  lowered : normalizeName (inSmallLetters name) = normalizeName name
  /-- Nothing but these blanks and capitals is lost. -/
  spelled : ∀ form, normalizeName name = form ↔ Spells name form

/-- **Normalizing is a closure.** Of every text, in any script, it gives the one form that the text
spells, and blanks around the text, letters made small and normalizing before make no difference. -/
theorem normalizeName_closes (name : String) : Closes name where
  again := normalizeName_normalizeName name
  padded _ _ first last := normalizeName_padded first last name
  lowered := normalizeName_inSmallLetters name
  spelled _ := normalizeName_eq_iff

/-- A sigma ends its word at a blank too, and one capital gives two characters. -/
example : normalizeName "\u2003 ΟΔΟΣ\u00a0" = "οδος" ∧ normalizeName "İ" = "i\u0307" := by
  decide +kernel

end Rollout

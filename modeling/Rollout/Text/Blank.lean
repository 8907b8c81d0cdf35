import Rollout.Text.Span

/-!
# Blank characters and trimming

The **blank** characters are the 29 code points of white space: the controls from tab to
carriage return and from file separator to unit separator, the space, next line, and the
Unicode space and line separators. A zero-width space and a byte order mark are not blank.
**Trimming** takes blanks off both ends and leaves those inside alone.
-/

namespace Rollout.Text

/-- The blank code points. -/
def blankSpans : List Span :=
  [(0x09, 0x0D), (0x1C, 0x20), (0x85, 0x85), (0xA0, 0xA0), (0x1680, 0x1680), (0x2000, 0x200A),
   (0x2028, 0x2029), (0x202F, 0x202F), (0x205F, 0x205F), (0x3000, 0x3000)]

/-- White space in any script. -/
def isBlank (c : Char) : Bool :=
  spansHold blankSpans c.toNat

/-- The characters without the blanks before them. -/
def trimStart (s : List Char) : List Char :=
  s.dropWhile isBlank

/-- The characters without the blanks after them. -/
def trimEnd (s : List Char) : List Char :=
  (s.reverse.dropWhile isBlank).reverse

/-- The characters without the blanks on either end. -/
def trim (s : List Char) : List Char :=
  trimEnd (trimStart s)

/-! ## Trimmed text -/

/-- Neither end is blank. -/
def Trimmed (s : List Char) : Prop :=
  (∀ c ∈ s.head?, isBlank c = false) ∧ (∀ c ∈ s.getLast?, isBlank c = false)

theorem trimStart_of_head {s : List Char} (h : ∀ c ∈ s.head?, isBlank c = false) :
    trimStart s = s := by
  cases s with
  | nil => rfl
  | cons c rest => simp [trimStart, h c (by simp)]

theorem trimEnd_of_getLast {s : List Char} (h : ∀ c ∈ s.getLast?, isBlank c = false) :
    trimEnd s = s := by
  have key : trimStart s.reverse = s.reverse :=
    trimStart_of_head (by simpa [List.head?_reverse] using h)
  simpa [trimEnd, trimStart] using congrArg List.reverse key

/-- Trimming leaves trimmed text as it is. -/
theorem trim_of_trimmed {s : List Char} (h : Trimmed s) : trim s = s := by
  rw [trim, trimStart_of_head h.1, trimEnd_of_getLast h.2]

theorem head_dropWhile_isBlank (s : List Char) :
    ∀ c ∈ (s.dropWhile isBlank).head?, isBlank c = false := by
  induction s with
  | nil => simp
  | cons c rest ih =>
    by_cases h : isBlank c = true
    · simpa [List.dropWhile_cons, h] using ih
    · simp [h]

theorem getLast_trimEnd (s : List Char) : ∀ c ∈ (trimEnd s).getLast?, isBlank c = false := by
  simpa [trimEnd, List.getLast?_reverse] using head_dropWhile_isBlank s.reverse

/-- What is left after blanks are dropped ends as the whole does. -/
theorem getLast_dropWhile_isBlank {s : List Char} (h : s.dropWhile isBlank ≠ []) :
    (s.dropWhile isBlank).getLast? = s.getLast? := by
  induction s with
  | nil => simp
  | cons c rest ih =>
    by_cases hc : isBlank c = true
    · simp only [List.dropWhile_cons, hc, if_true] at h ⊢
      rw [ih h]
      cases rest with
      | nil => simp at h
      | cons d tail => simp
    · simp [hc]

/-- Trimming always gives trimmed text. -/
theorem trimmed_trim (s : List Char) : Trimmed (trim s) := by
  refine ⟨?_, getLast_trimEnd _⟩
  intro c hc
  have hhead := head_dropWhile_isBlank s
  by_cases hempty : (trimStart s).reverse.dropWhile isBlank = []
  · simp [trim, trimEnd, hempty] at hc
  · have hlast := getLast_dropWhile_isBlank hempty
    simp only [trim, trimEnd, List.head?_reverse, hlast, List.getLast?_reverse] at hc
    exact hhead c hc

end Rollout.Text

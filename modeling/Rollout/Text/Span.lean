/-!
# Spans of code points

A character class of a standard is a list of **spans**, each given by its first and last code
point. The class tables of the other text modules are such lists.
-/

namespace Rollout.Text

/-- The code points from the first to the last, both included. -/
abbrev Span := Nat × Nat

/-- Some span of the table holds the code point. -/
def spansHold (table : List Span) (n : Nat) : Bool :=
  table.any fun span => span.1 ≤ n && n ≤ span.2

end Rollout.Text

/-!
# Splitting texts

A text is split at a character, which belongs to no part: at its first place or at every place.
-/

namespace Rollout.Text

/-- The text before the first place of the character, and the text after it. -/
def splitFirst (c : Char) (s : List Char) : List Char × List Char :=
  (s.takeWhile (· ≠ c), (s.dropWhile (· ≠ c)).drop 1)

/-- The text after the last place of the character; all of it when the character is not there. -/
def afterLast (c : Char) (s : List Char) : List Char :=
  (s.reverse.takeWhile (· ≠ c)).reverse

/-- The parts between all places of the character. -/
def splitAll (c : Char) (s : List Char) : List (List Char) :=
  match s with
  | [] => [[]]
  | d :: rest =>
    if d = c then [] :: splitAll c rest
    else
      match splitAll c rest with
      | first :: others => (d :: first) :: others
      | [] => [[d]]

end Rollout.Text

/-!
# Capital letters of ASCII words

Words in capital ASCII letters are recognised in any letter case. Besides the small ASCII
letters, ten characters outside ASCII have a capital form in ASCII (a sharp s is two letters,
the ligatures two or three). The capital form of every other character holds something outside
ASCII, so such a character spells no ASCII word and may stay as it is.
-/

namespace Rollout.Text

/-- The capital form of a character, as far as it lies in ASCII. -/
def capital (c : Char) : List Char :=
  match c with
  | 'ß' => ['S', 'S']
  | 'ı' => ['I']
  | 'ſ' => ['S']
  | 'ﬀ' => ['F', 'F']
  | 'ﬁ' => ['F', 'I']
  | 'ﬂ' => ['F', 'L']
  | 'ﬃ' => ['F', 'F', 'I']
  | 'ﬄ' => ['F', 'F', 'L']
  | 'ﬅ' => ['S', 'T']
  | 'ﬆ' => ['S', 'T']
  | _ => [c.toUpper]

/-- The text in the capital forms that lie in ASCII. -/
def capitals (s : List Char) : List Char :=
  s.flatMap capital

end Rollout.Text

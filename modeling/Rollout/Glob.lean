/-!
# Globs

A **glob** is a pattern over whole texts: `*` stands for any stretch of characters, `?` for any
one character and `[…]` for one character of a set; every other character stands for itself,
and so does a bracket that is never closed. Letter case counts, and no character is special to
a star, neither a line break nor a slash.

A **set** lists characters and ranges; after a leading `!` it holds the characters not listed.
A closing bracket is a member where it comes first. A hyphen makes a range of its neighbours
unless it stands at the start or end of the set or right after a range. A range that runs
backwards is left out, and the `!` that may thereby come first counts as leading.

Matching keeps one row of truth values for every piece of the pattern, telling for each place
of the text whether the rest of the pattern matches the rest of the text.
-/

namespace Rollout.Glob

/-- A member of a set. -/
inductive SetItem where
  | one (c : Char)
  | range (low high : Char)
  deriving DecidableEq, Repr

/-- A set of characters. -/
structure CharSet where
  negated : Bool
  items : List SetItem
  deriving DecidableEq, Repr

/-- A piece of a pattern. -/
inductive Piece where
  /-- Any stretch of characters. -/
  | stretch
  /-- Any one character. -/
  | any
  | one (c : Char)
  | oneOf (set : CharSet)
  deriving DecidableEq, Repr

/-! ## Reading sets -/

/-- Splits after the given count of characters and further ones up to a hyphen, which is left
out. -/
def splitHyphen (skip : Nat) (s : List Char) : Option (List Char × List Char) :=
  match (s.drop skip).dropWhile (· ≠ '-') with
  | [] => none
  | _ :: rest => some (s.take skip ++ (s.drop skip).takeWhile (· ≠ '-'), rest)

theorem length_splitHyphen {skip : Nat} {s chunk rest : List Char}
    (h : splitHyphen skip s = some (chunk, rest)) : rest.length < s.length := by
  unfold splitHyphen at h
  split at h
  · simp at h
  · rename_i c tail heq
    simp only [Option.some.injEq, Prod.mk.injEq] at h
    have hle : ((s.drop skip).dropWhile (· ≠ '-')).length ≤ (s.drop skip).length :=
      (List.dropWhile_sublist _).length_le
    rw [heq] at hle
    simp only [List.length_cons, List.length_drop] at hle
    rw [← h.2]
    omega

/-- The stretches of a set between the hyphens that make ranges. A hyphen at the end belongs to
the stretch before it. -/
def chunks (skip : Nat) (s : List Char) : List (List Char) :=
  match _h : splitHyphen skip s with
  | none => [s]
  | some (chunk, []) => [chunk ++ ['-']]
  | some (chunk, c :: rest) => chunk :: chunks 2 (c :: rest)
termination_by s.length
decreasing_by exact length_splitHyphen _h

/-- Joins stretches whose hyphen makes a range that runs backwards, without its ends. -/
def dropBackward : List (List Char) → List (List Char)
  | [] => []
  | chunk :: rest =>
    match dropBackward rest with
    | [] => [chunk]
    | next :: others =>
      match chunk.getLast?, next with
      | some low, high :: _ =>
        if high < low then (chunk.dropLast ++ next.drop 1) :: others
        else chunk :: next :: others
      | _, _ => chunk :: next :: others

/-- The number of characters in stretches, with one more for each stretch. -/
def stretchSize : List (List Char) → Nat
  | [] => 0
  | chunk :: rest => chunk.length + 1 + stretchSize rest

/-- The members that stretches list; a hyphen with nothing before it stands for itself. -/
def itemsOf : List (List Char) → List SetItem
  | [] => []
  | [chunk] => chunk.map .one
  | chunk :: (high :: next) :: rest =>
    match chunk.getLast? with
    | some low => chunk.dropLast.map .one ++ .range low high :: itemsOf (next :: rest)
    | none => .one '-' :: itemsOf ((high :: next) :: rest)
  | chunk :: [] :: rest => chunk.map .one ++ .one '-' :: itemsOf rest
termination_by list => stretchSize list
decreasing_by
  · simp only [stretchSize, List.length_cons]
    omega
  · simp only [stretchSize, List.length_cons]
    omega
  · simp only [stretchSize]
    omega

/-- The set written between brackets. -/
def CharSet.ofText (s : List Char) : CharSet :=
  match dropBackward (chunks (if s.head? = some '!' then 2 else 1) s) with
  | ('!' :: first) :: rest => ⟨true, itemsOf (first :: rest)⟩
  | list => ⟨false, itemsOf list⟩

/-- What stands between an open bracket and the one that closes it, and what follows. -/
def bracketed? (s : List Char) : Option (List Char × List Char) :=
  let start := if s.head? = some '!' then 1 else 0
  let start := if (s.drop start).head? = some ']' then start + 1 else start
  match (s.drop start).dropWhile (· ≠ ']') with
  | [] => none
  | _ :: rest => some (s.take start ++ (s.drop start).takeWhile (· ≠ ']'), rest)

theorem length_bracketed? {s body rest : List Char} (h : bracketed? s = some (body, rest)) :
    rest.length < s.length := by
  unfold bracketed? at h
  simp only at h
  split at h
  · simp at h
  · rename_i c tail heq
    simp only [Option.some.injEq, Prod.mk.injEq] at h
    have hle := (List.dropWhile_sublist (l := s.drop (if (s.drop (if s.head? = some '!' then 1
      else 0)).head? = some ']' then (if s.head? = some '!' then 1 else 0) + 1
      else (if s.head? = some '!' then 1 else 0))) (· ≠ ']')).length_le
    rw [heq] at hle
    simp only [List.length_cons, List.length_drop] at hle
    rw [← h.2]
    omega

/-! ## Reading patterns -/

/-- The pieces of a pattern. -/
def parse : List Char → List Piece
  | [] => []
  | '*' :: rest => .stretch :: parse rest
  | '?' :: rest => .any :: parse rest
  | '[' :: rest =>
    match _h : bracketed? rest with
    | some (body, after) => .oneOf (.ofText body) :: parse after
    | none => .one '[' :: parse rest
  | c :: rest => .one c :: parse rest
termination_by s => s.length
decreasing_by
  all_goals simp
  have := length_bracketed? _h
  omega

/-! ## Matching -/

/-- The item lists the character. -/
def SetItem.holds (c : Char) : SetItem → Bool
  | .one d => c = d
  | .range low high => low ≤ c && c ≤ high

/-- The set has the character as a member. -/
def CharSet.holds (set : CharSet) (c : Char) : Bool :=
  (set.items.any (·.holds c)) != set.negated

/-- The row of the empty pattern: it matches at the end only. -/
def endRow : List Char → List Bool
  | [] => [true]
  | _ :: rest => false :: endRow rest

/-- The row of a star, given the row of what follows it. -/
def stretchRow : List Bool → List Bool
  | [] => []
  | here :: later =>
    let row := stretchRow later
    (here || row.headD false) :: row

/-- The row of a piece that stands for one character, given the row of what follows it. -/
def oneRow (test : Char → Bool) : List Char → List Bool → List Bool
  | [], _ => [false]
  | c :: rest, row => (test c && (row.drop 1).headD false) :: oneRow test rest (row.drop 1)

/-- For each place of the text, whether the pattern matches from there to the end. -/
def matchRow (s : List Char) : List Piece → List Bool
  | [] => endRow s
  | .stretch :: rest => stretchRow (matchRow s rest)
  | .any :: rest => oneRow (fun _ => true) s (matchRow s rest)
  | .one c :: rest => oneRow (· = c) s (matchRow s rest)
  | .oneOf set :: rest => oneRow set.holds s (matchRow s rest)

/-- The pattern matches the whole text. -/
def accepts (pattern text : String) : Bool :=
  (matchRow text.toList (parse pattern.toList)).headD false

end Rollout.Glob

import Rollout.Fault

/-!
# Order and sums of values from outside

Numbers of any kind are compared with one another, texts by their characters, and lists by the
first items in which they differ. Values of other kinds are in no order, and only numbers have
sums; a fault tells the sign under which they were put together.

A list of values is sorted by **runs and insertion**: the run at its start is kept, or reversed when
it descends, and every later value is put behind those that it is not less than, found by halving.
The first comparison that fails decides the fault.
-/

namespace Rollout

/-- A way to compare. -/
inductive Comparison where
  | less
  | atMost
  | greater
  deriving DecidableEq, Repr

namespace Comparison

/-- The sign of a comparison. -/
def sign : Comparison → String
  | less => "<"
  | atMost => "<="
  | greater => ">"

/-- The comparison of two numbers. -/
def ofNumbers : Comparison → Number → Number → Bool
  | less, a, b => a.isLess b
  | atMost, a, b => a.isAtMost b
  | greater, a, b => b.isLess a

/-- The comparison of two texts. -/
def ofTexts : Comparison → String → String → Bool
  | less, a, b => decide (a < b)
  | atMost, a, b => decide (a ≤ b)
  | greater, a, b => decide (b < a)

/-- The comparison of two values that are the same. -/
def ofSame : Comparison → Bool
  | atMost => true
  | less | greater => false

/-- The comparison of a list with one that goes on after it. -/
def ofShorter : Comparison → Bool
  | less | atMost => true
  | greater => false

end Comparison

namespace Datum

mutual

/-- Compares two values. -/
def compare (c : Comparison) : Datum → Datum → Except Fault Bool
  | text a, text b => .ok (c.ofTexts a b)
  | list as, list bs => compareItems c as bs
  | a, b =>
    match a.number?, b.number? with
    | some x, some y => .ok (c.ofNumbers x y)
    | _, _ => .error (.unordered c.sign a.kind b.kind)

/-- Compares two lists. -/
def compareItems (c : Comparison) : List Datum → List Datum → Except Fault Bool
  | [], [] => .ok c.ofSame
  | [], _ :: _ => .ok c.ofShorter
  | _ :: _, [] => .ok !c.ofShorter
  | a :: as, b :: bs => if a.same b then compareItems c as bs else compare c a b

end

/-- The first value is less than the second one. -/
def lessThan (a b : Datum) : Except Fault Bool :=
  compare .less a b

/-- The first value is at most the second one. -/
def atMost (a b : Datum) : Except Fault Bool :=
  compare .atMost a b

/-- The first value is greater than the second one. -/
def exceeds (a b : Datum) : Except Fault Bool :=
  compare .greater a b

@[simp] theorem lessThan_int (a b : Int) : (int a).lessThan (int b) = .ok (decide (a < b)) := rfl

@[simp] theorem atMost_int (a b : Int) : (int a).atMost (int b) = .ok (decide (a ≤ b)) := rfl

@[simp] theorem exceeds_int (a b : Int) : (int a).exceeds (int b) = .ok (decide (b < a)) := rfl

/-- The sum of two values under a sign. -/
def plus (sign : String) (a b : Datum) : Except Fault Datum :=
  match a.number?, b.number? with
  | some x, some y =>
    match x.add? y with
    | some sum => .ok (ofNumber sum)
    | none => .error .tooWide
  | _, _ => .error (.unsummed sign a.kind b.kind)

@[simp] theorem plus_int (sign : String) (a b : Int) :
    (int a).plus sign (int b) = .ok (int (a + b)) := rfl

/-! ## Sorting -/

/-- The values that go on with a run after its last value, and the values after them. The run
descends when every value is less than the one before it, and ascends when none is. -/
def continueRun (descends : Bool) (last : Datum) :
    List Datum → Except Fault (List Datum × List Datum)
  | [] => .ok ([], [])
  | value :: rest => do
    if (← value.lessThan last) = descends then
      let (run, after) ← continueRun descends value rest
      return (value :: run, after)
    else return ([], value :: rest)

/-- The run at the start of a list in ascending order, and the values after it. -/
def firstRun : List Datum → Except Fault (List Datum × List Datum)
  | first :: second :: rest => do
    let descends ← second.lessThan first
    let (run, after) ← continueRun descends second rest
    let run := first :: second :: run
    return (if descends then run.reverse else run, after)
  | values => .ok (values, [])

/-- The place of a value among sorted ones from one place on and before another. -/
def placeAmong (value : Datum) (sorted : List Datum) (first last : Nat) : Except Fault Nat :=
  if h : first < last then do
    let middle := first + (last - first) / 2
    if ← value.lessThan (sorted.getD middle .null) then placeAmong value sorted first middle
    else placeAmong value sorted (middle + 1) last
  else .ok first
termination_by last - first
decreasing_by all_goals omega

/-- Puts a value behind the sorted ones that it is not less than. -/
def insertSorted (sorted : List Datum) (value : Datum) : Except Fault (List Datum) := do
  let place ← placeAmong value sorted 0 sorted.length
  return sorted.take place ++ value :: sorted.drop place

/-- The values in ascending order. -/
def ascending (values : List Datum) : Except Fault (List Datum) := do
  let (run, after) ← firstRun values
  after.foldlM insertSorted run

end Datum

end Rollout

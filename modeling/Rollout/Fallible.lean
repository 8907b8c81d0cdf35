/-!
# Tests that may fail

A test on the items of a list may fail instead of answering. The items are tested in their order,
and the first failure is the failure of the whole. Where no test fails, the operations are those
of the library of lists (`filter_eq_ok`, `find?_eq_ok`, `any_eq_ok`).
-/

namespace Rollout.Fallible

variable {ε α : Type}

/-- The items that pass the test. -/
def filter (test : α → Except ε Bool) : List α → Except ε (List α)
  | [] => .ok []
  | a :: rest => do
    let passed ← test a
    let others ← filter test rest
    return if passed then a :: others else others

/-- The first item that passes the test; the items after it are not tested. -/
def find? (test : α → Except ε Bool) : List α → Except ε (Option α)
  | [] => .ok none
  | a :: rest => do
    if ← test a then return some a else find? test rest

/-- Some item passes the test; the items after it are not tested. -/
def any (test : α → Except ε Bool) : List α → Except ε Bool
  | [] => .ok false
  | a :: rest => do
    if ← test a then return true else any test rest

/-- Changes the first item that passes the test, and gives the changed item with the list around
it. -/
def changeFirst? (test : α → Except ε Bool) (change : α → Except ε α) :
    List α → Except ε (Option (α × List α))
  | [] => .ok none
  | a :: rest => do
    if ← test a then
      let changed ← change a
      return some (changed, changed :: rest)
    else
      return (← changeFirst? test change rest).map fun (changed, rest) => (changed, a :: rest)

theorem filter_eq_ok {test : α → Except ε Bool} {p : α → Bool} {items : List α}
    (h : ∀ a ∈ items, test a = .ok (p a)) : filter test items = .ok (items.filter p) := by
  induction items with
  | nil => rfl
  | cons a rest ih =>
    have hrest := ih fun b hb => h b (List.mem_cons_of_mem _ hb)
    simp only [filter, h a List.mem_cons_self, hrest, List.filter_cons]
    cases p a <;> rfl

theorem find?_eq_ok {test : α → Except ε Bool} {p : α → Bool} {items : List α}
    (h : ∀ a ∈ items, test a = .ok (p a)) : find? test items = .ok (items.find? p) := by
  induction items with
  | nil => rfl
  | cons a rest ih =>
    have hrest := ih fun b hb => h b (List.mem_cons_of_mem _ hb)
    simp only [find?, h a List.mem_cons_self, hrest, List.find?_cons]
    cases p a <;> rfl

theorem any_eq_ok {test : α → Except ε Bool} {p : α → Bool} {items : List α}
    (h : ∀ a ∈ items, test a = .ok (p a)) : any test items = .ok (items.any p) := by
  induction items with
  | nil => rfl
  | cons a rest ih =>
    have hrest := ih fun b hb => h b (List.mem_cons_of_mem _ hb)
    simp only [any, h a List.mem_cons_self, hrest, List.any_cons]
    cases p a <;> rfl

end Rollout.Fallible

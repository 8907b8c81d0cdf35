import Rollout.Fallible

/-!
# Tests that may fail, taken apart

Inversion lemmas for sequences that may fail: what an answer of the whole says about its parts. When
the parts fail in one kind of way only, so does the whole (`FailsOnly`).
-/

namespace Rollout.Fallible

variable {ε α β : Type}

theorem bind_eq_ok_iff {first : Except ε α} {next : α → Except ε β} {b : β} :
    first >>= next = .ok b ↔ ∃ a, first = .ok a ∧ next a = .ok b := by
  cases first with
  | error e =>
    constructor
    · rintro ⟨⟩
    · rintro ⟨a, ⟨⟩, -⟩
  | ok a =>
    constructor
    · intro second
      exact ⟨a, rfl, second⟩
    · rintro ⟨a', ⟨⟩, second⟩
      exact second

theorem bind_eq_error_iff {first : Except ε α} {next : α → Except ε β} {e : ε} :
    first >>= next = .error e ↔ first = .error e ∨ ∃ a, first = .ok a ∧ next a = .error e := by
  cases first with
  | error e' =>
    constructor
    · rintro ⟨⟩
      exact .inl rfl
    · rintro (⟨⟨⟩⟩ | ⟨a, ⟨⟩, -⟩)
      rfl
  | ok a =>
    constructor
    · intro second
      exact .inr ⟨a, rfl, second⟩
    · rintro (⟨⟨⟩⟩ | ⟨a', ⟨⟩, second⟩)
      exact second

theorem map_eq_ok_iff {result : Except ε α} {f : α → β} {b : β} :
    result.map f = .ok b ↔ ∃ a, result = .ok a ∧ f a = b := by
  cases result <;> simp [Except.map]

theorem map_eq_error_iff {result : Except ε α} {f : α → β} {e : ε} :
    result.map f = .error e ↔ result = .error e := by
  cases result <;> simp [Except.map]

theorem eq_ok_of_toOption {result : Except ε α} {a : α} (answers : result.toOption = some a) :
    result = .ok a := by
  cases result with
  | error e => cases answers
  | ok b => exact congrArg Except.ok (Option.some.inj answers)

theorem exists_ok_of_isSome {result : Except ε α} (answers : result.toOption.isSome = true) :
    ∃ a, result = .ok a := by
  obtain ⟨a, same⟩ := Option.isSome_iff_exists.mp answers
  exact ⟨a, eq_ok_of_toOption same⟩

/-- Of two steps in a state, the second one starts where the first one ends, unless that failed. -/
theorem bind_apply {σ : Type} (first : ExceptT ε (StateM σ) α) (next : α → ExceptT ε (StateM σ) β)
    (state : σ) :
    (first >>= next) state =
      match first state with
      | (.ok a, after) => next a after
      | (.error e, after) => (.error e, after) := by
  simp only [bind, ExceptT.bind, ExceptT.mk, StateT.bind]
  rcases first state with ⟨result, after⟩
  cases result <;> rfl

theorem ofExcept_apply {σ : Type} (result : Except ε α) (state : σ) :
    (ofExcept result : ExceptT ε (StateM σ) α) state = (result, state) := by
  cases result <;> rfl

theorem exists_of_any {test : α → Except ε Bool} {items : List α} (h : any test items = .ok true) :
    ∃ a ∈ items, test a = .ok true := by
  induction items with
  | nil => cases h
  | cons a rest ih =>
    rw [any] at h
    obtain ⟨passed, tested, next⟩ := bind_eq_ok_iff.mp h
    cases passed with
    | true => exact ⟨a, List.mem_cons_self, tested⟩
    | false =>
      obtain ⟨b, member, found⟩ := ih next
      exact ⟨b, List.mem_cons_of_mem _ member, found⟩

theorem forall_of_not_any {test : α → Except ε Bool} {items : List α}
    (h : any test items = .ok false) : ∀ a ∈ items, test a = .ok false := by
  induction items with
  | nil => simp
  | cons a rest ih =>
    rw [any] at h
    obtain ⟨passed, tested, next⟩ := bind_eq_ok_iff.mp h
    cases passed with
    | true => cases next
    | false =>
      intro b member
      rcases List.mem_cons.mp member with rfl | member
      · exact tested
      · exact ih next b member

/-- What is found is an item that passes the test. -/
theorem test_of_find? {test : α → Except ε Bool} {items : List α} {a : α}
    (h : find? test items = .ok (some a)) : a ∈ items ∧ test a = .ok true := by
  induction items with
  | nil => cases h
  | cons b rest ih =>
    rw [find?] at h
    obtain ⟨passed, tested, next⟩ := bind_eq_ok_iff.mp h
    cases passed with
    | true =>
      cases next
      exact ⟨List.mem_cons_self, tested⟩
    | false =>
      obtain ⟨member, found⟩ := ih next
      exact ⟨List.mem_cons_of_mem _ member, found⟩

/-- The search fails where the test fails on an item. -/
theorem exists_of_find?_error {test : α → Except ε Bool} {items : List α} {e : ε}
    (h : find? test items = .error e) : ∃ a ∈ items, test a = .error e := by
  induction items with
  | nil => cases h
  | cons b rest ih =>
    rw [find?] at h
    rcases bind_eq_error_iff.mp h with tested | ⟨passed, -, next⟩
    · exact ⟨b, List.mem_cons_self, tested⟩
    · cases passed with
      | true => cases next
      | false =>
        obtain ⟨a, member, failed⟩ := ih next
        exact ⟨a, List.mem_cons_of_mem _ member, failed⟩

/-- What passes the test stays. -/
theorem mem_of_filter {test : α → Except ε Bool} {items passing : List α}
    (h : filter test items = .ok passing) {a : α} (member : a ∈ items)
    (passes : test a = .ok true) : a ∈ passing := by
  induction items generalizing passing with
  | nil => cases member
  | cons b rest ih =>
    rw [filter] at h
    obtain ⟨passed, tested, next⟩ := bind_eq_ok_iff.mp h
    obtain ⟨others, filtered, same⟩ := bind_eq_ok_iff.mp next
    cases same
    rcases List.mem_cons.mp member with rfl | later
    · rw [tested] at passes
      cases passes
      exact List.mem_cons_self
    · have kept := ih filtered later
      split
      · exact List.mem_cons_of_mem _ kept
      · exact kept

theorem sublist_of_filter {test : α → Except ε Bool} {items passing : List α}
    (h : filter test items = .ok passing) : passing.Sublist items := by
  induction items generalizing passing with
  | nil =>
    cases h
    exact .slnil
  | cons b rest ih =>
    rw [filter] at h
    obtain ⟨passed, -, next⟩ := bind_eq_ok_iff.mp h
    obtain ⟨others, filtered, same⟩ := bind_eq_ok_iff.mp next
    cases same
    split
    · exact (ih filtered).cons_cons b
    · exact (ih filtered).cons b

/-- A change concerns one item, the first that passes the test, at its place. -/
theorem split_of_changeFirst? {test : α → Except ε Bool} {change : α → Except ε α}
    {items changedItems : List α} {changed : α}
    (h : changeFirst? test change items = .ok (some (changed, changedItems))) :
    ∃ before a after, items = before ++ a :: after ∧ (∀ b ∈ before, test b = .ok false) ∧
      test a = .ok true ∧ change a = .ok changed ∧
      changedItems = before ++ changed :: after := by
  induction items generalizing changedItems with
  | nil => cases h
  | cons a rest ih =>
    rw [changeFirst?] at h
    obtain ⟨passed, tested, next⟩ := bind_eq_ok_iff.mp h
    cases passed with
    | true =>
      obtain ⟨result, made, same⟩ := bind_eq_ok_iff.mp next
      cases same
      exact ⟨[], a, rest, rfl, by simp, tested, made, rfl⟩
    | false =>
      obtain ⟨found, searched, same⟩ := bind_eq_ok_iff.mp next
      cases found with
      | none => cases same
      | some found =>
        obtain ⟨result, items⟩ := found
        cases same
        obtain ⟨before, item, after, rfl, missed, hit, made, rfl⟩ := ih searched
        refine ⟨a :: before, item, after, rfl, ?_, hit, made, rfl⟩
        intro b member
        rcases List.mem_cons.mp member with rfl | member
        · exact tested
        · exact missed b member

/-! ## Lists of steps -/

theorem mem_of_mapM {f : α → Except ε β} {items : List α} {results : List β}
    (h : items.mapM f = .ok results) {b : β} (member : b ∈ results) :
    ∃ a ∈ items, f a = .ok b := by
  induction items generalizing results with
  | nil =>
    cases h
    cases member
  | cons a rest ih =>
    rw [List.mapM_cons] at h
    obtain ⟨first, head, next⟩ := bind_eq_ok_iff.mp h
    obtain ⟨others, tail, same⟩ := bind_eq_ok_iff.mp next
    cases same
    rcases List.mem_cons.mp member with rfl | member
    · exact ⟨a, List.mem_cons_self, head⟩
    · obtain ⟨item, among, made⟩ := ih tail member
      exact ⟨item, List.mem_cons_of_mem _ among, made⟩

/-- Steps that all succeed do so in any order, with the same results in that order. -/
theorem mapM_perm {f : α → Except ε β} {items others : List α} (perm : items.Perm others)
    {results : List β} (all : items.mapM f = .ok results) :
    ∃ results', others.mapM f = .ok results' ∧ results.Perm results' := by
  induction perm generalizing results with
  | nil => exact ⟨results, all, .refl results⟩
  | cons a perm ih =>
    rw [List.mapM_cons] at all
    obtain ⟨first, head, next⟩ := bind_eq_ok_iff.mp all
    obtain ⟨rest, tail, same⟩ := bind_eq_ok_iff.mp next
    obtain rfl := Except.ok.inj same
    obtain ⟨rest', tail', moved⟩ := ih tail
    refine ⟨first :: rest', ?_, moved.cons first⟩
    rw [List.mapM_cons, head, tail']
    rfl
  | swap a b others =>
    rw [List.mapM_cons, List.mapM_cons] at all
    obtain ⟨first, head, next⟩ := bind_eq_ok_iff.mp all
    obtain ⟨more, tail, same⟩ := bind_eq_ok_iff.mp next
    obtain rfl := Except.ok.inj same
    obtain ⟨second, neck, next⟩ := bind_eq_ok_iff.mp tail
    obtain ⟨rest, last, same⟩ := bind_eq_ok_iff.mp next
    obtain rfl := Except.ok.inj same
    refine ⟨second :: first :: rest, ?_, .swap second first rest⟩
    rw [List.mapM_cons, List.mapM_cons, head, neck, last]
    rfl
  | trans _ _ left right =>
    obtain ⟨between, middle, moved⟩ := left all
    obtain ⟨results', last, moved'⟩ := right middle
    exact ⟨results', last, moved.trans moved'⟩

/-! ## Kinds of failures -/

/-- A failure of the result is of the kind. -/
def FailsOnly (kind : ε → Prop) (result : Except ε α) : Prop :=
  ∀ e, result = .error e → kind e

section FailsOnly

variable {kind : ε → Prop}

theorem failsOnly_ok (a : α) : FailsOnly kind (.ok a) :=
  fun _ => nofun

theorem failsOnly_error {e : ε} (of_kind : kind e) : FailsOnly kind (.error e : Except ε α) := by
  rintro _ ⟨⟩
  exact of_kind

theorem FailsOnly.imp {kind' : ε → Prop} {result : Except ε α} (fails : FailsOnly kind result)
    (onward : ∀ e, kind e → kind' e) : FailsOnly kind' result :=
  fun e failed => onward e (fails e failed)

theorem FailsOnly.bind {first : Except ε α} {next : α → Except ε β} (fails : FailsOnly kind first)
    (onward : ∀ a, FailsOnly kind (next a)) : FailsOnly kind (first >>= next) := by
  intro e failed
  rcases bind_eq_error_iff.mp failed with early | ⟨a, -, late⟩
  · exact fails e early
  · exact onward a e late

theorem FailsOnly.map {result : Except ε α} (fails : FailsOnly kind result) (f : α → β) :
    FailsOnly kind (result.map f) :=
  fun e failed => fails e (map_eq_error_iff.mp failed)

theorem failsOnly_find? {test : α → Except ε Bool} (tests : ∀ a, FailsOnly kind (test a))
    (items : List α) : FailsOnly kind (find? test items) := by
  intro e failed
  obtain ⟨a, -, tested⟩ := exists_of_find?_error failed
  exact tests a e tested

theorem failsOnly_mapM {f : α → Except ε β} (steps : ∀ a, FailsOnly kind (f a)) (items : List α) :
    FailsOnly kind (items.mapM f) := by
  induction items with
  | nil => exact failsOnly_ok []
  | cons a rest ih =>
    rw [List.mapM_cons]
    exact (steps a).bind fun b => ih.bind fun others => failsOnly_ok (b :: others)

end FailsOnly

/-! ## Changed items -/

theorem filter_map {test : α → Except ε Bool} {test' : β → Except ε Bool} {f : α → β}
    (same : ∀ a, test' (f a) = test a) (items : List α) :
    filter test' (items.map f) = (filter test items).map (List.map f) := by
  induction items with
  | nil => rfl
  | cons a rest ih =>
    rw [List.map_cons, filter, filter, same, ih]
    rcases test a with fault | passed
    · rfl
    · rcases filter test rest with fault | others
      · rfl
      · cases passed <;> rfl

/-- Tests that agree on the items have the same outcome. -/
theorem filter_congr {test test' : α → Except ε Bool} {items : List α}
    (same : ∀ a ∈ items, test a = test' a) : filter test items = filter test' items := by
  induction items with
  | nil => rfl
  | cons a rest ih =>
    have later := ih fun b member => same b (List.mem_cons_of_mem _ member)
    rw [filter, filter, same a List.mem_cons_self, later]

theorem changeFirst?_congr {test test' : α → Except ε Bool} {change : α → Except ε α}
    {items : List α} (same : ∀ a ∈ items, test a = test' a) :
    changeFirst? test change items = changeFirst? test' change items := by
  induction items with
  | nil => rfl
  | cons a rest ih =>
    have later := ih fun b member => same b (List.mem_cons_of_mem _ member)
    rw [changeFirst?, changeFirst?, same a List.mem_cons_self, later]

theorem find?_map {test : α → Except ε Bool} {test' : β → Except ε Bool} {f : α → β}
    (same : ∀ a, test' (f a) = test a) (items : List α) :
    find? test' (items.map f) = (find? test items).map (Option.map f) := by
  induction items with
  | nil => rfl
  | cons a rest ih =>
    rw [List.map_cons, find?, find?, same, ih]
    rcases test a with fault | passed
    · rfl
    · cases passed <;> rfl

theorem any_map {test : α → Except ε Bool} {test' : β → Except ε Bool} {f : α → β}
    (same : ∀ a, test' (f a) = test a) (items : List α) :
    any test' (items.map f) = any test items := by
  induction items with
  | nil => rfl
  | cons a rest ih => rw [List.map_cons, any, any, same, ih]

theorem changeFirst?_map {test : α → Except ε Bool} {test' : β → Except ε Bool}
    {change : α → Except ε α} {change' : β → Except ε β} {f : α → β}
    (same : ∀ a, test' (f a) = test a) (changes : ∀ a, change' (f a) = (change a).map f)
    (items : List α) :
    changeFirst? test' change' (items.map f) =
      (changeFirst? test change items).map
        (Option.map fun found => (f found.1, found.2.map f)) := by
  induction items with
  | nil => rfl
  | cons a rest ih =>
    rw [List.map_cons, changeFirst?, changeFirst?, same, changes, ih]
    rcases test a with fault | passed
    · rfl
    · cases passed
      · rcases changeFirst? test change rest with fault | found
        · rfl
        · cases found <;> rfl
      · rcases change a with fault | changed <;> rfl

end Rollout.Fallible

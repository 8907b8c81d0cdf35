import Rollout.Plan.Book
import Rollout.Proofs.Fallible

/-!
# The plan of a type in a book

Of the plans that different spellings of one type hold, the first that is not empty counts
(`planOf`). That is the plan which an index holds for every type that is asked for
(`getD_find?_indexed`), and an index holds plans of no other types (`wanted_of_indexed`).
-/

namespace Rollout.PlanBook

/-- The first plan, or the second one when the first is empty. -/
def firstFilled : Plan → Plan → Plan
  | [], second => second
  | entry :: rest, _ => entry :: rest

theorem firstFilled_nil (plan : Plan) : firstFilled plan [] = plan := by
  cases plan <;> rfl

theorem firstFilled_assoc (a b c : Plan) :
    firstFilled (firstFilled a b) c = firstFilled a (firstFilled b c) := by
  cases a <;> rfl

theorem firstFilled_eq_nil_iff {a b : Plan} : firstFilled a b = [] ↔ a = [] ∧ b = [] := by
  cases a <;> simp [firstFilled]

/-- The plan that an entry of a book holds for the type; empty when it holds none. -/
def heldPlan (key : TypeKey) (entry : Datum × Option Plan) : Plan :=
  if (TypeKey.ofDatum entry.1).toOption = some key then entry.2.getD [] else []

/-- The first plan of the type that is not empty, among some entries of a book. -/
def firstPlan (key : TypeKey) : List (Datum × Option Plan) → Plan
  | [] => []
  | entry :: rest => firstFilled (heldPlan key entry) (firstPlan key rest)

/-- The plan of the type; empty when no spelling of its name holds one with entries. -/
def planOf (book : PlanBook) (key : TypeKey) : Plan :=
  firstPlan key book.entries

theorem firstPlan_eq_nil_iff {key : TypeKey} {entries : List (Datum × Option Plan)} :
    firstPlan key entries = [] ↔ ∀ entry ∈ entries, heldPlan key entry = [] := by
  induction entries with
  | nil => simp [firstPlan]
  | cons entry rest ih => rw [firstPlan, firstFilled_eq_nil_iff, ih, List.forall_mem_cons]

theorem heldPlan_eq_nil_iff {key : TypeKey} {entry : Datum × Option Plan} :
    heldPlan key entry = [] ↔
      (TypeKey.ofDatum entry.1 = .ok key → ∀ plan, entry.2 = some plan → plan = []) := by
  rw [heldPlan]
  cases TypeKey.ofDatum entry.1 with
  | error fault => simp [Except.toOption]
  | ok own =>
    by_cases same : own = key
    · cases entry.2 <;> simp [Except.toOption, same]
    · simp [Except.toOption, same]

theorem planOf_eq_nil_iff {book : PlanBook} {key : TypeKey} :
    book.planOf key = [] ↔ ∀ name plan, (name, some plan) ∈ book.entries →
      TypeKey.ofDatum name = .ok key → plan = [] := by
  rw [planOf, firstPlan_eq_nil_iff]
  simp only [heldPlan_eq_nil_iff]
  constructor
  · intro empty name plan member own
    exact empty (name, some plan) member own plan rfl
  · rintro empty ⟨name, held⟩ member own plan rfl
    exact empty name plan member own

/-! ## Indexes -/

variable {wanted : NameSet}

/-- Of an entry's plan the index takes what counts: the plan that it has stays, unless that is
empty. -/
theorem getD_find?_indexEntry (index : OrderedMap TypeKey Plan × List Notice) {own key : TypeKey}
    {entry : Datum × Option Plan} (named : TypeKey.ofDatum entry.1 = .ok own)
    (asked : key.text ∈ wanted) :
    ((indexEntry wanted index own entry.1 (entry.2.getD [])).1.find? key).getD [] =
      firstFilled ((index.1.find? key).getD []) (heldPlan key entry) := by
  rw [indexEntry, heldPlan, named]
  by_cases same : own = key
  · obtain rfl := same
    rw [NameSet.contains_iff.mpr asked]
    simp only [Bool.not_true, Bool.false_eq_true, if_false, Except.toOption, if_true]
    split
    · rename_i first rest held
      split <;> simp [held, firstFilled]
    · rename_i unfilled
      rw [OrderedMap.find?_put, if_pos rfl, Option.getD_some]
      cases held : index.1.find? own with
      | none => rfl
      | some plan =>
        cases plan with
        | nil => rfl
        | cons first rest => exact absurd held (unfilled first rest)
  · have other : (Except.ok own : Except Fault TypeKey).toOption ≠ some key := by
      simp [Except.toOption, same]
    rw [if_neg other, firstFilled_nil]
    split
    · rfl
    · split
      · split <;> rfl
      · rw [OrderedMap.find?_put, if_neg (Ne.symm same)]

theorem getD_find?_indexEntries {entries : List (Datum × Option Plan)}
    {start : OrderedMap TypeKey Plan × List Notice} {index : OrderedMap TypeKey Plan}
    (indexed : (indexEntries wanted start entries).1 = .ok index) {key : TypeKey}
    (asked : key.text ∈ wanted) :
    (index.find? key).getD [] =
      firstFilled ((start.1.find? key).getD []) (firstPlan key entries) := by
  induction entries generalizing start with
  | nil =>
    cases indexed
    rw [firstPlan, firstFilled_nil]
  | cons entry rest ih =>
    rw [indexEntries] at indexed
    cases named : TypeKey.ofDatum entry.1 with
    | error fault =>
      rw [named] at indexed
      cases indexed
    | ok own =>
      rw [named] at indexed
      rw [ih indexed, getD_find?_indexEntry start named asked, firstFilled_assoc, firstPlan]

/-- The index of a book holds the plan of every type that is asked for. -/
theorem getD_find?_indexed {book : PlanBook} {index : OrderedMap TypeKey Plan}
    (indexed : (book.indexed wanted).1 = .ok index) {key : TypeKey} (asked : key.text ∈ wanted) :
    (index.find? key).getD [] = book.planOf key := by
  rw [getD_find?_indexEntries indexed asked, OrderedMap.find?_empty]
  rfl

/-- What an index holds after an entry was taken in, it held before or has from the entry. -/
theorem find?_of_indexEntry {index : OrderedMap TypeKey Plan × List Notice} {own key : TypeKey}
    {name : Datum} {plan stored : Plan}
    (found : (indexEntry wanted index own name plan).1.find? key = some stored) :
    index.1.find? key = some stored ∨ key = own ∧ own.text ∈ wanted ∧ stored = plan := by
  rw [indexEntry] at found
  split at found
  · exact .inl found
  · rename_i asked
    split at found
    · split at found <;> exact .inl found
    · rw [OrderedMap.find?_put] at found
      split at found
      · rename_i same
        cases found
        exact .inr ⟨same, by simpa using asked, rfl⟩
      · exact .inl found

theorem wanted_of_indexEntries {entries : List (Datum × Option Plan)}
    {start : OrderedMap TypeKey Plan × List Notice} {index : OrderedMap TypeKey Plan}
    (indexed : (indexEntries wanted start entries).1 = .ok index)
    (wants : ∀ key plan, start.1.find? key = some plan → key.text ∈ wanted) :
    ∀ key plan, index.find? key = some plan → key.text ∈ wanted := by
  induction entries generalizing start with
  | nil =>
    cases indexed
    exact wants
  | cons entry rest ih =>
    rw [indexEntries] at indexed
    cases named : TypeKey.ofDatum entry.1 with
    | error fault =>
      rw [named] at indexed
      cases indexed
    | ok own =>
      rw [named] at indexed
      refine ih indexed ?_
      intro key plan found
      rcases find?_of_indexEntry found with old | ⟨rfl, asked, -⟩
      · exact wants key plan old
      · exact asked

/-- An index holds plans of types that are asked for. -/
theorem wanted_of_indexed {book : PlanBook} {index : OrderedMap TypeKey Plan}
    (indexed : (book.indexed wanted).1 = .ok index) {key : TypeKey} {plan : Plan}
    (found : index.find? key = some plan) : key.text ∈ wanted :=
  wanted_of_indexEntries indexed (fun _ _ => nofun) key plan found

/-- Entries of types that are not asked for leave no trace in an index. -/
theorem indexEntries_filter {keep : Datum × Option Plan → Bool}
    {entries : List (Datum × Option Plan)}
    (dropped : ∀ entry ∈ entries, keep entry = false →
      ∃ key, TypeKey.ofDatum entry.1 = .ok key ∧ key.text ∉ wanted)
    (start : OrderedMap TypeKey Plan × List Notice) :
    indexEntries wanted start (entries.filter keep) = indexEntries wanted start entries := by
  induction entries generalizing start with
  | nil => rfl
  | cons entry rest ih =>
    have later := ih fun other member => dropped other (List.mem_cons_of_mem _ member)
    rw [List.filter_cons]
    split
    · rw [indexEntries, indexEntries]
      cases TypeKey.ofDatum entry.1 with
      | error fault => rfl
      | ok key => exact later _
    · rename_i leaves
      obtain ⟨key, named, unwanted⟩ :=
        dropped entry List.mem_cons_self (Bool.eq_false_iff.mpr leaves)
      have stays : indexEntry wanted start key entry.1 (entry.2.getD []) = start := by
        simp [indexEntry, unwanted]
      rw [indexEntries, named, later]
      dsimp only
      rw [stays]

/-- The index for one type holds its plan alone, or nothing when the type has none. -/
theorem entries_of_indexed_one {book : PlanBook} {key : TypeKey}
    {index : OrderedMap TypeKey Plan}
    (indexed : (book.indexed (NameSet.ofList [key.text])).1 = .ok index) :
    index.entries = [] ∧ book.planOf key = [] ∨ index.entries = [(key, book.planOf key)] := by
  have planned : (index.find? key).getD [] = book.planOf key :=
    getD_find?_indexed indexed (NameSet.mem_ofList.mpr List.mem_cons_self)
  have own : ∀ entry ∈ index.entries, entry.1 = key := by
    intro entry member
    have wants := wanted_of_indexed indexed ((index.find?_eq_some_iff _ _).mpr member)
    exact TypeKey.ext (List.mem_singleton.mp (NameSet.mem_ofList.mp wants))
  have nodup := index.nodup_keys
  rw [OrderedMap.find?] at planned
  revert planned own nodup
  generalize index.entries = entries
  intro planned own nodup
  cases entries with
  | nil => exact .inl ⟨rfl, planned.symm⟩
  | cons first rest =>
    obtain ⟨other, plan⟩ := first
    obtain rfl : other = key := own (other, plan) List.mem_cons_self
    -- all entries have the key, and no key is held twice
    have last : rest = [] := by
      refine List.eq_nil_iff_forall_not_mem.mpr fun entry member => ?_
      have same := own entry (List.mem_cons_of_mem _ member)
      exact (List.nodup_cons.mp nodup).1 (List.mem_map.mpr ⟨entry, member, same⟩)
    rw [OrderedMap.lookupEntry, if_pos rfl, Option.getD_some] at planned
    rw [last, planned]
    exact .inr rfl

end Rollout.PlanBook

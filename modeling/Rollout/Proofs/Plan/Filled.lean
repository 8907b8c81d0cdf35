import Rollout.Proofs.OrderedMap
import Rollout.Proofs.Plan.Book

/-!
# Books without their empty plans

A book is **filled** when its missing and empty plans are left out. For names that are texts the
index of a book and that of the filled one hold the same plans, up to types that have an empty plan
only: the first index knows such types, and the second one does not (`indexed_filled`). The notices
are the same.

So the two indexes differ in whether they are empty exactly when a book is **hollow**: it names
types that are asked for, and has no entry for any of them (`isHollow_iff`).
-/

namespace Rollout.PlanBook

/-- The plan has entries. -/
def hasEntries (plan : Plan) : Bool :=
  !plan.isEmpty

/-- The book without its missing and empty plans. -/
def filled (book : PlanBook) : PlanBook where
  entries := book.entries.filter fun entry => hasEntries (entry.2.getD [])
  nodup_keys := book.nodup_keys.sublist (List.filter_sublist.map Prod.fst)

/-- All names in the book are texts. -/
def IsNamed (book : PlanBook) : Prop :=
  ∀ entry ∈ book.entries, ∃ name, entry.1 = .text name

/-- The book names types that are asked for, and has no entry for any type that is. -/
structure IsHollow (book : PlanBook) (wanted : NameSet) : Prop where
  named : ∃ entry ∈ book.entries, ∃ key,
    TypeKey.ofDatum entry.1 = .ok key ∧ key.text ∈ wanted
  empty : ∀ key : TypeKey, key.text ∈ wanted → book.planOf key = []

variable {wanted : NameSet}

/-! ## What an entry does to an index -/

theorem indexEntry_unwanted (index : OrderedMap TypeKey Plan × List Notice) {own : TypeKey}
    (unwanted : own.text ∉ wanted) (name : Datum) (plan : Plan) :
    indexEntry wanted index own name plan = index := by
  simp [indexEntry, unwanted]

/-- A type without entries in the index gets the plan. -/
theorem indexEntry_open {index : OrderedMap TypeKey Plan} (notices : List Notice) {own : TypeKey}
    (asked : own.text ∈ wanted) (missing : (index.find? own).filter hasEntries = none)
    (name : Datum) (plan : Plan) :
    indexEntry wanted (index, notices) own name plan = (index.put own plan, notices) := by
  rw [indexEntry, if_neg (by simpa using asked)]
  split
  · rename_i first rest held
    rw [held] at missing
    cases missing
  · rfl

/-- A type with entries in the index keeps them. -/
theorem indexEntry_held {index : OrderedMap TypeKey Plan} (notices : List Notice) {own : TypeKey}
    (asked : own.text ∈ wanted) {held : Plan}
    (holds : (index.find? own).filter hasEntries = some held) (name : Datum) (plan : Plan) :
    indexEntry wanted (index, notices) own name plan =
      (index,
        if plan.isEmpty || plan.same held then notices else notices ++ [conflict own name]) := by
  obtain ⟨found, filled⟩ := Option.filter_eq_some_iff.mp holds
  rw [indexEntry, if_neg (by simpa using asked)]
  cases held with
  | nil => cases filled
  | cons first rest =>
    simp only [found]
    split <;> rfl

/-! ## Two indexes side by side -/

/-- The second index holds the plans of the first one that have entries. -/
def Thins (index thin : OrderedMap TypeKey Plan) : Prop :=
  ∀ key, thin.find? key = (index.find? key).filter hasEntries

variable {index thin : OrderedMap TypeKey Plan}

theorem Thins.filter_eq (thins : Thins index thin) (key : TypeKey) :
    (thin.find? key).filter hasEntries = (index.find? key).filter hasEntries := by
  rw [thins key, Option.filter_filter]
  simp

theorem Thins.isEmpty (thins : Thins index thin) (nothing : index.isEmpty = true) :
    thin.isEmpty = true := by
  rw [OrderedMap.isEmpty_iff] at nothing ⊢
  intro key
  rw [thins key, nothing key]
  rfl

/-- An empty plan is not taken into the second index. -/
theorem Thins.indexEntry_empty (thins : Thins index thin) (wanted : NameSet)
    (notices : List Notice) (own : TypeKey) (name : Datum) :
    ∃ next, indexEntry wanted (index, notices) own name [] = (next, notices) ∧
      Thins next thin := by
  by_cases asked : own.text ∈ wanted
  · cases held : (index.find? own).filter hasEntries with
    | some plan => exact ⟨index, by rw [indexEntry_held notices asked held]; rfl, thins⟩
    | none =>
      refine ⟨index.put own [], indexEntry_open notices asked held name [], fun key => ?_⟩
      rw [OrderedMap.find?_put]
      split
      · rename_i same
        rw [same, thins own, held]
        rfl
      · exact thins key
  · exact ⟨index, indexEntry_unwanted _ asked name [], thins⟩

/-- A plan with entries is taken into both indexes, or into none and reported for both. -/
theorem Thins.indexEntry_filled (thins : Thins index thin) (wanted : NameSet)
    (notices : List Notice) (own : TypeKey) (name : Datum) {plan : Plan}
    (filled : hasEntries plan = true) :
    ∃ next thin_next told, indexEntry wanted (index, notices) own name plan = (next, told) ∧
      indexEntry wanted (thin, notices) own name plan = (thin_next, told) ∧
      Thins next thin_next := by
  by_cases asked : own.text ∈ wanted
  · cases held : (index.find? own).filter hasEntries with
    | some stored =>
      have thin_held := (thins.filter_eq own).trans held
      exact ⟨index, thin, _, indexEntry_held notices asked held name plan,
        indexEntry_held notices asked thin_held name plan, thins⟩
    | none =>
      have thin_held := (thins.filter_eq own).trans held
      refine ⟨_, _, _, indexEntry_open notices asked held name plan,
        indexEntry_open notices asked thin_held name plan, fun key => ?_⟩
      rw [OrderedMap.find?_put, OrderedMap.find?_put]
      split
      · rw [Option.filter_some, if_pos filled]
      · exact thins key
  · exact ⟨index, thin, notices, indexEntry_unwanted _ asked name plan,
      indexEntry_unwanted _ asked name plan, thins⟩

theorem Thins.indexEntries (thins : Thins index thin) (notices : List Notice)
    {entries : List (Datum × Option Plan)}
    (named : ∀ entry ∈ entries, ∃ name, entry.1 = .text name) :
    ∃ last thin_last told, indexEntries wanted (index, notices) entries = (.ok last, told) ∧
      indexEntries wanted (thin, notices)
        (entries.filter fun entry => hasEntries (entry.2.getD [])) = (.ok thin_last, told) ∧
      Thins last thin_last := by
  -- the invariant is `Thins`; an empty plan is a step of the first index alone
  induction entries generalizing index thin notices with
  | nil => exact ⟨index, thin, notices, rfl, rfl, thins⟩
  | cons entry rest ih =>
    obtain ⟨name, plan⟩ := entry
    obtain ⟨text, rfl⟩ := named (name, plan) List.mem_cons_self
    have later := fun other member => named other (List.mem_cons_of_mem _ member)
    simp only [PlanBook.indexEntries, List.filter_cons, TypeKey.ofDatum_text]
    cases filled : hasEntries (plan.getD []) with
    | true =>
      obtain ⟨next, thin_next, told, taken, thin_taken, thinned⟩ :=
        thins.indexEntry_filled wanted notices (.ofName text) (.text text) filled
      rw [if_pos rfl, taken, PlanBook.indexEntries, TypeKey.ofDatum_text]
      dsimp only
      rw [thin_taken]
      exact ih thinned told later
    | false =>
      have empty : plan.getD [] = [] := by simpa [hasEntries] using filled
      obtain ⟨next, taken, thinned⟩ :=
        thins.indexEntry_empty wanted notices (.ofName text) (.text text)
      rw [if_neg Bool.false_ne_true, empty, taken]
      exact ih thinned notices later

/-! ## The types that an index knows -/

theorem contains_indexEntry (index : OrderedMap TypeKey Plan) (notices : List Notice)
    (own : TypeKey) (name : Datum) (plan : Plan) (key : TypeKey) :
    (indexEntry wanted (index, notices) own name plan).1.contains key = true ↔
      index.contains key = true ∨ (key.text ∈ wanted ∧ own = key) := by
  by_cases asked : own.text ∈ wanted
  · cases held : (index.find? own).filter hasEntries with
    | some stored =>
      rw [indexEntry_held notices asked held]
      constructor
      · exact .inl
      · rintro (known | ⟨-, rfl⟩)
        · exact known
        · rw [OrderedMap.contains, (Option.filter_eq_some_iff.mp held).1]
          rfl
    | none =>
      rw [indexEntry_open notices asked held, OrderedMap.contains, OrderedMap.contains,
        OrderedMap.find?_put]
      by_cases same : key = own
      · rw [if_pos same]
        exact iff_of_true rfl (.inr ⟨same ▸ asked, same.symm⟩)
      · rw [if_neg same, or_iff_left fun both => same both.2.symm]
  · rw [indexEntry_unwanted _ asked, or_iff_left]
    rintro ⟨wants, rfl⟩
    exact asked wants

/-- An index knows the types that are asked for and named, whatever their plans. -/
theorem contains_indexEntries {entries : List (Datum × Option Plan)}
    {start : OrderedMap TypeKey Plan × List Notice} {last : OrderedMap TypeKey Plan}
    (indexed : (indexEntries wanted start entries).1 = .ok last) (key : TypeKey) :
    last.contains key = true ↔ start.1.contains key = true ∨
      (key.text ∈ wanted ∧ ∃ entry ∈ entries, TypeKey.ofDatum entry.1 = .ok key) := by
  induction entries generalizing start with
  | nil =>
    cases indexed
    simp
  | cons entry rest ih =>
    rw [PlanBook.indexEntries] at indexed
    cases named : TypeKey.ofDatum entry.1 with
    | error fault =>
      rw [named] at indexed
      cases indexed
    | ok own =>
      rw [named] at indexed
      rw [ih indexed, contains_indexEntry start.1 start.2, or_assoc, ← and_or_left]
      simp only [List.mem_cons, exists_eq_or_imp, named, Except.ok.injEq]

/-- The indexes of a book and of the filled one, with the same notices. -/
theorem indexed_filled {book : PlanBook} (named : book.IsNamed) (wanted : NameSet) :
    ∃ index thin notices, book.indexed wanted = (.ok index, notices) ∧
      book.filled.indexed wanted = (.ok thin, notices) ∧ Thins index thin :=
  Thins.indexEntries (fun _ => rfl) [] named

/-- One index is empty and the other one is not exactly for a hollow book. -/
theorem isHollow_iff {book : PlanBook} {index thin : OrderedMap TypeKey Plan}
    (indexed : (book.indexed wanted).1 = .ok index) (thins : Thins index thin) :
    book.IsHollow wanted ↔ index.isEmpty = false ∧ thin.isEmpty = true := by
  have known (key : TypeKey) : index.contains key = true ↔
      key.text ∈ wanted ∧ ∃ entry ∈ book.entries, TypeKey.ofDatum entry.1 = .ok key :=
    (contains_indexEntries indexed key).trans (or_iff_right nofun)
  rw [← Bool.not_eq_true, OrderedMap.isEmpty_iff, OrderedMap.isEmpty_iff]
  constructor
  · rintro ⟨⟨entry, member, key, own, asked⟩, empty⟩
    refine ⟨fun unknown => ?_, fun other => ?_⟩
    · have contains := (known key).mpr ⟨asked, entry, member, own⟩
      rw [OrderedMap.contains, unknown key] at contains
      cases contains
    · rw [thins other, Option.filter_eq_none_iff]
      intro plan found filled
      have held := getD_find?_indexed indexed (wanted_of_indexed indexed found)
      rw [found, empty other (wanted_of_indexed indexed found)] at held
      cases held
      cases filled
  · rintro ⟨some_known, none_filled⟩
    refine ⟨?_, fun key asked => ?_⟩
    · obtain ⟨key, found⟩ := Classical.not_forall.mp some_known
      have contains : index.contains key = true := Option.isSome_iff_ne_none.mpr found
      obtain ⟨asked, entry, member, own⟩ := (known key).mp contains
      exact ⟨entry, member, key, own, asked⟩
    · rw [← getD_find?_indexed indexed asked]
      have unfilled := (thins key).symm.trans (none_filled key)
      cases found : index.find? key with
      | none => rfl
      | some plan =>
        cases plan with
        | nil => rfl
        | cons first rest =>
          rw [found] at unfilled
          cases unfilled

theorem isEmpty_eq_of_not_hollow {book : PlanBook} {index thin : OrderedMap TypeKey Plan}
    (indexed : (book.indexed wanted).1 = .ok index) (thins : Thins index thin)
    (filled : ¬ book.IsHollow wanted) : thin.isEmpty = index.isEmpty := by
  rw [isHollow_iff indexed thins] at filled
  cases known : index.isEmpty with
  | true => exact thins.isEmpty known
  | false => simpa [known] using filled

/-- What is left of a hollow book is about types that are not asked for. -/
theorem indexed_filled_of_hollow {book : PlanBook} (named : book.IsNamed)
    (hollow : book.IsHollow wanted) :
    book.filled.indexed wanted = (.ok OrderedMap.empty, []) := by
  have dropped : ∀ entry ∈ book.filled.entries, false = false →
      ∃ key, TypeKey.ofDatum entry.1 = .ok key ∧ key.text ∉ wanted := by
    intro entry member _
    obtain ⟨held, filled⟩ := List.mem_filter.mp member
    obtain ⟨name, text⟩ := named entry held
    have own : TypeKey.ofDatum entry.1 = .ok (.ofName name) := by
      rw [text, TypeKey.ofDatum_text]
    refine ⟨.ofName name, own, fun asked => ?_⟩
    have nothing := firstPlan_eq_nil_iff.mp (hollow.empty (.ofName name) asked) entry held
    rw [heldPlan, own, Except.toOption, if_pos rfl] at nothing
    rw [nothing] at filled
    cases filled
  have none_left := indexEntries_filter dropped (OrderedMap.empty, [])
  rw [List.filter_eq_nil_iff.mpr fun _ _ => Bool.false_ne_true] at none_left
  exact none_left.symm

end Rollout.PlanBook

import Rollout.Proofs.Plan.Filled

/-!
# What an index holds

An index is described entry by entry of the book that it is made of (`Merges`): which types it
knows, the plan that it keeps for each, the order of its types and the notices that come with it.
Types and notices are followed through the book from its front: what the entries up to a position
have left in the index decides what the entry at the position does (`keys_indexEntry`,
`notices_indexEntry`).
-/

namespace Rollout.PlanBook

/-! ## The book, read as a whole -/

/-- The plans that the spellings of a type hold, in the order of the entries. -/
def plansUnder (key : TypeKey) (entries : List (Datum × Option Plan)) : List Plan :=
  (entries.filter fun entry => (TypeKey.ofDatum entry.1).toOption = some key).map
    fun entry => entry.2.getD []

/-- The types that are asked for among those of the entries, once for each entry. -/
def typesAsked (wanted : NameSet) (entries : List (Datum × Option Plan)) : List TypeKey :=
  entries.filterMap fun entry =>
    (TypeKey.ofDatum entry.1).toOption.filter fun key => wanted.contains key.text

/-- The notice for the entry at a position: for a plan with entries, of a type that is asked for
and had entries before, which is not the plan of the type. -/
def conflictAt (book : PlanBook) (wanted : NameSet) (position : Nat)
    (entry : Datum × Option Plan) : Option Notice :=
  match TypeKey.ofDatum entry.1 with
  | .error _ => none
  | .ok key =>
    if key.text ∈ wanted ∧ (∃ earlier ∈ book.entries.take position, heldPlan key earlier ≠ []) ∧
        entry.2.getD [] ≠ [] ∧ (entry.2.getD []).same (book.planOf key) = false then
      some (conflict key entry.1)
    else none

/-- The notices for the entries of the book, one after another. -/
def conflicts (book : PlanBook) (wanted : NameSet) : List Notice :=
  book.entries.zipIdx.filterMap fun (entry, position) => book.conflictAt wanted position entry

/-- The index and its notices are those of the book for the types with the given names. -/
structure Merges (book : PlanBook) (names : List String) (index : OrderedMap TypeKey Plan)
    (notices : List Notice) : Prop where
  known : ∀ key, index.contains key = true ↔
    (∃ name ∈ names, TypeKey.ofName name = key) ∧
      ∃ name plan, (.text name, plan) ∈ book.entries ∧ TypeKey.ofName name = key
  kept : ∀ key plan, index.find? key = some plan →
    plan = ((plansUnder key book.entries).find? hasEntries).getD []
  ordered : index.keys = (typesAsked (.normalized names) book.entries).eraseDups
  told : notices = book.conflicts (.normalized names)

variable {wanted : NameSet}

/-- The plan of a type is the first one with entries. -/
theorem firstPlan_eq (key : TypeKey) (entries : List (Datum × Option Plan)) :
    firstPlan key entries = ((plansUnder key entries).find? hasEntries).getD [] := by
  induction entries with
  | nil => rfl
  | cons entry rest ih =>
    rw [firstPlan, heldPlan, plansUnder, List.filter_cons]
    by_cases own : (TypeKey.ofDatum entry.1).toOption = some key
    · rw [if_pos own, if_pos (decide_eq_true own), List.map_cons, List.find?_cons]
      cases entry.2.getD [] with
      | nil => exact ih
      | cons first others => rfl
    · rw [if_neg own, if_neg (by simpa using own)]
      exact ih

theorem firstPlan_append (key : TypeKey) (entries others : List (Datum × Option Plan)) :
    firstPlan key (entries ++ others) =
      firstFilled (firstPlan key entries) (firstPlan key others) := by
  induction entries with
  | nil => rfl
  | cons entry rest ih => rw [List.cons_append, firstPlan, firstPlan, ih, firstFilled_assoc]

/-- A type that has entries among the first entries of a book has its plan there. -/
theorem firstPlan_append_of_ne_nil {key : TypeKey} {entries : List (Datum × Option Plan)}
    (filled : firstPlan key entries ≠ []) (others : List (Datum × Option Plan)) :
    firstPlan key (entries ++ others) = firstPlan key entries := by
  rw [firstPlan_append]
  cases first : firstPlan key entries with
  | nil => exact absurd first filled
  | cons entry rest => rfl

/-! ## The order of the types -/

theorem typesAsked_append (entries others : List (Datum × Option Plan)) :
    typesAsked wanted (entries ++ others) =
      typesAsked wanted entries ++ typesAsked wanted others :=
  List.filterMap_append

theorem typesAsked_singleton {entry : Datum × Option Plan} {own : TypeKey}
    (named : TypeKey.ofDatum entry.1 = .ok own) :
    typesAsked wanted [entry] = if own.text ∈ wanted then [own] else [] := by
  rw [typesAsked, List.filterMap_cons, List.filterMap_nil, named]
  by_cases asked : own.text ∈ wanted <;> simp [Except.toOption, Option.filter, asked]

/-- An entry adds its type at the end, if it is asked for and new. -/
theorem keys_indexEntry (index : OrderedMap TypeKey Plan) (notices : List Notice) (own : TypeKey)
    (name : Datum) (plan : Plan) :
    (indexEntry wanted (index, notices) own name plan).1.keys =
      if own.text ∈ wanted ∧ own ∉ index.keys then index.keys ++ [own] else index.keys := by
  by_cases asked : own.text ∈ wanted
  · cases held : (index.find? own).filter hasEntries with
    | some stored =>
      have found := (Option.filter_eq_some_iff.mp held).1
      have known : own ∈ index.keys :=
        (index.contains_iff own).mp (by rw [OrderedMap.contains, found]; rfl)
      have old : ¬ (own.text ∈ wanted ∧ own ∉ index.keys) := fun new => new.2 known
      rw [indexEntry_held notices asked held, if_neg old]
    | none =>
      rw [indexEntry_open notices asked held, OrderedMap.keys_put]
      by_cases known : own ∈ index.keys
      · rw [if_pos known, if_neg fun new => new.2 known]
      · rw [if_neg known, if_pos ⟨asked, known⟩]
  · rw [indexEntry_unwanted _ asked, if_neg fun new => asked new.1]

theorem keys_indexEntries {before rest : List (Datum × Option Plan)}
    {start : OrderedMap TypeKey Plan × List Notice} {index : OrderedMap TypeKey Plan}
    (indexed : (indexEntries wanted start rest).1 = .ok index)
    (ordered : start.1.keys = (typesAsked wanted before).eraseDups) :
    index.keys = (typesAsked wanted (before ++ rest)).eraseDups := by
  induction rest generalizing before start with
  | nil =>
    cases indexed
    rw [List.append_nil, ordered]
  | cons entry rest ih =>
    rw [indexEntries] at indexed
    cases named : TypeKey.ofDatum entry.1 with
    | error fault =>
      rw [named] at indexed
      cases indexed
    | ok own =>
      rw [named] at indexed
      have next : (typesAsked wanted (before ++ [entry])).eraseDups =
          if own.text ∈ wanted ∧ own ∉ start.1.keys then start.1.keys ++ [own]
          else start.1.keys := by
        rw [typesAsked_append, List.eraseDups_append, typesAsked_singleton named, ordered]
        by_cases asked : own.text ∈ wanted <;>
          by_cases known : own ∈ typesAsked wanted before <;>
          simp [asked, known, List.removeAll, List.eraseDups_cons]
      have stepped := ih indexed ((keys_indexEntry start.1 start.2 own entry.1 _).trans next.symm)
      rwa [List.append_assoc, List.singleton_append] at stepped

/-! ## The notices -/

/-- An entry is reported when the type has entries in the index, and the plan is another one with
entries. -/
theorem notices_indexEntry (index : OrderedMap TypeKey Plan) (notices : List Notice)
    {own : TypeKey} (asked : own.text ∈ wanted) (name : Datum) (plan : Plan) :
    (indexEntry wanted (index, notices) own name plan).2 = notices ++
      if (index.find? own).getD [] ≠ [] ∧ plan ≠ [] ∧
          plan.same ((index.find? own).getD []) = false then [conflict own name]
      else [] := by
  cases held : (index.find? own).filter hasEntries with
  | some stored =>
    obtain ⟨found, filled⟩ := Option.filter_eq_some_iff.mp held
    have entries : stored ≠ [] := by
      rintro rfl
      cases filled
    rw [indexEntry_held notices asked held, found, Option.getD_some]
    cases plan with
    | nil => simp
    | cons first rest => cases differs : Plan.same (first :: rest) stored <;> simp [entries]
  | none =>
    have unfilled : (index.find? own).getD [] = [] := by
      cases found : index.find? own with
      | none => rfl
      | some stored =>
        rw [found, Option.filter_eq_none_iff] at held
        simpa [hasEntries] using held stored rfl
    rw [indexEntry_open notices asked held, if_neg fun clash => clash.1 unfilled,
      List.append_nil]

/-- What the entry at a position adds to the notices, when the index holds the plans of the
entries before it. -/
theorem notices_indexEntry_eq_conflictAt {book : PlanBook}
    {before rest : List (Datum × Option Plan)} {entry : Datum × Option Plan}
    (split : book.entries = before ++ entry :: rest)
    {index : OrderedMap TypeKey Plan}
    (holds : ∀ key : TypeKey, key.text ∈ wanted →
      (index.find? key).getD [] = firstPlan key before)
    {own : TypeKey} (named : TypeKey.ofDatum entry.1 = .ok own) (notices : List Notice) :
    (indexEntry wanted (index, notices) own entry.1 (entry.2.getD [])).2 =
      notices ++ (book.conflictAt wanted before.length entry).toList := by
  simp only [conflictAt, named]
  by_cases asked : own.text ∈ wanted
  · have filled : (∃ earlier ∈ book.entries.take before.length, heldPlan own earlier ≠ []) ↔
        firstPlan own before ≠ [] := by
      rw [split, List.take_left', Ne, firstPlan_eq_nil_iff]
      · simp
      · rfl
    rw [notices_indexEntry index notices asked, holds own asked]
    simp only [filled]
    by_cases earlier : firstPlan own before = []
    · simp [earlier]
    · have kept : book.planOf own = firstPlan own before := by
        rw [planOf, split, firstPlan_append_of_ne_nil earlier]
      rw [kept]
      by_cases clash : entry.2.getD [] ≠ [] ∧
          (entry.2.getD []).same (firstPlan own before) = false
      · simp [asked, earlier, clash]
      · rw [if_neg fun all => clash all.2, if_neg fun all => clash all.2.2, Option.toList_none]
  · rw [indexEntry_unwanted _ asked, if_neg fun clash => asked clash.1, Option.toList_none,
      List.append_nil]

theorem notices_indexEntries {book : PlanBook} {before rest : List (Datum × Option Plan)}
    (split : book.entries = before ++ rest)
    {start : OrderedMap TypeKey Plan × List Notice} {index : OrderedMap TypeKey Plan}
    (indexed : (indexEntries wanted start rest).1 = .ok index)
    (holds : ∀ key : TypeKey, key.text ∈ wanted →
      (start.1.find? key).getD [] = firstPlan key before) :
    (indexEntries wanted start rest).2 = start.2 ++
      (rest.zipIdx before.length).filterMap fun (entry, position) =>
        book.conflictAt wanted position entry := by
  -- the invariant is `holds`: the index holds the plans of the entries behind
  induction rest generalizing before start with
  | nil => exact (List.append_nil _).symm
  | cons entry rest ih =>
    rw [indexEntries] at indexed ⊢
    cases named : TypeKey.ofDatum entry.1 with
    | error fault =>
      rw [named] at indexed
      cases indexed
    | ok own =>
      rw [named] at indexed
      have behind : book.entries = (before ++ [entry]) ++ rest := by
        rw [split, List.append_assoc, List.singleton_append]
      have holding : ∀ key : TypeKey, key.text ∈ wanted →
          ((indexEntry wanted start own entry.1 (entry.2.getD [])).1.find? key).getD [] =
            firstPlan key (before ++ [entry]) := by
        intro key asked
        rw [getD_find?_indexEntry start named asked, holds key asked, firstPlan_append,
          firstPlan, firstPlan, firstFilled_nil]
      dsimp only
      rw [ih behind indexed holding,
        notices_indexEntry_eq_conflictAt split holds named start.2, List.append_assoc,
        List.zipIdx_cons, List.length_append, List.length_singleton, List.filterMap_cons]
      cases book.conflictAt wanted before.length entry <;> rfl

/-! ## Indexes -/

/-- For names that are texts there is an index, and it is the one that the book describes. -/
theorem indexed_merges (book : PlanBook) (named : book.IsNamed) (names : List String) :
    ∃ index notices, book.indexed (.normalized names) = (.ok index, notices) ∧
      book.Merges names index notices := by
  obtain ⟨index, -, notices, indexed, -, -⟩ := indexed_filled named (.normalized names)
  have result : (book.indexed (.normalized names)).1 = .ok index := congrArg Prod.fst indexed
  have asked (key : TypeKey) : key.text ∈ NameSet.normalized names ↔
      ∃ name ∈ names, TypeKey.ofName name = key := by
    rw [NameSet.mem_normalized]
    exact ⟨fun ⟨name, member, same⟩ => ⟨name, member, TypeKey.ext same⟩,
      fun ⟨name, member, same⟩ => ⟨name, member, congrArg TypeKey.text same⟩⟩
  have spelled (key : TypeKey) :
      (∃ entry ∈ book.entries, TypeKey.ofDatum entry.1 = .ok key) ↔
        ∃ name plan, (.text name, plan) ∈ book.entries ∧ TypeKey.ofName name = key := by
    constructor
    · rintro ⟨⟨spelling, plan⟩, member, own⟩
      obtain ⟨name, rfl⟩ := named (spelling, plan) member
      exact ⟨name, plan, member, Except.ok.inj own⟩
    · rintro ⟨name, plan, member, rfl⟩
      exact ⟨(.text name, plan), member, rfl⟩
  refine ⟨index, notices, indexed, ⟨fun key => ?_, fun key plan found => ?_, ?_, ?_⟩⟩
  · rw [contains_indexEntries result key, asked, spelled]
    exact or_iff_right nofun
  · rw [← firstPlan_eq, ← planOf, ← getD_find?_indexed result (wanted_of_indexed result found),
      found, Option.getD_some]
  · have none_behind : (typesAsked (.normalized names) []).eraseDups = [] := rfl
    exact keys_indexEntries result none_behind.symm
  · have told := notices_indexEntries (List.nil_append book.entries).symm result fun _ _ => rfl
    rw [← PlanBook.indexed, indexed] at told
    exact told

/-- A book with three spellings of one type. -/
def spelledBook : PlanBook :=
  { entries := [(.text "Spark", none), (.text "etl", some [⟨.text "0.9", .int 5⟩]),
      (.text " spark", some [⟨.text "2.0", .int 10⟩]),
      (.text "SPARK", some [⟨.text "3.0", .int 20⟩])] }

/-- The missing plan does not count, and the second plan with entries is reported. -/
theorem indexed_spelledBook :
    spelledBook.IsNamed ∧
    ∃ index notices, spelledBook.indexed (.normalized ["spark"]) = (.ok index, notices) ∧
      spelledBook.Merges ["spark"] index notices ∧
      index.entries = [(.ofName "spark", [⟨.text "2.0", .int 10⟩])] ∧
      notices = [conflict (.ofName "spark") (.text "SPARK")] := by
  have named : spelledBook.IsNamed := by
    rintro entry (_ | ⟨_, _ | ⟨_, _ | ⟨_, _ | ⟨_, ⟨⟩⟩⟩⟩⟩)
    · exact ⟨"Spark", rfl⟩
    · exact ⟨"etl", rfl⟩
    · exact ⟨" spark", rfl⟩
    · exact ⟨"SPARK", rfl⟩
  obtain ⟨index, notices, indexed, merges⟩ := indexed_merges spelledBook named ["spark"]
  have taken : ((spelledBook.indexed (.normalized ["spark"])).1.toOption.map
      OrderedMap.entries) = some [(.ofName "spark", [⟨.text "2.0", .int 10⟩])] := by
    decide +kernel
  have told : (spelledBook.indexed (.normalized ["spark"])).2 =
      [conflict (.ofName "spark") (.text "SPARK")] := by decide +kernel
  rw [indexed] at taken told
  exact ⟨named, index, notices, indexed, merges, Option.some.inj taken, told⟩

end Rollout.PlanBook

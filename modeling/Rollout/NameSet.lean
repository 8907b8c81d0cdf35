/-!
# Sets of names

A **name set** is kept as an ascending list without repeats, in the order of code points. Two
sets with the same members are therefore equal (`ext`), and a set has one way to be shown.
-/

namespace Rollout

/-- A set of texts, listed in ascending order. -/
structure NameSet where
  toList : List String
  ascending : toList.Pairwise (· < ·) := by simp
  deriving DecidableEq, Repr

namespace NameSet

/-- Puts a name at its place in an ascending list, unless it is there. -/
def insertInto (name : String) : List String → List String
  | [] => [name]
  | first :: rest =>
    if name < first then name :: first :: rest
    else if first < name then first :: insertInto name rest
    else first :: rest

theorem mem_insertInto {name x : String} {names : List String} :
    x ∈ insertInto name names ↔ x = name ∨ x ∈ names := by
  induction names with
  | nil => simp [insertInto]
  | cons first rest ih =>
    unfold insertInto
    split
    · simp
    · split
      · simp only [List.mem_cons, ih]
        grind
      · rename_i h1 h2
        have heq : name = first := String.le_antisymm (String.not_lt.mp h2) (String.not_lt.mp h1)
        simp [heq]

theorem ascending_insertInto {name : String} {names : List String}
    (h : names.Pairwise (· < ·)) : (insertInto name names).Pairwise (· < ·) := by
  induction names with
  | nil => simp [insertInto]
  | cons first rest ih =>
    rw [List.pairwise_cons] at h
    unfold insertInto
    split
    · rename_i hlt
      rw [List.pairwise_cons]
      refine ⟨fun x hx => ?_, List.pairwise_cons.mpr h⟩
      rcases List.mem_cons.mp hx with rfl | hx
      · exact hlt
      · exact String.lt_trans hlt (h.1 x hx)
    · split
      · rename_i hlt
        rw [List.pairwise_cons]
        refine ⟨fun x hx => ?_, ih h.2⟩
        rcases mem_insertInto.mp hx with rfl | hx
        · exact hlt
        · exact h.1 x hx
      · exact List.pairwise_cons.mpr h

/-- The set without members. -/
def empty : NameSet where
  toList := []

instance : Inhabited NameSet := ⟨empty⟩

instance : Membership String NameSet := ⟨fun s name => name ∈ s.toList⟩

instance (name : String) (s : NameSet) : Decidable (name ∈ s) :=
  inferInstanceAs (Decidable (name ∈ s.toList))

/-- The name is a member. -/
def contains (s : NameSet) (name : String) : Bool :=
  decide (name ∈ s)

/-- There is no member. -/
def isEmpty (s : NameSet) : Bool :=
  s.toList.isEmpty

/-- Adds a name. -/
def insert (s : NameSet) (name : String) : NameSet where
  toList := insertInto name s.toList
  ascending := ascending_insertInto s.ascending

/-- The set of the names in a list. -/
def ofList (names : List String) : NameSet :=
  names.foldl insert empty

/-- Keeps the names that pass the test. -/
def filter (s : NameSet) (p : String → Bool) : NameSet where
  toList := s.toList.filter p
  ascending := s.ascending.sublist List.filter_sublist

/-- Takes a name away. -/
def erase (s : NameSet) (name : String) : NameSet :=
  s.filter (· ≠ name)

/-- Takes the members of a second set away. -/
def diff (s other : NameSet) : NameSet :=
  s.filter (!other.contains ·)

theorem mem_def {name : String} {s : NameSet} : name ∈ s ↔ name ∈ s.toList := Iff.rfl

theorem not_mem_of_isEmpty {s : NameSet} (nothing : s.isEmpty = true) (name : String) :
    name ∉ s := by
  rw [mem_def, List.isEmpty_iff.mp nothing]
  exact List.not_mem_nil

@[simp] theorem not_mem_empty (name : String) : name ∉ empty := by
  simp [mem_def, empty]

@[simp] theorem contains_iff {s : NameSet} {name : String} :
    s.contains name = true ↔ name ∈ s := by
  simp [contains]

@[simp] theorem mem_insert {s : NameSet} {name x : String} :
    x ∈ s.insert name ↔ x = name ∨ x ∈ s :=
  mem_insertInto

@[simp] theorem mem_filter {s : NameSet} {p : String → Bool} {x : String} :
    x ∈ s.filter p ↔ x ∈ s ∧ p x = true := by
  simp [mem_def, filter]

@[simp] theorem mem_erase {s : NameSet} {name x : String} :
    x ∈ s.erase name ↔ x ∈ s ∧ x ≠ name := by
  simp [erase]

@[simp] theorem mem_diff {s other : NameSet} {x : String} :
    x ∈ s.diff other ↔ x ∈ s ∧ x ∉ other := by
  simp [diff, contains]

theorem mem_foldl_insert {names : List String} {s : NameSet} {x : String} :
    x ∈ names.foldl insert s ↔ x ∈ s ∨ x ∈ names := by
  induction names generalizing s with
  | nil => simp
  | cons name rest ih =>
    rw [List.foldl_cons, ih]
    simp only [mem_insert, List.mem_cons]
    grind

@[simp] theorem mem_ofList {names : List String} {x : String} : x ∈ ofList names ↔ x ∈ names := by
  simp [ofList, mem_foldl_insert]

theorem eq_of_mem_iff {s t : List String} (hs : s.Pairwise (· < ·)) (ht : t.Pairwise (· < ·))
    (h : ∀ x, x ∈ s ↔ x ∈ t) : s = t := by
  induction s generalizing t with
  | nil =>
    cases t with
    | nil => rfl
    | cons b t => exact absurd ((h b).mpr (by simp)) (by simp)
  | cons a s ih =>
    cases t with
    | nil => exact absurd ((h a).mp (by simp)) (by simp)
    | cons b t =>
      rw [List.pairwise_cons] at hs ht
      have hab : a = b := by
        rcases List.mem_cons.mp ((h a).mp (by simp)) with hab | hat
        · exact hab
        · rcases List.mem_cons.mp ((h b).mpr (by simp)) with hba | hbs
          · exact hba.symm
          · exact absurd (ht.1 a hat) (String.lt_asymm (hs.1 b hbs))
      subst hab
      congr 1
      refine ih hs.2 ht.2 fun x => ⟨fun hx => ?_, fun hx => ?_⟩
      · rcases List.mem_cons.mp ((h x).mp (by simp [hx])) with rfl | hxt
        · exact absurd (hs.1 x hx) (String.lt_irrefl x)
        · exact hxt
      · rcases List.mem_cons.mp ((h x).mpr (by simp [hx])) with rfl | hxs
        · exact absurd (ht.1 x hx) (String.lt_irrefl x)
        · exact hxs

/-- Sets with the same members are equal. -/
theorem ext {s t : NameSet} (h : ∀ x, x ∈ s ↔ x ∈ t) : s = t := by
  have := eq_of_mem_iff s.ascending t.ascending h
  cases s
  cases t
  simp_all

@[simp] theorem diff_empty (s : NameSet) : s.diff empty = s :=
  ext fun name => by simp

end NameSet

end Rollout

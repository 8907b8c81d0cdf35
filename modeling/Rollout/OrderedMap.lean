/-!
# Maps in order of first insertion

An **ordered map** holds one value per key and lists its entries in the order in which the keys
first came. A new value for a key takes the place of the old one; a key that was erased and
comes again goes to the end. Look-ups are the view by which the operations are described
(`find?_put`, `find?_erase`, `find?_filterKeys`).
-/

namespace Rollout

/-- Entries with distinct keys, in order of first insertion. -/
structure OrderedMap (κ : Type) (α : Type) where
  entries : List (κ × α)
  nodup_keys : (entries.map Prod.fst).Nodup := by simp

namespace OrderedMap

variable {κ α β : Type} [DecidableEq κ]

/-! ## Entry lists -/

/-- The value of the first entry with the key. -/
def lookupEntry (k : κ) : List (κ × α) → Option α
  | [] => none
  | (k', v) :: rest => if k' = k then some v else lookupEntry k rest

/-- Gives the key the value, at its place or at the end. -/
def putEntry (k : κ) (v : α) : List (κ × α) → List (κ × α)
  | [] => [(k, v)]
  | (k', v') :: rest => if k' = k then (k, v) :: rest else (k', v') :: putEntry k v rest

theorem keys_putEntry (k : κ) (v : α) (entries : List (κ × α)) :
    (putEntry k v entries).map Prod.fst =
      if k ∈ entries.map Prod.fst then entries.map Prod.fst
      else entries.map Prod.fst ++ [k] := by
  induction entries with
  | nil => simp [putEntry]
  | cons entry rest ih =>
    obtain ⟨k', v'⟩ := entry
    by_cases h : k' = k
    · simp [putEntry, h]
    · have h' : ¬ k = k' := fun he => h he.symm
      by_cases hmem : k ∈ rest.map Prod.fst
      · simp only [putEntry, h, if_false, List.map_cons, ih, hmem, if_true, List.mem_cons,
          or_true]
      · simp only [putEntry, h, if_false, List.map_cons, ih, hmem, List.mem_cons, h',
          or_self, List.cons_append]

theorem nodup_putEntry (k : κ) (v : α) {entries : List (κ × α)}
    (h : (entries.map Prod.fst).Nodup) : ((putEntry k v entries).map Prod.fst).Nodup := by
  rw [keys_putEntry]
  split
  · exact h
  · rename_i hmem
    rw [List.nodup_append]
    refine ⟨h, by simp, fun a ha b hb => ?_⟩
    simp only [List.mem_singleton] at hb
    rintro rfl
    exact hmem (hb ▸ ha)

theorem lookupEntry_putEntry (k j : κ) (v : α) (entries : List (κ × α)) :
    lookupEntry j (putEntry k v entries) = if j = k then some v else lookupEntry j entries := by
  induction entries with
  | nil => simp [putEntry, lookupEntry, eq_comm]
  | cons entry rest ih =>
    obtain ⟨k', v'⟩ := entry
    by_cases h : k' = k
    · subst h
      by_cases hj : j = k'
      · simp [putEntry, lookupEntry, hj]
      · have hj' : ¬ k' = j := fun he => hj he.symm
        simp [putEntry, lookupEntry, hj, hj']
    · by_cases hj : k' = j
      · subst hj
        simp [putEntry, lookupEntry, h]
      · simp [putEntry, lookupEntry, h, hj, ih]

theorem lookupEntry_eq_none_iff (k : κ) (entries : List (κ × α)) :
    lookupEntry k entries = none ↔ k ∉ entries.map Prod.fst := by
  induction entries with
  | nil => simp [lookupEntry]
  | cons entry rest ih =>
    obtain ⟨k', v'⟩ := entry
    by_cases h : k' = k
    · simp [lookupEntry, h]
    · have h' : ¬ k = k' := fun he => h he.symm
      simp only [lookupEntry, h, if_false, ih, List.map_cons, List.mem_cons, h', false_or]

theorem lookupEntry_eq_some_iff {k : κ} {v : α} {entries : List (κ × α)}
    (hnodup : (entries.map Prod.fst).Nodup) :
    lookupEntry k entries = some v ↔ (k, v) ∈ entries := by
  induction entries with
  | nil => simp [lookupEntry]
  | cons entry rest ih =>
    obtain ⟨k', v'⟩ := entry
    simp only [List.map_cons, List.nodup_cons] at hnodup
    by_cases h : k' = k
    · subst h
      have hout : ∀ w, (k', w) ∉ rest := fun w hw =>
        hnodup.1 (List.mem_map_of_mem (f := Prod.fst) hw)
      simp [lookupEntry, hout, eq_comm]
    · have h' : ¬ k = k' := fun he => h he.symm
      simp [lookupEntry, h, h', ih hnodup.2]

theorem lookupEntry_filter (p : κ → Bool) (k : κ) (entries : List (κ × α)) :
    lookupEntry k (entries.filter fun entry => p entry.1) =
      if p k then lookupEntry k entries else none := by
  induction entries with
  | nil => simp [lookupEntry]
  | cons entry rest ih =>
    obtain ⟨k', v'⟩ := entry
    by_cases h : k' = k
    · subst h
      by_cases hp : p k' = true
      · simp [lookupEntry, hp]
      · simp [hp, ih]
    · by_cases hp : p k' = true
      · simp [lookupEntry, h, hp, ih]
      · simp [lookupEntry, h, hp, ih]

/-! ## Maps -/

/-- The map without entries. -/
def empty : OrderedMap κ α where
  entries := []

instance : Inhabited (OrderedMap κ α) := ⟨empty⟩

/-- The value of a key. -/
def find? (m : OrderedMap κ α) (k : κ) : Option α :=
  lookupEntry k m.entries

/-- The keys in order of first insertion. -/
def keys (m : OrderedMap κ α) : List κ :=
  m.entries.map Prod.fst

/-- The values in the order of their keys. -/
def values (m : OrderedMap κ α) : List α :=
  m.entries.map Prod.snd

/-- The key has a value. -/
def contains (m : OrderedMap κ α) (k : κ) : Bool :=
  (m.find? k).isSome

/-- There is no entry. -/
def isEmpty (m : OrderedMap κ α) : Bool :=
  m.entries.isEmpty

/-- Gives the key the value. -/
def put (m : OrderedMap κ α) (k : κ) (v : α) : OrderedMap κ α where
  entries := putEntry k v m.entries
  nodup_keys := nodup_putEntry k v m.nodup_keys

/-- Keeps the entries whose key passes the test. -/
def filterKeys (m : OrderedMap κ α) (p : κ → Bool) : OrderedMap κ α where
  entries := m.entries.filter fun entry => p entry.1
  nodup_keys := m.nodup_keys.sublist (List.filter_sublist.map Prod.fst)

/-- Takes the key's entry away. -/
def erase (m : OrderedMap κ α) (k : κ) : OrderedMap κ α :=
  m.filterKeys (· ≠ k)

/-- Changes every value. -/
def mapValues (m : OrderedMap κ α) (f : α → β) : OrderedMap κ β where
  entries := m.entries.map fun entry => (entry.1, f entry.2)
  nodup_keys := by
    have : (m.entries.map fun entry => (entry.1, f entry.2)).map Prod.fst =
        m.entries.map Prod.fst := by simp [Function.comp_def]
    exact this ▸ m.nodup_keys

/-- Renames every key, distinct ones to distinct ones, and changes every value. -/
def mapEntries {κ' : Type} [DecidableEq κ'] (m : OrderedMap κ α) (f : κ → κ')
    (injective : ∀ a b, f a = f b → a = b) (g : α → β) : OrderedMap κ' β where
  entries := m.entries.map fun entry => (f entry.1, g entry.2)
  nodup_keys := by
    have h : (m.entries.map fun entry => (f entry.1, g entry.2)).map Prod.fst =
        (m.entries.map Prod.fst).map f := by simp [Function.comp_def]
    rw [h, List.Nodup, List.pairwise_map]
    exact m.nodup_keys.imp fun hne heq => hne (injective _ _ heq)

/-- The map of a list of entries: a key that comes again keeps its first place and has its last
value. -/
def ofList (entries : List (κ × α)) : OrderedMap κ α :=
  entries.foldl (fun m entry => m.put entry.1 entry.2) empty

/-- Adds the entries of a second map, whose values win. -/
def merge (m other : OrderedMap κ α) : OrderedMap κ α :=
  other.entries.foldl (fun m entry => m.put entry.1 entry.2) m

/-- The entries in ascending order of the texts of their keys. -/
def sortedBy (text : κ → String) (m : OrderedMap κ α) : List (κ × α) :=
  m.entries.mergeSort fun a b => text a.1 ≤ text b.1

@[simp] theorem find?_empty (k : κ) : (empty : OrderedMap κ α).find? k = none := rfl

theorem find?_put (m : OrderedMap κ α) (k j : κ) (v : α) :
    (m.put k v).find? j = if j = k then some v else m.find? j :=
  lookupEntry_putEntry k j v m.entries

theorem keys_put (m : OrderedMap κ α) (k : κ) (v : α) :
    (m.put k v).keys = if k ∈ m.keys then m.keys else m.keys ++ [k] :=
  keys_putEntry k v m.entries

theorem find?_filterKeys (m : OrderedMap κ α) (p : κ → Bool) (k : κ) :
    (m.filterKeys p).find? k = if p k then m.find? k else none :=
  lookupEntry_filter p k m.entries

theorem find?_erase (m : OrderedMap κ α) (k j : κ) :
    (m.erase k).find? j = if j = k then none else m.find? j := by
  rw [erase, find?_filterKeys]
  by_cases h : j = k <;> simp [h]

theorem find?_eq_none_iff (m : OrderedMap κ α) (k : κ) : m.find? k = none ↔ k ∉ m.keys :=
  lookupEntry_eq_none_iff k m.entries

theorem find?_eq_some_iff (m : OrderedMap κ α) (k : κ) (v : α) :
    m.find? k = some v ↔ (k, v) ∈ m.entries :=
  lookupEntry_eq_some_iff m.nodup_keys

theorem contains_iff (m : OrderedMap κ α) (k : κ) : m.contains k = true ↔ k ∈ m.keys := by
  rw [contains, Option.isSome_iff_ne_none, ne_eq, find?_eq_none_iff, Decidable.not_not]

end OrderedMap

end Rollout

import Rollout.OrderedMap

/-!
# Ordered maps, entry by entry

What becomes of the value of a key when the entries are changed one by one, the entries of a map in
ascending order, and maps whose values are changed (`mapValues`).
-/

namespace Rollout.OrderedMap

variable {κ α β : Type}

/-! ## Ascending keys -/

theorem nodup_sortedBy (text : κ → String) (m : OrderedMap κ α) :
    ((m.sortedBy text).map Prod.fst).Nodup :=
  ((List.mergeSort_perm m.entries _).map Prod.fst).nodup_iff.mpr m.nodup_keys

theorem ascending_sortedBy (text : κ → String) (m : OrderedMap κ α) :
    ((m.sortedBy text).map Prod.fst).Pairwise fun a b => text a ≤ text b := by
  rw [List.pairwise_map]
  have sorted : (m.sortedBy text).Pairwise fun a b => decide (text a.1 ≤ text b.1) = true :=
    List.pairwise_mergeSort (fun a b c => by simpa using String.le_trans)
      (fun a b => by simpa using String.le_total _ _) m.entries
  exact sorted.imp fun le => of_decide_eq_true le

/-- Keys with different texts stand in strictly ascending order. -/
theorem strictly_ascending_sortedBy {text : κ → String}
    (injective : ∀ a b, text a = text b → a = b) (m : OrderedMap κ α) :
    ((m.sortedBy text).map fun entry => text entry.1).Pairwise (· < ·) := by
  have ascending := ascending_sortedBy text m
  have distinct := nodup_sortedBy text m
  rw [List.Nodup, List.pairwise_map] at distinct
  rw [List.pairwise_map] at ascending ⊢
  refine (ascending.and distinct).imp ?_
  rintro a b ⟨le, differ⟩
  apply Decidable.byContradiction
  intro not_lt
  exact differ (injective _ _ (String.le_antisymm le (String.not_lt.mp not_lt)))

variable [DecidableEq κ] in
theorem mem_sortedBy {text : κ → String} {m : OrderedMap κ α} {entry : κ × α} :
    entry ∈ m.sortedBy text ↔ m.find? entry.1 = some entry.2 := by
  rw [find?_eq_some_iff]
  exact (List.mergeSort_perm m.entries _).mem_iff

/-- Strictly ascending keys are distinct. -/
theorem nodup_of_ascending (text : κ → String) {entries : List (κ × α)}
    (ascending : (entries.map fun entry => text entry.1).Pairwise (· < ·)) :
    (entries.map Prod.fst).Nodup := by
  rw [List.pairwise_map] at ascending
  rw [List.Nodup, List.pairwise_map]
  refine ascending.imp fun below same => ?_
  rw [same] at below
  exact String.lt_irrefl _ below

/-- Lists of entries with strictly ascending keys are the same when they have the same members. -/
theorem eq_of_ascending {text : κ → String} {entries others : List (κ × α)}
    (left : (entries.map fun entry => text entry.1).Pairwise (· < ·))
    (right : (others.map fun entry => text entry.1).Pairwise (· < ·))
    (same : ∀ entry, entry ∈ entries ↔ entry ∈ others) : entries = others := by
  have distinct : ∀ {list : List (κ × α)},
      (list.map fun entry => text entry.1).Pairwise (· < ·) → list.Nodup :=
    fun ascending => List.Pairwise.of_map Prod.fst
      (fun _ _ differ same => differ (congrArg Prod.fst same)) (nodup_of_ascending text ascending)
  have perm := (List.perm_ext_iff_of_nodup (distinct left) (distinct right)).mpr same
  rw [List.pairwise_map] at left right
  exact perm.eq_of_pairwise (fun a b _ _ below above => absurd above (String.lt_asymm below))
    left right

variable [DecidableEq κ] in
/-- Maps with the same values have the same entries in ascending order. -/
theorem sortedBy_congr {text : κ → String} (injective : ∀ a b, text a = text b → a = b)
    {m other : OrderedMap κ α} (same : ∀ k, m.find? k = other.find? k) :
    m.sortedBy text = other.sortedBy text := by
  refine eq_of_ascending (strictly_ascending_sortedBy injective m)
    (strictly_ascending_sortedBy injective other) fun entry => ?_
  rw [mem_sortedBy, mem_sortedBy, same]

variable [DecidableEq κ] in
/-- Where a second map has the values of the first one that pass a test, it has these entries. -/
theorem sortedBy_filter {text : κ → String} (injective : ∀ a b, text a = text b → a = b)
    {m other : OrderedMap κ α} {test : α → Bool}
    (same : ∀ k, other.find? k = (m.find? k).filter test) :
    other.sortedBy text = (m.sortedBy text).filter fun entry => test entry.2 := by
  refine eq_of_ascending (strictly_ascending_sortedBy injective other)
    ((strictly_ascending_sortedBy injective m).sublist (List.filter_sublist.map _)) fun entry => ?_
  rw [mem_sortedBy, same, Option.filter_eq_some_iff, List.mem_filter, mem_sortedBy]

variable [DecidableEq κ] in
/-- Maps in which the same is made of every key's value have entries of which the same is made. -/
theorem map_sortedBy_congr {text : κ → String} (injective : ∀ a b, text a = text b → a = b)
    (f : κ → α → β) {m other : OrderedMap κ α}
    (same : ∀ k, (m.find? k).map (f k) = (other.find? k).map (f k)) :
    (m.sortedBy text).map (fun entry => (entry.1, f entry.1 entry.2)) =
      (other.sortedBy text).map fun entry => (entry.1, f entry.1 entry.2) := by
  have ascending : ∀ m : OrderedMap κ α, (((m.sortedBy text).map fun entry =>
      (entry.1, f entry.1 entry.2)).map fun entry => text entry.1).Pairwise (· < ·) := by
    intro m
    rw [List.map_map]
    exact strictly_ascending_sortedBy injective m
  have made : ∀ (m : OrderedMap κ α) (entry : κ × β), entry ∈ (m.sortedBy text).map (fun entry =>
      (entry.1, f entry.1 entry.2)) ↔ (m.find? entry.1).map (f entry.1) = some entry.2 := by
    rintro m ⟨k, b⟩
    simp only [List.mem_map, mem_sortedBy, Prod.exists, Prod.mk.injEq, Option.map_eq_some_iff]
    constructor
    · rintro ⟨_, a, found, rfl, rfl⟩
      exact ⟨a, found, rfl⟩
    · rintro ⟨a, found, rfl⟩
      exact ⟨k, a, found, rfl, rfl⟩
  refine eq_of_ascending (ascending m) (ascending other) fun entry => ?_
  rw [made, made, same]

variable [DecidableEq κ] in
theorem isEmpty_iff {m : OrderedMap κ α} : m.isEmpty = true ↔ ∀ k, m.find? k = none := by
  rw [isEmpty, List.isEmpty_iff]
  constructor
  · intro nothing k
    rw [find?, nothing]
    rfl
  · intro unknown
    refine List.eq_nil_iff_forall_not_mem.mpr fun entry member => ?_
    have found := (m.find?_eq_some_iff entry.1 entry.2).mpr member
    exact nomatch (unknown entry.1).symm.trans found

/-! ## Entry lists -/

/-- What is made of entries has their keys. -/
theorem mem_filterMap_entry {f : κ → α → Option β} {entries : List (κ × α)} {k : κ} {b : β} :
    (k, b) ∈ (entries.filterMap fun entry =>
        (f entry.1 entry.2).map fun b => (entry.1, b)) ↔
      ∃ a, (k, a) ∈ entries ∧ f k a = some b := by
  rw [List.mem_filterMap]
  constructor
  · rintro ⟨⟨k', a⟩, among, made⟩
    obtain ⟨b', taken, same⟩ := Option.map_eq_some_iff.mp made
    cases same
    exact ⟨a, among, taken⟩
  · rintro ⟨a, among, taken⟩
    exact ⟨(k, a), among, Option.map_eq_some_iff.mpr ⟨b, taken, rfl⟩⟩

/-- Entries that are made of others keep their order. -/
theorem keys_filterMap (f : κ → α → Option β) (entries : List (κ × α)) :
    ((entries.filterMap fun entry => (f entry.1 entry.2).map fun b => (entry.1, b)).map
      Prod.fst).Sublist (entries.map Prod.fst) := by
  induction entries with
  | nil => exact .slnil
  | cons entry rest ih =>
    rw [List.filterMap_cons]
    cases f entry.1 entry.2 with
    | none => exact ih.cons _
    | some b => exact ih.cons_cons _

variable [DecidableEq κ]

theorem mem_of_lookupEntry {k : κ} {a : α} {entries : List (κ × α)}
    (found : lookupEntry k entries = some a) : (k, a) ∈ entries := by
  induction entries with
  | nil => cases found
  | cons entry rest ih =>
    obtain ⟨k', a'⟩ := entry
    rw [lookupEntry] at found
    split at found
    · rename_i same
      cases found
      rw [same]
      exact List.mem_cons_self
    · exact List.mem_cons_of_mem _ (ih found)

theorem lookupEntry_append (k : κ) (entries others : List (κ × α)) :
    lookupEntry k (entries ++ others) = (lookupEntry k entries).or (lookupEntry k others) := by
  induction entries with
  | nil => rfl
  | cons entry rest ih =>
    rw [List.cons_append, lookupEntry, lookupEntry]
    split
    · rfl
    · exact ih

/-- Where no two entries have one key, it does not matter from which end they are searched. -/
theorem lookupEntry_reverse (k : κ) {entries : List (κ × α)}
    (nodup : (entries.map Prod.fst).Nodup) :
    lookupEntry k entries.reverse = lookupEntry k entries := by
  have turned : (entries.reverse.map Prod.fst).Nodup :=
    ((List.reverse_perm entries).map Prod.fst).nodup_iff.mpr nodup
  apply Option.ext
  intro a
  rw [lookupEntry_eq_some_iff turned, lookupEntry_eq_some_iff nodup, List.mem_reverse]

/-- Of the entries that are put into a map, the last one with the key counts. -/
theorem find?_foldl_put (k : κ) (entries : List (κ × α)) (m : OrderedMap κ α) :
    (entries.foldl (fun m entry => m.put entry.1 entry.2) m).find? k =
      (lookupEntry k entries.reverse).or (m.find? k) := by
  induction entries generalizing m with
  | nil => rfl
  | cons entry rest ih =>
    obtain ⟨k', a⟩ := entry
    rw [List.foldl_cons, ih, find?_put, List.reverse_cons, lookupEntry_append, Option.or_assoc,
      lookupEntry, lookupEntry]
    by_cases same : k' = k
    · rw [if_pos same, if_pos same.symm, Option.some_or]
    · rw [if_neg same, if_neg (Ne.symm same), Option.none_or]

/-- The value of a key among entries whose values are made of others. -/
theorem lookupEntry_map (k : κ) (f : κ → α → β) (entries : List (κ × α)) :
    lookupEntry k (entries.map fun entry => (entry.1, f entry.1 entry.2)) =
      (lookupEntry k entries).map (f k) := by
  induction entries with
  | nil => rfl
  | cons entry rest ih =>
    obtain ⟨k', a⟩ := entry
    by_cases same : k' = k
    · simp [lookupEntry, same]
    · simp [lookupEntry, same, ih]

/-- The value of a key among entries some of which are left out; no two have one key. -/
theorem lookupEntry_filterMap (k : κ) (f : κ → α → Option β) {entries : List (κ × α)}
    (nodup : (entries.map Prod.fst).Nodup) :
    lookupEntry k (entries.filterMap fun entry =>
        (f entry.1 entry.2).map fun b => (entry.1, b)) =
      (lookupEntry k entries).bind (f k) := by
  induction entries with
  | nil => rfl
  | cons entry rest ih =>
    obtain ⟨k', a⟩ := entry
    rw [List.map_cons, List.nodup_cons] at nodup
    have tail := ih nodup.2
    by_cases same : k' = k
    · obtain rfl := same
      cases made : f k' a with
      | some b => simp [lookupEntry, made]
      | none =>
        -- no later entry has the key
        have absent : lookupEntry k' rest = none := (lookupEntry_eq_none_iff k' rest).mpr nodup.1
        rw [absent] at tail
        simp [lookupEntry, made, tail]
    · cases made : f k' a <;> simp [lookupEntry, same, made, tail]

theorem putEntry_of_not_mem {k : κ} (a : α) {entries : List (κ × α)}
    (new : k ∉ entries.map Prod.fst) : putEntry k a entries = entries ++ [(k, a)] := by
  induction entries with
  | nil => rfl
  | cons entry rest ih =>
    obtain ⟨differs, later⟩ := not_or.mp (mt List.mem_cons.mpr new)
    rw [putEntry, if_neg (Ne.symm differs), ih later, List.cons_append]

/-- Entries with new and distinct keys are put at the end. -/
theorem entries_foldl_put {entries : List (κ × α)} (nodup : (entries.map Prod.fst).Nodup)
    {m : OrderedMap κ α} (new : ∀ entry ∈ entries, entry.1 ∉ m.keys) :
    (entries.foldl (fun m entry => m.put entry.1 entry.2) m).entries = m.entries ++ entries := by
  induction entries generalizing m with
  | nil => exact (List.append_nil _).symm
  | cons entry rest ih =>
    rw [List.map_cons, List.nodup_cons] at nodup
    have first := new entry List.mem_cons_self
    have placed : (m.put entry.1 entry.2).entries = m.entries ++ [entry] :=
      putEntry_of_not_mem entry.2 first
    rw [List.foldl_cons, ih nodup.2, placed, List.append_assoc, List.singleton_append]
    intro other member held
    rw [keys_put, if_neg first, List.mem_append, List.mem_singleton] at held
    rcases held with old | same
    · exact new other (List.mem_cons_of_mem _ member) old
    · exact nodup.1 (same ▸ List.mem_map_of_mem (f := Prod.fst) member)

/-- The map of entries with distinct keys has these entries. -/
theorem entries_ofList {entries : List (κ × α)} (nodup : (entries.map Prod.fst).Nodup) :
    (ofList entries).entries = entries :=
  entries_foldl_put nodup fun _ _ => List.not_mem_nil

/-! ## Changed values -/

omit [DecidableEq κ] in
/-- Maps with the same entries are equal. -/
theorem eq_of_entries {m other : OrderedMap κ α} (same : m.entries = other.entries) :
    m = other := by
  cases m
  cases other
  cases same
  rfl

theorem putEntry_of_lookupEntry {k : κ} {a : α} {entries : List (κ × α)}
    (found : lookupEntry k entries = some a) : putEntry k a entries = entries := by
  induction entries with
  | nil => cases found
  | cons entry rest ih =>
    obtain ⟨k', a'⟩ := entry
    rw [lookupEntry] at found
    rw [putEntry]
    split at found
    · rename_i same
      cases found
      rw [if_pos same, same]
    · rename_i differs
      rw [if_neg differs, ih found]

/-- Giving a key the value that it has changes nothing. -/
theorem put_of_find? {m : OrderedMap κ α} {k : κ} {a : α} (found : m.find? k = some a) :
    m.put k a = m :=
  eq_of_entries (putEntry_of_lookupEntry found)

theorem putEntry_putEntry (k : κ) (a b : α) (entries : List (κ × α)) :
    putEntry k b (putEntry k a entries) = putEntry k b entries := by
  induction entries with
  | nil => simp [putEntry]
  | cons entry rest ih =>
    obtain ⟨k', a'⟩ := entry
    by_cases same : k' = k
    · simp [putEntry, same]
    · simp [putEntry, same, ih]

/-- Of two values that a key is given the last one counts. -/
theorem put_put (m : OrderedMap κ α) (k : κ) (a b : α) : (m.put k a).put k b = m.put k b :=
  eq_of_entries (putEntry_putEntry k a b m.entries)

theorem find?_mapValues (m : OrderedMap κ α) (f : α → β) (k : κ) :
    (m.mapValues f).find? k = (m.find? k).map f :=
  lookupEntry_map k (fun _ => f) m.entries

theorem contains_mapValues (m : OrderedMap κ α) (f : α → β) (k : κ) :
    (m.mapValues f).contains k = m.contains k := by
  rw [contains, contains, find?_mapValues, Option.isSome_map]

theorem putEntry_map (k : κ) (a : α) (f : α → β) (entries : List (κ × α)) :
    putEntry k (f a) (entries.map fun entry => (entry.1, f entry.2)) =
      (putEntry k a entries).map fun entry => (entry.1, f entry.2) := by
  induction entries with
  | nil => rfl
  | cons entry rest ih =>
    obtain ⟨k', a'⟩ := entry
    by_cases same : k' = k
    · simp [putEntry, same]
    · simp [putEntry, same, ih]

theorem mapValues_put (m : OrderedMap κ α) (f : α → β) (k : κ) (a : α) :
    (m.put k a).mapValues f = (m.mapValues f).put k (f a) :=
  eq_of_entries (putEntry_map k a f m.entries).symm

omit [DecidableEq κ] in
theorem sortedBy_mapValues (text : κ → String) (m : OrderedMap κ α) (f : α → β) :
    (m.mapValues f).sortedBy text =
      (m.sortedBy text).map fun entry => (entry.1, f entry.2) := by
  refine (List.map_mergeSort ?_).symm
  intro _ _ _ _
  rfl

end Rollout.OrderedMap

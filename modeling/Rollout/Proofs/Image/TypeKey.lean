import Rollout.Image.TypeKey
import Rollout.Proofs.Fallible

/-!
# Normalized names

Sets of names in normal form: these are the texts of keys, and normalizing them again changes
nothing.
-/

namespace Rollout

/-- Every name of the set is in normal form. -/
def NameSet.IsNormalized (names : NameSet) : Prop :=
  ∀ name ∈ names, normalizeName name = name

theorem NameSet.isNormalized_normalized (names : List String) :
    (NameSet.normalized names).IsNormalized := by
  intro name member
  obtain ⟨given, -, rfl⟩ := NameSet.mem_normalized.mp member
  exact normalizeName_normalizeName given

theorem NameSet.IsNormalized.text_ofName {names : NameSet} (normalized : names.IsNormalized)
    {name : String} (member : name ∈ names) : (TypeKey.ofName name).text = name :=
  normalized name member

/-- Normalizing the names of the set again changes nothing. -/
theorem NameSet.IsNormalized.normalized_eq {names : NameSet} (normalized : names.IsNormalized) :
    NameSet.normalized names.toList = names := by
  apply NameSet.ext
  intro name
  rw [NameSet.mem_normalized]
  constructor
  · rintro ⟨given, member, rfl⟩
    rw [normalized given member]
    exact member
  · intro member
    exact ⟨name, member, normalized name member⟩

theorem NameSet.isNormalized_keys (keys : List TypeKey) :
    (NameSet.ofList (keys.map TypeKey.text)).IsNormalized := by
  intro name member
  obtain ⟨key, -, rfl⟩ := List.mem_map.mp (NameSet.mem_ofList.mp member)
  exact key.normalized

/-- Where every item is taken for a text, every item is one. -/
theorem Datum.texts_of_mapM_toText {operation : String} {items : List Datum}
    {texts : List String} (read : items.mapM (Datum.toText operation) = .ok texts) :
    items = texts.map .text := by
  induction items generalizing texts with
  | nil =>
    cases read
    rfl
  | cons item rest ih =>
    rw [List.mapM_cons] at read
    obtain ⟨first, head, next⟩ := Fallible.bind_eq_ok_iff.mp read
    obtain ⟨others, tail, same⟩ := Fallible.bind_eq_ok_iff.mp next
    cases same
    rw [List.map_cons, ← ih tail]
    cases item with
    | text name =>
      cases head
      rfl
    | _ => cases head

/-- Names that have normal forms are texts. -/
theorem NameSet.texts_of_ofDatum {names : Datum} {wanted : NameSet}
    (listed : NameSet.ofDatum names = .ok wanted) :
    ∃ texts : List String, names.items = .ok (texts.map .text) ∧
      wanted = NameSet.normalized texts := by
  obtain ⟨items, given, read⟩ := Fallible.bind_eq_ok_iff.mp listed
  obtain ⟨texts, mapped, same⟩ := Fallible.bind_eq_ok_iff.mp read
  cases same
  exact ⟨texts, Datum.texts_of_mapM_toText mapped ▸ given, rfl⟩

theorem NameSet.isNormalized_of_ofDatum {names : Datum} {wanted : NameSet}
    (listed : NameSet.ofDatum names = .ok wanted) : wanted.IsNormalized := by
  obtain ⟨texts, -, rfl⟩ := NameSet.texts_of_ofDatum listed
  exact NameSet.isNormalized_normalized texts

/-- Names that are texts are wanted in their normal forms. -/
theorem NameSet.ofDatum_texts {names : Datum} {texts : List String}
    (listed : names.items = .ok (texts.map .text)) :
    NameSet.ofDatum names = .ok (NameSet.normalized texts) := by
  rw [NameSet.ofDatum, listed]
  exact NameSet.ofData_texts texts

/-- A key is known by its text. -/
theorem TypeKey.text_mem_map_iff {keys : List TypeKey} {key : TypeKey} :
    key.text ∈ keys.map TypeKey.text ↔ key ∈ keys := by
  constructor
  · intro listed
    obtain ⟨other, member, same⟩ := List.mem_map.mp listed
    exact TypeKey.ext same ▸ member
  · exact List.mem_map_of_mem

/-- In an ascending list, what is not before a key does not lie below it. -/
theorem TypeKey.le_of_split {keys before after : List TypeKey} {key other : TypeKey}
    (ascending : keys.Pairwise fun a b => a.text ≤ b.text)
    (split : keys = before ++ key :: after) (member : other ∈ keys) (late : other ∉ before) :
    key.text ≤ other.text := by
  rw [split] at ascending member
  rcases List.mem_append.mp member with early | later
  · exact absurd early late
  · rcases List.mem_cons.mp later with rfl | later
    · exact String.le_refl _
    · exact (List.pairwise_cons.mp (List.pairwise_append.mp ascending).2.1).1 other later

end Rollout

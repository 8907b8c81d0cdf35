import Rollout.Datum.Access
import Rollout.NameSet
import Rollout.Text.LetterCase

/-!
# Keys of image types

Image types are known by name, in any letter case and with any blanks around it. The **key** of
a name is the name without those blanks and in small letters. Every map and every set of the
library that speaks of image types goes by keys, so two spellings of one name never lie side by
side. A key is its own key (`ofName_text`).
-/

namespace Rollout

/-- A name without surrounding blanks and in small letters. -/
def normalizeName (name : String) : String :=
  String.ofList (Text.lower (Text.trim name.toList))

/-- Normalizing a normalized name changes nothing. -/
theorem normalizeName_normalizeName (name : String) :
    normalizeName (normalizeName name) = normalizeName name := by
  have htrim := Text.trim_of_trimmed (Text.trimmed_lower (Text.trimmed_trim name.toList))
  simp [normalizeName, htrim, Text.lower_lower]

/-- The key of an image type. -/
structure TypeKey where
  text : String
  normalized : normalizeName text = text
  deriving DecidableEq, Repr

namespace TypeKey

/-- The key of the image type with the given name. -/
def ofName (name : String) : TypeKey where
  text := normalizeName name
  normalized := normalizeName_normalizeName name

/-- The key of the image type with the given name, which must be a text. -/
def ofDatum (name : Datum) : Except Fault TypeKey :=
  (name.toText "strip").map ofName

@[simp] theorem ofDatum_text (name : String) : ofDatum (.text name) = .ok (ofName name) := rfl

@[simp] theorem text_ofName (name : String) : (ofName name).text = normalizeName name := rfl

/-- Keys with the same text are equal. -/
theorem ext {a b : TypeKey} (h : a.text = b.text) : a = b := by
  cases a
  cases b
  simp_all

/-- A key, taken as a name, is its own key. -/
@[simp] theorem ofName_text (k : TypeKey) : ofName k.text = k :=
  ext k.normalized

end TypeKey

/-- The normalized forms of names. -/
def NameSet.normalized (names : List String) : NameSet :=
  NameSet.ofList (names.map normalizeName)

@[simp] theorem NameSet.mem_normalized {names : List String} {x : String} :
    x ∈ NameSet.normalized names ↔ ∃ name ∈ names, normalizeName name = x := by
  simp [NameSet.normalized]

/-- The normalized forms of names, which must be texts. -/
def NameSet.ofData (names : List Datum) : Except Fault NameSet := do
  return NameSet.normalized (← names.mapM (Datum.toText "strip"))

/-- The normalized forms of the names in a value that has items. -/
def NameSet.ofDatum (value : Datum) : Except Fault NameSet := do
  NameSet.ofData (← value.items)

/-- Names that are texts have normalized forms. -/
theorem NameSet.ofData_texts (names : List String) :
    NameSet.ofData (names.map .text) = .ok (NameSet.normalized names) := by
  have h : (names.map Datum.text).mapM (Datum.toText "strip") = .ok names := by
    rw [List.mapM_map]
    exact List.mapM_pure (f := id) |>.trans (by simp; rfl)
  simp only [NameSet.ofData, h]
  rfl

end Rollout

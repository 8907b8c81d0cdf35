import Rollout.Image.State
import Rollout.Image.TypeKey

/-!
# Image types and versions

An **image type** is a name with an optional description. An **image version** belongs to a
type, under whatever spelling it was added with, and carries the registry path that it is pulled
from and its lifecycle state.

All fields but the state are kept as they were given. A **version label** is compared without
regard to letter case, but blanks count. A name or a label that is no text can be kept and shown,
and a fault arises when its key is asked for or when it is compared.
-/

namespace Rollout

/-- A registered image type. -/
structure ImageType where
  name : Datum
  description : Datum := .null
  deriving DecidableEq, Repr

/-- The key of an image type. -/
def ImageType.key (t : ImageType) : Except Fault TypeKey :=
  TypeKey.ofDatum t.name

/-- A version label in small letters. -/
def foldLabel (label : Datum) : Except Fault String :=
  (label.toText "lower").map fun text => String.ofList (Text.lower text.toList)

@[simp] theorem foldLabel_text (label : String) :
    foldLabel (.text label) = .ok (String.ofList (Text.lower label.toList)) := rfl

/-- The two labels are the same but for letter case; the first one is read first. -/
def sameLabel (a b : Datum) : Except Fault Bool := do
  let a ← foldLabel a
  let b ← foldLabel b
  return a == b

/-- What a caller needs of a version to run it. -/
structure VersionInfo where
  version : Datum
  path : Datum
  state : State
  deriving DecidableEq, Repr

/-- A version of an image type. -/
structure ImageVersion where
  imageType : Datum
  version : Datum
  path : Datum
  state : State := .new
  releaseTag : Datum := .null
  deriving DecidableEq, Repr

namespace ImageVersion

/-- The key of the type that the version belongs to. -/
def key (v : ImageVersion) : Except Fault TypeKey :=
  TypeKey.ofDatum v.imageType

/-- The version has the label. -/
def hasLabel (v : ImageVersion) (label : Datum) : Except Fault Bool :=
  sameLabel v.version label

/-- The version is the one with this type and this label, which is compared only when the type
is the same. The version's own type is read first. -/
def isNamed (v : ImageVersion) (name label : Datum) : Except Fault Bool := do
  let own ← v.key
  if own = (← TypeKey.ofDatum name) then v.hasLabel label else return false

/-- What a caller needs of the version. -/
def info (v : ImageVersion) : VersionInfo where
  version := v.version
  path := v.path
  state := v.state

end ImageVersion

end Rollout

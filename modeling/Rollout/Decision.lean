import Rollout.Image.Version
import Rollout.Plan

/-!
# Decisions

A **decision** is the version chosen for an image type, together with the **selection** that
says why and the rampup plan that was walked. The decision for a type without any version
carries none.
-/

namespace Rollout

/-- Why a version was chosen. -/
inductive Selection where
  /-- The flow's bucket belongs to it. -/
  | rampup
  /-- It is the latest ACTIVE version. -/
  | active
  /-- It is the latest version, and there is no ACTIVE one. -/
  | nonActive
  /-- There is no version. -/
  | noVersion
  deriving DecidableEq, Repr

namespace Selection

/-- Every selection. -/
def all : List Selection := [rampup, active, nonActive, noVersion]

/-- The label of a selection. -/
def label : Selection → String
  | rampup => "rampup"
  | active => "active-fallback"
  | nonActive => "non-active-fallback"
  | noVersion => "no-version"

/-- The selection in words. -/
def message : Selection → String
  | rampup => "The version selection is based on deterministic rampup."
  | active => "The version selection is based on latest available ACTIVE version."
  | nonActive =>
    "Non ACTIVE (i.e. NEW/UNSTABLE/DEPRECATED) latest version is selected " ++
      "as there is no active rampup and ACTIVE version."
  | noVersion => "This image type does not have a version yet."

/-- Reads a label. -/
def parse (label : Datum) : Except Fault Selection :=
  match all.find? fun selection => .text selection.label = label with
  | some selection => .ok selection
  | none => .error (.unknownSelection label)

end Selection

/-- The version chosen for an image type, and why. -/
structure Decision where
  version : Option ImageVersion
  selection : Selection
  plan : Plan := []
  deriving DecidableEq, Repr

namespace Decision

/-- The decision for a type without any version. -/
def noVersion : Decision where
  version := none
  selection := .noVersion

/-- What a caller needs of the chosen version. -/
def info (decision : Decision) : Except Fault VersionInfo :=
  match decision.version with
  | some version => .ok version.info
  | none => .error .noVersion

/-- The decision as it is shown: the fields of the version, the selection and the plan. -/
def toDatum (decision : Decision) : Datum :=
  let field (f : ImageVersion → Datum) : Datum := (decision.version.map f).getD .null
  .record
    [("version", field fun v => v.version),
     ("path", field fun v => v.path),
     ("state", field fun v => .text v.state.name),
     ("release_tag", field fun v => v.releaseTag),
     ("selection", .text decision.selection.label),
     ("message", .text decision.selection.message),
     ("rampup", .list (decision.plan.map fun entry =>
       .record [("version", entry.version), ("percentage", entry.percentage)]))]

end Decision

end Rollout

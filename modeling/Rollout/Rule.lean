import Rollout.Fallible
import Rollout.Glob
import Rollout.Image.Version

/-!
# Ramp rules

A **ramp rule** keeps the flows whose name matches its glob away from one version of one image
type while that version is being rolled out. A flow is **excluded** from a version when some
rule that applies to the version matches the flow's name. The fields of a rule are kept as they
were given; one that is no text is a fault when it is used as one.
-/

namespace Rollout

/-- Keeps flows away from a version. -/
structure RampRule where
  name : Datum
  flowPattern : Datum
  imageType : Datum
  version : Datum
  deriving DecidableEq, Repr

namespace RampRule

/-- The rule is about this version of this type; the version is compared only when the type is
the same. -/
def appliesTo (rule : RampRule) (key : TypeKey) (label : Datum) : Except Fault Bool := do
  if (← TypeKey.ofDatum rule.imageType) = key then sameLabel rule.version label
  else return false

/-- The pattern of the rule matches the name of a flow. -/
def matchesFlow (rule : RampRule) (flowName : Datum) : Except Fault Bool :=
  match rule.flowPattern, flowName with
  | .text pattern, .text name => .ok (Glob.accepts pattern name)
  | .text _, name => .error (.noSubject name.kind)
  | pattern, _ =>
    .error (if pattern.isName then .noPattern pattern.kind else .noName pattern.kind)

/-- Some rule of the list keeps the flow away from the version. -/
def excludes (rules : List RampRule) (flowName : Datum) (key : TypeKey) (label : Datum) :
    Except Fault Bool :=
  Fallible.any
    (fun rule => do if ← rule.appliesTo key label then rule.matchesFlow flowName else return false)
    rules

end RampRule

end Rollout

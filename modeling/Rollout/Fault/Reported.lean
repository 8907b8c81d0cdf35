import Rollout.Datum.Access
import Rollout.Datum.Order

/-!
# Reported faults

A fault that arose elsewhere is **reported** by its kind and its arguments. A resolution fault takes
the arguments that its message speaks of, no fewer and no more. An outage and a refused value take
any arguments and show them.
-/

namespace Rollout.Fault

/-- The words of any arguments: one stands by itself, several stand in parentheses. -/
def wordsOf : List Datum → String
  | [] => ""
  | [value] => value.display
  | values => "(" ++ ", ".intercalate (values.map Datum.quoted) ++ ")"

/-- Checks the number of arguments for a thing with needed arguments of these names and a number
of further ones. -/
def checkArguments (kind : String) (names : List String) (further : Nat)
    (arguments : List Datum) : Except Fault Unit :=
  let least := names.length
  if arguments.length < least then
    .error (.arguments kind (.missing (names.drop arguments.length)))
  else if least + further < arguments.length then
    .error (.arguments kind (.surplus (least + 1) (least + further + 1) (arguments.length + 1)))
  else .ok ()

/-- The texts of a list that is to be joined; the first value that is no text is a fault. -/
def textsFrom (place : Nat) : List Datum → Except Fault (List String)
  | [] => .ok []
  | .text s :: rest => do return s :: (← textsFrom (place + 1) rest)
  | value :: _ => .error (.unjoined place value.kind)

/-- The names in a value that has items, in ascending order. -/
def sortedNames (value : Datum) : Except Fault (List String) := do
  textsFrom 0 (← Datum.ascending (← value.items))

/-- The names of the needed arguments of a kind, and the number of further ones; nothing when it
takes any arguments. -/
def parametersOf : String → Option (List String × Nat)
  | "VersionNotFound" => some (["image_type", "version"], 1)
  | "UnresolvedImageTypes" => some (["image_types"], 0)
  | "RampRuleFallbackFailed" => some (["image_type", "version"], 0)
  | "InvalidRampupPlan" => some (["image_type", "reason"], 0)
  | "InvalidBucket" => some (["bucket"], 0)
  | "ImageMgmtError" => some (["message"], 0)
  | _ => none

/-- The fault of a kind with these arguments. -/
def reported (kind : String) (arguments : List Datum) : Except Fault Fault := do
  if let some (names, further) := parametersOf kind then
    checkArguments kind names further arguments
  let argument (place : Nat) : Datum := arguments.getD place .null
  match kind with
  | "VersionNotFound" =>
    let detail := if (argument 2).isTruthy then (argument 2).display else ""
    return .versionNotFound (argument 0) (argument 1) detail
  | "UnresolvedImageTypes" => return .unresolvedTypes (← sortedNames (argument 0))
  | "RampRuleFallbackFailed" => return .ruleFallbackFailed (argument 0) (argument 1)
  | "InvalidRampupPlan" => return .invalidPlan (argument 0) (.stated (argument 1).display)
  | "InvalidBucket" => return .invalidBucket (argument 0)
  | "ImageMgmtError" => return .resolution (argument 0).display
  | "RuntimeError" => return .outage (wordsOf arguments)
  | "ValueError" => return .refused (wordsOf arguments)
  | _ => throw (.missing (.text kind))

end Rollout.Fault

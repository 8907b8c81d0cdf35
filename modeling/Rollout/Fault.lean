import Rollout.Datum.Sameness
import Rollout.Text.Utf8

/-!
# Faults

A **fault** is the cause for which a call gives no value. The first group are the resolution
faults: they say why image types have no version. The others say what was wrong with a value
from outside, or that something outside failed. Each fault has a **kind**, under which it is
recorded, and a **message**.
-/

namespace Rollout

/-- Why a rampup plan cannot be walked. -/
inductive PlanFlaw where
  /-- An entry's percentage lies outside 1 to 100. -/
  | percentage (version value : Datum)
  /-- The percentages do not ascend, and the policy asks for that. -/
  | notAscending
  /-- A reason in words. -/
  | stated (reason : String)
  deriving DecidableEq, Repr

/-- Why the settings file gives no values. -/
inductive ReferenceFlaw where
  /-- A percent sign starts neither an escape nor a reference. -/
  | strayPercent (rest : String)
  /-- A reference has no end. -/
  | openReference (rest : String)
  /-- A reference names no option. -/
  | unknownOption (option sectionName name raw : String)
  /-- References lead on to further references too often. -/
  | tooDeep (option sectionName raw : String)
  deriving DecidableEq, Repr

/-- Why the host of a target is refused. -/
inductive HostFlaw where
  /-- Its brackets do not enclose an address. -/
  | brackets
  /-- The address in its brackets is of a later version and malformed. -/
  | laterVersion
  /-- The address in its brackets is none. -/
  | noAddress (text : String)
  /-- The address in its brackets needs none. -/
  | needlessBrackets
  deriving DecidableEq, Repr

/-- Why arguments do not fit what they were given for. -/
inductive ArgumentFlaw where
  /-- Arguments of these names are missing. -/
  | missing (names : List String)
  /-- More arguments than the greatest number came; the receiver itself is counted. -/
  | surplus (least greatest count : Nat)
  deriving DecidableEq, Repr

/-- Why the clock cannot be moved. -/
inductive SpanFlaw where
  /-- A value of this kind is no time. -/
  | noTime (kind : String)
  /-- The days are more than a span can have. -/
  | tooLong (days : Int)
  /-- The days are too many to be counted. -/
  | uncounted
  /-- The years on either side end before. -/
  | outOfYears
  deriving DecidableEq, Repr

/-- Why a call gives no value. -/
inductive Fault where
  /-- No version of the type is called so, or its state is not wanted. -/
  | versionNotFound (imageType version : Datum) (detail : String)
  /-- The types have no version after every tier. -/
  | unresolvedTypes (imageTypes : List String)
  /-- A rule takes the version away from the flow and no ACTIVE one replaces it. -/
  | ruleFallbackFailed (imageType version : Datum)
  | invalidPlan (imageType : Datum) (flaw : PlanFlaw)
  /-- The bucket function answered something else than an integer from 1 to 100. -/
  | invalidBucket (answer : Datum)
  /-- A resolution fault given in words. -/
  | resolution (words : String)
  /-- Something outside failed. -/
  | outage (words : String)
  /-- A value was refused in words. -/
  | refused (words : String)
  | unknownState (name : String)
  | unknownSelection (label : Datum)
  /-- A decision without a version was asked for one. -/
  | noVersion
  | malformedNumeral (text : String)
  | longNumeral (digits : Nat)
  /-- A number without a value was asked for its integer part. -/
  | notANumber
  /-- A number beyond all others was asked for its integer part. -/
  | infiniteNumber
  /-- A value of this kind stands for no integer. -/
  | noInteger (kind : String)
  /-- A value of this kind was used as if it had the operation. -/
  | noOperation (kind operation : String)
  /-- A field or entry is missing. -/
  | missing (name : Datum)
  /-- A value of this kind has no items. -/
  | noItems (kind : String)
  /-- A value of this kind has no members. -/
  | noMembers (kind : String)
  /-- A value of this kind was given for a pair. -/
  | noPair (kind : String)
  /-- A number of items was asked for and fewer were there. -/
  | tooFew (wanted count : Nat)
  /-- A number of items was asked for and more were there. -/
  | tooMany (wanted : Nat)
  /-- A pair of a name and a value was asked for, at this place. -/
  | noEntry (place : Nat)
  /-- An entry at this place is not of length two. -/
  | entryLength (place count : Nat)
  /-- A value of this kind has no named fields. -/
  | noFields (kind : String)
  /-- A value of this kind cannot be a name. -/
  | noName (kind : String)
  /-- A value of this kind was given for a text. -/
  | noText (kind : String)
  /-- A value of this kind was given for a pattern. -/
  | noPattern (kind : String)
  /-- A value of this kind was matched with a pattern. -/
  | noSubject (kind : String)
  /-- Values of these kinds are not put in order by the sign. -/
  | unordered (sign left right : String)
  /-- Values of these kinds have no sum under the sign. -/
  | unsummed (sign left right : String)
  /-- An integer is too large to be added to a number with a fraction. -/
  | tooWide
  /-- A value of this kind stands at this place among texts that are to be joined. -/
  | unjoined (place : Nat) (kind : String)
  /-- The arguments do not make a fault of this kind. -/
  | arguments (kind : String) (flaw : ArgumentFlaw)
  | span (flaw : SpanFlaw)
  /-- A variable without a name was to be set. -/
  | noVariable
  /-- No server is running. -/
  | noServer
  | reference (flaw : ReferenceFlaw)
  | host (flaw : HostFlaw)
  /-- Bytes at this place are not UTF-8. -/
  | undecodable (place : Nat) (bytes : List UInt8) (why : Text.Utf8Flaw)
  deriving Repr

namespace PlanFlaw

/-- The reason in words. -/
def reason : PlanFlaw → String
  | percentage version value =>
    s!"version {version.display} has percentage {value.display}, expected 1-100"
  | notAscending => "entries are not in ascending percentage order"
  | stated reason => reason

end PlanFlaw

namespace ReferenceFlaw

/-- The kind under which the flaw is known. -/
def kind : ReferenceFlaw → String
  | strayPercent _ | openReference _ => "InterpolationSyntaxError"
  | unknownOption .. => "InterpolationMissingOptionError"
  | tooDeep .. => "InterpolationDepthError"

/-- The flaw in words. -/
def message : ReferenceFlaw → String
  | strayPercent rest => "'%' must be followed by '%' or '(', found: " ++ Text.quoted rest
  | openReference rest => "bad interpolation variable reference " ++ Text.quoted rest
  | unknownOption option sectionName name raw =>
    "Bad value substitution: option " ++ Text.quoted option ++ " in section " ++
      Text.quoted sectionName ++ " contains an interpolation key " ++ Text.quoted name ++
      " which is not a valid option name. Raw value: " ++ Text.quoted raw
  | tooDeep option sectionName raw =>
    "Recursion limit exceeded in value substitution: option " ++ Text.quoted option ++
      " in section " ++ Text.quoted sectionName ++
      " contains an interpolation key which cannot be substituted in 10 steps. Raw value: " ++
      Text.quoted raw

end ReferenceFlaw

/-- Names one after the other, the last one after a conjunction. -/
def ArgumentFlaw.enumerate : List String → String
  | [] => ""
  | [a] => a
  | [a, b] => s!"{a} and {b}"
  | names => ", ".intercalate names.dropLast ++ ", and " ++ names.getLast?.getD ""

/-- The flaw in words. -/
def ArgumentFlaw.message : ArgumentFlaw → String
  | missing names =>
    let plural := if names.length = 1 then "" else "s"
    s!"missing {names.length} required positional argument{plural}: " ++
      enumerate (names.map Text.quoted)
  | surplus least greatest count =>
    let range := if least = greatest then toString least else s!"from {least} to {greatest}"
    s!"takes {range} positional arguments but {count} were given"

/-- The flaw in words. -/
def SpanFlaw.message : SpanFlaw → String
  | noTime kind => s!"unsupported type for timedelta milliseconds component: {kind}"
  | tooLong days => s!"days={days}; must have magnitude <= 999999999"
  | uncounted => "Python int too large to convert to C int"
  | outOfYears => "date value out of range"

/-- A value of the wrong kind was given for a time. -/
def SpanFlaw.isMismatch : SpanFlaw → Bool
  | noTime _ => true
  | _ => false

/-- The flaw in words. -/
def HostFlaw.message : HostFlaw → String
  | brackets => "Invalid IPv6 URL"
  | laterVersion => "IPvFuture address is invalid"
  | noAddress text => Text.quoted text ++ " does not appear to be an IPv4 or IPv6 address"
  | needlessBrackets => "An IPv4 address cannot be in brackets"

namespace Fault

/-- The fault says that image types have no version. -/
def isResolution : Fault → Bool
  | versionNotFound .. | unresolvedTypes _ | ruleFallbackFailed .. | invalidPlan ..
  | invalidBucket _ | resolution _ => true
  | _ => false

/-- The kind under which the fault is recorded. -/
def kind : Fault → String
  | versionNotFound .. => "VersionNotFound"
  | unresolvedTypes _ => "UnresolvedImageTypes"
  | ruleFallbackFailed .. => "RampRuleFallbackFailed"
  | invalidPlan .. => "InvalidRampupPlan"
  | invalidBucket _ => "InvalidBucket"
  | resolution _ => "ImageMgmtError"
  | outage _ => "RuntimeError"
  | refused _ | unknownState _ | unknownSelection _ | noVersion | malformedNumeral _
  | longNumeral _ | notANumber | tooFew .. | tooMany _ | entryLength .. | host _ =>
    "ValueError"
  | infiniteNumber | tooWide => "OverflowError"
  | span flaw => if flaw.isMismatch then "TypeError" else "OverflowError"
  | noInteger _ | noItems _ | noMembers _ | noPair _ | noEntry _ | noFields _ | noName _
  | noText _ | noPattern _ | noSubject _ | unordered .. | unsummed .. | unjoined ..
  | arguments .. => "TypeError"
  | noOperation .. => "AttributeError"
  | missing _ => "KeyError"
  | noVariable => "OSError"
  | noServer => "LookupError"
  | reference flaw => flaw.kind
  | undecodable .. => "UnicodeDecodeError"

/-- A refused value, as opposed to a value of the wrong kind or a failure. -/
def isRefusal : Fault → Bool
  | refused _ | unknownState _ | unknownSelection _ | noVersion | malformedNumeral _
  | longNumeral _ | notANumber | tooFew .. | tooMany _ | entryLength .. | host _
  | undecodable .. => true
  | _ => false

/-- A value of a kind that does not fit. -/
def isMismatch : Fault → Bool
  | noInteger _ | noItems _ | noMembers _ | noPair _ | noEntry _ | noFields _ | noName _
  | noText _ | noPattern _ | noSubject _ | unordered .. | unsummed .. | unjoined ..
  | arguments .. => true
  | span flaw => flaw.isMismatch
  | _ => false

/-- The reason why bytes are not UTF-8. -/
def utf8Reason : Text.Utf8Flaw → String
  | .start => "invalid start byte"
  | .continuation => "invalid continuation byte"
  | .unfinished => "unexpected end of data"

/-- What a value without named fields says when it is asked for one. -/
def noFieldsMessage : String → String
  | "list" => "list indices must be integers or slices, not str"
  | "str" => "string indices must be integers, not 'str'"
  | kind => s!"'{kind}' object is not subscriptable"

/-- The fault in words. -/
def message : Fault → String
  | versionNotFound imageType version detail =>
    let text := s!"Unable to get version {version.display} for image type {imageType.display}"
    if detail = "" then text else s!"{text}: {detail}"
  | unresolvedTypes imageTypes =>
    let names := ", ".intercalate imageTypes
    s!"Could not fetch version for image types {names}. Either there is no active rampup " ++
      "plan for them or there is no ACTIVE version in the catalog."
  | ruleFallbackFailed imageType version =>
    s!"Version {version.display} of image type {imageType.display} is excluded by a ramp rule " ++
      "and there is no ACTIVE version to fall back to"
  | invalidPlan imageType flaw =>
    s!"Invalid rampup plan for image type {imageType.display}: {flaw.reason}"
  | invalidBucket answer =>
    s!"Flow bucket must be an integer in [1, 100], got {answer.quoted}"
  | resolution words | outage words | refused words => words
  | unknownState name => s!"Unknown image version state: {Text.quoted name}"
  | unknownSelection label => s!"{label.quoted} is not a valid Selection"
  | noVersion => "Sentinel decision has no version info"
  | malformedNumeral text =>
    "invalid literal for int() with base 10: " ++ String.ofList ((Text.quoted text).toList.take 200)
  | longNumeral digits =>
    s!"Exceeds the limit (4300 digits) for integer string conversion: value has {digits} " ++
      "digits; use sys.set_int_max_str_digits() to increase the limit"
  | notANumber => "cannot convert float NaN to integer"
  | infiniteNumber => "cannot convert float infinity to integer"
  | noInteger kind =>
    s!"int() argument must be a string, a bytes-like object or a real number, not '{kind}'"
  | noOperation kind operation => s!"'{kind}' object has no attribute '{operation}'"
  | missing name => name.quoted
  | noItems kind => s!"'{kind}' object is not iterable"
  | noMembers kind => s!"argument of type '{kind}' is not iterable"
  | noPair kind => s!"cannot unpack non-iterable {kind} object"
  | tooFew wanted count => s!"not enough values to unpack (expected {wanted}, got {count})"
  | tooMany wanted => s!"too many values to unpack (expected {wanted})"
  | noEntry place => s!"cannot convert dictionary update sequence element #{place} to a sequence"
  | entryLength place count =>
    s!"dictionary update sequence element #{place} has length {count}; 2 is required"
  | noFields kind => noFieldsMessage kind
  | noName kind => s!"unhashable type: '{kind}'"
  | noText kind => s!"str expected, not {kind}"
  | noPattern kind => s!"object of type '{kind}' has no len()"
  | noSubject kind => s!"expected string or bytes-like object, got '{kind}'"
  | unordered sign left right =>
    s!"'{sign}' not supported between instances of '{left}' and '{right}'"
  | unsummed sign left right =>
    s!"unsupported operand type(s) for {sign}: '{left}' and '{right}'"
  | tooWide => "int too large to convert to float"
  | unjoined place kind => s!"sequence item {place}: expected str instance, {kind} found"
  | arguments kind flaw => s!"{kind}.__init__() {flaw.message}"
  | span flaw => flaw.message
  | noVariable => "[Errno 22] Invalid argument"
  | noServer => "no server"
  | reference flaw => flaw.message
  | host flaw => flaw.message
  | undecodable place bytes why =>
    let reason := utf8Reason why
    match bytes with
    | [b] =>
      let digits := String.ofList (Text.hexDigits b.toNat 2)
      s!"'utf-8' codec can't decode byte 0x{digits} in position {place}: {reason}"
    | _ =>
      s!"'utf-8' codec can't decode bytes in position {place}-{place + bytes.length - 1}: {reason}"

end Fault

end Rollout

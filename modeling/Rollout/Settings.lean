import Rollout.Datum.Access
import Rollout.Notice
import Rollout.Plan
import Rollout.Settings.File
import Rollout.Settings.Path

/-!
# Settings

Five **settings** steer the library. The value of a setting is the first of these that is
present: the environment variable of its name, the option of its name handed over by the host,
and the entry of its name in the section `rampup` of the settings file; failing all, the
setting's default. The first candidate alone counts: when its value does not fit, a warning is
left and the default taken.

The environment names the settings file by its path. The file is read when a setting is first asked
for, and what it held then is kept until the settings are reset. A file that is missing or has a
flaw leaves a warning and no values.
-/

namespace Rollout

/-- A setting. -/
inductive Setting where
  | planOrder
  | monitoringEnabled
  | monitoringBind
  | historyTtl
  | historyLimit
  deriving DecidableEq, Repr

namespace Setting

/-- The name of a setting in the settings file. -/
def key : Setting → String
  | planOrder => "plan_order"
  | monitoringEnabled => "monitoring_enabled"
  | monitoringBind => "monitoring_bind"
  | historyTtl => "monitoring_history_ttl"
  | historyLimit => "monitoring_history_limit"

/-- The environment variable of a setting. -/
def variableName : Setting → String
  | planOrder => "IMAGE_RAMPUP_PLAN_ORDER"
  | monitoringEnabled => "IMAGE_RAMPUP_MONITORING_ENABLED"
  | monitoringBind => "IMAGE_RAMPUP_MONITORING_BIND"
  | historyTtl => "IMAGE_RAMPUP_MONITORING_HISTORY_TTL"
  | historyLimit => "IMAGE_RAMPUP_MONITORING_HISTORY_LIMIT"

/-- The host's option for a setting. -/
def optionName (s : Setting) : String :=
  "rampup_" ++ s.key

end Setting

/-- Where settings come from, and the part of the settings file that is kept. -/
structure Settings where
  environment : OrderedMap String String := OrderedMap.empty
  options : Option (OrderedMap String Datum) := none
  /-- The texts of the files, by their plain paths. -/
  files : OrderedMap String String := OrderedMap.empty
  kept : Option Settings.Section := none

namespace Settings

/-- A computation that asks for settings, keeps what it read of the file and leaves notices. -/
abbrev Reading (α : Type) := ExceptT Fault (StateM (Settings × List Notice)) α

namespace Reading

/-- Leaves a notice. -/
def notify (notice : Notice) : Reading Unit :=
  fun (settings, notices) => (.ok (), settings, notices ++ [notice])

/-- The settings as they stand. -/
def settings : Reading Settings :=
  fun (settings, notices) => (.ok settings, settings, notices)

/-- Keeps a section of the file. -/
def keep (values : Section) : Reading Unit :=
  fun (settings, notices) => (.ok (), { settings with kept := some values }, notices)

end Reading

/-! ## Changes -/

/-- A text from outside for the environment. -/
def variableText : Datum → Except Fault String
  | .text s => .ok s
  | value => .error (.noText value.kind)

/-- The text holds a null character, which nothing in the environment does. -/
def holdsNull (text : String) : Bool :=
  text.toList.contains '\x00'

/-- An environment variable from outside with its value. A name is not empty and holds no equals
sign. -/
def readVariable (name value : Datum) : Except Fault (String × String) := do
  let name ← variableText name
  let value ← variableText value
  if holdsNull name || holdsNull value then throw (.refused "embedded null byte")
  if name.toList.contains '=' then throw (.refused "illegal environment variable name")
  if name = "" then throw .noVariable
  return (name, value)

/-- Sets an environment variable, or removes it. -/
def setVariable (s : Settings) (name : String) (value : Option String) : Settings :=
  match value with
  | some value => { s with environment := s.environment.put name value }
  | none => { s with environment := s.environment.erase name }

/-- Takes the options of the host over, or forgets them. -/
def adoptOptions (s : Settings) (options : Option (OrderedMap String Datum)) : Settings :=
  { s with options := options }

/-- Writes the file that a path leads to, if it leads to one. -/
def writeFile (s : Settings) (path text : String) : Settings :=
  let files := match plainPath? path with
    | some plain => s.files.put plain text
    | none => s.files
  { s with files := files }

/-- Forgets the options and what was kept of the file. -/
def reset (s : Settings) : Settings :=
  { s with options := none, kept := none }

/-! ## The settings file -/

/-- The environment variable that names the settings file. -/
def fileVariable : String := "IMAGE_RAMPUP_CONFIG"

/-- The section that holds the settings. -/
def sectionName : String := "rampup"

/-- The text of the file that a path leads to. -/
def fileText? (s : Settings) (path : String) : Option String := do
  s.files.find? (← plainPath? path)

/-- Reads the section of the settings from the named file. -/
def readSection (path : String) : Reading Section := do
  match (← Reading.settings).fileText? path with
  | none =>
    Reading.notify (.warning s!"Config file {path} not found, using defaults")
    return OrderedMap.empty
  | some text =>
    match readFile text with
    | .error flaw =>
      Reading.notify (.warning s!"Failed to parse config file {path}: {flaw.message path}")
      return OrderedMap.empty
    | .ok file =>
      match file.section? sectionName with
      | none => return OrderedMap.empty
      | some values =>
        match resolveSection sectionName values with
        | .ok values => return values
        | .error flaw => throw (.reference flaw)

/-- The section of the settings, which is read once and then kept. -/
def fileSection : Reading Section := do
  let settings ← Reading.settings
  match settings.kept with
  | some values => return values
  | none =>
    let path := (settings.environment.find? fileVariable).getD ""
    let values ← if path = "" then pure OrderedMap.empty else readSection path
    Reading.keep values
    return values

/-! ## Values -/

/-- The first value that is present for a setting, with the name of its place. -/
def candidate? (s : Settings) (file : Section) (setting : Setting) : Option (String × Datum) :=
  match s.environment.find? setting.variableName with
  | some value => some (setting.variableName, .text value)
  | none =>
    match s.options.bind (·.find? setting.optionName) with
    | some value => some (setting.optionName, value)
    | none => (file.find? setting.key).map fun value => (setting.key, .text value)

/-- A value that does not fit is replaced by the default; any other fault stands. -/
def isMisfit (fault : Fault) : Bool :=
  fault.isRefusal || fault.isMismatch

/-- The value of a setting, read from its candidate. -/
def valueOf {α : Type} (setting : Setting) (fallback : α) (read : Datum → Except Fault α) :
    Reading α := do
  let file ← fileSection
  match (← Reading.settings).candidate? file setting with
  | none => return fallback
  | some (place, value) =>
    match read value with
    | .ok a => return a
    | .error fault =>
      if isMisfit fault then
        Reading.notify
          (.warning s!"Invalid value for {place}: {value.display}, using default")
        return fallback
      else throw fault

/-- A word in small letters and without blanks around it. -/
def word (text : String) : String :=
  String.ofList (Text.lower (Text.trim text.toList))

/-- Reads the name of a policy for plans that do not ascend. -/
def readPolicy (value : Datum) : Except Fault String :=
  let policy := word value.display
  if WalkPolicy.names.contains policy then .ok policy
  else .error (.refused s!"unknown plan order policy {value.quoted}")

/-- The words that switch something on. -/
def affirmative : List String := ["true", "1", "yes", "on"]

/-- Reads a switch. A text is on when it is one of four words, any other value when it counts
as true. -/
def readSwitch : Datum → Except Fault Bool
  | .text s => .ok (affirmative.contains (word s))
  | value => .ok value.isTruthy

/-- Reads an integer from 1 on. -/
def readPositive (value : Datum) : Except Fault Int := do
  let n ← value.toInteger
  if n < 1 then throw (.refused s!"expected a positive integer, got {value.quoted}")
  return n

/-- What to do with plans that do not ascend. -/
def planOrder : Reading String :=
  valueOf .planOrder "normalize" readPolicy

/-- The monitoring pages are served. -/
def monitoringEnabled : Reading Bool :=
  valueOf .monitoringEnabled false readSwitch

/-- The address at which the monitoring pages are served by default. -/
def defaultBind : String := "127.0.0.1:8080"

/-- The value holds a colon, as a character, an item or a field. -/
def holdsColon : Datum → Except Fault Bool
  | .text s => .ok (s.toList.contains ':')
  | .list items => .ok (items.any fun
    | .text s => s == ":"
    | _ => false)
  | .record fields => .ok (fields.any fun field => field.1 == ":")
  | value => .error (.noMembers value.kind)

/-- The address at which the monitoring pages are served: a value that holds a colon. -/
def monitoringBind : Reading Datum := do
  let value ← valueOf .monitoringBind (.text defaultBind) .ok
  match holdsColon value with
  | .ok true => return value
  | .ok false =>
    Reading.notify
      (.warning s!"Invalid monitoring_bind format, using default: {defaultBind}")
    return .text defaultBind
  | .error fault => throw fault

/-- The time to live of history records, in seconds. -/
def historyTtl : Reading Int :=
  valueOf .historyTtl 3600 readPositive

/-- The most history records that are kept. -/
def historyLimit : Reading Int :=
  valueOf .historyLimit 500 readPositive

end Settings

end Rollout

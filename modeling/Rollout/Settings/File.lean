import Rollout.Fault
import Rollout.OrderedMap
import Rollout.Text.LetterCase
import Rollout.Text.Quoted

/-!
# Settings files

A settings file has **sections** of **options**. A section starts with its name in brackets; an
option is a name and a value around the first `=` or `:` of a line. Names of options are taken
in small letters, blanks around names and values are dropped, and a line whose first character
is `#` or `;` is a comment. A line that is indented further than the option before it continues
that option's value on a new line. The options of the section `DEFAULT` are options of every
section that does not have them itself.

A file cannot be read when it has a **flaw** (`FileFlaw`): a section or an option given twice, an
option before the first section, or lines of another shape. The first three are flaws at once;
lines of another shape are passed over, and all of them together are the flaw of the file.

Values may **refer** to other options of their section as `%(name)s`; a percent sign is written
twice. References are resolved when the values of a section are taken, over at most ten steps.
-/

namespace Rollout.Settings

/-- The values of a section by option, without open references. -/
abbrev Section := OrderedMap String String

/-- The lines of the values of a section, by option. -/
abbrev RawSection := OrderedMap String (List (List Char))

/-- A line with its number. Lines are counted from 1. -/
abbrev NumberedLine := List Char × Nat

/-- The name of the section whose options all others have too. -/
def defaultsName : String := "DEFAULT"

/-! ## Flaws -/

/-- Why a file cannot be read. -/
inductive FileFlaw where
  /-- A section is given twice. -/
  | repeatedSection (number : Nat) (name : String)
  /-- An option is given twice in one section. -/
  | repeatedOption (number : Nat) (sectionName option : String)
  /-- No section has started before the line. -/
  | noSection (line : NumberedLine)
  /-- The lines have no delimiter, or no name before it. -/
  | malformed (lines : List NumberedLine)

namespace FileFlaw

/-- The number of a line, in at least two places. -/
def numberMark (number : Nat) : String :=
  let filler := if number < 10 then " " else ""
  s!"[line {filler}{number}]"

/-- A line between quotes. -/
def quotedLine (line : NumberedLine) : String :=
  Text.quoted (String.ofList line.1)

/-- What is said of the file at a path with the flaw. -/
def message (path : String) : FileFlaw → String
  | repeatedSection number name =>
    s!"While reading from {Text.quoted path} {numberMark number}: " ++
      s!"section {Text.quoted name} already exists"
  | repeatedOption number sectionName option =>
    s!"While reading from {Text.quoted path} {numberMark number}: " ++
      s!"option {Text.quoted option} in section {Text.quoted sectionName} already exists"
  | noSection line =>
    s!"File contains no section headers.\nfile: {Text.quoted path}, line: {line.2}\n" ++
      quotedLine line
  | malformed lines =>
    lines.foldl (fun text line => text ++ s!"\n\t{numberMark line.2}: {quotedLine line}")
      s!"Source contains parsing errors: {Text.quoted path}"

end FileFlaw

/-! ## Lines -/

/-- What has been read of a file. -/
structure FileState where
  defaults : RawSection := OrderedMap.empty
  sections : OrderedMap String RawSection := OrderedMap.empty
  /-- The name of the section that options are read for, once one has started. -/
  place : Option String := none
  /-- The option that the next line may continue. -/
  option : Option String := none
  /-- The blanks before the last line that was not a continuation. -/
  indent : Nat := 0
  /-- The lines of another shape so far. -/
  malformed : List NumberedLine := []

namespace FileState

/-- The section of a name. -/
def sectionOf (s : FileState) (name : String) : RawSection :=
  if name = defaultsName then s.defaults
  else (s.sections.find? name).getD OrderedMap.empty

/-- Changes the section of a name. -/
def putSection (s : FileState) (name : String) (content : RawSection) : FileState :=
  if name = defaultsName then { s with defaults := content }
  else { s with sections := s.sections.put name content }

/-- Adds a line to the value of the last option. -/
def continueOption (s : FileState) (line : List Char) : FileState :=
  match s.place, s.option with
  | some place, some option =>
    let values := s.sectionOf place
    let lines := (values.find? option).getD []
    s.putSection place (values.put option (lines ++ [line]))
  | _, _ => s

/-- Passes over a line of another shape. -/
def passOver (s : FileState) (line : NumberedLine) : FileState :=
  { s with malformed := s.malformed ++ [line] }

/-- Starts a section, unless it has been read already. -/
def startSection (s : FileState) (number : Nat) (name : String) : Except FileFlaw FileState :=
  if s.sections.contains name then .error (.repeatedSection number name)
  else if name = defaultsName then .ok { s with place := some name, option := none }
  else
    .ok { s with
      sections := s.sections.put name OrderedMap.empty
      place := some name
      option := none }

/-- Starts an option of a section, unless the section has it already. The line is of another shape
when the name is empty, and then no line continues it. -/
def startOption (s : FileState) (line : NumberedLine) (place name : String) (value : List Char) :
    Except FileFlaw FileState :=
  let s := if name = "" then s.passOver line else s
  let values := s.sectionOf place
  if values.contains name then .error (.repeatedOption line.2 place name)
  else
    let started := s.putSection place (values.put name [value])
    .ok { started with option := if name = "" then none else some name }

end FileState

/-- The section that a line starts: what stands between the bracket it begins with and its last
closing bracket. -/
def sectionName? : List Char → Option String
  | '[' :: rest =>
    match rest.reverse.dropWhile (· ≠ ']') with
    | _ :: c :: name => some (String.ofList (c :: name).reverse)
    | _ => none
  | _ => none

/-- The character stands between the name and the value of an option. -/
def isDelimiter (c : Char) : Bool :=
  c == '=' || c == ':'

/-- The option and the value that a line gives, if it has a delimiter. -/
def option? (line : List Char) : Option (String × List Char) :=
  match line.dropWhile (!isDelimiter ·) with
  | [] => none
  | _ :: value =>
    let name := Text.trimEnd (line.takeWhile (!isDelimiter ·))
    some (String.ofList (Text.lower name), Text.trim value)

/-- Reads a line that holds neither blanks alone nor a comment. -/
def readContent (s : FileState) (line : NumberedLine) (content : List Char) (indent : Nat) :
    Except FileFlaw FileState :=
  if s.option.isSome && s.indent < indent then .ok (s.continueOption content)
  else
    let s := { s with indent := indent }
    match sectionName? content, s.place with
    | some name, _ => s.startSection line.2 name
    | none, none => .error (.noSection line)
    | none, some place =>
      match option? content with
      | some (name, value) => s.startOption line place name value
      | none => .ok (s.passOver line)

/-- Reads a line of a file. -/
def readLine (s : FileState) (line : NumberedLine) : Except FileFlaw FileState :=
  match Text.trim line.1 with
  | [] => .ok (s.continueOption [])
  | c :: content =>
    if c = '#' || c = ';' then .ok s
    else readContent s line (c :: content) (line.1.takeWhile Text.isBlank).length

/-- The lines of a text, each with a line feed where it ends, whatever ends it in the text. -/
def linesOf : List Char → List (List Char)
  | [] => []
  | '\r' :: '\n' :: rest => ['\n'] :: linesOf rest
  | c :: rest =>
    if c = '\n' || c = '\r' then ['\n'] :: linesOf rest
    else
      match linesOf rest with
      | line :: others => (c :: line) :: others
      | [] => [[c]]

/-- Reads the text of a file. -/
def readFile (text : String) : Except FileFlaw FileState := do
  let read ← ((linesOf text.toList).zipIdx 1).foldlM readLine {}
  if read.malformed.isEmpty then return read else throw (.malformed read.malformed)

/-! ## Values -/

/-- The value that lines make up. -/
def joinLines (lines : List (List Char)) : List Char :=
  Text.trimEnd (['\n'].intercalate lines)

/-- The options of a section, those of all sections included; none when there is no such
section. -/
def FileState.section? (s : FileState) (name : String) : Option (OrderedMap String String) :=
  (s.sections.find? name).map fun own =>
    (s.defaults.merge own).mapValues fun lines => String.ofList (joinLines lines)

/-! ## References -/

/-- The name in a reference, after its opening bracket, and what follows the reference. -/
def referenceName? (s : List Char) : Option (List Char × List Char) :=
  match s.takeWhile (· ≠ ')'), s.dropWhile (· ≠ ')') with
  | c :: name, ')' :: 's' :: rest => some (c :: name, rest)
  | _, _ => none

theorem length_referenceName? {s name rest : List Char}
    (h : referenceName? s = some (name, rest)) : rest.length < s.length := by
  unfold referenceName? at h
  split at h
  · rename_i c tail after hname hafter
    simp only [Option.some.injEq, Prod.mk.injEq] at h
    have hle := (List.dropWhile_sublist (l := s) (· ≠ ')')).length_le
    rw [hafter, h.2] at hle
    simp only [List.length_cons] at hle
    omega
  · simp at h

/-- Replaces the references of a value by what they stand for. -/
def replaceReferences (valueOf : String → Except ReferenceFlaw (List Char)) :
    List Char → Except ReferenceFlaw (List Char)
  | [] => .ok []
  | '%' :: '%' :: rest => do return '%' :: (← replaceReferences valueOf rest)
  | '%' :: '(' :: rest =>
    match _h : referenceName? rest with
    | none => .error (.openReference (String.ofList ('%' :: '(' :: rest)))
    | some (name, after) => do
      let value ← valueOf (String.ofList (Text.lower name))
      return value ++ (← replaceReferences valueOf after)
  | '%' :: rest => .error (.strayPercent (String.ofList ('%' :: rest)))
  | c :: rest => do return c :: (← replaceReferences valueOf rest)
termination_by s => s.length
decreasing_by
  · simp only [List.length_cons]
    omega
  · have := length_referenceName? _h
    simp only [List.length_cons]
    omega
  · simp only [List.length_cons]
    omega

/-- Resolves the references of a value of an option over at most the given number of steps. -/
def resolveReferences (sectionName option raw : String) (values : OrderedMap String String) :
    Nat → List Char → Except ReferenceFlaw (List Char)
  | 0, _ => .error (.tooDeep option sectionName raw)
  | steps + 1, value =>
    replaceReferences
      (fun name =>
        match values.find? name with
        | none => .error (.unknownOption option sectionName name raw)
        | some found =>
          if found.toList.contains '%' then
            resolveReferences sectionName option raw values steps found.toList
          else .ok found.toList)
      value

/-- The steps over which a reference may lead to others. -/
def maxReferenceSteps : Nat := 10

/-- The values of a section with their references resolved, in the order of the options. -/
def resolveSection (sectionName : String) (values : OrderedMap String String) :
    Except ReferenceFlaw Section := do
  let resolved ← values.entries.mapM fun (option, raw) => do
    let value ← resolveReferences sectionName option raw values maxReferenceSteps raw.toList
    return (option, String.ofList value)
  return OrderedMap.ofList resolved

end Rollout.Settings

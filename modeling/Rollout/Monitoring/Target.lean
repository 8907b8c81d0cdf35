import Rollout.Monitoring.Host
import Rollout.Text.Blank
import Rollout.Text.Escaped
import Rollout.Text.Split

/-!
# Request targets

The **target** of a request names a page: a path, and after a question mark a query of named
values. A target may be absolute, with a scheme and a host in front of the path; the host is
checked and dropped. A fragment is dropped too, and so are the parameters after a semicolon in the
last segment of the path. Slashes at the start of a target count as one.

The characters of a target are the bytes of the request. A query value is read from its percent
escapes, with plus signs for spaces.
-/

namespace Rollout.Monitoring

/-- The parts of a target that name a page. -/
structure Target where
  path : List Char
  query : List Char
  deriving DecidableEq, Repr

namespace Target

/-- A character of a scheme. -/
def isSchemeChar (c : Char) : Bool :=
  c.isAlpha || c.isDigit || c == '+' || c == '-' || c == '.'

/-- The scheme that a target starts with, in small letters, and what follows it. -/
def splitScheme (s : List Char) : List Char × List Char :=
  let name := s.takeWhile (· ≠ ':')
  match s.dropWhile (· ≠ ':'), name with
  | _ :: rest, first :: _ =>
    if first.isAlpha && name.all isSchemeChar then (name.map Char.toLower, rest) else ([], s)
  | _, _ => ([], s)

/-- The schemes whose paths have parameters; a target without a scheme has them too. -/
def parameterSchemes : List String :=
  ["", "ftp", "hdl", "prospero", "http", "imap", "https", "shttp", "rtsp", "rtspu",
   "sip", "sips", "mms", "sftp", "tel"]

/-- The character ends the host. -/
def endsHost (c : Char) : Bool :=
  c == '/' || c == '?' || c == '#'

/-- Drops the host that two slashes announce, once it has been checked. -/
def dropHost : List Char → Except Fault (List Char)
  | '/' :: '/' :: rest => do
    Host.check (rest.takeWhile (!endsHost ·))
    return rest.dropWhile (!endsHost ·)
  | s => .ok s

/-- The path without the parameters of its last segment. -/
def dropParameters (path : List Char) : List Char :=
  let lastSegment := (path.reverse.takeWhile (· ≠ '/')).reverse
  let before := path.take (path.length - lastSegment.length)
  before ++ lastSegment.takeWhile (· ≠ ';')

/-- The target with one slash in place of several at its start. -/
def joinSlashes : List Char → List Char
  | '/' :: '/' :: rest => '/' :: rest.dropWhile (· == '/')
  | s => s

/-- Reads a target. -/
def ofText (text : List Char) : Except Fault Target := do
  let visible := (joinSlashes text).dropWhile (· ≤ ' ')
  let (scheme, rest) := splitScheme visible
  let (withQuery, _) := Text.splitFirst '#' (← dropHost rest)
  let (path, query) := Text.splitFirst '?' withQuery
  let path :=
    if parameterSchemes.contains (String.ofList scheme) then dropParameters path else path
  return { path := path, query := query }

/-- The path without the slashes at its end. -/
def dropLastSlashes (path : List Char) : List Char :=
  (path.reverse.dropWhile (· == '/')).reverse

/-- The characters of a target as the bytes that they are. -/
def bytesOf (s : List Char) : List UInt8 :=
  s.map fun c => UInt8.ofNat c.toNat

/-! ## Queries -/

/-- The named values of a query, read with `unescape`. Parts without a value are left out unless
blank values are kept. -/
def namedValues (keepBlank : Bool) (unescape : List Char → List Char) (query : List Char) :
    List (String × String) :=
  (Text.splitAll '&' query).filterMap fun part =>
    let (name, value) := Text.splitFirst '=' part
    let read (s : List Char) :=
      String.ofList (unescape (s.map fun c => if c = '+' then ' ' else c))
    if part.isEmpty || (value.isEmpty && !keepBlank) then none
    else some (read name, read value)

/-- The first value of a name. -/
def valueOf? (values : List (String × String)) (name : String) : Option String :=
  (values.find? (·.1 == name)).map (·.2)

/-- The named values of a query whose bytes are read as UTF-8, blank ones included. -/
def textValues (query : List Char) : Except Fault (List (String × String)) :=
  let pieces := Text.utf8Pieces (bytesOf query)
  match Text.firstFlaw? 0 pieces with
  | some (place, bytes, why) => .error (.undecodable place bytes why)
  | none =>
    .ok (namedValues true Text.unescapeKeeping (Text.decodeUtf8Lossy (bytesOf query)))

end Target

end Rollout.Monitoring

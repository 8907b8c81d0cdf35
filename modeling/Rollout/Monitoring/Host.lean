import Rollout.Fault
import Rollout.Text.Escaped
import Rollout.Text.Split

/-!
# Hosts of absolute targets

A target may name the host that it is meant for, after a user and before a port. A host is not
looked up, but one with brackets is checked: brackets enclose the whole name of the host, which
must be a numeric **address** of version 6, or of a later version, which a `v` announces.
-/

namespace Rollout.Monitoring.Host

/-- One of the four numbers of an address of version 4: 0 to 255, without leading zeros. -/
def isOctet (s : List Char) : Bool :=
  !s.isEmpty && s.all Char.isDigit && (s.length == 1 || s.head? != some '0') &&
    s.length ≤ 3 && s.foldl (fun n c => 10 * n + (c.toNat - '0'.toNat)) 0 ≤ 255

/-- An address of version 4: four numbers with dots between them. -/
def isVersion4 (s : List Char) : Bool :=
  let octets := Text.splitAll '.' s
  octets.length == 4 && octets.all isOctet

/-- One of the eight groups of an address of version 6: up to four hexadecimal digits. -/
def isGroup (s : List Char) : Bool :=
  !s.isEmpty && s.length ≤ 4 && s.all fun c => (Text.hexValue? c).isSome

/-- The groups of an address of version 6, if its last one is fit to be read: an address of
version 4 in its place counts as two groups. -/
def groups? (s : List Char) : Option (List (List Char)) :=
  let groups := Text.splitAll ':' s
  let last := groups.getLastD []
  if !last.contains '.' then some groups
  else if isVersion4 last then some (groups.dropLast ++ [['0'], ['0']])
  else none

/-- The groups on one side of a gap; a side without any reads as an empty one. -/
def sideGroups (side : List (List Char)) : List (List Char) :=
  if side == [[]] then [] else side

/-- The groups are those of an address of version 6: eight, or fewer with a gap in their place,
which reads as an empty group that is neither the first nor the last. -/
def areGroups (groups : List (List Char)) : Bool :=
  let high := groups.take 1 ++ (groups.drop 1).dropLast.takeWhile (!·.isEmpty)
  if high.length + 1 < groups.length then
    let present := sideGroups high ++ sideGroups (groups.drop (high.length + 1))
    present.length ≤ 7 && present.all isGroup
  else groups.length == 8 && groups.all isGroup

/-- An address of version 6, and after a percent sign its scope, if it has one. -/
def isVersion6 (s : List Char) : Bool :=
  let (address, scope) := Text.splitFirst '%' s
  (!s.contains '%' || (!scope.isEmpty && !scope.contains '%')) &&
    (groups? address).any areGroups

/-- An address of a later version: a `v`, the version, a dot and anything after it. -/
def isLaterVersion (s : List Char) : Bool :=
  let version := (s.drop 1).takeWhile fun c => (Text.hexValue? c).isSome
  match s.drop (version.length + 1) with
  | '.' :: _ :: _ => !version.isEmpty
  | _ => false

/-- Checks what the brackets of a host enclose. -/
def checkAddress (s : List Char) : Except Fault Unit :=
  if s.head? == some 'v' then
    if isLaterVersion s then .ok () else .error (.host .laterVersion)
  else if isVersion4 s then .error (.host .needlessBrackets)
  else if isVersion6 s then .ok ()
  else .error (.host (.noAddress (String.ofList s)))

/-- The name in a host whose user has been taken away: what the brackets enclose, or what stands
before the port. -/
def name (s : List Char) : Except Fault (List Char) :=
  if !s.contains '[' then .ok (Text.splitFirst ':' s).1
  else
    let (name, port) := Text.splitFirst ']' (s.drop 1)
    if s.head? == some '[' && (port.isEmpty || port.head? == some ':') then .ok name
    else .error (.host .brackets)

/-- Checks a host: one without brackets passes. -/
def check (host : List Char) : Except Fault Unit :=
  if host.contains '[' != host.contains ']' then .error (.host .brackets)
  else if host.contains '[' then do checkAddress (← name (Text.afterLast '@' host))
  else .ok ()

end Rollout.Monitoring.Host

/-!
# Notices

Some calls go on after something that an operator should know of. They leave a **notice**: a
warning, or an error that did not end the call.
-/

namespace Rollout

/-- How grave a notice is. -/
inductive Severity where
  | warning
  | error
  deriving DecidableEq, Repr

/-- A line for the operator. -/
structure Notice where
  severity : Severity
  text : String
  deriving DecidableEq, Repr

namespace Notice

/-- A warning. -/
def warning (text : String) : Notice where
  severity := .warning
  text := text

/-- An error that did not end the call. -/
def error (text : String) : Notice where
  severity := .error
  text := text

/-- The line that is written for a notice. -/
def line (notice : Notice) : String :=
  match notice.severity with
  | .warning => s!"WARNING: {notice.text}"
  | .error => s!"ERROR: {notice.text}"

end Notice

end Rollout

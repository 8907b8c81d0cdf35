import Rollout.Text.Split

/-!
# Paths of files

A path leads over its steps to a file. An empty step and the step `.` stay where they are, so that
many paths lead to one file; the **plain** path is the one without such steps. A step `..` is taken
as it stands, as only the directories themselves tell where it leads.
-/

namespace Rollout.Settings

/-- The step of a path stays where it is. -/
def staysPut (step : List Char) : Bool :=
  step == [] || step == ['.']

/-- The plain path to the file that a path leads to. A path whose last step stays where it is leads
to a directory, if anywhere. -/
def plainPath? (path : String) : Option String :=
  let steps := Text.splitAll '/' path.toList
  if steps.getLast?.all staysPut then none
  else
    let plain := ['/'].intercalate (steps.filter (!staysPut ·))
    some (String.ofList (if path.toList.head? = some '/' then '/' :: plain else plain))

end Rollout.Settings

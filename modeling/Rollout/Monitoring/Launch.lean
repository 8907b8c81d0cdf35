import Rollout.History
import Rollout.Settings
import Rollout.Text.Split

/-!
# Launching the monitoring pages

The settings say whether the monitoring pages are served, and where. A resolver that has no
history yet is given one within the settings' limits before the address is looked at, and keeps it
whatever comes of the address. The address is split at its last colon, and what follows it must be
a numeral.
-/

namespace Rollout.Monitoring

/-- The address at which a server is to be started, and what it is to show. -/
structure Launch where
  host : String
  port : Int
  serviceId : Datum
  history : History

/-- An empty history within the limits of the settings. -/
def historyFromSettings : Settings.Reading History := do
  let ttl ← Settings.historyTtl
  let limit ← Settings.historyLimit
  return { ttl := .int ttl, limit := .int limit }

/-- The text before the last colon and the text after it. -/
def splitAddress (address : String) : String × String :=
  let port := Text.afterLast ':' address.toList
  let host := address.toList.take (address.toList.length - port.length - 1)
  (String.ofList host, String.ofList port)

/-- The host and the port of the address in the settings, unless the port is no numeral. -/
def launchAddress : Settings.Reading (Option (String × Int)) := do
  match ← Settings.monitoringBind with
  | .text address =>
    let (host, port) := splitAddress address
    match Text.readInteger port.toList with
    | .ok n => return some (host, n)
    | .error _ =>
      Settings.Reading.notify (.error s!"Invalid monitoring port {Text.quoted port}")
      return none
  | value => throw (.noOperation value.kind "rpartition")

/-- What starting the pages from the settings comes to, once the resolver has its history: the
server to start, if any, or the fault of the address; and the history that the resolver has from
then on. -/
structure Start where
  launch : Except Fault (Option Launch)
  history : Option History

/-- Goes on after a fault, with the fault for the answer. -/
def attempt {α : Type} (reading : Settings.Reading α) : Settings.Reading (Except Fault α) :=
  fun state =>
    let (answer, after) := reading state
    (.ok answer, after)

/-- The history that the resolver has; a new one when it has none. -/
def attachedHistory : Option History → Settings.Reading History
  | some history => return history
  | none => historyFromSettings

/-- Starts the monitoring pages as the settings say. -/
def start (history : Option History) (serviceId : Datum) : Settings.Reading Start := do
  if !(← Settings.monitoringEnabled) then return { launch := .ok none, history := history }
  let attached ← attachedHistory history
  let address ← attempt launchAddress
  let launch (address : String × Int) : Launch :=
    { host := address.1, port := address.2, serviceId := serviceId, history := attached }
  return { launch := address.map (·.map launch), history := some attached }

end Rollout.Monitoring

import Rollout.Monitoring.Launch
import Rollout.Proofs.Monitoring.Routes
import Rollout.Proofs.Settings.Sequence

/-!
# Starting the monitoring pages

Four settings say what is started, each with the answer that it gives when it is asked alone
(`comesTo_start`). From these answers it can be told which server is started, with which history,
and which history the resolver has afterwards (`start_startsAs`).

A resolver without a history is given one before the address is looked at, and no address takes it
away again. So a start that comes to nothing is not always one that leaves nothing behind
(`not_leavesAlone_wordyPort`).
-/

namespace Rollout

namespace Monitoring

open Settings

/-! ## Addresses -/

theorem splitAddress_append (host port : String) (last : ':' ∉ port.toList) :
    splitAddress (host ++ ":" ++ port) = (host, port) := by
  have parts : (host ++ ":" ++ port).toList = host.toList ++ ':' :: port.toList := by simp
  have after : Text.afterLast ':' (host ++ ":" ++ port).toList = port.toList := by
    rw [parts, Text.afterLast_append, Text.afterLast_absent last]
  have count :
      (host ++ ":" ++ port).toList.length - port.toList.length - 1 = host.toList.length := by
    rw [parts, List.length_append, List.length_cons]
    omega
  simp only [splitAddress, after]
  rw [count, parts, List.take_left, String.ofList_toList, String.ofList_toList]

/-- A text that holds a colon is split at its last one. -/
theorem exists_split {address : String} (colon : ':' ∈ address.toList) :
    ∃ host port : String, address = host ++ ":" ++ port ∧ ':' ∉ port.toList := by
  -- the last colon is the first one of the reversed text
  obtain ⟨port, host, split, last⟩ :=
    List.eq_append_cons_of_mem (List.mem_reverse.mpr colon)
  refine ⟨String.ofList host.reverse, String.ofList port.reverse, String.toList_inj.mp ?_, ?_⟩
  · rw [← List.reverse_reverse address.toList, split]
    simp
  · simpa using last

/-- What the address comes to. -/
def endpoint : Datum → Except Fault (Option (String × Int))
  | .text address =>
    .ok (match Text.readInteger (splitAddress address).2.toList with
      | .ok n => some ((splitAddress address).1, n)
      | .error _ => none)
  | value => .error (.noOperation value.kind "rpartition")

theorem endpoint_append (host port : String) (last : ':' ∉ port.toList) :
    endpoint (.text (host ++ ":" ++ port)) =
      .ok (match Text.readInteger port.toList with
        | .ok n => some (host, n)
        | .error _ => none) := by
  simp only [endpoint, splitAddress_append host port last]

variable {s after : Settings} {file : Settings.Section} {on : Bool} {bind : Datum} {ttl limit : Int}

/-- A fault is an answer like others to whoever goes on after it. -/
theorem comesTo_attempt {α : Type} {reading : Reading α} {answer : Except Fault α}
    (comes : ComesTo reading s after answer) : ComesTo (attempt reading) s after (.ok answer) := by
  intro notices
  obtain ⟨left, same⟩ := comes notices
  exact ⟨left, by rw [attempt, same]⟩

theorem comesTo_launchAddress (comes : ComesTo monitoringBind s s (.ok bind)) :
    ComesTo launchAddress s s (endpoint bind) := by
  refine comes.bind ?_
  cases bind with
  | text address =>
    dsimp only [endpoint]
    cases Text.readInteger (splitAddress address).2.toList with
    | ok n => exact comesTo_pure _ _
    | error flaw => exact (comesTo_notify _ _).bind (comesTo_pure _ _)
  | _ => exact fun notices => ⟨notices, rfl⟩

/-! ## The start -/

/-- Each accessor, asked alone, answers with its value. -/
structure Configured (s : Settings) (on : Bool) (bind : Datum) (ttl limit : Int) : Prop where
  enabled : (monitoringEnabled (s, [])).1 = .ok on
  bind : (monitoringBind (s, [])).1 = .ok bind
  ttl : (historyTtl (s, [])).1 = .ok ttl
  limit : (historyLimit (s, [])).1 = .ok limit

/-- The history that is attached, by the values of the settings. -/
def historyWithin (ttl limit : Int) (history : Option History) : History :=
  history.getD { ttl := .int ttl, limit := .int limit }

theorem comesTo_attachedHistory (configured : Configured s on bind ttl limit)
    (found : s.lookedUp = .ok file) (history : Option History) :
    ComesTo (attachedHistory history) (s.holding file) (s.holding file)
      (.ok (historyWithin ttl limit history)) := by
  cases history with
  | some own => exact comesTo_pure _ _
  | none =>
    have ttl_read : ComesTo historyTtl (s.holding file) (s.holding file) (.ok ttl) :=
      configured.ttl ▸ comesTo_valueOf found 3600 readPositive (.inr rfl)
    have limit_read : ComesTo historyLimit (s.holding file) (s.holding file) (.ok limit) :=
      configured.limit ▸ comesTo_valueOf found 500 readPositive (.inr rfl)
    exact ttl_read.bind (limit_read.bind (comesTo_pure _ _))

/-- What is started, by the values of the settings. -/
def started (on : Bool) (bind : Datum) (ttl limit : Int) (history : Option History)
    (serviceId : Datum) : Start :=
  if on then
    let attached := historyWithin ttl limit history
    let launch (address : String × Int) : Launch :=
      { host := address.1, port := address.2, serviceId := serviceId, history := attached }
    { launch := (endpoint bind).map (·.map launch), history := some attached }
  else { launch := .ok none, history := history }

/-- A start comes to what the values of the settings say. -/
theorem comesTo_start (configured : Configured s on bind ttl limit) (found : s.lookedUp = .ok file)
    (history : Option History) (serviceId : Datum) :
    ComesTo (start history serviceId) s (s.holding file)
      (.ok (started on bind ttl limit history serviceId)) := by
  have enabled : ComesTo monitoringEnabled s (s.holding file) (.ok on) :=
    configured.enabled ▸ comesTo_valueOf found false readSwitch (.inl rfl)
  refine enabled.bind ?_
  cases on with
  | false => exact comesTo_pure _ _
  | true =>
    have attached := comesTo_attachedHistory configured found history
    have address := comesTo_attempt (comesTo_launchAddress
      (comesTo_monitoringBind found configured.bind))
    exact attached.bind (address.bind (comesTo_pure _ _))

/-- The address is a text, which has the host before its last colon and after it a numeral. -/
def IsAddress (bind : Datum) (host : String) (port : Int) : Prop :=
  ∃ text, bind = .text (host ++ ":" ++ text) ∧ ':' ∉ text.toList ∧
    Text.readInteger text.toList = .ok port

theorem endpoint_eq_some_iff (colon : ∀ address, bind = .text address → ':' ∈ address.toList)
    {host : String} {port : Int} :
    endpoint bind = .ok (some (host, port)) ↔ IsAddress bind host port := by
  constructor
  · intro found
    cases bind with
    | text address =>
      obtain ⟨front, text, rfl, last⟩ := exists_split (colon address rfl)
      rw [endpoint_append front text last] at found
      cases reads : Text.readInteger text.toList with
      | ok n =>
        simp only [reads, Except.ok.injEq, Option.some.injEq, Prod.mk.injEq] at found
        obtain ⟨rfl, rfl⟩ := found
        exact ⟨text, rfl, last, reads⟩
      | error flaw => simp [reads] at found
    | _ => cases found
  · rintro ⟨text, rfl, last, reads⟩
    rw [endpoint_append host text last, reads]

/-- Blanks around a port do not count, and a port must be there. -/
example :
    (endpoint (.text "[::1]: 80 ")).toOption = some (some ("[::1]", 80)) ∧
      (endpoint (.text "localhost:")).toOption = some none := by
  decide +kernel

theorem launch_started_iff {history : Option History} {serviceId : Datum} {launch : Launch} :
    (started on bind ttl limit history serviceId).launch = .ok (some launch) ↔
      on = true ∧ endpoint bind = .ok (some (launch.host, launch.port)) ∧
        launch.serviceId = serviceId ∧ launch.history = historyWithin ttl limit history := by
  obtain ⟨host, port, id, shown⟩ := launch
  cases on with
  | false => simp [started]
  | true =>
    rw [started, if_pos rfl]
    simp only [Fallible.map_eq_ok_iff, Option.map_eq_some_iff]
    constructor
    · rintro ⟨_, found, ⟨front, n⟩, rfl, same⟩
      obtain ⟨rfl, rfl, rfl, rfl⟩ := Launch.mk.inj same
      exact ⟨trivial, found, rfl, rfl⟩
    · rintro ⟨-, found, rfl, rfl⟩
      exact ⟨_, found, _, rfl, rfl⟩

/-- What the start is, and which history the resolver has after it. -/
structure StartsAs (on : Bool) (bind : Datum) (ttl limit : Int) (history : Option History)
    (serviceId : Datum) (start : Start) : Prop where
  launches_iff : (∃ launch, start.launch = .ok (some launch)) ↔
    on = true ∧ ∃ host port, IsAddress bind host port
  launched : ∀ launch, start.launch = .ok (some launch) →
    IsAddress bind launch.host launch.port ∧ launch.serviceId = serviceId ∧
      start.history = some launch.history
  /-- Only a resolver that had no history has another one, whether a server is started or not. -/
  kept_iff : start.history = history ↔ on = false ∨ history.isSome = true
  attached : on = true → history = none → 1 ≤ ttl ∧ 1 ≤ limit ∧
    start.history = some { ttl := .int ttl, limit := .int limit }

theorem startsAs_started (colon : ∀ address, bind = .text address → ':' ∈ address.toList)
    (positive : 1 ≤ ttl ∧ 1 ≤ limit) (history : Option History) (serviceId : Datum) :
    StartsAs on bind ttl limit history serviceId
      (started on bind ttl limit history serviceId) where
  launches_iff := by
    simp only [launch_started_iff, endpoint_eq_some_iff colon]
    constructor
    · rintro ⟨launch, enabled, address, -, -⟩
      exact ⟨enabled, _, _, address⟩
    · rintro ⟨enabled, host, port, address⟩
      exact ⟨⟨host, port, serviceId, _⟩, enabled, address, rfl, rfl⟩
  launched launch starts := by
    obtain ⟨rfl, address, same, shown⟩ := launch_started_iff.mp starts
    exact ⟨(endpoint_eq_some_iff colon).mp address, same, by rw [shown]; rfl⟩
  kept_iff := by
    cases on <;> cases history <;> simp [started, historyWithin]
  attached := by
    rintro rfl rfl
    exact ⟨positive.1, positive.2, rfl⟩

/-- **What is started from the settings.** Under settings whose accessors answer, a server is
started just when the pages are enabled and the address has a numeral after its last colon. It shows
the history of the resolver. That is its own, unchanged, if it had one; if it had none, and the
pages are enabled, a new one is attached within limits of at least one, also when no server is
started. -/
theorem start_startsAs (configured : Configured s on bind ttl limit) (history : Option History)
    (serviceId : Datum) :
    ∃ start, (Monitoring.start history serviceId (s, [])).1 = .ok start ∧
      StartsAs on bind ttl limit history serviceId start := by
  obtain ⟨file, found⟩ := lookedUp_of_valueOf configured.enabled
  obtain ⟨left, comes⟩ := comesTo_start configured found history serviceId []
  have positive : 1 ≤ ttl ∧ 1 ≤ limit :=
    ⟨one_le_of_valueOf found (by decide) configured.ttl,
      one_le_of_valueOf found (by decide) configured.limit⟩
  refine ⟨_, by rw [comes], startsAs_started ?_ positive history serviceId⟩
  rintro address rfl
  exact colon_of_monitoringBind configured.bind

/-- The environment enables the pages at the address. -/
def servedAt (address : String) : Settings where
  environment := OrderedMap.ofList
    [(Setting.monitoringEnabled.variableName, "true"),
     (Setting.monitoringBind.variableName, address)]

/-- Only the last colon of the address counts. -/
theorem start_startsAs_loopback :
    Configured (servedAt "[::1]:8080") true (.text "[::1]:8080") 3600 500 ∧
    ∃ start, (Monitoring.start none (.text "pilot") (servedAt "[::1]:8080", [])).1 = .ok start ∧
      StartsAs true (.text "[::1]:8080") 3600 500 none (.text "pilot") start := by
  have configured : Configured (servedAt "[::1]:8080") true (.text "[::1]:8080") 3600 500 := by
    constructor <;> exact Fallible.eq_ok_of_toOption (by decide +kernel)
  exact ⟨configured, start_startsAs configured none (.text "pilot")⟩

/-- A start that starts no server leaves the resolver the history that it had. -/
def LeavesAlone (s : Settings) (history : Option History) (serviceId : Datum) : Prop :=
  ∀ start, (Monitoring.start history serviceId (s, [])).1 = .ok start →
    (∀ launch, start.launch ≠ .ok (some launch)) → start.history = history

/-- With a word for its port, no server is started, and a history is attached all the same. -/
theorem not_leavesAlone_wordyPort :
    Configured (servedAt "127.0.0.1:http") true (.text "127.0.0.1:http") 3600 500 ∧
    ¬ LeavesAlone (servedAt "127.0.0.1:http") none (.text "svc") := by
  have configured :
      Configured (servedAt "127.0.0.1:http") true (.text "127.0.0.1:http") 3600 500 := by
    constructor <;> exact Fallible.eq_ok_of_toOption (by decide +kernel)
  refine ⟨configured, fun leaves => ?_⟩
  obtain ⟨file, found⟩ := lookedUp_of_valueOf configured.enabled
  obtain ⟨left, comes⟩ := comesTo_start configured found none (.text "svc") []
  have unread : (endpoint (.text "127.0.0.1:http")).toOption = some none := by decide +kernel
  have alone := leaves _ (by rw [comes]) fun launch starts => ?_
  · cases alone
  · have address := (launch_started_iff.mp starts).2.1
    rw [address] at unread
    cases unread

end Monitoring

end Rollout

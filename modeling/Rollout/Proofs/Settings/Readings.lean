import Rollout.Monitoring.Launch
import Rollout.Proofs.OrderedMap
import Rollout.Proofs.Settings.Runs

/-!
# Readings that only ask

What is set up from the settings does nothing to them but ask for some (`Asks`). So the settings
after it are the settings after a longer log (`afterAll_asked`), and what is said of settings by
their log is said of them wherever they are set up from.
-/

namespace Rollout.Settings

open Reading

variable {α β : Type} {s : Settings}

/-! ## Asking -/

/-- The settings after some were asked for, the latest one first. -/
def asked (s : Settings) (settings : List Setting) : Settings :=
  settings.foldr (fun setting before => before.after (.asked setting)) s

theorem asked_append (later earlier : List Setting) :
    s.asked (later ++ earlier) = (s.asked earlier).asked later :=
  List.foldr_append

/-- Asking takes the log further. -/
theorem afterAll_asked (settings : List Setting) (log : List Event) :
    (afterAll log).asked settings = afterAll (settings.map .asked ++ log) := by
  induction settings with
  | nil => rfl
  | cons setting rest ih =>
    show ((afterAll log).asked rest).after (.asked setting) = _
    rw [ih]
    rfl

/-- The notices that are there already make no difference to what is kept. -/
theorem settings_ask (setting : Setting) (s : Settings) (notices : List Notice) :
    (ask setting (s, notices)).2.1 = s.after (.asked setting) := by
  show _ = (ask setting (s, [])).2.1
  cases found : s.lookedUp with
  | ok file => rw [ask_keeps found, ask_keeps found]
  | error flaw =>
    by_cases other : setting = .monitoringBind
    · subst other
      show (monitoringBind _).2.1 = (monitoringBind _).2.1
      rw [monitoringBind, Fallible.bind_apply, Fallible.bind_apply, valueOf_apply_error found,
        valueOf_apply_error found]
    · rw [ask_eq other, valueOf_apply_error found, valueOf_apply_error found]

/-! ## Readings -/

/-- The reading does nothing to the settings but ask for some, and what it answers fits. -/
def Asks (reading : Reading α) (fits : α → Prop) : Prop :=
  ∀ s notices, (∃ settings, (reading (s, notices)).2.1 = s.asked settings) ∧
    ∀ a, (reading (s, notices)).1 = .ok a → fits a

variable {reading : Reading α} {fits : α → Prop}

theorem asks_pure {a : α} (fit : fits a) : Asks (pure a) fits := by
  intro s notices
  refine ⟨⟨[], rfl⟩, ?_⟩
  intro a' answers
  exact Except.ok.inj answers ▸ fit

theorem asks_throw (fault : Fault) : Asks (throw fault : Reading α) fits :=
  fun _ _ => ⟨⟨[], rfl⟩, nofun⟩

theorem asks_notify (notice : Notice) : Asks (notify notice) fun _ => True :=
  fun _ _ => ⟨⟨[], rfl⟩, fun _ _ => trivial⟩

theorem asks_ofExcept {result : Except Fault α} (fit : ∀ a, result = .ok a → fits a) :
    Asks (ofExcept result : Reading α) fits := by
  intro s notices
  rw [Fallible.ofExcept_apply]
  exact ⟨⟨[], rfl⟩, fit⟩

theorem Asks.bind {next : α → Reading β} {ends : β → Prop} (first : Asks reading fits)
    (second : ∀ a, fits a → Asks (next a) ends) : Asks (reading >>= next) ends := by
  intro s notices
  have here := first s notices
  rw [Fallible.bind_apply]
  revert here
  rcases reading (s, notices) with ⟨answer, between, left⟩
  intro ⟨⟨settings, same⟩, fit⟩
  subst same
  cases answer with
  | error fault => exact ⟨⟨settings, rfl⟩, nofun⟩
  | ok a =>
    obtain ⟨⟨more, after⟩, last⟩ := second a (fit a rfl) (s.asked settings) left
    exact ⟨⟨more ++ settings, after.trans (asked_append more settings).symm⟩, last⟩

/-- An accessor, with what its answer is made into left out. -/
theorem asks_of_ask (setting : Setting) (f : α → Datum)
    (same : ask setting = do return f (← reading)) : Asks reading fun _ => True := by
  intro s notices
  refine ⟨⟨[setting], ?_⟩, fun _ _ => trivial⟩
  have left := settings_ask setting s notices
  rw [same, Fallible.bind_apply] at left
  show _ = s.after (.asked setting)
  rw [← left]
  rcases reading (s, notices) with ⟨answer, after⟩
  cases answer <;> rfl

theorem asks_monitoringBind : Asks monitoringBind fun _ => True :=
  asks_of_ask .monitoringBind id (bind_pure monitoringBind).symm

/-! ## The environment -/

/-- The log in which each variable of the environment is set to its value. -/
def environmentLog (environment : OrderedMap String String) : List Event :=
  environment.entries.reverse.map fun entry => .set entry.1 (some entry.2)

theorem afterAll_environmentLog (environment : OrderedMap String String) :
    afterAll (environmentLog environment) = { environment := environment } := by
  have filled : ∀ entries : List (String × String),
      afterAll (entries.reverse.map fun entry => .set entry.1 (some entry.2)) =
        { environment := OrderedMap.ofList entries } := by
    intro entries
    induction entries using List.reverseRecOn with
    | nil => rfl
    | append_singleton entries entry ih =>
      rw [List.reverse_append, List.reverse_singleton, List.singleton_append, List.map_cons,
        afterAll, ih, OrderedMap.ofList, OrderedMap.ofList, List.foldl_append]
      rfl
  have whole : OrderedMap.ofList environment.entries = environment :=
    OrderedMap.eq_of_entries (OrderedMap.entries_ofList environment.nodup_keys)
  rw [environmentLog, filled, whole]

end Rollout.Settings

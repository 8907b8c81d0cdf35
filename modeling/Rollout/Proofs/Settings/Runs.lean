import Mathlib.Data.List.DropRight
import Rollout.Proofs.Settings.Accessors

/-!
# Settings over a run

Variables and files change, options are handed over, the settings are reset, and in between
settings are asked for. A **log** lists such events, the latest one first. What the settings hold
is read off the log (`Tells`), one step for each event (`Tells.after`), and with it what an
accessor answers at the end of a run (`ask_follows`): the latest value of its variable counts
first, then the option that was handed over since the last reset, and then the entry in the file.

The file is the one that was named when the first setting was asked for since the last reset, with
the text that it had then. `captured` is the part of the log that was there at that moment.
-/

namespace Rollout.Settings

open Reading

variable {s : Settings} {file : Section}

/-- Something that happens to the settings. -/
inductive Event where
  /-- A variable takes a value, or is removed. -/
  | set (name : String) (value : Option String)
  | adopted (options : Option (OrderedMap String Datum))
  | written (path text : String)
  | reset
  | asked (setting : Setting)

/-- The settings after an event. -/
def after (s : Settings) : Event → Settings
  | .set name value => s.setVariable name value
  | .adopted options => s.adoptOptions options
  | .written path text => s.writeFile path text
  | .reset => s.reset
  | .asked setting => (ask setting (s, [])).2.1

/-- The settings after the events of a log. -/
def afterAll : List Event → Settings
  | [] => {}
  | event :: earlier => (afterAll earlier).after event

namespace Event

/-- The value that the event gives a variable. -/
def valueOf? (name : String) : Event → Option (Option String)
  | .set other value => if other = name then some value else none
  | _ => none

/-- The options that the event leaves. -/
def options? : Event → Option (Option (OrderedMap String Datum))
  | .adopted options => some options
  | .reset => some none
  | _ => none

/-- The text that the event gives the file at a plain path. -/
def text? (plain : String) : Event → Option String
  | .written path text => if plainPath? path = some plain then some text else none
  | _ => none

/-- The settings are reset. -/
def isReset : Event → Bool
  | .reset => true
  | _ => false

/-- A setting is asked for. -/
def isAsk : Event → Bool
  | .asked _ => true
  | _ => false

end Event

/-! ## What a log says -/

/-- The value of a variable. -/
def variableIn (log : List Event) (name : String) : Option String :=
  (log.findSome? (Event.valueOf? name)).join

/-- The options of the host. -/
def optionsIn (log : List Event) : Option (OrderedMap String Datum) :=
  (log.findSome? Event.options?).join

/-- The text of the file at a plain path. -/
def textIn (log : List Event) (plain : String) : Option String :=
  log.findSome? (Event.text? plain)

/-- The events since the last reset. -/
def sinceReset (log : List Event) : List Event :=
  log.takeWhile (!·.isReset)

/-- The log as it was when a setting was first asked for since the last reset, and the whole log
when none was. -/
def captured (log : List Event) : List Event :=
  (sinceReset log).rtakeWhile (!·.isAsk) ++ log.dropWhile (!·.isReset)

/-- The section of the file that is in use. -/
def sectionOf (log : List Event) : Except ReferenceFlaw Section :=
  namedSection (variableIn (captured log)) (textIn (captured log))

/-- The first candidate of a setting. -/
def candidateIn (log : List Event) (setting : Setting) : Option Datum :=
  ((variableIn log setting.variableName).map .text).or
    (((optionsIn log).bind (·.find? setting.optionName)).or
      (((sectionOf log).toOption.bind (·.find? setting.key)).map .text))

/-- The value of a setting: what its first candidate is converted to. -/
def valueIn (log : List Event) (setting : Setting) : Datum :=
  match candidateIn log setting with
  | none => setting.fallback
  | some given => (setting.convert given).toOption.getD setting.fallback

/-- Whenever a setting is asked for, the section of the file can be taken. -/
def Readable (log : List Event) : Prop :=
  ∀ setting earlier, .asked setting :: earlier <:+ log →
    ∃ file, (fileSection (afterAll earlier, [])).1 = .ok file

/-- No option is a number beyond all others. -/
def FiniteOptions (log : List Event) : Prop :=
  ∀ options, .adopted (some options) ∈ log → ∀ name value, options.find? name = some value →
    ∀ negative, value ≠ .infinite negative

/-! ## The moment of capture -/

theorem captured_of_unasked {log : List Event} (unasked : (sinceReset log).all (!·.isAsk)) :
    captured log = log := by
  have whole : (sinceReset log).rtakeWhile (!·.isAsk) = sinceReset log := by
    rw [List.rtakeWhile_eq_self_iff]
    simpa using unasked
  rw [captured, whole, sinceReset, List.takeWhile_append_dropWhile]

theorem rtakeWhile_cons {α : Type} {p : α → Bool} {a : α} {l : List α}
    (stops : p a = false ∨ l.all p = false) : (a :: l).rtakeWhile p = l.rtakeWhile p := by
  induction l using List.reverseRecOn with
  | nil =>
    have here : p a = false := by simpa using stops
    simp [List.rtakeWhile, here]
  | append_singleton l x ih =>
    rw [← List.cons_append, List.rtakeWhile_concat, List.rtakeWhile_concat]
    by_cases passes : p x = true
    · rw [if_pos passes, if_pos passes, ih (by simpa [passes] using stops)]
    · rw [if_neg passes, if_neg passes]

/-- Asking does not move the capture, and once a setting was asked for, nothing but a reset
does. -/
theorem captured_cons {log : List Event} {event : Event} (noReset : event.isReset = false)
    (stays : event.isAsk = true ∨ (sinceReset log).all (!·.isAsk) = false) :
    captured (event :: log) = captured log := by
  unfold captured sinceReset at *
  rw [List.takeWhile_cons, List.dropWhile_cons]
  simp only [noReset, Bool.not_false, if_true]
  rw [rtakeWhile_cons (by simpa using stays)]

/-! ## The step -/

/-- The settings hold what the log says. -/
structure Tells (log : List Event) (s : Settings) : Prop where
  environment : s.environment.find? = variableIn log
  options : s.options = optionsIn log
  files : s.files.find? = textIn log
  /-- A section is kept when a setting was asked for since the last reset. -/
  keeps : s.kept.isNone = (sinceReset log).all (!·.isAsk)
  lookedUp : s.lookedUp = sectionOf log

theorem tells_nil : Tells [] {} where
  environment := rfl
  options := rfl
  files := rfl
  keeps := rfl
  lookedUp := rfl

theorem sectionOf_of_unasked {log : List Event} (unasked : (sinceReset log).all (!·.isAsk)) :
    sectionOf log = namedSection (variableIn log) (textIn log) := by
  rw [sectionOf, captured_of_unasked unasked]

/-- Variables, options and files change beside what is kept. The section that settings are looked
up in follows them as long as none is kept. -/
theorem Tells.outside {log : List Event} {event : Event} {s t : Settings} (tells : Tells log s)
    (same : t.kept = s.kept) (noReset : event.isReset = false) (noAsk : event.isAsk = false)
    (environment : t.environment.find? = variableIn (event :: log))
    (options : t.options = optionsIn (event :: log))
    (files : t.files.find? = textIn (event :: log)) : Tells (event :: log) t where
  environment := environment
  options := options
  files := files
  keeps := by
    rw [same, tells.keeps]
    simp [sinceReset, noReset, noAsk]
  lookedUp := by
    have keeps := tells.keeps
    have before := tells.lookedUp
    unfold Settings.lookedUp at before ⊢
    rw [same]
    cases kept : s.kept with
    | some values =>
      rw [kept] at keeps before
      rw [sectionOf, captured_cons noReset (.inr keeps.symm)]
      exact before
    | none =>
      rw [kept] at keeps
      have unasked : (sinceReset (event :: log)).all (!·.isAsk) = true := by
        simpa [sinceReset, List.takeWhile_cons, noReset, noAsk] using keeps.symm
      rw [sectionOf_of_unasked unasked, ← environment, ← files]

theorem environment_setVariable {log : List Event} (before : s.environment.find? = variableIn log)
    (name : String) (value : Option String) :
    (s.setVariable name value).environment.find? = variableIn (.set name value :: log) := by
  funext other
  have before := congrFun before other
  unfold variableIn at before ⊢
  rw [List.findSome?_cons]
  by_cases same : name = other
  · cases value <;>
      simp [setVariable, Event.valueOf?, OrderedMap.find?_put, OrderedMap.find?_erase, same]
  · have apart : ¬ other = name := fun equal => same equal.symm
    cases value <;>
      simp [setVariable, Event.valueOf?, OrderedMap.find?_put, OrderedMap.find?_erase, same, apart,
        before]

theorem files_writeFile {log : List Event} (before : s.files.find? = textIn log)
    (path text : String) :
    (s.writeFile path text).files.find? = textIn (.written path text :: log) := by
  funext other
  have before := congrFun before other
  unfold textIn at before ⊢
  rw [List.findSome?_cons, Event.text?, writeFile]
  cases leads : plainPath? path with
  | none => simp [before]
  | some plain =>
    by_cases same : plain = other
    · simp [OrderedMap.find?_put, same]
    · have apart : ¬ other = plain := fun equal => same equal.symm
      simp [OrderedMap.find?_put, same, apart, before]

/-- One step takes one event more to the front of the log. -/
theorem Tells.after {log : List Event} (tells : Tells log s) (event : Event)
    (readable : ∀ setting, event = .asked setting → ∃ file, s.lookedUp = .ok file) :
    Tells (event :: log) (s.after event) := by
  cases event with
  | set name value =>
    have kept : (s.setVariable name value).kept = s.kept := by cases value <;> rfl
    have options : (s.setVariable name value).options = s.options := by cases value <;> rfl
    have files : (s.setVariable name value).files = s.files := by cases value <;> rfl
    exact tells.outside kept rfl rfl (environment_setVariable tells.environment name value)
      (options.trans tells.options) (by rw [Settings.after, files]; exact tells.files)
  | adopted options => exact tells.outside rfl rfl rfl tells.environment rfl tells.files
  | written path text =>
    exact tells.outside rfl rfl rfl tells.environment tells.options
      (files_writeFile tells.files path text)
  | reset =>
    have unasked : (sinceReset (.reset :: log)).all (!·.isAsk) = true := rfl
    have lookedUp : s.reset.lookedUp = namedSection s.environment.find? s.files.find? := rfl
    exact {
      environment := tells.environment
      options := rfl
      files := tells.files
      keeps := rfl
      lookedUp := by
        rw [sectionOf_of_unasked unasked, Settings.after, lookedUp, tells.environment, tells.files]
        rfl }
  | asked setting =>
    obtain ⟨file, found⟩ := readable setting rfl
    have kept : s.after (.asked setting) = { s with kept := some file } :=
      ask_keeps found setting []
    rw [kept]
    exact {
      environment := tells.environment
      options := tells.options
      files := tells.files
      keeps := rfl
      lookedUp := by
        rw [sectionOf, captured_cons rfl (.inl rfl), ← sectionOf, ← tells.lookedUp, found]
        rfl }

/-! ## The run -/

theorem found_of_readable (readable : ∃ file, (fileSection (s, [])).1 = .ok file) :
    ∃ file, s.lookedUp = .ok file := by
  obtain ⟨file, read⟩ := readable
  rw [fileSection_apply] at read
  cases found : s.lookedUp with
  | ok values => exact ⟨values, rfl⟩
  | error flaw =>
    rw [found] at read
    cases read

/-- What the settings hold at the end of a run is what its log says. -/
theorem tells_afterAll {log : List Event} (readable : Readable log) : Tells log (afterAll log) := by
  induction log with
  | nil => exact tells_nil
  | cons event earlier ih =>
    have before := ih fun setting older suffix =>
      readable setting older (suffix.trans (List.suffix_cons event earlier))
    apply before.after event
    intro setting asked
    subst asked
    exact found_of_readable (readable setting earlier (List.suffix_refl _))

/-- The candidate of a setting is the first one that the log knows of. -/
theorem candidate?_of_tells {log : List Event} (tells : Tells log s) (found : s.lookedUp = .ok file)
    (setting : Setting) :
    (s.candidate? file setting).map (·.2) = candidateIn log setting := by
  have fileHere : sectionOf log = .ok file := tells.lookedUp ▸ found
  unfold candidate? candidateIn
  rw [← tells.environment, ← tells.options, fileHere]
  cases s.environment.find? setting.variableName with
  | some value => rfl
  | none =>
    cases s.options.bind (·.find? setting.optionName) with
    | some value => rfl
    | none =>
      show ((file.find? setting.key).map _).map _ = ((file.find? setting.key).map _)
      rw [Option.map_map]
      rfl

theorem outcome_of_candidate {log : List Event} {setting : Setting}
    (candidate : (s.candidate? file setting).map (·.2) = candidateIn log setting) :
    (s.outcome file setting).1 = valueIn log setting := by
  unfold outcome valueIn
  rw [← candidate]
  cases s.candidate? file setting with
  | none => rfl
  | some candidate =>
    dsimp only [Option.map_some]
    cases setting.convert candidate.2 <;> rfl

/-- Options that are in use were handed over. -/
theorem adopted_of_optionsIn {log : List Event} {options : OrderedMap String Datum}
    (inUse : optionsIn log = some options) : .adopted (some options) ∈ log := by
  unfold optionsIn at inUse
  rw [Option.join_eq_some_iff, List.findSome?_eq_some_iff] at inUse
  obtain ⟨newer, event, older, rfl, given, -⟩ := inUse
  cases event with
  | adopted given' =>
    simp only [Event.options?, Option.some.injEq] at given
    simp [given]
  | _ => simp [Event.options?] at given

theorem bears_of_finite {log : List Event} (tells : Tells log s) (finite : FiniteOptions log)
    {setting : Setting} (other : setting ≠ .monitoringBind) {place : String} {given : Datum}
    (candidate : s.candidate? file setting = some (place, given)) : setting.Bears given := by
  unfold candidate? at candidate
  cases set : s.environment.find? setting.variableName with
  | some value =>
    simp only [set, Option.some.injEq, Prod.mk.injEq] at candidate
    exact candidate.2 ▸ setting.bears_text value
  | none =>
    cases option : s.options.bind (·.find? setting.optionName) with
    | none =>
      simp only [set, option, Option.map_eq_some_iff, Prod.mk.injEq] at candidate
      obtain ⟨text, -, -, rfl⟩ := candidate
      exact setting.bears_text text
    | some value =>
      simp only [set, option, Option.some.injEq, Prod.mk.injEq] at candidate
      obtain ⟨options, inUse, held⟩ := Option.bind_eq_some_iff.mp option
      rw [tells.options] at inUse
      have bounded := finite options (adopted_of_optionsIn inUse) setting.optionName value held
      rw [← candidate.2]
      cases setting with
      | planOrder | monitoringEnabled => trivial
      | monitoringBind => exact absurd rfl other
      | historyTtl | historyLimit => exact bounded

/-- At the end of a run a setting has the value that the log says: its first candidate counts,
the file as it was captured, and a candidate that cannot be converted gives way to the default. -/
theorem ask_follows (log : List Event) (setting : Setting) (other : setting ≠ .monitoringBind)
    (readable : Readable (.asked setting :: log)) (finite : FiniteOptions log)
    (notices : List Notice) :
    (ask setting (afterAll log, notices)).1 = .ok (valueIn log setting) := by
  have before : Readable log := fun asked earlier suffix =>
    readable asked earlier (suffix.trans (List.suffix_cons _ _))
  have tells := tells_afterAll before
  obtain ⟨file, found⟩ := found_of_readable (readable setting log (List.suffix_refl _))
  have borne : ∀ place given, (afterAll log).candidate? file setting = some (place, given) →
      setting.Bears given := fun place given candidate =>
    bears_of_finite tells finite other candidate
  rw [ask_of_borne found borne notices]
  show Except.ok _ = _
  rw [outcome_of_candidate (candidate?_of_tells tells found setting)]

/-- A run in which the file is written again, and no longer named, after it was read. -/
def rewrittenLog : List Event :=
  [.set fileVariable none,
    .written "rampup.conf" "[rampup]\nplan_order = preserve\n",
    .asked .historyTtl,
    .adopted (some (OrderedMap.ofList [("rampup_monitoring_history_ttl", .text "soon")])),
    .set fileVariable (some "rampup.conf"),
    .written "rampup.conf" "[rampup]\nplan_order = reject\n"]

theorem ask_follows_rewritten :
    (ask .planOrder (afterAll rewrittenLog, [])).1 = .ok (.text "reject") := by
  have readable : Readable (.asked .planOrder :: rewrittenLog) := by
    intro setting earlier suffix
    simp [rewrittenLog, List.suffix_cons_iff, -List.suffix_cons] at suffix
    rcases suffix with ⟨-, rfl⟩ | ⟨-, rfl⟩
    · exact Fallible.exists_ok_of_isSome (by decide +kernel)
    · exact Fallible.exists_ok_of_isSome (by decide +kernel)
  have finite : FiniteOptions rewrittenLog := by
    intro options adopted name value held negative
    simp [rewrittenLog] at adopted
    subst adopted
    simp [OrderedMap.ofList, OrderedMap.find?_put] at held
    simp [← held.2]
  have value : valueIn rewrittenLog .planOrder = .text "reject" := by
    decide +kernel
  rw [ask_follows rewrittenLog .planOrder (by decide) readable finite [], value]

end Rollout.Settings

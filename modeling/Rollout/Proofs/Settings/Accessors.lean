import Rollout.Proofs.Fallible
import Rollout.Settings

/-!
# Accessors of settings

The five accessors are one (`ask`): each converts the first candidate, and gives its default when
there is none or when the candidate does not fit. `outcome` says this without the state that the
accessors run in, and `ask_of_borne` says that they come to it, when two things hold. The section
of the file can be taken (`lookedUp`), and the accessor **bears** the candidate: it gives it back,
or sees that it does not fit.

What is read of the file is a function of the variables, the files and what is kept
(`fileSection_apply`), so that a reading can be followed without its notices.
-/

namespace Rollout

namespace Setting

/-- The value of a setting that no source gives. -/
def fallback : Setting → Datum
  | planOrder => .text "normalize"
  | monitoringEnabled => .bool false
  | monitoringBind => .text Settings.defaultBind
  | historyTtl => .int 3600
  | historyLimit => .int 500

/-- Reads a candidate as an address. -/
def convertAddress : Datum → Except Fault Datum
  | .text address =>
    if ':' ∈ address.toList then .ok (.text address)
    else .error (.refused "an address without a colon")
  | value => .error (.noText value.kind)

/-- Reads a candidate as a value of the setting. -/
def convert : Setting → Datum → Except Fault Datum
  | planOrder, given => (Settings.readPolicy given).map .text
  | monitoringEnabled, given => (Settings.readSwitch given).map .bool
  | monitoringBind, given => convertAddress given
  | historyTtl, given | historyLimit, given => (Settings.readPositive given).map .int

/-- The warning about a candidate that cannot be read. -/
def complaint (setting : Setting) (place : String) (given : Datum) : Notice :=
  match setting with
  | monitoringBind =>
    .warning s!"Invalid monitoring_bind format, using default: {Settings.defaultBind}"
  | _ => .warning s!"Invalid value for {place}: {given.display}, using default"

/-- The accessor of the setting copes with the candidate: a number of records or seconds is not
beyond all others, and an address can be searched for a colon and is no collection that has
one. -/
def Bears : Setting → Datum → Prop
  | planOrder, _ | monitoringEnabled, _ => True
  | monitoringBind, .text _ => True
  | monitoringBind, given => Settings.holdsColon given = .ok false
  | historyTtl, given | historyLimit, given => ∀ negative, given ≠ .infinite negative

/-- A text is borne by every accessor, so only an option can be one that is not. -/
theorem bears_text (setting : Setting) (text : String) : setting.Bears (.text text) := by
  cases setting <;> simp [Bears]

end Setting

namespace Settings

variable {α β : Type} {s : Settings} {setting : Setting} {file : Section}

/-! ## Readings -/

namespace Reading

variable (state : Settings × List Notice)

theorem pure_apply (a : α) : (pure a : Reading α) state = (.ok a, state) := rfl

theorem throw_apply (fault : Fault) : (throw fault : Reading α) state = (.error fault, state) := rfl

theorem notify_apply (notice : Notice) :
    notify notice state = (.ok (), state.1, state.2 ++ [notice]) := rfl

theorem settings_apply : settings state = (.ok state.1, state) := rfl

end Reading

/-! ## The section of the file -/

open Reading

/-- The values of the section in the text of a settings file. A text that is missing, cannot be
read or does not have the section gives none. -/
def sectionIn (text : Option String) : Except ReferenceFlaw Section :=
  match text.bind fun text => (readFile text).toOption.bind (·.section? sectionName) with
  | some values => resolveSection sectionName values
  | none => .ok OrderedMap.empty

/-- The warnings about the text at a path. -/
def warningsOn (path : String) : Option String → List Notice
  | none => [.warning s!"Config file {path} not found, using defaults"]
  | some text =>
    match readFile text with
    | .error flaw => [.warning s!"Failed to parse config file {path}: {flaw.message path}"]
    | .ok _ => []

/-- The path of the settings file, empty when no file is named. -/
def pathIn (environment : String → Option String) : String :=
  (environment fileVariable).getD ""

/-- The text at a path among files. -/
def textAt (files : String → Option String) (path : String) : Option String :=
  (plainPath? path).bind files

/-- The section in the file that the variables name. -/
def namedSection (environment files : String → Option String) : Except ReferenceFlaw Section :=
  if pathIn environment = "" then .ok OrderedMap.empty
  else sectionIn (textAt files (pathIn environment))

/-- The section in which a setting is looked up: the one that is kept, and otherwise the one in
the file that is named. -/
def lookedUp (s : Settings) : Except ReferenceFlaw Section :=
  match s.kept with
  | some values => .ok values
  | none => namedSection s.environment.find? s.files.find?

/-- The warnings about the settings file, which come when it is read. -/
def fileWarnings (s : Settings) : List Notice :=
  if s.kept.isSome ∨ pathIn s.environment.find? = "" then []
  else
    warningsOn (pathIn s.environment.find?) (textAt s.files.find? (pathIn s.environment.find?))

theorem fileText?_eq (s : Settings) (path : String) :
    s.fileText? path = textAt s.files.find? path := rfl

theorem readSection_apply (path : String) (s : Settings) (notices : List Notice) :
    readSection path (s, notices) =
      ((sectionIn (textAt s.files.find? path)).mapError .reference, s,
        notices ++ warningsOn path (textAt s.files.find? path)) := by
  unfold readSection sectionIn
  rw [Fallible.bind_apply, settings_apply]
  dsimp only
  rw [fileText?_eq]
  cases textAt s.files.find? path with
  | none => rfl
  | some text =>
    simp only [Option.bind_some, warningsOn]
    cases readFile text with
    | error flaw => rfl
    | ok file =>
      simp only [Except.toOption, Option.bind_some, List.append_nil]
      cases file.section? sectionName with
      | none => rfl
      | some values =>
        dsimp only
        cases resolveSection sectionName values <;> rfl

theorem fileSection_apply (s : Settings) (notices : List Notice) :
    fileSection (s, notices) =
      match s.lookedUp with
      | .ok values => (.ok values, { s with kept := some values }, notices ++ s.fileWarnings)
      | .error flaw => (.error (.reference flaw), s, notices ++ s.fileWarnings) := by
  unfold fileSection lookedUp fileWarnings
  rw [Fallible.bind_apply, settings_apply]
  dsimp only
  cases kept : s.kept with
  | some values =>
    have same : s = { s with kept := some values } := by rw [← kept]
    simp [pure_apply, ← same]
  | none =>
    simp only [Option.isSome_none, Bool.false_eq_true, false_or]
    unfold namedSection
    by_cases unnamed : pathIn s.environment.find? = ""
    · rw [if_pos unnamed, if_pos unnamed, List.append_nil]
      simp only [pathIn] at unnamed
      simp only [unnamed, if_true]
      rfl
    · rw [if_neg unnamed, if_neg unnamed]
      simp only [pathIn] at unnamed ⊢
      simp only [unnamed, if_false, Fallible.bind_apply, readSection_apply]
      cases sectionIn (textAt s.files.find? ((s.environment.find? fileVariable).getD "")) <;> rfl

/-! ## Conversions -/

/-- An integer that cannot be read misfits, unless the number is beyond all others. -/
theorem misfit_of_toInteger {given : Datum} {fault : Fault}
    (finite : ∀ negative, given ≠ .infinite negative)
    (fails : given.toInteger = .error fault) : isMisfit fault = true := by
  cases given with
  | infinite negative => exact absurd rfl (finite negative)
  | text s =>
    unfold Datum.toInteger at fails
    cases reads : Text.readInteger s.toList with
    | ok n => simp [reads] at fails
    | error flaw =>
      cases flaw <;> simp only [reads, Except.error.injEq] at fails <;> subst fails <;> rfl
  | _ => first | cases fails; rfl | simp [Datum.toInteger] at fails

theorem misfit_of_readPositive {given : Datum} {fault : Fault}
    (finite : ∀ negative, given ≠ .infinite negative)
    (fails : readPositive given = .error fault) : isMisfit fault = true := by
  unfold readPositive at fails
  rcases Fallible.bind_eq_error_iff.mp fails with unread | ⟨m, stands, refused⟩
  · exact misfit_of_toInteger finite unread
  · by_cases small : m < 1
    · simp only [small, bind, Except.bind, throw, throwThe, MonadExceptOf.throw, if_true,
        Except.error.injEq] at refused
      subst refused
      rfl
    · simp [small, pure, Except.pure] at refused

theorem misfit_of_readPolicy {given : Datum} {fault : Fault}
    (fails : readPolicy given = .error fault) : isMisfit fault = true := by
  simp only [readPolicy] at fails
  split at fails
  · simp at fails
  · cases fails
    rfl

theorem readSwitch_ne_error (given : Datum) (fault : Fault) : readSwitch given ≠ .error fault := by
  cases given <;> simp [readSwitch]

/-- A candidate that the accessor bears is converted or misfits. -/
theorem misfit_of_convert {given : Datum} {fault : Fault} (other : setting ≠ .monitoringBind)
    (borne : setting.Bears given) (fails : setting.convert given = .error fault) :
    isMisfit fault = true := by
  cases setting with
  | planOrder =>
    have read : (readPolicy given).map Datum.text = .error fault := fails
    exact misfit_of_readPolicy (Fallible.map_eq_error_iff.mp read)
  | monitoringEnabled =>
    exact absurd (Fallible.map_eq_error_iff.mp fails) (readSwitch_ne_error given fault)
  | monitoringBind => exact absurd rfl other
  | historyTtl => exact misfit_of_readPositive borne (Fallible.map_eq_error_iff.mp fails)
  | historyLimit => exact misfit_of_readPositive borne (Fallible.map_eq_error_iff.mp fails)

/-! ## Accessors -/

/-- Asks for a setting. -/
def ask : Setting → Reading Datum
  | .planOrder => return .text (← planOrder)
  | .monitoringEnabled => return .bool (← monitoringEnabled)
  | .monitoringBind => monitoringBind
  | .historyTtl => return .int (← historyTtl)
  | .historyLimit => return .int (← historyLimit)

theorem valueOf_map (setting : Setting) (fallback : α) (read : Datum → Except Fault α) (f : α → β) :
    (do return f (← valueOf setting fallback read)) =
      valueOf setting (f fallback) fun given => (read given).map f := by
  unfold valueOf
  simp only [bind_assoc]
  congr 1
  funext file
  congr 1
  funext settings
  cases settings.candidate? file setting with
  | none => rfl
  | some candidate =>
    dsimp only
    cases read candidate.2 with
    | ok a => rfl
    | error fault =>
      dsimp only [Except.map]
      by_cases misfit : isMisfit fault = true
      · simp [misfit]
      · simp only [misfit]
        rfl

/-- All accessors but the one for the address are one, with the setting's default and its
conversion. -/
theorem ask_eq (other : setting ≠ .monitoringBind) :
    ask setting = valueOf setting setting.fallback setting.convert := by
  cases setting with
  | planOrder => exact valueOf_map ..
  | monitoringEnabled => exact valueOf_map ..
  | monitoringBind => exact absurd rfl other
  | historyTtl => exact valueOf_map ..
  | historyLimit => exact valueOf_map ..

theorem valueOf_apply_error {flaw : ReferenceFlaw} (flawed : s.lookedUp = .error flaw)
    (fallback : α) (read : Datum → Except Fault α) (notices : List Notice) :
    valueOf setting fallback read (s, notices) =
      (.error (.reference flaw), s, notices ++ s.fileWarnings) := by
  unfold valueOf
  rw [Fallible.bind_apply, fileSection_apply, flawed]

theorem valueOf_apply (found : s.lookedUp = .ok file) (fallback : α)
    (read : Datum → Except Fault α) (notices : List Notice) :
    valueOf setting fallback read (s, notices) =
      match s.candidate? file setting with
      | none => (.ok fallback, { s with kept := some file }, notices ++ s.fileWarnings)
      | some (place, given) =>
        match read given with
        | .ok a => (.ok a, { s with kept := some file }, notices ++ s.fileWarnings)
        | .error fault =>
          if isMisfit fault then
            (.ok fallback, { s with kept := some file },
              notices ++ s.fileWarnings ++
                [.warning s!"Invalid value for {place}: {given.display}, using default"])
          else (.error fault, { s with kept := some file }, notices ++ s.fileWarnings) := by
  unfold valueOf
  rw [Fallible.bind_apply, fileSection_apply, found]
  dsimp only
  rw [Fallible.bind_apply, settings_apply]
  have same : ({ s with kept := some file } : Settings).candidate? file setting =
      s.candidate? file setting := rfl
  dsimp only
  rw [same]
  cases s.candidate? file setting with
  | none => rfl
  | some candidate =>
    dsimp only
    cases read candidate.2 with
    | ok a => rfl
    | error fault => by_cases misfit : isMisfit fault = true <;> simp only [misfit] <;> rfl

/-- What the setting comes to with the section, and the warning that this leaves. -/
def outcome (s : Settings) (file : Section) (setting : Setting) : Datum × List Notice :=
  match s.candidate? file setting with
  | none => (setting.fallback, [])
  | some (place, given) =>
    match setting.convert given with
    | .ok value => (value, [])
    | .error _ => (setting.fallback, [setting.complaint place given])

theorem complaint_eq (other : setting ≠ .monitoringBind) (place : String) (given : Datum) :
    setting.complaint place given =
      .warning s!"Invalid value for {place}: {given.display}, using default" := by
  cases setting <;> first | rfl | exact absurd rfl other

/-- The address is the candidate when it holds a colon, and the default otherwise. -/
theorem monitoringBind_apply (found : s.lookedUp = .ok file)
    (borne : ∀ place given, s.candidate? file .monitoringBind = some (place, given) →
      Setting.monitoringBind.Bears given) (notices : List Notice) :
    monitoringBind (s, notices) =
      (.ok (s.outcome file .monitoringBind).1, { s with kept := some file },
        notices ++ s.fileWarnings ++ (s.outcome file .monitoringBind).2) := by
  unfold monitoringBind outcome
  rw [Fallible.bind_apply, valueOf_apply found]
  generalize s.candidate? file .monitoringBind = candidate at borne
  cases candidate with
  | none => simp [holdsColon, defaultBind, Setting.fallback, pure_apply]
  | some candidate =>
    obtain ⟨place, given⟩ := candidate
    have borne := borne place given rfl
    dsimp only
    cases given with
    | text address =>
      by_cases colon : ':' ∈ address.toList
      · simp [holdsColon, Setting.convert, Setting.convertAddress, colon, pure_apply]
      · simp [holdsColon, Setting.convert, Setting.convertAddress, colon, Fallible.bind_apply,
          notify_apply, pure_apply, Setting.fallback, Setting.complaint]
    | _ =>
      simp only [Setting.Bears] at borne
      simp [borne, Setting.convert, Setting.convertAddress, Fallible.bind_apply, notify_apply,
        pure_apply, Setting.fallback, Setting.complaint]

/-- With a section to look in and a candidate that it bears, an accessor comes to the outcome. -/
theorem ask_of_borne (found : s.lookedUp = .ok file)
    (borne : ∀ place given, s.candidate? file setting = some (place, given) →
      setting.Bears given) (notices : List Notice) :
    ask setting (s, notices) =
      (.ok (s.outcome file setting).1, { s with kept := some file },
        notices ++ s.fileWarnings ++ (s.outcome file setting).2) := by
  by_cases other : setting = .monitoringBind
  · subst other
    exact monitoringBind_apply found borne notices
  · rw [ask_eq other, valueOf_apply found]
    unfold outcome
    generalize s.candidate? file setting = candidate at borne
    cases candidate with
    | none => simp
    | some candidate =>
      obtain ⟨place, given⟩ := candidate
      dsimp only
      cases reads : setting.convert given with
      | ok value => simp
      | error fault =>
        have misfit := misfit_of_convert other (borne place given rfl) reads
        simp only [misfit, if_true, complaint_eq other]

/-- Whatever an accessor answers, the section is kept from then on. -/
theorem ask_keeps (found : s.lookedUp = .ok file) (setting : Setting) (notices : List Notice) :
    (ask setting (s, notices)).2.1 = { s with kept := some file } := by
  by_cases other : setting = .monitoringBind
  · subst other
    show (monitoringBind (s, notices)).2.1 = _
    unfold monitoringBind
    rw [Fallible.bind_apply, valueOf_apply found]
    cases s.candidate? file .monitoringBind with
    | none => rfl
    | some candidate =>
      dsimp only
      cases holdsColon candidate.2 with
      | error fault => rfl
      | ok colon => cases colon <;> rfl
  · rw [ask_eq other, valueOf_apply found]
    cases s.candidate? file setting with
    | none => rfl
    | some candidate =>
      dsimp only
      cases setting.convert candidate.2 with
      | ok value => rfl
      | error fault => by_cases misfit : isMisfit fault = true <;> simp only [misfit] <;> rfl

end Settings

end Rollout

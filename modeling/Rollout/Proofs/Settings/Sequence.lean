import Rollout.Proofs.Settings.Delivery

/-!
# Settings asked for one after the other

The first setting that is asked for has the settings file read, and those after it find what was
read (`holding`). This makes no difference to what they answer: each answers in a sequence what it
answers when it is asked alone (`comesTo_valueOf`, `comesTo_monitoringBind`). `ComesTo` leaves the
notices out, so that the answers of a sequence can be put together by `ComesTo.bind`.
-/

namespace Rollout

namespace Settings

variable {α β : Type} {s t after : Settings} {file : Section} {setting : Setting}

/-- From the settings the reading comes to the answer, and it leaves these settings. -/
def ComesTo (reading : Reading α) (s after : Settings) (answer : Except Fault α) : Prop :=
  ∀ notices, ∃ left, reading (s, notices) = (answer, after, left)

variable {reading : Reading α} {next : α → Reading β} {answer : Except Fault β}

theorem comesTo_pure (a : α) (s : Settings) : ComesTo (pure a) s s (.ok a) :=
  fun notices => ⟨notices, rfl⟩

theorem ComesTo.bind {a : α} (first : ComesTo reading s t (.ok a))
    (second : ComesTo (next a) t after answer) : ComesTo (reading >>= next) s after answer := by
  intro notices
  obtain ⟨between, comes⟩ := first notices
  rw [Fallible.bind_apply, comes]
  exact second between

theorem comesTo_notify (notice : Notice) (s : Settings) :
    ComesTo (Reading.notify notice) s s (.ok ()) :=
  fun _ => ⟨_, rfl⟩

/-- The settings with the section of the file in hand. -/
def holding (s : Settings) (file : Section) : Settings :=
  { s with kept := some file }

/-! ## Values -/

/-- A setting is read alike before and after the section was taken, and with any notices. -/
theorem comesTo_valueOf (found : s.lookedUp = .ok file) (fallback : α)
    (read : Datum → Except Fault α) (start : t = s ∨ t = s.holding file) :
    ComesTo (valueOf setting fallback read) t (s.holding file)
      (valueOf setting fallback read (s, [])).1 := by
  intro notices
  have foundThere : t.lookedUp = .ok file := by
    rcases start with rfl | rfl
    · exact found
    · rfl
  have candidate : t.candidate? file setting = s.candidate? file setting := by
    rcases start with rfl | rfl <;> rfl
  have held : { t with kept := some file } = s.holding file := by
    rcases start with rfl | rfl <;> rfl
  -- the value hangs on the candidate alone, which is looked up in one section either way
  rw [valueOf_apply found, valueOf_apply foundThere, candidate, held]
  cases s.candidate? file setting with
  | none => exact ⟨_, rfl⟩
  | some candidate =>
    dsimp only
    cases read candidate.2 with
    | ok a => exact ⟨_, rfl⟩
    | error fault =>
      by_cases misfit : isMisfit fault = true
      · simp only [misfit, if_true]
        exact ⟨_, rfl⟩
      · simp only [misfit]
        exact ⟨_, rfl⟩

theorem lookedUp_of_valueOf {fallback a : α} {read : Datum → Except Fault α}
    (given : (valueOf setting fallback read (s, [])).1 = .ok a) :
    ∃ file, s.lookedUp = .ok file := by
  cases found : s.lookedUp with
  | ok file => exact ⟨file, rfl⟩
  | error flaw =>
    rw [valueOf_apply_error found] at given
    cases given

/-- A value is the default, or was read. -/
theorem eq_or_read_of_valueOf (found : s.lookedUp = .ok file) {fallback a : α}
    {read : Datum → Except Fault α} (given : (valueOf setting fallback read (s, [])).1 = .ok a) :
    a = fallback ∨ ∃ value, read value = .ok a := by
  rw [valueOf_apply found] at given
  cases candidate : s.candidate? file setting with
  | none =>
    rw [candidate] at given
    exact .inl (Except.ok.inj given).symm
  | some first =>
    rw [candidate] at given
    dsimp only at given
    cases reads : read first.2 with
    | ok b =>
      rw [reads] at given
      exact .inr ⟨first.2, reads.trans given⟩
    | error fault =>
      rw [reads] at given
      dsimp only at given
      by_cases misfit : isMisfit fault = true
      · rw [if_pos misfit] at given
        exact .inl (Except.ok.inj given).symm
      · rw [if_neg misfit] at given
        cases given

theorem one_le_of_valueOf (found : s.lookedUp = .ok file) {fallback n : Int}
    (positive : 1 ≤ fallback) (given : (valueOf setting fallback readPositive (s, [])).1 = .ok n) :
    1 ≤ n := by
  rcases eq_or_read_of_valueOf found given with rfl | ⟨value, reads⟩
  · exact positive
  · exact one_le_of_readPositive reads

/-! ## The address -/

/-- The address is the value that is read, if it holds a colon, and otherwise the default. -/
theorem read_of_monitoringBind {bind : Datum}
    (given : (monitoringBind (s, [])).1 = .ok bind) :
    ∃ value, (valueOf .monitoringBind (.text defaultBind) .ok (s, [])).1 = .ok value ∧
      (holdsColon value = .ok true ∧ bind = value ∨
        holdsColon value = .ok false ∧ bind = .text defaultBind) := by
  rw [monitoringBind, Fallible.bind_apply] at given
  generalize valueOf .monitoringBind (.text defaultBind) .ok (s, []) = outcome at given ⊢
  obtain ⟨answer, left⟩ := outcome
  cases answer with
  | error fault => cases given
  | ok value =>
    refine ⟨value, rfl, ?_⟩
    dsimp only at given
    cases holds : holdsColon value with
    | error fault =>
      rw [holds] at given
      cases given
    | ok colon =>
      rw [holds] at given
      cases colon with
      | true => exact .inl ⟨rfl, (Except.ok.inj given).symm⟩
      | false => exact .inr ⟨rfl, (Except.ok.inj given).symm⟩

theorem comesTo_monitoringBind (found : s.lookedUp = .ok file) {bind : Datum}
    (given : (monitoringBind (s, [])).1 = .ok bind) :
    ComesTo monitoringBind (s.holding file) (s.holding file) (.ok bind) := by
  obtain ⟨value, read, chosen⟩ := read_of_monitoringBind given
  have comes : ComesTo (valueOf .monitoringBind (.text defaultBind) .ok) (s.holding file)
      (s.holding file) (.ok value) :=
    read ▸ comesTo_valueOf found (.text defaultBind) .ok (.inr rfl)
  refine comes.bind ?_
  rcases chosen with ⟨holds, rfl⟩ | ⟨lacks, rfl⟩
  · rw [holds]
    exact comesTo_pure _ _
  · rw [lacks]
    exact (comesTo_notify _ _).bind (comesTo_pure _ _)

/-- An address that is a text holds a colon. -/
theorem colon_of_monitoringBind {address : String}
    (given : (monitoringBind (s, [])).1 = .ok (.text address)) : ':' ∈ address.toList := by
  obtain ⟨value, -, ⟨holds, rfl⟩ | ⟨-, same⟩⟩ := read_of_monitoringBind given
  · simpa [holdsColon] using holds
  · obtain rfl := Datum.text.inj same
    decide

end Settings

end Rollout

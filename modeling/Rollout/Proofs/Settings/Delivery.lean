import Rollout.Proofs.Settings.Accessors

/-!
# Settings that are delivered

A setting **admits** some values: the names of policies, truth values, addresses with a colon, and
integers from 1 on. It is **delivered** when its accessor answers one of these, read from the first
candidate, and the default after a warning when the candidate cannot be read. `delivers_iff` says
for which settings and sources this is so. Two things are in the way of it: a reference in the
file that cannot be resolved, where a stray percent sign is the least of them, and an option of a
kind that the accessor does not look out for. No variable and no text in the file is of such a
kind (`bears_text`).
-/

namespace Rollout

namespace Setting

/-- The setting may have the value. -/
def Admits : Setting → Datum → Prop
  | planOrder, value => ∃ policy ∈ WalkPolicy.names, value = .text policy
  | monitoringEnabled, value => ∃ on : Bool, value = .bool on
  | monitoringBind, value => ∃ address : String, value = .text address ∧ ':' ∈ address.toList
  | historyTtl, value | historyLimit, value => ∃ n : Int, value = .int n ∧ 1 ≤ n

theorem admits_fallback (setting : Setting) : setting.Admits setting.fallback := by
  cases setting with
  | planOrder => exact ⟨"normalize", by decide, rfl⟩
  | monitoringEnabled => exact ⟨false, rfl⟩
  | monitoringBind => exact ⟨Settings.defaultBind, rfl, by decide⟩
  | historyTtl => exact ⟨3600, rfl, by decide⟩
  | historyLimit => exact ⟨500, rfl, by decide⟩

end Setting

namespace Settings

open Reading

/-! ## Values that conversions give -/

theorem mem_names_of_readPolicy {given : Datum} {policy : String}
    (reads : readPolicy given = .ok policy) : policy ∈ WalkPolicy.names := by
  simp only [readPolicy] at reads
  split at reads
  · rename_i known
    cases reads
    simpa using known
  · simp at reads

theorem one_le_of_readPositive {given : Datum} {n : Int} (reads : readPositive given = .ok n) :
    1 ≤ n := by
  unfold readPositive at reads
  obtain ⟨m, stands, read⟩ := Fallible.bind_eq_ok_iff.mp reads
  by_cases small : m < 1
  · simp [small, bind, Except.bind, throw, throwThe, MonadExceptOf.throw] at read
  · have same : m = n := by simpa [small, pure, Except.pure] using read
    omega

theorem address_of_convertAddress {given value : Datum}
    (reads : Setting.convertAddress given = .ok value) :
    ∃ address : String, value = .text address ∧ ':' ∈ address.toList := by
  unfold Setting.convertAddress at reads
  split at reads
  · rename_i address
    split at reads
    · rename_i colon
      cases reads
      exact ⟨address, rfl, colon⟩
    · simp at reads
  · simp at reads

variable {s : Settings} {setting : Setting} {file : Section}

/-- A conversion gives a value that the setting may have. -/
theorem admits_of_convert {given value : Datum} (reads : setting.convert given = .ok value) :
    setting.Admits value := by
  cases setting with
  | planOrder =>
    obtain ⟨policy, read, rfl⟩ := Fallible.map_eq_ok_iff.mp reads
    exact ⟨policy, mem_names_of_readPolicy read, rfl⟩
  | monitoringEnabled =>
    obtain ⟨on, -, rfl⟩ := Fallible.map_eq_ok_iff.mp reads
    exact ⟨on, rfl⟩
  | monitoringBind => exact address_of_convertAddress reads
  | historyTtl | historyLimit =>
    obtain ⟨n, read, rfl⟩ := Fallible.map_eq_ok_iff.mp reads
    exact ⟨n, rfl, one_le_of_readPositive read⟩

theorem admits_outcome (s : Settings) (file : Section) (setting : Setting) :
    setting.Admits (s.outcome file setting).1 := by
  unfold outcome
  cases s.candidate? file setting with
  | none => exact setting.admits_fallback
  | some candidate =>
    dsimp only
    cases reads : setting.convert candidate.2 with
    | ok value => exact admits_of_convert reads
    | error fault => exact setting.admits_fallback

/-! ## Delivery -/

/-- The accessor gives a value that the setting may have: that of the first candidate, or the
default when there is none, and when the candidate does not fit the default after a warning. -/
def Delivers (s : Settings) (setting : Setting) : Prop :=
  ∃ file : Section, ∀ notices,
    setting.Admits (s.outcome file setting).1 ∧
      ask setting (s, notices) =
        ((.ok (s.outcome file setting).1, { s with kept := some file },
          notices ++ s.fileWarnings ++ (s.outcome file setting).2) : _ × Settings × List Notice)

/-- A flaw in the file reaches whoever asks. -/
theorem not_delivers_of_flawed {flaw : ReferenceFlaw} (flawed : s.lookedUp = .error flaw) :
    ¬ s.Delivers setting := by
  intro ⟨file, delivers⟩
  have answer := congrArg Prod.fst (delivers []).2
  by_cases other : setting = .monitoringBind
  · subst other
    rw [ask, monitoringBind, Fallible.bind_apply, valueOf_apply_error flawed] at answer
    simp at answer
  · rw [ask_eq other, valueOf_apply_error flawed] at answer
    simp at answer

/-- A candidate that the accessor does not bear is given back as it is, or is a fault. -/
theorem bears_of_delivers (found : s.lookedUp = .ok file) {place : String} {given : Datum}
    (candidate : s.candidate? file setting = some (place, given)) (delivers : s.Delivers setting) :
    setting.Bears given := by
  obtain ⟨other, delivers⟩ := delivers
  obtain ⟨admitted, delivered⟩ := delivers []
  have answer := congrArg Prod.fst delivered
  cases setting with
  | planOrder | monitoringEnabled => trivial
  | monitoringBind =>
    rw [ask, monitoringBind, Fallible.bind_apply, valueOf_apply found, candidate] at answer
    dsimp only at answer
    cases holds : holdsColon given with
    | error fault => simp [holds, throw_apply] at answer
    | ok colon =>
      cases given with
      | text address => trivial
      | _ =>
        cases colon with
        | false => exact holds
        | true =>
          simp only [holds, pure_apply, Except.ok.injEq] at answer
          obtain ⟨address, isText, -⟩ := admitted
          rw [← answer] at isText
          cases isText
  | historyTtl | historyLimit =>
    intro negative infinite
    subst infinite
    rw [ask_eq (by decide), valueOf_apply found, candidate] at answer
    simp [Setting.convert, readPositive, Datum.toInteger, Except.map, bind, Except.bind, isMisfit,
      Fault.isRefusal, Fault.isMismatch] at answer

/-- An accessor delivers just when the section of the file can be taken and the first candidate
is one that it bears. -/
theorem delivers_iff (s : Settings) (setting : Setting) :
    s.Delivers setting ↔
      ∃ file, s.lookedUp = .ok file ∧
        ∀ place given, s.candidate? file setting = some (place, given) → setting.Bears given := by
  constructor
  · intro delivers
    cases found : s.lookedUp with
    | error flaw => exact absurd delivers (not_delivers_of_flawed found)
    | ok file =>
      exact ⟨file, rfl, fun place given candidate => bears_of_delivers found candidate delivers⟩
  · intro ⟨file, found, borne⟩
    exact ⟨file, fun notices => ⟨admits_outcome s file setting, ask_of_borne found borne notices⟩⟩

/-- The file that is named has a stray percent sign. -/
def strayFile : Settings where
  environment := OrderedMap.ofList [(fileVariable, "rampup.conf")]
  files := OrderedMap.ofList [("rampup.conf", "[rampup]\nmonitoring_history_ttl = 50%\n")]

/-- The host leaves the address open. -/
def openAddress : Settings where
  options := some (OrderedMap.ofList [("rampup_monitoring_bind", .null)])

/-- Neither of the two things that are in the way is one of form: a sign in a number of seconds
fails the reading of the whole file, and an address that is missing cannot be searched. -/
theorem not_delivers :
    ¬ strayFile.Delivers .historyTtl ∧ ¬ openAddress.Delivers .monitoringBind := by
  constructor
  · have unread : strayFile.lookedUp.toOption.isNone = true := by decide +kernel
    cases found : strayFile.lookedUp with
    | error flaw => exact not_delivers_of_flawed found
    | ok file =>
      rw [found] at unread
      cases unread
  · intro delivers
    have found : openAddress.lookedUp = .ok OrderedMap.empty := rfl
    have candidate : openAddress.candidate? OrderedMap.empty .monitoringBind =
        some ("rampup_monitoring_bind", .null) := by decide +kernel
    have borne := bears_of_delivers found candidate delivers
    exact absurd borne (by simp [Setting.Bears, holdsColon])

end Settings

end Rollout

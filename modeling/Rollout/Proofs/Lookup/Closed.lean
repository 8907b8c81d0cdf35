import Rollout.Proofs.Fault.External
import Rollout.Proofs.Lookup.Leads

/-!
# Properties of look-ups that survive composition

A property of look-ups is **closed** when steps that put no question have it, and when it passes
from the parts of a sequence to the whole. A closed property that every question of a program has
is one of the program, so what the program consists of is gone through once for all such properties.

Those in use: that no question is put (`closed_quiet`), that the calls are of a kind
(`closed_asks`), that the calls made before determine the result (`closed_determined`), and that
only some of these calls have an influence on it (`closed_heeds`).

The last step of a request puts no question either, but it notes the resolution and may say that
types are unresolved. A property that this step does not have may still hold of all steps before
it, which are **silent**. For such a property it is enough to be `Composed`.
-/

namespace Rollout.Lookup

variable {α β : Type}

/-- The look-up gives one result whatever the journal, and puts no question. -/
def IsQuiet (lookup : Lookup α) : Prop :=
  ∃ result, ∀ journal : Journal,
    (lookup journal).1 = result ∧ (lookup journal).2.calls = journal.calls

theorem quiet_pure (a : α) : IsQuiet (pure a) := ⟨.ok a, fun _ => ⟨rfl, rfl⟩⟩

theorem quiet_throw (fault : Fault) : IsQuiet (throw fault : Lookup α) :=
  ⟨.error fault, fun _ => ⟨rfl, rfl⟩⟩

theorem quiet_give (given : Except Fault α) : IsQuiet (give given) :=
  ⟨given, fun _ => ⟨rfl, rfl⟩⟩

theorem quiet_warn (text : String) : IsQuiet (warn text) := ⟨.ok (), fun _ => ⟨rfl, rfl⟩⟩

theorem quiet_reach (resolution : Resolution) : IsQuiet (reach resolution) :=
  ⟨.ok (), fun _ => ⟨rfl, rfl⟩⟩

/-- The look-up is quiet, notes no resolution and says of no type that it is unresolved. -/
def IsSilent (lookup : Lookup α) : Prop :=
  ∃ result, Fallible.FailsOnly (fun fault => ¬ fault.IsUnresolved) result ∧
    ∀ journal : Journal, (lookup journal).1 = result ∧
      (lookup journal).2.calls = journal.calls ∧ (lookup journal).2.reached = journal.reached

theorem IsSilent.quiet {lookup : Lookup α} (silent : lookup.IsSilent) : lookup.IsQuiet := by
  obtain ⟨result, -, still⟩ := silent
  exact ⟨result, fun journal => ⟨(still journal).1, (still journal).2.1⟩⟩

theorem silent_pure (a : α) : IsSilent (pure a) :=
  ⟨.ok a, Fallible.failsOnly_ok a, fun _ => ⟨rfl, rfl, rfl⟩⟩

theorem silent_throw {fault : Fault} (settled : ¬ fault.IsUnresolved) :
    IsSilent (throw fault : Lookup α) :=
  ⟨.error fault, Fallible.failsOnly_error settled, fun _ => ⟨rfl, rfl, rfl⟩⟩

theorem silent_give {given : Except Fault α} (fails : Fallible.FailsOnly Fault.IsExternal given) :
    IsSilent (give given) :=
  ⟨given, fails.imp fun _ => Fault.IsExternal.not_isUnresolved, fun _ => ⟨rfl, rfl, rfl⟩⟩

theorem silent_settle {step : Except Fault α × List Notice}
    (fails : Fallible.FailsOnly Fault.IsExternal step.1) : IsSilent (settle step) :=
  ⟨step.1, fails.imp fun _ => Fault.IsExternal.not_isUnresolved, fun _ => ⟨rfl, rfl, rfl⟩⟩

theorem silent_warn (text : String) : IsSilent (warn text) :=
  ⟨.ok (), Fallible.failsOnly_ok (), fun _ => ⟨rfl, rfl, rfl⟩⟩

/-- The property holds of silent steps, and of what is composed of look-ups that have it. -/
structure Composed (P : ∀ ⦃α : Type⦄, Lookup α → Prop) : Prop where
  silent : ∀ {α : Type} {lookup : Lookup α}, lookup.IsSilent → P lookup
  bind : ∀ {α β : Type} {first : Lookup α} {next : α → Lookup β}, P first → (∀ a, P (next a)) →
    P (first >>= next)
  orElse : ∀ {α : Type} {first : Lookup α} {recover : Fault → Lookup α}, P first →
    (∀ fault, P (recover fault)) → P (first.orElse recover)

/-- The property holds of steps without a question, and of what is composed of look-ups that have
it. -/
structure Closed (P : ∀ ⦃α : Type⦄, Lookup α → Prop) : Prop where
  quiet : ∀ {α : Type} {lookup : Lookup α}, lookup.IsQuiet → P lookup
  bind : ∀ {α β : Type} {first : Lookup α} {next : α → Lookup β}, P first → (∀ a, P (next a)) →
    P (first >>= next)
  orElse : ∀ {α : Type} {first : Lookup α} {recover : Fault → Lookup α}, P first →
    (∀ fault, P (recover fault)) → P (first.orElse recover)

theorem Closed.composed {P : ∀ ⦃α : Type⦄, Lookup α → Prop} (closed : Closed P) : Composed P where
  silent := fun silent => closed.quiet silent.quiet
  bind := closed.bind
  orElse := closed.orElse

theorem closed_quiet : Closed fun _ lookup => lookup.IsQuiet where
  quiet := id
  bind := by
    rintro α β first next ⟨result, still⟩ onward
    cases result with
    | error fault =>
      refine ⟨.error fault, fun journal => ?_⟩
      have here := still journal
      rw [Fallible.bind_apply]
      revert here
      rcases first journal with ⟨result, after⟩
      rintro ⟨rfl, unchanged⟩
      exact ⟨rfl, unchanged⟩
    | ok a =>
      obtain ⟨last, later⟩ := onward a
      refine ⟨last, fun journal => ?_⟩
      have here := still journal
      rw [Fallible.bind_apply]
      revert here
      rcases first journal with ⟨result, after⟩
      rintro ⟨rfl, unchanged⟩
      exact ⟨(later after).1, (later after).2.trans unchanged⟩
  orElse := by
    rintro α first recover ⟨result, still⟩ onward
    cases result with
    | ok a =>
      refine ⟨.ok a, fun journal => ?_⟩
      have here := still journal
      simp only [Lookup.orElse]
      revert here
      rcases first journal with ⟨result, after⟩
      rintro ⟨rfl, unchanged⟩
      exact ⟨rfl, unchanged⟩
    | error fault =>
      obtain ⟨last, later⟩ := onward fault
      refine ⟨last, fun journal => ?_⟩
      have here := still journal
      simp only [Lookup.orElse]
      revert here
      rcases first journal with ⟨result, after⟩
      rintro ⟨rfl, unchanged⟩
      exact ⟨(later after).1, (later after).2.trans unchanged⟩

theorem closed_asks (kind : Call → Prop) : Closed fun _ lookup => lookup.Asks kind where
  quiet := by
    rintro α lookup ⟨result, still⟩
    exact asks_nothing fun journal => (still journal).2
  bind := Asks.bind
  orElse := Asks.orElse

/-- The calls made before determine the result, and those made by then. -/
def Determined (lookup : Lookup α) : Prop :=
  ∀ calls, ∃ arrived made, lookup.Arrives calls arrived made

theorem closed_determined : Closed fun _ lookup => lookup.Determined where
  quiet := by
    rintro α lookup ⟨result, still⟩ calls
    refine ⟨result, calls, ?_⟩
    rintro journal rfl
    obtain ⟨same, none_made⟩ := still journal
    rw [none_made]
    exact ⟨List.prefix_rfl, same, rfl⟩
  bind := by
    intro α β first next determined onward calls
    obtain ⟨arrived, made, arrives⟩ := determined calls
    cases arrived with
    | error fault => exact ⟨_, _, arrives.bind_error⟩
    | ok a =>
      obtain ⟨last, all_made, second⟩ := onward a made
      exact ⟨last, all_made, arrives.bind_ok second⟩
  orElse := by
    intro α first recover determined onward calls
    obtain ⟨arrived, made, arrives⟩ := determined calls
    cases arrived with
    | ok a => exact ⟨_, _, arrives.orElse_ok recover⟩
    | error fault =>
      obtain ⟨last, all_made, second⟩ := onward fault made
      exact ⟨last, all_made, arrives.orElse_error recover second⟩

theorem determined_ask (call : Call) (source : List Call → Except Fault α) :
    (ask call source).Determined :=
  fun _ => ⟨_, _, arrives_ask call rfl⟩

theorem determined_askThrough (call : Call) (source : List Call → Except Fault α × List Call) :
    (askThrough call source).Determined :=
  fun _ => ⟨_, _, arrives_askThrough call rfl⟩

/-- Of the calls made before, only those that are heeded have an influence on the result and on the
heeded calls made by then. -/
def Heeds (lookup : Lookup α) (heeded : Call → Bool) : Prop :=
  ∀ journal journal' : Journal, journal.calls.filter heeded = journal'.calls.filter heeded →
    (lookup journal).1 = (lookup journal').1 ∧
      (lookup journal).2.calls.filter heeded = (lookup journal').2.calls.filter heeded

theorem closed_heeds (heeded : Call → Bool) : Closed fun _ lookup => lookup.Heeds heeded where
  quiet := by
    rintro α lookup ⟨result, still⟩ journal journal' same
    rw [(still journal).1, (still journal').1, (still journal).2, (still journal').2]
    exact ⟨rfl, same⟩
  bind := by
    intro α β first next heeds onward journal journal' same
    have alike := heeds journal journal' same
    rw [Fallible.bind_apply, Fallible.bind_apply]
    revert alike
    rcases first journal with ⟨result, after⟩
    rcases first journal' with ⟨result', after'⟩
    rintro ⟨rfl, same⟩
    cases result with
    | error fault => exact ⟨rfl, same⟩
    | ok a => exact onward a after after' same
  orElse := by
    intro α first recover heeds onward journal journal' same
    have alike := heeds journal journal' same
    simp only [Lookup.orElse]
    revert alike
    rcases first journal with ⟨result, after⟩
    rcases first journal' with ⟨result', after'⟩
    rintro ⟨rfl, same⟩
    cases result with
    | ok a => exact ⟨rfl, same⟩
    | error fault => exact onward fault after after' same

theorem heeds_ask {heeded : Call → Bool} (call : Call) {source : List Call → Except Fault α}
    (same : ∀ calls calls', calls.filter heeded = calls'.filter heeded →
      source calls = source calls') : (ask call source).Heeds heeded := by
  intro journal journal' alike
  refine ⟨same _ _ alike, ?_⟩
  simp only [ask, List.filter_append, alike]

theorem heeds_askThrough {heeded : Call → Bool} (call : Call)
    {source : List Call → Except Fault α × List Call}
    (same : ∀ calls calls', calls.filter heeded = calls'.filter heeded →
      source calls = source calls') : (askThrough call source).Heeds heeded := by
  intro journal journal' alike
  simp only [askThrough, same _ _ alike, List.filter_append, alike, and_self]

end Rollout.Lookup

import Rollout.Proofs.Fallible
import Rollout.Sources

/-!
# Look-ups that do not read the journal

A look-up **yields** a result when it gives this result from every journal. Sources that give the
same answers whatever was asked before yield their answers, and a sequence of look-ups yields what
its parts yield one after the other, as if they were plain computations that may fail.

Often it is enough to know of what kind the result is, and of what kind the fault (`Ends`).
-/

namespace Rollout.Lookup

variable {α β : Type}

/-- Whatever the journal, the look-up gives the result. -/
def Yields (lookup : Lookup α) (result : Except Fault α) : Prop :=
  ∀ journal : Journal, (lookup journal).1 = result

theorem Yields.start_eq {lookup : Lookup α} {result : Except Fault α}
    (yields : lookup.Yields result) : lookup.start.1 = result :=
  yields {}

theorem bind_pure_apply (lookup : Lookup α) (f : α → β) (journal : Journal) :
    (lookup >>= fun a => pure (f a)) journal =
      ((lookup journal).1.map f, (lookup journal).2) := by
  rw [Fallible.bind_apply]
  rcases lookup journal with ⟨result, after⟩
  cases result <;> rfl

/-! ## Steps -/

theorem yields_pure (a : α) : Yields (pure a) (.ok a) := fun _ => rfl

theorem yields_throw (fault : Fault) : Yields (throw fault : Lookup α) (.error fault) :=
  fun _ => rfl

theorem yields_give {given result : Except Fault α} (same : given = result) :
    Yields (give given) result :=
  fun _ => same

theorem yields_settle {step : Except Fault α × List Notice} {result : Except Fault α}
    (same : step.1 = result) : Yields (settle step) result :=
  fun _ => same

theorem yields_reach (resolution : Resolution) : Yields (reach resolution) (.ok ()) :=
  fun _ => rfl

theorem yields_ask (call : Call) {source : List Call → Except Fault α} {result : Except Fault α}
    (same : ∀ calls, source calls = result) : Yields (ask call source) result :=
  fun journal => same journal.calls

theorem yields_askThrough (call : Call) {source : List Call → Except Fault α × List Call}
    {result : Except Fault α} (same : ∀ calls, (source calls).1 = result) :
    Yields (askThrough call source) result :=
  fun journal => same journal.calls

/-! ## Sequences -/

theorem Yields.bind_ok {lookup : Lookup α} {next : α → Lookup β} {a : α}
    {result : Except Fault β} (first : lookup.Yields (.ok a)) (second : (next a).Yields result) :
    (lookup >>= next).Yields result := by
  intro journal
  have here := first journal
  rw [Fallible.bind_apply]
  revert here
  rcases lookup journal with ⟨answer, after⟩
  rintro ⟨⟩
  exact second after

theorem Yields.bind_error {lookup : Lookup α} {next : α → Lookup β} {fault : Fault}
    (first : lookup.Yields (.error fault)) : (lookup >>= next).Yields (.error fault) := by
  intro journal
  have here := first journal
  rw [Fallible.bind_apply]
  revert here
  rcases lookup journal with ⟨answer, after⟩
  rintro ⟨⟩
  rfl

theorem Yields.orElse_ok {lookup : Lookup α} {a : α} (first : lookup.Yields (.ok a))
    (recover : Fault → Lookup α) : (lookup.orElse recover).Yields (.ok a) := by
  intro journal
  have here := first journal
  rw [Lookup.orElse]
  revert here
  rcases lookup journal with ⟨answer, after⟩
  rintro ⟨⟩
  rfl

theorem Yields.orElse_error {lookup : Lookup α} {recover : Fault → Lookup α} {fault : Fault}
    {result : Except Fault α} (first : lookup.Yields (.error fault))
    (second : (recover fault).Yields result) : (lookup.orElse recover).Yields result := by
  intro journal
  have here := first journal
  rw [Lookup.orElse]
  revert here
  rcases lookup journal with ⟨answer, after⟩
  rintro ⟨⟩
  exact second after

/-! ## Two ways to end -/

/-- Whatever the journal, the look-up gives one and the same result, of which `good` holds, or one
and the same fault, of which `bad` holds. -/
def Ends (lookup : Lookup α) (good : α → Prop) (bad : Fault → Prop) : Prop :=
  (∃ a, good a ∧ lookup.Yields (.ok a)) ∨ ∃ fault, bad fault ∧ lookup.Yields (.error fault)

theorem Ends.after {lookup : Lookup α} {next : α → Lookup β} {good : β → Prop}
    {bad : Fault → Prop} {a : α} (step : lookup.Yields (.ok a)) (ends : (next a).Ends good bad) :
    (lookup >>= next).Ends good bad := by
  rcases ends with ⟨b, holds, done⟩ | ⟨fault, holds, failed⟩
  · exact .inl ⟨b, holds, step.bind_ok done⟩
  · exact .inr ⟨fault, holds, step.bind_ok failed⟩

theorem Ends.bind {lookup : Lookup α} {next : α → Lookup β} {middle : α → Prop}
    {good : β → Prop} {bad : Fault → Prop} (ends : lookup.Ends middle bad)
    (onward : ∀ a, middle a → (next a).Ends good bad) : (lookup >>= next).Ends good bad := by
  rcases ends with ⟨a, holds, done⟩ | ⟨fault, holds, failed⟩
  · exact .after done (onward a holds)
  · exact .inr ⟨fault, holds, failed.bind_error⟩

theorem Ends.imp {lookup : Lookup α} {good good' : α → Prop} {bad bad' : Fault → Prop}
    (ends : lookup.Ends good bad) (results : ∀ a, good a → good' a)
    (faults : ∀ fault, bad fault → bad' fault) : lookup.Ends good' bad' := by
  rcases ends with ⟨a, holds, done⟩ | ⟨fault, holds, failed⟩
  · exact .inl ⟨a, results a holds, done⟩
  · exact .inr ⟨fault, faults fault holds, failed⟩

end Rollout.Lookup

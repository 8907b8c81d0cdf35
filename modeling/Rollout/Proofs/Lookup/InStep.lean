import Rollout.Proofs.Lookup.Yields

/-!
# Look-ups in step

Two look-ups are **in step** when they both succeed, from any two journals that list the same calls,
with related values, and make the same calls on the way. The notices that they leave may differ.
Sources answer by the calls made before them, so look-ups in step meet sources in the same state.
-/

namespace Rollout.Lookup

variable {α β γ δ : Type}

/-- From journals with the same calls both look-ups succeed with related values, and make the same
calls. -/
def InStep (related : α → β → Prop) (first : Lookup α) (second : Lookup β) : Prop :=
  ∀ journal journal' : Journal, journal.calls = journal'.calls →
    ∃ a b, (first journal).1 = .ok a ∧ (second journal').1 = .ok b ∧ related a b ∧
      (first journal).2.calls = (second journal').2.calls

theorem inStep_pure {related : α → β → Prop} {a : α} {b : β} (h : related a b) :
    InStep related (pure a) (pure b) :=
  fun _ _ same => ⟨a, b, rfl, rfl, h, same⟩

theorem inStep_give {related : α → β → Prop} {given : Except Fault α} {given' : Except Fault β}
    {a : α} {b : β} (left : given = .ok a) (right : given' = .ok b) (h : related a b) :
    InStep related (give given) (give given') :=
  fun _ _ same => ⟨a, b, left, right, h, same⟩

theorem inStep_settle {related : α → α → Prop} {step : Except Fault α × List Notice} {a : α}
    (made : step.1 = .ok a) (h : related a a) : InStep related (settle step) (settle step) :=
  fun _ _ same => ⟨a, a, made, made, h, same⟩

theorem inStep_reach (resolution resolution' : Resolution) :
    InStep (fun _ _ => True) (reach resolution) (reach resolution') :=
  fun _ _ same => ⟨(), (), rfl, rfl, trivial, same⟩

theorem InStep.bind {related : α → β → Prop} {related' : γ → δ → Prop} {first : Lookup α}
    {second : Lookup β} {next : α → Lookup γ} {next' : β → Lookup δ}
    (step : InStep related first second)
    (later : ∀ a b, related a b → InStep related' (next a) (next' b)) :
    InStep related' (first >>= next) (second >>= next') := by
  intro journal journal' same
  obtain ⟨a, b, left, right, h, same⟩ := step journal journal' same
  rw [Fallible.bind_apply, Fallible.bind_apply]
  revert left right same
  rcases first journal with ⟨result, after⟩
  rcases second journal' with ⟨result', after'⟩
  rintro ⟨⟩ ⟨⟩ same
  exact later a b h after after' same

/-- The answer, or the empty one in place of a fault. -/
def answered (answer : Except Fault α) (empty : α) : Except Fault α :=
  match answer with
  | .ok a => .ok a
  | .error _ => .ok empty

/-- A call whose fault is caught is in step with the call that gives the empty answer instead. -/
theorem inStep_caught {related : α → α → Prop} (call : Call) (source : List Call → Except Fault α)
    {default empty : α} (text : Fault → String)
    (answers : ∀ calls a, source calls = .ok a → related a a) (fails : related default empty) :
    InStep related
      ((ask call source).orElse fun fault => do
        warn (text fault)
        return default)
      ((ask call fun calls => answered (source calls) empty).orElse fun fault => do
        warn (text fault)
        return default) := by
  intro journal journal' same
  cases found : source journal.calls with
  | ok a =>
    refine ⟨a, a, ?_, ?_, answers _ a found, ?_⟩
    · simp only [orElse, ask, found]
    · simp only [orElse, ask, answered, ← same, found]
    · simp only [orElse, ask, answered, ← same, found]
  | error fault =>
    refine ⟨default, empty, ?_, ?_, fails, ?_⟩
    · simp only [orElse, ask, found]
      rfl
    · simp only [orElse, ask, answered, ← same, found]
    · simp only [orElse, ask, answered, ← same, found]
      rfl

end Rollout.Lookup

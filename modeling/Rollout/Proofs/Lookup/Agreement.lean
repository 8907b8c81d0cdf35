import Rollout.Proofs.Lookup.Closed

/-!
# Look-ups that agree

Two look-ups **agree** when, whatever was asked before, they come to related values or to one and
the same fault, and make the same calls on the way. What else they leave in the journal may differ.
Agreement passes from the parts of a sequence to the whole (`Agree.bind`), and every look-up that is
determined by the calls before it agrees with itself (`Determined.agree`).
-/

namespace Rollout

variable {α β γ δ : Type}

/-- The results are related values, or both are the fault. -/
inductive SameResults (related : α → β → Prop) : Except Fault α → Except Fault β → Prop where
  | ok {a : α} {b : β} (holds : related a b) : SameResults related (.ok a) (.ok b)
  | error (fault : Fault) : SameResults related (.error fault) (.error fault)

theorem SameResults.refl (result : Except Fault α) : SameResults Eq result result := by
  cases result with
  | ok a => exact .ok rfl
  | error fault => exact .error fault

theorem SameResults.eq {result result' : Except Fault α} (same : SameResults Eq result result') :
    result = result' := by
  cases same with
  | ok holds => rw [holds]
  | error fault => rfl

namespace Lookup

/-- After the same calls, both look-ups come to the same results and have made the same calls. -/
def Agree (related : α → β → Prop) (first : Lookup α) (second : Lookup β) : Prop :=
  ∀ calls, ∃ result result' made, first.Arrives calls result made ∧
    second.Arrives calls result' made ∧ SameResults related result result'

variable {related : α → β → Prop} {first : Lookup α} {second : Lookup β}

/-- Look-ups that agree on their values have one result, and make the same calls for it. -/
theorem Agree.start_eq {lookup lookup' : Lookup α} (agree : Agree Eq lookup lookup') :
    lookup.start.1 = lookup'.start.1 ∧ lookup.start.2.calls = lookup'.start.2.calls := by
  obtain ⟨result, result', made, left, right, same⟩ := agree []
  obtain ⟨-, arrived, calls⟩ := left {} rfl
  obtain ⟨-, arrived', calls'⟩ := right {} rfl
  exact ⟨arrived.trans (same.eq.trans arrived'.symm), calls.trans calls'.symm⟩

theorem Determined.agree {lookup : Lookup α} (determined : lookup.Determined) :
    Agree Eq lookup lookup := by
  intro calls
  obtain ⟨result, made, arrives⟩ := determined calls
  exact ⟨result, result, made, arrives, arrives, .refl result⟩

theorem agree_pure {a : α} {b : β} (holds : related a b) : Agree related (pure a) (pure b) :=
  fun calls => ⟨_, _, calls, arrives_pure a calls, arrives_pure b calls, .ok holds⟩

theorem agree_give {given : Except Fault α} {given' : Except Fault β}
    (same : SameResults related given given') : Agree related (give given) (give given') :=
  fun calls => ⟨_, _, calls, arrives_give rfl calls, arrives_give rfl calls, same⟩

/-- Pure steps that differ in their notices. -/
theorem agree_settle {step : Except Fault α × List Notice} {step' : Except Fault β × List Notice}
    (same : SameResults related step.1 step'.1) : Agree related (settle step) (settle step') :=
  fun calls => ⟨_, _, calls, arrives_settle rfl calls, arrives_settle rfl calls, same⟩

theorem agree_ask (call : Call) {source : List Call → Except Fault α}
    {source' : List Call → Except Fault β}
    (same : ∀ calls, SameResults related (source calls) (source' calls)) :
    Agree related (ask call source) (ask call source') :=
  fun calls => ⟨_, _, _, arrives_ask call rfl, arrives_ask call rfl, same calls⟩

theorem Agree.bind {related' : γ → δ → Prop} {next : α → Lookup γ} {next' : β → Lookup δ}
    (agree : Agree related first second)
    (onward : ∀ a b, related a b → Agree related' (next a) (next' b)) :
    Agree related' (first >>= next) (second >>= next') := by
  intro calls
  obtain ⟨_, _, made, left, right, same⟩ := agree calls
  cases same with
  | ok holds =>
    obtain ⟨result, result', last, left', right', same⟩ := onward _ _ holds made
    exact ⟨result, result', last, left.bind_ok left', right.bind_ok right', same⟩
  | error fault => exact ⟨_, _, made, left.bind_error, right.bind_error, .error fault⟩

theorem Agree.orElse {recover : Fault → Lookup α} {recover' : Fault → Lookup β}
    (agree : Agree related first second)
    (onward : ∀ fault, Agree related (recover fault) (recover' fault)) :
    Agree related (first.orElse recover) (second.orElse recover') := by
  intro calls
  obtain ⟨_, _, made, left, right, same⟩ := agree calls
  cases same with
  | ok holds => exact ⟨_, _, made, left.orElse_ok _, right.orElse_ok _, .ok holds⟩
  | error fault =>
    obtain ⟨result, result', last, left', right', same⟩ := onward fault made
    exact ⟨result, result', last, left.orElse_error _ left', right.orElse_error _ right', same⟩

end Lookup

end Rollout

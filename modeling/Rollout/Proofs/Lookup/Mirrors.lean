import Rollout.Proofs.Lookup.Closed

/-!
# Look-ups that mirror one another

Two faults are **alike** when they are of one kind and leave the same types unresolved. One look-up
**mirrors** another under a change of values when it gives the changed value wherever the other one
gives a value, and fails alike wherever the other one fails. What was asked before has no influence
on either.
-/

namespace Rollout

/-- The types that a fault says are unresolved. -/
def Fault.unresolved? : Fault → Option (List String)
  | .unresolvedTypes names => some names
  | _ => none

/-- The faults are of one kind and leave the same types unresolved. -/
structure Fault.Alike (fault other : Fault) : Prop where
  kind_eq : fault.kind = other.kind
  unresolved_eq : fault.unresolved? = other.unresolved?

theorem Fault.Alike.refl (fault : Fault) : fault.Alike fault := ⟨rfl, rfl⟩

theorem Fault.Alike.symm {fault other : Fault} (alike : fault.Alike other) : other.Alike fault :=
  ⟨alike.kind_eq.symm, alike.unresolved_eq.symm⟩

theorem Fault.Alike.trans {fault other third : Fault} (first : fault.Alike other)
    (second : other.Alike third) : fault.Alike third :=
  ⟨first.kind_eq.trans second.kind_eq, first.unresolved_eq.trans second.unresolved_eq⟩

variable {α β γ δ : Type}

/-- The second result is the changed value of the first one, or both are faults and alike. -/
inductive Renders (f : α → γ) : Except Fault α → Except Fault γ → Prop where
  | ok (a : α) : Renders f (.ok a) (.ok (f a))
  | error {fault fault' : Fault} (alike : fault.Alike fault') :
      Renders f (.error fault) (.error fault')

theorem renders_map {f : α → γ} {result : Except Fault α} {result' : Except Fault γ}
    (same : result' = result.map f) : Renders f result result' := by
  rw [same]
  cases result with
  | ok a => exact .ok a
  | error fault => exact .error (.refl fault)

theorem renders_self (result : Except Fault α) : Renders id result result :=
  renders_map (by cases result <;> rfl)

namespace Lookup

/-- Whatever the journals, the second look-up gives what the first one gives, with the value
changed, or fails alike. -/
def Mirrors (f : α → γ) (first : Lookup α) (second : Lookup γ) : Prop :=
  ∀ journal journal' : Journal, Renders f (first journal).1 (second journal').1

theorem IsQuiet.mirrors {lookup : Lookup α} (quiet : lookup.IsQuiet) :
    Mirrors id lookup lookup := by
  obtain ⟨result, still⟩ := quiet
  intro journal journal'
  rw [(still journal).1, (still journal').1]
  exact renders_self result

theorem mirrors_pure {f : α → γ} {a : α} {c : γ} (same : c = f a) :
    Mirrors f (pure a) (pure c) := by
  intro _ _
  rw [same]
  exact .ok a

theorem mirrors_throw (f : α → γ) {fault fault' : Fault} (alike : fault.Alike fault') :
    Mirrors f (throw fault) (throw fault') :=
  fun _ _ => .error alike

theorem mirrors_give {f : α → γ} {given : Except Fault α} {given' : Except Fault γ}
    (same : given' = given.map f) : Mirrors f (give given) (give given') :=
  fun _ _ => renders_map same

/-- Pure steps that differ in their notices. -/
theorem mirrors_settle {step step' : Except Fault α × List Notice} (same : step'.1 = step.1) :
    Mirrors id (settle step) (settle step') := by
  intro _ _
  change Renders id step.1 step'.1
  rw [same]
  exact renders_self _

theorem mirrors_reach (resolution resolution' : Resolution) :
    Mirrors id (reach resolution) (reach resolution') :=
  fun _ _ => .ok ()

theorem mirrors_ask {f : α → γ} (call call' : Call) {source : List Call → Except Fault α}
    {source' : List Call → Except Fault γ}
    (same : ∀ calls calls', source' calls' = (source calls).map f) :
    Mirrors f (ask call source) (ask call' source') :=
  fun journal journal' => renders_map (same journal.calls journal'.calls)

/-- Sources that give the same answers, whatever was asked before. -/
theorem mirrors_same (call call' : Call) {source source' : List Call → Except Fault α}
    (same : ∀ calls calls', source' calls' = source calls) :
    Mirrors id (ask call source) (ask call' source') := by
  intro journal journal'
  change Renders id (source journal.calls) (source' journal'.calls)
  rw [same journal.calls journal'.calls]
  exact renders_self _

theorem mirrors_sameThrough (call call' : Call)
    {source source' : List Call → Except Fault α × List Call}
    (same : ∀ calls calls', (source' calls').1 = (source calls).1) :
    Mirrors id (askThrough call source) (askThrough call' source') := by
  intro journal journal'
  change Renders id (source journal.calls).1 (source' journal'.calls).1
  rw [same journal.calls journal'.calls]
  exact renders_self _

theorem Mirrors.bind {f : α → γ} {g : β → δ} {first : Lookup α} {next : α → Lookup β}
    {first' : Lookup γ} {next' : γ → Lookup δ} (mirrors : Mirrors f first first')
    (onward : ∀ a, Mirrors g (next a) (next' (f a))) :
    Mirrors g (first >>= next) (first' >>= next') := by
  intro journal journal'
  have here := mirrors journal journal'
  rw [Fallible.bind_apply, Fallible.bind_apply]
  revert here
  rcases first journal with ⟨result, after⟩
  rcases first' journal' with ⟨result', after'⟩
  intro here
  cases here with
  | ok a => exact onward a after after'
  | error alike => exact .error alike

theorem Mirrors.orElse {f : α → γ} {first : Lookup α} {first' : Lookup γ}
    {recover : Fault → Lookup α} {recover' : Fault → Lookup γ} (mirrors : Mirrors f first first')
    (onward : ∀ fault fault', Mirrors f (recover fault) (recover' fault')) :
    Mirrors f (first.orElse recover) (first'.orElse recover') := by
  intro journal journal'
  have here := mirrors journal journal'
  simp only [Lookup.orElse]
  revert here
  rcases first journal with ⟨result, after⟩
  rcases first' journal' with ⟨result', after'⟩
  intro here
  cases here with
  | ok a => exact .ok a
  | error => exact onward _ _ after after'

/-- A caught fault leaves a warning and the changed default. -/
theorem mirrors_caught {f : α → γ} {default : α} (text text' : String) :
    Mirrors f (do warn text; return default) (do warn text'; return f default) :=
  fun _ _ => .ok default

end Lookup

end Rollout

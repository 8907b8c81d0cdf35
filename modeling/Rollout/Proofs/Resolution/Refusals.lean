import Rollout.Proofs.Resolution.Division
import Rollout.Proofs.Resolution.Execution

/-!
# The faults of requests

A resolution over a reachable catalog fails with a fault exactly when the reference has it
(`Refusal`), and a request for versions, of some types or of all, fails with such a fault, or else
because types stay unresolved that are not exempt (`Denial`). As there is one fault at most, to
know which one the reference has is to know which one the request fails with
(`error_iff_refusal`).
-/

namespace Rollout

/-- The fault of a request for a version of every wanted type that is not exempt: what the
resolution fails with, and only then the types that are left over. -/
inductive Catalog.Denial (c : Catalog) (policy : WalkPolicy) (flow : Option Flow) (answer : Datum)
    (wanted exempt : NameSet) : Fault → Prop where
  | refusal {fault : Fault} (refusal : c.Refusal policy flow answer wanted fault) :
      Denial c policy flow answer wanted exempt fault
  | unresolved {missing : NameSet}
      (cleared : ∀ fault, ¬ c.Refusal policy flow answer wanted fault)
      (exactly : ∀ name, name ∈ missing ↔ name ∈ wanted ∧ name ∉ exempt ∧
        c.Settles policy (Catalog.placeOf flow answer) (.ofName name) none)
      (some_missing : ∃ name, name ∈ missing) :
      Denial c policy flow answer wanted exempt (.unresolvedTypes missing.toList)

theorem Catalog.Denial.unique {c : Catalog} (kept : c.WellKept) {policy : WalkPolicy}
    {flow : Option Flow} {answer : Datum} {wanted exempt : NameSet} {a b : Fault}
    (left : c.Denial policy flow answer wanted exempt a)
    (right : c.Denial policy flow answer wanted exempt b) : a = b := by
  cases left with
  | refusal refusal =>
    cases right with
    | refusal refusal' => exact refusal.unique kept refusal'
    | unresolved cleared => exact absurd refusal (cleared _)
  | unresolved cleared exactly =>
    cases right with
    | refusal refusal => exact absurd refusal (cleared _)
    | unresolved _ exactly' =>
      rw [NameSet.ext fun name => (exactly name).trans (exactly' name).symm]

namespace Resolver

variable {c : Catalog} {policy : WalkPolicy} {flow : Option Flow} {answer : Datum}
  {wanted : NameSet}

/-- A look-up that succeeds without fault in the reference, or else fails with the one that the
reference has, fails with exactly this one. -/
theorem error_iff {α : Type} {lookup : Lookup α} {refusal : Fault → Prop}
    (unique : ∀ a b, refusal a → refusal b → a = b)
    (ends : lookup.Ends (fun _ => ∀ fault, ¬ refusal fault) refusal) (fault : Fault) :
    lookup.start.1 = .error fault ↔ refusal fault := by
  rcases ends with ⟨value, cleared, done⟩ | ⟨actual, refused, failed⟩
  · rw [done.start_eq]
    constructor
    · rintro ⟨⟩
    · intro refused
      exact absurd refused (cleared fault)
  · rw [failed.start_eq]
    constructor
    · rintro ⟨⟩
      exact refused
    · intro other
      rw [unique _ _ refused other]

theorem judgesAll_of_named (kept : c.WellKept)
    (named : ∀ f, flow = some f → ∃ name, f.name = .text name) :
    JudgesAll c policy (Catalog.placeOf flow answer) wanted := by
  refine fun key _ => Catalog.judges_of_named kept fun f n placed => ?_
  unfold Catalog.placeOf at placed
  split at placed
  · split at placed
    · cases placed
      exact named _ rfl
    · cases placed
  · cases placed

/-! ## Types that are left over -/

theorem Resolved.not_refusal {resolution : Resolution} (kept : c.WellKept)
    (resolved : Resolved c policy flow answer wanted resolution) (fault : Fault) :
    ¬ c.Refusal policy flow answer wanted fault :=
  Catalog.not_refusal kept resolved.placed
    (fun key wants => ⟨_, resolved.settles key wants⟩) fault

/-- The unresolved names are those of the types that the reference leaves open. -/
theorem Resolved.mem_unresolved_iff {resolution : Resolution} (kept : c.WellKept)
    (normalized : wanted.IsNormalized)
    (resolved : Resolved c policy flow answer wanted resolution) (name : String) :
    name ∈ resolution.unresolved ↔ name ∈ wanted ∧
      c.Settles policy (Catalog.placeOf flow answer) (.ofName name) none := by
  rw [resolved.partitions.unresolved_iff]
  apply and_congr_right
  intro wants
  have listed : (TypeKey.ofName name).text ∈ wanted := by
    rw [normalized.text_ofName wants]
    exact wants
  have settles := resolved.settles (.ofName name) listed
  constructor
  · intro undecided
    rw [undecided] at settles
    exact settles
  · intro left_open
    exact settles.unique kept left_open

/-- With a version for every type that is not exempt there is no fault. -/
theorem Resolved.not_denial {resolution : Resolution} (kept : c.WellKept)
    (normalized : wanted.IsNormalized) {exempt : NameSet}
    (resolved : Resolved c policy flow answer wanted resolution)
    (complete : (resolution.unresolved.diff exempt).isEmpty = true) (fault : Fault) :
    ¬ c.Denial policy flow answer wanted exempt fault := by
  intro denial
  cases denial with
  | refusal refusal => exact resolved.not_refusal kept _ refusal
  | unresolved _ exactly some_missing =>
    obtain ⟨name, missing⟩ := some_missing
    obtain ⟨wants, required, left_open⟩ := (exactly name).mp missing
    have unresolved := (resolved.mem_unresolved_iff kept normalized name).mpr ⟨wants, left_open⟩
    have member : name ∈ resolution.unresolved.diff exempt :=
      NameSet.mem_diff.mpr ⟨unresolved, required⟩
    exact NameSet.not_mem_of_isEmpty complete name member

/-- A type that is left over and not exempt is reported. -/
theorem Resolved.denial {resolution : Resolution} (kept : c.WellKept)
    (normalized : wanted.IsNormalized) {exempt : NameSet}
    (resolved : Resolved c policy flow answer wanted resolution)
    (incomplete : ¬ (resolution.unresolved.diff exempt).isEmpty = true) :
    c.Denial policy flow answer wanted exempt
      (.unresolvedTypes (resolution.unresolved.diff exempt).toList) := by
  refine .unresolved (resolved.not_refusal kept) ?_ ?_
  · intro name
    rw [NameSet.mem_diff, resolved.mem_unresolved_iff kept normalized, and_assoc,
      and_comm (a := c.Settles _ _ _ none)]
  · exact List.exists_mem_of_ne_nil _ fun empty => incomplete (List.isEmpty_iff.mpr empty)

/-- A resolution and the last step succeed without fault in the reference, or fail with the one that
it has. -/
theorem ends_conclude (planOrder : Datum) (kept : c.WellKept)
    {bucketOf : Flow → Except Fault Datum} (answers : ∀ f, flow = some f → bucketOf f = .ok answer)
    (named : ∀ f, flow = some f → ∃ name, f.name = .text name)
    (normalized : wanted.IsNormalized) {plans : Option PlanBook}
    (books : Books (c.resolver bucketOf planOrder) c wanted plans) {given : Except Fault NameSet}
    {exempt : NameSet} (exempted : given = .ok exempt) :
    ((c.resolver bucketOf planOrder).resolveWanted flow wanted false plans >>=
        conclude given).Ends
      (fun _ => ∀ fault, ¬ c.Denial (.ofName planOrder) flow answer wanted exempt fault)
      (c.Denial (.ofName planOrder) flow answer wanted exempt) := by
  have resolves := ends_resolveWanted planOrder kept answers normalized books
  refine Lookup.Ends.bind
    (resolves.imp (fun _ resolved => resolved)
      fun _ refusal => .refusal (refusal (judgesAll_of_named kept named)))
    fun resolution resolved => ?_
  refine .after (Lookup.yields_reach resolution) (.after (Lookup.yields_give exempted) ?_)
  by_cases complete : (resolution.unresolved.diff exempt).isEmpty = true
  · rw [if_pos complete]
    exact .inl ⟨resolution.versionInfos, resolved.not_denial kept normalized complete,
      Lookup.yields_pure _⟩
  · rw [if_neg complete]
    exact .inr ⟨_, resolved.denial kept normalized complete, Lookup.yields_throw _⟩

/-! ## Requests -/

theorem ends_subset (planOrder : Datum) (kept : c.WellKept)
    {bucketOf : Flow → Except Fault Datum} (answers : ∀ f, flow = some f → bucketOf f = .ok answer)
    (named : ∀ f, flow = some f → ∃ name, f.name = .text name) {names exempt : Datum}
    {exempted : NameSet} (normalized : wanted.IsNormalized)
    (listed : NameSet.ofDatum names = .ok wanted)
    (listed_exempt : NameSet.ofDatum exempt = .ok exempted) :
    ((c.resolver bucketOf planOrder).subset flow names exempt).Ends
      (fun _ => ∀ fault, ¬ c.Denial (.ofName planOrder) flow answer wanted exempted fault)
      (c.Denial (.ofName planOrder) flow answer wanted exempted) := by
  have books := books_plansFor (c.resolver bucketOf planOrder) c normalized
  have asked : (Lookup.ask (.plansFor wanted)
      ((c.resolver bucketOf planOrder).sources.plansFor · wanted)).Yields
      (.ok (c.plansFor wanted)) := Lookup.yields_ask _ fun _ => rfl
  exact .after (Lookup.yields_give listed) (.after asked
    (ends_conclude planOrder kept answers named normalized books listed_exempt))

theorem ends_execution (planOrder : Datum) (kept : c.WellKept)
    {bucketOf : Flow → Except Fault Datum} (answers : ∀ f, flow = some f → bucketOf f = .ok answer)
    (named : ∀ f, flow = some f → ∃ name, f.name = .text name) :
    ((c.resolver bucketOf planOrder).execution flow).Ends
      (fun _ => ∀ fault, ¬ c.Denial (.ofName planOrder) flow answer c.registered .empty fault)
      (c.Denial (.ofName planOrder) flow answer c.registered .empty) := by
  have books := books_allPlans (c.resolver bucketOf planOrder) c c.registered
  have typed : (c.resolver bucketOf planOrder).typeNames.Yields
      (.ok (c.types.values.map ImageType.name)) :=
    (Lookup.yields_ask _ fun _ => rfl).bind_ok (Lookup.yields_pure _)
  have asked : (Lookup.ask .allPlans (c.resolver bucketOf planOrder).sources.allPlans).Yields
      (.ok c.allPlans) := Lookup.yields_ask _ fun _ => rfl
  rw [execution_eq]
  exact .after typed (.after asked (.after (Lookup.yields_give (Catalog.ofDatum_types kept))
    (ends_conclude planOrder kept answers named c.normalized_registered books rfl)))

/-- **Which fault a request fails with.** Whatever the bucket function answers for the flow, a
resolution of named types fails with exactly the fault that the reference has for them, and so do
the request for named types and the one for all registered types, where types that are left over
count as well. -/
theorem error_iff_refusal {c : Catalog} (reached : c.Reachable)
    {bucketOf : Flow → Except Fault Datum} {planOrder : Datum} {flow : Option Flow}
    {answer : Datum} (answers : ∀ f, flow = some f → bucketOf f = .ok answer)
    (named : ∀ f, flow = some f → ∃ name, f.name = .text name) :
    (∀ (names : Datum) (texts : List String), names.items = .ok (texts.map .text) →
      ∀ fault, ((c.resolver bucketOf planOrder).resolve flow names false none).start.1 =
          .error fault ↔
        c.Refusal (.ofName planOrder) flow answer (NameSet.normalized texts) fault) ∧
    (∀ (names exempt : Datum) (texts exemptTexts : List String),
      names.items = .ok (texts.map .text) → exempt.items = .ok (exemptTexts.map .text) →
      ∀ fault, ((c.resolver bucketOf planOrder).subset flow names exempt).start.1 =
          .error fault ↔
        c.Denial (.ofName planOrder) flow answer (NameSet.normalized texts)
          (NameSet.normalized exemptTexts) fault) ∧
    ∀ fault, ((c.resolver bucketOf planOrder).execution flow).start.1 = .error fault ↔
      c.Denial (.ofName planOrder) flow answer c.registered .empty fault := by
  have kept := reached.wellKept
  -- each request ends in one of two ways, and there is one fault at most
  refine ⟨?resolve, ?subset, ?execution⟩
  case resolve =>
    intro names texts listed
    have normalized := NameSet.isNormalized_normalized texts
    apply error_iff fun a b left right => left.unique kept right
    have resolves := ends_resolve planOrder kept answers (NameSet.ofDatum_texts listed)
      normalized (books_asked c bucketOf planOrder normalized)
    exact resolves.imp (fun _ resolved => resolved.not_refusal kept)
      fun _ refusal => refusal (judgesAll_of_named kept named)
  case subset =>
    intro names exempt texts exemptTexts listed listed_exempt
    apply error_iff fun a b left right => left.unique kept right
    exact ends_subset planOrder kept answers named (NameSet.isNormalized_normalized texts)
      (NameSet.ofDatum_texts listed) (NameSet.ofDatum_texts listed_exempt)
  case execution =>
    apply error_iff fun a b left right => left.unique kept right
    exact ends_execution planOrder kept answers named

theorem error_iff_refusal_nightly :
    sampleCatalog.Refusal .normalize (some nightly) (.int 0) (NameSet.normalized ["etl"])
      (.invalidBucket (.int 0)) ∧
    ((sampleCatalog.resolver (fun _ => .ok (.int 0)) .null).resolve (some nightly)
      (.list [.text "etl"]) false none).start.1 = .error (.invalidBucket (.int 0)) := by
  have reached : sampleCatalog.Reachable := Catalog.reachable_iff.mpr ⟨_, rfl⟩
  have answers : ∀ f, some nightly = some f →
      (fun _ => .ok (.int 0) : Flow → Except Fault Datum) f = .ok (.int 0) := fun _ _ => rfl
  have named : ∀ f, some nightly = some f → ∃ name, f.name = .text name := by
    rintro f ⟨⟩
    exact ⟨"nightly", rfl⟩
  have refused : sampleCatalog.Refusal .normalize (some nightly) (.int 0)
      (NameSet.normalized ["etl"]) (.invalidBucket (.int 0)) := by
    refine .bucket ⟨nofun, ⟨.ofName "etl", by decide +kernel, by decide +kernel⟩, ?_⟩
    rintro n ⟨⟩
    decide
  have listed : (Datum.list [.text "etl"]).items = .ok (["etl"].map .text) := rfl
  exact ⟨refused,
    ((error_iff_refusal reached answers named).1 _ ["etl"] listed _).mpr refused⟩

end Resolver

end Rollout

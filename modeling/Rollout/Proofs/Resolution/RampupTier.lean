import Rollout.Proofs.Lookup.Yields
import Rollout.Proofs.Resolution.Reference

/-!
# The rampup tier over a catalog

Over a well kept catalog the rampup tier makes of each type what the reference says
(`ends_rampupType`). Types are taken in the order of their keys; the first one with a fault ends
the tier (`ends_rampupTypes`), and otherwise the types that rules take away from their plans are
replaced in one look-up (`yields_ruleFallback`).
-/

namespace Rollout

/-- A resolver over the catalog. -/
def Catalog.resolver (c : Catalog) (bucketOf : Flow → Except Fault Datum) (planOrder : Datum) :
    Resolver where
  sources := c.sources bucketOf
  planOrder := planOrder

namespace Catalog

variable {c : Catalog} {policy : WalkPolicy} {placed : Option (Flow × Int)} {key : TypeKey}

/-- Where an entry of the type's plan counts for the flow in this place, the evaluator has an answer
whether the flow may have its version. -/
def Judges (c : Catalog) (policy : WalkPolicy) (placed : Option (Flow × Int)) (key : TypeKey) :
    Prop :=
  ∀ flow bucket walked entry, placed = some (flow, bucket) → c.Walks policy key walked →
    c.Picks placed key walked entry →
    ∃ answer, c.judged flow.name key entry.version = .ok answer

/-- There is an answer for a flow with a name that is a text. -/
theorem judges_of_named (kept : c.WellKept)
    (named : ∀ flow bucket, placed = some (flow, bucket) → ∃ name, flow.name = .text name) :
    c.Judges policy placed key := by
  intro flow bucket walked entry place walks picks
  obtain ⟨name, is_text⟩ := named flow bucket place
  obtain ⟨label, labelled⟩ := (picks.entryKept kept walks).labelled
  rw [is_text, labelled]
  exact judged_total kept name key label

/-- No entry counts of a plan that is missing. -/
theorem judges_of_no_plan (missing : c.planOf key = []) : c.Judges policy placed key := by
  rintro flow bucket walked entry rfl walks picks
  cases ramps_of_no_plan policy (some (flow, bucket)) missing with
  | passed walks' nobody => exact (picks.absurd walks walks' nobody).elim

end Catalog

namespace Resolver

variable {c : Catalog} {placed : Option (Flow × Int)} (bucketOf : Flow → Except Fault Datum)

/-! ## One type -/

/-- A look-up by a name and a label finds the version that is held under the name's key. -/
theorem yields_exactNamed (planOrder : Datum) (kept : c.WellKept) (name label : String) :
    (∃ version, c.Holds (.ofName name) (.text label) version ∧
      ((c.resolver bucketOf planOrder).exactVersion (.text name) (.text label)).Yields
        (.ok version)) ∨
    ((∀ version, ¬ c.Holds (.ofName name) (.text label) version) ∧
      ((c.resolver bucketOf planOrder).exactVersion (.text name) (.text label)).Yields
        (.error (.versionNotFound (.text name) (.text label)
          "not in the image version catalog"))) := by
  have asked : (Lookup.ask (.findVersions (.text name) (.text label))
      ((c.sources bucketOf).findVersions · (.text name) (.text label))).Yields
      (.ok (some ((c.versionsOf (.ofName name)).filter (Catalog.isLabelled (.text label))))) := by
    refine Lookup.yields_ask _ fun calls => ?_
    simp only [Catalog.sources, TypeKey.ofDatum_text, bind, Except.bind,
      Catalog.findVersions_eq kept]
    rfl
  have tested : Fallible.find? (·.isNamed (.text name) (.text label))
      ((c.versionsOf (.ofName name)).filter (Catalog.isLabelled (.text label))) =
      .ok (((c.versionsOf (.ofName name)).filter (Catalog.isLabelled (.text label))).find?
        (Catalog.isLabelled (.text label))) := by
    refine Fallible.find?_eq_ok fun v among => ?_
    have own := (kept.versions (.ofName name)).each v (List.mem_filter.mp among).1
    rw [Catalog.isNamed_eq own.keyed (TypeKey.ofDatum_text name), own.hasLabel_eq]
  -- the versions that are found are tested once more, and all of them pass
  cases found : ((c.versionsOf (.ofName name)).filter (Catalog.isLabelled (.text label))).find?
      (Catalog.isLabelled (.text label)) with
  | some version =>
    left
    have member := (List.mem_filter.mp (List.mem_of_find?_eq_some found)).1
    have labelled := List.find?_some found
    refine ⟨version, ⟨member, ?_⟩, ?_⟩
    · rw [((kept.versions (.ofName name)).each version member).hasLabel_eq, labelled]
    · rw [found] at tested
      exact asked.bind_ok ((Lookup.yields_give tested).bind_ok (Lookup.yields_pure version))
  | none =>
    right
    constructor
    · rintro version ⟨member, labelled⟩
      rw [((kept.versions (.ofName name)).each version member).hasLabel_eq] at labelled
      have passes := Except.ok.inj labelled
      have among := List.mem_filter.mpr ⟨member, passes⟩
      exact List.find?_eq_none.mp found version among passes
    · rw [found] at tested
      exact asked.bind_ok ((Lookup.yields_give tested).bind_ok (Lookup.yields_throw _))

theorem yields_exactVersion (planOrder : Datum) (kept : c.WellKept) (key : TypeKey)
    (label : String) :
    (∃ version, c.Holds key (.text label) version ∧
      ((c.resolver bucketOf planOrder).exactVersion (.text key.text) (.text label)).Yields
        (.ok version)) ∨
    ((∀ version, ¬ c.Holds key (.text label) version) ∧
      ((c.resolver bucketOf planOrder).exactVersion (.text key.text) (.text label)).Yields
        (.error (.versionNotFound (.text key.text) (.text label)
          "not in the image version catalog"))) := by
  have named := yields_exactNamed bucketOf planOrder kept key.text label
  rw [TypeKey.ofName_text] at named
  exact named

theorem yields_walkOrder {planOrder : Datum} {key : TypeKey} {stored : Plan}
    {result : Except Fault Plan}
    (ordered : (stored.order (.text key.text) (.ofName planOrder)).1 = result) :
    ((c.resolver bucketOf planOrder).walkOrder false key stored).Yields result := by
  have settled := Lookup.yields_settle ordered
  cases result with
  | ok walked => exact settled.orElse_ok _
  | error fault =>
    refine settled.orElse_error ?_
    split
    · contradiction
    · exact Lookup.yields_throw _

/-- The entry that counts and is not barred chooses its version. -/
theorem ends_chooseEntry {planOrder : Datum} (kept : c.WellKept) {key : TypeKey}
    {walked : Plan} {entry : PlanEntry} (walks : c.Walks (.ofName planOrder) key walked)
    (picks : c.Picks placed key walked entry) (free : ¬ c.Bars placed key entry.version) :
    ((c.resolver bucketOf planOrder).chooseEntry false key entry walked).Ends
      (c.Ramps (.ofName planOrder) placed key) (c.Refuses (.ofName planOrder) placed key) := by
  obtain ⟨label, labelled⟩ := (picks.entryKept kept walks).labelled
  have looked := yields_exactVersion bucketOf planOrder kept key label
  rw [← labelled] at looked
  rcases looked with ⟨version, holds, found⟩ | ⟨absent, missed⟩
  · left
    exact ⟨_, .chosen walks picks free holds, found.bind_ok (Lookup.yields_pure _)⟩
  · right
    exact ⟨_, .version walks picks free absent, missed.bind_error⟩

/-- The entry that owns the flow's bucket is the one that counts. -/
theorem matchBucket_picks {policy : WalkPolicy} (kept : c.WellKept) {key : TypeKey}
    {walked : Plan} (flow : Flow) {bucket : Int} (walks : c.Walks policy key walked)
    (positive : 1 ≤ bucket) :
    (∃ entry, c.Picks (some (flow, bucket)) key walked entry ∧
      walked.matchBucket (.int bucket) = .ok (some entry)) ∨
    ((∀ entry, ¬ c.Picks (some (flow, bucket)) key walked entry) ∧
      walked.matchBucket (.int bucket) = .ok none) := by
  have shares := (walks.sound kept).isPositive
  rcases Plan.matchBucket_spec shares positive with ⟨i, entry, matched, owns⟩ | ⟨missed, beyond⟩
  · exact .inl ⟨entry, ⟨i, owns⟩, matched⟩
  · exact .inr ⟨(Plan.not_owns_iff shares positive).mpr beyond, missed⟩

/-- The tier makes of a type what the reference says. Its fault is the reference's where the
evaluator has an answer. -/
theorem ends_rampupType (planOrder : Datum) (kept : c.WellKept)
    (positive : ∀ flow bucket, placed = some (flow, bucket) → 1 ≤ bucket) {key : TypeKey}
    {stored : Plan} (held : c.planOf key = stored) (filled : stored ≠ []) :
    ((c.resolver bucketOf planOrder).rampupType false placed key stored).Ends
      (fun outcome => c.Ramps (.ofName planOrder) placed key outcome ∧
        c.Judges (.ofName planOrder) placed key)
      (fun fault => c.Judges (.ofName planOrder) placed key →
        c.Refuses (.ofName planOrder) placed key fault) := by
  have whole := kept.planOf_whole key
  rw [held] at whole
  rcases Plan.order_whole whole (.text key.text) (.ofName planOrder) with
    ⟨flaw, refused⟩ | ⟨-, walked, ordered, perm⟩
  · right
    have refuses : c.Refuses (.ofName planOrder) placed key (.invalidPlan (.text key.text) flaw) :=
      .plan (by rw [held]; exact refused)
    exact ⟨_, fun _ => refuses, (yields_walkOrder bucketOf refused).bind_error⟩
  · have walks : c.Walks (.ofName planOrder) key walked := by
      rw [Catalog.Walks, held]
      exact ordered
    refine .after (yields_walkOrder (c := c) bucketOf ordered) ?_
    -- neither plan is empty, so the flow's place alone decides what comes next
    obtain ⟨first, rest, rfl⟩ := List.exists_cons_of_ne_nil filled
    obtain ⟨head, tail, rfl⟩ := List.exists_cons_of_ne_nil
      (List.ne_nil_of_length_pos (by rw [perm.length_eq]; exact Nat.succ_pos _))
    cases placed with
    | none =>
      have picks : c.Picks none key (head :: tail) first := by
        rw [Catalog.Picks, held]
        rfl
      exact (ends_chooseEntry bucketOf kept walks picks not_false).imp
        (fun _ ramps => ⟨ramps, by rintro _ _ _ _ ⟨⟩⟩) fun _ refuses _ => refuses
    | some place =>
      obtain ⟨flow, bucket⟩ := place
      rcases matchBucket_picks kept flow walks (positive flow bucket rfl) with
        ⟨entry, picks, matched⟩ | ⟨nobody, matched⟩
      · refine .after (Lookup.yields_give matched) ?_
        cases judged : c.judged flow.name key entry.version with
        | ok excluded =>
          have bars : excluded = true ↔ c.Bars (some (flow, bucket)) key entry.version := by
            obtain ⟨label, labelled⟩ := (picks.entryKept kept walks).labelled
            rw [labelled] at judged ⊢
            exact Catalog.judged_iff kept judged
          have judges : c.Judges (.ofName planOrder) (some (flow, bucket)) key := by
            rintro _ _ _ other ⟨⟩ walks' picks'
            obtain rfl := picks.unique kept walks walks' picks'
            exact ⟨excluded, judged⟩
          refine .after (Lookup.yields_askThrough _ fun _ => judged) ?_
          cases excluded with
          | true =>
            exact .inl ⟨_, ⟨.excluded walks picks (bars.mp rfl), judges⟩, Lookup.yields_pure _⟩
          | false =>
            have free : ¬ c.Bars (some (flow, bucket)) key entry.version :=
              fun barred => absurd (bars.mpr barred) Bool.false_ne_true
            exact (ends_chooseEntry bucketOf kept walks picks free).imp
              (fun _ ramps => ⟨ramps, judges⟩) fun _ refuses _ => refuses
        | error fault =>
          refine .inr ⟨fault, fun judges => ?_,
            (Lookup.yields_askThrough _ fun _ => judged).bind_error⟩
          obtain ⟨answer, judged'⟩ := judges flow bucket _ entry rfl walks picks
          rw [judged] at judged'
          cases judged'
      · refine .after (Lookup.yields_give matched) ?_
        refine .inl ⟨.passed, ⟨.passed walks nobody, ?_⟩, Lookup.yields_pure _⟩
        rintro _ _ _ other ⟨⟩ walks' picks'
        exact (picks'.absurd walks' walks nobody).elim

/-! ## All types -/

/-- There is an outcome for every plan, and the evaluator had all answers for it. -/
structure HasOutcomes (c : Catalog) (policy : WalkPolicy) (placed : Option (Flow × Int))
    (plans : List (TypeKey × Plan)) (outcomes : List (TypeKey × RampupOutcome)) : Prop where
  keys : outcomes.map Prod.fst = plans.map Prod.fst
  ramp : ∀ outcome ∈ outcomes, c.Ramps policy placed outcome.1 outcome.2
  judges : ∀ outcome ∈ outcomes, c.Judges policy placed outcome.1

/-- The fault is that of a type before which none has one. -/
def FirstFault (c : Catalog) (policy : WalkPolicy) (placed : Option (Flow × Int))
    (plans : List (TypeKey × Plan)) (fault : Fault) : Prop :=
  ∃ before plan after, plans = before ++ plan :: after ∧
    (∀ earlier ∈ before, ∃ outcome, c.Ramps policy placed earlier.1 outcome) ∧
    (c.Judges policy placed plan.1 → c.Refuses policy placed plan.1 fault)

/-- The first type with a fault ends the tier. -/
theorem ends_rampupTypes (planOrder : Datum) (kept : c.WellKept)
    (positive : ∀ flow bucket, placed = some (flow, bucket) → 1 ≤ bucket)
    {plans : List (TypeKey × Plan)}
    (stored : ∀ plan ∈ plans, c.planOf plan.1 = plan.2 ∧ plan.2 ≠ []) :
    ((c.resolver bucketOf planOrder).rampupTypes false placed plans).Ends
      (HasOutcomes c (.ofName planOrder) placed plans)
      (FirstFault c (.ofName planOrder) placed plans) := by
  induction plans with
  | nil => exact .inl ⟨[], ⟨rfl, by simp, by simp⟩, Lookup.yields_pure []⟩
  | cons plan rest ih =>
    obtain ⟨held, filled⟩ := stored plan List.mem_cons_self
    rcases ends_rampupType bucketOf planOrder kept positive held filled with
      ⟨outcome, ⟨ramps, judges⟩, here⟩ | ⟨fault, refuses, failed⟩
    · refine .after here ?_
      rcases ih fun other member => stored other (List.mem_cons_of_mem _ member) with
        ⟨outcomes, had, later⟩ | ⟨fault, ⟨before, other, after, rfl, cleared, refuses⟩, failed⟩
      · have all : HasOutcomes c (.ofName planOrder) placed (plan :: rest)
            ((plan.1, outcome) :: outcomes) :=
          ⟨by simp [had.keys], List.forall_mem_cons.mpr ⟨ramps, had.ramp⟩,
            List.forall_mem_cons.mpr ⟨judges, had.judges⟩⟩
        exact .inl ⟨_, all, later.bind_ok (Lookup.yields_pure _)⟩
      · have clear : ∀ earlier ∈ plan :: before,
            ∃ outcome, c.Ramps (.ofName planOrder) placed earlier.1 outcome :=
          List.forall_mem_cons.mpr ⟨⟨outcome, ramps⟩, cleared⟩
        exact .inr ⟨fault, ⟨plan :: before, other, after, rfl, clear, refuses⟩,
          failed.bind_error⟩
    · exact .inr ⟨fault, ⟨[], plan, rest, rfl, by simp, refuses⟩, failed.bind_error⟩

/-! ## Replacing what rules take away -/

theorem yields_fetch {α : Type} {lookup : Lookup α} {answer : α} (tolerant : Bool) (what : String)
    (default : α) (found : lookup.Yields (.ok answer)) :
    (fetch tolerant what default lookup).Yields (.ok answer) := by
  cases tolerant with
  | true => exact found.orElse_ok _
  | false => exact found

theorem yields_fetchActive (tolerant : Bool) (planOrder : Datum) (names : NameSet) :
    ((c.resolver bucketOf planOrder).fetchActive tolerant names).Yields
      (.ok (some (c.activeVersions names))) :=
  yields_fetch tolerant _ _ (Lookup.yields_ask _ fun _ => rfl)

theorem yields_ruleFallback (planOrder : Datum) (kept : c.WellKept) (resolution : Resolution)
    {excluded : List (TypeKey × PlanEntry × Plan)}
    (found : ∀ entry ∈ excluded, ∃ version, c.latestActive entry.1 = some version) :
    ((c.resolver bucketOf planOrder).ruleFallback false resolution excluded).Yields
      (.ok (resolution.decideAll (replacements c.latestActive excluded))) := by
  rw [ruleFallback]
  split
  · rename_i nothing
    obtain rfl := List.isEmpty_iff.mp nothing
    exact Lookup.yields_pure _
  · have normalized := NameSet.isNormalized_keys (excluded.map Prod.fst)
    rw [List.map_map] at normalized
    obtain ⟨active, indexed, listed⟩ := Catalog.firstByKey_activeVersions kept normalized
    refine (yields_fetchActive bucketOf false planOrder _).bind_ok ?_
    refine (Lookup.yields_give indexed).bind_ok (yields_replaceExcluded resolution ?_ found)
    intro entry member
    rw [listed, if_pos]
    exact NameSet.mem_ofList.mpr (List.mem_map.mpr ⟨entry, member, rfl⟩)

theorem yields_ruleFallback_error (planOrder : Datum) (kept : c.WellKept)
    (resolution : Resolution) {excluded before after : List (TypeKey × PlanEntry × Plan)}
    {stranded : TypeKey × PlanEntry × Plan} (split : excluded = before ++ stranded :: after)
    (found : ∀ entry ∈ before, ∃ version, c.latestActive entry.1 = some version)
    (missing : c.latestActive stranded.1 = none) :
    ((c.resolver bucketOf planOrder).ruleFallback false resolution excluded).Yields
      (.error (.ruleFallbackFailed (.text stranded.1.text) stranded.2.1.version)) := by
  subst split
  have normalized := NameSet.isNormalized_keys ((before ++ stranded :: after).map Prod.fst)
  rw [List.map_map] at normalized
  obtain ⟨active, indexed, listed⟩ := Catalog.firstByKey_activeVersions kept normalized
  rw [ruleFallback, if_neg (by simp)]
  refine (yields_fetchActive bucketOf false planOrder _).bind_ok ?_
  refine (Lookup.yields_give indexed).bind_ok (yields_replaceExcluded_error resolution ?_ ?_)
  · intro entry member
    rw [listed, if_pos]
    · exact found entry member
    · exact NameSet.mem_ofList.mpr
        (List.mem_map.mpr ⟨entry, List.mem_append_left _ member, rfl⟩)
  · rw [listed, missing]
    split <;> rfl

end Resolver

end Rollout

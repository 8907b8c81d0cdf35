import Rollout.Proofs.Catalog.Changes
import Rollout.Proofs.Plan.Filled
import Rollout.Proofs.Resolution.Questions

/-!
# Empty plans

What a plan book says of types that it has no entries for. The first tier passes over such types and
asks nobody about them (`rampupTypes_filled`), so a resolution over a book and one over the filled
book are the same look-up (`resolve_filled`), with one exception: a book is not taken for an empty
one when it names a type that is asked for. Where it is hollow, the bucket of a given flow is drawn
**in vain**, and nothing is done with it but to report it (`resolve_hollow`).

A bucket function may fail, and so may a resolution for the sake of plans that have no entries
(`resolve_emptyAsNone`).
-/

namespace Rollout

/-- The call asks for a bucket. -/
def Call.isDraw : Call → Bool
  | bucket _ => true
  | _ => false

theorem Lookup.notify_nil : notify [] = pure () := by
  funext journal
  simp only [notify, List.append_nil]
  rfl

namespace Resolver

variable {r : Resolver} {tolerant : Bool}

/-! ## The rampup tier -/

/-- An empty plan is walked as it is. -/
theorem order_nil (imageType : Datum) (policy : WalkPolicy) :
    Plan.order imageType policy [] = (.ok [], []) := by
  cases policy <;> rfl

/-- A type with an empty plan is left to the next tier, and nobody is asked. -/
theorem rampupType_nil (r : Resolver) (tolerant : Bool) (placed : Option (Flow × Int))
    (key : TypeKey) : r.rampupType tolerant placed key [] = pure .passed := by
  rw [rampupType, walkOrder, order_nil, Lookup.settle, Lookup.notify_nil]
  rfl

/-- Steps after the tier for which types that were passed over make no difference need nothing of
empty plans. -/
theorem rampupTypes_filled {β : Type} (placed : Option (Flow × Int))
    (plans : List (TypeKey × Plan)) {next : List (TypeKey × RampupOutcome) → Lookup β}
    (ignores : ∀ before key after,
      next (before ++ (key, .passed) :: after) = next (before ++ after)) :
    r.rampupTypes tolerant placed plans >>= next =
      r.rampupTypes tolerant placed (plans.filter fun plan => PlanBook.hasEntries plan.2) >>=
        next := by
  -- the outcomes before the rest are part of what is done next
  induction plans generalizing next with
  | nil => rfl
  | cons plan rest ih =>
    obtain ⟨key, stored⟩ := plan
    rw [List.filter_cons]
    cases stored with
    | nil =>
      have passed : (fun outcomes => next ((key, .passed) :: outcomes)) = next :=
        funext fun outcomes => ignores [] key outcomes
      simp only [rampupTypes, rampupType_nil, pure_bind, bind_assoc, passed]
      exact ih ignores
    | cons first others =>
      simp only [PlanBook.hasEntries, List.isEmpty_cons, Bool.not_false, if_true, rampupTypes,
        bind_assoc, pure_bind]
      refine bind_congr fun outcome => ih fun before key' after => ?_
      exact ignores ((key, outcome) :: before) key' after

theorem takeChosen_passed (resolution : Resolution) (before : List (TypeKey × RampupOutcome))
    (key : TypeKey) (after : List (TypeKey × RampupOutcome)) :
    takeChosen resolution (before ++ (key, .passed) :: after) =
      takeChosen resolution (before ++ after) := by
  simp only [takeChosen, List.foldl_append, List.foldl_cons]

theorem excludedTypes_passed (before : List (TypeKey × RampupOutcome)) (key : TypeKey)
    (after : List (TypeKey × RampupOutcome)) :
    excludedTypes (before ++ (key, .passed) :: after) = excludedTypes (before ++ after) := by
  simp only [excludedTypes, List.filterMap_append, List.filterMap_cons]

variable {flow : Option Flow} {wanted : NameSet} {index thin : OrderedMap TypeKey Plan}

/-- Once a type is known, the tier places the flow, and then it goes on with the plans that have
entries. -/
theorem rampupTier_thinned (r : Resolver) (tolerant : Bool) (flow : Option Flow)
    (thins : PlanBook.Thins index thin) (known : index.isEmpty = false) (resolution : Resolution) :
    r.rampupTier tolerant flow index resolution = (do
      let placed ← r.place flow
      let outcomes ← r.rampupTypes tolerant placed (thin.sortedBy TypeKey.text)
      let resolution := { resolution with bucket := (placed.map fun (_, n) => .int n).getD .null }
      r.ruleFallback tolerant (takeChosen resolution outcomes) (excludedTypes outcomes)) := by
  have sorted : thin.sortedBy TypeKey.text =
      (index.sortedBy TypeKey.text).filter fun plan => PlanBook.hasEntries plan.2 :=
    OrderedMap.sortedBy_filter (fun _ _ => TypeKey.ext) thins
  rw [rampupTier, if_neg (by simp [known]), sorted]
  refine bind_congr fun placed => rampupTypes_filled placed _ fun before key after => ?_
  dsimp only
  rw [takeChosen_passed, excludedTypes_passed]

/-- Without a plan that has entries, nothing but the bucket comes of the tier. -/
theorem rampupTier_hollow (r : Resolver) (tolerant : Bool) (flow : Option Flow)
    (thins : PlanBook.Thins index thin) (known : index.isEmpty = false)
    (nothing : thin.isEmpty = true) (resolution : Resolution) :
    r.rampupTier tolerant flow index resolution = (do
      let placed ← r.place flow
      return { resolution with bucket := (placed.map fun (_, n) => .int n).getD .null }) := by
  have none_sorted : thin.sortedBy TypeKey.text = [] := by
    rw [OrderedMap.sortedBy, List.isEmpty_iff.mp nothing, List.mergeSort_nil]
  rw [rampupTier_thinned r tolerant flow thins known, none_sorted]
  rfl

/-- The tier makes the same of both indexes, unless a bucket is drawn for one of them only. -/
theorem rampupTier_congr (r : Resolver) (tolerant : Bool) (thins : PlanBook.Thins index thin)
    (alike : flow = none ∨ thin.isEmpty = index.isEmpty) (wanted : NameSet) :
    r.rampupTier tolerant flow index { unresolved := wanted } =
      r.rampupTier tolerant flow thin { unresolved := wanted } := by
  have thin_thins : PlanBook.Thins thin thin := fun key => by
    rw [thins.filter_eq, thins key]
  cases known : index.isEmpty with
  | true =>
    rw [rampupTier, rampupTier, if_pos known, if_pos (thins.isEmpty known)]
  | false =>
    cases filled : thin.isEmpty with
    | true =>
      obtain rfl : flow = none := by
        refine alike.resolve_right ?_
        rw [filled, known]
        exact Bool.noConfusion
      rw [rampupTier_hollow r tolerant none thins known filled, rampupTier, if_pos filled]
      rfl
    | false =>
      rw [rampupTier_thinned r tolerant flow thins known,
        rampupTier_thinned r tolerant flow thin_thins filled]

/-! ## The tiers after it -/

/-- The resolution with another bucket. -/
def withBucket (bucket : Datum) (resolution : Resolution) : Resolution :=
  { resolution with bucket := bucket }

theorem decide_withBucket (bucket : Datum) (resolution : Resolution) (key : TypeKey)
    (decision : Decision) : (withBucket bucket resolution).decide key decision =
      withBucket bucket (resolution.decide key decision) := by
  by_cases decided : resolution.decisions.contains key = true <;>
    simp [Resolution.decide, Resolution.tryDecide, withBucket, decided]

theorem takeFirst_withBucket (selection : Selection) (bucket : Datum) (resolution : Resolution)
    (versions : Option (List ImageVersion)) :
    takeFirst selection (withBucket bucket resolution) versions =
      (takeFirst selection resolution versions).map (withBucket bucket) := by
  rw [takeFirst, takeFirst, show (withBucket bucket resolution).unresolved = resolution.unresolved
    from rfl]
  cases firstByKey (versions.getD []) resolution.unresolved with
  | error fault => rfl
  | ok first =>
    refine congrArg Except.ok (List.foldl_hom (withBucket bucket) fun resolution entry => ?_)
    exact decide_withBucket bucket resolution entry.1
      { version := some entry.2, selection := selection }

theorem give_map {α β : Type} (given : Except Fault α) (f : α → β) :
    Lookup.give (given.map f) = Lookup.give given >>= fun a => pure (f a) := by
  cases given <;> rfl

theorem activeTier_withBucket (r : Resolver) (tolerant : Bool) (bucket : Datum)
    (resolution : Resolution) :
    r.activeTier tolerant (withBucket bucket resolution) =
      r.activeTier tolerant resolution >>= fun active => pure (withBucket bucket active) := by
  rw [activeTier, activeTier, show (withBucket bucket resolution).unresolved =
    resolution.unresolved from rfl]
  split
  · rw [pure_bind]
  · simp only [takeFirst_withBucket, give_map, bind_assoc]

theorem nonActiveTier_withBucket (r : Resolver) (bucket : Datum) (resolution : Resolution) :
    r.nonActiveTier (withBucket bucket resolution) =
      r.nonActiveTier resolution >>= fun latest => pure (withBucket bucket latest) := by
  rw [nonActiveTier, nonActiveTier, show (withBucket bucket resolution).unresolved =
    resolution.unresolved from rfl]
  split
  · rw [pure_bind]
  · simp only [takeFirst_withBucket, give_map, bind_assoc]

/-- The tiers after the first one. -/
def laterTiers (r : Resolver) (tolerant : Bool) (resolution : Resolution) : Lookup Resolution := do
  let resolution ← r.activeTier tolerant resolution
  if tolerant then r.nonActiveTier resolution else return resolution

theorem laterTiers_withBucket (r : Resolver) (tolerant : Bool) (bucket : Datum)
    (resolution : Resolution) :
    r.laterTiers tolerant (withBucket bucket resolution) =
      r.laterTiers tolerant resolution >>= fun last => pure (withBucket bucket last) := by
  rw [laterTiers, laterTiers, activeTier_withBucket, bind_assoc, bind_assoc]
  refine bind_congr fun active => ?_
  rw [pure_bind]
  split
  · exact nonActiveTier_withBucket r bucket active
  · rw [pure_bind]

theorem resolveWanted_eq (r : Resolver) (flow : Option Flow) (tolerant : Bool) {book : PlanBook}
    {notices : List Notice} (indexed : book.indexed wanted = (.ok index, notices))
    (asked : wanted.isEmpty = false) :
    r.resolveWanted flow wanted tolerant (some book) = (do
      Lookup.notify notices
      let ramped ← r.rampupTier tolerant flow index { unresolved := wanted }
      r.laterTiers tolerant ramped) := by
  rw [resolveWanted, if_neg (by simp [asked]), bookFor, pure_bind, indexed, Lookup.settle]
  simp only [bind_assoc]
  rfl

/-! ## Empty plans -/

/-- The flow's bucket is drawn although no type that is asked for has an entry in the book. -/
def DrawsInVain (flow : Option Flow) (names : Datum) (book : PlanBook) (f : Flow) : Prop :=
  flow = some f ∧ ∃ wanted, NameSet.ofDatum names = .ok wanted ∧ book.IsHollow wanted

theorem resolve_eq (r : Resolver) (flow : Option Flow) {names : Datum}
    (listed : NameSet.ofDatum names = .ok wanted) (tolerant : Bool) (plans : Option PlanBook) :
    r.resolve flow names tolerant plans = r.resolveWanted flow wanted tolerant plans := by
  rw [resolve, listed]
  rfl

/-- Where no bucket is drawn in vain, empty plans count as none. -/
theorem resolve_filled (r : Resolver) {names : Datum} (tolerant : Bool) {book : PlanBook}
    (named : book.IsNamed) (apart : ∀ f, ¬ DrawsInVain flow names book f) :
    r.resolve flow names tolerant (some book) =
      r.resolve flow names tolerant (some book.filled) := by
  cases listed : NameSet.ofDatum names with
  | error fault =>
    rw [resolve, resolve, listed]
    rfl
  | ok wanted =>
    rw [resolve_eq r flow listed, resolve_eq r flow listed]
    cases asked : wanted.isEmpty with
    | true => rw [resolveWanted, resolveWanted, if_pos asked, if_pos asked]
    | false =>
      obtain ⟨index, thin, notices, indexed, thin_indexed, thins⟩ :=
        PlanBook.indexed_filled named wanted
      have alike : flow = none ∨ thin.isEmpty = index.isEmpty := by
        cases flow with
        | none => exact .inl rfl
        | some f =>
          refine .inr (PlanBook.isEmpty_eq_of_not_hollow (by rw [indexed]) thins fun hollow => ?_)
          exact apart f ⟨rfl, wanted, listed, hollow⟩
      rw [resolveWanted_eq r flow tolerant indexed asked,
        resolveWanted_eq r flow tolerant thin_indexed asked,
        rampupTier_congr r tolerant thins alike wanted]

theorem asked_of_hollow {book : PlanBook} (hollow : book.IsHollow wanted) :
    wanted.isEmpty = false := by
  obtain ⟨-, -, key, -, asked⟩ := hollow.named
  exact Bool.eq_false_iff.mpr fun nothing => NameSet.not_mem_of_isEmpty nothing key.text asked

/-- Nothing but the tiers after the first one is left of a hollow book without its empty plans. -/
theorem resolve_filled_hollow (r : Resolver) (flow : Option Flow) {names : Datum} (tolerant : Bool)
    {book : PlanBook} (named : book.IsNamed) (listed : NameSet.ofDatum names = .ok wanted)
    (hollow : book.IsHollow wanted) :
    r.resolve flow names tolerant (some book.filled) =
      r.laterTiers tolerant { unresolved := wanted } := by
  rw [resolve_eq r flow listed, resolveWanted_eq r flow tolerant
    (PlanBook.indexed_filled_of_hollow named hollow) (asked_of_hollow hollow), Lookup.notify_nil,
    pure_bind]
  rfl

/-- Where a bucket is drawn in vain, it is drawn before everything else. -/
theorem resolve_hollow (r : Resolver) {names : Datum} (tolerant : Bool) {book : PlanBook} {f : Flow}
    (named : book.IsNamed) (vain : DrawsInVain flow names book f) :
    r.resolve flow names tolerant (some book) = (do
      let n ← r.bucketOf f
      let resolution ← r.resolve flow names tolerant (some book.filled)
      return withBucket (.int n) resolution) := by
  obtain ⟨rfl, wanted, listed, hollow⟩ := vain
  obtain ⟨index, thin, notices, indexed, thin_indexed, thins⟩ :=
    PlanBook.indexed_filled named wanted
  have known := ((PlanBook.isHollow_iff (by rw [indexed]) thins).mp hollow).1
  obtain ⟨rfl, rfl⟩ : thin = OrderedMap.empty ∧ notices = [] := by
    have same := thin_indexed.symm.trans (PlanBook.indexed_filled_of_hollow named hollow)
    rwa [Prod.mk.injEq, Except.ok.injEq] at same
  rw [resolve_filled_hollow r (some f) tolerant named listed hollow, resolve_eq r (some f) listed,
    resolveWanted_eq r (some f) tolerant indexed (asked_of_hollow hollow), Lookup.notify_nil,
    pure_bind, rampupTier_hollow r tolerant (some f) thins known rfl, place]
  simp only [bind_assoc, pure_bind]
  refine bind_congr fun n => ?_
  exact laterTiers_withBucket r tolerant (.int n) { unresolved := wanted }

/-! ## Outcomes -/

/-- What comes of a resolution from an empty journal: the decisions and the names that are still
unresolved, or the fault. -/
def outcome (lookup : Lookup Resolution) : Except Fault (OrderedMap TypeKey Decision × NameSet) :=
  lookup.start.1.map fun resolution => (resolution.decisions, resolution.unresolved)

/-- The version catalog answers the same whether or not buckets were drawn before. -/
structure IgnoresDraws (r : Resolver) : Prop where
  active : ∀ calls calls' : List Call,
    calls.filter (!·.isDraw) = calls'.filter (!·.isDraw) →
      r.sources.activeVersions calls = r.sources.activeVersions calls'
  latest : ∀ calls calls' : List Call,
    calls.filter (!·.isDraw) = calls'.filter (!·.isDraw) →
      r.sources.latestVersions calls = r.sources.latestVersions calls'

theorem IgnoresDraws.laterTiers (ignores : r.IgnoresDraws) (tolerant : Bool)
    (resolution : Resolution) :
    (r.laterTiers tolerant resolution).Heeds (!·.isDraw) := by
  have closed := Lookup.closed_heeds (!·.isDraw)
  have active (names : NameSet) := Lookup.heeds_ask (.activeVersions names)
    fun calls calls' same => congrFun (ignores.active calls calls' same) names
  have latest (names : NameSet) := Lookup.heeds_ask (.latestVersions names)
    fun calls calls' same => congrFun (ignores.latest calls calls' same) names
  rw [Resolver.laterTiers]
  refine closed.bind (composed_activeTier closed.composed active resolution) fun resolution => ?_
  split
  · exact composed_nonActiveTier closed.composed latest resolution
  · exact closed.quiet (Lookup.quiet_pure _)

theorem calls_bucketOf (r : Resolver) (f : Flow) (journal : Journal) :
    (r.bucketOf f journal).2.calls = journal.calls ++ [.bucket f.identity] := by
  rw [bucketOf, Fallible.bind_apply, Lookup.ask]
  cases r.sources.bucketOf journal.calls f with
  | error fault => rfl
  | ok answer =>
    dsimp only
    split
    · split <;> rfl
    · rfl

/-- A bucket that is drawn in vain makes a difference only where it fails. -/
theorem outcome_hollow (ignores : r.IgnoresDraws) {names : Datum} (tolerant : Bool)
    {book : PlanBook} {f : Flow} (named : book.IsNamed) (vain : DrawsInVain flow names book f) :
    outcome (r.resolve flow names tolerant (some book)) = (do
      let _ ← (r.bucketOf f).start.1
      outcome (r.resolve flow names tolerant (some book.filled))) := by
  rw [resolve_hollow r tolerant named vain]
  obtain ⟨-, wanted, listed, hollow⟩ := vain
  rw [resolve_filled_hollow r flow tolerant named listed hollow, outcome, Lookup.start,
    Fallible.bind_apply, Lookup.start]
  have drawn : (r.bucketOf f {}).2.calls.filter (!·.isDraw) = [] := by
    rw [calls_bucketOf]
    rfl
  revert drawn
  rcases r.bucketOf f {} with ⟨result, after⟩
  intro drawn
  cases result with
  | error fault => rfl
  | ok n =>
    -- the later tiers come after the draw here, and first in the filled book
    have unheeded := (ignores.laterTiers tolerant { unresolved := wanted } after {} drawn).1
    dsimp only
    rw [Lookup.bind_pure_apply, unheeded]
    change _ = outcome (r.laterTiers tolerant { unresolved := wanted })
    rw [outcome, Lookup.start]
    cases (r.laterTiers tolerant { unresolved := wanted } {}).1 <;> rfl

/-- What becomes of empty plans in a resolution. -/
structure EmptyAsNone (r : Resolver) (flow : Option Flow) (names : Datum) (tolerant : Bool)
    (book : PlanBook) : Prop where
  /-- Where no bucket is drawn in vain, they leave no trace at all. -/
  same : (∀ f, ¬ DrawsInVain flow names book f) →
    r.resolve flow names tolerant (some book) = r.resolve flow names tolerant (some book.filled)
  /-- Where one is, it is drawn before everything else. -/
  drawn : ∀ f, DrawsInVain flow names book f →
    r.resolve flow names tolerant (some book) = (do
      let n ← r.bucketOf f
      let resolution ← r.resolve flow names tolerant (some book.filled)
      return withBucket (.int n) resolution)
  /-- So the outcome is another one only for a bucket that is drawn in vain and fails, unless the
  version catalog takes notice of the draw. -/
  outcome_iff : r.IgnoresDraws →
    (outcome (r.resolve flow names tolerant (some book)) =
        outcome (r.resolve flow names tolerant (some book.filled)) ↔
      ∀ f fault, DrawsInVain flow names book f → (r.bucketOf f).start.1 = .error fault →
        outcome (r.resolve flow names tolerant (some book.filled)) = .error fault)

/-- **Empty plans.** They leave no trace in a resolution but a bucket that is drawn in vain, when no
type that is asked for has a plan with entries; and that makes a difference only where it fails. -/
theorem resolve_emptyAsNone (r : Resolver) (flow : Option Flow) (names : Datum) (tolerant : Bool)
    {book : PlanBook} (named : book.IsNamed) : r.EmptyAsNone flow names tolerant book where
  same := resolve_filled r tolerant named
  drawn := fun f => resolve_hollow r tolerant named
  outcome_iff := by
    intro ignores
    by_cases drawn : ∃ f, DrawsInVain flow names book f
    · obtain ⟨f, vain⟩ := drawn
      rw [outcome_hollow ignores tolerant named vain]
      cases result : (r.bucketOf f).start.1 with
      | ok n =>
        refine iff_of_true rfl fun other fault vain' failed => ?_
        obtain rfl : f = other := Option.some.inj (vain.1.symm.trans vain'.1)
        exact nomatch result.symm.trans failed
      | error fault =>
        constructor
        · intro same other fault' vain' failed
          obtain rfl : f = other := Option.some.inj (vain.1.symm.trans vain'.1)
          obtain rfl : fault = fault' := Except.error.inj (result.symm.trans failed)
          exact same.symm
        · exact fun ends => (ends f fault vain result).symm
    · have apart : ∀ f, ¬ DrawsInVain flow names book f := fun f vain => drawn ⟨f, vain⟩
      rw [resolve_filled r tolerant named apart]
      exact iff_of_true rfl fun f fault vain => absurd vain (apart f)

/-- A catalog with an ACTIVE version. -/
def plainCatalog : Catalog :=
  Catalog.empty.after (.addVersion "spark" "1.0" (.text "registry/spark") (.text "ACTIVE") .null)

/-- A resolver over the catalog with a bucket function that answers no bucket. -/
def bucketlessResolver : Resolver where
  sources := plainCatalog.sources fun _ => .ok (.int 0)
  planOrder := .text "normalize"

/-- A book with no entry for any type. -/
def emptyBook : PlanBook :=
  { entries := [(.text "Spark", some []), (.text "etl", none)] }

theorem isNamed_emptyBook : emptyBook.IsNamed := by
  rintro entry (_ | ⟨_, _ | ⟨_, ⟨⟩⟩⟩)
  · exact ⟨"Spark", rfl⟩
  · exact ⟨"etl", rfl⟩

theorem resolve_emptyAsNone_bucketless :
    emptyBook.IsNamed ∧
    bucketlessResolver.EmptyAsNone (some { name := .text "nightly" }) (.list [.text "spark"]) false
      emptyBook :=
  ⟨isNamed_emptyBook, resolve_emptyAsNone _ _ _ _ isNamed_emptyBook⟩

/-- An empty plan draws a bucket, and where that fails there is no outcome, although there is one
without the plan. -/
theorem not_emptyAsNone :
    ¬ ∀ (r : Resolver) (flow : Option Flow) (names : Datum) (tolerant : Bool) (book : PlanBook),
      book.IsNamed → outcome (r.resolve flow names tolerant (some book)) =
        outcome (r.resolve flow names tolerant (some book.filled)) := by
  intro alike
  have same := alike bucketlessResolver (some { name := .text "nightly" }) (.list [.text "spark"])
    false emptyBook isNamed_emptyBook
  have failed : (outcome (bucketlessResolver.resolve (some { name := .text "nightly" })
      (.list [.text "spark"]) false (some emptyBook))).toOption.isSome = false := by decide +kernel
  have resolved : (outcome (bucketlessResolver.resolve (some { name := .text "nightly" })
      (.list [.text "spark"]) false (some emptyBook.filled))).toOption.isSome = true := by
    decide +kernel
  rw [same, resolved] at failed
  cases failed

end Resolver

end Rollout

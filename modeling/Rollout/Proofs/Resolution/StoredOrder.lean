import Rollout.Proofs.Lookup.Agreement
import Rollout.Proofs.Plan.Ordering
import Rollout.Proofs.Resolution.Execution
import Rollout.Proofs.Resolution.Questions

/-!
# The stored order of plans

With a flow a stored plan counts only as it is walked (`rampupType_flow`). Plan books whose plans
are **walked alike** therefore serve a flow alike, whatever the sources (`agree_resolveWanted`), and
so do catalogs that differ in such plans only (`serveAlike`).

Under the policy that sorts, a plan with different shares is walked alike in every order of its
entries. Under every policy that does not refuse plans, the buckets that the tier matches, which are
those for which it asks the evaluator (`asked_iff_matches`), are those up to the allotment, and no
order has an influence on that (`setPlan_perm`).
-/

namespace Rollout

namespace Resolver

open Lookup

variable {r : Resolver} {tolerant : Bool} {key : TypeKey}

/-! ## Walked plans -/

/-- What the policy makes of a stored plan: the plan as it is walked, or the fault for which it is
refused. -/
def walkOf (r : Resolver) (key : TypeKey) (stored : Plan) : Except Fault Plan :=
  (stored.order (.text key.text) (.ofName r.planOrder)).1

theorem agree_walkOrder {stored stored' : Plan}
    (same : r.walkOf key stored = r.walkOf key stored') :
    Agree Eq (r.walkOrder tolerant key stored) (r.walkOrder tolerant key stored') := by
  have alike : SameResults Eq (r.walkOf key stored) (r.walkOf key stored') := same ▸ .refl _
  refine (agree_settle alike).orElse fun fault => Determined.agree ?_
  have closed := closed_determined
  split
  · exact closed.bind (closed.quiet (quiet_warn _)) fun _ => closed.quiet (quiet_pure _)
  · exact closed.quiet (quiet_throw _)

/-- What the tier makes of a walked plan for a flow with its bucket. -/
def rampupWalked (r : Resolver) (tolerant : Bool) (flow : Flow) (bucket : Int) (key : TypeKey)
    (walked : Plan) : Lookup RampupOutcome := do
  match ← Lookup.give (walked.matchBucket (.int bucket)) with
  | none => return .passed
  | some entry =>
    if ← Lookup.askThrough (.isExcluded flow.name key entry.version)
        (r.sources.isExcluded · flow.name key entry.version) then
      return .excluded entry walked
    else r.chooseEntry tolerant key entry walked

/-- With a flow the stored plan is not looked at again once it is walked. -/
theorem rampupType_flow (r : Resolver) (tolerant : Bool) (flow : Flow) (bucket : Int)
    (key : TypeKey) (stored : Plan) :
    r.rampupType tolerant (some (flow, bucket)) key stored =
      r.walkOrder tolerant key stored >>= r.rampupWalked tolerant flow bucket key := by
  refine bind_congr fun walked => ?_
  cases walked <;> cases stored <;> rfl

theorem determined_rampupWalked (r : Resolver) (tolerant : Bool) (flow : Flow) (bucket : Int)
    (key : TypeKey) (walked : Plan) :
    (r.rampupWalked tolerant flow bucket key walked).Determined := by
  have closed := closed_determined
  have questions := r.determined_questions (some flow)
  refine closed.bind (closed.quiet (quiet_give _)) fun owner => ?_
  cases owner with
  | none => exact closed.quiet (quiet_pure _)
  | some entry =>
    refine closed.bind (questions.isExcluded flow rfl key entry.version) fun barred => ?_
    cases barred with
    | true => exact closed.quiet (quiet_pure _)
    | false => exact questions.chooseEntry closed.composed key entry walked

theorem agree_rampupType (flow : Flow) (bucket : Int) {stored stored' : Plan}
    (same : r.walkOf key stored = r.walkOf key stored') :
    Agree Eq (r.rampupType tolerant (some (flow, bucket)) key stored)
      (r.rampupType tolerant (some (flow, bucket)) key stored') := by
  rw [rampupType_flow, rampupType_flow]
  refine (agree_walkOrder same).bind ?_
  rintro walked _ rfl
  exact (r.determined_rampupWalked tolerant flow bucket key walked).agree

theorem agree_rampupTypes (flow : Flow) (bucket : Int) {plans plans' : List (TypeKey × Plan)}
    (same : plans.map (fun plan => (plan.1, r.walkOf plan.1 plan.2)) =
      plans'.map fun plan => (plan.1, r.walkOf plan.1 plan.2)) :
    Agree Eq (r.rampupTypes tolerant (some (flow, bucket)) plans)
      (r.rampupTypes tolerant (some (flow, bucket)) plans') := by
  induction plans generalizing plans' with
  | nil =>
    obtain rfl : [] = plans' := by simpa using same
    exact agree_pure rfl
  | cons plan rest ih =>
    cases plans' with
    | nil => cases same
    | cons plan' rest' =>
      obtain ⟨key, stored⟩ := plan
      obtain ⟨key', stored'⟩ := plan'
      rw [List.map_cons, List.map_cons, List.cons.injEq, Prod.mk.injEq] at same
      obtain ⟨⟨rfl, here⟩, later⟩ := same
      refine (agree_rampupType flow bucket here).bind ?_
      rintro outcome _ rfl
      refine (ih later).bind ?_
      rintro outcomes _ rfl
      exact agree_pure rfl

/-! ## Questions about entries -/

/-- Where an entry is matched to the bucket, the evaluator is asked about its version. -/
theorem leads_matched {walked : Plan} {entry : PlanEntry} {flow : Flow} {bucket : Int}
    (matched : walked.matchBucket (.int bucket) = .ok (some entry)) :
    (r.rampupWalked tolerant flow bucket key walked).Leads [] fun _ calls =>
      .isExcluded flow.name key entry.version ∈ calls := by
  have questions := r.determined_questions (some flow)
  refine (arrives_give matched []).bind_ok ((leads_askThrough _ _ _).bind ?_ ?_)
  · rintro barred _ ⟨-, rfl⟩
    -- what is asked next comes after the question
    have onward : Determined (if barred = true then pure (.excluded entry walked) else
        r.chooseEntry tolerant key entry walked) := by
      split
      · exact closed_determined.quiet (quiet_pure _)
      · exact questions.chooseEntry closed_determined.composed key entry walked
    obtain ⟨result, made, arrives⟩ := onward (_ ++ _)
    exact arrives.imp fun _ _ grown _ => grown.subset List.mem_cons_self
  · rintro fault _ ⟨-, rfl⟩
    exact List.mem_cons_self

theorem leads_unmatched {walked : Plan} {flow : Flow} {bucket : Int}
    (unmatched : ∀ entry, walked.matchBucket (.int bucket) ≠ .ok (some entry)) :
    (r.rampupWalked tolerant flow bucket key walked).Leads [] fun _ calls => calls = [] := by
  refine (leads_give _ []).bind ?_ fun fault _ holds => holds.2
  rintro owner _ ⟨owned, rfl⟩
  cases owner with
  | none => exact leads_pure rfl
  | some entry => exact absurd owned (unmatched entry)

/-- A plan that is refused is skipped, or it ends the tier. -/
theorem leads_refused {stored : Plan} {fault : Fault}
    (refused : r.walkOf key stored = .error fault) :
    (r.walkOrder tolerant key stored).Leads [] fun result calls =>
      calls = [] ∧ ∀ walked, result = .ok walked → walked = [] := by
  refine (arrives_settle refused []).orElse_error _ ?_
  split
  · refine (leads_warn _ []).bind ?_ ?_
    · rintro _ _ ⟨-, rfl⟩
      exact leads_pure ⟨rfl, fun walked same => (Except.ok.inj same).symm⟩
    · rintro _ _ ⟨⟨⟩, -⟩
  · exact leads_throw ⟨rfl, nofun⟩

/-- The tier asks the evaluator about a flow exactly where the walked plan has an entry for its
bucket. -/
theorem asked_iff (r : Resolver) (tolerant : Bool) (flow : Flow) (bucket : Int) (key : TypeKey)
    (stored : Plan) :
    (∃ label, .isExcluded flow.name key label ∈
        (r.rampupType tolerant (some (flow, bucket)) key stored).start.2.calls) ↔
      ∃ walked entry, r.walkOf key stored = .ok walked ∧
        walked.matchBucket (.int bucket) = .ok (some entry) := by
  rw [rampupType_flow]
  constructor
  · rintro ⟨label, asked⟩
    refine Classical.byContradiction fun unmatched => ?_
    have silent : (r.walkOrder tolerant key stored >>=
        r.rampupWalked tolerant flow bucket key).Leads [] fun _ calls => calls = [] := by
      cases walks : r.walkOf key stored with
      | ok walked =>
        refine ((arrives_settle walks []).orElse_ok _).bind_ok ?_
        exact leads_unmatched fun entry matched => unmatched ⟨walked, entry, walks, matched⟩
      | error fault =>
        refine (leads_refused walks).bind ?_ fun fault _ holds => holds.1
        rintro walked _ ⟨rfl, nothing⟩
        obtain rfl := nothing walked rfl
        exact leads_unmatched nofun
    rw [silent.start] at asked
    cases asked
  · rintro ⟨walked, entry, walks, matched⟩
    exact ⟨entry.version,
      (((arrives_settle walks []).orElse_ok _).bind_ok (leads_matched matched)).start⟩

/-! ## Indexes and books -/

/-- The indexes have plans for the same types, and they are walked alike. -/
def WalksAlike (r : Resolver) (index index' : OrderedMap TypeKey Plan) : Prop :=
  ∀ key, (index.find? key).map (r.walkOf key) = (index'.find? key).map (r.walkOf key)

theorem WalksAlike.isEmpty {index index' : OrderedMap TypeKey Plan}
    (alike : r.WalksAlike index index') : index.isEmpty = index'.isEmpty := by
  rw [Bool.eq_iff_iff, OrderedMap.isEmpty_iff, OrderedMap.isEmpty_iff]
  refine forall_congr' fun key => ?_
  rw [← Option.map_eq_none_iff, alike key, Option.map_eq_none_iff]

theorem agree_rampupTier (flow : Flow) {index index' : OrderedMap TypeKey Plan}
    (alike : r.WalksAlike index index') (resolution : Resolution) :
    Agree Eq (r.rampupTier tolerant (some flow) index resolution)
      (r.rampupTier tolerant (some flow) index' resolution) := by
  have closed := closed_determined
  have questions := r.determined_questions (some flow)
  rw [rampupTier, rampupTier, ← alike.isEmpty]
  split
  · exact agree_pure rfl
  · -- the place holds the flow itself, so the bucket is drawn before the plans are gone through
    rw [place, bind_assoc, bind_assoc]
    refine (questions.bucketOf closed.composed rfl).agree.bind ?_
    rintro bucket _ rfl
    rw [pure_bind, pure_bind]
    refine (agree_rampupTypes flow bucket
      (OrderedMap.map_sortedBy_congr (fun _ _ => TypeKey.ext) r.walkOf alike)).bind ?_
    rintro outcomes _ rfl
    exact (questions.ruleFallback closed.composed _ _).agree

variable {wanted : NameSet}

/-- The books have plans for the same wanted types, and they are walked alike. -/
def BooksAlike (r : Resolver) (wanted : NameSet) (book book' : PlanBook) : Prop :=
  ∃ index index', (book.indexed wanted).1 = .ok index ∧ (book'.indexed wanted).1 = .ok index' ∧
    r.WalksAlike index index'

/-- Books whose plans are walked alike serve a flow alike. -/
theorem agree_resolveWanted (flow : Flow) {book book' : PlanBook}
    (alike : r.BooksAlike wanted book book') :
    Agree Eq (r.resolveWanted (some flow) wanted tolerant (some book))
      (r.resolveWanted (some flow) wanted tolerant (some book')) := by
  obtain ⟨index, index', indexed, indexed', walks⟩ := alike
  have closed := closed_determined
  have questions := r.determined_questions (some flow)
  rw [resolveWanted, resolveWanted]
  split
  · exact agree_pure rfl
  · have settled : SameResults r.WalksAlike (book.indexed wanted).1 (book'.indexed wanted).1 := by
      rw [indexed, indexed']
      exact .ok walks
    refine (agree_settle settled).bind fun index index' walks => ?_
    refine (agree_rampupTier flow walks _).bind ?_
    rintro ramped _ rfl
    refine Determined.agree (closed.bind ?_ fun active => ?_)
    · exact composed_activeTier closed.composed questions.activeVersions _
    · split
      · exact composed_nonActiveTier closed.composed questions.latestVersions _
      · exact closed.quiet (quiet_pure _)

/-! ## Requests -/

theorem agree_fetch {α β : Type} {related : α → β → Prop} {lookup : Lookup α} {lookup' : Lookup β}
    {default : α} {default' : β} (agree : Agree related lookup lookup') (what : String)
    (holds : related default default') :
    Agree related (fetch tolerant what default lookup) (fetch tolerant what default' lookup') := by
  cases tolerant with
  | false => exact agree
  | true =>
    refine agree.orElse fun fault => ?_
    refine (closed_determined.quiet (quiet_warn _)).agree.bind fun _ _ _ => ?_
    exact agree_pure holds

/-- Without a given book the plans of the wanted types are asked for first. -/
theorem resolveWanted_none (r : Resolver) (flow : Option Flow) (wanted : NameSet)
    (tolerant : Bool) :
    r.resolveWanted flow wanted tolerant none =
      if wanted.isEmpty then pure { unresolved := wanted }
      else r.bookFor tolerant wanted none >>= fun book =>
        r.resolveWanted flow wanted tolerant (some book) := by
  rw [resolveWanted]
  split
  · rfl
  · rename_i asked
    refine bind_congr fun book => ?_
    rw [resolveWanted, if_neg asked, bookFor, pure_bind]

theorem agree_names (names : Datum) :
    Agree (fun wanted wanted' => wanted = wanted' ∧ wanted.IsNormalized)
      (Lookup.give (NameSet.ofDatum names)) (Lookup.give (NameSet.ofDatum names)) := by
  refine agree_give ?_
  cases listed : NameSet.ofDatum names with
  | error fault => exact .error fault
  | ok wanted => exact .ok ⟨rfl, NameSet.isNormalized_of_ofDatum listed⟩

end Resolver

namespace Catalog

open Lookup Resolver

/-! ## Catalogs -/

variable {c : Catalog} {bucketOf : Flow → Except Fault Datum} {planOrder : Datum}
  {plans : OrderedMap TypeKey Plan} {wanted : NameSet}

/-- The stored plans are read through the plan store only. -/
theorem rampupTypes_withPlans (c : Catalog) (plans : OrderedMap TypeKey Plan)
    (tolerant : Bool) (placed : Option (Flow × Int)) (indexed : List (TypeKey × Plan)) :
    ({ c with plans := plans }.resolver bucketOf planOrder).rampupTypes tolerant placed indexed =
      (c.resolver bucketOf planOrder).rampupTypes tolerant placed indexed := by
  induction indexed with
  | nil => rfl
  | cons plan rest ih =>
    rw [rampupTypes, rampupTypes, ih]
    rfl

theorem resolveWanted_withPlans (c : Catalog) (plans : OrderedMap TypeKey Plan)
    (flow : Option Flow) (tolerant : Bool) (book : PlanBook) :
    ({ c with plans := plans }.resolver bucketOf planOrder).resolveWanted flow wanted tolerant
        (some book) =
      (c.resolver bucketOf planOrder).resolveWanted flow wanted tolerant (some book) := by
  simp only [resolveWanted, rampupTier, rampupTypes_withPlans c plans]
  rfl

/-- Both catalogs serve every flow alike. -/
structure ServeAlike (c c' : Catalog) (bucketOf : Flow → Except Fault Datum) (planOrder : Datum) :
    Prop where
  resolve : ∀ (flow : Flow) (names : Datum) (tolerant : Bool), Agree Eq
    ((c.resolver bucketOf planOrder).resolve (some flow) names tolerant none)
    ((c'.resolver bucketOf planOrder).resolve (some flow) names tolerant none)
  execution : ∀ flow : Flow, Agree Eq ((c.resolver bucketOf planOrder).execution (some flow))
    ((c'.resolver bucketOf planOrder).execution (some flow))
  subset : ∀ (flow : Flow) (names exempt : Datum), Agree Eq
    ((c.resolver bucketOf planOrder).subset (some flow) names exempt)
    ((c'.resolver bucketOf planOrder).subset (some flow) names exempt)

theorem booksAlike_allPlans (alike : (c.resolver bucketOf planOrder).WalksAlike c.plans plans)
    (wanted : NameSet) :
    (c.resolver bucketOf planOrder).BooksAlike wanted c.allPlans
      { c with plans := plans }.allPlans := by
  obtain ⟨index, indexed, found⟩ := c.indexed_allPlans wanted
  obtain ⟨index', indexed', found'⟩ := { c with plans := plans }.indexed_allPlans wanted
  refine ⟨index, index', indexed, indexed', fun key => ?_⟩
  rw [found, found']
  split
  · exact alike key
  · rfl

theorem agree_plansFor (alike : (c.resolver bucketOf planOrder).WalksAlike c.plans plans)
    (normalized : wanted.IsNormalized) :
    Agree ((c.resolver bucketOf planOrder).BooksAlike wanted)
      (ask (.plansFor wanted) ((c.sources bucketOf).plansFor · wanted))
      (ask (.plansFor wanted)
        (({ c with plans := plans }.sources bucketOf).plansFor · wanted)) := by
  refine agree_ask _ fun _ => .ok ?_
  have books := booksAlike_allPlans alike wanted
  rwa [BooksAlike, ← indexed_plansFor_eq c normalized, ← indexed_plansFor_eq _ normalized] at books

theorem agree_allPlans (alike : (c.resolver bucketOf planOrder).WalksAlike c.plans plans) :
    Agree (fun book book' => ∀ wanted,
        (c.resolver bucketOf planOrder).BooksAlike wanted book book')
      (ask .allPlans (c.sources bucketOf).allPlans)
      (ask .allPlans ({ c with plans := plans }.sources bucketOf).allPlans) :=
  agree_ask _ fun _ => .ok (booksAlike_allPlans alike)

theorem agree_resolved (plans : OrderedMap TypeKey Plan) (tolerant : Bool) (flow : Flow)
    {book book' : PlanBook}
    (books : (c.resolver bucketOf planOrder).BooksAlike wanted book book') :
    Agree Eq ((c.resolver bucketOf planOrder).resolveWanted (some flow) wanted tolerant (some book))
      (({ c with plans := plans }.resolver bucketOf planOrder).resolveWanted (some flow) wanted
        tolerant (some book')) := by
  rw [resolveWanted_withPlans c plans]
  exact agree_resolveWanted flow books

/-- A request ends in the same way over books whose plans are walked alike. -/
theorem agree_concluded (plans : OrderedMap TypeKey Plan) (flow : Flow) {book book' : PlanBook}
    (books : (c.resolver bucketOf planOrder).BooksAlike wanted book book')
    (exempt : Except Fault NameSet) :
    Agree Eq
      ((c.resolver bucketOf planOrder).resolveWanted (some flow) wanted false (some book) >>=
        conclude exempt)
      (({ c with plans := plans }.resolver bucketOf planOrder).resolveWanted (some flow) wanted
        false (some book') >>= conclude exempt) := by
  refine (agree_resolved plans false flow books).bind ?_
  rintro resolution _ rfl
  exact (closed_conclude closed_determined exempt resolution).agree

/-- Catalogs that differ in their plans only serve flows alike where these are walked alike. -/
theorem serveAlike (alike : (c.resolver bucketOf planOrder).WalksAlike c.plans plans) :
    c.ServeAlike { c with plans := plans } bucketOf planOrder where
  resolve := by
    intro flow names tolerant
    refine (agree_names names).bind ?_
    rintro wanted _ ⟨rfl, normalized⟩
    rw [resolveWanted_none, resolveWanted_none]
    split
    · exact agree_pure rfl
    · have nothing : (c.resolver bucketOf planOrder).BooksAlike wanted .empty .empty :=
        ⟨_, _, rfl, rfl, fun _ => rfl⟩
      refine (agree_fetch (agree_plansFor alike normalized) _ nothing).bind ?_
      exact fun book book' books => agree_resolved plans tolerant flow books
  execution := by
    intro flow
    rw [execution_eq, execution_eq]
    have listed : (c.resolver bucketOf planOrder).typeNames.Determined :=
      closed_determined.bind (determined_ask _ _) fun _ => closed_determined.quiet (quiet_pure _)
    refine listed.agree.bind ?_
    rintro names _ rfl
    refine (agree_allPlans alike).bind fun book book' books => ?_
    refine (agree_names _).bind ?_
    rintro wanted _ ⟨rfl, -⟩
    exact agree_concluded plans flow (books wanted) _
  subset := by
    intro flow names exempt
    refine (agree_names names).bind ?_
    rintro wanted _ ⟨rfl, normalized⟩
    rw [subsetWanted_eq, subsetWanted_eq]
    refine (agree_plansFor alike normalized).bind fun book book' books => ?_
    exact agree_concluded plans flow books _

/-! ## Buckets that the tier matches -/

variable {policy : WalkPolicy} {key : TypeKey}

/-- The tier matches an entry of the type's plan to the bucket. -/
def Matches (c : Catalog) (policy : WalkPolicy) (key : TypeKey) (bucket : Int) : Prop :=
  ∃ walked entry, c.Walks policy key walked ∧ walked.matchBucket (.int bucket) = .ok (some entry)

/-- There the tier asks the evaluator about the flow, and nowhere else. -/
theorem asked_iff_matches (c : Catalog) (bucketOf : Flow → Except Fault Datum) (planOrder : Datum)
    (tolerant : Bool) (flow : Flow) (bucket : Int) (key : TypeKey) :
    (∃ label, .isExcluded flow.name key label ∈
        ((c.resolver bucketOf planOrder).rampupType tolerant (some (flow, bucket)) key
          (c.planOf key)).start.2.calls) ↔
      c.Matches (.ofName planOrder) key bucket :=
  asked_iff _ tolerant flow bucket key (c.planOf key)

theorem planOf_putPlan (c : Catalog) (key : TypeKey) (plan : Plan) :
    (c.putPlan key plan).planOf key = plan := by
  rw [planOf, find?_putPlan, if_pos rfl]
  cases plan <;> rfl

/-- A plan that is not refused matches the buckets up to its allotment, whatever its order. -/
theorem matches_putPlan_iff (c : Catalog) (key : TypeKey) {plan : Plan} (sound : plan.IsSound)
    (lenient : policy ≠ .reject) {bucket : Int} (positive : 1 ≤ bucket)
    (inside : bucket ≤ bucketCount) :
    (c.putPlan key plan).Matches policy key bucket ↔ bucket ≤ min bucketCount plan.allotted := by
  obtain ⟨walked, ordered⟩ := (Plan.order_eq_ok_iff sound.isWhole (.text key.text) policy).mpr
    ⟨sound, fun rejects => absurd rejects lenient⟩
  obtain ⟨walks_sound, perm⟩ := Plan.sound_of_order sound.isWhole ordered
  have shares := walks_sound.isPositive
  have total := Plan.allotted_perm perm
  simp only [Matches, Walks, planOf_putPlan, ordered, Except.ok.injEq]
  constructor
  · rintro ⟨_, entry, rfl, matched⟩
    rcases Plan.matchBucket_spec shares positive with ⟨i, owner, -, owned⟩ | ⟨missed, -⟩
    · have below := owned.le_allotted shares
      omega
    · cases missed.symm.trans matched
  · intro within
    rcases Plan.matchBucket_spec shares positive with ⟨i, owner, matched, -⟩ | ⟨-, beyond⟩
    · exact ⟨walked, owner, rfl, matched⟩
    · omega

/-! ## Stored orders -/

/-- What two catalogs have in common that hold the entries of one plan in different orders. -/
structure Interchanges (c c' : Catalog) (bucketOf : Flow → Except Fault Datum) (planOrder : Datum)
    (key : TypeKey) (plan : Plan) : Prop where
  /-- Where plans are sorted and all shares differ, every flow is served alike. -/
  served : WalkPolicy.ofName planOrder = .normalize → (plan.map PlanEntry.share).Nodup →
    c.ServeAlike c' bucketOf planOrder
  /-- Where no plan is refused for its order, the same buckets are matched. -/
  matched : WalkPolicy.ofName planOrder ≠ .reject → ∀ bucket, 1 ≤ bucket → bucket ≤ bucketCount →
    (c.Matches (.ofName planOrder) key bucket ↔ bucket ≤ min bucketCount plan.allotted) ∧
      (c'.Matches (.ofName planOrder) key bucket ↔ bucket ≤ min bucketCount plan.allotted)

theorem serveAlike_putPlan (c : Catalog) (key : TypeKey) {plan other : Plan} (sound : plan.IsSound)
    (distinct : (plan.map PlanEntry.share).Nodup) (perm : plan.Perm other)
    (bucketOf : Flow → Except Fault Datum) (sorts : WalkPolicy.ofName planOrder = .normalize) :
    (c.putPlan key plan).ServeAlike (c.putPlan key other) bucketOf planOrder := by
  refine serveAlike fun k => ?_
  change ((c.putPlan key plan).plans.find? k).map _ = ((c.putPlan key other).plans.find? k).map _
  rw [find?_putPlan, find?_putPlan, perm.isEmpty_eq]
  split
  · split
    · rfl
    · have walks := Plan.order_eq_of_perm sound distinct perm (.text k.text)
      rw [← sorts] at walks
      exact congrArg some walks
  · rfl

/-- **The stored order of a plan.** Entries that are set in one order or in another give every flow
the same result, or the same fault, where plans are sorted and no percentage occurs twice. In any
case, unless plans are refused for their order, the buckets that the rampup tier matches are those
from 1 to the sum of the percentages, or to the last one. -/
theorem setPlan_perm (c : Catalog) (imageType : String) {entries entries' : List (String × Datum)}
    (perm : entries.Perm entries') {plan : Plan} (read : entriesPlan entries = .ok plan)
    (sound : plan.IsSound) (bucketOf : Flow → Except Fault Datum) (planOrder : Datum) :
    (c.after (.setPlan imageType entries)).Interchanges (c.after (.setPlan imageType entries'))
      bucketOf planOrder (.ofName imageType) plan := by
  obtain ⟨other, read', moved⟩ := Fallible.mapM_perm perm read
  rw [after_setPlan c imageType read, after_setPlan c imageType read']
  constructor
  · exact fun sorts distinct => serveAlike_putPlan c _ sound distinct moved bucketOf sorts
  · intro lenient bucket positive inside
    have matched := matches_putPlan_iff c (.ofName imageType) (sound.of_perm moved.symm) lenient
      positive inside
    rw [← Plan.allotted_perm moved] at matched
    exact ⟨matches_putPlan_iff c _ sound lenient positive inside, matched⟩

/-- Steps of a rollout that are listed out of order. -/
def mixedSteps : List (String × Datum) :=
  [("1.1.3", .int 60), ("1.1.1", .int 10), ("1.1.2", .int 30)]

/-- The same steps in ascending order. -/
def risingSteps : List (String × Datum) :=
  [("1.1.1", .int 10), ("1.1.2", .int 30), ("1.1.3", .int 60)]

def mixedPlan : Plan :=
  [⟨.text "1.1.3", .int 60⟩, ⟨.text "1.1.1", .int 10⟩, ⟨.text "1.1.2", .int 30⟩]

theorem setPlan_perm_mixed :
    mixedSteps.Perm risingSteps ∧ entriesPlan mixedSteps = .ok mixedPlan ∧ mixedPlan.IsSound ∧
    (mixedPlan.map PlanEntry.share).Nodup ∧
    (((sampleCatalog.after (.setPlan "spark" mixedSteps)).resolver (fun _ => .ok (.int 5))
        (.text "normalize")).resolve (some nightly) (.list [.text "Spark"]) false none).start.1 =
      (((sampleCatalog.after (.setPlan "spark" risingSteps)).resolver (fun _ => .ok (.int 5))
        (.text "normalize")).resolve (some nightly) (.list [.text "Spark"]) false none).start.1 ∧
    (sampleCatalog.after (.setPlan "spark" mixedSteps)).Matches .preserve (.ofName "spark")
      100 := by
  have perm : mixedSteps.Perm risingSteps := (List.perm_append_singleton _ _).symm
  have sound : mixedPlan.IsSound := by decide
  have distinct : (mixedPlan.map PlanEntry.share).Nodup := by decide
  have sorted := setPlan_perm sampleCatalog "spark" perm rfl sound (fun _ => .ok (.int 5))
    (.text "normalize")
  have preserved := setPlan_perm sampleCatalog "spark" perm rfl sound (fun _ => .ok (.int 5))
    (.text "preserve")
  exact ⟨perm, rfl, sound, distinct, ((sorted.served rfl distinct).resolve _ _ _).start_eq.1,
    (preserved.matched (by decide) 100 (by decide) (by decide)).1.mpr (by decide)⟩

end Catalog

end Rollout

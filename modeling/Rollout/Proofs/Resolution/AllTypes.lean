import Rollout.Proofs.Catalog.Answers
import Rollout.Proofs.Resolution.Division

/-!
# All types as a subset

Over a reachable catalog, the request for all types and the one for named types give the same when
the names are those of all registered types, in whatever order and spelling and however often
(`execution_eq_subset`). The two get their plans in different ways, and a catalog may hold plans for
types that are not registered; such plans leave no trace in an index (`indexed_plansFor_eq`). All
that remains is a difference in the calls made before, and a resolution gives no heed to it as long
as the rule evaluator and the bucket function give none.
-/

namespace Rollout

/-- The call asks for what a catalog lists: its types or plans. -/
def Call.isListing : Call → Bool
  | imageTypes | allPlans | plansFor _ => true
  | _ => false

/-- The catalog as sources, with any rule evaluator and any bucket function over it. Each of them
may answer or fail anew, by the calls made before; only the listings among these are nothing to
it. -/
def Catalog.sourcesWith (c : Catalog)
    (evaluator : List Call → Datum → TypeKey → Datum → Except Fault Bool × List Call)
    (bucketOf : List Call → Flow → Except Fault Datum) : Sources :=
  { c.sources (bucketOf []) with
    isExcluded := fun calls => evaluator (calls.filter (!·.isListing))
    bucketOf := fun calls => bucketOf (calls.filter (!·.isListing)) }

-- the evaluator of ramp rules is one of them
example (c : Catalog) (bucketOf : Flow → Except Fault Datum) :
    c.sources bucketOf =
      c.sourcesWith
        (fun _ flowName key label => (c.judged flowName key label, [.rulesFor key label]))
        fun _ => bucketOf := rfl

namespace Resolver

variable {r : Resolver} {flow : Option Flow} {wanted : NameSet}

/-- A resolution over the catalog gives no heed to what has been listed before. -/
theorem heeds_questions (c : Catalog)
    (evaluator : List Call → Datum → TypeKey → Datum → Except Fault Bool × List Call)
    (bucketOf : List Call → Flow → Except Fault Datum) (planOrder : Datum) (flow : Option Flow) :
    QuestionsHave ⟨c.sourcesWith evaluator bucketOf, planOrder⟩ flow
      fun _ lookup => lookup.Heeds (!·.isListing) where
  findVersions _ _ := Lookup.heeds_ask _ fun _ _ _ => rfl
  activeVersions _ := Lookup.heeds_ask _ fun _ _ _ => rfl
  latestVersions _ := Lookup.heeds_ask _ fun _ _ _ => rfl
  plansFor _ := Lookup.heeds_ask _ fun _ _ _ => rfl
  bucket f _ := Lookup.heeds_ask _ fun _ _ same => congrArg (bucketOf · f) same
  isExcluded f _ key label := Lookup.heeds_askThrough _ fun _ _ same =>
    congrArg (evaluator · f.name key label) same

/-- A resolution depends on its plan book by the index alone. -/
theorem resolveWanted_congr (r : Resolver) (flow : Option Flow) (tolerant : Bool)
    {book book' : PlanBook} (same : book.indexed wanted = book'.indexed wanted) :
    r.resolveWanted flow wanted tolerant (some book) =
      r.resolveWanted flow wanted tolerant (some book') := by
  simp only [resolveWanted, bookFor, pure_bind, same]

/-- Exempt types that are not left over make no difference to the last step. -/
theorem conclude_of_apart {resolution : Resolution} {spared : NameSet}
    (apart : ∀ name ∈ resolution.unresolved, name ∉ spared) :
    conclude (.ok spared) resolution = conclude (.ok NameSet.empty) resolution := by
  have all : resolution.unresolved.diff spared = resolution.unresolved := by
    apply NameSet.ext
    intro name
    rw [NameSet.mem_diff, and_iff_left_iff_imp]
    exact apart name
  rw [conclude_empty, ← all]
  rfl

/-- Exempt types that are not wanted make no difference to a request. -/
theorem concluded_of_apart (flow : Option Flow) (normalized : wanted.IsNormalized)
    (book : PlanBook) {spared : NameSet} (apart : ∀ name ∈ wanted, name ∉ spared)
    (journal : Journal) :
    (r.resolveWanted flow wanted false (some book) >>= conclude (.ok spared)) journal =
      (r.resolveWanted flow wanted false (some book) >>= conclude (.ok NameSet.empty)) journal := by
  refine (proper_resolveWanted r flow normalized (some book) journal.calls).bind_congr
    (fun resolution after proper => conclude_of_apart fun name left_over => ?_) rfl
  exact apart name ((proper.partitions.unresolved_iff name).mp left_over).1

/-! ## What the requests start with -/

theorem execution_start {types : List ImageType} {book : PlanBook}
    (listed : r.sources.imageTypes [] = .ok types)
    (booked : r.sources.allPlans [.imageTypes] = .ok book)
    (named : NameSet.ofDatum (.list (types.map ImageType.name)) = .ok wanted) :
    (r.execution flow).start =
      (r.resolveWanted flow wanted false (some book) >>= conclude (.ok NameSet.empty))
        { calls := [.imageTypes, .allPlans] } := by
  rw [execution_eq, Lookup.start, typeNames, bind_assoc]
  simp only [pure_bind, Fallible.bind_apply, Lookup.ask, Lookup.give, List.nil_append,
    List.cons_append, listed, booked, named]

theorem subset_start {names exempt : Datum} {book : PlanBook}
    (named : NameSet.ofDatum names = .ok wanted)
    (booked : r.sources.plansFor [] wanted = .ok book) :
    (r.subset flow names exempt).start =
      (r.resolveWanted flow wanted false (some book) >>= conclude (NameSet.ofDatum exempt))
        { calls := [.plansFor wanted] } := by
  rw [subset, Lookup.start]
  simp only [subsetWanted_eq, Fallible.bind_apply, Lookup.ask, Lookup.give, List.nil_append,
    named, booked]

/-- **All types as a subset.** Over a reachable catalog with any rule evaluator and any bucket
function, the request for all types returns what the request for named types returns, or fails with
the same fault, when the names are those of the registered types and none of these is exempt. -/
theorem execution_eq_subset {c : Catalog} (reached : c.Reachable)
    (evaluator : List Call → Datum → TypeKey → Datum → Except Fault Bool × List Call)
    (bucketOf : List Call → Flow → Except Fault Datum) (planOrder : Datum) (flow : Option Flow)
    {names exempt : Datum} {texts others : List String}
    (listed : names.items = .ok (texts.map .text))
    (all : ∀ key, key ∈ c.types.keys ↔ ∃ text ∈ texts, TypeKey.ofName text = key)
    (exempted : exempt.items = .ok (others.map .text))
    (none_exempt : ∀ other ∈ others, TypeKey.ofName other ∉ c.types.keys) :
    (execution ⟨c.sourcesWith evaluator bucketOf, planOrder⟩ flow).start.1 =
      (subset ⟨c.sourcesWith evaluator bucketOf, planOrder⟩ flow names exempt).start.1 := by
  have normalized := c.normalized_registered
  have listed_names : NameSet.ofDatum names = .ok c.registered := by
    rw [NameSet.ofDatum_texts listed, Catalog.normalized_eq_registered all]
  have apart : ∀ name ∈ c.registered, name ∉ NameSet.normalized others := by
    intro name member spared
    obtain ⟨key, registered, rfl⟩ := Catalog.mem_registered.mp member
    obtain ⟨other, among, same⟩ := NameSet.mem_normalized.mp spared
    exact none_exempt other among (TypeKey.ext (a := .ofName other) same ▸ registered)
  rw [execution_start rfl rfl (Catalog.ofDatum_types reached.wellKept),
    subset_start listed_names rfl, NameSet.ofDatum_texts exempted,
    concluded_of_apart flow normalized _ apart,
    resolveWanted_congr _ _ _ (c.indexed_plansFor_eq normalized)]
  -- what is left is one look-up, after different listings
  have questions := heeds_questions c evaluator bucketOf planOrder flow
  refine (questions.concluded (Lookup.closed_heeds _) c.registered (some c.allPlans)
    (.ok NameSet.empty) _ _ ?_).1
  rfl

/-- A catalog with a plan for a type that is not registered. -/
def orphanCatalog : Catalog :=
  [Catalog.Change.addVersion "etl" "1.0" .null (.text "ACTIVE") .null,
   .setPlan "gone" [("9.0", .int 100)]].foldl Catalog.after Catalog.empty

/-- A resolver over the catalog whose bucket function fails. -/
def orphanResolver : Resolver where
  sources := orphanCatalog.sourcesWith (fun _ _ _ _ => (.ok false, []))
    fun _ _ => .error (.invalidBucket .null)
  planOrder := .null

def orphanInfos : List (TypeKey × VersionInfo) :=
  [(.ofName "etl", ⟨.text "1.0", .text "registry/etl", .active⟩)]

theorem execution_eq_subset_orphan :
    orphanCatalog.plans.keys = [.ofName "gone"] ∧
    (orphanResolver.execution (some { name := .text "nightly" })).start.1 = .ok orphanInfos ∧
    (orphanResolver.subset (some { name := .text "nightly" })
      (.list [.text " ETL ", .text "etl", .text "Etl"]) (.list [.text "GONE"])).start.1 =
        .ok orphanInfos := by
  have reached : orphanCatalog.Reachable := Catalog.reachable_iff.mpr ⟨_, rfl⟩
  have keys : orphanCatalog.types.keys = [.ofName "etl"] := by decide +kernel
  have spelled : [" ETL ", "etl", "Etl"].map TypeKey.ofName =
      [.ofName "etl", .ofName "etl", .ofName "etl"] := by decide +kernel
  have listed : (Datum.list [.text " ETL ", .text "etl", .text "Etl"]).items =
      .ok ([" ETL ", "etl", "Etl"].map .text) := rfl
  have all : ∀ key, key ∈ orphanCatalog.types.keys ↔
      ∃ text ∈ [" ETL ", "etl", "Etl"], TypeKey.ofName text = key := by
    intro key
    rw [← List.mem_map, keys, spelled]
    simp
  have exempted : (Datum.list [.text "GONE"]).items = .ok (["GONE"].map .text) := rfl
  have none_exempt : ∀ other ∈ ["GONE"], TypeKey.ofName other ∉ orphanCatalog.types.keys := by
    rw [keys]
    decide +kernel
  have returned : (orphanResolver.execution (some { name := .text "nightly" })).start.1 =
      .ok orphanInfos := Fallible.eq_ok_of_toOption (by decide +kernel)
  have same := execution_eq_subset reached (fun _ _ _ _ => (.ok false, []))
    (fun _ _ => .error (.invalidBucket .null)) .null (some { name := .text "nightly" })
    listed all exempted none_exempt
  exact ⟨by decide +kernel, returned, same.symm.trans returned⟩

end Resolver

end Rollout

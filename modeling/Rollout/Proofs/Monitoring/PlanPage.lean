import Rollout.Monitoring.Server
import Rollout.Proofs.Plan.Allocation
import Rollout.Proofs.Resolution.OneType
import Rollout.Proofs.Text.Split

/-!
# The page of a plan and what the resolver does

The page of a plan and a resolution for its type fetch, index, order and walk the plan each on its
own. They agree: the main statement, `planPage_tells`, says of every answer of the plan store that
the page refuses exactly the plans that end the resolution, and that for a flow in a bucket the
resolution looks up the version of the one listed entry whose buckets hold it (`Shows`).
-/

namespace Rollout

namespace Monitoring

/-! ## The path of the page -/

/-- The path with the segments. -/
def pathOf (segments : List String) : List Char :=
  segments.flatMap fun segment => '/' :: segment.toList

theorem splitAll_pathOf {first : List Char} (single : '/' ∉ first) {segments : List String}
    (each : ∀ segment ∈ segments, '/' ∉ segment.toList) :
    Text.splitAll '/' (first ++ pathOf segments) = first :: segments.map String.toList := by
  induction segments generalizing first with
  | nil =>
    rw [pathOf, List.flatMap_nil, List.append_nil]
    exact Text.splitAll_absent single
  | cons segment rest ih =>
    have later := ih (each segment List.mem_cons_self)
      fun other member => each other (List.mem_cons_of_mem _ member)
    rw [pathOf, List.flatMap_cons, List.cons_append, Text.splitAll_append single, List.map_cons]
    exact congrArg (first :: ·) later

/-- The path of the page for the plan of a type. -/
def planPath (name : String) : List Char :=
  pathOf ["api", "v1", "image-types", name, "rampup"]

theorem ofPath?_planPath {name : String} (filled : name ≠ "") (single : '/' ∉ name.toList) :
    CatalogRoute.ofPath? (planPath name) = some (.plan name) := by
  have each : ∀ segment ∈ ["api", "v1", "image-types", name, "rampup"],
      '/' ∉ segment.toList := by
    simp only [List.forall_mem_cons]
    exact ⟨by decide, by decide, by decide, single, by decide, nofun⟩
  have segments := splitAll_pathOf List.not_mem_nil each
  rw [List.nil_append] at segments
  rw [CatalogRoute.ofPath?, planPath, segments]
  simp only [List.map_cons, List.map_nil, String.ofList_toList]
  exact if_neg (by simpa using filled)

/-! ## What the page lists -/

/-- An entry as the page lists it: with its buckets, or without when all of them lie beyond the last
one. -/
def entryItem (entry : PlanEntry) (range : Int × Int) : Datum :=
  .record
    [("version", entry.version), ("percentage", entry.percentage),
     ("buckets", if range.1 ≤ range.2 then .list [.int range.1, .int range.2] else .null)]

/-- The entries of a walked plan as the page lists them. -/
def planItems (walked : Plan) : List Datum :=
  (walked.zip (Plan.rangesFrom 0 walked)).map fun pair => entryItem pair.1 pair.2

/-- The page that lists entries of the plan of a type. -/
def planListing (r : Resolver) (key : TypeKey) (allocated : Int) (items : List Datum) : Page :=
  .catalog 200 (.record
    [("image_type", .text key.text), ("plan_order", r.planOrder),
     ("allocated", .int allocated), ("entries", .list items)])

theorem entryDatum_rangeData (entry : PlanEntry) (range : Int × Int) :
    entryDatum entry (Plan.rangeData range) = .ok (entryItem entry range) := by
  rw [entryDatum, Plan.rangeData, Datum.atMost_int, entryItem]
  by_cases filled : range.1 ≤ range.2 <;> simp [filled, bind, Except.bind, pure, Except.pure]

theorem orderedPlanPage_sound (r : Resolver) (key : TypeKey) {walked : Plan}
    (sound : walked.IsSound) :
    orderedPlanPage r key walked =
      .ok (planListing r key walked.allotted (planItems walked)) := by
  -- whole percentages have whole ranges, so no entry fails to be listed
  have items : ((walked.zip ((Plan.rangesFrom 0 walked).map Plan.rangeData)).mapM
      fun item => entryDatum item.1 item.2) = .ok (planItems walked) := by
    rw [List.zip_map_right, List.mapM_map, planItems]
    have each : (fun pair : PlanEntry × Datum × Datum => entryDatum pair.1 pair.2) ∘
        Prod.map id Plan.rangeData = fun pair => pure (entryItem pair.1 pair.2) := by
      funext pair
      exact entryDatum_rangeData pair.1 pair.2
    exact (congrArg (List.mapM · _) each).trans List.mapM_pure
  rw [orderedPlanPage, Plan.bucketRanges, Plan.bucketRangesFrom_whole sound, Plan.total,
    Plan.totalFrom_whole sound.isWhole, Int.zero_add]
  exact congrArg (· >>= fun listed => .ok (planListing r key walked.allotted listed)) items

/-- The listed entry shows the bucket among those of the version. -/
def Shows (bucket : Int) (version item : Datum) : Prop :=
  ∃ percentage low high,
    item = .record
      [("version", version), ("percentage", percentage), ("buckets", .list [.int low, .int high])] ∧
    low ≤ bucket ∧ bucket ≤ high

theorem shows_entryItem_iff {bucket : Int} {version : Datum} {entry : PlanEntry}
    {range : Int × Int} :
    Shows bucket version (entryItem entry range) ↔
      version = entry.version ∧ Plan.InRange bucket range := by
  rw [entryItem]
  constructor
  · rintro ⟨percentage, low, high, same, above, below⟩
    split at same
    · cases same
      exact ⟨rfl, above, below⟩
    · cases same
  · rintro ⟨rfl, above, below⟩
    rw [if_pos (Int.le_trans above below)]
    exact ⟨_, _, _, rfl, above, below⟩

/-- The entry that is listed at a place shows the bucket when it owns it. -/
theorem shows_planItems_iff {walked : Plan} {bucket : Int} (high : bucket ≤ bucketCount)
    {i : Nat} {version : Datum} :
    (∃ item, (planItems walked)[i]? = some item ∧ Shows bucket version item) ↔
      ∃ entry, walked.OwnsAt bucket i entry ∧ version = entry.version := by
  constructor
  · rintro ⟨item, listed, shows⟩
    rw [planItems, List.getElem?_map] at listed
    obtain ⟨⟨entry, range⟩, placed, rfl⟩ := Option.map_eq_some_iff.mp listed
    obtain ⟨entry_at, range_at⟩ := List.getElem?_zip_eq_some.mp placed
    obtain ⟨same, inside⟩ := shows_entryItem_iff.mp shows
    obtain ⟨owner, owns⟩ := (Plan.inRange_rangesFrom_iff high).mp ⟨range, range_at, inside⟩
    obtain rfl : owner = entry := Option.some.inj (owns.1.symm.trans entry_at)
    exact ⟨owner, owns, same⟩
  · rintro ⟨entry, owns, rfl⟩
    obtain ⟨range, range_at, inside⟩ := (Plan.inRange_rangesFrom_iff high).mpr ⟨entry, owns⟩
    have placed : (walked.zip (Plan.rangesFrom 0 walked))[i]? = some (entry, range) :=
      List.getElem?_zip_eq_some.mpr ⟨owns.1, range_at⟩
    refine ⟨entryItem entry range, ?_, shows_entryItem_iff.mpr ⟨rfl, inside⟩⟩
    rw [planItems, List.getElem?_map, placed]
    rfl

/-! ## What the page answers -/

/-- The answer of the page when this plan is stored for the type. -/
inductive Answers (r : Resolver) (key : TypeKey) (stored : Plan) : Page → Prop where
  | missing (empty : stored = []) :
      Answers r key stored (.catalogRefusal .notFound
        s!"No active rampup plan for image type {key.text}")
  | refused {flaw : PlanFlaw} (filled : stored ≠ [])
      (refuses : (stored.order (.text key.text) (.ofName r.planOrder)).1 =
        .error (.invalidPlan (.text key.text) flaw)) :
      Answers r key stored
        (.catalogRefusal .invalidPlan (Fault.invalidPlan (.text key.text) flaw).message)
  | listed {walked : Plan} (filled : stored ≠ []) (walks : r.WalksAs key stored walked)
      (sound : walked.IsSound) :
      Answers r key stored (planListing r key walked.allotted (planItems walked))

/-- The page once the plan of the type is known. -/
def storedPlanPage (r : Resolver) (key : TypeKey) (stored : Plan) : Lookup Page :=
  match stored with
  | [] => return .catalogRefusal .notFound s!"No active rampup plan for image type {key.text}"
  | plan => do
    let ordered ← Lookup.settle (plan.order (.text key.text) (.ofName r.planOrder))
    Lookup.give (orderedPlanPage r key ordered)

/-- The page as long as no fault stands in its way. -/
def soughtPlanPage (r : Resolver) (name : String) : Lookup Page := do
  let wanted := NameSet.ofList [(TypeKey.ofName name).text]
  let book ← Lookup.ask (.plansFor wanted) (r.sources.plansFor · wanted)
  let plans ← Lookup.settle (book.indexed wanted)
  storedPlanPage r (.ofName name) ((plans.find? (.ofName name)).getD [])

theorem planPage_eq (r : Resolver) (name : String) :
    planPage r name = (soughtPlanPage r name).orElse fun fault => return faultPage fault := rfl

theorem arrives_soughtPlanPage {r : Resolver} {name : String} {book : PlanBook}
    (answered : r.sources.plansFor [] (NameSet.ofList [(TypeKey.ofName name).text]) = .ok book)
    (typed : book.IsTyped) {result : Except Fault Page} {made : List Call}
    (arrives : (storedPlanPage r (.ofName name) (book.planOf (.ofName name))).Arrives
      [.plansFor (NameSet.ofList [(TypeKey.ofName name).text])] result made) :
    (soughtPlanPage r name).Arrives [] result made := by
  obtain ⟨index, indexed, -⟩ :=
    Resolver.indexed_typed typed (NameSet.ofList [(TypeKey.ofName name).text])
  have planned : (index.find? (.ofName name)).getD [] = book.planOf (.ofName name) :=
    PlanBook.getD_find?_indexed indexed (NameSet.mem_ofList.mpr List.mem_cons_self)
  refine (Lookup.arrives_ask _ answered).bind_ok ((Lookup.arrives_settle indexed _).bind_ok ?_)
  rw [planned]
  exact arrives

/-- The page shows what the plan of the type in the answer of the plan store comes to. -/
theorem answers_planPage {r : Resolver} {name : String} {book : PlanBook}
    (answered : r.sources.plansFor [] (NameSet.ofList [(TypeKey.ofName name).text]) = .ok book)
    (typed : book.IsTyped) :
    ∃ page, (planPage r name).start.1 = .ok page ∧
      Answers r (.ofName name) (book.planOf (.ofName name)) page := by
  have whole := Resolver.planOf_whole typed (.ofName name)
  have sought : ∀ {result made},
      (storedPlanPage r (.ofName name) (book.planOf (.ofName name))).Arrives _ result made →
        (soughtPlanPage r name).Arrives [] result made := arrives_soughtPlanPage answered typed
  rw [planPage_eq]
  -- only the plan of the type counts from here on, whatever book it comes from
  revert sought whole
  generalize book.planOf (.ofName name) = stored
  intro whole sought
  cases stored with
  | nil => exact ⟨_, ((sought (Lookup.arrives_pure _ _)).orElse_ok _).start.1, .missing rfl⟩
  | cons first rest =>
    have filled : first :: rest ≠ [] := List.cons_ne_nil first rest
    rcases Plan.order_whole whole (.text (TypeKey.ofName name).text) (.ofName r.planOrder) with
      ⟨flaw, refuses⟩ | ⟨-, walked, walks, -⟩
    · have failed := sought (Lookup.arrives_settle refuses _).bind_error
      refine ⟨_, ?_, .refused filled refuses⟩
      exact (failed.orElse_error (fun fault => return faultPage fault)
        (Lookup.arrives_pure _ _)).start.1
    · have sound := (Plan.sound_of_order whole walks).1
      have shown := sought ((Lookup.arrives_settle walks _).bind_ok
        (Lookup.arrives_give (orderedPlanPage_sound r (.ofName name) sound) _))
      exact ⟨_, (shown.orElse_ok _).start.1, .listed filled walks sound⟩

/-! ## What the page tells -/

/-- The resolution looks this version of the type up, and chooses it if it finds it. -/
structure LooksUp (r : Resolver) (flow : Flow) (key : TypeKey) (version : Datum)
    (result : Except Fault Resolution) (calls : List Call) : Prop where
  /-- The version is the only one that is looked up, after the evaluator was asked for it. -/
  asked : calls = Resolver.firstCalls flow key ++ .isExcluded flow.name key version ::
    (r.sources.isExcluded (Resolver.firstCalls flow key) flow.name key version).2 ++
    [.findVersions (.text key.text) version]
  chosen : ∀ resolution, result = .ok resolution → ∃ found plan,
    resolution.decisions.find? key =
      some { version := some found, selection := .rampup, plan := plan } ∧
    found.key = .ok key ∧ found.hasLabel version = .ok true

/-- The resolution makes no decision by a plan, nor looks a version up for one. -/
structure MakesNoRampup (result : Except Fault Resolution) (calls : List Call) : Prop where
  unramped : ∀ resolution, result = .ok resolution → resolution.IsUnramped
  unasked : ∀ name version, .findVersions name version ∉ calls

/-- The page for the plan of a type tells how a resolution of the type goes for a flow in the
bucket: its result, and the calls that it makes. -/
structure Tells (r : Resolver) (flow : Flow) (bucket : Int) (key : TypeKey) (book : PlanBook)
    (page : Page) (result : Except Fault Resolution) (calls : List Call) : Prop where
  /-- There is no page when no spelling of the type's name has a plan with entries. -/
  missing_iff : page.status = 404 ↔ ∀ name plan, (name, some plan) ∈ book.entries →
    TypeKey.ofDatum name = .ok key → plan = []
  missing : page.status = 404 → MakesNoRampup result calls
  /-- The page refuses the plan when the resolution does, which it then does before it asks for any
  version. -/
  refused_iff : page.status = 422 ↔ ∃ fault, result = .error fault ∧ fault.IsOfPlan ∧
    calls = Resolver.firstCalls flow key
  /-- Other faults about plans can come from the version catalog only. -/
  refused_iff_of_spares : r.sources.SparesPlans →
    (page.status = 422 ↔ ∃ fault, result = .error fault ∧ fault.IsOfPlan)
  /-- Both give the same message. -/
  refused : ∀ fault, page.status = 422 → result = .error fault →
    page = .catalogRefusal .invalidPlan fault.message
  /-- Otherwise it lists the plan, and the resolution looks up what the one entry with the bucket
  says. -/
  listed : page.status ≠ 404 → page.status ≠ 422 → page.status = 200 ∧
    ∃ allocated items, page = planListing r key allocated items ∧
      ((∃ place version,
        (∃ item, items[place]? = some item ∧ Shows bucket version item) ∧
        (∀ (other : Nat) version',
          (∃ item, items[other]? = some item ∧ Shows bucket version' item) →
          other = place ∧ version' = version) ∧
        LooksUp r flow key version result calls) ∨
      ((∀ item ∈ items, ∀ version, ¬ Shows bucket version item) ∧ MakesNoRampup result calls))

section Agreement

variable {r : Resolver} {flow : Flow} {bucket : Int} {key : TypeKey} {book : PlanBook}
  {result : Except Fault Resolution} {calls : List Call}

/-- Where the plan is not refused, the resolution goes on to ask for versions. -/
theorem calls_ne_firstCalls {stored : Plan}
    (course : Resolver.Course r flow bucket key stored result calls) {walked : Plan}
    (walks : r.WalksAs key stored walked) : calls ≠ Resolver.firstCalls flow key := by
  cases course with
  | unplanned => simp [Resolver.firstCalls]
  | refused refuses => exact nomatch refuses.symm.trans walks
  | missed => simp
  | matched => simp

/-- A fault about plans is then one of the version catalog. -/
theorem spares_of_walks {stored : Plan}
    (course : Resolver.Course r flow bucket key stored result calls) {walked : Plan}
    (walks : r.WalksAs key stored walked) : r.sources.Spares result := by
  cases course with
  | unplanned _ _ spares => exact spares
  | refused refuses => exact nomatch refuses.symm.trans walks
  | missed _ _ _ spares => exact spares
  | matched _ _ _ spares => exact spares

/-- Of an empty plan nothing is walked. -/
theorem makesNoRampup_of_empty (walks : r.WalksAs key [] [])
    (course : Resolver.Course r flow bucket key [] result calls) : MakesNoRampup result calls := by
  cases course with
  | unplanned _ unramped => exact ⟨unramped, by simp⟩
  | refused refuses => exact nomatch refuses.symm.trans walks
  | missed _ _ unramped => exact ⟨unramped, by simp [Resolver.firstCalls]⟩
  | matched walks' matched =>
    obtain rfl := Except.ok.inj (walks.symm.trans walks')
    cases matched

theorem tells_of_missing (empty : book.planOf key = [])
    (course : Resolver.Course r flow bucket key (book.planOf key) result calls) (message : String) :
    Tells r flow bucket key book (.catalogRefusal .notFound message) result calls := by
  have walks : r.WalksAs key [] [] := by
    rw [Resolver.WalksAs]
    cases WalkPolicy.ofName r.planOrder <;> rfl
  rw [empty] at course
  refine
    { missing_iff := ⟨fun _ => PlanBook.planOf_eq_nil_iff.mp empty, fun _ => rfl⟩
      missing := fun _ => makesNoRampup_of_empty walks course
      refused_iff := ⟨nofun, ?_⟩
      refused_iff_of_spares := fun plain => ⟨nofun, ?_⟩
      refused := fun _ => nofun
      listed := fun found _ => absurd rfl found }
  · rintro ⟨fault, -, -, early⟩
    exact absurd early (calls_ne_firstCalls course walks)
  · rintro ⟨fault, failed, of_plan⟩
    exact absurd of_plan (spares_of_walks course walks plain fault failed)

theorem tells_of_refused {flaw : PlanFlaw} (filled : book.planOf key ≠ [])
    (refuses : ((book.planOf key).order (.text key.text) (.ofName r.planOrder)).1 =
      .error (.invalidPlan (.text key.text) flaw))
    (course : Resolver.Course r flow bucket key (book.planOf key) result calls) :
    Tells r flow bucket key book (.catalogRefusal .invalidPlan
      (Fault.invalidPlan (.text key.text) flaw).message) result calls := by
  have ended : result = .error (.invalidPlan (.text key.text) flaw) ∧
      calls = Resolver.firstCalls flow key := by
    cases course with
    | unplanned empty => exact absurd empty filled
    | refused refuses' => exact ⟨congrArg _ (Except.error.inj (refuses'.symm.trans refuses)), rfl⟩
    | missed walks => exact nomatch refuses.symm.trans walks
    | matched walks => exact nomatch refuses.symm.trans walks
  obtain ⟨rfl, rfl⟩ := ended
  exact
    { missing_iff := ⟨nofun, fun empty => absurd (PlanBook.planOf_eq_nil_iff.mpr empty) filled⟩
      missing := nofun
      refused_iff := ⟨fun _ => ⟨_, rfl, trivial, rfl⟩, fun _ => rfl⟩
      refused_iff_of_spares := fun _ => ⟨fun _ => ⟨_, rfl, trivial⟩, fun _ => rfl⟩
      refused := fun _ _ failed => Except.error.inj failed ▸ rfl
      listed := fun _ found => absurd rfl found }

/-- What a walked plan lists for the bucket is what the resolution walks to. -/
theorem tells_of_listed {walked : Plan} (puts : r.sources.PutsInto flow bucket)
    (filled : book.planOf key ≠ []) (walks : r.WalksAs key (book.planOf key) walked)
    (sound : walked.IsSound)
    (course : Resolver.Course r flow bucket key (book.planOf key) result calls) :
    Tells r flow bucket key book (planListing r key walked.allotted (planItems walked)) result
      calls := by
  refine
    { missing_iff := ⟨nofun, fun empty => absurd (PlanBook.planOf_eq_nil_iff.mpr empty) filled⟩
      missing := nofun
      refused_iff := ⟨nofun, ?_⟩
      refused_iff_of_spares := fun plain => ⟨nofun, ?_⟩
      refused := fun _ => nofun
      listed := fun _ _ => ⟨rfl, _, _, rfl, ?_⟩ }
  · rintro ⟨fault, -, -, early⟩
    exact absurd early (calls_ne_firstCalls course walks)
  · rintro ⟨fault, failed, of_plan⟩
    exact absurd of_plan (spares_of_walks course walks plain fault failed)
  · cases course with
    | unplanned empty => exact absurd empty filled
    | refused refuses => exact nomatch refuses.symm.trans walks
    | missed walks' missed unramped =>
      -- the page and the resolution walk the plan in one order
      obtain rfl := Except.ok.inj (walks.symm.trans walks')
      refine .inr ⟨?_, unramped, by simp [Resolver.firstCalls]⟩
      intro item listed version shows
      obtain ⟨i, at_i⟩ := List.mem_iff_getElem?.mp listed
      obtain ⟨entry, owns, -⟩ := (shows_planItems_iff puts.high).mp ⟨item, at_i, shows⟩
      -- a bucket that no entry is matched with lies beyond all that are allotted
      have beyond := (Plan.matchBucket_eq_none_iff sound.isPositive puts.low).mp missed
      exact (Plan.not_owns_iff sound.isPositive puts.low).mpr beyond entry ⟨i, owns⟩
    | matched walks' matched decided =>
      obtain rfl := Except.ok.inj (walks.symm.trans walks')
      obtain ⟨i, owns⟩ := (Plan.matchBucket_eq_some_iff sound.isPositive puts.low).mp matched
      refine .inl ⟨i, _, (shows_planItems_iff puts.high).mpr ⟨_, owns, rfl⟩, ?_, rfl, ?_⟩
      · -- a bucket has one owner, so a second entry that shows it would be this one
        rintro other version' shows
        obtain ⟨entry', owns', rfl⟩ := (shows_planItems_iff puts.high).mp shows
        obtain rfl := owns'.unique sound.isPositive owns
        rw [Option.some.inj (owns'.1.symm.trans owns.1)]
        exact ⟨rfl, rfl⟩
      · intro resolution returned
        obtain ⟨version, found, own⟩ := decided resolution returned
        exact ⟨version, _, found, own⟩

end Agreement

/-- **The page of a plan tells what the resolver does.** Whatever the plan store answers and
whatever the policy is, the page of a type and a resolution for it agree, as long as no rule keeps
the flow away from a version. -/
theorem planPage_tells {r : Resolver} {flow : Flow} {bucket : Int} {name : String} {book : PlanBook}
    (answered : r.sources.plansFor [] (NameSet.ofList [(TypeKey.ofName name).text]) = .ok book)
    (typed : book.IsTyped) (free : r.sources.ExcludesNothing)
    (puts : r.sources.PutsInto flow bucket) (station : Station) (now : Instant)
    (query : List Char) :
    (name ≠ "" → '/' ∉ name.toList → CatalogRoute.ofPath? (planPath name) = some (.plan name)) ∧
    Tells r flow bucket (.ofName name) book
      (station.answerCatalog r now query (.plan name)).1.1
      (r.resolve (some flow) (.list [.text name]) false none).start.1
      (r.resolve (some flow) (.list [.text name]) false none).start.2.calls := by
  obtain ⟨page, shown, answers⟩ := answers_planPage answered typed
  have course := (Resolver.leads_resolve_one puts free answered typed).start
  have same : (station.answerCatalog r now query (.plan name)).1.1 = page := by
    rw [Station.answerCatalog, Station.lookupPage]
    revert shown
    rcases (planPage r name).start with ⟨answer, journal⟩
    rintro ⟨⟩
    rfl
  refine ⟨ofPath?_planPath, ?_⟩
  rw [same]
  cases answers with
  | missing empty => exact tells_of_missing empty course _
  | refused filled refuses => exact tells_of_refused filled refuses course
  | listed filled walks sound => exact tells_of_listed puts filled walks sound course

/-- Two spellings of one name, of which the first has no plan. -/
def pilotBook : PlanBook where
  entries :=
    [(.text "ML", none),
     (.text " ml", some [⟨.text "2.0", .int 70⟩, ⟨.text "1.0", .int 40⟩])]

/-- Sources that put every flow into bucket 85 and have a version for every label. -/
def pilotSources : Sources where
  imageTypes _ := .ok []
  findVersions _ name label :=
    .ok (some [{ imageType := name, version := label, path := .text "registry/ml" }])
  activeVersions _ _ := .ok none
  latestVersions _ _ := .ok none
  isInvalid _ _ _ := .ok false
  allPlans _ := .ok pilotBook
  plansFor _ _ := .ok pilotBook
  isExcluded _ _ _ _ := (.ok false, [])
  bucketOf _ _ := .ok (.int 85)

theorem typed_pilotBook : pilotBook.IsTyped := by
  simp only [PlanBook.IsTyped, pilotBook, List.forall_mem_cons]
  refine ⟨⟨⟨_, rfl⟩, ?_⟩, ⟨⟨_, rfl⟩, ?_⟩, ?_⟩
  · rintro _ ⟨⟩
  · rintro plan ⟨⟩
    exact Plan.IsSound.isWhole (by decide)
  · rintro _ ⟨⟩

def pilotStation : Station where
  server := { serviceId := .null, startedAt := ⟨0⟩ }
  recorder := {}

theorem planPage_tells_pilot :
    pilotBook.IsTyped ∧ pilotSources.ExcludesNothing ∧
    pilotSources.PutsInto Resolver.nightly 85 ∧
    Tells ⟨pilotSources, .text "preserve"⟩ Resolver.nightly 85 (.ofName "Ml") pilotBook
      (pilotStation.answerCatalog ⟨pilotSources, .text "preserve"⟩ ⟨0⟩ [] (.plan "Ml")).1.1
      (Resolver.resolve ⟨pilotSources, .text "preserve"⟩ (some Resolver.nightly)
        (.list [.text "Ml"]) false none).start.1
      (Resolver.resolve ⟨pilotSources, .text "preserve"⟩ (some Resolver.nightly)
        (.list [.text "Ml"]) false none).start.2.calls ∧
    (pilotStation.answerCatalog ⟨pilotSources, .text "preserve"⟩ ⟨0⟩ []
      (.plan "Ml")).1.1.status = 200 ∧
    .findVersions (.text "ml") (.text "1.0") ∈
      (Resolver.resolve ⟨pilotSources, .text "preserve"⟩ (some Resolver.nightly)
        (.list [.text "Ml"]) false none).start.2.calls := by
  have free : pilotSources.ExcludesNothing := fun _ _ _ _ => rfl
  have puts : pilotSources.PutsInto Resolver.nightly 85 :=
    ⟨fun _ => rfl, by decide, by decide⟩
  refine ⟨typed_pilotBook, free, puts, ?_, by decide +kernel, by decide +kernel⟩
  exact (planPage_tells rfl typed_pilotBook free puts pilotStation ⟨0⟩ []).2

end Monitoring

end Rollout

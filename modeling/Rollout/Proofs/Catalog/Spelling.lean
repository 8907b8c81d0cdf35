import Rollout.Proofs.Catalog.Changes
import Rollout.Proofs.Resolution.RampupTier
import Rollout.Proofs.Resolution.Spelling
import Rollout.Proofs.Session.Recording

/-!
# Spellings of type names in a catalog

Written plainly, a catalog answers every question as before, written plainly
(`plainly_sources`), and a change leads to the catalog to which the plainly written change leads
(`after_plain`). So a type name may be spelled anew at every place where it is used: when types,
versions, plans and rules are entered, when names, exemptions and plans come with a request, when
versions are pinned, and when one version is looked up. What requests come to changes by these
spellings only (`alike_answers`).
-/

namespace Rollout

/-- The rule with the name of its type written plainly. -/
def RampRule.plain (rule : RampRule) : RampRule :=
  { rule with imageType := plainName rule.imageType }

theorem RampRule.appliesTo_plain (rule : RampRule) (key : TypeKey) (label : Datum) :
    rule.plain.appliesTo key label = rule.appliesTo key label := by
  simp only [appliesTo, plain, ofDatum_plainName]

theorem RampRule.excludes_plain (rules : List RampRule) (flowName : Datum) (key : TypeKey)
    (label : Datum) :
    RampRule.excludes (rules.map RampRule.plain) flowName key label =
      RampRule.excludes rules flowName key label := by
  refine Fallible.any_map (fun rule => ?_) rules
  rw [appliesTo_plain]
  rfl

namespace Catalog

/-- The catalog with all names of types written plainly. -/
def plain (c : Catalog) : Catalog where
  types := c.types.mapValues ImageType.plain
  versions := c.versions.mapValues (List.map ImageVersion.plain)
  plans := c.plans
  rules := c.rules.map RampRule.plain

/-! ## Questions -/

theorem versionsOf_plain (c : Catalog) (key : TypeKey) :
    c.plain.versionsOf key = (c.versionsOf key).map ImageVersion.plain := by
  rw [versionsOf, plain, OrderedMap.find?_mapValues, versionsOf]
  cases c.versions.find? key <;> rfl

theorem findVersions_plain (c : Catalog) (key : TypeKey) (label : Datum) :
    c.plain.findVersions key label =
      (c.findVersions key label).map (List.map ImageVersion.plain) := by
  rw [findVersions, versionsOf_plain]
  exact Fallible.filter_map (fun _ => rfl) _

theorem lastVersions_plain (c : Catalog) (names : NameSet) {test : ImageVersion → Bool}
    (same : ∀ v : ImageVersion, test v.plain = test v) :
    c.plain.lastVersions names test = (c.lastVersions names test).map ImageVersion.plain := by
  rw [lastVersions, lastVersions, List.map_filterMap]
  congr 1
  funext name
  have tested : test ∘ ImageVersion.plain = test := funext same
  rw [versionsOf_plain, List.filter_map, List.getLast?_map, tested]

theorem isInvalid_plain (c : Catalog) (key : TypeKey) (label : Datum) :
    c.plain.isInvalid key label = c.isInvalid key label := by
  rw [isInvalid, isInvalid, findVersions_plain]
  cases c.findVersions key label with
  | error fault => rfl
  | ok found =>
    dsimp only [Except.map, bind, Except.bind]
    rw [List.getLast?_map]
    cases found.getLast? <;> rfl

theorem judged_plain (c : Catalog) (flowName : Datum) (key : TypeKey) (label : Datum) :
    (do RampRule.excludes (← c.plain.rulesFor key label) flowName key label) =
      (do RampRule.excludes (← c.rulesFor key label) flowName key label) := by
  have kept : c.plain.rulesFor key label = (c.rulesFor key label).map (List.map RampRule.plain) :=
    Fallible.filter_map (fun rule => rule.appliesTo_plain key label) c.rules
  rw [kept]
  cases c.rulesFor key label with
  | error fault => rfl
  | ok rules => exact RampRule.excludes_plain rules flowName key label

/-- The plainly written catalog answers the same, written plainly. -/
theorem plainly_sources (c : Catalog) (bucketOf : Flow → Except Fault Datum) :
    (c.sources bucketOf).Plainly (c.plain.sources bucketOf) where
  imageTypes _ _ := by
    simp only [sources, plain, OrderedMap.values, OrderedMap.mapValues, List.map_map, Except.map]
    rfl
  findVersions _ _ name name' label same := by
    simp only [sources, same]
    cases TypeKey.ofDatum name with
    | error fault => rfl
    | ok key =>
      change (do return some (← c.plain.findVersions key label)) =
        (do return some (← c.findVersions key label) : Except Fault _).map _
      rw [findVersions_plain]
      cases c.findVersions key label <;> rfl
  activeVersions _ _ names :=
    congrArg (fun versions => Except.ok (some versions))
      (c.lastVersions_plain names fun _ => rfl)
  latestVersions _ _ names :=
    congrArg (fun versions => Except.ok (some versions))
      (c.lastVersions_plain names fun _ => rfl)
  isInvalid _ _ := c.isInvalid_plain
  allPlans _ _ := rfl
  plansFor _ _ _ := rfl
  isExcluded _ _ := c.judged_plain
  bucketOf _ _ _ := rfl

/-! ## Changes -/

/-- The change with the name of its type written plainly. -/
def Change.plain : Change → Change
  | addType name description => addType (normalizeName name) description
  | addVersion imageType version path state releaseTag =>
    addVersion (normalizeName imageType) version path state releaseTag
  | setState imageType version state => setState (normalizeName imageType) version state
  | setPlan imageType entries => setPlan (normalizeName imageType) entries
  | addRule name flowPattern imageType version =>
    addRule name flowPattern (normalizeName imageType) version

theorem ofName_normalizeName (name : String) :
    TypeKey.ofName (normalizeName name) = TypeKey.ofName name :=
  TypeKey.ext (normalizeName_normalizeName name)

theorem addType_plain (c : Catalog) (t : ImageType) :
    c.plain.addType t.plain = (c.addType t).map plain := by
  rw [addType, addType, ImageType.key, ImageType.plain, ofDatum_plainName, ← ImageType.key]
  cases t.key with
  | error fault => rfl
  | ok key =>
    refine congrArg Except.ok ?_
    rw [versionsOf_plain]
    simp only [plain, OrderedMap.mapValues_put]
    rfl

theorem addVersion_plain (c : Catalog) (v : ImageVersion) :
    c.plain.addVersion v.plain = (c.addVersion v).map plain := by
  rw [addVersion, addVersion, ImageVersion.key_plain]
  cases v.key with
  | error fault => rfl
  | ok key =>
    have others : Fallible.filter (fun u => (!·) <$> u.hasLabel v.plain.version)
          (c.plain.versionsOf key) =
        (Fallible.filter (fun u => (!·) <$> u.hasLabel v.version) (c.versionsOf key)).map
          (List.map ImageVersion.plain) := by
      rw [versionsOf_plain]
      exact Fallible.filter_map (fun _ => rfl) _
    change (do
      let others ← Fallible.filter _ (c.plain.versionsOf key)
      return _) = Except.map plain (do
      let others ← Fallible.filter _ (c.versionsOf key)
      return _)
    rw [others]
    cases Fallible.filter (fun u => (!·) <$> u.hasLabel v.version) (c.versionsOf key) with
    | error fault => rfl
    | ok others =>
      refine congrArg Except.ok ?_
      simp only [plain, OrderedMap.mapValues_put, OrderedMap.contains_mapValues, List.map_append]
      split
      · rfl
      · rw [OrderedMap.mapValues_put]
        rfl

theorem changeVersion?_plain (c : Catalog) (key : TypeKey) (label : Datum)
    {change : ImageVersion → Except Fault ImageVersion}
    (same : ∀ v, change v.plain = (change v).map ImageVersion.plain) :
    c.plain.changeVersion? key label change =
      (c.changeVersion? key label change).map
        (Option.map fun changed => (changed.1.plain, changed.2.plain)) := by
  have found : Fallible.changeFirst? (·.hasLabel label) change
        ((c.versionsOf key).map ImageVersion.plain) =
      (Fallible.changeFirst? (·.hasLabel label) change (c.versionsOf key)).map
        (Option.map fun found => (found.1.plain, found.2.map ImageVersion.plain)) :=
    Fallible.changeFirst?_map (fun _ => rfl) same _
  rw [changeVersion?, changeVersion?, versionsOf_plain, found]
  cases Fallible.changeFirst? (·.hasLabel label) change (c.versionsOf key) with
  | error fault => rfl
  | ok found =>
    cases found with
    | none => rfl
    | some changed =>
      refine congrArg (fun catalog => Except.ok (some (changed.1.plain, catalog))) ?_
      simp only [plain, OrderedMap.mapValues_put]

theorem applyTo_addType (c : Catalog) (name : String) (description : Datum) :
    Change.applyTo c (.addType name description) =
      c.addType { name := .text name, description := description } := by
  simp only [Change.applyTo, registerType]
  cases c.addType { name := .text name, description := description } <;> rfl

theorem applyTo_addVersion (c : Catalog) (imageType version : String)
    (path state releaseTag : Datum) :
    Change.applyTo c (.addVersion imageType version path state releaseTag) =
      (State.ofDatum state).bind fun read =>
        c.addVersion (versionOf imageType version path read releaseTag) := by
  simp only [Change.applyTo, registerVersion, TypeKey.ofDatum_text]
  cases State.ofDatum state with
  | error fault => rfl
  | ok read =>
    change (do return (← (do
      return (_, ← c.addVersion (versionOf imageType version path read releaseTag)))).2) =
        c.addVersion (versionOf imageType version path read releaseTag)
    cases c.addVersion (versionOf imageType version path read releaseTag) <;> rfl

/-- The version in the state that is given from outside. -/
def putState (state : Datum) (v : ImageVersion) : Except Fault ImageVersion := do
  return { v with state := ← State.ofDatum state }

theorem applyTo_setState (c : Catalog) (imageType version : String) (state : Datum) :
    Change.applyTo c (.setState imageType version state) =
      (c.changeVersion? (.ofName imageType) (.text version) (putState state)).bind fun found =>
        match found with
        | some changed => .ok changed.2
        | none => .error (.missing (.text s!"{imageType}:{version}")) := by
  change (do return (← (do
      match ← c.changeVersion? (.ofName imageType) (.text version) (putState state) with
      | some changed => return changed
      | none => throw (.missing (.text s!"{imageType}:{version}")))).2 : Except Fault Catalog) = _
  cases c.changeVersion? (.ofName imageType) (.text version) (putState state) with
  | error fault => rfl
  | ok found => cases found <;> rfl

/-- The plainly written change leads from the plainly written catalog to the one to which the change
leads, or both are refused. -/
theorem applied_plain (c : Catalog) (change : Change) :
    (change.plain.applyTo c.plain).toOption = (change.applyTo c).toOption.map plain := by
  have mapped : ∀ {result result' : Except Fault Catalog}, result' = result.map plain →
      result'.toOption = result.toOption.map plain := by
    rintro result _ rfl
    cases result <;> rfl
  cases change with
  | addType name description =>
    refine mapped ?_
    rw [Change.plain, applyTo_addType, applyTo_addType, ← addType_plain]
    rfl
  | addVersion imageType version path state releaseTag =>
    refine mapped ?_
    rw [Change.plain, applyTo_addVersion, applyTo_addVersion]
    cases State.ofDatum state with
    | error fault => rfl
    | ok read =>
      have spelled : versionOf (normalizeName imageType) version path read releaseTag =
          (versionOf imageType version path read releaseTag).plain := by
        rw [versionOf, ofName_normalizeName]
        rfl
      change c.plain.addVersion _ = (c.addVersion _).map plain
      rw [spelled, addVersion_plain]
  | setState imageType version state =>
    have changes : ∀ v : ImageVersion,
        putState state v.plain = (putState state v).map ImageVersion.plain := by
      intro v
      rw [putState, putState]
      cases State.ofDatum state <;> rfl
    -- a version that is missing is reported under the name as it was spelled
    rw [Change.plain, applyTo_setState, applyTo_setState, ofName_normalizeName,
      c.changeVersion?_plain _ _ changes]
    cases c.changeVersion? (.ofName imageType) (.text version) (putState state) with
    | error fault => rfl
    | ok answer => cases answer <;> rfl
  | setPlan imageType entries =>
    refine mapped ?_
    simp only [Change.plain, Change.applyTo, changePlan, TypeKey.ofDatum_text, ofName_normalizeName]
    change (do
      let plan ← (do let items ← (entryData entries).items; items.mapM readEntry)
      return c.plain.putPlan _ plan : Except Fault Catalog) = Except.map plain (do
      let plan ← (do let items ← (entryData entries).items; items.mapM readEntry)
      return c.putPlan _ plan : Except Fault Catalog)
    cases (do let items ← (entryData entries).items; items.mapM readEntry) <;> rfl
  | addRule name flowPattern imageType version =>
    refine mapped (congrArg Except.ok ?_)
    simp only [plain, addRule, List.map_append]
    rfl

theorem after_plain (c : Catalog) (change : Change) :
    (c.after change).plain = c.plain.after change.plain := by
  have applied := c.applied_plain change
  rw [after, after]
  revert applied
  cases change.applyTo c with
  | ok changed =>
    cases change.plain.applyTo c.plain with
    | ok spelled =>
      intro applied
      exact (Option.some.inj applied).symm
    | error fault =>
      intro applied
      cases applied
  | error fault =>
    cases change.plain.applyTo c.plain with
    | ok spelled =>
      intro applied
      cases applied
    | error fault' => exact fun _ => rfl

/-! ## Other spellings -/

/-- Two changes that differ at most in how the name of the type is spelled. -/
inductive Change.Respelled : Change → Change → Prop where
  | addType {name name' : String} (named : normalizeName name = normalizeName name')
      (description : Datum) : Respelled (.addType name description) (.addType name' description)
  | addVersion {imageType imageType' : String}
      (named : normalizeName imageType = normalizeName imageType') (version : String)
      (path state releaseTag : Datum) :
      Respelled (.addVersion imageType version path state releaseTag)
        (.addVersion imageType' version path state releaseTag)
  | setState {imageType imageType' : String}
      (named : normalizeName imageType = normalizeName imageType') (version : String)
      (state : Datum) : Respelled (.setState imageType version state)
        (.setState imageType' version state)
  | setPlan {imageType imageType' : String}
      (named : normalizeName imageType = normalizeName imageType')
      (entries : List (String × Datum)) :
      Respelled (.setPlan imageType entries) (.setPlan imageType' entries)
  | addRule (name : Datum) (flowPattern : String) {imageType imageType' : String}
      (named : normalizeName imageType = normalizeName imageType') (version : String) :
      Respelled (.addRule name flowPattern imageType version)
        (.addRule name flowPattern imageType' version)

theorem Change.Respelled.plain_eq {change change' : Change} (same : change.Respelled change') :
    change.plain = change'.plain := by
  cases same with
  | addType named => rw [Change.plain, Change.plain, named]
  | addVersion named => rw [Change.plain, Change.plain, named]
  | setState named => rw [Change.plain, Change.plain, named]
  | setPlan named => rw [Change.plain, Change.plain, named]
  | addRule _ _ named => rw [Change.plain, Change.plain, named]

end Catalog

/-- Two lists of names that name the same types, in any spelling and order and with any repeats. -/
inductive SameNames : Datum → Datum → Prop where
  | refl (names : Datum) : SameNames names names
  | texts {names names' : List String}
      (same : ∀ key, key ∈ names.map normalizeName ↔ key ∈ names'.map normalizeName) :
      SameNames (.list (names.map .text)) (.list (names'.map .text))

theorem SameNames.ofDatum_eq {names names' : Datum} (same : SameNames names names') :
    NameSet.ofDatum names' = NameSet.ofDatum names := by
  cases same with
  | refl => rfl
  | @texts texts texts' same =>
    have keys : NameSet.normalized texts' = NameSet.normalized texts :=
      NameSet.ext fun key => by
        rw [NameSet.normalized, NameSet.normalized, NameSet.mem_ofList, NameSet.mem_ofList, same]
    change NameSet.ofData (texts'.map .text) = NameSet.ofData (texts.map .text)
    rw [NameSet.ofData_texts, NameSet.ofData_texts, keys]

/-- Entries under type names, with these written plainly. -/
def plainEntries {α : Type} (entries : List (Datum × α)) : List (Datum × α) :=
  entries.map fun entry => (plainName entry.1, entry.2)

/-- Pins are told apart by the keys of their names. -/
theorem foldlM_indexPin_plain (pins : List (Datum × VersionInfo))
    (index : OrderedMap TypeKey VersionInfo) :
    (plainEntries pins).foldlM Resolver.indexPin index = pins.foldlM Resolver.indexPin index := by
  rw [plainEntries, List.foldlM_map]
  congr 1
  funext index pin
  simp only [Resolver.indexPin, ofDatum_plainName]

/-- Plans are indexed by the keys of their names; only the notices show the names. -/
theorem indexEntries_plain (wanted : NameSet) (entries : List (Datum × Option Plan))
    {index index' : OrderedMap TypeKey Plan × List Notice} (same : index'.1 = index.1) :
    (PlanBook.indexEntries wanted index' (plainEntries entries)).1 =
      (PlanBook.indexEntries wanted index entries).1 := by
  induction entries generalizing index index' with
  | nil => exact congrArg Except.ok same
  | cons entry rest ih =>
    obtain ⟨name, plan⟩ := entry
    rw [plainEntries, List.map_cons, PlanBook.indexEntries, PlanBook.indexEntries,
      ofDatum_plainName]
    cases TypeKey.ofDatum name with
    | error fault => rfl
    | ok key =>
      refine ih ?_
      rw [PlanBook.indexEntry, PlanBook.indexEntry, same]
      split
      · exact same
      · split
        · split
          · exact same
          · rfl
        · rfl

theorem indexed_of_plainEntries {book book' : PlanBook}
    (same : plainEntries book.entries = plainEntries book'.entries) (wanted : NameSet) :
    (book'.indexed wanted).1 = (book.indexed wanted).1 := by
  rw [PlanBook.indexed, PlanBook.indexed,
    ← indexEntries_plain wanted book'.entries rfl, ← indexEntries_plain wanted book.entries rfl,
    same]

/-- Two requests that differ at most in how the names of types are spelled, and in the order and the
repeats of requested names. -/
inductive Request.Respelled : Request → Request → Prop where
  | execution (flow : Option Flow) : Respelled (.execution flow) (.execution flow)
  | metadata : Respelled .metadata .metadata
  | subset (flow : Option Flow) {names names' exempt exempt' : Datum}
      (named : SameNames names names') (spared : SameNames exempt exempt') :
      Respelled (.subset flow names exempt) (.subset flow names' exempt')
  | reconcile (flow : Option Flow) {pins pins' : OrderedMap Datum VersionInfo}
      (pinned : plainEntries pins.entries = plainEntries pins'.entries) :
      Respelled (.reconcile flow pins) (.reconcile flow pins')
  | resolve (flow : Option Flow) {names names' : Datum} (named : SameNames names names')
      (includeNonActive : Bool) : Respelled (.resolve flow names includeNonActive none)
        (.resolve flow names' includeNonActive none)
  | resolveWith (flow : Option Flow) {names names' : Datum} (named : SameNames names names')
      (includeNonActive : Bool) {book book' : PlanBook}
      (planned : plainEntries book.entries = plainEntries book'.entries) :
      Respelled (.resolve flow names includeNonActive (some book))
        (.resolve flow names' includeNonActive (some book'))
  | exact {name name' : Datum} (named : plainName name = plainName name') (label allowed : Datum) :
      Respelled (.exact name label allowed) (.exact name' label allowed)

theorem Request.Respelled.refl (request : Request) : request.Respelled request := by
  cases request with
  | execution flow => exact .execution flow
  | metadata => exact .metadata
  | subset flow names exempt => exact .subset flow (.refl names) (.refl exempt)
  | reconcile flow pins => exact .reconcile flow rfl
  | resolve flow names includeNonActive plans =>
    cases plans with
    | none => exact .resolve flow (.refl names) includeNonActive
    | some book => exact .resolveWith flow (.refl names) includeNonActive rfl
  | exact name label allowed => exact .exact rfl label allowed

/-- The reply with its versions written plainly. -/
def Reply.plain : Reply → Reply
  | .versions infos => .versions infos
  | .decisions made => .decisions (made.map fun decision => (decision.1, decision.2.plain))
  | .resolution reached => .resolution reached.plain
  | .version info => .version info

/-- Over sources that answer the same plainly, a request in another spelling comes to the same. -/
theorem Request.Respelled.mirrors {request request' : Request} (same : request.Respelled request')
    {r : Resolver} {s : Sources} (plainly : r.sources.Plainly s) :
    Lookup.Mirrors Reply.plain (request.lookup r) (request'.lookup (r.withSources s)) := by
  cases same with
  | execution flow =>
    exact (Resolver.plain_execution plainly flow).bind fun _ => Lookup.mirrors_pure rfl
  | metadata => exact (Resolver.plain_metadata plainly).bind fun _ => Lookup.mirrors_pure rfl
  | subset flow named spared =>
    exact (Resolver.plain_subset plainly flow named.ofDatum_eq spared.ofDatum_eq).bind
      fun _ => Lookup.mirrors_pure rfl
  | @reconcile flow pins pins' pinned =>
    have indexed : Resolver.pinsByKey pins' = Resolver.pinsByKey pins := by
      rw [Resolver.pinsByKey, Resolver.pinsByKey, ← foldlM_indexPin_plain pins'.entries, ← pinned,
        foldlM_indexPin_plain]
    rw [Request.lookup, Request.lookup, indexed]
    exact (Lookup.quiet_give _).mirrors.bind fun _ =>
      (Resolver.plain_reconcile plainly flow _).bind fun _ => Lookup.mirrors_pure rfl
  | resolve flow named includeNonActive =>
    exact (Resolver.plain_resolve plainly flow named.ofDatum_eq includeNonActive .none).bind
      fun _ => Lookup.mirrors_pure rfl
  | resolveWith flow named includeNonActive planned =>
    exact (Resolver.plain_resolve plainly flow named.ofDatum_eq includeNonActive
      (.some (indexed_of_plainEntries planned))).bind fun _ => Lookup.mirrors_pure rfl
  | @exact name name' named label allowed =>
    have keyed : TypeKey.ofDatum name' = TypeKey.ofDatum name := by
      rw [← ofDatum_plainName, ← named, ofDatum_plainName]
    exact (Resolver.plain_exact plainly keyed label allowed).bind fun _ => Lookup.mirrors_pure rfl

/-! ## Sessions -/

/-- A step of a session over a catalog. -/
inductive Act where
  | change (change : Catalog.Change)
  | request (request : Request)

/-- Two steps that differ at most in spellings of type names. -/
inductive Act.Respelled : Act → Act → Prop where
  | change {change change' : Catalog.Change} (same : change.Respelled change') :
      Respelled (.change change) (.change change')
  | request {request request' : Request} (same : request.Respelled request') :
      Respelled (.request request) (.request request')

/-- Two sequences of steps that differ at most in spellings of type names. -/
inductive Respelled : List Act → List Act → Prop where
  | nil : Respelled [] []
  | cons {act act' : Act} {rest rest' : List Act} (first : act.Respelled act')
      (later : Respelled rest rest') : Respelled (act :: rest) (act' :: rest')

/-- The answers to the requests among the steps. A change that is refused leaves the catalog as it
was. -/
def answers (bucketOf : Flow → Except Fault Datum) (planOrder : Datum) (c : Catalog) :
    List Act → List (Except Fault Reply)
  | [] => []
  | .change change :: rest => answers bucketOf planOrder (c.after change) rest
  | .request request :: rest =>
    (request.report (c.resolver bucketOf planOrder)).answer :: answers bucketOf planOrder c rest

/-- Both answers are replies, the same when written plainly, or both are faults and alike. -/
inductive AnswersAlike : Except Fault Reply → Except Fault Reply → Prop where
  | ok {reply reply' : Reply} (same : reply.plain = reply'.plain) :
      AnswersAlike (.ok reply) (.ok reply')
  | error {fault fault' : Fault} (alike : fault.Alike fault') :
      AnswersAlike (.error fault) (.error fault')

/-- The answers are alike, one by one. -/
inductive AllAlike : List (Except Fault Reply) → List (Except Fault Reply) → Prop where
  | nil : AllAlike [] []
  | cons {answer answer' : Except Fault Reply} {rest rest' : List (Except Fault Reply)}
      (first : AnswersAlike answer answer') (later : AllAlike rest rest') :
      AllAlike (answer :: rest) (answer' :: rest')

/-- What is written plainly in the same way is alike. -/
theorem answersAlike_of_renders {answer answer' plain : Except Fault Reply}
    (left : Renders Reply.plain answer plain) (right : Renders Reply.plain answer' plain) :
    AnswersAlike answer answer' := by
  cases left with
  | ok reply =>
    generalize written : reply.plain = spelled at right
    cases right with
    | ok reply' => exact .ok written
  | error alike =>
    cases right with
    | error alike' => exact .error (alike.trans alike'.symm)

variable (bucketOf : Flow → Except Fault Datum) (planOrder : Datum)

theorem alike_report {c c' : Catalog} (same : c.plain = c'.plain) {request request' : Request}
    (respelled : request.Respelled request') :
    AnswersAlike (request.report (c.resolver bucketOf planOrder)).answer
      (request'.report (c'.resolver bucketOf planOrder)).answer := by
  have left := respelled.mirrors (r := c.resolver bucketOf planOrder) (c.plainly_sources bucketOf)
    {} {}
  have right := (Request.Respelled.refl request').mirrors (r := c'.resolver bucketOf planOrder)
    (c'.plainly_sources bucketOf) {} {}
  rw [← same] at right
  exact answersAlike_of_renders left right

/-- Catalogs that are the same when written plainly stay so, and requests to them are answered
alike. -/
theorem Respelled.alike {acts acts' : List Act} (respelled : Respelled acts acts') :
    ∀ {c c' : Catalog}, c.plain = c'.plain →
      AllAlike (answers bucketOf planOrder c acts) (answers bucketOf planOrder c' acts') := by
  induction respelled with
  | nil => exact fun _ => .nil
  | cons first _ ih =>
    intro c c' same
    cases first with
    | @change change change' respelled =>
      refine ih ?_
      rw [Catalog.after_plain, Catalog.after_plain, same, respelled.plain_eq]
    | request respelled => exact .cons (alike_report bucketOf planOrder same respelled) (ih same)

/-- **Type names matter up to their keys.** Of two sessions that differ only in how the names of
types are spelled, and in the order and the repeats of requested names, the answers are alike: the
same keys with the same versions, selections and plans and the same names unresolved, or faults of
one kind that leave the same types unresolved. -/
theorem alike_answers {acts acts' : List Act} (respelled : Respelled acts acts') :
    AllAlike (answers bucketOf planOrder .empty acts) (answers bucketOf planOrder .empty acts') :=
  respelled.alike bucketOf planOrder rfl

/-- A session in which a rule keeps a flow away from the version of a plan, with one spelling. -/
def evenActs : List Act :=
  [.change (.addVersion "etl" "1.0" .null (.text "ACTIVE") .null),
   .change (.addVersion "etl" "2.0" .null (.text "NEW") .null),
   .change (.setPlan "etl" [("2.0", .int 100)]),
   .change (.addRule (.text "hold") "night*" "etl" "2.0"),
   .request (.subset (some { name := .text "nightly" }) (.list (["etl"].map .text)) (.list [])),
   .request (.reconcile none ⟨[(.text "etl", ⟨.text "0.9", .null, .active⟩)], by simp⟩),
   .request (.exact (.text "etl") (.text "3.0") .null)]

/-- The session with other spellings. -/
def unevenActs : List Act :=
  [.change (.addVersion " ETL" "1.0" .null (.text "ACTIVE") .null),
   .change (.addVersion "Etl" "2.0" .null (.text "NEW") .null),
   .change (.setPlan "ETL " [("2.0", .int 100)]),
   .change (.addRule (.text "hold") "night*" "eTL" "2.0"),
   .request (.subset (some { name := .text "nightly" }) (.list (["ETL", "etl "].map .text))
     (.list [])),
   .request (.reconcile none ⟨[(.text "ETl", ⟨.text "0.9", .null, .active⟩)], by simp⟩),
   .request (.exact (.text "\tetL") (.text "3.0") .null)]

theorem alike_answers_uneven :
    Respelled evenActs unevenActs ∧
    AllAlike (answers (fun _ => .ok (.int 7)) .null .empty evenActs)
      (answers (fun _ => .ok (.int 7)) .null .empty unevenActs) ∧
    (answers (fun _ => .ok (.int 7)) .null .empty unevenActs).map (·.toOption.isSome) =
      [true, true, false] := by
  have named : ∀ key,
      key ∈ ["etl"].map normalizeName ↔ key ∈ ["ETL", "etl "].map normalizeName := by
    have spelled : ["ETL", "etl "].map normalizeName = ["etl", "etl"] := by decide +kernel
    have plain : ["etl"].map normalizeName = ["etl"] := by decide +kernel
    intro key
    rw [spelled, plain]
    simp
  have respelled : Respelled evenActs unevenActs :=
    .cons (.change (.addVersion (by decide +kernel) _ _ _ _)) <|
    .cons (.change (.addVersion (by decide +kernel) _ _ _ _)) <|
    .cons (.change (.setPlan (by decide +kernel) _)) <|
    .cons (.change (.addRule _ _ (by decide +kernel) _)) <|
    .cons (.request (.subset _ (.texts named) (.refl _))) <|
    .cons (.request (.reconcile _ (by decide +kernel))) <|
    .cons (.request (.exact (by decide +kernel) _ _)) .nil
  exact ⟨respelled, alike_answers _ _ respelled, by decide +kernel⟩

end Rollout

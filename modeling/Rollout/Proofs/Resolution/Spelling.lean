import Rollout.Proofs.Lookup.Mirrors
import Rollout.Proofs.OrderedMap
import Rollout.Proofs.Resolution.Deciding
import Rollout.Proofs.Resolution.Questions

/-!
# Spellings of type names

Types, versions and rules carry the name of their image type as it was given. Written **plainly**
they carry the name as its key spells it. A resolver reads such a name for its key only, so over
sources that answer the same things plainly (`Sources.Plainly`) it comes to the same results,
written plainly, and to the same faults (`plain_resolveWanted`).
-/

namespace Rollout

/-- The name as its key spells it. -/
def plainName : Datum → Datum
  | .text name => .text (normalizeName name)
  | value => value

@[simp] theorem ofDatum_plainName (name : Datum) :
    TypeKey.ofDatum (plainName name) = TypeKey.ofDatum name := by
  cases name with
  | text name =>
    exact congrArg Except.ok (TypeKey.ext (normalizeName_normalizeName name))
  | _ => rfl

/-- The image type with its name written plainly. -/
def ImageType.plain (t : ImageType) : ImageType :=
  { t with name := plainName t.name }

/-- The version with the name of its type written plainly. -/
def ImageVersion.plain (v : ImageVersion) : ImageVersion :=
  { v with imageType := plainName v.imageType }

@[simp] theorem ImageVersion.key_plain (v : ImageVersion) : v.plain.key = v.key :=
  ofDatum_plainName v.imageType

theorem ImageVersion.isNamed_plain (v : ImageVersion) {name name' : Datum}
    (same : TypeKey.ofDatum name' = TypeKey.ofDatum name) (label : Datum) :
    v.plain.isNamed name' label = v.isNamed name label := by
  simp only [isNamed, key_plain, same]
  rfl

/-- The decision with its version written plainly. -/
def Decision.plain (decision : Decision) : Decision :=
  { decision with version := decision.version.map ImageVersion.plain }

/-- The resolution with its decisions written plainly. -/
def Resolution.plain (r : Resolution) : Resolution :=
  { r with decisions := r.decisions.mapValues Decision.plain }

namespace Resolution

theorem plain_decide (r : Resolution) (key : TypeKey) (decision : Decision) :
    (r.decide key decision).plain = r.plain.decide key decision.plain := by
  simp only [decide, tryDecide, plain, OrderedMap.contains_mapValues]
  split <;> simp only [OrderedMap.mapValues_put]

theorem plain_decideAll (r : Resolution) (decisions : List (TypeKey × Decision)) :
    (r.decideAll decisions).plain =
      r.plain.decideAll (decisions.map fun decision => (decision.1, decision.2.plain)) := by
  induction decisions generalizing r with
  | nil => rfl
  | cons first rest ih =>
    rw [decideAll, List.map_cons, decideAll, List.foldl_cons, List.foldl_cons, ← plain_decide]
    exact ih _

theorem versionInfos_plain (r : Resolution) : r.plain.versionInfos = r.versionInfos := by
  rw [versionInfos, versionInfos, sortedDecisions, sortedDecisions, plain,
    OrderedMap.sortedBy_mapValues, List.filterMap_map]
  congr 1
  funext entry
  obtain ⟨key, version, selection, plan⟩ := entry
  cases version <;> rfl

end Resolution

/-- The second sources answer what the first ones answer, written plainly, whatever was asked
before. -/
structure Sources.Plainly (s plain : Sources) : Prop where
  imageTypes : ∀ calls calls',
    plain.imageTypes calls' = (s.imageTypes calls).map (List.map ImageType.plain)
  findVersions : ∀ calls calls' name name' label, TypeKey.ofDatum name' = TypeKey.ofDatum name →
    plain.findVersions calls' name' label =
      (s.findVersions calls name label).map (Option.map (List.map ImageVersion.plain))
  activeVersions : ∀ calls calls' names, plain.activeVersions calls' names =
    (s.activeVersions calls names).map (Option.map (List.map ImageVersion.plain))
  latestVersions : ∀ calls calls' names, plain.latestVersions calls' names =
    (s.latestVersions calls names).map (Option.map (List.map ImageVersion.plain))
  isInvalid : ∀ calls calls' key label,
    plain.isInvalid calls' key label = s.isInvalid calls key label
  allPlans : ∀ calls calls', plain.allPlans calls' = s.allPlans calls
  plansFor : ∀ calls calls' names, plain.plansFor calls' names = s.plansFor calls names
  isExcluded : ∀ calls calls' flowName key label,
    (plain.isExcluded calls' flowName key label).1 = (s.isExcluded calls flowName key label).1
  bucketOf : ∀ calls calls' flow, plain.bucketOf calls' flow = s.bucketOf calls flow

namespace Resolver

open Lookup

/-- The outcome with its version written plainly. -/
def RampupOutcome.plain : RampupOutcome → RampupOutcome
  | .chosen version plan => .chosen version.plain plan
  | outcome => outcome

/-! ## Pure steps -/

/-- Written plainly, a version is taken into the index just as before. -/
theorem indexVersion_plain (wanted : NameSet) (index : OrderedMap TypeKey ImageVersion)
    (version : ImageVersion) :
    indexVersion wanted (index.mapValues ImageVersion.plain) version.plain =
      (indexVersion wanted index version).map (·.mapValues ImageVersion.plain) := by
  rw [indexVersion, indexVersion, ImageVersion.key_plain]
  cases version.key with
  | error fault => rfl
  | ok key =>
    have placed : ∀ b : Bool,
        (if (b && !(index.mapValues ImageVersion.plain).contains key) = true then
          (index.mapValues ImageVersion.plain).put key version.plain
        else index.mapValues ImageVersion.plain) =
        (if (b && !index.contains key) = true then index.put key version
        else index).mapValues ImageVersion.plain := by
      intro b
      rw [OrderedMap.contains_mapValues, ← OrderedMap.mapValues_put]
      split <;> rfl
    exact congrArg Except.ok (placed _)

theorem firstByKey_plain (versions : List ImageVersion) (wanted : NameSet) :
    firstByKey (versions.map ImageVersion.plain) wanted =
      (firstByKey versions wanted).map (·.mapValues ImageVersion.plain) := by
  have onward : ∀ index : OrderedMap TypeKey ImageVersion,
      (versions.map ImageVersion.plain).foldlM (indexVersion wanted)
          (index.mapValues ImageVersion.plain) =
        (versions.foldlM (indexVersion wanted) index).map (·.mapValues ImageVersion.plain) := by
    induction versions with
    | nil => exact fun _ => rfl
    | cons version rest ih =>
      intro index
      rw [List.map_cons, List.foldlM_cons, List.foldlM_cons, indexVersion_plain]
      cases indexVersion wanted index version with
      | error fault => rfl
      | ok next => exact ih next
  exact onward OrderedMap.empty

theorem firstDecisions_plain (selection : Selection) (first : OrderedMap TypeKey ImageVersion) :
    firstDecisions selection (first.mapValues ImageVersion.plain) =
      (firstDecisions selection first).map fun decision => (decision.1, decision.2.plain) := by
  simp only [firstDecisions, OrderedMap.mapValues, List.map_map]
  rfl

theorem takeFirst_plain (selection : Selection) (resolution : Resolution)
    (versions : Option (List ImageVersion)) :
    takeFirst selection resolution.plain (versions.map (List.map ImageVersion.plain)) =
      (takeFirst selection resolution versions).map Resolution.plain := by
  have given : (versions.map (List.map ImageVersion.plain)).getD [] =
      (versions.getD []).map ImageVersion.plain := by
    cases versions <;> rfl
  rw [takeFirst_eq, takeFirst_eq, given, firstByKey_plain]
  change (Except.map _ (firstByKey _ resolution.unresolved)).map _ = _
  cases firstByKey (versions.getD []) resolution.unresolved with
  | error fault => rfl
  | ok first =>
    refine congrArg Except.ok ?_
    rw [Resolution.plain_decideAll, ← firstDecisions_plain]

theorem takeChosen_plain (resolution : Resolution) (outcomes : List (TypeKey × RampupOutcome)) :
    takeChosen resolution.plain (outcomes.map fun outcome => (outcome.1, outcome.2.plain)) =
      (takeChosen resolution outcomes).plain := by
  induction outcomes generalizing resolution with
  | nil => rfl
  | cons first rest ih =>
    obtain ⟨key, outcome⟩ := first
    cases outcome with
    | chosen version plan =>
      have next := ih (resolution.decide key
        { version := some version, selection := .rampup, plan := plan })
      rw [Resolution.plain_decide] at next
      exact next
    | _ => exact ih resolution

theorem excludedTypes_plain (outcomes : List (TypeKey × RampupOutcome)) :
    excludedTypes (outcomes.map fun outcome => (outcome.1, outcome.2.plain)) =
      excludedTypes outcomes := by
  rw [excludedTypes, excludedTypes, List.filterMap_map]
  congr 1
  funext outcome
  obtain ⟨key, outcome⟩ := outcome
  cases outcome <;> rfl

/-! ## Looking up -/

/-- The resolver over other sources. -/
def withSources (r : Resolver) (s : Sources) : Resolver :=
  { r with sources := s }

variable {r : Resolver} {s : Sources} {tolerant : Bool}

theorem mirrors_fetch {α β : Type} {f : α → β} {lookup : Lookup α} {lookup' : Lookup β}
    (mirrors : Mirrors f lookup lookup') (what : String) (default : α) :
    Mirrors f (fetch tolerant what default lookup) (fetch tolerant what (f default) lookup') := by
  cases tolerant with
  | true => exact mirrors.orElse fun _ _ => mirrors_caught _ _
  | false => exact mirrors

theorem plain_fetchActive (plainly : r.sources.Plainly s) (names : NameSet) :
    Mirrors (Option.map (List.map ImageVersion.plain)) (r.fetchActive tolerant names)
      ((r.withSources s).fetchActive tolerant names) :=
  mirrors_fetch (mirrors_ask _ _ fun calls calls' => plainly.activeVersions calls calls' names) _
    none

/-- The first candidate with a name and a label, written plainly. -/
theorem candidate_plain (found : Option (List ImageVersion)) {name name' : Datum}
    (same : TypeKey.ofDatum name' = TypeKey.ofDatum name) (label : Datum) :
    Fallible.find? (·.isNamed name' label) ((found.map (List.map ImageVersion.plain)).getD []) =
      (Fallible.find? (·.isNamed name label) (found.getD [])).map
        (Option.map ImageVersion.plain) := by
  have given : (found.map (List.map ImageVersion.plain)).getD [] =
      (found.getD []).map ImageVersion.plain := by
    cases found <;> rfl
  rw [given]
  exact Fallible.find?_map (fun version => version.isNamed_plain same label) _

theorem plain_exactVersion (plainly : r.sources.Plainly s) {name name' : Datum}
    (same : TypeKey.ofDatum name' = TypeKey.ofDatum name) (label : Datum) :
    Mirrors ImageVersion.plain (r.exactVersion name label)
      ((r.withSources s).exactVersion name' label) := by
  refine (mirrors_ask _ _ fun calls calls' =>
    plainly.findVersions calls calls' name name' label same).bind fun found => ?_
  refine (mirrors_give (candidate_plain found same label)).bind fun candidate => ?_
  cases candidate with
  | none => exact mirrors_throw _ ⟨rfl, rfl⟩
  | some version => exact mirrors_pure rfl

/-! ## The rampup tier -/

theorem plain_bucketOf (plainly : r.sources.Plainly s) (flow : Flow) :
    Mirrors id (r.bucketOf flow) ((r.withSources s).bucketOf flow) := by
  refine (mirrors_same _ _ fun calls calls' => plainly.bucketOf calls calls' flow).bind
    fun answer => IsQuiet.mirrors ?_
  split
  · split
    · exact quiet_pure _
    · exact quiet_throw _
  · exact quiet_throw _

theorem plain_place (plainly : r.sources.Plainly s) (flow : Option Flow) :
    Mirrors id (r.place flow) ((r.withSources s).place flow) := by
  cases flow with
  | none => exact mirrors_pure rfl
  | some flow => exact (plain_bucketOf plainly flow).bind fun _ => mirrors_pure rfl

theorem mirrors_walkOrder (key : TypeKey) (stored : Plan) :
    Mirrors id (r.walkOrder tolerant key stored)
      ((r.withSources s).walkOrder tolerant key stored) :=
  (r.silent_walkOrder tolerant key stored).quiet.mirrors

theorem plain_chooseEntry (plainly : r.sources.Plainly s) (key : TypeKey) (entry : PlanEntry)
    (plan : Plan) : Mirrors RampupOutcome.plain (r.chooseEntry tolerant key entry plan)
      ((r.withSources s).chooseEntry tolerant key entry plan) := by
  have looked : Mirrors RampupOutcome.plain
      (do return .chosen (← r.exactVersion (.text key.text) entry.version) plan)
      (do return .chosen (← (r.withSources s).exactVersion (.text key.text) entry.version) plan) :=
    (plain_exactVersion plainly rfl _).bind fun version => mirrors_pure rfl
  cases tolerant with
  | true => exact looked.orElse fun _ _ => mirrors_caught _ _
  | false => exact looked

theorem plain_rampupType (plainly : r.sources.Plainly s) (placed : Option (Flow × Int))
    (key : TypeKey) (stored : Plan) :
    Mirrors RampupOutcome.plain (r.rampupType tolerant placed key stored)
      ((r.withSources s).rampupType tolerant placed key stored) := by
  refine (mirrors_walkOrder key stored).bind fun walked => ?_
  dsimp only [id]
  split
  · exact plain_chooseEntry plainly _ _ _
  · refine (quiet_give _).mirrors.bind fun owner => ?_
    cases owner with
    | none => exact mirrors_pure rfl
    | some entry =>
      refine (mirrors_sameThrough _ _ fun calls calls' =>
        plainly.isExcluded calls calls' _ _ _).bind fun barred => ?_
      cases barred with
      | true => exact mirrors_pure rfl
      | false => exact plain_chooseEntry plainly _ _ _
  · exact mirrors_pure rfl

theorem plain_rampupTypes (plainly : r.sources.Plainly s) (placed : Option (Flow × Int))
    (plans : List (TypeKey × Plan)) :
    Mirrors (List.map fun outcome => (outcome.1, outcome.2.plain))
      (r.rampupTypes tolerant placed plans)
      ((r.withSources s).rampupTypes tolerant placed plans) := by
  induction plans with
  | nil => exact mirrors_pure rfl
  | cons plan rest ih =>
    exact (plain_rampupType plainly placed _ _).bind fun outcome =>
      ih.bind fun outcomes => mirrors_pure rfl

theorem plain_replaceExcluded (active : OrderedMap TypeKey ImageVersion) (resolution : Resolution)
    (excluded : List (TypeKey × PlanEntry × Plan)) :
    Mirrors Resolution.plain (replaceExcluded tolerant active resolution excluded)
      (replaceExcluded tolerant (active.mapValues ImageVersion.plain) resolution.plain
        excluded) := by
  induction excluded generalizing resolution with
  | nil => exact mirrors_pure rfl
  | cons first rest ih =>
    obtain ⟨key, entry, plan⟩ := first
    rw [replaceExcluded, replaceExcluded, OrderedMap.find?_mapValues]
    cases active.find? key with
    | some version =>
      have next := ih (resolution.decide key
        { version := some version, selection := .active, plan := plan })
      rw [Resolution.plain_decide] at next
      exact next
    | none =>
      cases tolerant with
      | true => exact (quiet_warn _).mirrors.bind fun _ => ih resolution
      | false => exact mirrors_throw _ (.refl _)

theorem plain_ruleFallback (plainly : r.sources.Plainly s) (resolution : Resolution)
    (excluded : List (TypeKey × PlanEntry × Plan)) :
    Mirrors Resolution.plain (r.ruleFallback tolerant resolution excluded)
      ((r.withSources s).ruleFallback tolerant resolution.plain excluded) := by
  rw [ruleFallback, ruleFallback]
  split
  · exact mirrors_pure rfl
  · refine (plain_fetchActive plainly _).bind fun versions => ?_
    have given : (versions.map (List.map ImageVersion.plain)).getD [] =
        (versions.getD []).map ImageVersion.plain := by
      cases versions <;> rfl
    rw [given]
    exact (mirrors_give (firstByKey_plain _ _)).bind fun active =>
      plain_replaceExcluded active resolution excluded

theorem plain_rampupTier (plainly : r.sources.Plainly s) (flow : Option Flow)
    (plans : OrderedMap TypeKey Plan) (resolution : Resolution) :
    Mirrors Resolution.plain (r.rampupTier tolerant flow plans resolution)
      ((r.withSources s).rampupTier tolerant flow plans resolution.plain) := by
  rw [rampupTier, rampupTier]
  split
  · exact mirrors_pure rfl
  · refine (plain_place plainly flow).bind fun placed =>
      (plain_rampupTypes plainly placed _).bind fun outcomes => ?_
    dsimp only [id]
    have placing : ∀ bucket, { resolution.plain with bucket := bucket } =
        Resolution.plain { resolution with bucket := bucket } := fun _ => rfl
    rw [excludedTypes_plain, placing, takeChosen_plain]
    exact plain_ruleFallback plainly _ _

/-! ## All tiers -/

theorem plain_activeTier (plainly : r.sources.Plainly s) (resolution : Resolution) :
    Mirrors Resolution.plain (r.activeTier tolerant resolution)
      ((r.withSources s).activeTier tolerant resolution.plain) := by
  rw [activeTier, activeTier]
  change Mirrors _ _ (if resolution.unresolved.isEmpty = true then _ else _)
  split
  · exact mirrors_pure rfl
  · exact (plain_fetchActive plainly _).bind fun versions =>
      mirrors_give (takeFirst_plain .active resolution versions)

theorem plain_nonActiveTier (plainly : r.sources.Plainly s) (resolution : Resolution) :
    Mirrors Resolution.plain (r.nonActiveTier resolution)
      ((r.withSources s).nonActiveTier resolution.plain) := by
  rw [nonActiveTier, nonActiveTier]
  change Mirrors _ _ (if resolution.unresolved.isEmpty = true then _ else _)
  split
  · exact mirrors_pure rfl
  · exact (mirrors_fetch (mirrors_ask _ _ fun calls calls' =>
      plainly.latestVersions calls calls' _) _ none).bind fun versions =>
        mirrors_give (takeFirst_plain .nonActive resolution versions)

/-- The plans that are given for two resolutions are the same for every type, or none are given. -/
inductive SamePlans : Option PlanBook → Option PlanBook → Prop where
  | none : SamePlans none none
  | some {book book' : PlanBook}
      (same : ∀ wanted, (book'.indexed wanted).1 = (book.indexed wanted).1) :
      SamePlans (some book) (some book')

theorem SamePlans.refl (plans : Option PlanBook) : SamePlans plans plans := by
  cases plans with
  | none => exact .none
  | some book => exact .some fun _ => rfl

/-- Written plainly, what is found leads to the same resolution, written plainly. -/
theorem plain_resolveWanted (plainly : r.sources.Plainly s) (flow : Option Flow)
    (wanted : NameSet) {plans plans' : Option PlanBook} (same : SamePlans plans plans') :
    Mirrors Resolution.plain (r.resolveWanted flow wanted tolerant plans)
      ((r.withSources s).resolveWanted flow wanted tolerant plans') := by
  have onward : ∀ {book book' : PlanBook},
      (book'.indexed wanted).1 = (book.indexed wanted).1 → Mirrors Resolution.plain
        (do
          let relevant ← settle (book.indexed wanted)
          let resolution ← r.rampupTier tolerant flow relevant { unresolved := wanted }
          let resolution ← r.activeTier tolerant resolution
          if tolerant then r.nonActiveTier resolution else return resolution)
        (do
          let relevant ← settle (book'.indexed wanted)
          let resolution ←
            (r.withSources s).rampupTier tolerant flow relevant { unresolved := wanted }
          let resolution ← (r.withSources s).activeTier tolerant resolution
          if tolerant then (r.withSources s).nonActiveTier resolution else return resolution) := by
    intro book book' same
    refine (mirrors_settle same).bind fun relevant =>
      (plain_rampupTier plainly flow relevant _).bind fun ramped =>
      (plain_activeTier plainly ramped).bind fun active => ?_
    cases tolerant with
    | true => exact plain_nonActiveTier plainly active
    | false => exact mirrors_pure rfl
  rw [resolveWanted, resolveWanted]
  split
  · exact mirrors_pure rfl
  · cases same with
    | some same => exact onward (same wanted)
    | none =>
      exact (mirrors_fetch (mirrors_same _ _ fun calls calls' =>
        plainly.plansFor calls calls' wanted) _ _).bind fun book => onward rfl

/-! ## Requests -/

theorem normalized_plain (names : List String) :
    NameSet.normalized (names.map normalizeName) = NameSet.normalized names := by
  rw [NameSet.normalized, NameSet.normalized, List.map_map]
  exact congrArg _ (List.map_congr_left fun name _ => normalizeName_normalizeName name)

theorem texts_plain (names : List Datum) :
    (names.map plainName).mapM (Datum.toText "strip") =
      (names.mapM (Datum.toText "strip")).map (List.map normalizeName) := by
  induction names with
  | nil => rfl
  | cons name rest ih =>
    rw [List.map_cons, List.mapM_cons, List.mapM_cons, ih]
    cases name with
    | text name => cases rest.mapM (Datum.toText "strip") <;> rfl
    | _ => rfl

theorem ofDatum_plain (names : List Datum) :
    NameSet.ofDatum (.list (names.map plainName)) = NameSet.ofDatum (.list names) := by
  change (do return NameSet.normalized (← (names.map plainName).mapM (Datum.toText "strip"))) =
    (do return NameSet.normalized (← names.mapM (Datum.toText "strip")))
  rw [texts_plain]
  cases names.mapM (Datum.toText "strip") with
  | error fault => rfl
  | ok texts => exact congrArg Except.ok (normalized_plain texts)

theorem plain_typeNames (plainly : r.sources.Plainly s) :
    Mirrors (List.map plainName) r.typeNames (r.withSources s).typeNames := by
  refine (mirrors_ask _ _ plainly.imageTypes).bind fun types => mirrors_pure ?_
  rw [List.map_map, List.map_map]
  rfl

theorem plain_allPlans (plainly : r.sources.Plainly s) :
    Mirrors id (ask .allPlans r.sources.allPlans)
      (ask .allPlans (r.withSources s).sources.allPlans) :=
  mirrors_same _ _ plainly.allPlans

/-- The names of a look-up that goes on with a set of names are given in any spelling. -/
theorem mirrors_names {names names' : Datum}
    (same : NameSet.ofDatum names' = NameSet.ofDatum names) :
    Mirrors id (give (NameSet.ofDatum names)) (give (NameSet.ofDatum names')) := by
  rw [same]
  exact (quiet_give _).mirrors

theorem mirrors_conclude (exempt : Except Fault NameSet) (resolution : Resolution) :
    Mirrors id (conclude exempt resolution) (conclude exempt resolution.plain) := by
  refine (mirrors_reach _ _).bind fun _ => (quiet_give _).mirrors.bind fun exempted => ?_
  rw [Resolution.versionInfos_plain]
  change Mirrors id _ (if (resolution.unresolved.diff exempted).isEmpty = true then _ else _)
  dsimp only
  split
  · exact mirrors_pure rfl
  · exact mirrors_throw _ (.refl _)

theorem plain_execution (plainly : r.sources.Plainly s) (flow : Option Flow) :
    Mirrors id (r.execution flow) ((r.withSources s).execution flow) := by
  rw [execution_eq, execution_eq]
  refine (plain_typeNames plainly).bind fun names => (plain_allPlans plainly).bind fun book =>
    (mirrors_names (ofDatum_plain names)).bind fun wanted => ?_
  exact (plain_resolveWanted plainly flow wanted (.refl _)).bind fun resolution =>
    mirrors_conclude _ resolution

theorem plain_subsetWanted (plainly : r.sources.Plainly s) (flow : Option Flow) (wanted : NameSet)
    (exempt : Except Fault NameSet) :
    Mirrors id (r.subsetWanted flow wanted exempt)
      ((r.withSources s).subsetWanted flow wanted exempt) := by
  rw [subsetWanted_eq, subsetWanted_eq]
  refine (mirrors_same _ _ fun calls calls' => plainly.plansFor calls calls' wanted).bind
    fun book => (plain_resolveWanted plainly flow wanted (.refl _)).bind fun resolution =>
      mirrors_conclude exempt resolution

theorem plain_subset (plainly : r.sources.Plainly s) (flow : Option Flow)
    {names names' exempt exempt' : Datum} (same : NameSet.ofDatum names' = NameSet.ofDatum names)
    (spared : NameSet.ofDatum exempt' = NameSet.ofDatum exempt) :
    Mirrors id (r.subset flow names exempt) ((r.withSources s).subset flow names' exempt') := by
  rw [subset, subset, spared]
  exact (mirrors_names same).bind fun wanted => plain_subsetWanted plainly flow wanted _

theorem plain_resolve (plainly : r.sources.Plainly s) (flow : Option Flow) {names names' : Datum}
    (same : NameSet.ofDatum names' = NameSet.ofDatum names) (includeNonActive : Bool)
    {plans plans' : Option PlanBook} (planned : SamePlans plans plans') :
    Mirrors Resolution.plain (r.resolve flow names includeNonActive plans)
      ((r.withSources s).resolve flow names' includeNonActive plans') :=
  (mirrors_names same).bind fun wanted => plain_resolveWanted plainly flow wanted planned

theorem plain_invalidPins (plainly : r.sources.Plainly s) (pins : List (TypeKey × VersionInfo)) :
    Mirrors id (r.invalidPins pins) ((r.withSources s).invalidPins pins) := by
  induction pins with
  | nil => exact mirrors_pure rfl
  | cons pin rest ih =>
    exact (mirrors_same _ _ fun calls calls' => plainly.isInvalid calls calls' _ _).bind
      fun invalid => ih.bind fun others => mirrors_pure rfl

theorem plain_reconcile (plainly : r.sources.Plainly s) (flow : Option Flow)
    (pins : OrderedMap TypeKey VersionInfo) :
    Mirrors id (r.reconcile flow pins) ((r.withSources s).reconcile flow pins) := by
  refine (plain_invalidPins plainly pins.entries).bind fun invalid => ?_
  dsimp only [id]
  split
  · exact mirrors_pure rfl
  · exact (plain_subsetWanted plainly flow _ _).bind fun resolved => mirrors_pure rfl

theorem completed_plain (resolution : Resolution) :
    completed resolution.plain =
      (completed resolution).map fun decision => (decision.1, decision.2.plain) := by
  have filled : ∀ (names : List String) (decisions : OrderedMap TypeKey Decision),
      names.foldl (fun decisions name => decisions.put (.ofName name) .noVersion)
          (decisions.mapValues Decision.plain) =
        (names.foldl (fun decisions name => decisions.put (.ofName name) .noVersion)
          decisions).mapValues Decision.plain := by
    intro names
    induction names with
    | nil => exact fun _ => rfl
    | cons name rest ih =>
      intro decisions
      rw [List.foldl_cons, List.foldl_cons, ← ih, OrderedMap.mapValues_put]
      rfl
  rw [completed, completed, ← OrderedMap.sortedBy_mapValues, ← filled]
  rfl

theorem plain_metadata (plainly : r.sources.Plainly s) :
    Mirrors (List.map fun decision => (decision.1, decision.2.plain)) r.metadata
      (r.withSources s).metadata := by
  have named : Mirrors (Option.map (List.map plainName)) r.metadataNames
      (r.withSources s).metadataNames := by
    refine Mirrors.orElse ?_ fun _ _ => mirrors_caught _ _
    exact (plain_typeNames plainly).bind fun names => mirrors_pure rfl
  have booked : Mirrors id r.metadataBook (r.withSources s).metadataBook :=
    (plain_allPlans plainly).orElse fun _ _ => mirrors_caught _ _
  refine named.bind fun names => ?_
  cases names with
  | none => exact mirrors_pure rfl
  | some names =>
    exact booked.bind fun book => (plain_resolve plainly none (ofDatum_plain names) true
      (.refl _)).bind fun resolution => (mirrors_reach _ _).bind fun _ =>
        mirrors_pure (completed_plain resolution)

theorem plain_exact (plainly : r.sources.Plainly s) {name name' : Datum}
    (same : TypeKey.ofDatum name' = TypeKey.ofDatum name) (label allowed : Datum) :
    Mirrors id (r.exact name label allowed) ((r.withSources s).exact name' label allowed) := by
  refine (plain_exactVersion plainly same label).bind fun version =>
    (quiet_give _).mirrors.bind fun states => ?_
  change Mirrors id _ (if (states.isEmpty || states.contains version.state) = true then _ else _)
  split
  · exact mirrors_pure rfl
  · exact mirrors_throw _ ⟨rfl, rfl⟩

end Resolver

end Rollout

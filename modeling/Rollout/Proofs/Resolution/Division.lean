import Rollout.Proofs.Plan.Book
import Rollout.Proofs.Resolution.Questions
import Rollout.Proofs.Resolution.Versions

/-!
# What resolutions consist of

Nothing is assumed of the sources here, nor of the plans and the names. Whatever is answered, a
resolution that returns divides the named types into decided ones and unresolved ones, and every
decision is for a version of the type itself (`resolve_divides`). The invariant that the tiers keep
is `IsProper`.
-/

namespace Rollout

/-- The decision is for a version of the type itself; a version of any state is taken only where
these are included. -/
structure Decision.Fits (key : TypeKey) (includeNonActive : Bool) (decision : Decision) :
    Prop where
  own : ∃ version, decision.version = some version ∧ version.key = .ok key
  selected : decision.selection ≠ .noVersion
  included : decision.selection = .nonActive → includeNonActive = true

namespace Resolution

/-- The wanted names are decided or unresolved, and every decision fits its type. -/
structure IsProper (r : Resolution) (wanted : NameSet) (includeNonActive : Bool) : Prop where
  partitions : r.Partitions wanted
  fits : ∀ key decision, r.decisions.find? key = some decision →
    decision.Fits key includeNonActive

variable {r : Resolution} {wanted : NameSet} {includeNonActive : Bool}

theorem isProper_start (wanted : NameSet) (bucket : Datum) (includeNonActive : Bool) :
    IsProper { unresolved := wanted, bucket := bucket } wanted includeNonActive :=
  ⟨partitions_start wanted bucket, fun _ _ => nofun⟩

/-- Every decision has a version. -/
def IsVersioned (r : Resolution) : Prop :=
  ∀ key decision, r.decisions.find? key = some decision →
    ∃ version, decision.version = some version

theorem IsProper.versioned (proper : r.IsProper wanted includeNonActive) : r.IsVersioned := by
  intro key decision decided
  obtain ⟨version, chosen, -⟩ := (proper.fits key decision decided).own
  exact ⟨version, chosen⟩

theorem IsProper.decideAll (proper : r.IsProper wanted includeNonActive)
    (normalized : wanted.IsNormalized) {decisions : List (TypeKey × Decision)}
    (members : ∀ decision ∈ decisions, decision.1.text ∈ wanted)
    (fits : ∀ decision ∈ decisions, decision.2.Fits decision.1 includeNonActive) :
    (r.decideAll decisions).IsProper wanted includeNonActive :=
  ⟨proper.partitions.decideAll normalized members, forall_decideAll proper.fits fits⟩

/-- The names are divided into those of the decided types and the unresolved ones. -/
structure Divides (r : Resolution) (names : List String) : Prop where
  covered : ∀ name, (∃ given ∈ names, normalizeName given = name) ↔
    name ∈ r.decisions.keys.map TypeKey.text ∨ name ∈ r.unresolved
  separate : ∀ name ∈ r.decisions.keys.map TypeKey.text, name ∉ r.unresolved

theorem Partitions.divides {names : List String}
    (partitions : r.Partitions (NameSet.normalized names)) : r.Divides names := by
  have decided_iff : ∀ key, key ∈ r.decisions.keys ↔ ∃ decision,
      r.decisions.find? key = some decision := by
    intro key
    rw [← OrderedMap.contains_iff, OrderedMap.contains, Option.isSome_iff_exists]
  constructor
  · intro name
    rw [← NameSet.mem_normalized, List.mem_map]
    constructor
    · intro wants
      have own := (NameSet.isNormalized_normalized names).text_ofName wants
      cases decided : r.decisions.find? (.ofName name) with
      | some decision => exact .inl ⟨.ofName name, (decided_iff _).mpr ⟨decision, decided⟩, own⟩
      | none => exact .inr ((partitions.unresolved_iff name).mpr ⟨wants, decided⟩)
    · rintro (⟨key, member, rfl⟩ | unresolved)
      · obtain ⟨decision, decided⟩ := (decided_iff key).mp member
        exact partitions.decided key decision decided
      · exact ((partitions.unresolved_iff name).mp unresolved).1
  · intro name member unresolved
    obtain ⟨key, among, rfl⟩ := List.mem_map.mp member
    obtain ⟨decision, decided⟩ := (decided_iff key).mp among
    have undecided := ((partitions.unresolved_iff _).mp unresolved).2
    rw [TypeKey.ofName_text, decided] at undecided
    cases undecided

end Resolution

namespace Resolver

variable {tolerant : Bool} {wanted : NameSet}

/-! ## The rampup tier -/

theorem returns_fetch {α : Type} {what : String} {default : α} {lookup : Lookup α}
    {post : α → List Call → Prop} {calls : List Call} (returns : lookup.Returns calls post)
    (fails : ∀ after, post default after) :
    (fetch tolerant what default lookup).Returns calls post := by
  cases tolerant with
  | false => exact returns
  | true =>
    exact returns.orElse fun fault after => (Lookup.leads_warn _ after).returns.bind
      fun _ after _ => Lookup.returns_pure (fails after)

/-- What is chosen for the type is a version of the type. -/
def RampupOutcome.IsOwn (key : TypeKey) (outcome : RampupOutcome) : Prop :=
  ∀ version plan, outcome = .chosen version plan → version.key = .ok key

theorem owned_chooseEntry (r : Resolver) (key : TypeKey) (entry : PlanEntry) (plan : Plan)
    (calls : List Call) :
    (r.chooseEntry tolerant key entry plan).Returns calls fun outcome _ => outcome.IsOwn key := by
  have looked : (do return .chosen (← r.exactVersion (.text key.text) entry.version) plan :
      Lookup RampupOutcome).Returns calls fun outcome _ => outcome.IsOwn key := by
    refine (leads_exactVersion r key entry.version calls).returns.bind ?_
    rintro version after ⟨-, named, -⟩
    refine Lookup.returns_pure ?_
    rintro _ _ ⟨⟩
    exact (named version rfl).1
  rw [chooseEntry]
  split
  · exact looked.orElse fun fault after => (Lookup.leads_warn _ after).returns.bind
      fun _ _ _ => Lookup.returns_pure (by rintro _ _ ⟨⟩)
  · exact looked

theorem returns_walkOrder (r : Resolver) (key : TypeKey) (stored : Plan) (calls : List Call) :
    (r.walkOrder tolerant key stored).Returns calls fun _ _ => True := by
  refine ((Lookup.leads_settle _ calls).returns.imp fun _ _ _ _ => trivial).orElse
    fun fault after => ?_
  split
  · exact (Lookup.leads_warn _ after).returns.bind fun _ _ _ => Lookup.returns_pure trivial
  · exact Lookup.returns_throw _

theorem owned_rampupType (r : Resolver) (placed : Option (Flow × Int)) (key : TypeKey)
    (stored : Plan) (calls : List Call) :
    (r.rampupType tolerant placed key stored).Returns calls fun outcome _ =>
      outcome.IsOwn key := by
  refine (returns_walkOrder r key stored calls).bind fun walked calls _ => ?_
  split
  · exact owned_chooseEntry r key _ _ calls
  · refine (Lookup.leads_give _ calls).returns.bind fun owner calls _ => ?_
    cases owner with
    | none => exact Lookup.returns_pure fun _ _ => nofun
    | some entry =>
      refine (Lookup.leads_askThrough _ _ calls).returns.bind fun barred calls _ => ?_
      cases barred with
      | true => exact Lookup.returns_pure fun _ _ => nofun
      | false => exact owned_chooseEntry r key _ _ calls
  · exact Lookup.returns_pure fun _ _ => nofun

/-- The outcomes are those of the plans, type by type. -/
structure AllOwn (plans : List (TypeKey × Plan)) (outcomes : List (TypeKey × RampupOutcome)) :
    Prop where
  keys : outcomes.map Prod.fst = plans.map Prod.fst
  own : ∀ outcome ∈ outcomes, outcome.2.IsOwn outcome.1

theorem owned_rampupTypes (r : Resolver) (placed : Option (Flow × Int))
    (plans : List (TypeKey × Plan)) (calls : List Call) :
    (r.rampupTypes tolerant placed plans).Returns calls fun outcomes _ =>
      AllOwn plans outcomes := by
  induction plans generalizing calls with
  | nil => exact Lookup.returns_pure ⟨rfl, by simp⟩
  | cons plan rest ih =>
    refine (owned_rampupType r placed plan.1 plan.2 calls).bind fun outcome calls own => ?_
    refine (ih calls).bind fun outcomes calls later => Lookup.returns_pure ⟨?_, ?_⟩
    · rw [List.map_cons, List.map_cons, later.keys]
    · exact List.forall_mem_cons.mpr ⟨own, later.own⟩

theorem returns_fetchActive (r : Resolver) (names : NameSet) (calls : List Call) :
    (r.fetchActive tolerant names).Returns calls fun _ _ => True :=
  returns_fetch ((Lookup.leads_ask _ _ calls).returns.imp fun _ _ _ _ => trivial)
    fun _ => trivial

/-- Only a tolerant resolution leaves a type without its replacement. -/
theorem returns_replaceExcluded (active : OrderedMap TypeKey ImageVersion)
    (resolution : Resolution) (excluded : List (TypeKey × PlanEntry × Plan)) (calls : List Call) :
    (replaceExcluded tolerant active resolution excluded).Returns calls fun next _ =>
      next = resolution.decideAll (replacements active.find? excluded) ∧
        (tolerant = false →
          ∀ entry ∈ excluded, ∃ version, active.find? entry.1 = some version) := by
  induction excluded generalizing resolution calls with
  | nil => exact Lookup.returns_pure ⟨rfl, by simp⟩
  | cons first rest ih =>
    obtain ⟨key, entry, plan⟩ := first
    rw [replaceExcluded]
    cases found : active.find? key with
    | none =>
      have skipped : replacements active.find? ((key, entry, plan) :: rest) =
          replacements active.find? rest := by
        simp only [replacements, replacement, List.filterMap_cons, found, Option.map_none]
      rw [skipped]
      dsimp only
      split
      · rename_i lenient
        refine (Lookup.leads_warn _ calls).returns.bind fun _ calls _ => ?_
        refine (ih _ calls).imp ?_
        rintro next after - ⟨same, -⟩
        refine ⟨same, fun strict => ?_⟩
        rw [strict] at lenient
        cases lenient
      · exact Lookup.returns_throw _
    | some version =>
      refine (ih _ calls).imp ?_
      rintro next after - ⟨rfl, others⟩
      refine ⟨?_, fun strict => List.forall_mem_cons.mpr ⟨⟨version, found⟩, others strict⟩⟩
      simp only [replacements, replacement, List.filterMap_cons, found, Option.map_some]
      rfl

theorem returns_ruleFallback (r : Resolver) (resolution : Resolution)
    (excluded : List (TypeKey × PlanEntry × Plan)) (calls : List Call) :
    (r.ruleFallback tolerant resolution excluded).Returns calls fun next _ =>
      ∃ latest : TypeKey → Option ImageVersion,
        (∀ key version, latest key = some version → version.key = .ok key) ∧
        (tolerant = false → ∀ entry ∈ excluded, ∃ version, latest entry.1 = some version) ∧
        next = resolution.decideAll (replacements latest excluded) := by
  rw [ruleFallback]
  split
  · rename_i nothing
    obtain rfl := List.isEmpty_iff.mp nothing
    exact Lookup.returns_pure ⟨fun _ => none, by rintro _ _ ⟨⟩, fun _ => by simp, rfl⟩
  · refine (returns_fetchActive r _ calls).bind fun versions calls _ => ?_
    refine (Lookup.leads_give _ calls).returns.bind ?_
    rintro active calls ⟨indexed, -⟩
    refine (returns_replaceExcluded active resolution excluded calls).imp ?_
    rintro next after - ⟨same, found⟩
    exact ⟨active.find?, fun key version held => (own_of_firstByKey indexed held).2, found, same⟩

theorem returns_place (r : Resolver) (flow : Option Flow) (calls : List Call) :
    (r.place flow).Returns calls fun placed _ => ∀ f, flow = some f →
      ∃ bucket, placed = some (f, bucket) ∧ 1 ≤ bucket ∧ bucket ≤ bucketCount := by
  cases flow with
  | none => exact Lookup.returns_pure nofun
  | some flow =>
    have bucket : (r.bucketOf flow).Returns calls fun bucket _ =>
        1 ≤ bucket ∧ bucket ≤ bucketCount := by
      refine (Lookup.leads_ask _ _ calls).returns.bind fun answer calls _ => ?_
      split
      · split
        · rename_i inside
          exact Lookup.returns_pure inside
        · exact Lookup.returns_throw _
      · exact Lookup.returns_throw _
    refine bucket.bind fun bucket after inside => Lookup.returns_pure ?_
    rintro f ⟨⟩
    exact ⟨bucket, rfl, inside⟩

/-- Chosen versions and replacements fit. -/
theorem isProper_decided (normalized : wanted.IsNormalized) (bucket : Datum)
    {outcomes : List (TypeKey × RampupOutcome)} {latest : TypeKey → Option ImageVersion}
    (wants : ∀ key ∈ outcomes.map Prod.fst, key.text ∈ wanted)
    (own : ∀ outcome ∈ outcomes, outcome.2.IsOwn outcome.1)
    (replaced : ∀ key version, latest key = some version → version.key = .ok key) :
    ((takeChosen { unresolved := wanted, bucket := bucket } outcomes).decideAll
      (replacements latest (excludedTypes outcomes))).IsProper wanted tolerant := by
  refine ⟨partitions_decided latest (Resolution.partitions_start wanted bucket) normalized wants,
    Resolution.forall_decideAll ?_ ?_⟩
  · rw [takeChosen_eq]
    refine Resolution.forall_decideAll (fun _ _ => nofun) fun decision member => ?_
    obtain ⟨outcome, among, made⟩ := OrderedMap.mem_filterMap_entry.mp member
    cases outcome with
    | chosen version plan =>
      rw [← Option.some.inj made]
      exact ⟨⟨version, rfl, own _ among version plan rfl⟩, nofun, nofun⟩
    | _ => cases made
  · intro decision member
    obtain ⟨excluded, -, made⟩ := OrderedMap.mem_filterMap_entry.mp member
    obtain ⟨version, held, same⟩ := Option.map_eq_some_iff.mp made
    rw [← same]
    exact ⟨⟨version, rfl, replaced _ version held⟩, nofun, nofun⟩

theorem proper_rampupTier (r : Resolver) (flow : Option Flow) (normalized : wanted.IsNormalized)
    {index : OrderedMap TypeKey Plan}
    (wants : ∀ key plan, index.find? key = some plan → key.text ∈ wanted) (calls : List Call) :
    (r.rampupTier tolerant flow index { unresolved := wanted }).Returns calls
      fun resolution _ => resolution.IsProper wanted tolerant := by
  rw [rampupTier]
  split
  · exact Lookup.returns_pure (Resolution.isProper_start wanted .null tolerant)
  · refine (returns_place r flow calls).bind fun placed calls _ => ?_
    refine (owned_rampupTypes r placed _ calls).bind fun outcomes calls all => ?_
    refine (returns_ruleFallback r _ _ calls).imp ?_
    rintro resolution after - ⟨latest, replaced, -, rfl⟩
    refine isProper_decided normalized _ ?_ all.own replaced
    intro key member
    rw [all.keys] at member
    obtain ⟨⟨_, stored⟩, planned, rfl⟩ := List.mem_map.mp member
    exact wants _ stored (OrderedMap.mem_sortedBy.mp planned)

/-! ## Active and non-active -/

theorem returns_takeFirst (selection : Selection) (selected : selection ≠ .noVersion)
    (included : selection = .nonActive → tolerant = true) (normalized : wanted.IsNormalized)
    {resolution : Resolution} (proper : resolution.IsProper wanted tolerant)
    (versions : Option (List ImageVersion)) (calls : List Call) :
    (Lookup.give (takeFirst selection resolution versions)).Returns calls fun next _ =>
      next.IsProper wanted tolerant := by
  refine (Lookup.leads_give _ calls).returns.imp ?_
  rintro next after - ⟨taken, -⟩
  rw [takeFirst_eq] at taken
  cases indexed : firstByKey (versions.getD []) resolution.unresolved with
  | error fault =>
    rw [indexed] at taken
    cases taken
  | ok first =>
    rw [indexed] at taken
    cases taken
    refine proper.decideAll normalized
      (wanted_of_firstDecisions selection proper.partitions indexed) fun decision member => ?_
    obtain ⟨⟨key, version⟩, among, rfl⟩ := List.mem_map.mp member
    have held := (first.find?_eq_some_iff key version).mpr among
    exact ⟨⟨version, rfl, (own_of_firstByKey indexed held).2⟩, selected, included⟩

theorem proper_activeTier (r : Resolver) (normalized : wanted.IsNormalized)
    {resolution : Resolution} (proper : resolution.IsProper wanted tolerant) (calls : List Call) :
    (r.activeTier tolerant resolution).Returns calls fun next _ =>
      next.IsProper wanted tolerant := by
  rw [activeTier]
  split
  · exact Lookup.returns_pure proper
  · exact (returns_fetchActive r _ calls).bind fun versions calls _ =>
      returns_takeFirst .active (by decide) (by rintro ⟨⟩) normalized proper versions calls

theorem proper_nonActiveTier (r : Resolver) (normalized : wanted.IsNormalized)
    {resolution : Resolution} (proper : resolution.IsProper wanted true) (calls : List Call) :
    (r.nonActiveTier resolution).Returns calls fun next _ => next.IsProper wanted true := by
  rw [nonActiveTier]
  split
  · exact Lookup.returns_pure proper
  · have fetched : (fetch true "latest non-ACTIVE versions" none
        (Lookup.ask (.latestVersions resolution.unresolved)
          (r.sources.latestVersions · resolution.unresolved))).Returns calls fun _ _ => True :=
      returns_fetch ((Lookup.leads_ask _ _ calls).returns.imp fun _ _ _ _ => trivial)
        fun _ => trivial
    exact fetched.bind fun versions calls _ =>
      returns_takeFirst .nonActive (by decide) (fun _ => rfl) normalized proper versions calls

/-! ## All tiers -/

theorem proper_resolveWanted (r : Resolver) (flow : Option Flow) (normalized : wanted.IsNormalized)
    (plans : Option PlanBook) (calls : List Call) :
    (r.resolveWanted flow wanted tolerant plans).Returns calls fun resolution _ =>
      resolution.IsProper wanted tolerant := by
  rw [resolveWanted]
  split
  · exact Lookup.returns_pure (Resolution.isProper_start wanted .null tolerant)
  · have booked : (r.bookFor tolerant wanted plans).Returns calls fun _ _ => True := by
      cases plans with
      | some book => exact Lookup.returns_pure trivial
      | none =>
        exact returns_fetch ((Lookup.leads_ask _ _ calls).returns.imp fun _ _ _ _ => trivial)
          fun _ => trivial
    refine booked.bind fun book calls _ => ?_
    refine (Lookup.leads_settle _ calls).returns.bind ?_
    rintro index calls ⟨indexed, -⟩
    refine (proper_rampupTier r flow normalized
      (fun key plan => PlanBook.wanted_of_indexed indexed) calls).bind fun ramped calls proper => ?_
    refine (proper_activeTier r normalized proper calls).bind fun active calls proper => ?_
    cases tolerant with
    | false => exact Lookup.returns_pure proper
    | true => exact proper_nonActiveTier r normalized proper calls

/-! ## Requests -/

theorem returns_conclude_empty (resolution : Resolution) (calls : List Call) :
    (conclude (.ok NameSet.empty) resolution).Returns calls fun infos _ =>
      resolution.unresolved.isEmpty = true ∧ infos = resolution.versionInfos := by
  rw [conclude_empty]
  refine (Lookup.leads_reach resolution calls).returns.bind fun _ calls _ => ?_
  split
  · rename_i complete
    exact Lookup.returns_pure ⟨complete, rfl⟩
  · exact Lookup.returns_throw _

/-- Where no type is exempt, every wanted one has its version. -/
theorem returns_all (r : Resolver) (flow : Option Flow) (normalized : wanted.IsNormalized)
    (plans : Option PlanBook) (calls : List Call) :
    (r.resolveWanted flow wanted false plans >>= conclude (.ok NameSet.empty)).Returns calls
      fun infos _ => infos.map (fun info => info.1.text) = wanted.toList := by
  refine (proper_resolveWanted r flow normalized plans calls).bind fun resolution calls proper => ?_
  refine (returns_conclude_empty resolution calls).imp ?_
  rintro infos after - ⟨complete, rfl⟩
  exact proper.partitions.names_versionInfos normalized complete proper.versioned

theorem returns_execution (r : Resolver) (flow : Option Flow) :
    (r.execution flow).Returns [] fun infos _ => ∃ (types : List ImageType) (texts : List String),
      r.sources.imageTypes [] = .ok types ∧ types.map ImageType.name = texts.map .text ∧
      infos.map (fun info => info.1.text) = (NameSet.normalized texts).toList := by
  rw [execution_eq]
  refine ((Lookup.leads_ask _ _ []).returns.bind fun types calls asked =>
    Lookup.returns_pure ⟨types, asked.1, rfl⟩ : r.typeNames.Returns [] fun names _ =>
      ∃ types, r.sources.imageTypes [] = .ok types ∧ names = types.map ImageType.name).bind ?_
  rintro _ calls ⟨types, listed, rfl⟩
  refine (Lookup.leads_ask _ _ calls).returns.bind fun book calls _ => ?_
  refine (Lookup.leads_give _ calls).returns.bind ?_
  rintro wanted calls ⟨named, -⟩
  obtain ⟨texts, items, rfl⟩ := NameSet.texts_of_ofDatum named
  refine (returns_all r flow (NameSet.isNormalized_normalized texts) _ calls).imp ?_
  exact fun infos after _ names => ⟨types, texts, listed, Except.ok.inj items, names⟩

/-- **A resolution divides the named types.** Whatever the sources answer, a resolution that returns
has decided some of the named types and left the others over, each type once in whatever spellings
it was named, and its decisions are for versions of their types. So a request for all types that
returns has exactly the listed ones, in ascending order. -/
theorem resolve_divides (r : Resolver) (flow : Option Flow) :
    (∀ (names : Datum) (includeNonActive : Bool) (plans : Option PlanBook)
      (resolution : Resolution),
      (r.resolve flow names includeNonActive plans).start.1 = .ok resolution →
      ∃ texts : List String, names.items = .ok (texts.map .text) ∧ resolution.Divides texts ∧
        ∀ key decision, resolution.decisions.find? key = some decision →
          decision.Fits key includeNonActive) ∧
    ∀ infos, (r.execution flow).start.1 = .ok infos →
      ∃ (types : List ImageType) (texts : List String), r.sources.imageTypes [] = .ok types ∧
        types.map ImageType.name = texts.map .text ∧
        infos.map (fun info => info.1.text) = (NameSet.normalized texts).toList := by
  constructor
  · intro names includeNonActive plans resolution returned
    have proper : (r.resolve flow names includeNonActive plans).Returns [] fun resolution _ =>
        ∃ texts : List String, names.items = .ok (texts.map .text) ∧
          resolution.IsProper (NameSet.normalized texts) includeNonActive := by
      refine (Lookup.leads_give _ []).returns.bind ?_
      rintro wanted calls ⟨named, -⟩
      obtain ⟨texts, items, rfl⟩ := NameSet.texts_of_ofDatum named
      exact (proper_resolveWanted r flow (NameSet.isNormalized_normalized texts) plans calls).imp
        fun resolution _ _ proper => ⟨texts, items, proper⟩
    obtain ⟨texts, items, proper⟩ := Lookup.Leads.start proper resolution returned
    exact ⟨texts, items, proper.partitions.divides, proper.fits⟩
  · intro infos returned
    exact Lookup.Leads.start (returns_execution r flow) infos returned

/-- Sources that list types twice, answer for types that were not asked about, repeat versions and
spell names in their own way. -/
def straying : Resolver where
  sources :=
    let version (name label : String) (state : State) : ImageVersion :=
      { imageType := .text name, version := .text label, path := .null, state := state }
    { imageTypes := fun _ => .ok [{ name := .text " Etl " }, { name := .text "ML" },
        { name := .text "etl" }]
      findVersions := fun _ _ _ => .ok (some [version "etl" "2.0" .active,
        version "mL" "2.0" .new, version "ml " "2.0" .new])
      activeVersions := fun _ _ => .ok (some [version "web" "9" .active,
        version "ETL" "1.0" .active, version "etl " "1.1" .active])
      latestVersions := fun _ _ => .ok none
      isInvalid := fun _ _ _ => .ok true
      allPlans := fun _ => .ok (OrderedMap.ofList
        [(.text "ml", none), (.text " ML ", some [⟨.text "2.0", .int 100⟩])])
      plansFor := fun _ _ => .ok OrderedMap.empty
      isExcluded := fun _ _ _ _ => (.ok false, [.allPlans])
      bucketOf := fun _ _ => .ok (.int 7) }
  planOrder := .null

theorem resolve_divides_straying :
    (∃ resolution,
      (straying.resolve none (.list [.text "ETL", .text "gone"]) true none).start.1 =
        .ok resolution ∧ resolution.Divides ["ETL", "gone"]) ∧
    ∃ infos, (straying.execution (some { name := .text "nightly" })).start.1 = .ok infos ∧
      infos.map (fun info => info.1.text) = ["etl", "ml"] := by
  constructor
  · have returns : (straying.resolve none (.list [.text "ETL", .text "gone"]) true
        none).start.1.toOption.isSome = true := by
      decide +kernel
    obtain ⟨resolution, found⟩ := Option.isSome_iff_exists.mp returns
    have returned := Fallible.eq_ok_of_toOption found
    obtain ⟨texts, items, divides, -⟩ := (resolve_divides _ _).1 _ _ _ _ returned
    obtain rfl : ["ETL", "gone"] = texts :=
      (List.map_inj_right fun _ _ => Datum.text.inj).mp (Except.ok.inj items)
    exact ⟨resolution, returned, divides⟩
  · have returns : (straying.execution
        (some { name := .text "nightly" })).start.1.toOption.isSome = true := by
      decide +kernel
    obtain ⟨infos, found⟩ := Option.isSome_iff_exists.mp returns
    have returned := Fallible.eq_ok_of_toOption found
    obtain ⟨types, texts, listed, named, names⟩ := (resolve_divides _ _).2 infos returned
    cases listed
    obtain rfl : [" Etl ", "ML", "etl"] = texts :=
      (List.map_inj_right fun _ _ => Datum.text.inj).mp named
    exact ⟨infos, returned, names.trans (by decide +kernel)⟩

end Resolver

end Rollout

import Rollout.Catalog.Intake
import Rollout.Proofs.Fallible
import Rollout.Proofs.Plan.Shares

/-!
# Reachable catalogs

A catalog is **reachable** when it comes about by changes from the empty one, where a change that
is refused leaves the catalog as it was. Reachable catalogs are **well kept**
(`Reachable.wellKept`): whatever they hold lies under the key of its own type, a type has no two
versions with one label, and every plan has entries, all of them with integer percentages.
-/

namespace Rollout.Catalog

/-! ## Changes -/

/-- A change from outside. Names, labels and patterns are texts; the other arguments are taken as
they were given and may be refused. -/
inductive Change where
  | addType (name : String) (description : Datum)
  | addVersion (imageType version : String) (path state releaseTag : Datum)
  | setState (imageType version : String) (state : Datum)
  | setPlan (imageType : String) (entries : List (String × Datum))
  | addRule (name : Datum) (flowPattern imageType version : String)

/-- Entries of a plan as they come from outside. -/
def entryData (entries : List (String × Datum)) : Datum :=
  .list (entries.map fun (label, percentage) => .list [.text label, percentage])

/-- The catalog with the change, unless it is refused. -/
def Change.applyTo (c : Catalog) : Change → Except Fault Catalog
  | addType name description => do return (← c.registerType (.text name) description).2
  | addVersion imageType version path state releaseTag => do
    return (← c.registerVersion (.text imageType) (.text version) path state releaseTag).2
  | setState imageType version state => do
    return (← c.changeState (.text imageType) (.text version) state).2
  | setPlan imageType entries => c.changePlan (.text imageType) (entryData entries)
  | addRule name flowPattern imageType version =>
    return c.addRule
      { name := name, flowPattern := .text flowPattern, imageType := .text imageType
        version := .text version }

/-- The catalog after the change, which is the same when the change is refused. -/
def after (c : Catalog) (change : Change) : Catalog :=
  match change.applyTo c with
  | .ok changed => changed
  | .error _ => c

/-- The catalog that comes about by the changes, from the empty one. -/
def afterAll (changes : List Change) : Catalog :=
  changes.foldl after empty

/-- The catalog comes about by changes from the empty one. -/
inductive Reachable : Catalog → Prop where
  | empty : Reachable empty
  | after {c : Catalog} (reached : Reachable c) (change : Change) : Reachable (c.after change)

/-- The reachable catalogs are those that a sequence of changes leads to. -/
theorem reachable_iff {c : Catalog} :
    c.Reachable ↔ ∃ changes : List Change, c = changes.foldl Catalog.after Catalog.empty := by
  constructor
  · intro reached
    induction reached with
    | empty => exact ⟨[], rfl⟩
    | after _ change ih =>
      obtain ⟨changes, rfl⟩ := ih
      refine ⟨changes ++ [change], ?_⟩
      rw [List.foldl_append]
      rfl
  · rintro ⟨changes, rfl⟩
    -- the fold moves its start along, so the induction is over every start
    have onward : ∀ start : Catalog, start.Reachable →
        (changes.foldl Catalog.after start).Reachable := by
      induction changes with
      | nil => exact fun _ reached => reached
      | cons change rest ih => exact fun start reached => ih _ (reached.after change)
    exact onward _ .empty

/-! ## What a change makes of a catalog -/

section Applied

variable {c changed : Catalog}

/-- The version that is added with the arguments, once its state is read. -/
def versionOf (imageType version : String) (path : Datum) (state : State) (releaseTag : Datum) :
    ImageVersion where
  imageType := .text imageType
  version := .text version
  path := pathOr (.ofName imageType) path
  state := state
  releaseTag := releaseTag

/-- A plan with its percentages read as integers. -/
def entriesPlan (entries : List (String × Datum)) : Except Fault Plan :=
  entries.mapM fun (label, percentage) => do
    return { version := .text label, percentage := .int (← percentage.toInteger) }

theorem applied_addVersion {imageType version : String} {path state releaseTag : Datum}
    (h : Change.applyTo c (.addVersion imageType version path state releaseTag) = .ok changed) :
    ∃ read others, State.ofDatum state = .ok read ∧
      Fallible.filter (fun u => (!·) <$> u.hasLabel (.text version))
        (c.versionsOf (.ofName imageType)) = .ok others ∧
      changed = { c with
        types := if c.types.contains (.ofName imageType) then c.types
          else c.types.put (.ofName imageType) { name := .text imageType }
        versions := c.versions.put (.ofName imageType)
          (others ++ [versionOf imageType version path read releaseTag]) } := by
  obtain ⟨result, registered, same⟩ := Fallible.bind_eq_ok_iff.mp h
  cases same
  obtain ⟨key, keyed, registered⟩ := Fallible.bind_eq_ok_iff.mp registered
  obtain rfl : .ofName imageType = key := Except.ok.inj keyed
  obtain ⟨read, reading, registered⟩ := Fallible.bind_eq_ok_iff.mp registered
  obtain ⟨added, adding, same⟩ := Fallible.bind_eq_ok_iff.mp registered
  cases same
  obtain ⟨key, keyed, adding⟩ := Fallible.bind_eq_ok_iff.mp adding
  obtain rfl : .ofName imageType = key := Except.ok.inj keyed
  obtain ⟨others, filtered, same⟩ := Fallible.bind_eq_ok_iff.mp adding
  cases same
  exact ⟨read, others, reading, filtered, rfl⟩

/-- One version is changed at its place, in its state only. -/
theorem applied_setState {imageType version : String} {state : Datum}
    (h : Change.applyTo c (.setState imageType version state) = .ok changed) :
    ∃ before v rest read, c.versionsOf (.ofName imageType) = before ++ v :: rest ∧
      (∀ u ∈ before, u.hasLabel (.text version) = .ok false) ∧
      v.hasLabel (.text version) = .ok true ∧ State.ofDatum state = .ok read ∧
      changed = { c with
        versions := c.versions.put (.ofName imageType)
          (before ++ { v with state := read } :: rest) } := by
  obtain ⟨result, found, same⟩ := Fallible.bind_eq_ok_iff.mp h
  cases same
  obtain ⟨key, keyed, found⟩ := Fallible.bind_eq_ok_iff.mp found
  obtain rfl : .ofName imageType = key := Except.ok.inj keyed
  obtain ⟨answer, looked, same⟩ := Fallible.bind_eq_ok_iff.mp found
  cases answer with
  | none => cases same
  | some answer =>
    cases same
    obtain ⟨split, changing, same⟩ := Fallible.bind_eq_ok_iff.mp looked
    cases split with
    | none => cases same
    | some pair =>
      obtain ⟨v, versions⟩ := pair
      cases same
      obtain ⟨before, old, rest, whole, missed, hit, made, rfl⟩ :=
        Fallible.split_of_changeFirst? changing
      obtain ⟨read, reading, same⟩ := Fallible.bind_eq_ok_iff.mp made
      cases same
      exact ⟨before, old, rest, read, whole, missed, hit, reading, rfl⟩

theorem applied_setPlan {imageType : String} {entries : List (String × Datum)}
    (h : Change.applyTo c (.setPlan imageType entries) = .ok changed) :
    ∃ plan, entriesPlan entries = .ok plan ∧ changed = c.putPlan (.ofName imageType) plan := by
  obtain ⟨items, listed, reading⟩ := Fallible.bind_eq_ok_iff.mp h
  cases listed
  obtain ⟨plan, read, put⟩ := Fallible.bind_eq_ok_iff.mp reading
  obtain ⟨key, keyed, same⟩ := Fallible.bind_eq_ok_iff.mp put
  obtain rfl : .ofName imageType = key := Except.ok.inj keyed
  cases same
  rw [List.mapM_map] at read
  exact ⟨plan, read, rfl⟩

/-- Entries that can be read become the plan of the type. -/
theorem after_setPlan (c : Catalog) (imageType : String) {entries : List (String × Datum)}
    {plan : Plan} (read : entriesPlan entries = .ok plan) :
    c.after (.setPlan imageType entries) = c.putPlan (.ofName imageType) plan := by
  have items : (entries.map fun entry => Datum.list [.text entry.1, entry.2]).mapM readEntry =
      .ok plan := by
    rw [List.mapM_map]
    exact read
  have applied : Change.applyTo c (.setPlan imageType entries) =
      .ok (c.putPlan (.ofName imageType) plan) := by
    refine Fallible.bind_eq_ok_iff.mpr ⟨_, rfl, ?_⟩
    exact Fallible.bind_eq_ok_iff.mpr ⟨plan, items, rfl⟩
  rw [Catalog.after, applied]

end Applied

/-! ## Well kept versions -/

/-- The version belongs to the type and has a label that is a text. -/
structure VersionOf (key : TypeKey) (v : ImageVersion) : Prop where
  keyed : v.key = .ok key
  labelled : ∃ label, v.version = .text label

/-- The versions belong to the type, and their labels differ. -/
structure VersionsOf (key : TypeKey) (versions : List ImageVersion) : Prop where
  each : ∀ v ∈ versions, VersionOf key v
  distinct : versions.Pairwise fun u v => u.hasLabel v.version = .ok false

/-- Labels that are texts are compared without fault. -/
theorem VersionOf.hasLabel_text {key : TypeKey} {v : ImageVersion} (of : VersionOf key v)
    (label : String) : ∃ answer, v.hasLabel (.text label) = .ok answer := by
  obtain ⟨own, same⟩ := of.labelled
  rw [ImageVersion.hasLabel, same]
  exact ⟨_, rfl⟩

/-- Among the versions of one type a version is told by its label. -/
theorem isNamed_eq {key : TypeKey} {v : ImageVersion} {name : Datum} (own : v.key = .ok key)
    (named : TypeKey.ofDatum name = .ok key) (label : Datum) :
    v.isNamed name label = v.hasLabel label := by
  rw [ImageVersion.isNamed, own, named]
  simp only [bind, Except.bind, if_true]

/-- Only the label of a version counts. -/
theorem hasLabel_congr {u v : ImageVersion} (same : u.version = v.version) (label : Datum) :
    u.hasLabel label = v.hasLabel label := by
  rw [ImageVersion.hasLabel, ImageVersion.hasLabel, same]

theorem VersionsOf.nil (key : TypeKey) : VersionsOf key [] :=
  ⟨by simp, .nil⟩

/-- The answer of a comparison of labels that cannot fail. -/
def isLabelled (label : Datum) (v : ImageVersion) : Bool :=
  match v.hasLabel label with
  | .ok answer => answer
  | .error _ => false

theorem VersionOf.hasLabel_eq {key : TypeKey} {v : ImageVersion} (of : VersionOf key v)
    (label : String) :
    v.hasLabel (.text label) = .ok (isLabelled (.text label) v) := by
  obtain ⟨answer, same⟩ := of.hasLabel_text label
  rw [isLabelled, same]

/-- A new version takes the place of those with its label, at the end. -/
theorem VersionsOf.add {key : TypeKey} {versions others : List ImageVersion}
    (of : VersionsOf key versions) {v : ImageVersion} (new : VersionOf key v)
    (kept : Fallible.filter (fun u => (!·) <$> u.hasLabel v.version) versions = .ok others) :
    VersionsOf key (others ++ [v]) := by
  obtain ⟨label, is_text⟩ := new.labelled
  rw [is_text] at kept
  have tests : ∀ u ∈ versions, (!·) <$> u.hasLabel (.text label) =
      .ok (!isLabelled (.text label) u) := by
    intro u member
    rw [(of.each u member).hasLabel_eq label]
    rfl
  -- so the others are those whose label differs from the new one
  rw [Fallible.filter_eq_ok tests] at kept
  cases kept
  constructor
  · intro u member
    rcases List.mem_append.mp member with old | last
    · exact of.each u (List.mem_filter.mp old).1
    · obtain rfl := List.mem_singleton.mp last
      exact new
  · rw [List.pairwise_append]
    refine ⟨of.distinct.filter _, List.pairwise_singleton _ _, ?_⟩
    intro u old w last
    obtain rfl := List.mem_singleton.mp last
    obtain ⟨member, differs⟩ := List.mem_filter.mp old
    rw [is_text, (of.each u member).hasLabel_eq label]
    simpa using differs

/-- A version whose type and label stay can be changed at its place. -/
theorem VersionsOf.replace {key : TypeKey} {before rest : List ImageVersion}
    {v changed : ImageVersion} (of : VersionsOf key (before ++ v :: rest))
    (same_type : changed.imageType = v.imageType) (same_label : changed.version = v.version) :
    VersionsOf key (before ++ changed :: rest) := by
  have old : VersionOf key v := of.each v (by simp)
  constructor
  · intro u member
    rcases List.mem_append.mp member with first | second
    · exact of.each u (List.mem_append_left _ first)
    · rcases List.mem_cons.mp second with rfl | later
      · refine ⟨?_, by rw [same_label]; exact old.labelled⟩
        rw [ImageVersion.key, same_type]
        exact old.keyed
      · exact of.each u (List.mem_append_right _ (List.mem_cons_of_mem _ later))
  · have distinct := of.distinct
    rw [List.pairwise_append, List.pairwise_cons] at distinct ⊢
    obtain ⟨first, ⟨here, second⟩, across⟩ := distinct
    refine ⟨first, ⟨?_, second⟩, ?_⟩
    · intro u member
      rw [hasLabel_congr same_label]
      exact here u member
    · intro u early w late
      rcases List.mem_cons.mp late with rfl | late
      · rw [same_label]
        exact across u early v List.mem_cons_self
      · exact across u early w (List.mem_cons_of_mem _ late)

/-! ## Well kept catalogs -/

/-- The entry names a version by a text and has an integer percentage. -/
structure EntryKept (entry : PlanEntry) : Prop where
  whole : entry.IsWhole
  labelled : ∃ label, entry.version = .text label

/-- The fields by which a rule is applied are texts. -/
structure RuleKept (rule : RampRule) : Prop where
  pattern : ∃ pattern, rule.flowPattern = .text pattern
  imageType : ∃ name, rule.imageType = .text name
  version : ∃ label, rule.version = .text label

/-- Whatever the catalog holds lies under its own key and can be used. -/
structure WellKept (c : Catalog) : Prop where
  types : ∀ key t, c.types.find? key = some t → ∃ name, t.name = .text name ∧ .ofName name = key
  versions : ∀ key, VersionsOf key (c.versionsOf key)
  plans : ∀ key plan, c.plans.find? key = some plan → plan ≠ [] ∧ ∀ entry ∈ plan, EntryKept entry
  rules : ∀ rule ∈ c.rules, RuleKept rule

theorem wellKept_empty : WellKept empty where
  types := by
    intro key t found
    cases found
  versions := VersionsOf.nil
  plans := by
    intro key plan found
    cases found
  rules := by
    intro rule member
    cases member

theorem versionsOf_put (c : Catalog) (types : OrderedMap TypeKey ImageType) (key k : TypeKey)
    (versions : List ImageVersion) :
    versionsOf { c with types := types, versions := c.versions.put key versions } k =
      if k = key then versions else c.versionsOf k := by
  rw [versionsOf, OrderedMap.find?_put]
  split <;> rfl

theorem find?_putPlan (c : Catalog) (key k : TypeKey) (plan : Plan) :
    (c.putPlan key plan).plans.find? k =
      if k = key then if plan.isEmpty then none else some plan else c.plans.find? k := by
  rw [putPlan]
  dsimp only
  by_cases empty : plan.isEmpty = true
  · rw [if_pos empty, if_pos empty, OrderedMap.find?_erase]
  · rw [if_neg empty, if_neg empty, OrderedMap.find?_put]

theorem types_put {types : OrderedMap TypeKey ImageType}
    (kept : ∀ key t, types.find? key = some t → ∃ name, t.name = .text name ∧ .ofName name = key)
    {name : String} {new : ImageType} (named : new.name = .text name) :
    ∀ key t, (types.put (.ofName name) new).find? key = some t →
      ∃ name, t.name = .text name ∧ .ofName name = key := by
  intro key t found
  rw [OrderedMap.find?_put] at found
  split at found
  · rename_i here
    cases found
    exact ⟨name, named, here.symm⟩
  · exact kept key t found

theorem WellKept.addType {c changed : Catalog} (kept : c.WellKept) {name : String}
    {description : Datum} (h : Change.applyTo c (.addType name description) = .ok changed) :
    changed.WellKept := by
  cases h
  refine ⟨types_put kept.types rfl, ?_, kept.plans, kept.rules⟩
  intro key
  rw [versionsOf_put]
  split
  · rename_i here
    rw [here]
    exact kept.versions _
  · exact kept.versions key

theorem WellKept.addVersion {c changed : Catalog} (kept : c.WellKept) {imageType version : String}
    {path state releaseTag : Datum}
    (h : Change.applyTo c (.addVersion imageType version path state releaseTag) = .ok changed) :
    changed.WellKept := by
  obtain ⟨read, others, -, filtered, rfl⟩ := applied_addVersion h
  refine ⟨?_, ?_, kept.plans, kept.rules⟩
  · dsimp only
    split
    · exact kept.types
    · exact types_put kept.types rfl
  · intro key
    rw [versionsOf_put]
    split
    · rename_i here
      rw [here]
      exact (kept.versions _).add ⟨rfl, version, rfl⟩ filtered
    · exact kept.versions key

theorem WellKept.setState {c changed : Catalog} (kept : c.WellKept) {imageType version : String}
    {state : Datum} (h : Change.applyTo c (.setState imageType version state) = .ok changed) :
    changed.WellKept := by
  obtain ⟨before, v, rest, read, whole, -, -, -, rfl⟩ := applied_setState h
  refine ⟨kept.types, ?_, kept.plans, kept.rules⟩
  intro key
  rw [versionsOf_put]
  split
  · rename_i here
    have own := kept.versions (.ofName imageType)
    rw [whole] at own
    rw [here]
    exact own.replace rfl rfl
  · exact kept.versions key

theorem WellKept.setPlan {c changed : Catalog} (kept : c.WellKept) {imageType : String}
    {entries : List (String × Datum)}
    (h : Change.applyTo c (.setPlan imageType entries) = .ok changed) : changed.WellKept := by
  obtain ⟨plan, read, rfl⟩ := applied_setPlan h
  have entries_kept : ∀ entry ∈ plan, EntryKept entry := by
    intro entry member
    obtain ⟨⟨label, percentage⟩, -, made⟩ := Fallible.mem_of_mapM read member
    obtain ⟨n, -, same⟩ := Fallible.bind_eq_ok_iff.mp made
    cases same
    exact ⟨rfl, label, rfl⟩
  refine ⟨kept.types, kept.versions, ?_, kept.rules⟩
  intro key held found
  rw [find?_putPlan] at found
  split at found
  · split at found
    · cases found
    · rename_i filled
      cases found
      exact ⟨by simpa using filled, entries_kept⟩
  · exact kept.plans key held found

theorem WellKept.addRule {c changed : Catalog} (kept : c.WellKept) {name : Datum}
    {flowPattern imageType version : String}
    (h : Change.applyTo c (.addRule name flowPattern imageType version) = .ok changed) :
    changed.WellKept := by
  cases h
  refine ⟨kept.types, kept.versions, kept.plans, ?_⟩
  intro rule member
  rcases List.mem_append.mp member with old | last
  · exact kept.rules rule old
  · obtain rfl := List.mem_singleton.mp last
    exact ⟨⟨flowPattern, rfl⟩, ⟨imageType, rfl⟩, ⟨version, rfl⟩⟩

theorem WellKept.after {c : Catalog} (kept : c.WellKept) (change : Change) :
    (c.after change).WellKept := by
  rw [Catalog.after]
  cases applied : change.applyTo c with
  | error fault => exact kept
  | ok changed =>
    cases change with
    | addType => exact kept.addType applied
    | addVersion => exact kept.addVersion applied
    | setState => exact kept.setState applied
    | setPlan => exact kept.setPlan applied
    | addRule => exact kept.addRule applied

/-- Every reachable catalog is well kept. -/
theorem Reachable.wellKept {c : Catalog} (reached : c.Reachable) : c.WellKept := by
  induction reached with
  | empty => exact wellKept_empty
  | after reached change ih => exact ih.after change

theorem wellKept_afterAll (changes : List Change) : (afterAll changes).WellKept :=
  (reachable_iff.mpr ⟨changes, rfl⟩).wellKept

end Rollout.Catalog

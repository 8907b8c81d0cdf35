import Rollout.Proofs.Catalog.Answers

/-!
# Catalogs and their logs

The **log** of a sequence of changes lists those that were not refused (`performed`). What a catalog
holds can be read off its log without following the catalog itself: of every type the versions that
were added and not added again later, each in the state that it was given last (`logged`), the types
in the order in which they came, and of every type the plan that it was given last (`planned`).

The main statement, `refinesLog_performed`, says that after any sequence of changes the catalog
holds what the log tells, and that its answers are those of the log.
-/

namespace Rollout.Catalog

/-! ## Logs -/

/-- The changes that are not refused when they are made one after the other. -/
def performed (c : Catalog) : List Change → List Change
  | [] => []
  | change :: rest =>
    match change.applyTo c with
    | .ok changed => change :: performed changed rest
    | .error _ => performed c rest

/-- The type that a change registers if it is new. -/
def Change.registered? : Change → Option TypeKey
  | addType name _ => some (.ofName name)
  | addVersion imageType .. => some (.ofName imageType)
  | _ => none

/-- The version that a change adds to the type. -/
def Change.added? (key : TypeKey) : Change → Option ImageVersion
  | addVersion imageType version path state releaseTag =>
    if TypeKey.ofName imageType = key then
      (State.ofDatum state).toOption.map fun state =>
        versionOf imageType version path state releaseTag
    else none
  | _ => none

/-- The state that a change gives to a version of the type. -/
def Change.given? (key : TypeKey) (v : ImageVersion) : Change → Option State
  | setState imageType version state =>
    if TypeKey.ofName imageType = key ∧ isLabelled (.text version) v = true then
      (State.ofDatum state).toOption
    else none
  | _ => none

/-- The change adds the version anew: one of the same type and with the same label. -/
def Change.readds (key : TypeKey) (v : ImageVersion) (change : Change) : Bool :=
  match change.added? key with
  | some new => isLabelled new.version v
  | none => false

/-- The plan that a change gives to the type, which may be empty. -/
def Change.planned? (key : TypeKey) : Change → Option Plan
  | setPlan imageType entries =>
    if TypeKey.ofName imageType = key then (entriesPlan entries).toOption else none
  | _ => none

/-- The rule that a change adds. -/
def Change.rule? : Change → Option RampRule
  | addRule name flowPattern imageType version =>
    some { name := name, flowPattern := .text flowPattern, imageType := .text imageType
           version := .text version }
  | _ => none

/-! ## What a log tells -/

/-- The version in the state that it was given last, or in its own. -/
def settled (key : TypeKey) (v : ImageVersion) (later : List Change) : ImageVersion :=
  { v with state := (later.filterMap (Change.given? key v)).getLast?.getD v.state }

/-- The versions of the type: those that were added and not added anew later, in the order in which
they were added. -/
def logged (key : TypeKey) : List Change → List ImageVersion
  | [] => []
  | change :: later =>
    match change.added? key with
    | some v =>
      if later.any (Change.readds key v) then logged key later
      else settled key v later :: logged key later
    | none => logged key later

/-- The last version of the type that passes the test. -/
def lastLogged (test : ImageVersion → Bool) (log : List Change) (key : TypeKey) :
    Option ImageVersion :=
  ((logged key log).filter test).getLast?

/-- The version of the type under the label. -/
def loggedUnder (log : List Change) (key : TypeKey) (label : String) : Option ImageVersion :=
  (logged key log).find? (isLabelled (.text label))

/-- The plan that the type was given last, if it has entries. -/
def planned (key : TypeKey) (log : List Change) : Option Plan :=
  (log.filterMap (Change.planned? key)).getLast?.filter (!·.isEmpty)

/-- The catalog holds what the log tells. -/
structure Tells (log : List Change) (c : Catalog) : Prop where
  versions : ∀ key, c.versionsOf key = logged key log
  types : c.types.keys = (log.filterMap Change.registered?).eraseDups
  plans : ∀ key, c.plans.find? key = planned key log
  rules : c.rules = log.filterMap Change.rule?

/-! ## Logs that grow -/

section Growing

variable {key : TypeKey} {change : Change} (log : List Change)

/-- The version, changed in its state when the change gives it one. -/
def restated (key : TypeKey) (change : Change) (v : ImageVersion) : ImageVersion :=
  { v with state := (change.given? key v).getD v.state }

theorem settled_concat (v : ImageVersion) :
    settled key v (log ++ [change]) = restated key change (settled key v log) := by
  -- whether a change concerns a version hangs on its label, which no change touches
  have same : change.given? key (settled key v log) = change.given? key v := by
    cases change <;> rfl
  rw [restated, same, settled, settled, List.filterMap_append]
  cases given : change.given? key v <;> simp [List.filterMap, given]

/-- A version that is added takes the place of those with its label, at the end. -/
theorem logged_concat_added {v : ImageVersion} (adds : change.added? key = some v) :
    logged key (log ++ [change]) =
      (logged key log).filter (fun u => !isLabelled v.version u) ++ [v] := by
  have readds : ∀ u, change.readds key u = isLabelled v.version u := by
    intro u
    rw [Change.readds, adds]
  have unstated : ∀ u, restated key change u = u := by
    intro u
    cases change with
    | addVersion => rfl
    | _ => cases adds
  induction log with
  | nil => simp [logged, adds, settled]
  | cons first later ih =>
    rw [List.cons_append, logged, logged]
    cases added : first.added? key with
    | none => exact ih
    | some u =>
      dsimp only
      rw [List.any_append, settled_concat, unstated]
      have same : isLabelled v.version (settled key u later) = isLabelled v.version u := rfl
      -- `u` may be gone by a later change, or go by this one
      by_cases again : later.any (Change.readds key u) = true
      · simp [again, ih]
      · by_cases here : isLabelled v.version u = true
        · simp [again, readds, here, same, ih]
        · simp [again, readds, here, same, ih]

/-- A change that adds no version keeps all of them, and gives them their new states. -/
theorem logged_concat_kept (adds : change.added? key = none) :
    logged key (log ++ [change]) = (logged key log).map (restated key change) := by
  have readds : ∀ u, change.readds key u = false := by
    intro u
    rw [Change.readds, adds]
  induction log with
  | nil => simp [logged, adds]
  | cons first later ih =>
    rw [List.cons_append, logged, logged]
    cases added : first.added? key with
    | none => exact ih
    | some u =>
      dsimp only
      rw [List.any_append, settled_concat]
      by_cases again : later.any (Change.readds key u) = true
      · simp [again, ih]
      · simp [again, readds, ih]

theorem planned_concat :
    planned key (log ++ [change]) =
      match change.planned? key with
      | some plan => if plan.isEmpty then none else some plan
      | none => planned key log := by
  rw [planned, planned, List.filterMap_append, List.getLast?_append]
  cases given : change.planned? key with
  | none => simp [given]
  | some plan => cases plan <;> simp [given, Option.filter]

end Growing

/-! ## What one change makes of the versions -/

variable {c changed : Catalog} {key : TypeKey}

theorem isLabelled_iff {label : Datum} {v : ImageVersion} :
    isLabelled label v = true ↔ v.hasLabel label = .ok true := by
  rw [isLabelled]
  cases v.hasLabel label with
  | error fault => simp
  | ok answer => simp

/-- No two versions of a type have one label. -/
theorem VersionsOf.single {versions : List ImageVersion} (of : VersionsOf key versions)
    (label : Datum) :
    versions.Pairwise fun u v => ¬ (isLabelled label u = true ∧ isLabelled label v = true) := by
  refine of.distinct.imp ?_
  rintro u v differ ⟨left, right⟩
  have same : u.hasLabel v.version = .ok true :=
    sameLabel_trans (isLabelled_iff.mp left) (sameLabel_symm (isLabelled_iff.mp right))
  rw [differ] at same
  cases same

/-- What passes a test that no two items pass is the first one found. -/
theorem filter_eq_toList_find? {α : Type} {p : α → Bool} {items : List α}
    (single : items.Pairwise fun a b => ¬ (p a = true ∧ p b = true)) :
    items.filter p = (items.find? p).toList := by
  induction items with
  | nil => rfl
  | cons a rest ih =>
    rw [List.pairwise_cons] at single
    by_cases here : p a = true
    · have none_later : rest.filter p = [] :=
        List.filter_eq_nil_iff.mpr fun b later there => single.1 b later ⟨here, there⟩
      rw [List.filter_cons_of_pos here, List.find?_cons_of_pos here, none_later]
      rfl
    · rw [List.filter_cons_of_neg here, List.find?_cons_of_neg here, ih single.2]

/-- A type whose versions are put anew as they are told. -/
theorem versionsOf_put_eq {types : OrderedMap TypeKey ImageType} {own : TypeKey}
    {versions told : List ImageVersion}
    (here : own = key → versions = told) (elsewhere : own ≠ key → c.versionsOf key = told) :
    versionsOf { c with types := types, versions := c.versions.put own versions } key = told := by
  rw [versionsOf_put]
  split
  · rename_i same
    exact here same.symm
  · rename_i other
    exact elsewhere (Ne.symm other)

/-- Versions that get no state from the change stay as they are. -/
theorem map_restated {change : Change} {versions : List ImageVersion}
    (nothing : ∀ v ∈ versions, change.given? key v = none) :
    versions.map (restated key change) = versions := by
  have same : ∀ v ∈ versions, restated key change v = id v := by
    intro v member
    rw [restated, nothing v member]
    rfl
  rw [List.map_congr_left same, List.map_id]

/-- The change of a state concerns the version with the label only, which no other one has. -/
theorem map_restated_setState {imageType version : String} {state : Datum} {read : State}
    {before rest : List ImageVersion} {v : ImageVersion}
    (of : VersionsOf (.ofName imageType) (before ++ v :: rest))
    (hit : v.hasLabel (.text version) = .ok true) (reading : State.ofDatum state = .ok read) :
    (before ++ v :: rest).map
        (restated (.ofName imageType) (.setState imageType version state)) =
      before ++ { v with state := read } :: rest := by
  have labelled := isLabelled_iff.mpr hit
  have single := of.single (.text version)
  rw [List.pairwise_append, List.pairwise_cons] at single
  obtain ⟨-, ⟨later, -⟩, across⟩ := single
  have nothing : ∀ u, ¬ isLabelled (.text version) u = true →
      Change.given? (.ofName imageType) u (.setState imageType version state) = none := by
    intro u differs
    rw [Change.given?, if_neg fun both => differs both.2]
  have here : restated (.ofName imageType) (.setState imageType version state) v =
      { v with state := read } := by
    rw [restated, Change.given?, if_pos ⟨rfl, labelled⟩, reading]
    rfl
  rw [List.map_append, List.map_cons, here, map_restated, map_restated]
  · exact fun u member => nothing u fun also => later u member ⟨labelled, also⟩
  · exact fun u member => nothing u fun also =>
      across u member v List.mem_cons_self ⟨also, labelled⟩

/-- After a change the type has the version that it adds at the end, in place of one with the same
label; without such a version it has those from before, in their new states. -/
theorem versionsOf_applied (kept : c.WellKept) {change : Change}
    (applied : change.applyTo c = .ok changed) :
    changed.versionsOf key =
      match change.added? key with
      | some v => (c.versionsOf key).filter (fun u => !isLabelled v.version u) ++ [v]
      | none => (c.versionsOf key).map (restated key change) := by
  cases change with
  | addType name description =>
    cases applied
    dsimp only [Change.added?]
    rw [map_restated fun _ _ => rfl]
    exact versionsOf_put_eq (fun same => by rw [same]) fun _ => rfl
  | addVersion imageType version path state releaseTag =>
    obtain ⟨read, others, reading, filtered, rfl⟩ := applied_addVersion applied
    -- the labels that a catalog holds are texts, so comparing them does not fail
    have tests : ∀ u ∈ c.versionsOf (.ofName imageType),
        (!·) <$> u.hasLabel (.text version) = .ok (!isLabelled (.text version) u) := by
      intro u member
      rw [((kept.versions _).each u member).hasLabel_eq version]
      rfl
    rw [Fallible.filter_eq_ok tests] at filtered
    cases filtered
    refine versionsOf_put_eq ?_ ?_
    · rintro rfl
      rw [Change.added?, if_pos rfl, reading]
      rfl
    · intro other
      rw [Change.added?, if_neg other, map_restated fun _ _ => rfl]
  | setState imageType version state =>
    obtain ⟨before, v, rest, read, whole, -, hit, reading, rfl⟩ := applied_setState applied
    dsimp only [Change.added?]
    refine versionsOf_put_eq ?_ ?_
    · rintro rfl
      have of := kept.versions (.ofName imageType)
      rw [whole] at of ⊢
      exact (map_restated_setState of hit reading).symm
    · intro other
      rw [map_restated]
      intro v _
      rw [Change.given?, if_neg fun both => other both.1]
  | setPlan imageType entries =>
    obtain ⟨plan, -, rfl⟩ := applied_setPlan applied
    dsimp only [Change.added?]
    rw [map_restated fun _ _ => rfl]
    rfl
  | addRule =>
    cases applied
    dsimp only [Change.added?]
    rw [map_restated fun _ _ => rfl]
    rfl

/-! ## What one change makes of types, plans and rules -/

theorem eraseDups_concat {α : Type} [DecidableEq α] (items : List α) (a : α) :
    (items ++ [a]).eraseDups =
      if a ∈ items then items.eraseDups else items.eraseDups ++ [a] := by
  rw [List.eraseDups_append]
  by_cases old : a ∈ items
  · simp [old, List.removeAll]
  · simp [old, List.removeAll, List.eraseDups_cons]

theorem keys_types_applied {change : Change} (applied : change.applyTo c = .ok changed) :
    changed.types.keys =
      match change.registered? with
      | some own => if own ∈ c.types.keys then c.types.keys else c.types.keys ++ [own]
      | none => c.types.keys := by
  cases change with
  | addType name description =>
    cases applied
    exact OrderedMap.keys_put _ _ _
  | addVersion imageType version path state releaseTag =>
    obtain ⟨read, others, -, -, rfl⟩ := applied_addVersion applied
    dsimp only [Change.registered?]
    by_cases old : TypeKey.ofName imageType ∈ c.types.keys
    · rw [if_pos ((c.types.contains_iff _).mpr old), if_pos old]
    · rw [if_neg fun known => old ((c.types.contains_iff _).mp known), if_neg old,
        OrderedMap.keys_put, if_neg old]
  | setState =>
    obtain ⟨before, v, rest, read, -, -, -, -, rfl⟩ := applied_setState applied
    rfl
  | setPlan =>
    obtain ⟨plan, -, rfl⟩ := applied_setPlan applied
    rfl
  | addRule =>
    cases applied
    rfl

theorem find?_plans_applied {change : Change} (applied : change.applyTo c = .ok changed) :
    changed.plans.find? key =
      match change.planned? key with
      | some plan => if plan.isEmpty then none else some plan
      | none => c.plans.find? key := by
  cases change with
  | addType =>
    cases applied
    rfl
  | addVersion =>
    obtain ⟨read, others, -, -, rfl⟩ := applied_addVersion applied
    rfl
  | setState =>
    obtain ⟨before, v, rest, read, -, -, -, -, rfl⟩ := applied_setState applied
    rfl
  | setPlan imageType entries =>
    obtain ⟨plan, read, rfl⟩ := applied_setPlan applied
    rw [find?_putPlan, Change.planned?, read]
    by_cases same : TypeKey.ofName imageType = key
    · rw [if_pos same.symm, if_pos same]
      rfl
    · rw [if_neg (Ne.symm same), if_neg same]
  | addRule =>
    cases applied
    rfl

theorem rules_applied {change : Change} (applied : change.applyTo c = .ok changed) :
    changed.rules = c.rules ++ change.rule?.toList := by
  cases change with
  | addType =>
    cases applied
    exact (List.append_nil _).symm
  | addVersion =>
    obtain ⟨read, others, -, -, rfl⟩ := applied_addVersion applied
    exact (List.append_nil _).symm
  | setState =>
    obtain ⟨before, v, rest, read, -, -, -, -, rfl⟩ := applied_setState applied
    exact (List.append_nil _).symm
  | setPlan =>
    obtain ⟨plan, -, rfl⟩ := applied_setPlan applied
    exact (List.append_nil _).symm
  | addRule =>
    cases applied
    rfl

/-! ## Catalogs that hold what their logs tell -/

theorem tells_empty : Tells [] empty where
  versions := fun _ => rfl
  types := rfl
  plans := fun _ => rfl
  rules := rfl

/-- A change that is not refused goes to the end of the log. -/
theorem Tells.applied {log : List Change} (tells : Tells log c) (kept : c.WellKept)
    {change : Change} (applied : change.applyTo c = .ok changed) :
    Tells (log ++ [change]) changed where
  versions := by
    intro key
    rw [versionsOf_applied kept applied, tells.versions]
    cases adds : change.added? key with
    | some v => exact (logged_concat_added log adds).symm
    | none => exact (logged_concat_kept log adds).symm
  types := by
    rw [keys_types_applied applied, tells.types, List.filterMap_append]
    cases registers : change.registered? with
    | none => simp [registers]
    | some own =>
      have last : [change].filterMap Change.registered? = [own] := by simp [registers]
      rw [last, eraseDups_concat]
      simp only [List.mem_eraseDups]
  plans := by
    intro key
    rw [find?_plans_applied applied, tells.plans]
    exact (planned_concat log).symm
  rules := by
    rw [rules_applied applied, tells.rules, List.filterMap_append]
    cases rules : change.rule? <;> simp [rules]

/-- The log of further changes goes to the end of the log so far. -/
theorem Tells.foldl_after {changes : List Change} {log : List Change} (tells : Tells log c)
    (kept : c.WellKept) : Tells (log ++ performed c changes) (changes.foldl Catalog.after c) := by
  induction changes generalizing c log with
  | nil =>
    rw [performed, List.append_nil]
    exact tells
  | cons change rest ih =>
    rw [List.foldl_cons, performed]
    have onward := kept.after change
    rw [Catalog.after] at onward ⊢
    cases applied : change.applyTo c with
    | error fault => exact ih tells kept
    | ok changed =>
      rw [applied] at onward
      -- the catalog after the change goes with the log so far and the change
      have later := ih (tells.applied kept applied) onward
      rw [List.append_assoc] at later
      exact later

/-- Every catalog that comes about by changes holds what their log tells. -/
theorem tells_performed (changes : List Change) :
    Tells (performed empty changes) (afterAll changes) :=
  tells_empty.foldl_after wellKept_empty

/-! ## What a log holds under a label -/

/-- Two versions that share a label share all labels. -/
theorem isLabelled_trans {label : Datum} {u v : ImageVersion}
    (same : isLabelled u.version v = true) (labelled : isLabelled label v = true) :
    isLabelled label u = true := by
  have other := sameLabel_symm (isLabelled_iff.mp same)
  exact isLabelled_iff.mpr (sameLabel_trans other (isLabelled_iff.mp labelled))

/-- A label that was ever added is kept: a version goes only when another one with its label is
added. -/
theorem exists_logged_iff {label : Datum} {log : List Change} :
    (∃ v ∈ logged key log, isLabelled label v = true) ↔
      ∃ change ∈ log, ∃ v, change.added? key = some v ∧ isLabelled label v = true := by
  induction log with
  | nil => simp [logged]
  | cons change later ih =>
    simp only [List.mem_cons, exists_eq_or_imp, ← ih]
    rw [logged]
    cases adds : change.added? key with
    | none => simp
    | some v =>
      dsimp only
      by_cases again : later.any (Change.readds key v) = true
      · rw [if_pos again]
        constructor
        · exact .inr
        · rintro (⟨u, same, labelled⟩ | held)
          · -- the later version with the same label stands for this one
            cases same
            rw [ih]
            obtain ⟨other, member, readds⟩ := List.any_eq_true.mp again
            rw [Change.readds] at readds
            cases adds' : other.added? key with
            | none =>
              rw [adds'] at readds
              cases readds
            | some w =>
              rw [adds'] at readds
              exact ⟨other, member, w, adds', isLabelled_trans readds labelled⟩
          · exact held
      · have same : isLabelled label (settled key v later) = isLabelled label v := rfl
        simp [again, same]

/-- A type has versions as soon as one was added. -/
theorem logged_eq_nil_iff {log : List Change} :
    logged key log = [] ↔ ∀ change ∈ log, change.added? key = none := by
  induction log with
  | nil => simp [logged]
  | cons change later ih =>
    rw [List.forall_mem_cons, logged]
    cases adds : change.added? key with
    | none => simp [ih]
    | some v =>
      dsimp only
      split
      · rename_i again
        -- what is added anew is added later
        obtain ⟨other, member, readds⟩ := List.any_eq_true.mp again
        rw [ih]
        constructor
        · intro nothing
          rw [Change.readds, nothing other member] at readds
          cases readds
        · exact fun nothing => nomatch nothing.1
      · exact ⟨nofun, fun nothing => nomatch nothing.1⟩

/-! ## The catalog and its log -/

/-- The catalog holds what the log tells of each type, and its answers are those of the log. -/
structure RefinesLog (log : List Change) (c : Catalog) : Prop where
  /-- The versions of a type are those last added under their labels, in that order. -/
  versions : ∀ key, c.versionsOf key = logged key log
  /-- No two of them have one label. -/
  distinct : ∀ key, (c.versionsOf key).Pairwise fun u v => foldLabel u.version ≠ foldLabel v.version
  /-- The labels are those that were ever added. -/
  named : ∀ (key : TypeKey) (label : String),
    (∃ v ∈ c.versionsOf key, v.hasLabel (.text label) = .ok true) ↔
      ∃ change ∈ log, ∃ v, change.added? key = some v ∧ v.hasLabel (.text label) = .ok true
  /-- A version lies under the key of its own type. -/
  keyed : ∀ key, ∀ v ∈ c.versionsOf key, v.key = .ok key
  /-- The types are those that were ever registered, in the order in which they came. -/
  types : c.types.values.map ImageType.key =
    (log.filterMap Change.registered?).eraseDups.map .ok
  /-- A type has the plan that it was given last, if that has entries. -/
  plans : ∀ key, c.plans.find? key = planned key log
  rules : c.rules = log.filterMap Change.rule?
  found : ∀ (key : TypeKey) (label : String),
    c.findVersions key (.text label) = .ok (loggedUnder log key label).toList
  /-- Each type is asked for once, in ascending order, whatever the spellings. -/
  active : ∀ names, c.activeVersions names = (NameSet.normalized names.toList).toList.filterMap
    fun name => lastLogged (fun v => v.state = .active) log (.ofName name)
  latest : ∀ names, c.latestVersions names = (NameSet.normalized names.toList).toList.filterMap
    fun name => lastLogged (fun _ => true) log (.ofName name)
  /-- A version that is not held is invalid. -/
  invalid : ∀ (key : TypeKey) (label : String), c.isInvalid key (.text label) =
    .ok ((loggedUnder log key label).all fun v => v.state.isInvalid)
  allPlans : ∀ name answer, c.allPlans.find? name = some answer ↔
    ∃ key plan, name = storedName key ∧ answer = some plan ∧ planned key log = some plan
  plansFor : ∀ names name answer, (c.plansFor names).find? name = some answer ↔
    ∃ key plan, name = storedName key ∧ answer = some plan ∧ planned key log = some plan ∧
      key.text ∈ NameSet.normalized names.toList
  rulesFor : ∀ (key : TypeKey) (label : String), c.rulesFor key (.text label) =
    .ok ((log.filterMap Change.rule?).filter (isAbout key (.text label)))

theorem VersionsOf.distinct_labels {versions : List ImageVersion} (of : VersionsOf key versions) :
    versions.Pairwise fun u v => foldLabel u.version ≠ foldLabel v.version := by
  refine of.distinct.imp_of_mem ?_
  intro u v member _ differ same
  obtain ⟨label, is_text⟩ := (of.each u member).labelled
  have folded : foldLabel u.version = .ok (String.ofList (Text.lower label.toList)) := by
    rw [is_text, foldLabel_text]
  have labelled : u.hasLabel v.version = .ok true :=
    sameLabel_eq_true_iff.mpr ⟨_, folded, same.symm.trans folded⟩
  rw [differ] at labelled
  cases labelled

theorem WellKept.keys_types (kept : c.WellKept) :
    c.types.values.map ImageType.key = c.types.keys.map .ok := by
  rw [OrderedMap.values, OrderedMap.keys, List.map_map, List.map_map]
  refine List.map_congr_left fun entry member => ?_
  obtain ⟨name, is_text, own⟩ :=
    kept.types entry.1 entry.2 ((c.types.find?_eq_some_iff _ _).mpr member)
  simp [ImageType.key, is_text, own]

theorem find?_bookOf {plans : OrderedMap TypeKey Plan} {name : Datum} {answer : Option Plan} :
    (bookOf plans).find? name = some answer ↔
      ∃ key plan, name = storedName key ∧ answer = some plan ∧ plans.find? key = some plan := by
  rw [OrderedMap.find?_eq_some_iff, bookOf, OrderedMap.mapEntries, List.mem_map]
  constructor
  · rintro ⟨⟨key, plan⟩, member, ⟨⟩⟩
    exact ⟨key, plan, rfl, rfl, (plans.find?_eq_some_iff key plan).mpr member⟩
  · rintro ⟨key, plan, rfl, rfl, found⟩
    exact ⟨(key, plan), (plans.find?_eq_some_iff key plan).mp found, rfl⟩

/-- **A catalog is what its log tells.** Whatever changes were made, refused ones among them, the
catalog holds and answers what can be read off the log of those that were not refused. -/
theorem refinesLog_performed (changes : List Change) :
    RefinesLog (performed empty changes) (afterAll changes) := by
  have tells := tells_performed changes
  have kept := wellKept_afterAll changes
  have found : ∀ (key : TypeKey) (label : String),
      (afterAll changes).findVersions key (.text label) =
        .ok (loggedUnder (performed empty changes) key label).toList := by
    intro key label
    rw [findVersions_eq kept, filter_eq_toList_find? ((kept.versions key).single _),
      tells.versions]
    rfl
  refine
    { versions := tells.versions
      distinct := fun key => (kept.versions key).distinct_labels
      named := ?named
      keyed := fun key v member => ((kept.versions key).each v member).keyed
      types := by rw [kept.keys_types, tells.types]
      plans := tells.plans
      rules := tells.rules
      found := found
      active := ?active
      latest := ?latest
      invalid := ?invalid
      allPlans := ?allPlans
      plansFor := ?plansFor
      rulesFor := ?rulesFor }
  case named =>
    intro key label
    rw [tells.versions]
    simp only [← isLabelled_iff]
    exact exists_logged_iff
  case active =>
    intro names
    simp only [activeVersions, lastVersions, tells.versions, lastLogged]
  case latest =>
    intro names
    simp only [latestVersions, lastVersions, tells.versions, lastLogged]
  case invalid =>
    intro key label
    rw [isInvalid, found]
    cases loggedUnder (performed empty changes) key label <;> rfl
  case allPlans =>
    intro name answer
    rw [Catalog.allPlans, find?_bookOf]
    simp only [tells.plans]
  case plansFor =>
    intro names name answer
    rw [Catalog.plansFor, find?_bookOf]
    simp only [OrderedMap.find?_filterKeys, NameSet.contains_iff, tells.plans,
      Option.ite_none_right_eq_some]
    simp only [and_comm]
  case rulesFor =>
    intro key label
    rw [rulesFor_eq kept, tells.rules]

end Rollout.Catalog

import Rollout.Proofs.Fallible
import Rollout.Proofs.Image.TypeKey
import Rollout.Proofs.Lookup.Yields
import Rollout.Proofs.OrderedMap
import Rollout.Resolution.Requests

/-!
# How decisions are taken

Every tier takes its decisions one after the other (`decideAll`), and the first decision of a type
stands (`find?_decideAll`). While the tiers run, the wanted names are **partitioned** into those
that are decided and those that are unresolved (`Partitions`), whatever the sources answer.

A tier that looks versions up takes the first one of each unresolved type
(`find?_of_firstByKey`).
-/

namespace Rollout

namespace Resolution

/-! ## Decisions in sequence -/

/-- Takes decisions one after the other. -/
def decideAll (r : Resolution) (decisions : List (TypeKey × Decision)) : Resolution :=
  decisions.foldl (fun r decision => r.decide decision.1 decision.2) r

theorem find?_decide (r : Resolution) (key k : TypeKey) (decision : Decision) :
    (r.decide key decision).decisions.find? k =
      (r.decisions.find? k).or (if k = key then some decision else none) := by
  rw [decide, tryDecide]
  by_cases decided : r.decisions.contains key = true
  · rw [if_pos decided]
    by_cases same : k = key
    · rw [same]
      obtain ⟨old, found⟩ := Option.isSome_iff_exists.mp decided
      rw [found]
      rfl
    · rw [if_neg same, Option.or_none]
  · rw [if_neg decided]
    dsimp only
    rw [OrderedMap.find?_put]
    by_cases same : k = key
    · have absent : r.decisions.find? key = none := by
        simpa [OrderedMap.contains] using decided
      rw [if_pos same, if_pos same, same, absent, Option.none_or]
    · rw [if_neg same, if_neg same, Option.or_none]

theorem find?_decideAll (r : Resolution) (decisions : List (TypeKey × Decision)) (k : TypeKey) :
    (r.decideAll decisions).decisions.find? k =
      (r.decisions.find? k).or (OrderedMap.lookupEntry k decisions) := by
  induction decisions generalizing r with
  | nil => simp [decideAll, OrderedMap.lookupEntry]
  | cons first rest ih =>
    obtain ⟨key, decision⟩ := first
    have tail := ih (r.decide key decision)
    rw [decideAll] at tail ⊢
    rw [List.foldl_cons, tail, find?_decide, Option.or_assoc, OrderedMap.lookupEntry]
    by_cases same : key = k
    · rw [if_pos same, if_pos same.symm, Option.some_or]
    · rw [if_neg same, if_neg (Ne.symm same), Option.none_or]

/-- What holds of the old decisions and of those that are taken holds of all. -/
theorem forall_decideAll {property : TypeKey → Decision → Prop} {r : Resolution}
    {decisions : List (TypeKey × Decision)}
    (old : ∀ key decision, r.decisions.find? key = some decision → property key decision)
    (taken : ∀ decision ∈ decisions, property decision.1 decision.2) :
    ∀ key decision, (r.decideAll decisions).decisions.find? key = some decision →
      property key decision := by
  intro key decision found
  rw [find?_decideAll, Option.or_eq_some_iff] at found
  rcases found with earlier | ⟨-, new⟩
  · exact old key decision earlier
  · exact taken (key, decision) (OrderedMap.mem_of_lookupEntry new)

theorem bucket_decideAll (r : Resolution) (decisions : List (TypeKey × Decision)) :
    (r.decideAll decisions).bucket = r.bucket := by
  induction decisions generalizing r with
  | nil => rfl
  | cons first rest ih =>
    have tail := ih (r.decide first.1 first.2)
    rw [decideAll] at tail ⊢
    rw [List.foldl_cons, tail, decide, tryDecide]
    split <;> rfl

/-! ## Decided and unresolved names -/

/-- Every wanted name is decided or unresolved, and no other name is either. -/
structure Partitions (r : Resolution) (wanted : NameSet) : Prop where
  decided : ∀ key decision, r.decisions.find? key = some decision → key.text ∈ wanted
  unresolved_iff : ∀ name,
    name ∈ r.unresolved ↔ name ∈ wanted ∧ r.decisions.find? (.ofName name) = none

theorem Partitions.unresolved_of_undecided {r : Resolution} {wanted : NameSet}
    (partitions : r.Partitions wanted) {key : TypeKey} (wants : key.text ∈ wanted)
    (undecided : r.decisions.find? key = none) : key.text ∈ r.unresolved := by
  rw [partitions.unresolved_iff, TypeKey.ofName_text]
  exact ⟨wants, undecided⟩

/-- Without an unresolved name every wanted type is decided. -/
theorem Partitions.decided_of_isEmpty {r : Resolution} {wanted : NameSet}
    (partitions : r.Partitions wanted) (nothing : r.unresolved.isEmpty = true) {key : TypeKey}
    (wants : key.text ∈ wanted) : ∃ decision, r.decisions.find? key = some decision := by
  cases decided : r.decisions.find? key with
  | some decision => exact ⟨decision, rfl⟩
  | none =>
    have unresolved := partitions.unresolved_of_undecided wants decided
    exact absurd unresolved (NameSet.not_mem_of_isEmpty nothing _)

theorem partitions_start (wanted : NameSet) (bucket : Datum) :
    Partitions { unresolved := wanted, bucket := bucket } wanted where
  decided := by
    intro key decision found
    cases found
  unresolved_iff := by
    intro name
    exact ⟨fun member => ⟨member, rfl⟩, fun both => both.1⟩

theorem Partitions.decide {r : Resolution} {wanted : NameSet} (partitions : r.Partitions wanted)
    (normalized : wanted.IsNormalized) {key : TypeKey} (member : key.text ∈ wanted)
    (decision : Decision) : (r.decide key decision).Partitions wanted := by
  constructor
  · intro k found_decision found
    rw [find?_decide] at found
    cases old : r.decisions.find? k with
    | some earlier => exact partitions.decided k earlier old
    | none =>
      rw [old, Option.none_or] at found
      split at found
      · rename_i same
        rw [same]
        exact member
      · cases found
  · intro name
    rw [find?_decide, Option.or_eq_none_iff]
    rw [Resolution.decide, tryDecide]
    by_cases decided : r.decisions.contains key = true
    · -- the first decision stands, and an open name is not the one that is decided again
      rw [if_pos decided, partitions.unresolved_iff name]
      constructor
      · rintro ⟨wants, open_name⟩
        refine ⟨wants, open_name, ?_⟩
        rw [if_neg]
        rintro same
        rw [same] at open_name
        rw [OrderedMap.contains, open_name] at decided
        cases decided
      · rintro ⟨wants, open_name, -⟩
        exact ⟨wants, open_name⟩
    · rw [if_neg decided]
      dsimp only
      rw [NameSet.mem_erase, partitions.unresolved_iff name]
      constructor
      · rintro ⟨⟨wants, open_name⟩, other⟩
        refine ⟨wants, open_name, ?_⟩
        rw [if_neg]
        rintro same
        apply other
        rw [← same, normalized.text_ofName wants]
      · rintro ⟨wants, open_name, other⟩
        refine ⟨⟨wants, open_name⟩, ?_⟩
        rintro same
        rw [same, TypeKey.ofName_text, if_pos rfl] at other
        cases other

theorem Partitions.decideAll {r : Resolution} {wanted : NameSet} (partitions : r.Partitions wanted)
    (normalized : wanted.IsNormalized) {decisions : List (TypeKey × Decision)}
    (members : ∀ decision ∈ decisions, decision.1.text ∈ wanted) :
    (r.decideAll decisions).Partitions wanted := by
  induction decisions generalizing r with
  | nil => exact partitions
  | cons first rest ih =>
    rw [Resolution.decideAll, List.foldl_cons]
    refine ih ?_ fun decision member => members decision (List.mem_cons_of_mem _ member)
    exact partitions.decide normalized (members first List.mem_cons_self) first.2

/-! ## The versions of a resolution -/

theorem mem_versionInfos {r : Resolution} {key : TypeKey} {info : VersionInfo} :
    (key, info) ∈ r.versionInfos ↔ ∃ decision version, r.decisions.find? key = some decision ∧
      decision.version = some version ∧ version.info = info := by
  rw [versionInfos, List.mem_filterMap]
  constructor
  · rintro ⟨⟨other, decision⟩, member, made⟩
    obtain ⟨version, chosen, same⟩ := Option.map_eq_some_iff.mp made
    cases same
    exact ⟨decision, version, OrderedMap.mem_sortedBy.mp member, chosen, rfl⟩
  · rintro ⟨decision, version, decided, chosen, rfl⟩
    exact ⟨(key, decision), OrderedMap.mem_sortedBy.mpr decided,
      Option.map_eq_some_iff.mpr ⟨version, chosen, rfl⟩⟩

/-- The versions stand in ascending order of their types. -/
theorem ascending_versionInfos (r : Resolution) :
    (r.versionInfos.map fun info => info.1.text).Pairwise (· < ·) := by
  have decisions : (r.sortedDecisions.map fun entry => entry.1.text).Pairwise (· < ·) :=
    OrderedMap.strictly_ascending_sortedBy (fun _ _ => TypeKey.ext) r.decisions
  rw [List.pairwise_map] at decisions ⊢
  refine List.Pairwise.filterMap _ ?_ decisions
  rintro ⟨key, decision⟩ ⟨key', decision'⟩ below info made info' made'
  obtain ⟨version, -, rfl⟩ := Option.map_eq_some_iff.mp made
  obtain ⟨version', -, rfl⟩ := Option.map_eq_some_iff.mp made'
  exact below

/-- Where every decision is for a version, the types that are not unresolved are the types of the
versions. -/
theorem Partitions.names_versionInfos_diff {r : Resolution} {wanted : NameSet}
    (partitions : r.Partitions wanted) (normalized : wanted.IsNormalized)
    (versioned : ∀ key decision, r.decisions.find? key = some decision →
      ∃ version, decision.version = some version) :
    r.versionInfos.map (fun info => info.1.text) = (wanted.diff r.unresolved).toList := by
  refine NameSet.eq_of_mem_iff r.ascending_versionInfos (NameSet.ascending _) fun name => ?_
  rw [← NameSet.mem_def, NameSet.mem_diff, partitions.unresolved_iff, List.mem_map]
  constructor
  · rintro ⟨⟨key, info⟩, member, rfl⟩
    obtain ⟨decision, -, decided, -⟩ := mem_versionInfos.mp member
    refine ⟨partitions.decided key decision decided, ?_⟩
    rintro ⟨-, undecided⟩
    rw [TypeKey.ofName_text, decided] at undecided
    cases undecided
  · rintro ⟨wants, decided⟩
    obtain ⟨decision, found⟩ := Option.ne_none_iff_exists'.mp fun undecided =>
      decided ⟨wants, undecided⟩
    obtain ⟨version, chosen⟩ := versioned _ decision found
    exact ⟨(.ofName name, version.info),
      mem_versionInfos.mpr ⟨decision, version, found, chosen, rfl⟩, normalized.text_ofName wants⟩

/-- Where every wanted type is decided for a version, these are the types of the versions. -/
theorem Partitions.names_versionInfos {r : Resolution} {wanted : NameSet}
    (partitions : r.Partitions wanted) (normalized : wanted.IsNormalized)
    (complete : r.unresolved.isEmpty = true)
    (versioned : ∀ key decision, r.decisions.find? key = some decision →
      ∃ version, decision.version = some version) :
    r.versionInfos.map (fun info => info.1.text) = wanted.toList := by
  have nothing : r.unresolved = NameSet.empty := NameSet.ext fun name =>
    iff_of_false (NameSet.not_mem_of_isEmpty complete name) (NameSet.not_mem_empty name)
  rw [partitions.names_versionInfos_diff normalized versioned, nothing, NameSet.diff_empty]

end Resolution

namespace Resolver

/-! ## The decisions of the rampup tier -/

/-- The decision for a version that a plan chooses. -/
def chosenDecision (_ : TypeKey) : RampupOutcome → Option Decision
  | .chosen version plan => some { version := some version, selection := .rampup, plan := plan }
  | _ => none

theorem takeChosen_eq (resolution : Resolution) (outcomes : List (TypeKey × RampupOutcome)) :
    takeChosen resolution outcomes = resolution.decideAll (outcomes.filterMap fun outcome =>
      (chosenDecision outcome.1 outcome.2).map fun decision => (outcome.1, decision)) := by
  induction outcomes generalizing resolution with
  | nil => rfl
  | cons first rest ih =>
    obtain ⟨key, outcome⟩ := first
    cases outcome <;> exact ih _

/-- The entry and the plan of a type that a rule takes away from its plan. -/
def excludedEntry (_ : TypeKey) : RampupOutcome → Option (PlanEntry × Plan)
  | .excluded entry plan => some (entry, plan)
  | _ => none

theorem excludedTypes_eq (outcomes : List (TypeKey × RampupOutcome)) :
    excludedTypes outcomes = outcomes.filterMap fun outcome =>
      (excludedEntry outcome.1 outcome.2).map fun excluded => (outcome.1, excluded) := by
  rw [excludedTypes]
  congr 1
  funext outcome
  obtain ⟨key, outcome⟩ := outcome
  cases outcome <;> rfl

/-- The decision for a type that a rule takes away from its plan. -/
def replacement (latest : TypeKey → Option ImageVersion) (key : TypeKey)
    (excluded : PlanEntry × Plan) : Option Decision :=
  (latest key).map fun version =>
    { version := some version, selection := .active, plan := excluded.2 }

/-- The decisions for the types that rules take away from their plans. -/
def replacements (latest : TypeKey → Option ImageVersion)
    (excluded : List (TypeKey × PlanEntry × Plan)) : List (TypeKey × Decision) :=
  excluded.filterMap fun entry =>
    (replacement latest entry.1 entry.2).map fun decision => (entry.1, decision)

/-- The types that are replaced have keys among those of the outcomes, in the same order. -/
theorem keys_excludedTypes (outcomes : List (TypeKey × RampupOutcome)) :
    ((excludedTypes outcomes).map Prod.fst).Sublist (outcomes.map Prod.fst) := by
  rw [excludedTypes_eq]
  exact OrderedMap.keys_filterMap excludedEntry outcomes

theorem mem_excludedTypes {outcomes : List (TypeKey × RampupOutcome)} {key : TypeKey}
    {entry : PlanEntry} {plan : Plan} :
    (key, entry, plan) ∈ excludedTypes outcomes ↔ (key, .excluded entry plan) ∈ outcomes := by
  rw [excludedTypes, List.mem_filterMap]
  constructor
  · rintro ⟨⟨other, outcome⟩, member, made⟩
    cases outcome with
    | excluded =>
      cases made
      exact member
    | _ => cases made
  · intro member
    exact ⟨_, member, rfl⟩

/-- The decision that the rampup tier takes for a type, if any; `latest` holds the versions that
excluded types are given. -/
def tierDecision (latest : TypeKey → Option ImageVersion) (key : TypeKey) :
    RampupOutcome → Option Decision
  | .passed => none
  | .chosen version plan => chosenDecision key (.chosen version plan)
  | .excluded entry plan => replacement latest key (entry, plan)

/-- The decisions of the tier, type by type. -/
theorem find?_decided (latest : TypeKey → Option ImageVersion) (resolution : Resolution)
    {outcomes : List (TypeKey × RampupOutcome)} (nodup : (outcomes.map Prod.fst).Nodup)
    (key : TypeKey) :
    ((takeChosen resolution outcomes).decideAll
        (replacements latest (excludedTypes outcomes))).decisions.find? key =
      (resolution.decisions.find? key).or
        ((OrderedMap.lookupEntry key outcomes).bind (tierDecision latest key)) := by
  rw [takeChosen_eq, Resolution.find?_decideAll, Resolution.find?_decideAll,
    OrderedMap.lookupEntry_filterMap key chosenDecision nodup, replacements,
    OrderedMap.lookupEntry_filterMap key (replacement latest)
      ((keys_excludedTypes outcomes).nodup nodup), excludedTypes_eq,
    OrderedMap.lookupEntry_filterMap key excludedEntry nodup, Option.or_assoc]
  congr 1
  cases OrderedMap.lookupEntry key outcomes with
  | none => rfl
  | some outcome =>
    cases outcome with
    | passed => rfl
    | chosen version plan => rfl
    | excluded entry plan => exact Option.none_or

/-- Both batches of decisions are about the types of the outcomes only. -/
theorem partitions_decided (latest : TypeKey → Option ImageVersion) {wanted : NameSet}
    {resolution : Resolution} (partitions : resolution.Partitions wanted)
    (normalized : wanted.IsNormalized) {outcomes : List (TypeKey × RampupOutcome)}
    (wants : ∀ key ∈ outcomes.map Prod.fst, key.text ∈ wanted) :
    ((takeChosen resolution outcomes).decideAll
      (replacements latest (excludedTypes outcomes))).Partitions wanted := by
  rw [takeChosen_eq]
  refine (partitions.decideAll normalized ?_).decideAll normalized ?_
  · intro decision member
    obtain ⟨outcome, among, -⟩ := OrderedMap.mem_filterMap_entry.mp member
    exact wants _ (List.mem_map_of_mem (f := Prod.fst) among)
  · intro decision member
    obtain ⟨excluded, among, -⟩ := OrderedMap.mem_filterMap_entry.mp member
    exact wants _ ((keys_excludedTypes outcomes).subset
      (List.mem_map_of_mem (f := Prod.fst) among))

theorem yields_replaceExcluded {active : OrderedMap TypeKey ImageVersion}
    {latest : TypeKey → Option ImageVersion} {excluded : List (TypeKey × PlanEntry × Plan)}
    (resolution : Resolution)
    (indexed : ∀ entry ∈ excluded, active.find? entry.1 = latest entry.1)
    (found : ∀ entry ∈ excluded, ∃ version, latest entry.1 = some version) :
    (replaceExcluded false active resolution excluded).Yields
      (.ok (resolution.decideAll (replacements latest excluded))) := by
  induction excluded generalizing resolution with
  | nil => exact Lookup.yields_pure _
  | cons first rest ih =>
    obtain ⟨key, entry, plan⟩ := first
    obtain ⟨version, here⟩ := found (key, entry, plan) List.mem_cons_self
    have listed := (indexed (key, entry, plan) List.mem_cons_self).trans here
    have tail := fun resolution => ih resolution
      (fun entry member => indexed entry (List.mem_cons_of_mem _ member))
      (fun entry member => found entry (List.mem_cons_of_mem _ member))
    simp only [replaceExcluded, listed, replacements, replacement, List.filterMap_cons, here,
      Option.map_some]
    exact tail _

/-- The first type without an ACTIVE version is the one that is reported. -/
theorem yields_replaceExcluded_error {active : OrderedMap TypeKey ImageVersion}
    {before after : List (TypeKey × PlanEntry × Plan)} {key : TypeKey} {entry : PlanEntry}
    {plan : Plan} (resolution : Resolution)
    (found : ∀ entry ∈ before, ∃ version, active.find? entry.1 = some version)
    (missing : active.find? key = none) :
    (replaceExcluded false active resolution (before ++ (key, entry, plan) :: after)).Yields
      (.error (.ruleFallbackFailed (.text key.text) entry.version)) := by
  induction before generalizing resolution with
  | nil =>
    simp only [List.nil_append, replaceExcluded, missing]
    exact Lookup.yields_throw _
  | cons first rest ih =>
    obtain ⟨other, other_entry, other_plan⟩ := first
    obtain ⟨version, here⟩ := found (other, other_entry, other_plan) List.mem_cons_self
    have tail := fun resolution => ih resolution fun entry member =>
      found entry (List.mem_cons_of_mem _ member)
    simp only [List.cons_append, replaceExcluded, here]
    exact tail _

end Resolver

/-- The version belongs to the type with the key. -/
def ImageVersion.isOf (key : TypeKey) (v : ImageVersion) : Bool :=
  v.key.toOption = some key

theorem ImageVersion.isOf_iff {v : ImageVersion} {key : TypeKey} :
    v.isOf key = true ↔ v.key = .ok key := by
  rw [isOf]
  cases v.key <;> simp [Except.toOption]

theorem ImageVersion.isOf_eq {v : ImageVersion} {own : TypeKey} (keyed : v.key = .ok own)
    (key : TypeKey) : v.isOf key = decide (own = key) := by
  rw [isOf, keyed]
  simp [Except.toOption]

namespace Resolver

/-! ## The first version of each type -/

theorem find?_indexVersion {wanted : NameSet} {index next : OrderedMap TypeKey ImageVersion}
    {v : ImageVersion} (stepped : indexVersion wanted index v = .ok next) (k : TypeKey) :
    (∃ key, v.key = .ok key) ∧ next.find? k =
      (index.find? k).or (if k.text ∈ wanted ∧ v.isOf k = true then some v else none) := by
  obtain ⟨key, keyed, made⟩ := Fallible.bind_eq_ok_iff.mp stepped
  refine ⟨⟨key, keyed⟩, ?_⟩
  simp only [ImageVersion.isOf_eq keyed, decide_eq_true_eq]
  cases made
  by_cases same : key = k
  · obtain rfl := same
    by_cases wants : key.text ∈ wanted
    · cases old : index.find? key with
      | some earlier => simp [OrderedMap.contains, old]
      | none => simp [OrderedMap.contains, old, wants, OrderedMap.find?_put]
    · simp [wants]
  · have kept : (if (wanted.contains key.text && !index.contains key) = true
        then index.put key v else index).find? k = index.find? k := by
      split
      · rw [OrderedMap.find?_put, if_neg (Ne.symm same)]
      · rfl
    rw [kept, if_neg fun both => same both.2, Option.or_none]

theorem find?_of_foldlM_indexVersion {wanted : NameSet} {versions : List ImageVersion}
    {start index : OrderedMap TypeKey ImageVersion}
    (indexed : versions.foldlM (indexVersion wanted) start = .ok index) (k : TypeKey) :
    index.find? k =
      (start.find? k).or (if k.text ∈ wanted then versions.find? (·.isOf k) else none) := by
  induction versions generalizing start with
  | nil =>
    cases indexed
    simp
  | cons v rest ih =>
    rw [List.foldlM_cons] at indexed
    obtain ⟨next, stepped, indexed⟩ := Fallible.bind_eq_ok_iff.mp indexed
    rw [ih indexed, (find?_indexVersion stepped k).2, Option.or_assoc, List.find?_cons]
    by_cases wants : k.text ∈ wanted
    · cases own : v.isOf k <;> simp [wants]
    · simp [wants]

/-- The index holds the first version of every wanted type. -/
theorem find?_of_firstByKey {wanted : NameSet} {versions : List ImageVersion}
    {index : OrderedMap TypeKey ImageVersion} (indexed : firstByKey versions wanted = .ok index)
    (k : TypeKey) :
    index.find? k = if k.text ∈ wanted then versions.find? (·.isOf k) else none := by
  rw [find?_of_foldlM_indexVersion indexed, OrderedMap.find?_empty, Option.none_or]

/-- The index has no version of a wanted type where none of the versions is of the type. -/
theorem find?_firstByKey_eq_none_iff {versions : List ImageVersion} {wanted : NameSet}
    {index : OrderedMap TypeKey ImageVersion} (indexed : firstByKey versions wanted = .ok index)
    {key : TypeKey} (wants : key.text ∈ wanted) :
    index.find? key = none ↔ ¬ ∃ v ∈ versions, v.key = .ok key := by
  rw [find?_of_firstByKey indexed, if_pos wants, List.find?_eq_none]
  simp [ImageVersion.isOf_iff]

/-- What the index holds for a type belongs to it, and the type is wanted. -/
theorem own_of_firstByKey {versions : List ImageVersion} {wanted : NameSet}
    {index : OrderedMap TypeKey ImageVersion} (indexed : firstByKey versions wanted = .ok index)
    {key : TypeKey} {version : ImageVersion} (found : index.find? key = some version) :
    key.text ∈ wanted ∧ version.key = .ok key := by
  rw [find?_of_firstByKey indexed] at found
  split at found
  · rename_i wants
    refine ⟨wants, ?_⟩
    have own := List.find?_some found
    cases keyed : version.key with
    | error fault => simp [ImageVersion.isOf, keyed, Except.toOption] at own
    | ok other => simpa [ImageVersion.isOf, keyed, Except.toOption] using own
  · cases found

/-- Versions whose types are named by texts can be indexed. -/
theorem firstByKey_total {versions : List ImageVersion}
    (keyed : ∀ v ∈ versions, ∃ key, v.key = .ok key) (wanted : NameSet) :
    ∃ index, firstByKey versions wanted = .ok index := by
  -- nothing depends on what is indexed already
  rw [firstByKey]
  generalize OrderedMap.empty = start
  induction versions generalizing start with
  | nil => exact ⟨start, rfl⟩
  | cons v rest ih =>
    obtain ⟨key, own⟩ := keyed v List.mem_cons_self
    rw [List.foldlM_cons, indexVersion, own]
    exact ih (fun w member => keyed w (List.mem_cons_of_mem _ member)) _

/-- The decisions of a tier that takes the first version of every unresolved type. -/
def firstDecisions (selection : Selection) (first : OrderedMap TypeKey ImageVersion) :
    List (TypeKey × Decision) :=
  first.entries.map fun entry =>
    (entry.1, { version := some entry.2, selection := selection })

theorem takeFirst_eq (selection : Selection) (resolution : Resolution)
    (versions : Option (List ImageVersion)) :
    takeFirst selection resolution versions =
      (firstByKey (versions.getD []) resolution.unresolved).map fun first =>
        resolution.decideAll (firstDecisions selection first) := by
  rw [takeFirst]
  cases firstByKey (versions.getD []) resolution.unresolved with
  | error fault => rfl
  | ok first =>
    simp only [Except.map, Resolution.decideAll, firstDecisions, List.foldl_map]
    rfl

/-- What is taken first is wanted, since only unresolved types take anything. -/
theorem wanted_of_firstDecisions (selection : Selection) {wanted : NameSet}
    {resolution : Resolution} (partitions : resolution.Partitions wanted)
    {versions : List ImageVersion} {first : OrderedMap TypeKey ImageVersion}
    (indexed : firstByKey versions resolution.unresolved = .ok first) :
    ∀ decision ∈ firstDecisions selection first, decision.1.text ∈ wanted := by
  intro decision member
  obtain ⟨⟨key, version⟩, among, rfl⟩ := List.mem_map.mp member
  have unresolved := (own_of_firstByKey indexed ((first.find?_eq_some_iff key version).mpr among)).1
  exact ((partitions.unresolved_iff key.text).mp unresolved).1

theorem lookupEntry_firstDecisions (selection : Selection)
    (first : OrderedMap TypeKey ImageVersion) (k : TypeKey) :
    OrderedMap.lookupEntry k (firstDecisions selection first) =
      (first.find? k).map fun version => { version := some version, selection := selection } :=
  OrderedMap.lookupEntry_map k
    (fun _ version => ({ version := some version, selection := selection } : Decision))
    first.entries

/-- A tier that looks up the versions in `latest` leaves what is decided, and decides every other
wanted type that has one there. -/
theorem takeFirst_latest (selection : Selection) {wanted : NameSet}
    (normalized : wanted.IsNormalized) {resolution : Resolution}
    (partitions : resolution.Partitions wanted) (versions : Option (List ImageVersion))
    {first : OrderedMap TypeKey ImageVersion} {latest : TypeKey → Option ImageVersion}
    (indexed : firstByKey (versions.getD []) resolution.unresolved = .ok first)
    (listed : ∀ key : TypeKey,
      first.find? key = if key.text ∈ resolution.unresolved then latest key else none) :
    ∃ next, takeFirst selection resolution versions = .ok next ∧ next.Partitions wanted ∧
      ∀ key : TypeKey, key.text ∈ wanted → next.decisions.find? key =
        (resolution.decisions.find? key).or ((latest key).map fun version =>
          { version := some version, selection := selection }) := by
  refine ⟨resolution.decideAll (firstDecisions selection first), ?_,
    partitions.decideAll normalized (wanted_of_firstDecisions _ partitions indexed), ?_⟩
  · rw [takeFirst_eq, indexed]
    rfl
  · intro key wants
    rw [Resolution.find?_decideAll, lookupEntry_firstDecisions, listed]
    cases decided : resolution.decisions.find? key with
    | some decision => rfl
    | none => rw [if_pos (partitions.unresolved_of_undecided wants decided)]

/-! ## Decisions for all types -/

theorem find?_completing (names : List String) (decisions : OrderedMap TypeKey Decision)
    (key : TypeKey) :
    (names.foldl (fun decisions name => decisions.put (.ofName name) .noVersion)
        decisions).find? key =
      if key ∈ names.map TypeKey.ofName then some .noVersion else decisions.find? key := by
  induction names generalizing decisions with
  | nil => simp
  | cons name rest ih =>
    rw [List.foldl_cons, ih, OrderedMap.find?_put, List.map_cons]
    by_cases later : key ∈ rest.map TypeKey.ofName
    · rw [if_pos later, if_pos (List.mem_cons_of_mem _ later)]
    · rw [if_neg later]
      by_cases here : key = .ofName name
      · rw [if_pos here, if_pos (here ▸ List.mem_cons_self)]
      · rw [if_neg here, if_neg fun member => (List.mem_cons.mp member).elim here later]

/-- Every wanted type has an entry: its decision, or the one that says that there is no version. -/
theorem mem_completed {wanted : NameSet} (normalized : wanted.IsNormalized)
    {resolution : Resolution} (partitions : resolution.Partitions wanted)
    {entry : TypeKey × Decision} :
    entry ∈ completed resolution ↔ entry.1.text ∈ wanted ∧
      entry.2 = (resolution.decisions.find? entry.1).getD .noVersion := by
  obtain ⟨key, decision⟩ := entry
  have unresolved_iff : key ∈ resolution.unresolved.toList.map TypeKey.ofName ↔
      key.text ∈ wanted ∧ resolution.decisions.find? key = none := by
    rw [List.mem_map]
    constructor
    · rintro ⟨name, unresolved, rfl⟩
      obtain ⟨wants, undecided⟩ := (partitions.unresolved_iff name).mp unresolved
      exact ⟨by rwa [normalized.text_ofName wants], undecided⟩
    · rintro ⟨wants, undecided⟩
      exact ⟨key.text, partitions.unresolved_of_undecided wants undecided, TypeKey.ofName_text key⟩
  rw [completed, OrderedMap.mem_sortedBy, find?_completing]
  cases decided : resolution.decisions.find? key with
  | some held =>
    rw [if_neg fun listed => nomatch decided.symm.trans (unresolved_iff.mp listed).2]
    constructor
    · rintro ⟨⟩
      exact ⟨partitions.decided _ _ decided, rfl⟩
    · rintro ⟨-, rfl⟩
      rfl
  | none =>
    by_cases wants : key.text ∈ wanted
    · rw [if_pos (unresolved_iff.mpr ⟨wants, decided⟩)]
      exact ⟨fun same => ⟨wants, (Option.some.inj same).symm⟩,
        fun both => congrArg some both.2.symm⟩
    · rw [if_neg fun listed => wants (unresolved_iff.mp listed).1]
      exact ⟨nofun, fun both => absurd both.1 wants⟩

theorem names_completed {wanted : NameSet} (normalized : wanted.IsNormalized)
    {resolution : Resolution} (partitions : resolution.Partitions wanted) :
    (completed resolution).map (fun entry => entry.1.text) = wanted.toList := by
  -- both lists ascend strictly, so they are the same when they have the same members
  refine NameSet.eq_of_mem_iff ?_ wanted.ascending ?_
  · exact OrderedMap.strictly_ascending_sortedBy (fun _ _ => TypeKey.ext) _
  · intro name
    simp only [List.mem_map, mem_completed normalized partitions]
    constructor
    · rintro ⟨entry, ⟨wants, -⟩, rfl⟩
      exact wants
    · intro wants
      have own : (TypeKey.ofName name).text = name := normalized.text_ofName wants
      refine ⟨(.ofName name, (resolution.decisions.find? (.ofName name)).getD .noVersion),
        ⟨?_, rfl⟩, own⟩
      rw [own]
      exact wants

end Resolver

end Rollout

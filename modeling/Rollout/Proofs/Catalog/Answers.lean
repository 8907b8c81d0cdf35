import Rollout.Proofs.Catalog.Changes
import Rollout.Proofs.Plan.Book
import Rollout.Proofs.Resolution.Deciding

/-!
# The answers of well kept catalogs

What a well kept catalog answers to each question of a resolver, type by type: the one version
under a label (`Holds`), the latest ACTIVE version (`LatestActive`), the stored plan (`planOf`),
and whether some rule keeps a flow away from a version (`Excludes`). Questions that are put for
many types at once are answered for each of them as if it had been asked alone.
-/

namespace Rollout

/-- Two labels are the same when they have one text in small letters. -/
theorem sameLabel_eq_true_iff {a b : Datum} :
    sameLabel a b = .ok true ↔ ∃ text, foldLabel a = .ok text ∧ foldLabel b = .ok text := by
  constructor
  · intro same
    obtain ⟨left, folded, next⟩ := Fallible.bind_eq_ok_iff.mp same
    obtain ⟨right, folded', equal⟩ := Fallible.bind_eq_ok_iff.mp next
    obtain rfl : left = right := by simpa using Except.ok.inj equal
    exact ⟨left, folded, folded'⟩
  · rintro ⟨text, left, right⟩
    rw [sameLabel, left, right]
    simp [bind, Except.bind, pure, Except.pure]

theorem sameLabel_symm {a b : Datum} (same : sameLabel a b = .ok true) :
    sameLabel b a = .ok true := by
  obtain ⟨text, left, right⟩ := sameLabel_eq_true_iff.mp same
  exact sameLabel_eq_true_iff.mpr ⟨text, right, left⟩

theorem sameLabel_trans {a b c : Datum} (same : sameLabel a b = .ok true)
    (same' : sameLabel b c = .ok true) : sameLabel a c = .ok true := by
  obtain ⟨text, left, middle⟩ := sameLabel_eq_true_iff.mp same
  obtain ⟨text', middle', right⟩ := sameLabel_eq_true_iff.mp same'
  obtain rfl : text = text' := Except.ok.inj (middle.symm.trans middle')
  exact sameLabel_eq_true_iff.mpr ⟨text, left, right⟩

/-- A rule is about a version when it names its type and its label. -/
theorem RampRule.appliesTo_iff {rule : RampRule} {key : TypeKey} {label : Datum} :
    rule.appliesTo key label = .ok true ↔
      TypeKey.ofDatum rule.imageType = .ok key ∧ sameLabel rule.version label = .ok true := by
  rw [appliesTo, Fallible.bind_eq_ok_iff]
  constructor
  · rintro ⟨own, keyed, tested⟩
    split at tested
    · rename_i same
      exact ⟨same ▸ keyed, tested⟩
    · cases tested
  · rintro ⟨keyed, labelled⟩
    exact ⟨key, keyed, (if_pos rfl).trans labelled⟩

namespace Catalog

variable {c : Catalog}

/-! ## Versions by label -/

/-- The catalog holds the version under the label. -/
def Holds (c : Catalog) (key : TypeKey) (label : Datum) (v : ImageVersion) : Prop :=
  v ∈ c.versionsOf key ∧ v.hasLabel label = .ok true

theorem VersionsOf.eq_of_hasLabel {key : TypeKey} {versions : List ImageVersion}
    (of : VersionsOf key versions) {label : Datum} {u v : ImageVersion} (left : u ∈ versions)
    (right : v ∈ versions) (named : u.hasLabel label = .ok true)
    (named' : v.hasLabel label = .ok true) : u = v := by
  have same : u.hasLabel v.version = .ok true := sameLabel_trans named (sameLabel_symm named')
  have same' : v.hasLabel u.version = .ok true := sameLabel_symm same
  -- two places with one label contradict `distinct`, whichever comes first
  have distinct := of.distinct
  clear of
  induction versions with
  | nil => cases left
  | cons first rest ih =>
    rw [List.pairwise_cons] at distinct
    rcases List.mem_cons.mp left with rfl | later
    · rcases List.mem_cons.mp right with rfl | later'
      · rfl
      · rw [distinct.1 v later'] at same
        cases same
    · rcases List.mem_cons.mp right with rfl | later'
      · rw [distinct.1 u later] at same'
        cases same'
      · exact ih later later' distinct.2

/-- A label names one version at most. -/
theorem Holds.unique (kept : c.WellKept) {key : TypeKey} {label : Datum} {u v : ImageVersion}
    (left : c.Holds key label u) (right : c.Holds key label v) : u = v :=
  (kept.versions key).eq_of_hasLabel left.1 right.1 left.2 right.2

theorem findVersions_eq (kept : c.WellKept) (key : TypeKey) (label : String) :
    c.findVersions key (.text label) =
      .ok ((c.versionsOf key).filter (isLabelled (.text label))) :=
  Fallible.filter_eq_ok fun v member => ((kept.versions key).each v member).hasLabel_eq label

/-- Whether a version of the catalog is still valid depends on its state alone. -/
theorem isInvalid_eq (kept : c.WellKept) {key : TypeKey} {v : ImageVersion}
    (member : v ∈ c.versionsOf key) : c.isInvalid key v.version = .ok v.state.isInvalid := by
  have of := kept.versions key
  obtain ⟨label, labelled⟩ := (of.each v member).labelled
  have own : v.hasLabel v.version = .ok true := by
    rw [ImageVersion.hasLabel, labelled]
    exact sameLabel_eq_true_iff.mpr ⟨_, rfl, rfl⟩
  rw [labelled] at own ⊢
  have among : v ∈ (c.versionsOf key).filter (isLabelled (.text label)) := by
    refine List.mem_filter.mpr ⟨member, ?_⟩
    rw [isLabelled, own]
  cases last : ((c.versionsOf key).filter (isLabelled (.text label))).getLast? with
  | none =>
    rw [List.getLast?_eq_none_iff.mp last] at among
    cases among
  | some u =>
    -- the version that is found has the label too, so it is the same one
    obtain ⟨member', labelled'⟩ := List.mem_filter.mp (List.mem_of_getLast? last)
    have named := (of.each u member').hasLabel_eq label
    rw [labelled'] at named
    obtain rfl := of.eq_of_hasLabel member' member named own
    rw [isInvalid, findVersions_eq kept]
    simp only [bind, Except.bind, last]
    rfl

/-! ## Latest ACTIVE versions -/

/-- The version is the last one of the type that is ACTIVE. -/
def LatestActive (c : Catalog) (key : TypeKey) (v : ImageVersion) : Prop :=
  ∃ before after, c.versionsOf key = before ++ v :: after ∧ v.state = .active ∧
    ∀ u ∈ after, u.state ≠ .active

/-- The latest ACTIVE version of the type, when there is one. -/
def latestActive (c : Catalog) (key : TypeKey) : Option ImageVersion :=
  ((c.versionsOf key).filter fun v => v.state = .active).getLast?

theorem latestActive_eq_some_iff {key : TypeKey} {v : ImageVersion} :
    c.latestActive key = some v ↔ c.LatestActive key v := by
  -- the last ACTIVE one is the first one from behind
  rw [latestActive, List.getLast?_filter, List.find?_eq_some_iff_append, LatestActive]
  constructor
  · rintro ⟨active, later, earlier, split, others⟩
    refine ⟨earlier.reverse, later.reverse, ?_, by simpa using active, ?_⟩
    · rw [← List.reverse_reverse (c.versionsOf key), split]
      simp
    · intro u member
      simpa using others u (List.mem_reverse.mp member)
  · rintro ⟨before, after, whole, active, others⟩
    refine ⟨by simpa using active, after.reverse, before.reverse, by simp [whole], ?_⟩
    intro u member
    simpa using others u (List.mem_reverse.mp member)

theorem latestActive_eq_none_iff {key : TypeKey} :
    c.latestActive key = none ↔ ∀ v, ¬ c.LatestActive key v := by
  rw [Option.eq_none_iff_forall_ne_some]
  exact forall_congr' fun v => not_congr latestActive_eq_some_iff

theorem LatestActive.unique {key : TypeKey} {u v : ImageVersion} (left : c.LatestActive key u)
    (right : c.LatestActive key v) : u = v := by
  rw [← latestActive_eq_some_iff] at left right
  exact Option.some.inj (left.symm.trans right)

/-! ## Last versions of many types -/

/-- The last version of the type that passes the test. -/
def lastOf (c : Catalog) (test : ImageVersion → Bool) (key : TypeKey) : Option ImageVersion :=
  ((c.versionsOf key).filter test).getLast?

variable {test : ImageVersion → Bool}

theorem mem_of_lastOf {key : TypeKey} {v : ImageVersion} (last : c.lastOf test key = some v) :
    v ∈ c.versionsOf key :=
  (List.mem_filter.mp (List.mem_of_getLast? last)).1

/-- Among the answers for many types, the first one for a type is its own. -/
theorem find?_lastVersions (kept : c.WellKept) {names : NameSet}
    (normalized : names.IsNormalized) {key : TypeKey} (asked : key.text ∈ names) :
    (c.lastVersions names test).find? (·.isOf key) = c.lastOf test key := by
  have own : ∀ name v, c.lastOf test (.ofName name) = some v →
      v.isOf key = decide (TypeKey.ofName name = key) := by
    intro name v last
    exact ImageVersion.isOf_eq ((kept.versions _).each v (mem_of_lastOf last)).keyed key
  have answers : c.lastVersions names test =
      names.toList.filterMap fun name => c.lastOf test (.ofName name) := by
    rw [lastVersions, normalized.normalized_eq]
    rfl
  rw [answers, List.find?_filterMap]
  cases found : names.toList.find? fun name =>
      (c.lastOf test (.ofName name)).any (·.isOf key) with
  | some name =>
    -- the place that is found is the type's own
    have chosen := List.find?_some (p := fun name =>
      (c.lastOf test (.ofName name)).any (·.isOf key)) found
    obtain ⟨v, last, is_own⟩ := (Option.any_eq_true _ _).mp chosen
    rw [own name v last, decide_eq_true_eq] at is_own
    rw [Option.bind_some, is_own]
  | none =>
    have missed := List.find?_eq_none.mp found key.text asked
    rw [TypeKey.ofName_text] at missed
    cases last : c.lastOf test key with
    | none => rfl
    | some v =>
      have is_own := own key.text v (by rw [TypeKey.ofName_text]; exact last)
      simp [last, is_own] at missed

/-- The index of the answers holds the last version of every named type. -/
theorem firstByKey_lastVersions (kept : c.WellKept) {names : NameSet}
    (normalized : names.IsNormalized) :
    ∃ last, Resolver.firstByKey (c.lastVersions names test) names = .ok last ∧
      ∀ key : TypeKey,
        last.find? key = if key.text ∈ names then c.lastOf test key else none := by
  have keyed : ∀ v ∈ c.lastVersions names test, ∃ key, v.key = .ok key := by
    intro v member
    obtain ⟨name, -, last⟩ := List.mem_filterMap.mp member
    exact ⟨_, ((kept.versions _).each v (mem_of_lastOf last)).keyed⟩
  obtain ⟨last, indexed⟩ := Resolver.firstByKey_total keyed names
  refine ⟨last, indexed, ?_⟩
  intro key
  rw [Resolver.find?_of_firstByKey indexed]
  split
  · rename_i asked
    rw [find?_lastVersions kept normalized asked]
  · rfl

theorem firstByKey_activeVersions (kept : c.WellKept) {names : NameSet}
    (normalized : names.IsNormalized) :
    ∃ active, Resolver.firstByKey (c.activeVersions names) names = .ok active ∧
      ∀ key : TypeKey,
        active.find? key = if key.text ∈ names then c.latestActive key else none :=
  firstByKey_lastVersions kept normalized

theorem firstByKey_latestVersions (kept : c.WellKept) {names : NameSet}
    (normalized : names.IsNormalized) :
    ∃ latest, Resolver.firstByKey (c.latestVersions names) names = .ok latest ∧
      ∀ key : TypeKey,
        latest.find? key = if key.text ∈ names then (c.versionsOf key).getLast? else none := by
  have all : ∀ key, c.lastOf (fun _ => true) key = (c.versionsOf key).getLast? := by
    intro key
    rw [lastOf, List.filter_eq_self.mpr fun _ _ => rfl]
  simp only [← all]
  exact firstByKey_lastVersions kept normalized

/-! ## Rules -/

/-- Some rule keeps the flow away from the version. -/
def Excludes (c : Catalog) (flowName : Datum) (key : TypeKey) (label : Datum) : Prop :=
  ∃ rule ∈ c.rules, rule.appliesTo key label = .ok true ∧ rule.matchesFlow flowName = .ok true

/-- What the rule evaluator answers over the catalog. -/
def judged (c : Catalog) (flowName : Datum) (key : TypeKey) (label : Datum) : Except Fault Bool :=
  do RampRule.excludes (← c.rulesFor key label) flowName key label

/-- The answer whether a rule is about a version, where that cannot fail. -/
def isAbout (key : TypeKey) (label : Datum) (rule : RampRule) : Bool :=
  match rule.appliesTo key label with
  | .ok answer => answer
  | .error _ => false

theorem RuleKept.appliesTo_eq {rule : RampRule} (kept : RuleKept rule) (key : TypeKey)
    (label : String) :
    rule.appliesTo key (.text label) = .ok (isAbout key (.text label) rule) := by
  obtain ⟨name, named⟩ := kept.imageType
  obtain ⟨version, labelled⟩ := kept.version
  have answers : ∃ answer, rule.appliesTo key (.text label) = .ok answer := by
    rw [RampRule.appliesTo, named, labelled, TypeKey.ofDatum_text]
    simp only [bind, Except.bind]
    split
    · exact ⟨_, rfl⟩
    · exact ⟨_, rfl⟩
  obtain ⟨answer, same⟩ := answers
  rw [isAbout, same]

theorem rulesFor_eq (kept : c.WellKept) (key : TypeKey) (label : String) :
    c.rulesFor key (.text label) = .ok (c.rules.filter (isAbout key (.text label))) :=
  Fallible.filter_eq_ok fun rule member => (kept.rules rule member).appliesTo_eq key label

/-- The rules that are found are tested by their patterns. -/
theorem excludes_test (kept : c.WellKept) {key : TypeKey} {label : String} (flowName : Datum)
    {rule : RampRule} (found : rule ∈ c.rules.filter (isAbout key (.text label))) :
    (do if ← rule.appliesTo key (.text label) then rule.matchesFlow flowName else return false) =
      rule.matchesFlow flowName := by
  obtain ⟨member, about⟩ := List.mem_filter.mp found
  rw [(kept.rules rule member).appliesTo_eq key label, about]
  rfl

theorem judged_iff (kept : c.WellKept) {flowName : Datum} {key : TypeKey} {label : String}
    {answer : Bool} (judged : c.judged flowName key (.text label) = .ok answer) :
    answer = true ↔ c.Excludes flowName key (.text label) := by
  rw [Catalog.judged, rulesFor_eq kept] at judged
  cases answer with
  | true =>
    obtain ⟨rule, found, tested⟩ := Fallible.exists_of_any judged
    rw [excludes_test kept flowName found] at tested
    obtain ⟨member, about⟩ := List.mem_filter.mp found
    have applies := (kept.rules rule member).appliesTo_eq key label
    rw [about] at applies
    exact ⟨fun _ => ⟨rule, member, applies, tested⟩, fun _ => rfl⟩
  | false =>
    constructor
    · rintro ⟨⟩
    · rintro ⟨rule, member, applies, tested⟩
      rw [(kept.rules rule member).appliesTo_eq key label] at applies
      have found := List.mem_filter.mpr ⟨member, Except.ok.inj applies⟩
      have failed := Fallible.forall_of_not_any judged rule found
      rw [excludes_test kept flowName found, tested] at failed
      cases failed

/-- A flow with a name that is a text is judged without fault. -/
theorem judged_total (kept : c.WellKept) (name : String) (key : TypeKey) (label : String) :
    ∃ answer, c.judged (.text name) key (.text label) = .ok answer := by
  have tests : ∀ rule ∈ c.rules.filter (isAbout key (.text label)),
      (do if ← rule.appliesTo key (.text label) then rule.matchesFlow (.text name)
          else return false) =
        .ok ((rule.matchesFlow (.text name)).toOption.getD false) := by
    intro rule found
    obtain ⟨pattern, is_text⟩ := (kept.rules rule (List.mem_filter.mp found).1).pattern
    rw [excludes_test kept (.text name) found]
    simp only [RampRule.matchesFlow, is_text]
    rfl
  rw [judged, rulesFor_eq kept]
  exact ⟨_, Fallible.any_eq_ok tests⟩

/-! ## Plans -/

/-- The stored plan of a type, empty when there is none. -/
def planOf (c : Catalog) (key : TypeKey) : Plan :=
  (c.plans.find? key).getD []

theorem WellKept.planOf (kept : c.WellKept) (key : TypeKey) :
    ∀ entry ∈ c.planOf key, EntryKept entry := by
  intro entry member
  rw [Catalog.planOf] at member
  cases found : c.plans.find? key with
  | none =>
    rw [found] at member
    cases member
  | some plan =>
    rw [found] at member
    exact (kept.plans key plan found).2 entry member

theorem WellKept.planOf_whole (kept : c.WellKept) (key : TypeKey) : (c.planOf key).IsWhole :=
  fun entry member => (kept.planOf key entry member).whole

/-- Plans that lie under distinct keys do not conflict in an index. -/
theorem indexEntries_stored (wanted : NameSet) {entries : List (TypeKey × Plan)}
    (nodup : (entries.map Prod.fst).Nodup) {index : OrderedMap TypeKey Plan}
    (new : ∀ entry ∈ entries, index.find? entry.1 = none) (notices : List Notice) :
    ∃ next, PlanBook.indexEntries wanted (index, notices)
        (entries.map fun entry => (storedName entry.1, some entry.2)) = (.ok next, notices) ∧
      ∀ k, next.find? k = (index.find? k).or
        (if k.text ∈ wanted then OrderedMap.lookupEntry k entries else none) := by
  induction entries generalizing index with
  | nil => exact ⟨index, rfl, by simp [OrderedMap.lookupEntry]⟩
  | cons entry rest ih =>
    obtain ⟨key, plan⟩ := entry
    rw [List.map_cons, List.nodup_cons] at nodup
    have fresh := new (key, plan) List.mem_cons_self
    have own : TypeKey.ofDatum (storedName key) = .ok key := by
      rw [storedName, TypeKey.ofDatum_text, TypeKey.ofName_text]
    rw [List.map_cons, PlanBook.indexEntries, own]
    dsimp only
    by_cases wants : key.text ∈ wanted
    · have stepped : PlanBook.indexEntry wanted (index, notices) key (storedName key)
          ((some plan).getD []) = (index.put key plan, notices) := by
        simp [PlanBook.indexEntry, NameSet.contains_iff.mpr wants, fresh]
      have later : ∀ other ∈ rest, (index.put key plan).find? other.1 = none := by
        intro other member
        have differs : other.1 ≠ key := by
          intro same
          apply nodup.1
          rw [← same]
          exact List.mem_map.mpr ⟨other, member, rfl⟩
        rw [OrderedMap.find?_put, if_neg differs]
        exact new other (List.mem_cons_of_mem _ member)
      obtain ⟨next, indexed, found⟩ := ih nodup.2 later
      refine ⟨next, by rw [stepped, indexed], ?_⟩
      intro k
      rw [found, OrderedMap.find?_put, OrderedMap.lookupEntry]
      by_cases same : k = key
      · rw [same, if_pos rfl, fresh, if_pos rfl, Option.some_or, Option.none_or,
          if_pos wants]
      · rw [if_neg same, if_neg (Ne.symm same)]
    · have stepped : PlanBook.indexEntry wanted (index, notices) key (storedName key)
          ((some plan).getD []) = (index, notices) := by
        simp [PlanBook.indexEntry, wants]
      obtain ⟨next, indexed, found⟩ := ih nodup.2 fun other member =>
        new other (List.mem_cons_of_mem _ member)
      refine ⟨next, by rw [stepped, indexed], ?_⟩
      intro k
      rw [found, OrderedMap.lookupEntry]
      by_cases same : k = key
      · rw [same, if_neg wants, if_neg wants]
      · rw [if_neg (Ne.symm same)]

/-- The index of all plans holds those of the wanted types. -/
theorem indexed_allPlans (c : Catalog) (wanted : NameSet) :
    ∃ index, (c.allPlans.indexed wanted).1 = .ok index ∧
      ∀ k, index.find? k = if k.text ∈ wanted then c.plans.find? k else none := by
  have fresh : ∀ entry ∈ c.plans.entries,
      (OrderedMap.empty : OrderedMap TypeKey Plan).find? entry.1 = none := fun _ _ => rfl
  obtain ⟨index, indexed, found⟩ := indexEntries_stored wanted c.plans.nodup_keys fresh []
  refine ⟨index, ?_, ?_⟩
  · rw [PlanBook.indexed, allPlans, bookOf]
    exact congrArg Prod.fst indexed
  · intro k
    rw [found, OrderedMap.find?_empty, Option.none_or]
    rfl

/-- The plans of the wanted types have the index that all plans have. -/
theorem indexed_plansFor_eq (c : Catalog) {wanted : NameSet} (normalized : wanted.IsNormalized) :
    (c.plansFor wanted).indexed wanted = c.allPlans.indexed wanted := by
  have kept : (c.plansFor wanted).entries = c.allPlans.entries.filter fun entry =>
      (TypeKey.ofDatum entry.1).toOption.any fun key => wanted.contains key.text := by
    rw [plansFor, normalized.normalized_eq, allPlans, bookOf, bookOf]
    simp only [OrderedMap.mapEntries, OrderedMap.filterKeys, List.filter_map, Function.comp_def,
      storedName, TypeKey.ofDatum_text, TypeKey.ofName_text, Except.toOption, Option.any_some]
  rw [PlanBook.indexed, PlanBook.indexed, kept]
  refine PlanBook.indexEntries_filter (fun entry member unwanted => ?_) _
  obtain ⟨stored, -, rfl⟩ := List.mem_map.mp member
  have own : TypeKey.ofDatum (storedName stored.1) = .ok stored.1 := by
    rw [storedName, TypeKey.ofDatum_text, TypeKey.ofName_text]
  refine ⟨stored.1, own, fun wants => ?_⟩
  rw [own] at unwanted
  exact Bool.false_ne_true (unwanted.symm.trans (NameSet.contains_iff.mpr wants))

theorem indexed_plansFor (c : Catalog) {wanted : NameSet} (normalized : wanted.IsNormalized) :
    ∃ index, ((c.plansFor wanted).indexed wanted).1 = .ok index ∧
      ∀ k, index.find? k = if k.text ∈ wanted then c.plans.find? k else none := by
  rw [indexed_plansFor_eq c normalized]
  exact indexed_allPlans c wanted

/-! ## Registered types -/

/-- The registered types, by the texts of their keys. -/
def registered (c : Catalog) : NameSet :=
  NameSet.ofList (c.types.keys.map TypeKey.text)

theorem mem_registered {name : String} :
    name ∈ c.registered ↔ ∃ key ∈ c.types.keys, key.text = name := by
  rw [registered, NameSet.mem_ofList, List.mem_map]

/-- The normalized forms of names are the registered names when the names are those of all
registered types. -/
theorem normalized_eq_registered {texts : List String}
    (all : ∀ key, key ∈ c.types.keys ↔ ∃ text ∈ texts, TypeKey.ofName text = key) :
    NameSet.normalized texts = c.registered := by
  apply NameSet.ext
  intro name
  rw [NameSet.mem_normalized, mem_registered]
  constructor
  · rintro ⟨text, member, rfl⟩
    exact ⟨.ofName text, (all _).mpr ⟨text, member, rfl⟩, rfl⟩
  · rintro ⟨key, member, rfl⟩
    obtain ⟨text, among, rfl⟩ := (all key).mp member
    exact ⟨text, among, rfl⟩

/-- The names of the registered types are texts, and their normalized forms are the registered
names. -/
theorem names_types (kept : c.WellKept) :
    ∃ names : List String, c.types.values.map ImageType.name = names.map .text ∧
      NameSet.normalized names = c.registered := by
  have each : ∀ entry ∈ c.types.entries, ∃ name,
      entry.2.name = .text name ∧ .ofName name = entry.1 := by
    intro entry member
    exact kept.types entry.1 entry.2 ((c.types.find?_eq_some_iff entry.1 entry.2).mpr member)
  have listed : ∃ names : List String, c.types.entries.map (·.2.name) = names.map .text ∧
      names.map TypeKey.ofName = c.types.entries.map Prod.fst := by
    revert each
    generalize c.types.entries = entries
    intro each
    induction entries with
    | nil => exact ⟨[], rfl, rfl⟩
    | cons entry rest ih =>
      obtain ⟨name, is_text, own⟩ := each entry List.mem_cons_self
      obtain ⟨names, texts, keys⟩ := ih fun other member =>
        each other (List.mem_cons_of_mem _ member)
      exact ⟨name :: names, by simp [is_text, texts], by simp [own, keys]⟩
  obtain ⟨names, texts, keys⟩ := listed
  refine ⟨names, by rw [← texts, OrderedMap.values, List.map_map]; rfl, ?_⟩
  refine normalized_eq_registered fun key => ?_
  rw [OrderedMap.keys, ← keys, List.mem_map]

theorem normalized_registered (c : Catalog) : c.registered.IsNormalized :=
  NameSet.isNormalized_keys c.types.keys

/-- To want the listed types is to want the registered ones. -/
theorem ofDatum_types (kept : c.WellKept) :
    NameSet.ofDatum (.list (c.types.values.map ImageType.name)) = .ok c.registered := by
  obtain ⟨names, texts, registered⟩ := names_types kept
  rw [texts, NameSet.ofDatum_texts rfl, registered]

end Catalog

end Rollout

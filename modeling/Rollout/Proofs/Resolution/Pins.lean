import Rollout.Proofs.Resolution.Division
import Rollout.Proofs.Resolution.Questions

/-!
# Pinned versions

To reconcile a version set is to replace its invalid pins, and no others, whatever the sources
answer (`reconcile_replaces`). The pins are checked one after the other (`Scans`). Where all of them
are valid, nothing else is asked; else the types of the invalid ones are resolved as by a request
for these types alone, and what it returns takes their place (`Merges`).
-/

namespace Rollout

/-- A version set: versions under the names of their types, in whatever spelling. -/
def versionSet (pins : OrderedMap String VersionInfo) : OrderedMap Datum VersionInfo :=
  pins.mapEntries .text (fun _ _ => Datum.text.inj) id

/-- The pin of a type: of several spellings of its name the last one counts. -/
def pinOf (pins : OrderedMap String VersionInfo) (key : TypeKey) : Option VersionInfo :=
  OrderedMap.lookupEntry key (pins.entries.map fun pin => (TypeKey.ofName pin.1, pin.2)).reverse

theorem Resolver.pinsByKey_versionSet (pins : OrderedMap String VersionInfo) :
    ∃ index, pinsByKey (versionSet pins) = .ok index ∧
      ∀ key, index.find? key = pinOf pins key := by
  have taken : ∀ (entries : List (String × VersionInfo)) (start : OrderedMap TypeKey VersionInfo),
      (entries.map fun pin => (Datum.text pin.1, pin.2)).foldlM indexPin start =
        .ok ((entries.map fun pin => (TypeKey.ofName pin.1, pin.2)).foldl
          (fun index pin => index.put pin.1 pin.2) start) := by
    intro entries
    induction entries with
    | nil => exact fun _ => rfl
    | cons pin rest ih => exact fun start => ih (start.put (.ofName pin.1) pin.2)
  refine ⟨_, taken pins.entries OrderedMap.empty, fun key => ?_⟩
  rw [OrderedMap.find?_foldl_put, OrderedMap.find?_empty, Option.or_none]
  rfl

/-! ## Checks -/

/-- The question is whether a version is still valid. -/
def Call.IsCheck : Call → Prop
  | isInvalid .. => True
  | _ => False

/-- The question whether the pinned version is still valid. -/
def pinCheck (pin : TypeKey × VersionInfo) : Call :=
  .isInvalid pin.1 pin.2.version

namespace Sources

/-- The rule evaluator puts the question itself when it is asked about some flow. -/
def EvaluatorPuts (s : Sources) (question : Call) : Prop :=
  ∃ calls flowName key label, question ∈ (s.isExcluded calls flowName key label).2

variable {s : Sources} {before pins rest : List (TypeKey × VersionInfo)}
  {pin other : TypeKey × VersionInfo}

/-- What the check of a pin answers once the pins before it have been checked. -/
def verdict (s : Sources) (before : List (TypeKey × VersionInfo)) (pin : TypeKey × VersionInfo) :
    Except Fault Bool :=
  s.isInvalid (before.map pinCheck) pin.1 pin.2.version

/-- In its turn among the pins, which come after those `before` them, the check of a pin gives the
answer. -/
def Checks (s : Sources) (before pins : List (TypeKey × VersionInfo))
    (pin : TypeKey × VersionInfo) (answer : Bool) : Prop :=
  ∃ earlier later, pins = earlier ++ pin :: later ∧ s.verdict (before ++ earlier) pin = .ok answer

/-- What the checks of the pins come to, after those `before` them, with all checks made by then:
the types of the invalid pins, or the first fault, which no check comes after. -/
inductive Scans (s : Sources) (before pins : List (TypeKey × VersionInfo)) :
    Except Fault (List TypeKey) → List Call → Prop where
  | failed {earlier later : List (TypeKey × VersionInfo)} {pin : TypeKey × VersionInfo}
      {fault : Fault} (split : pins = earlier ++ pin :: later)
      (answered : ∀ other ∈ earlier, ∃ answer, s.Checks before earlier other answer)
      (fails : s.verdict (before ++ earlier) pin = .error fault) :
      Scans s before pins (.error fault) ((before ++ earlier ++ [pin]).map pinCheck)
  | done {invalid : List TypeKey}
      (answered : ∀ pin ∈ pins, ∃ answer, s.Checks before pins pin answer)
      (exactly : ∀ key, key ∈ invalid ↔ ∃ info, s.Checks before pins (key, info) true) :
      Scans s before pins (.ok invalid) ((before ++ pins).map pinCheck)

theorem checks_cons_iff {answer : Bool} :
    s.Checks before (pin :: rest) other answer ↔
      other = pin ∧ s.verdict before pin = .ok answer ∨
        s.Checks (before ++ [pin]) rest other answer := by
  constructor
  · rintro ⟨earlier, later, split, answered⟩
    cases earlier with
    | nil =>
      cases split
      rw [List.append_nil] at answered
      exact .inl ⟨rfl, answered⟩
    | cons first earlier =>
      cases split
      refine .inr ⟨earlier, later, rfl, ?_⟩
      rw [List.append_assoc]
      exact answered
  · rintro (⟨rfl, answered⟩ | ⟨earlier, later, rfl, answered⟩)
    · exact ⟨[], rest, rfl, by rwa [List.append_nil]⟩
    · refine ⟨pin :: earlier, later, rfl, ?_⟩
      rw [List.append_assoc] at answered
      exact answered

/-- All pins are answered for when the first one is and the others are after it. -/
theorem answered_cons {answer : Bool} (first : s.verdict before pin = .ok answer)
    (answered : ∀ other ∈ rest, ∃ answer, s.Checks (before ++ [pin]) rest other answer) :
    ∀ other ∈ pin :: rest, ∃ answer, s.Checks before (pin :: rest) other answer := by
  rintro other member
  rcases List.mem_cons.mp member with rfl | later
  · exact ⟨answer, checks_cons_iff.mpr (.inl ⟨rfl, first⟩)⟩
  · obtain ⟨answer, checks⟩ := answered other later
    exact ⟨answer, checks_cons_iff.mpr (.inr checks)⟩

theorem Scans.cons {answer : Bool} {result : Except Fault (List TypeKey)} {calls : List Call}
    (scans : s.Scans (before ++ [pin]) rest result calls)
    (first : s.verdict before pin = .ok answer) :
    s.Scans before (pin :: rest)
      (result.map fun others => if answer then pin.1 :: others else others) calls := by
  cases scans with
  | failed split answered fails =>
    rw [List.append_assoc before] at fails ⊢
    refine .failed (by rw [split]; rfl) (answered_cons first answered) fails
  | done answered exactly =>
    rw [List.append_assoc before]
    refine .done (answered_cons first answered) fun key => ?_
    simp only [checks_cons_iff, exists_or, ← exactly key]
    cases answer with
    | true =>
      rw [if_pos rfl, List.mem_cons]
      refine or_congr_left ⟨?_, ?_⟩
      · rintro rfl
        exact ⟨pin.2, rfl, first⟩
      · rintro ⟨info, rfl, -⟩
        rfl
    | false =>
      -- the first pin is valid, so none is invalid on its account
      rw [if_neg Bool.false_ne_true]
      refine ⟨.inr, fun either => either.elim ?_ id⟩
      rintro ⟨info, -, invalid⟩
      exact nomatch first.symm.trans invalid

theorem Scans.mem_iff {invalid : List TypeKey} {calls : List Call}
    (scans : s.Scans before pins (.ok invalid) calls) (key : TypeKey) :
    key ∈ invalid ↔ ∃ info, s.Checks before pins (key, info) true := by
  cases scans with
  | done answered exactly => exact exactly key

/-- What is found to be invalid is pinned. -/
theorem Scans.pinned {invalid : List TypeKey} {calls : List Call}
    (scans : s.Scans before pins (.ok invalid) calls) {key : TypeKey} (member : key ∈ invalid) :
    key ∈ pins.map Prod.fst := by
  obtain ⟨info, earlier, later, rfl, -⟩ := (scans.mem_iff key).mp member
  exact List.mem_map.mpr ⟨(key, info), by simp, rfl⟩

end Sources

namespace Resolver

theorem leads_invalidPins (r : Resolver) (before pins : List (TypeKey × VersionInfo)) :
    (r.invalidPins pins).Leads (before.map pinCheck) (r.sources.Scans before pins) := by
  induction pins generalizing before with
  | nil =>
    refine Lookup.leads_pure ?_
    have nothing : r.sources.Scans before [] (.ok []) ((before ++ []).map pinCheck) := by
      refine .done (by simp) fun key => ⟨nofun, ?_⟩
      rintro ⟨info, earlier, later, split, -⟩
      exact absurd split (by simp)
    rwa [List.append_nil] at nothing
  | cons pin rest ih =>
    have onward := ih (before ++ [pin])
    rw [List.map_append] at onward
    refine (Lookup.leads_ask _ _ _).bind ?_ ?_
    · rintro answer _ ⟨asked, rfl⟩
      exact onward.bind (fun others after scans => Lookup.leads_pure (scans.cons asked))
        fun fault after scans => scans.cons asked
    · rintro fault _ ⟨asked, rfl⟩
      have failed : r.sources.Scans before (pin :: rest) (.error fault)
          ((before ++ [] ++ [pin]).map pinCheck) :=
        .failed rfl (by simp) (by rw [List.append_nil]; exact asked)
      rw [List.append_nil, List.map_append] at failed
      exact failed

/-! ## The types of invalid pins -/

theorem checks_questions (r : Resolver) (flow : Option Flow) :
    r.QuestionsHave flow fun _ lookup =>
      lookup.Asks fun call => call.IsCheck → r.sources.EvaluatorPuts call where
  findVersions _ _ := Lookup.asks_ask nofun _
  activeVersions _ := Lookup.asks_ask nofun _
  latestVersions _ := Lookup.asks_ask nofun _
  plansFor _ := Lookup.asks_ask nofun _
  bucket _ _ := Lookup.asks_ask nofun _
  isExcluded f _ key label := Lookup.asks_askThrough nofun fun calls _ member _ =>
    ⟨calls, f.name, key, label, member⟩

/-- After the calls, a request for the types alone has this outcome, in whatever order and spelling
they are listed, and makes further calls; no version is checked by them, unless by the evaluator. -/
structure ResolvesAlone (r : Resolver) (flow : Option Flow) (types : List TypeKey)
    (calls : List Call) (outcome : Except Fault (List (TypeKey × VersionInfo)))
    (further : List Call) : Prop where
  resolved : ∀ texts : List String,
    NameSet.normalized texts = NameSet.ofList (types.map TypeKey.text) →
    (r.subset flow (.list (texts.map .text)) (.list [])).Arrives calls outcome (calls ++ further)
  unchecked : ∀ call ∈ further, call.IsCheck → r.sources.EvaluatorPuts call

theorem arrives_subsetWanted (r : Resolver) (flow : Option Flow) (types : List TypeKey)
    (calls : List Call) :
    ∃ outcome further, r.ResolvesAlone flow types calls outcome further ∧
      (r.subsetWanted flow (NameSet.ofList (types.map TypeKey.text))
        (.ok NameSet.empty)).Arrives calls outcome (calls ++ further) ∧
      ∀ renewed, outcome = .ok renewed → renewed.map (fun entry => entry.1.text) =
        (NameSet.ofList (types.map TypeKey.text)).toList := by
  have determined := (r.determined_questions flow).subsetWanted Lookup.closed_determined
    (NameSet.ofList (types.map TypeKey.text)) (.ok NameSet.empty)
  obtain ⟨outcome, made, arrives⟩ := determined calls
  obtain ⟨further, rfl, unchecked⟩ := arrives.holds
    ((r.checks_questions flow).subsetWanted (Lookup.closed_asks _) _ _ calls)
  refine ⟨outcome, further, ⟨fun texts listed => ?_, unchecked⟩, arrives, ?_⟩
  · rw [← listed] at arrives
    exact (Lookup.arrives_give (NameSet.ofDatum_texts rfl) calls).bind_ok arrives
  · have names : (r.subsetWanted flow (NameSet.ofList (types.map TypeKey.text))
        (.ok NameSet.empty)).Returns calls fun renewed _ =>
          renewed.map (fun entry => entry.1.text) =
            (NameSet.ofList (types.map TypeKey.text)).toList :=
      (Lookup.leads_ask _ _ calls).returns.bind fun book calls _ =>
        returns_all r flow (NameSet.isNormalized_keys types) (some book) calls
    exact arrives.holds names

/-! ## Merging -/

/-- The pins with the renewed versions in place of the invalid ones. -/
structure Merges (pins : OrderedMap TypeKey VersionInfo) (invalid : List TypeKey)
    (renewed merged : List (TypeKey × VersionInfo)) : Prop where
  ascending : (merged.map fun entry => entry.1.text).Pairwise (· < ·)
  types : ∀ key, key ∈ merged.map Prod.fst ↔ key ∈ pins.keys
  replaced : ∀ key ∈ invalid, ∀ info, (key, info) ∈ merged ↔ (key, info) ∈ renewed
  kept : ∀ key, key ∉ invalid → ∀ info, (key, info) ∈ merged ↔ pins.find? key = some info

theorem merges_of_names {pins : OrderedMap TypeKey VersionInfo} {invalid : List TypeKey}
    (pinned : ∀ key ∈ invalid, key ∈ pins.keys) {renewed : List (TypeKey × VersionInfo)}
    (names : renewed.map (fun entry => entry.1.text) =
      (NameSet.ofList (invalid.map TypeKey.text)).toList) :
    Merges pins invalid renewed
      ((renewed.foldl (fun pins entry => pins.put entry.1 entry.2) pins).sortedBy
        TypeKey.text) := by
  have nodup : (renewed.map Prod.fst).Nodup := by
    apply OrderedMap.nodup_of_ascending TypeKey.text
    rw [names]
    exact (NameSet.ofList (invalid.map TypeKey.text)).ascending
  have renewed_iff : ∀ key, key ∈ renewed.map Prod.fst ↔ key ∈ invalid := by
    intro key
    have texts : renewed.map (fun entry => entry.1.text) =
        (renewed.map Prod.fst).map TypeKey.text := by
      rw [List.map_map]
      rfl
    rw [← TypeKey.text_mem_map_iff, ← texts, names, ← NameSet.mem_def, NameSet.mem_ofList,
      TypeKey.text_mem_map_iff]
  have held : ∀ key info, (key, info) ∈
      (renewed.foldl (fun pins entry => pins.put entry.1 entry.2) pins).sortedBy TypeKey.text ↔
        (OrderedMap.lookupEntry key renewed).or (pins.find? key) = some info := by
    intro key info
    rw [OrderedMap.mem_sortedBy, OrderedMap.find?_foldl_put,
      OrderedMap.lookupEntry_reverse key nodup]
  have absent : ∀ key, key ∉ invalid → OrderedMap.lookupEntry key renewed = none := by
    intro key valid
    rw [OrderedMap.lookupEntry_eq_none_iff, renewed_iff]
    exact valid
  have present : ∀ key ∈ invalid, ∃ info, OrderedMap.lookupEntry key renewed = some info := by
    intro key among
    rw [← Option.ne_none_iff_exists', ne_eq, OrderedMap.lookupEntry_eq_none_iff, renewed_iff]
    exact not_not_intro among
  constructor
  · exact OrderedMap.strictly_ascending_sortedBy (fun _ _ => TypeKey.ext) _
  · intro key
    simp only [List.mem_map, Prod.exists, exists_and_right, exists_eq_right, held]
    by_cases among : key ∈ invalid
    · obtain ⟨info, found⟩ := present key among
      rw [found]
      exact ⟨fun _ => pinned key among, fun _ => ⟨info, rfl⟩⟩
    · rw [absent key among, Option.none_or, ← OrderedMap.contains_iff, OrderedMap.contains,
        Option.isSome_iff_exists]
  · intro key among info
    obtain ⟨own, found⟩ := present key among
    rw [held, found, Option.some_or, ← found, OrderedMap.lookupEntry_eq_some_iff nodup]
  · intro key valid info
    rw [held, absent key valid, Option.none_or]

/-! ## The request -/

/-- What a request to reconcile the pins comes to, with the calls that it makes. -/
inductive Reconciles (r : Resolver) (flow : Option Flow) (pins : OrderedMap TypeKey VersionInfo) :
    Except Fault (List (TypeKey × VersionInfo)) → List Call → Prop where
  /-- A check fails. -/
  | unchecked {fault : Fault} {checks : List Call}
      (scans : r.sources.Scans [] pins.entries (.error fault) checks) :
      Reconciles r flow pins (.error fault) checks
  /-- All pins are valid. -/
  | kept {checks : List Call} (scans : r.sources.Scans [] pins.entries (.ok []) checks) :
      Reconciles r flow pins (.ok (pins.sortedBy TypeKey.text)) checks
  /-- The types of the invalid pins cannot be resolved. -/
  | unrenewed {invalid : List TypeKey} {checks further : List Call} {fault : Fault}
      (scans : r.sources.Scans [] pins.entries (.ok invalid) checks) (some_invalid : invalid ≠ [])
      (resolves : r.ResolvesAlone flow invalid checks (.error fault) further) :
      Reconciles r flow pins (.error fault) (checks ++ further)
  /-- The invalid pins are replaced. -/
  | renewed {invalid : List TypeKey} {checks further : List Call}
      {renewed merged : List (TypeKey × VersionInfo)}
      (scans : r.sources.Scans [] pins.entries (.ok invalid) checks) (some_invalid : invalid ≠ [])
      (resolves : r.ResolvesAlone flow invalid checks (.ok renewed) further)
      (merges : Merges pins invalid renewed merged) :
      Reconciles r flow pins (.ok merged) (checks ++ further)

theorem leads_reconcile (r : Resolver) (flow : Option Flow)
    (pins : OrderedMap TypeKey VersionInfo) :
    (r.reconcile flow pins).Leads [] (r.Reconciles flow pins) := by
  refine (leads_invalidPins r [] pins.entries).bind (fun invalid checks scans => ?_)
    fun fault checks scans => .unchecked scans
  split
  · rename_i nothing
    obtain rfl := List.isEmpty_iff.mp nothing
    exact Lookup.leads_pure (.kept scans)
  · rename_i something
    have some_invalid : invalid ≠ [] := fun none => something (List.isEmpty_iff.mpr none)
    obtain ⟨outcome, further, resolves, arrives, names⟩ :=
      arrives_subsetWanted r flow invalid checks
    cases outcome with
    | error fault =>
      exact arrives.bind_error.imp fun _ _ _ same =>
        same.1 ▸ same.2 ▸ .unrenewed scans some_invalid resolves
    | ok renewed =>
      refine arrives.bind_ok (Lookup.leads_pure (.renewed scans some_invalid resolves ?_))
      exact merges_of_names (fun key member => scans.pinned member) (names renewed rfl)

/-- **Reconciling replaces exactly the invalid pins.** Whatever the sources answer, every pin of a
version set is checked once, and the versions are those of the set, in ascending order of their
types, but for the invalid pins: these get what a request for their types alone returns, and where
it fails, so does this one. Without an invalid pin nothing but the checks is asked. -/
theorem reconcile_replaces (r : Resolver) (flow : Option Flow)
    (pins : OrderedMap String VersionInfo) :
    ∃ index, pinsByKey (versionSet pins) = .ok index ∧
      (∀ key, index.find? key = pinOf pins key) ∧
      r.Reconciles flow index (r.reconcile flow index).start.1
        (r.reconcile flow index).start.2.calls := by
  obtain ⟨index, indexed, found⟩ := pinsByKey_versionSet pins
  exact ⟨index, indexed, found, (leads_reconcile r flow index).start⟩

end Resolver

end Rollout

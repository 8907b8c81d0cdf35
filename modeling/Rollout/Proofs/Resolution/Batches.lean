import Rollout.Proofs.Resolution.Talks

/-!
# Look-ups in batches

A resolution looks versions up for several types at once, and each batch is for the types that are
left by what was answered before it. The link between a resolution and the transcript of it is what
the resolution leaves unresolved (`Resolution.Leaves`): each tier leaves the types that its answers
do not decide, and the next tier asks for these.

The main statement, `resolve_follows`, says that the calls of every resolution are those of a
transcript that follows the tiers, whatever the sources answer and however they fail.
-/

namespace Rollout

/-! ## The types that are left -/

namespace Resolution

/-- The wanted names are decided or unresolved, and the decided ones are those of the types with the
property. -/
structure Leaves (resolution : Resolution) (wanted : NameSet)
    (decided : TypeKey → Prop) : Prop where
  partitions : resolution.Partitions wanted
  undecided_iff : ∀ key : TypeKey, key.text ∈ wanted →
    (resolution.decisions.find? key = none ↔ ¬ decided key)

variable {resolution next : Resolution} {wanted : NameSet} {decided : TypeKey → Prop}

theorem Leaves.congr {decided' : TypeKey → Prop} (leaves : resolution.Leaves wanted decided)
    (same : ∀ key, decided key ↔ decided' key) : resolution.Leaves wanted decided' := by
  refine ⟨leaves.partitions, fun key wants => ?_⟩
  rw [leaves.undecided_iff key wants, same]

theorem Leaves.mem_unresolved_iff (leaves : resolution.Leaves wanted decided) (key : TypeKey) :
    key.text ∈ resolution.unresolved ↔ key.text ∈ wanted ∧ ¬ decided key := by
  rw [leaves.partitions.unresolved_iff, TypeKey.ofName_text]
  constructor
  · rintro ⟨wants, undecided⟩
    exact ⟨wants, (leaves.undecided_iff key wants).mp undecided⟩
  · rintro ⟨wants, undecided⟩
    exact ⟨wants, (leaves.undecided_iff key wants).mpr undecided⟩

/-- Where something is left, a batch for the unresolved names is for the undecided types. -/
theorem Leaves.isFor (leaves : resolution.Leaves wanted decided) (normalized : wanted.IsNormalized)
    (left : ¬ resolution.unresolved.isEmpty = true) {batch : VersionBatch}
    (names : batch.names = resolution.unresolved) :
    batch.IsFor fun key => key.text ∈ wanted ∧ ¬ decided key := by
  have mem_names_iff : ∀ name, name ∈ batch.names ↔
      ∃ key : TypeKey, key.text = name ∧ key.text ∈ wanted ∧ ¬ decided key := by
    intro name
    rw [names]
    constructor
    · intro unresolved
      have wants := ((leaves.partitions.unresolved_iff name).mp unresolved).1
      have own := normalized.text_ofName wants
      exact ⟨.ofName name, own, (leaves.mem_unresolved_iff _).mp (by rwa [own])⟩
    · rintro ⟨key, rfl, undecided⟩
      exact (leaves.mem_unresolved_iff key).mpr undecided
  refine ⟨?_, mem_names_iff⟩
  obtain ⟨name, rest, listed⟩ := List.exists_cons_of_ne_nil (mt List.isEmpty_iff.mpr left)
  have unresolved : name ∈ batch.names := by
    rw [names, NameSet.mem_def, listed]
    exact List.mem_cons_self
  obtain ⟨key, -, undecided⟩ := (mem_names_iff name).mp unresolved
  exact ⟨key, undecided⟩

theorem Leaves.nobody (leaves : resolution.Leaves wanted decided)
    (done : resolution.unresolved.isEmpty = true) :
    ¬ ∃ key : TypeKey, key.text ∈ wanted ∧ ¬ decided key := by
  rintro ⟨key, undecided⟩
  exact NameSet.not_mem_of_isEmpty done _ ((leaves.mem_unresolved_iff key).mpr undecided)

/-- A tier that takes the first version of each unresolved type decides those that have one. -/
theorem Leaves.takeFirst (leaves : resolution.Leaves wanted decided)
    (normalized : wanted.IsNormalized) {selection : Selection}
    {versions : Option (List ImageVersion)}
    (taken : Resolver.takeFirst selection resolution versions = .ok next) :
    next.Leaves wanted fun key => decided key ∨ ∃ v ∈ versions.getD [], v.key = .ok key := by
  rw [Resolver.takeFirst_eq] at taken
  cases indexed : Resolver.firstByKey (versions.getD []) resolution.unresolved with
  | error fault =>
    rw [indexed] at taken
    cases taken
  | ok first =>
    rw [indexed] at taken
    cases taken
    refine ⟨leaves.partitions.decideAll normalized
      (Resolver.wanted_of_firstDecisions selection leaves.partitions indexed), fun key wants => ?_⟩
    rw [find?_decideAll, Resolver.lookupEntry_firstDecisions, Option.or_eq_none_iff,
      leaves.undecided_iff key wants, Option.map_eq_none_iff, not_or]
    refine and_congr_right fun undecided => Resolver.find?_firstByKey_eq_none_iff indexed ?_
    exact (leaves.mem_unresolved_iff key).mpr ⟨wants, undecided⟩

end Resolution

namespace Resolver

open Lookup Transcript

variable {r : Resolver} {tolerant : Bool} {calls : List Call} {placed : Option (Flow × Int)}

/-! ## Single questions -/

theorem says_plansFor (r : Resolver) (names : NameSet) (calls : List Call) :
    (ask (.plansFor names) (r.sources.plansFor · names)).Says r.sources tolerant calls
      fun result said => said = [.plansFor names result] :=
  says_ask (fun _ => rfl) rfl fun _ => by simp [Exchange.IsFatal]

theorem says_activeVersions (r : Resolver) (names : NameSet) (calls : List Call) :
    (ask (.activeVersions names) (r.sources.activeVersions · names)).Says r.sources tolerant calls
      fun result said => said = [.activeVersions names result] :=
  says_ask (fun _ => rfl) rfl fun _ => by simp [Exchange.IsFatal]

theorem says_latestVersions (r : Resolver) (names : NameSet) (calls : List Call) :
    (ask (.latestVersions names) (r.sources.latestVersions · names)).Says r.sources tolerant calls
      fun result said => said = [.latestVersions names result] :=
  says_ask (fun _ => rfl) rfl fun _ => by simp [Exchange.IsFatal]

/-- A tolerant resolution goes on with nothing where the answer is a fault. -/
theorem says_fetch {α : Type} {what : String} {default : α} {lookup : Lookup α}
    {exchange : Except Fault α → Exchange}
    (spoken : lookup.Says r.sources tolerant calls fun result said => said = [exchange result])
    (excused : tolerant = true → ∀ answer, ¬ (exchange answer).IsFatal tolerant) :
    (fetch tolerant what default lookup).Says r.sources tolerant calls fun result said =>
      ∃ answer, said = [exchange answer] ∧ ∀ a, result = .ok a →
        answer = .ok a ∨ tolerant = true ∧ (∃ fault, answer = .error fault) ∧ a = default := by
  cases tolerant with
  | false =>
    refine spoken.imp ?_
    rintro result said rfl
    exact ⟨result, rfl, fun a same => .inl same⟩
  | true =>
    refine spoken.orElse ?_ ?_
    · rintro a said rfl
      exact ⟨.ok a, rfl, fun b same => .inl same⟩
    · rintro fault said rfl
      refine ⟨?_, says_warn_pure _ ⟨.error fault, rfl, ?_⟩⟩
      · intro other member
        rw [List.mem_singleton.mp member]
        exact excused rfl _
      · rintro _ ⟨⟩
        exact .inr ⟨rfl, ⟨fault, rfl⟩, rfl⟩

/-! ## Batches of versions -/

/-- A batch finds what is gone on with after it. -/
theorem finds_iff_of_fetched {names : NameSet} {versions : Option (List ImageVersion)}
    {answer : Except Fault (Option (List ImageVersion))}
    (fetched : answer = .ok versions ∨
      tolerant = true ∧ (∃ fault, answer = .error fault) ∧ versions = none) (key : TypeKey) :
    Batch.Finds ⟨names, answer⟩ key ↔ ∃ v ∈ versions.getD [], v.key = .ok key := by
  rcases fetched with rfl | ⟨-, ⟨fault, rfl⟩, rfl⟩
  · simp [Batch.Finds]
  · simp [Batch.Finds]

theorem says_fetchActive (r : Resolver) (names : NameSet) (calls : List Call) :
    (r.fetchActive tolerant names).Says r.sources tolerant calls fun result said =>
      ∃ batch : VersionBatch, batch.names = names ∧ said = [batch.activeExchange] ∧
        ∀ versions, result = .ok versions → ∀ key,
          batch.Finds key ↔ ∃ v ∈ versions.getD [], v.key = .ok key := by
  refine (says_fetch (says_activeVersions r names calls) ?_).imp ?_
  · rintro rfl answer
    simp [Exchange.IsFatal]
  · rintro result _ ⟨answer, rfl, fetched⟩
    exact ⟨⟨names, answer⟩, rfl, rfl, fun versions same =>
      finds_iff_of_fetched (fetched versions same)⟩

theorem says_fetchLatest (r : Resolver) (names : NameSet) (calls : List Call) :
    (fetch true "latest non-ACTIVE versions" none
      (ask (.latestVersions names) (r.sources.latestVersions · names))).Says r.sources true calls
      fun _ said => ∃ batch : VersionBatch,
        batch.names = names ∧ said = [batch.latestExchange] := by
  refine (says_fetch (says_latestVersions r names calls) ?_).imp ?_
  · simp [Exchange.IsFatal]
  · rintro result _ ⟨answer, rfl, -⟩
    exact ⟨⟨names, answer⟩, rfl, rfl⟩

/-- The types that the evaluator bars are asked for in one batch, and replaced by what it finds. -/
theorem says_ruleFallback (r : Resolver) (resolution : Resolution)
    (excluded : List (TypeKey × PlanEntry × Plan)) (calls : List Call) :
    (r.ruleFallback tolerant resolution excluded).Says r.sources tolerant calls
      fun result said => ∃ fallback : Option VersionBatch,
        said = (fallback.map Batch.activeExchange).toList ∧
        (∀ batch ∈ fallback, excluded ≠ [] ∧
          ∀ name, name ∈ batch.names ↔ ∃ entry ∈ excluded, entry.1.text = name) ∧
        ∀ next, result = .ok next → ∃ latest,
          next = resolution.decideAll (replacements latest excluded) ∧
          ∀ entry ∈ excluded, ∃ batch ∈ fallback, (latest entry.1 = none ↔ ¬ batch.Finds entry.1) ∧
            (tolerant = false → batch.Finds entry.1) := by
  rw [ruleFallback]
  split
  · rename_i nothing
    obtain rfl := List.isEmpty_iff.mp nothing
    refine says_pure ⟨none, rfl, by simp, ?_⟩
    rintro _ ⟨⟩
    exact ⟨fun _ => none, rfl, by simp⟩
  · rename_i filled
    have filled : excluded ≠ [] := by simpa using filled
    have named : ∀ name, name ∈ NameSet.ofList (excluded.map fun entry => entry.1.text) ↔
        ∃ entry ∈ excluded, entry.1.text = name := by simp
    have asked : ∀ {batch : VersionBatch},
        batch.names = NameSet.ofList (excluded.map fun entry => entry.1.text) →
        ∀ replaced ∈ some batch, excluded ≠ [] ∧
          ∀ name, name ∈ replaced.names ↔ ∃ entry ∈ excluded, entry.1.text = name := by
      rintro batch names _ ⟨⟩
      rw [names]
      exact ⟨filled, named⟩
    refine (says_fetchActive r _ calls).bind ?_ ?_
    · rintro versions _ ⟨batch, names, rfl, finds_iff⟩
      refine (says_give _ _).bind ?_ ?_
      · rintro active _ ⟨rfl, indexed⟩
        refine (says_quiet
          (composed_replaceExcluded closed_quiet.composed active resolution excluded)
          (returns_replaceExcluded active resolution excluded _)).imp ?_
        rintro result _ ⟨rfl, replaced⟩
        refine ⟨some batch, rfl, asked names, fun next same => ?_⟩
        obtain ⟨rfl, strict⟩ := replaced next same
        refine ⟨active.find?, rfl, fun entry member => ?_⟩
        have missing_iff : active.find? entry.1 = none ↔ ¬ batch.Finds entry.1 := by
          rw [find?_firstByKey_eq_none_iff indexed ((named _).mpr ⟨entry, member, rfl⟩),
            finds_iff versions rfl]
        refine ⟨batch, rfl, missing_iff, fun intolerant => ?_⟩
        obtain ⟨version, found⟩ := strict intolerant entry member
        refine Classical.byContradiction fun missed => ?_
        rw [missing_iff.mpr missed] at found
        cases found
      · rintro fault _ ⟨rfl, -⟩
        exact ⟨some batch, rfl, asked names, by rintro _ ⟨⟩⟩
    · rintro fault _ ⟨batch, names, rfl, -⟩
      exact ⟨some batch, rfl, asked names, by rintro _ ⟨⟩⟩

/-! ## The rampup tier -/

/-- The bucket function is asked about a flow that is given. -/
theorem says_place (r : Resolver) (flow : Option Flow) (calls : List Call) :
    (r.place flow).Says r.sources tolerant calls fun result said =>
      ∃ asked : Option (Flow × Except Fault Datum),
        said = (asked.map fun place => .bucket place.1 place.2).toList ∧
        (∀ place ∈ asked, flow = some place.1) ∧
        ∀ placed, result = .ok placed → Placed asked flow placed := by
  cases flow with
  | none =>
    refine says_pure ⟨none, rfl, by simp, ?_⟩
    rintro _ ⟨⟩
    exact .nowhere
  | some flow =>
    have bucketed : (r.bucketOf flow).Says r.sources tolerant calls fun result said =>
        ∃ answer, said = [.bucket flow answer] ∧
          ∀ n, result = .ok n → answer = .ok (.int n) ∧ 1 ≤ n ∧ n ≤ bucketCount := by
      have asked : (ask (.bucket flow.identity) (r.sources.bucketOf · flow)).Says r.sources tolerant
          calls fun result said => said = [.bucket flow result] :=
        says_ask (fun _ => rfl) rfl fun _ => by simp [Exchange.IsFatal]
      refine asked.bind ?_ ?_
      · rintro answer _ rfl
        split
        · split
          · rename_i inside
            refine says_pure ⟨_, rfl, ?_⟩
            rintro _ ⟨⟩
            exact ⟨rfl, inside⟩
          · exact says_throw ⟨_, rfl, by rintro _ ⟨⟩⟩
        · exact says_throw ⟨_, rfl, by rintro _ ⟨⟩⟩
      · rintro fault _ rfl
        exact ⟨_, rfl, by rintro _ ⟨⟩⟩
    refine bucketed.bind ?_ ?_
    · rintro n _ ⟨answer, rfl, inside⟩
      obtain ⟨rfl, low, high⟩ := inside n rfl
      refine says_pure ⟨some (flow, .ok (.int n)), rfl, by simp, ?_⟩
      rintro _ ⟨⟩
      exact .bucket rfl low high
    · rintro fault _ ⟨answer, rfl, -⟩
      exact ⟨some (flow, answer), rfl, by simp, by rintro _ ⟨⟩⟩

/-- The fallback is for the types that the evaluator bars. -/
theorem isFor_bars {talks : List Talk} {outcomes : List (TypeKey × RampupOutcome)}
    (all : AllCome tolerant talks outcomes) (excludes : excludedTypes outcomes ≠ [])
    {batch : VersionBatch} (named : ∀ name, name ∈ batch.names ↔
      ∃ entry ∈ excludedTypes outcomes, entry.1.text = name) :
    batch.IsFor (Bars { talks := talks }) where
  exist := by
    obtain ⟨⟨key, entry, plan⟩, rest, split⟩ := List.exists_cons_of_ne_nil excludes
    have member : (key, entry, plan) ∈ excludedTypes outcomes := by simp [split]
    exact ⟨key, (all.bars_iff key).mpr ⟨entry, plan, mem_excludedTypes.mp member⟩⟩
  mem_names_iff := by
    intro name
    rw [named]
    constructor
    · rintro ⟨⟨key, entry, plan⟩, member, rfl⟩
      exact ⟨key, rfl, (all.bars_iff key).mpr ⟨entry, plan, mem_excludedTypes.mp member⟩⟩
    · rintro ⟨key, rfl, bars⟩
      obtain ⟨entry, plan, member⟩ := (all.bars_iff key).mp bars
      exact ⟨(key, entry, plan), mem_excludedTypes.mpr member, rfl⟩

/-- What the rampup tier leaves is what the transcript says that it leaves. -/
theorem leaves_ramps {t : Transcript} {wanted : NameSet} (normalized : wanted.IsNormalized)
    (bucket : Datum) {outcomes : List (TypeKey × RampupOutcome)}
    (all : AllCome tolerant t.talks outcomes) (nodup : (outcomes.map Prod.fst).Nodup)
    (wants : ∀ key ∈ outcomes.map Prod.fst, key.text ∈ wanted)
    {latest : TypeKey → Option ImageVersion}
    (replaced : ∀ entry ∈ excludedTypes outcomes, ∃ batch ∈ t.fallback,
      (latest entry.1 = none ↔ ¬ batch.Finds entry.1)) :
    ((takeChosen { unresolved := wanted, bucket := bucket } outcomes).decideAll
      (replacements latest (excludedTypes outcomes))).Leaves wanted t.Ramps := by
  refine ⟨partitions_decided latest (Resolution.partitions_start wanted bucket) normalized wants,
    fun key _ => ?_⟩
  rw [find?_decided latest _ nodup, OrderedMap.find?_empty, Option.none_or, Transcript.Ramps,
    Bars, all.finds_iff, all.bars_iff]
  simp only [← OrderedMap.lookupEntry_eq_some_iff nodup]
  cases found : OrderedMap.lookupEntry key outcomes with
  | none => simp
  | some outcome =>
    cases outcome with
    | passed => simp [tierDecision]
    | chosen version plan => simp [tierDecision, chosenDecision]
    | excluded entry plan =>
      have member := OrderedMap.mem_of_lookupEntry found
      obtain ⟨batch, asked, missing_iff⟩ := replaced _ (mem_excludedTypes.mpr member)
      have asked : t.fallback = some batch := asked
      simp [tierDecision, replacement, asked, missing_iff]

variable {errand : Errand} {plans : Option (Batch PlanBook)}

/-- When all types were talked about, the fallback for those that the evaluator bars ends the
tier. -/
theorem says_fallback {index : OrderedMap TypeKey Plan} (normalized : errand.wanted.IsNormalized)
    (bucketed : Datum) {bucket : Option (Flow × Except Fault Datum)} {talks : List Talk}
    {outcomes : List (TypeKey × RampupOutcome)}
    (follows : Follows { plans := plans, bucket := bucket, talks := talks } r errand)
    (relevant : Relevant { plans := plans } errand index)
    (keys : outcomes.map Prod.fst = (index.sortedBy TypeKey.text).map Prod.fst)
    (all : AllCome errand.tolerant talks outcomes) (calls : List Call) :
    (r.ruleFallback errand.tolerant
      (takeChosen { unresolved := errand.wanted, bucket := bucketed } outcomes)
      (excludedTypes outcomes)).Says r.sources errand.tolerant calls fun result said =>
        ∃ fallback : Option VersionBatch,
          let t : Transcript := ⟨plans, bucket, talks, fallback, none, none⟩
          said = (fallback.map Batch.activeExchange).toList ∧ t.Follows r errand ∧
            ∀ resolution, result = .ok resolution →
              t.IsRamped errand ∧ resolution.Leaves errand.wanted t.Ramps := by
  have through : IsThrough { plans := plans, bucket := bucket, talks := talks } errand := by
    refine ⟨⟨index, relevant, all.keys.trans keys⟩, fun strict talk member => ?_⟩
    obtain ⟨outcome, -, comes⟩ := all.of_talk talk member
    exact comes.found strict
  have nodup : (outcomes.map Prod.fst).Nodup := by
    rw [keys]
    exact OrderedMap.nodup_sortedBy _ index
  have wants : ∀ key ∈ outcomes.map Prod.fst, key.text ∈ errand.wanted := by
    intro key member
    rw [keys] at member
    obtain ⟨⟨_, stored⟩, planned, rfl⟩ := List.mem_map.mp member
    obtain ⟨book, -, indexed⟩ := relevant
    exact PlanBook.wanted_of_indexed indexed (OrderedMap.mem_sortedBy.mp planned)
  refine (says_ruleFallback r _ _ calls).imp ?_
  rintro result _ ⟨fallback, rfl, due, nexts⟩
  refine ⟨fallback, rfl, follows_fallback follows through fun batch asked =>
    isFor_bars all (due batch asked).1 (due batch asked).2, fun resolution same => ?_⟩
  obtain ⟨latest, rfl, replaced⟩ := nexts resolution same
  refine ⟨⟨through.goOn, ?_⟩, leaves_ramps normalized _ all nodup wants ?_⟩
  · intro key bars
    obtain ⟨entry, plan, member⟩ := (all.bars_iff key).mp bars
    obtain ⟨batch, asked, -, finds⟩ := replaced _ (mem_excludedTypes.mpr member)
    exact ⟨batch, asked, finds⟩
  · intro entry member
    obtain ⟨batch, asked, missing_iff, -⟩ := replaced entry member
    exact ⟨batch, asked, missing_iff⟩

/-- The rampup tier goes on with a transcript that has asked for the plans. -/
theorem says_rampupTier {index : OrderedMap TypeKey Plan}
    (normalized : errand.wanted.IsNormalized)
    (follows : Follows { plans := plans } r errand)
    (relevant : Relevant { plans := plans } errand index) (calls : List Call) :
    (r.rampupTier errand.tolerant errand.flow index { unresolved := errand.wanted }).Says r.sources
      errand.tolerant calls fun result said => ∃ bucket talks fallback,
        let t : Transcript := ⟨plans, bucket, talks, fallback, none, none⟩
        t.exchanges = (plans.map Batch.plansExchange).toList ++ said ∧ t.Follows r errand ∧
          ∀ resolution, result = .ok resolution →
            t.IsRamped errand ∧ resolution.Leaves errand.wanted t.Ramps := by
  rw [rampupTier]
  split
  · rename_i nothing
    refine says_pure ⟨none, [], none, by simp [exchanges, opening], follows, ?_⟩
    rintro _ ⟨⟩
    refine ⟨⟨⟨⟨index, relevant, ?_⟩, by simp⟩, by simp [Bars]⟩,
      Resolution.partitions_start _ _, by simp [Ramps, Bars]⟩
    simp [OrderedMap.sortedBy, List.isEmpty_iff.mp nothing]
  · rename_i filled
    have filled : index.isEmpty = false := by simpa using filled
    refine (says_place r errand.flow calls).bind ?_ ?_
    · rintro placed _ ⟨bucket, rfl, flows, places⟩
      have places := places placed rfl
      have follows := follows_bucket follows relevant filled flows
      refine (says_rampupTypes r placed _ _).bind ?_ ?_
      · rintro outcomes _ ⟨talks, rfl, discusses, all⟩
        obtain ⟨keys, all⟩ := all outcomes rfl
        have follows := follows_talks follows relevant places discusses
        refine (says_fallback normalized _ follows relevant keys all _).imp ?_
        rintro result _ ⟨fallback, rfl, follows, ramped⟩
        exact ⟨bucket, talks, fallback, by simp [exchanges, opening], follows, ramped⟩
      · rintro fault _ ⟨talks, rfl, discusses, -⟩
        exact ⟨bucket, talks, none, by simp [exchanges, opening],
          follows_talks follows relevant places discusses, by rintro _ ⟨⟩⟩
    · rintro fault _ ⟨bucket, rfl, flows, -⟩
      exact ⟨bucket, [], none, by simp [exchanges, opening],
        follows_bucket follows relevant filled flows, by rintro _ ⟨⟩⟩

/-! ## Active and non-active -/

variable {t : Transcript} {resolution : Resolution}

theorem says_takeFirst {wanted : NameSet} {decided : TypeKey → Prop}
    (leaves : resolution.Leaves wanted decided) (normalized : wanted.IsNormalized)
    (selection : Selection) (versions : Option (List ImageVersion)) (calls : List Call) :
    (give (takeFirst selection resolution versions)).Says r.sources tolerant calls
      fun result said => said = [] ∧ ∀ next, result = .ok next →
        next.Leaves wanted fun key => decided key ∨ ∃ v ∈ versions.getD [], v.key = .ok key := by
  refine (says_give _ calls).imp ?_
  rintro result said ⟨rfl, taken⟩
  exact ⟨rfl, fun next same => leaves.takeFirst normalized (taken.trans same)⟩

/-- The second tier asks for the types that the rampup tier leaves. -/
theorem says_activeTier (normalized : errand.wanted.IsNormalized) (unasked : t.active = none)
    (never : t.latest = none) (follows : t.Follows r errand) (ramped : t.IsRamped errand)
    (leaves : resolution.Leaves errand.wanted t.Ramps) (calls : List Call) :
    (r.activeTier errand.tolerant resolution).Says r.sources errand.tolerant calls
      fun result said => ∃ active,
        let t' : Transcript := { t with active := active }
        t'.exchanges = t.exchanges ++ said ∧ t'.Follows r errand ∧
          ∀ next, result = .ok next → t'.IsActivated errand ∧
            next.Leaves errand.wanted fun key => t'.Ramps key ∨ t'.Activates key := by
  rw [activeTier]
  split
  · rename_i done
    refine says_pure ⟨none, by simp [exchanges, opening, unasked],
      follows_active follows never ramped (by simp), ?_⟩
    rintro _ ⟨⟩
    exact ⟨isActivated_active ramped fun left => absurd left (leaves.nobody done),
      leaves.congr fun key => by simp [Activates, Ramps, Bars]⟩
  · rename_i left
    refine (says_fetchActive r resolution.unresolved calls).bind ?_ ?_
    · rintro versions _ ⟨batch, names, rfl, finds_iff⟩
      refine (says_takeFirst leaves normalized .active versions _).imp ?_
      rintro result _ ⟨rfl, nexts⟩
      refine ⟨some batch, by simp [exchanges, opening, unasked, never],
        follows_active follows never ramped ?_, fun next same => ⟨isActivated_active ramped ?_, ?_⟩⟩
      · rintro _ ⟨⟩
        exact leaves.isFor normalized left names
      · simp
      · refine (nexts next same).congr fun key => ?_
        rw [← finds_iff versions rfl]
        simp [Activates, Ramps, Bars]
    · rintro fault _ ⟨batch, names, rfl, -⟩
      refine ⟨some batch, by simp [exchanges, opening, unasked, never],
        follows_active follows never ramped ?_, by rintro _ ⟨⟩⟩
      rintro _ ⟨⟩
      exact leaves.isFor normalized left names

/-- The third tier asks for the types that the first two leave. -/
theorem says_nonActiveTier (normalized : errand.wanted.IsNormalized)
    (lenient : errand.tolerant = true) (never : t.latest = none) (follows : t.Follows r errand)
    (activated : t.IsActivated errand)
    (leaves : resolution.Leaves errand.wanted fun key => t.Ramps key ∨ t.Activates key)
    (calls : List Call) :
    (r.nonActiveTier resolution).Says r.sources errand.tolerant calls fun result said => ∃ latest,
      let t' : Transcript := { t with latest := latest }
      t'.exchanges = t.exchanges ++ said ∧ t'.Follows r errand ∧
        ∀ next, result = .ok next → t'.IsComplete errand := by
  rw [nonActiveTier]
  split
  · rename_i done
    refine says_pure ⟨none, by simp [exchanges, opening, never],
      follows_latest follows lenient activated (by simp), ?_⟩
    rintro _ ⟨⟩
    exact isComplete_latest activated fun left => absurd left (leaves.nobody done)
  · rename_i left
    rw [lenient]
    refine (says_fetchLatest r resolution.unresolved calls).bind ?_ ?_
    · rintro versions _ ⟨batch, names, rfl⟩
      refine (says_takeFirst leaves normalized .nonActive versions _).imp ?_
      rintro result _ ⟨rfl, -⟩
      refine ⟨some batch, by simp [exchanges, opening, never],
        follows_latest follows lenient activated ?_, fun next _ => isComplete_latest activated ?_⟩
      · rintro _ ⟨⟩
        exact leaves.isFor normalized left names
      · simp
    · rintro fault _ ⟨batch, names, rfl⟩
      refine ⟨some batch, by simp [exchanges, opening, never],
        follows_latest follows lenient activated ?_, by rintro _ ⟨⟩⟩
      rintro _ ⟨⟩
      exact leaves.isFor normalized left names

/-! ## All tiers -/

theorem says_bookFor (r : Resolver) (errand : Errand) (calls : List Call) :
    (r.bookFor errand.tolerant errand.wanted errand.given).Says r.sources errand.tolerant calls
      fun result said => ∃ plans : Option (Batch PlanBook),
        said = (plans.map Batch.plansExchange).toList ∧
        (∀ batch ∈ plans, errand.given = none ∧ batch.names = errand.wanted) ∧
        ∀ book, result = .ok book → errand.GoesBy plans book := by
  cases given : errand.given with
  | some book =>
    refine says_pure ⟨none, rfl, by simp, ?_⟩
    rintro _ ⟨⟩
    exact .given given
  | none =>
    refine (says_fetch (says_plansFor r errand.wanted calls) ?_).imp ?_
    · intro lenient answer
      simp [Exchange.IsFatal, lenient]
    · rintro result _ ⟨answer, rfl, fetched⟩
      refine ⟨some ⟨errand.wanted, answer⟩, rfl, by simp, fun book same => ?_⟩
      rcases fetched book same with rfl | ⟨lenient, ⟨fault, rfl⟩, rfl⟩
      · exact .answered rfl
      · exact .missed rfl lenient

theorem says_resolveWanted (r : Resolver) (errand : Errand)
    (normalized : errand.wanted.IsNormalized) (filled : ¬ errand.wanted.isEmpty = true)
    (calls : List Call) :
    (r.resolveWanted errand.flow errand.wanted errand.tolerant errand.given).Says r.sources
      errand.tolerant calls fun result said => ∃ t : Transcript, t.exchanges = said ∧
        t.Follows r errand ∧ ∀ resolution, result = .ok resolution → t.IsComplete errand := by
  rw [resolveWanted, if_neg filled]
  refine (says_bookFor r errand calls).bind ?_ ?_
  · rintro book _ ⟨plans, rfl, due, goes_by⟩
    have opened : Follows { plans := plans } r errand := follows_plans due
    refine (says_settle _ _).bind ?_ ?_
    · rintro index _ ⟨rfl, indexed⟩
      have relevant : Relevant { plans := plans } errand index :=
        ⟨book, goes_by book rfl, indexed⟩
      refine (says_rampupTier normalized opened relevant _).bind ?_ ?_
      · rintro resolution said ⟨bucket, talks, fallback, said_eq, follows, ramped⟩
        obtain ⟨ramped, leaves⟩ := ramped resolution rfl
        refine (says_activeTier normalized rfl rfl follows ramped leaves _).bind ?_ ?_
        · rintro next more ⟨active, more_eq, follows, activated⟩
          obtain ⟨activated, leaves⟩ := activated next rfl
          split
          · rename_i lenient
            refine (says_nonActiveTier normalized lenient rfl follows activated leaves _).imp ?_
            rintro result last ⟨latest, last_eq, follows, complete⟩
            exact ⟨_, by rw [last_eq, more_eq, said_eq]; simp, follows, complete⟩
          · rename_i strict
            refine says_pure ⟨_, by rw [more_eq, said_eq]; simp, follows, ?_⟩
            rintro _ ⟨⟩
            exact ⟨activated, fun lenient => absurd lenient strict⟩
        · rintro fault more ⟨active, more_eq, follows, -⟩
          exact ⟨_, by rw [more_eq, said_eq]; simp, follows, by rintro _ ⟨⟩⟩
      · rintro fault said ⟨bucket, talks, fallback, said_eq, follows, -⟩
        exact ⟨_, by rw [said_eq]; simp, follows, by rintro _ ⟨⟩⟩
    · rintro fault _ ⟨rfl, -⟩
      exact ⟨{ plans := plans }, by simp [exchanges, opening], opened, by rintro _ ⟨⟩⟩
  · rintro fault _ ⟨plans, rfl, due, -⟩
    exact ⟨{ plans := plans }, by simp [exchanges, opening], follows_plans due,
      by rintro _ ⟨⟩⟩

/-- What a resolution for the named types says: nothing where the names have no normal forms or
there are none, and else a transcript that follows the tiers, and all of them where the resolution
returns. -/
inductive Recounts (r : Resolver) (flow : Option Flow) (names : Datum) (tolerant : Bool)
    (given : Option PlanBook) (returned : Prop) : Transcript → Prop where
  | unnamed {fault : Fault} (failed : NameSet.ofDatum names = .error fault) :
      Recounts r flow names tolerant given returned {}
  | nothing {wanted : NameSet} (listed : NameSet.ofDatum names = .ok wanted)
      (empty : wanted.isEmpty = true) : Recounts r flow names tolerant given returned {}
  | tiers {wanted : NameSet} {t : Transcript} (listed : NameSet.ofDatum names = .ok wanted)
      (filled : wanted.isEmpty = false) (follows : t.Follows r ⟨flow, wanted, tolerant, given⟩)
      (complete : returned → t.IsComplete ⟨flow, wanted, tolerant, given⟩) :
      Recounts r flow names tolerant given returned t

theorem says_resolve (r : Resolver) (flow : Option Flow) (names : Datum) (tolerant : Bool)
    (given : Option PlanBook) (calls : List Call) :
    (r.resolve flow names tolerant given).Says r.sources tolerant calls fun result said =>
      ∃ t : Transcript, t.exchanges = said ∧
        r.Recounts flow names tolerant given (∃ resolution, result = .ok resolution) t := by
  refine (says_give _ calls).bind ?_ ?_
  · rintro wanted _ ⟨rfl, listed⟩
    by_cases empty : wanted.isEmpty = true
    · rw [resolveWanted, if_pos empty]
      exact says_pure ⟨{}, rfl, .nothing listed empty⟩
    · refine (says_resolveWanted r ⟨flow, wanted, tolerant, given⟩
        (NameSet.isNormalized_of_ofDatum listed) empty _).imp ?_
      rintro result said ⟨t, rfl, follows, complete⟩
      refine ⟨t, rfl, .tiers listed (by simpa using empty) follows ?_⟩
      rintro ⟨resolution, same⟩
      exact complete resolution same
  · rintro fault _ ⟨rfl, failed⟩
    exact ⟨{}, rfl, .unnamed failed⟩

theorem Recounts.ascending {t : Transcript} {flow : Option Flow} {names : Datum}
    {given : Option PlanBook} {returned : Prop}
    (recounts : r.Recounts flow names tolerant given returned t) :
    (t.talks.map fun talk => talk.key.text).Pairwise (· < ·) := by
  cases recounts with
  | unnamed | nothing => simp
  | tiers _ _ follows _ => exact follows.ascending

/-- **Look-ups are batched, ordered and put once.** The calls of a resolution are those of a
transcript: the answers in it are the ones that the sources give after the calls before, nothing
follows an answer that the resolution ends with, each question is due by the answers before it, and
a resolution that returns has put every question that is due. The types are talked about in the
order of code points. On the execution path no question is put twice, and the two batches of ACTIVE
versions have no name in common. -/
theorem resolve_follows (r : Resolver) (flow : Option Flow) (names : Datum) (tolerant : Bool)
    (given : Option PlanBook) :
    ∃ t : Transcript,
      (r.resolve flow names tolerant given).start.2.calls = t.calls ∧
      Exchange.AllTrue r.sources [] t.exchanges ∧ Exchange.BreaksOff tolerant t.exchanges ∧
      r.Recounts flow names tolerant given
        (∃ resolution, (r.resolve flow names tolerant given).start.1 = .ok resolution) t ∧
      (t.talks.map fun talk => talk.key.text).Pairwise (· < ·) ∧
      (tolerant = false → t.questions.Nodup ∧ ∀ fallback ∈ t.fallback, ∀ active ∈ t.active,
        ∀ name ∈ fallback.names, name ∉ active.names) := by
  obtain ⟨_, made, belongs, t, rfl, recounts⟩ := (says_resolve r flow names tolerant given []).start
  refine ⟨t, made, belongs.allTrue, belongs.breaksOff, recounts, recounts.ascending,
    fun strict => ?_⟩
  cases recounts with
  | unnamed | nothing => simp [questions, exchanges, opening]
  | tiers _ _ follows _ => exact ⟨follows.nodup_questions strict, follows.disjoint strict⟩

/-- The rule keeps the flow away from the one planned version, so each of the two types is looked up
in a batch of its own. -/
example :
    let c : Catalog :=
      { versions := .ofList [(.ofName "ml", [⟨.text "ml", .text "1.0", .null, .active, .null⟩])]
        plans := .ofList [(.ofName "ml", [⟨.text "2.0", .int 100⟩])]
        rules := [⟨.text "hold", .text "*", .text "ml", .text "2.0"⟩] }
    let r : Resolver := ⟨c.sources fun _ => .ok (.int 50), .null⟩
    let nightly : Flow := { name := .text "nightly" }
    (r.resolve (some nightly) (.list [.text "ML", .text "etl "]) false none).start.2.calls =
      [.plansFor (.ofList ["etl", "ml"]), .bucket nightly.identity,
        .isExcluded (.text "nightly") (.ofName "ml") (.text "2.0"),
        .rulesFor (.ofName "ml") (.text "2.0"), .activeVersions (.ofList ["ml"]),
        .activeVersions (.ofList ["etl"])] := by
  decide +kernel

end Resolver

end Rollout

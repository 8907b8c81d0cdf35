import Rollout.Proofs.Resolution.Pins
import Rollout.Proofs.Resolution.Refusals

/-!
# Pins that are renewed twice

Over a reachable catalog, pins that a request to reconcile returns stay as they are when they are
reconciled again (`reconcile_idempotent`). A version that a plan chooses may be invalid itself, so
the second request may have types to resolve: these are some of the types that the first one
resolved, and a resolution of fewer types succeeds where one of more does, and comes to the same for
each of them (`Resolved.part`).
-/

namespace Rollout

namespace Catalog

variable {c : Catalog} {policy : WalkPolicy} {placed : Option (Flow × Int)} {key : TypeKey}

theorem LatestActive.valid {version : ImageVersion} (latest : c.LatestActive key version) :
    version ∈ c.versionsOf key ∧ version.state.isInvalid = false := by
  obtain ⟨before, after, whole, active, -⟩ := latest
  exact ⟨by rw [whole]; simp, by rw [active]; rfl⟩

/-- A decision is for a version of the type, and for an invalid one only where the plan chooses
it. -/
theorem Settles.version {decision : Decision}
    (settles : c.Settles policy placed key (some decision)) :
    ∃ version, decision.version = some version ∧ version ∈ c.versionsOf key ∧
      (version.state.isInvalid = true → decision.selection = .rampup ∧
        c.Ramps policy placed key (.chosen version decision.plan)) := by
  cases settles with
  | rampup walks picks free holds =>
    exact ⟨_, rfl, holds.1, fun _ => ⟨rfl, .chosen walks picks free holds⟩⟩
  | replaced _ _ _ latest | active _ _ latest =>
    exact ⟨_, rfl, latest.valid.1, fun invalid => nomatch invalid.symm.trans latest.valid.2⟩

end Catalog

namespace Resolver

variable {c : Catalog} {flow : Option Flow} {answer : Datum} {wanted : NameSet}
  {bucketOf : Flow → Except Fault Datum}

/-! ## Fewer types -/

/-- A resolution of fewer types succeeds as well, and decides each of them alike. -/
theorem Resolved.part (planOrder : Datum) (kept : c.WellKept)
    (answers : ∀ f, flow = some f → bucketOf f = .ok answer) {resolution : Resolution}
    (resolved : Resolved c (.ofName planOrder) flow answer wanted resolution) {part : NameSet}
    (normalized : part.IsNormalized) (among : ∀ name ∈ part, name ∈ wanted) :
    ∃ other, ((c.resolver bucketOf planOrder).resolveWanted flow part false
        (some (c.plansFor part))).Yields (.ok other) ∧
      other.Partitions part ∧
      ∀ key : TypeKey, key.text ∈ part →
        other.decisions.find? key = resolution.decisions.find? key := by
  have placed : ¬ c.Unplaced flow answer part := by
    rintro ⟨given, ⟨key, wants, filled⟩, outside⟩
    exact resolved.placed ⟨given, ⟨key, among _ wants, filled⟩, outside⟩
  rcases ends_resolveWanted planOrder kept answers normalized
      (books_plansFor (c.resolver bucketOf planOrder) c normalized) with
    ⟨other, resolved', done⟩ | ⟨fault, refusal, -⟩
  · exact ⟨other, done, resolved'.partitions, fun key wants =>
      (resolved'.settles key wants).unique kept (resolved.settles key (among _ wants))⟩
  · have refused := refusal fun key wants => resolved.judges key (among _ wants)
    exact absurd refused (Catalog.not_refusal kept placed
      (fun key wants => ⟨_, resolved.settles key (among _ wants)⟩) fault)

/-- A decision of a resolution is for a version of the type, and for an invalid one only where the
plan chooses it. -/
theorem Resolved.version {policy : WalkPolicy} {resolution : Resolution}
    (resolved : Resolved c policy flow answer wanted resolution) {key : TypeKey}
    {decision : Decision} (decided : resolution.decisions.find? key = some decision) :
    ∃ version, decision.version = some version ∧ version ∈ c.versionsOf key ∧
      (version.state.isInvalid = true → decision.selection = .rampup ∧
        c.Ramps policy (Catalog.placeOf flow answer) key (.chosen version decision.plan)) := by
  have settles := resolved.settles key (resolved.partitions.decided key decision decided)
  rw [decided] at settles
  exact settles.version

/-- What the last step of a request comes to. -/
def conclusion (resolution : Resolution) : Except Fault (List (TypeKey × VersionInfo)) :=
  if resolution.unresolved.isEmpty then .ok resolution.versionInfos
  else .error (.unresolvedTypes resolution.unresolved.toList)

/-- The request for some types concludes from their resolution, and notes it. -/
theorem subsetWanted_apply (r : Resolver) {book : PlanBook} {resolution : Resolution}
    (asked : ∀ calls, r.sources.plansFor calls wanted = .ok book)
    (resolves : (r.resolveWanted flow wanted false (some book)).Yields (.ok resolution))
    (journal : Journal) :
    ∃ after, r.subsetWanted flow wanted (.ok NameSet.empty) journal =
        (conclusion resolution, after) ∧ after.reached = some resolution := by
  rw [subsetWanted_eq, Fallible.bind_apply, Lookup.ask, asked]
  dsimp only
  rw [Fallible.bind_apply]
  have here := resolves { journal with calls := journal.calls ++ [.plansFor wanted] }
  revert here
  rcases r.resolveWanted flow wanted false (some book) _ with ⟨result, after⟩
  rintro ⟨⟩
  refine ⟨{ after with reached := some resolution }, ?_, rfl⟩
  dsimp only
  rw [conclude_empty, conclusion]
  cases resolution.unresolved.isEmpty <;> rfl

/-! ## Checks over a catalog -/

theorem yields_invalidPins (bucketOf : Flow → Except Fault Datum) (planOrder : Datum)
    {pins : List (TypeKey × VersionInfo)}
    (answered : ∀ pin ∈ pins, ∃ answer, c.isInvalid pin.1 pin.2.version = .ok answer) :
    ∃ invalid, ((c.resolver bucketOf planOrder).invalidPins pins).Yields (.ok invalid) ∧
      ∀ key ∈ invalid, ∃ info, (key, info) ∈ pins ∧ c.isInvalid key info.version = .ok true := by
  induction pins with
  | nil => exact ⟨[], Lookup.yields_pure [], by simp⟩
  | cons pin rest ih =>
    obtain ⟨answer, checked⟩ := answered pin List.mem_cons_self
    obtain ⟨others, later, each⟩ := ih fun other member =>
      answered other (List.mem_cons_of_mem _ member)
    have onward : ∀ key ∈ others, ∃ info, (key, info) ∈ pin :: rest ∧
        c.isInvalid key info.version = .ok true := by
      intro key member
      obtain ⟨info, among, invalid⟩ := each key member
      exact ⟨info, List.mem_cons_of_mem _ among, invalid⟩
    refine ⟨if answer then pin.1 :: others else others, ?_, ?_⟩
    · exact (Lookup.yields_ask _ fun _ => checked).bind_ok
        (later.bind_ok (Lookup.yields_pure _))
    · cases answer with
      | false => exact onward
      | true => exact List.forall_mem_cons.mpr ⟨⟨pin.2, List.mem_cons_self, checked⟩, onward⟩

/-- Pins that are valid, or would be replaced by themselves, stay as they are. -/
theorem yields_reconcile_unchanged (planOrder : Datum) {pins : OrderedMap TypeKey VersionInfo}
    (answered : ∀ key info, pins.find? key = some info →
      ∃ answer, c.isInvalid key info.version = .ok answer)
    (same : ∀ types : List TypeKey,
      (∀ key ∈ types, ∃ info, pins.find? key = some info ∧
        c.isInvalid key info.version = .ok true) →
      ∃ infos, ((c.resolver bucketOf planOrder).subsetWanted flow
          (NameSet.ofList (types.map TypeKey.text)) (.ok NameSet.empty)).Yields (.ok infos) ∧
        ∀ key info, (key, info) ∈ infos → pins.find? key = some info) :
    ((c.resolver bucketOf planOrder).reconcile flow pins).Yields
      (.ok (pins.sortedBy TypeKey.text)) := by
  obtain ⟨invalid, checks, each⟩ := yields_invalidPins bucketOf planOrder
    fun pin member => answered pin.1 pin.2 ((pins.find?_eq_some_iff _ _).mpr member)
  refine checks.bind_ok ?_
  split
  · exact Lookup.yields_pure _
  · have pinned : ∀ key ∈ invalid, ∃ info, pins.find? key = some info ∧
        c.isInvalid key info.version = .ok true := by
      intro key member
      obtain ⟨info, among, found⟩ := each key member
      exact ⟨info, (pins.find?_eq_some_iff _ _).mpr among, found⟩
    obtain ⟨infos, resolves, held⟩ := same invalid pinned
    refine resolves.bind_ok ?_
    have unchanged : (infos.foldl (fun pins entry => pins.put entry.1 entry.2) pins).sortedBy
        TypeKey.text = pins.sortedBy TypeKey.text := by
      refine OrderedMap.sortedBy_congr (fun _ _ => TypeKey.ext) fun key => ?_
      rw [OrderedMap.find?_foldl_put]
      cases found : OrderedMap.lookupEntry key infos.reverse with
      | none => rfl
      | some info =>
        rw [held key info (List.mem_reverse.mp (OrderedMap.mem_of_lookupEntry found))]
        rfl
    rw [← unchanged]
    exact Lookup.yields_pure _

/-! ## The first request -/

/-- What a request to reconcile the pins returns over a catalog: some resolution, which it leaves
behind if any type is wanted, gives the types of the invalid pins their versions. -/
structure Renews (c : Catalog) (policy : WalkPolicy) (flow : Option Flow) (answer : Datum)
    (pins : OrderedMap TypeKey VersionInfo) (journal : Journal) (wanted : NameSet)
    (resolution : Resolution) (renewed : List (TypeKey × VersionInfo)) : Prop where
  resolved : Resolved c policy flow answer wanted resolution
  complete : resolution.unresolved.isEmpty = true
  ascending : (renewed.map fun entry => entry.1.text).Pairwise (· < ·)
  kept : ∀ key info, key.text ∉ wanted → (key, info) ∈ renewed →
    c.isInvalid key info.version = .ok false
  replaced : ∀ key info, key.text ∈ wanted →
    ((key, info) ∈ renewed ↔ (key, info) ∈ resolution.versionInfos)
  invalid : ∀ key : TypeKey, key.text ∈ wanted → ∃ old, pins.find? key = some old ∧
    c.isInvalid key old.version = .ok true ∧ journal.reached = some resolution

theorem resolved_empty (policy : WalkPolicy) : Resolved c policy flow answer NameSet.empty {} where
  placed := fun unplaced => by
    obtain ⟨key, wants, -⟩ := unplaced.planned
    exact NameSet.not_mem_empty _ wants
  partitions := Resolution.partitions_start NameSet.empty .null
  settles := fun _ wants => absurd wants (NameSet.not_mem_empty _)
  judges := fun _ wants => absurd wants (NameSet.not_mem_empty _)

/-- Over a catalog the checks tell the valid pins from the invalid ones. -/
theorem checked_of_scans {pins : List (TypeKey × VersionInfo)} {invalid : List TypeKey}
    {calls : List Call} (scans : (c.sources bucketOf).Scans [] pins (.ok invalid) calls) :
    (∀ pin ∈ pins, pin.1 ∉ invalid → c.isInvalid pin.1 pin.2.version = .ok false) ∧
    ∀ key ∈ invalid, ∃ info, (key, info) ∈ pins ∧ c.isInvalid key info.version = .ok true := by
  cases scans with
  | done answered exactly =>
    constructor
    · intro pin member valid
      obtain ⟨answer, earlier, later, split, checked⟩ := answered pin member
      cases answer with
      | false => exact checked
      | true => exact absurd ((exactly pin.1).mpr ⟨pin.2, earlier, later, split, checked⟩) valid
    · intro key member
      obtain ⟨info, earlier, later, split, checked⟩ := (exactly key).mp member
      exact ⟨info, by simp [split], checked⟩

/-- The versions of a complete resolution take the place of the invalid pins. -/
theorem renews_of_resolved {policy : WalkPolicy} {pins : OrderedMap TypeKey VersionInfo}
    {invalid : List TypeKey} {calls : List Call}
    (scans : (c.sources bucketOf).Scans [] pins.entries (.ok invalid) calls)
    {resolution : Resolution}
    (resolved : Resolved c policy flow answer (NameSet.ofList (invalid.map TypeKey.text))
      resolution)
    (complete : resolution.unresolved.isEmpty = true) {journal : Journal}
    (noted : journal.reached = some resolution) :
    Renews c policy flow answer pins journal (NameSet.ofList (invalid.map TypeKey.text)) resolution
      ((resolution.versionInfos.foldl (fun pins entry => pins.put entry.1 entry.2) pins).sortedBy
        TypeKey.text) := by
  obtain ⟨valid, pinned⟩ := checked_of_scans scans
  have wants : ∀ key : TypeKey, key.text ∈ NameSet.ofList (invalid.map TypeKey.text) ↔
      key ∈ invalid := fun key => by rw [NameSet.mem_ofList, TypeKey.text_mem_map_iff]
  have versioned : ∀ key decision, resolution.decisions.find? key = some decision →
      ∃ version, decision.version = some version := by
    intro key decision decided
    obtain ⟨version, chosen, -⟩ := resolved.version decided
    exact ⟨version, chosen⟩
  have names := resolved.partitions.names_versionInfos (NameSet.isNormalized_keys invalid) complete
    versioned
  have merges := merges_of_names (fun key member => scans.pinned member) names
  refine ⟨resolved, complete, merges.ascending, ?_, ?_, ?_⟩
  · intro key info unwanted member
    rw [wants] at unwanted
    have held := (merges.kept key unwanted info).mp member
    exact valid (key, info) ((pins.find?_eq_some_iff key info).mp held) unwanted
  · exact fun key info wanted => merges.replaced key ((wants key).mp wanted) info
  · intro key wanted
    obtain ⟨old, among, found⟩ := pinned key ((wants key).mp wanted)
    exact ⟨old, (pins.find?_eq_some_iff key old).mpr among, found, noted⟩

/-- Valid pins are kept without a resolution. -/
theorem renews_of_valid (policy : WalkPolicy) {pins : OrderedMap TypeKey VersionInfo}
    {calls : List Call} (scans : (c.sources bucketOf).Scans [] pins.entries (.ok []) calls)
    (journal : Journal) :
    Renews c policy flow answer pins journal NameSet.empty {} (pins.sortedBy TypeKey.text) where
  resolved := resolved_empty policy
  complete := rfl
  ascending := OrderedMap.strictly_ascending_sortedBy (fun _ _ => TypeKey.ext) pins
  kept := fun key info _ member =>
    (checked_of_scans scans).1 _
      ((pins.find?_eq_some_iff key info).mp (OrderedMap.mem_sortedBy.mp member)) List.not_mem_nil
  replaced := fun _ _ wants => absurd wants (NameSet.not_mem_empty _)
  invalid := fun _ wants => absurd wants (NameSet.not_mem_empty _)

theorem renews_of_returned (planOrder : Datum) (kept : c.WellKept)
    (answers : ∀ f, flow = some f → bucketOf f = .ok answer)
    {pins : OrderedMap TypeKey VersionInfo} {renewed : List (TypeKey × VersionInfo)}
    {journal : Journal}
    (returned : ((c.resolver bucketOf planOrder).reconcile flow pins).start =
      (.ok renewed, journal)) :
    ∃ wanted resolution,
      Renews c (.ofName planOrder) flow answer pins journal wanted resolution renewed := by
  have scans := (leads_invalidPins (c.resolver bucketOf planOrder) [] pins.entries {} rfl).2
  rw [Lookup.start, reconcile, Fallible.bind_apply] at returned
  revert scans returned
  rcases (c.resolver bucketOf planOrder).invalidPins pins.entries {} with ⟨result, checked⟩
  intro returned scans
  cases result with
  | error fault => cases returned
  | ok invalid =>
    dsimp only at returned
    split at returned
    · rename_i nothing
      obtain rfl := List.isEmpty_iff.mp nothing
      cases returned
      exact ⟨_, _, renews_of_valid _ scans _⟩
    · have normalized := NameSet.isNormalized_keys invalid
      rw [Fallible.bind_apply] at returned
      rcases ends_resolveWanted planOrder kept answers normalized
          (books_plansFor (c.resolver bucketOf planOrder) c normalized) with
        ⟨resolution, resolved, done⟩ | ⟨fault, -, failed⟩
      · obtain ⟨after, applied, noted⟩ := subsetWanted_apply (c.resolver bucketOf planOrder)
          (fun _ => rfl) done checked
        rw [applied, conclusion] at returned
        by_cases complete : resolution.unresolved.isEmpty = true
        · rw [if_pos complete] at returned
          cases returned
          exact ⟨_, resolution, renews_of_resolved scans resolved complete noted⟩
        · rw [if_neg complete] at returned
          cases returned
      · have refused : ((c.resolver bucketOf planOrder).subsetWanted flow
            (NameSet.ofList (invalid.map TypeKey.text)) (.ok NameSet.empty)).Yields
              (.error fault) :=
          (Lookup.yields_ask _ fun _ => rfl).bind_ok failed.bind_error
        have here := refused checked
        revert returned here
        rcases (c.resolver bucketOf planOrder).subsetWanted flow _ _ checked with ⟨result, after⟩
        rintro returned ⟨⟩
        cases returned

/-! ## The second request -/

variable {policy : WalkPolicy} {pins : OrderedMap TypeKey VersionInfo} {journal : Journal}
  {resolution : Resolution} {renewed : List (TypeKey × VersionInfo)} {key : TypeKey}
  {info : VersionInfo}

/-- A version that replaces an invalid pin is that of a decision, and its own state says whether it
is valid. -/
theorem Renews.decided (kept : c.WellKept)
    (renews : Renews c policy flow answer pins journal wanted resolution renewed)
    (wants : key.text ∈ wanted) (member : (key, info) ∈ renewed) :
    ∃ decision version, resolution.decisions.find? key = some decision ∧
      decision.version = some version ∧ version.info = info ∧
      c.isInvalid key info.version = .ok version.state.isInvalid ∧
      (version.state.isInvalid = true → decision.selection = .rampup ∧
        c.Ramps policy (Catalog.placeOf flow answer) key (.chosen version decision.plan)) := by
  obtain ⟨decision, version, decided, chosen, rfl⟩ :=
    Resolution.mem_versionInfos.mp ((renews.replaced key info wants).mp member)
  obtain ⟨other, chosen', among, ramps⟩ := renews.resolved.version decided
  obtain rfl := Option.some.inj (chosen.symm.trans chosen')
  exact ⟨decision, version, decided, chosen, rfl, Catalog.isInvalid_eq kept among, ramps⟩

theorem Renews.answered (kept : c.WellKept)
    (renews : Renews c policy flow answer pins journal wanted resolution renewed)
    (member : (key, info) ∈ renewed) : ∃ answer, c.isInvalid key info.version = .ok answer := by
  by_cases wants : key.text ∈ wanted
  · obtain ⟨_, _, -, -, -, checked, -⟩ := renews.decided kept wants member
    exact ⟨_, checked⟩
  · exact ⟨false, renews.kept key info wants member⟩

theorem Renews.wanted_of_invalid
    (renews : Renews c policy flow answer pins journal wanted resolution renewed)
    (member : (key, info) ∈ renewed) (invalid : c.isInvalid key info.version = .ok true) :
    key.text ∈ wanted :=
  Decidable.byContradiction fun unwanted =>
    nomatch invalid.symm.trans (renews.kept key info unwanted member)

/-- Types that are resolved once more come to the versions that they have. -/
theorem Renews.again (planOrder : Datum) (kept : c.WellKept)
    (answers : ∀ f, flow = some f → bucketOf f = .ok answer)
    (renews : Renews c (.ofName planOrder) flow answer pins journal wanted resolution renewed)
    {types : List TypeKey} (among : ∀ key ∈ types, key.text ∈ wanted) :
    ∃ infos, ((c.resolver bucketOf planOrder).subsetWanted flow
        (NameSet.ofList (types.map TypeKey.text)) (.ok NameSet.empty)).Yields (.ok infos) ∧
      ∀ key info, (key, info) ∈ infos → (key, info) ∈ renewed := by
  have part : ∀ name ∈ NameSet.ofList (types.map TypeKey.text), name ∈ wanted := by
    intro name member
    obtain ⟨key, listed, rfl⟩ := List.mem_map.mp (NameSet.mem_ofList.mp member)
    exact among key listed
  obtain ⟨other, resolves, partitions, agrees⟩ :=
    renews.resolved.part planOrder kept answers (NameSet.isNormalized_keys types) part
  have complete : other.unresolved.isEmpty = true := by
    refine List.isEmpty_iff.mpr (List.eq_nil_iff_forall_not_mem.mpr fun name unresolved => ?_)
    obtain ⟨listed, undecided⟩ := (partitions.unresolved_iff name).mp unresolved
    have own := (NameSet.isNormalized_keys types).text_ofName listed
    have named : (TypeKey.ofName name).text ∈ wanted := by rw [own]; exact part name listed
    obtain ⟨decision, decided⟩ :=
      renews.resolved.partitions.decided_of_isEmpty renews.complete named
    rw [agrees _ (by rw [own]; exact listed), decided] at undecided
    cases undecided
  refine ⟨other.versionInfos, fun journal => ?_, fun key info member => ?_⟩
  · obtain ⟨after, applied, -⟩ := subsetWanted_apply (c.resolver bucketOf planOrder)
      (fun _ => rfl) resolves journal
    rw [applied, conclusion, if_pos complete]
  · obtain ⟨decision, version, decided, chosen, same⟩ := Resolution.mem_versionInfos.mp member
    have listed := partitions.decided key decision decided
    rw [agrees key listed] at decided
    exact (renews.replaced key info (part _ listed)).mpr
      (Resolution.mem_versionInfos.mpr ⟨decision, version, decided, chosen, same⟩)

/-- Pins that are listed by key are the pins of their types. -/
theorem pinOf_ofList {renewed : List (TypeKey × VersionInfo)}
    (ascending : (renewed.map fun entry => entry.1.text).Pairwise (· < ·)) (key : TypeKey) :
    pinOf (OrderedMap.ofList (renewed.map fun entry => (entry.1.text, entry.2))) key =
      OrderedMap.lookupEntry key renewed := by
  have names : ((renewed.map fun entry => (entry.1.text, entry.2)).map Prod.fst).Nodup := by
    apply OrderedMap.nodup_of_ascending id
    rw [List.map_map]
    exact ascending
  have own : (fun pin : String × VersionInfo => (TypeKey.ofName pin.1, pin.2)) ∘
      (fun entry : TypeKey × VersionInfo => (entry.1.text, entry.2)) = id := by
    funext entry
    exact congrArg (·, entry.2) (TypeKey.ofName_text entry.1)
  rw [pinOf, OrderedMap.entries_ofList names, List.map_map, own, List.map_id,
    OrderedMap.lookupEntry_reverse key (OrderedMap.nodup_of_ascending TypeKey.text ascending)]

/-- **Reconciling is idempotent, and leaves no invalid pin but one that a plan chooses.** Over a
reachable catalog, with a bucket function that has one answer for the flow, what a request to
reconcile returns is returned again when it is reconciled. A version in it that is not valid was
decided on anew, for an invalid pin, and is the one that the plan of its type gives the flow. -/
theorem reconcile_idempotent {c : Catalog} (reached : c.Reachable)
    {bucketOf : Flow → Except Fault Datum} {planOrder : Datum} {flow : Option Flow}
    {answer : Datum} (answers : ∀ f, flow = some f → bucketOf f = .ok answer)
    {pins : OrderedMap String VersionInfo} {index : OrderedMap TypeKey VersionInfo}
    (indexed : pinsByKey (versionSet pins) = .ok index)
    {renewed : List (TypeKey × VersionInfo)} {journal : Journal}
    (returned : ((c.resolver bucketOf planOrder).reconcile flow index).start =
      (.ok renewed, journal)) :
    (∃ again,
      pinsByKey (versionSet (OrderedMap.ofList
        (renewed.map fun entry => (entry.1.text, entry.2)))) = .ok again ∧
      ((c.resolver bucketOf planOrder).reconcile flow again).start.1 = .ok renewed) ∧
    ∀ key info, (key, info) ∈ renewed → c.isInvalid key info.version = .ok true →
      (∃ old, pinOf pins key = some old ∧ c.isInvalid key old.version = .ok true) ∧
      ∃ resolution decision version, journal.reached = some resolution ∧
        resolution.decisions.find? key = some decision ∧ decision.selection = .rampup ∧
        decision.version = some version ∧ version.info = info ∧
        c.Ramps (.ofName planOrder) (Catalog.placeOf flow answer) key
          (.chosen version decision.plan) := by
  have kept := reached.wellKept
  obtain ⟨wanted, resolution, renews⟩ := renews_of_returned planOrder kept answers returned
  constructor
  · obtain ⟨again, indexed', held⟩ := pinsByKey_versionSet
      (OrderedMap.ofList (renewed.map fun entry => (entry.1.text, entry.2)))
    have nodup := OrderedMap.nodup_of_ascending TypeKey.text renews.ascending
    have pinned : ∀ key info, again.find? key = some info ↔ (key, info) ∈ renewed := by
      intro key info
      rw [held, pinOf_ofList renews.ascending, OrderedMap.lookupEntry_eq_some_iff nodup]
    have sorted : again.sortedBy TypeKey.text = renewed :=
      OrderedMap.eq_of_ascending
        (OrderedMap.strictly_ascending_sortedBy (fun _ _ => TypeKey.ext) again) renews.ascending
        fun entry => OrderedMap.mem_sortedBy.trans (pinned _ _)
    refine ⟨again, indexed', ?_⟩
    have unchanged : ((c.resolver bucketOf planOrder).reconcile flow again).Yields
        (.ok (again.sortedBy TypeKey.text)) := by
      refine yields_reconcile_unchanged planOrder
        (fun key info found => renews.answered kept ((pinned key info).mp found)) ?_
      intro types invalid
      have among : ∀ key ∈ types, key.text ∈ wanted := by
        intro key member
        obtain ⟨info, found, checked⟩ := invalid key member
        exact renews.wanted_of_invalid ((pinned key info).mp found) checked
      obtain ⟨infos, resolves, same⟩ := renews.again planOrder kept answers among
      exact ⟨infos, resolves, fun key info member => (pinned key info).mpr (same key info member)⟩
    rw [sorted] at unchanged
    exact unchanged.start_eq
  · intro key info member invalid
    have wants := renews.wanted_of_invalid member invalid
    obtain ⟨old, held, invalid_old, noted⟩ := renews.invalid key wants
    obtain ⟨index', indexed', own⟩ := pinsByKey_versionSet pins
    obtain rfl := Except.ok.inj (indexed'.symm.trans indexed)
    refine ⟨⟨old, (own key).symm.trans held, invalid_old⟩, ?_⟩
    obtain ⟨decision, version, decided, chosen, same, checked, ramps⟩ :=
      renews.decided kept wants member
    obtain ⟨ramped, chooses⟩ := ramps (Except.ok.inj (checked.symm.trans invalid))
    exact ⟨resolution, decision, version, noted, decided, ramped, chosen, same, chooses⟩

/-- A catalog whose plan chooses a version that is no longer fit to run. -/
def wornCatalog : Catalog :=
  [Catalog.Change.addVersion "etl" "1.0" .null (.text "DEPRECATED") .null,
   .addVersion "etl" "2.0" .null (.text "UNSTABLE") .null,
   .setPlan "etl" [("2.0", .int 100)]].foldl Catalog.after Catalog.empty

def wornPins : OrderedMap String VersionInfo :=
  .ofList [(" ETL ", ⟨.text "1.0", .null, .active⟩)]

def wornIndex : OrderedMap TypeKey VersionInfo :=
  .ofList [(.ofName "etl", ⟨.text "1.0", .null, .active⟩)]

def wornRenewed : List (TypeKey × VersionInfo) :=
  [(.ofName "etl", ⟨.text "2.0", .text "registry/etl", .unstable⟩)]

theorem reconcile_idempotent_worn :
    ((wornCatalog.resolver (fun _ => .ok (.int 10)) .null).reconcile (some nightly)
      wornIndex).start.1 = .ok wornRenewed ∧
    ∃ again,
      pinsByKey (versionSet (OrderedMap.ofList
        (wornRenewed.map fun entry => (entry.1.text, entry.2)))) = .ok again ∧
      ((wornCatalog.resolver (fun _ => .ok (.int 10)) .null).reconcile (some nightly)
        again).start.1 = .ok wornRenewed ∧
      ∃ version plan, wornCatalog.Ramps .normalize (some (nightly, 10)) (.ofName "etl")
        (.chosen version plan) := by
  have indexed : pinsByKey (versionSet wornPins) = .ok wornIndex := rfl
  have renewed : ((wornCatalog.resolver (fun _ => .ok (.int 10)) .null).reconcile (some nightly)
      wornIndex).start.1 = .ok wornRenewed :=
    Fallible.eq_ok_of_toOption (by decide +kernel)
  have reached : wornCatalog.Reachable := Catalog.reachable_iff.mpr ⟨_, rfl⟩
  have answers : ∀ f, some nightly = some f →
      (fun _ => .ok (.int 10) : Flow → Except Fault Datum) f = .ok (.int 10) := fun _ _ => rfl
  obtain ⟨⟨again, indexed', unchanged⟩, ramped⟩ :=
    reconcile_idempotent reached answers indexed (Prod.ext renewed rfl)
  have invalid : wornCatalog.isInvalid (.ofName "etl") (.text "2.0") = .ok true :=
    Fallible.eq_ok_of_toOption (by decide +kernel)
  obtain ⟨-, -, decision, version, -, -, -, -, -, chooses⟩ :=
    ramped _ _ List.mem_cons_self invalid
  exact ⟨renewed, again, indexed', unchanged, version, decision.plan, chooses⟩

end Resolver

end Rollout

import Rollout.Proofs.Resolution.Blame

/-!
# Exempt types

To exempt types of a request is to forgive that they are missing, and nothing else. Which types are
exempt is not looked at before the resolution is reached, so requests that differ in it have the
same journal, and the same resolution to conclude from (`subset_start_eq`). With more types exempt,
a request that returned returns the same, and one that failed fails with the same fault, unless that
fault was that types are unresolved (`subset_forgives`): of these types the exempt ones are then
left out, and without any other type the request returns.

A source may raise that fault as well. No resolution was reached then, so nothing is forgiven.
-/

namespace Rollout

namespace Resolver

/-- The versions of the resolution, unless these types are missing. -/
def versionsUnless (missing : List String) (resolution : Resolution) :
    Except Fault (List (TypeKey × VersionInfo)) :=
  if missing.isEmpty then .ok resolution.versionInfos else .error (.unresolvedTypes missing)

theorem versionsUnless_nil (resolution : Resolution) :
    versionsUnless [] resolution = .ok resolution.versionInfos := rfl

theorem versionsUnless_of_ne_nil {missing : List String} (some_missing : missing ≠ [])
    (resolution : Resolution) :
    versionsUnless missing resolution = .error (.unresolvedTypes missing) :=
  if_neg (by simpa using some_missing)

/-- What a request comes to that concludes from the resolution, or from none. -/
def concluded (exempted : NameSet) :
    Except Fault Resolution × Journal → Except Fault (List (TypeKey × VersionInfo)) × Journal
  | (.error fault, journal) => (.error fault, journal)
  | (.ok resolution, journal) =>
    (versionsUnless (resolution.unresolved.diff exempted).toList resolution,
      { journal with reached := some resolution })

variable {r : Resolver} {flow : Option Flow} {names exempt : Datum} {texts spared : List String}

/-- Which types are exempt counts in the last step only. -/
theorem subset_start_eq (listed : names.items = .ok (texts.map .text))
    (exempted : exempt.items = .ok (spared.map .text)) :
    (r.subset flow names exempt).start =
      concluded (NameSet.normalized spared)
        (r.subsetResolution flow (NameSet.normalized texts)).start := by
  have same : r.subset flow names exempt = (do
      let wanted ← Lookup.give (.ok (NameSet.normalized texts))
      r.subsetResolution flow wanted >>= conclude (.ok (NameSet.normalized spared))) := by
    simp only [subset, subsetWanted_eq_conclude, NameSet.ofDatum_texts listed,
      NameSet.ofDatum_texts exempted]
  rw [same, Lookup.start, Fallible.bind_apply]
  simp only [Lookup.give, Fallible.bind_apply, Lookup.start]
  rcases r.subsetResolution flow (NameSet.normalized texts) {} with ⟨result, journal⟩
  cases result with
  | error fault => rfl
  | ok resolution => exact conclude_apply _ _ _

/-! ## What is forgiven -/

/-- Between two requests of which the second one exempts these types, besides those that the first
one does, and which left this journal: absence is forgiven, and nothing else. -/
structure Forgives (s : Sources) (journal : Journal) (spared : NameSet)
    (strict lenient : Except Fault (List (TypeKey × VersionInfo))) : Prop where
  returned : ∀ infos, strict = .ok infos → lenient = .ok infos
  failed : ∀ fault, strict = .error fault → ¬ fault.IsUnresolved → lenient = .error fault
  /-- Of the unresolved types those are left that are not exempt. -/
  unresolved : ∀ names, strict = .error (.unresolvedTypes names) → journal.reached.isSome = true →
    (names.filter (!spared.contains ·) ≠ [] →
      lenient = .error (.unresolvedTypes (names.filter (!spared.contains ·)))) ∧
    (names.filter (!spared.contains ·) = [] → ∃ infos, lenient = .ok infos)
  /-- What a source raised before a resolution was reached is no word on the types. -/
  raised : ∀ names, strict = .error (.unresolvedTypes names) → journal.reached = none →
    s.Raised journal.calls (.unresolvedTypes names) ∧ lenient = .error (.unresolvedTypes names)

/-- The versions of a request that returned are those of the resolution, for all named types that it
resolved, exempt or not; the others are exempt. -/
structure Covers (texts : List String) (spared : NameSet) (resolution : Resolution)
    (infos : List (TypeKey × VersionInfo)) : Prop where
  divides : resolution.Divides texts
  exempt : ∀ name ∈ resolution.unresolved, name ∈ spared
  names : infos.map (fun info => info.1.text) =
    ((NameSet.normalized texts).diff resolution.unresolved).toList
  versions : ∀ key decision, resolution.decisions.find? key = some decision →
    ∃ version, decision.version = some version ∧ version.key = .ok key ∧ (key, version.info) ∈ infos

theorem diff_toList_eq_filter (names spared : NameSet) :
    (names.diff spared).toList = names.toList.filter (!spared.contains ·) := rfl

/-- Taking a larger set away is taking the smaller one away first. -/
theorem diff_toList_of_within {names spared spared' : NameSet}
    (within : ∀ name ∈ spared, name ∈ spared') :
    (names.diff spared').toList = (names.diff spared).toList.filter (!spared'.contains ·) := by
  rw [diff_toList_eq_filter, diff_toList_eq_filter, List.filter_filter]
  refine List.filter_congr fun name _ => ?_
  by_cases member : name ∈ spared
  · simp [NameSet.contains, member, within name member]
  · simp [NameSet.contains, member]

theorem forgives_concluded {s : Sources} {outcome : Except Fault Resolution × Journal}
    (unnoted : outcome.2.reached = none)
    (blamed : ∀ fault, outcome.1 = .error fault → fault.IsUnresolved →
      s.Raised outcome.2.calls fault) {spared spared' : NameSet}
    (within : ∀ name ∈ spared, name ∈ spared') :
    Forgives s (concluded spared outcome).2 spared' (concluded spared outcome).1
      (concluded spared' outcome).1 := by
  obtain ⟨result, journal⟩ := outcome
  cases result with
  | error fault =>
    refine ⟨nofun, fun _ same _ => same, ?_, ?_⟩
    · intro names _ reached
      rw [concluded, unnoted] at reached
      cases reached
    · intro names same _
      obtain rfl := Except.error.inj same
      exact ⟨blamed _ rfl trivial, rfl⟩
  | ok resolution =>
    simp only [concluded]
    rw [diff_toList_of_within within]
    generalize (resolution.unresolved.diff spared).toList = missing
    by_cases nothing : missing = []
    · -- what the smaller set leaves nothing of, the larger one leaves nothing of
      rw [nothing]
      exact ⟨fun _ same => same, nofun, nofun, nofun⟩
    · rw [versionsUnless_of_ne_nil nothing]
      refine ⟨nofun, ?_, ?_, nofun⟩
      · rintro _ ⟨⟩ settled
        exact absurd trivial settled
      · rintro _ ⟨⟩ -
        refine ⟨fun some_left => versionsUnless_of_ne_nil some_left resolution, fun none_left => ?_⟩
        rw [none_left]
        exact ⟨_, versionsUnless_nil resolution⟩

theorem covers_concluded {outcome : Except Fault Resolution × Journal} {spared : NameSet}
    (proper : ∀ resolution, outcome.1 = .ok resolution →
      resolution.IsProper (NameSet.normalized texts) false)
    {infos : List (TypeKey × VersionInfo)} (returned : (concluded spared outcome).1 = .ok infos) :
    ∃ resolution, (concluded spared outcome).2.reached = some resolution ∧
      Covers texts spared resolution infos := by
  obtain ⟨result, journal⟩ := outcome
  cases result with
  | error fault => cases returned
  | ok resolution =>
    have holds := proper resolution rfl
    refine ⟨resolution, rfl, ?_⟩
    have nothing : (resolution.unresolved.diff spared).toList = [] := by
      by_cases some_missing : (resolution.unresolved.diff spared).toList = []
      · exact some_missing
      · exact nomatch (versionsUnless_of_ne_nil some_missing resolution).symm.trans returned
    rw [concluded, nothing, versionsUnless_nil] at returned
    obtain rfl := Except.ok.inj returned
    refine ⟨holds.partitions.divides, ?_, ?_, ?_⟩
    · intro name unresolved
      refine Decidable.byContradiction fun unspared => ?_
      have missing : name ∈ resolution.unresolved.diff spared :=
        NameSet.mem_diff.mpr ⟨unresolved, unspared⟩
      rw [NameSet.mem_def, nothing] at missing
      cases missing
    · exact holds.partitions.names_versionInfos_diff (NameSet.isNormalized_normalized texts)
        holds.versioned
    · intro key decision decided
      obtain ⟨version, chosen, own⟩ := (holds.fits key decision decided).own
      exact ⟨version, chosen, own,
        Resolution.mem_versionInfos.mpr ⟨decision, version, decided, chosen, rfl⟩⟩

/-- **To exempt types is to forgive that they are missing.** Whatever the sources answer, a request
with more exempt types asks the same and reaches the same resolution; it returns what the one with
fewer returned, fails as that one failed, and where types were unresolved, reports those that it
does not exempt, if there are any. A request that returned covers the named types, but for
unresolved ones, which are exempt. -/
theorem subset_forgives (r : Resolver) (flow : Option Flow) {names exempt exempt' : Datum}
    {texts spared spared' : List String} (listed : names.items = .ok (texts.map .text))
    (exempted : exempt.items = .ok (spared.map .text))
    (exempted' : exempt'.items = .ok (spared'.map .text))
    (within : ∀ name ∈ NameSet.normalized spared, name ∈ NameSet.normalized spared') :
    (r.subset flow names exempt').start.2 = (r.subset flow names exempt).start.2 ∧
    Forgives r.sources (r.subset flow names exempt).start.2 (NameSet.normalized spared')
      (r.subset flow names exempt).start.1 (r.subset flow names exempt').start.1 ∧
    ∀ infos, (r.subset flow names exempt).start.1 = .ok infos →
      ∃ resolution, (r.subset flow names exempt).start.2.reached = some resolution ∧
        Covers texts (NameSet.normalized spared) resolution infos := by
  rw [subset_start_eq listed exempted, subset_start_eq listed exempted']
  have blames := r.blames_subsetResolution flow (NameSet.normalized texts) {}
  have proper := (r.proper_subsetResolution flow (NameSet.isNormalized_normalized texts) []).start
  refine ⟨?_, forgives_concluded blames.1 blames.2 within, fun infos => covers_concluded proper⟩
  rcases (r.subsetResolution flow (NameSet.normalized texts)).start with ⟨result, journal⟩
  cases result <;> rfl

/-- Sources that have a version of one type only. -/
def frugal : Resolver where
  sources := { straying.sources with
    activeVersions := fun _ _ => .ok (some [{
      imageType := .text " ETL", version := .text "1.0", path := .null, state := .active }]) }
  planOrder := .null

theorem subset_forgives_frugal :
    (∀ name ∈ NameSet.normalized ["Etl"], name ∈ NameSet.normalized [" LOST", "etl "]) ∧
    (frugal.subset none (.list [.text "Gone", .text "lost", .text "ETL"])
      (.list [.text "Etl"])).start.1 = .error (.unresolvedTypes ["gone", "lost"]) ∧
    (frugal.subset none (.list [.text "Gone", .text "lost", .text "ETL"])
      (.list [.text " LOST", .text "etl "])).start.1 = .error (.unresolvedTypes ["gone"]) := by
  have within : ∀ name ∈ NameSet.normalized ["Etl"],
      name ∈ NameSet.normalized [" LOST", "etl "] := by
    simp only [NameSet.mem_def]
    decide +kernel
  have listed : (Datum.list [.text "Gone", .text "lost", .text "ETL"]).items =
      .ok (["Gone", "lost", "ETL"].map .text) := rfl
  have exempted : (Datum.list [.text "Etl"]).items = .ok (["Etl"].map .text) := rfl
  have exempted' : (Datum.list [.text " LOST", .text "etl "]).items =
      .ok ([" LOST", "etl "].map .text) := rfl
  have forgives := (subset_forgives frugal none listed exempted exempted' within).2.1
  have reported : (frugal.subset none (.list [.text "Gone", .text "lost", .text "ETL"])
      (.list [.text "Etl"])).start.1 = .error (.unresolvedTypes ["gone", "lost"]) := by
    rfl
  have left : ["gone", "lost"].filter (!(NameSet.normalized [" LOST", "etl "]).contains ·) =
      ["gone"] := by
    decide +kernel
  have fewer := (forgives.unresolved _ reported (by decide +kernel)).1
  rw [left] at fewer
  exact ⟨within, reported, fewer (by decide)⟩

end Resolver

end Rollout

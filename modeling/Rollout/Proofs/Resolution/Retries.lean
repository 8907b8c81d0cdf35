import Rollout.Proofs.Resolution.Batches

/-!
# Failed look-ups

A question that was answered with a fault is put again in one case only (`resolve_retries`). A
tolerant resolution that gets no ACTIVE versions for the types that the evaluator bars leaves these
to the second tier, which asks for the types that are left in a batch of its own. Where the plans
settle all the other types, that batch is for the same types as the one that failed.
-/

namespace Rollout

/-! ## Faults and retries -/

/-- The batch was answered with a fault. -/
def Batch.HasFailed {α : Type} (batch : Batch α) : Prop :=
  ∃ fault, batch.answer = .error fault

namespace Exchange

/-- The question was answered with a fault. -/
def HasFailed : Exchange → Prop
  | plansFor _ answer => ∃ fault, answer = .error fault
  | bucket _ answer => ∃ fault, answer = .error fault
  | isExcluded _ _ _ answer _ => ∃ fault, answer = .error fault
  | findVersions _ _ answer => ∃ fault, answer = .error fault
  | activeVersions _ answer => ∃ fault, answer = .error fault
  | latestVersions _ answer => ∃ fault, answer = .error fault

/-- No question is put again after it was answered with a fault. -/
def NeverRetried (said : List Exchange) : Prop :=
  said.Pairwise fun earlier later => earlier.HasFailed → later.question ≠ earlier.question

end Exchange

/-- A flow that is kept away from the version has no version looked up. -/
theorem Talk.Suits.not_finds {r : Resolver} {key : TypeKey} {stored : Plan}
    {placed : Option (Flow × Int)} {talk : Talk} (suits : talk.Suits r key stored placed)
    (bars : talk.Bars) : ¬ talk.Finds := by
  rintro ⟨search, searched, -⟩
  obtain ⟨ruling, ruled, barred⟩ := bars
  cases suits with
  | silent => cases ruled
  | first => cases ruled
  | barred => cases searched
  | free =>
    cases ruled
    cases barred

/-- Without a flow the evaluator is not asked. -/
theorem Talk.Suits.not_ruled {r : Resolver} {key : TypeKey} {stored : Plan} {talk : Talk}
    (suits : talk.Suits r key stored none) : talk.ruling = none := by
  cases suits <;> rfl

namespace Transcript

/-- The talk about the type settles what its plan comes to: the version is found, or the flow is
kept away from it. -/
def IsSettled (t : Transcript) (key : TypeKey) : Prop :=
  (∃ talk ∈ t.talks, talk.key = key ∧ talk.Finds) ∨ t.Bars key

/-- The second tier asks for the types of the fallback, which had failed. -/
def Repeats (t : Transcript) : Prop :=
  ∃ fallback ∈ t.fallback, fallback.HasFailed ∧ ∃ active ∈ t.active, active.names = fallback.names

variable {t : Transcript} {r : Resolver} {errand : Errand} {key : TypeKey}

/-! ## The types that are left after a failed fallback -/

theorem Follows.wanted_of_talk (follows : t.Follows r errand) {talk : Talk}
    (member : talk ∈ t.talks) : talk.key.text ∈ errand.wanted := by
  obtain ⟨index, placed, ⟨book, -, indexed⟩, -, discusses⟩ :=
    follows.talks (List.ne_nil_of_mem member)
  obtain ⟨stored, planned, -⟩ := discusses.suits talk member
  exact PlanBook.wanted_of_indexed indexed (OrderedMap.mem_sortedBy.mp planned)

/-- There is one talk about a type at most. -/
theorem Follows.talk_unique (follows : t.Follows r errand) {talk other : Talk}
    (member : talk ∈ t.talks) (among : other ∈ t.talks) (same : talk.key = other.key) :
    talk = other := by
  have nodup : ((t.talks.map fun talk => (talk.key, talk)).map Prod.fst).Nodup := by
    refine OrderedMap.nodup_of_ascending TypeKey.text ?_
    rw [List.map_map]
    exact follows.ascending
  have held := (OrderedMap.lookupEntry_eq_some_iff nodup).mpr
    (List.mem_map_of_mem (f := fun talk => (talk.key, talk)) member)
  have holds := (OrderedMap.lookupEntry_eq_some_iff nodup).mpr
    (List.mem_map_of_mem (f := fun talk => (talk.key, talk)) among)
  rw [same, holds] at held
  exact (Option.some.inj held).symm

theorem Follows.not_finds_of_bars (follows : t.Follows r errand) (bars : t.Bars key) :
    ¬ ∃ talk ∈ t.talks, talk.key = key ∧ talk.Finds := by
  rintro ⟨talk, member, rfl, finds⟩
  obtain ⟨other, among, same, bars⟩ := bars
  obtain rfl := follows.talk_unique among member same
  obtain ⟨index, placed, -, -, discusses⟩ := follows.talks (List.ne_nil_of_mem member)
  obtain ⟨stored, -, suits⟩ := discusses.suits other member
  exact suits.not_finds bars finds

/-- After a failed fallback the rampup tier decides the types whose planned version is found. -/
theorem ramps_iff_of_failed {fallback : VersionBatch} (replaced : fallback ∈ t.fallback)
    (failed : fallback.HasFailed) (key : TypeKey) :
    t.Ramps key ↔ ∃ talk ∈ t.talks, talk.key = key ∧ talk.Finds := by
  obtain ⟨fault, failed⟩ := failed
  refine or_iff_left ?_
  rintro ⟨-, batch, asked, versions, answered, -⟩
  obtain rfl : fallback = batch := Option.some.inj (replaced.symm.trans asked)
  cases failed.symm.trans answered

/-- After a failed fallback the second tier asks for the same types exactly when the plans settle
all that are wanted. -/
theorem Follows.names_eq_iff (follows : t.Follows r errand) {fallback active : VersionBatch}
    (replaced : fallback ∈ t.fallback) (failed : fallback.HasFailed) (asked : active ∈ t.active) :
    active.names = fallback.names ↔
      ∀ key : TypeKey, key.text ∈ errand.wanted → t.IsSettled key := by
  have barred := (follows.fallback fallback replaced).2.mem_names_iff
  have left := (follows.active active asked).2.mem_names_iff
  simp only [ramps_iff_of_failed replaced failed] at left
  constructor
  · intro same key wants
    refine Classical.byContradiction fun open_type => ?_
    have unfound := fun found => open_type (.inl found)
    have listed : key.text ∈ active.names := (left _).mpr ⟨key, rfl, wants, unfound⟩
    obtain ⟨other, named, bars⟩ := (barred _).mp (same ▸ listed)
    exact open_type (.inr (TypeKey.ext named ▸ bars))
  · intro settled
    refine NameSet.ext fun name => ?_
    rw [left, barred]
    constructor
    · rintro ⟨key, named, wants, unfound⟩
      exact ⟨key, named, (settled key wants).resolve_left unfound⟩
    · rintro ⟨key, named, bars⟩
      obtain ⟨talk, member, rfl, -⟩ := id bars
      exact ⟨talk.key, named, follows.wanted_of_talk member, follows.not_finds_of_bars bars⟩

/-- A fallback is asked for only for the sake of a flow. -/
theorem Follows.flow_of_fallback (follows : t.Follows r errand) {fallback : VersionBatch}
    (replaced : fallback ∈ t.fallback) : errand.flow ≠ none := by
  intro nobody
  obtain ⟨-, ⟨key, talk, member, -, ruling, ruled, -⟩, -⟩ := follows.fallback fallback replaced
  obtain ⟨index, placed, -, places, discusses⟩ := follows.talks (List.ne_nil_of_mem member)
  obtain ⟨stored, -, suits⟩ := discusses.suits talk member
  rw [nobody] at places
  cases places
  cases suits.not_ruled.symm.trans ruled

/-! ## Retries -/

/-- Nothing is put again after a fault but the question of the fallback. -/
theorem Follows.neverRetried_iff (follows : t.Follows r errand) :
    Exchange.NeverRetried t.exchanges ↔ ¬ t.Repeats := by
  constructor
  · rintro never ⟨fallback, replaced, failed, active, asked, same⟩
    have before := (List.pairwise_append.mp (List.pairwise_append.mp never).1).2.2
    have first : fallback.activeExchange ∈
        t.opening ++ (t.fallback.map Batch.activeExchange).toList := by
      simp [Option.mem_def.mp replaced]
    have second : active.activeExchange ∈ (t.active.map Batch.activeExchange).toList := by
      simp [Option.mem_def.mp asked]
    exact before _ first _ second failed (congrArg Call.activeVersions same)
  · intro once
    refine follows.repeated.imp fun repeated failed same => once ?_
    obtain ⟨fallback, replaced, active, asked, rfl, rfl⟩ := repeated same
    exact ⟨fallback, replaced, failed, active, asked, Call.activeVersions.inj same⟩

/-- A tolerant resolution for a flow got no answer to its fallback, and the plans settle all that is
wanted. -/
structure MustRepeat (t : Transcript) (errand : Errand) : Prop where
  tolerant : errand.tolerant = true
  flow : errand.flow ≠ none
  failed : ∃ fallback ∈ t.fallback, fallback.HasFailed
  settled : ∀ key : TypeKey, key.text ∈ errand.wanted → t.IsSettled key

theorem Follows.mustRepeat (follows : t.Follows r errand) (repeats : t.Repeats) :
    t.MustRepeat errand := by
  obtain ⟨fallback, replaced, failed, active, asked, same⟩ := repeats
  have tolerant : errand.tolerant = true := by
    cases strict : errand.tolerant with
    | true => rfl
    | false => exact absurd same (follows.names_ne strict fallback replaced active asked)
  exact ⟨tolerant, follows.flow_of_fallback replaced, ⟨fallback, replaced, failed⟩,
    (follows.names_eq_iff replaced failed asked).mp same⟩

theorem Follows.repeats (follows : t.Follows r errand) (complete : t.IsComplete errand)
    (must : t.MustRepeat errand) : t.Repeats := by
  obtain ⟨fallback, replaced, failed⟩ := must.failed
  -- a type that the evaluator bars is left, so the second tier asks
  obtain ⟨-, ⟨key, bars⟩, -⟩ := follows.fallback fallback replaced
  obtain ⟨talk, member, rfl, -⟩ := id bars
  have left : ¬ t.Ramps talk.key := fun ramps =>
    follows.not_finds_of_bars bars ((ramps_iff_of_failed replaced failed _).mp ramps)
  obtain ⟨active, asked⟩ := Option.isSome_iff_exists.mp
    (complete.activated.asked ⟨talk.key, follows.wanted_of_talk member, left⟩)
  exact ⟨fallback, replaced, failed, active, asked,
    (follows.names_eq_iff replaced failed asked).mpr must.settled⟩

/-- Of all questions only that of a failed fallback is put again. -/
structure RetriesFallbackOnly (t : Transcript) (flow : Option Flow) (names : Datum)
    (tolerant : Bool) (given : Option PlanBook) (returned : Prop) : Prop where
  /-- A question that is put twice is one for ACTIVE versions, of the fallback first and then of the
  second tier. -/
  only : t.exchanges.Pairwise fun earlier later => later.question = earlier.question →
    ∃ fallback ∈ t.fallback, ∃ active ∈ t.active,
      earlier = fallback.activeExchange ∧ later = active.activeExchange
  neverRetried_iff : Exchange.NeverRetried t.exchanges ↔ ¬ t.Repeats
  needed : t.Repeats → ∃ wanted, NameSet.ofDatum names = .ok wanted ∧
    t.MustRepeat ⟨flow, wanted, tolerant, given⟩
  repeats : returned → ∀ wanted, NameSet.ofDatum names = .ok wanted →
    t.MustRepeat ⟨flow, wanted, tolerant, given⟩ → t.Repeats

theorem retriesFallbackOnly_nothing (flow : Option Flow) (names : Datum) (tolerant : Bool)
    (given : Option PlanBook) (returned : Prop) :
    RetriesFallbackOnly {} flow names tolerant given returned where
  only := .nil
  neverRetried_iff := by
    refine iff_of_true .nil ?_
    rintro ⟨fallback, ⟨⟩, -⟩
  needed := by
    rintro ⟨fallback, ⟨⟩, -⟩
  repeats := by
    rintro - wanted - ⟨-, -, ⟨fallback, ⟨⟩, -⟩, -⟩

end Transcript

namespace Resolver

variable {r : Resolver}

theorem Recounts.retriesFallbackOnly {flow : Option Flow} {names : Datum} {tolerant : Bool}
    {given : Option PlanBook} {returned : Prop} {t : Transcript}
    (recounts : r.Recounts flow names tolerant given returned t) :
    t.RetriesFallbackOnly flow names tolerant given returned := by
  cases recounts with
  | unnamed | nothing => exact Transcript.retriesFallbackOnly_nothing ..
  | @tiers wanted t listed filled follows complete =>
    refine ⟨follows.repeated, follows.neverRetried_iff, fun repeats => ?_, ?_⟩
    · exact ⟨wanted, listed, follows.mustRepeat repeats⟩
    · intro returns other listed_other must
      obtain rfl : wanted = other := Except.ok.inj (listed.symm.trans listed_other)
      exact follows.repeats (complete returns) must

/-- **Failed look-ups.** Whatever the sources answer and however they fail, a resolution puts no
question again that was answered with a fault, with one exception: where a tolerant resolution for a
flow asked in vain for ACTIVE versions of the types that the evaluator bars, and the plans settle
all other types, the second tier asks for ACTIVE versions of the same types. -/
theorem resolve_retries (r : Resolver) (flow : Option Flow) (names : Datum) (tolerant : Bool)
    (given : Option PlanBook) :
    ∃ t : Transcript,
      (r.resolve flow names tolerant given).start.2.calls = t.calls ∧
      Exchange.AllTrue r.sources [] t.exchanges ∧
      r.Recounts flow names tolerant given
        (∃ resolution, (r.resolve flow names tolerant given).start.1 = .ok resolution) t ∧
      t.RetriesFallbackOnly flow names tolerant given
        (∃ resolution, (r.resolve flow names tolerant given).start.1 = .ok resolution) := by
  obtain ⟨_, made, belongs, t, rfl, recounts⟩ := (says_resolve r flow names tolerant given []).start
  exact ⟨t, made, belongs.allTrue, recounts, recounts.retriesFallbackOnly⟩

/-- A resolver with an evaluator that keeps every flow away from every version, and a version
catalog that has no ACTIVE versions to give. -/
def outageResolver : Resolver where
  sources :=
    { imageTypes := fun _ => .ok []
      findVersions := fun _ _ _ => .ok none
      activeVersions := fun _ _ => .error (.outage "catalog down")
      latestVersions := fun _ _ => .ok none
      isInvalid := fun _ _ _ => .ok false
      allPlans := fun _ => .ok OrderedMap.empty
      plansFor := fun _ _ => .ok OrderedMap.empty
      isExcluded := fun _ _ _ _ => (.ok true, [])
      bucketOf := fun _ _ => .ok (.int 50) }
  planOrder := .null

/-- What is said when one type is resolved that has a plan. -/
def outageTranscript : Transcript where
  bucket := some ({ name := .text "nightly" }, .ok (.int 50))
  talks := [⟨.ofName "spark", some ⟨.text "nightly", .text "1.0", .ok true, []⟩, none⟩]
  fallback := some ⟨.ofList ["spark"], .error (.outage "catalog down")⟩
  active := some ⟨.ofList ["spark"], .error (.outage "catalog down")⟩
  latest := some ⟨.ofList ["spark"], .ok none⟩

/-- A failed look-up is put again: that for the ACTIVE version of the only type, which the evaluator
bars. -/
theorem not_neverRetried :
    ¬ ∀ (r : Resolver) (flow : Option Flow) (names : Datum) (tolerant : Bool)
        (given : Option PlanBook) (t : Transcript),
      (r.resolve flow names tolerant given).start.2.calls = t.calls →
      Exchange.AllTrue r.sources [] t.exchanges → Exchange.NeverRetried t.exchanges := by
  intro never
  have made : (outageResolver.resolve (some { name := .text "nightly" }) (.list [.text "spark"])
      true (some { entries := [(.text "spark", some [⟨.text "1.0", .int 100⟩])] })).start.2.calls =
        outageTranscript.calls := by decide +kernel
  have all_true : Exchange.AllTrue outageResolver.sources [] outageTranscript.exchanges :=
    ⟨rfl, rfl, rfl, rfl, rfl, trivial⟩
  have once := never _ _ _ _ _ _ made all_true
  have before := (List.pairwise_cons.mp (List.pairwise_cons.mp (List.pairwise_cons.mp once).2).2).1
  exact before _ List.mem_cons_self ⟨_, rfl⟩ rfl

end Resolver

end Rollout

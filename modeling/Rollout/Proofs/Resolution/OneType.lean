import Rollout.Proofs.Resolution.Evidence
import Rollout.Proofs.Resolution.Tolerance

/-!
# A resolution for one type

What a resolution for a flow asks and decides when one type is wanted, the flow falls into a bucket
and the evaluator keeps it away from no version. The course that it takes (`Course`) depends on the
plan of the type in the answer of the plan store, and on nothing else that the sources answer: a
version is looked up by its label exactly when an entry of the walked plan owns the bucket, and then
it is the version of that entry (`leads_resolve_one`).

Of the version catalog nothing is assumed. A fault that it raises itself ends the resolution; where
it raises none about plans, the only faults about plans are those of the plan itself.
-/

namespace Rollout

/-- The evaluator keeps no flow away from a version. -/
def Sources.ExcludesNothing (s : Sources) : Prop :=
  ∀ calls flowName key label, (s.isExcluded calls flowName key label).1 = .ok false

/-- The flow falls into the bucket, whenever the bucket function is asked. -/
structure Sources.PutsInto (s : Sources) (flow : Flow) (bucket : Int) : Prop where
  answers : ∀ calls, s.bucketOf calls flow = .ok (.int bucket)
  low : 1 ≤ bucket
  high : bucket ≤ bucketCount

/-- No version was chosen by a plan. -/
def Resolution.IsUnramped (resolution : Resolution) : Prop :=
  ∀ key decision, resolution.decisions.find? key = some decision → decision.selection ≠ .rampup

theorem Resolution.unramped_start (wanted : NameSet) (bucket : Datum) :
    Resolution.IsUnramped { unresolved := wanted, bucket := bucket } := by
  intro key decision found
  rw [OrderedMap.find?_empty] at found
  cases found

namespace Resolver

/-! ## The parts -/

variable {r : Resolver} {flow : Flow} {bucket : Int} {calls : List Call} {key : TypeKey}
  {stored walked : Plan} {entry : PlanEntry}

theorem arrives_place (puts : r.sources.PutsInto flow bucket) (calls : List Call) :
    (r.place (some flow)).Arrives calls (.ok (some (flow, bucket)))
      (calls ++ [.bucket flow.identity]) := by
  have bucketed : (r.bucketOf flow).Arrives calls (.ok bucket)
      (calls ++ [.bucket flow.identity]) := by
    refine (Lookup.arrives_ask _ (puts.answers calls)).bind_ok ?_
    dsimp only
    rw [if_pos ⟨puts.low, puts.high⟩]
    exact Lookup.arrives_pure bucket _
  exact bucketed.bind_ok (Lookup.arrives_pure _ _)

/-- Where an entry of the walked plan owns the bucket, the evaluator is asked about its version, and
that version is looked up. -/
theorem leads_rampupType_matched (free : r.sources.ExcludesNothing)
    (walks : r.WalksAs key stored walked)
    (matched : walked.matchBucket (.int bucket) = .ok (some entry)) (calls : List Call) :
    (r.rampupType false (some (flow, bucket)) key stored).Leads calls fun result after =>
      after = calls ++ .isExcluded flow.name key entry.version ::
          (r.sources.isExcluded calls flow.name key entry.version).2 ++
          [.findVersions (.text key.text) entry.version] ∧
      (∀ outcome, result = .ok outcome → ∃ version, outcome = .chosen version walked ∧
        version.key = .ok key ∧ version.hasLabel entry.version = .ok true) ∧
      r.sources.Spares result := by
  rw [rampupType_placed]
  refine (arrives_walkOrder walks calls).bind_ok ((Lookup.arrives_give matched _).bind_ok ?_)
  refine (Lookup.arrives_askThrough _ (free _ _ _ _)).bind_ok ?_
  rw [if_neg Bool.false_ne_true, chooseEntry, if_neg Bool.false_ne_true]
  refine (leads_exactVersion r key entry.version _).bind ?_ ?_
  · rintro version _ ⟨rfl, found, -⟩
    refine Lookup.leads_pure ⟨rfl, ?_, r.sources.spares_ok _⟩
    rintro _ ⟨⟩
    exact ⟨version, rfl, found version rfl⟩
  · rintro fault _ ⟨rfl, -, spares⟩
    exact ⟨rfl, by rintro _ ⟨⟩, Sources.spares_error_iff.mpr (Sources.spares_error_iff.mp spares)⟩

/-- Where none does, nothing more is asked. -/
theorem arrives_rampupType_missed (walks : r.WalksAs key stored walked)
    (missed : walked.matchBucket (.int bucket) = .ok none) (calls : List Call) :
    (r.rampupType false (some (flow, bucket)) key stored).Arrives calls (.ok .passed) calls := by
  rw [rampupType_placed]
  refine (arrives_walkOrder walks calls).bind_ok ?_
  exact (Lookup.arrives_give missed calls).bind_ok (Lookup.arrives_pure _ _)

/-- A plan that is refused ends the tier. -/
theorem arrives_rampupType_refused {fault : Fault}
    (refused : (stored.order (.text key.text) (.ofName r.planOrder)).1 = .error fault)
    (calls : List Call) :
    (r.rampupType false (some (flow, bucket)) key stored).Arrives calls (.error fault) calls := by
  rw [rampupType_placed]
  exact (arrives_walkOrder refused calls).bind_error

/-! ## The tiers -/

variable {index : OrderedMap TypeKey Plan}

/-- With one plan the tier makes of its type what the type comes to, after the bucket is known. -/
theorem leads_rampupTier_one (puts : r.sources.PutsInto flow bucket) (wanted : NameSet)
    (calls : List Call) (single : index.entries = [(key, stored)])
    {post : Except Fault RampupOutcome → List Call → Prop}
    (leads : (r.rampupType false (some (flow, bucket)) key stored).Leads
      (calls ++ [.bucket flow.identity]) post)
    (free : ∀ after entry plan, ¬ post (.ok (.excluded entry plan)) after) :
    (r.rampupTier false (some flow) index { unresolved := wanted }).Leads calls
      fun result after => ∃ outcome, post outcome after ∧ result = outcome.map fun outcome =>
        takeChosen { unresolved := wanted, bucket := .int bucket } [(key, outcome)] := by
  have filled : ¬ index.isEmpty = true := by
    rw [OrderedMap.isEmpty, single]
    exact Bool.false_ne_true
  have sorted : index.sortedBy TypeKey.text = [(key, stored)] := by
    rw [OrderedMap.sortedBy, single, List.mergeSort_singleton]
  have types : (r.rampupTypes false (some (flow, bucket)) [(key, stored)]).Leads
      (calls ++ [.bucket flow.identity]) fun result after =>
        ∃ outcome, post outcome after ∧ result = outcome.map fun outcome => [(key, outcome)] := by
    refine leads.bind ?_ ?_
    · exact fun outcome after holds => Lookup.leads_pure ⟨.ok outcome, holds, rfl⟩
    · exact fun fault after holds => ⟨.error fault, holds, rfl⟩
  rw [rampupTier, if_neg filled, sorted]
  refine (arrives_place puts calls).bind_ok (types.bind ?_ ?_)
  · rintro outcomes after ⟨outcome, holds, same⟩
    cases outcome with
    | error fault => cases same
    | ok outcome =>
      cases same
      -- by `free` no version has to be fetched in place of an excluded one
      have kept : excludedTypes [(key, outcome)] = [] := by
        cases outcome with
        | excluded entry plan => exact absurd holds (free _ _ _)
        | _ => rfl
      rw [kept]
      exact Lookup.leads_pure ⟨.ok outcome, holds, rfl⟩
  · rintro fault after ⟨outcome, holds, same⟩
    cases outcome with
    | error other =>
      cases same
      exact ⟨.error fault, holds, rfl⟩
    | ok outcome => cases same

/-- A type that no plan decides may get an ACTIVE version. -/
theorem leads_activeTier_open {resolution : Resolution} (unramped : resolution.IsUnramped)
    (unresolved : ¬ resolution.unresolved.isEmpty = true) (calls : List Call) :
    (r.activeTier false resolution).Leads calls fun result after =>
      after = calls ++ [.activeVersions resolution.unresolved] ∧
      (∀ next, result = .ok next → next.IsUnramped) ∧ r.sources.Spares result := by
  rw [activeTier, if_neg unresolved, fetchActive, fetch, if_neg Bool.false_ne_true]
  refine (Lookup.leads_ask _ _ calls).bind ?_ ?_
  · rintro versions _ ⟨-, rfl⟩
    refine (Lookup.leads_give _ _).imp ?_
    rintro result _ - ⟨taken, rfl⟩
    rw [takeFirst_eq] at taken
    cases indexed : firstByKey (versions.getD []) resolution.unresolved with
    | error fault =>
      rw [indexed] at taken
      cases taken
      -- one of the versions belongs to no type
      obtain ⟨v, -, keyless⟩ := exists_of_firstByKey_error indexed
      exact ⟨rfl, by rintro _ ⟨⟩, Sources.spares_error_iff.mpr fun _ =>
        (TypeKey.external_ofDatum _ fault keyless).not_isOfPlan⟩
    | ok first =>
      rw [indexed] at taken
      cases taken
      refine ⟨rfl, ?_, r.sources.spares_ok _⟩
      rintro _ ⟨⟩ key decision found
      rw [Resolution.find?_decideAll, lookupEntry_firstDecisions] at found
      rcases Option.or_eq_some_iff.mp found with old | ⟨-, new⟩
      · exact unramped key decision old
      · obtain ⟨version, -, rfl⟩ := Option.map_eq_some_iff.mp new
        exact Selection.noConfusion
  · rintro fault _ ⟨failed, rfl⟩
    exact ⟨rfl, by rintro _ ⟨⟩, Sources.spares_error_iff.mpr fun plain =>
      plain.activeVersions _ _ _ failed⟩

/-! ## The course of a resolution -/

/-- The first questions of a resolution for one type: what its plan is, and which bucket the flow
falls into. -/
def firstCalls (flow : Flow) (key : TypeKey) : List Call :=
  [.plansFor (NameSet.ofList [key.text]), .bucket flow.identity]

/-- How a resolution for the type ends and what it asked, when this plan is stored and the flow
falls into the bucket. -/
inductive Course (r : Resolver) (flow : Flow) (bucket : Int) (key : TypeKey) (stored : Plan) :
    Except Fault Resolution → List Call → Prop where
  /-- The answer of the plan store does not mention the type. -/
  | unplanned {result : Except Fault Resolution} (missing : stored = [])
      (unramped : ∀ resolution, result = .ok resolution → resolution.IsUnramped)
      (spares : r.sources.Spares result) :
      Course r flow bucket key stored result
        [.plansFor (NameSet.ofList [key.text]), .activeVersions (NameSet.ofList [key.text])]
  | refused {fault : Fault}
      (refuses : (stored.order (.text key.text) (.ofName r.planOrder)).1 = .error fault) :
      Course r flow bucket key stored (.error fault) (firstCalls flow key)
  /-- No entry owns the bucket. -/
  | missed {walked : Plan} {result : Except Fault Resolution} (walks : r.WalksAs key stored walked)
      (missed : walked.matchBucket (.int bucket) = .ok none)
      (unramped : ∀ resolution, result = .ok resolution → resolution.IsUnramped)
      (spares : r.sources.Spares result) :
      Course r flow bucket key stored result
        (firstCalls flow key ++ [.activeVersions (NameSet.ofList [key.text])])
  /-- An entry owns the bucket, and its version is looked up. -/
  | matched {walked : Plan} {entry : PlanEntry} {result : Except Fault Resolution}
      (walks : r.WalksAs key stored walked)
      (matched : walked.matchBucket (.int bucket) = .ok (some entry))
      (decided : ∀ resolution, result = .ok resolution → ∃ version,
        resolution.decisions.find? key =
          some { version := some version, selection := .rampup, plan := walked } ∧
        version.key = .ok key ∧ version.hasLabel entry.version = .ok true)
      (spares : r.sources.Spares result) :
      Course r flow bucket key stored result
        (firstCalls flow key ++ .isExcluded flow.name key entry.version ::
          (r.sources.isExcluded (firstCalls flow key) flow.name key entry.version).2 ++
          [.findVersions (.text key.text) entry.version])

/-- Once the type has its decision, no further question is put. -/
theorem takeChosen_one (key : TypeKey) (bucket : Datum) (version : ImageVersion) (plan : Plan) :
    (takeChosen { unresolved := NameSet.ofList [key.text], bucket := bucket }
        [(key, .chosen version plan)]).unresolved.isEmpty = true ∧
      (takeChosen { unresolved := NameSet.ofList [key.text], bucket := bucket }
        [(key, .chosen version plan)]).decisions.find? key =
          some { version := some version, selection := .rampup, plan := plan } := by
  constructor
  · have erased : ((NameSet.ofList [key.text]).erase key.text).toList = [] :=
      List.filter_eq_nil_iff.mpr fun name member => by
        simpa using NameSet.mem_ofList.mp member
    exact List.isEmpty_iff.mpr erased
  · rw [takeChosen_eq, Resolution.find?_decideAll, OrderedMap.find?_empty, Option.none_or]
    exact if_pos rfl

/-- The tiers of a resolution that fails with the first fault, over the plans in an index. -/
def tiers (r : Resolver) (flow : Option Flow) (wanted : NameSet) (index : OrderedMap TypeKey Plan) :
    Lookup Resolution := do
  let resolution ← r.rampupTier false flow index { unresolved := wanted }
  r.activeTier false resolution

theorem leads_tiers_matched (puts : r.sources.PutsInto flow bucket)
    (free : r.sources.ExcludesNothing) (single : index.entries = [(key, stored)])
    (walks : r.WalksAs key stored walked)
    (matched : walked.matchBucket (.int bucket) = .ok (some entry)) :
    (r.tiers (some flow) (NameSet.ofList [key.text]) index).Leads
      [.plansFor (NameSet.ofList [key.text])] (Course r flow bucket key stored) := by
  refine (leads_rampupTier_one puts _ _ single (leads_rampupType_matched free walks matched _)
    ?_).bind ?_ ?_
  · rintro after other plan ⟨-, chosen, -⟩
    obtain ⟨version, ⟨⟩, -⟩ := chosen _ rfl
  · rintro resolution _ ⟨outcome, ⟨rfl, decided, -⟩, same⟩
    cases outcome with
    | error fault => cases same
    | ok outcome =>
      obtain ⟨version, rfl, own, labelled⟩ := decided outcome rfl
      cases same
      obtain ⟨done, found⟩ := takeChosen_one key (.int bucket) version walked
      rw [activeTier, if_pos done]
      refine Lookup.leads_pure (.matched walks matched ?_ (r.sources.spares_ok _))
      rintro _ ⟨⟩
      exact ⟨version, found, own, labelled⟩
  · rintro fault _ ⟨outcome, ⟨rfl, -, spares⟩, same⟩
    cases outcome with
    | error other =>
      cases same
      exact .matched walks matched (by rintro _ ⟨⟩)
        (Sources.spares_error_iff.mpr (Sources.spares_error_iff.mp spares))
    | ok outcome => cases same

/-- From the plans on, a resolution for one type takes its course; `index` holds its plan. -/
theorem leads_tiers_one (puts : r.sources.PutsInto flow bucket) (free : r.sources.ExcludesNothing)
    (whole : stored.IsWhole)
    (entries : index.entries = [] ∧ stored = [] ∨ index.entries = [(key, stored)]) :
    (r.tiers (some flow) (NameSet.ofList [key.text]) index).Leads
      [.plansFor (NameSet.ofList [key.text])] (Course r flow bucket key stored) := by
  have unresolved : ¬ (NameSet.ofList [key.text]).isEmpty = true := Bool.false_ne_true
  rcases entries with ⟨nothing, rfl⟩ | single
  · -- without any plan the tier ends before it asks for the bucket
    have skipped : r.rampupTier false (some flow) index
        { unresolved := NameSet.ofList [key.text] } =
        pure { unresolved := NameSet.ofList [key.text] } := by
      rw [rampupTier, OrderedMap.isEmpty, nothing]
      rfl
    rw [tiers, skipped, pure_bind]
    refine (leads_activeTier_open (Resolution.unramped_start _ _) unresolved _).imp ?_
    rintro result _ - ⟨rfl, unramped, spares⟩
    exact .unplanned rfl unramped spares
  · cases ordered : (stored.order (.text key.text) (.ofName r.planOrder)).1 with
    | error fault =>
      refine (leads_rampupTier_one puts _ _ single (arrives_rampupType_refused ordered _)
        ?_).bind ?_ ?_
      · rintro _ _ _ ⟨⟨⟩, -⟩
      · rintro resolution _ ⟨outcome, ⟨rfl, -⟩, ⟨⟩⟩
      · rintro other _ ⟨outcome, ⟨rfl, rfl⟩, ⟨⟩⟩
        exact .refused ordered
    | ok walked =>
      have shares := (Plan.sound_of_order whole ordered).1.isPositive
      rcases Plan.matchBucket_spec shares puts.low with ⟨i, entry, matched, -⟩ | ⟨missed, -⟩
      · exact leads_tiers_matched puts free single ordered matched
      · refine (leads_rampupTier_one puts _ _ single (arrives_rampupType_missed ordered missed _)
          ?_).bind ?_ ?_
        · rintro _ _ _ ⟨⟨⟩, -⟩
        · rintro resolution _ ⟨outcome, ⟨rfl, rfl⟩, same⟩
          cases same
          refine (leads_activeTier_open (Resolution.unramped_start _ _) unresolved _).imp ?_
          rintro result _ - ⟨rfl, unramped, spares⟩
          exact .missed ordered missed unramped spares
        · rintro fault _ ⟨outcome, ⟨rfl, -⟩, same⟩
          cases same

/-- What one name comes to, as the set of the wanted names. -/
theorem ofDatum_one (name : String) :
    NameSet.ofDatum (.list [.text name]) = .ok (NameSet.ofList [(TypeKey.ofName name).text]) :=
  NameSet.ofData_texts [name]

/-- The plan of a type in a typed book has integer percentages. -/
theorem planOf_whole {book : PlanBook} (typed : book.IsTyped) (key : TypeKey) :
    (book.planOf key).IsWhole := by
  obtain ⟨index, indexed, index_typed⟩ := indexed_typed typed (NameSet.ofList [key.text])
  rw [← PlanBook.getD_find?_indexed indexed (NameSet.mem_ofList.mpr List.mem_cons_self)]
  cases found : index.find? key with
  | none => exact nofun
  | some plan => exact (index_typed key plan found).2

/-- A resolution for one type takes its course. -/
theorem leads_resolve_one {book : PlanBook} {name : String}
    (puts : r.sources.PutsInto flow bucket) (free : r.sources.ExcludesNothing)
    (answers : r.sources.plansFor [] (NameSet.ofList [(TypeKey.ofName name).text]) = .ok book)
    (typed : book.IsTyped) :
    (r.resolve (some flow) (.list [.text name]) false none).Leads []
      (Course r flow bucket (.ofName name) (book.planOf (.ofName name))) := by
  obtain ⟨index, indexed, -⟩ := indexed_typed typed (NameSet.ofList [(TypeKey.ofName name).text])
  have filled : ¬ (NameSet.ofList [(TypeKey.ofName name).text]).isEmpty = true :=
    Bool.false_ne_true
  refine (Lookup.arrives_give (ofDatum_one name) []).bind_ok ?_
  rw [resolveWanted, if_neg filled, bookFor, fetch, if_neg Bool.false_ne_true]
  refine (Lookup.arrives_ask _ answers).bind_ok ((Lookup.arrives_settle indexed _).bind_ok ?_)
  simp only [Bool.false_eq_true, if_false, bind_pure]
  exact leads_tiers_one puts free (planOf_whole typed _) (PlanBook.entries_of_indexed_one indexed)

end Resolver

end Rollout

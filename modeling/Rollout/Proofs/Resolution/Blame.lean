import Rollout.Proofs.Resolution.Pins

/-!
# Who says that types are unresolved

Only the last step of a request says that types are unresolved, and it says so of the resolution
that it notes. The steps before it note nothing, and where they fail in that way, a source raised
the fault in answer to a question (`Blames`). So what a request for versions leaves behind is told
by the resolution that it reached, if it reached one (`Concludes`).
-/

namespace Rollout

namespace Sources

/-- Asked this after the calls, the source raises the fault. -/
inductive Raises (s : Sources) (calls : List Call) (fault : Fault) : Call → Prop where
  | imageTypes (raised : s.imageTypes calls = .error fault) : Raises s calls fault .imageTypes
  | findVersions {name label : Datum} (raised : s.findVersions calls name label = .error fault) :
      Raises s calls fault (.findVersions name label)
  | activeVersions {names : NameSet} (raised : s.activeVersions calls names = .error fault) :
      Raises s calls fault (.activeVersions names)
  | latestVersions {names : NameSet} (raised : s.latestVersions calls names = .error fault) :
      Raises s calls fault (.latestVersions names)
  | isInvalid {key : TypeKey} {label : Datum}
      (raised : s.isInvalid calls key label = .error fault) :
      Raises s calls fault (.isInvalid key label)
  | allPlans (raised : s.allPlans calls = .error fault) : Raises s calls fault .allPlans
  | plansFor {names : NameSet} (raised : s.plansFor calls names = .error fault) :
      Raises s calls fault (.plansFor names)
  | isExcluded {flowName : Datum} {key : TypeKey} {label : Datum}
      (raised : (s.isExcluded calls flowName key label).1 = .error fault) :
      Raises s calls fault (.isExcluded flowName key label)
  | bucket {flow : Flow} (raised : s.bucketOf calls flow = .error fault) :
      Raises s calls fault (.bucket flow.identity)

/-- One of the questions that were put was answered with the fault. -/
def Raised (s : Sources) (made : List Call) (fault : Fault) : Prop :=
  ∃ calls call, calls ++ [call] <+: made ∧ s.Raises calls fault call

end Sources

namespace Lookup

variable {α β : Type} {s : Sources}

/-- The look-up notes no resolution, and where it says that types are unresolved, a source has said
so. -/
def Blames (s : Sources) (lookup : Lookup α) : Prop :=
  ∀ journal : Journal, (lookup journal).2.reached = journal.reached ∧
    ∀ fault, (lookup journal).1 = .error fault → fault.IsUnresolved →
      s.Raised (lookup journal).2.calls fault

theorem IsSilent.blames {lookup : Lookup α} (silent : lookup.IsSilent) (s : Sources) :
    lookup.Blames s := by
  intro journal
  obtain ⟨result, settled, still⟩ := silent
  obtain ⟨same, -, unnoted⟩ := still journal
  refine ⟨unnoted, ?_⟩
  intro fault failed unresolved
  rw [same] at failed
  exact absurd unresolved (settled fault failed)

theorem Blames.bind {first : Lookup α} {next : α → Lookup β} (blames : first.Blames s)
    (onward : ∀ a, (next a).Blames s) : (first >>= next).Blames s := by
  intro journal
  have here := blames journal
  rw [Fallible.bind_apply]
  revert here
  rcases first journal with ⟨result, after⟩
  intro here
  cases result with
  | error fault =>
    refine ⟨here.1, ?_⟩
    intro fault' same
    cases same
    exact here.2 fault rfl
  | ok a =>
    have later := onward a after
    exact ⟨later.1.trans here.1, later.2⟩

theorem Blames.orElse {first : Lookup α} {recover : Fault → Lookup α} (blames : first.Blames s)
    (onward : ∀ fault, (recover fault).Blames s) : (first.orElse recover).Blames s := by
  intro journal
  have here := blames journal
  unfold Lookup.orElse
  revert here
  rcases first journal with ⟨result, after⟩
  intro here
  cases result with
  | ok a => exact here
  | error fault =>
    have later := onward fault after
    exact ⟨later.1.trans here.1, later.2⟩

theorem composed_blames (s : Sources) : Composed fun _ lookup => lookup.Blames s where
  silent := fun silent => silent.blames s
  bind := Blames.bind
  orElse := Blames.orElse

theorem blames_ask {call : Call} {source : List Call → Except Fault α}
    (raises : ∀ calls fault, source calls = .error fault → s.Raises calls fault call) :
    (ask call source).Blames s := by
  intro journal
  refine ⟨rfl, ?_⟩
  intro fault failed _
  exact ⟨journal.calls, call, List.prefix_rfl, raises journal.calls fault failed⟩

theorem blames_askThrough {call : Call} {source : List Call → Except Fault α × List Call}
    (raises : ∀ calls fault, (source calls).1 = .error fault → s.Raises calls fault call) :
    (askThrough call source).Blames s := by
  intro journal
  refine ⟨rfl, ?_⟩
  intro fault failed _
  have asked_first :
      journal.calls ++ [call] <+: journal.calls ++ call :: (source journal.calls).2 :=
    ⟨(source journal.calls).2, List.append_assoc journal.calls [call] _⟩
  exact ⟨journal.calls, call, asked_first, raises journal.calls fault failed⟩

/-- A sequence ends with its first part, where no resolution is reached, or goes on with the second
one. -/
theorem Blames.bind_cases {first : Lookup α} (blames : first.Blames s) (next : α → Lookup β)
    (journal : Journal) (unnoted : journal.reached = none) :
    (∃ fault after, (first >>= next) journal = (.error fault, after) ∧ after.reached = none ∧
      (fault.IsUnresolved → s.Raised after.calls fault)) ∨
    ∃ a after, first journal = (.ok a, after) ∧ after.reached = none ∧
      (first >>= next) journal = next a after := by
  have here := blames journal
  rw [Fallible.bind_apply]
  revert here
  rcases first journal with ⟨result, after⟩
  intro here
  cases result with
  | error fault => exact .inl ⟨fault, after, rfl, here.1.trans unnoted, here.2 fault rfl⟩
  | ok a => exact .inr ⟨a, after, rfl, here.1.trans unnoted, rfl⟩

end Lookup

namespace Resolver

open Lookup

theorem blames_questions (r : Resolver) (flow : Option Flow) :
    r.QuestionsHave flow fun _ lookup => lookup.Blames r.sources where
  findVersions _ _ := blames_ask fun _ _ raised => .findVersions raised
  activeVersions _ := blames_ask fun _ _ raised => .activeVersions raised
  latestVersions _ := blames_ask fun _ _ raised => .latestVersions raised
  plansFor _ := blames_ask fun _ _ raised => .plansFor raised
  bucket _ _ := blames_ask fun _ _ raised => .bucket raised
  isExcluded _ _ _ _ := blames_askThrough fun _ _ raised => .isExcluded raised

/-! ## Before the last step -/

variable {tolerant : Bool}

theorem blames_resolveWanted (r : Resolver) (flow : Option Flow) (wanted : NameSet)
    (plans : Option PlanBook) : (r.resolveWanted flow wanted tolerant plans).Blames r.sources :=
  (r.blames_questions flow).resolveWanted (composed_blames r.sources) wanted plans

theorem blames_resolve (r : Resolver) (flow : Option Flow) (names : Datum)
    (plans : Option PlanBook) : (r.resolve flow names tolerant plans).Blames r.sources :=
  ((silent_give (NameSet.external_ofDatum names)).blames r.sources).bind
    fun wanted => r.blames_resolveWanted flow wanted plans

theorem blames_typeNames (r : Resolver) : r.typeNames.Blames r.sources :=
  (blames_ask fun _ _ raised => .imageTypes raised).bind fun _ => (silent_pure _).blames r.sources

theorem blames_allPlans (r : Resolver) : (ask .allPlans r.sources.allPlans).Blames r.sources :=
  blames_ask fun _ _ raised => .allPlans raised

/-- What a source did not answer is left out with a warning. -/
theorem blames_caught {α : Type} {s : Sources} {lookup : Lookup α} (blames : lookup.Blames s)
    (text : Fault → String) (default : α) :
    (lookup.orElse fun fault => do warn (text fault); return default).Blames s :=
  blames.orElse fun _ => ((silent_warn _).blames s).bind fun _ => (silent_pure _).blames s

theorem blames_metadataNames (r : Resolver) : r.metadataNames.Blames r.sources :=
  blames_caught (r.blames_typeNames.bind fun _ => (silent_pure _).blames r.sources) _ _

theorem blames_metadataBook (r : Resolver) : r.metadataBook.Blames r.sources :=
  blames_caught r.blames_allPlans _ _

theorem blames_invalidPins (r : Resolver) (pins : List (TypeKey × VersionInfo)) :
    (r.invalidPins pins).Blames r.sources := by
  induction pins with
  | nil => exact (silent_pure []).blames r.sources
  | cons pin rest ih =>
    refine (blames_ask fun _ _ raised => .isInvalid raised).bind fun invalid => ?_
    exact ih.bind fun others => (silent_pure _).blames r.sources

/-! ## The last step -/

/-- What a request leaves behind whose last step concludes from a resolution with the property. -/
inductive Concludes (s : Sources) (property : Resolution → Prop) (exempt : Except Fault NameSet) :
    Except Fault (List (TypeKey × VersionInfo)) → Journal → Prop where
  /-- No resolution is reached. -/
  | unreached {fault : Fault} {journal : Journal} (unnoted : journal.reached = none)
      (blamed : fault.IsUnresolved → s.Raised journal.calls fault) :
      Concludes s property exempt (.error fault) journal
  /-- It cannot be read which types are exempt. -/
  | unread {resolution : Resolution} {fault : Fault} {journal : Journal}
      (noted : journal.reached = some resolution) (fails : exempt = .error fault) :
      Concludes s property exempt (.error fault) journal
  /-- Types are unresolved that are not exempt. -/
  | incomplete {resolution : Resolution} {exempted : NameSet} {journal : Journal}
      (noted : journal.reached = some resolution) (read : exempt = .ok exempted) :
      Concludes s property exempt
        (.error (.unresolvedTypes (resolution.unresolved.diff exempted).toList)) journal
  /-- All types that are not exempt have a version. -/
  | complete {resolution : Resolution} {exempted : NameSet} {journal : Journal}
      (noted : journal.reached = some resolution) (read : exempt = .ok exempted)
      (nothing : (resolution.unresolved.diff exempted).isEmpty = true)
      (holds : property resolution) :
      Concludes s property exempt (.ok resolution.versionInfos) journal

theorem conclude_apply (exempted : NameSet) (resolution : Resolution) (journal : Journal) :
    conclude (.ok exempted) resolution journal =
      (if (resolution.unresolved.diff exempted).isEmpty then .ok resolution.versionInfos
        else .error (.unresolvedTypes (resolution.unresolved.diff exempted).toList),
      { journal with reached := some resolution }) := by
  show (if (resolution.unresolved.diff exempted).isEmpty then
    (pure resolution.versionInfos : Lookup _) else throw _) _ = _
  split <;> rfl

theorem concludes_of_blames {s : Sources} {property : Resolution → Prop} {first : Lookup Resolution}
    (blames : first.Blames s) {journal : Journal}
    (returns : first.Returns journal.calls fun resolution _ => property resolution)
    (unnoted : journal.reached = none) (exempt : Except Fault NameSet) :
    Concludes s property exempt ((first >>= conclude exempt) journal).1
      ((first >>= conclude exempt) journal).2 := by
  rcases blames.bind_cases (conclude exempt) journal unnoted with
    ⟨fault, after, failed, unnoted, blamed⟩ | ⟨resolution, after, returned, -, onward⟩
  · rw [failed]
    exact .unreached unnoted blamed
  · have holds : property resolution := (returns journal rfl).2 resolution (by rw [returned])
    rw [onward]
    cases exempt with
    | error fault => exact .unread rfl rfl
    | ok exempted =>
      rw [conclude_apply]
      split
      · exact .complete rfl rfl ‹_› holds
      · exact .incomplete rfl rfl

/-! ## Requests for versions -/

theorem concludes_execution (r : Resolver) (flow : Option Flow) :
    Concludes r.sources Resolution.IsVersioned (.ok NameSet.empty) (r.execution flow).start.1
      (r.execution flow).start.2 := by
  have same : r.execution flow = (do
      let names ← r.typeNames
      let book ← ask .allPlans r.sources.allPlans
      r.resolve flow (.list names) false (some book)) >>= conclude (.ok NameSet.empty) := by
    simp only [execution_eq, resolve, bind_assoc]
  rw [same]
  refine concludes_of_blames ?_ ?_ rfl _
  · exact r.blames_typeNames.bind fun names => r.blames_allPlans.bind fun book =>
      r.blames_resolve flow (.list names) (some book)
  · have listed : r.typeNames.Returns [] fun _ _ => True :=
      (leads_ask _ _ []).returns.bind fun _ _ _ => returns_pure trivial
    refine listed.bind fun names calls _ => ?_
    refine (leads_ask _ _ calls).returns.bind fun book calls _ => ?_
    refine (leads_give _ calls).returns.bind ?_
    rintro wanted calls ⟨named, -⟩
    have normalized := NameSet.isNormalized_of_ofDatum named
    exact (proper_resolveWanted r flow normalized (some book) calls).imp
      fun _ _ _ proper => proper.versioned

/-- The resolution that a request for a subset concludes from. -/
def subsetResolution (r : Resolver) (flow : Option Flow) (wanted : NameSet) :
    Lookup Resolution := do
  let book ← ask (.plansFor wanted) (r.sources.plansFor · wanted)
  r.resolveWanted flow wanted false (some book)

theorem subsetWanted_eq_conclude (r : Resolver) (flow : Option Flow) (wanted : NameSet)
    (exempt : Except Fault NameSet) :
    r.subsetWanted flow wanted exempt = r.subsetResolution flow wanted >>= conclude exempt := by
  simp only [subsetWanted_eq, subsetResolution, bind_assoc]

theorem blames_subsetResolution (r : Resolver) (flow : Option Flow) (wanted : NameSet) :
    (r.subsetResolution flow wanted).Blames r.sources :=
  ((r.blames_questions flow).plansFor wanted).bind fun book =>
    r.blames_resolveWanted flow wanted (some book)

theorem proper_subsetResolution (r : Resolver) (flow : Option Flow) {wanted : NameSet}
    (normalized : wanted.IsNormalized) (calls : List Call) :
    (r.subsetResolution flow wanted).Returns calls fun resolution _ =>
      resolution.IsProper wanted false :=
  (leads_ask _ _ calls).returns.bind fun book calls _ =>
    proper_resolveWanted r flow normalized (some book) calls

/-- After calls that reached no resolution. -/
theorem concludes_subsetWanted (r : Resolver) (flow : Option Flow) {wanted : NameSet}
    (normalized : wanted.IsNormalized) (exempt : Except Fault NameSet) (journal : Journal)
    (unnoted : journal.reached = none) :
    Concludes r.sources (·.IsProper wanted false) exempt
      (r.subsetWanted flow wanted exempt journal).1
      (r.subsetWanted flow wanted exempt journal).2 := by
  rw [subsetWanted_eq_conclude]
  exact concludes_of_blames (r.blames_subsetResolution flow wanted)
    (r.proper_subsetResolution flow normalized journal.calls) unnoted exempt

end Resolver

end Rollout

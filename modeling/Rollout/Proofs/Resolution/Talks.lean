import Rollout.Proofs.Resolution.Transcript

/-!
# Talks about types

What the rampup tier says about one type is a talk that suits the plan of the type
(`says_rampupType`), and what it says about all types are such talks in the order of their keys
(`says_rampupTypes`). The outcomes of the tier are what the answers in the talks say (`AllCome`).
-/

namespace Rollout

/-- The outcome of a type is what the answers in the talk about it say. -/
structure Talk.ComesTo (tolerant : Bool) (talk : Talk) (outcome : Resolver.RampupOutcome) :
    Prop where
  chosen_iff : (∃ version plan, outcome = .chosen version plan) ↔ talk.Finds
  excluded_iff : (∃ entry plan, outcome = .excluded entry plan) ↔ talk.Bars
  found : tolerant = false → talk.search.isSome → talk.Finds

namespace Resolver

open Lookup

variable {r : Resolver} {tolerant : Bool} {calls : List Call} {key : TypeKey}

/-! ## One version -/

/-- A version is looked up by one question, and found where the answer has it. -/
theorem says_exactVersion (r : Resolver) (key : TypeKey) (label : Datum) (calls : List Call) :
    (r.exactVersion (.text key.text) label).Says r.sources tolerant calls fun result said =>
      ∃ answer, said = [Search.exchange key ⟨label, answer⟩] ∧
        ((∃ v, result = .ok v) ↔ Search.Finds key ⟨label, answer⟩) := by
  have asked : (ask (.findVersions (.text key.text) label)
      (r.sources.findVersions · (.text key.text) label)).Says r.sources tolerant calls
      fun result said => said = [.findVersions (.text key.text) label result] :=
    says_ask (fun _ => rfl) rfl fun _ => by simp [Exchange.IsFatal]
  refine asked.bind ?_ ?_
  · rintro versions _ rfl
    have finds_iff : Search.Finds key ⟨label, .ok versions⟩ ↔ ∃ v,
        Fallible.find? (·.isNamed (.text key.text) label) (versions.getD []) = .ok (some v) := by
      simp [Search.Finds]
    refine (says_give _ _).bind ?_ ?_
    · rintro chosen _ ⟨rfl, tested⟩
      cases chosen with
      | some v => exact says_pure ⟨.ok versions, rfl, by simp [finds_iff, tested]⟩
      | none => exact says_throw ⟨.ok versions, rfl, by simp [finds_iff, tested]⟩
    · rintro fault _ ⟨rfl, failed⟩
      exact ⟨.ok versions, rfl, by simp [finds_iff, failed]⟩
  · rintro fault _ rfl
    exact ⟨.error fault, rfl, by simp [Search.Finds]⟩

/-- The outcome is that the version is chosen where it is found; a tolerant resolution passes the
type on where it is not. -/
theorem says_chooseEntry (r : Resolver) (key : TypeKey) (entry : PlanEntry) (plan : Plan)
    (calls : List Call) :
    (r.chooseEntry tolerant key entry plan).Says r.sources tolerant calls fun result said =>
      ∃ answer, said = [Search.exchange key ⟨entry.version, answer⟩] ∧
        ∀ outcome, result = .ok outcome →
          (∃ version, outcome = .chosen version plan) ∧
              Search.Finds key ⟨entry.version, answer⟩ ∨
            outcome = .passed ∧ tolerant = true ∧
              ¬ Search.Finds key ⟨entry.version, answer⟩ := by
  have looked : (do return .chosen (← r.exactVersion (.text key.text) entry.version) plan :
      Lookup RampupOutcome).Says r.sources tolerant calls fun result said =>
        ∃ answer, said = [Search.exchange key ⟨entry.version, answer⟩] ∧
          (∀ outcome, result = .ok outcome → (∃ version, outcome = .chosen version plan) ∧
            Search.Finds key ⟨entry.version, answer⟩) ∧
          ∀ fault, result = .error fault → ¬ Search.Finds key ⟨entry.version, answer⟩ := by
    refine (says_exactVersion r key entry.version calls).bind ?_ ?_
    · rintro version _ ⟨answer, rfl, found_iff⟩
      refine says_pure ⟨answer, rfl, ?_, ?_⟩
      · rintro _ ⟨⟩
        exact ⟨⟨version, rfl⟩, found_iff.mp ⟨version, rfl⟩⟩
      · rintro _ ⟨⟩
    · rintro fault said ⟨answer, rfl, found_iff⟩
      refine ⟨answer, rfl, ?_, ?_⟩
      · rintro _ ⟨⟩
      · simp [← found_iff]
  rw [chooseEntry]
  split
  · refine looked.orElse ?_ ?_
    · rintro outcome said ⟨answer, asked, chosen, -⟩
      exact ⟨answer, asked, fun other same => .inl (chosen other same)⟩
    · rintro fault _ ⟨answer, rfl, -, missed⟩
      refine ⟨?_, says_warn_pure _ ⟨answer, rfl, ?_⟩⟩
      · simp_all [Search.exchange, Exchange.IsFatal]
      · rintro _ ⟨⟩
        exact .inr ⟨rfl, ‹_›, missed fault rfl⟩
  · refine looked.imp ?_
    rintro result said ⟨answer, asked, chosen, -⟩
    exact ⟨answer, asked, fun outcome same => .inl (chosen outcome same)⟩

/-! ## One type -/

/-- To put a plan in order asks nothing, and where it comes to entries, the plan is walked so. -/
theorem says_walkOrder (r : Resolver) (key : TypeKey) (stored : Plan) (calls : List Call) :
    (r.walkOrder tolerant key stored).Says r.sources tolerant calls fun result said => said = [] ∧
      (∀ other, r.WalksAs key stored other → result = .ok other) ∧
      ∀ walked, result = .ok walked → walked ≠ [] → r.WalksAs key stored walked := by
  have settled : (settle (stored.order (.text key.text) (.ofName r.planOrder))).Says r.sources
      tolerant calls fun result said =>
        said = [] ∧ (stored.order (.text key.text) (.ofName r.planOrder)).1 = result :=
    says_settle _ calls
  refine settled.orElse ?_ ?_
  · rintro walked said ⟨rfl, walks⟩
    refine ⟨rfl, fun other same => walks.symm.trans same, ?_⟩
    intro again same _
    exact walks.trans same
  · rintro fault said ⟨rfl, refused⟩
    -- a plan that is refused is walked in no order
    have nowhere : ∀ other, ¬ r.WalksAs key stored other := by
      intro other walks
      cases refused.symm.trans walks
    refine ⟨by simp, ?_⟩
    split
    · refine says_warn_pure _ ⟨rfl, fun other walks => absurd walks (nowhere other), ?_⟩
      rintro _ ⟨⟩ filled
      exact absurd rfl filled
    · refine says_throw ⟨rfl, fun other walks => absurd walks (nowhere other), ?_⟩
      rintro _ ⟨⟩

/-- An entry counts only where the plan is walked and has entries. -/
theorem Counts.walks {stored : Plan} {placed : Option (Flow × Int)} {entry : PlanEntry}
    (counts : r.Counts key stored placed entry) :
    ∃ walked, r.WalksAs key stored walked ∧ walked ≠ [] := by
  cases counts with
  | @owner walked _ _ _ walks matched =>
    refine ⟨walked, walks, ?_⟩
    rintro rfl
    cases matched
  | first walks filled _ => exact ⟨_, walks, filled⟩

/-- What is said of the type is a talk that suits its plan, and the outcome is what the talk comes
to. -/
def Discussed (r : Resolver) (tolerant : Bool) (placed : Option (Flow × Int)) (key : TypeKey)
    (stored : Plan) (result : Except Fault RampupOutcome) (said : List Exchange) : Prop :=
  ∃ talk : Talk, talk.key = key ∧ said = talk.exchanges ∧ talk.Suits r key stored placed ∧
    ∀ outcome, result = .ok outcome → talk.ComesTo tolerant outcome

variable {placed : Option (Flow × Int)} {stored : Plan}

/-- Where no entry counts, the type is passed on without a question. -/
theorem discussed_silent {result : Except Fault RampupOutcome}
    (nobody : ∀ entry, ¬ r.Counts key stored placed entry)
    (passed : ∀ outcome, result = .ok outcome → outcome = .passed) :
    r.Discussed tolerant placed key stored result [] := by
  refine ⟨⟨key, none, none⟩, rfl, rfl, .silent nobody, ?_⟩
  intro outcome same
  rw [passed outcome same]
  constructor <;> simp [Talk.Finds, Talk.Bars]

/-- Where the evaluator does not object, the outcome is that of the search. -/
theorem comesTo_of_search {ruling : Option Ruling} {search : Search} {plan : Plan}
    {outcome : RampupOutcome} (free : ∀ asked ∈ ruling, asked.answer = .ok false)
    (searched : (∃ version, outcome = .chosen version plan) ∧ search.Finds key ∨
      outcome = .passed ∧ tolerant = true ∧ ¬ search.Finds key) :
    Talk.ComesTo tolerant ⟨key, ruling, some search⟩ outcome := by
  have finds_iff : Talk.Finds ⟨key, ruling, some search⟩ ↔ search.Finds key := by
    simp [Talk.Finds]
  have bars : ¬ Talk.Bars ⟨key, ruling, some search⟩ := by
    rintro ⟨asked, member, barred⟩
    cases (free asked member).symm.trans barred
  rcases searched with ⟨⟨version, rfl⟩, finds⟩ | ⟨rfl, lenient, missed⟩
  · constructor <;> simp [finds_iff, finds, bars]
  · constructor <;> simp [finds_iff, missed, bars, lenient]

/-- Nothing is asked about a plan that is not walked, or has no entries. -/
theorem not_counts_of_nil (walks : ∀ other, r.WalksAs key stored other → other = [])
    (entry : PlanEntry) : ¬ r.Counts key stored placed entry := by
  intro counts
  obtain ⟨other, ordered, filled⟩ := counts.walks
  exact filled (walks other ordered)

theorem discussed_refused {fault : Fault} (refused : ∀ other, ¬ r.WalksAs key stored other) :
    r.Discussed tolerant placed key stored (.error fault) [] := by
  refine discussed_silent (fun entry counts => ?_) (by rintro _ ⟨⟩)
  obtain ⟨other, walks, -⟩ := counts.walks
  exact refused other walks

/-- Without a flow the first stored entry is looked up. -/
theorem says_rampupType_none (r : Resolver) (key : TypeKey) (stored : Plan) (calls : List Call) :
    (r.rampupType tolerant none key stored).Says r.sources tolerant calls
      (r.Discussed tolerant none key stored) := by
  rw [rampupType]
  refine (says_walkOrder r key stored calls).bind ?_ ?_
  · rintro walked _ ⟨rfl, walks, ordered⟩
    have unique : ∀ other, r.WalksAs key stored other → other = walked := fun other walks' =>
      (Except.ok.inj (walks other walks')).symm
    cases walked with
    | nil => exact says_pure (discussed_silent (not_counts_of_nil unique) (by rintro _ ⟨⟩; rfl))
    | cons head tail =>
      have walks := ordered _ rfl (List.cons_ne_nil head tail)
      cases stored with
      | nil =>
        refine says_pure (discussed_silent (fun entry counts => ?_) (by rintro _ ⟨⟩; rfl))
        cases counts with
        | first _ _ stands => cases stands
      | cons first rest =>
        have counts : r.Counts key (first :: rest) none first :=
          .first walks (List.cons_ne_nil head tail) rfl
        refine (says_chooseEntry r key first (head :: tail) _).imp ?_
        rintro result _ ⟨answer, rfl, outcomes⟩
        exact ⟨_, rfl, rfl, .first counts answer, fun outcome same =>
          comesTo_of_search (by simp) (outcomes outcome same)⟩
  · rintro fault said ⟨rfl, refused, -⟩
    exact discussed_refused fun other walks => by cases refused other walks

/-- The evaluator is asked about the entry that counts, and its version is looked up where the
evaluator does not object. -/
theorem says_judged (r : Resolver) {flow : Flow} {bucket : Int} {entry : PlanEntry}
    (counts : r.Counts key stored (some (flow, bucket)) entry) (walked : Plan)
    (calls : List Call) :
    (do
      if ← askThrough (.isExcluded flow.name key entry.version)
          (r.sources.isExcluded · flow.name key entry.version) then
        return .excluded entry walked
      else r.chooseEntry tolerant key entry walked : Lookup RampupOutcome).Says r.sources tolerant
        calls (r.Discussed tolerant (some (flow, bucket)) key stored) := by
  have judged : (askThrough (.isExcluded flow.name key entry.version)
      (r.sources.isExcluded · flow.name key entry.version)).Says r.sources tolerant calls
      fun result said => ∃ own, said = [.isExcluded flow.name key entry.version result own] :=
    says_askThrough (fun _ _ => rfl) rfl fun _ _ => by simp [Exchange.IsFatal]
  refine judged.bind ?_ ?_
  · rintro barred _ ⟨own, rfl⟩
    cases barred with
    | true =>
      refine says_pure ⟨_, rfl, rfl, .barred counts (by simp) own, ?_⟩
      rintro _ ⟨⟩
      constructor <;> simp [Talk.Finds, Talk.Bars]
    | false =>
      refine (says_chooseEntry r key entry walked _).imp ?_
      rintro result _ ⟨answer, rfl, outcomes⟩
      exact ⟨_, rfl, rfl, .free counts own answer, fun outcome same =>
        comesTo_of_search (by simp) (outcomes outcome same)⟩
  · rintro fault _ ⟨own, rfl⟩
    refine ⟨_, rfl, rfl, .barred counts (by simp) own, ?_⟩
    rintro _ ⟨⟩

/-- For a flow in a bucket the evaluator is asked about the owner of the bucket first. -/
theorem says_rampupType_some (r : Resolver) (flow : Flow) (bucket : Int) (key : TypeKey)
    (stored : Plan) (calls : List Call) :
    (r.rampupType tolerant (some (flow, bucket)) key stored).Says r.sources tolerant calls
      (r.Discussed tolerant (some (flow, bucket)) key stored) := by
  rw [rampupType_placed]
  refine (says_walkOrder r key stored calls).bind ?_ ?_
  · rintro walked _ ⟨rfl, walks, ordered⟩
    have nobody : (∀ entry, walked.matchBucket (.int bucket) ≠ .ok (some entry)) →
        ∀ entry, ¬ r.Counts key stored (some (flow, bucket)) entry := by
      intro missed entry counts
      cases counts with
      | owner walks' matched =>
        obtain rfl := Except.ok.inj (walks _ walks')
        exact missed entry matched
    refine (says_give _ _).bind ?_ ?_
    · rintro owner _ ⟨rfl, matched⟩
      cases owner with
      | none =>
        exact says_pure (discussed_silent (nobody (by simp [matched])) (by rintro _ ⟨⟩; rfl))
      | some entry =>
        have filled : walked ≠ [] := by
          rintro rfl
          cases matched
        have counts : r.Counts key stored (some (flow, bucket)) entry :=
          .owner (ordered walked rfl filled) matched
        exact says_judged r counts walked _
    · rintro fault _ ⟨rfl, failed⟩
      exact discussed_silent (nobody (by simp [failed])) (by rintro _ ⟨⟩)
  · rintro fault said ⟨rfl, refused, -⟩
    exact discussed_refused fun other walks => by cases refused other walks

/-- **What is said of a type is a talk that suits its plan.** -/
theorem says_rampupType (r : Resolver) (placed : Option (Flow × Int)) (key : TypeKey)
    (stored : Plan) (calls : List Call) :
    (r.rampupType tolerant placed key stored).Says r.sources tolerant calls
      (r.Discussed tolerant placed key stored) := by
  cases placed with
  | none => exact says_rampupType_none r key stored calls
  | some place => exact says_rampupType_some r place.1 place.2 key stored calls

/-! ## All types -/

/-- The outcomes are what the talks come to, one by one. -/
structure AllCome (tolerant : Bool) (talks : List Talk)
    (outcomes : List (TypeKey × RampupOutcome)) : Prop where
  keys : talks.map Talk.key = outcomes.map Prod.fst
  of_talk : ∀ talk ∈ talks, ∃ outcome, (talk.key, outcome) ∈ outcomes ∧
    talk.ComesTo tolerant outcome
  of_outcome : ∀ outcome ∈ outcomes, ∃ talk ∈ talks, talk.key = outcome.1 ∧
    talk.ComesTo tolerant outcome.2

theorem AllCome.cons {talk : Talk} {talks : List Talk} {outcome : RampupOutcome}
    {outcomes : List (TypeKey × RampupOutcome)} (comes : talk.ComesTo tolerant outcome)
    (all : AllCome tolerant talks outcomes) :
    AllCome tolerant (talk :: talks) ((talk.key, outcome) :: outcomes) where
  keys := by simp [all.keys]
  of_talk := by
    refine List.forall_mem_cons.mpr ⟨⟨outcome, List.mem_cons_self, comes⟩, ?_⟩
    intro other member
    obtain ⟨outcome, among, comes⟩ := all.of_talk other member
    exact ⟨outcome, List.mem_cons_of_mem _ among, comes⟩
  of_outcome := by
    refine List.forall_mem_cons.mpr ⟨⟨talk, List.mem_cons_self, rfl, comes⟩, ?_⟩
    intro other member
    obtain ⟨talk, among, comes⟩ := all.of_outcome other member
    exact ⟨talk, List.mem_cons_of_mem _ among, comes⟩

theorem discusses_nil (r : Resolver) (placed : Option (Flow × Int))
    (plans : List (TypeKey × Plan)) : r.Discusses placed plans [] :=
  ⟨List.nil_prefix, by simp⟩

theorem Discusses.cons {talk : Talk} {talks : List Talk} {rest : List (TypeKey × Plan)}
    (suits : talk.Suits r talk.key stored placed) (discusses : r.Discusses placed rest talks) :
    r.Discusses placed ((talk.key, stored) :: rest) (talk :: talks) where
  keys := by simpa using discusses.keys
  suits := by
    refine List.forall_mem_cons.mpr ⟨⟨stored, List.mem_cons_self, suits⟩, ?_⟩
    intro other member
    obtain ⟨plan, among, suits⟩ := discusses.suits other member
    exact ⟨plan, List.mem_cons_of_mem _ among, suits⟩

/-- The types are talked about one after the other, up to the first that ends the resolution. -/
theorem says_rampupTypes (r : Resolver) (placed : Option (Flow × Int))
    (plans : List (TypeKey × Plan)) (calls : List Call) :
    (r.rampupTypes tolerant placed plans).Says r.sources tolerant calls fun result said =>
      ∃ talks : List Talk, said = talks.flatMap Talk.exchanges ∧ r.Discusses placed plans talks ∧
        ∀ outcomes, result = .ok outcomes →
          outcomes.map Prod.fst = plans.map Prod.fst ∧ AllCome tolerant talks outcomes := by
  induction plans generalizing calls with
  | nil =>
    refine says_pure ⟨[], rfl, discusses_nil r placed [], ?_⟩
    rintro _ ⟨⟩
    exact ⟨rfl, rfl, by simp, by simp⟩
  | cons plan rest ih =>
    obtain ⟨key, stored⟩ := plan
    rw [rampupTypes]
    refine (says_rampupType r placed key stored calls).bind ?_ ?_
    · rintro outcome _ ⟨talk, rfl, rfl, suits, comes⟩
      refine (ih _).bind ?_ ?_
      · rintro outcomes _ ⟨talks, rfl, discusses, all⟩
        refine says_pure ⟨talk :: talks, by simp, discusses.cons suits, ?_⟩
        rintro _ ⟨⟩
        obtain ⟨keys, all⟩ := all outcomes rfl
        exact ⟨by simp [keys], all.cons (comes outcome rfl)⟩
      · rintro fault _ ⟨talks, rfl, discusses, -⟩
        refine ⟨talk :: talks, by simp, discusses.cons suits, ?_⟩
        rintro _ ⟨⟩
    · rintro fault _ ⟨talk, rfl, rfl, suits, -⟩
      refine ⟨[talk], by simp, (discusses_nil r placed rest).cons suits, ?_⟩
      rintro _ ⟨⟩

/-- The types that the evaluator bars are those that the tier takes away from their plans. -/
theorem AllCome.bars_iff {talks : List Talk} {outcomes : List (TypeKey × RampupOutcome)}
    (all : AllCome tolerant talks outcomes) (key : TypeKey) :
    (∃ talk ∈ talks, talk.key = key ∧ talk.Bars) ↔
      ∃ entry plan, (key, .excluded entry plan) ∈ outcomes := by
  constructor
  · rintro ⟨talk, member, rfl, bars⟩
    obtain ⟨outcome, among, comes⟩ := all.of_talk talk member
    obtain ⟨entry, plan, rfl⟩ := comes.excluded_iff.mpr bars
    exact ⟨entry, plan, among⟩
  · rintro ⟨entry, plan, among⟩
    obtain ⟨talk, member, same, comes⟩ := all.of_outcome _ among
    exact ⟨talk, member, same, comes.excluded_iff.mp ⟨entry, plan, rfl⟩⟩

/-- The types with a version that is found are those that the tier chooses it for. -/
theorem AllCome.finds_iff {talks : List Talk} {outcomes : List (TypeKey × RampupOutcome)}
    (all : AllCome tolerant talks outcomes) (key : TypeKey) :
    (∃ talk ∈ talks, talk.key = key ∧ talk.Finds) ↔
      ∃ version plan, (key, .chosen version plan) ∈ outcomes := by
  constructor
  · rintro ⟨talk, member, rfl, finds⟩
    obtain ⟨outcome, among, comes⟩ := all.of_talk talk member
    obtain ⟨version, plan, rfl⟩ := comes.chosen_iff.mpr finds
    exact ⟨version, plan, among⟩
  · rintro ⟨version, plan, among⟩
    obtain ⟨talk, member, same, comes⟩ := all.of_outcome _ among
    exact ⟨talk, member, same, comes.chosen_iff.mp ⟨version, plan, rfl⟩⟩

end Resolver

end Rollout

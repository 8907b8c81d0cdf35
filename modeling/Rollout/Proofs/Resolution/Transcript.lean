import Rollout.Proofs.Lookup.Exchanges
import Rollout.Proofs.Plan.Book
import Rollout.Proofs.Resolution.Evidence

/-!
# Transcripts of resolutions

A **transcript** holds what one resolution says to its sources: the plans that it asks for, the
bucket, a talk about each type with a plan, and up to three batches of versions. It **follows** the
tiers (`Follows`) when each question is due by the answers before it: a talk is about the entry that
counts for its type, and each batch is for exactly the types that the answers so far leave
undecided.

The answers alone say what is decided, so a transcript can be judged without running a resolution.
-/

namespace Rollout

/-! ## The parts -/

/-- A question for several types at once. -/
structure Batch (α : Type) where
  names : NameSet
  answer : Except Fault α

/-- Versions of several types. -/
abbrev VersionBatch := Batch (Option (List ImageVersion))

/-- The evaluator is asked whether a flow is kept away from a version. -/
structure Ruling where
  flowName : Datum
  label : Datum
  answer : Except Fault Bool
  /-- The calls that the evaluator made for its answer. -/
  own : List Call

/-- A version is looked up by its label. -/
structure Search where
  label : Datum
  answer : Except Fault (Option (List ImageVersion))

/-- What is said of one type in the rampup tier. -/
structure Talk where
  key : TypeKey
  ruling : Option Ruling := none
  search : Option Search := none

/-- What a resolution says to its sources, in this order. -/
structure Transcript where
  plans : Option (Batch PlanBook) := none
  bucket : Option (Flow × Except Fault Datum) := none
  talks : List Talk := []
  /-- The versions that replace those which the evaluator keeps the flow away from. -/
  fallback : Option VersionBatch := none
  active : Option VersionBatch := none
  latest : Option VersionBatch := none

def Ruling.exchange (key : TypeKey) (ruling : Ruling) : Exchange :=
  .isExcluded ruling.flowName key ruling.label ruling.answer ruling.own

def Search.exchange (key : TypeKey) (search : Search) : Exchange :=
  .findVersions (.text key.text) search.label search.answer

def Batch.plansExchange (batch : Batch PlanBook) : Exchange :=
  .plansFor batch.names batch.answer

def Batch.activeExchange (batch : VersionBatch) : Exchange :=
  .activeVersions batch.names batch.answer

def Batch.latestExchange (batch : VersionBatch) : Exchange :=
  .latestVersions batch.names batch.answer

def Talk.exchanges (talk : Talk) : List Exchange :=
  (talk.ruling.map (·.exchange talk.key)).toList ++ (talk.search.map (·.exchange talk.key)).toList

namespace Transcript

/-- The exchanges before the tiers that look versions up for the types that are left. -/
def opening (t : Transcript) : List Exchange :=
  (t.plans.map Batch.plansExchange).toList ++
    (t.bucket.map fun place => .bucket place.1 place.2).toList ++
    t.talks.flatMap Talk.exchanges

def exchanges (t : Transcript) : List Exchange :=
  t.opening ++
    (t.fallback.map Batch.activeExchange).toList ++
    (t.active.map Batch.activeExchange).toList ++
    (t.latest.map Batch.latestExchange).toList

/-- All calls, those of the evaluator among them. -/
def calls (t : Transcript) : List Call :=
  Exchange.callsOf t.exchanges

/-- The questions of the resolution itself. -/
def questions (t : Transcript) : List Call :=
  t.exchanges.map Exchange.question

end Transcript

/-! ## What the answers decide -/

/-- The batch has a version of the type. -/
def Batch.Finds (batch : VersionBatch) (key : TypeKey) : Prop :=
  ∃ versions, batch.answer = .ok versions ∧ ∃ v ∈ versions.getD [], v.key = .ok key

/-- Among the answered versions, one of the type has the label. -/
def Search.Finds (key : TypeKey) (search : Search) : Prop :=
  ∃ versions v, search.answer = .ok versions ∧
    Fallible.find? (·.isNamed (.text key.text) search.label) (versions.getD []) = .ok (some v)

/-- The version of the entry that counts is found. -/
def Talk.Finds (talk : Talk) : Prop :=
  ∃ search ∈ talk.search, search.Finds talk.key

/-- The flow is kept away from that version. -/
def Talk.Bars (talk : Talk) : Prop :=
  ∃ ruling ∈ talk.ruling, ruling.answer = .ok true

namespace Transcript

def Bars (t : Transcript) (key : TypeKey) : Prop :=
  ∃ talk ∈ t.talks, talk.key = key ∧ talk.Bars

/-- The rampup tier decides the type: for the version of its plan, or for the one that replaces
it. -/
def Ramps (t : Transcript) (key : TypeKey) : Prop :=
  (∃ talk ∈ t.talks, talk.key = key ∧ talk.Finds) ∨
    t.Bars key ∧ ∃ batch ∈ t.fallback, batch.Finds key

/-- The second tier finds a version of the type. -/
def Activates (t : Transcript) (key : TypeKey) : Prop :=
  ∃ batch ∈ t.active, batch.Finds key

end Transcript

/-! ## When a question is due -/

/-- The batch is for exactly the types with the property, and there is one. -/
structure Batch.IsFor {α : Type} (batch : Batch α) (property : TypeKey → Prop) : Prop where
  exist : ∃ key, property key
  mem_names_iff : ∀ name, name ∈ batch.names ↔ ∃ key : TypeKey, key.text = name ∧ property key

/-- What a resolution is given. -/
structure Errand where
  flow : Option Flow
  wanted : NameSet
  tolerant : Bool
  given : Option PlanBook

/-- The book that a resolution goes by: the one that is given, the one that the plan store answers,
or an empty one where it fails and the resolution is tolerant. -/
inductive Errand.GoesBy (errand : Errand) (asked : Option (Batch PlanBook)) : PlanBook → Prop where
  | given {book : PlanBook} (given : errand.given = some book) : GoesBy errand asked book
  | answered {names : NameSet} {book : PlanBook} (answered : asked = some ⟨names, .ok book⟩) :
      GoesBy errand asked book
  | missed {names : NameSet} {fault : Fault} (failed : asked = some ⟨names, .error fault⟩)
      (tolerant : errand.tolerant = true) : GoesBy errand asked OrderedMap.empty

/-- The flow falls into a bucket, or there is no flow. -/
inductive Placed (asked : Option (Flow × Except Fault Datum)) :
    Option Flow → Option (Flow × Int) → Prop where
  | nowhere : Placed asked none none
  | bucket {flow : Flow} {n : Int} (answered : asked = some (flow, .ok (.int n))) (low : 1 ≤ n)
      (high : n ≤ bucketCount) : Placed asked (some flow) (some (flow, n))

namespace Resolver

/-- The entry of a type's plan that counts: the one that owns the flow's bucket in the plan as it is
walked, or the stored first one where there is no flow. -/
inductive Counts (r : Resolver) (key : TypeKey) (stored : Plan) :
    Option (Flow × Int) → PlanEntry → Prop where
  | owner {walked : Plan} {flow : Flow} {bucket : Int} {entry : PlanEntry}
      (walks : r.WalksAs key stored walked)
      (matched : walked.matchBucket (.int bucket) = .ok (some entry)) :
      Counts r key stored (some (flow, bucket)) entry
  | first {walked rest : Plan} {entry : PlanEntry} (walks : r.WalksAs key stored walked)
      (filled : walked ≠ []) (stands : stored = entry :: rest) : Counts r key stored none entry

end Resolver

/-- What is said of a type suits its plan: the evaluator is asked only about a flow and the entry
that counts for it, and a version is looked up only where the evaluator does not object. -/
inductive Talk.Suits (r : Resolver) (key : TypeKey) (stored : Plan) :
    Option (Flow × Int) → Talk → Prop where
  | silent {placed : Option (Flow × Int)}
      (nobody : ∀ entry, ¬ r.Counts key stored placed entry) :
      Suits r key stored placed ⟨key, none, none⟩
  | first {entry : PlanEntry} (counts : r.Counts key stored none entry)
      (answer : Except Fault (Option (List ImageVersion))) :
      Suits r key stored none ⟨key, none, some ⟨entry.version, answer⟩⟩
  | barred {flow : Flow} {bucket : Int} {entry : PlanEntry}
      (counts : r.Counts key stored (some (flow, bucket)) entry) {answer : Except Fault Bool}
      (not_free : answer ≠ .ok false) (own : List Call) :
      Suits r key stored (some (flow, bucket))
        ⟨key, some ⟨flow.name, entry.version, answer, own⟩, none⟩
  | free {flow : Flow} {bucket : Int} {entry : PlanEntry}
      (counts : r.Counts key stored (some (flow, bucket)) entry) (own : List Call)
      (answer : Except Fault (Option (List ImageVersion))) :
      Suits r key stored (some (flow, bucket))
        ⟨key, some ⟨flow.name, entry.version, .ok false, own⟩, some ⟨entry.version, answer⟩⟩

/-- The talks are about the first of the plans, in their order. -/
structure Resolver.Discusses (r : Resolver) (placed : Option (Flow × Int))
    (plans : List (TypeKey × Plan)) (talks : List Talk) : Prop where
  keys : talks.map Talk.key <+: plans.map Prod.fst
  suits : ∀ talk ∈ talks, ∃ stored, (talk.key, stored) ∈ plans ∧
    talk.Suits r talk.key stored placed

namespace Transcript

/-- The plans of the wanted types. -/
def Relevant (t : Transcript) (errand : Errand) (index : OrderedMap TypeKey Plan) : Prop :=
  ∃ book, errand.GoesBy t.plans book ∧ (book.indexed errand.wanted).1 = .ok index

/-- All relevant plans were talked about, and a resolution that is not tolerant found every version
that it looked up. -/
structure IsThrough (t : Transcript) (errand : Errand) : Prop where
  discussed : ∃ index, t.Relevant errand index ∧
    t.talks.map Talk.key = (index.sortedBy TypeKey.text).map Prod.fst
  found : errand.tolerant = false → ∀ talk ∈ t.talks, talk.search.isSome → talk.Finds

/-- The rampup tier is over: the barred types had their fallback, which a resolution that is not
tolerant needs for each of them. -/
structure IsRamped (t : Transcript) (errand : Errand) : Prop where
  through : t.IsThrough errand
  replaced : ∀ key, t.Bars key →
    ∃ batch ∈ t.fallback, errand.tolerant = false → batch.Finds key

/-- The second tier is over, which asks for every type that the first one leaves. -/
structure IsActivated (t : Transcript) (errand : Errand) : Prop where
  ramped : t.IsRamped errand
  asked : (∃ key : TypeKey, key.text ∈ errand.wanted ∧ ¬ t.Ramps key) → t.active.isSome

/-- All tiers are over; the third one is run on request only. -/
structure IsComplete (t : Transcript) (errand : Errand) : Prop where
  activated : t.IsActivated errand
  asked : errand.tolerant = true →
    (∃ key : TypeKey, key.text ∈ errand.wanted ∧ ¬ (t.Ramps key ∨ t.Activates key)) →
    t.latest.isSome

/-- Every question is due by the answers before it. -/
structure Follows (t : Transcript) (r : Resolver) (errand : Errand) : Prop where
  plans : ∀ batch ∈ t.plans, errand.given = none ∧ batch.names = errand.wanted
  bucket : ∀ place ∈ t.bucket, errand.flow = some place.1 ∧
    ∃ index, t.Relevant errand index ∧ index.isEmpty = false
  talks : t.talks ≠ [] → ∃ index placed, t.Relevant errand index ∧
    Placed t.bucket errand.flow placed ∧
    r.Discusses placed (index.sortedBy TypeKey.text) t.talks
  fallback : ∀ batch ∈ t.fallback, t.IsThrough errand ∧ batch.IsFor t.Bars
  active : ∀ batch ∈ t.active, t.IsRamped errand ∧
    batch.IsFor fun key => key.text ∈ errand.wanted ∧ ¬ t.Ramps key
  latest : ∀ batch ∈ t.latest, errand.tolerant = true ∧ t.IsActivated errand ∧
    batch.IsFor fun key => key.text ∈ errand.wanted ∧ ¬ (t.Ramps key ∨ t.Activates key)

/-! ## Going on -/

section GoingOn

variable {t : Transcript} {r : Resolver} {errand : Errand} {plans : Option (Batch PlanBook)}
  {bucket : Option (Flow × Except Fault Datum)} {talks : List Talk}
  {fallback active latest : Option VersionBatch}

/-! What is asked in a later tier changes nothing about the tiers before it. -/

theorem IsThrough.goOn (through : t.IsThrough errand) :
    IsThrough { t with fallback := fallback, active := active, latest := latest } errand :=
  ⟨through.discussed, through.found⟩

theorem IsRamped.goOn (ramped : t.IsRamped errand) :
    IsRamped { t with active := active, latest := latest } errand :=
  ⟨ramped.through.goOn, ramped.replaced⟩

theorem IsActivated.goOn (activated : t.IsActivated errand) :
    IsActivated { t with latest := latest } errand :=
  ⟨activated.ramped.goOn, activated.asked⟩

/-- The plans are asked for unless they are given. -/
theorem follows_plans (due : ∀ batch ∈ plans, errand.given = none ∧ batch.names = errand.wanted) :
    Follows { plans := plans } r errand where
  plans := due
  bucket := by simp
  talks := by simp
  fallback := by simp
  active := by simp
  latest := by simp

/-- The bucket is asked for where there is a relevant plan. -/
theorem follows_bucket {index : OrderedMap TypeKey Plan}
    (follows : Follows { plans := plans } r errand)
    (relevant : Relevant { plans := plans } errand index) (filled : index.isEmpty = false)
    (flows : ∀ place ∈ bucket, errand.flow = some place.1) :
    Follows { plans := plans, bucket := bucket } r errand where
  plans := follows.plans
  bucket := fun place asked => ⟨flows place asked, index, relevant, filled⟩
  talks := by simp
  fallback := by simp
  active := by simp
  latest := by simp

/-- The types are talked about where the flow has its place. -/
theorem follows_talks {index : OrderedMap TypeKey Plan} {placed : Option (Flow × Int)}
    (follows : Follows { plans := plans, bucket := bucket } r errand)
    (relevant : Relevant { plans := plans } errand index)
    (places : Placed bucket errand.flow placed)
    (discusses : r.Discusses placed (index.sortedBy TypeKey.text) talks) :
    Follows { plans := plans, bucket := bucket, talks := talks } r errand where
  plans := follows.plans
  bucket := follows.bucket
  talks := fun _ => ⟨index, placed, relevant, places, discusses⟩
  fallback := by simp
  active := by simp
  latest := by simp

/-- The fallback is asked for where all types were talked about. -/
theorem follows_fallback
    (follows : Follows { plans := plans, bucket := bucket, talks := talks } r errand)
    (through : IsThrough { plans := plans, bucket := bucket, talks := talks } errand)
    (due : ∀ batch ∈ fallback, batch.IsFor (Bars { talks := talks })) :
    Follows ⟨plans, bucket, talks, fallback, none, none⟩ r errand where
  plans := follows.plans
  bucket := follows.bucket
  talks := follows.talks
  fallback := fun batch asked => ⟨through.goOn, due batch asked⟩
  active := by simp
  latest := by simp

/-- The second tier asks where the first one is over. -/
theorem follows_active (follows : t.Follows r errand) (never : t.latest = none)
    (ramped : t.IsRamped errand)
    (due : ∀ batch ∈ active, batch.IsFor fun key => key.text ∈ errand.wanted ∧ ¬ t.Ramps key) :
    Follows { t with active := active } r errand where
  plans := follows.plans
  bucket := follows.bucket
  talks := follows.talks
  fallback := fun batch asked =>
    ⟨(follows.fallback batch asked).1.goOn, (follows.fallback batch asked).2⟩
  active := fun batch asked => ⟨ramped.goOn, due batch asked⟩
  latest := by simp [never]

theorem isActivated_active (ramped : t.IsRamped errand)
    (asked : (∃ key : TypeKey, key.text ∈ errand.wanted ∧ ¬ t.Ramps key) → active.isSome) :
    IsActivated { t with active := active } errand :=
  ⟨ramped.goOn, asked⟩

/-- The third tier asks on request, where the second one is over. -/
theorem follows_latest (follows : t.Follows r errand) (lenient : errand.tolerant = true)
    (activated : t.IsActivated errand)
    (due : ∀ batch ∈ latest, batch.IsFor fun key =>
      key.text ∈ errand.wanted ∧ ¬ (t.Ramps key ∨ t.Activates key)) :
    Follows { t with latest := latest } r errand where
  plans := follows.plans
  bucket := follows.bucket
  talks := follows.talks
  fallback := fun batch asked =>
    ⟨(follows.fallback batch asked).1.goOn, (follows.fallback batch asked).2⟩
  active := fun batch asked =>
    ⟨(follows.active batch asked).1.goOn, (follows.active batch asked).2⟩
  latest := fun batch asked => ⟨lenient, activated.goOn, due batch asked⟩

theorem isComplete_latest (activated : t.IsActivated errand)
    (asked : (∃ key : TypeKey, key.text ∈ errand.wanted ∧ ¬ (t.Ramps key ∨ t.Activates key)) →
      latest.isSome) : IsComplete { t with latest := latest } errand :=
  ⟨activated.goOn, fun _ => asked⟩

end GoingOn

/-! ## Consequences -/

variable {t : Transcript} {r : Resolver} {errand : Errand}

/-- The types are talked about in the order of code points. -/
theorem Follows.ascending (follows : t.Follows r errand) :
    (t.talks.map fun talk => talk.key.text).Pairwise (· < ·) := by
  by_cases nothing : t.talks = []
  · simp [nothing]
  · obtain ⟨index, placed, -, -, discusses⟩ := follows.talks nothing
    have sorted := OrderedMap.strictly_ascending_sortedBy (fun _ _ => TypeKey.ext) index
    have texts : t.talks.map (fun talk => talk.key.text) =
        (t.talks.map Talk.key).map TypeKey.text := by simp
    rw [texts]
    refine List.Pairwise.sublist (discusses.keys.sublist.map TypeKey.text) ?_
    rw [List.map_map]
    exact sorted

/-- On the execution path no type is asked for in both batches of ACTIVE versions. -/
theorem Follows.disjoint (follows : t.Follows r errand) (strict : errand.tolerant = false) :
    ∀ fallback ∈ t.fallback, ∀ active ∈ t.active, ∀ name ∈ fallback.names,
      name ∉ active.names := by
  intro fallback replaced active asked name barred left
  obtain ⟨key, rfl, bars⟩ := ((follows.fallback _ replaced).2.mem_names_iff name).mp barred
  obtain ⟨ramped, due⟩ := follows.active _ asked
  obtain ⟨other, same, -, undecided⟩ := (due.mem_names_iff _).mp left
  obtain rfl : other = key := TypeKey.ext same
  -- the fallback found a version of the type, or the resolution had ended
  obtain ⟨batch, member, finds⟩ := ramped.replaced other bars
  exact undecided (.inr ⟨bars, batch, member, finds strict⟩)

/-- Nor are the two batches for the same types, since none is empty. -/
theorem Follows.names_ne (follows : t.Follows r errand) (strict : errand.tolerant = false) :
    ∀ fallback ∈ t.fallback, ∀ active ∈ t.active, active.names ≠ fallback.names := by
  intro fallback replaced active asked same
  obtain ⟨-, ⟨key, bars⟩, named⟩ := follows.fallback fallback replaced
  have barred : key.text ∈ fallback.names := (named _).mpr ⟨key, rfl, bars⟩
  exact follows.disjoint strict fallback replaced active asked _ barred (same ▸ barred)

/-- A talk only puts questions about its type. -/
theorem mem_questions_talk {talk : Talk} {question : Call}
    (member : question ∈ talk.exchanges.map Exchange.question) :
    (∃ flowName label, question = .isExcluded flowName talk.key label) ∨
      ∃ label, question = .findVersions (.text talk.key.text) label := by
  simp only [Talk.exchanges, List.map_append, List.mem_append, List.mem_map, Option.mem_toList,
    Option.map_eq_some_iff] at member
  rcases member with ⟨_, ⟨ruling, -, rfl⟩, rfl⟩ | ⟨_, ⟨search, -, rfl⟩, rfl⟩
  · exact .inl ⟨_, _, rfl⟩
  · exact .inr ⟨_, rfl⟩

theorem nodup_questions_talk (talk : Talk) : (talk.exchanges.map Exchange.question).Nodup := by
  obtain ⟨key, ruling, search⟩ := talk
  cases ruling <;> cases search <;>
    simp [Talk.exchanges, Ruling.exchange, Search.exchange, Exchange.question]

theorem Follows.nodup_talks (follows : t.Follows r errand) :
    ((t.talks.flatMap Talk.exchanges).map Exchange.question).Nodup := by
  rw [List.map_flatMap, List.Nodup, List.pairwise_flatMap]
  refine ⟨fun talk _ => nodup_questions_talk talk, ?_⟩
  have ascending := follows.ascending
  rw [List.pairwise_map] at ascending
  refine ascending.imp ?_
  intro talk later below question asked other asked_later same
  have apart : talk.key.text ≠ later.key.text := String.ne_of_lt below
  subst same
  -- the question names the type that it is about
  rcases mem_questions_talk asked with ⟨flowName, label, rfl⟩ | ⟨label, rfl⟩
  · rcases mem_questions_talk asked_later with ⟨_, _, same⟩ | ⟨_, same⟩
    · exact apart (congrArg TypeKey.text (Call.isExcluded.inj same).2.1)
    · cases same
  · rcases mem_questions_talk asked_later with ⟨_, _, same⟩ | ⟨_, same⟩
    · cases same
    · exact apart (Datum.text.inj (Call.findVersions.inj same).1)

theorem mem_questions_talks {talks : List Talk} {question : Call}
    (member : question ∈ (talks.flatMap Talk.exchanges).map Exchange.question) :
    (∃ flowName key label, question = .isExcluded flowName key label) ∨
      ∃ name label, question = .findVersions name label := by
  rw [List.map_flatMap, List.mem_flatMap] at member
  obtain ⟨talk, -, asked⟩ := member
  rcases mem_questions_talk asked with ⟨flowName, label, rfl⟩ | ⟨label, rfl⟩
  · exact .inl ⟨_, _, _, rfl⟩
  · exact .inr ⟨_, _, rfl⟩

/-! Before the tiers that look versions up for the types that are left, no question is put twice,
and none for several types but the one for plans. -/

theorem mem_questions_opening {t : Transcript} {question : Call}
    (member : question ∈ t.opening.map Exchange.question) (names : NameSet) :
    question ≠ .activeVersions names ∧ question ≠ .latestVersions names := by
  simp only [opening, List.map_append, List.mem_append] at member
  rcases member with (asked | placed) | said
  · obtain ⟨exchange, among, rfl⟩ := List.mem_map.mp asked
    obtain ⟨batch, -, rfl⟩ := Option.map_eq_some_iff.mp (Option.mem_toList.mp among)
    exact ⟨nofun, nofun⟩
  · obtain ⟨exchange, among, rfl⟩ := List.mem_map.mp placed
    obtain ⟨place, -, rfl⟩ := Option.map_eq_some_iff.mp (Option.mem_toList.mp among)
    exact ⟨nofun, nofun⟩
  · rcases mem_questions_talks said with ⟨_, _, _, rfl⟩ | ⟨_, _, rfl⟩ <;> exact ⟨nofun, nofun⟩

theorem Follows.nodup_opening (follows : t.Follows r errand) :
    (t.opening.map Exchange.question).Nodup := by
  have said_once := follows.nodup_talks
  have said_of_types := @mem_questions_talks t.talks
  rw [opening, List.map_append, List.map_append]
  revert said_once said_of_types
  generalize (t.talks.flatMap Talk.exchanges).map Exchange.question = said
  intro said_once said_of_types
  -- the talks put questions of other kinds than the rest
  have no_plans : ∀ names, .plansFor names ∉ said := by
    intro names member
    simpa using said_of_types member
  have no_bucket : ∀ identity, .bucket identity ∉ said := by
    intro identity member
    simpa using said_of_types member
  cases t.plans <;> cases t.bucket <;>
    simp_all [Batch.plansExchange, Exchange.question]

/-- Only the second tier can put a question again, and it is that of the fallback. -/
theorem Follows.repeated (follows : t.Follows r errand) :
    t.exchanges.Pairwise fun earlier later => later.question = earlier.question →
      ∃ fallback ∈ t.fallback, ∃ active ∈ t.active,
        earlier = fallback.activeExchange ∧ later = active.activeExchange := by
  have single {batch : Option VersionBatch} {exchange : VersionBatch → Exchange}
      {R : Exchange → Exchange → Prop} : (batch.map exchange).toList.Pairwise R := by
    cases batch <;> simp
  have asks {batch : Option VersionBatch} {put : VersionBatch → Exchange} {exchange : Exchange}
      (member : exchange ∈ (batch.map put).toList) : ∃ asked ∈ batch, put asked = exchange :=
    Option.map_eq_some_iff.mp (Option.mem_toList.mp member)
  have opens {earlier : Exchange} (member : earlier ∈ t.opening) :=
    mem_questions_opening (List.mem_map_of_mem (f := Exchange.question) member)
  simp only [exchanges, List.pairwise_append, List.mem_append]
  refine ⟨⟨⟨?_, single, ?_⟩, single, ?_⟩, single, ?_⟩
  · have once := follows.nodup_opening
    rw [List.Nodup, List.pairwise_map] at once
    exact once.imp fun differ same => absurd same.symm differ
  · intro earlier opened later replaced same
    obtain ⟨batch, -, rfl⟩ := asks replaced
    exact absurd same.symm (opens opened batch.names).1
  · rintro earlier (opened | replaced) later asked same
    · obtain ⟨batch, -, rfl⟩ := asks asked
      exact absurd same.symm (opens opened batch.names).1
    · obtain ⟨fallback, among, rfl⟩ := asks replaced
      obtain ⟨active, due, rfl⟩ := asks asked
      exact ⟨fallback, among, active, due, rfl, rfl⟩
  · rintro earlier ((opened | replaced) | asked) later last same
    · obtain ⟨batch, -, rfl⟩ := asks last
      exact absurd same.symm (opens opened batch.names).2
    · obtain ⟨fallback, -, rfl⟩ := asks replaced
      obtain ⟨latest, -, rfl⟩ := asks last
      cases same
    · obtain ⟨active, -, rfl⟩ := asks asked
      obtain ⟨latest, -, rfl⟩ := asks last
      cases same

/-- On the execution path no question is put twice. -/
theorem Follows.nodup_questions (follows : t.Follows r errand)
    (strict : errand.tolerant = false) : t.questions.Nodup := by
  rw [questions, List.Nodup, List.pairwise_map]
  refine follows.repeated.imp fun repeated same => ?_
  obtain ⟨fallback, replaced, active, asked, rfl, rfl⟩ := repeated same.symm
  exact follows.names_ne strict fallback replaced active asked (Call.activeVersions.inj same).symm

end Transcript

end Rollout

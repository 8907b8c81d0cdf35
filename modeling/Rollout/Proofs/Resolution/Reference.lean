import Rollout.Proofs.Catalog.Answers

/-!
# The reference for one type

What a resolution over a catalog comes to for one image type, told without the tiers and without
the other types: the order in which the type's plan is walked (`Walks`), the entry that counts
(`Picks`), whether a rule bars the flow from it (`Bars`), and from these the decision
(`Settles`) or the fault (`Refuses`, `Strands`). The catalog, the policy and the place of the flow
determine each of them.

The fault of a whole request is the first one in a fixed order of precedence (`Refusal`).
-/

namespace Rollout

namespace Catalog

variable {c : Catalog} {policy : WalkPolicy} {placed : Option (Flow × Int)} {key : TypeKey}

/-! ## The parts -/

/-- The stored plan of the type is walked in this order under the policy. -/
def Walks (c : Catalog) (policy : WalkPolicy) (key : TypeKey) (walked : Plan) : Prop :=
  ((c.planOf key).order (.text key.text) policy).1 = .ok walked

/-- The entry counts for a flow in this place: it owns the flow's bucket in the walked plan.
Without a flow the first entry of the stored plan counts. -/
def Picks (c : Catalog) (placed : Option (Flow × Int)) (key : TypeKey) (walked : Plan)
    (entry : PlanEntry) : Prop :=
  match placed with
  | none => (c.planOf key).head? = some entry
  | some (_, bucket) => walked.Owns bucket entry

/-- Some rule keeps the flow away from the version; without a flow no rule counts. -/
def Bars (c : Catalog) (placed : Option (Flow × Int)) (key : TypeKey) (label : Datum) : Prop :=
  match placed with
  | none => False
  | some (flow, _) => c.Excludes flow.name key label

/-! ## Decisions -/

/-- What comes of the type's plan: no entry counts, the flow gets the version of the one that does,
or a rule bars the flow from it. -/
inductive Ramps (c : Catalog) (policy : WalkPolicy) (placed : Option (Flow × Int))
    (key : TypeKey) : Resolver.RampupOutcome → Prop where
  | passed {walked : Plan} (walks : c.Walks policy key walked)
      (nobody : ∀ entry, ¬ c.Picks placed key walked entry) : Ramps c policy placed key .passed
  | chosen {walked : Plan} {entry : PlanEntry} {version : ImageVersion}
      (walks : c.Walks policy key walked) (picks : c.Picks placed key walked entry)
      (free : ¬ c.Bars placed key entry.version) (holds : c.Holds key entry.version version) :
      Ramps c policy placed key (.chosen version walked)
  | excluded {walked : Plan} {entry : PlanEntry} (walks : c.Walks policy key walked)
      (picks : c.Picks placed key walked entry) (barred : c.Bars placed key entry.version) :
      Ramps c policy placed key (.excluded entry walked)

/-- The decision for the type; nothing when it stays unresolved. -/
inductive Settles (c : Catalog) (policy : WalkPolicy) (placed : Option (Flow × Int))
    (key : TypeKey) : Option Decision → Prop where
  /-- The flow gets the version of the entry that counts. -/
  | rampup {walked : Plan} {entry : PlanEntry} {version : ImageVersion}
      (walks : c.Walks policy key walked) (picks : c.Picks placed key walked entry)
      (free : ¬ c.Bars placed key entry.version) (holds : c.Holds key entry.version version) :
      Settles c policy placed key
        (some { version := some version, selection := .rampup, plan := walked })
  /-- A rule bars the flow from that version, and it gets the latest ACTIVE one. -/
  | replaced {walked : Plan} {entry : PlanEntry} {version : ImageVersion}
      (walks : c.Walks policy key walked) (picks : c.Picks placed key walked entry)
      (barred : c.Bars placed key entry.version) (latest : c.LatestActive key version) :
      Settles c policy placed key
        (some { version := some version, selection := .active, plan := walked })
  /-- No entry counts, and the flow gets the latest ACTIVE version. -/
  | active {walked : Plan} {version : ImageVersion} (walks : c.Walks policy key walked)
      (nobody : ∀ entry, ¬ c.Picks placed key walked entry)
      (latest : c.LatestActive key version) :
      Settles c policy placed key
        (some { version := some version, selection := .active, plan := [] })
  /-- No entry counts, and no version is ACTIVE. -/
  | unresolved {walked : Plan} (walks : c.Walks policy key walked)
      (nobody : ∀ entry, ¬ c.Picks placed key walked entry)
      (idle : ∀ version, ¬ c.LatestActive key version) : Settles c policy placed key none

/-! ## Faults -/

/-- The fault of the type: its plan is refused, or the entry that counts and is not barred names a
version that the catalog does not hold. -/
inductive Refuses (c : Catalog) (policy : WalkPolicy) (placed : Option (Flow × Int))
    (key : TypeKey) : Fault → Prop where
  | plan {flaw : PlanFlaw}
      (refused : ((c.planOf key).order (.text key.text) policy).1 =
        .error (.invalidPlan (.text key.text) flaw)) :
      Refuses c policy placed key (.invalidPlan (.text key.text) flaw)
  | version {walked : Plan} {entry : PlanEntry} (walks : c.Walks policy key walked)
      (picks : c.Picks placed key walked entry) (free : ¬ c.Bars placed key entry.version)
      (absent : ∀ version, ¬ c.Holds key entry.version version) :
      Refuses c policy placed key (.versionNotFound (.text key.text) entry.version
        "not in the image version catalog")

/-- A rule bars the flow from the entry that counts, and no version of the type is ACTIVE. -/
structure Strands (c : Catalog) (policy : WalkPolicy) (placed : Option (Flow × Int))
    (key : TypeKey) (entry : PlanEntry) : Prop where
  picks : ∃ walked, c.Walks policy key walked ∧ c.Picks placed key walked entry
  barred : c.Bars placed key entry.version
  idle : ∀ version, ¬ c.LatestActive key version

/-! ## One answer for each type -/

theorem Walks.unique {walked walked' : Plan} (left : c.Walks policy key walked)
    (right : c.Walks policy key walked') : walked = walked' :=
  Except.ok.inj (left.symm.trans right)

theorem Walks.sound (kept : c.WellKept) {walked : Plan} (walks : c.Walks policy key walked) :
    walked.IsSound :=
  (Plan.sound_of_order (kept.planOf_whole key) walks).1

/-- What is walked consists of stored entries. -/
theorem Walks.entryKept (kept : c.WellKept) {walked : Plan} (walks : c.Walks policy key walked) :
    ∀ entry ∈ walked, EntryKept entry := by
  have perm := (Plan.sound_of_order (kept.planOf_whole key) walks).2
  intro entry member
  exact kept.planOf key entry (perm.mem_iff.mp member)

theorem Picks.entryKept (kept : c.WellKept) {walked : Plan} {entry : PlanEntry}
    (walks : c.Walks policy key walked) (picks : c.Picks placed key walked entry) :
    EntryKept entry := by
  cases placed with
  | none => exact kept.planOf key entry (List.mem_of_head? picks)
  | some placed =>
    obtain ⟨i, at_i, -, -⟩ := picks
    exact walks.entryKept kept entry (List.mem_of_getElem? at_i)

theorem Picks.unique (kept : c.WellKept) {walked walked' : Plan} {a b : PlanEntry}
    (walks : c.Walks policy key walked) (picks : c.Picks placed key walked a)
    (walks' : c.Walks policy key walked') (picks' : c.Picks placed key walked' b) : a = b := by
  obtain rfl := walks.unique walks'
  cases placed with
  | none => exact Option.some.inj (picks.symm.trans picks')
  | some placed => exact Plan.Owns.unique (walks.sound kept).isPositive picks picks'

/-- An entry that counts contradicts that no entry does. -/
theorem Picks.absurd {walked walked' : Plan} {entry : PlanEntry}
    (walks : c.Walks policy key walked) (picks : c.Picks placed key walked entry)
    (walks' : c.Walks policy key walked') (nobody : ∀ entry, ¬ c.Picks placed key walked' entry) :
    False := by
  obtain rfl := walks.unique walks'
  exact nobody entry picks

theorem Settles.unique (kept : c.WellKept) {a b : Option Decision}
    (left : c.Settles policy placed key a) (right : c.Settles policy placed key b) : a = b := by
  -- the entry that counts is the same on both sides, so unlike cases contradict each other
  cases left with
  | rampup walks picks free holds =>
    cases right with
    | rampup walks' picks' _ holds' =>
      obtain rfl := picks.unique kept walks walks' picks'
      rw [walks.unique walks', holds.unique kept holds']
    | replaced walks' picks' barred =>
      obtain rfl := picks.unique kept walks walks' picks'
      exact absurd barred free
    | active walks' nobody => exact (picks.absurd walks walks' nobody).elim
    | unresolved walks' nobody => exact (picks.absurd walks walks' nobody).elim
  | replaced walks picks barred latest =>
    cases right with
    | rampup walks' picks' free =>
      obtain rfl := picks.unique kept walks walks' picks'
      exact absurd barred free
    | replaced walks' _ _ latest' => rw [walks.unique walks', latest.unique latest']
    | active walks' nobody => exact (picks.absurd walks walks' nobody).elim
    | unresolved walks' nobody => exact (picks.absurd walks walks' nobody).elim
  | active walks nobody latest =>
    cases right with
    | rampup walks' picks' => exact (picks'.absurd walks' walks nobody).elim
    | replaced walks' picks' => exact (picks'.absurd walks' walks nobody).elim
    | active _ _ latest' => rw [latest.unique latest']
    | unresolved _ _ idle => exact absurd latest (idle _)
  | unresolved walks nobody idle =>
    cases right with
    | rampup walks' picks' => exact (picks'.absurd walks' walks nobody).elim
    | replaced walks' picks' => exact (picks'.absurd walks' walks nobody).elim
    | active _ _ latest => exact absurd latest (idle _)
    | unresolved => rfl

theorem Refuses.unique (kept : c.WellKept) {a b : Fault}
    (left : c.Refuses policy placed key a) (right : c.Refuses policy placed key b) : a = b := by
  cases left with
  | plan refused =>
    cases right with
    | plan refused' => exact Except.error.inj (refused.symm.trans refused')
    | version walks => exact nomatch refused.symm.trans walks
  | version walks picks =>
    cases right with
    | plan refused => exact nomatch refused.symm.trans walks
    | version walks' picks' => rw [picks.unique kept walks walks' picks']

theorem Strands.unique (kept : c.WellKept) {a b : PlanEntry}
    (left : c.Strands policy placed key a) (right : c.Strands policy placed key b) : a = b := by
  obtain ⟨walked, walks, picks⟩ := left.picks
  obtain ⟨walked', walks', picks'⟩ := right.picks
  exact picks.unique kept walks walks' picks'

/-- A type whose plan comes to something has no fault. -/
theorem Ramps.not_refuses (kept : c.WellKept) {outcome : Resolver.RampupOutcome}
    (ramps : c.Ramps policy placed key outcome) (fault : Fault) :
    ¬ c.Refuses policy placed key fault := by
  intro refuses
  cases refuses with
  | plan refused =>
    cases ramps with
    | passed walks | chosen walks | excluded walks => exact nomatch refused.symm.trans walks
  | version walks picks free absent =>
    cases ramps with
    | passed walks' nobody => exact picks.absurd walks walks' nobody
    | chosen walks' picks' _ holds =>
      obtain rfl := picks.unique kept walks walks' picks'
      exact absent _ holds
    | excluded walks' picks' barred =>
      obtain rfl := picks.unique kept walks walks' picks'
      exact free barred

theorem Settles.ramps {outcome : Option Decision} (settles : c.Settles policy placed key outcome) :
    ∃ ramped, c.Ramps policy placed key ramped := by
  cases settles with
  | rampup walks picks free holds => exact ⟨_, .chosen walks picks free holds⟩
  | replaced walks picks barred => exact ⟨_, .excluded walks picks barred⟩
  | active walks nobody | unresolved walks nobody => exact ⟨_, .passed walks nobody⟩

/-- A type without a plan is passed on. -/
theorem ramps_of_no_plan (policy : WalkPolicy) (placed : Option (Flow × Int))
    (missing : c.planOf key = []) : c.Ramps policy placed key .passed := by
  have walks : c.Walks policy key [] := by
    rw [Walks, missing]
    cases policy <;> rfl
  refine .passed walks ?_
  intro entry picks
  cases placed with
  | none =>
    rw [Picks, missing] at picks
    cases picks
  | some placed =>
    obtain ⟨i, at_i, -, -⟩ := picks
    cases at_i

theorem Settles.not_strands (kept : c.WellKept) {outcome : Option Decision}
    (settles : c.Settles policy placed key outcome) (entry : PlanEntry) :
    ¬ c.Strands policy placed key entry := by
  rintro ⟨⟨walked, walks, picks⟩, barred, idle⟩
  cases settles with
  | rampup walks' picks' free =>
    obtain rfl := picks.unique kept walks walks' picks'
    exact free barred
  | replaced _ _ _ latest => exact idle _ latest
  | active walks' nobody => exact picks.absurd walks walks' nobody
  | unresolved walks' nobody => exact picks.absurd walks walks' nobody

/-! ## Faults of a request -/

/-- The place of the flow: its bucket is what the bucket function answers, if that is one. -/
def placeOf (flow : Option Flow) (answer : Datum) : Option (Flow × Int) :=
  match flow, answer with
  | some flow, .int n => if 1 ≤ n ∧ n ≤ bucketCount then some (flow, n) else none
  | _, _ => none

/-- A flow is given, some wanted type has a plan to walk, and the bucket function answers something
else than an integer from 1 to 100. -/
structure Unplaced (c : Catalog) (flow : Option Flow) (answer : Datum) (wanted : NameSet) :
    Prop where
  given : flow ≠ none
  planned : ∃ key : TypeKey, key.text ∈ wanted ∧ c.planOf key ≠ []
  outside : ∀ n, answer = .int n → ¬ (1 ≤ n ∧ n ≤ bucketCount)

/-- The type is the first of the wanted ones, in the order of code points, with the property. -/
structure IsFirst (wanted : NameSet) (property : TypeKey → Prop) (key : TypeKey) : Prop where
  member : key.text ∈ wanted
  holds : property key
  least : ∀ other : TypeKey, other.text ∈ wanted → property other → key.text ≤ other.text

theorem IsFirst.unique {wanted : NameSet} {property : TypeKey → Prop} {a b : TypeKey}
    (left : IsFirst wanted property a) (right : IsFirst wanted property b) : a = b :=
  TypeKey.ext (String.le_antisymm (left.least b right.member right.holds)
    (right.least a left.member left.holds))

/-- The fault of a resolution of the wanted types: the bucket comes before any type, the faults of
types come in their order, and types without a replacement come after all others. -/
inductive Refusal (c : Catalog) (policy : WalkPolicy) (flow : Option Flow) (answer : Datum)
    (wanted : NameSet) : Fault → Prop where
  | bucket (unplaced : c.Unplaced flow answer wanted) :
      Refusal c policy flow answer wanted (.invalidBucket answer)
  | ofType {key : TypeKey} {fault : Fault} (placed : ¬ c.Unplaced flow answer wanted)
      (first : IsFirst wanted
        (fun key => ∃ fault, c.Refuses policy (placeOf flow answer) key fault) key)
      (refuses : c.Refuses policy (placeOf flow answer) key fault) :
      Refusal c policy flow answer wanted fault
  | fallback {key : TypeKey} {entry : PlanEntry} (placed : ¬ c.Unplaced flow answer wanted)
      (cleared : ∀ key : TypeKey, key.text ∈ wanted →
        ∀ fault, ¬ c.Refuses policy (placeOf flow answer) key fault)
      (first : IsFirst wanted
        (fun key => ∃ entry, c.Strands policy (placeOf flow answer) key entry) key)
      (strands : c.Strands policy (placeOf flow answer) key entry) :
      Refusal c policy flow answer wanted (.ruleFallbackFailed (.text key.text) entry.version)

/-- A resolution has one fault at most. -/
theorem Refusal.unique (kept : c.WellKept) {flow : Option Flow} {answer : Datum}
    {wanted : NameSet} {a b : Fault} (left : c.Refusal policy flow answer wanted a)
    (right : c.Refusal policy flow answer wanted b) : a = b := by
  cases left with
  | bucket unplaced =>
    cases right with
    | bucket => rfl
    | ofType placed | fallback placed => exact absurd unplaced placed
  | ofType placed first refuses =>
    cases right with
    | bucket unplaced => exact absurd unplaced placed
    | ofType _ first' refuses' =>
      obtain rfl := first.unique first'
      exact refuses.unique kept refuses'
    | fallback _ cleared => exact absurd refuses (cleared _ first.member _)
  | fallback placed cleared first strands =>
    cases right with
    | bucket unplaced => exact absurd unplaced placed
    | ofType _ first' refuses' => exact absurd refuses' (cleared _ first'.member _)
    | fallback _ _ first' strands' =>
      obtain rfl := first.unique first'
      rw [strands.unique kept strands']

/-- Where every wanted type gets a decision or stays unresolved, there is no fault but for the
bucket. -/
theorem not_refusal (kept : c.WellKept) {flow : Option Flow} {answer : Datum} {wanted : NameSet}
    (placed : ¬ c.Unplaced flow answer wanted)
    (settled : ∀ key : TypeKey, key.text ∈ wanted →
      ∃ outcome, c.Settles policy (placeOf flow answer) key outcome) (fault : Fault) :
    ¬ c.Refusal policy flow answer wanted fault := by
  intro refusal
  cases refusal with
  | bucket unplaced => exact placed unplaced
  | ofType _ first refuses =>
    obtain ⟨outcome, settles⟩ := settled _ first.member
    obtain ⟨ramped, ramps⟩ := settles.ramps
    exact ramps.not_refuses kept _ refuses
  | fallback _ _ first strands =>
    obtain ⟨outcome, settles⟩ := settled _ first.member
    exact settles.not_strands kept _ strands

end Catalog

end Rollout

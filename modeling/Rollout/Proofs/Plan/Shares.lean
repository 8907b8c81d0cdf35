import Rollout.Plan

/-!
# Shares of a plan

The **share** of an entry is its percentage as an integer. A plan is **sound** when every
percentage is an integer from 1 to 100: among plans of integers those are the ones that pass the
check (`sound_of_order`). It is **positive** when they are integers from 1 on, which is all that the
walk relies on.

An entry **owns** the buckets after those that the entries before it are allotted, as many as its
share says. `matchBucket` finds the owner (`matchBucket_eq_some_iff`), and finds none for exactly
the buckets beyond the whole allotment (`matchBucket_eq_none_iff`).
-/

namespace Rollout

namespace Datum

theorem plus_whole {value : Datum} {n : Int} (whole : value.number? = some (.whole n))
    (sign : String) (m : Int) : (int m).plus sign value = .ok (int (m + n)) := by
  simp only [plus, whole]
  rfl

theorem compare_whole {a b : Datum} {m n : Int} (left : a.number? = some (.whole m))
    (right : b.number? = some (.whole n)) (c : Comparison) :
    compare c a b = .ok (c.ofNumbers (.whole m) (.whole n)) := by
  cases a <;> cases b <;> simp_all [compare, number?]

theorem atMost_whole {a b : Datum} {m n : Int} (left : a.number? = some (.whole m))
    (right : b.number? = some (.whole n)) : a.atMost b = .ok (decide (m ≤ n)) :=
  compare_whole left right .atMost

end Datum

/-- The percentage of an entry as an integer; zero when it is none. -/
def PlanEntry.share (entry : PlanEntry) : Int :=
  match entry.percentage.number? with
  | some (.whole n) => n
  | _ => 0

/-- The percentage of the entry is an integer. -/
def PlanEntry.IsWhole (entry : PlanEntry) : Prop :=
  entry.percentage.number? = some (.whole entry.share)

/-- The percentage of the entry is an integer from 1 to 100. -/
structure PlanEntry.IsSound (entry : PlanEntry) : Prop where
  whole : entry.IsWhole
  positive : 1 ≤ entry.share
  bounded : entry.share ≤ bucketCount

instance (entry : PlanEntry) : Decidable entry.IsWhole :=
  inferInstanceAs (Decidable (entry.percentage.number? = some (.whole entry.share)))

instance (entry : PlanEntry) : Decidable entry.IsSound :=
  decidable_of_iff (entry.IsWhole ∧ 1 ≤ entry.share ∧ entry.share ≤ bucketCount)
    ⟨fun h => ⟨h.1, h.2.1, h.2.2⟩, fun h => ⟨h.whole, h.positive, h.bounded⟩⟩

namespace Plan

/-- Every percentage is an integer. -/
def IsWhole (plan : Plan) : Prop :=
  ∀ entry ∈ plan, entry.IsWhole

/-- Every percentage is an integer from 1 to 100. -/
def IsSound (plan : Plan) : Prop :=
  ∀ entry ∈ plan, entry.IsSound

instance (plan : Plan) : Decidable plan.IsWhole :=
  inferInstanceAs (Decidable (∀ entry ∈ plan, entry.IsWhole))

instance (plan : Plan) : Decidable plan.IsSound :=
  inferInstanceAs (Decidable (∀ entry ∈ plan, entry.IsSound))

theorem IsSound.head {entry : PlanEntry} {rest : Plan}
    (sound : IsSound (entry :: rest)) : entry.IsSound :=
  sound entry List.mem_cons_self

theorem IsSound.tail {entry : PlanEntry} {rest : Plan}
    (sound : IsSound (entry :: rest)) : IsSound rest :=
  fun other member => sound other (List.mem_cons_of_mem _ member)

/-- Every percentage is an integer from 1 on. -/
def IsPositive (plan : Plan) : Prop :=
  ∀ entry ∈ plan, entry.IsWhole ∧ 1 ≤ entry.share

instance (plan : Plan) : Decidable plan.IsPositive :=
  inferInstanceAs (Decidable (∀ entry ∈ plan, entry.IsWhole ∧ 1 ≤ entry.share))

theorem IsSound.isPositive {plan : Plan} (sound : plan.IsSound) : plan.IsPositive :=
  fun entry member => ⟨(sound entry member).whole, (sound entry member).positive⟩

theorem IsPositive.head {entry : PlanEntry} {rest : Plan}
    (positive : IsPositive (entry :: rest)) : entry.IsWhole ∧ 1 ≤ entry.share :=
  positive entry List.mem_cons_self

theorem IsPositive.tail {entry : PlanEntry} {rest : Plan}
    (positive : IsPositive (entry :: rest)) : IsPositive rest :=
  fun other member => positive other (List.mem_cons_of_mem _ member)

theorem IsPositive.take {plan : Plan} (positive : plan.IsPositive) (i : Nat) :
    IsPositive (plan.take i) :=
  fun entry member => positive entry (List.mem_of_mem_take member)

/-! ## Allotments -/

/-- The sum of the shares. -/
def allotted : Plan → Int
  | [] => 0
  | entry :: rest => entry.share + allotted rest

theorem allotted_nonneg {plan : Plan} (shares : plan.IsPositive) : 0 ≤ plan.allotted := by
  induction plan with
  | nil => exact Int.le_refl 0
  | cons entry rest ih =>
    have head := shares.head.2
    have tail := ih shares.tail
    rw [allotted]
    omega

/-- The order of the entries has no influence on the allotment. -/
theorem allotted_perm {plan other : Plan} (perm : plan.Perm other) :
    plan.allotted = other.allotted := by
  induction perm with
  | nil => rfl
  | cons entry perm ih => rw [allotted, allotted, ih]
  | swap a b rest =>
    simp only [allotted]
    omega
  | trans first second left right => exact left.trans right

theorem allotted_take_succ {plan : Plan} {i : Nat} {entry : PlanEntry}
    (at_i : plan[i]? = some entry) :
    allotted (plan.take (i + 1)) = allotted (plan.take i) + entry.share := by
  induction plan generalizing i with
  | nil => simp at at_i
  | cons first rest ih =>
    cases i with
    | zero =>
      obtain rfl : first = entry := by simpa using at_i
      simp [allotted]
    | succ i =>
      have tail := ih (i := i) (by simpa using at_i)
      simp only [List.take_succ_cons, allotted, tail]
      omega

theorem allotted_take_mono {plan : Plan} (shares : plan.IsPositive) {i j : Nat} (le : i ≤ j) :
    allotted (plan.take i) ≤ allotted (plan.take j) := by
  induction plan generalizing i j with
  | nil => simp
  | cons first rest ih =>
    cases i with
    | zero => exact allotted_nonneg (shares.take j)
    | succ i =>
      cases j with
      | zero => omega
      | succ j =>
        have tail := ih shares.tail (i := i) (j := j) (by omega)
        simp only [List.take_succ_cons, allotted]
        omega

theorem allotted_take_le {plan : Plan} (shares : plan.IsPositive) (i : Nat) :
    allotted (plan.take i) ≤ plan.allotted := by
  rcases Nat.le_total i plan.length with le | ge
  · have mono := allotted_take_mono shares le
    rwa [List.take_length] at mono
  · exact Int.le_of_eq (congrArg allotted (List.take_of_length_le ge))

/-! ## Owners -/

/-- The entry at the place owns the bucket: the entries before it are allotted fewer buckets, and
with its own share the bucket is reached. -/
def OwnsAt (plan : Plan) (bucket : Int) (i : Nat) (entry : PlanEntry) : Prop :=
  plan[i]? = some entry ∧ allotted (plan.take i) < bucket ∧
    bucket ≤ allotted (plan.take i) + entry.share

/-- The entry owns the bucket. -/
def Owns (plan : Plan) (bucket : Int) (entry : PlanEntry) : Prop :=
  ∃ i, plan.OwnsAt bucket i entry

/-- A bucket has one owner at most. -/
theorem OwnsAt.unique {plan : Plan} (shares : plan.IsPositive) {bucket : Int} {i j : Nat}
    {a b : PlanEntry} (left : plan.OwnsAt bucket i a) (right : plan.OwnsAt bucket j b) :
    i = j := by
  obtain ⟨at_i, above_i, below_i⟩ := left
  obtain ⟨at_j, above_j, below_j⟩ := right
  rw [← allotted_take_succ at_i] at below_i
  rw [← allotted_take_succ at_j] at below_j
  rcases Nat.lt_trichotomy i j with lt | eq | gt
  · have mono := allotted_take_mono shares (show i + 1 ≤ j from lt)
    omega
  · exact eq
  · have mono := allotted_take_mono shares (show j + 1 ≤ i from gt)
    omega

theorem Owns.unique {plan : Plan} (shares : plan.IsPositive) {bucket : Int} {a b : PlanEntry}
    (left : plan.Owns bucket a) (right : plan.Owns bucket b) : a = b := by
  obtain ⟨i, left⟩ := left
  obtain ⟨j, right⟩ := right
  obtain rfl := left.unique shares right
  exact Option.some.inj (left.1.symm.trans right.1)

theorem matchBucketFrom_cons {entry : PlanEntry} (whole : entry.IsWhole) (floor bucket : Int)
    (rest : Plan) :
    matchBucketFrom (.int floor) (.int bucket) (entry :: rest) =
      if floor < bucket ∧ bucket ≤ floor + entry.share then .ok (some entry)
      else matchBucketFrom (.int (floor + entry.share)) (.int bucket) rest := by
  have sum (sign : String) := Datum.plus_whole whole sign floor
  by_cases above : floor < bucket <;> by_cases below : bucket ≤ floor + entry.share <;>
    simp [matchBucketFrom, owns, sum, above, below, bind, Except.bind, pure, Except.pure]

/-- The walk finds nothing below the floor. -/
theorem matchBucketFrom_below {plan : Plan} (shares : plan.IsPositive) {floor bucket : Int}
    (below : bucket ≤ floor) : matchBucketFrom (.int floor) (.int bucket) plan = .ok none := by
  induction plan generalizing floor with
  | nil => rfl
  | cons entry rest ih =>
    have positive := shares.head.2
    rw [matchBucketFrom_cons shares.head.1, if_neg (by omega)]
    exact ih shares.tail (by omega)

/-- The walk finds the owner of a bucket above the floor, and nothing beyond the allotment. The
floor counts the buckets before the plan; in the induction it takes in the share of the head. -/
theorem matchBucketFrom_spec {plan : Plan} (shares : plan.IsPositive) {floor bucket : Int}
    (above : floor < bucket) :
    (∃ i entry, matchBucketFrom (.int floor) (.int bucket) plan = .ok (some entry) ∧
        plan.OwnsAt (bucket - floor) i entry) ∨
      (matchBucketFrom (.int floor) (.int bucket) plan = .ok none ∧
        floor + plan.allotted < bucket) := by
  induction plan generalizing floor with
  | nil =>
    right
    refine ⟨rfl, ?_⟩
    rw [allotted]
    omega
  | cons entry rest ih =>
    rw [matchBucketFrom_cons shares.head.1]
    by_cases below : bucket ≤ floor + entry.share
    · left
      refine ⟨0, entry, by rw [if_pos ⟨above, below⟩], rfl, ?_, ?_⟩ <;>
        simp only [List.take_zero, allotted] <;> omega
    · -- the bucket lies above the head's share, which becomes part of the floor
      rw [if_neg fun both => below both.2]
      rcases ih shares.tail (show floor + entry.share < bucket by omega) with found | missed
      · obtain ⟨i, owner, found, at_i, low, high⟩ := found
        left
        refine ⟨i + 1, owner, found, by simpa using at_i, ?_, ?_⟩ <;>
          simp only [List.take_succ_cons, allotted] <;> omega
      · right
        refine ⟨missed.1, ?_⟩
        have beyond := missed.2
        rw [allotted]
        omega

theorem matchBucket_spec {plan : Plan} (shares : plan.IsPositive) {bucket : Int}
    (positive : 1 ≤ bucket) :
    (∃ i entry, plan.matchBucket (.int bucket) = .ok (some entry) ∧ plan.OwnsAt bucket i entry) ∨
      (plan.matchBucket (.int bucket) = .ok none ∧ plan.allotted < bucket) := by
  have spec := matchBucketFrom_spec shares (show 0 < bucket by omega)
  simp only [Int.sub_zero, Int.zero_add] at spec
  exact spec

theorem OwnsAt.le_allotted {plan : Plan} (shares : plan.IsPositive) {bucket : Int} {i : Nat}
    {entry : PlanEntry} (owner : plan.OwnsAt bucket i entry) : bucket ≤ plan.allotted := by
  obtain ⟨at_i, -, below⟩ := owner
  rw [← allotted_take_succ at_i] at below
  exact Int.le_trans below (allotted_take_le shares (i + 1))

theorem OwnsAt.positive {plan : Plan} (shares : plan.IsPositive) {bucket : Int} {i : Nat}
    {entry : PlanEntry} (owned : plan.OwnsAt bucket i entry) : 1 ≤ bucket := by
  have floor_nonneg := allotted_nonneg (shares.take i)
  have above := owned.2.1
  omega

theorem matchBucket_eq_some_iff {plan : Plan} (shares : plan.IsPositive) {bucket : Int}
    (positive : 1 ≤ bucket) {entry : PlanEntry} :
    plan.matchBucket (.int bucket) = .ok (some entry) ↔ plan.Owns bucket entry := by
  rcases matchBucket_spec shares positive with ⟨i, owner, found, owned⟩ | ⟨missed, beyond⟩
  · rw [found]
    constructor
    · rintro ⟨⟩
      exact ⟨i, owned⟩
    · intro other
      rw [Owns.unique shares ⟨i, owned⟩ other]
  · rw [missed]
    constructor
    · rintro ⟨⟩
    · rintro ⟨i, owned⟩
      have below := owned.le_allotted shares
      omega

theorem matchBucket_eq_none_iff {plan : Plan} (shares : plan.IsPositive) {bucket : Int}
    (positive : 1 ≤ bucket) :
    plan.matchBucket (.int bucket) = .ok none ↔ plan.allotted < bucket := by
  rcases matchBucket_spec shares positive with ⟨i, owner, found, owned⟩ | ⟨missed, beyond⟩
  · rw [found]
    constructor
    · rintro ⟨⟩
    · intro beyond
      have below := owned.le_allotted shares
      omega
  · exact ⟨fun _ => beyond, fun _ => missed⟩

/-- A bucket has no owner exactly when it lies beyond the allotment. -/
theorem not_owns_iff {plan : Plan} (shares : plan.IsPositive) {bucket : Int}
    (positive : 1 ≤ bucket) : (∀ entry, ¬ plan.Owns bucket entry) ↔ plan.allotted < bucket := by
  rw [← matchBucket_eq_none_iff shares positive]
  constructor
  · intro none_owns
    rcases matchBucket_spec shares positive with ⟨i, owner, -, owned⟩ | ⟨missed, -⟩
    · exact absurd ⟨i, owned⟩ (none_owns owner)
    · exact missed
  · intro missed entry owned
    rw [(matchBucket_eq_some_iff shares positive).mpr owned] at missed
    cases missed

/-! ## Plans that pass the check -/

theorem isPercentage_whole {value : Datum} {n : Int} (whole : value.number? = some (.whole n)) :
    isPercentage value = .ok (decide (1 ≤ n ∧ n ≤ bucketCount)) := by
  have low : (Datum.int 1).atMost value = .ok (decide (1 ≤ n)) := Datum.atMost_whole rfl whole
  have high : value.atMost (.int bucketCount) = .ok (decide (n ≤ bucketCount)) :=
    Datum.atMost_whole whole rfl
  by_cases positive : 1 ≤ n <;>
    simp [isPercentage, low, high, positive, bind, Except.bind, pure, Except.pure]

/-- The share of the entry lies outside 1 to 100. -/
def isOutside (entry : PlanEntry) : Bool :=
  !decide (1 ≤ entry.share ∧ entry.share ≤ bucketCount)

theorem find?_outside {plan : Plan} (whole : plan.IsWhole) :
    Fallible.find? (fun entry => (!·) <$> isPercentage entry.percentage) plan =
      .ok (plan.find? isOutside) := by
  refine Fallible.find?_eq_ok fun entry member => ?_
  rw [isPercentage_whole (whole entry member)]
  rfl

theorem totalFrom_whole {plan : Plan} (whole : plan.IsWhole) (sum : Int) :
    totalFrom (.int sum) plan = .ok (.int (sum + plan.allotted)) := by
  induction plan generalizing sum with
  | nil => simp [totalFrom, allotted, pure, Except.pure]
  | cons entry rest ih =>
    have head := Datum.plus_whole (whole entry List.mem_cons_self) "+" sum
    have tail := ih (fun other member => whole other (List.mem_cons_of_mem _ member))
    simp only [totalFrom, head, bind, Except.bind, tail, allotted, Int.add_assoc]

theorem overallocation_int (imageType : Datum) (total : Int) :
    ∃ notices, overallocation imageType (.int total) = .ok notices := by
  by_cases excess : bucketCount < total <;>
    simp [overallocation, excess, Datum.toInteger, bind, Except.bind, pure, Except.pure]

theorem isAscending_whole {plan : Plan} (whole : plan.IsWhole) :
    ∃ answer, plan.isAscending = .ok answer := by
  induction plan with
  | nil => exact ⟨true, rfl⟩
  | cons a rest ih =>
    cases rest with
    | nil => exact ⟨true, rfl⟩
    | cons b rest =>
      have head := Datum.atMost_whole (whole a (by simp)) (whole b (by simp))
      obtain ⟨answer, tail⟩ := ih fun other member => whole other (List.mem_cons_of_mem _ member)
      by_cases le : a.share ≤ b.share
      · exact ⟨answer, by simp [isAscending, head, le, tail, bind, Except.bind]⟩
      · exact ⟨false, by simp [isAscending, head, le, bind, Except.bind, pure, Except.pure]⟩

theorem IsSound.isWhole {plan : Plan} (sound : plan.IsSound) : plan.IsWhole :=
  fun entry member => (sound entry member).whole

theorem check_sound {plan : Plan} (sound : plan.IsSound) (imageType : Datum) :
    ∃ notices, plan.check imageType = .ok notices := by
  have inside : plan.find? isOutside = none := by
    refine List.find?_eq_none.mpr fun entry member => ?_
    simp [isOutside, (sound entry member).positive, (sound entry member).bounded]
  obtain ⟨notices, passed⟩ := overallocation_int imageType (0 + plan.allotted)
  refine ⟨notices, ?_⟩
  simp only [check, find?_outside sound.isWhole, inside, total, totalFrom_whole sound.isWhole, bind,
    Except.bind, passed]

/-- A plan of integers is checked without any other fault than its own flaw, and has none exactly
when it is sound. -/
theorem check_whole {plan : Plan} (whole : plan.IsWhole) (imageType : Datum) :
    (¬ plan.IsSound ∧ ∃ flaw, plan.check imageType = .error (.invalidPlan imageType flaw)) ∨
      (plan.IsSound ∧ ∃ notices, plan.check imageType = .ok notices) := by
  cases first : plan.find? isOutside with
  | some entry =>
    left
    have outside : isOutside entry = true := List.find?_some first
    refine ⟨fun sound => ?_, .percentage entry.version entry.percentage, ?_⟩
    · have inside := sound entry (List.mem_of_find?_eq_some first)
      simp [isOutside, inside.positive, inside.bounded] at outside
    · simp only [check, find?_outside whole, first, bind, Except.bind]
      rfl
  | none =>
    right
    have sound : plan.IsSound := by
      intro entry member
      have inside := List.find?_eq_none.mp first entry member
      simp only [isOutside, Bool.not_eq_true', Bool.not_eq_false, decide_eq_true_eq] at inside
      exact ⟨whole entry member, inside.1, inside.2⟩
    exact ⟨sound, check_sound sound imageType⟩

/-! ## The order of the walk -/

/-- No entry has a larger share than a later one. -/
def Ascends (plan : Plan) : Prop :=
  plan.Pairwise fun a b => a.share ≤ b.share

/-- Neighbours are compared only, which is enough. -/
theorem isAscending_eq_true_iff {plan : Plan} (whole : plan.IsWhole) :
    plan.isAscending = .ok true ↔ plan.Ascends := by
  induction plan with
  | nil => exact ⟨fun _ => .nil, fun _ => rfl⟩
  | cons a rest ih =>
    cases rest with
    | nil => exact ⟨fun _ => List.pairwise_singleton _ _, fun _ => rfl⟩
    | cons b rest =>
      have head := Datum.atMost_whole (whole a (by simp)) (whole b (by simp))
      have tail := ih fun other member => whole other (List.mem_cons_of_mem _ member)
      have step : isAscending (a :: b :: rest) =
          if a.share ≤ b.share then isAscending (b :: rest) else .ok false := by
        by_cases le : a.share ≤ b.share <;>
          simp [isAscending, head, le, bind, Except.bind, pure, Except.pure]
      rw [step, Ascends, List.pairwise_cons]
      constructor
      · intro ascending
        split at ascending
        · rename_i le
          have sorted := tail.mp ascending
          refine ⟨List.forall_mem_cons.mpr ⟨le, fun other member => ?_⟩, sorted⟩
          exact Int.le_trans le ((List.pairwise_cons.mp sorted).1 other member)
        · cases ascending
      · rintro ⟨least, sorted⟩
        rw [if_pos (least b List.mem_cons_self)]
        exact tail.mpr sorted

/-- The notice for a plan that is sorted before it is walked. -/
def resorting (imageType : Datum) : Notice :=
  .warning (s!"Rampup plan for {imageType.display} is not sorted by percentage, " ++
    "normalizing")

/-- Everything that the order can do with a sound plan, after the check has given its notices. -/
inductive Orders (imageType : Datum) (policy : WalkPolicy) (plan : Plan) (notices : List Notice) :
    Except Fault Plan × List Notice → Prop where
  /-- The plan is walked as it is. -/
  | kept (fits : policy = .preserve ∨ plan.Ascends) :
    Orders imageType policy plan notices (.ok plan, notices)
  /-- The plan is refused. -/
  | rejected (strict : policy = .reject) (drops : ¬ plan.Ascends) :
    Orders imageType policy plan notices
      (.error (.invalidPlan imageType .notAscending), notices)
  /-- The plan is sorted, and a notice tells of it. -/
  | normalized (lenient : policy = .normalize) (drops : ¬ plan.Ascends) :
    Orders imageType policy plan notices (.ok plan.sorted, notices ++ [resorting imageType])

/-- A plan of integers is refused by the check for a flaw of its own, or it is sound and kept,
rejected or sorted. -/
theorem order_cases {plan : Plan} (whole : plan.IsWhole) (imageType : Datum)
    (policy : WalkPolicy) :
    (¬ plan.IsSound ∧
        ∃ flaw, plan.order imageType policy = (.error (.invalidPlan imageType flaw), [])) ∨
      (plan.IsSound ∧ ∃ notices, plan.check imageType = .ok notices ∧
        Orders imageType policy plan notices (plan.order imageType policy)) := by
  rcases check_whole whole imageType with ⟨unsound, flaw, refused⟩ | ⟨sound, notices, passed⟩
  · left
    exact ⟨unsound, flaw, by simp only [order, refused]⟩
  · right
    refine ⟨sound, notices, passed, ?_⟩
    have ascends_iff := isAscending_eq_true_iff whole
    obtain ⟨ascends, ascending⟩ := isAscending_whole whole
    by_cases preserve : policy = .preserve
    · simp only [order, passed, preserve, if_true]
      exact .kept (.inl rfl)
    · cases ascends with
      | true =>
        simp only [order, passed, if_neg preserve, ascending]
        exact .kept (.inr (ascends_iff.mp ascending))
      | false =>
        have drops : ¬ plan.Ascends := by
          intro fits
          cases ascending.symm.trans (ascends_iff.mpr fits)
        by_cases reject : policy = .reject
        · simp only [order, passed, if_neg preserve, ascending, if_pos reject]
          exact .rejected reject drops
        · have normalize : policy = .normalize := by
            cases policy
            · rfl
            · exact absurd rfl reject
            · exact absurd rfl preserve
          simp only [order, passed, if_neg preserve, ascending, if_neg reject]
          exact .normalized normalize drops

/-- A plan of integers is either refused for a flaw of its own, or sound and walked in an order of
its entries. -/
theorem order_whole {plan : Plan} (whole : plan.IsWhole) (imageType : Datum)
    (policy : WalkPolicy) :
    (∃ flaw, (plan.order imageType policy).1 = .error (.invalidPlan imageType flaw)) ∨
      (plan.IsSound ∧ ∃ walked, (plan.order imageType policy).1 = .ok walked ∧
        walked.Perm plan) := by
  rcases order_cases whole imageType policy with ⟨-, flaw, refused⟩ | ⟨sound, notices, -, orders⟩
  · left
    exact ⟨flaw, by rw [refused]⟩
  · generalize plan.order imageType policy = outcome at orders ⊢
    cases orders with
    | kept fits => exact .inr ⟨sound, plan, rfl, .refl plan⟩
    | rejected strict drops => exact .inl ⟨.notAscending, rfl⟩
    | normalized lenient drops =>
      exact .inr ⟨sound, plan.sorted, rfl, List.mergeSort_perm plan staysBefore⟩

/-- Which plans of integers are let through. -/
theorem order_eq_ok_iff {plan : Plan} (whole : plan.IsWhole) (imageType : Datum)
    (policy : WalkPolicy) :
    (∃ walked, (plan.order imageType policy).1 = .ok walked) ↔
      plan.IsSound ∧ (policy = .reject → plan.Ascends) := by
  rcases order_cases whole imageType policy with
    ⟨unsound, flaw, refused⟩ | ⟨sound, notices, -, orders⟩
  · simp [refused, unsound]
  · generalize plan.order imageType policy = outcome at orders ⊢
    cases orders with
    | kept fits =>
      refine iff_of_true ⟨plan, rfl⟩ ⟨sound, ?_⟩
      rintro rfl
      exact fits.resolve_left nofun
    | rejected strict drops => simp [strict, drops]
    | normalized lenient drops => simp [sound, lenient]

theorem IsSound.of_perm {plan walked : Plan} (sound : plan.IsSound) (perm : walked.Perm plan) :
    walked.IsSound :=
  fun entry member => sound entry (perm.mem_iff.mp member)

/-- What the order lets through is sound, and has the entries of the plan. -/
theorem sound_of_order {plan walked : Plan} (whole : plan.IsWhole) {imageType : Datum}
    {policy : WalkPolicy} (passed : (plan.order imageType policy).1 = .ok walked) :
    walked.IsSound ∧ walked.Perm plan := by
  rcases order_whole whole imageType policy with ⟨flaw, refused⟩ | ⟨sound, other, same, perm⟩
  · rw [refused] at passed
    cases passed
  · obtain rfl : other = walked := Except.ok.inj (same.symm.trans passed)
    exact ⟨sound.of_perm perm, perm⟩

end Plan

end Rollout

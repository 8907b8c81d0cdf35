import Rollout.Proofs.Plan.Shares

/-!
# The two views of an allocation agree

`bucketRanges` lists the buckets of every entry, and `matchBucket` finds the entry of one bucket.
The main statement, `bucketRanges_allocates`, says that for every sound plan the listed ranges are
those in which the walk finds the entries: the ranges that are not empty follow one another from
the first bucket on, up to the whole allotment or the last bucket, and each entry is found for as
many buckets as its share says, as far as the buckets reach.
-/

namespace Rollout.Plan

/-! ## Ranges in integers -/

/-- The first and last bucket of every entry as integers. -/
def rangesFrom (floor : Int) : Plan → List (Int × Int)
  | [] => []
  | entry :: rest =>
    (floor + 1, min (floor + entry.share) bucketCount) :: rangesFrom (floor + entry.share) rest

/-- A range as it is reported. -/
def rangeData (range : Int × Int) : Datum × Datum :=
  (.int range.1, .int range.2)

theorem bucketRangesFrom_whole {plan : Plan} (sound : plan.IsSound) (floor : Int) :
    bucketRangesFrom (.int floor) plan = .ok ((rangesFrom floor plan).map rangeData) := by
  induction plan generalizing floor with
  | nil => rfl
  | cons entry rest ih =>
    have last := Datum.plus_whole sound.head.whole "+" floor
    have cut : (if decide (bucketCount < floor + entry.share) then Datum.int bucketCount
        else .int (floor + entry.share)) = .int (min (floor + entry.share) bucketCount) := by
      by_cases excess : bucketCount < floor + entry.share
      · simp [excess, Int.min_eq_right (Int.le_of_lt excess)]
      · simp [excess, Int.min_eq_left (Int.not_lt.mp excess)]
    simp only [bucketRangesFrom, Datum.plus_int, last, Datum.exceeds_int, bind, Except.bind, cut,
      ih sound.tail]
    rfl

theorem length_rangesFrom (floor : Int) (plan : Plan) :
    (rangesFrom floor plan).length = plan.length := by
  induction plan generalizing floor with
  | nil => rfl
  | cons entry rest ih => simp [rangesFrom, ih]

theorem getElem?_rangesFrom (floor : Int) (plan : Plan) (i : Nat) :
    (rangesFrom floor plan)[i]? = plan[i]?.map fun entry =>
      (floor + allotted (plan.take i) + 1,
        min (floor + allotted (plan.take i) + entry.share) bucketCount) := by
  induction plan generalizing floor i with
  | nil => simp [rangesFrom]
  | cons first rest ih =>
    cases i with
    | zero => simp [rangesFrom, allotted]
    | succ i =>
      simp only [rangesFrom, List.getElem?_cons_succ, ih, List.take_succ_cons, allotted,
        Int.add_assoc]

/-- The bucket lies in the range. -/
def InRange (bucket : Int) (range : Int × Int) : Prop :=
  range.1 ≤ bucket ∧ bucket ≤ range.2

/-- Up to the last bucket an entry owns what lies in its range. -/
theorem inRange_rangesFrom_iff {plan : Plan} {i : Nat} {bucket : Int}
    (bounded : bucket ≤ bucketCount) :
    (∃ range, (rangesFrom 0 plan)[i]? = some range ∧ InRange bucket range) ↔
      ∃ entry, plan.OwnsAt bucket i entry := by
  rw [getElem?_rangesFrom]
  constructor
  · rintro ⟨range, at_i, low, high⟩
    obtain ⟨entry, entry_at, rfl⟩ := Option.map_eq_some_iff.mp at_i
    refine ⟨entry, entry_at, ?_, ?_⟩ <;> dsimp only at low high <;> omega
  · rintro ⟨entry, entry_at, low, high⟩
    refine ⟨_, by rw [entry_at]; rfl, ?_, ?_⟩ <;> dsimp only <;> omega

/-! ## Where the walk stops -/

/-- The walk finds an entry for the bucket. -/
def reaches (plan : Plan) (bucket : Int) : Bool :=
  match plan.matchBucket (.int bucket) with
  | .ok (some _) => true
  | _ => false

/-- The place at which the walk stops for the bucket: the first one such that the entries up to it
reach the bucket. -/
def stopsAt (plan : Plan) (bucket : Int) : Option Nat :=
  (List.range plan.length).find? fun i => reaches (plan.take (i + 1)) bucket

theorem reaches_iff {plan : Plan} (shares : plan.IsPositive) (bucket : Int) :
    plan.reaches bucket = true ↔ 1 ≤ bucket ∧ bucket ≤ plan.allotted := by
  rw [reaches]
  by_cases positive : 1 ≤ bucket
  · rcases matchBucket_spec shares positive with ⟨i, owner, found, owned⟩ | ⟨missed, beyond⟩
    · rw [found]
      exact ⟨fun _ => ⟨positive, owned.le_allotted shares⟩, fun _ => rfl⟩
    · rw [missed]
      constructor
      · intro impossible
        cases impossible
      · intro within
        omega
  · rw [matchBucket, matchBucketFrom_below shares (by omega)]
    constructor
    · intro impossible
      cases impossible
    · intro within
      omega

theorem stopsAt_eq_some_iff {plan : Plan} (shares : plan.IsPositive) {bucket : Int} {i : Nat} :
    plan.stopsAt bucket = some i ↔ ∃ entry, plan.OwnsAt bucket i entry := by
  have reached (j : Nat) : reaches (plan.take (j + 1)) bucket = true ↔
      1 ≤ bucket ∧ bucket ≤ allotted (plan.take (j + 1)) := reaches_iff (shares.take (j + 1)) bucket
  rw [stopsAt, List.find?_range_eq_some]
  simp only [List.mem_range, Bool.not_eq_true', ← Bool.not_eq_true, reached]
  constructor
  · rintro ⟨⟨positive, below⟩, short, before⟩
    refine ⟨plan[i], List.getElem?_eq_getElem short, ?_, ?_⟩
    · -- the walk did not stop one place before, if there is one
      cases i with
      | zero =>
        simp only [List.take_zero, allotted]
        omega
      | succ j =>
        have missed := before j (Nat.lt_succ_self j)
        omega
    · rwa [allotted_take_succ (List.getElem?_eq_getElem short)] at below
  · rintro ⟨entry, at_i, above, below⟩
    have positive := OwnsAt.positive shares ⟨at_i, above, below⟩
    refine ⟨⟨positive, by rwa [allotted_take_succ at_i]⟩,
      (List.getElem?_eq_some_iff.mp at_i).1, ?_⟩
    intro j lt
    have mono := allotted_take_mono shares (show j + 1 ≤ i from lt)
    omega

/-- The walk finds the entry at the place where it stops. -/
theorem matchBucket_eq_getElem?_stopsAt {plan : Plan} (shares : plan.IsPositive) (bucket : Int) :
    plan.matchBucket (.int bucket) = .ok ((plan.stopsAt bucket).bind fun i => plan[i]?) := by
  cases stops : plan.stopsAt bucket with
  | none =>
    have unowned : ∀ i entry, ¬ plan.OwnsAt bucket i entry := by
      intro i entry owned
      rw [(stopsAt_eq_some_iff shares).mpr ⟨entry, owned⟩] at stops
      cases stops
    by_cases positive : 1 ≤ bucket
    · rcases matchBucket_spec shares positive with ⟨i, owner, -, owned⟩ | ⟨missed, -⟩
      · exact absurd owned (unowned i owner)
      · exact missed
    · exact matchBucketFrom_below shares (by omega)
  | some i =>
    obtain ⟨entry, owned⟩ := (stopsAt_eq_some_iff shares).mp stops
    rw [Option.bind_some, owned.1]
    exact (matchBucket_eq_some_iff shares (owned.positive shares)).mpr ⟨i, owned⟩

/-! ## Consecutive ranges -/

/-- The ranges follow one another without gaps, none of them empty, from the bucket after the
floor up to the last one. -/
inductive Consecutive : Int → List (Int × Int) → Int → Prop where
  | nil (floor : Int) : Consecutive floor [] floor
  | cons {floor high last : Int} {rest : List (Int × Int)} (filled : floor < high)
      (tail : Consecutive high rest last) : Consecutive floor ((floor + 1, high) :: rest) last

theorem Consecutive.le {floor last : Int} {ranges : List (Int × Int)}
    (h : Consecutive floor ranges last) : floor ≤ last := by
  induction h with
  | nil => exact Int.le_refl _
  | cons filled tail ih => omega

/-- Consecutive ranges hold every bucket between their ends. -/
theorem Consecutive.exists_inRange_iff {floor last : Int} {ranges : List (Int × Int)}
    (h : Consecutive floor ranges last) (bucket : Int) :
    (∃ range ∈ ranges, InRange bucket range) ↔ floor < bucket ∧ bucket ≤ last := by
  induction h with
  | nil floor =>
    simp only [List.not_mem_nil, false_and, exists_false, false_iff]
    omega
  | @cons floor high last rest filled tail ih =>
    have upward := tail.le
    simp only [List.mem_cons, exists_eq_or_imp, ih]
    simp only [InRange]
    omega

/-- A range with a bucket in it. -/
def isFilled (range : Int × Int) : Bool :=
  range.1 ≤ range.2

/-- Beyond the last bucket all ranges are empty. -/
theorem filter_rangesFrom_beyond {plan : Plan} (sound : plan.IsSound) {floor : Int}
    (beyond : bucketCount ≤ floor) : (rangesFrom floor plan).filter isFilled = [] := by
  induction plan generalizing floor with
  | nil => rfl
  | cons entry rest ih =>
    have positive := sound.head.positive
    have tail := ih sound.tail (show bucketCount ≤ floor + entry.share by omega)
    have empty : isFilled (floor + 1, min (floor + entry.share) bucketCount) = false := by
      simp only [isFilled, decide_eq_false_iff_not]
      omega
    rw [rangesFrom, List.filter_cons_of_neg (by simp [empty]), tail]

theorem consecutive_rangesFrom {plan : Plan} (sound : plan.IsSound) {floor : Int}
    (within : floor ≤ bucketCount) :
    Consecutive floor ((rangesFrom floor plan).filter isFilled)
      (min bucketCount (floor + plan.allotted)) := by
  induction plan generalizing floor with
  | nil =>
    have last : min bucketCount (floor + allotted []) = floor := by
      rw [allotted]
      omega
    rw [last]
    exact .nil floor
  | cons entry rest ih =>
    have positive := sound.head.positive
    have remaining := allotted_nonneg sound.isPositive.tail
    by_cases room : floor < bucketCount
    · have filled : isFilled (floor + 1, min (floor + entry.share) bucketCount) = true := by
        simp only [isFilled, decide_eq_true_eq]
        omega
      rw [rangesFrom, List.filter_cons_of_pos filled]
      refine .cons (by omega) ?_
      by_cases fits : floor + entry.share ≤ bucketCount
      · rw [Int.min_eq_left fits, allotted, ← Int.add_assoc]
        exact ih sound.tail fits
      · -- the head is cut at the last bucket, and nothing is left for the others
        have last : min bucketCount (floor + allotted (entry :: rest)) = bucketCount := by
          rw [allotted]
          omega
        rw [Int.min_eq_right (by omega), last, filter_rangesFrom_beyond sound.tail (by omega)]
        exact .nil bucketCount
    · obtain rfl : floor = bucketCount := by omega
      have last : min bucketCount (bucketCount + allotted (entry :: rest)) = bucketCount := by
        rw [allotted]
        omega
      rw [last, filter_rangesFrom_beyond sound (Int.le_refl _)]
      exact .nil bucketCount

/-- The ranges of a plan hold the buckets up to its allotment or the last bucket. -/
theorem exists_inRange_rangesFrom_iff {plan : Plan} (sound : plan.IsSound) (bucket : Int) :
    (∃ range ∈ rangesFrom 0 plan, InRange bucket range) ↔
      1 ≤ bucket ∧ bucket ≤ min bucketCount plan.allotted := by
  have consecutive := consecutive_rangesFrom sound (show 0 ≤ bucketCount by decide)
  have held := consecutive.exists_inRange_iff bucket
  rw [Int.zero_add] at held
  constructor
  · rintro ⟨range, member, low, high⟩
    have filled : isFilled range = true := decide_eq_true (Int.le_trans low high)
    exact held.mp ⟨range, List.mem_filter.mpr ⟨member, filled⟩, low, high⟩
  · intro within
    obtain ⟨range, member, inside⟩ := held.mpr within
    exact ⟨range, (List.mem_filter.mp member).1, inside⟩

/-! ## Counting buckets -/

/-- The buckets 1 to 100. -/
def buckets : List Int :=
  (List.range bucketCount.toNat).map fun n : Nat => (n : Int) + 1

/-- The number of buckets for which the walk stops at the place. -/
def bucketsAt (plan : Plan) (i : Nat) : Nat :=
  buckets.countP fun bucket => plan.stopsAt bucket = some i

theorem countP_range (n : Nat) {low high : Int} (nonneg : 0 ≤ low) (le : low ≤ high) :
    ((List.range n).countP fun k : Nat =>
        decide (low < (k : Int) + 1 ∧ (k : Int) + 1 ≤ high) : Int) =
      min (high - low) (max 0 (n - low)) := by
  induction n with
  | zero =>
    simp only [List.range_zero, List.countP_nil]
    omega
  | succ n ih =>
    rw [List.range_succ, List.countP_append, Int.natCast_add, ih, List.countP_singleton]
    -- the count grows exactly while the new bucket lies between the ends
    by_cases inside : low < (n : Int) + 1 ∧ (n : Int) + 1 ≤ high
    · rw [if_pos (decide_eq_true inside)]
      omega
    · rw [if_neg (by simpa using inside)]
      omega

theorem bucketsAt_eq {plan : Plan} (sound : plan.IsSound) {i : Nat} {entry : PlanEntry}
    (at_i : plan[i]? = some entry) :
    (plan.bucketsAt i : Int) =
      min entry.share (max 0 (bucketCount - allotted (plan.take i))) := by
  have floor_nonneg := allotted_nonneg (sound.isPositive.take i)
  have share_positive := (sound entry (List.mem_of_getElem? at_i)).positive
  have counted := countP_range bucketCount.toNat floor_nonneg
    (show allotted (plan.take i) ≤ allotted (plan.take i) + entry.share by omega)
  have stops (n : Nat) : plan.stopsAt ((n : Int) + 1) = some i ↔
      allotted (plan.take i) < (n : Int) + 1 ∧
        (n : Int) + 1 ≤ allotted (plan.take i) + entry.share := by
    rw [stopsAt_eq_some_iff sound.isPositive]
    constructor
    · rintro ⟨other, other_at, within⟩
      obtain rfl : other = entry := Option.some.inj (other_at.symm.trans at_i)
      exact within
    · intro within
      exact ⟨entry, at_i, within⟩
  have width : allotted (plan.take i) + entry.share - allotted (plan.take i) = entry.share := by
    omega
  have all : ((bucketCount.toNat : Nat) : Int) = bucketCount := rfl
  rw [width, all] at counted
  rw [bucketsAt, buckets, List.countP_map, ← counted]
  congr 2
  funext n
  exact decide_eq_decide.mpr (stops n)

/-! ## The two views -/

/-- The ranges are those in which the walk finds the entries of the plan. -/
structure Allocates (plan : Plan) (ranges : List (Int × Int)) : Prop where
  /-- There is a range for every entry. -/
  length_eq : ranges.length = plan.length
  /-- The walk finds the entry at the place where it stops. -/
  found : ∀ bucket : Int, 1 ≤ bucket → bucket ≤ bucketCount →
    plan.matchBucket (.int bucket) = .ok ((plan.stopsAt bucket).bind fun i => plan[i]?)
  /-- What it finds is the entry whose range holds the bucket. -/
  found_iff : ∀ bucket : Int, 1 ≤ bucket → bucket ≤ bucketCount → ∀ entry,
    plan.matchBucket (.int bucket) = .ok (some entry) ↔
      ∃ (i : Nat) (range : Int × Int), plan[i]? = some entry ∧ ranges[i]? = some range ∧
        InRange bucket range
  /-- It stops where the range holds the bucket. -/
  stops_iff : ∀ bucket : Int, 1 ≤ bucket → bucket ≤ bucketCount → ∀ i,
    plan.stopsAt bucket = some i ↔ ∃ range, ranges[i]? = some range ∧ InRange bucket range
  /-- A bucket lies in one range at most. -/
  place_unique : ∀ (bucket : Int) (i j : Nat) (a b : Int × Int), ranges[i]? = some a →
    ranges[j]? = some b → InRange bucket a → InRange bucket b → i = j
  /-- It lies in none exactly when it is beyond the sum of the percentages. -/
  unheld_iff : ∀ bucket : Int, 1 ≤ bucket → bucket ≤ bucketCount →
    ((∀ range ∈ ranges, ¬ InRange bucket range) ↔ plan.allotted < bucket)
  /-- Nothing is found exactly then. -/
  missed_iff : ∀ bucket : Int, 1 ≤ bucket → bucket ≤ bucketCount →
    (plan.matchBucket (.int bucket) = .ok none ↔ plan.allotted < bucket)
  /-- The ranges that are not empty follow one another. -/
  consecutive : Consecutive 0 (ranges.filter isFilled) (min bucketCount plan.allotted)
  /-- Together they hold the buckets from 1 on. -/
  held_iff : ∀ bucket : Int, (∃ range ∈ ranges, InRange bucket range) ↔
    1 ≤ bucket ∧ bucket ≤ min bucketCount plan.allotted
  /-- An entry is found for as many buckets as its percentage says, as far as they reach. -/
  counted : ∀ (i : Nat) (entry : PlanEntry), plan[i]? = some entry →
    (plan.bucketsAt i : Int) = min entry.share (max 0 (bucketCount - allotted (plan.take i)))
  /-- They reach when the percentages sum up to 100 at most. -/
  honoured : plan.allotted ≤ bucketCount → ∀ (i : Nat) (entry : PlanEntry),
    plan[i]? = some entry → (plan.bucketsAt i : Int) = entry.share

theorem allocates_rangesFrom {plan : Plan} (sound : plan.IsSound) :
    Allocates plan (rangesFrom 0 plan) where
  length_eq := length_rangesFrom 0 plan
  found := fun bucket _ _ => matchBucket_eq_getElem?_stopsAt sound.isPositive bucket
  found_iff := by
    intro bucket positive bounded entry
    rw [matchBucket_eq_some_iff sound.isPositive positive]
    constructor
    · rintro ⟨i, owned⟩
      obtain ⟨range, range_at, inside⟩ := (inRange_rangesFrom_iff bounded).mpr ⟨entry, owned⟩
      exact ⟨i, range, owned.1, range_at, inside⟩
    · rintro ⟨i, range, at_i, range_at, inside⟩
      obtain ⟨owner, owned⟩ := (inRange_rangesFrom_iff bounded).mp ⟨range, range_at, inside⟩
      obtain rfl : owner = entry := Option.some.inj (owned.1.symm.trans at_i)
      exact ⟨i, owned⟩
  stops_iff := by
    intro bucket positive bounded i
    rw [stopsAt_eq_some_iff sound.isPositive, inRange_rangesFrom_iff bounded]
  place_unique := by
    intro bucket i j a b a_at b_at in_a in_b
    have bounds := (exists_inRange_rangesFrom_iff sound bucket).mp
      ⟨a, List.mem_of_getElem? a_at, in_a⟩
    have bounded : bucket ≤ bucketCount := by omega
    obtain ⟨left, owns_left⟩ := (inRange_rangesFrom_iff bounded).mp ⟨a, a_at, in_a⟩
    obtain ⟨right, owns_right⟩ := (inRange_rangesFrom_iff bounded).mp ⟨b, b_at, in_b⟩
    exact owns_left.unique sound.isPositive owns_right
  unheld_iff := by
    intro bucket positive bounded
    have held := exists_inRange_rangesFrom_iff sound bucket
    constructor
    · intro unheld
      have outside : ¬ (1 ≤ bucket ∧ bucket ≤ min bucketCount plan.allotted) := fun within =>
        let ⟨range, member, inside⟩ := held.mpr within
        unheld range member inside
      omega
    · intro beyond range member inside
      have within := held.mp ⟨range, member, inside⟩
      omega
  missed_iff := fun bucket positive _ => matchBucket_eq_none_iff sound.isPositive positive
  consecutive := by
    have consecutive := consecutive_rangesFrom sound (show 0 ≤ bucketCount by decide)
    rwa [Int.zero_add] at consecutive
  held_iff := exists_inRange_rangesFrom_iff sound
  counted := fun i entry at_i => bucketsAt_eq sound at_i
  honoured := by
    intro fits i entry at_i
    have upto := allotted_take_le sound.isPositive (i + 1)
    have share_positive := (sound entry (List.mem_of_getElem? at_i)).positive
    rw [allotted_take_succ at_i] at upto
    rw [bucketsAt_eq sound at_i]
    omega

/-- Reported ranges and the walk agree on every sound plan, and percentages are honoured. -/
theorem bucketRanges_allocates {plan : Plan} (sound : plan.IsSound) :
    ∃ ranges, plan.bucketRanges = .ok (ranges.map rangeData) ∧ Allocates plan ranges :=
  ⟨rangesFrom 0 plan, bucketRangesFrom_whole sound 0, allocates_rangesFrom sound⟩

/-- A plan that allocates more than all buckets: its last two ranges are cut and empty. -/
theorem bucketRanges_allocates_overallocated :
    IsSound [⟨.text "1.0", .int 40⟩, ⟨.text "1.1", .int 70⟩, ⟨.text "1.2", .int 5⟩] ∧
      ∃ ranges, bucketRanges [⟨.text "1.0", .int 40⟩, ⟨.text "1.1", .int 70⟩,
          ⟨.text "1.2", .int 5⟩] = .ok (ranges.map rangeData) ∧
        Allocates [⟨.text "1.0", .int 40⟩, ⟨.text "1.1", .int 70⟩, ⟨.text "1.2", .int 5⟩]
          ranges :=
  ⟨by decide, bucketRanges_allocates (by decide)⟩

end Rollout.Plan

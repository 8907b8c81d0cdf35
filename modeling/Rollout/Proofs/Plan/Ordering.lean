import Mathlib.Data.List.Nodup
import Rollout.Proofs.Fallible
import Rollout.Proofs.Plan.Shares

/-!
# The order of the walk

A plan of integers is checked, and then ordered as the policy says. The main statement,
`order_settles`, says when it is refused, and what is walked otherwise: the plan as it is where the
policy keeps it or nothing has to be moved, and else its entries in ascending order, those of one
share in their old order (`filter_sorted`). The notice for a plan that is sorted comes exactly when
something was moved, and a plan that was ordered once is not moved again.
-/

namespace Rollout

theorem WalkPolicy.ofName_eq_reject_iff {name : Datum} :
    ofName name = .reject ↔ name = .text "reject" := by
  constructor
  · intro rejects
    unfold ofName at rejects
    split at rejects <;> first | rfl | cases rejects
  · rintro rfl
    rfl

theorem WalkPolicy.ofName_eq_preserve_iff {name : Datum} :
    ofName name = .preserve ↔ name = .text "preserve" := by
  constructor
  · intro preserves
    unfold ofName at preserves
    split at preserves <;> first | rfl | cases preserves
  · rintro rfl
    rfl

namespace Plan

/-! ## Earlier entries that exceed later ones -/

/-- Some entry has a larger share than a later one. -/
def Drops (plan : Plan) : Prop :=
  ∃ (i j : Nat) (a b : PlanEntry), i < j ∧ plan[i]? = some a ∧ plan[j]? = some b ∧
    b.share < a.share

theorem ascends_iff {plan : Plan} : plan.Ascends ↔ ¬ plan.Drops := by
  rw [Ascends, List.pairwise_iff_getElem]
  constructor
  · rintro ascends ⟨i, j, a, b, before, at_i, at_j, less⟩
    obtain ⟨short_i, rfl⟩ := List.getElem?_eq_some_iff.mp at_i
    obtain ⟨short_j, rfl⟩ := List.getElem?_eq_some_iff.mp at_j
    have le := ascends i j short_i short_j before
    omega
  · intro none_drops i j short_i short_j before
    refine Int.not_lt.mp fun less => none_drops ?_
    exact ⟨i, j, plan[i], plan[j], before, List.getElem?_eq_getElem short_i,
      List.getElem?_eq_getElem short_j, less⟩

/-! ## Sorted plans -/

/-- The first entry has at most the share of the second one. -/
def shareAtMost (a b : PlanEntry) : Bool :=
  decide (a.share ≤ b.share)

theorem shareAtMost_trans (a b c : PlanEntry) (left : shareAtMost a b = true)
    (right : shareAtMost b c = true) : shareAtMost a c = true := by
  simp only [shareAtMost, decide_eq_true_eq] at *
  omega

theorem shareAtMost_total (a b : PlanEntry) : (shareAtMost a b || shareAtMost b a) = true := by
  simp only [shareAtMost, Bool.or_eq_true, decide_eq_true_eq]
  omega

/-- Integers are sorted by their shares. -/
theorem sorted_eq {plan : Plan} (whole : plan.IsWhole) :
    plan.sorted = plan.mergeSort shareAtMost := by
  have same := List.map_mergeSort (r := staysBefore) (s := shareAtMost) (f := id) (l := plan)
    fun a member b other => by
      simp [staysBefore, shareAtMost, Datum.atMost_whole (whole a member) (whole b other)]
  rwa [List.map_id, List.map_id] at same

theorem ascends_sorted {plan : Plan} (whole : plan.IsWhole) : plan.sorted.Ascends := by
  rw [sorted_eq whole]
  refine (List.pairwise_mergeSort shareAtMost_trans shareAtMost_total plan).imp fun le => ?_
  simpa only [shareAtMost, decide_eq_true_eq] using le

/-- The entries of one share keep their order. They are a sublist of the plan that ascends, so a
stable sort has it as a sublist too, and no entry of the share is left out. -/
theorem filter_sorted {plan : Plan} (whole : plan.IsWhole) (n : Int) :
    plan.sorted.filter (·.share = n) = plan.filter (·.share = n) := by
  have level : (plan.filter (·.share = n)).Pairwise fun a b => shareAtMost a b = true := by
    refine List.pairwise_of_forall_mem_list fun a left b right => ?_
    have left : a.share = n := by simpa using (List.mem_filter.mp left).2
    have right : b.share = n := by simpa using (List.mem_filter.mp right).2
    simp [shareAtMost, left, right]
  have within : (plan.filter (·.share = n)).Sublist plan.sorted := by
    rw [sorted_eq whole]
    exact List.sublist_mergeSort shareAtMost_trans shareAtMost_total level List.filter_sublist
  have filtered : (plan.filter (·.share = n)).Sublist (plan.sorted.filter (·.share = n)) := by
    have again := within.filter (·.share = n)
    rwa [List.filter_filter, List.filter_congr fun _ _ => Bool.and_self _] at again
  have perm : plan.sorted.Perm plan := List.mergeSort_perm plan staysBefore
  exact (filtered.eq_of_length (perm.filter _).length_eq.symm).symm

/-! ## Plans with the same entries -/

/-- Entries with different shares have one ascending order. -/
theorem Ascends.eq_of_perm {plan other : Plan} (ascends : plan.Ascends) (ascends' : other.Ascends)
    (distinct : (plan.map PlanEntry.share).Nodup) (perm : plan.Perm other) : plan = other := by
  refine perm.eq_of_pairwise (fun a b left right le ge => ?_) ascends ascends'
  exact List.inj_on_of_nodup_map distinct left (perm.mem_iff.mpr right) (Int.le_antisymm le ge)

/-- Under the policy that sorts, a sound plan is walked in an ascending order. -/
theorem order_normalize {plan : Plan} (sound : plan.IsSound) (imageType : Datum) :
    ∃ walked, (plan.order imageType .normalize).1 = .ok walked ∧ walked.Perm plan ∧
      walked.Ascends := by
  rcases order_cases sound.isWhole imageType .normalize with
    ⟨unsound, -⟩ | ⟨-, notices, -, orders⟩
  · exact absurd sound unsound
  · generalize plan.order imageType .normalize = outcome at orders ⊢
    cases orders with
    | kept fits => exact ⟨plan, rfl, .refl plan, fits.resolve_left nofun⟩
    | rejected strict drops => cases strict
    | normalized lenient drops =>
      exact ⟨plan.sorted, rfl, List.mergeSort_perm plan staysBefore, ascends_sorted sound.isWhole⟩

/-- Where all shares differ, that order is the same for the entries in any order. -/
theorem order_eq_of_perm {plan other : Plan} (sound : plan.IsSound)
    (distinct : (plan.map PlanEntry.share).Nodup) (perm : plan.Perm other) (imageType : Datum) :
    (plan.order imageType .normalize).1 = (other.order imageType .normalize).1 := by
  obtain ⟨walked, ordered, own, ascends⟩ := order_normalize sound imageType
  obtain ⟨walked', ordered', own', ascends'⟩ :=
    order_normalize (sound.of_perm perm.symm) imageType
  have same : walked = walked' := by
    refine ascends.eq_of_perm ascends' ?_ ((own.trans perm).trans own'.symm)
    exact (own.map PlanEntry.share).nodup_iff.mpr distinct
  rw [ordered, ordered', same]

/-! ## The notice for a sorted plan -/

/-- The check tells of too large a total only, and its notice goes on differently. -/
theorem resorting_not_mem_overallocation {imageType total : Datum} {notices : List Notice}
    (told : overallocation imageType total = .ok notices) : resorting imageType ∉ notices := by
  unfold overallocation at told
  obtain ⟨excess, -, told⟩ := Fallible.bind_eq_ok_iff.mp told
  cases excess with
  | false =>
    obtain rfl : [] = notices := Except.ok.inj told
    exact List.not_mem_nil
  | true =>
    obtain ⟨sum, -, told⟩ := Fallible.bind_eq_ok_iff.mp told
    obtain rfl := Except.ok.inj told
    simp only [resorting, Notice.warning, List.mem_singleton, Notice.mk.injEq, true_and]
    intro same
    have texts := congrArg String.toList same
    simp [toString] at texts

theorem resorting_not_mem_check {imageType : Datum} {plan : Plan} {notices : List Notice}
    (told : plan.check imageType = .ok notices) : resorting imageType ∉ notices := by
  unfold check at told
  obtain ⟨outside, -, told⟩ := Fallible.bind_eq_ok_iff.mp told
  cases outside with
  | some entry => cases told
  | none =>
    obtain ⟨total, -, told⟩ := Fallible.bind_eq_ok_iff.mp told
    exact resorting_not_mem_overallocation told

/-! ## What the order settles -/

/-- The plan is refused under the policy: a share lies outside 1 to 100, or the policy rejects plans
that drop and this one does. -/
def IsRefused (plan : Plan) (policy : Datum) : Prop :=
  (∃ entry ∈ plan, entry.share < 1 ∨ bucketCount < entry.share) ∨
    (policy = .text "reject" ∧ plan.Drops)

/-- The plan is walked as it was given. -/
def IsKept (plan : Plan) (policy : Datum) : Prop :=
  policy = .text "preserve" ∨ ¬ plan.Drops

/-- These are the entries of the plan in the order in which the policy has them walked. -/
structure IsWalked (plan : Plan) (policy : Datum) (walked : Plan) : Prop where
  perm : walked.Perm plan
  kept : plan.IsKept policy → walked = plan
  ascends : ¬ plan.IsKept policy → walked.Ascends
  /-- Entries of one share stay in their order. -/
  stable : ¬ plan.IsKept policy →
    ∀ n : Int, walked.filter (·.share = n) = plan.filter (·.share = n)

/-- What the order makes of a plan under a policy. -/
structure IsOrdered (plan : Plan) (imageType policy : Datum) : Prop where
  refused : (∃ flaw, (plan.order imageType (.ofName policy)).1 =
    .error (.invalidPlan imageType flaw)) ↔ plan.IsRefused policy
  walked : ¬ plan.IsRefused policy → ∃ walked, (plan.order imageType (.ofName policy)).1 =
    .ok walked ∧ plan.IsWalked policy walked
  /-- A plan that is walked in another order is told of, and no other one. -/
  told : resorting imageType ∈ (plan.order imageType (.ofName policy)).2 ↔
    ∃ walked, (plan.order imageType (.ofName policy)).1 = .ok walked ∧ walked ≠ plan
  /-- What was ordered once stays as it is. -/
  again : ∀ walked, (plan.order imageType (.ofName policy)).1 = .ok walked →
    (walked.order imageType (.ofName policy)).1 = .ok walked ∧
      resorting imageType ∉ (walked.order imageType (.ofName policy)).2

theorem isSound_iff {plan : Plan} (whole : plan.IsWhole) :
    plan.IsSound ↔ ¬ ∃ entry ∈ plan, entry.share < 1 ∨ bucketCount < entry.share := by
  constructor
  · rintro sound ⟨entry, member, outside⟩
    have positive := (sound entry member).positive
    have bounded := (sound entry member).bounded
    omega
  · intro none_outside entry member
    refine ⟨whole entry member, Int.not_lt.mp fun less => ?_, Int.not_lt.mp fun less => ?_⟩
    · exact none_outside ⟨entry, member, .inl less⟩
    · exact none_outside ⟨entry, member, .inr less⟩

theorem isRefused_iff {plan : Plan} (whole : plan.IsWhole) {policy : Datum} :
    plan.IsRefused policy ↔
      ¬ plan.IsSound ∨ (WalkPolicy.ofName policy = .reject ∧ ¬ plan.Ascends) := by
  rw [IsRefused, isSound_iff whole, Classical.not_not, WalkPolicy.ofName_eq_reject_iff, ascends_iff,
    Classical.not_not]

theorem isKept_iff {plan : Plan} {policy : Datum} :
    plan.IsKept policy ↔ WalkPolicy.ofName policy = .preserve ∨ plan.Ascends := by
  rw [IsKept, WalkPolicy.ofName_eq_preserve_iff, ascends_iff]

/-- A sound plan that is kept is not told of. -/
theorem order_kept {plan : Plan} (sound : plan.IsSound) (imageType policy : Datum)
    (fits : plan.IsKept policy) :
    (plan.order imageType (.ofName policy)).1 = .ok plan ∧
      resorting imageType ∉ (plan.order imageType (.ofName policy)).2 := by
  rw [isKept_iff] at fits
  rcases order_cases sound.isWhole imageType (.ofName policy) with
    ⟨unsound, -⟩ | ⟨-, notices, checked, orders⟩
  · exact absurd sound unsound
  · generalize plan.order imageType (.ofName policy) = outcome at orders ⊢
    cases orders with
    | kept => exact ⟨rfl, resorting_not_mem_check checked⟩
    | rejected strict drops =>
      exact absurd (fits.resolve_left fun preserves => nomatch strict.symm.trans preserves) drops
    | normalized lenient drops =>
      exact absurd (fits.resolve_left fun preserves => nomatch lenient.symm.trans preserves) drops

theorem IsOrdered.of_error {plan : Plan} {imageType policy : Datum} {flaw : PlanFlaw}
    {notices : List Notice} (refused : plan.IsRefused policy)
    (ordered : plan.order imageType (.ofName policy) =
      (.error (.invalidPlan imageType flaw), notices))
    (silent : resorting imageType ∉ notices) : plan.IsOrdered imageType policy where
  refused := by
    rw [ordered]
    exact iff_of_true ⟨flaw, rfl⟩ refused
  walked := fun passed => absurd refused passed
  told := by
    rw [ordered]
    refine iff_of_false silent ?_
    rintro ⟨walked, impossible, -⟩
    cases impossible
  again := by
    rw [ordered]
    intro walked impossible
    cases impossible

theorem IsOrdered.of_ok {plan walked : Plan} {imageType policy : Datum} {notices : List Notice}
    (sound : plan.IsSound) (lets : WalkPolicy.ofName policy = .reject → plan.Ascends)
    (ordered : plan.order imageType (.ofName policy) = (.ok walked, notices))
    (walks : plan.IsWalked policy walked) (told : resorting imageType ∈ notices ↔ walked ≠ plan)
    (stays : walked.IsKept policy) : plan.IsOrdered imageType policy := by
  have passed : ¬ plan.IsRefused policy := by
    rw [isRefused_iff sound.isWhole]
    rintro (unsound | ⟨rejects, drops⟩)
    · exact unsound sound
    · exact drops (lets rejects)
  refine ⟨?_, ?_, ?_, ?_⟩ <;> rw [ordered]
  · exact iff_of_false nofun passed
  · exact fun _ => ⟨walked, rfl, walks⟩
  · rw [told]
    constructor
    · exact fun moved => ⟨walked, rfl, moved⟩
    · rintro ⟨other, ⟨⟩, moved⟩
      exact moved
  · rintro other ⟨⟩
    exact order_kept (sound.of_perm walks.perm) imageType policy stays

/-- **The order of the walk.** A plan of integers is refused exactly when a share lies outside 1 to
100, or the policy rejects and an earlier entry exceeds a later one. Otherwise its entries are
walked as they are, or sorted by their shares and those of one share in their old order; a notice
tells of the latter only, and nothing is moved when the order is taken again. -/
theorem order_settles {plan : Plan} (whole : plan.IsWhole) (imageType policy : Datum) :
    plan.IsOrdered imageType policy := by
  rcases order_cases whole imageType (.ofName policy) with
    ⟨unsound, flaw, ordered⟩ | ⟨sound, notices, checked, orders⟩
  · exact .of_error ((isRefused_iff whole).mpr (.inl unsound)) ordered List.not_mem_nil
  · have silent := resorting_not_mem_check checked
    generalize ordered : plan.order imageType (.ofName policy) = outcome at orders
    cases orders with
    | kept fits =>
      have kept : plan.IsKept policy := isKept_iff.mpr fits
      have walks : plan.IsWalked policy plan :=
        ⟨.refl plan, fun _ => rfl, fun moved => absurd kept moved, fun moved => absurd kept moved⟩
      refine .of_ok sound (fun rejects => ?_) ordered walks (iff_of_false silent ?_) kept
      · exact fits.resolve_left fun preserves => nomatch rejects.symm.trans preserves
      · exact fun moved => moved rfl
    | rejected strict drops =>
      exact .of_error ((isRefused_iff whole).mpr (.inr ⟨strict, drops⟩)) ordered silent
    | normalized lenient drops =>
      have ascends := ascends_sorted whole
      have moved : ¬ plan.IsKept policy := by
        rw [isKept_iff, lenient]
        exact fun fits => drops (fits.resolve_left nofun)
      have walks : plan.IsWalked policy plan.sorted :=
        ⟨List.mergeSort_perm plan staysBefore, fun kept => absurd kept moved, fun _ => ascends,
          fun _ => filter_sorted whole⟩
      refine .of_ok sound (fun rejects => nomatch lenient.symm.trans rejects) ordered walks
        (iff_of_true (by simp) fun same => drops ?_) (isKept_iff.mpr (.inr ascends))
      rwa [same] at ascends

/-- The plan drops twice, and two of its entries have one share. -/
def droppingPlan : Plan :=
  [⟨.text "c", .int 60⟩, ⟨.text "a", .int 10⟩, ⟨.text "b", .int 30⟩, ⟨.text "d", .int 10⟩]

theorem sorted_droppingPlan :
    droppingPlan.sorted = [⟨.text "a", .int 10⟩, ⟨.text "d", .int 10⟩, ⟨.text "b", .int 30⟩,
      ⟨.text "c", .int 60⟩] := by
  rw [sorted_eq (by decide)]
  simp [droppingPlan, List.mergeSort, List.MergeSort.Internal.splitInTwo, shareAtMost,
    PlanEntry.share, Datum.number?]

theorem order_settles_dropping :
    droppingPlan.IsWhole ∧
    droppingPlan.IsOrdered (.text "spark") (.text "normalize") ∧
    (droppingPlan.order (.text "spark") (.ofName (.text "normalize"))).1 =
      .ok [⟨.text "a", .int 10⟩, ⟨.text "d", .int 10⟩, ⟨.text "b", .int 30⟩,
        ⟨.text "c", .int 60⟩] ∧
    (droppingPlan.order (.text "spark") (.ofName (.text "normalize"))).2 =
      [.warning "Rampup plan for spark allocates 110%; entries past bucket 100 are unreachable",
        .warning "Rampup plan for spark is not sorted by percentage, normalizing"] := by
  have whole : droppingPlan.IsWhole := by decide
  have sorts : (droppingPlan.order (.text "spark") (.ofName (.text "normalize"))).1 =
      .ok droppingPlan.sorted := rfl
  rw [sorted_droppingPlan] at sorts
  exact ⟨whole, order_settles whole _ _, sorts, by decide +kernel⟩

end Plan

end Rollout

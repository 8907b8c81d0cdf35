import Rollout.Proofs.Plan.Allocation

/-!
# Growing plans

A plan **grows** into another one when every entry stays at its place with its version and a share
that is at least as large, and entries are only added at the end. The floors of the two walks drift
apart on the way, but up to every place the grown plan is allotted at least as many buckets
(`GrowsTo.allotted_take_le`).

So a grown plan never pushes a flow back (`matchBucket_advances`): its walk stops at the same place
or before, no bucket loses its owner, and where entries were only added the owner stays.
-/

namespace Rollout.Plan

/-- Every entry of the first plan is in the second one, at its place and with its version, and its
share there is at least as large. -/
structure GrowsTo (p q : Plan) : Prop where
  length_le : p.length ≤ q.length
  raised : ∀ (i : Nat) (old new : PlanEntry), p[i]? = some old → q[i]? = some new →
    new.version = old.version ∧ old.share ≤ new.share

theorem GrowsTo.head {old new : PlanEntry} {p q : Plan}
    (grows : GrowsTo (old :: p) (new :: q)) : old.share ≤ new.share :=
  (grows.raised 0 old new rfl rfl).2

theorem GrowsTo.tail {old new : PlanEntry} {p q : Plan}
    (grows : GrowsTo (old :: p) (new :: q)) : GrowsTo p q where
  length_le := Nat.le_of_succ_le_succ grows.length_le
  raised := by
    intro i a b at_p at_q
    exact grows.raised (i + 1) a b (by simpa using at_p) (by simpa using at_q)

/-- Up to every place the grown plan is allotted at least as many buckets. -/
theorem GrowsTo.allotted_take_le {p q : Plan} (grows : p.GrowsTo q) {i : Nat}
    (within : i ≤ p.length) : allotted (p.take i) ≤ allotted (q.take i) := by
  induction p generalizing q i with
  | nil =>
    obtain rfl : i = 0 := Nat.le_zero.mp within
    exact Int.le_refl 0
  | cons old p ih =>
    cases i with
    | zero => exact Int.le_refl 0
    | succ i =>
      cases q with
      | nil => exact absurd grows.length_le (Nat.not_succ_le_zero p.length)
      | cons new q =>
        have head := grows.head
        have tail := ih grows.tail (Nat.le_of_succ_le_succ within)
        simp only [List.take_succ_cons, allotted]
        omega

/-- The owner of a bucket among the first entries is its owner among all. -/
theorem OwnsAt.of_take {plan : Plan} {n : Nat} {bucket : Int} {i : Nat} {entry : PlanEntry}
    (owned : OwnsAt (plan.take n) bucket i entry) : i < n ∧ plan.OwnsAt bucket i entry := by
  obtain ⟨at_i, above, below⟩ := owned
  rw [List.getElem?_take] at at_i
  split at at_i
  · rename_i lt
    rw [List.take_take, Nat.min_eq_left (Nat.le_of_lt lt)] at above below
    exact ⟨lt, at_i, above, below⟩
  · cases at_i

/-- Entries that are added at the end take no bucket away. -/
theorem OwnsAt.of_prefix {p q : Plan} (added : p <+: q) {bucket : Int} {i : Nat}
    {entry : PlanEntry} (owned : p.OwnsAt bucket i entry) : q.OwnsAt bucket i entry := by
  rw [List.prefix_iff_eq_take.mp added] at owned
  exact owned.of_take.2

/-- The owner in the grown plan stands at the same place or before. -/
theorem OwnsAt.grown {p q : Plan} (shares : p.IsPositive) (grown_shares : q.IsPositive)
    (grows : p.GrowsTo q) {bucket : Int} {i : Nat} {entry : PlanEntry}
    (owned : p.OwnsAt bucket i entry) : ∃ j ≤ i, ∃ new, q.OwnsAt bucket j new := by
  have within : i + 1 ≤ p.length := (List.getElem?_eq_some_iff.mp owned.1).1
  have reached : bucket ≤ allotted (q.take (i + 1)) :=
    calc bucket ≤ allotted (p.take i) + entry.share := owned.2.2
      _ = allotted (p.take (i + 1)) := (allotted_take_succ owned.1).symm
      _ ≤ allotted (q.take (i + 1)) := grows.allotted_take_le within
  -- so the walk of the first `i + 1` entries of the grown plan does not run past them
  rcases matchBucket_spec (grown_shares.take (i + 1)) (owned.positive shares) with
    ⟨j, new, -, among⟩ | ⟨-, beyond⟩
  · obtain ⟨lt, owned⟩ := among.of_take
    exact ⟨j, Nat.le_of_lt_succ lt, new, owned⟩
  · omega

/-- For the bucket the second plan is not behind the first one. -/
structure Advances (p q : Plan) (bucket : Int) : Prop where
  /-- Both walks find the entry at the place where they stop. -/
  found : p.matchBucket (.int bucket) = .ok ((p.stopsAt bucket).bind fun i => p[i]?)
  found_grown : q.matchBucket (.int bucket) = .ok ((q.stopsAt bucket).bind fun i => q[i]?)
  /-- The second walk stops at the same place as the first one or before, and so at a version that
  the first plan has there. -/
  stops : ∀ i, p.stopsAt bucket = some i → ∃ j ≤ i, q.stopsAt bucket = some j ∧
    ∃ old new, p[j]? = some old ∧ q[j]? = some new ∧ new.version = old.version
  /-- What is found by the first walk is not missed by the second one. -/
  served : ∀ old, p.matchBucket (.int bucket) = .ok (some old) →
    ∃ new, q.matchBucket (.int bucket) = .ok (some new)
  /-- Where entries are only added, the second walk stops at the same place. -/
  kept : p <+: q → ∀ i, p.stopsAt bucket = some i →
    q.stopsAt bucket = some i ∧ q.matchBucket (.int bucket) = p.matchBucket (.int bucket)

/-- **A growing plan pushes no flow back.** Whatever the bucket, the walk of a plan that has grown
stops at the same place as before or at an earlier one, and where entries were only added it stops
at the same one. -/
theorem matchBucket_advances {p q : Plan} (shares : p.IsPositive) (grown_shares : q.IsPositive)
    (grows : p.GrowsTo q) (bucket : Int) : Advances p q bucket := by
  have found := matchBucket_eq_getElem?_stopsAt shares bucket
  have found_grown := matchBucket_eq_getElem?_stopsAt grown_shares bucket
  have stops : ∀ i, p.stopsAt bucket = some i → ∃ j ≤ i, q.stopsAt bucket = some j ∧
      ∃ old new, p[j]? = some old ∧ q[j]? = some new ∧ new.version = old.version := by
    intro i stopped
    obtain ⟨entry, owned⟩ := (stopsAt_eq_some_iff shares).mp stopped
    obtain ⟨j, le, new, grown⟩ := owned.grown shares grown_shares grows
    have within : j < p.length :=
      Nat.lt_of_le_of_lt le (List.getElem?_eq_some_iff.mp owned.1).1
    have old_at : p[j]? = some p[j] := List.getElem?_eq_getElem within
    exact ⟨j, le, (stopsAt_eq_some_iff grown_shares).mpr ⟨new, grown⟩, p[j], new, old_at, grown.1,
      (grows.raised j p[j] new old_at grown.1).1⟩
  refine ⟨found, found_grown, stops, ?_, ?_⟩
  · intro old matched
    rw [matched] at found
    obtain ⟨i, stopped, -⟩ := Option.bind_eq_some_iff.mp (Except.ok.inj found).symm
    obtain ⟨j, -, stopped, -, new, -, new_at, -⟩ := stops i stopped
    exact ⟨new, by rw [found_grown, stopped, Option.bind_some, new_at]⟩
  · intro added i stopped
    obtain ⟨entry, owned⟩ := (stopsAt_eq_some_iff shares).mp stopped
    have same := (stopsAt_eq_some_iff grown_shares).mpr ⟨entry, owned.of_prefix added⟩
    refine ⟨same, ?_⟩
    rw [found, found_grown, stopped, same, Option.bind_some, Option.bind_some, owned.1,
      (owned.of_prefix added).1]

/-- All entries of the first plan have grown, and one was added. The bucket moves from the second
entry to the first one. -/
theorem matchBucket_advances_raised :
    IsPositive [⟨.text "1.0", .int 10⟩, ⟨.text "1.1", .int 20⟩] ∧
    IsPositive [⟨.text "1.0", .int 25⟩, ⟨.text "1.1", .int 40⟩, ⟨.text "1.2", .int 300⟩] ∧
    GrowsTo [⟨.text "1.0", .int 10⟩, ⟨.text "1.1", .int 20⟩]
      [⟨.text "1.0", .int 25⟩, ⟨.text "1.1", .int 40⟩, ⟨.text "1.2", .int 300⟩] ∧
    Advances [⟨.text "1.0", .int 10⟩, ⟨.text "1.1", .int 20⟩]
      [⟨.text "1.0", .int 25⟩, ⟨.text "1.1", .int 40⟩, ⟨.text "1.2", .int 300⟩] 12 ∧
    stopsAt [⟨.text "1.0", .int 10⟩, ⟨.text "1.1", .int 20⟩] 12 = some 1 ∧
    stopsAt [⟨.text "1.0", .int 25⟩, ⟨.text "1.1", .int 40⟩, ⟨.text "1.2", .int 300⟩] 12 =
      some 0 := by
  have grows : GrowsTo [⟨.text "1.0", .int 10⟩, ⟨.text "1.1", .int 20⟩]
      [⟨.text "1.0", .int 25⟩, ⟨.text "1.1", .int 40⟩, ⟨.text "1.2", .int 300⟩] := by
    refine ⟨by decide, ?_⟩
    rintro (_ | _ | i) old new ⟨⟩ ⟨⟩
    · decide
    · decide
  exact ⟨by decide, by decide, grows, matchBucket_advances (by decide) (by decide) grows 12,
    by decide, by decide⟩

end Rollout.Plan

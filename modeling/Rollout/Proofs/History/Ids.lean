import Rollout.History
import Rollout.Proofs.Fallible

/-!
# Ids of records

Whatever is done to a history, and however its clock runs, its records lie in it by ascending ids,
and the next id is above all of them (`Reached.ascending`). So an id names one record at most, and a
record that is held is found by its id (`find?_id`), and the records that fit some filters come
newest first by descending ids.
-/

namespace Rollout.History

/-- The histories that come about from a fresh one, by records and by what removes them. -/
inductive Reached : History → Prop where
  | fresh (ttl limit : Datum) : Reached { ttl := ttl, limit := limit }
  | add {h : History} (reached : Reached h) (now : Instant) (operation : Datum)
    (flow : Option Flow) (resolution : Option Resolution) (fault : Option Fault) :
    Reached (h.add now operation flow resolution fault).2
  | addGiven {h : History} (reached : Reached h) (now : Instant) (operation : Datum)
    (flow : Option Flow) (given : Option GivenResolution) (fault : Option Fault) :
    Reached (h.addGiven now operation flow given fault).2
  | cleanUp {h h' : History} {now : Instant} {removed : Nat} (reached : Reached h)
    (cleaned : h.cleanUp now = .ok (removed, h')) : Reached h'
  | clear {h : History} (reached : Reached h) : Reached h.clear

/-- The ids ascend, up to the next one. -/
structure Ascending (h : History) : Prop where
  ordered : h.records.Pairwise fun earlier later => earlier.id < later.id
  below : ∀ record ∈ h.records, record.id < h.nextId

variable {h : History}

theorem suffix_of_dropOldest {α : Type} {limit : Datum} {items left : List α}
    (dropped : dropOldest limit items = .ok left) : left <:+ items := by
  induction items with
  | nil =>
    obtain rfl := Except.ok.inj dropped
    exact List.suffix_rfl
  | cons item rest ih =>
    obtain ⟨exceeds, -, next⟩ := Fallible.bind_eq_ok_iff.mp dropped
    cases exceeds with
    | true => exact (ih next).trans (List.suffix_cons item rest)
    | false =>
      obtain rfl := Except.ok.inj next
      exact List.suffix_rfl

/-- Fewer records, and no smaller an id to come. -/
theorem Ascending.sublist {h' : History} (ascending : h.Ascending)
    (fewer : h'.records.Sublist h.records) (next : h.nextId ≤ h'.nextId) : h'.Ascending where
  ordered := ascending.ordered.sublist fewer
  below record member := Nat.lt_of_lt_of_le (ascending.below record (fewer.subset member)) next

theorem Ascending.keep (ascending : h.Ascending) {record : HistoryRecord}
    (next : record.id = h.nextId) : (h.keep record).2.Ascending := by
  have grown : Ascending { h with nextId := h.nextId + 1, records := h.records ++ [record] } := by
    constructor
    · refine List.pairwise_append.mpr ⟨ascending.ordered, List.pairwise_singleton _ _, ?_⟩
      intro earlier member later last
      rw [List.mem_singleton.mp last, next]
      exact ascending.below earlier member
    · intro held member
      rcases List.mem_append.mp member with old | new
      · exact Nat.lt_succ_of_lt (ascending.below held old)
      · rw [List.mem_singleton.mp new, next]
        exact Nat.lt_succ_self _
  rw [History.keep]
  cases dropped : dropOldest h.limit (h.records ++ [record]) with
  | error fault => exact grown
  | ok left =>
    exact grown.sublist (suffix_of_dropOldest dropped).sublist (Nat.le_refl _)

theorem Reached.ascending (reached : h.Reached) : h.Ascending := by
  induction reached with
  | fresh ttl limit => exact ⟨.nil, nofun⟩
  | add _ now operation flow resolution fault ih => exact ih.keep rfl
  | @addGiven h _ now operation flow given fault ih =>
    rw [History.addGiven]
    cases given.elim (.ok []) GivenResolution.unresolvedNames with
    | ok names => exact ih.keep rfl
    | error failure => exact ih.sublist (List.Sublist.refl _) (Nat.le_succ _)
  | cleanUp _ cleaned ih =>
    obtain ⟨kept, filtered, same⟩ := Fallible.bind_eq_ok_iff.mp cleaned
    obtain ⟨-, rfl⟩ := Prod.mk.inj (Except.ok.inj same)
    exact ih.sublist (Fallible.sublist_of_filter filtered) (Nat.le_refl _)
  | clear _ ih => exact ih.sublist (List.nil_sublist _) (Nat.le_refl _)

/-- A record that is held is the one with its id. -/
theorem Ascending.find?_id (ascending : h.Ascending) {record : HistoryRecord}
    (held : record ∈ h.records) : h.find? record.id = some record := by
  obtain ⟨before, after, split⟩ := List.append_of_mem held
  refine List.find?_eq_some_iff_append.mpr ⟨by simp, before, after, split, fun earlier member => ?_⟩
  have ordered := ascending.ordered
  rw [split, List.pairwise_append] at ordered
  have less := ordered.2.2 earlier member record List.mem_cons_self
  have other : (earlier.id : Int) ≠ record.id := by omega
  simpa using other

end Rollout.History

import Rollout.History
import Rollout.Proofs.Fallible
import Rollout.Proofs.Instant.Clock

/-!
# The window of a history

The records that a history holds are a **window** of all those that were ever added: from some id
on, one after the other, up to the latest (`IsWindow`). Whatever is done to a history while its
clock runs forward, its window only moves onward: a record beyond the limit pushes the oldest ones
out, a clean-up takes away those at the start, and clearing takes away all.

That a clean-up leaves no gap rests on the clock: what was recorded earlier is at least as old.
-/

namespace Rollout.History

/-- A history and the time of its clock. -/
structure Timed where
  history : History
  now : Instant

/-- What happens to a history while its clock runs forward. -/
inductive Event where
  | add (operation : Datum) (flow : Option Flow) (resolution : Option Resolution)
    (fault : Option Fault)
  | cleanUp
  | clear
  | advance (microseconds : Nat)

/-- The event adds a record. -/
def Event.isAdd : Event → Bool
  | add .. => true
  | _ => false

namespace Timed

/-- The history after the event; a clean-up that fails leaves it as it was. -/
def after (s : Timed) : Event → Timed
  | .add operation flow resolution fault =>
    { s with history := (s.history.add s.now operation flow resolution fault).2 }
  | .cleanUp =>
    match s.history.cleanUp s.now with
    | .ok (_, history) => { s with history := history }
    | .error _ => s
  | .clear => { s with history := s.history.clear }
  | .advance microseconds => { s with now := ⟨s.now.microseconds + microseconds⟩ }

/-- The history after the events. -/
def afterAll (s : Timed) (events : List Event) : Timed :=
  events.foldl after s

end Timed

/-- A history that nothing was added to. -/
def fresh (ttl : Datum) (limit : Int) : History where
  ttl := ttl
  limit := .int limit

/-- How many records the events add. -/
def added (events : List Event) : Nat :=
  events.countP Event.isAdd

/-- The ids from the one after `dropped` to the latest. -/
def idsAfter (dropped latest : Nat) : List Nat :=
  List.range' (dropped + 1) (latest - dropped)

/-! ## The invariant -/

variable {ttl : Datum} {span : Number} {limit : Int} {latest : Nat}

/-- The history holds the last ones of the records that were added, in the order of time. -/
structure IsWindow (s : Timed) (ttl : Datum) (limit : Int) (latest : Nat) : Prop where
  ttl_eq : s.history.ttl = ttl
  limit_eq : s.history.limit = .int limit
  nextId_eq : s.history.nextId = latest + 1
  ids : ∃ dropped, dropped ≤ latest ∧ s.history.records.map (·.id) = idsAfter dropped latest
  length_le : s.history.records.length ≤ limit.toNat
  ordered : s.history.records.Pairwise fun earlier later =>
    earlier.recordedAt.microseconds ≤ later.recordedAt.microseconds
  past : ∀ record ∈ s.history.records, record.recordedAt.microseconds ≤ s.now.microseconds

theorem isWindow_fresh (ttl : Datum) (limit : Int) (now : Instant) :
    IsWindow ⟨fresh ttl limit, now⟩ ttl limit 0 where
  ttl_eq := rfl
  limit_eq := rfl
  nextId_eq := rfl
  ids := ⟨0, Nat.le_refl 0, rfl⟩
  length_le := Nat.zero_le _
  ordered := .nil
  past := by simp [fresh]

/-! ## Adding -/

theorem add_eq {s : Timed} (window : IsWindow s ttl limit latest) (operation : Datum)
    (flow : Option Flow) (resolution : Option Resolution) (fault : Option Fault) :
    let entry := recordOf (latest + 1) s.now operation flow resolution fault
    s.history.add s.now operation flow resolution fault =
      (.ok entry, { s.history with
        nextId := latest + 2
        records := History.latest limit (s.history.records ++ [entry]) }) := by
  simp only [add, keep, window.limit_eq, window.nextId_eq, dropOldest_int]

/-- What is left of consecutive ids, and the next one, when the first ones are dropped. -/
theorem idsAfter_drop {dropped latest : Nat} (le : dropped ≤ latest) (n : Nat) :
    (idsAfter dropped latest ++ [latest + 1]).drop n = idsAfter (dropped + n) (latest + 1) := by
  have grown : idsAfter dropped latest ++ [latest + 1] = idsAfter dropped (latest + 1) := by
    have count : latest + 1 - dropped = latest - dropped + 1 := by omega
    have next : dropped + 1 + (latest - dropped) = latest + 1 := by omega
    rw [idsAfter, idsAfter, count, List.range'_1_concat, next]
  rw [grown, idsAfter, List.drop_range', idsAfter]
  congr 1 <;> omega

theorem IsWindow.add {s : Timed} (window : IsWindow s ttl limit latest) (operation : Datum)
    (flow : Option Flow) (resolution : Option Resolution) (fault : Option Fault) :
    IsWindow (s.after (.add operation flow resolution fault)) ttl limit (latest + 1) := by
  have added := add_eq window operation flow resolution fault
  simp only [Timed.after, added]
  obtain ⟨dropped, le, ids⟩ := window.ids
  constructor
  · exact window.ttl_eq
  · exact window.limit_eq
  · rfl
  · refine ⟨dropped + (s.history.records.length + 1 - limit.toNat), ?_, ?_⟩
    · have held := congrArg List.length ids
      simp only [List.length_map, idsAfter, List.length_range'] at held
      omega
    · have held := congrArg List.length ids
      simp only [List.length_map, idsAfter, List.length_range'] at held
      simp only [History.latest, List.map_drop, List.map_append, List.map_cons, List.map_nil, ids,
        List.length_append, List.length_singleton, recordOf]
      exact idsAfter_drop le _
  · simp only [History.latest, List.length_drop, List.length_append, List.length_singleton]
    omega
  · refine List.Pairwise.sublist (List.drop_sublist _ _) ?_
    rw [List.pairwise_append]
    refine ⟨window.ordered, List.pairwise_singleton _ _, fun record member entry new => ?_⟩
    rw [List.mem_singleton.mp new]
    exact window.past record member
  · intro record member
    rcases List.mem_append.mp (List.mem_of_mem_drop member) with old | new
    · exact window.past record old
    · rw [List.mem_singleton.mp new]
      exact Int.le_refl _

/-! ## Cleaning up -/

/-- By the clock, more time than the time to live has passed since the record was added. -/
def Outlived (span : Number) (now : Instant) (record : HistoryRecord) : Prop :=
  span.isLess (.real (Instant.seconds (now.since record.recordedAt))) = true

instance (span : Number) (now : Instant) (record : HistoryRecord) :
    Decidable (Outlived span now record) :=
  inferInstanceAs (Decidable (_ = true))

theorem toDyadic_seconds (ticks : Int) :
    (Instant.seconds ticks).toDyadic = .ofIntWithPrec ticks 64 := by
  have signed : (Instant.seconds ticks).signed = ticks := by
    simp only [Binary.signed, Instant.seconds, decide_eq_true_eq]
    split <;> omega
  rw [Binary.toDyadic, signed]
  rfl

/-- A number that is less than some time is less than any longer time. -/
theorem isLess_seconds_mono {ticks longer : Int} (le : ticks ≤ longer)
    (less : span.isLess (.real (Instant.seconds ticks)) = true) :
    span.isLess (.real (Instant.seconds longer)) = true := by
  have onward : ∀ d : Dyadic, d.blt (Instant.seconds ticks).toDyadic = true →
      d.blt (Instant.seconds longer).toDyadic = true := by
    intro d below
    rw [toDyadic_seconds, Dyadic.blt_iff_toRat] at below ⊢
    refine Std.lt_of_lt_of_le below ?_
    rw [Dyadic.toRat_ofIntWithPrec_eq_mul_two_pow, Dyadic.toRat_ofIntWithPrec_eq_mul_two_pow]
    exact Rat.mul_le_mul_of_nonneg_right (Rat.intCast_le_intCast.mpr le)
      (Rat.le_of_lt (Rat.zpow_pos (by decide)))
  cases span with
  | whole n => exact onward (.ofInt n) less
  | real b => exact onward b.toDyadic less
  | infinite negative => exact less
  | undefined => exact less

/-- What was recorded before a record that was outlived was outlived too. -/
theorem outlived_of_le {now : Instant} {earlier later : HistoryRecord}
    (le : earlier.recordedAt.microseconds ≤ later.recordedAt.microseconds)
    (outlived : Outlived span now later) : Outlived span now earlier :=
  isLess_seconds_mono (Instant.since_le_since le now) outlived

/-- In the era of its clock, a record is outlived when more than a number of seconds has passed. -/
theorem outlived_whole_iff {now : Instant} {record : HistoryRecord} (current : now.InEra)
    (recorded : record.recordedAt.InEra) (seconds : Int) :
    Outlived (.whole seconds) now record ↔
      record.recordedAt.microseconds + seconds * 1000000 < now.microseconds := by
  rw [Outlived, Instant.isLess_seconds, decide_eq_true_iff,
    Instant.lt_since_iff recorded current]

theorem isExpired_eq {h : History} (timed : h.ttl.number? = some span) (now : Instant)
    (record : HistoryRecord) :
    h.isExpired now record = .ok (decide (Outlived span now record)) := by
  have compared : ∀ time : Binary,
      (Datum.real time).exceeds h.ttl = .ok (span.isLess (.real time)) := by
    intro time
    cases value : h.ttl <;> rw [value] at timed <;> cases timed <;> rfl
  rw [isExpired, compared]
  exact congrArg Except.ok Bool.decide_eq_true.symm

/-- Age is not compared with a time to live that is no number. -/
theorem isExpired_untimed {h : History} (untimed : h.ttl.number? = none) (now : Instant)
    (record : HistoryRecord) : ∃ fault, h.isExpired now record = .error fault := by
  rw [isExpired]
  cases value : h.ttl <;> rw [value] at untimed <;> cases untimed <;> exact ⟨_, rfl⟩

/-- Where a test that an item passes is passed by all before it, these items are the first ones. -/
theorem filter_append_filter_not {α : Type} {test : α → Bool} {items : List α}
    (closed : items.Pairwise fun earlier later => test later = true → test earlier = true) :
    items.filter test ++ items.filter (!test ·) = items := by
  induction items with
  | nil => rfl
  | cons item rest ih =>
    rw [List.pairwise_cons] at closed
    by_cases passes : test item = true
    · simp only [List.filter_cons, passes, if_true, Bool.not_true, Bool.false_eq_true, if_false,
        List.cons_append, ih closed.2]
    · have none_later : ∀ later ∈ rest, ¬ test later = true :=
        fun later member passed => passes (closed.1 later member passed)
      rw [List.filter_cons_of_neg passes, List.filter_eq_nil_iff.mpr none_later, List.nil_append,
        List.filter_eq_self]
      exact List.forall_mem_cons.mpr ⟨by simpa using passes, by simpa using none_later⟩

/-- The records that are no longer kept, and the others. -/
def expired (span : Number) (s : Timed) : List HistoryRecord :=
  s.history.records.filter fun record => Outlived span s.now record

/-- The records that are still kept. -/
def unexpired (span : Number) (s : Timed) : List HistoryRecord :=
  s.history.records.filter fun record => !Outlived span s.now record

theorem IsWindow.records_eq {s : Timed} (window : IsWindow s ttl limit latest) (span : Number) :
    s.history.records = expired span s ++ unexpired span s := by
  refine (filter_append_filter_not (window.ordered.imp ?_)).symm
  intro earlier later le outlived
  rw [decide_eq_true_iff] at outlived ⊢
  exact outlived_of_le le outlived

/-- Whatever the times of its records, a history is left with those that are still kept. -/
theorem cleanUp_of_timed {s : Timed} (timed : s.history.ttl.number? = some span) :
    s.history.cleanUp s.now =
      .ok (s.history.records.length - (unexpired span s).length,
        { s.history with records := unexpired span s }) := by
  have tested : ∀ record ∈ s.history.records,
      ((!·) <$> s.history.isExpired s.now record : Except Fault Bool) =
        .ok (!decide (Outlived span s.now record)) := by
    intro record _
    rw [isExpired_eq timed]
    rfl
  rw [cleanUp, Fallible.filter_eq_ok tested]
  rfl

theorem cleanUp_eq {s : Timed} (window : IsWindow s ttl limit latest)
    (timed : ttl.number? = some span) :
    s.history.cleanUp s.now =
      .ok ((expired span s).length, { s.history with records := unexpired span s }) := by
  have count := congrArg List.length (window.records_eq span)
  rw [List.length_append] at count
  have gone : s.history.records.length - (unexpired span s).length = (expired span s).length := by
    omega
  rw [cleanUp_of_timed (window.ttl_eq ▸ timed)]
  exact congrArg (fun n => Except.ok (n, _)) gone

theorem cleanUp_untimed {h : History} (untimed : h.ttl.number? = none) (now : Instant)
    (some_held : h.records ≠ []) : ∃ fault, h.cleanUp now = .error fault := by
  obtain ⟨record, rest, held⟩ := List.exists_cons_of_ne_nil some_held
  obtain ⟨fault, refused⟩ := isExpired_untimed untimed now record
  refine ⟨fault, ?_⟩
  rw [History.cleanUp, held, Fallible.filter, refused]
  rfl

theorem after_cleanUp_untimed {s : Timed} (untimed : s.history.ttl.number? = none) :
    s.after .cleanUp = s := by
  by_cases held : s.history.records = []
  · obtain ⟨⟨_, _, _, records⟩, now⟩ := s
    subst held
    rfl
  · obtain ⟨fault, refused⟩ := cleanUp_untimed untimed s.now held
    simp only [Timed.after, refused]

theorem IsWindow.cleanUp_timed {s : Timed} (window : IsWindow s ttl limit latest)
    (timed : ttl.number? = some span) : IsWindow (s.after .cleanUp) ttl limit latest := by
  have cleaned := cleanUp_eq window timed
  simp only [Timed.after, cleaned]
  have split := window.records_eq span
  have left : (unexpired span s).Sublist s.history.records := List.filter_sublist
  obtain ⟨dropped, le, ids⟩ := window.ids
  constructor
  · exact window.ttl_eq
  · exact window.limit_eq
  · exact window.nextId_eq
  · have rest : unexpired span s = s.history.records.drop (expired span s).length := by
      rw [split, List.drop_left]
    have few := congrArg List.length ids
    rw [split, List.map_append, List.length_append, List.length_map, List.length_map, idsAfter,
      List.length_range'] at few
    refine ⟨dropped + (expired span s).length, by omega, ?_⟩
    rw [rest, List.map_drop, ids, idsAfter, List.drop_range', idsAfter]
    congr 1 <;> omega
  · exact Nat.le_trans left.length_le window.length_le
  · exact window.ordered.sublist left
  · exact fun record member => window.past record (left.subset member)

theorem IsWindow.cleanUp {s : Timed} (window : IsWindow s ttl limit latest) :
    IsWindow (s.after .cleanUp) ttl limit latest := by
  cases number : ttl.number? with
  | some span => exact window.cleanUp_timed number
  | none =>
    rw [after_cleanUp_untimed (by rw [window.ttl_eq, number])]
    exact window

/-! ## Runs -/

theorem IsWindow.clear {s : Timed} (window : IsWindow s ttl limit latest) :
    IsWindow (s.after .clear) ttl limit latest where
  ttl_eq := window.ttl_eq
  limit_eq := window.limit_eq
  nextId_eq := window.nextId_eq
  ids := ⟨latest, Nat.le_refl _, by simp [Timed.after, History.clear, idsAfter]⟩
  length_le := Nat.zero_le _
  ordered := .nil
  past := by simp [Timed.after, History.clear]

theorem IsWindow.advance {s : Timed} (window : IsWindow s ttl limit latest) (microseconds : Nat) :
    IsWindow (s.after (.advance microseconds)) ttl limit latest where
  ttl_eq := window.ttl_eq
  limit_eq := window.limit_eq
  nextId_eq := window.nextId_eq
  ids := window.ids
  length_le := window.length_le
  ordered := window.ordered
  past record member := by
    have before := window.past record member
    simp only [Timed.after]
    omega

theorem IsWindow.after {s : Timed} (window : IsWindow s ttl limit latest) (event : Event) :
    IsWindow (s.after event) ttl limit (latest + added [event]) := by
  cases event with
  | add operation flow resolution fault => exact window.add operation flow resolution fault
  | cleanUp => exact window.cleanUp
  | clear => exact window.clear
  | advance microseconds => exact window.advance microseconds

theorem IsWindow.afterAll {s : Timed} (window : IsWindow s ttl limit latest)
    (events : List Event) :
    IsWindow (s.afterAll events) ttl limit (latest + added events) := by
  induction events generalizing s latest with
  | nil => exact window
  | cons event rest ih =>
    have counted : latest + added (event :: rest) = latest + added [event] + added rest := by
      simp only [added, List.countP_cons, List.countP_nil]
      omega
    rw [counted]
    exact ih (window.after event)

/-! ## What is seen of a window -/

/-- Without filters all records are listed, the latest first. -/
theorem newestFirst_eq (h : History) : h.newestFirst = h.records.reverse :=
  List.filter_eq_self.mpr fun _ _ => rfl

theorem counts_add (h : History) : h.counts.1 + h.counts.2 = h.records.length := by
  have whole := h.records.length_eq_countP_add_countP HistoryRecord.failed
  simp only [Bool.not_eq_true, Bool.decide_eq_false] at whole
  exact (Nat.add_comm _ _).trans whole.symm

/-- What holds of a history at each point of a run, when this many records were added by then. -/
structure KeepsWindow (s : Timed) (ttl : Datum) (limit : Int) (latest : Nat) : Prop where
  /-- No id is given twice. -/
  next : s.history.nextId = latest + 1
  /-- The records held are the latest ones, at most as many as the limit says. -/
  held : ∃ dropped, dropped ≤ latest ∧ ((latest - dropped : Nat) : Int) ≤ max limit 0 ∧
    s.history.records.map (·.id) = idsAfter dropped latest
  /-- A record is added at the end, and only the oldest ones make room for it. -/
  adds : ∀ operation flow resolution fault, ∃ entry grown,
    s.history.add s.now operation flow resolution fault = (.ok entry, grown) ∧
      entry.id = latest + 1 ∧ grown.records <:+ s.history.records ++ [entry] ∧
      (grown.records.length : Int) = min (max limit 0) (s.history.records.length + 1)
  /-- A clean-up takes away those at the start that are older than the time to live, and tells how
  many they are. -/
  cleans : ∀ span, ttl.number? = some span → ∃ old young, s.history.records = old ++ young ∧
    (∀ record ∈ old, Outlived span s.now record) ∧
    (∀ record ∈ young, ¬ Outlived span s.now record) ∧
    s.history.cleanUp s.now = .ok (old.length, { s.history with records := young })
  /-- Between 2004 and 2038 the clock is right about age to the microsecond. -/
  exactly : ∀ seconds, ttl.number? = some (.whole seconds) → s.now.InEra →
    ∀ record ∈ s.history.records, record.recordedAt.InEra →
      (Outlived (.whole seconds) s.now record ↔
        record.recordedAt.microseconds + seconds * 1000000 < s.now.microseconds)
  /-- No record is cleaned up under a time to live that is no number. -/
  refuses : ttl.number? = none → s.history.records ≠ [] →
    ∃ fault, s.history.cleanUp s.now = .error fault
  /-- A listing shows all records, the latest first. -/
  lists : s.history.newestFirst = s.history.records.reverse
  counts : s.history.counts.1 + s.history.counts.2 = s.history.records.length

theorem IsWindow.keepsWindow {s : Timed} (window : IsWindow s ttl limit latest) :
    KeepsWindow s ttl limit latest where
  next := window.nextId_eq
  held := by
    obtain ⟨dropped, le, ids⟩ := window.ids
    have few := congrArg List.length ids
    rw [List.length_map, idsAfter, List.length_range'] at few
    have bound := window.length_le
    exact ⟨dropped, le, by omega, ids⟩
  adds operation flow resolution fault := by
    have added := add_eq window operation flow resolution fault
    refine ⟨_, _, added, rfl, List.drop_suffix _ _, ?_⟩
    simp only [History.latest, List.length_drop, List.length_append, List.length_singleton]
    omega
  cleans span timed := by
    refine ⟨_, _, window.records_eq span, ?_, ?_, cleanUp_eq window timed⟩
    · intro record member
      simpa using (List.mem_filter.mp member).2
    · intro record member
      simpa using (List.mem_filter.mp member).2
  exactly seconds _ current record _ recorded := outlived_whole_iff current recorded seconds
  refuses untimed := cleanUp_untimed (by rw [window.ttl_eq, untimed]) s.now
  lists := newestFirst_eq s.history
  counts := counts_add s.history

/-- **A history keeps a window of the latest records.** From a fresh history, after any records,
clean-ups and clearings while the clock runs forward, the records held are consecutive ones up to
the latest that was added, at most as many as the limit says, and this is what listings, counts and
further clean-ups go by. -/
theorem keepsWindow_afterAll (ttl : Datum) (limit : Int) (start : Instant) (events : List Event) :
    KeepsWindow ((⟨fresh ttl limit, start⟩ : Timed).afterAll events) ttl limit (added events) := by
  have window := (isWindow_fresh ttl limit start).afterAll events
  rw [Nat.zero_add] at window
  exact window.keepsWindow

/-- A record makes room, a clean-up takes one second's worth, and ids go on after clearing. -/
example :
    let add : Event := .add (.text "resolve") none none none
    let second : Event := .advance 1000000
    let s := (⟨fresh (.int 1) 2, ⟨1200000000000000⟩⟩ : Timed).afterAll
      [add, add, second, add, .advance 1, .cleanUp]
    s.history.records.map (·.id) = [3] ∧
      ((s.afterAll [.clear, add]).history.records.map (·.id) = [4]) := by
  decide +kernel

end Rollout.History

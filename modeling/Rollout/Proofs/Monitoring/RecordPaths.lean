import Rollout.Proofs.Monitoring.ContentTypes
import Rollout.Proofs.Monitoring.PlanPage
import Rollout.Proofs.Text.Numeral

/-!
# The paths of records

A record is asked for by its id, a decimal number that stands as the one segment below the path of
the listing. Any other single segment is no id, and a path with further segments is none of the
history (`ServesRecords`). The pages do not hold to this: they look at the last segment only, and
take raised digits and more digits than a numeral may have for an id, which they then cannot read.
They are right just for paths that are neither (`servesRecords_iff`).
-/

namespace Rollout.Monitoring

open HistoryRoute (below)

/-- The text is a decimal number without a sign. -/
def IsDecimal (segment : List Char) : Prop :=
  segment ≠ [] ∧ ∀ c ∈ segment, c.isDigit = true

instance (segment : List Char) : Decidable (IsDecimal segment) :=
  decidable_of_iff (segment ≠ [] ∧ segment.all Char.isDigit = true) (by simp [IsDecimal])

/-- The answer to a request for the record with the id. -/
def recordAnswer (h : History) (id : Int) : Page :=
  match h.find? id with
  | some record => .history 200 record.toDatum
  | none => .historyRefusal .notFound s!"Resolution not found: {id}"

/-! ## Segments -/

variable {h : History} {segment : List Char}

theorem IsDecimal.all_isIdChar (decimal : IsDecimal segment) : segment.all isIdChar = true :=
  List.all_eq_true.mpr fun c member => by simp [isIdChar, decimal.2 c member]

/-- What passes for an id is read, and the record with that id is the answer. -/
theorem recordPage_of_idChars (filled : segment ≠ []) (chars : segment.all isIdChar = true) :
    recordPage h segment =
      (Datum.text (String.ofList segment)).toInteger.map (recordAnswer h) := by
  have fits : (segment.isEmpty || !segment.all isIdChar) = false := by simp [filled, chars]
  simp only [recordPage, fits]
  cases (Datum.text (String.ofList segment)).toInteger with
  | error fault => rfl
  | ok id =>
    show (match h.find? id with
      | some record => Except.ok _
      | none => Except.ok _) = Except.ok (recordAnswer h id)
    rw [recordAnswer]
    cases h.find? id <;> rfl

theorem toInteger_ofList (segment : List Char) {n : Int}
    (read : Text.readInteger segment = .ok n) :
    (Datum.text (String.ofList segment)).toInteger = .ok n := by
  rw [Datum.toInteger, String.toList_ofList, read]

theorem toInteger_ofList_error {flaw : Text.NumeralFlaw}
    (unread : Text.readInteger segment = .error flaw) :
    ∃ fault, (Datum.text (String.ofList segment)).toInteger = .error fault := by
  rw [Datum.toInteger, String.toList_ofList, unread]
  cases flaw with
  | malformed => exact ⟨_, rfl⟩
  | tooLong digits => exact ⟨_, rfl⟩

theorem recordPage_decimal (decimal : IsDecimal segment)
    (short : segment.length ≤ Text.maxNumeralDigits) :
    recordPage h segment = .ok (recordAnswer h (Nat.ofDigitChars 10 segment 0)) := by
  have read : Text.readInteger segment = .ok (Nat.ofDigitChars 10 segment 0) := by
    rw [Text.readInteger_digits decimal.2 decimal.1, if_neg (by omega)]
  rw [recordPage_of_idChars decimal.1 decimal.all_isIdChar, toInteger_ofList segment read]
  rfl

theorem recordPage_refused (unfit : (segment.isEmpty || !segment.all isIdChar) = true) :
    recordPage h segment = .ok (.historyRefusal .badRequest
      s!"Invalid record id: {String.ofList segment}") := by
  simp only [recordPage, unfit]
  rfl

theorem numeralChar_raised {c : Char} (idChar : isIdChar c = true) (noDigit : c.isDigit = false) :
    Text.numeralChar c = '?' := by
  have raised : c = '²' ∨ c = '³' ∨ c = '¹' := by simpa [isIdChar, noDigit] using idChar
  rcases raised with rfl | rfl | rfl <;> decide +kernel

/-- Raised digits and too many digits are let through, and cannot be read. -/
theorem recordPage_unread (filled : segment ≠ []) (chars : segment.all isIdChar = true)
    (unfit : ¬ (IsDecimal segment ∧ segment.length ≤ Text.maxNumeralDigits)) :
    ∃ fault, recordPage h segment = .error fault := by
  suffices unread : ∃ flaw, Text.readInteger segment = .error flaw by
    obtain ⟨flaw, unread⟩ := unread
    obtain ⟨fault, failed⟩ := toInteger_ofList_error unread
    refine ⟨fault, ?_⟩
    rw [recordPage_of_idChars filled chars, failed]
    rfl
  cases found : segment.find? (!·.isDigit) with
  | none =>
    have digits : ∀ c ∈ segment, c.isDigit = true := by simpa using found
    have long : Text.maxNumeralDigits < segment.length :=
      Nat.lt_of_not_le fun short => unfit ⟨⟨filled, digits⟩, short⟩
    exact ⟨_, (Text.readInteger_digits digits filled).trans (if_pos long)⟩
  | some c =>
    -- the digits before the first raised one are read, and then that one is met
    obtain ⟨raised, before, after, rfl, earlier⟩ := List.find?_eq_some_iff_append.mp found
    have idChar : isIdChar c = true := List.all_eq_true.mp chars c (by simp)
    exact Text.readInteger_flawed (by simpa using earlier)
      (numeralChar_raised idChar (by simpa using raised)) after

/-! ## Which pages are records -/

/-- The page says what a record holds, or that there is none. -/
def Page.IsOfRecord (page : Page) : Prop :=
  page.IsOfHistory ∧ (page.status = 404 ∨
    ∃ id fields, page.document = some (.record (("record_id", id) :: fields)))

theorem isOfRecord_recordAnswer (h : History) (id : Int) : (recordAnswer h id).IsOfRecord := by
  rw [recordAnswer]
  cases h.find? id with
  | some found => exact ⟨rfl, .inr ⟨_, _, rfl⟩⟩
  | none => exact ⟨rfl, .inl rfl⟩

theorem isOfHistory_recordPage {page : Page} (shown : recordPage h segment = .ok page) :
    page.IsOfHistory := by
  cases fits : segment.isEmpty || !segment.all isIdChar with
  | true =>
    rw [recordPage_refused fits] at shown
    obtain rfl := Except.ok.inj shown
    rfl
  | false =>
    obtain ⟨filled, chars⟩ : segment ≠ [] ∧ segment.all isIdChar = true := by simpa using fits
    rw [recordPage_of_idChars filled chars] at shown
    obtain ⟨id, -, rfl⟩ := Fallible.map_eq_ok_iff.mp shown
    exact (isOfRecord_recordAnswer h id).1

theorem status_historyRefusal (refusal : Page.Refusal) (message : String) :
    (Page.historyRefusal refusal message).status = refusal.status := rfl

theorem status_recordAnswer (h : History) (id : Int) : (recordAnswer h id).status ≠ 500 := by
  rw [recordAnswer]
  cases h.find? id <;> simp [Page.history, Page.historyRefusal, Page.Refusal.status]

theorem not_isOfRecord_history {status : Nat} {document : Datum} (found : status ≠ 404)
    (other : ∀ id fields, document ≠ .record (("record_id", id) :: fields)) :
    ¬ (Page.history status document).IsOfRecord := by
  rintro ⟨-, missing | ⟨id, fields, shown⟩⟩
  · exact found missing
  · exact other id fields (Option.some.inj shown)

theorem not_isOfRecord_historyRefusal {refusal : Page.Refusal} (message : String)
    (found : refusal.status ≠ 404) : ¬ (Page.historyRefusal refusal message).IsOfRecord :=
  not_isOfRecord_history found (by simp [Page.Refusal.document])

theorem not_isOfRecord_listingPage (h : History) (query : List Char) :
    ¬ (listingPage h query).IsOfRecord := by
  rw [listingPage]
  split
  · exact not_isOfRecord_historyRefusal _ (by decide)
  · exact not_isOfRecord_history (by decide) (by simp)

theorem not_isOfRecord_statusPage (service : ServiceInfo) (health : CatalogHealth) (h : History) :
    ¬ (statusPage service health h).IsOfRecord :=
  not_isOfRecord_history (by decide) (by simp)

variable (s : Station) (r : Resolver) (now : Instant) (query : List Char)

theorem not_isOfRecord_status :
    ¬ (s.answerHistory r now query .status).1.1.IsOfRecord := by
  rw [Station.answerHistory]
  split
  · exact not_isOfRecord_historyRefusal _ (by decide)
  · have failed : ∀ fault, ¬ (faultPage fault).IsOfRecord := fun fault is_record =>
      not_isOfHistory_faultPage fault is_record.1
    exact @Station.lookupPage_of_gives (¬ ·.IsOfRecord) _
      (Lookup.gives_bind fun health => Lookup.gives_pure (not_isOfRecord_statusPage _ health _))
      failed

/-! ## Which paths are those of records -/

variable {s r now} {target : Target} {rest : List Char}

/-- What the answer to a request for a record, or for what looks like one, should be. -/
structure ServesRecords (s : Station) (r : Resolver) (now : Instant) (target : Target) : Prop where
  /-- A record, or that there is none, is shown for single decimal segments and for no other
  path. -/
  record_iff : (∃ id, (s.answerTarget r now target).1.1 = recordAnswer s.history id) ↔
    ∃ segment, Target.dropLastSlashes target.path = below segment ∧ IsDecimal segment
  record : ∀ segment, Target.dropLastSlashes target.path = below segment → IsDecimal segment →
    (s.answerTarget r now target).1.1 =
      recordAnswer s.history (Nat.ofDigitChars 10 segment 0)
  refused : ∀ segment, Target.dropLastSlashes target.path = below segment → '/' ∉ segment →
    ¬ IsDecimal segment → (s.answerTarget r now target).1.1.status = 400
  delegated : ∀ rest, Target.dropLastSlashes target.path = below rest → '/' ∈ rest →
    s.answerTarget r now target = s.delegate r now target
  sound : ∀ rest, Target.dropLastSlashes target.path = below rest →
    (s.answerTarget r now target).1.1.status ≠ 500

theorem answerTarget_below (lies : Target.dropLastSlashes target.path = below rest) :
    s.answerTarget r now target =
      s.answerHistory r now target.query (.record (Text.afterLast '/' rest)) :=
  Station.answerTarget_of_some (HistoryRoute.ofPath?_below lies)

theorem answerTarget_single (lies : Target.dropLastSlashes target.path = below rest)
    (single : '/' ∉ rest) :
    s.answerTarget r now target = s.answerHistory r now target.query (.record rest) := by
  rw [answerTarget_below lies, Text.afterLast_absent single]

theorem answerHistory_record_ok {segment : List Char} {page : Page}
    (shown : recordPage s.history segment = .ok page) :
    (s.answerHistory r now query (.record segment)).1.1 = page := by
  rw [Station.answerHistory, shown]

theorem answerHistory_record_error {segment : List Char} {fault : Fault}
    (failed : recordPage s.history segment = .error fault) :
    (s.answerHistory r now query (.record segment)).1.1 = (Station.errorPage fault).1 := by
  rw [Station.answerHistory, failed]

theorem isOfHistory_record (segment : List Char) :
    (s.answerHistory r now query (.record segment)).1.1.IsOfHistory := by
  cases given : recordPage s.history segment with
  | error fault =>
    rw [answerHistory_record_error query given]
    rfl
  | ok page =>
    rw [answerHistory_record_ok query given]
    exact isOfHistory_recordPage given

/-- Only what lies below the listing is answered with a record. -/
theorem exists_below_of_isOfRecord (is_record : (s.answerTarget r now target).1.1.IsOfRecord) :
    ∃ rest, Target.dropLastSlashes target.path = below rest := by
  cases named : HistoryRoute.ofPath? target.path with
  | none =>
    rw [Station.answerTarget_of_none named] at is_record
    exact absurd is_record.1 (not_isOfHistory_delegate r s now target)
  | some route =>
    rw [Station.answerTarget_of_some named] at is_record
    cases route with
    | status => exact absurd is_record (not_isOfRecord_status s r now target.query)
    | listing => exact absurd is_record (not_isOfRecord_listingPage s.history target.query)
    | record segment =>
      obtain ⟨rest, lies, -⟩ := HistoryRoute.path_of_ofPath? named
      exact ⟨rest, lies⟩

/-- Below the listing, the server is right about single segments only, and not about those that look
like an id and cannot be read. -/
theorem shape_of_servesRecords (serves : ServesRecords s r now target)
    (lies : Target.dropLastSlashes target.path = below rest) :
    '/' ∉ rest ∧ (rest.all isIdChar = true →
      IsDecimal rest ∧ rest.length ≤ Text.maxNumeralDigits) := by
  have single : '/' ∉ rest := by
    intro nested
    have of_history : (s.answerTarget r now target).1.1.IsOfHistory := by
      rw [answerTarget_below lies]
      exact isOfHistory_record target.query _
    rw [serves.delegated rest lies nested] at of_history
    exact not_isOfHistory_delegate r s now target of_history
  refine ⟨single, fun chars => Decidable.byContradiction fun unfit => ?_⟩
  obtain ⟨fault, failed⟩ := recordPage_unread (HistoryRoute.below_filled lies) chars unfit
  refine serves.sound rest lies ?_
  rw [answerTarget_single lies single, answerHistory_record_error target.query failed]
  rfl

theorem servesRecords_of_shape
    (shape : ∀ rest, Target.dropLastSlashes target.path = below rest →
      '/' ∉ rest ∧ (rest.all isIdChar = true →
        IsDecimal rest ∧ rest.length ≤ Text.maxNumeralDigits)) :
    ServesRecords s r now target := by
  have shown : ∀ segment, Target.dropLastSlashes target.path = below segment → IsDecimal segment →
      (s.answerTarget r now target).1.1 =
        recordAnswer s.history (Nat.ofDigitChars 10 segment 0) := by
    intro segment lies decimal
    obtain ⟨single, readable⟩ := shape segment lies
    rw [answerTarget_single lies single]
    exact answerHistory_record_ok target.query
      (recordPage_decimal decimal (readable decimal.all_isIdChar).2)
  have refused : ∀ segment, Target.dropLastSlashes target.path = below segment →
      ¬ IsDecimal segment → (s.answerTarget r now target).1.1 =
        .historyRefusal .badRequest s!"Invalid record id: {String.ofList segment}" := by
    intro segment lies noDecimal
    obtain ⟨single, readable⟩ := shape segment lies
    have unfit : segment.all isIdChar = false :=
      Bool.eq_false_iff.mpr fun chars => noDecimal (readable chars).1
    rw [answerTarget_single lies single]
    exact answerHistory_record_ok target.query (recordPage_refused (by simp [unfit]))
  refine ⟨⟨?_, fun ⟨segment, lies, decimal⟩ => ⟨_, shown segment lies decimal⟩⟩, shown, ?_, ?_, ?_⟩
  · rintro ⟨id, is_answer⟩
    have is_record : (s.answerTarget r now target).1.1.IsOfRecord :=
      is_answer ▸ isOfRecord_recordAnswer s.history id
    obtain ⟨rest, lies⟩ := exists_below_of_isOfRecord is_record
    refine ⟨rest, lies, Decidable.byContradiction fun noDecimal => ?_⟩
    rw [refused rest lies noDecimal] at is_record
    exact not_isOfRecord_historyRefusal _ (by decide) is_record
  · intro segment lies _ noDecimal
    rw [refused segment lies noDecimal]
    rfl
  · intro rest lies nested
    exact absurd nested (shape rest lies).1
  · intro rest lies
    by_cases decimal : IsDecimal rest
    · rw [shown rest lies decimal]
      exact status_recordAnswer _ _
    · rw [refused rest lies decimal]
      exact fun same => absurd (status_historyRefusal _ _ ▸ same) (by decide)

/-- **Which requests for records are answered rightly.** The server is right about a path just when
it is not below the listing, or is a single segment there that is no id by its characters or is a
decimal number that is not too long. -/
theorem servesRecords_iff (s : Station) (r : Resolver) (now : Instant) (target : Target) :
    ServesRecords s r now target ↔
      ∀ rest, Target.dropLastSlashes target.path = below rest →
        '/' ∉ rest ∧ (rest.all isIdChar = true →
          IsDecimal rest ∧ rest.length ≤ Text.maxNumeralDigits) :=
  ⟨fun serves _ => shape_of_servesRecords serves, servesRecords_of_shape⟩

/-- A path below an id is answered with the record of its last segment, and a raised digit ends in
an error of the server. -/
theorem not_servesRecords :
    ¬ ServesRecords pilotStation ⟨pilotSources, .null⟩ ⟨0⟩ ⟨below "etl/1".toList, []⟩ ∧
    ¬ ServesRecords pilotStation ⟨pilotSources, .null⟩ ⟨0⟩ ⟨below ['²'], []⟩ := by
  constructor
  · intro serves
    have lies : Target.dropLastSlashes (below "etl/1".toList) = below "etl/1".toList := by
      decide +kernel
    exact (shape_of_servesRecords serves lies).1 (by decide)
  · intro serves
    have lies : Target.dropLastSlashes (below ['²']) = below ['²'] := by decide +kernel
    exact absurd ((shape_of_servesRecords serves lies).2 (by decide)).1 (by decide)

end Rollout.Monitoring

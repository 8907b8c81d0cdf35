import Mathlib.Data.List.TakeWhile
import Rollout.Proofs.Monitoring.PlanPage
import Rollout.Proofs.Monitoring.Routes
import Rollout.Proofs.Resolution.RampupTier
import Rollout.Proofs.Text.Escaped

/-!
# Paths with percent-encoded segments

The segments of a path that are percent-encoded hold none of the characters that give a target its
shape, so the target is the path and nothing else (`ofText_path`). The path names a catalog page by
its segments as they stand, and the server answers with that page (`answer_path`).
-/

namespace Rollout.Monitoring

open Text

/-- A character of a path whose segments are percent-encoded. -/
def IsPathChar (c : Char) : Prop :=
  isUnreserved c = true ∨ c = '%' ∨ c = '/'

theorem IsPathChar.bounds {c : Char} (plain : IsPathChar c) : 0x20 < c.toNat ∧ c.toNat < 0x7F := by
  rcases plain with unreserved | rfl | rfl
  · exact toNat_lt_of_unreserved unreserved
  · decide
  · decide

theorem spansHold_blank : ∀ n < 0x7F, 0x20 < n → spansHold blankSpans n = false := by
  decide

theorem IsPathChar.not_blank {c : Char} (plain : IsPathChar c) : isBlank c = false :=
  spansHold_blank c.toNat plain.bounds.2 plain.bounds.1

/-- None of the characters that give a target its shape is one of a path. -/
theorem IsPathChar.not_mark {c : Char} (plain : IsPathChar c) : c ∉ [':', '#', '?', ';'] := by
  intro mark
  simp only [List.mem_cons, List.not_mem_nil, or_false] at mark
  unfold IsPathChar at plain
  rcases mark with rfl | rfl | rfl | rfl <;> revert plain <;> decide

/-! ## Targets -/

section Targets

variable {first : Char} {rest s : List Char} {mark : Char}

theorem dropWhile_absent (absent : mark ∉ s) : s.dropWhile (· ≠ mark) = [] := by
  rw [List.dropWhile_eq_nil_iff]
  intro c member
  simpa using fun same : c = mark => absent (same ▸ member)

theorem splitFirst_absent (absent : mark ∉ s) : splitFirst mark s = (s, []) := by
  rw [splitFirst, takeWhile_absent absent, dropWhile_absent absent]
  rfl

theorem dropParameters_absent (absent : ';' ∉ s) : Target.dropParameters s = s := by
  have suffix : (s.reverse.takeWhile (· ≠ '/')).reverse <:+ s := by
    rw [← List.reverse_prefix, List.reverse_reverse]
    exact List.takeWhile_prefix _
  have absent' : ';' ∉ (s.reverse.takeWhile (· ≠ '/')).reverse :=
    fun member => absent (suffix.subset member)
  unfold Target.dropParameters
  dsimp only
  rw [takeWhile_absent absent']
  exact (List.suffix_iff_eq_append.mp suffix)

/-- A path of plain characters is a target of its own. -/
theorem ofText_path (noHost : first ≠ '/') (plain : ∀ c ∈ '/' :: first :: rest, IsPathChar c) :
    Target.ofText ('/' :: first :: rest) = .ok { path := '/' :: first :: rest, query := [] } := by
  have absent : ∀ mark ∈ [':', '#', '?', ';'], mark ∉ '/' :: first :: rest :=
    fun mark isMark member => (plain mark member).not_mark isMark
  have joined : Target.joinSlashes ('/' :: first :: rest) = '/' :: first :: rest := by
    unfold Target.joinSlashes
    split
    · rename_i same
      simp only [List.cons.injEq, true_and] at same
      exact absurd same.1 noHost
    · rfl
  have visible : ('/' :: first :: rest).dropWhile (· ≤ ' ') = '/' :: first :: rest := by
    rw [List.dropWhile_cons_of_neg (by decide)]
  have scheme : Target.splitScheme ('/' :: first :: rest) = ([], '/' :: first :: rest) := by
    unfold Target.splitScheme
    rw [dropWhile_absent (absent ':' (by decide))]
  have host : Target.dropHost ('/' :: first :: rest) = .ok ('/' :: first :: rest) := by
    unfold Target.dropHost
    split
    · rename_i same
      simp only [List.cons.injEq, true_and] at same
      exact absurd same.1 noHost
    · rfl
  unfold Target.ofText
  rw [joined]
  dsimp only
  rw [visible, scheme]
  dsimp only
  rw [host]
  show Except.ok _ = _
  rw [splitFirst_absent (absent '#' (by decide))]
  dsimp only
  rw [splitFirst_absent (absent '?' (by decide))]
  dsimp only
  rw [dropParameters_absent (absent ';' (by decide)), ite_self]

theorem trim_path (plain : ∀ c ∈ s, IsPathChar c) : trim s = s := by
  apply trim_of_trimmed
  constructor
  · intro c head
    exact (plain c (List.mem_of_mem_head? head)).not_blank
  · intro c last
    exact (plain c (List.mem_of_mem_getLast? last)).not_blank

/-! ## Paths -/

theorem decodeUtf8Lossy_path (plain : ∀ c ∈ s, IsPathChar c) :
    decodeUtf8Lossy (Target.bytesOf s) = s := by
  have bytes : encodeUtf8 s = Target.bytesOf s :=
    encodeUtf8_ascii fun c member => Nat.lt_succ_of_lt (plain c member).bounds.2
  rw [← bytes]
  exact decodeUtf8With_encodeUtf8 _ s

theorem pathChars_path (noHost : first ≠ '/') (plain : ∀ c ∈ '/' :: first :: rest, IsPathChar c) :
    CatalogRoute.pathChars ('/' :: first :: rest) = '/' :: first :: rest := by
  unfold CatalogRoute.pathChars
  rw [decodeUtf8Lossy_path plain]
  simp [noHost]

end Targets

/-! ## Segments -/

/-- A segment of a path that is percent-encoded. -/
structure IsSegment (segment : String) : Prop where
  filled : segment ≠ ""
  plain : ∀ c ∈ segment.toList, isUnreserved c = true ∨ c = '%'

/-- Unreserved characters stand for themselves in a segment. -/
theorem IsSegment.of_unreserved {segment : String} (filled : segment ≠ "")
    (plain : segment.toList.all isUnreserved) : IsSegment segment where
  filled := filled
  plain := fun c member => .inl (List.all_eq_true.mp plain c member)

theorem IsSegment.single {segment : String} (is_segment : IsSegment segment) :
    '/' ∉ segment.toList := by
  intro member
  have plain := is_segment.plain '/' member
  revert plain
  decide

/-- The segment that stands for a name. -/
def encodedSegment (name : String) : String :=
  String.ofList (percentEncode name.toList)

theorem encodedSegment_of_unreserved {name : String} (plain : name.toList.all isUnreserved) :
    encodedSegment name = name := by
  rw [encodedSegment, percentEncode_of_unreserved plain, String.ofList_toList]

theorem isSegment_encoded {name : String} (filled : name ≠ "") :
    IsSegment (encodedSegment name) where
  filled := by
    intro empty
    have chars : percentEncode name.toList = [] := by
      simpa [encodedSegment] using congrArg String.toList empty
    exact percentEncode_ne_nil (by simpa using filled) chars
  plain := by
    intro c member
    rw [encodedSegment, String.toList_ofList] at member
    exact unreserved_of_mem_percentEncode member

theorem isPathChar_of_mem_pathOf {segments : List String}
    (each : ∀ segment ∈ segments, IsSegment segment) : ∀ c ∈ pathOf segments, IsPathChar c := by
  intro c member
  obtain ⟨segment, among, inside⟩ := List.mem_flatMap.mp member
  rcases List.mem_cons.mp inside with slash | later
  · exact .inr (.inr slash)
  · rcases (each segment among).plain c later with unreserved | sign
    · exact .inl unreserved
    · exact .inr (.inl sign)

/-- The path of the page for a version. -/
def versionPath (name label : String) : List Char :=
  pathOf ["api", "v1", "image-versions", name, label]

theorem ofPath?_versionPath {name label : String} (named : name ≠ "") (labelled : label ≠ "")
    (single : '/' ∉ name.toList) (single' : '/' ∉ label.toList) :
    CatalogRoute.ofPath? (versionPath name label) = some (.version name label) := by
  have each : ∀ segment ∈ ["api", "v1", "image-versions", name, label], '/' ∉ segment.toList := by
    simp only [List.forall_mem_cons]
    exact ⟨by decide, by decide, by decide, single, single', nofun⟩
  have segments := splitAll_pathOf List.not_mem_nil each
  rw [List.nil_append] at segments
  rw [CatalogRoute.ofPath?, versionPath, segments]
  simp only [List.map_cons, List.map_nil, String.ofList_toList]
  exact if_neg (by simp [named, labelled])

/-- A path that starts by its bytes like one about images is none of the history. -/
theorem history_imagePath {path : List Char}
    (starts : Target.bytesOf "/api/v1/image".toList <+: Target.bytesOf path) :
    HistoryRoute.ofPath? path = none := by
  cases named : HistoryRoute.ofPath? path with
  | none => rfl
  | some route =>
    rcases HistoryRoute.prefix_of_ofPath? named with ⟨rest, rfl⟩ | ⟨rest, rfl⟩
    · simp [Target.bytesOf] at starts
    · simp [Target.bytesOf, HistoryRoute.listingPath] at starts

theorem history_versionPath {name label : String} :
    HistoryRoute.ofPath? (versionPath name label) = none :=
  history_imagePath ⟨Target.bytesOf ("-versions".toList ++ pathOf [name, label]), rfl⟩

theorem history_planPath {name : String} : HistoryRoute.ofPath? (planPath name) = none :=
  history_imagePath ⟨Target.bytesOf ("-types".toList ++ pathOf [name, "rampup"]), rfl⟩

/-! ## Answers -/

variable {r : Resolver}

/-- The answer to a request for a path whose segments are percent-encoded. -/
theorem answer_path (station : Station) (now : Instant) {first : String} {segments : List String}
    (each : ∀ segment ∈ first :: segments, IsSegment segment) {route : CatalogRoute}
    (noHistory : HistoryRoute.ofPath? (pathOf (first :: segments)) = none)
    (names : CatalogRoute.ofPath? (pathOf (first :: segments)) = some route) :
    station.answer r now (pathOf (first :: segments)) = station.answerCatalog r now [] route := by
  have plain := isPathChar_of_mem_pathOf each
  have noBlank : (pathOf (first :: segments)).any isBlank = false := by
    rw [List.any_eq_false]
    intro c member
    simp [(plain c member).not_blank]
  obtain ⟨c, rest, path, noSlash⟩ :
      ∃ c rest, pathOf (first :: segments) = '/' :: c :: rest ∧ c ≠ '/' := by
    have start := each first List.mem_cons_self
    cases chars : first.toList with
    | nil => exact absurd chars (by simpa using start.filled)
    | cons c more =>
      refine ⟨c, more ++ pathOf segments, by simp [pathOf, chars], ?_⟩
      intro slash
      exact start.single (by simp [chars, slash])
  rw [Station.answer, trim_path plain, noBlank]
  rw [path] at plain noHistory names ⊢
  rw [ofText_path noSlash plain]
  show station.answerTarget r now _ = _
  rw [Station.answerTarget, noHistory]
  dsimp only
  rw [pathChars_path noSlash plain, names]

end Rollout.Monitoring

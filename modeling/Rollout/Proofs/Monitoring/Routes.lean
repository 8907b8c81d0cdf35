import Mathlib.Data.List.TakeWhile
import Rollout.Monitoring.Server

/-!
# Routes of the history pages

Which page of the history a path names. The slashes at its end do not count; without them it is the
path of the status, that of the listing, or one **below** the listing, and a path of any other kind
names none (`ofPath?_eq_none_iff`). Whatever lies below the listing names the record of its last
segment, however deep it lies (`ofPath?_below`). A path that names no page of the history goes to
the catalog pages (`answerTarget_of_none`).
-/

namespace Rollout

/-! ## Slashes -/

theorem Text.takeWhile_append_stop (c : Char) (s rest : List Char) :
    (s ++ c :: rest).takeWhile (· ≠ c) = s.takeWhile (· ≠ c) := by
  induction s with
  | nil => simp
  | cons d others ih =>
    by_cases same : d = c
    · rw [List.cons_append, List.takeWhile_cons_of_neg (by simpa using same),
        List.takeWhile_cons_of_neg (by simpa using same)]
    · rw [List.cons_append, List.takeWhile_cons_of_pos (by simpa using same),
        List.takeWhile_cons_of_pos (by simpa using same), ih]

/-- What stands before the last place of the character has no part in what follows it. -/
theorem Text.afterLast_append (c : Char) (s rest : List Char) :
    afterLast c (s ++ c :: rest) = afterLast c rest := by
  have turned : (s ++ c :: rest).reverse = rest.reverse ++ c :: s.reverse := by simp
  rw [afterLast, turned, takeWhile_append_stop, afterLast]

theorem Text.takeWhile_absent {c : Char} {s : List Char} (absent : c ∉ s) :
    s.takeWhile (· ≠ c) = s := by
  rw [List.takeWhile_eq_self_iff]
  intro d member
  simpa using fun same : d = c => absent (same ▸ member)

theorem Text.afterLast_absent {c : Char} {s : List Char} (absent : c ∉ s) : afterLast c s = s := by
  rw [afterLast, takeWhile_absent (by simpa using absent), List.reverse_reverse]

namespace Monitoring

theorem Target.dropLastSlashes_prefix (path : List Char) : dropLastSlashes path <+: path := by
  rw [dropLastSlashes, ← List.reverse_suffix, List.reverse_reverse]
  exact List.dropWhile_suffix _

theorem Target.getLast?_dropLastSlashes (path : List Char) :
    (dropLastSlashes path).getLast? ≠ some '/' := by
  rw [dropLastSlashes, List.getLast?_reverse]
  intro slash
  have stops := List.head?_dropWhile_not (· == '/') path.reverse
  rw [slash] at stops
  cases stops

namespace HistoryRoute

/-! ## Paths -/

/-- The path of what lies below the listing. -/
def below (rest : List Char) : List Char :=
  listingPath.toList ++ '/' :: rest

theorem below_ne_status (rest : List Char) : below rest ≠ "/api/v1/status".toList := by
  simp [below, listingPath]

theorem below_ne_listing (rest : List Char) : below rest ≠ listingPath.toList := by
  simp [below]

theorem eq_below_iff {path : List Char} :
    (listingPath.toList ++ ['/']).isPrefixOf path = true ↔ ∃ rest, path = below rest := by
  rw [List.isPrefixOf_iff_prefix]
  constructor
  · rintro ⟨rest, rfl⟩
    exact ⟨rest, by simp [below]⟩
  · rintro ⟨rest, rfl⟩
    exact ⟨rest, by simp [below]⟩

variable {path rest : List Char}

theorem dropLastSlashes_below (filled : rest ≠ []) (single : '/' ∉ rest) :
    Target.dropLastSlashes (below rest) = below rest := by
  obtain ⟨last, before, reversed⟩ := List.exists_cons_of_ne_nil (List.reverse_ne_nil_iff.mpr filled)
  have member : last ∈ rest := by
    rw [← List.mem_reverse, reversed]
    exact List.mem_cons_self
  have noSlash : last ≠ '/' := fun slash => single (slash ▸ member)
  have turned : (below rest).reverse = last :: (before ++ '/' :: listingPath.toList.reverse) := by
    simp [below, reversed]
  rw [Target.dropLastSlashes, turned, List.dropWhile_cons_of_neg (by simpa using noSlash), ← turned,
    List.reverse_reverse]

/-- A path below the listing names the record of its last segment. -/
theorem ofPath?_below (lies : Target.dropLastSlashes path = below rest) :
    ofPath? path = some (.record (Text.afterLast '/' rest)) := by
  have segment : Text.afterLast '/' (below rest) = Text.afterLast '/' rest :=
    Text.afterLast_append '/' _ rest
  rw [← segment, ofPath?, lies, if_neg (below_ne_status rest), if_neg (below_ne_listing rest),
    if_pos (eq_below_iff.mpr ⟨rest, rfl⟩), Text.afterLast]

theorem ofPath?_listing (lies : Target.dropLastSlashes path = listingPath.toList) :
    ofPath? path = some .listing := by
  rw [ofPath?, lies, if_neg (by simp [listingPath]), if_pos rfl]

theorem ofPath?_status (lies : Target.dropLastSlashes path = "/api/v1/status".toList) :
    ofPath? path = some .status := by
  rw [ofPath?, lies]
  exact if_pos rfl

/-- Only the status, the listing and what lies below it are pages of the history. -/
theorem ofPath?_eq_none_iff :
    ofPath? path = none ↔ Target.dropLastSlashes path ≠ "/api/v1/status".toList ∧
      Target.dropLastSlashes path ≠ listingPath.toList ∧
      ∀ rest, Target.dropLastSlashes path ≠ below rest := by
  constructor
  · intro unnamed
    refine ⟨fun lies => ?_, fun lies => ?_, fun rest lies => ?_⟩
    · exact nomatch unnamed.symm.trans (ofPath?_status lies)
    · exact nomatch unnamed.symm.trans (ofPath?_listing lies)
    · exact nomatch unnamed.symm.trans (ofPath?_below lies)
  · rintro ⟨noStatus, noListing, notBelow⟩
    rw [ofPath?, if_neg noStatus, if_neg noListing, if_neg]
    intro isPrefix
    obtain ⟨rest, lies⟩ := eq_below_iff.mp isPrefix
    exact notBelow rest lies

theorem below_filled (lies : Target.dropLastSlashes path = below rest) : rest ≠ [] := by
  rintro rfl
  refine Target.getLast?_dropLastSlashes path ?_
  rw [lies, below, List.getLast?_concat]

/-- The path of a page of the history, by the page. -/
theorem path_of_ofPath? {route : HistoryRoute} (named : ofPath? path = some route) :
    match route with
    | .status => Target.dropLastSlashes path = "/api/v1/status".toList
    | .listing => Target.dropLastSlashes path = listingPath.toList
    | .record segment => ∃ rest, Target.dropLastSlashes path = below rest ∧
        segment = Text.afterLast '/' rest := by
  have routed : ∀ {other}, ofPath? path = some other → other = route := fun other_named =>
    Option.some.inj (other_named.symm.trans named)
  by_cases isStatus : Target.dropLastSlashes path = "/api/v1/status".toList
  · obtain rfl := routed (ofPath?_status isStatus)
    exact isStatus
  by_cases isListing : Target.dropLastSlashes path = listingPath.toList
  · obtain rfl := routed (ofPath?_listing isListing)
    exact isListing
  by_cases isBelow : ∃ rest, Target.dropLastSlashes path = below rest
  · obtain ⟨rest, lies⟩ := isBelow
    obtain rfl := routed (ofPath?_below lies)
    exact ⟨rest, lies, rfl⟩
  · have unnamed := ofPath?_eq_none_iff.mpr
      ⟨isStatus, isListing, fun rest lies => isBelow ⟨rest, lies⟩⟩
    exact nomatch unnamed.symm.trans named

/-- A page of the history has a path that starts like that of the status or of the listing. -/
theorem prefix_of_ofPath? {route : HistoryRoute} (named : ofPath? path = some route) :
    "/api/v1/status".toList <+: path ∨ listingPath.toList <+: path := by
  have kept := Target.dropLastSlashes_prefix path
  have lies := path_of_ofPath? named
  cases route with
  | status => exact .inl (lies ▸ kept)
  | listing => exact .inr (lies ▸ kept)
  | record segment =>
    obtain ⟨rest, is_below, -⟩ := lies
    rw [is_below] at kept
    exact .inr ((List.prefix_append _ _).trans kept)

end HistoryRoute

/-! ## Answers -/

namespace Station

variable {s : Station} {r : Resolver} {now : Instant} {target : Target}

/-- The answer of the catalog pages. -/
def delegate (s : Station) (r : Resolver) (now : Instant) (target : Target) :
    (Page × Journal) × Station :=
  match CatalogRoute.ofPath? (CatalogRoute.pathChars target.path) with
  | some route => s.answerCatalog r now target.query route
  | none => ((unknownPage (CatalogRoute.pathChars target.path), {}), s)

theorem answerTarget_of_none (unnamed : HistoryRoute.ofPath? target.path = none) :
    s.answerTarget r now target = s.delegate r now target := by
  rw [answerTarget, unnamed]
  rfl

theorem answerTarget_of_some {route : HistoryRoute}
    (named : HistoryRoute.ofPath? target.path = some route) :
    s.answerTarget r now target = s.answerHistory r now target.query route := by
  rw [answerTarget, named]

end Station

end Monitoring

end Rollout

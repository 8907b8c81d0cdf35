import Rollout.Proofs.Monitoring.EncodedPaths
import Rollout.Proofs.Monitoring.Queries
import Rollout.Proofs.Resolution.ExactVersions

/-!
# The page of one version

The page of a version shows what an exact request for it comes to, with the states that the query
asks for: the version itself, or that it is not found, or that a state is unknown (`Reports`). A
query that is not text is refused like an unknown state. So whatever versions the catalog finds, the
page has one of three statuses, and which one is decided by the candidates and the states
(`exact_accepts`).
-/

namespace Rollout.Monitoring

open Text

/-! ## What the page shows -/

/-- The states that the values of a query ask for. -/
def askedStates (values : List (String × String)) : List Wish :=
  values.filterMap fun (key, value) => if key = "state" then some (.text value) else none

/-- The page for what an exact request came to. -/
def shownPage (name : String) : Except Fault VersionInfo → Page
  | .ok info => .catalog 200 (.record
      [("image_type", .text (normalizeName name)), ("version", info.version),
       ("path", info.path), ("state", .text info.state.name)])
  | .error fault =>
    if fault.isRefusal then .catalogRefusal .badRequest fault.message else faultPage fault

variable {r : Resolver} {name label : String} {query : List Char}
  {values : List (String × String)}

theorem lookupPage_versionPage_eq (read : Target.textValues query = .ok values) :
    (Station.lookupPage (versionPage r name label query)).1 = shownPage name
      (r.exact (.text name) (.text label)
        (.list ((askedStates values).map Wish.toDatum))).start.1 := by
  have states : (values.filterMap fun (key, value) =>
      if key = "state" then some (Datum.text value) else none) =
        (askedStates values).map Wish.toDatum := by
    rw [askedStates, List.map_filterMap]
    refine List.filterMap_congr fun (key, value) _ => ?_
    dsimp only
    split <;> rfl
  have settled : ∀ journal : Journal, Lookup.settle (Target.textValues query, []) journal =
      (.ok values, { journal with notices := journal.notices ++ [] }) := by
    intro journal
    rw [read]
    rfl
  rw [Station.lookupPage, Lookup.start, versionPage, Lookup.orElse,
    Fallible.bind_apply, settled]
  simp only [states, List.append_nil]
  rw [Fallible.bind_apply, Lookup.start]
  rcases r.exact _ _ _ _ with ⟨result, journal⟩
  cases result with
  | ok info => rfl
  | error fault =>
    dsimp only
    rw [shownPage]
    cases fault.isRefusal <;> rfl

/-- A query that is not text is refused. -/
theorem status_versionPage_of_unread {fault : Fault}
    (unread : Target.textValues query = .error fault) :
    (Station.lookupPage (versionPage r name label query)).1.status = 400 := by
  obtain ⟨place, bytes, why, rfl⟩ : ∃ place bytes why, fault = .undecodable place bytes why := by
    rw [Target.textValues] at unread
    split at unread
    · exact ⟨_, _, _, (Except.error.inj unread).symm⟩
    · cases unread
  rw [Station.lookupPage, Lookup.start, versionPage, unread]
  rfl

/-- The page is right for what the exact request came to: a version, no such version, or an unknown
state. -/
structure Reports (name : String) (result : Except Fault VersionInfo) (page : Page) : Prop where
  found : ∀ info, result = .ok info → page = .catalog 200 (.record
    [("image_type", .text (normalizeName name)), ("version", info.version), ("path", info.path),
     ("state", .text info.state.name)])
  notFound : ∀ fault, result = .error fault → fault.kind = "VersionNotFound" →
    page = .catalogRefusal .notFound fault.message
  refused : ∀ fault, result = .error fault → fault.kind = "ValueError" →
    page = .catalogRefusal .badRequest fault.message
  settled : (∃ info, result = .ok info) ∨ Resolver.FailsAs result "VersionNotFound" ∨
    Resolver.FailsAs result "ValueError"

theorem reports_ok (name : String) (info : VersionInfo) :
    Reports name (.ok info) (shownPage name (.ok info)) := by
  refine ⟨?_, nofun, nofun, .inl ⟨info, rfl⟩⟩
  rintro _ ⟨⟩
  rfl

theorem reports_notFound (name : String) (imageType version : Datum) (detail : String) :
    Reports name (.error (.versionNotFound imageType version detail))
      (shownPage name (.error (.versionNotFound imageType version detail))) := by
  refine ⟨nofun, ?_, ?_, .inr (.inl ⟨_, rfl, rfl⟩)⟩
  · rintro _ ⟨⟩ -
    rfl
  · rintro _ ⟨⟩ of_kind
    exact absurd of_kind (by simp [Fault.kind])

theorem reports_unknownState (name text : String) :
    Reports name (.error (.unknownState text)) (shownPage name (.error (.unknownState text))) := by
  refine ⟨nofun, ?_, ?_, .inr (.inr ⟨_, rfl, rfl⟩)⟩
  · rintro _ ⟨⟩ of_kind
    exact absurd of_kind (by simp [Fault.kind])
  · rintro _ ⟨⟩ -
    rfl

/-- A request that is decided by a candidate and by states is reported. -/
theorem reports_judged (name label : String) (wishes : List Wish)
    (candidate : Option ImageVersion) {result : Except Fault VersionInfo}
    (decided : result = Resolver.judged name label
      (Resolver.allowedStates (.list (wishes.map Wish.toDatum))) candidate) :
    Reports name result (shownPage name result) := by
  subst decided
  cases candidate with
  | none => exact reports_notFound name _ _ _
  | some version =>
    rw [Resolver.allowedStates_list, Resolver.judged]
    rcases Wish.mapM_ofDatum wishes with ⟨states, -, read⟩ | ⟨-, text, failed⟩
    · rw [read]
      show Reports name (Resolver.admitted name label version states)
        (shownPage name (Resolver.admitted name label version states))
      rw [Resolver.admitted]
      split
      · exact reports_ok name _
      · exact reports_notFound name _ _ _
    · rw [failed]
      exact reports_unknownState name text

theorem Reports.status {result : Except Fault VersionInfo} {page : Page}
    (reports : Reports name result page) : page.status ∈ [200, 404, 400] := by
  rcases reports.settled with ⟨info, found⟩ | ⟨fault, failed, of_kind⟩ | ⟨fault, failed, of_kind⟩
  · rw [reports.found info found]
    exact List.mem_cons_self
  · rw [reports.notFound fault failed of_kind]
    simp [Page.catalogRefusal, Page.catalog, Page.Refusal.status]
  · rw [reports.refused fault failed of_kind]
    simp [Page.catalogRefusal, Page.catalog, Page.Refusal.status]

/-! ## The path of the page -/

variable {target : Target}

/-- A path whose bytes are those of a version's path is none of the history. -/
theorem history_of_versionBytes
    (spelled : Target.bytesOf target.path = encodeUtf8 (versionPath name label)) :
    HistoryRoute.ofPath? target.path = none := by
  have ascii : Target.bytesOf "/api/v1/image".toList = encodeUtf8 "/api/v1/image".toList :=
    (encodeUtf8_of_all (by decide)).symm
  have parts : versionPath name label =
      "/api/v1/image".toList ++ ("-versions".toList ++ pathOf [name, label]) := by
    rfl
  refine history_imagePath ⟨encodeUtf8 ("-versions".toList ++ pathOf [name, label]), ?_⟩
  rw [spelled, ascii, parts]
  simp [encodeUtf8_eq]

theorem answerTarget_version (s : Station) (now : Instant) (named : name ≠ "")
    (labelled : label ≠ "") (single : '/' ∉ name.toList) (single' : '/' ∉ label.toList)
    (spelled : Target.bytesOf target.path = encodeUtf8 (versionPath name label)) :
    s.answerTarget r now target =
      (Station.lookupPage (versionPage r name label target.query), s) := by
  have decoded : decodeUtf8Lossy (Target.bytesOf target.path) = versionPath name label := by
    rw [spelled]
    exact decodeUtf8With_encodeUtf8 _ _
  have chars : CatalogRoute.pathChars target.path = versionPath name label := by
    rw [CatalogRoute.pathChars, decoded]
    rfl
  rw [Station.answerTarget_of_none (history_of_versionBytes spelled), Station.delegate, chars,
    ofPath?_versionPath named labelled single single']
  rfl

/-! ## Requests -/

/-- The pages for the queries of a version report what exact requests for it come to. -/
structure AnswersExactly (r : Resolver) (name label : String) (page : List Char → Page) : Prop where
  /-- A query may list any texts as states. -/
  listed : ∀ texts : List String, Reports name
    (r.exact (.text name) (.text label) (.list (texts.map .text))).start.1
    (page (queryOf (texts.map fun text => ("state", text))))
  /-- In any other query, the values for `state` count. -/
  read : ∀ query values, Target.textValues query = .ok values → Reports name
    (r.exact (.text name) (.text label) (.list ((askedStates values).map Wish.toDatum))).start.1
    (page query)
  settled : ∀ query, (page query).status ∈ [200, 404, 400]

theorem askedStates_texts (texts : List String) :
    (askedStates (texts.map fun text => ("state", text))).map Wish.toDatum = texts.map .text := by
  induction texts with
  | nil => rfl
  | cons text rest ih =>
    have first : askedStates (("state", text) :: rest.map fun text => ("state", text)) =
        .text text :: askedStates (rest.map fun text => ("state", text)) :=
      List.filterMap_cons_some (if_pos rfl)
    rw [List.map_cons, first, List.map_cons, ih]
    rfl

/-- **What an exact request accepts.** Whatever versions the catalog finds, near matches and
duplicates included, the first one with the name and the label is accepted if the request lists no
states or if all that it lists are known and the version's is among them. A request without such a
version does not find one, even with an unknown state; with one, an unknown state is an error. The
page of the version reports these three, and nothing else. -/
theorem exact_accepts (r : Resolver) {name label : String} {found : Option (List ImageVersion)}
    (answered : r.sources.findVersions [] (.text name) (.text label) = .ok found)
    (typed : ∀ version ∈ found.getD [], version.IsTyped) :
    (∀ wishes, Resolver.Accepts (found.getD []) name label wishes
      (r.exact (.text name) (.text label) (.list (wishes.map Wish.toDatum))).start.1) ∧
    ∀ (s : Station) (now : Instant) (path : List Char), name ≠ "" → label ≠ "" →
      '/' ∉ name.toList → '/' ∉ label.toList →
      Target.bytesOf path = encodeUtf8 (versionPath name label) →
      AnswersExactly r name label fun query => (s.answerTarget r now ⟨path, query⟩).1.1 := by
  have decided := fun wishes : List Wish =>
    Resolver.exact_start_eq answered typed (.list (wishes.map Wish.toDatum))
  refine ⟨fun wishes => ?_, fun s now path named labelled single single' spelled => ?_⟩
  · rw [decided wishes]
    exact Resolver.accepts_judged (found.getD []) name label wishes
  · have page_eq : ∀ query, (s.answerTarget r now ⟨path, query⟩).1.1 =
        (Station.lookupPage (versionPage r name label query)).1 := by
      intro query
      have spelled' : Target.bytesOf (Target.mk path query).path =
        encodeUtf8 (versionPath name label) := spelled
      rw [answerTarget_version s now named labelled single single' spelled']
    have read : ∀ query values, Target.textValues query = .ok values → Reports name
        (r.exact (.text name) (.text label)
          (.list ((askedStates values).map Wish.toDatum))).start.1
        (s.answerTarget r now ⟨path, query⟩).1.1 := by
      intro query values is_text
      rw [page_eq, lookupPage_versionPage_eq is_text]
      exact reports_judged name label (askedStates values) _ (decided _)
    refine ⟨fun texts => ?_, read, fun query => ?_⟩
    · rw [← askedStates_texts]
      exact read _ _ (textValues_queryOf _)
    · cases is_text : Target.textValues query with
      | ok values => exact (read query values is_text).status
      | error fault =>
        rw [page_eq, status_versionPage_of_unread is_text]
        simp

/-- Candidates of which the second one is the first that is called so. -/
def nearMatches : List ImageVersion :=
  [{ imageType := .text " Spark", version := .text "1.0", path := .null, state := .active },
   { imageType := .text "SPARK ", version := .text "1.0-RC1", path := .null, state := .unstable },
   { imageType := .text "spark", version := .text "1.0-rc1", path := .null, state := .active }]

/-- Sources with these candidates. -/
def nearSources : Sources :=
  { pilotSources with findVersions := fun _ _ _ => .ok (some nearMatches) }

theorem typed_nearMatches : ∀ version ∈ nearMatches, version.IsTyped := by
  simp [nearMatches, ImageVersion.IsTyped]

theorem exact_accepts_nearMatches :
    (∀ version ∈ nearMatches, version.IsTyped) ∧
    (∃ info, (Resolver.exact ⟨nearSources, .null⟩ (.text "spark") (.text "1.0-rc1")
      (.list [.text "new", .text " unstable"])).start.1 = .ok info) ∧
    (pilotStation.answerTarget ⟨nearSources, .null⟩ ⟨0⟩
      ⟨versionPath "spark" "1.0-rc1", queryOf [("state", "ACTIVE")]⟩).1.1.status = 404 := by
  have accepts := exact_accepts ⟨nearSources, .null⟩
    (show nearSources.findVersions [] (.text "spark") (.text "1.0-rc1") = _ from rfl)
    typed_nearMatches
  have is_first : IsFirst nearMatches "spark" "1.0-rc1"
      { imageType := .text "SPARK ", version := .text "1.0-RC1", path := .null,
        state := .unstable } :=
    isFirst_iff.mpr (by decide +kernel)
  have lists : ∃ info, (Resolver.exact ⟨nearSources, .null⟩ (.text "spark") (.text "1.0-rc1")
      (.list [.text "new", .text " unstable"])).start.1 = .ok info := by
    refine (accepts.1 [.text "new", .text " unstable"]).returns_iff.mpr
      ⟨_, is_first, .inr ⟨?_, .text " unstable", by simp, by decide +kernel⟩⟩
    simp only [Wish.AllKnown, List.forall_mem_cons]
    exact ⟨by decide +kernel, by decide +kernel, List.forall_mem_nil _⟩
  have misses : Resolver.FailsAs (Resolver.exact ⟨nearSources, .null⟩ (.text "spark")
      (.text "1.0-rc1") (.list [.text "ACTIVE"])).start.1 "VersionNotFound" := by
    refine (accepts.1 [.text "ACTIVE"]).notFound_iff.mpr
      (.inr ⟨_, is_first, List.cons_ne_nil _ _, ?_, ?_⟩)
    · simp only [Wish.AllKnown, List.forall_mem_cons]
      exact ⟨by decide +kernel, List.forall_mem_nil _⟩
    · simp only [Wish.Includes, List.exists_mem_cons_iff]
      decide +kernel
  obtain ⟨fault, failed, of_kind⟩ := misses
  have page := (accepts.2 pilotStation ⟨0⟩ (versionPath "spark" "1.0-rc1") (by decide) (by decide)
    (by decide) (by decide) (encodeUtf8_of_all (by decide)).symm).listed ["ACTIVE"]
  refine ⟨typed_nearMatches, lists, ?_⟩
  exact congrArg Page.status (page.notFound fault failed of_kind)

end Rollout.Monitoring

import Rollout.Proofs.Monitoring.EncodedPaths

/-!
# The pages of a type and what their paths say

A front end that follows the web's conventions writes the name of a type and the label of a version
into a path in percent-encoded form. The server finds the page, and looks up the encoded texts as
they stand. So a request **reaches** the version and the plan that it is about just when the catalog
cannot tell the encoded texts from the texts themselves (`reaches_iff_alike`). This is so for texts
of unreserved characters, which are their own encoded form (`reaches_of_unreserved`), and not for a
name with a blank in it (`not_reaches_spaced`).
-/

namespace Rollout

/-- The catalog gives this for the version with the name and the label. -/
def Catalog.Gives (c : Catalog) (name label : String) (info : VersionInfo) : Prop :=
  ∃ version, c.Holds (.ofName name) (.text label) version ∧ version.info = info

theorem Catalog.Gives.unique {c : Catalog} (kept : c.WellKept) {name label : String}
    {info other : VersionInfo} (left : c.Gives name label info) (right : c.Gives name label other) :
    info = other := by
  obtain ⟨version, held, rfl⟩ := left
  obtain ⟨version', held', rfl⟩ := right
  rw [held.unique kept held']

namespace Resolver

variable {c : Catalog} (bucketOf : Flow → Except Fault Datum) (planOrder : Datum)

/-- An exact look-up in any state answers what the catalog gives. -/
theorem yields_exact (kept : c.WellKept) (name label : String) (allowed : Datum)
    (free : allowed.isTruthy = false) :
    (∃ info, c.Gives name label info ∧
      ((c.resolver bucketOf planOrder).exact (.text name) (.text label) allowed).Yields
        (.ok info)) ∨
    ((∀ info, ¬ c.Gives name label info) ∧
      ((c.resolver bucketOf planOrder).exact (.text name) (.text label) allowed).Yields
        (.error (.versionNotFound (.text name) (.text label)
          "not in the image version catalog"))) := by
  have states : allowedStates allowed = .ok [] := by
    unfold allowedStates
    rw [free]
    rfl
  rcases yields_exactNamed bucketOf planOrder kept name label with
    ⟨version, held, found⟩ | ⟨missing, failed⟩
  · refine .inl ⟨version.info, ⟨version, held, rfl⟩, ?_⟩
    exact found.bind_ok ((Lookup.yields_give states).bind_ok (Lookup.yields_pure _))
  · refine .inr ⟨?_, failed.bind_error⟩
    intro info ⟨version, held, _⟩
    exact missing version held

end Resolver

namespace Monitoring

open Text

variable {c : Catalog} {name label : String}

/-- The page shows the version, its path and its state. -/
def ShowsVersion (info : VersionInfo) (page : Page) : Prop :=
  ∃ name, page = .catalog 200 (.record
    [("image_type", .text name), ("version", info.version), ("path", info.path),
     ("state", .text info.state.name)])

theorem ShowsVersion.unique {info other : VersionInfo} {page : Page} (left : ShowsVersion info page)
    (right : ShowsVersion other page) : info = other := by
  obtain ⟨name, rfl⟩ := left
  obtain ⟨name', same⟩ := right
  simp only [Page.catalog, Page.mk.injEq, Option.some.injEq, Datum.record.injEq, List.cons.injEq,
    Prod.mk.injEq, Datum.text.injEq, true_and, and_true] at same
  obtain ⟨-, version, path, state⟩ := same
  have states : info.state = other.state := by
    revert state
    cases info.state <;> cases other.state <;> decide
  cases info
  cases other
  simp_all

theorem ShowsVersion.status {info : VersionInfo} {page : Page} (shows : ShowsVersion info page) :
    page.status = 200 := by
  obtain ⟨name, rfl⟩ := shows
  rfl

variable (bucketOf : Flow → Except Fault Datum) (planOrder : Datum)

/-- The page of a version without a query shows what the catalog gives, and is not found when it
gives nothing. -/
theorem lookupPage_versionPage (kept : c.WellKept) (name label : String) :
    (∃ info, c.Gives name label info ∧ ShowsVersion info
      (Station.lookupPage (versionPage (c.resolver bucketOf planOrder) name label [])).1) ∨
    ((∀ info, ¬ c.Gives name label info) ∧
      (Station.lookupPage (versionPage (c.resolver bucketOf planOrder) name label [])).1.status =
        404) := by
  have values : Target.textValues [] = .ok [] :=
    Fallible.eq_ok_of_toOption (by decide +kernel)
  have page_of : ∀ {page},
      (versionPage (c.resolver bucketOf planOrder) name label []).Yields (.ok page) →
      (Station.lookupPage (versionPage (c.resolver bucketOf planOrder) name label [])).1 =
        page := by
    intro page yields
    have here := yields.start_eq
    rw [Station.lookupPage]
    revert here
    rcases (versionPage (c.resolver bucketOf planOrder) name label []).start with ⟨answer, journal⟩
    intro here
    cases here
    rfl
  have settled : (Lookup.settle (Target.textValues [], [])).Yields (.ok []) :=
    Lookup.yields_settle values
  rcases Resolver.yields_exact bucketOf planOrder kept name label (.list []) rfl with
    ⟨info, gives, found⟩ | ⟨missing, failed⟩
  · refine .inl ⟨info, gives, normalizeName name, page_of ?_⟩
    apply Lookup.Yields.orElse_ok
    apply settled.bind_ok
    apply found.bind_ok
    exact Lookup.yields_pure _
  · refine .inr ⟨missing, ?_⟩
    have refused : (versionPage (c.resolver bucketOf planOrder) name label []).Yields
        (.ok (faultPage (.versionNotFound (.text name) (.text label)
          "not in the image version catalog"))) := by
      apply Lookup.Yields.orElse_error
      · apply settled.bind_ok
        exact failed.bind_error
      · exact Lookup.yields_pure _
    rw [page_of refused]
    rfl

/-! ## Requests by percent-encoded names -/

/-- Requests for a name and a label in percent-encoded form answer what the resolver says of the
name and the label: the page of the version shows it or is not found, and the page of the plan is
that of the name. -/
structure Reaches (station : Station) (r : Resolver) (now : Instant) (name label : String) :
    Prop where
  shown : ∀ info, (r.exact (.text name) (.text label) .null).start.1 = .ok info →
    ShowsVersion info
      (station.answer r now (versionPath (encodedSegment name) (encodedSegment label))).1.1
  missing : ∀ imageType version detail,
    (r.exact (.text name) (.text label) .null).start.1 =
      .error (.versionNotFound imageType version detail) →
    (station.answer r now
      (versionPath (encodedSegment name) (encodedSegment label))).1.1.status = 404
  planned : (station.answer r now (planPath (encodedSegment name))).1.1 =
    (Station.lookupPage (planPage r name)).1

section Requests

variable (station : Station) (now : Instant)

/-- The page for the path of a version is the page of the segments as they stand. -/
theorem answer_versionPath (r : Resolver) {name label : String} (named : IsSegment name)
    (labelled : IsSegment label) :
    station.answer r now (versionPath name label) =
      (Station.lookupPage (versionPage r name label []), station) := by
  have each : ∀ segment ∈ ["api", "v1", "image-versions", name, label], IsSegment segment := by
    simp only [List.forall_mem_cons]
    exact ⟨.of_unreserved (by decide) (by decide), .of_unreserved (by decide) (by decide),
      .of_unreserved (by decide) (by decide), named, labelled, nofun⟩
  exact answer_path station now each history_versionPath
    (ofPath?_versionPath named.filled labelled.filled named.single labelled.single)

theorem answer_planPath (r : Resolver) {name : String} (named : IsSegment name) :
    station.answer r now (planPath name) = (Station.lookupPage (planPage r name), station) := by
  have each : ∀ segment ∈ ["api", "v1", "image-types", name, "rampup"], IsSegment segment := by
    simp only [List.forall_mem_cons]
    exact ⟨.of_unreserved (by decide) (by decide), .of_unreserved (by decide) (by decide),
      .of_unreserved (by decide) (by decide), named, .of_unreserved (by decide) (by decide), nofun⟩
  exact answer_path station now each history_planPath (ofPath?_planPath named.filled named.single)

/-- The catalog gives the same for the one name and label as for the other, and the names have one
page for their plans. -/
structure Alike (c : Catalog) (r : Resolver) (name label other otherLabel : String) : Prop where
  gives : ∀ info, c.Gives name label info ↔ c.Gives other otherLabel info
  plan : (Station.lookupPage (planPage r other)).1 = (Station.lookupPage (planPage r name)).1

variable {station now} {bucketOf planOrder}

theorem alike_of_reaches (kept : c.WellKept) {name label : String} (named : name ≠ "")
    (labelled : label ≠ "")
    (reaches : Reaches station (c.resolver bucketOf planOrder) now name label) :
    Alike c (c.resolver bucketOf planOrder) name label (encodedSegment name)
      (encodedSegment label) := by
  have shown := reaches.shown
  have missing := reaches.missing
  have planned := reaches.planned
  rw [answer_versionPath station now _ (isSegment_encoded named) (isSegment_encoded labelled)]
    at shown missing
  rw [answer_planPath station now _ (isSegment_encoded named)] at planned
  refine ⟨?_, planned⟩
  intro info
  rcases Resolver.yields_exact bucketOf planOrder kept name label .null rfl with
    ⟨own, gives, found⟩ | ⟨nothing, failed⟩
  · have shows := shown own found.start_eq
    rcases lookupPage_versionPage bucketOf planOrder kept (encodedSegment name)
      (encodedSegment label) with ⟨other, gives', shows'⟩ | ⟨-, notFound⟩
    · obtain rfl := shows.unique shows'
      constructor
      · intro given
        exact gives.unique kept given ▸ gives'
      · intro given
        exact gives'.unique kept given ▸ gives
    · exact absurd (shows.status.symm.trans notFound) (by decide)
  · have notFound := missing _ _ _ failed.start_eq
    rcases lookupPage_versionPage bucketOf planOrder kept (encodedSegment name)
      (encodedSegment label) with ⟨other, -, shows⟩ | ⟨nothing', -⟩
    · exact absurd (shows.status.symm.trans notFound) (by decide)
    · exact ⟨fun given => absurd given (nothing info), fun given => absurd given (nothing' info)⟩

theorem reaches_of_alike (kept : c.WellKept) {name label : String} (named : name ≠ "")
    (labelled : label ≠ "")
    (alike : Alike c (c.resolver bucketOf planOrder) name label (encodedSegment name)
      (encodedSegment label)) :
    Reaches station (c.resolver bucketOf planOrder) now name label := by
  have version := answer_versionPath station now (c.resolver bucketOf planOrder)
    (isSegment_encoded named) (isSegment_encoded labelled)
  have page := lookupPage_versionPage bucketOf planOrder kept (encodedSegment name)
    (encodedSegment label)
  have asked := Resolver.yields_exact bucketOf planOrder kept name label .null rfl
  refine ⟨?_, ?_, ?_⟩
  · intro info answered
    rw [version]
    rcases asked with ⟨own, gives, found⟩ | ⟨-, failed⟩
    · obtain rfl : own = info := Except.ok.inj (found.start_eq.symm.trans answered)
      rcases page with ⟨other, gives', shows⟩ | ⟨nothing, -⟩
      · exact ((alike.gives own).mp gives).unique kept gives' ▸ shows
      · exact absurd ((alike.gives own).mp gives) (nothing own)
    · exact nomatch failed.start_eq.symm.trans answered
  · intro imageType version' detail answered
    rw [version]
    rcases asked with ⟨own, -, found⟩ | ⟨nothing, -⟩
    · exact nomatch found.start_eq.symm.trans answered
    · rcases page with ⟨other, gives', -⟩ | ⟨-, notFound⟩
      · exact absurd ((alike.gives other).mpr gives') (nothing other)
      · exact notFound
  · rw [answer_planPath station now _ (isSegment_encoded named)]
    exact alike.plan

/-- Names and labels of unreserved characters are reached, whatever the catalog holds. -/
theorem reaches_of_unreserved (reached : c.Reachable) {name label : String} (named : name ≠ "")
    (labelled : label ≠ "") (plain : name.toList.all isUnreserved)
    (plain' : label.toList.all isUnreserved) :
    Reaches station (c.resolver bucketOf planOrder) now name label := by
  apply reaches_of_alike reached.wellKept named labelled
  rw [encodedSegment_of_unreserved plain, encodedSegment_of_unreserved plain']
  exact ⟨fun _ => Iff.rfl, rfl⟩

/-- **What requests reach.** The server looks up percent-encoded texts as they stand, so it reaches
a version and a plan just when these texts are to the catalog like the texts that they stand for. -/
theorem reaches_iff_alike (reached : c.Reachable) (bucketOf : Flow → Except Fault Datum)
    (planOrder : Datum) (station : Station) (now : Instant) {name label : String}
    (named : name ≠ "") (labelled : label ≠ "") :
    Reaches station (c.resolver bucketOf planOrder) now name label ↔
      Alike c (c.resolver bucketOf planOrder) name label (encodedSegment name)
        (encodedSegment label) :=
  ⟨alike_of_reaches reached.wellKept named labelled,
    reaches_of_alike reached.wellKept named labelled⟩

/-- A catalog with two types, of which one has a blank in its name. -/
def spacedCatalog : Catalog :=
  Catalog.afterAll
    [.addVersion "my etl" "1.0" (.text "registry/my-etl") (.text "ACTIVE") .null,
     .addVersion "spark" "2.1" (.text "registry/spark") (.text "ACTIVE") .null]

theorem reachable_spacedCatalog : spacedCatalog.Reachable :=
  Catalog.reachable_iff.mpr ⟨_, rfl⟩

/-- A bucket function that puts every flow into the first bucket. -/
def firstBucket (_ : Flow) : Except Fault Datum := .ok (.int 1)

theorem reaches_spark :
    spacedCatalog.Reachable ∧
    Reaches pilotStation (spacedCatalog.resolver firstBucket (.text "normalize")) ⟨0⟩ "spark"
      "2.1" := by
  refine ⟨reachable_spacedCatalog, ?_⟩
  apply (reaches_iff_alike reachable_spacedCatalog firstBucket (.text "normalize") pilotStation ⟨0⟩
    (by decide) (by decide)).mpr
  rw [encodedSegment_of_unreserved (by decide), encodedSegment_of_unreserved (by decide)]
  exact ⟨fun _ => Iff.rfl, rfl⟩

/-- The blank of a name is written `%20`, and no type is called so. -/
theorem not_reaches_spaced :
    ¬ Reaches pilotStation (spacedCatalog.resolver firstBucket (.text "normalize")) ⟨0⟩ "my etl"
      "1.0" := by
  intro reaches
  have alike := alike_of_reaches reachable_spacedCatalog.wellKept (by decide) (by decide) reaches
  have member : ⟨.text "my etl", .text "1.0", .text "registry/my-etl", .active, .null⟩ ∈
      spacedCatalog.versionsOf (.ofName "my etl") := by
    decide +kernel
  have gives := (alike.gives _).mp ⟨_, ⟨member, rfl⟩, rfl⟩
  obtain ⟨version, ⟨other, -⟩, -⟩ := gives
  have nothing : spacedCatalog.versionsOf (.ofName (encodedSegment "my etl")) = [] := by
    decide +kernel
  rw [nothing] at other
  cases other

end Requests

end Monitoring

end Rollout

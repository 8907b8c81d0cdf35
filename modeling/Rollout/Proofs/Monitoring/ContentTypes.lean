import Rollout.Proofs.Fallible
import Rollout.Proofs.Monitoring.Routes

/-!
# Content types

The pages of the history say in their content type how their text is encoded, and no page that the
catalog pages answer with does (`not_isOfHistory_delegate`). So a page tells which of the two kinds
it is.

A page comes out of a look-up, and may be any that the look-up **gives** (`Lookup.Gives`).
-/

namespace Rollout

/-! ## What a look-up gives -/

namespace Lookup

variable {α β : Type} {P : β → Prop}

/-- Whatever was asked before, the value that the look-up gives has the property. -/
def Gives (lookup : Lookup β) (P : β → Prop) : Prop :=
  ∀ (journal : Journal) (b : β), (lookup journal).1 = .ok b → P b

theorem gives_pure {b : β} (holds : P b) : Gives (pure b) P := by
  rintro journal _ ⟨⟩
  exact holds

theorem gives_give {given : Except Fault β} (holds : ∀ b, given = .ok b → P b) :
    (give given).Gives P :=
  fun _ b same => holds b same

/-- The last step of a sequence decides. -/
theorem gives_bind {first : Lookup α} {next : α → Lookup β} (each : ∀ a, (next a).Gives P) :
    (first >>= next).Gives P := by
  intro journal b
  rw [Fallible.bind_apply]
  rcases first journal with ⟨result, after⟩
  cases result with
  | error fault => nofun
  | ok a => exact each a after b

theorem Gives.orElse {lookup : Lookup β} {recover : Fault → Lookup β} (gives : lookup.Gives P)
    (onward : ∀ fault, (recover fault).Gives P) : (lookup.orElse recover).Gives P := by
  intro journal b
  rw [Lookup.orElse]
  have holds := gives journal b
  revert holds
  rcases lookup journal with ⟨result, after⟩
  cases result with
  | error fault => exact fun _ => onward fault after b
  | ok a => exact fun holds => holds

end Lookup

namespace Monitoring

/-! ## Kinds of pages -/

namespace Page

/-- The page has the content type of the history pages. -/
def IsOfHistory (page : Page) : Prop :=
  page.contentType = "application/json; charset=utf-8"

theorem not_isOfHistory_catalog (status : Nat) (document : Datum) :
    ¬ (Page.catalog status document).IsOfHistory := by
  simp [IsOfHistory, Page.catalog]

theorem not_isOfHistory_plain (status : Nat) : ¬ (Page.plain status).IsOfHistory := by
  simp [IsOfHistory, Page.plain]

end Page

open Page

theorem not_isOfHistory_faultPage (fault : Fault) : ¬ (faultPage fault).IsOfHistory := by
  unfold faultPage
  split
  · exact not_isOfHistory_catalog _ _
  · exact not_isOfHistory_catalog _ _
  · exact not_isOfHistory_plain _

/-- The page of a look-up is one that it gives, or one for a fault. -/
theorem Station.lookupPage_of_gives {P : Page → Prop} {lookup : Lookup Page}
    (gives : lookup.Gives P) (failed : ∀ fault, P (faultPage fault)) :
    P (Station.lookupPage lookup).1 := by
  rw [lookupPage, Lookup.start]
  have holds := gives {}
  revert holds
  rcases lookup {} with ⟨result, journal⟩
  cases result with
  | error fault => exact fun _ => failed fault
  | ok page => exact fun holds => holds page rfl

variable (r : Resolver)

theorem gives_versionPage (name label : String) (query : List Char) :
    (versionPage r name label query).Gives fun page => ¬ page.IsOfHistory := by
  refine Lookup.Gives.orElse (Lookup.gives_bind fun values => Lookup.gives_bind fun info =>
    Lookup.gives_pure (not_isOfHistory_catalog _ _)) fun fault => ?_
  split
  · exact Lookup.gives_pure (not_isOfHistory_catalog _ _)
  · exact Lookup.gives_pure (not_isOfHistory_faultPage fault)

theorem not_isOfHistory_orderedPlanPage {key : TypeKey} {plan : Plan} {page : Page}
    (ordered : orderedPlanPage r key plan = .ok page) : ¬ page.IsOfHistory := by
  obtain ⟨ranges, -, later⟩ := Fallible.bind_eq_ok_iff.mp ordered
  obtain ⟨entries, -, later⟩ := Fallible.bind_eq_ok_iff.mp later
  obtain ⟨total, -, ⟨⟩⟩ := Fallible.bind_eq_ok_iff.mp later
  exact not_isOfHistory_catalog _ _

theorem gives_planPage (name : String) :
    (planPage r name).Gives fun page => ¬ page.IsOfHistory := by
  refine Lookup.Gives.orElse (Lookup.gives_bind fun book => Lookup.gives_bind fun plans => ?_)
    fun fault => Lookup.gives_pure (not_isOfHistory_faultPage fault)
  split
  · exact Lookup.gives_pure (not_isOfHistory_catalog _ _)
  · exact Lookup.gives_bind fun plan =>
      Lookup.gives_give fun _ => not_isOfHistory_orderedPlanPage r

theorem not_isOfHistory_answerCatalog (s : Station) (now : Instant) (query : List Char)
    (route : CatalogRoute) : ¬ (s.answerCatalog r now query route).1.1.IsOfHistory := by
  cases route with
  | decisions =>
    rw [Station.answerCatalog]
    rcases s.recorder.run now .metadata none r.metadata with ⟨answer, journal, recorder⟩
    cases answer with
    | ok decisions => exact not_isOfHistory_catalog _ _
    | error fault => exact not_isOfHistory_faultPage fault
  | version name label =>
    exact Station.lookupPage_of_gives (gives_versionPage r name label query)
      not_isOfHistory_faultPage
  | plan name =>
    exact Station.lookupPage_of_gives (gives_planPage r name) not_isOfHistory_faultPage

/-- No page of the catalog pages is one of the history. -/
theorem not_isOfHistory_delegate (s : Station) (now : Instant) (target : Target) :
    ¬ (s.delegate r now target).1.1.IsOfHistory := by
  rw [Station.delegate]
  split
  · exact not_isOfHistory_answerCatalog r s now target.query _
  · show ¬ (Station.unknownPage _).IsOfHistory
    rw [Station.unknownPage]
    split
    · exact not_isOfHistory_plain _
    · exact not_isOfHistory_plain _

end Monitoring

end Rollout

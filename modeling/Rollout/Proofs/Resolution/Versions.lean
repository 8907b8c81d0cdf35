import Rollout.Proofs.Fault.External
import Rollout.Proofs.Lookup.Leads
import Rollout.Proofs.Resolution.Deciding

/-!
# Versions that are looked up

What looking a version up by its label comes to, whatever the version catalog answers: one question,
and a version of the type with that label, or a fault (`leads_exactVersion`). Of a fault it counts
whether it is about a plan. Versions themselves give rise to no such fault, so where the catalog
raises none, there is none (`Sources.Spares`).
-/

namespace Rollout

/-- The version with a name and a label has the key of the name. -/
theorem ImageVersion.isNamed_iff {v : ImageVersion} {key : TypeKey} {label : Datum} :
    v.isNamed (.text key.text) label = .ok true ↔
      v.key = .ok key ∧ v.hasLabel label = .ok true := by
  rw [isNamed, TypeKey.ofDatum_text, TypeKey.ofName_text, Fallible.bind_eq_ok_iff]
  constructor
  · rintro ⟨own, keyed, tested⟩
    obtain ⟨_, ⟨⟩, tested⟩ := Fallible.bind_eq_ok_iff.mp tested
    split at tested
    · rename_i same
      exact ⟨same ▸ keyed, tested⟩
    · cases tested
  · rintro ⟨keyed, labelled⟩
    exact ⟨key, keyed, (if_pos rfl).trans labelled⟩

/-! ## Faults about plans -/

/-- The fault says that a plan cannot be walked. -/
def Fault.IsOfPlan : Fault → Prop
  | invalidPlan .. => True
  | _ => False

/-- The version catalog raises no fault about plans. -/
structure Sources.SparesPlans (s : Sources) : Prop where
  findVersions : ∀ calls name label fault, s.findVersions calls name label = .error fault →
    ¬ fault.IsOfPlan
  activeVersions : ∀ calls names fault, s.activeVersions calls names = .error fault →
    ¬ fault.IsOfPlan

/-- Where the version catalog raises no fault about plans, the result is no such fault. -/
def Sources.Spares {α : Type} (s : Sources) (result : Except Fault α) : Prop :=
  s.SparesPlans → ∀ fault, result = .error fault → ¬ fault.IsOfPlan

theorem Sources.spares_ok {α : Type} (s : Sources) (a : α) : s.Spares (.ok a) :=
  fun _ _ => nofun

theorem Sources.spares_error_iff {α : Type} {s : Sources} {fault : Fault} :
    s.Spares (.error fault : Except Fault α) ↔ (s.SparesPlans → ¬ fault.IsOfPlan) :=
  ⟨fun spares plain => spares plain fault rfl, fun spares plain _ same =>
    Except.error.inj same ▸ spares plain⟩

theorem Fault.IsExternal.not_isOfPlan {fault : Fault} (outside : fault.IsExternal) :
    ¬ fault.IsOfPlan := by
  cases fault with
  | invalidPlan imageType flaw => cases outside
  | _ => exact id

namespace Resolver

/-- Versions are indexed unless one of them has no key. -/
theorem exists_of_firstByKey_error {versions : List ImageVersion} {wanted : NameSet}
    {fault : Fault} (failed : firstByKey versions wanted = .error fault) :
    ∃ v ∈ versions, v.key = .error fault := by
  rw [firstByKey] at failed
  revert failed
  generalize OrderedMap.empty = start
  induction versions generalizing start with
  | nil =>
    intro failed
    cases failed
  | cons v rest ih =>
    intro failed
    rw [List.foldlM_cons] at failed
    rcases Fallible.bind_eq_error_iff.mp failed with stepped | ⟨next, -, later⟩
    · rcases Fallible.bind_eq_error_iff.mp stepped with keyed | ⟨key, -, ⟨⟩⟩
      exact ⟨v, List.mem_cons_self, keyed⟩
    · obtain ⟨other, member, keyed⟩ := ih next later
      exact ⟨other, List.mem_cons_of_mem _ member, keyed⟩

theorem external_firstByKey (versions : List ImageVersion) (wanted : NameSet) :
    Fallible.FailsOnly Fault.IsExternal (firstByKey versions wanted) := by
  intro fault failed
  obtain ⟨v, -, keyless⟩ := exists_of_firstByKey_error failed
  exact TypeKey.external_ofDatum v.imageType fault keyless

theorem external_takeFirst (selection : Selection) (resolution : Resolution)
    (versions : Option (List ImageVersion)) :
    Fallible.FailsOnly Fault.IsExternal (takeFirst selection resolution versions) := by
  rw [takeFirst_eq]
  exact (external_firstByKey _ _).map _

/-- A look-up by label puts one question; what it finds belongs to the type and has the label. -/
theorem leads_exactVersion (r : Resolver) (key : TypeKey) (label : Datum) (calls : List Call) :
    (r.exactVersion (.text key.text) label).Leads calls fun result after =>
      after = calls ++ [.findVersions (.text key.text) label] ∧
      (∀ version, result = .ok version →
        version.key = .ok key ∧ version.hasLabel label = .ok true) ∧
      r.sources.Spares result := by
  refine (Lookup.leads_ask _ _ calls).bind ?_ ?_
  · rintro found _ ⟨-, rfl⟩
    refine (Lookup.leads_give _ _).bind ?_ ?_
    · rintro chosen _ ⟨tested, rfl⟩
      cases chosen with
      | some version =>
        refine Lookup.leads_pure ⟨rfl, ?_, r.sources.spares_ok version⟩
        rintro _ ⟨⟩
        exact ImageVersion.isNamed_iff.mp (Fallible.test_of_find? tested).2
      | none =>
        exact Lookup.leads_throw ⟨rfl, by rintro _ ⟨⟩, Sources.spares_error_iff.mpr fun _ => id⟩
    · rintro fault _ ⟨failed, rfl⟩
      -- one of the versions that were found cannot be compared with the label
      obtain ⟨v, -, unnamed⟩ := Fallible.exists_of_find?_error failed
      exact ⟨rfl, by rintro _ ⟨⟩, Sources.spares_error_iff.mpr fun _ =>
        (v.external_isNamed _ _ fault unnamed).not_isOfPlan⟩
  · rintro fault _ ⟨failed, rfl⟩
    exact ⟨rfl, by rintro _ ⟨⟩, Sources.spares_error_iff.mpr fun plain =>
      plain.findVersions _ _ _ _ failed⟩

end Resolver

end Rollout

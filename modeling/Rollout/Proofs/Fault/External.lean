import Rollout.Image.Version
import Rollout.Plan.Book
import Rollout.Proofs.Fallible

/-!
# Faults of values

Reading, comparing and adding values from outside fails in many ways, but never with a resolution
fault: what goes wrong is **external** to the resolution. Among the pure steps of a resolution only
the check of a plan raises a fault of its own, and none says that types are unresolved
(`Plan.settled_order`).
-/

namespace Rollout

open Fallible

namespace Fault

/-- The fault says what was wrong with a value from outside, or that something outside failed. -/
def IsExternal (fault : Fault) : Prop :=
  fault.isResolution = false

/-- The fault says that types have no version after every tier. -/
def IsUnresolved : Fault → Prop
  | unresolvedTypes _ => True
  | _ => False

theorem IsUnresolved.exists_names {fault : Fault} (unresolved : fault.IsUnresolved) :
    ∃ names, fault = .unresolvedTypes names := by
  cases fault with
  | unresolvedTypes names => exact ⟨names, rfl⟩
  | _ => cases unresolved

theorem IsExternal.not_isUnresolved {fault : Fault} (outside : fault.IsExternal) :
    ¬ fault.IsUnresolved := by
  cases fault with
  | unresolvedTypes names => cases outside
  | _ => exact id

end Fault

namespace Datum

theorem external_toText (operation : String) (value : Datum) :
    FailsOnly Fault.IsExternal (value.toText operation) := by
  cases value with
  | text s => exact failsOnly_ok s
  | _ => exact failsOnly_error rfl

theorem external_items (value : Datum) : FailsOnly Fault.IsExternal value.items := by
  rw [items]
  split
  · exact failsOnly_ok _
  · exact failsOnly_error rfl

theorem external_compare (c : Comparison) (a b : Datum) :
    FailsOnly Fault.IsExternal (compare c a b) := by
  refine compare.induct (fun a b => FailsOnly Fault.IsExternal (compare c a b))
    (fun as bs => FailsOnly Fault.IsExternal (compareItems c as bs))
    ?texts ?lists ?numbers ?others ?same ?shorter ?longer ?alike ?differ a b
  case texts =>
    intro a b
    rw [compare]
    exact failsOnly_ok _
  case lists =>
    intro as bs ih
    rwa [compare]
  case numbers =>
    intro a b no_texts no_lists x y right left
    rw [compare, left, right]
    · exact failsOnly_ok _
    · exact no_texts
    · exact no_lists
  case others =>
    intro a b no_texts no_lists no_numbers
    rw [compare]
    · split
      · exact absurd ‹_› (no_numbers _ _ ‹_›)
      · exact failsOnly_error rfl
    · exact no_texts
    · exact no_lists
  case same => exact failsOnly_ok _
  case shorter => exact fun _ _ => failsOnly_ok _
  case longer => exact fun _ _ => failsOnly_ok _
  case alike =>
    intro a as b bs same ih
    rwa [compareItems, if_pos same]
  case differ =>
    intro a as b bs differ ih
    rwa [compareItems, if_neg differ]

theorem external_plus (sign : String) (a b : Datum) :
    FailsOnly Fault.IsExternal (a.plus sign b) := by
  rw [plus]
  split
  · split
    · exact failsOnly_ok _
    · exact failsOnly_error rfl
  · exact failsOnly_error rfl

theorem external_toInteger (value : Datum) : FailsOnly Fault.IsExternal value.toInteger := by
  unfold toInteger
  split
  case h_6 =>
    split
    · exact failsOnly_ok _
    · exact failsOnly_error rfl
    · exact failsOnly_error rfl
  all_goals first | exact failsOnly_ok _ | exact failsOnly_error rfl

end Datum

/-! ## Names -/

theorem TypeKey.external_ofDatum (name : Datum) :
    FailsOnly Fault.IsExternal (TypeKey.ofDatum name) :=
  (name.external_toText "strip").map ofName

theorem external_foldLabel (label : Datum) : FailsOnly Fault.IsExternal (foldLabel label) :=
  (label.external_toText "lower").map _

theorem ImageVersion.external_isNamed (v : ImageVersion) (name label : Datum) :
    FailsOnly Fault.IsExternal (v.isNamed name label) := by
  refine (TypeKey.external_ofDatum _).bind fun own => ?_
  refine (TypeKey.external_ofDatum _).bind fun key => ?_
  split
  · exact (external_foldLabel _).bind fun _ => (external_foldLabel _).bind fun _ => failsOnly_ok _
  · exact failsOnly_ok false

theorem NameSet.external_ofDatum (value : Datum) :
    FailsOnly Fault.IsExternal (NameSet.ofDatum value) :=
  value.external_items.bind fun items =>
    (failsOnly_mapM (Datum.external_toText "strip") items).bind fun _ => failsOnly_ok _

/-! ## Plans -/

namespace Plan

theorem external_isAscending (plan : Plan) : FailsOnly Fault.IsExternal plan.isAscending := by
  induction plan using isAscending.induct with
  | case1 a b rest ih =>
    rw [isAscending]
    refine (Datum.external_compare .atMost _ _).bind fun ascends => ?_
    split
    · exact ih
    · exact failsOnly_ok false
  | case2 plan short =>
    rw [isAscending]
    · exact failsOnly_ok true
    · exact short

theorem external_totalFrom (sum : Datum) (plan : Plan) :
    FailsOnly Fault.IsExternal (plan.totalFrom sum) := by
  induction plan generalizing sum with
  | nil => exact failsOnly_ok sum
  | cons entry rest ih => exact (Datum.external_plus _ _ _).bind ih

theorem external_isPercentage (value : Datum) :
    FailsOnly Fault.IsExternal (isPercentage value) := by
  refine (Datum.external_compare .atMost _ _).bind fun positive => ?_
  split
  · exact Datum.external_compare .atMost _ _
  · exact failsOnly_ok false

theorem external_overallocation (imageType total : Datum) :
    FailsOnly Fault.IsExternal (overallocation imageType total) := by
  refine (Datum.external_compare .greater _ _).bind fun beyond => ?_
  split
  · exact total.external_toInteger.bind fun _ => failsOnly_ok _
  · exact failsOnly_ok []

theorem external_matchBucketFrom (floor bucket : Datum) (plan : Plan) :
    FailsOnly Fault.IsExternal (plan.matchBucketFrom floor bucket) := by
  induction plan generalizing floor with
  | nil => exact failsOnly_ok none
  | cons entry rest ih =>
    have owned : FailsOnly Fault.IsExternal (owns floor bucket entry) := by
      refine (Datum.external_compare .less _ _).bind fun above => ?_
      split
      · exact (Datum.external_plus _ _ _).bind fun last => Datum.external_compare .atMost _ _
      · exact failsOnly_ok false
    refine owned.bind fun owner => ?_
    split
    · exact failsOnly_ok (some entry)
    · exact (Datum.external_plus _ _ _).bind ih

/-- A plan that cannot be put in order says nothing about unresolved types. -/
theorem settled_order (imageType : Datum) (policy : WalkPolicy) (plan : Plan) :
    FailsOnly (fun fault => ¬ fault.IsUnresolved) (plan.order imageType policy).1 := by
  have checked : FailsOnly (fun fault => ¬ fault.IsUnresolved) (plan.check imageType) := by
    have tested := failsOnly_find?
      (fun entry : PlanEntry => (external_isPercentage entry.percentage).map (!·)) plan
    refine (tested.imp fun _ => Fault.IsExternal.not_isUnresolved).bind fun outside => ?_
    cases outside with
    | some entry => exact failsOnly_error id
    | none =>
      have summed := (external_totalFrom (.int 0) plan).bind (external_overallocation imageType)
      exact summed.imp fun _ => Fault.IsExternal.not_isUnresolved
  rw [order]
  split
  · rename_i fault failed
    exact failsOnly_error (checked fault failed)
  · split
    · rename_i fault failed
      split at failed
      · cases failed
      · exact failsOnly_error (external_isAscending plan fault failed).not_isUnresolved
    · exact failsOnly_ok plan
    · split
      · exact failsOnly_error id
      · exact failsOnly_ok _

end Plan

/-- A book is indexed unless one of its names is no text. -/
theorem PlanBook.external_indexed (book : PlanBook) (wanted : NameSet) :
    FailsOnly Fault.IsExternal (book.indexed wanted).1 := by
  rw [indexed]
  generalize (OrderedMap.empty, []) = index
  induction book.entries generalizing index with
  | nil => exact failsOnly_ok index.1
  | cons entry rest ih =>
    rw [indexEntries]
    split
    · exact ih _
    · rename_i fault failed
      exact failsOnly_error (TypeKey.external_ofDatum _ fault failed)

end Rollout

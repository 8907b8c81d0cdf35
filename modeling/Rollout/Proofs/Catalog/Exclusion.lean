import Rollout.Proofs.Catalog.Answers
import Rollout.Proofs.Glob

/-!
# Which flows the rules exclude

A rule keeps a flow away from a version when it is about the version and its pattern matches the
flow's name (`Bars`). The rule evaluator answers whether some rule does (`excludes_iff`). It tests
itself whether a rule is about the version, so it does not matter how carefully the rules were
looked up: the rules that the catalog finds, all rules, and any list that has the same rules about
the version give one answer (`excludes_judges`).
-/

namespace Rollout

namespace RampRule

/-- The rule is about the version: the names of the types agree once normalized, and the labels
once in small letters. -/
structure Concerns (rule : RampRule) (imageType version : String) : Prop where
  named : ∃ name, rule.imageType = .text name ∧ normalizeName name = normalizeName imageType
  labelled : ∃ label, rule.version = .text label ∧
    Text.lower label.toList = Text.lower version.toList

/-- The rule keeps the flow away from the version. -/
structure Bars (rule : RampRule) (flowName imageType version : String) : Prop where
  concerns : rule.Concerns imageType version
  hits : ∃ pattern, rule.flowPattern = .text pattern ∧
    Glob.Matches pattern.toList flowName.toList

/-- The evaluator's answer about a flow and a version, however the rules reach it. -/
structure Judges (rules : List RampRule) (flowName imageType version : String) (answer : Bool) :
    Prop where
  exact : answer = true ↔ ∃ rule ∈ rules, rule.Bars flowName imageType version
  whole : excludes rules (.text flowName) (.ofName imageType) (.text version) = .ok answer
  /-- The rules are those that the catalog finds for the version. -/
  found : ∀ (c : Catalog) (bucketOf : Flow → Except Fault Datum) (asked : List Call),
    c.rules = rules →
    ((c.sources bucketOf).isExcluded asked (.text flowName) (.ofName imageType)
      (.text version)).1 = .ok answer
  /-- The rules are any that hold the same ones about the version, in any order and number. -/
  listed : ∀ others : List RampRule, (∀ rule ∈ others, Catalog.RuleKept rule) →
    (∀ rule : RampRule, rule.Concerns imageType version → (rule ∈ others ↔ rule ∈ rules)) →
    excludes others (.text flowName) (.ofName imageType) (.text version) = .ok answer
  /-- Further rules keep the flow away still. -/
  stays : answer = true → ∀ more : List RampRule, (∀ rule ∈ more, Catalog.RuleKept rule) →
    rules ⊆ more →
    excludes more (.text flowName) (.ofName imageType) (.text version) = .ok true

end RampRule

open RampRule

namespace Catalog

variable {rule : RampRule} {rules : List RampRule}

/-- For a rule that is kept the test of the evaluator is whether the rule is about the version. -/
theorem isAbout_iff (kept : RuleKept rule) (imageType version : String) :
    isAbout (.ofName imageType) (.text version) rule = true ↔ rule.Concerns imageType version := by
  obtain ⟨name, named⟩ := kept.imageType
  obtain ⟨label, labelled⟩ := kept.version
  have tested : isAbout (.ofName imageType) (.text version) rule = true ↔
      rule.appliesTo (.ofName imageType) (.text version) = .ok true := by
    rw [kept.appliesTo_eq, Except.ok.injEq]
  rw [tested, appliesTo_iff, named, labelled, sameLabel_eq_true_iff]
  constructor
  · rintro ⟨own, text, folded, folded'⟩
    have same : String.ofList (Text.lower label.toList) = .ofList (Text.lower version.toList) :=
      Except.ok.inj (folded.trans folded'.symm)
    exact ⟨⟨name, named, congrArg TypeKey.text (Except.ok.inj own)⟩,
      ⟨label, labelled, String.ofList_injective same⟩⟩
  · rintro ⟨⟨name', named', own⟩, ⟨label', labelled', same⟩⟩
    cases named.symm.trans named'
    cases labelled.symm.trans labelled'
    refine ⟨congrArg Except.ok (TypeKey.ext own), _, foldLabel_text label, ?_⟩
    rw [foldLabel_text, same]

/-- The evaluator's test of one rule. -/
theorem test_eq (kept : RuleKept rule) (flowName imageType version : String) :
    ∃ answer, (do if ← rule.appliesTo (.ofName imageType) (.text version)
        then rule.matchesFlow (.text flowName) else return false) = Except.ok answer ∧
      (answer = true ↔ rule.Bars flowName imageType version) := by
  obtain ⟨pattern, patterned⟩ := kept.pattern
  have about := isAbout_iff kept imageType version
  rw [kept.appliesTo_eq]
  cases applies : isAbout (.ofName imageType) (.text version) rule with
  | true =>
    refine ⟨Glob.accepts pattern flowName, by simp [matchesFlow, patterned, bind, Except.bind], ?_⟩
    rw [Glob.accepts_iff]
    constructor
    · intro hits
      exact ⟨about.mp applies, pattern, patterned, hits⟩
    · rintro ⟨-, pattern', patterned', hits⟩
      cases patterned.symm.trans patterned'
      exact hits
  | false =>
    refine ⟨false, rfl, iff_of_false Bool.false_ne_true fun bars => ?_⟩
    rw [about.mpr bars.concerns] at applies
    cases applies

/-- The evaluator answers, and says whether some rule keeps the flow away. -/
theorem excludes_iff (kept : ∀ rule ∈ rules, RuleKept rule) (flowName imageType version : String) :
    ∃ answer, excludes rules (.text flowName) (.ofName imageType) (.text version) = .ok answer ∧
      (answer = true ↔ ∃ rule ∈ rules, rule.Bars flowName imageType version) := by
  induction rules with
  | nil => exact ⟨false, rfl, by simp⟩
  | cons rule rest ih =>
    obtain ⟨first, tested, bars⟩ :=
      test_eq (kept rule List.mem_cons_self) flowName imageType version
    obtain ⟨later, judged, barred⟩ :=
      ih fun other member => kept other (List.mem_cons_of_mem _ member)
    rw [excludes, Fallible.any, tested]
    simp only [List.mem_cons, exists_eq_or_imp]
    cases first with
    | true => exact ⟨true, rfl, iff_of_true rfl (.inl (bars.mp rfl))⟩
    | false =>
      refine ⟨later, judged, barred.trans (or_iff_right fun here => ?_).symm⟩
      cases bars.mpr here

/-- Lists with the same rules about a version have the same answers about it. -/
theorem excludes_congr {others : List RampRule} (kept : ∀ rule ∈ rules, RuleKept rule)
    (kept' : ∀ rule ∈ others, RuleKept rule) {flowName imageType version : String}
    (same : ∀ rule : RampRule, rule.Concerns imageType version → (rule ∈ others ↔ rule ∈ rules)) :
    excludes others (.text flowName) (.ofName imageType) (.text version) =
      excludes rules (.text flowName) (.ofName imageType) (.text version) := by
  obtain ⟨answer, judged, barred⟩ := excludes_iff kept flowName imageType version
  obtain ⟨answer', judged', barred'⟩ := excludes_iff kept' flowName imageType version
  rw [judged, judged', Except.ok.injEq, Bool.eq_iff_iff, barred, barred']
  constructor
  · rintro ⟨rule, member, bars⟩
    exact ⟨rule, (same rule bars.concerns).mp member, bars⟩
  · rintro ⟨rule, member, bars⟩
    exact ⟨rule, (same rule bars.concerns).mpr member, bars⟩

/-- For rules whose fields are texts there is an answer, and it does not depend on how they are
looked up. -/
theorem excludes_judges (rules : List RampRule) (kept : ∀ rule ∈ rules, RuleKept rule)
    (flowName imageType version : String) :
    ∃ answer, Judges rules flowName imageType version answer := by
  obtain ⟨answer, judged, barred⟩ := excludes_iff kept flowName imageType version
  have listed : ∀ others : List RampRule, (∀ rule ∈ others, RuleKept rule) →
      (∀ rule : RampRule, rule.Concerns imageType version → (rule ∈ others ↔ rule ∈ rules)) →
      excludes others (.text flowName) (.ofName imageType) (.text version) = .ok answer :=
    fun _ kept' same => (excludes_congr kept kept' same).trans judged
  refine ⟨answer, barred, judged, ?_, listed, ?_⟩
  · rintro c bucketOf asked rfl
    have found : c.rulesFor (.ofName imageType) (.text version) =
        .ok (c.rules.filter (isAbout (.ofName imageType) (.text version))) :=
      Fallible.filter_eq_ok fun rule member => (kept rule member).appliesTo_eq _ version
    have filtered := listed (c.rules.filter (isAbout (.ofName imageType) (.text version)))
      (fun rule member => kept rule (List.mem_filter.mp member).1) fun rule concerns => by
        rw [List.mem_filter, and_iff_left_of_imp]
        exact fun member => (isAbout_iff (kept rule member) imageType version).mpr concerns
    simp only [sources, found]
    exact filtered
  · intro excluded more kept' within
    obtain ⟨answer', judged', barred'⟩ := excludes_iff kept' flowName imageType version
    obtain ⟨rule, member, bars⟩ := barred.mp excluded
    rw [judged', barred'.mpr ⟨rule, within member, bars⟩]

/-- Rules that keep some flows away from a version, and others about another one. -/
def pinningRules : List RampRule :=
  [{ name := .text "later", flowPattern := .text "*", imageType := .text "Spark",
     version := .text "2.1" },
   { name := .text "nightly", flowPattern := .text "nightly-[!0-4]*", imageType := .text " SPARK",
     version := .text "2.0-rc" }]

theorem excludes_judges_pinning :
    (∀ rule ∈ pinningRules, RuleKept rule) ∧
    Judges pinningRules "nightly-7" "spark" "2.0-RC" true := by
  have kept : ∀ rule ∈ pinningRules, RuleKept rule := by
    rintro rule (_ | ⟨_, _ | ⟨_, ⟨⟩⟩⟩)
    · exact ⟨⟨"*", rfl⟩, ⟨"Spark", rfl⟩, ⟨"2.1", rfl⟩⟩
    · exact ⟨⟨"nightly-[!0-4]*", rfl⟩, ⟨" SPARK", rfl⟩, ⟨"2.0-rc", rfl⟩⟩
  obtain ⟨answer, judges⟩ := excludes_judges pinningRules kept "nightly-7" "spark" "2.0-RC"
  have excluded : (excludes pinningRules (.text "nightly-7") (.ofName "spark")
      (.text "2.0-RC")).toOption = some true := by decide +kernel
  rw [judges.whole] at excluded
  obtain rfl := Option.some.inj excluded
  exact ⟨kept, judges⟩

end Catalog

end Rollout

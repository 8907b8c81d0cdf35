import Mathlib.Data.List.Induction
import Rollout.Proofs.Resolution.Deciding

/-!
# First decisions

Decisions are taken under names in any spelling, and some of them for no version at all. The first
decision under a key is taken and stands; a later one is turned away and leaves no trace
(`Tracks.decide`). So the resolution that a run of decisions leads to can be told from the run, and
its versions are asked of no decision that has none (`decideEach_keepsFirst`).

The unresolved names may be spelled in any way to begin with. A decision takes away the name that is
its key, letter by letter, and leaves other spellings of it.
-/

namespace Rollout

theorem Decision.info_eq_ok_iff {decision : Decision} {info : VersionInfo} :
    decision.info = .ok info ↔
      ∃ version, decision.version = some version ∧ version.info = info := by
  rw [Decision.info]
  cases decision.version <;> simp

namespace Resolution

/-- Takes decisions under names, one after the other, and tells of each whether it was taken. -/
def decideEach (r : Resolution) : List (String × Decision) → List Bool × Resolution
  | [] => ([], r)
  | (name, decision) :: rest =>
    let (taken, next) := r.tryDecide (.ofName name) decision
    let (others, last) := next.decideEach rest
    (taken :: others, last)

/-- The first decision under the key. -/
def firstUnder (key : TypeKey) (calls : List (String × Decision)) : Option Decision :=
  (calls.find? fun call => normalizeName call.1 = key.text).map Prod.snd

/-- The decisions and the unresolved names are what the calls so far make of the names that were
unresolved to begin with. -/
structure Tracks (unresolved : NameSet) (calls : List (String × Decision)) (answers : List Bool)
    (r : Resolution) : Prop where
  answered : answers.length = calls.length
  /-- A decision is taken just when none was called for before under its key. -/
  taken_iff : ∀ before call after, calls = before ++ call :: after →
    (answers[before.length]? = some true ↔
      ∀ earlier ∈ before, normalizeName earlier.1 ≠ normalizeName call.1)
  decided : ∀ key, r.decisions.find? key = firstUnder key calls
  unresolved_iff : ∀ name, name ∈ r.unresolved ↔
    name ∈ unresolved ∧ ∀ call ∈ calls, normalizeName call.1 ≠ name

variable {unresolved : NameSet} {calls : List (String × Decision)} {answers : List Bool}
  {r : Resolution}

/-! ## The step -/

theorem tracks_nil (unresolved : NameSet) (bucket : Datum) :
    Tracks unresolved [] [] { unresolved := unresolved, bucket := bucket } where
  answered := rfl
  taken_iff before call after split := by simp at split
  decided _ := rfl
  unresolved_iff _ := ⟨fun member => ⟨member, nofun⟩, fun both => both.1⟩

theorem firstUnder_eq_none_iff {key : TypeKey} :
    firstUnder key calls = none ↔ ∀ call ∈ calls, normalizeName call.1 ≠ key.text := by
  simp [firstUnder]

theorem firstUnder_snoc (key : TypeKey) (calls : List (String × Decision)) (name : String)
    (decision : Decision) :
    firstUnder key (calls ++ [(name, decision)]) =
      (firstUnder key calls).or (if key = .ofName name then some decision else none) := by
  have own : normalizeName name = key.text ↔ key = .ofName name :=
    ⟨fun same => TypeKey.ext same.symm, fun same => by rw [same, TypeKey.text_ofName]⟩
  rw [firstUnder, List.find?_append, Option.map_or, ← firstUnder]
  by_cases same : key = .ofName name
  · subst same
    simp
  · simp [mt own.mp same, same]

theorem taken_tryDecide (key : TypeKey) (decision : Decision) :
    (r.tryDecide key decision).1 = true ↔ r.decisions.find? key = none := by
  rw [tryDecide]
  by_cases decided : r.decisions.contains key = true
  · rw [if_pos decided]
    rw [OrderedMap.contains, Option.isSome_iff_ne_none] at decided
    simp [decided]
  · rw [if_neg decided]
    simpa [OrderedMap.contains] using decided

theorem mem_unresolved_tryDecide {key : TypeKey} {decision : Decision} {name : String} :
    name ∈ (r.tryDecide key decision).2.unresolved ↔
      name ∈ r.unresolved ∧ (r.decisions.find? key = none → name ≠ key.text) := by
  rw [tryDecide]
  by_cases decided : r.decisions.contains key = true
  · rw [if_pos decided]
    rw [OrderedMap.contains, Option.isSome_iff_ne_none] at decided
    simp [decided]
  · rw [if_neg decided]
    have undecided : r.decisions.find? key = none := by
      simpa [OrderedMap.contains] using decided
    simp [undecided]

theorem Tracks.undecided_iff (tracks : Tracks unresolved calls answers r) (name : String) :
    r.decisions.find? (.ofName name) = none ↔
      ∀ call ∈ calls, normalizeName call.1 ≠ normalizeName name := by
  rw [tracks.decided, firstUnder_eq_none_iff, TypeKey.text_ofName]

/-- One more call: it is the first one under its key and is taken, or it changes nothing. -/
theorem Tracks.decide (tracks : Tracks unresolved calls answers r) (name : String)
    (decision : Decision) :
    Tracks unresolved (calls ++ [(name, decision)])
      (answers ++ [(r.tryDecide (.ofName name) decision).1])
      (r.tryDecide (.ofName name) decision).2 where
  answered := by simp [tracks.answered]
  taken_iff before call after split := by
    rcases List.eq_nil_or_concat after with rfl | ⟨later, last, rfl⟩
    · obtain ⟨rfl, same⟩ := List.append_inj' split rfl
      obtain rfl := List.singleton_inj.mp same
      rw [← tracks.answered, List.getElem?_concat_length, Option.some_inj, taken_tryDecide,
        tracks.undecided_iff]
    · rw [List.concat_eq_append, ← List.cons_append, ← List.append_assoc] at split
      obtain ⟨rfl, -⟩ := List.append_inj' split rfl
      have among : before.length < answers.length := by simp [tracks.answered]
      rw [List.getElem?_append_left among]
      exact tracks.taken_iff before call later rfl
  decided key := by
    rw [firstUnder_snoc, ← tracks.decided]
    exact find?_decide r (.ofName name) key decision
  unresolved_iff other := by
    rw [mem_unresolved_tryDecide, tracks.unresolved_iff, tracks.undecided_iff,
      TypeKey.text_ofName]
    simp only [List.mem_append, List.mem_singleton, or_imp, forall_and, forall_eq]
    constructor
    · rintro ⟨⟨member, apart⟩, own⟩
      refine ⟨member, apart, fun same => ?_⟩
      -- the key of this call is the name itself, so no call before had it
      exact own (fun call earlier => same ▸ apart call earlier) same.symm
    · rintro ⟨member, apart, own⟩
      exact ⟨⟨member, apart⟩, fun _ same => own same.symm⟩

/-! ## The run -/

theorem decideEach_snoc (r : Resolution) (calls : List (String × Decision)) (name : String)
    (decision : Decision) :
    r.decideEach (calls ++ [(name, decision)]) =
      ((r.decideEach calls).1 ++ [((r.decideEach calls).2.tryDecide (.ofName name) decision).1],
        ((r.decideEach calls).2.tryDecide (.ofName name) decision).2) := by
  induction calls generalizing r with
  | nil => rfl
  | cons call rest ih =>
    rw [List.cons_append, decideEach, decideEach]
    simp only [ih, List.cons_append]

theorem tracks_decideEach (unresolved : NameSet) (bucket : Datum)
    (calls : List (String × Decision)) :
    Tracks unresolved calls (decideEach { unresolved := unresolved, bucket := bucket } calls).1
      (decideEach { unresolved := unresolved, bucket := bucket } calls).2 := by
  induction calls using List.reverseRecOn with
  | nil => exact tracks_nil unresolved bucket
  | append_singleton calls call ih =>
    rw [decideEach_snoc]
    exact ih.decide call.1 call.2

/-! ## The versions -/

/-- The resolution is told by the first decisions, and so are its versions. -/
structure KeepsFirst (unresolved : NameSet) (calls : List (String × Decision))
    (answers : List Bool) (r : Resolution) : Prop extends Tracks unresolved calls answers r where
  ascending : (r.versionInfos.map fun info => info.1.text).Pairwise (· < ·)
  infos_iff : ∀ key info, (key, info) ∈ r.versionInfos ↔
    ∃ decision, firstUnder key calls = some decision ∧ decision.info = .ok info
  /-- The infos are asked of the decisions that have one, none of which fails to give it. -/
  asked : (r.sortedDecisions.filter (·.2.version.isSome)).mapM
      (fun entry => do return (entry.1, ← entry.2.info)) = .ok r.versionInfos

theorem mapM_info (entries : List (TypeKey × Decision)) :
    (entries.filter (·.2.version.isSome)).mapM
        (fun entry => do return (entry.1, ← entry.2.info)) =
      (.ok (entries.filterMap fun (key, decision) =>
        decision.version.map fun version => (key, version.info)) : Except Fault _) := by
  induction entries with
  | nil => rfl
  | cons entry rest ih =>
    obtain ⟨key, version, selection, plan⟩ := entry
    cases version with
    | none => simpa using ih
    | some version =>
      rw [List.filter_cons_of_pos rfl, List.mapM_cons, ih]
      rfl

theorem Tracks.keepsFirst (tracks : Tracks unresolved calls answers r) :
    KeepsFirst unresolved calls answers r where
  toTracks := tracks
  ascending := r.ascending_versionInfos
  infos_iff key info := by
    simp only [mem_versionInfos, tracks.decided, Decision.info_eq_ok_iff]
    constructor
    · rintro ⟨decision, version, first, chosen, same⟩
      exact ⟨decision, first, version, chosen, same⟩
    · rintro ⟨decision, first, version, chosen, same⟩
      exact ⟨decision, version, first, chosen, same⟩
  asked := mapM_info r.sortedDecisions

/-- **A resolution is written once.** Whatever names are unresolved to begin with, and whatever
decisions are called for under whatever spellings, the first decision under each key is taken and
stands, and no other is. The unresolved names are those that are no key of a call, and the versions
are those of the first decisions that have one. -/
theorem decideEach_keepsFirst (unresolved : NameSet) (bucket : Datum)
    (calls : List (String × Decision)) :
    KeepsFirst unresolved calls
      (decideEach { unresolved := unresolved, bucket := bucket } calls).1
      (decideEach { unresolved := unresolved, bucket := bucket } calls).2 :=
  (tracks_decideEach unresolved bucket calls).keepsFirst

/-- The second spelling comes too late, and a name that is no key stays unresolved. -/
example :
    let start : Resolution := { unresolved := NameSet.ofList ["spark", "Spark"] }
    let (answers, last) := start.decideEach [(" Spark", .noVersion), ("SPARK", .noVersion)]
    answers = [true, false] ∧ last.unresolved.toList = ["Spark"] ∧ last.versionInfos = [] := by
  decide +kernel

end Resolution

end Rollout

import Rollout.Proofs.Fallible
import Rollout.Proofs.Lookup.Leads
import Rollout.Resolution.Requests

/-!
# Exact versions

A request for one version by its label is answered from the candidates that the version catalog
finds. The catalog may find near matches, duplicates or nothing: the **first** candidate counts that
has the type and the label, in any spelling (`IsFirst`), and of the candidates nothing else does
(`exact_start_eq`). Only once there is one are the allowed states read, so an unknown state is no
failure of a request for a version that does not exist (`accepts_exact`).
-/

namespace Rollout

namespace ImageVersion

/-- The type and the label of the version are texts. -/
def IsTyped (v : ImageVersion) : Prop :=
  (∃ own, v.imageType = .text own) ∧ ∃ ownLabel, v.version = .text ownLabel

/-- The version has this name for its type, but for letter case and blanks around it, and this
label, but for letter case. -/
def isCalled (v : ImageVersion) (name label : String) : Bool :=
  match v.imageType, v.version with
  | .text own, .text ownLabel =>
    normalizeName own == normalizeName name &&
      Text.lower ownLabel.toList == Text.lower label.toList
  | _, _ => false

theorem hasLabel_eq {v : ImageVersion} {ownLabel : String} (labelled : v.version = .text ownLabel)
    (label : String) : v.hasLabel (.text label) =
      .ok (Text.lower ownLabel.toList == Text.lower label.toList) := by
  rw [hasLabel, sameLabel, labelled]
  refine Fallible.bind_eq_ok_iff.mpr ⟨_, foldLabel_text ownLabel,
    Fallible.bind_eq_ok_iff.mpr ⟨_, foldLabel_text label, ?_⟩⟩
  refine congrArg Except.ok (Bool.eq_iff_iff.mpr ?_)
  rw [beq_iff_eq, beq_iff_eq, String.ofList_inj]

theorem IsTyped.isNamed_eq {v : ImageVersion} (typed : v.IsTyped) (name label : String) :
    v.isNamed (.text name) (.text label) = .ok (v.isCalled name label) := by
  obtain ⟨⟨own, named⟩, ownLabel, labelled⟩ := typed
  have keyed : v.key = .ok (.ofName own) := by rw [key, named, TypeKey.ofDatum_text]
  have called : v.isCalled name label = (normalizeName own == normalizeName name &&
      Text.lower ownLabel.toList == Text.lower label.toList) := by
    rw [isCalled, named, labelled]
  refine Fallible.bind_eq_ok_iff.mpr ⟨_, keyed,
    Fallible.bind_eq_ok_iff.mpr ⟨_, TypeKey.ofDatum_text name, ?_⟩⟩
  rw [called]
  by_cases same : TypeKey.ofName own = TypeKey.ofName name
  · have texts : normalizeName own = normalizeName name := congrArg TypeKey.text same
    rw [if_pos same, hasLabel_eq labelled, beq_iff_eq.mpr texts, Bool.true_and]
  · have texts : normalizeName own ≠ normalizeName name := fun equal =>
      same (@TypeKey.ext (.ofName own) (.ofName name) equal)
    rw [if_neg same, beq_eq_false_iff_ne.mpr texts, Bool.false_and]
    rfl

end ImageVersion

/-- Of the candidates, the version is the first one that has the name and the label. -/
def IsFirst (found : List ImageVersion) (name label : String) (version : ImageVersion) : Prop :=
  ∃ before after, found = before ++ version :: after ∧ version.isCalled name label = true ∧
    ∀ other ∈ before, other.isCalled name label = false

theorem isFirst_iff {found : List ImageVersion} {name label : String} {version : ImageVersion} :
    IsFirst found name label version ↔ found.find? (·.isCalled name label) = some version := by
  rw [List.find?_eq_some_iff_append, IsFirst]
  simp only [Bool.not_eq_true']
  constructor
  · rintro ⟨before, after, split, called, earlier⟩
    exact ⟨called, before, after, split, earlier⟩
  · rintro ⟨called, before, after, split, earlier⟩
    exact ⟨before, after, split, called, earlier⟩

theorem IsFirst.unique {found : List ImageVersion} {name label : String}
    {version other : ImageVersion} (is_first : IsFirst found name label version)
    (other_first : IsFirst found name label other) : other = version :=
  Option.some.inj ((isFirst_iff.mp other_first).symm.trans (isFirst_iff.mp is_first))

theorem IsFirst.not_forall {found : List ImageVersion} {name label : String}
    {version : ImageVersion} (is_first : IsFirst found name label version) :
    ¬ ∀ candidate ∈ found, candidate.isCalled name label = false := by
  obtain ⟨before, after, rfl, called, -⟩ := is_first
  intro none_called
  exact absurd (none_called version (by simp)) (by simp [called])

/-! ## Allowed states -/

/-- What a caller gives for a state that it allows. -/
inductive Wish where
  | state (state : State)
  /-- A text, which may name a state. -/
  | text (text : String)

namespace Wish

def toDatum : Wish → Datum
  | state s => .text s.name
  | text t => .text t

/-- The state that is allowed, if it is one. -/
def state? : Wish → Option State
  | state s => some s
  | text t => State.ofText? t

/-- Every wish is for a state. -/
def AllKnown (wishes : List Wish) : Prop :=
  ∀ wish ∈ wishes, wish.state?.isSome = true

/-- Some wish is for this state. -/
def Includes (wishes : List Wish) (s : State) : Prop :=
  ∃ wish ∈ wishes, wish.state? = some s

theorem not_allKnown_iff {wishes : List Wish} :
    ¬ AllKnown wishes ↔ ∃ wish ∈ wishes, wish.state? = none := by
  simp [AllKnown]

theorem ofText?_name (s : State) : State.ofText? s.name = some s := by
  cases s <;> decide +kernel

theorem ofDatum_toDatum {wish : Wish} {s : State} (known : wish.state? = some s) :
    State.ofDatum wish.toDatum = .ok s := by
  have parsed : ∀ {text : String}, State.ofText? text = some s →
      State.ofDatum (.text text) = .ok s := by
    intro text names
    rw [State.ofDatum, State.parse, names]
  cases wish with
  | state own => exact parsed ((ofText?_name own).trans known)
  | text t => exact parsed known

theorem ofDatum_unknown {wish : Wish} (unknown : wish.state? = none) :
    ∃ text, State.ofDatum wish.toDatum = .error (.unknownState text) := by
  cases wish with
  | state own => cases unknown
  | text t =>
    refine ⟨t, ?_⟩
    rw [toDatum, State.ofDatum, State.parse, show State.ofText? t = none from unknown]

/-- The states of the wishes are read in their order, up to the first wish that is for none. -/
theorem mapM_ofDatum (wishes : List Wish) :
    (∃ states : List State, wishes.map state? = states.map some ∧
      (wishes.map toDatum).mapM State.ofDatum = .ok states) ∨
    (∃ wish ∈ wishes, wish.state? = none) ∧
      ∃ text, (wishes.map toDatum).mapM State.ofDatum = .error (.unknownState text) := by
  induction wishes with
  | nil => exact .inl ⟨[], rfl, rfl⟩
  | cons wish rest ih =>
    simp only [List.map_cons, List.mapM_cons]
    cases wished : wish.state? with
    | none =>
      obtain ⟨text, failed⟩ := ofDatum_unknown wished
      refine .inr ⟨⟨wish, List.mem_cons_self, wished⟩, text, ?_⟩
      rw [failed]
      rfl
    | some s =>
      rw [ofDatum_toDatum wished]
      rcases ih with ⟨states, same, read⟩ | ⟨⟨other, member, unknown⟩, text, failed⟩
      · refine .inl ⟨s :: states, by rw [same, List.map_cons], ?_⟩
        rw [read]
        rfl
      · refine .inr ⟨⟨other, List.mem_cons_of_mem _ member, unknown⟩, text, ?_⟩
        rw [failed]
        rfl

theorem allKnown_of_map {wishes : List Wish} {states : List State}
    (same : wishes.map state? = states.map some) : AllKnown wishes := by
  intro wish member
  have listed : wish.state? ∈ states.map some := same ▸ List.mem_map_of_mem member
  obtain ⟨s, -, wished⟩ := List.mem_map.mp listed
  rw [← wished]
  rfl

theorem includes_iff_of_map {wishes : List Wish} {states : List State}
    (same : wishes.map state? = states.map some) (s : State) :
    Includes wishes s ↔ s ∈ states := by
  have listed : some s ∈ wishes.map state? ↔ some s ∈ states.map some := by rw [same]
  simpa [Includes] using listed

end Wish

namespace Resolver

theorem allowedStates_list (items : List Datum) :
    allowedStates (.list items) = items.mapM State.ofDatum := by
  cases items <;> rfl

/-! ## Requests -/

variable {r : Resolver} {name label : String} {found : Option (List ImageVersion)}

/-- The candidate, if its state is one of these; without states every state is. -/
def admitted (name label : String) (version : ImageVersion) (states : List State) :
    Except Fault VersionInfo :=
  if states.isEmpty || states.contains version.state then .ok version.info
  else
    let names := ", ".intercalate (NameSet.ofList (states.map State.name)).toList
    .error (.versionNotFound (.text name) (.text label)
      s!"state {version.state.name} is not one of {names}")

/-- What a request comes to by the candidate and by the states that it allows. -/
def judged (name label : String) (allowed : Except Fault (List State)) :
    Option ImageVersion → Except Fault VersionInfo
  | none => .error (.versionNotFound (.text name) (.text label) "not in the image version catalog")
  | some version => allowed >>= admitted name label version

/-- Of what the catalog finds, the first candidate with the name and the label counts. -/
theorem exact_start_eq
    (answered : r.sources.findVersions [] (.text name) (.text label) = .ok found)
    (typed : ∀ version ∈ found.getD [], version.IsTyped) (allowed : Datum) :
    (r.exact (.text name) (.text label) allowed).start.1 =
      judged name label (allowedStates allowed)
        ((found.getD []).find? (·.isCalled name label)) := by
  have sought : Fallible.find? (·.isNamed (.text name) (.text label)) (found.getD []) =
      .ok ((found.getD []).find? (·.isCalled name label)) :=
    Fallible.find?_eq_ok fun version member => (typed version member).isNamed_eq name label
  have asked : (Lookup.ask (.findVersions (.text name) (.text label))
      (r.sources.findVersions · (.text name) (.text label))).Arrives [] (.ok found)
      [.findVersions (.text name) (.text label)] :=
    Lookup.arrives_ask _ answered
  have given := fun calls => Lookup.arrives_give sought calls
  suffices arrives : (r.exact (.text name) (.text label) allowed).Arrives []
      (judged name label (allowedStates allowed) ((found.getD []).find? (·.isCalled name label)))
      [.findVersions (.text name) (.text label)] from arrives.start.1
  cases first : (found.getD []).find? (·.isCalled name label) with
  | none =>
    rw [first] at given
    exact Lookup.Arrives.bind_error
      (asked.bind_ok ((given _).bind_ok (Lookup.arrives_throw _ _)))
  | some version =>
    rw [first] at given
    refine Lookup.Arrives.bind_ok
      (asked.bind_ok ((given _).bind_ok (Lookup.arrives_pure version _))) ?_
    cases read : allowedStates allowed with
    | error fault => exact (Lookup.arrives_give rfl _).bind_error
    | ok states =>
      refine Lookup.Arrives.bind_ok (Lookup.arrives_give rfl _) ?_
      show Lookup.Leads _ _ fun result after =>
        result = admitted name label version states ∧ after = _
      by_cases fits : states.isEmpty || states.contains version.state
      · rw [if_pos fits, admitted, if_pos fits]
        exact Lookup.arrives_pure _ _
      · rw [if_neg fits, admitted, if_neg fits]
        exact Lookup.arrives_throw _ _

/-- The request fails with a fault of this kind. -/
def FailsAs {α : Type} (result : Except Fault α) (kind : String) : Prop :=
  ∃ fault, result = .error fault ∧ fault.kind = kind

/-- What becomes of a request for the version with this name and label, by the candidates and by the
states that the request allows. -/
structure Accepts (found : List ImageVersion) (name label : String) (wishes : List Wish)
    (result : Except Fault VersionInfo) : Prop where
  returns_iff : (∃ info, result = .ok info) ↔
    ∃ version, IsFirst found name label version ∧
      (wishes = [] ∨ Wish.AllKnown wishes ∧ Wish.Includes wishes version.state)
  returned : ∀ info, result = .ok info →
    ∃ version, IsFirst found name label version ∧ info.version = version.version ∧
      info.path = version.path ∧ info.state = version.state
  notFound_iff : FailsAs result "VersionNotFound" ↔
    (∀ version ∈ found, version.isCalled name label = false) ∨
    ∃ version, IsFirst found name label version ∧ wishes ≠ [] ∧ Wish.AllKnown wishes ∧
      ¬ Wish.Includes wishes version.state
  unknownState_iff : FailsAs result "ValueError" ↔
    (∃ version, IsFirst found name label version) ∧ ∃ wish ∈ wishes, wish.state? = none

theorem failsAs_error_iff {α : Type} {fault : Fault} {kind : String} :
    FailsAs (.error fault : Except Fault α) kind ↔ fault.kind = kind :=
  ⟨fun ⟨_, same, of_kind⟩ => Except.error.inj same ▸ of_kind, fun of_kind => ⟨_, rfl, of_kind⟩⟩

theorem not_failsAs_ok {α : Type} (a : α) (kind : String) :
    ¬ FailsAs (.ok a : Except Fault α) kind := nofun

theorem failsAs_notFound {α : Type} (imageType version : Datum) (detail : String) :
    FailsAs (.error (.versionNotFound imageType version detail) : Except Fault α)
      "VersionNotFound" :=
  failsAs_error_iff.mpr rfl

theorem not_failsAs_notFound {α : Type} (imageType version : Datum) (detail : String) :
    ¬ FailsAs (.error (.versionNotFound imageType version detail) : Except Fault α)
      "ValueError" := by
  rw [failsAs_error_iff]
  simp [Fault.kind]

variable {candidates : List ImageVersion} {wishes : List Wish} {version : ImageVersion}

theorem accepts_missing (missing : candidates.find? (·.isCalled name label) = none)
    (detail : String) :
    Accepts candidates name label wishes
      (.error (.versionNotFound (.text name) (.text label) detail)) := by
  have nothing : ∀ version, ¬ IsFirst candidates name label version := by
    intro version is_first
    rw [isFirst_iff, missing] at is_first
    cases is_first
  have none_called : ∀ version ∈ candidates, version.isCalled name label = false := by
    simpa using List.find?_eq_none.mp missing
  exact {
    returns_iff := ⟨nofun, fun ⟨version, is_first, _⟩ => absurd is_first (nothing version)⟩
    returned := nofun
    notFound_iff := iff_of_true (failsAs_notFound _ _ _) (.inl none_called)
    unknownState_iff := iff_of_false (not_failsAs_notFound _ _ _)
      fun ⟨⟨version, is_first⟩, _⟩ => nothing version is_first }

theorem accepts_found (is_first : IsFirst candidates name label version)
    (all_known : Wish.AllKnown wishes)
    (allowed : wishes = [] ∨ Wish.Includes wishes version.state) :
    Accepts candidates name label wishes (.ok version.info) where
  returns_iff := iff_of_true ⟨_, rfl⟩
    ⟨version, is_first, allowed.imp_right fun among => ⟨all_known, among⟩⟩
  returned := by
    rintro _ ⟨⟩
    exact ⟨version, is_first, rfl, rfl, rfl⟩
  notFound_iff := by
    refine iff_of_false (not_failsAs_ok _ _) ?_
    rintro (none_called | ⟨other, other_first, some_wish, -, outside⟩)
    · exact is_first.not_forall none_called
    · obtain rfl := is_first.unique other_first
      exact allowed.elim some_wish outside
  unknownState_iff := iff_of_false (not_failsAs_ok _ _)
    fun ⟨_, unknown⟩ => Wish.not_allKnown_iff.mpr unknown all_known

theorem accepts_refused (is_first : IsFirst candidates name label version)
    (all_known : Wish.AllKnown wishes)
    (refused : ¬ (wishes = [] ∨ Wish.Includes wishes version.state)) (detail : String) :
    Accepts candidates name label wishes
      (.error (.versionNotFound (.text name) (.text label) detail)) where
  returns_iff := by
    refine ⟨nofun, ?_⟩
    rintro ⟨other, other_first, allowed⟩
    obtain rfl := is_first.unique other_first
    exact absurd (allowed.imp_right And.right) refused
  returned := nofun
  notFound_iff := iff_of_true (failsAs_notFound _ _ _)
    (.inr ⟨version, is_first, (not_or.mp refused).1, all_known, (not_or.mp refused).2⟩)
  unknownState_iff := iff_of_false (not_failsAs_notFound _ _ _)
    fun ⟨_, unknown⟩ => Wish.not_allKnown_iff.mpr unknown all_known

theorem accepts_unknown (is_first : IsFirst candidates name label version)
    (unknown : ∃ wish ∈ wishes, wish.state? = none) (text : String) :
    Accepts candidates name label wishes (.error (.unknownState text)) where
  returns_iff := by
    refine ⟨nofun, ?_⟩
    rintro ⟨other, -, rfl | ⟨all_known, -⟩⟩
    · obtain ⟨wish, ⟨⟩, -⟩ := unknown
    · exact absurd all_known (Wish.not_allKnown_iff.mpr unknown)
  returned := nofun
  notFound_iff := by
    refine iff_of_false (mt failsAs_error_iff.mp (by simp [Fault.kind])) ?_
    rintro (none_called | ⟨other, -, -, all_known, -⟩)
    · exact is_first.not_forall none_called
    · exact Wish.not_allKnown_iff.mpr unknown all_known
  unknownState_iff := iff_of_true (failsAs_error_iff.mpr rfl) ⟨⟨version, is_first⟩, unknown⟩

/-- The states that were read allow what the wishes allow. -/
theorem allows_iff {states : List State} (known : wishes.map Wish.state? = states.map some)
    (state : State) :
    (states.isEmpty || states.contains state) = true ↔
      wishes = [] ∨ Wish.Includes wishes state := by
  have empty_iff : states = [] ↔ wishes = [] := by
    rw [← List.map_eq_nil_iff (f := some), ← known, List.map_eq_nil_iff]
  rw [Bool.or_eq_true, List.isEmpty_iff, empty_iff, List.contains_iff_mem,
    Wish.includes_iff_of_map known]

theorem accepts_admitted (is_first : IsFirst candidates name label version)
    {states : List State} (known : wishes.map Wish.state? = states.map some) :
    Accepts candidates name label wishes (admitted name label version states) := by
  have all_known := Wish.allKnown_of_map known
  rw [admitted]
  split
  · rename_i allowed
    exact accepts_found is_first all_known ((allows_iff known _).mp allowed)
  · rename_i refused
    exact accepts_refused is_first all_known (mt (allows_iff known _).mpr refused) _

/-- However the candidates and the wishes are, the first candidate and the wishes decide. -/
theorem accepts_judged (candidates : List ImageVersion) (name label : String)
    (wishes : List Wish) :
    Accepts candidates name label wishes
      (judged name label (allowedStates (.list (wishes.map Wish.toDatum)))
        (candidates.find? (·.isCalled name label))) := by
  cases first : candidates.find? (·.isCalled name label) with
  | none => exact accepts_missing first _
  | some version =>
    have is_first := isFirst_iff.mpr first
    rw [allowedStates_list]
    rcases Wish.mapM_ofDatum wishes with ⟨states, known, read⟩ | ⟨unknown, text, failed⟩
    · rw [read]
      exact accepts_admitted is_first known
    · rw [failed]
      exact accepts_unknown is_first unknown text

end Resolver

end Rollout

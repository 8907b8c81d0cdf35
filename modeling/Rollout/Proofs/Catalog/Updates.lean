import Rollout.Catalog.Update
import Rollout.Proofs.Catalog.Changes
import Rollout.Proofs.OrderedMap

/-!
# Updates that fail change nothing

An update takes its steps one after the other and may fail between them. In every catalog that comes
about by documents and mutations, also by mutations that failed, a mutation is nevertheless made as
a whole or not at all (`mutation_allOrNothing`).

The steps that could stay behind are those of a version that is added: its type is registered, and
the list of versions opened, before its label is compared with those in the list. It is compared
only when the list has versions, and then there was nothing to register and nothing to open. That
types with versions are registered is the invariant that carries this (`Coherent`).
-/

namespace Rollout.Catalog

variable {α : Type} {c : Catalog}

/-- Versions lie under the key of their own type, and types with versions are registered. -/
structure Coherent (c : Catalog) : Prop where
  keyed : ∀ key, ∀ v ∈ c.versionsOf key, v.key = .ok key
  registered : ∀ key, c.versionsOf key ≠ [] → c.types.contains key = true

/-- What an update comes to from the catalog, beside the change made at once: a refusal that leaves
the catalog as it was, or the changed catalog. -/
inductive Atomic (c : Catalog) : Except Fault (α × Catalog) → Except Fault α × Catalog → Prop where
  | refused (fault : Fault) : Atomic c (.error fault) (.error fault, c)
  | made {a : α} {changed : Catalog} (coherent : changed.Coherent) :
    Atomic c (.ok (a, changed)) (.ok a, changed)

theorem coherent_empty : empty.Coherent where
  keyed := by
    intro key v member
    cases member
  registered := by
    intro key filled
    exact absurd rfl filled

/-- A key may be given a list of its own versions when it has a type. -/
theorem Coherent.put (coherent : c.Coherent) {key : TypeKey} {types : OrderedMap TypeKey ImageType}
    {versions : List ImageVersion}
    (keeps : ∀ k, c.types.contains k = true → types.contains k = true)
    (typed : versions ≠ [] → types.contains key = true) (own : ∀ v ∈ versions, v.key = .ok key) :
    Coherent { c with types := types, versions := c.versions.put key versions } where
  keyed := by
    intro k v member
    rw [versionsOf_put] at member
    split at member
    · rename_i same
      rw [same]
      exact own v member
    · exact coherent.keyed k v member
  registered := by
    intro k filled
    rw [versionsOf_put] at filled
    split at filled
    · rename_i same
      rw [same]
      exact typed filled
    · exact keeps k (coherent.registered k filled)

theorem contains_put {types : OrderedMap TypeKey ImageType} {key k : TypeKey} {t : ImageType}
    (contained : types.contains k = true) : (types.put key t).contains k = true := by
  rw [OrderedMap.contains, OrderedMap.find?_put]
  split
  · rfl
  · exact contained

theorem contains_put_self (types : OrderedMap TypeKey ImageType) (key : TypeKey) (t : ImageType) :
    (types.put key t).contains key = true := by
  rw [OrderedMap.contains, OrderedMap.find?_put, if_pos rfl]
  rfl

/-! ## Steps -/

namespace Update

theorem get_apply (c : Catalog) : (get : Update Catalog) c = (.ok c, c) := rfl

theorem putType_apply (key : TypeKey) (t : ImageType) (c : Catalog) :
    putType key t c = (.ok (), { c with types := c.types.put key t }) := rfl

theorem ensureType_apply (key : TypeKey) (t : ImageType) (c : Catalog) :
    ensureType key t c =
      (.ok (), { c with
        types := if c.types.contains key then c.types else c.types.put key t }) := rfl

theorem putVersions_apply (key : TypeKey) (versions : List ImageVersion) (c : Catalog) :
    putVersions key versions c = (.ok (), { c with versions := c.versions.put key versions }) := rfl

theorem openVersions_apply (key : TypeKey) (c : Catalog) :
    openVersions key c =
      (.ok (c.versionsOf key), { c with versions := c.versions.put key (c.versionsOf key) }) := by
  rw [openVersions, Fallible.bind_apply, get_apply, versionsOf]
  dsimp only
  cases found : c.versions.find? key with
  | none => rfl
  | some versions =>
    rw [Option.getD_some, OrderedMap.put_of_find? found]
    rfl

/-- A list with versions is there already. -/
theorem openVersions_filled {key : TypeKey} (filled : c.versionsOf key ≠ []) :
    { c with versions := c.versions.put key (c.versionsOf key) } = c := by
  rw [versionsOf] at filled ⊢
  cases found : c.versions.find? key with
  | none => exact absurd (by rw [found]; rfl) filled
  | some versions => rw [Option.getD_some, OrderedMap.put_of_find? found]

/-- The labels are compared with those in the list, and the list changes when that succeeds. -/
theorem relist_apply {key : TypeKey} {v : ImageVersion}
    (keyed : ∀ u ∈ c.versionsOf key, u.key = .ok key) (own : v.key = .ok key) :
    relist key v c =
      match Fallible.filter (fun u => (!·) <$> u.hasLabel v.version) (c.versionsOf key) with
      | .ok others => (.ok (), { c with versions := c.versions.put key (others ++ [v]) })
      | .error fault =>
        (.error fault, { c with versions := c.versions.put key (c.versionsOf key) }) := by
  have tests : ∀ u ∈ c.versionsOf key,
      (!·) <$> u.isNamed v.imageType v.version = (!·) <$> u.hasLabel v.version := by
    intro u member
    rw [isNamed_eq (keyed u member) own]
  rw [relist, Fallible.bind_apply, openVersions_apply]
  dsimp only
  rw [Fallible.filter_congr tests, Fallible.bind_apply, Fallible.ofExcept_apply]
  cases Fallible.filter (fun u => (!·) <$> u.hasLabel v.version) (c.versionsOf key) with
  | error fault => rfl
  | ok others =>
    dsimp only
    rw [Fallible.bind_apply, putVersions_apply]
    dsimp only
    rw [OrderedMap.put_put, Fallible.bind_apply, get_apply]
    dsimp only
    rw [putVersions_apply, versionsOf_put, if_pos rfl]
    dsimp only
    rw [OrderedMap.put_put]

/-! ## Updates -/

theorem registerType_atomic (coherent : c.Coherent) (name description : Datum) :
    Atomic c (c.registerType name description) (registerType name description c) := by
  rw [registerType, Fallible.bind_apply, Fallible.ofExcept_apply, Catalog.registerType, addType]
  cases keyed : ImageType.key { name := name, description := description } with
  | error fault => exact .refused fault
  | ok key =>
    dsimp only
    rw [Fallible.bind_apply, putType_apply]
    dsimp only
    rw [Fallible.bind_apply, Fallible.ofExcept_apply]
    dsimp only
    rw [Fallible.bind_apply, openVersions_apply]
    refine .made (coherent.put (fun _ => contains_put) (fun _ => contains_put_self ..) ?_)
    exact coherent.keyed key

/-- The version that is added, in place of those with its label. -/
theorem addVersion_eq {key : TypeKey} {v : ImageVersion} (own : v.key = .ok key) :
    c.addVersion v =
      (Fallible.filter (fun u => (!·) <$> u.hasLabel v.version) (c.versionsOf key)).map
        fun others => { c with
          types := if c.types.contains key then c.types
            else c.types.put key { name := v.imageType }
          versions := c.versions.put key (others ++ [v]) } := by
  rw [addVersion, own]
  rfl

/-- Only a list with versions can be compared with a label in vain, and such a list is there
already, as its type is. -/
theorem add_atomic (coherent : c.Coherent) {key : TypeKey} {v : ImageVersion}
    (own : v.key = .ok key) :
    Atomic c (do return (v, ← c.addVersion v))
      ((do
        ensureType key { name := v.imageType }
        relist key v
        return v : Update ImageVersion) c) := by
  rw [addVersion_eq own, Fallible.bind_apply, ensureType_apply]
  generalize typed : (if c.types.contains key then c.types
    else c.types.put key { name := v.imageType }) = types
  have keyed : ∀ u ∈ versionsOf { c with types := types } key, u.key = .ok key :=
    coherent.keyed key
  dsimp only
  rw [Fallible.bind_apply, relist_apply keyed own]
  have listed : versionsOf { c with types := types } key = c.versionsOf key := rfl
  rw [listed]
  cases filtered : Fallible.filter (fun u => (!·) <$> u.hasLabel v.version) (c.versionsOf key) with
  | error fault =>
    have filled : c.versionsOf key ≠ [] := by
      intro nothing
      rw [nothing] at filtered
      cases filtered
    rw [if_pos (coherent.registered key filled)] at typed
    rw [← typed]
    dsimp only
    rw [openVersions_filled filled]
    exact .refused fault
  | ok others =>
    refine .made (coherent.put (fun k contained => ?_) (fun _ => ?_) fun u member => ?_)
    · rw [← typed]
      split
      · exact contained
      · exact contains_put contained
    · rw [← typed]
      split
      · assumption
      · exact contains_put_self ..
    · rcases List.mem_append.mp member with old | new
      · exact coherent.keyed key u ((Fallible.sublist_of_filter filtered).subset old)
      · rw [List.mem_singleton.mp new]
        exact own

theorem registerVersion_atomic (coherent : c.Coherent)
    (imageType version path state releaseTag : Datum) :
    Atomic c (c.registerVersion imageType version path state releaseTag)
      (registerVersion imageType version path state releaseTag c) := by
  rw [registerVersion, Fallible.bind_apply, Fallible.ofExcept_apply, Catalog.registerVersion]
  cases named : TypeKey.ofDatum imageType with
  | error fault => exact .refused fault
  | ok key =>
    dsimp only
    rw [Fallible.bind_apply, Fallible.ofExcept_apply]
    cases State.ofDatum state with
    | error fault => exact .refused fault
    | ok state =>
      have own : ImageVersion.key
          { imageType, version, path := pathOr key path, state, releaseTag } = .ok key := named
      exact add_atomic coherent own

/-- A version is found among the versions of its type, whichever way they are searched. -/
theorem changeState_eq {imageType : Datum} {key : TypeKey}
    (named : TypeKey.ofDatum imageType = .ok key) (version state : Datum) :
    c.changeState imageType version state =
      match Fallible.changeFirst? (·.hasLabel version)
          (fun v => do return { v with state := ← State.ofDatum state }) (c.versionsOf key) with
      | .ok (some (changed, versions)) =>
        .ok (changed, { c with versions := c.versions.put key versions })
      | .ok none => .error (.missing (.text s!"{imageType.display}:{version.display}"))
      | .error fault => .error fault := by
  rw [Catalog.changeState, named]
  change (c.changeVersion? key version _ >>= _) = _
  rw [changeVersion?]
  generalize Fallible.changeFirst? (·.hasLabel version)
    (fun v => do return { v with state := ← State.ofDatum state }) (c.versionsOf key) = result
  rcases result with fault | _ | found <;> rfl

/-- Nothing is changed before the version is found and its new state is read. -/
theorem changeState_atomic (coherent : c.Coherent) (imageType version state : Datum) :
    Atomic c (c.changeState imageType version state) (changeState imageType version state c) := by
  rw [changeState, Fallible.bind_apply, Fallible.ofExcept_apply]
  cases named : TypeKey.ofDatum imageType with
  | error fault =>
    rw [Catalog.changeState, named]
    exact .refused fault
  | ok key =>
    have tests : ∀ u ∈ c.versionsOf key, u.isNamed imageType version = u.hasLabel version :=
      fun u member => isNamed_eq (coherent.keyed key u member) named version
    rw [changeState_eq named]
    dsimp only
    rw [Fallible.bind_apply, get_apply]
    dsimp only
    rw [Fallible.changeFirst?_congr tests, Fallible.bind_apply, Fallible.ofExcept_apply]
    cases changing : Fallible.changeFirst? (·.hasLabel version)
        (fun v => do return { v with state := ← State.ofDatum state }) (c.versionsOf key) with
    | error fault => exact .refused fault
    | ok found =>
      cases found with
      | none => exact .refused _
      | some found =>
        obtain ⟨changed, versions⟩ := found
        obtain ⟨before, v, rest, whole, -, -, made, listed⟩ :=
          Fallible.split_of_changeFirst? changing
        obtain ⟨read, -, same⟩ := Fallible.bind_eq_ok_iff.mp made
        have filled : c.versionsOf key ≠ [] := by simp [whole]
        refine .made (coherent.put (fun _ => id) (fun _ => coherent.registered key filled) ?_)
        intro u member
        rw [listed] at member
        have keyed := coherent.keyed key
        rw [whole] at keyed
        rcases List.mem_append.mp member with early | late
        · exact keyed u (List.mem_append_left _ early)
        · rcases List.mem_cons.mp late with rfl | late
          · cases same
            exact keyed v (by simp)
          · exact keyed u (List.mem_append_right _ (List.mem_cons_of_mem _ late))

/-- The entries and the type are read before the plan is put. -/
theorem changePlan_atomic (coherent : c.Coherent) (imageType entries : Datum) :
    Atomic c ((c.changePlan imageType entries).map ((), ·)) (changePlan imageType entries c) := by
  rw [changePlan, Fallible.bind_apply, Fallible.ofExcept_apply, Catalog.changePlan]
  cases entries.items with
  | error fault => exact .refused fault
  | ok items =>
    simp only [bind, Except.bind]
    cases items.mapM readEntry with
    | error fault => exact .refused fault
    | ok plan =>
      cases TypeKey.ofDatum imageType with
      | error fault => exact .refused fault
      | ok key => exact .made ⟨coherent.keyed, coherent.registered⟩

theorem addRule_atomic (coherent : c.Coherent) (rule : RampRule) :
    Atomic c (.ok (rule, c.addRule rule)) (addRule rule c) :=
  .made ⟨coherent.keyed, coherent.registered⟩

end Update

/-! ## Mutations -/

/-- A call that mutates the catalog. Its arguments may be of any kind. -/
inductive Mutation where
  | addType (name description : Datum)
  | addVersion (imageType version path state releaseTag : Datum)
  | setState (imageType version state : Datum)
  | setPlan (imageType entries : Datum)
  | addRule (rule : RampRule)

namespace Mutation

/-- The update that the call makes. -/
def update : Mutation → Update Unit
  | addType name description => discard (Update.registerType name description)
  | addVersion imageType version path state releaseTag =>
    discard (Update.registerVersion imageType version path state releaseTag)
  | setState imageType version state => discard (Update.changeState imageType version state)
  | setPlan imageType entries => Update.changePlan imageType entries
  | addRule rule => discard (Update.addRule rule)

/-- The catalog with the mutation made at once, unless it is refused. -/
def applyTo (c : Catalog) : Mutation → Except Fault Catalog
  | addType name description => (c.registerType name description).map Prod.snd
  | addVersion imageType version path state releaseTag =>
    (c.registerVersion imageType version path state releaseTag).map Prod.snd
  | setState imageType version state => (c.changeState imageType version state).map Prod.snd
  | setPlan imageType entries => c.changePlan imageType entries
  | addRule rule => .ok (c.addRule rule)

/-- The mutation fails and leaves the catalog as it was, or is made as a whole. -/
structure AllOrNothing (mutation : Mutation) (c : Catalog) : Prop where
  refused : ∀ fault after, mutation.update c = (.error fault, after) →
    after = c ∧ mutation.applyTo c = .error fault
  made : ∀ after, mutation.update c = (.ok (), after) → mutation.applyTo c = .ok after

end Mutation

/-- What an update gives can be left out. -/
theorem Atomic.unit {whole : Except Fault (α × Catalog)} {update : Update α}
    (atomic : Atomic c whole (update c)) :
    Atomic c ((whole.map Prod.snd).map ((), ·)) ((discard update : Update Unit) c) := by
  have run : (discard update : Update Unit) c = ((update c).1.map fun _ => (), (update c).2) := by
    change (update >>= fun _ => pure ()) c = _
    rw [Fallible.bind_apply]
    rcases update c with ⟨fault | a, after⟩ <;> rfl
  rw [run]
  generalize update c = result at atomic
  cases atomic with
  | refused fault => exact .refused fault
  | made coherent => exact .made coherent

theorem update_atomic (coherent : c.Coherent) (mutation : Mutation) :
    Atomic c ((mutation.applyTo c).map ((), ·)) (mutation.update c) := by
  cases mutation with
  | addType name description => exact (Update.registerType_atomic coherent ..).unit
  | addVersion imageType version path state releaseTag =>
    exact (Update.registerVersion_atomic coherent ..).unit
  | setState imageType version state => exact (Update.changeState_atomic coherent ..).unit
  | setPlan imageType entries => exact Update.changePlan_atomic coherent ..
  | addRule rule => exact (Update.addRule_atomic coherent rule).unit

/-- A catalog in which a type has a version and is not registered. -/
def strayCatalog : Catalog :=
  { versions := { entries :=
      [(.ofName "etl", [{ imageType := .text "etl", version := .text "1.0", path := .null }])] } }

-- without the invariant the type is left behind by a version whose label cannot be compared
example : ((Mutation.addVersion (.text "etl") (.int 2) .null (.text "NEW") .null).update
      strayCatalog).1.toOption = none ∧
    ((Mutation.addVersion (.text "etl") (.int 2) .null (.text "NEW") .null).update
      strayCatalog).2.types.keys = [.ofName "etl"] := by decide +kernel

/-- A run that fails left the catalog alone, and one that succeeds made the change as a whole. -/
theorem Atomic.cases_run {whole : Except Fault Catalog} {run : Except Fault Unit × Catalog}
    (atomic : Atomic c (whole.map ((), ·)) run) :
    (∀ fault after, run = (.error fault, after) → after = c ∧ whole = .error fault) ∧
      ∀ after, run = (.ok (), after) → whole = .ok after := by
  cases whole with
  | error fault =>
    cases atomic
    refine ⟨?_, nofun⟩
    rintro _ _ ⟨⟩
    exact ⟨rfl, rfl⟩
  | ok changed =>
    cases atomic
    refine ⟨nofun, ?_⟩
    rintro _ ⟨⟩
    rfl

theorem Atomic.left_coherent {whole : Except Fault (α × Catalog)} {run : Except Fault α × Catalog}
    (atomic : Atomic c whole run) (coherent : c.Coherent) : run.2.Coherent := by
  cases atomic with
  | refused => exact coherent
  | made coherent => exact coherent

theorem Atomic.made_coherent {a : α} {changed : Catalog} {run : Except Fault α × Catalog}
    (atomic : Atomic c (.ok (a, changed)) run) : changed.Coherent := by
  cases atomic with
  | made coherent => exact coherent

/-! ## Catalogs that come about -/

/-- The catalog comes about from one that a document describes, by mutations that may fail. -/
inductive Arises : Catalog → Prop where
  | read {document : Datum} {c : Catalog} : ofDatum document = .ok c → Arises c
  | update {c : Catalog} : Arises c → ∀ mutation : Mutation, Arises (mutation.update c).2

/-- Each item of a document is read by a mutation. -/
def ReadsByMutation {ι : Type} (read : Catalog → ι → Except Fault Catalog) : Prop :=
  ∀ c item changed, read c item = .ok changed →
    ∃ mutation : Mutation, mutation.applyTo c = .ok changed

theorem readType_by_mutation : ReadsByMutation readType := by
  intro c item changed read
  obtain ⟨name, -, read⟩ := Fallible.bind_eq_ok_iff.mp read
  obtain ⟨description, -, read⟩ := Fallible.bind_eq_ok_iff.mp read
  obtain ⟨result, registered, same⟩ := Fallible.bind_eq_ok_iff.mp read
  cases same
  exact ⟨.addType name (description.getD .null), by rw [Mutation.applyTo, registered]; rfl⟩

theorem readVersion_by_mutation : ReadsByMutation readVersion := by
  intro c item changed read
  obtain ⟨imageType, -, read⟩ := Fallible.bind_eq_ok_iff.mp read
  obtain ⟨version, -, read⟩ := Fallible.bind_eq_ok_iff.mp read
  obtain ⟨path, -, read⟩ := Fallible.bind_eq_ok_iff.mp read
  obtain ⟨state, -, read⟩ := Fallible.bind_eq_ok_iff.mp read
  obtain ⟨tag, -, read⟩ := Fallible.bind_eq_ok_iff.mp read
  obtain ⟨result, registered, same⟩ := Fallible.bind_eq_ok_iff.mp read
  cases same
  exact ⟨.addVersion .., by rw [Mutation.applyTo, registered]; rfl⟩

theorem readPlan_by_mutation : ReadsByMutation readPlan := by
  intro c named changed read
  obtain ⟨items, -, read⟩ := Fallible.bind_eq_ok_iff.mp read
  obtain ⟨pairs, -, read⟩ := Fallible.bind_eq_ok_iff.mp read
  exact ⟨.setPlan named.1 _, read⟩

theorem readRule_by_mutation : ReadsByMutation readRule := by
  intro c item changed read
  obtain ⟨name, -, read⟩ := Fallible.bind_eq_ok_iff.mp read
  obtain ⟨flowPattern, -, read⟩ := Fallible.bind_eq_ok_iff.mp read
  obtain ⟨imageType, -, read⟩ := Fallible.bind_eq_ok_iff.mp read
  obtain ⟨version, -, read⟩ := Fallible.bind_eq_ok_iff.mp read
  cases read
  exact ⟨.addRule { name, flowPattern, imageType, version }, rfl⟩

theorem coherent_foldlM {ι : Type} {read : Catalog → ι → Except Fault Catalog}
    (reads : ReadsByMutation read) {items : List ι} {last : Catalog} (coherent : c.Coherent)
    (folded : items.foldlM read c = .ok last) : last.Coherent := by
  induction items generalizing c with
  | nil =>
    cases folded
    exact coherent
  | cons item rest ih =>
    rw [List.foldlM_cons] at folded
    obtain ⟨next, stepped, later⟩ := Fallible.bind_eq_ok_iff.mp folded
    obtain ⟨mutation, applied⟩ := reads c item next stepped
    have atomic := update_atomic coherent mutation
    rw [applied] at atomic
    exact ih atomic.made_coherent later

theorem coherent_ofDatum {document : Datum} (read : ofDatum document = .ok c) : c.Coherent := by
  obtain ⟨types, -, read⟩ := Fallible.bind_eq_ok_iff.mp read
  obtain ⟨typed, folded, read⟩ := Fallible.bind_eq_ok_iff.mp read
  have coherent := coherent_foldlM readType_by_mutation coherent_empty folded
  obtain ⟨versions, -, read⟩ := Fallible.bind_eq_ok_iff.mp read
  obtain ⟨versioned, folded, read⟩ := Fallible.bind_eq_ok_iff.mp read
  have coherent := coherent_foldlM readVersion_by_mutation coherent folded
  obtain ⟨plans, -, read⟩ := Fallible.bind_eq_ok_iff.mp read
  obtain ⟨planned, folded, read⟩ := Fallible.bind_eq_ok_iff.mp read
  have coherent := coherent_foldlM readPlan_by_mutation coherent folded
  obtain ⟨rules, -, folded⟩ := Fallible.bind_eq_ok_iff.mp read
  exact coherent_foldlM readRule_by_mutation coherent folded

theorem Arises.coherent (arose : c.Arises) : c.Coherent := by
  induction arose with
  | read described => exact coherent_ofDatum described
  | update arose mutation ih => exact (update_atomic ih mutation).left_coherent ih

/-- In every catalog that comes about a mutation is made as a whole or not at all. -/
theorem mutation_allOrNothing (arose : c.Arises) (mutation : Mutation) :
    mutation.AllOrNothing c := by
  obtain ⟨refused, made⟩ := (update_atomic arose.coherent mutation).cases_run
  exact ⟨refused, made⟩

/-- The catalog with one version, which a caller registered. -/
def oneVersionCatalog : Catalog :=
  ((Mutation.addVersion (.text "etl") (.text "1.0") .null (.text "NEW") .null).update empty).2

theorem mutation_allOrNothing_unlabelled :
    oneVersionCatalog.Arises ∧
    (Mutation.addVersion (.text "etl") (.int 2) .null (.text "NEW") .null).AllOrNothing
      oneVersionCatalog ∧
    ((Mutation.addVersion (.text "etl") (.int 2) .null (.text "NEW") .null).update
      oneVersionCatalog).1.toOption = none := by
  have opened : Arises empty := .read (show ofDatum (.record []) = .ok empty from rfl)
  have arose : oneVersionCatalog.Arises := .update opened _
  exact ⟨arose, mutation_allOrNothing arose _, by decide +kernel⟩

end Rollout.Catalog

import Rollout.Proofs.Lookup.Yields

/-!
# Look-ups by the calls made

What a look-up **leads** to after certain calls: a result, and all calls made by then. Sources
answer by the calls made before, so these are all that a look-up can depend on, and it only ever
adds to them. In a sequence the second part goes on after the calls of the first one
(`Leads.bind`).

Often only the values count that a look-up **returns**, and nothing is asked of a fault
(`Returns`), or only of what kind the calls are (`Asks`). Where everything is known that the sources
answer, a look-up **arrives** at one result (`Arrives`).
-/

namespace Rollout.Lookup

variable {α β : Type} {calls : List Call}

/-- After the calls, the look-up adds its own, and `post` holds of its result and all calls made by
then. -/
def Leads (lookup : Lookup α) (calls : List Call) (post : Except Fault α → List Call → Prop) :
    Prop :=
  ∀ journal : Journal, journal.calls = calls →
    calls <+: (lookup journal).2.calls ∧ post (lookup journal).1 (lookup journal).2.calls

/-- After the calls, `post` holds of the value that the look-up returns, if it does, and of all
calls made by then. -/
def Returns (lookup : Lookup α) (calls : List Call) (post : α → List Call → Prop) : Prop :=
  lookup.Leads calls fun result after => ∀ a, result = .ok a → post a after

theorem Leads.start {lookup : Lookup α} {post : Except Fault α → List Call → Prop}
    (leads : lookup.Leads [] post) : post lookup.start.1 lookup.start.2.calls :=
  (leads {} rfl).2

theorem Leads.imp {lookup : Lookup α} {post post' : Except Fault α → List Call → Prop}
    (leads : lookup.Leads calls post)
    (onward : ∀ result after, calls <+: after → post result after → post' result after) :
    lookup.Leads calls post' := by
  intro journal before
  obtain ⟨grown, holds⟩ := leads journal before
  exact ⟨grown, onward _ _ grown holds⟩

theorem Returns.imp {lookup : Lookup α} {post post' : α → List Call → Prop}
    (returns : lookup.Returns calls post)
    (onward : ∀ a after, calls <+: after → post a after → post' a after) :
    lookup.Returns calls post' :=
  Leads.imp returns fun _ after grown holds a same => onward a after grown (holds a same)

theorem Leads.returns {lookup : Lookup α} {post : Except Fault α → List Call → Prop}
    (leads : lookup.Leads calls post) : lookup.Returns calls fun a after => post (.ok a) after :=
  leads.imp fun result after _ holds a same => by rwa [same] at holds

/-! ## Steps -/

theorem leads_pure {post : Except Fault α → List Call → Prop} {a : α}
    (holds : post (.ok a) calls) : Leads (pure a) calls post := by
  rintro journal rfl
  exact ⟨List.prefix_rfl, holds⟩

theorem leads_throw {post : Except Fault α → List Call → Prop} {fault : Fault}
    (holds : post (.error fault) calls) : Leads (throw fault) calls post := by
  rintro journal rfl
  exact ⟨List.prefix_rfl, holds⟩

theorem returns_pure {post : α → List Call → Prop} {a : α} (holds : post a calls) :
    Returns (pure a) calls post :=
  leads_pure fun _ same => Except.ok.inj same ▸ holds

theorem returns_throw {post : α → List Call → Prop} (fault : Fault) :
    Returns (throw fault) calls post :=
  leads_throw fun _ => nofun

theorem leads_give (given : Except Fault α) (calls : List Call) :
    (give given).Leads calls fun result after => given = result ∧ after = calls := by
  rintro journal rfl
  exact ⟨List.prefix_rfl, rfl, rfl⟩

theorem leads_settle (step : Except Fault α × List Notice) (calls : List Call) :
    (settle step).Leads calls fun result after => step.1 = result ∧ after = calls := by
  rintro journal rfl
  exact ⟨List.prefix_rfl, rfl, rfl⟩

theorem leads_warn (text : String) (calls : List Call) :
    (warn text).Leads calls fun result after => result = .ok () ∧ after = calls := by
  rintro journal rfl
  exact ⟨List.prefix_rfl, rfl, rfl⟩

theorem leads_reach (resolution : Resolution) (calls : List Call) :
    (reach resolution).Leads calls fun result after => result = .ok () ∧ after = calls := by
  rintro journal rfl
  exact ⟨List.prefix_rfl, rfl, rfl⟩

theorem leads_ask (call : Call) (source : List Call → Except Fault α) (calls : List Call) :
    (ask call source).Leads calls fun result after =>
      source calls = result ∧ after = calls ++ [call] := by
  rintro journal rfl
  exact ⟨List.prefix_append _ _, rfl, rfl⟩

theorem leads_askThrough (call : Call) (source : List Call → Except Fault α × List Call)
    (calls : List Call) :
    (askThrough call source).Leads calls fun result after =>
      (source calls).1 = result ∧ after = calls ++ call :: (source calls).2 := by
  rintro journal rfl
  exact ⟨List.prefix_append _ _, rfl, rfl⟩

/-! ## Sequences -/

theorem Leads.bind {first : Lookup α} {next : α → Lookup β}
    {middle : Except Fault α → List Call → Prop} {post : Except Fault β → List Call → Prop}
    (leads : first.Leads calls middle)
    (onward : ∀ a after, middle (.ok a) after → (next a).Leads after post)
    (failed : ∀ fault after, middle (.error fault) after → post (.error fault) after) :
    (first >>= next).Leads calls post := by
  intro journal before
  obtain ⟨grown, holds⟩ := leads journal before
  rw [Fallible.bind_apply]
  revert grown holds
  rcases first journal with ⟨result, after⟩
  intro grown holds
  cases result with
  | error fault => exact ⟨grown, failed fault _ holds⟩
  | ok a =>
    obtain ⟨grown', holds'⟩ := onward a _ holds after rfl
    exact ⟨grown.trans grown', holds'⟩

theorem Leads.orElse {first : Lookup α} {recover : Fault → Lookup α}
    {middle post : Except Fault α → List Call → Prop} (leads : first.Leads calls middle)
    (returned : ∀ a after, middle (.ok a) after → post (.ok a) after)
    (onward : ∀ fault after, middle (.error fault) after → (recover fault).Leads after post) :
    (first.orElse recover).Leads calls post := by
  intro journal before
  obtain ⟨grown, holds⟩ := leads journal before
  rw [Lookup.orElse]
  revert grown holds
  rcases first journal with ⟨result, after⟩
  intro grown holds
  cases result with
  | ok a => exact ⟨grown, returned a _ holds⟩
  | error fault =>
    obtain ⟨grown', holds'⟩ := onward fault _ holds after rfl
    exact ⟨grown.trans grown', holds'⟩

theorem Returns.bind {first : Lookup α} {next : α → Lookup β} {middle : α → List Call → Prop}
    {post : β → List Call → Prop} (returns : first.Returns calls middle)
    (onward : ∀ a after, middle a after → (next a).Returns after post) :
    (first >>= next).Returns calls post :=
  Leads.bind returns (fun a after holds => onward a after (holds a rfl)) fun _ _ _ _ => nofun

/-- Where the values that a look-up returns are gone on with alike, it makes no difference how. -/
theorem Returns.bind_congr {first : Lookup α} {next next' : α → Lookup β}
    {middle : α → List Call → Prop} (returns : first.Returns calls middle)
    (alike : ∀ a after, middle a after → next a = next' a) {journal : Journal}
    (before : journal.calls = calls) : (first >>= next) journal = (first >>= next') journal := by
  have holds := (returns journal before).2
  rw [Fallible.bind_apply, Fallible.bind_apply]
  revert holds
  rcases first journal with ⟨result, after⟩
  intro holds
  cases result with
  | error fault => rfl
  | ok a =>
    dsimp only
    rw [alike a _ (holds a rfl)]

theorem Returns.orElse {first : Lookup α} {recover : Fault → Lookup α}
    {post : α → List Call → Prop} (returns : first.Returns calls post)
    (onward : ∀ fault after, (recover fault).Returns after post) :
    (first.orElse recover).Returns calls post :=
  Leads.orElse returns (fun _ _ holds => holds) fun fault after _ => onward fault after

/-! ## Known results -/

/-- After the calls, the look-up has this result, and these are all calls made by then. -/
def Arrives (lookup : Lookup α) (calls : List Call) (arrived : Except Fault α)
    (made : List Call) : Prop :=
  lookup.Leads calls fun result after => result = arrived ∧ after = made

section Arrives

variable {made : List Call} {arrived : Except Fault α}

/-- What a look-up leads to holds of what it arrives at. -/
theorem Arrives.holds {lookup : Lookup α} {post : Except Fault α → List Call → Prop}
    (arrives : lookup.Arrives calls arrived made) (leads : lookup.Leads calls post) :
    post arrived made := by
  obtain ⟨-, rfl, rfl⟩ := arrives { calls := calls } rfl
  exact (leads { calls := calls } rfl).2

theorem arrives_pure (a : α) (calls : List Call) : Arrives (pure a) calls (.ok a) calls :=
  leads_pure ⟨rfl, rfl⟩

theorem arrives_throw (fault : Fault) (calls : List Call) :
    Arrives (throw fault : Lookup α) calls (.error fault) calls :=
  leads_throw ⟨rfl, rfl⟩

theorem arrives_give {given : Except Fault α} (same : given = arrived) (calls : List Call) :
    (give given).Arrives calls arrived calls :=
  (leads_give given calls).imp fun _ _ _ holds => ⟨holds.1.symm.trans same, holds.2⟩

theorem arrives_settle {step : Except Fault α × List Notice} (same : step.1 = arrived)
    (calls : List Call) : (settle step).Arrives calls arrived calls :=
  (leads_settle step calls).imp fun _ _ _ holds => ⟨holds.1.symm.trans same, holds.2⟩

theorem arrives_ask (call : Call) {source : List Call → Except Fault α} {calls : List Call}
    (same : source calls = arrived) : (ask call source).Arrives calls arrived (calls ++ [call]) :=
  (leads_ask call source calls).imp fun _ _ _ holds => ⟨holds.1.symm.trans same, holds.2⟩

theorem arrives_askThrough (call : Call) {source : List Call → Except Fault α × List Call}
    {calls : List Call} (same : (source calls).1 = arrived) :
    (askThrough call source).Arrives calls arrived (calls ++ call :: (source calls).2) :=
  (leads_askThrough call source calls).imp fun _ _ _ holds => ⟨holds.1.symm.trans same, holds.2⟩

theorem Arrives.bind_ok {first : Lookup α} {next : α → Lookup β} {a : α}
    {post : Except Fault β → List Call → Prop} (arrives : first.Arrives calls (.ok a) made)
    (onward : (next a).Leads made post) : (first >>= next).Leads calls post := by
  refine arrives.bind ?_ ?_
  · rintro _ _ ⟨⟨⟩, rfl⟩
    exact onward
  · rintro _ _ ⟨⟨⟩, -⟩

theorem Arrives.bind_error {first : Lookup α} {next : α → Lookup β} {fault : Fault}
    (arrives : first.Arrives calls (.error fault) made) :
    (first >>= next).Arrives calls (.error fault) made := by
  refine arrives.bind ?_ ?_
  · rintro _ _ ⟨⟨⟩, -⟩
  · rintro _ _ ⟨⟨⟩, rfl⟩
    exact ⟨rfl, rfl⟩

theorem Arrives.orElse_ok {first : Lookup α} {a : α} (arrives : first.Arrives calls (.ok a) made)
    (recover : Fault → Lookup α) : (first.orElse recover).Arrives calls (.ok a) made := by
  refine arrives.orElse (fun _ _ holds => holds) ?_
  rintro _ _ ⟨⟨⟩, -⟩

theorem Arrives.orElse_error {first : Lookup α} {fault : Fault}
    {post : Except Fault α → List Call → Prop} (arrives : first.Arrives calls (.error fault) made)
    (recover : Fault → Lookup α) (onward : (recover fault).Leads made post) :
    (first.orElse recover).Leads calls post := by
  refine arrives.orElse ?_ ?_
  · rintro _ _ ⟨⟨⟩, -⟩
  · rintro _ _ ⟨⟨⟩, rfl⟩
    exact onward

end Arrives

/-! ## Calls of a kind -/

/-- The calls that the look-up adds are of this kind. -/
def Asks (lookup : Lookup α) (kind : Call → Prop) : Prop :=
  ∀ calls, lookup.Leads calls fun _ after =>
    ∃ further, after = calls ++ further ∧ ∀ call ∈ further, kind call

section Asks

variable {kind : Call → Prop}

theorem Asks.start {lookup : Lookup α} (asks : lookup.Asks kind) :
    ∀ call ∈ lookup.start.2.calls, kind call := by
  obtain ⟨further, made, of_kind⟩ := (asks []).start
  rw [made]
  exact of_kind

/-- A step that puts no question. -/
theorem asks_nothing {lookup : Lookup α}
    (still : ∀ journal : Journal, (lookup journal).2.calls = journal.calls) : lookup.Asks kind := by
  rintro _ journal rfl
  rw [still]
  exact ⟨List.prefix_rfl, [], (List.append_nil _).symm, by simp⟩

theorem asks_pure (a : α) : Asks (pure a) kind :=
  asks_nothing fun _ => rfl

theorem asks_give (given : Except Fault α) : (give given).Asks kind :=
  asks_nothing fun _ => rfl

theorem asks_ask {call : Call} (of_kind : kind call) (source : List Call → Except Fault α) :
    (ask call source).Asks kind := by
  intro calls
  refine (leads_ask call source calls).imp ?_
  rintro result after - ⟨-, rfl⟩
  exact ⟨[call], rfl, by simpa using of_kind⟩

theorem asks_askThrough {call : Call} (of_kind : kind call)
    {source : List Call → Except Fault α × List Call}
    (own : ∀ calls, ∀ question ∈ (source calls).2, kind question) :
    (askThrough call source).Asks kind := by
  intro calls
  refine (leads_askThrough call source calls).imp ?_
  rintro result after - ⟨-, rfl⟩
  exact ⟨_, rfl, List.forall_mem_cons.mpr ⟨of_kind, own calls⟩⟩

/-- What is asked after calls of the kind is still of the kind. -/
theorem Asks.onward {second : Lookup β} {before after : List Call} (asks : second.Asks kind)
    (made : ∃ further, after = before ++ further ∧ ∀ call ∈ further, kind call) :
    second.Leads after fun _ last =>
      ∃ further, last = before ++ further ∧ ∀ call ∈ further, kind call := by
  obtain ⟨further, rfl, of_kind⟩ := made
  refine (asks _).imp ?_
  rintro _ _ - ⟨later, rfl, of_kind'⟩
  refine ⟨further ++ later, List.append_assoc .., fun call member => ?_⟩
  exact (List.mem_append.mp member).elim (of_kind call) (of_kind' call)

theorem Asks.bind {first : Lookup α} {next : α → Lookup β} (asks : first.Asks kind)
    (onward : ∀ a, (next a).Asks kind) : (first >>= next).Asks kind := fun calls =>
  (asks calls).bind (fun a _ made => (onward a).onward made) fun _ _ made => made

theorem Asks.orElse {first : Lookup α} {recover : Fault → Lookup α} (asks : first.Asks kind)
    (onward : ∀ fault, (recover fault).Asks kind) : (first.orElse recover).Asks kind :=
  fun calls =>
    (asks calls).orElse (fun _ _ made => made) fun fault _ made => (onward fault).onward made

end Asks

end Rollout.Lookup

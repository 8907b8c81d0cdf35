import Rollout.Proofs.Lookup.Closed

/-!
# What is said to sources

An **exchange** is a question together with its answer, and the calls of a look-up are those of its
exchanges. What a look-up **says** after certain calls (`Says`) is a list of exchanges in which
every answer is the one that the source gives after the calls before it, and which ends with the
first answer that the look-up cannot go on with. In a sequence the second part goes on after what
the first part said (`Says.bind`).
-/

namespace Rollout

/-- A question that a resolution puts to a source, with the answer to it. -/
inductive Exchange where
  | plansFor (names : NameSet) (answer : Except Fault PlanBook)
  | bucket (flow : Flow) (answer : Except Fault Datum)
  /-- The evaluator may have made calls of its own for its answer. -/
  | isExcluded (flowName : Datum) (key : TypeKey) (label : Datum) (answer : Except Fault Bool)
      (own : List Call)
  | findVersions (name label : Datum) (answer : Except Fault (Option (List ImageVersion)))
  | activeVersions (names : NameSet) (answer : Except Fault (Option (List ImageVersion)))
  | latestVersions (names : NameSet) (answer : Except Fault (Option (List ImageVersion)))

namespace Exchange

/-- The call that puts the question. -/
def question : Exchange → Call
  | plansFor names _ => .plansFor names
  | bucket flow _ => .bucket flow.identity
  | isExcluded flowName key label _ _ => .isExcluded flowName key label
  | findVersions name label _ => .findVersions name label
  | activeVersions names _ => .activeVersions names
  | latestVersions names _ => .latestVersions names

/-- The calls that the source made for its answer. -/
def own : Exchange → List Call
  | isExcluded _ _ _ _ own => own
  | _ => []

def calls (exchange : Exchange) : List Call :=
  exchange.question :: exchange.own

/-- The answer is the one that the source gives after the calls. -/
def IsTrue (s : Sources) (calls : List Call) : Exchange → Prop
  | plansFor names answer => s.plansFor calls names = answer
  | bucket flow answer => s.bucketOf calls flow = answer
  | isExcluded flowName key label answer own =>
    s.isExcluded calls flowName key label = (answer, own)
  | findVersions name label answer => s.findVersions calls name label = answer
  | activeVersions names answer => s.activeVersions calls names = answer
  | latestVersions names answer => s.latestVersions calls names = answer

/-- The question was answered with a fault that a resolution ends with. Where it is tolerant, it
goes on without what the catalog or the plan store does not answer; without its bucket, or without
the answer of the evaluator, no resolution goes on. -/
def IsFatal (tolerant : Bool) : Exchange → Prop
  | plansFor _ answer => tolerant = false ∧ ∃ fault, answer = .error fault
  | bucket _ answer => ∃ fault, answer = .error fault
  | isExcluded _ _ _ answer _ => ∃ fault, answer = .error fault
  | findVersions _ _ answer => tolerant = false ∧ ∃ fault, answer = .error fault
  | activeVersions _ answer => tolerant = false ∧ ∃ fault, answer = .error fault
  | latestVersions _ answer => tolerant = false ∧ ∃ fault, answer = .error fault

/-! ## Exchanges one after the other -/

/-- The calls of all exchanges in their order. -/
def callsOf (said : List Exchange) : List Call :=
  said.flatMap calls

@[simp] theorem callsOf_nil : callsOf [] = [] := rfl

@[simp] theorem callsOf_cons (exchange : Exchange) (said : List Exchange) :
    callsOf (exchange :: said) = exchange.calls ++ callsOf said := rfl

@[simp] theorem callsOf_append (said more : List Exchange) :
    callsOf (said ++ more) = callsOf said ++ callsOf more :=
  List.flatMap_append

/-- Every answer is the one that the source gives after all calls before it. -/
def AllTrue (s : Sources) : List Call → List Exchange → Prop
  | _, [] => True
  | calls, exchange :: rest =>
    exchange.IsTrue s calls ∧ AllTrue s (calls ++ exchange.calls) rest

theorem AllTrue.append {s : Sources} {calls : List Call} {said more : List Exchange}
    (first : AllTrue s calls said) (second : AllTrue s (calls ++ callsOf said) more) :
    AllTrue s calls (said ++ more) := by
  induction said generalizing calls with
  | nil => simpa using second
  | cons exchange rest ih =>
    refine ⟨first.1, ih first.2 ?_⟩
    simpa using second

/-- Nothing is said after an answer that a resolution ends with. -/
def BreaksOff (tolerant : Bool) (said : List Exchange) : Prop :=
  said.Pairwise fun earlier _ => ¬ earlier.IsFatal tolerant

/-- The exchanges are those of a look-up with the result after the calls. -/
structure Belongs {α : Type} (s : Sources) (tolerant : Bool) (calls : List Call)
    (result : Except Fault α) (said : List Exchange) : Prop where
  allTrue : AllTrue s calls said
  breaksOff : BreaksOff tolerant said
  unbroken : ∀ a, result = .ok a → ∀ exchange ∈ said, ¬ exchange.IsFatal tolerant

/-- What is said goes on while no answer is one to end with. -/
theorem Belongs.append {α β : Type} {s : Sources} {tolerant : Bool} {calls : List Call}
    {result : Except Fault α} {last : Except Fault β} {said more : List Exchange}
    (first : Belongs s tolerant calls result said)
    (goes_on : ∀ exchange ∈ said, ¬ exchange.IsFatal tolerant)
    (second : Belongs s tolerant (calls ++ callsOf said) last more) :
    Belongs s tolerant calls last (said ++ more) where
  allTrue := first.allTrue.append second.allTrue
  breaksOff := List.pairwise_append.mpr
    ⟨first.breaksOff, second.breaksOff, fun exchange member _ _ => goes_on exchange member⟩
  unbroken := by
    intro b same exchange member
    rcases List.mem_append.mp member with early | late
    · exact goes_on exchange early
    · exact second.unbroken b same exchange late

end Exchange

namespace Lookup

open Exchange

variable {α β : Type} {s : Sources} {tolerant : Bool} {calls : List Call}

/-- After the calls, the look-up says something of which, together with the result, `post` holds. -/
def Says (lookup : Lookup α) (s : Sources) (tolerant : Bool) (calls : List Call)
    (post : Except Fault α → List Exchange → Prop) : Prop :=
  lookup.Leads calls fun result after => ∃ said, after = calls ++ callsOf said ∧
    Belongs s tolerant calls result said ∧ post result said

theorem Says.imp {lookup : Lookup α} {post post' : Except Fault α → List Exchange → Prop}
    (spoken : lookup.Says s tolerant calls post)
    (onward : ∀ result said, post result said → post' result said) :
    lookup.Says s tolerant calls post' := by
  refine Leads.imp spoken ?_
  rintro result after - ⟨said, made, belongs, holds⟩
  exact ⟨said, made, belongs, onward result said holds⟩

/-! ## Steps -/

/-- What puts no question says nothing. -/
theorem says_nothing {lookup : Lookup α} {post : Except Fault α → List Exchange → Prop}
    (leads : lookup.Leads calls fun result after => after = calls ∧ post result []) :
    lookup.Says s tolerant calls post := by
  refine leads.imp ?_
  rintro result after - ⟨rfl, holds⟩
  refine ⟨[], by simp, ⟨trivial, List.Pairwise.nil, ?_⟩, holds⟩
  intro a _ exchange member
  cases member

theorem says_pure {post : Except Fault α → List Exchange → Prop} {a : α}
    (holds : post (.ok a) []) : Says (pure a) s tolerant calls post :=
  says_nothing (leads_pure ⟨rfl, holds⟩)

theorem says_throw {post : Except Fault α → List Exchange → Prop} {fault : Fault}
    (holds : post (.error fault) []) : Says (throw fault) s tolerant calls post :=
  says_nothing (leads_throw ⟨rfl, holds⟩)

theorem says_give (given : Except Fault α) (calls : List Call) :
    (give given).Says s tolerant calls fun result said => said = [] ∧ given = result := by
  refine says_nothing ((leads_give given calls).imp ?_)
  rintro result after - ⟨rfl, rfl⟩
  exact ⟨rfl, rfl, rfl⟩

theorem says_settle (step : Except Fault α × List Notice) (calls : List Call) :
    (settle step).Says s tolerant calls fun result said => said = [] ∧ step.1 = result := by
  refine says_nothing ((leads_settle step calls).imp ?_)
  rintro result after - ⟨rfl, rfl⟩
  exact ⟨rfl, rfl, rfl⟩

/-- What goes on with a value after a warning. -/
theorem says_warn_pure {post : Except Fault α → List Exchange → Prop} (text : String) {a : α}
    (holds : post (.ok a) []) :
    Says (do warn text; return a) s tolerant calls post := by
  refine says_nothing ?_
  rintro journal rfl
  exact ⟨List.prefix_rfl, rfl, holds⟩

theorem says_quiet {lookup : Lookup α} {post : α → Prop} (quiet : lookup.IsQuiet)
    (returns : lookup.Returns calls fun a _ => post a) :
    lookup.Says s tolerant calls fun result said =>
      said = [] ∧ ∀ a, result = .ok a → post a := by
  refine says_nothing fun journal before => ?_
  obtain ⟨result, still⟩ := quiet
  have unchanged := (still journal).2.trans before
  exact ⟨(returns journal before).1, unchanged, rfl, (returns journal before).2⟩

/-- A look-up that says one thing. -/
theorem says_one {lookup : Lookup α} {exchange : Except Fault α → Exchange}
    (leads : lookup.Leads calls fun result after =>
      after = calls ++ (exchange result).calls ∧ (exchange result).IsTrue s calls)
    (answers : ∀ a, ¬ (exchange (.ok a)).IsFatal tolerant) :
    lookup.Says s tolerant calls fun result said => said = [exchange result] := by
  refine leads.imp ?_
  rintro result after - ⟨made, is_true⟩
  refine ⟨[exchange result], by simpa using made, ⟨⟨is_true, trivial⟩, ?_, ?_⟩, rfl⟩
  · exact List.pairwise_singleton _ _
  · intro a same other member
    rw [List.mem_singleton.mp member, same]
    exact answers a

/-- What a question for several types, or for a version, comes to. -/
theorem says_ask {call : Call} {source : List Call → Except Fault α}
    {exchange : Except Fault α → Exchange} (made : ∀ answer, (exchange answer).calls = [call])
    (is_true : (exchange (source calls)).IsTrue s calls)
    (answers : ∀ a, ¬ (exchange (.ok a)).IsFatal tolerant) :
    (ask call source).Says s tolerant calls fun result said => said = [exchange result] := by
  refine says_one ((leads_ask call source calls).imp ?_) answers
  rintro result after - ⟨rfl, rfl⟩
  exact ⟨by rw [made], is_true⟩

/-- What a question comes to whose source puts questions of its own. -/
theorem says_askThrough {call : Call} {source : List Call → Except Fault α × List Call}
    {exchange : Except Fault α → List Call → Exchange}
    (made : ∀ answer own, (exchange answer own).calls = call :: own)
    (is_true : (exchange (source calls).1 (source calls).2).IsTrue s calls)
    (answers : ∀ a own, ¬ (exchange (.ok a) own).IsFatal tolerant) :
    (askThrough call source).Says s tolerant calls fun result said =>
      ∃ own, said = [exchange result own] := by
  have one : (askThrough call source).Says s tolerant calls fun result said =>
      said = [exchange result (source calls).2] := by
    refine says_one ((leads_askThrough call source calls).imp ?_) fun a => answers a _
    rintro result after - ⟨rfl, rfl⟩
    exact ⟨by rw [made], is_true⟩
  exact one.imp fun _ _ same => ⟨_, same⟩

/-! ## Sequences -/

theorem Says.bind {first : Lookup α} {next : α → Lookup β}
    {middle : Except Fault α → List Exchange → Prop} {post : Except Fault β → List Exchange → Prop}
    (spoken : first.Says s tolerant calls middle)
    (onward : ∀ a said, middle (.ok a) said →
      (next a).Says s tolerant (calls ++ callsOf said)
        fun result more => post result (said ++ more))
    (failed : ∀ fault said, middle (.error fault) said → post (.error fault) said) :
    (first >>= next).Says s tolerant calls post := by
  refine Leads.bind spoken ?_ ?_
  · rintro a _ ⟨said, rfl, belongs, holds⟩
    refine Leads.imp (onward a said holds) ?_
    rintro result _ - ⟨more, rfl, later, holds⟩
    refine ⟨said ++ more, by simp, belongs.append (belongs.unbroken a rfl) later, holds⟩
  · rintro fault _ ⟨said, rfl, belongs, holds⟩
    refine ⟨said, rfl, ⟨belongs.allTrue, belongs.breaksOff, ?_⟩, failed fault said holds⟩
    rintro _ ⟨⟩

/-- A look-up may go on after a fault only where what was said allows it. -/
theorem Says.orElse {first : Lookup α} {recover : Fault → Lookup α}
    {middle post : Except Fault α → List Exchange → Prop}
    (spoken : first.Says s tolerant calls middle)
    (returned : ∀ a said, middle (.ok a) said → post (.ok a) said)
    (onward : ∀ fault said, middle (.error fault) said →
      (∀ exchange ∈ said, ¬ exchange.IsFatal tolerant) ∧
      (recover fault).Says s tolerant (calls ++ callsOf said)
        fun result more => post result (said ++ more)) :
    (first.orElse recover).Says s tolerant calls post := by
  refine Leads.orElse spoken ?_ ?_
  · rintro a _ ⟨said, rfl, belongs, holds⟩
    exact ⟨said, rfl, belongs, returned a said holds⟩
  · rintro fault _ ⟨said, rfl, belongs, holds⟩
    obtain ⟨goes_on, recovers⟩ := onward fault said holds
    refine Leads.imp recovers ?_
    rintro result _ - ⟨more, rfl, later, holds⟩
    exact ⟨said ++ more, by simp, belongs.append goes_on later, holds⟩

end Lookup

end Rollout

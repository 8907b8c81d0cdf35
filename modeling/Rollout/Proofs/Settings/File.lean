import Rollout.Proofs.Fallible
import Rollout.Proofs.Text.Split
import Rollout.Settings.File
import Rollout.Settings.Path

/-!
# Settings files and their flaws

Files are kept under plain paths. The plain path of a file leads to it without a detour
(`plainPath?_plain`), so what lies there is found under every path that has this plain form.

A file that cannot be read is reported with its lines. Each line of the report is a line of the file
under its own number, and has the flaw that the report is about (`concerns_of_readFile`): the name
that is repeated stands in it, or it is a line of another shape.
-/

namespace Rollout.Settings

/-! ## Paths -/

section Path

variable {steps : List (List Char)}

theorem head?_intercalate_ne_slash (single : ∀ step ∈ steps, '/' ∉ step)
    (moves : ∀ step ∈ steps, staysPut step = false) :
    (['/'].intercalate steps).head? ≠ some '/' := by
  cases steps with
  | nil => simp
  | cons step rest =>
    cases step with
    | nil => exact absurd (moves [] List.mem_cons_self) (by decide)
    | cons c others =>
      have apart := single (c :: others) List.mem_cons_self
      have here : (['/'].intercalate ((c :: others) :: rest)).head? = some c := by
        cases rest <;> simp
      rw [here]
      intro same
      apply apart
      rw [Option.some.inj same]
      exact List.mem_cons_self

theorem getLast?_all_staysPut (first : List (List Char)) (filled : steps ≠ [])
    (moves : ∀ step ∈ steps, staysPut step = false) :
    (first ++ steps).getLast?.all staysPut = false := by
  rw [List.getLast?_append, List.getLast?_eq_some_getLast filled]
  exact moves _ (List.getLast_mem filled)

/-- Steps that all move on make up a plain path, from the root or not. -/
theorem plainPath?_intercalate (filled : steps ≠ []) (single : ∀ step ∈ steps, '/' ∉ step)
    (moves : ∀ step ∈ steps, staysPut step = false) (absolute : Bool) :
    let plain := ['/'].intercalate steps
    let path := String.ofList (if absolute then '/' :: plain else plain)
    plainPath? path = some path := by
  have split := Text.splitAll_intercalate filled single
  have kept : steps.filter (!staysPut ·) = steps := by
    rw [List.filter_eq_self]
    intro step member
    rw [moves step member]
    rfl
  have relative := head?_intercalate_ne_slash single moves
  unfold plainPath?
  cases absolute with
  | false =>
    have last := getLast?_all_staysPut [] filled moves
    rw [List.nil_append] at last
    simp [split, last, kept, relative]
  | true =>
    have splitRoot : Text.splitAll '/' ('/' :: ['/'].intercalate steps) = [] :: steps :=
      (Text.splitAll_append List.not_mem_nil _).trans (congrArg ([] :: ·) split)
    have keptRoot : ([] :: steps).filter (!staysPut ·) = steps := by
      rw [List.filter_cons_of_neg (by decide), kept]
    have last := getLast?_all_staysPut [[]] filled moves
    rw [List.singleton_append] at last
    simp [splitRoot, last, keptRoot]

/-- A plain path leads where it leads without a detour. -/
theorem plainPath?_plain {path plain : String} (leads : plainPath? path = some plain) :
    plainPath? plain = some plain := by
  unfold plainPath? at leads
  dsimp only at leads
  by_cases stays : (Text.splitAll '/' path.toList).getLast?.all staysPut = true
  · rw [if_pos stays] at leads
    cases leads
  · rw [if_neg stays] at leads
    obtain rfl := Option.some.inj leads
    obtain ⟨last, ends, moving⟩ : ∃ last,
        (Text.splitAll '/' path.toList).getLast? = some last ∧ staysPut last = false := by
      cases ends : (Text.splitAll '/' path.toList).getLast? with
      | none => simp [ends] at stays
      | some last => exact ⟨last, rfl, by simpa [ends] using stays⟩
    have kept : last ∈ (Text.splitAll '/' path.toList).filter (!staysPut ·) := by
      rw [List.mem_filter, moving]
      exact ⟨List.mem_of_getLast? ends, rfl⟩
    have plain := plainPath?_intercalate (List.ne_nil_of_mem kept)
      (fun step member => Text.not_mem_of_mem_splitAll (List.mem_filter.mp member).1)
      (fun step member => by simpa using (List.mem_filter.mp member).2)
      (decide (path.toList.head? = some '/'))
    simpa using plain

example : plainPath? ".//conf/./rampup.conf" = some "conf/rampup.conf" := by decide +kernel

end Path

/-! ## Flaws -/

/-- The line has no delimiter, or no name before it. -/
def IsMisshapen (line : NumberedLine) : Prop :=
  ∀ name value, option? (Text.trim line.1) = some (name, value) → name = ""

/-- Among the lines are those of the flaw, and they have it. -/
def FileFlaw.Concerns (lines : List NumberedLine) : FileFlaw → Prop
  | repeatedSection number name =>
    ∃ text, (text, number) ∈ lines ∧ sectionName? (Text.trim text) = some name
  | repeatedOption number _ name =>
    ∃ text value, (text, number) ∈ lines ∧ option? (Text.trim text) = some (name, value)
  | noSection line => line ∈ lines
  | malformed passed =>
    passed ≠ [] ∧ passed.Sublist lines ∧ ∀ line ∈ passed, IsMisshapen line

/-- The lines that were passed over are misshapen lines among those that were read. -/
structure FileState.Passed (s : FileState) (lines : List NumberedLine) : Prop where
  among : s.malformed.Sublist lines
  misshapen : ∀ line ∈ s.malformed, IsMisshapen line

variable {s t : FileState} {lines : List NumberedLine} {line : NumberedLine}

namespace FileState

theorem malformed_putSection (s : FileState) (name : String) (content : RawSection) :
    (s.putSection name content).malformed = s.malformed := by
  unfold putSection
  split <;> rfl

theorem malformed_continueOption (s : FileState) (text : List Char) :
    (s.continueOption text).malformed = s.malformed := by
  unfold continueOption
  split
  · exact malformed_putSection s _ _
  · rfl

/-- A line that is not passed over changes nothing about those that were. -/
theorem Passed.read (passed : s.Passed lines) (same : t.malformed = s.malformed) :
    t.Passed (lines ++ [line]) where
  among := by
    rw [same]
    exact passed.among.trans (List.sublist_append_left lines [line])
  misshapen := by
    rw [same]
    exact passed.misshapen

theorem Passed.passOver (passed : s.Passed lines) (shape : IsMisshapen line)
    (more : t.malformed = s.malformed ++ [line]) : t.Passed (lines ++ [line]) where
  among := by
    rw [more]
    exact passed.among.append (List.Sublist.refl _)
  misshapen other member := by
    rw [more] at member
    rcases List.mem_append.mp member with earlier | last
    · exact passed.misshapen other earlier
    · rw [List.mem_singleton.mp last]
      exact shape

end FileState

/-! ## Lines -/

/-- What reading the lines comes to: a state that passed over some of them, or a flaw of theirs. -/
def Reads (lines : List NumberedLine) : Except FileFlaw FileState → Prop
  | .ok s => s.Passed lines
  | .error flaw => flaw.Concerns lines

theorem mem_last (lines : List NumberedLine) (line : NumberedLine) : line ∈ lines ++ [line] :=
  List.mem_append_right lines (List.mem_singleton_self line)

theorem reads_startSection (passed : s.Passed lines) {name : String}
    (starts : sectionName? (Text.trim line.1) = some name) :
    Reads (lines ++ [line]) (s.startSection line.2 name) := by
  unfold FileState.startSection
  split
  · exact ⟨line.1, mem_last lines line, starts⟩
  · split
    · exact passed.read rfl
    · exact passed.read rfl

theorem reads_startOption (passed : s.Passed lines) {place name : String} {value : List Char}
    (gives : option? (Text.trim line.1) = some (name, value)) :
    Reads (lines ++ [line]) (s.startOption line place name value) := by
  unfold FileState.startOption
  generalize started : (if name = "" then s.passOver line else s) = next
  dsimp only
  split
  · exact ⟨line.1, value, mem_last lines line, gives⟩
  · rw [Reads]
    by_cases nameless : name = ""
    · have shape : IsMisshapen line := by
        intro other value' also
        rw [gives] at also
        exact (congrArg Prod.fst (Option.some.inj also)).symm.trans nameless
      apply passed.passOver shape
      show (next.putSection place _).malformed = _
      rw [FileState.malformed_putSection, ← started, if_pos nameless]
      rfl
    · apply passed.read
      show (next.putSection place _).malformed = _
      rw [FileState.malformed_putSection, ← started, if_neg nameless]

theorem reads_readContent (passed : s.Passed lines) (indent : Nat) :
    Reads (lines ++ [line]) (readContent s line (Text.trim line.1) indent) := by
  unfold readContent
  split
  · exact passed.read (s.malformed_continueOption _)
  · have indented : FileState.Passed { s with indent := indent } lines := ⟨passed.1, passed.2⟩
    revert indented
    generalize { s with indent := indent } = next
    intro indented
    dsimp only
    cases starts : sectionName? (Text.trim line.1) with
    | some name => exact reads_startSection indented starts
    | none =>
      cases next.place with
      | none => exact mem_last lines line
      | some place =>
        cases gives : option? (Text.trim line.1) with
        | some given => exact reads_startOption indented gives
        | none =>
          refine indented.passOver ?_ rfl
          intro name value also
          rw [gives] at also
          cases also

/-- One line is read, passed over, or has a flaw. -/
theorem reads_readLine (passed : s.Passed lines) (line : NumberedLine) :
    Reads (lines ++ [line]) (readLine s line) := by
  unfold readLine
  split
  · exact passed.read (s.malformed_continueOption [])
  · rename_i c content trimmed
    split
    · exact passed.read rfl
    · rw [← trimmed]
      exact reads_readContent passed _

theorem FileFlaw.Concerns.mono {flaw : FileFlaw} {more : List NumberedLine}
    (concerns : flaw.Concerns lines) (sub : lines.Sublist more) : flaw.Concerns more := by
  cases flaw with
  | repeatedSection number name =>
    obtain ⟨text, member, starts⟩ := concerns
    exact ⟨text, sub.subset member, starts⟩
  | repeatedOption number sectionName name =>
    obtain ⟨text, value, member, gives⟩ := concerns
    exact ⟨text, value, sub.subset member, gives⟩
  | noSection line => exact sub.subset concerns
  | malformed passed =>
    obtain ⟨some, among, misshapen⟩ := concerns
    exact ⟨some, among.trans sub, misshapen⟩

theorem reads_foldlM (passed : s.Passed lines) (rest : List NumberedLine) :
    Reads (lines ++ rest) (rest.foldlM readLine s) := by
  induction rest generalizing s lines with
  | nil =>
    rw [List.append_nil]
    exact passed
  | cons line rest ih =>
    have here := reads_readLine passed line
    rw [List.foldlM_cons, List.append_cons]
    cases read : readLine s line with
    | error flaw =>
      rw [read] at here
      exact here.mono (List.sublist_append_left _ rest)
    | ok next =>
      rw [read] at here
      exact ih here

/-- **A file that cannot be read is reported by its lines.** The lines of a flaw are lines of the
file under their own numbers, and they have the flaw. -/
theorem concerns_of_readFile {text : String} {flaw : FileFlaw}
    (fails : readFile text = .error flaw) :
    flaw.Concerns ((linesOf text.toList).zipIdx 1) := by
  have fresh : FileState.Passed {} [] := ⟨List.Sublist.refl [], nofun⟩
  have reads := reads_foldlM fresh ((linesOf text.toList).zipIdx 1)
  rw [List.nil_append] at reads
  unfold readFile at fails
  rcases Fallible.bind_eq_error_iff.mp fails with stopped | ⟨read, whole, misshapen⟩
  · rw [stopped] at reads
    exact reads
  · rw [whole] at reads
    by_cases clean : read.malformed.isEmpty = true
    · rw [if_pos clean] at misshapen
      cases misshapen
    · rw [if_neg clean] at misshapen
      obtain rfl := Except.error.inj misshapen
      exact ⟨by simpa using clean, reads.among, reads.misshapen⟩

end Rollout.Settings

import Rollout.Text.Blank
import Rollout.Text.LetterCase.Table

/-!
# Small letters

Lower-casing follows the full Unicode rule: a capital dotted I becomes two characters, and a
capital sigma becomes a **final** sigma exactly when a cased letter stands before it and none
after it, transparent characters being looked through on both sides. Every other character is
mapped alone.

The main statement is that small letters stay: lower-casing what has been lower-cased changes
nothing (`lower_lower`), and neither end of trimmed text becomes blank (`trimmed_lower`).
-/

namespace Rollout.Text

/-- The code point is one of the run's capitals. -/
def CaseRun.holds (run : CaseRun) (n : Nat) : Bool :=
  run.first ≤ n && n ≤ run.last && (n - run.first) % run.step == 0

/-- The small letter of a code point, which is itself when it has no other. -/
def smallCode (n : Nat) : Nat :=
  if n < 0x80 then
    if 0x41 ≤ n && n ≤ 0x5A then n + 0x20 else n
  else
    match caseRuns.find? (·.holds n) with
    | some run => run.small + (n - run.first)
    | none => n

/-- The small form of a character by itself. -/
def small (c : Char) : List Char :=
  if c = 'İ' then ['i', '\u0307'] else [Char.ofNat (smallCode c.toNat)]

/-- A character looked through at the end of a word. -/
def isTransparent (c : Char) : Bool :=
  spansHold transparentSpans c.toNat

/-- A letter that comes as a capital and as a small letter. -/
def isCased (c : Char) : Bool :=
  spansHold casedSpans c.toNat

/-- The first character that is not transparent is a cased letter. -/
def meetsCased (s : List Char) : Bool :=
  ((s.dropWhile isTransparent).head?.map isCased).getD false

/-- The small form of text that follows the given characters, nearest first. -/
def lowerAfter (before : List Char) : List Char → List Char
  | [] => []
  | c :: rest =>
    (if c = 'Σ' then
      if meetsCased before && !meetsCased rest then ['ς'] else ['σ']
    else small c) ++ lowerAfter (c :: before) rest

/-- The small form of a text. -/
def lower (s : List Char) : List Char :=
  lowerAfter [] s

/-! ## Small letters stay -/

/-- No small letter of the first run is a capital of the second: the two lie apart, or run
through code points of different parity. -/
def CaseRun.avoids (r s : CaseRun) : Bool :=
  s.last < r.small || r.small + (r.last - r.first) < s.first ||
    (r.step == 2 && s.step == 2 && (r.small + s.first) % 2 == 1)

/-- The small letters of a run hold neither an ASCII capital nor a blank. -/
def CaseRun.clear (r : CaseRun) : Bool :=
  0x5A < r.small &&
    blankSpans.all fun span => span.2 < r.small || r.small + (r.last - r.first) < span.1

theorem caseRuns_avoid : (caseRuns.all fun r => caseRuns.all r.avoids) = true := by
  decide +kernel

theorem caseRuns_clear : caseRuns.all CaseRun.clear = true := by
  decide +kernel

/-- A small letter of a run of the table. -/
theorem smallCode_cases (n : Nat) :
    smallCode n = n ∨ (n < 0x80 ∧ smallCode n = n + 0x20 ∧ 0x41 ≤ n ∧ n ≤ 0x5A) ∨
      ∃ run ∈ caseRuns, run.holds n = true ∧ smallCode n = run.small + (n - run.first) := by
  unfold smallCode
  by_cases hn : n < 0x80
  · by_cases hcap : 0x41 ≤ n ∧ n ≤ 0x5A
    · right; left
      simp [hn, hcap]
    · left
      simp [hn]
      omega
  · simp only [hn, if_false]
    cases hfind : caseRuns.find? (·.holds n) with
    | none => exact .inl rfl
    | some run =>
      exact .inr (.inr ⟨run, List.mem_of_find?_eq_some hfind,
        by simpa using List.find?_some hfind, rfl⟩)

theorem smallCode_eq_self {m : Nat} (hcap : m < 0x41 ∨ 0x5A < m)
    (hruns : ∀ run ∈ caseRuns, run.holds m = false) : smallCode m = m := by
  unfold smallCode
  by_cases hm : m < 0x80
  · simp [hm]
    omega
  · have hnone : caseRuns.find? (·.holds m) = none := by
      rw [List.find?_eq_none]
      intro run hrun
      simp [hruns run hrun]
    simp [hm, hnone]

/-- No ASCII letter is a capital of the table, which starts beyond ASCII. -/
theorem caseRuns_first : (caseRuns.all fun run => 0x80 ≤ run.first) = true := by
  decide +kernel

theorem holds_eq_false_of_lt {run : CaseRun} (hrun : run ∈ caseRuns) {m : Nat} (hm : m < 0x80) :
    run.holds m = false := by
  have hfirst := List.all_eq_true.mp caseRuns_first run hrun
  simp only [decide_eq_true_eq] at hfirst
  simp [CaseRun.holds]
  omega

/-- A small letter has no small letter but itself. -/
theorem smallCode_smallCode (n : Nat) : smallCode (smallCode n) = smallCode n := by
  rcases smallCode_cases n with h | ⟨hn, h, hlo, hhi⟩ | ⟨run, hrun, hholds, h⟩
  · rw [h, h]
  · rw [h]
    exact smallCode_eq_self (.inr (by omega)) fun r hr => holds_eq_false_of_lt hr (by omega)
  · rw [h]
    have hclear := List.all_eq_true.mp caseRuns_clear run hrun
    simp only [CaseRun.clear, Bool.and_eq_true, decide_eq_true_eq] at hclear
    refine smallCode_eq_self (.inr (by omega)) fun other hother => ?_
    have havoid := List.all_eq_true.mp (List.all_eq_true.mp caseRuns_avoid run hrun) other hother
    simp only [CaseRun.holds, Bool.and_eq_true, decide_eq_true_eq, beq_iff_eq] at hholds
    simp only [CaseRun.avoids, Bool.or_eq_true, Bool.and_eq_true, decide_eq_true_eq,
      beq_iff_eq] at havoid
    obtain ⟨⟨hfirst, hlast⟩, hstep⟩ := hholds
    -- a capital of `other` at this place would contradict how the two runs avoid each other
    rw [Bool.eq_false_iff]
    intro hin
    simp only [CaseRun.holds, Bool.and_eq_true, decide_eq_true_eq, beq_iff_eq] at hin
    obtain ⟨⟨hofirst, holast⟩, hostep⟩ := hin
    rcases havoid with (h1 | h1) | ⟨⟨h1, h2⟩, h3⟩
    · omega
    · omega
    · rw [h1] at hstep
      rw [h2] at hostep
      omega

/-- Only a blank has a blank small form. -/
theorem blank_smallCode {n : Nat} (h : spansHold blankSpans n = false) :
    spansHold blankSpans (smallCode n) = false := by
  rcases smallCode_cases n with heq | ⟨hn, heq, hlo, hhi⟩ | ⟨run, hrun, hholds, heq⟩
  · rwa [heq]
  · rw [heq]
    simp [spansHold, blankSpans]
    omega
  · rw [heq]
    have hclear := List.all_eq_true.mp caseRuns_clear run hrun
    simp only [CaseRun.clear, Bool.and_eq_true, List.all_eq_true, Bool.or_eq_true,
      decide_eq_true_eq] at hclear
    simp only [CaseRun.holds, Bool.and_eq_true, decide_eq_true_eq] at hholds
    simp only [spansHold, List.any_eq_false, Bool.and_eq_true, decide_eq_true_eq]
    intro span hspan
    have := hclear.2 span hspan
    omega

theorem toNat_ofNat_of_valid {n : Nat} (h : n.isValidChar) : (Char.ofNat n).toNat = n := by
  rw [Char.ofNat, dif_pos h]
  rfl

theorem ofNat_of_not_valid {n : Nat} (h : ¬ n.isValidChar) : Char.ofNat n = '\x00' := by
  rw [Char.ofNat, dif_neg h]
  rfl

/-- A character that lower-casing keeps wherever it stands. -/
def Settled (c : Char) : Prop :=
  c ≠ 'Σ' ∧ small c = [c]

theorem settled_ofNat_smallCode (n : Nat) : Settled (Char.ofNat (smallCode n)) := by
  by_cases hvalid : (smallCode n).isValidChar
  · have hto := toNat_ofNat_of_valid hvalid
    have hne : ∀ d : Char, smallCode d.toNat ≠ d.toNat → Char.ofNat (smallCode n) ≠ d := by
      intro d hd heq
      apply hd
      rw [← heq, hto, smallCode_smallCode]
    refine ⟨hne 'Σ' (by decide +kernel), ?_⟩
    rw [small, if_neg (hne 'İ' (by decide +kernel)), hto, smallCode_smallCode]
  · rw [ofNat_of_not_valid hvalid]
    exact ⟨by decide, by decide +kernel⟩

theorem settled_of_mem_small {c d : Char} (h : d ∈ small c) : Settled d := by
  unfold small at h
  split at h
  · simp only [List.mem_cons, List.not_mem_nil, or_false] at h
    rcases h with rfl | rfl
    · exact ⟨by decide, by decide +kernel⟩
    · exact ⟨by decide, by decide +kernel⟩
  · simp only [List.mem_singleton] at h
    rw [h]
    exact settled_ofNat_smallCode _

theorem settled_of_mem_lowerAfter {before s : List Char} {d : Char}
    (h : d ∈ lowerAfter before s) : Settled d := by
  induction s generalizing before with
  | nil => simp [lowerAfter] at h
  | cons c rest ih =>
    simp only [lowerAfter, List.mem_append] at h
    rcases h with h | h
    · split at h
      · split at h <;> simp only [List.mem_singleton] at h <;> subst h
        · exact ⟨by decide, by decide +kernel⟩
        · exact ⟨by decide, by decide +kernel⟩
      · exact settled_of_mem_small h
    · exact ih h

/-- Settled text is its own small form. -/
theorem lowerAfter_of_settled {before s : List Char} (h : ∀ c ∈ s, Settled c) :
    lowerAfter before s = s := by
  induction s generalizing before with
  | nil => rfl
  | cons c rest ih =>
    have hc := h c (by simp)
    have hrest : lowerAfter (c :: before) rest = rest := ih fun d hd => h d (by simp [hd])
    simp [lowerAfter, hc.1, hc.2, hrest]

/-- Lower-casing what has been lower-cased changes nothing. -/
theorem lower_lower (s : List Char) : lower (lower s) = lower s :=
  lowerAfter_of_settled fun _ h => settled_of_mem_lowerAfter h

/-! ## Small letters of trimmed text -/

/-- The characters that one character of a text turns into. -/
def smallPiece (before rest : List Char) (c : Char) : List Char :=
  if c = 'Σ' then
    if meetsCased before && !meetsCased rest then ['ς'] else ['σ']
  else small c

theorem lowerAfter_cons (before rest : List Char) (c : Char) :
    lowerAfter before (c :: rest) = smallPiece before rest c ++ lowerAfter (c :: before) rest :=
  rfl

theorem smallPiece_ne_nil (before rest : List Char) (c : Char) :
    smallPiece before rest c ≠ [] := by
  unfold smallPiece small
  split
  · split <;> simp
  · split <;> simp

theorem not_blank_of_mem_smallPiece {before rest : List Char} {c d : Char}
    (hc : isBlank c = false) (hd : d ∈ smallPiece before rest c) : isBlank d = false := by
  unfold smallPiece small at hd
  split at hd
  · split at hd <;> simp only [List.mem_singleton] at hd <;> subst hd
    · decide +kernel
    · decide +kernel
  · split at hd
    · simp only [List.mem_cons, List.not_mem_nil, or_false] at hd
      rcases hd with rfl | rfl
      · decide +kernel
      · decide +kernel
    · simp only [List.mem_singleton] at hd
      subst hd
      by_cases hvalid : (smallCode c.toNat).isValidChar
      · have := blank_smallCode (n := c.toNat) hc
        rwa [isBlank, toNat_ofNat_of_valid hvalid]
      · rw [ofNat_of_not_valid hvalid]
        decide +kernel

theorem lowerAfter_eq_nil {before s : List Char} : lowerAfter before s = [] ↔ s = [] := by
  cases s with
  | nil => simp [lowerAfter]
  | cons c rest => simp [lowerAfter_cons, smallPiece_ne_nil]

theorem head_lowerAfter {before s : List Char} (h : ∀ c ∈ s.head?, isBlank c = false) :
    ∀ d ∈ (lowerAfter before s).head?, isBlank d = false := by
  cases s with
  | nil => simp [lowerAfter]
  | cons c rest =>
    intro d hd
    obtain ⟨e, tail, he⟩ := List.exists_cons_of_ne_nil (smallPiece_ne_nil before rest c)
    rw [lowerAfter_cons, he, List.cons_append, List.head?_cons, Option.mem_some] at hd
    have hmem : d ∈ smallPiece before rest c := by simp [he, hd]
    exact not_blank_of_mem_smallPiece (h c (by simp)) hmem

theorem getLast_lowerAfter {before s : List Char} (h : ∀ c ∈ s.getLast?, isBlank c = false) :
    ∀ d ∈ (lowerAfter before s).getLast?, isBlank d = false := by
  induction s generalizing before with
  | nil => simp [lowerAfter]
  | cons c rest ih =>
    intro d hd
    rw [lowerAfter_cons] at hd
    by_cases hrest : rest = []
    · subst hrest
      simp only [lowerAfter, List.append_nil] at hd
      exact not_blank_of_mem_smallPiece (h c (by simp)) (List.mem_of_getLast? hd)
    · have hne : lowerAfter (c :: before) rest ≠ [] := by simpa [lowerAfter_eq_nil] using hrest
      rw [List.getLast?_append, Option.mem_def, Option.or_eq_some_iff] at hd
      have hlast : ∀ e ∈ rest.getLast?, isBlank e = false := fun e he => by
        refine h e ?_
        cases rest with
        | nil => exact absurd rfl hrest
        | cons e' tail => simpa using he
      rcases hd with hd | ⟨hnone, _⟩
      · exact ih hlast d hd
      · exact absurd (List.getLast?_eq_none_iff.mp hnone) hne

/-- Small letters of trimmed text are trimmed. -/
theorem trimmed_lower {s : List Char} (h : Trimmed s) : Trimmed (lower s) :=
  ⟨head_lowerAfter h.1, getLast_lowerAfter h.2⟩

end Rollout.Text

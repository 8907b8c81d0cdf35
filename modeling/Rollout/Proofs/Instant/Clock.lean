import Rollout.Instant

/-!
# Clocks

Rounding to 53 significant bits keeps the order of numbers (`nearestSigned53_mono`). So a later
instant has no smaller reading, and of two instants the earlier one is at least as long ago
(`since_le_since`).

Between 2 ^ 30 and 2 ^ 31 seconds after the start of 1970 the readings lie on one grid, which whole
seconds keep to and on which no two instants fall together. There the clock tells exactly whether
more than a number of whole seconds has passed (`lt_since_iff`).
-/

namespace Rollout

/-! ## Rounding -/

theorem div_le_divideNearest (n d : Nat) : n / d ≤ divideNearest n d := by
  simp only [divideNearest]
  repeat' split
  all_goals omega

theorem divideNearest_le (n d : Nat) : divideNearest n d ≤ n / d + 1 := by
  simp only [divideNearest]
  repeat' split
  all_goals omega

theorem divideNearest_mono {n m : Nat} (le : n ≤ m) (d : Nat) :
    divideNearest n d ≤ divideNearest m d := by
  have quotients : n / d ≤ m / d := Nat.div_le_div_right le
  rcases Nat.lt_or_eq_of_le quotients with less | same
  · calc divideNearest n d ≤ n / d + 1 := divideNearest_le n d
      _ ≤ m / d := less
      _ ≤ divideNearest m d := div_le_divideNearest m d
  · -- with one quotient, the remainders decide
    have remainders : n % d ≤ m % d := by
      have hn := Nat.div_add_mod n d
      have hm := Nat.div_add_mod m d
      rw [same] at hn
      omega
    simp only [divideNearest, same]
    repeat' split
    all_goals omega

/-- The bits that are rounded away. -/
def extraBits (n d : Nat) : Nat := (n / d).log2 - 52

theorem nearest53_eq (n d : Nat) :
    nearest53 n d = if extraBits n d = 0 then n / d
      else divideNearest n (d <<< extraBits n d) <<< extraBits n d := rfl

theorem div_shiftLeft (n d k : Nat) : n / (d <<< k) = (n / d) / 1 <<< k := by
  rw [Nat.shiftLeft_eq, Nat.one_shiftLeft, Nat.div_div_eq_div_mul]

theorem shiftLeft_mono {a b : Nat} (le : a ≤ b) (k : Nat) : a <<< k ≤ b <<< k := by
  rw [Nat.shiftLeft_eq, Nat.shiftLeft_eq]
  exact Nat.mul_le_mul_right _ le

theorem extraBits_mono {n m : Nat} (le : n ≤ m) (d : Nat) : extraBits n d ≤ extraBits m d := by
  have quotients : n / d ≤ m / d := Nat.div_le_div_right le
  have bits : (n / d).log2 ≤ (m / d).log2 := by
    by_cases zero : n / d = 0
    · rw [zero]
      exact Nat.zero_le _
    · have positive : 0 < m / d := Nat.lt_of_lt_of_le (Nat.pos_of_ne_zero zero) quotients
      rw [Nat.le_log2 (Nat.ne_of_gt positive)]
      exact Nat.le_trans (Nat.log2_self_le zero) quotients
  exact Nat.sub_le_sub_right bits 52

/-- A number is rounded to the next power of two at most. -/
theorem nearest53_le (n d : Nat) : nearest53 n d ≤ 1 <<< (53 + extraBits n d) := by
  have short : n / d < 1 <<< (53 + extraBits n d) := by
    rw [Nat.one_shiftLeft]
    refine Nat.lt_of_lt_of_le Nat.lt_log2_self (Nat.pow_le_pow_right (by decide) ?_)
    simp only [extraBits]
    omega
  rw [nearest53_eq]
  split
  · exact Nat.le_of_lt short
  · have quotient : n / (d <<< extraBits n d) < 1 <<< 53 := by
      rw [div_shiftLeft, Nat.div_lt_iff_lt_mul (by rw [Nat.one_shiftLeft]; exact Nat.two_pow_pos _)]
      rwa [Nat.one_shiftLeft, Nat.one_shiftLeft, ← Nat.pow_add, ← Nat.one_shiftLeft]
    have rounded := divideNearest_le n (d <<< extraBits n d)
    have bound : divideNearest n (d <<< extraBits n d) ≤ 1 <<< 53 := by omega
    rw [Nat.shiftLeft_add]
    exact shiftLeft_mono bound _

/-- What is rounded has 53 bits before the bits that are rounded away. -/
theorem le_nearest53 {n d : Nat} (extra : extraBits n d ≠ 0) :
    1 <<< (52 + extraBits n d) ≤ nearest53 n d := by
  have long : 1 <<< (52 + extraBits n d) ≤ n / d := by
    have nonzero : n / d ≠ 0 := by
      intro zero
      simp [extraBits, zero] at extra
    rw [Nat.one_shiftLeft]
    refine Nat.le_trans (Nat.pow_le_pow_right (by decide) ?_) (Nat.log2_self_le nonzero)
    simp only [extraBits] at extra ⊢
    omega
  have quotient : 1 <<< 52 ≤ n / (d <<< extraBits n d) := by
    rw [div_shiftLeft, Nat.le_div_iff_mul_le (by rw [Nat.one_shiftLeft]; exact Nat.two_pow_pos _)]
    rwa [Nat.one_shiftLeft, Nat.one_shiftLeft, ← Nat.pow_add, ← Nat.one_shiftLeft]
  rw [nearest53_eq, if_neg extra, Nat.shiftLeft_add]
  exact shiftLeft_mono (Nat.le_trans quotient (div_le_divideNearest _ _)) _

theorem nearest53_mono {n m : Nat} (le : n ≤ m) (d : Nat) : nearest53 n d ≤ nearest53 m d := by
  rcases Nat.lt_or_eq_of_le (extraBits_mono le d) with fewer | same
  · -- a power of two lies between the two
    calc nearest53 n d ≤ 1 <<< (53 + extraBits n d) := nearest53_le n d
      _ ≤ 1 <<< (52 + extraBits m d) := by
        rw [Nat.one_shiftLeft, Nat.one_shiftLeft]
        exact Nat.pow_le_pow_right (by decide) (by omega)
      _ ≤ nearest53 m d := le_nearest53 (by omega)
  · rw [nearest53_eq, nearest53_eq, same]
    split
    · exact Nat.div_le_div_right le
    · exact shiftLeft_mono (divideNearest_mono le _) _

theorem nearestSigned53_mono {a b : Int} (le : a ≤ b) (d : Nat) :
    nearestSigned53 a d ≤ nearestSigned53 b d := by
  simp only [nearestSigned53]
  split <;> split
  · have := nearest53_mono (n := b.natAbs) (m := a.natAbs) (by omega) d
    omega
  · omega
  · omega
  · have := nearest53_mono (n := a.natAbs) (m := b.natAbs) (by omega) d
    omega

/-! ### Powers of two -/

theorem divideNearest_shiftLeft (n d k : Nat) :
    divideNearest (n <<< k) (d <<< k) = divideNearest n d := by
  have positive : 0 < 1 <<< k := by
    rw [Nat.one_shiftLeft]
    exact Nat.two_pow_pos k
  have scaled : ∀ a : Nat, a <<< k = a * 1 <<< k := fun a => by
    rw [Nat.one_shiftLeft, Nat.shiftLeft_eq]
  rw [scaled n, scaled d]
  generalize 1 <<< k = c at positive
  simp only [divideNearest, Nat.mul_div_mul_right n d positive, Nat.mul_mod_mul_right,
    ← Nat.mul_assoc 2, Nat.mul_lt_mul_right positive]

/-- A multiple of the divisor is divided exactly. -/
theorem divideNearest_one_shiftLeft {n k : Nat} (j : Nat) (le : k ≤ j) :
    divideNearest (n <<< j) (1 <<< k) = n <<< (j - k) := by
  have split : n <<< j = n <<< (j - k) <<< k := by
    rw [← Nat.shiftLeft_add, Nat.sub_add_cancel le]
  rw [split, divideNearest_shiftLeft]
  simp [divideNearest, Nat.mod_one]

/-- A number of at most 53 bits, times a power of two, is not rounded. -/
theorem nearest53_shiftLeft {n : Nat} (short : n < 1 <<< 53) (k : Nat) :
    nearest53 (n <<< k) 1 = n <<< k := by
  have few : (n <<< k / 1).log2 - 52 ≤ k := by
    rw [Nat.div_one]
    by_cases zero : n = 0
    · simp [zero]
    · have bits : (n <<< k).log2 < 53 + k := by
        have nonzero : n <<< k ≠ 0 := by
          rw [Nat.shiftLeft_eq]
          exact Nat.mul_ne_zero zero (Nat.ne_of_gt (Nat.two_pow_pos k))
        rw [Nat.log2_lt nonzero, Nat.shiftLeft_eq, Nat.pow_add, ← Nat.one_shiftLeft 53]
        exact Nat.mul_lt_mul_of_pos_right short (Nat.two_pow_pos k)
      omega
  simp only [nearest53]
  split
  · exact Nat.div_one _
  · rw [divideNearest_one_shiftLeft k few, ← Nat.shiftLeft_add, Nat.sub_add_cancel few]

/-! ## Readings -/

namespace Instant

theorem reading_mono {s t : Instant} (le : s.microseconds ≤ t.microseconds) :
    s.reading ≤ t.reading :=
  nearestSigned53_mono (Int.mul_le_mul_of_nonneg_right le (Int.natCast_nonneg _)) _

/-- What happened earlier is at least as long ago. -/
theorem since_le_since {s t : Instant} (le : s.microseconds ≤ t.microseconds) (now : Instant) :
    now.since t ≤ now.since s := by
  have readings := reading_mono le
  exact nearestSigned53_mono (by omega) 1

/-! ## Whole seconds -/

/-- The instant lies from 2 ^ 30 to 2 ^ 31 seconds after the start of 1970, which is between the
years 2004 and 2038. -/
def InEra (t : Instant) : Prop :=
  1073741824000000 ≤ t.microseconds ∧ t.microseconds < 2147483648000000

/-- The reading at an instant of the era, in parts of a second of which there are 2 ^ 22. -/
def stamp (microseconds : Nat) : Nat :=
  divideNearest (microseconds * 4194304) 1000000

theorem stamp_lt_stamp {m n : Nat} (less : m < n) : stamp m < stamp n := by
  simp only [stamp, divideNearest]
  repeat' split
  all_goals omega

/-- Whole seconds are read exactly. -/
theorem stamp_add (n seconds : Nat) :
    stamp (n + seconds * 1000000) = stamp n + seconds * 4194304 := by
  simp only [stamp, divideNearest]
  repeat' split
  all_goals omega

theorem InEra.stamp_bounds {t : Instant} (era : t.InEra) :
    1 <<< 52 ≤ stamp t.microseconds.toNat ∧ stamp t.microseconds.toNat ≤ 1 <<< 53 := by
  obtain ⟨low, high⟩ := era
  simp only [stamp, divideNearest]
  constructor
  all_goals repeat' split
  all_goals omega

theorem reading_eq_stamp {t : Instant} (era : t.InEra) :
    t.reading = (stamp t.microseconds.toNat <<< 42 : Nat) := by
  obtain ⟨n, same⟩ : ∃ n : Nat, t.microseconds = n := ⟨t.microseconds.toNat, by
    rw [Int.toNat_of_nonneg (Int.le_trans (by decide) era.1)]⟩
  obtain ⟨low, high⟩ := era
  rw [same] at low high
  have ticks : ((n : Int) * ticksPerSecond).natAbs = (n * 4194304) <<< 42 := by
    rw [Int.natAbs_mul]
    simp only [Int.natAbs_natCast, ticksPerSecond, Nat.shiftLeft_eq]
    omega
  have bits : ((n * 4194304) <<< 42 / 1000000).log2 = 94 := by
    rw [Nat.log2_eq_iff] <;> simp only [Nat.shiftLeft_eq] <;> omega
  have positive : ¬ (n : Int) * ticksPerSecond < 0 :=
    Int.not_lt.mpr (Int.mul_nonneg (Int.natCast_nonneg _) (Int.natCast_nonneg _))
  rw [reading, same, Int.toNat_natCast, nearestSigned53, if_neg positive, ticks]
  simp only [nearest53, microsecondsPerSecond, bits, Nat.reduceSub, Nat.reduceEqDiff, if_false,
    divideNearest_shiftLeft, stamp]

/-- The difference of two readings of the era has at most 53 bits before the ticks, and is not
rounded. -/
theorem nearest53_sub {a b : Nat} (high : a ≤ 1 <<< 53) (low : 1 <<< 52 ≤ b) (le : b ≤ a) :
    nearest53 (a <<< 42 - b <<< 42) 1 = a <<< 42 - b <<< 42 := by
  have short : a - b < 1 <<< 53 := by omega
  have scaled : a <<< 42 - b <<< 42 = (a - b) <<< 42 := by
    simp only [Nat.shiftLeft_eq]
    omega
  rw [scaled, nearest53_shiftLeft short]

/-- The time between two instants of the era is the difference of their readings. -/
theorem since_eq_stamp {s t : Instant} (first : s.InEra) (second : t.InEra) :
    t.since s =
      (stamp t.microseconds.toNat - stamp s.microseconds.toNat : Int) * 4398046511104 := by
  obtain ⟨low, high⟩ := first.stamp_bounds
  obtain ⟨low', high'⟩ := second.stamp_bounds
  rw [since, reading_eq_stamp first, reading_eq_stamp second]
  revert low high low' high'
  generalize stamp s.microseconds.toNat = b
  generalize stamp t.microseconds.toNat = a
  intro low high low' high'
  rw [nearestSigned53]
  split
  · rename_i negative
    have le : a ≤ b := by
      simp only [Nat.shiftLeft_eq] at negative
      omega
    have size : ((a <<< 42 : Nat) - (b <<< 42 : Nat) : Int).natAbs = b <<< 42 - a <<< 42 := by
      simp only [Nat.shiftLeft_eq]
      omega
    rw [size, nearest53_sub high low' le]
    simp only [Nat.shiftLeft_eq]
    omega
  · rename_i positive
    have le : b ≤ a := by
      simp only [Nat.shiftLeft_eq] at positive
      omega
    have size : ((a <<< 42 : Nat) - (b <<< 42 : Nat) : Int).natAbs = a <<< 42 - b <<< 42 := by
      simp only [Nat.shiftLeft_eq]
      omega
    rw [size, nearest53_sub high' low le]
    simp only [Nat.shiftLeft_eq]
    omega

/-- Within the era the clock tells exactly whether more than a number of whole seconds has
passed. -/
theorem lt_since_iff {s t : Instant} (first : s.InEra) (second : t.InEra) (seconds : Int) :
    seconds * ticksPerSecond < t.since s ↔
      s.microseconds + seconds * 1000000 < t.microseconds := by
  have stamped_iff : ∀ m n : Nat, stamp m < stamp n ↔ m < n := fun m n =>
    ⟨fun less => Nat.lt_of_not_le fun le => by
      rcases Nat.lt_or_eq_of_le le with below | same
      · exact absurd less (Nat.lt_asymm (stamp_lt_stamp below))
      · rw [same] at less
        exact Nat.lt_irrefl _ less, stamp_lt_stamp⟩
  have ticks : (ticksPerSecond : Int) = 4194304 * 4398046511104 := by decide
  rw [since_eq_stamp first second, ticks]
  obtain ⟨low, -⟩ := first
  obtain ⟨low', -⟩ := second
  rcases Int.le_total 0 seconds with forward | backward
  · obtain ⟨k, rfl⟩ := Int.eq_ofNat_of_zero_le forward
    have := stamped_iff (s.microseconds.toNat + k * 1000000) t.microseconds.toNat
    rw [stamp_add] at this
    omega
  · obtain ⟨k, same⟩ := Int.eq_ofNat_of_zero_le (Int.neg_nonneg_of_nonpos backward)
    have := stamped_iff s.microseconds.toNat (t.microseconds.toNat + k * 1000000)
    rw [stamp_add] at this
    omega

end Instant

end Rollout

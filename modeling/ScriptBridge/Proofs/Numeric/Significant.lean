import ScriptBridge.Proofs.Numeric.Exact

/-!
# ScriptBridge.Proofs.Numeric.Significant

Whole numbers with more significant bits than script numbers have.

A double holds 53 significant bits.  A longer whole number becomes the nearest number that has no more (`significant`),
and on the way back this is brought into the range of the type.  So a whole number survives exactly if it needs no more
than 53 bits, or if it is the greatest of its type: what is rounded up past the end comes back as the end.

Main results:
  * `significant_eq_self_iff` - which numbers rounding leaves alone;
  * `exists_ofInt_long` - the double number for a whole number of more than 53 bits;
  * `ofDouble_toDouble_iff` - which whole numbers survive the way through script numbers.
-/

namespace ScriptBridge.Numeric

-- powers are those of the core library, whatever else is imported
attribute [local instance (high)] instPowNat

/-- The format has enough digits for a natural number: all but its trailing zeros fit. -/
def Format.Holds (f : Format) (n : Nat) : Prop :=
  ∃ m k : Nat, m < 2 ^ f.precision ∧ n = m * 2 ^ k

namespace Binary

/-! ## §1. Rounding natural numbers. -/

/-- The number of 53 significant bits that is nearest to a natural number, the even one in a tie. -/
def significant (n : Nat) : Nat :=
  roundQuotient n (2 ^ (n.log2 - 52)) * 2 ^ (n.log2 - 52)

theorem roundQuotient_bounds (a b : Nat) : a / b ≤ roundQuotient a b ∧ roundQuotient a b ≤ a / b + 1 := by
  unfold roundQuotient
  simp only
  split <;> omega

/-- Rounding to multiples leaves the multiples alone, and nothing else. -/
theorem roundQuotient_mul_eq_iff {a b : Nat} (pos : 0 < b) : roundQuotient a b * b = a ↔ b ∣ a := by
  constructor
  · intro multiple
    exact ⟨roundQuotient a b, by rw [Nat.mul_comm, multiple]⟩
  · rintro ⟨c, rfl⟩
    rw [Nat.mul_comm b c, roundQuotient_mul_self c pos]

/-- The quotient that is rounded has 53 bits. -/
theorem quotient_bounds {n : Nat} (long : 52 ≤ n.log2) :
    2 ^ (52 : Nat) ≤ n / 2 ^ (n.log2 - 52) ∧ n / 2 ^ (n.log2 - 52) < 2 ^ (53 : Nat) := by
  have nonzero : n ≠ 0 := by
    rintro rfl
    rw [Nat.log2_zero] at long
    omega
  have unit : 0 < 2 ^ (n.log2 - 52) := Nat.two_pow_pos _
  constructor
  · rw [Nat.le_div_iff_mul_le unit, ← Nat.pow_add, Nat.add_sub_cancel' long]
    exact Nat.log2_self_le nonzero
  · rw [Nat.div_lt_iff_lt_mul unit, ← Nat.pow_add, show 53 + (n.log2 - 52) = n.log2 + 1 by omega]
    exact Nat.lt_log2_self

/-- **Rounding leaves a number alone exactly if 53 bits are enough for it.** -/
theorem significant_eq_self_iff {n : Nat} : significant n = n ↔ Format.double.Holds n := by
  unfold significant
  rw [roundQuotient_mul_eq_iff (Nat.two_pow_pos _)]
  rcases Nat.lt_or_ge n.log2 52 with short | long
  · -- there are no more than 52 bits
    rw [Nat.sub_eq_zero_of_le (Nat.le_of_lt short), Nat.pow_zero]
    have small : n < 2 ^ 53 := Nat.lt_trans Nat.lt_log2_self (Nat.pow_lt_pow_right (by decide) (by omega))
    exact iff_of_true (Nat.one_dvd n) ⟨n, 0, small, by rw [Nat.pow_zero, Nat.mul_one]⟩
  · constructor
    · rintro ⟨m, whole⟩
      refine ⟨m, n.log2 - 52, ?_, by rw [Nat.mul_comm, ← whole]⟩
      have bits := (quotient_bounds long).2
      rwa [Nat.div_eq_of_eq_mul_right (Nat.two_pow_pos _) whole] at bits
    · rintro ⟨m, k, bits, rfl⟩
      -- the trailing zeros are more than those that rounding makes
      have nonzero : m ≠ 0 := by
        rintro rfl
        rw [Nat.zero_mul, Nat.log2_zero] at long
        omega
      have digits : m.log2 < 53 := (Nat.log2_lt nonzero).2 bits
      rw [log2_mul_two_pow k nonzero]
      exact Nat.dvd_mul_left_of_dvd (Nat.pow_dvd_pow 2 (by omega)) m

/-- Rounding a long number gives one of the format, or the power of two behind them. -/
theorem roundQuotient_significant {n : Nat} (long : 52 ≤ n.log2) :
    2 ^ (52 : Nat) ≤ roundQuotient n (2 ^ (n.log2 - 52)) ∧
      roundQuotient n (2 ^ (n.log2 - 52)) ≤ 2 ^ (53 : Nat) := by
  have quotient := quotient_bounds long
  have rounded := roundQuotient_bounds n (2 ^ (n.log2 - 52))
  omega

/-! ## §2. Long whole numbers in the double format. -/

/-- The double number for a long whole number has an exponent that leaves 53 bits. -/
theorem exponentOf_long {n : Nat} (long : 53 ≤ n.log2) : exponentOf .double n 1 = (n.log2 - 52 : Nat) := by
  have nonzero : n ≠ 0 := by
    rintro rfl
    rw [Nat.log2_zero] at long
    omega
  have precision : Format.double.precision = 53 := rfl
  have least : Format.double.minExponent = -1074 := rfl
  have one : (1 : Nat).log2 = 0 := by decide
  have low : (n.log2 : Int) - (0 : Nat) - (53 : Nat) = (n.log2 - 53 : Nat) := by omega
  -- one place further down the quotient has 54 bits
  have wide : ¬ n * 2 ^ 0 / (1 * 2 ^ (n.log2 - 53)) < 2 ^ 53 := by
    rw [Nat.pow_zero, Nat.mul_one, Nat.one_mul, Nat.not_lt, Nat.le_div_iff_mul_le (Nat.two_pow_pos _), ← Nat.pow_add,
      Nat.add_sub_cancel' long]
    exact Nat.log2_self_le nonzero
  unfold exponentOf
  simp only [precision, least, one, low, unscale, Int.toNat_natCast, Int.toNat_neg_natCast]
  rw [if_neg wide]
  omega

/-- **The double number for a whole number of more than 53 bits**, as far as the format reaches. -/
theorem exists_ofInt_long {n : Int} (long : 53 ≤ n.natAbs.log2) (inside : n.natAbs.log2 ≤ 1000) :
    ∃ m e h, Binary.ofInt .double n = .finite (n < 0) m (e : Nat) h ∧ m * 2 ^ e = significant n.natAbs := by
  generalize size : n.natAbs = a at long inside
  have nonzero : a ≠ 0 := by
    rintro rfl
    rw [Nat.log2_zero] at long
    omega
  obtain ⟨above, below⟩ := roundQuotient_significant (show 52 ≤ a.log2 by omega)
  unfold Binary.ofInt nearest
  rw [size, if_neg nonzero]
  simp only [exponentOf_long long, unscale, Int.toNat_natCast, Int.toNat_neg_natCast, Nat.pow_zero, Nat.mul_one,
    Nat.one_mul]
  generalize rounded : roundQuotient a (2 ^ (a.log2 - 52)) = m at above below
  have value : significant a = m * 2 ^ (a.log2 - 52) := by
    unfold significant
    rw [rounded]
  by_cases top : m = 2 ^ Format.double.precision
  · -- the next power of two, which is written with a greater exponent
    have canonical : Format.double.Canonical (2 ^ 52) (a.log2 - 52 + 1 : Nat) := by
      refine ⟨by decide, ?_, ?_, .inr (by decide)⟩
      · show (-1074 : Int) ≤ _
        omega
      · show _ ≤ (971 : Int)
        omega
    rw [if_pos top]
    refine ⟨2 ^ 52, a.log2 - 52 + 1, canonical, ?_, ?_⟩
    · exact dif_pos canonical
    · rw [value, top, Nat.pow_succ 2 (a.log2 - 52), show Format.double.precision = 52 + 1 from rfl, Nat.pow_succ 2 52]
      ac_rfl
  · have bits : m < 2 ^ 53 := Nat.lt_of_le_of_ne below top
    have canonical : Format.double.Canonical m (a.log2 - 52 : Nat) := by
      refine ⟨bits, ?_, ?_, .inr above⟩
      · show (-1074 : Int) ≤ _
        omega
      · show _ ≤ (971 : Int)
        omega
    rw [if_neg top]
    exact ⟨m, a.log2 - 52, canonical, dif_pos canonical, value.symm⟩

/-- A whole number after rounding. -/
def significantInt (n : Int) : Int :=
  if n < 0 then -(significant n.natAbs : Int) else significant n.natAbs

theorem significantInt_eq_self_iff {n : Int} : significantInt n = n ↔ Format.double.Holds n.natAbs := by
  rw [← significant_eq_self_iff]
  unfold significantInt
  split <;> omega

/-- What a whole number in a range becomes on its way through the double format and back into the range. -/
theorem truncate_ofInt_long {n low high : Int} (inside : n.natAbs.log2 ≤ 1000) (above : low ≤ n) (below : n ≤ high) :
    (Binary.ofInt .double n).truncate low high = max low (min high (significantInt n)) := by
  rcases Nat.lt_or_ge n.natAbs.log2 53 with short | long
  · -- there is nothing to round
    have small : n.natAbs < 2 ^ Format.double.precision :=
      Nat.lt_of_lt_of_le Nat.lt_log2_self (Nat.pow_le_pow_right (by decide) (by exact short))
    rw [Whole.truncate_ofInt small above below,
      significantInt_eq_self_iff.2 ⟨n.natAbs, 0, small, by rw [Nat.pow_zero, Nat.mul_one]⟩]
    omega
  · obtain ⟨m, e, h, exact, value⟩ := exists_ofInt_long long inside
    have whole : wholePart m (e : Int) = significant n.natAbs := by
      unfold wholePart
      rw [Int.toNat_natCast, Int.toNat_neg_natCast, Nat.pow_zero, Nat.div_one, value]
    rw [exact, truncate, whole, significantInt]
    simp only [decide_eq_true_eq]

end Binary

/-! ## §3. There and back. -/

namespace Whole

open Binary

variable {t : IntegerType}

/-- The types have at most 64 bits. -/
theorem log2_natAbs_le (n : Whole t) : n.val.natAbs.log2 ≤ 64 := by
  have least := n.least_le
  have greatest := n.le_greatest
  have bound : n.val.natAbs < 2 ^ 65 := by
    cases t <;> simp [IntegerType.width, IntegerType.least, IntegerType.greatest, IntegerType.isSigned] at * <;> omega
  by_cases zero : n.val.natAbs = 0
  · rw [zero, Nat.log2_zero]
    exact Nat.zero_le 64
  · exact Nat.le_of_lt_succ ((Nat.log2_lt zero).2 bound)

/-- What comes back is the rounded number, brought into the range of the type. -/
theorem val_ofDouble_toDouble (n : Whole t) :
    (Whole.ofDouble t n.toDouble).val = max t.least (min t.greatest (significantInt n.val)) := by
  have inside : n.val.natAbs.log2 ≤ 1000 := Nat.le_trans n.log2_natAbs_le (by decide)
  show max t.least (min t.greatest ((Binary.ofInt .double n.val).truncate t.least t.greatest)) = _
  rw [truncate_ofInt_long inside n.least_le n.le_greatest]
  omega

/-- The least number of a type is zero or a power of two. -/
theorem holds_least (t : IntegerType) : Format.double.Holds t.least.natAbs := by
  unfold IntegerType.least
  split
  · refine ⟨1, t.width - 1, by decide, ?_⟩
    rw [Int.natAbs_neg, Nat.one_mul]
    exact Int.natAbs_pow 2 _
  · exact ⟨0, 0, by decide, rfl⟩

/-- The greatest number of every type comes back: if it is rounded, then upwards. -/
theorem greatest_le_significant (t : IntegerType) : t.greatest ≤ significantInt t.greatest := by
  cases t <;> decide

/-- **Which whole numbers survive the way through script numbers**: those for which 53 bits are enough, and the
greatest of the type. -/
theorem ofDouble_toDouble_iff (n : Whole t) :
    Whole.ofDouble t n.toDouble = n ↔ Format.double.Holds n.val.natAbs ∨ n.val = t.greatest := by
  have same : Whole.ofDouble t n.toDouble = n ↔ (Whole.ofDouble t n.toDouble).val = n.val := by
    rw [Whole.mk.injEq]
  have least := n.least_le
  have greatest := n.le_greatest
  rw [same, val_ofDouble_toDouble, ← significantInt_eq_self_iff]
  constructor
  · intro back
    by_cases first : n.val = t.least
    · exact .inl (first ▸ significantInt_eq_self_iff.2 (holds_least t))
    · omega
  · rintro (exact | last)
    · omega
    · have up := greatest_le_significant t
      rw [last]
      have range := t.least_le_greatest
      omega

end Whole

end ScriptBridge.Numeric

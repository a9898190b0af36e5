import ScriptBridge.Numeric.Whole

/-!
# ScriptBridge.Proofs.Numeric.Exact

Rounding does nothing to a number that the format can write.

`nearest` is defined by a search for the exponent and one rounded division.  When the quotient already is `m · 2^e`
with a canonical pair, the search ends at `e` and the division leaves no rest, so the pair comes out unchanged.

Main results:
  * `nearestDyadic_eq_finite` - rounding fixes every canonical pair;
  * `convert_single_double` - a single number survives the way through the double format;
  * `ofDouble_toDouble` - so does every whole number of at most 53 bits.
-/

namespace ScriptBridge.Numeric

-- powers are those of the core library, whatever else is imported
attribute [local instance (high)] instPowNat

namespace Binary

variable {f : Format}

/-! ## §1. Logarithms and exact division. -/

theorem two_pow_ne_zero (k : Nat) : 2 ^ k ≠ 0 :=
  Nat.ne_of_gt (Nat.two_pow_pos k)

theorem log2_mul_two_pow {n : Nat} (k : Nat) (h : n ≠ 0) : (n * 2 ^ k).log2 = n.log2 + k := by
  have low : 2 ^ n.log2 ≤ n := Nat.log2_self_le h
  have high : n < 2 ^ (n.log2 + 1) := Nat.lt_log2_self
  rw [Nat.log2_eq_iff (Nat.mul_ne_zero h (two_pow_ne_zero k))]
  constructor
  · rw [Nat.pow_add]
    exact Nat.mul_le_mul_right _ low
  · rw [show n.log2 + k + 1 = (n.log2 + 1) + k by omega, Nat.pow_add]
    exact Nat.mul_lt_mul_of_pos_right high (Nat.two_pow_pos k)

/-- An exact division is not rounded. -/
theorem roundQuotient_mul_self (m : Nat) {c : Nat} (pos : 0 < c) : roundQuotient (m * c) c = m := by
  unfold roundQuotient
  simp only [Nat.mul_mod_left, Nat.mul_div_cancel m pos]
  rw [if_neg]
  omega

/-! ## §2. Rounding fixes canonical pairs. -/

/-- One place below `e` the quotient `a / 2^j = m · 2^e` is `2 m`. -/
theorem le_quotient_below {m a j n : Nat} {e : Int} (double : n ≤ 2 * m)
    (value : a * 2 ^ (-e).toNat = m * 2 ^ (e.toNat + j)) :
    n ≤ a * 2 ^ (-(e - 1)).toNat / (2 ^ j * 2 ^ (e - 1).toNat) := by
  rw [Nat.le_div_iff_mul_le (Nat.mul_pos (Nat.two_pow_pos _) (Nat.two_pow_pos _))]
  -- the sign of `e` says on which side of the fraction its power stands
  rcases Int.lt_or_le 0 e with up | down
  · have split_e : e.toNat = (e - 1).toNat + 1 := by omega
    have zero : (-e).toNat = 0 := by omega
    have zero' : (-(e - 1)).toNat = 0 := by omega
    rw [zero, Nat.pow_zero, Nat.mul_one] at value
    rw [zero', Nat.pow_zero, Nat.mul_one, value, split_e]
    calc n * (2 ^ j * 2 ^ (e - 1).toNat)
        ≤ 2 * m * (2 ^ j * 2 ^ (e - 1).toNat) := Nat.mul_le_mul_right _ double
      _ = m * 2 ^ ((e - 1).toNat + 1 + j) := by
        rw [Nat.pow_add, Nat.pow_succ]
        ac_rfl
  · have split_e : (-(e - 1)).toNat = (-e).toNat + 1 := by omega
    have zero : e.toNat = 0 := by omega
    have zero' : (e - 1).toNat = 0 := by omega
    rw [zero, Nat.zero_add] at value
    rw [zero', Nat.pow_zero, Nat.mul_one, split_e, Nat.pow_succ, ← Nat.mul_assoc, value]
    calc n * 2 ^ j ≤ 2 * m * 2 ^ j := Nat.mul_le_mul_right _ double
      _ = m * 2 ^ j * 2 := by ac_rfl

/-- The search for the exponent of `a / 2^j = m · 2^e` ends at `e`. -/
theorem exponentOf_eq {m a j : Nat} {e : Int} (h : f.Canonical m e) (pos : 0 < m)
    (value : a * 2 ^ (-e).toNat = m * 2 ^ (e.toNat + j)) : exponentOf f a (2 ^ j) = e := by
  obtain ⟨below, least, -, shape⟩ := h
  have numerator : a ≠ 0 := by
    rintro rfl
    rw [Nat.zero_mul] at value
    exact absurd value.symm (Nat.mul_ne_zero (by omega) (two_pow_ne_zero _))
  have size : a.log2 + (-e).toNat = m.log2 + (e.toNat + j) := by
    rw [← log2_mul_two_pow _ numerator, ← log2_mul_two_pow _ (by omega), value]
  have digits : m.log2 < f.precision := (Nat.log2_lt (by omega)).2 below
  unfold exponentOf
  simp only [Nat.log2_two_pow]
  generalize low_eq : (a.log2 : Int) - j - f.precision = low
  have low_lt : low ≤ e - 1 := by omega
  rcases shape with bottom | normal
  · -- at the bottom of the range the search cannot go below `e`
    split <;> omega
  · have top : m.log2 + 1 = f.precision := by
      have := (Nat.le_log2 (by omega)).2 normal
      omega
    have low_is : low = e - 1 := by omega
    have double : 2 ^ f.precision ≤ 2 * m := by
      rw [← top, Nat.pow_succ]
      have := Nat.log2_self_le (show m ≠ 0 by omega)
      omega
    -- one place further down the quotient no longer fits
    rw [if_neg, low_is]
    · omega
    · rw [low_is, Nat.not_lt, unscale]
      exact le_quotient_below double value

/-- A quotient that is a number of the format is that number. -/
theorem nearest_eq_finite {m a j : Nat} {e : Int} (negative : Bool) (h : f.Canonical m e) (pos : 0 < m)
    (value : a * 2 ^ (-e).toNat = m * 2 ^ (e.toNat + j)) : nearest f negative a (2 ^ j) = .finite negative m e h := by
  have numerator : a ≠ 0 := by
    rintro rfl
    rw [Nat.zero_mul] at value
    exact absurd value.symm (Nat.mul_ne_zero (by omega) (two_pow_ne_zero _))
  have exact : roundQuotient (a * 2 ^ (-e).toNat) (2 ^ j * 2 ^ e.toNat) = m := by
    rw [value, Nat.pow_add, Nat.mul_comm (2 ^ e.toNat)]
    exact roundQuotient_mul_self m (Nat.mul_pos (Nat.two_pow_pos _) (Nat.two_pow_pos _))
  have bounded : m ≠ 2 ^ f.precision := Nat.ne_of_lt h.1
  unfold nearest
  rw [if_neg numerator]
  simp only [exponentOf_eq h pos value, unscale]
  rw [exact, if_neg bounded, ofParts, dif_pos h]

/-- Rounding fixes every number of the format, in whatever way it is written as `n · 2^d`. -/
theorem nearestDyadic_eq_finite {m n : Nat} {e d : Int} (negative : Bool) (h : f.Canonical m e) (pos : 0 < m)
    (value : n * 2 ^ (d.toNat + (-e).toNat) = m * 2 ^ (e.toNat + (-d).toNat)) :
    nearestDyadic f negative n d = .finite negative m e h := by
  unfold nearestDyadic
  apply nearest_eq_finite negative h pos
  rw [Nat.mul_assoc, ← Nat.pow_add, value]

/-- A zero has the least exponent. -/
theorem nearestDyadic_zero (negative : Bool) (d : Int) : nearestDyadic f negative 0 d = zero f negative := by
  unfold nearestDyadic nearest zero
  rw [Nat.zero_mul, if_pos rfl]

/-! ## §3. Single numbers in the double format. -/

/-- A mantissa and its multiple by `2^k`, whose exponent is smaller by `k`. -/
theorem shifted_value (m k : Nat) (e : Int) :
    m * 2 ^ (e.toNat + (-(e - k)).toNat) = m * 2 ^ k * 2 ^ ((e - k).toNat + (-e).toNat) := by
  rw [Nat.mul_assoc, ← Nat.pow_add]
  congr 2
  omega

/-- A mantissa that is filled up to 53 bits is that of a double number, if the exponent is within the range. -/
theorem canonical_double_filled {m : Nat} {e : Int} (pos : 0 < m) (bits : m.log2 < 53) (least : -1074 ≤ e)
    (greatest : e ≤ 971) : Format.double.Canonical (m * 2 ^ (52 - m.log2)) e := by
  have filled : (m * 2 ^ (52 - m.log2)).log2 = 52 := by
    rw [log2_mul_two_pow _ (by omega)]
    omega
  have shape := (Nat.log2_eq_iff (Nat.mul_ne_zero (by omega) (two_pow_ne_zero _))).1 filled
  exact ⟨shape.2, least, greatest, Or.inr shape.1⟩

/-- A single number other than zero, with its mantissa filled up to 53 bits, is a double number. -/
theorem canonical_double_of_single {m : Nat} {e : Int} (h : Format.single.Canonical m e) (pos : 0 < m) :
    Format.double.Canonical (m * 2 ^ (52 - m.log2)) (e - (52 - m.log2 : Nat)) := by
  obtain ⟨below, least, greatest, -⟩ := h
  have bits : m.log2 < 24 := (Nat.log2_lt (by omega)).2 below
  have least' : (-149 : Int) ≤ e := least
  have greatest' : e ≤ (104 : Int) := greatest
  exact canonical_double_filled pos (by omega) (by omega) (by omega)

/-- **A single number survives the way through the double format.** -/
theorem convert_single_double (x : Single) : (x.convert .double).convert .single = x := by
  cases x with
  | nan => rfl
  | infinite negative => rfl
  | finite negative m e h =>
    rcases Nat.eq_zero_or_pos m with rfl | pos
    · have bottom : e = -149 := by
        rcases h.2.2.2 with bottom | normal
        · exact bottom
        · exact absurd normal (by decide)
      subst bottom
      rw [convert, nearestDyadic_zero]
      show nearestDyadic .single negative 0 (-1074) = _
      rw [nearestDyadic_zero]
      rfl
    · rw [convert, nearestDyadic_eq_finite negative (canonical_double_of_single h pos)
        (Nat.mul_pos pos (Nat.two_pow_pos _)) (shifted_value m _ e)]
      exact nearestDyadic_eq_finite negative h pos (shifted_value m _ e).symm

end Binary

/-! ## §4. Whole numbers in the double format. -/

namespace Whole

open Binary

/-- The double number for a whole number of at most 53 bits is exact. -/
theorem exists_ofInt_eq {n : Int} (small : n.natAbs < 2 ^ Format.double.precision) (nonzero : n ≠ 0) :
    ∃ h, Binary.ofInt .double n =
      .finite (n < 0) (n.natAbs * 2 ^ (52 - n.natAbs.log2)) (-(52 - n.natAbs.log2 : Nat) : Int) h := by
  have size : n.natAbs ≠ 0 := by omega
  have bits : n.natAbs.log2 < 53 := (Nat.log2_lt size).2 small
  have canonical : Format.double.Canonical (n.natAbs * 2 ^ (52 - n.natAbs.log2))
      (-(52 - n.natAbs.log2 : Nat) : Int) :=
    canonical_double_filled (by omega) bits (by omega) (by omega)
  refine ⟨canonical, ?_⟩
  unfold Binary.ofInt
  have unit : (1 : Nat) = 2 ^ 0 := rfl
  rw [unit]
  apply nearest_eq_finite _ canonical (Nat.mul_pos (by omega) (Nat.two_pow_pos _))
  rw [Int.neg_neg, Int.toNat_natCast, Int.toNat_neg_natCast, Nat.add_zero, Nat.pow_zero, Nat.mul_one]

/-- Dropping the fraction of the double number for a whole number gives it back, if the range allows. -/
theorem truncate_ofInt {n low high : Int} (small : n.natAbs < 2 ^ Format.double.precision) (above : low ≤ n)
    (below : n ≤ high) : (Binary.ofInt .double n).truncate low high = n := by
  -- zero has an exponent of its own
  by_cases nonzero : n = 0
  · subst nonzero
    show max low (min high _) = 0
    have whole : wholePart 0 (-1074) = 0 := by
      unfold wholePart
      rw [Nat.zero_mul, Nat.zero_div]
    show max low (min high (if decide ((0 : Int) < 0) = true then -(wholePart 0 (-1074) : Int)
      else wholePart 0 (-1074))) = 0
    rw [whole]
    simp only [Int.lt_irrefl, decide_false, Bool.false_eq_true, if_false, Int.natCast_zero]
    omega
  · obtain ⟨h, exact⟩ := exists_ofInt_eq small nonzero
    have whole : wholePart (n.natAbs * 2 ^ (52 - n.natAbs.log2)) (-(52 - n.natAbs.log2 : Nat) : Int) = n.natAbs := by
      unfold wholePart
      rw [Int.neg_neg, Int.toNat_natCast, Int.toNat_neg_natCast, Nat.pow_zero, Nat.mul_one]
      exact Nat.mul_div_cancel _ (Nat.two_pow_pos _)
    rw [exact, truncate, whole]
    by_cases sign : n < 0
    · simp only [sign, decide_true, if_true]
      omega
    · simp only [sign, decide_false, Bool.false_eq_true, if_false]
      omega

/-- **A whole number of at most 53 bits survives the way through script numbers.** -/
theorem ofDouble_toDouble {t : IntegerType} (n : Whole t) (small : n.val.natAbs < 2 ^ Format.double.precision) :
    Whole.ofDouble t n.toDouble = n := by
  obtain ⟨val, above, below⟩ := n
  have exact : (Binary.ofInt .double val).truncate t.least t.greatest = val := truncate_ofInt small above below
  simp only [ofDouble, toDouble, exact, clamp, Whole.mk.injEq]
  omega

end Whole

end ScriptBridge.Numeric

import ScriptBridge.Numeric.Binary

/-!
# ScriptBridge.Numeric.Whole

Whole numbers of a fixed width, and their way through script numbers and back.

A script number is a double.  A whole number becomes the double nearest to it; on the way back the fraction is
dropped, numbers out of range go to the nearest end of it, and not-a-number becomes zero.
-/

namespace ScriptBridge.Numeric

-- powers are those of the core library, whatever else is imported
attribute [local instance (high)] instPowNat

/-- The native integer types. -/
inductive IntegerType where
  | i8 | u8 | i16 | u16 | i32 | u32 | i64 | u64 | isize | usize
  deriving DecidableEq, Repr

namespace IntegerType

/-- The name of the type. -/
def name : IntegerType → String
  | i8 => "i8" | u8 => "u8" | i16 => "i16" | u16 => "u16" | i32 => "i32" | u32 => "u32"
  | i64 => "i64" | u64 => "u64" | isize => "isize" | usize => "usize"

/-- The number of bits. -/
def width : IntegerType → Nat
  | i8 | u8 => 8
  | i16 | u16 => 16
  | i32 | u32 => 32
  | i64 | u64 | isize | usize => 64

/-- Whether the type has negative numbers. -/
def isSigned : IntegerType → Bool
  | i8 | i16 | i32 | i64 | isize => true
  | u8 | u16 | u32 | u64 | usize => false

/-- The smallest number of the type. -/
def least (t : IntegerType) : Int :=
  if t.isSigned then -(2 ^ (t.width - 1)) else 0

/-- The greatest number of the type. -/
def greatest (t : IntegerType) : Int :=
  if t.isSigned then 2 ^ (t.width - 1) - 1 else 2 ^ t.width - 1

theorem least_le_greatest (t : IntegerType) : t.least ≤ t.greatest := by
  cases t <;> decide

/-- The type has as many numbers as its bits tell apart. -/
theorem greatest_eq (t : IntegerType) : t.greatest = t.least + 2 ^ t.width - 1 := by
  cases t <;> decide

end IntegerType

/-- A whole number of the given type. -/
structure Whole (t : IntegerType) where
  val : Int
  least_le : t.least ≤ val
  le_greatest : val ≤ t.greatest
  deriving DecidableEq

namespace Whole

variable {t : IntegerType}

/-- The number of the type that is nearest to `n`. -/
def clamp (t : IntegerType) (n : Int) : Whole t :=
  { val := max t.least (min t.greatest n)
    least_le := Int.le_max_left _ _
    le_greatest := Int.max_le.2 ⟨t.least_le_greatest, Int.min_le_left _ _⟩ }

/-- The number of the type that the lowest bits of `n` stand for. -/
def wrap (t : IntegerType) (n : Int) : Whole t :=
  have modulus : 0 < (2 : Int) ^ t.width := Int.pow_pos (by decide)
  { val := t.least + (n - t.least) % 2 ^ t.width
    least_le := Int.le_add_of_nonneg_right (Int.emod_nonneg _ (Int.ne_of_gt modulus))
    le_greatest := by
      have below := Int.emod_lt_of_pos (n - t.least) modulus
      rw [t.greatest_eq]
      omega }

/-- The script number for a whole number. -/
def toDouble (n : Whole t) : Double :=
  .ofInt .double n.val

/-- The whole number for a script number. -/
def ofDouble (t : IntegerType) (x : Double) : Whole t :=
  clamp t (x.truncate t.least t.greatest)

end Whole

end ScriptBridge.Numeric

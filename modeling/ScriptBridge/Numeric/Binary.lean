/-!
# ScriptBridge.Numeric.Binary

Binary floating-point numbers as exact data.

A `Binary f` is not-a-number, an infinity, or `± m · 2^e` with `m` and `e` in the range that the format `f` allows.
The pair `m`, `e` is canonical, so equal finite numbers are equal data, and there is a single not-a-number.
Every operation computes its exact result as a quotient of naturals and rounds it once, to the nearest number of
the format and in a tie to the even one (`nearest`).
-/

namespace ScriptBridge.Numeric

-- powers are those of the core library, whatever else is imported
attribute [local instance (high)] instPowNat

/-! ## §1. Formats and numbers. -/

/-- A binary format: finite numbers are `± m · 2^e` with `m < 2^precision` and `minExponent ≤ e ≤ maxExponent`. -/
structure Format where
  precision : Nat
  minExponent : Int
  maxExponent : Int
  deriving DecidableEq, Repr

namespace Format

/-- The format with 24 significant bits. -/
def single : Format :=
  ⟨24, -149, 104⟩

/-- The format with 53 significant bits. -/
def double : Format :=
  ⟨53, -1074, 971⟩

/-- Whether `m · 2^e` is how the format writes a number: the exponent is as small as the format and the size of
the number allow. -/
def Canonical (f : Format) (m : Nat) (e : Int) : Prop :=
  m < 2 ^ f.precision ∧ f.minExponent ≤ e ∧ e ≤ f.maxExponent ∧
    (e = f.minExponent ∨ 2 ^ (f.precision - 1) ≤ m)

instance (f : Format) (m : Nat) (e : Int) : Decidable (f.Canonical m e) :=
  inferInstanceAs (Decidable (_ ∧ _ ∧ _ ∧ _))

end Format

/-- A number of the format. -/
inductive Binary (f : Format) where
  | nan
  | infinite (negative : Bool)
  | finite (negative : Bool) (mantissa : Nat) (exponent : Int) (canonical : f.Canonical mantissa exponent)
  deriving DecidableEq

/-- Numbers with 24 significant bits. -/
abbrev Single := Binary .single

/-- Numbers with 53 significant bits. -/
abbrev Double := Binary .double

namespace Binary

variable {f : Format}

/-! ## §2. Rounding. -/

/-- The number `± m · 2^e`; a pair beyond the range of the format is infinite. -/
def ofParts (f : Format) (negative : Bool) (m : Nat) (e : Int) : Binary f :=
  if h : f.Canonical m e then .finite negative m e h else .infinite negative

/-- The natural number nearest to `a / b`, the even one in a tie. -/
def roundQuotient (a b : Nat) : Nat :=
  let q := a / b
  let twice := 2 * (a % b)
  if b < twice ∨ (twice = b ∧ q % 2 = 1) then q + 1 else q

/-- The fraction `a / b`, divided by `2^e`. -/
def unscale (a b : Nat) (e : Int) : Nat × Nat :=
  (a * 2 ^ (-e).toNat, b * 2 ^ e.toNat)

/-- The exponent that the format gives to a number of the size of `a / b`. -/
def exponentOf (f : Format) (a b : Nat) : Int :=
  let low : Int := (a.log2 : Int) - b.log2 - f.precision
  let scaled := unscale a b low
  let fitted := if scaled.1 / scaled.2 < 2 ^ f.precision then low else low + 1
  max fitted f.minExponent

/-- The number of the format nearest to `± a / b`. -/
def nearest (f : Format) (negative : Bool) (a b : Nat) : Binary f :=
  if a = 0 then ofParts f negative 0 f.minExponent
  else
    let e := exponentOf f a b
    let scaled := unscale a b e
    let m := roundQuotient scaled.1 scaled.2
    if m = 2 ^ f.precision then ofParts f negative (2 ^ (f.precision - 1)) (e + 1) else ofParts f negative m e

/-- The number of the format nearest to `± m · 2^e`. -/
def nearestDyadic (f : Format) (negative : Bool) (m : Nat) (e : Int) : Binary f :=
  nearest f negative (m * 2 ^ e.toNat) (2 ^ (-e).toNat)

/-- The zero of either sign. -/
def zero (f : Format) (negative : Bool) : Binary f :=
  ofParts f negative 0 f.minExponent

/-! ## §3. Conversions. -/

/-- The number of the format nearest to an integer. -/
def ofInt (f : Format) (n : Int) : Binary f :=
  nearest f (n < 0) n.natAbs 1

/-- The same number in another format, rounded if need be. -/
def convert (g : Format) : Binary f → Binary g
  | nan => nan
  | infinite negative => infinite negative
  | finite negative m e _ => nearestDyadic g negative m e

/-- The integer part of `m · 2^e`. -/
def wholePart (m : Nat) (e : Int) : Nat :=
  (m * 2 ^ e.toNat) / 2 ^ (-e).toNat

/-- The number without its fraction, brought into the range `low … high`.  Not-a-number counts as zero. -/
def truncate (low high : Int) : Binary f → Int
  | nan => 0
  | infinite negative => if negative then low else high
  | finite negative m e _ =>
    let whole : Int := if negative then -(wholePart m e : Int) else wholePart m e
    max low (min high whole)

/-! ## §4. Comparison. -/

/-- Numeric equality: not-a-number differs from everything, the two zeros are equal. -/
def equal : Binary f → Binary f → Bool
  | finite s m e _, finite s' m' e' _ => m == m' && e == e' && (s == s' || m == 0)
  | infinite s, infinite s' => s == s'
  | _, _ => false

/-- Whether the number is finite and greater than zero. -/
def isFinitePositive : Binary f → Bool
  | finite negative m _ _ => !negative && m != 0
  | _ => false

/-- Whether the number is at most zero. -/
def isAtMostZero : Binary f → Bool
  | finite negative m _ _ => negative || m == 0
  | infinite negative => negative
  | nan => false

/-! ## §5. Arithmetic. -/

/-- The opposite sign. -/
def neg : Binary f → Binary f
  | nan => nan
  | infinite negative => infinite (!negative)
  | finite negative m e h => finite (!negative) m e h

/-- A signed integer as sign and size; a zero takes the given sign. -/
def ofSigned (f : Format) (zeroNegative : Bool) (n : Int) (e : Int) : Binary f :=
  if n = 0 then zero f zeroNegative else nearestDyadic f (n < 0) n.natAbs e

/-- The sum.  Opposite infinities have none; two opposite numbers add up to the positive zero. -/
def add : Binary f → Binary f → Binary f
  | nan, _ => nan
  | _, nan => nan
  | infinite s, infinite s' => if s = s' then infinite s else nan
  | infinite s, _ => infinite s
  | _, infinite s => infinite s
  | finite s m e _, finite s' m' e' _ =>
    let low := min e e'
    let left : Int := m * 2 ^ (e - low).toNat
    let right : Int := m' * 2 ^ (e' - low).toNat
    ofSigned f (s && s') ((if s then -left else left) + (if s' then -right else right)) low

/-- The difference. -/
def sub (x y : Binary f) : Binary f :=
  add x y.neg

/-- Whether the number is a zero. -/
def isZero : Binary f → Bool
  | finite _ m _ _ => m == 0
  | _ => false

/-- Whether the sign bit is set; not-a-number has none. -/
def isNegative : Binary f → Bool
  | nan => false
  | infinite s => s
  | finite s _ _ _ => s

/-- The product.  Zero times infinity has none. -/
def mul : Binary f → Binary f → Binary f
  | finite s m e _, finite s' m' e' _ => nearestDyadic f (s != s') (m * m') (e + e')
  | x, y =>
    if x = nan ∨ y = nan ∨ x.isZero ∨ y.isZero then nan else infinite (x.isNegative != y.isNegative)

/-- The quotient.  Zero by zero and infinity by infinity have none. -/
def div : Binary f → Binary f → Binary f
  | nan, _ => nan
  | _, nan => nan
  | infinite _, infinite _ => nan
  | infinite s, finite s' _ _ _ => infinite (s != s')
  | finite s _ _ _, infinite s' => zero f (s != s')
  | finite s m e _, finite s' m' e' _ =>
    if m' = 0 then (if m = 0 then nan else infinite (s != s'))
    else nearest f (s != s') (m * 2 ^ (e - e').toNat) (m' * 2 ^ (e' - e).toNat)

/-- The square root.  Negative numbers have none, but the root of the negative zero is that zero.

The root of the scaled mantissa is taken with more bits than the format keeps; a root that is not exact is placed
halfway to the next integer, which rounds as the true root does. -/
def sqrt : Binary f → Binary f
  | nan => nan
  | infinite s => if s then nan else infinite false
  | finite s m e h =>
    if m = 0 then finite s m e h
    else if s then nan
    else
      let shift : Nat := 2 * f.precision + (if e % 2 = 0 then 0 else 1)
      let scaled := m * 2 ^ shift
      let root := scaled.sqrt
      let doubled := if root * root = scaled then 2 * root else 2 * root + 1
      nearestDyadic f false doubled ((e - shift) / 2 - 1)

/-! ## §6. Bits. -/

/-- The interchange bits of a double number: sign, eleven bits of exponent, fifty-two bits of mantissa. -/
def Double.bits : Double → Nat
  | nan => 0x7ff8000000000000
  | infinite negative => (if negative then 1 <<< 63 else 0) + 0x7ff0000000000000
  | finite negative m e _ =>
    let size := if m < (1 <<< 52) then m else ((e + 1075).toNat <<< 52) + (m - (1 <<< 52))
    (if negative then 1 <<< 63 else 0) + size

/-- The double number with the given interchange bits. -/
def Double.ofBits (bits : Nat) : Double :=
  let negative : Bool := (bits >>> 63) % 2 == 1
  let biased : Nat := (bits >>> 52) % (1 <<< 11)
  let fraction : Nat := bits % (1 <<< 52)
  if biased = 2047 then (if fraction = 0 then infinite negative else nan)
  else if biased = 0 then ofParts .double negative fraction (-1074)
  else ofParts .double negative ((1 <<< 52) + fraction) ((biased : Int) - 1075)

end Binary

end ScriptBridge.Numeric

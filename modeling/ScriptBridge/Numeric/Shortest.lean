import ScriptBridge.Numeric.Binary

/-!
# ScriptBridge.Numeric.Shortest

The decimal text of a number: the fewest digits that read back as the same number, and of those the nearest ones,
written out in positions.

The numbers that round to `m · 2^e` form an interval, whose ends belong to it when `m` is even.  On the grid of
multiples of `10^t` only the two neighbours of the number itself need to be looked at: if any grid point lies in the
interval, one of them does.  The search goes from coarse grids to fine ones and stops at the first hit.
-/

namespace ScriptBridge.Numeric

-- powers are those of the core library, whatever else is imported
attribute [local instance (high)] instPowNat

/-! ## §1. Digits. -/

/-- A number with its interval, everything measured in units of `unit / grid`, where one step of the decimal grid
is `grid` and a quarter of the last binary place is `unit`. -/
structure Neighbourhood where
  value : Nat
  low : Nat
  high : Nat
  closed : Bool

/-- The interval of `m · 2^e`, in quarters of the last place.  Below a power of two the gap is half as wide. -/
def Neighbourhood.ofParts (f : Format) (m : Nat) (e : Int) : Neighbourhood :=
  { value := 4 * m
    low := if m = 2 ^ (f.precision - 1) ∧ e ≠ f.minExponent then 4 * m - 1 else 4 * m - 2
    high := 4 * m + 2
    closed := m % 2 = 0 }

/-- Whether `x`, measured with the given unit, lies in the interval. -/
def Neighbourhood.contains (n : Neighbourhood) (unit x : Nat) : Bool :=
  if n.closed then n.low * unit ≤ x && x ≤ n.high * unit else n.low * unit < x && x < n.high * unit

/-- The grid point next to the number that lies in its interval, if any; of two the nearer, the greater in a tie. -/
def Neighbourhood.gridPoint? (n : Neighbourhood) (unit grid : Nat) : Option Nat :=
  let k := n.value * unit / grid
  let below := n.contains unit (k * grid)
  let above := n.contains unit ((k + 1) * grid)
  if below && above then
    (if n.value * unit - k * grid < (k + 1) * grid - n.value * unit then some k else some (k + 1))
  else if below then some k
  else if above then some (k + 1)
  else none

/-- Searches the grids `10^t`, `10^(t-1)`, … for the first hit; `e` is the exponent of a quarter of the last place.
The result is a number of digits `k` and the exponent of its last digit. -/
def searchGrid (n : Neighbourhood) (e : Int) : Nat → Int → Nat × Int
  | 0, t => (n.value * 2 ^ e.toNat * 10 ^ (-t).toNat / (2 ^ (-e).toNat * 10 ^ t.toNat), t)
  | fuel + 1, t =>
    match n.gridPoint? (2 ^ e.toNat * 10 ^ (-t).toNat) (2 ^ (-e).toNat * 10 ^ t.toNat) with
    | some k => (k, t)
    | none => searchGrid n e fuel (t - 1)

/-- An upper bound of the number of decimal places in front of the point, from that of binary places. -/
def decimalPlaces (binary : Int) : Int :=
  binary * 30103 / 100000 + 2

/-- The shortest decimal `k · 10^t` that reads back as `m · 2^e`, for `m` other than zero.  Twenty-two grids
suffice: the first is at most four places too coarse, and seventeen digits tell all numbers of either format apart. -/
def shortest (f : Format) (m : Nat) (e : Int) : Nat × Int :=
  searchGrid (.ofParts f m e) (e - 2) 22 (decimalPlaces ((m.log2 : Int) + 1 + e))

/-! ## §2. Text. -/

/-- The decimal digits of a natural number. -/
def decimalDigits (n : Nat) : List Char :=
  Nat.toDigits 10 n

/-- `k · 10^t` written out in positions, without an exponent. -/
def positional (k : Nat) (t : Int) : List Char :=
  let digits := decimalDigits k
  let places := (-t).toNat
  if 0 ≤ t then digits ++ List.replicate t.toNat '0'
  else if places < digits.length then
    digits.take (digits.length - places) ++ ['.'] ++ digits.drop (digits.length - places)
  else ['0', '.'] ++ List.replicate (places - digits.length) '0' ++ digits

/-- The decimal text of a number.  Whole numbers have no point, and the negative zero keeps its sign. -/
def Binary.text {f : Format} : Binary f → String
  | .nan => "NaN"
  | .infinite negative => if negative then "-inf" else "inf"
  | .finite negative m e _ =>
    let size := if m = 0 then ['0'] else positional (shortest f m e).1 (shortest f m e).2
    String.ofList (if negative then '-' :: size else size)

end ScriptBridge.Numeric

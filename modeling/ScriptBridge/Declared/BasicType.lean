import ScriptBridge.Text.Pieces

/-!
# ScriptBridge.Declared.BasicType

What a declared C-family type says about the thing it declares: its *basic type*, which is the type without
qualifiers, references and pointers, and the way a parameter of that type is passed.

Both readings look outside template brackets only.  Inside brackets nothing is interpreted; a basic type merely
has its white space normalised there.  Main small facts: a basic type is never longer than the declared type
(`length_basicType_le`), which is what lets the type mapping recurse through template arguments.
-/

namespace ScriptBridge.Declared

open ScriptBridge.Text

/-! ## §1. Template brackets. -/

/-- The bracket depth after `c`.  A closing bracket without a partner changes nothing. -/
def depthAfter (depth : Nat) (c : Char) : Nat :=
  if c = '<' then depth + 1 else if c = '>' then depth - 1 else depth

/-- The signs for references and pointers. -/
def isIndirection (c : Char) : Bool :=
  c == '&' || c == '*'

/-- Puts a space in place of each reference or pointer sign outside template brackets. -/
def blankIndirections (depth : Nat) : List Char → List Char
  | [] => []
  | c :: rest =>
    (if depth = 0 ∧ isIndirection c then ' ' else c) :: blankIndirections (depthAfter depth c) rest

/-- The characters outside template brackets, the brackets themselves left out. -/
def outsideBrackets (depth : Nat) : List Char → List Char
  | [] => []
  | c :: rest =>
    if depth = 0 ∧ c ≠ '<' ∧ c ≠ '>' then c :: outsideBrackets (depthAfter depth c) rest
    else outsideBrackets (depthAfter depth c) rest

/-! ## §2. The basic type. -/

/-- The words that qualify a type without changing what it is. -/
def isQualifier (word : List Char) : Bool :=
  word == "const".toList || word == "volatile".toList

/-- The words of a declared type that are left once indirections and qualifiers are gone. -/
def basicWords (ty : List Char) : List (List Char) :=
  (words (blankIndirections 0 ty)).filter (fun word => !isQualifier word)

/-- The type without `const`, `volatile`, references and pointers, its words separated by single spaces:
`const math::float3 &` has the basic type `math::float3`. -/
def basicType (ty : List Char) : List Char :=
  List.intercalate [' '] (basicWords ty)

/-- `basicType` on texts. -/
def basicTypeText (ty : String) : String :=
  String.ofList (basicType ty.toList)

/-! ## §3. Passing. -/

/-- How a native function receives an argument. -/
inductive Passing where
  /-- The value itself. -/
  | value
  /-- A borrow that only reads. -/
  | shared
  /-- A borrow that may write. -/
  | exclusive
  deriving DecidableEq, Repr

/-- A parameter without reference or pointer sign is passed by value; a qualified reference or pointer is a reading
borrow, any other a writing one. -/
def passing (ty : List Char) : Passing :=
  let outer := outsideBrackets 0 ty
  if outer.any isIndirection then
    if (outer.splitOnP (fun c => isSpace c || isIndirection c)).contains "const".toList then .shared else .exclusive
  else .value

/-! ## §4. A basic type is no longer than its declaration. -/

/-- The space that a list of pieces takes when each is followed by one separator. -/
def spread : List (List Char) → Nat
  | [] => 0
  | piece :: pieces => piece.length + 1 + spread pieces

theorem spread_modifyHead {c : Char} :
    ∀ {pieces : List (List Char)}, pieces ≠ [] → spread (pieces.modifyHead (c :: ·)) = spread pieces + 1
  | [], h => absurd rfl h
  | piece :: pieces, _ => by simp [spread]; omega

theorem splitOnP_nonempty {p : Char → Bool} (s : List Char) : s.splitOnP p ≠ [] := by
  induction s with
  | nil => simp
  | cons c rest ih =>
    rw [List.splitOnP_cons_eq_if_modifyHead]
    split
    · simp
    · cases h : rest.splitOnP p with
      | nil => exact absurd h ih
      | cons piece pieces => simp

theorem spread_splitOnP {p : Char → Bool} (s : List Char) : spread (s.splitOnP p) = s.length + 1 := by
  induction s with
  | nil => simp [spread]
  | cons c rest ih =>
    rw [List.splitOnP_cons_eq_if_modifyHead]
    split
    · simp [spread, ih]; omega
    · rw [spread_modifyHead (splitOnP_nonempty rest), ih]; simp

theorem spread_filter_le (keep : List Char → Bool) (pieces : List (List Char)) :
    spread (pieces.filter keep) ≤ spread pieces := by
  induction pieces with
  | nil => simp
  | cons piece pieces ih =>
    rw [List.filter_cons]
    split <;> simp [spread] <;> omega

theorem length_intercalate_lt_spread (sep : Char) :
    ∀ {pieces : List (List Char)}, pieces ≠ [] →
      (List.intercalate [sep] pieces).length + 1 = spread pieces
  | [], h => absurd rfl h
  | [piece], _ => by simp [spread]
  | piece :: next :: pieces, _ => by
    have ih : (List.intercalate [sep] (next :: pieces)).length + 1 = spread (next :: pieces) :=
      length_intercalate_lt_spread sep (by simp)
    rw [List.intercalate_cons_cons]
    simp only [spread, List.length_append, List.length_singleton] at ih ⊢
    omega

theorem length_blankIndirections (depth : Nat) (ty : List Char) :
    (blankIndirections depth ty).length = ty.length := by
  induction ty generalizing depth with
  | nil => rfl
  | cons c rest ih => simp [blankIndirections, ih]

/-- Stripping a declared type never makes it longer. -/
theorem length_basicType_le (ty : List Char) : (basicType ty).length ≤ ty.length := by
  by_cases h : basicWords ty = []
  · simp [basicType, h]
  · have exact' := length_intercalate_lt_spread ' ' h
    have outer : spread (basicWords ty) ≤ spread ((blankIndirections 0 ty).splitOnP isSpace) :=
      Nat.le_trans (spread_filter_le _ _) (spread_filter_le _ _)
    rw [spread_splitOnP, length_blankIndirections] at outer
    simp only [basicType]
    omega

end ScriptBridge.Declared

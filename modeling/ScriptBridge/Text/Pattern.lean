import ScriptBridge.Text.Alphabet
import ScriptBridge.Text.Digits

/-!
# ScriptBridge.Text.Pattern

Which texts are patterns, that is, regular expressions of the usual form: alternatives, groups, repetitions, sets of
characters and escapes.  What a pattern matches is not said here.

A text is taken apart into symbols, so that an escape is one symbol wherever it stands.  The symbols are then gone
through from the left, and of what was read only the `Place` counts and how many groups are open.
-/

namespace ScriptBridge.Text.Pattern

/-! ## §1. Symbols. -/

/-- A part of a pattern that is read as one. -/
inductive Symbol where
  /-- A character as it stands, which may have a meaning of its own. -/
  | plain (c : Char)
  /-- A character without special meaning, written as an escape. -/
  | literal (c : Char)
  /-- Any character of some kind. -/
  | kind
  /-- A place between characters. -/
  | boundary
  deriving DecidableEq, Repr

/-- The letters that stand for control characters. -/
def controls : List (Char × Char) :=
  [('a', '\x07'), ('f', '\x0c'), ('t', '\t'), ('n', '\n'), ('r', '\r'), ('v', '\x0b')]

/-- The symbol for a backslash and one character. -/
def escape? (c : Char) : Option Symbol :=
  if c ∈ ['d', 'D', 's', 'S'] then some .kind
  else if c ∈ ['A', 'z'] then some .boundary
  else match controls.lookup c with
    | some control => some (.literal control)
    | none => if !isAscii c || c.isAlphanum || c == '<' || c == '>' then none else some (.literal c)

/-- The symbol for the code of a character. -/
def code? (digits : List Char) : Option Symbol := do
  let code ← hexNumber? digits
  if code.isValidChar then return .literal (Char.ofNat code) else none

/-- The symbol for all characters of a general category. -/
def category? (c : Char) : Option Symbol :=
  if c ∈ ['C', 'L', 'M', 'N', 'P', 'S', 'Z'] then some .kind else none

/-- The symbols of a pattern, unless there is an escape without meaning. -/
def symbols : List Char → Option (List Symbol)
  | [] => some []
  | '\\' :: 'x' :: a :: b :: rest => do return (← code? [a, b]) :: (← symbols rest)
  | '\\' :: 'u' :: a :: b :: c :: d :: rest => do return (← code? [a, b, c, d]) :: (← symbols rest)
  | '\\' :: 'U' :: a :: b :: c :: d :: e :: f :: g :: h :: rest => do
    return (← code? [a, b, c, d, e, f, g, h]) :: (← symbols rest)
  | '\\' :: 'p' :: c :: rest => do return (← category? c) :: (← symbols rest)
  | '\\' :: 'P' :: c :: rest => do return (← category? c) :: (← symbols rest)
  | '\\' :: c :: rest => do return (← escape? c) :: (← symbols rest)
  | c :: rest => if c = '\\' then none else (symbols rest).map (.plain c :: ·)

/-! ## §2. Sets of characters. -/

/-- What was read of a set last. -/
inductive SetPhase where
  /-- The bracket that opens it. -/
  | opened
  /-- The sign behind the bracket that makes it the set of all other characters. -/
  | negated
  /-- Hyphens in front of everything else. -/
  | dashed
  /-- Something that is complete. -/
  | complete
  /-- Something that a range may start with, if it is a character. -/
  | item (start : Option Char)
  /-- The same, and a hyphen. -/
  | range (start : Option Char)
  /-- A hyphen that is no part of a range. -/
  | hyphen
  deriving DecidableEq, Repr

/-- Reads a symbol that starts something new in a set that `depth - 1` others are around. -/
def beginItem (depth : Nat) : Symbol → Option (Nat × SetPhase)
  | .plain ']' => some (depth - 1, .complete)
  | .plain '[' => some (depth + 1, .opened)
  | .plain '-' => some (depth, .hyphen)
  | .plain c | .literal c => some (depth, .item (some c))
  | .kind => some (depth, .item none)
  | .boundary => none

/-- Reads a symbol in a set.  Two hyphens, two ampersands or two tildes join sets. -/
def SetPhase.read (depth : Nat) : SetPhase → Symbol → Option (Nat × SetPhase)
  | opened, .plain '^' => some (depth, negated)
  | opened, .plain '-' | negated, .plain '-' | dashed, .plain '-' => some (depth, dashed)
  | opened, .plain ']' | negated, .plain ']' => some (depth, complete)
  | hyphen, .plain '-' | range _, .plain '-' => some (depth, complete)
  | item (some '&'), .plain '&' | item (some '~'), .plain '~' => some (depth, complete)
  | item start, .plain '-' => some (depth, range start)
  | range _, .plain ']' => some (depth - 1, complete)
  | range (some start), .plain stop | range (some start), .literal stop =>
    if start ≤ stop then some (depth, complete) else none
  | range _, _ => none
  | _, symbol => beginItem depth symbol

/-! ## §3. Whole patterns. -/

/-- Where in a pattern the next symbol stands. -/
inductive Place where
  /-- Outside of sets and of what opens a group; `repeatable` tells whether a repetition may follow. -/
  | outside (repeatable : Bool)
  /-- In a set that is `depth` sets deep. -/
  | set (depth : Nat) (phase : SetPhase)
  /-- Behind the bracket that opens a group. -/
  | group
  /-- Among the flags of a group. -/
  | flags (seen : List Char)
  /-- In front of the name of a group. -/
  | naming
  /-- In the name of a group, which must not be empty. -/
  | name (isEmpty : Bool)
  deriving DecidableEq, Repr

/-- Reads a symbol outside of sets.  Counts of repetitions in braces are not among the patterns. -/
def readOutside (groups : Nat) (repeatable : Bool) : Symbol → Option (Nat × Place)
  | .plain '|' => some (groups, .outside false)
  | .plain '(' => some (groups + 1, .group)
  | .plain ')' => if groups = 0 then none else some (groups - 1, .outside true)
  | .plain '[' => some (groups, .set 1 .opened)
  | .plain '*' | .plain '+' | .plain '?' => if repeatable then some (groups, .outside true) else none
  | .plain '\x7b' => none
  | _ => some (groups, .outside true)

/-- Reads a symbol among the flags of a group.  Each may stand once, a hyphen only in front of another. -/
def readFlag (groups : Nat) (seen : List Char) : Symbol → Option (Nat × Place)
  | .plain ':' => if seen.head? = some '-' then none else some (groups, .outside false)
  | .plain ')' => if seen.isEmpty ∨ seen.head? = some '-' then none else some (groups - 1, .outside false)
  | .plain c =>
    if c ∈ ['-', 'i', 'm', 's', 'U', 'u', 'x', 'R'] ∧ c ∉ seen then some (groups, .flags (c :: seen))
    else if seen.isEmpty then
      if c = 'P' then some (groups, .naming) else if c = '<' then some (groups, .name true) else none
    else none
  | _ => none

/-- Reads a symbol in the name of a group. -/
def readName (groups : Nat) (isEmpty : Bool) : Symbol → Option (Nat × Place)
  | .plain c =>
    if isEmpty then if c = '_' ∨ isIdentStart c then some (groups, .name false) else none
    else if c = '>' then some (groups, .outside false)
    else if c ∈ ['_', '.', '[', ']'] ∨ isWordChar c then some (groups, .name false)
    else none
  | _ => none

/-- Reads a symbol, with so many groups open. -/
def read : Nat × Place → Symbol → Option (Nat × Place)
  | (groups, .outside repeatable), symbol => readOutside groups repeatable symbol
  | (groups, .set depth phase), symbol =>
    (phase.read depth symbol).map (fun (depth, phase) =>
      (groups, if depth = 0 then .outside true else .set depth phase))
  | (groups, .group), .plain '?' => some (groups, .flags [])
  | (groups, .group), symbol => readOutside groups false symbol
  | (groups, .flags seen), symbol => readFlag groups seen symbol
  | (groups, .naming), .plain '<' => some (groups, .name true)
  | (_, .naming), _ => none
  | (groups, .name isEmpty), symbol => readName groups isEmpty symbol

end Pattern

/-- Whether a text is a pattern: it can be read to its end, and then nothing is open. -/
def isPattern (s : List Char) : Bool :=
  match (Pattern.symbols s).bind (·.foldlM Pattern.read (0, .outside false)) with
  | some (0, .outside _) => true
  | _ => false

end ScriptBridge.Text

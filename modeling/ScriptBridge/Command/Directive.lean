import ScriptBridge.Log
import ScriptBridge.Text.Digits
import ScriptBridge.Text.Octets
import ScriptBridge.Text.Pattern
import ScriptBridge.Text.Pieces

/-!
# ScriptBridge.Command.Directive

Directives for what is shown: a level for a part of the program and for some of its reports.

A directive is a level such as `debug` or `4`, the name of a part such as `script_codegen`, or both as in
`script_codegen=debug`.  In brackets behind the name it may be limited to activities, by their name and by an item
in braces that they carry; an item without value holds for reports as well.

There may be white space around a directive.  The marks that structure it are looked for without the white space, but
what stands between them is cut, at the bytes where they were found, from the text as it was given.  So white space in
front makes each part begin too early, and a cut may go through a character.
-/

namespace ScriptBridge.Command

open ScriptBridge.Text

/-! ## §1. How much is shown. -/

/-- How much of a part is shown: entries up to the rank, none if it is zero. -/
structure Verbosity where
  rank : Nat
  deriving DecidableEq, Repr

namespace Verbosity

/-- Everything. -/
def everything : Verbosity := ⟨Log.Level.trace.rank⟩

/-- Up to the given level. -/
def upTo (level : Log.Level) : Verbosity := ⟨level.rank⟩

/-- The spellings of verbosities, from nothing on. -/
def names : List String := ["off", "error", "warn", "info", "debug", "trace"]

/-- The verbosity with a number, written with digits and perhaps a plus sign. -/
def ofDigits? (s : List Char) : Option Verbosity :=
  let digits := if s.head? = some '+' then s.drop 1 else s
  if digits.isEmpty || !digits.all Char.isDigit then none
  else if decimalValue digits < names.length then some ⟨decimalValue digits⟩
  else none

/-- The verbosity that a text names, in any case, or by its number. -/
def ofText? (s : List Char) : Option Verbosity :=
  match ofDigits? s with
  | some verbosity => some verbosity
  | none => (names.findIdx? (· == (String.ofList s).toLower)).map Verbosity.mk

end Verbosity

/-! ## §2. Directives. -/

/-- What in a part of the program a directive is about. -/
inductive Reach where
  /-- Everything. -/
  | all
  /-- What carries an item of the name. -/
  | carrying (item : String)
  /-- What happens in activities of some sort.  No report does. -/
  | activities
  deriving DecidableEq, Repr

/-- The one item that a report carries. -/
def reportItem : String := "message"

/-- Whether reports are meant. -/
def Reach.coversReports : Reach → Bool
  | all => true
  | carrying item => item == reportItem
  | activities => false

/-- A verbosity for all parts whose name starts with a text. -/
structure Directive where
  part : String
  reach : Reach
  verbosity : Verbosity
  deriving DecidableEq, Repr

/-- What is wrong with the text of a directive. -/
inductive DirectiveError where
  /-- It is not written as a directive is. -/
  | malformed
  /-- A cut goes through a character. -/
  | brokenCharacter
  deriving DecidableEq, Repr

/-! ## §3. Cutting a text. -/

/-- The text of a directive while it is read: as it was given, and what is left of it without the white space around
it, with the number of bytes in front. -/
structure Cursor where
  given : List Char
  offset : Nat
  rest : List Char

namespace Cursor

/-- The start of a text. -/
def ofText (s : List Char) : Cursor :=
  ⟨s, 0, trim s⟩

/-- What stands behind the next character, if it is the given one. -/
def skip? (k : Cursor) (c : Char) : Option Cursor :=
  if k.rest.head? = some c then some ⟨k.given, k.offset + c.utf8Size, k.rest.drop 1⟩ else none

/-- The text in front of the first mark, the mark, and what stands behind it. -/
def readTo (k : Cursor) (marks : List Char) : Except DirectiveError (List Char × Char × Cursor) :=
  let passed := k.rest.takeWhile (fun c => !marks.contains c)
  match k.rest.drop passed.length with
  | [] => .error .malformed
  | mark :: rest =>
    let stop := k.offset + byteCount passed
    match cutBytes? k.offset stop k.given with
    | some text => .ok (text, mark, ⟨k.given, stop + mark.utf8Size, rest⟩)
    | none => .error .brokenCharacter

/-- All the text that is left. -/
def readAll (k : Cursor) : Except DirectiveError (List Char) :=
  match dropBytes? k.offset k.given with
  | some text => .ok text
  | none => .error .brokenCharacter

end Cursor

/-! ## §4. Reading directives. -/

/-- Whether a text is digits with at most one point among them, and perhaps an exponent. -/
def isDecimal (s : List Char) : Bool :=
  let mantissa := s.takeWhile (fun c => c.isDigit || c == '.')
  let exponent := s.drop mantissa.length
  mantissa.any Char.isDigit && mantissa.count '.' ≤ 1 &&
    match exponent with
    | [] => true
    | mark :: rest =>
      let digits := if rest.head? = some '+' || rest.head? = some '-' then rest.drop 1 else rest
      (mark == 'e' || mark == 'E') && !digits.isEmpty && digits.all Char.isDigit

/-- Whether a text may be the value of an item: a pattern, or a number with a plus sign.  Other numbers are patterns
as well. -/
def isItemValue : List Char → Bool
  | '+' :: rest => isDecimal rest || ["inf", "infinity", "nan"].contains (String.ofList rest).toLower
  | s => isPattern s

/-- What an item in braces limits a directive to.  Only the name counts and whether there is a value, which ends at a
second equals sign. -/
def Reach.ofItem (text : List Char) : Except DirectiveError Reach :=
  if text.isEmpty then .error .malformed
  else match text.splitOn '=' with
    | _ :: value :: _ => if isItemValue value then .ok activities else .error .malformed
    | _ => .ok (carrying (String.ofList text))

/-- What stands in brackets.  The opening bracket has been read. -/
def Reach.read (k : Cursor) : Except DirectiveError (Reach × Cursor) := do
  let (name, mark, k) ← k.readTo [']', '\x7b']
  if mark == ']' then return (activities, k)
  let (text, _, k) ← k.readTo ['\x7d']
  let item ← ofItem text
  match k.skip? ']' with
  | some k => return (if name.isEmpty then item else activities, k)
  | none => throw .malformed

/-- A level after an equals sign.  Without one everything is shown. -/
def Verbosity.read (k : Cursor) : Except DirectiveError Verbosity := do
  let text ← k.readAll
  if text.isEmpty then return everything
  match ofText? text with
  | some verbosity => return verbosity
  | none => throw .malformed

namespace Directive

/-- What follows the closing bracket: nothing, or a level. -/
def readEnd (part : String) (reach : Reach) (k : Cursor) : Except DirectiveError Directive :=
  match k.skip? '=' with
  | some k => (Verbosity.read k).map (⟨part, reach, ·⟩)
  | none => if k.rest.isEmpty then .ok ⟨part, reach, .everything⟩ else .error .malformed

/-- A directive without marks: a level or the name of a part. -/
def bare (s : List Char) : Directive :=
  match Verbosity.ofText? s with
  | some verbosity => ⟨"", .all, verbosity⟩
  | none => ⟨String.ofList s, .all, .everything⟩

/-- Whether a directive may start with the character. -/
def mayStart (c : Char) : Bool :=
  ['[', '-', ':', '_'].contains c || isWordChar c

/-- The directive that a text states. -/
def ofText (s : List Char) : Except DirectiveError Directive :=
  let k := Cursor.ofText s
  if !k.rest.head?.any mayStart then .error .malformed
  else if !k.rest.any ['=', '['].contains then .ok (bare s)
  else do
    let (part, mark, k) ← k.readTo ['=', '[']
    if mark == '=' then return ⟨String.ofList part, .all, ← Verbosity.read k⟩
    let (reach, k) ← Reach.read k
    readEnd (String.ofList part) reach k

end Directive

end ScriptBridge.Command

import ScriptBridge.Text.Alphabet
import ScriptBridge.Text.Digits

/-!
# ScriptBridge.Text.Quoted

Texts in double quotes, as a source file and as a message show them.

Both forms escape the quote, the backslash, tab, line feed, carriage return and NUL by a backslash and one
character, and a character that would not be seen by its code in hexadecimal.  They differ in one place only: in a
source text a NUL in front of an octal digit is written `\x00`, so that the digit is not read as part of the
escape.
-/

namespace ScriptBridge.Text

/-- One character of a quoted text. -/
def quoteChar (c : Char) : List Char :=
  if c = '\x00' then ['\\', '0']
  else if c = '\t' then ['\\', 't']
  else if c = '\r' then ['\\', 'r']
  else if c = '\n' then ['\\', 'n']
  else if c = '"' then ['\\', '"']
  else if c = '\\' then ['\\', '\\']
  else if isConcealed c then ['\\', 'u', '\x7b'] ++ hexDigits c.toNat ++ ['\x7d']
  else [c]

/-- Whether the text goes on with an octal digit. -/
def startsOctal : List Char → Bool
  | c :: _ => '0' ≤ c && c ≤ '7'
  | [] => false

/-- The inside of a quoted text in a message. -/
def quoteBody (s : List Char) : List Char :=
  s.flatMap quoteChar

/-- The inside of a string literal in a source text. -/
def literalBody : List Char → List Char
  | [] => []
  | c :: rest =>
    (if c = '\x00' ∧ startsOctal rest then ['\\', 'x', '0', '0'] else quoteChar c) ++ literalBody rest

/-- A text as a message shows it. -/
def quoted (s : String) : String :=
  String.ofList ('"' :: quoteBody s.toList ++ ['"'])

/-- A text as a string literal of a source text. -/
def stringLiteral (s : String) : String :=
  String.ofList ('"' :: literalBody s.toList ++ ['"'])

end ScriptBridge.Text

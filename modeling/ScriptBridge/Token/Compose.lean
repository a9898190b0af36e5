import ScriptBridge.Text.Pieces
import ScriptBridge.Token.Identifier
import ScriptBridge.Declared.Target

/-!
# ScriptBridge.Token.Compose

The vocabulary for composing code: fixed words and signs, operators, groups, literals, paths and types.

Words that stand in a template are given as plain text and are identifiers by construction; a name that comes from
elsewhere has to pass through `Identifier` first, which is where a bad name shows.
-/

namespace ScriptBridge.Token

open ScriptBridge.Text

/-! ## §1. Words and signs. -/

/-- A fixed word of the language or of the code around a binding. -/
def fixed (name : String) : Token :=
  .word ⟨name, false⟩

/-- A sign that stands for itself. -/
def mark (c : Char) : Token :=
  .sign c false

/-- An operator of several characters: all but the last are joint. -/
def operator : List Char → List Token
  | [] => []
  | [c] => [mark c]
  | c :: rest => .sign c true :: operator rest

/-- The separator of path segments. -/
def scope : List Token :=
  operator [':', ':']

/-- The arrow before a result type. -/
def arrow : List Token :=
  operator ['-', '>']

/-- A lifetime: a quote that sticks to its name. -/
def lifetime (name : String) : List Token :=
  [.sign '\'' true, fixed name]

/-! ## §2. Groups and sequences. -/

/-- Tokens in braces. -/
def braces (inner : List Token) : Token :=
  .group .brace inner

/-- Tokens in brackets. -/
def brackets (inner : List Token) : Token :=
  .group .bracket inner

/-- Tokens in parentheses. -/
def parens (inner : List Token) : Token :=
  .group .parenthesis inner

/-- Token sequences with a separator between two of them. -/
def separated (separator : List Token) (parts : List (List Token)) : List Token :=
  List.intercalate separator parts

/-- Token sequences with commas between them. -/
def commas (parts : List (List Token)) : List Token :=
  separated [mark ','] parts

/-- Tokens in angle brackets. -/
def angled (inner : List Token) : List Token :=
  mark '<' :: inner ++ [mark '>']

/-- Fixed words joined to a path. -/
def fixedPath (segments : List String) : List Token :=
  separated scope (segments.map (fun s => [fixed s]))

/-! ## §3. Literals. -/

theorem isFirm_stringLiteral (s : String) : isFirm (stringLiteral s) = true := by
  have last : (stringLiteral s).toList.getLast? = some '"' := by
    rw [stringLiteral, String.toList_ofList]
    exact List.getLast?_concat
  exact isFirm_of_getLast? last (by decide)

/-- The digits of a number end in a digit. -/
theorem isFirm_number (n : Nat) : isFirm (toString n) = true := by
  have written : (toString n).toList = Nat.toDigits 10 n := by rw [Nat.toString_eq_repr, Nat.toList_repr]
  obtain ⟨c, last⟩ := Option.ne_none_iff_exists'.1 (mt List.getLast?_eq_none_iff.1 (written ▸ Nat.toDigits_ne_nil))
  refine isFirm_of_getLast? last ?_
  rintro rfl
  exact absurd (Nat.isDigit_of_mem_toDigits (by decide) (by decide) (written ▸ List.mem_of_getLast? last)) (by decide)

/-- A text as a string literal. -/
def text (s : String) : Token :=
  .literal ⟨⟨stringLiteral s, isFirm_stringLiteral s⟩⟩

/-- A number without suffix. -/
def number (n : Nat) : Token :=
  .literal ⟨⟨toString n, isFirm_number n⟩⟩

/-- A documentation comment as a literal, in which no character is escaped. -/
def rawText (comment : String) : Token :=
  .literal ⟨⟨"r\" " ++ comment ++ "\"", isFirm_quoted _⟩⟩

/-- A documentation comment, as the attribute it stands for. -/
def documentation (comment : String) : List Token :=
  [mark '#', brackets [fixed "doc", mark '=', rawText comment]]

/-! ## §4. Paths and types. -/

/-- Names joined to a path. -/
def path (segments : List Identifier) : List Token :=
  separated scope (segments.map (fun s => [Token.word s]))

/-- A path such as `crate::natives`: its segments are trimmed, and empty ones left out. -/
def pathOf (s : String) : Except IdentifierError (List Token) := do
  let segments ← (((splitScopes s.toList).map trim).filter (fun segment => !segment.isEmpty)).mapM
    (fun segment => Identifier.ofText (String.ofList segment))
  return path segments

mutual

/-- The type in source code. -/
def typeTokens : Declared.TargetType → Except IdentifierError (List Token)
  | .unit => .ok [parens []]
  | .builtin b => .ok [fixed b.name]
  | .list element => do
    let inner ← typeTokens element
    return fixed "Vec" :: angled inner
  | .named segments arguments => do
    let names ← segments.mapM Identifier.escaped
    match arguments with
    | [] => return path names
    | arg :: args =>
      let inner ← typeTokensList (arg :: args)
      return path names ++ angled (commas inner)

/-- Several types in source code. -/
def typeTokensList : List Declared.TargetType → Except IdentifierError (List (List Token))
  | [] => .ok []
  | t :: rest => do
    let first ← typeTokens t
    let others ← typeTokensList rest
    return first :: others

end

/-! ## §5. Expressions. -/

/-- A fixed expression made of one word. -/
def expr (name : String) : List Token :=
  [fixed name]

/-- A member of a value. -/
def member (receiver : List Token) (name : Token) : List Token :=
  receiver ++ [mark '.', name]

/-- A function or method applied to arguments. -/
def call (function : List Token) (arguments : List (List Token)) : List Token :=
  function ++ [parens (commas arguments)]

/-- A fixed method of a value, applied to arguments. -/
def send (receiver : List Token) (method : String) (arguments : List (List Token)) : List Token :=
  call (member receiver (fixed method)) arguments

/-- A function with its type argument written out. -/
def withType (function type : List Token) : List Token :=
  function ++ scope ++ angled type

/-- A type seen as an implementation of an interface. -/
def asInterface (type : List Token) (interface : String) : List Token :=
  angled (type ++ [fixed "as", fixed interface])

/-- A reading borrow. -/
def borrow (value : List Token) : List Token :=
  mark '&' :: value

/-- A writing borrow. -/
def borrowMut (value : List Token) : List Token :=
  mark '&' :: fixed "mut" :: value

/-- An expression whose error ends the function. -/
def orFail (value : List Token) : List Token :=
  value ++ [mark '?']

/-! ## §6. Statements and items. -/

/-- An expression or declaration, closed by a semicolon. -/
def statement (content : List Token) : List Token :=
  content ++ [mark ';']

/-- The declaration of a name with a given type, without its semicolon. -/
def typed (name type : List Token) : List Token :=
  name ++ mark ':' :: type

/-- The binding of a name to a value. -/
def bind (name value : List Token) : List Token :=
  statement (fixed "let" :: name ++ mark '=' :: value)

/-- The definition of a constant. -/
def constant (name : String) (type value : List Token) : List Token :=
  statement (fixed "const" :: typed (expr name) type ++ mark '=' :: value)

/-- A function item. -/
def function (name : Token) (parameters : List (List Token)) (result : List Token) (body : List Token) : List Token :=
  [fixed "fn", name, parens (commas parameters)] ++ result ++ [braces body]

/-- The result part of a function item. -/
def returning (type : List Token) : List Token :=
  arrow ++ type

/-- The implementation of an interface for a type. -/
def implementation (interface : String) (type body : List Token) : List Token :=
  [fixed "impl", fixed interface, fixed "for"] ++ type ++ [braces body]

end ScriptBridge.Token

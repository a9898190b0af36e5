/-!
# ScriptBridge.Declared.CanonicalId

A type or a name as a fragment of an identifier: `unsigned int` becomes `unsigned_0int`, `QList<Entity>` becomes
`QList_3Entity_4`.

ASCII letters and digits stand for themselves.  Every other character is an underscore and a code: a digit for the
characters that types are made of, and `9`, the code point and an underscore for all others.  A scope separator
`::` has a code of its own.  Since a code always starts with a digit, no two texts share a fragment.
-/

namespace ScriptBridge.Declared

/-- The code digit of a character that types are commonly made of. -/
def typeSignCode (c : Char) : Option Char :=
  match c with
  | ' ' => some '0'
  | '_' => some '1'
  | '<' => some '3'
  | '>' => some '4'
  | ',' => some '5'
  | '*' => some '6'
  | '&' => some '7'
  | _ => none

/-- One character as an identifier fragment. -/
def canonicalChar (c : Char) : List Char :=
  if c.isAlphanum then [c]
  else match typeSignCode c with
    | some code => ['_', code]
    | none => ['_', '9'] ++ Nat.toDigits 10 c.toNat ++ ['_']

/-- A text as an identifier fragment. -/
def canonicalId : List Char → List Char
  | [] => []
  | ':' :: ':' :: rest => '_' :: '2' :: canonicalId rest
  | c :: rest => canonicalChar c ++ canonicalId rest

/-- `canonicalId` on texts. -/
def canonicalIdText (s : String) : String :=
  String.ofList (canonicalId s.toList)

end ScriptBridge.Declared

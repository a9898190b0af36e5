import ScriptBridge.Text.Pieces

/-!
# ScriptBridge.Declared.Banned

The shapes of declared types that have no counterpart among script values: pointers to `bool`, outermost pointers
to `float` or `float3`, anything from the standard library, character pointers and arrays.

A shape is recognised in the text of the type.  Words count only where no ASCII letter, digit or underscore stands
in front of them, so `mybool *` is no pointer to `bool`.
-/

namespace ScriptBridge.Declared

open ScriptBridge.Text

/-- Type shapes without script representation. -/
inductive BannedType where
  | boolPointer
  | floatPointer
  | standardLibrary
  | charPointer
  | array
  deriving DecidableEq, Repr

namespace BannedType

/-- The words for a shape in messages. -/
def text : BannedType → String
  | boolPointer => "pointer to bool"
  | floatPointer => "pointer to float"
  | standardLibrary => "standard library type"
  | charPointer => "character pointer"
  | array => "array"

end BannedType

/-! ## §1. Patterns. -/

/-- What is left of `s` after the text `start`, if it begins with it. -/
def dropStart? : List Char → List Char → Option (List Char)
  | [], s => some s
  | c :: start, d :: s => if c = d then dropStart? start s else none
  | _ :: _, [] => none

/-- Whether a text goes on, after white space, with a pointer sign. -/
def startsPointer (s : List Char) : Bool :=
  (s.dropWhile isSpace).head? == some '*'

/-- Whether a text is a pointer sign and white space, and nothing else. -/
def isLastPointer (s : List Char) : Bool :=
  match s.dropWhile isSpace with
  | '*' :: rest => rest.all isSpace
  | _ => false

/-- Whether `pattern` holds of some end of the text that starts at the beginning or after a character that is no
ASCII letter, digit or underscore.  `free` says whether the text itself is such an end. -/
def atWordStart (pattern : List Char → Bool) (free : Bool) : List Char → Bool
  | [] => free && pattern []
  | c :: rest =>
    (free && pattern (c :: rest)) || atWordStart pattern (!(c.isAlphanum || c == '_')) rest

/-- A word followed by a pointer sign. -/
def isPointerTo (word : List Char) (s : List Char) : Bool :=
  match dropStart? word s with
  | some rest => startsPointer rest
  | none => false

/-- `float` or `float3`, followed by the last pointer sign of the type. -/
def isFloatPointer (s : List Char) : Bool :=
  match dropStart? "float".toList s with
  | some ('3' :: rest) => isLastPointer rest
  | some rest => isLastPointer rest
  | none => false

/-! ## §2. The filter. -/

/-- Whether the shape occurs in a type text without white space around it. -/
def BannedType.occursIn (ty : List Char) : BannedType → Bool
  | boolPointer => atWordStart (isPointerTo "bool".toList) true ty
  | floatPointer => atWordStart isFloatPointer true ty
  | standardLibrary => holds "std::".toList ty
  | charPointer => atWordStart (isPointerTo "char".toList) true ty
  | array => ty.contains '['

/-- The first banned shape of a declared type, in the order in which they are reported. -/
def bannedType? (ty : List Char) : Option BannedType :=
  [BannedType.boolPointer, .floatPointer, .standardLibrary, .charPointer, .array].find? (·.occursIn (trim ty))

end ScriptBridge.Declared

import ScriptBridge.Text.Quoted
import ScriptBridge.Token.Basic

/-!
# ScriptBridge.Token.Identifier

Which texts are identifiers, and what is wrong with those that are not.

An identifier starts with `_` or a letter and goes on with letters, digits, marks and connectors.  Written with `r#`
in front it is raw, and then it may be any keyword except the four that name a path root.  `escaped` builds an
identifier from a name that may be a keyword.
-/

namespace ScriptBridge.Token

open ScriptBridge.Text

/-! ## §1. What can be wrong. -/

/-- Why a text is no identifier. -/
inductive IdentifierError where
  /-- There is nothing to name. -/
  | empty
  /-- All characters are ASCII digits. -/
  | number
  /-- Some character may not stand where it stands. -/
  | malformed (name : String)
  /-- The word has a fixed meaning that no prefix takes away. -/
  | reserved (name : String)
  deriving DecidableEq, Repr

/-- The words for an error. -/
def IdentifierError.message : IdentifierError → String
  | empty => "Ident is not allowed to be empty; use Option<Ident>"
  | number => "Ident cannot be a number; use Literal instead"
  | malformed name => quoted name ++ " is not a valid Ident"
  | reserved name => "`r#" ++ name ++ "` cannot be a raw identifier"

/-! ## §2. Shape. -/

/-- Whether the characters have the shape of an identifier. -/
def hasIdentifierShape : List Char → Bool
  | [] => false
  | c :: rest => (c == '_' || isIdentStart c) && rest.all isIdentContinue

/-- The first thing that is wrong with a name, if any. -/
def nameError? (name : String) : Option IdentifierError :=
  if name.toList = [] then some .empty
  else if name.toList.all Char.isDigit then some .number
  else if hasIdentifierShape name.toList then none
  else some (.malformed name)

/-- A name of that shape does not end in a space. -/
theorem isFirm_of_shape {name : String} (shape : hasIdentifierShape name.toList = true) : isFirm name = true := by
  have inside : ∀ c ∈ name.toList, c = '_' ∨ isIdentStart c = true ∨ isIdentContinue c = true := by
    intro c mem
    cases spelled : name.toList with
    | nil => simp [spelled] at mem
    | cons first rest =>
      rw [spelled] at shape mem
      obtain ⟨starts, goes_on⟩ := Bool.and_eq_true_iff.1 shape
      rcases List.mem_cons.1 mem with rfl | later
      · exact (Bool.or_eq_true_iff.1 starts).imp (fun same => by simpa using same) .inl
      · exact .inr (.inr (List.all_eq_true.1 goes_on c later))
  cases last : name.toList.getLast? with
  | none =>
    rw [List.getLast?_eq_none_iff.1 last] at shape
    cases shape
  | some c =>
    refine isFirm_of_getLast? last ?_
    rintro rfl
    exact absurd (inside ' ' (List.mem_of_getLast? last)) (by decide)

/-- A name with which nothing is wrong has that shape. -/
theorem shape_of_nameError? {name : String} (right : nameError? name = none) :
    hasIdentifierShape name.toList = true := by
  unfold nameError? at right
  split at right
  · cases right
  · split at right
    · cases right
    · split at right
      next shape => exact shape
      next => cases right

/-- A name with which nothing is wrong can stand in source code. -/
theorem isFirm_of_nameError? {name : String} (right : nameError? name = none) : isFirm name = true :=
  isFirm_of_shape (shape_of_nameError? right)

/-- The spelling of a name with which nothing is wrong. -/
def checked (name : String) : Except IdentifierError Spelling :=
  match right : nameError? name with
  | some e => .error e
  | none => .ok ⟨name, isFirm_of_nameError? right⟩

/-- A checked name is spelled as it is. -/
theorem checked_eq (name : String) : checked name =
    match nameError? name with
    | some e => .error e
    | none => .ok name := by
  unfold checked
  split
  next wrong => rw [wrong]
  next right => simp only [right, Spelling.ofText_of_firm (isFirm_of_nameError? right)]

/-- The words that may not be raw identifiers. -/
def unraisable : List String :=
  ["_", "super", "self", "Self", "crate"]

namespace Identifier

/-- The identifier with exactly this name. -/
def plain (name : String) : Except IdentifierError Identifier := do
  let spelling ← checked name
  return ⟨spelling, false⟩

/-- The raw identifier with this name. -/
def prefixed (name : String) : Except IdentifierError Identifier := do
  let spelling ← checked name
  if unraisable.contains name then throw (.reserved name) else return ⟨spelling, true⟩

/-- A plain identifier is made of the text as it is, once nothing is wrong with it. -/
theorem plain_eq (name : String) : plain name =
    match nameError? name with
    | some e => .error e
    | none => .ok ⟨name, false⟩ := by
  rw [plain, checked_eq]
  cases nameError? name with
  | some e => rfl
  | none => rfl

/-- A raw identifier is made of the text as it is, unless no prefix may stand in front of it. -/
theorem prefixed_eq (name : String) : prefixed name =
    match nameError? name with
    | some e => .error e
    | none => if unraisable.contains name then .error (.reserved name) else .ok ⟨name, true⟩ := by
  rw [prefixed, checked_eq]
  cases nameError? name with
  | some e => rfl
  | none => rfl

/-- The identifier that a text spells; `r#` in front makes it raw. -/
def ofText (s : String) : Except IdentifierError Identifier :=
  match s.toList with
  | 'r' :: '#' :: rest => prefixed (String.ofList rest)
  | _ => plain s

/-! ## §3. Keywords. -/

/-- The words that the target language reserves. -/
def keywords : List String :=
  ["as", "break", "const", "continue", "crate", "else", "enum", "extern", "false", "fn", "for", "if",
   "impl", "in", "let", "loop", "match", "mod", "move", "mut", "pub", "ref", "return", "static",
   "struct", "trait", "true", "type", "unsafe", "use", "where", "while",
   "async", "await", "dyn",
   "abstract", "become", "box", "do", "final", "macro", "override", "priv", "typeof", "unsized", "virtual", "yield",
   "try"]

/-- An identifier for a name that may be a keyword: keywords become raw. -/
def escaped (s : String) : Except IdentifierError Identifier :=
  if keywords.contains s then prefixed s else ofText s

end Identifier

end ScriptBridge.Token

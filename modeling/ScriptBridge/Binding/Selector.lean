import ScriptBridge.Binding.Wrapper

/-!
# ScriptBridge.Binding.Selector

The selector of an overload set: a function that picks the wrapper by the script types of its arguments.
-/

namespace ScriptBridge.Binding

open ScriptBridge.Symbol ScriptBridge.Token

/-- A wrapper together with the type tests on its arguments. -/
structure Candidate where
  types : List (List Token)
  wrapper : Identifier
  deriving Repr

/-- A function in front of the wrappers of one overload set. -/
structure Selector where
  name : Identifier
  /-- The name under which the selector reports errors. -/
  label : String
  /-- For a selector of constructors, the class they construct. -/
  constructs : Option String
  candidates : List Candidate
  deriving Repr

namespace Selector

/-- The candidate that a callable is. -/
def candidateOf (c : Callable) : Except IdentifierError Candidate := do
  let wrapper ← Identifier.ofText c.wrapper
  let types ← c.declaration.parameters.mapM (fun p => typeTokens p.target)
  return ⟨types, wrapper⟩

/-- The selector of an overload set. -/
def ofSet (className : String) (callables : Callables) (set : OverloadSet) : Except IdentifierError Selector := do
  let label := selectorName className set.name
  let name ← Identifier.ofText label
  let candidates ← (callables.membersOf set).mapM candidateOf
  return ⟨name, label, if set.isConstructor then some (constructorName className) else none, candidates⟩

/-! ## §2. Its code. -/

/-- A field of a record, with the comma after it. -/
def recordField (name : String) (value : List Token) : List Token :=
  typed (expr name) value ++ [mark ',']

/-- What the selector picks among. -/
def kindTokens (s : Selector) : List Token :=
  match s.constructs with
  | some className =>
    fixedPath ["SelectorKind", "Constructor"] ++ [braces (typed (expr "class_name") [text className])]
  | none => fixedPath ["SelectorKind", "Method"]

/-- One candidate in the list of a selector. -/
def candidateTokens (c : Candidate) : List Token :=
  let tests := c.types.map (fun type => asInterface type "ScriptType" ++ scope ++ [fixed "is_of_type"])
  [fixed "Overload",
    braces (recordField "params" (borrow [brackets (commas tests)]) ++ recordField "wrapper" [.word c.wrapper])]

/-- The code of the selector. -/
def tokens (s : Selector) : List Token :=
  let record := [fixed "Selector",
    braces (recordField "name" [text s.label] ++ recordField "kind" s.kindTokens ++
      recordField "overloads" (borrow [brackets (commas (s.candidates.map candidateTokens))]))]
  function (.word s.name) Wrapper.callParameters (returning (expr "CallResult"))
    (constant "SELECTOR" (expr "Selector") record ++ send (expr "SELECTOR") "dispatch" [expr "ctx", expr "engine"])

end Selector

end ScriptBridge.Binding

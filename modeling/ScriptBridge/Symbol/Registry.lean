import ScriptBridge.Symbol.Exposure

/-!
# ScriptBridge.Symbol.Registry

All symbols of one database, addressable by number and by name.

Symbols are numbered in the order of the database, each top-level symbol in front of its members.  Top-level symbols
go by their name and members by `Class::member`; of several members with one such name the first one has it.  A
top-level symbol whose name is already taken, be it by a member, is refused.
-/

namespace ScriptBridge

/-- A declaration in its place in the database. -/
structure Symbol where
  id : Nat
  parent : Option Nat
  children : List Nat
  declaration : Symbol.Declaration
  /-- Whether handles of the class carry the whole native value. -/
  marshalsWholeValue : Bool
  deriving Repr, Inhabited

namespace Symbol

open ScriptBridge.Database

/-- The symbols of a database and the names they go by. -/
structure Registry where
  symbols : List Symbol
  names : List (String × Nat)
  roots : List Nat
  deriving Repr

namespace Registry

/-! ## §1. Looking up. -/

/-- The number that a name stands for. -/
def lookup (r : Registry) (name : String) : Option Nat :=
  r.names.lookup name

/-- The symbol that a name stands for. -/
def find? (r : Registry) (name : String) : Option Symbol :=
  (r.lookup name).bind (r.symbols[·]?)

/-- The members of a symbol, in the order of their declaration. -/
def children (r : Registry) (s : Symbol) : List Symbol :=
  s.children.filterMap (r.symbols[·]?)

/-- The symbol that a symbol is a member of. -/
def parent? (r : Registry) (s : Symbol) : Option Symbol :=
  s.parent.bind (r.symbols[·]?)

/-- The top-level symbols, in the order of the database. -/
def rootSymbols (r : Registry) : List Symbol :=
  r.roots.filterMap (r.symbols[·]?)

/-- The top-level classes and structs, in the order of the database. -/
def classes (r : Registry) : List Symbol :=
  r.rootSymbols.filter (·.declaration.kind.isClassLike)

/-- A symbol with the declarations of its members. -/
def scope (r : Registry) (s : Symbol) : Scope :=
  ⟨s.declaration, (r.children s).map (·.declaration)⟩

/-! ## §2. Building. -/

/-- A registry without symbols. -/
def empty : Registry :=
  ⟨[], [], []⟩

/-- The declarations of the members of a class.  Members must not have members. -/
def memberDeclarations (owner : String) : List Entry → Except ModelError (List Declaration)
  | [] => .ok []
  | member :: rest =>
    if member.memberList.isEmpty then do
      let first ← Declaration.ofEntry member
      let others ← memberDeclarations owner rest
      return first :: others
    else .error (.nestedMembers owner member.name)

/-- The key of a member. -/
def memberKey (owner member : String) : String :=
  owner ++ "::" ++ member

/-- Gives a name to a symbol, unless the name is taken. -/
def claimName (names : List (String × Nat)) (name : String) (id : Nat) : List (String × Nat) :=
  if (names.lookup name).isSome then names else names ++ [(name, id)]

/-- The names after the members numbered from `id` on have claimed theirs. -/
def claimMembers (owner : String) (names : List (String × Nat)) (id : Nat) :
    List Declaration → List (String × Nat)
  | [] => names
  | member :: rest => claimMembers owner (claimName names (memberKey owner member.name) id) (id + 1) rest

/-- The symbols of the members numbered from `id` on. -/
def memberSymbols (parent id : Nat) : List Declaration → List Symbol
  | [] => []
  | member :: rest => ⟨id, some parent, [], member, false⟩ :: memberSymbols parent (id + 1) rest

/-- Adds a top-level entry and its members. -/
def add (r : Registry) (e : Entry) : Except ModelError Registry := do
  let owner ← Declaration.ofEntry e
  if (r.lookup e.name).isSome then throw (.duplicate e.name)
  let members ← memberDeclarations e.name e.memberList
  let id := r.symbols.length
  let root : Symbol :=
    ⟨id, none, List.range' (id + 1) members.length, owner, (Scope.mk owner members).marshalsWholeValue⟩
  return {
    symbols := r.symbols ++ root :: memberSymbols id (id + 1) members
    names := claimMembers e.name (claimName r.names e.name id) (id + 1) members
    roots := r.roots ++ [id] }

/-- The registry of a list of top-level entries. -/
def ofEntries (entries : List Entry) : Except ModelError Registry :=
  entries.foldlM add empty

end Registry

end Symbol

end ScriptBridge

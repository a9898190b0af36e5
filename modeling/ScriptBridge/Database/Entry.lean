/-!
# ScriptBridge.Database.Entry

A symbol database as it is written down: a header and a list of entries, each with the fields the extractor left in.
What a missing field means is decided when symbols are made from entries.
-/

namespace ScriptBridge.Database

/-- The header of a database. -/
structure Header where
  version : Nat
  source : Option String
  deriving Repr

/-- A declared parameter. -/
structure ParameterEntry where
  name : String
  type : String
  deriving Repr, DecidableEq, Inhabited

/-- A class, struct, function or variable, with its members if it has any. -/
structure Entry where
  kind : String
  name : String
  type : Option String
  visibility : Option String
  isStatic : Option Bool
  isConst : Option Bool
  native : Option String
  parameters : Option (List ParameterEntry)
  args : Option String
  comments : Option (List String)
  returnComment : Option String
  members : Option (List Entry)
  deriving Repr, Inhabited

/-- The members of an entry; none if there is no such field. -/
def Entry.memberList (entry : Entry) : List Entry :=
  entry.members.getD []

/-- A whole database. -/
structure Document where
  header : Option Header
  symbols : List Entry
  deriving Repr

end ScriptBridge.Database

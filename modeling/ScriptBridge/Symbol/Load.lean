import ScriptBridge.Database.Reader
import ScriptBridge.Symbol.Registry

/-!
# ScriptBridge.Symbol.Load

Making a registry from the text of a database, and what can go wrong on the way.
-/

namespace ScriptBridge.Symbol

open ScriptBridge.Database

/-- Why a text gives no registry. -/
inductive LoadError where
  /-- The text is no database. -/
  | format (error : FormatError)
  /-- The database declares something impossible. -/
  | model (error : ModelError)
  deriving DecidableEq, Repr

/-- The words for an error, where it has words of its own; `path` is where the text came from. -/
def LoadError.message? (path : String) : LoadError → Option String
  | format (.valueless found) => (FormatError.valueless found).message?
  | format error => error.message?.map (fun text => "malformed symbol database " ++ path ++ ": " ++ text)
  | model error => some ("invalid symbol database: " ++ error.message)

/-- Whether an error ends the program at once, without a report. -/
def LoadError.isAbrupt : LoadError → Bool
  | format (.valueless _) => true
  | _ => false

/-- What stands for the details of a text that is no database. -/
def unspecified : String := "<json error>"

/-- The words for an error, in full. -/
def LoadError.message (path : String) (e : LoadError) : String :=
  (e.message? path).getD ("malformed symbol database " ++ path ++ ": " ++ unspecified)

/-- The registry that a database text describes. -/
def Registry.ofText (s : String) : Except LoadError Registry :=
  match Document.ofText s with
  | .error e => .error (.format e)
  | .ok document =>
    match Registry.ofEntries document.symbols with
    | .error e => .error (.model e)
    | .ok registry => .ok registry

end ScriptBridge.Symbol

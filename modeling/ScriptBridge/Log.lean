/-!
# ScriptBridge.Log

What a run reports while it works: entries with a level, the part of the program that speaks, and a message.
-/

namespace ScriptBridge.Log

/-- How grave an entry is, the gravest first. -/
inductive Level where
  | error
  | warn
  | info
  | debug
  | trace
  deriving DecidableEq, Repr

namespace Level

/-- The word for a level. -/
def name : Level → String
  | error => "ERROR"
  | warn => "WARN"
  | info => "INFO"
  | debug => "DEBUG"
  | trace => "TRACE"

/-- The rank of a level; graver levels come first. -/
def rank : Level → Nat
  | error => 1
  | warn => 2
  | info => 3
  | debug => 4
  | trace => 5

end Level

/-- The parts of the program that report. -/
inductive Source where
  /-- The command line. -/
  | command
  /-- Loading a database and finishing a run. -/
  | generator
  /-- Going through the requested classes. -/
  | classes
  /-- Collecting the functions of a class. -/
  | overloads
  /-- Collecting the fields of a class. -/
  | marshalling
  deriving DecidableEq, Repr

/-- The name by which a filter addresses a part of the program.  Names of parts start with the name of the whole. -/
def Source.path : Source → String
  | command => "script_bindgen"
  | generator => "script_codegen"
  | classes => "script_codegen::generator::classes"
  | overloads => "script_codegen::generator::overloads"
  | marshalling => "script_codegen::generator::marshalling"

/-- One report. -/
structure Entry where
  level : Level
  source : Source
  message : String
  deriving DecidableEq, Repr

end ScriptBridge.Log

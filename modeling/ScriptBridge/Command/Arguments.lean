import ScriptBridge.Generation.Run

/-!
# ScriptBridge.Command.Arguments

The arguments of the command: two required paths, options with values, flags, and the classes to generate.

Arguments are read from left to right.  Options take their value from behind an equals sign or from the next
argument; after `--` only class names follow.  Asking for help or the version ends the reading, and so does the first
mistake.  Whatever holds of the arguments as a whole is checked at the end.
-/

namespace ScriptBridge.Command

open ScriptBridge.Binding ScriptBridge.Generation

/-! ## §1. What can be asked for. -/

/-- The classes to generate. -/
inductive Selection where
  | all
  | named (classes : List String)
  deriving DecidableEq, Repr

/-- A complete request. -/
structure Arguments where
  symbols : String
  out : String
  options : Options
  strict : Bool
  level : Log.Level
  selection : Selection
  deriving DecidableEq, Repr

/-- What the arguments come to. -/
inductive Request where
  | run (arguments : Arguments)
  | help
  | version
  /-- The arguments are not understood. -/
  | misused
  deriving DecidableEq, Repr

/-- Options that take a value. -/
inductive Setting where
  | symbols | out | runtime | natives | level
  deriving DecidableEq, Repr

/-- Options without value. -/
inductive Flag where
  | keep | strict | all | help | version
  deriving DecidableEq, Repr

/-- The option with a value that a long name stands for. -/
def Setting.ofName? : String → Option Setting
  | "symbols" => some symbols
  | "out" => some out
  | "runtime-crate" => some runtime
  | "native-module" => some natives
  | "log-level" => some level
  | _ => none

/-- The flag that a long name stands for. -/
def Flag.ofName? : String → Option Flag
  | "no-clean" => some keep
  | "strict" => some strict
  | "all" => some all
  | "help" => some help
  | "version" => some version
  | _ => none

/-- The level that a name stands for. -/
def levelOfName? : String → Option Log.Level
  | "error" => some .error
  | "warn" => some .warn
  | "info" => some .info
  | "debug" => some .debug
  | "trace" => some .trace
  | _ => none

/-! ## §2. Reading. -/

/-- What has been read so far. -/
structure Draft where
  symbols : Option String
  out : Option String
  runtime : Option String
  natives : Option String
  level : Option Log.Level
  keep : Bool
  strict : Bool
  all : Bool
  classes : List String
  deriving Repr

namespace Draft

/-- Before the first argument. -/
def empty : Draft :=
  ⟨none, none, none, none, none, false, false, false, []⟩

/-- Sets a value that was not set before. -/
def once {α : Type} (old : Option α) (new : α) : Option α :=
  match old with
  | some _ => none
  | none => some new

/-- A path from the arguments; it must not be empty. -/
def pathValue (old : Option String) (value : String) : Option String :=
  if value.isEmpty then none else once old value

/-- Sets an option.  No option may be given twice. -/
def assign (d : Draft) (s : Setting) (value : String) : Option Draft :=
  match s with
  | .symbols => (pathValue d.symbols value).map (fun v => { d with symbols := some v })
  | .out => (pathValue d.out value).map (fun v => { d with out := some v })
  | .runtime => (once d.runtime value).map (fun v => { d with runtime := some v })
  | .natives => (once d.natives value).map (fun v => { d with natives := some v })
  | .level => ((levelOfName? value).bind (once d.level)).map (fun v => { d with level := some v })

/-- Adds a class. -/
def addClass (d : Draft) (name : String) : Draft :=
  { d with classes := d.classes ++ [name] }

/-- Which classes are asked for: all of them or some, but not both and not none. -/
def selection? (d : Draft) : Option Selection :=
  if d.all then (if d.classes.isEmpty then some .all else none)
  else if d.classes.isEmpty then none
  else some (.named d.classes)

/-- The paths for generated code. -/
def paths (d : Draft) : Paths :=
  ⟨d.runtime.getD Paths.standard.runtime, d.natives.getD Paths.standard.natives⟩

/-- The request, after the last argument. -/
def finish (d : Draft) : Request :=
  match d.symbols, d.out, d.selection? with
  | some symbols, some out, some selection =>
    .run ⟨symbols, out, ⟨d.paths, !d.keep⟩, d.strict, d.level.getD .warn, selection⟩
  | _, _, _ => .misused

end Draft

/-- An argument by its looks. -/
inductive Looks where
  /-- The end of the options. -/
  | divider
  /-- An option with a long name and perhaps a value. -/
  | long (name : String) (value : Option String)
  /-- An option with a short name. -/
  | short (name : Char)
  /-- Anything else. -/
  | plain
  deriving DecidableEq, Repr

/-- The name and the value of an option, with an equals sign between them. -/
def splitValue (s : List Char) : String × Option String :=
  let name := s.takeWhile (· != '=')
  match s.drop name.length with
  | _ :: value => (String.ofList name, some (String.ofList value))
  | [] => (String.ofList name, none)

/-- How an argument looks.  A single hyphen is an ordinary value. -/
def Looks.ofText (s : String) : Looks :=
  match s.toList with
  | ['-', '-'] => divider
  | '-' :: '-' :: rest => long (splitValue rest).1 (splitValue rest).2
  | '-' :: c :: _ => short c
  | _ => plain

/-- Reads the remaining arguments; `pending` is an option that still needs its value. -/
def readArguments (d : Draft) (pending : Option Setting) : List String → Request
  | [] => if pending.isSome then .misused else d.finish
  | argument :: rest =>
    match pending with
    | some setting =>
      if Looks.ofText argument = .plain then
        match d.assign setting argument with
        | some next => readArguments next none rest
        | none => .misused
      else .misused
    | none =>
      match Looks.ofText argument with
      | .divider => { d with classes := d.classes ++ rest }.finish
      | .plain => readArguments (d.addClass argument) none rest
      | .short 'h' => .help
      | .short 'V' => .version
      | .short _ => .misused
      | .long name value =>
        match Setting.ofName? name, Flag.ofName? name, value with
        | some setting, _, none => readArguments d (some setting) rest
        | some setting, _, some value =>
          match d.assign setting value with
          | some next => readArguments next none rest
          | none => .misused
        | none, some .help, none => .help
        | none, some .version, none => .version
        | none, some .keep, none => if d.keep then .misused else readArguments { d with keep := true } none rest
        | none, some .strict, none => if d.strict then .misused else readArguments { d with strict := true } none rest
        | none, some .all, none => if d.all then .misused else readArguments { d with all := true } none rest
        | _, _, _ => .misused

/-- The request that arguments make. -/
def Request.ofArguments (arguments : List String) : Request :=
  readArguments .empty none arguments

end ScriptBridge.Command

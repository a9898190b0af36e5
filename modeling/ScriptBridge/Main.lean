import ScriptBridge.Command.Run

/-!
# ScriptBridge.Main

The command on the files of the machine.
-/

namespace ScriptBridge

open ScriptBridge.Command

/-- The failure behind an error of the machine. -/
def failureOf (e : IO.Error) : Files.Failure :=
  match e with
  | .noFileOrDirectory _ _ _ => .notFound
  | .alreadyExists _ _ _ => .alreadyExists
  | .inappropriateType _ 20 _ => .notDirectory
  | .inappropriateType _ 21 _ => .isDirectory
  | other => .other (toString other)

/-- What an action answers, or how it fails. -/
def attempt {α : Type} (action : IO α) : IO (Except Files.Failure α) := do
  match ← action.toBaseIO with
  | .ok a => return .ok a
  | .error e => return .error (failureOf e)

/-- The text of a file of the machine. -/
def readText (path : String) : IO (Except Files.Failure String) := do
  match ← attempt (IO.FS.readBinFile path) with
  | .error e => return .error e
  | .ok bytes =>
    match String.fromUTF8? bytes with
    | some text => return .ok text
    | none => return .error .notText

/-- The files of the machine. -/
instance : Files.FileSystem IO where
  read := readText
  removeTree path := attempt (IO.FS.removeDirAll path)
  makeDirectories path := if path.isEmpty then return .ok () else attempt (IO.FS.createDirAll path)
  write path text := attempt (IO.FS.writeFile path text)

/-- What the command says about itself. -/
def usage : List String :=
  ["Generates script bindings for native classes from a symbol database", "",
   "Usage: script-bindgen [OPTIONS] --symbols <FILE> --out <DIR> <CLASS>...", "",
   "Options:",
   "      --symbols <FILE>         Symbol database (JSON)",
   "      --out <DIR>              Output directory; receives one file per class plus mod.rs",
   "      --runtime-crate <PATH>   Path of the runtime crate in generated code [default: script_core]",
   "      --native-module <PATH>   Module glob-imported by generated files [default: super::super]",
   "      --no-clean               Keep existing files in the output directory",
   "      --strict                 Fail if any requested class is skipped",
   "      --log-level <LEVEL>      error, warn, info, debug or trace [default: warn]",
   "      --all                    Generate every class and struct in the database",
   "  -h, --help                   Print help",
   "  -V, --version                Print version"]

/-- The environment entry with a filter for reports. -/
def filterEntry : String := "SCRIPT_BINDGEN_LOG"

end ScriptBridge

/-- The command. -/
def main (arguments : List String) : IO UInt32 := do
  let (lines, exit) ← ScriptBridge.Command.run arguments (← IO.getEnv ScriptBridge.filterEntry)
  match ScriptBridge.Command.Request.ofArguments arguments with
  | .help => ScriptBridge.usage.forM IO.println
  | .version => IO.println "script-bindgen 0.1.0"
  | .misused => ScriptBridge.usage.forM IO.eprintln
  | .run _ => lines.forM IO.eprintln
  return UInt32.ofNat exit.code

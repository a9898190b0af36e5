import ScriptBridge.Command.Directive

/-!
# ScriptBridge.Command.Filter

Which reports are shown: a filter is a list of directives, written with commas between them.

Of the directives about a report the one with the longest name of a part decides.  For the same name one about items
goes before one about everything, and of two that differ in nothing but the level the later one counts.
-/

namespace ScriptBridge.Command

/-- Directives in the order in which they were stated. -/
structure Filter where
  directives : List Directive
  deriving DecidableEq, Repr

namespace Filter

/-- The filter that shows all parts up to a level. -/
def upTo (level : Log.Level) : Filter := ⟨[⟨"", .all, .upTo level⟩]⟩

/-- The filter that a text states.  Without directives only errors are shown. -/
def ofText (s : String) : Except DirectiveError Filter :=
  let pieces := (s.toList.splitOn ',').filter (fun piece => !piece.isEmpty)
  if pieces.isEmpty then .ok (upTo .error)
  else (pieces.mapM Directive.ofText).map Filter.mk

/-- How closely a directive is aimed: by the length of the name, then by whether it is about items. -/
def aim (d : Directive) : Nat × Nat :=
  (d.part.utf8ByteSize, if d.reach = .all then 0 else 1)

/-- Of two directives the one that decides: the one aimed more closely, and of equal ones the second. -/
def stronger (first second : Directive) : Directive :=
  if (aim second).1 < (aim first).1 ∨ (aim second).1 = (aim first).1 ∧ (aim second).2 < (aim first).2 then first
  else second

/-- The directive that decides about the reports of a part of the program. -/
def decisive? (f : Filter) (path : String) : Option Directive :=
  (f.directives.filter (fun d => d.reach.coversReports && d.part.toList.isPrefixOf path.toList)).foldl
    (fun best d => some (match best with
      | some other => stronger other d
      | none => d)) none

/-- Whether an entry is shown. -/
def shows (f : Filter) (e : Log.Entry) : Bool :=
  match f.decisive? e.source.path with
  | some d => e.level.rank ≤ d.verbosity.rank
  | none => false

end Filter

end ScriptBridge.Command

/-!
# ScriptBridge.Text.Runs

Sets of characters, given by runs of code points.

A run is a pair of code points, the first and the last.  Where a set takes every second code point, as the upper-case
letters of many alphabets do, a stepped run gives the first code point, the step and the last one.
-/

namespace ScriptBridge.Text

/-- Runs of code points, each by its first and its last. -/
abbrev Runs := List (Nat × Nat)

/-- Whether a code point lies in a run. -/
def Runs.holds (runs : Runs) (n : Nat) : Bool :=
  runs.any (fun run => run.1 ≤ n && n ≤ run.2)

/-- Runs of evenly spaced code points, each by its first code point, the step and its last code point. -/
abbrev SteppedRuns := List (Nat × Nat × Nat)

/-- Whether a run goes through a code point. -/
def goesThrough (first step last n : Nat) : Bool :=
  first ≤ n && n ≤ last && (n - first) % step == 0

/-- Whether a code point lies in a stepped run. -/
def SteppedRuns.holds (runs : SteppedRuns) (n : Nat) : Bool :=
  runs.any (fun run => goesThrough run.1 run.2.1 run.2.2 n)

end ScriptBridge.Text

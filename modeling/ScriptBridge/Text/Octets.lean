/-!
# ScriptBridge.Text.Octets

Places in a text counted in the bytes of its encoding.

A character takes one to four bytes, so not every number of bytes is a place between two characters.  Cutting at a
number that is none gives nothing.
-/

namespace ScriptBridge.Text

/-- The number of bytes that a text takes. -/
def byteCount (s : List Char) : Nat :=
  s.foldr (fun c count => c.utf8Size + count) 0

/-- What is left of a text without its first `n` bytes. -/
def dropBytes? : Nat → List Char → Option (List Char)
  | 0, s => some s
  | _ + 1, [] => none
  | n + 1, c :: rest => if c.utf8Size ≤ n + 1 then dropBytes? (n + 1 - c.utf8Size) rest else none

/-- The first `n` bytes of a text. -/
def takeBytes? : Nat → List Char → Option (List Char)
  | 0, _ => some []
  | _ + 1, [] => none
  | n + 1, c :: rest =>
    if c.utf8Size ≤ n + 1 then (takeBytes? (n + 1 - c.utf8Size) rest).map (c :: ·) else none

/-- The part of a text from the byte `start` to the byte `stop`. -/
def cutBytes? (start stop : Nat) (s : List Char) : Option (List Char) :=
  (dropBytes? start s).bind (takeBytes? (stop - start))

end ScriptBridge.Text

import ScriptBridge.Files.Basic
import ScriptBridge.Keyed

/-!
# ScriptBridge.Files.Tree

A file tree in memory: directories and files with their contents, below one root directory.

A place in the tree is the list of names that lead to it from the root.  A path in an operation is resolved step by
step: `.` and empty parts stay where they are, `..` goes back up, and every step needs a directory to stand in.

Not everything can be removed: a file may belong to someone else, in a directory where only owners may remove.  Where a
removal comes upon such a file it ends, and what it has not come to yet is left as well.  So a tree says at which places
a removal stops short, and a removal that leaves something there fails after it has taken away the rest.
-/

namespace ScriptBridge.Files

/-! ## §1. Paths. -/

/-- One step of a path. -/
inductive Step where
  | down (name : String)
  | up
  deriving DecidableEq, Repr

/-- The step that a part of a path makes, if it makes one. -/
def Step.ofPart? (part : List Char) : Option Step :=
  if part = [] ∨ part = ['.'] then none
  else if part = ['.', '.'] then some .up
  else some (.down (String.ofList part))

/-- The steps of a path. -/
def steps (path : String) : List Step :=
  (path.toList.splitOn '/').filterMap Step.ofPart?

/-- Whether the end of a path demands a directory. -/
def demandsDirectory (path : String) : Bool :=
  match (path.toList.splitOn '/').getLast? with
  | some part => part = [] || part = ['.'] || part = ['.', '.']
  | none => false

/-- Whether a path ends in a step that names nothing: `.` or `..`, or no step at all. -/
def endsUnnamed (path : String) : Bool :=
  match ((path.toList.splitOn '/').filter (· ≠ [])).getLast? with
  | some part => part = ['.'] || part = ['.', '.']
  | none => true

/-- The longest name that a directory holds, in bytes. -/
def longestName : Nat := 255

/-- The longest path that an operation takes, in bytes. -/
def longestPath : Nat := 4095

/-- Whether an operation takes a path at all. -/
def checkPath (path : String) : Except Failure Unit :=
  if path.isEmpty then .error .notFound
  else if path.contains '\x00' then .error .nulInPath
  else if path.utf8ByteSize > longestPath then .error .nameTooLong
  else .ok ()

/-! ## §2. Trees. -/

-- contents are compared as the core library does it, whatever else is imported
attribute [local instance (high)] ByteArray.instDecidableEq

/-- What stands at a place. -/
inductive Node where
  | file (content : ByteArray)
  | directory
  deriving DecidableEq

/-- A place in a tree, by the names that lead to it. -/
abbrev Place := List String

/-- Everything below the root, in the order in which it came to be. -/
structure Tree where
  nodes : List (Place × Node)
  /-- The places that a removal does not take away: what stands there may not be removed, or the removal has failed
  before it comes to them. -/
  held : List Place
  deriving DecidableEq

namespace Tree

/-- A tree with nothing below the root. -/
def empty : Tree := ⟨[], []⟩

/-- What stands at a place.  The root is a directory. -/
def node? (t : Tree) (place : Place) : Option Node :=
  if place = [] then some .directory else t.nodes.lookup place

/-- Puts a node at a place. -/
def set (t : Tree) (place : Place) (node : Node) : Tree :=
  { t with nodes := Keyed.set place node t.nodes }

/-- Whether a removal leaves a place: something there or below it is held, so that a directory is not empty. -/
def stays (t : Tree) (place : Place) : Bool :=
  t.held.any (fun kept => place.isPrefixOf kept && (t.node? kept).isSome)

/-- The place that a name below `at` has, with what stands there. -/
def look (t : Tree) (parent : Place) (name : String) : Except Failure (Option Node) :=
  if name.utf8ByteSize > longestName then .error .nameTooLong else .ok (t.node? (parent ++ [name]))

/-- Follows steps through directories. -/
def walk (t : Tree) (place : Place) : List Step → Except Failure Place
  | [] => .ok place
  | .up :: rest => walk t place.dropLast rest
  | .down name :: rest =>
    match t.look place name with
    | .error e => .error e
    | .ok none => .error .notFound
    | .ok (some (.file _)) => .error .notDirectory
    | .ok (some .directory) => walk t (place ++ [name]) rest

/-- Where the end of a path stands: a directory that is reached by going up or staying, or a name in a directory. -/
inductive Target where
  | reached (place : Place)
  | named (parent : Place) (name : String) (node : Option Node)

/-- Resolves a path up to its last step. -/
def resolve (t : Tree) (path : String) : Except Failure Target :=
  match checkPath path with
  | .error e => .error e
  | .ok () =>
    match (steps path).getLast? with
    | some (.down name) => do
      let parent ← t.walk [] (steps path).dropLast
      return .named parent name (← t.look parent name)
    | _ => return .reached (← t.walk [] (steps path))

/-! ## §3. Operations. -/

/-- The bytes of a file. -/
def readBytes (t : Tree) (path : String) : Except Failure ByteArray := do
  match ← t.resolve path with
  | .reached _ => throw .isDirectory
  | .named _ _ none => throw .notFound
  | .named _ _ (some .directory) => throw .isDirectory
  | .named _ _ (some (.file content)) => if demandsDirectory path then throw .notDirectory else return content

/-- The text of a file. -/
def read (t : Tree) (path : String) : Except Failure String := do
  match String.fromUTF8? (← t.readBytes path) with
  | some text => return text
  | none => throw .notText

/-- Makes a file. -/
def writeBytes (t : Tree) (path : String) (content : ByteArray) : Except Failure Tree := do
  match ← t.resolve path with
  | .reached _ => throw .isDirectory
  | .named _ _ (some .directory) => throw .isDirectory
  | .named parent name _ =>
    if demandsDirectory path then throw .isDirectory else return t.set (parent ++ [name]) (.file content)

/-- Makes a text file. -/
def write (t : Tree) (path text : String) : Except Failure Tree :=
  t.writeBytes path text.toUTF8

/-- The tree without a place and everything below it, but for what stays. -/
def prune (t : Tree) (place : Place) : Tree :=
  { t with nodes := t.nodes.filter (fun entry => !place.isPrefixOf entry.1 || t.stays entry.1) }

/-- The tree without what is below a place, but for what stays. -/
def pruneBelow (t : Tree) (place : Place) : Tree :=
  { t with nodes := t.nodes.filter (fun entry => entry.1 = place || !place.isPrefixOf entry.1 || t.stays entry.1) }

/-- The directory that steps lead to, if they lead to one. -/
def directoryAt? (t : Tree) (path : List Step) : Option Place :=
  (t.walk [] path).toOption

/-- Removes a directory with everything below it, and answers whether all of it is gone.  A directory that the path
does not end in by name is emptied, and cannot be removed itself. -/
def removeTree (t : Tree) (path : String) : Tree × Except Failure Unit :=
  match checkPath path with
  | .error e => (t, .error e)
  | .ok () =>
    match t.walk [] (steps path) with
    | .error e => (t, .error e)
    | .ok place =>
      if endsUnnamed path then (t.pruneBelow place, .error .invalid)
      else (t.prune place, if t.stays place then .error .notPermitted else .ok ())

/-- Makes the directory that the last step names, where all others lead through directories.  If the path goes on
with a dot (`dotted`), or its last step goes up, there is nothing to make. -/
def makeDirectory (t : Tree) (path : List Step) (dotted : Bool) : Except Failure Tree :=
  match dotted, path.getLast? with
  | false, some (.down name) => do
    let parent ← t.walk [] path.dropLast
    match ← t.look parent name with
    | none => return t.set (parent ++ [name]) .directory
    | some _ => throw .alreadyExists
  | _, _ => do
    let _ ← t.walk [] path
    throw .alreadyExists

/-- The failure of making a directory, which is none if the directory is there. -/
def excuse (t : Tree) (path : List Step) (e : Failure) : Except Failure Unit :=
  if (t.directoryAt? path).isSome then .ok () else .error e

/-- Makes a directory; if something is missing on the way to it, those above it are made first. -/
def makeAlong (t : Tree) (path : List Step) (dotted : Bool) : Tree × Except Failure Unit :=
  if h : path = [] then (t, .ok ())
  else match t.makeDirectory path dotted with
    | .ok next => (next, .ok ())
    | .error .notFound =>
      have : path.dropLast.length < path.length := by
        have := List.length_pos_iff.mpr h
        simp
        omega
      match makeAlong t path.dropLast false with
      | (above, .error e) => (above, .error e)
      | (above, .ok ()) =>
        match above.makeDirectory path dotted with
        | .ok next => (next, .ok ())
        | .error e => (above, above.excuse path e)
    | .error e => (t, t.excuse path e)
termination_by path.length

/-- Makes a directory and those above it.  The empty path stands for the root. -/
def makeDirectories (t : Tree) (path : String) : Tree × Except Failure Unit :=
  if path.isEmpty then (t, .ok ())
  else match checkPath path with
    | .error e => (t, .error e)
    | .ok () => t.makeAlong (steps path) (endsUnnamed path)

/-! ## §4. Listing. -/

/-- A node as a line: its path from the root, with a slash after a directory. -/
def line (entry : Place × Node) : String :=
  "./" ++ "/".intercalate entry.1 ++ (if entry.2 = .directory then "/" else "")

/-- Everything below the root, in the order of the lines. -/
def listing (t : Tree) : List String :=
  (t.nodes.map line).mergeSort (fun a b => !(b < a))

/-! ## §5. What the operations show. -/

/-- A node that was put at a place stands there, and nothing else has changed. -/
theorem node?_set {t : Tree} {place other : Place} {node : Node} (h : place ≠ []) :
    (t.set place node).node? other = if other = place then some node else t.node? other := by
  by_cases root : other = []
  · have apart : other ≠ place := fun eq => h (eq ▸ root)
    simp [node?, root, Ne.symm h]
  · simp only [node?, if_neg root, set]
    exact Keyed.lookup_set place other node t.nodes

/-- After pruning, what stood at the place or below it is gone unless it stays, and all else is as it was. -/
theorem node?_prune {t : Tree} {place other : Place} (h : other ≠ []) :
    (t.prune place).node? other = if place.isPrefixOf other && !t.stays other then none else t.node? other := by
  have kept := Keyed.lookup_filter (fun key => !place.isPrefixOf key || t.stays key) other t.nodes
  simp only [node?, if_neg h, prune]
  rw [kept]
  cases place.isPrefixOf other
  · rfl
  · cases t.stays other
    · rfl
    · rfl

end Tree

/-- Computations on a tree have its files. -/
instance : FileSystem (StateM Tree) where
  read path := fun t => (t.read path, t)
  removeTree path := fun t => let (next, result) := t.removeTree path; (result, next)
  makeDirectories path := fun t => let (next, result) := t.makeDirectories path; (result, next)
  write path text := fun t =>
    match t.write path text with
    | .ok next => (.ok (), next)
    | .error e => (.error e, t)

end ScriptBridge.Files

import ScriptBridge.Database.Entry
import ScriptBridge.Database.Lexeme

/-!
# ScriptBridge.Database.Reader

Reading a symbol database.

What may stand where is data: a `Record` lists the fields it knows, each with the `Shape` of its value and whether
it may be `null`.  Reading follows the shapes; a field that may not be `null` has to be there.  A field may be
repeated, and then its last value counts; the value of an unknown field is passed over, and of brackets in it only the
number counts, not their kind.  An unknown field without a value breaks the reading off, which is told apart from
other mistakes.  After the database one more lexeme is looked at, and it has to be valid.

Every step takes a lexeme off the list, so reading ends; the remainder is returned with the proof that it is
shorter.
-/

namespace ScriptBridge.Database

/-! ## §1. The grammar. -/

/-- The kinds of records in a database. -/
inductive RecordKind where
  | document | header | entry | parameter
  deriving DecidableEq, Repr

/-- What the value of a field looks like. -/
inductive Shape where
  | text | flag | natural
  | list (element : Shape)
  | record (kind : RecordKind)
  deriving Repr

/-- A field that a record knows. -/
structure FieldShape where
  shape : Shape
  nullable : Bool

/-- The fields of each kind of record. -/
def RecordKind.fields : RecordKind → List (String × FieldShape)
  | document => [("header", ⟨.record header, true⟩), ("symbols", ⟨.list (.record entry), false⟩)]
  | header => [("version", ⟨.natural, false⟩), ("source", ⟨.text, true⟩)]
  | entry =>
    [("kind", ⟨.text, false⟩), ("name", ⟨.text, false⟩), ("type", ⟨.text, true⟩), ("visibility", ⟨.text, true⟩),
     ("static", ⟨.flag, true⟩), ("const", ⟨.flag, true⟩), ("native", ⟨.text, true⟩),
     ("parameters", ⟨.list (.record parameter), true⟩), ("args", ⟨.text, true⟩),
     ("comments", ⟨.list .text, true⟩), ("return_comment", ⟨.text, true⟩),
     ("members", ⟨.list (.record entry), true⟩)]
  | parameter => [("name", ⟨.text, false⟩), ("type", ⟨.text, false⟩)]

/-- A value that has been read. -/
inductive Tree where
  | null
  | text (content : String)
  | flag (value : Bool)
  | natural (value : Nat)
  | list (elements : List Tree)
  | record (fields : List (String × Tree))
  deriving Inhabited

/-- Whether all fields are there that must be. -/
def RecordKind.isComplete (kind : RecordKind) (read : List (String × Tree)) : Bool :=
  kind.fields.all (fun field => field.2.nullable || read.any (fun r => r.1 == field.1))

/-! ## §2. What can be wrong. -/

/-- Why a text is no database. -/
inductive FormatError where
  /-- The text is not written as a database is. -/
  | malformed
  /-- An unknown field has no value; this lexeme stands in its place. -/
  | valueless (found : Lexeme)
  /-- The header asks for a later version of the format. -/
  | newer (version : Nat)
  deriving DecidableEq, Repr

/-! ## §3. Reading trees. -/

/-- A remainder that is shorter than the lexemes it was taken from. -/
abbrev Rest (ts : List Lexeme) := { rest : List Lexeme // rest.length < ts.length }

/-- The same remainder, seen from a longer list. -/
def Rest.weaken {ts us : List Lexeme} (rest : Rest ts) (h : ts.length ≤ us.length) : Rest us :=
  ⟨rest.1, Nat.lt_of_lt_of_le rest.2 h⟩

/-- Passes over lexemes until `depth` more brackets have been closed than opened. -/
def skipBrackets (depth : Nat) : (ts : List Lexeme) → Option (Rest ts)
  | [] => none
  | t :: ts =>
    let onward (depth : Nat) : Option (Rest (t :: ts)) :=
      (skipBrackets depth ts).map (·.weaken (by simp))
    match t with
    | .openBrace | .openBracket => onward (depth + 1)
    | .closeBrace | .closeBracket => if depth ≤ 1 then some ⟨ts, by simp⟩ else onward (depth - 1)
    | .finished | .invalid => none
    | _ => onward depth

/-- Passes over one value of any shape. -/
def skipValue : (ts : List Lexeme) → Except FormatError (Rest ts)
  | .text _ :: ts | .natural _ :: ts | .otherNumber :: ts | .flag _ :: ts | .null :: ts => .ok ⟨ts, by simp⟩
  | .openBrace :: ts | .openBracket :: ts =>
    match skipBrackets 1 ts with
    | some rest => .ok (rest.weaken (by simp))
    | none => .error .malformed
  | [] | .invalid :: _ => .error .malformed
  | found :: _ => .error (.valueless found)

mutual

/-- Reads a value of the given shape. -/
def readValue (shape : Shape) (ts : List Lexeme) : Except FormatError (Tree × Rest ts) :=
  match shape, ts with
  | .text, .text s :: rest => .ok (.text s, ⟨rest, by simp⟩)
  | .flag, .flag b :: rest => .ok (.flag b, ⟨rest, by simp⟩)
  | .natural, .natural n :: rest => if n < 1 <<< 32 then .ok (.natural n, ⟨rest, by simp⟩) else .error .malformed
  | .list element, .openBracket :: rest =>
    match readElements element rest with
    | .ok (elements, rest') => .ok (.list elements, rest'.weaken (by simp))
    | .error e => .error e
  | .record kind, .openBrace :: rest =>
    match readFields kind rest with
    | .ok (fields, rest') =>
      if kind.isComplete fields then .ok (.record fields, rest'.weaken (by simp)) else .error .malformed
    | .error e => .error e
  | _, _ => .error .malformed
termination_by (ts.length, 0)

/-- Reads the elements of a list up to its closing bracket.  A comma may stand before the bracket. -/
def readElements (element : Shape) (ts : List Lexeme) : Except FormatError (List Tree × Rest ts) :=
  match ts with
  | .closeBracket :: rest => .ok ([], ⟨rest, by simp⟩)
  | ts =>
    match readValue element ts with
    | .error e => .error e
    | .ok (first, ⟨.closeBracket :: rest, h⟩) => .ok ([first], ⟨rest, by simp at h; omega⟩)
    | .ok (first, ⟨.comma :: rest, h⟩) =>
      match readElements element rest with
      | .ok (others, rest') => .ok (first :: others, rest'.weaken (by simp at h; omega))
      | .error e => .error e
    | .ok _ => .error .malformed
termination_by (ts.length, 1)
decreasing_by
  all_goals try simp only [List.length_cons] at h
  all_goals omega

/-- Reads the fields of a record up to its closing brace.  A comma may stand before the brace. -/
def readFields (kind : RecordKind) (ts : List Lexeme) : Except FormatError (List (String × Tree) × Rest ts) :=
  match ts with
  | .closeBrace :: rest => .ok ([], ⟨rest, by simp⟩)
  | .text key :: .colon :: value =>
    let field : Except FormatError (List (String × Tree) × Rest value) :=
      match kind.fields.lookup key with
      | some known =>
        match known.nullable, value with
        | true, .null :: rest => .ok ([(key, .null)], ⟨rest, by simp⟩)
        | _, value => (readValue known.shape value).map (fun r => ([(key, r.1)], r.2))
      | none => (skipValue value).map ([], ·)
    match field with
    | .error e => .error e
    | .ok (read, ⟨.closeBrace :: rest, h⟩) => .ok (read, ⟨rest, by simp at h ⊢; omega⟩)
    | .ok (read, ⟨.comma :: rest, h⟩) =>
      match readFields kind rest with
      | .ok (others, rest') => .ok (read ++ others, rest'.weaken (by simp at h ⊢; omega))
      | .error e => .error e
    | .ok _ => .error .malformed
  | _ => .error .malformed
termination_by (ts.length, 1)
decreasing_by
  all_goals simp_wf
  all_goals try simp only [List.length_cons] at h
  all_goals omega

end

/-! ## §4. From trees to entries. -/

/-- The last value of a field. -/
def field? (fields : List (String × Tree)) (key : String) : Option Tree :=
  fields.reverse.lookup key

namespace Tree

/-- The text in a tree. -/
def text? : Tree → Option String
  | text s => some s
  | _ => none

/-- The truth value in a tree. -/
def flag? : Tree → Option Bool
  | flag b => some b
  | _ => none

/-- The number in a tree. -/
def natural? : Tree → Option Nat
  | natural n => some n
  | _ => none

/-- The elements of a tree. -/
def list? : Tree → Option (List Tree)
  | list elements => some elements
  | _ => none

/-- A parameter; both fields are required. -/
def parameter? : Tree → Option ParameterEntry
  | record fields => do
    let name ← (field? fields "name").bind text?
    let type ← (field? fields "type").bind text?
    return { name, type }
  | _ => none

/-- A header; its version is required. -/
def header? : Tree → Option Header
  | record fields => do
    let version ← (field? fields "version").bind natural?
    return { version, source := (field? fields "source").bind text? }
  | _ => none

mutual

/-- An entry; kind and name are required, here and in all members. -/
def entry? : Tree → Option Entry
  | record fields => do
    let kind ← (field? fields "kind").bind text?
    let name ← (field? fields "name").bind text?
    let parameters ← match field? fields "parameters" with
      | some (list elements) => (elements.mapM parameter?).map some
      | _ => some none
    let members ← entryMembers? none fields
    return {
      kind, name, parameters, members
      type := (field? fields "type").bind text?
      visibility := (field? fields "visibility").bind text?
      isStatic := (field? fields "static").bind flag?
      isConst := (field? fields "const").bind flag?
      native := (field? fields "native").bind text?
      args := (field? fields "args").bind text?
      comments := ((field? fields "comments").bind list?).map (·.filterMap text?)
      returnComment := (field? fields "return_comment").bind text? }
  | _ => none

/-- The members of an entry: the last value of that field, where every value has to be well-formed. -/
def entryMembers? (members : Option (List Entry)) : List (String × Tree) → Option (Option (List Entry))
  | [] => some members
  | ("members", .list elements) :: fields => do
    let read ← entries? elements
    entryMembers? (some read) fields
  | ("members", .null) :: fields => entryMembers? none fields
  | _ :: fields => entryMembers? members fields

/-- The entries of a list. -/
def entries? : List Tree → Option (List Entry)
  | [] => some []
  | t :: rest => do
    let first ← entry? t
    let others ← entries? rest
    return first :: others

end

/-- A database; its list of symbols is required. -/
def document? : Tree → Option Document
  | record fields => do
    let symbols ← (field? fields "symbols").bind list?
    let header ← match field? fields "header" with
      | some (record inner) => (header? (record inner)).map some
      | _ => some none
    return { header, symbols := ← entries? symbols }
  | _ => none

end Tree

/-! ## §5. Loading. -/

/-- The highest version of the database format that is understood. -/
def supportedVersion : Nat := 1

/-- The words for an error, if it has words of its own. -/
def FormatError.message? : FormatError → Option String
  | malformed => none
  | valueless found => some ("not implemented: " ++ found.kindName)
  | newer version =>
    some ("symbol database version " ++ toString version ++ " is newer than supported version " ++
      toString supportedVersion)

/-- The database that a text holds. -/
def Document.ofText (s : String) : Except FormatError Document :=
  match readValue (.record .document) (lexemes s.toList) with
  | .error e => .error e
  | .ok (tree, ⟨next :: _, _⟩) =>
    if next = .invalid then .error .malformed
    else match tree.document? with
      | none => .error .malformed
      | some document =>
        match document.header with
        | some header => if supportedVersion < header.version then .error (.newer header.version) else .ok document
        | none => .ok document
  | .ok _ => .error .malformed

end ScriptBridge.Database

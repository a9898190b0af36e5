import ScriptBridge.Declared.BasicType

/-!
# ScriptBridge.Declared.Target

The type that generated code gives to a declared type: nothing for `void`, a built-in scalar or string, a list for
`QList` and `QVector`, and a class for everything else.

`TargetType.ofBasic` reads a basic type; template arguments are declared types of their own, so each is stripped to
its basic type before it is read in turn.  Since stripping never lengthens a text and an argument is shorter than
the type it stands in, the reading ends.
-/

namespace ScriptBridge.Declared

open ScriptBridge.Text

/-! ## §1. Built-in types. -/

/-- Scalars and strings: types whose values are copied into script values. -/
inductive Builtin where
  | bool | i8 | u8 | i16 | u16 | i32 | u32 | i64 | u64 | usize | f32 | f64 | string
  deriving DecidableEq, Repr

namespace Builtin

/-- All built-in types. -/
def all : List Builtin :=
  [bool, i8, u8, i16, u16, i32, u32, i64, u64, usize, f32, f64, string]

/-- The name of the type in generated code. -/
def name : Builtin → String
  | bool => "bool" | i8 => "i8" | u8 => "u8" | i16 => "i16" | u16 => "u16" | i32 => "i32" | u32 => "u32"
  | i64 => "i64" | u64 => "u64" | usize => "usize" | f32 => "f32" | f64 => "f64" | string => "String"

/-- The basic types that stand for a built-in type. -/
def spellings : Builtin → List String
  | bool => ["bool"]
  | i8 => ["char", "signed char", "s8", "i8", "int8_t"]
  | u8 => ["unsigned char", "uchar", "u8", "uint8_t"]
  | i16 => ["short", "short int", "signed short", "s16", "i16", "int16_t"]
  | u16 => ["unsigned short", "ushort", "u16", "uint16_t"]
  | i32 => ["int", "signed", "signed int", "s32", "i32", "int32_t"]
  | u32 => ["unsigned", "unsigned int", "uint", "u32", "uint32_t"]
  | i64 => ["long", "long int", "long long", "long long int", "s64", "i64", "int64_t"]
  | u64 => ["unsigned long", "unsigned long long", "u64", "uint64_t"]
  | usize => ["size_t"]
  | f32 => ["float", "f32"]
  | f64 => ["double", "f64"]
  | string => ["QString", "String"]

/-- The built-in type that a basic type stands for. -/
def ofSpelling? (ty : String) : Option Builtin :=
  all.find? (fun b => b.spellings.contains ty)

end Builtin

/-- The type of a parameter, field or result in generated code. -/
inductive TargetType where
  /-- No value. -/
  | unit
  /-- A scalar or a string. -/
  | builtin (type : Builtin)
  /-- A list of elements of one type. -/
  | list (element : TargetType)
  /-- A native class, by the segments of its scoped name, with its template arguments. -/
  | named (path : List String) (arguments : List TargetType)
  deriving Repr

/-! ## §2. Templates. -/

/-- Cuts a text at each comma outside template brackets; there is always at least one piece. -/
def cutArguments (depth : Nat) : List Char → List (List Char)
  | [] => [[]]
  | c :: rest =>
    if c = ',' ∧ depth = 0 then [] :: cutArguments depth rest
    else (cutArguments (depthAfter depth c) rest).modifyHead (c :: ·)

/-- The arguments between template brackets.  Only the last one is left out when it is blank. -/
def templateArguments (inner : List Char) : List (List Char) :=
  let pieces := (cutArguments 0 inner).map trim
  pieces.dropLast ++ (pieces.getLast?.toList.filter (fun piece => !piece.isEmpty))

/-- The text between the first opening and the last closing bracket, if there is such a pair. -/
def bracketed? (ty : List Char) : Option (List Char) :=
  match ty.dropWhile (· != '<') with
  | _ :: rest =>
    match rest.reverse.dropWhile (· != '>') with
    | _ :: inner => some inner.reverse
    | [] => none
  | [] => none

/-- A type as its name and its template arguments: `Foo<A, B<C>>` is `Foo` with `A` and `B<C>`.  Whatever follows
the last closing bracket does not count. -/
def splitTemplate (ty : List Char) : List Char × List (List Char) :=
  match bracketed? ty with
  | some inner => (trim (ty.takeWhile (· != '<')), templateArguments inner)
  | none => (ty, [])

/-! ## §3. Arguments are shorter than their type. -/

theorem length_trim_le (s : List Char) : (trim s).length ≤ s.length := by
  have dropped : ∀ l : List Char, (l.dropWhile isSpace).length ≤ l.length :=
    fun l => (List.dropWhile_sublist (p := isSpace) (l := l)).length_le
  have tail := dropped (trimStart s).reverse
  have head := dropped s
  simp only [trim, trimEnd, trimStart, List.length_reverse] at tail ⊢
  omega

theorem length_le_of_mem_modifyHead {c : Char} {bound : Nat} {pieces : List (List Char)}
    (small : ∀ piece ∈ pieces, piece.length ≤ bound) :
    ∀ piece ∈ pieces.modifyHead (c :: ·), piece.length ≤ bound + 1 := by
  cases pieces with
  | nil => simp
  | cons head tail =>
    intro piece mem
    rcases List.mem_cons.1 mem with rfl | mem
    · have := small head (by simp)
      simpa using this
    · have := small piece (by simp [mem])
      omega

theorem length_le_of_mem_cutArguments (inner : List Char) :
    ∀ depth, ∀ piece ∈ cutArguments depth inner, piece.length ≤ inner.length := by
  induction inner with
  | nil => intro depth piece mem; simp [cutArguments] at mem; simp [mem]
  | cons c rest ih =>
    intro depth piece mem
    rw [cutArguments] at mem
    split at mem
    · rcases List.mem_cons.1 mem with rfl | mem
      · simp
      · have := ih depth piece mem
        simp; omega
    · exact length_le_of_mem_modifyHead (ih _) piece mem

theorem length_le_of_mem_templateArguments {inner arg : List Char} (mem : arg ∈ templateArguments inner) :
    arg.length ≤ inner.length := by
  have trimmed : arg ∈ (cutArguments 0 inner).map trim := by
    rcases List.mem_append.1 mem with mem | mem
    · exact (List.dropLast_sublist _).subset mem
    · have := (List.mem_filter.1 mem).1
      exact List.mem_of_getLast? (Option.mem_toList.1 this)
  obtain ⟨piece, inPieces, rfl⟩ := List.mem_map.1 trimmed
  exact Nat.le_trans (length_trim_le piece) (length_le_of_mem_cutArguments inner 0 piece inPieces)

theorem length_bracketed?_lt {ty inner : List Char} (h : bracketed? ty = some inner) :
    inner.length < ty.length := by
  unfold bracketed? at h
  have outer := (List.dropWhile_sublist (p := (· != '<')) (l := ty)).length_le
  split at h
  · next open' rest hrest =>
    have back := (List.dropWhile_sublist (p := (· != '>')) (l := rest.reverse)).length_le
    split at h
    · next close' inner' hinner =>
      simp only [Option.some.injEq] at h
      subst h
      rw [hrest] at outer
      rw [hinner] at back
      simp only [List.length_cons, List.length_reverse] at outer back ⊢
      omega
    · simp at h
  · simp at h

/-- A template argument, stripped to its basic type, is shorter than the type it stands in. -/
theorem length_basicType_argument_lt {ty arg : List Char} (mem : arg ∈ (splitTemplate (trim ty)).2) :
    (basicType arg).length < ty.length := by
  have whole := length_trim_le ty
  have basic := length_basicType_le arg
  unfold splitTemplate at mem
  split at mem
  · next inner h =>
    have := length_bracketed?_lt h
    have := length_le_of_mem_templateArguments mem
    omega
  · simp at mem

/-! ## §4. Reading a basic type. -/

namespace TargetType

/-- The list templates; with exactly one argument they map to a list. -/
def isListTemplate (name : List Char) : Bool :=
  name == "QList".toList || name == "QVector".toList

/-- A type with template arguments: a list if its name says so and there is exactly one argument, else a class. -/
def ofTemplate (name : List Char) (arguments : List TargetType) : TargetType :=
  match arguments with
  | [element] => if isListTemplate name then list element else classNamed name arguments
  | _ => classNamed name arguments
where
  /-- A class, its scoped name cut into trimmed segments. -/
  classNamed (name : List Char) (arguments : List TargetType) : TargetType :=
    named ((splitScopes name).map (fun segment => String.ofList (trim segment))) arguments

/-- The target type of a basic type. -/
def ofBasic (ty : List Char) : TargetType :=
  if trim ty = [] ∨ trim ty = "void".toList then unit
  else match Builtin.ofSpelling? (String.ofList (trim ty)) with
    | some b => builtin b
    | none =>
      ofTemplate (splitTemplate (trim ty)).1
        ((splitTemplate (trim ty)).2.attach.map (fun arg => ofBasic (basicType arg.1)))
termination_by ty.length
decreasing_by exact length_basicType_argument_lt arg.2

/-- The target type of a declared type. -/
def ofDeclared (ty : String) : TargetType :=
  ofBasic (basicType ty.toList)

/-- `ofBasic` on texts. -/
def ofBasicText (ty : String) : TargetType :=
  ofBasic ty.toList

/-- Whether values of the type are copied as they are, also into read-only snapshots. -/
def isPlain : TargetType → Bool
  | builtin _ => true
  | _ => false

/-- Whether the type has no value. -/
def isUnit : TargetType → Bool
  | unit => true
  | _ => false

mutual

/-- The spelling of a type in messages. -/
def text : TargetType → String
  | unit => "()"
  | builtin b => b.name
  | list element => "Vec<" ++ element.text ++ ">"
  | named path [] => "::".intercalate path
  | named path (arg :: args) => "::".intercalate path ++ "<" ++ ", ".intercalate (texts (arg :: args)) ++ ">"

/-- The spellings of several types. -/
def texts : List TargetType → List String
  | [] => []
  | type :: types => type.text :: texts types

end

end TargetType

end ScriptBridge.Declared

import ScriptBridge.Text.Digits

/-!
# ScriptBridge.Database.Lexeme

The lexemes of a symbol database: brackets, commas, colons, texts, numbers and the three words `true`, `false` and
`null`.

The notation is JSON with some liberties.  Comments may stand between lexemes, from `//` to the end of the line and
from `/*` to `*/`, where the opening star may already be the closing one; texts may hold raw control characters and
escape any character by a backslash; a number may have a plus sign and leading zeros.  A NUL character ends the
input.  `lexemes` ends with `finished`, or with `invalid` in place of what is no lexeme.
-/

namespace ScriptBridge.Database

open ScriptBridge.Text

/-- A lexeme.  Of a number only a whole one without minus sign has a value that matters. -/
inductive Lexeme where
  | openBrace | closeBrace | openBracket | closeBracket | comma | colon
  | text (content : String)
  | natural (value : Nat)
  /-- A number with a minus sign, a fraction or an exponent. -/
  | otherNumber
  | flag (value : Bool)
  | null
  /-- The end of the input. -/
  | finished
  /-- Something that is no lexeme; nothing behind it is read. -/
  | invalid
  deriving DecidableEq, Repr

/-- The name of a kind of lexeme, in messages. -/
def Lexeme.kindName : Lexeme → String
  | openBrace => "CurlyOpen"
  | closeBrace => "CurlyClose"
  | openBracket => "BlockOpen"
  | closeBracket => "BlockClose"
  | comma => "Comma"
  | colon => "Colon"
  | text _ => "Str"
  | natural _ | otherNumber => "Number"
  | flag _ => "Bool"
  | null => "Null"
  | finished => "Eof"
  | invalid => "Invalid"

/-! ## §1. Blanks and comments. -/

/-- Drops a comment up to the end of its line, or of the input. -/
def dropLine : List Char → List Char
  | [] => []
  | c :: rest => if c = '\n' then rest else if c = '\x00' then [] else dropLine rest

/-- Drops the rest of a block comment, which has to be closed.  `star` says whether the last character was a
star. -/
def dropBlock (star : Bool) : List Char → Option (List Char)
  | [] => none
  | c :: rest =>
    if c = '/' ∧ star then some rest else if c = '\x00' then none else dropBlock (c == '*') rest

theorem length_dropLine_le : ∀ s : List Char, (dropLine s).length ≤ s.length
  | [] => by simp [dropLine]
  | c :: rest => by
    have ih := length_dropLine_le rest
    unfold dropLine
    split
    · simp
    · split
      · simp
      · simp
        omega

theorem length_dropBlock_le {s rest' : List Char} :
    ∀ {star : Bool}, dropBlock star s = some rest' → rest'.length ≤ s.length := by
  induction s with
  | nil => intro star h; simp [dropBlock] at h
  | cons c rest ih =>
    intro star h
    unfold dropBlock at h
    split at h
    · simp only [Option.some.injEq] at h; subst h; simp
    · split at h
      · simp at h
      · have := ih h; simp; omega

/-! ## §2. Texts. -/

/-- The character for an escape letter; most characters stand for themselves. -/
def unescape (c : Char) : Char :=
  match c with
  | 'n' => '\n'
  | 'r' => '\r'
  | 't' => '\t'
  | 'b' => '\x08'
  | 'f' => '\x0c'
  | '0' => '\x00'
  | _ => c

/-- The code point of a pair of surrogates. -/
def joinSurrogates (high low : Nat) : Nat :=
  0x10000 + (high - 0xD800) * 0x400 + (low - 0xDC00)

/-- The content of a text and what follows it.  `content` holds the characters read so far, last first.  A text
without closing quote and an escape without character are no texts. -/
def readText (content : List Char) : List Char → Option (String × List Char)
  | [] => none
  | '"' :: rest => some (String.ofList content.reverse, rest)
  | '\\' :: 'u' :: a :: b :: c :: d :: rest =>
    match hexNumber? [a, b, c, d] with
    | none => none
    | some code =>
      if 0xD800 ≤ code ∧ code < 0xDC00 then
        match rest with
        | '\\' :: 'u' :: a' :: b' :: c' :: d' :: rest' =>
          match hexNumber? [a', b', c', d'] with
          | some low =>
            if 0xDC00 ≤ low ∧ low < 0xE000 then
              readText (Char.ofNat (joinSurrogates code low) :: content) rest'
            else none
          | none => none
        | _ => none
      else if 0xDC00 ≤ code ∧ code < 0xE000 then none
      else readText (Char.ofNat code :: content) rest
  | '\\' :: c :: rest =>
    if c = '\x00' ∨ c = 'u' then none else readText (unescape c :: content) rest
  | c :: rest => if c = '\x00' ∨ c = '\\' then none else readText (c :: content) rest

theorem length_readText_le (content s : List Char) (t : String) (rest : List Char)
    (h : readText content s = some (t, rest)) : rest.length < s.length := by
  fun_induction readText content s <;> simp_all <;> omega

/-! ## §3. Numbers. -/

/-- Splits off an exponent: its letter, a minus sign and digits.  The first part says whether there is one, the
second whether it has digits. -/
def readExponent (s : List Char) : Bool × Bool × List Char :=
  match s with
  | c :: rest =>
    if c = 'e' ∨ c = 'E' then
      let unsigned := if rest.head? = some '-' then rest.drop 1 else rest
      (true, unsigned.head?.any Char.isDigit, unsigned.dropWhile Char.isDigit)
    else (false, false, s)
  | [] => (false, false, s)

/-- Splits off a fraction: a point and digits.  The first part says whether there is a point. -/
def readFraction (s : List Char) : Bool × List Char × List Char :=
  match s with
  | '.' :: rest => (true, rest.takeWhile Char.isDigit, rest.dropWhile Char.isDigit)
  | _ => (false, [], s)

/-- The lexeme for a number and what follows it.  `first` holds the digit it starts with, or nothing after a sign.
Whole numbers have to fit sixty-four bits. -/
def readNumber (negative : Bool) (first s : List Char) : Option (Lexeme × List Char) :=
  let whole := first ++ s.takeWhile Char.isDigit
  let fraction := readFraction (s.dropWhile Char.isDigit)
  let exponent := readExponent fraction.2.2
  let lexeme? : Option Lexeme :=
    if fraction.1 || exponent.1 then
      if (whole ++ fraction.2.1).isEmpty || (exponent.1 && !exponent.2.1) then none else some .otherNumber
    else if whole.isEmpty then none
    else if negative then (if decimalValue whole ≤ 1 <<< 63 then some .otherNumber else none)
    else if decimalValue whole < 1 <<< 64 then some (.natural (decimalValue whole)) else none
  lexeme?.map (·, exponent.2.2)

theorem length_readExponent_le (s : List Char) : (readExponent s).2.2.length ≤ s.length := by
  unfold readExponent
  split
  · next c rest =>
    split
    · have drop := (List.dropWhile_sublist (l := if rest.head? = some '-' then rest.drop 1 else rest)
        Char.isDigit).length_le
      have unsigned : (if rest.head? = some '-' then rest.drop 1 else rest).length ≤ rest.length := by
        split <;> simp
      simp only [List.length_cons] at drop ⊢
      omega
    · simp
  · simp

theorem length_readFraction_le (s : List Char) : (readFraction s).2.2.length ≤ s.length := by
  unfold readFraction
  split
  · next rest =>
    have := (List.dropWhile_sublist (l := rest) Char.isDigit).length_le
    simp only [List.length_cons]
    omega
  · simp

theorem length_readNumber_le {negative : Bool} {first s rest : List Char} {l : Lexeme}
    (h : readNumber negative first s = some (l, rest)) : rest.length ≤ s.length := by
  have whole := (List.dropWhile_sublist (l := s) Char.isDigit).length_le
  have fraction := length_readFraction_le (s.dropWhile Char.isDigit)
  have exponent := length_readExponent_le (readFraction (s.dropWhile Char.isDigit)).2.2
  unfold readNumber at h
  simp only [Option.map_eq_some_iff, Prod.mk.injEq] at h
  obtain ⟨_, _, _, rfl⟩ := h
  omega

/-! ## §4. Lexemes. -/

/-- The letters that words are made of. -/
def isBareWordChar (c : Char) : Bool :=
  c.isAlpha || c == '_'

/-- The lexeme for a bare word. -/
def wordLexeme? (word : List Char) : Option Lexeme :=
  if word = "true".toList then some (.flag true)
  else if word = "false".toList then some (.flag false)
  else if word = "null".toList then some .null
  else none

/-- The lexeme for a single character. -/
def bracketLexeme? (c : Char) : Option Lexeme :=
  match c with
  | '\x7b' => some .openBrace
  | '\x7d' => some .closeBrace
  | '[' => some .openBracket
  | ']' => some .closeBracket
  | ',' => some .comma
  | ':' => some .colon
  | _ => none

/-- White space between lexemes. -/
def isBlank (c : Char) : Bool :=
  c == ' ' || c == '\t' || c == '\r' || c == '\n'

/-- One step of reading: a lexeme, a comment or blank to pass over, or an end. -/
inductive LexStep where
  | found (lexeme : Lexeme) (rest : List Char)
  | skip (rest : List Char)
  | stop (lexeme : Lexeme)

/-- Reads one lexeme that starts with `c`. -/
def lexStep (c : Char) (rest : List Char) : LexStep :=
  if c = '\x00' then .stop .finished
  else if isBlank c then .skip rest
  else if c = '/' then
    match rest with
    | '/' :: rest' => .skip (dropLine rest')
    | '*' :: rest' =>
      match dropBlock true rest' with
      | some after => .skip after
      | none => .stop .invalid
    | _ => .stop .invalid
  else if c = '"' then
    match readText [] rest with
    | some (content, rest') => .found (.text content) rest'
    | none => .stop .invalid
  else if c.isDigit then
    match readNumber false [c] rest with
    | some (l, rest') => .found l rest'
    | none => .stop .invalid
  else if c = '-' ∨ c = '+' then
    match readNumber (c == '-') [] rest with
    | some (l, rest') => .found l rest'
    | none => .stop .invalid
  else if isBareWordChar c then
    match wordLexeme? (c :: rest.takeWhile isBareWordChar) with
    | some l => .found l (rest.dropWhile isBareWordChar)
    | none => .stop .invalid
  else
    match bracketLexeme? c with
    | some l => .found l rest
    | none => .stop .invalid

/-- What is left after a step that goes on. -/
def LexStep.rest? : LexStep → Option (List Char)
  | found _ rest | skip rest => some rest
  | stop _ => none

theorem length_lexStep_le (c : Char) (rest rest' : List Char) (h : (lexStep c rest).rest? = some rest') :
    rest'.length ≤ rest.length := by
  have line := length_dropLine_le
  unfold lexStep at h
  repeat' split at h
  all_goals simp only [LexStep.rest?, Option.some.injEq, reduceCtorEq] at h
  all_goals subst h
  · simp
  · next r => have := line r; simp; omega
  · next r after hr => have := length_dropBlock_le hr; simp; omega
  · next content r hr => exact Nat.le_of_lt (length_readText_le _ _ _ _ hr)
  · next l r hr => exact length_readNumber_le hr
  · next l r hr => exact length_readNumber_le hr
  · exact (List.dropWhile_sublist _).length_le
  · simp

/-- The lexemes of a database text. -/
def lexemes : List Char → List Lexeme
  | [] => [.finished]
  | c :: rest =>
    match h : lexStep c rest with
    | .found l rest' =>
      have := length_lexStep_le c rest rest' (by rw [h]; rfl)
      l :: lexemes rest'
    | .skip rest' =>
      have := length_lexStep_le c rest rest' (by rw [h]; rfl)
      lexemes rest'
    | .stop l => [l]
termination_by s => s.length

end ScriptBridge.Database

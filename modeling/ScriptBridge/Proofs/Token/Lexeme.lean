import ScriptBridge.Token.Compose

/-!
# ScriptBridge.Proofs.Token.Lexeme

Source text read back into lexemes, and the lexemes that a token stream stands for.

`Lexeme.read?` is a reader of its own: it knows nothing of layout.  It skips white space, takes words, raw words,
lifetimes, integers, string and raw string literals as far as they go, brackets one by one, and of the operators
always the longest that fits.  What generated code has no use for (comments, character literals, numbers with a
point, literals with a prefix other than `r`) is refused rather than read.

`Lexeme.ofTokens` flattens a stream: each maximal run of joint signs, with the sign that ends it, is one operator,
a joint quote and the word behind it are a lifetime, and a group is its content between two brackets.

Main results:
  * `next?_length` — what follows a lexeme is shorter than what it stands in front of, so that reading ends;
  * `read?_spaces`, `read?_next` — how a text is read from its start.
-/

namespace ScriptBridge.Token

open ScriptBridge.Text

/-! ## §1. Lexemes. -/

/-- One lexeme of a source text. -/
inductive Lexeme where
  | word (name : Identifier)
  | lifetime (name : String)
  /-- A number or a string, given by its source text. -/
  | literal (text : String)
  | operator (signs : List Char)
  | opening (delimiter : Delimiter)
  | closing (delimiter : Delimiter)
  deriving DecidableEq, Repr

namespace Lexeme

/-- The operators of the target language, longer ones first. -/
def operators : List (List Char) :=
  [['<', '<', '='], ['>', '>', '='], ['.', '.', '.'], ['.', '.', '='],
   [':', ':'], ['-', '>'], ['=', '>'], ['<', '-'], ['=', '='], ['!', '='], ['<', '='], ['>', '='], ['&', '&'],
   ['|', '|'], ['+', '='], ['-', '='], ['*', '='], ['/', '='], ['%', '='], ['^', '='], ['&', '='], ['|', '='],
   ['<', '<'], ['>', '>'], ['.', '.'],
   ['='], ['<'], ['>'], ['!'], ['~'], ['+'], ['-'], ['*'], ['/'], ['%'], ['^'], ['&'], ['|'], ['@'], ['.'], [','],
   [';'], [':'], ['#'], ['$'], ['?']]

/-! ## §2. The lexemes of a stream. -/

/-- What a run of joint signs is when no sign follows it. -/
def ofRun : List Char → List Lexeme
  | [] => []
  | run => [operator run]

/-- What a run of joint signs and the word behind it are. -/
def ofWord (run : List Char) (name : Identifier) : List Lexeme :=
  if run = ['\''] then [lifetime name.text] else ofRun run ++ [word name]

/-- The brackets around the content of a group.  A boundary that is not printed has none. -/
def between (delimiter : Delimiter) (inner : List Lexeme) : List Lexeme :=
  if delimiter = .invisible then inner else opening delimiter :: inner ++ [closing delimiter]

/-- The lexemes of a stream that goes on from a run of joint signs. -/
def afterRun (run : List Char) : List Token → List Lexeme
  | [] => ofRun run
  | .word name :: rest => ofWord run name ++ afterRun [] rest
  | .sign c true :: rest => afterRun (run ++ [c]) rest
  | .sign c false :: rest => operator (run ++ [c]) :: afterRun [] rest
  | .literal value :: rest => ofRun run ++ literal value.text :: afterRun [] rest
  | .group delimiter inner :: rest => ofRun run ++ between delimiter (afterRun [] inner) ++ afterRun [] rest

/-- The lexemes of a stream. -/
def ofTokens (stream : List Token) : List Lexeme :=
  afterRun [] stream

/-! ## §3. Reading one lexeme. -/

/-- The bracket that a character is. -/
def bracket? (c : Char) : Option Lexeme :=
  match c with
  | '(' => some (opening .parenthesis)
  | ')' => some (closing .parenthesis)
  | '[' => some (opening .bracket)
  | ']' => some (closing .bracket)
  | '\x7b' => some (opening .brace)
  | '\x7d' => some (closing .brace)
  | _ => none

/-- Whether a word or a number must not be followed by the character: it would make a prefix of the word. -/
def isPrefixMark (c : Char) : Bool :=
  c == '"' || c == '\'' || c == '#'

/-- The longest word at the start of a text, with what follows it. -/
def takeWord? (s : List Char) : Option (List Char × List Char) :=
  if hasIdentifierShape (s.takeWhile isIdentContinue) && !(s.dropWhile isIdentContinue).head?.any isPrefixMark then
    some (s.takeWhile isIdentContinue, s.dropWhile isIdentContinue)
  else none

/-- The longest word at the start of a text, with what follows it, unless it is one that no prefix makes a name. -/
def takeRaised? (s : List Char) : Option (List Char × List Char) :=
  (takeWord? s).filter (fun taken => !unraisable.contains (String.ofList taken.1))

/-- The rest of a number without a point, its suffix included, with what follows it. -/
def takeNumber? (s : List Char) : Option (List Char × List Char) :=
  if (s.dropWhile isIdentContinue).head? = some '.' then none
  else some (s.takeWhile isIdentContinue, s.dropWhile isIdentContinue)

/-- The rest of a string literal up to the quote that ends it, with what follows.  Behind a backslash no character
ends the literal. -/
def takeString? : List Char → Option (List Char × List Char)
  | [] => none
  | c :: rest =>
    if c = '"' then some (['"'], rest)
    else if c = '\\' then
      match rest with
      | [] => none
      | d :: rest => (takeString? rest).map (fun taken => (c :: d :: taken.1, taken.2))
    else (takeString? rest).map (fun taken => (c :: taken.1, taken.2))

/-- The rest of a raw string literal up to the next quote, with what follows. -/
def takeRaw? : List Char → Option (List Char × List Char)
  | [] => none
  | c :: rest =>
    if c = '"' then some (['"'], rest) else (takeRaw? rest).map (fun taken => (c :: taken.1, taken.2))

/-- A string literal with its suffix, of which `start` and the taken part have been read. -/
def literalOf (start : List Char) (taken : List Char × List Char) : Lexeme × List Char :=
  (literal (String.ofList (start ++ taken.1 ++ taken.2.takeWhile isIdentContinue)),
    taken.2.dropWhile isIdentContinue)

/-- The longest operator at the start of a text, with what follows it; comments are none. -/
def takeOperator? (s : List Char) : Option (Lexeme × List Char) :=
  if ['/', '/'].isPrefixOf s || ['/', '*'].isPrefixOf s then none
  else (operators.find? (·.isPrefixOf s)).map (fun signs => (operator signs, s.drop signs.length))

/-- The lexeme at the start of a text, of which `c` is the first character, with what follows it. -/
def next? (c : Char) (rest : List Char) : Option (Lexeme × List Char) :=
  match bracket? c with
  | some l => some (l, rest)
  | none =>
    if c = '"' then (takeString? rest).map (literalOf ['"'])
    else if c = 'r' ∧ rest.head? = some '"' then (takeRaw? rest.tail).map (literalOf ['r', '"'])
    else if c = 'r' ∧ rest.head? = some '#' then
      (takeRaised? rest.tail).map (fun taken => (word ⟨String.ofList taken.1, true⟩, taken.2))
    else if c = '\'' then (takeWord? rest).map (fun taken => (lifetime (String.ofList taken.1), taken.2))
    else if c.isDigit then
      (takeNumber? rest).map (fun taken => (literal (String.ofList (c :: taken.1)), taken.2))
    else if c = '_' ∨ isIdentStart c then
      (takeWord? (c :: rest)).map (fun taken => (word ⟨String.ofList taken.1, false⟩, taken.2))
    else takeOperator? (c :: rest)

/-! ## §4. Reading takes the text apart. -/

/-- A word that is taken was the beginning of the text. -/
theorem takeWord?_append {s : List Char} {taken : List Char × List Char} (h : takeWord? s = some taken) :
    taken.1 ++ taken.2 = s ∧ taken.1 ≠ [] := by
  unfold takeWord? at h
  split at h
  case isFalse => cases h
  case isTrue shape =>
    obtain rfl := Option.some.inj h
    refine ⟨List.takeWhile_append_dropWhile, ?_⟩
    intro blank
    replace blank : s.takeWhile isIdentContinue = [] := blank
    rw [blank] at shape
    exact absurd shape (by simp [hasIdentifierShape])

/-- So was a number. -/
theorem takeNumber?_append {s : List Char} {taken : List Char × List Char} (h : takeNumber? s = some taken) :
    taken.1 ++ taken.2 = s := by
  unfold takeNumber? at h
  split at h
  · cases h
  · obtain rfl := Option.some.inj h
    exact List.takeWhile_append_dropWhile

/-- So was a string literal, with the quote that ends it. -/
theorem takeString?_append {s : List Char} {taken : List Char × List Char} (h : takeString? s = some taken) :
    taken.1 ++ taken.2 = s := by
  fun_induction takeString? s generalizing taken with
  | case1 => cases h
  | case2 rest => obtain rfl := Option.some.inj h; rfl
  | case3 c => cases h
  | case4 d rest escapes ih =>
    obtain ⟨inner, found, rfl⟩ := Option.map_eq_some_iff.1 h
    simp [ih found]
  | case5 c rest closes escapes ih =>
    obtain ⟨inner, found, rfl⟩ := Option.map_eq_some_iff.1 h
    simp [ih found]

/-- So was a raw literal. -/
theorem takeRaw?_append {s : List Char} {taken : List Char × List Char} (h : takeRaw? s = some taken) :
    taken.1 ++ taken.2 = s := by
  fun_induction takeRaw? s generalizing taken with
  | case1 => cases h
  | case2 rest => obtain rfl := Option.some.inj h; rfl
  | case3 c rest closes ih =>
    obtain ⟨inner, found, rfl⟩ := Option.map_eq_some_iff.1 h
    simp [ih found]

theorem operator_ne_nil {signs : List Char} (h : signs ∈ operators) : signs ≠ [] := by
  rintro rfl
  revert h
  decide

/-- An operator that is taken makes the text shorter. -/
theorem takeOperator?_length {s after : List Char} {l : Lexeme} (h : takeOperator? s = some (l, after)) :
    after.length < s.length := by
  unfold takeOperator? at h
  split at h
  · cases h
  · obtain ⟨signs, found, taken⟩ := Option.map_eq_some_iff.1 h
    obtain ⟨-, rfl⟩ := Prod.mk.inj taken
    have fits : signs <+: s := by simpa using List.find?_some found
    have nonempty : 0 < signs.length := List.length_pos_iff.2 (operator_ne_nil (List.mem_of_find?_eq_some found))
    have fewer := fits.length_le
    rw [List.length_drop]
    omega

theorem literalOf_length (start : List Char) (taken : List Char × List Char) :
    (literalOf start taken).2.length ≤ (taken.1 ++ taken.2).length := by
  have dropped := (List.dropWhile_sublist (l := taken.2) isIdentContinue).length_le
  simp only [literalOf, List.length_append]
  omega

/-- What follows a lexeme is shorter than what it stands in front of. -/
theorem next?_length {c : Char} {rest after : List Char} {l : Lexeme} (h : next? c rest = some (l, after)) :
    after.length ≤ rest.length := by
  have tail := List.length_tail (l := rest)
  -- every kind of lexeme takes one character at least
  have shorter : ∀ {s : List Char} {taken : List Char × List Char}, taken.1 ++ taken.2 = s ∧ taken.1 ≠ [] →
      taken.2.length < s.length := by
    rintro s taken ⟨rfl, nonempty⟩
    have := List.length_pos_iff.2 nonempty
    simp only [List.length_append]
    omega
  unfold next? at h
  split at h
  · cases h; exact Nat.le_refl _
  split at h
  · obtain ⟨taken, found, same⟩ := Option.map_eq_some_iff.1 h
    have fits := literalOf_length ['"'] taken
    rw [takeString?_append found, same] at fits
    exact fits
  split at h
  · obtain ⟨taken, found, same⟩ := Option.map_eq_some_iff.1 h
    have fits := literalOf_length ['r', '"'] taken
    rw [takeRaw?_append found, same] at fits
    simp only at fits
    omega
  split at h
  · obtain ⟨taken, found, same⟩ := Option.map_eq_some_iff.1 h
    obtain ⟨-, rfl⟩ := Prod.mk.inj same
    have fits := shorter (takeWord?_append (Option.filter_eq_some_iff.1 found).1)
    omega
  split at h
  · obtain ⟨taken, found, same⟩ := Option.map_eq_some_iff.1 h
    obtain ⟨-, rfl⟩ := Prod.mk.inj same
    exact Nat.le_of_lt (shorter (takeWord?_append found))
  split at h
  · obtain ⟨taken, found, same⟩ := Option.map_eq_some_iff.1 h
    obtain ⟨-, rfl⟩ := Prod.mk.inj same
    rw [← takeNumber?_append found, List.length_append]
    omega
  split at h
  · obtain ⟨taken, found, same⟩ := Option.map_eq_some_iff.1 h
    obtain ⟨-, rfl⟩ := Prod.mk.inj same
    exact Nat.le_of_lt_succ (shorter (takeWord?_append found))
  · exact Nat.le_of_lt_succ (takeOperator?_length h)

/-! ## §5. Reading a text. -/

/-- The lexemes of a source text, if it has any reading at all. -/
def read? : List Char → Option (List Lexeme)
  | [] => some []
  | c :: rest =>
    if isSpace c then read? rest
    else
      match _found : next? c rest with
      | none => none
      | some (l, after) => (read? after).map (l :: ·)
termination_by s => s.length
decreasing_by
  · exact Nat.lt_succ_self _
  · exact Nat.lt_succ_of_le (next?_length _found)

/-- The empty text has no lexemes. -/
theorem read?_nil : read? [] = some [] := by
  unfold read?
  rfl

/-- White space is passed over. -/
theorem read?_space {c : Char} (rest : List Char) (h : isSpace c = true) : read? (c :: rest) = read? rest := by
  rw [read?]
  simp [h]

/-- Any other character begins the next lexeme. -/
theorem read?_next {c : Char} {rest after : List Char} {l : Lexeme} (visible : isSpace c = false)
    (h : next? c rest = some (l, after)) : read? (c :: rest) = (read? after).map (l :: ·) := by
  rw [read?]
  simp only [visible, Bool.false_eq_true, if_false]
  split
  case h_1 failed => rw [h] at failed; cases failed
  case h_2 found =>
    rw [h] at found
    cases found
    rfl

/-- White space in front of a text changes nothing. -/
theorem read?_spaces {white : List Char} (rest : List Char) (h : white.all isSpace = true) :
    read? (white ++ rest) = read? rest := by
  induction white with
  | nil => rfl
  | cons c white ih =>
    obtain ⟨first, others⟩ : isSpace c = true ∧ white.all isSpace = true := by simpa using h
    rw [List.cons_append, read?_space _ first, ih others]

end Lexeme

end ScriptBridge.Token

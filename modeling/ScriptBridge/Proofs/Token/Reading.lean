import ScriptBridge.Proofs.Text.Quoted
import ScriptBridge.Proofs.Token.Lexeme

/-!
# ScriptBridge.Proofs.Token.Reading

Each lexeme, written down, is read back as itself.

`Reads admits s ls` says that the text `s` reads as `ls` whatever follows it, as long as the next character is an
admitted one.  Such texts can be put side by side when each admits the first character of the next.

Main results:
  * `reads_word`, `reads_lifetime`, `reads_number`, `reads_stringLiteral`, `reads_rawLiteral`, `reads_bracket`,
    `reads_operator` — one for each form of lexeme;
  * `Reads.append`, `Reads.spaces` — texts side by side, and texts with white space behind them.
-/

namespace ScriptBridge.Token

open ScriptBridge.Text Lexeme

/-! ## §1. Texts that are read as they stand. -/

/-- The text `s` reads as `ls`, whatever follows it, as long as the next character is one of those admitted. -/
def Reads (admits : Char → Bool) (s : List Char) (ls : List Lexeme) : Prop :=
  ∀ rest : List Char, rest.head?.all admits = true → read? (s ++ rest) = (read? rest).map (ls ++ ·)

namespace Reads

variable {admits fewer : Char → Bool} {s t : List Char} {ls ms : List Lexeme}

/-- The empty text reads as nothing. -/
theorem nil : Reads admits [] [] := by
  intro rest _
  simp

/-- Fewer characters may be admitted behind a text. -/
theorem mono (h : Reads admits s ls) (le : ∀ c, fewer c = true → admits c = true) : Reads fewer s ls := by
  intro rest next
  refine h rest ?_
  cases head : rest.head? with
  | none => rfl
  | some c => simpa using le c (by simpa [head] using next)

/-- Two texts read one after the other if the first admits how the second begins. -/
theorem append (first : Reads fewer s ls) (second : Reads admits t ms) {c : Char} (begins : t.head? = some c)
    (admitted : fewer c = true) : Reads admits (s ++ t) (ls ++ ms) := by
  intro rest next
  have head : (t ++ rest).head?.all fewer = true := by
    simp [List.head?_append, begins, admitted]
  rw [List.append_assoc, first _ head, second rest next, Option.map_map]
  congr 1
  funext more
  simp

/-- White space after a text takes away all conditions on what follows. -/
theorem spaces (h : Reads isSpace s ls) {white : List Char} (blank : white.all isSpace = true) (nonempty : white ≠ []) :
    Reads admits (s ++ white) ls := by
  intro rest _
  have head : (white ++ rest).head?.all isSpace = true := by
    obtain ⟨c, white, rfl⟩ := List.exists_cons_of_ne_nil nonempty
    have first : isSpace c = true ∧ white.all isSpace = true := by simpa using blank
    simpa using first.1
  rw [List.append_assoc, h _ head, read?_spaces rest blank]

/-- A text of one lexeme. -/
theorem single {c : Char} {l : Lexeme} (visible : isSpace c = false)
    (h : ∀ rest : List Char, rest.head?.all admits = true → next? c (s ++ rest) = some (l, rest)) :
    Reads admits (c :: s) [l] := by
  intro rest next
  rw [List.cons_append, read?_next visible (h rest next)]
  rfl

/-- The whole of a text. -/
theorem whole (h : Reads admits s ls) : read? s = some ls := by
  have all := h [] rfl
  rw [List.append_nil, read?_nil] at all
  simpa using all

end Reads

/-! ## §2. Characters of words. -/

/-- No number lies in two lists of ranges that keep apart. -/
theorem disjoint_holds {a b : Runs} (h : (a.all fun x => b.all fun y => x.2 < y.1 || y.2 < x.1) = true) {n : Nat}
    (inside : a.holds n = true) : b.holds n = false := by
  obtain ⟨x, xMem, low, high⟩ : ∃ x ∈ a, x.1 ≤ n ∧ n ≤ x.2 := by simpa [Runs.holds] using inside
  rw [Bool.eq_false_iff]
  intro also
  obtain ⟨y, yMem, low', high'⟩ : ∃ y ∈ b, y.1 ≤ n ∧ n ≤ y.2 := by simpa [Runs.holds] using also
  have apart : x.2 < y.1 ∨ y.2 < x.1 := by
    simpa using List.all_eq_true.1 (List.all_eq_true.1 h x xMem) y yMem
  omega

/-- A character that a word may start with. -/
def startsWord (c : Char) : Bool :=
  c == '_' || isIdentStart c

/-- No letter, mark or joiner is white space. -/
theorem visible_tables :
    ((letters ++ letterlikeSymbols ++ innerWordChars ++ joiners).all fun x =>
      whiteSpace.all fun y => x.2 < y.1 || y.2 < x.1) = true := by
  decide +kernel

/-- How the classes of ASCII characters lie to each other. -/
theorem ascii_class {c : Char} (ascii : isAscii c = true) :
    (isIdentContinue c = true → isSpace c = false) ∧
      (startsWord c = true → isIdentContinue c = true ∧ c.isDigit = false) := by
  have each := forall_ascii (p := fun c => (!isIdentContinue c || !isSpace c) &&
    (!startsWord c || isIdentContinue c && !c.isDigit)) (by decide +kernel) ascii
  obtain ⟨visible, word⟩ := Bool.and_eq_true_iff.1 each
  refine ⟨fun h => by simpa [h] using visible, fun h => by simpa [h] using word⟩

/-- Characters of words are visible. -/
theorem isSpace_of_isIdentContinue {c : Char} (h : isIdentContinue c = true) : isSpace c = false := by
  by_cases ascii : isAscii c = true
  · exact (ascii_class ascii).1 h
  · refine disjoint_holds visible_tables ?_
    simp only [isIdentContinue, isIdentStart, if_neg ascii] at h
    simpa [Runs.holds, List.any_append, or_assoc] using h

/-- What a word may start with, it may go on with. -/
theorem isIdentContinue_of_startsWord {c : Char} (h : startsWord c = true) : isIdentContinue c = true := by
  by_cases ascii : isAscii c = true
  · exact ((ascii_class ascii).2 h).1
  · rcases Bool.or_eq_true_iff.1 h with h | h
    · obtain rfl : c = '_' := by simpa using h
      rfl
    · simp [isIdentContinue, ascii, h]

/-- No word starts with a digit. -/
theorem isDigit_of_startsWord {c : Char} (h : startsWord c = true) : c.isDigit = false := by
  rw [Bool.eq_false_iff]
  intro digit
  have ascii : isAscii c = true := isAscii_of_isAlphanum (by simp [Char.isAlphanum, digit])
  rw [((ascii_class ascii).2 h).2] at digit
  cases digit

/-- A word may go on with digits. -/
theorem isIdentContinue_of_isDigit {c : Char} (h : c.isDigit = true) : isIdentContinue c = true := by
  have word : c.isAlphanum = true := by simp [Char.isAlphanum, h]
  simp [isIdentContinue, isAscii_of_isAlphanum word, isAsciiWordChar, word]

/-- No bracket stands in a word. -/
theorem bracket?_of_isIdentContinue {c : Char} (h : isIdentContinue c = true) : bracket? c = none := by
  unfold bracket?
  split
  case h_7 => rfl
  all_goals exact absurd h (by decide)

/-! ## §3. Words and lifetimes. -/

/-- What may follow a word directly. -/
def endsWord (c : Char) : Bool :=
  !isIdentContinue c && !isPrefixMark c

/-- What is taken from a text ends where the first other character stands. -/
theorem takeWhile_stop {p : Char → Bool} {s rest : List Char} (inside : s.all p = true)
    (stop : rest.head?.all (fun c => !p c) = true) :
    (s ++ rest).takeWhile p = s ∧ (s ++ rest).dropWhile p = rest := by
  have all : ∀ c ∈ s, p c = true := List.all_eq_true.1 inside
  rw [List.takeWhile_append_of_pos all, List.dropWhile_append_of_pos all]
  cases rest with
  | nil => simp
  | cons c rest =>
    have first : p c = false := by simpa using stop
    simp [first]

/-- A name of the shape of an identifier starts as a word does and goes on so. -/
theorem all_of_shape {name : List Char} (h : hasIdentifierShape name = true) :
    name.all isIdentContinue = true ∧ ∃ c rest, name = c :: rest ∧ startsWord c = true := by
  cases name with
  | nil => cases h
  | cons c rest =>
    obtain ⟨first, others⟩ : startsWord c = true ∧ rest.all isIdentContinue = true := Bool.and_eq_true_iff.1 h
    refine ⟨?_, c, rest, rfl, first⟩
    rw [List.all_cons, isIdentContinue_of_startsWord first, others]
    rfl

/-- A name is read as a word, up to the first character that may follow a word. -/
theorem takeWord?_shape {name rest : List Char} (shape : hasIdentifierShape name = true)
    (next : rest.head?.all endsWord = true) : takeWord? (name ++ rest) = some (name, rest) := by
  have stop : rest.head?.all (fun c => !isIdentContinue c) = true ∧ rest.head?.any isPrefixMark = false := by
    cases head : rest.head? with
    | none => exact ⟨rfl, rfl⟩
    | some c => simpa [endsWord, head] using next
  obtain ⟨taken, left⟩ := takeWhile_stop (all_of_shape shape).1 stop.1
  simp [takeWord?, taken, left, shape, stop.2]

/-- What `Identifier` makes sure of: the name has the shape of an identifier, and if it is raw it is not one of the
words that no prefix makes a name. -/
structure Identifier.IsName (id : Identifier) : Prop where
  shape : hasIdentifierShape id.name.toList = true
  raised : id.raw = true → unraisable.contains id.name = false

/-- Two characters differ if words go on with one of them only. -/
theorem ne_of_isIdentContinue {c d : Char} (h : isIdentContinue c = true) (other : isIdentContinue d = false) :
    c ≠ d := by
  rintro rfl
  rw [h] at other
  cases other

/-- A text whose first character has a property does not begin with one that lacks it. -/
theorem head?_ne_of_all {p : Char → Bool} {s : List Char} {d : Char} (h : s.head?.all p = true) (other : p d = false) :
    s.head? ≠ some d := by
  intro head
  rw [head] at h
  exact absurd h (by simp [other])

/-- A word that is not raw is read as such. -/
theorem next?_word {c : Char} {name rest : List Char} (shape : hasIdentifierShape (c :: name) = true)
    (next : rest.head?.all endsWord = true) :
    next? c (name ++ rest) = some (Lexeme.word ⟨String.ofList (c :: name), false⟩, rest) := by
  obtain ⟨inside, first, others, same, starts⟩ := all_of_shape shape
  obtain ⟨rfl, rfl⟩ := List.cons.inj same
  have continues := isIdentContinue_of_startsWord starts
  -- the character behind the first one is part of the word or ends it, so it is no prefix mark
  have behind : (name ++ rest).head?.all (fun d => isIdentContinue d || endsWord d) = true := by
    cases name with
    | nil => cases rest <;> simp_all
    | cons d name =>
      have part : isIdentContinue d = true := by
        have both : isIdentContinue d = true ∧ name.all isIdentContinue = true := by simp_all
        exact both.1
      simp [part]
  have notRaw : (name ++ rest).head? ≠ some '"' := head?_ne_of_all behind (by decide)
  have notRaised : (name ++ rest).head? ≠ some '#' := head?_ne_of_all behind (by decide)
  have notString : c ≠ '"' := ne_of_isIdentContinue continues (by decide)
  have notLifetime : c ≠ '\'' := ne_of_isIdentContinue continues (by decide)
  have start : c = '_' ∨ isIdentStart c = true := by simpa [startsWord] using starts
  have taken : takeWord? (c :: (name ++ rest)) = some (c :: name, rest) := takeWord?_shape shape next
  simp only [next?, bracket?_of_isIdentContinue continues, notString, notRaw, notRaised, notLifetime,
    isDigit_of_startsWord starts, start, taken, and_false, if_false, if_true, Bool.false_eq_true, Option.map_some]

/-- A raw word is read as such. -/
theorem next?_raised {name rest : List Char} (shape : hasIdentifierShape name = true)
    (raised : unraisable.contains (String.ofList name) = false) (next : rest.head?.all endsWord = true) :
    next? 'r' ('#' :: (name ++ rest)) = some (Lexeme.word ⟨String.ofList name, true⟩, rest) := by
  have taken : takeRaised? (name ++ rest) = some (name, rest) := by
    rw [takeRaised?, takeWord?_shape shape next, Option.filter_some, raised]
    rfl
  simp [next?, bracket?, taken]

/-- The name of a lifetime is read as such. -/
theorem next?_lifetime {name rest : List Char} (shape : hasIdentifierShape name = true)
    (next : rest.head?.all endsWord = true) :
    next? '\'' (name ++ rest) = some (Lexeme.lifetime (String.ofList name), rest) := by
  simp [next?, bracket?, takeWord?_shape shape next]

/-- An identifier is read as it is written, raw or not. -/
theorem reads_word {id : Identifier} (h : id.IsName) : Reads endsWord id.text.toList [Lexeme.word id] := by
  cases raw : id.raw with
  | true =>
    have text : id.text.toList = 'r' :: '#' :: id.name.toList := by
      simp [Identifier.text, raw]
    have whole : (⟨id.name, true⟩ : Identifier) = id := raw ▸ id.mk_name
    rw [text]
    refine Reads.single (by decide) (fun rest next => ?_)
    have found := next?_raised h.shape (by simpa using h.raised raw) next
    rwa [String.ofList_toList, whole] at found
  | false =>
    have text : id.text.toList = id.name.toList := by
      simp [Identifier.text, raw]
    have whole : (⟨id.name, false⟩ : Identifier) = id := raw ▸ id.mk_name
    obtain ⟨-, c, others, same, starts⟩ := all_of_shape h.shape
    have shape : hasIdentifierShape (c :: others) = true := same ▸ h.shape
    rw [text, same]
    have continues := isIdentContinue_of_startsWord starts
    refine Reads.single (isSpace_of_isIdentContinue continues) (fun rest next => ?_)
    rw [next?_word shape next, ← same, String.ofList_toList, whole]

/-- A quote and a name read as a lifetime. -/
theorem reads_lifetime {name : String} (shape : hasIdentifierShape name.toList = true) :
    Reads endsWord ('\'' :: name.toList) [Lexeme.lifetime name] := by
  refine Reads.single (by decide) (fun rest next => ?_)
  rw [next?_lifetime shape next, String.ofList_toList]

/-! ## §4. Literals. -/

/-- What may follow a literal directly. -/
def endsLiteral (c : Char) : Bool :=
  !isIdentContinue c && c != '.'

/-- White space may follow words and literals. -/
theorem ends_of_isSpace {c : Char} (h : isSpace c = true) : endsWord c = true ∧ endsLiteral c = true := by
  have outside : isIdentContinue c = false := by
    rw [Bool.eq_false_iff]
    intro inside
    rw [isSpace_of_isIdentContinue inside] at h
    cases h
  have other : ∀ d, isSpace d = false → c ≠ d := by
    rintro d visible rfl
    rw [h] at visible
    cases visible
  constructor
  · simp [endsWord, outside, isPrefixMark, other '"' (by decide), other '\'' (by decide), other '#' (by decide)]
  · simp [endsLiteral, outside, other '.' (by decide)]

/-- Digits are read as a number, up to the first character that may follow a literal. -/
theorem takeNumber?_digits {digits rest : List Char} (inside : digits.all isIdentContinue = true)
    (next : rest.head?.all endsLiteral = true) : takeNumber? (digits ++ rest) = some (digits, rest) := by
  have stop : rest.head?.all (fun c => !isIdentContinue c) = true ∧ rest.head? ≠ some '.' := by
    cases head : rest.head? with
    | none => exact ⟨rfl, by simp⟩
    | some c => simpa [endsLiteral, head] using next
  obtain ⟨taken, left⟩ := takeWhile_stop inside stop.1
  simp [takeNumber?, taken, left, stop.2]

/-- **Numbers** read as one literal. -/
theorem reads_number (n : Nat) : Reads endsLiteral (toString n).toList [Lexeme.literal (toString n)] := by
  have written : (toString n).toList = Nat.toDigits 10 n := by rw [Nat.toString_eq_repr, Nat.toList_repr]
  have digits : ∀ c ∈ (toString n).toList, c.isDigit = true := by
    intro c mem
    exact Nat.isDigit_of_mem_toDigits (by decide) (by decide) (written ▸ mem)
  obtain ⟨c, others, same⟩ := List.exists_cons_of_ne_nil (written ▸ Nat.toDigits_ne_nil : (toString n).toList ≠ [])
  rw [same] at digits ⊢
  have digit : c.isDigit = true := digits c (by simp)
  have inside : others.all isIdentContinue = true := by
    rw [List.all_eq_true]
    exact fun d mem => isIdentContinue_of_isDigit (digits d (by simp [mem]))
  have continues := isIdentContinue_of_isDigit digit
  -- the other kinds of lexemes are excluded by the first digit
  refine Reads.single (isSpace_of_isIdentContinue continues) (fun rest next => ?_)
  have notString : c ≠ '"' := ne_of_isIdentContinue continues (by decide)
  have notLifetime : c ≠ '\'' := ne_of_isIdentContinue continues (by decide)
  have notRaw : c ≠ 'r' := by
    rintro rfl
    cases digit
  have text : String.ofList (c :: others) = toString n := by rw [← same, String.ofList_toList]
  simp [next?, bracket?_of_isIdentContinue continues, notString, notRaw, notLifetime, digit,
    takeNumber?_digits inside next, ← text]

/-- Inside a string literal the text is taken as it stands. -/
def Passes (piece : List Char) : Prop :=
  ∀ tail : List Char, takeString? (piece ++ tail) = (takeString? tail).map (fun taken => (piece ++ taken.1, taken.2))

/-- Two pieces of a string literal, one behind the other. -/
theorem Passes.append {a b : List Char} (first : Passes a) (second : Passes b) : Passes (a ++ b) := by
  intro tail
  rw [List.append_assoc, first, second, Option.map_map]
  congr 1
  funext taken
  simp

/-- A character other than a quote or a backslash is taken as it stands. -/
theorem passes_plain {c : Char} (quote : c ≠ '"') (backslash : c ≠ '\\') : Passes [c] := by
  intro tail
  rw [List.singleton_append, takeString?.eq_def]
  simp [quote, backslash]

/-- A character behind a backslash is taken with it. -/
theorem passes_escape (c : Char) : Passes ['\\', c] := by
  intro tail
  rw [List.cons_append, List.singleton_append, takeString?.eq_def]
  simp

/-- Letters and digits are taken as they stand, as in the number of an escaped character. -/
theorem passes_digits {digits : List Char} (h : ∀ c ∈ digits, c.isAlphanum = true) : Passes digits := by
  induction digits with
  | nil => intro tail; simp
  | cons c digits ih =>
    have first : c.isAlphanum = true := h c (by simp)
    have others : Passes digits := ih (fun d mem => h d (by simp [mem]))
    refine Passes.append (a := [c]) (passes_plain ?_ ?_) others
    · rintro rfl; cases first
    · rintro rfl; cases first

/-- An escaped character is taken as it stands, however it was escaped. -/
theorem passes_quoted {c : Char} {piece : List Char} (h : QuotedAs c piece) : Passes piece := by
  cases h with
  | escape => exact passes_escape _
  | code =>
    have digits : Passes (hexDigits c.toNat) := passes_digits (fun _ mem => isAlphanum_of_mem_hexDigits mem)
    have opened : Passes ['\\', 'u', '\x7b'] := (passes_escape 'u').append (passes_plain (by decide) (by decide))
    exact opened.append (digits.append (passes_plain (by decide) (by decide)))
  | plain quote backslash => exact passes_plain quote backslash

/-- The body of a string literal is taken as it stands. -/
theorem passes_literalBody (s : List Char) : Passes (literalBody s) := by
  induction s with
  | nil => intro tail; simp [literalBody]
  | cons c rest ih =>
    refine Passes.append ?_ ih
    split
    · exact (passes_escape 'x').append (passes_digits (List.all_eq_true.1 (by decide)))
    · exact passes_quoted (quotedAs_quoteChar c)

/-- The first quote that is not escaped ends the literal. -/
theorem takeString?_closing (rest : List Char) : takeString? ('"' :: rest) = some (['"'], rest) := by
  rw [takeString?.eq_def]
  rfl

/-- In a raw literal the first quote is the end. -/
theorem takeRaw?_closing {body : List Char} (rest : List Char) (h : body.contains '"' = false) :
    takeRaw? (body ++ '"' :: rest) = some (body ++ ['"'], rest) := by
  induction body with
  | nil => rw [List.nil_append, takeRaw?.eq_def]; rfl
  | cons c body ih =>
    obtain ⟨first, others⟩ : ¬ '"' = c ∧ body.contains '"' = false := by simpa using h
    rw [List.cons_append, takeRaw?.eq_def]
    simp [Ne.symm first, ih others]

/-- A string literal without suffix is what has been taken of it. -/
theorem literalOf_stop {start body rest : List Char} (next : rest.head?.all endsLiteral = true) :
    literalOf start (body, rest) = (Lexeme.literal (String.ofList (start ++ body)), rest) := by
  have stop : rest.head?.all (fun c => !isIdentContinue c) = true := by
    cases head : rest.head? with
    | none => rfl
    | some c =>
      have both : isIdentContinue c = false ∧ c ≠ '.' := by simpa [endsLiteral, head] using next
      simp [both.1]
  obtain ⟨taken, left⟩ := takeWhile_stop (s := []) rfl stop
  simp only [literalOf]
  rw [show rest.takeWhile isIdentContinue = [] from taken, show rest.dropWhile isIdentContinue = rest from left,
    List.append_nil]

/-- **String literals** read as one literal, whatever the text is. -/
theorem reads_stringLiteral (s : String) :
    Reads endsLiteral (stringLiteral s).toList [Lexeme.literal (stringLiteral s)] := by
  have text : (stringLiteral s).toList = '"' :: (literalBody s.toList ++ ['"']) := by simp [stringLiteral]
  rw [text]
  refine Reads.single (by decide) (fun rest next => ?_)
  have taken : takeString? (literalBody s.toList ++ ['"'] ++ rest) = some (literalBody s.toList ++ ['"'], rest) := by
    rw [List.append_assoc, passes_literalBody, List.singleton_append, takeString?_closing]
    rfl
  have whole : String.ofList ('"' :: (literalBody s.toList ++ ['"'])) = stringLiteral s := rfl
  have plain : bracket? '"' = none := rfl
  simp only [next?, plain, if_true, taken, Option.map_some, literalOf_stop next, List.singleton_append, whole]

/-- **Raw literals** read as one literal if no quote stands in them. -/
theorem reads_rawLiteral {body : String} (h : body.toList.contains '"' = false) :
    Reads endsLiteral ("r\"" ++ body ++ "\"").toList [Lexeme.literal ("r\"" ++ body ++ "\"")] := by
  have text : ("r\"" ++ body ++ "\"").toList = 'r' :: '"' :: (body.toList ++ ['"']) := by simp
  have whole : String.ofList ('r' :: '"' :: (body.toList ++ ['"'])) = "r\"" ++ body ++ "\"" := by
    rw [← text, String.ofList_toList]
  rw [text]
  refine Reads.single (by decide) (fun rest next => ?_)
  have taken := takeRaw?_closing rest h
  simp [next?, bracket?, taken, literalOf_stop next, ← whole]

/-! ## §5. Brackets and operators. -/

/-- A bracket reads as itself, whatever follows. -/
theorem reads_bracket {c : Char} {l : Lexeme} (h : bracket? c = some l) : Reads (fun _ => true) [c] [l] := by
  have visible : isSpace c = false := by
    unfold bracket? at h
    split at h
    case h_7 => cases h
    all_goals decide
  refine Reads.single visible (fun rest _ => ?_)
  simp [next?, h]

/-- Whether the signs with the character behind them are the beginning of an operator or a comment. -/
def lengthens (signs : List Char) (c : Char) : Bool :=
  (['/', '/'] :: ['/', '*'] :: operators).any ((signs ++ [c]).isPrefixOf ·)

/-- What stands at the start of `signs ++ rest` stands at the start of `signs`, unless `rest` lengthens them. -/
theorem prefix_of_ends {signs rest form : List Char} (mem : form ∈ ['/', '/'] :: ['/', '*'] :: operators)
    (next : rest.head?.all (fun c => !lengthens signs c) = true) (h : form <+: signs ++ rest) : form <+: signs := by
  rcases List.prefix_or_prefix_of_prefix h (List.prefix_append signs rest) with inside | ⟨more, rfl⟩
  · exact inside
  · cases more with
    | nil => simp
    | cons c more =>
      obtain ⟨behind, same⟩ := List.prefix_append_right_inj signs |>.1 h
      have head : rest.head? = some c := by rw [← same]; rfl
      have longer : lengthens signs c = true :=
        List.any_eq_true.2 ⟨_, mem, List.isPrefixOf_iff_prefix.2 ⟨more, by simp⟩⟩
      simp [head, longer] at next

/-- The operators are listed with the longest first, so that the first match is the longest one. -/
theorem sorted_operators : operators.Pairwise (fun a b => b.length ≤ a.length) := by
  decide

/-- The first operator in the list that begins the text is the one that stands there. -/
theorem find?_operator {signs rest : List Char} (mem : signs ∈ operators)
    (next : rest.head?.all (fun c => !lengthens signs c) = true) :
    operators.find? (·.isPrefixOf (signs ++ rest)) = some signs := by
  have here : signs.isPrefixOf (signs ++ rest) = true := by simp
  obtain ⟨form, found⟩ : ∃ form, operators.find? (·.isPrefixOf (signs ++ rest)) = some form := by
    rw [← Option.isSome_iff_exists, List.find?_isSome]
    exact ⟨signs, mem, here⟩
  obtain ⟨fits, before, after, split, shorter⟩ := List.find?_eq_some_iff_append.1 found
  have known : form ∈ operators := List.mem_of_find?_eq_some found
  have inside : form <+: signs := prefix_of_ends (by simp [known]) next (by simpa using fits)
  -- the table is sorted, so an earlier form is no shorter, and the signs fit
  have order := sorted_operators
  rw [split] at mem order
  rcases List.mem_append.1 mem with early | late
  · have other : (!signs.isPrefixOf (signs ++ rest)) = true := shorter signs early
    rw [here] at other
    cases other
  · rcases List.mem_cons.1 late with rfl | late
    · exact found
    · have sorted := (List.pairwise_cons.1 (List.pairwise_append.1 order).2.1).1 signs late
      rw [found, inside.eq_of_length (by have := inside.length_le; omega)]

/-- A sign that operators begin with: it begins no other lexeme. -/
def isOperatorStart (c : Char) : Bool :=
  !isSpace c && !isIdentContinue c && (bracket? c).isNone && c != '"' && c != '\''

/-- Every operator begins with a sign that begins no other lexeme. -/
theorem starts_operators : (operators.all fun signs => signs.head?.any isOperatorStart) = true := by
  decide

/-- Behind such a sign, what comes next is an operator. -/
theorem next?_operator {c : Char} {rest : List Char} (start : isOperatorStart c = true) :
    next? c rest = takeOperator? (c :: rest) := by
  simp only [isOperatorStart, Bool.and_eq_true, Bool.not_eq_true', Option.isNone_iff_eq_none, bne_iff_ne] at start
  obtain ⟨⟨⟨⟨visible, outside⟩, noBracket⟩, notString⟩, notLifetime⟩ := start
  have notRaw : c ≠ 'r' := (ne_of_isIdentContinue (by decide) outside).symm
  have notDigit : c.isDigit = false := by
    rw [Bool.eq_false_iff]
    intro digit
    rw [isIdentContinue_of_isDigit digit] at outside
    cases outside
  have notWord : ¬ (c = '_' ∨ isIdentStart c = true) := by
    intro word
    have starts : startsWord c = true := by simpa [startsWord] using word
    rw [isIdentContinue_of_startsWord starts] at outside
    cases outside
  simp only [next?, noBracket, notString, notRaw, notLifetime, notDigit, notWord, false_and, if_false,
    Bool.false_eq_true]

/-- No comment begins where an operator stands. -/
theorem takeOperator?_operator {signs rest : List Char} (mem : signs ∈ operators)
    (next : rest.head?.all (fun c => !lengthens signs c) = true) :
    takeOperator? (signs ++ rest) = some (Lexeme.operator signs, rest) := by
  have comments : ∀ signs ∈ operators, ¬ ['/', '/'] <+: signs ∧ ¬ ['/', '*'] <+: signs := by decide
  have line : ['/', '/'].isPrefixOf (signs ++ rest) = false := by
    rw [Bool.eq_false_iff]
    intro comment
    exact (comments signs mem).1 (prefix_of_ends (by simp) next (List.isPrefixOf_iff_prefix.1 comment))
  have block : ['/', '*'].isPrefixOf (signs ++ rest) = false := by
    rw [Bool.eq_false_iff]
    intro comment
    exact (comments signs mem).2 (prefix_of_ends (by simp) next (List.isPrefixOf_iff_prefix.1 comment))
  simp [takeOperator?, line, block, find?_operator mem next]

/-- **Operators** read as one lexeme unless the next character makes a longer one. -/
theorem reads_operator {signs : List Char} (mem : signs ∈ operators) :
    Reads (fun c => !lengthens signs c) signs [Lexeme.operator signs] := by
  obtain ⟨c, more, rfl⟩ := List.exists_cons_of_ne_nil (operator_ne_nil mem)
  have start : isOperatorStart c = true := by simpa using List.all_eq_true.1 starts_operators _ mem
  have visible : isSpace c = false := by
    simp only [isOperatorStart, Bool.and_eq_true, Bool.not_eq_true'] at start
    exact start.1.1.1.1
  refine Reads.single visible (fun rest next => ?_)
  rw [next?_operator start, ← List.cons_append, takeOperator?_operator mem next]

end ScriptBridge.Token

import ScriptBridge.Proofs.Token.Reading
import ScriptBridge.Token.Layout

/-!
# ScriptBridge.Proofs.Token.Layout

Laying out a stream and reading the text gives back the lexemes of the stream.

The mode of the page is all that has to be known about the tokens before: `Mode.admits` says which characters may
come next without a gap.  `Fits before stream after` holds of the streams that can be written in the mode `before`
without fusing or splitting anything, and leave the mode `after`; it has one rule for each form of token.

Main results:
  * `Fits.written` — a page that reads as `ls` reads as `ls` and the lexemes of the stream, once the stream has been
    written on it;
  * `Fits.read?_layout` — the same for a whole text.
-/

namespace ScriptBridge.Token

open ScriptBridge.Text Lexeme

/-! ## §1. What may come next. -/

/-- A bracket that ends a group. -/
def isClosing (c : Char) : Bool :=
  c == ')' || c == ']' || c == '\x7d'

namespace Mode

/-- The characters that can stand right behind a page in the given mode. -/
def admits (mode : Mode) (c : Char) : Bool :=
  match mode with
  | start | closed | scope => true
  | spaced => isSpace c || c == ';' || c == ',' || isClosing c
  | named => endsWord c
  | joined => c != '&' && c != '=' && c != '.'
  | hash => c != '='

/-- The end of a group can stand anywhere. -/
theorem admits_closing (mode : Mode) {c : Char} (h : isClosing c = true) : mode.admits c = true := by
  have known : c = ')' ∨ c = ']' ∨ c = '\x7d' := by simpa [isClosing, or_assoc] using h
  rcases known with rfl | rfl | rfl <;> cases mode <;> decide

/-- The mode after an operator. -/
def afterOperator (mode : Mode) : List Char → Mode
  | [] => mode
  | [c] => mode.afterSign c false
  | c :: rest => (mode.afterSign c true).afterOperator rest

/-- Whether the signs of an operator come out side by side. -/
def connects (mode : Mode) : List Char → Bool
  | c :: d :: rest =>
    !mode.endsLine c && (mode.afterSign c true).gapBeforeSign d == .nothing &&
      (mode.afterSign c true).connects (d :: rest)
  | _ => true

/-- Whether nothing that may come next lengthens the signs. -/
def keepsApart (mode : Mode) (signs : List Char) : Bool :=
  operators.flatten.all (fun c => !mode.admits c || !lengthens signs c)

/-- Whether a sign can be written. -/
def takesSign (mode : Mode) (c : Char) : Bool :=
  mode.gapBeforeSign c != .nothing || mode.admits c

/-- Whether an operator can be written without being split and without fusing with what is around it. -/
def takesOperator (mode : Mode) (signs : List Char) : Bool :=
  operators.contains signs && signs.head?.any mode.takesSign && mode.connects signs &&
    (mode.afterOperator signs).keepsApart signs

/-- Whether a lifetime can be written. -/
def takesLifetime (mode : Mode) : Bool :=
  mode.takesSign '\'' && !mode.endsLine '\'' && (mode.afterSign '\'' true).gapBeforeWord == .nothing

/-- The mode after a group. -/
def afterGroup (mode : Mode) : Delimiter → Mode
  | .brace => closed
  | .bracket => if mode = hash then start else spaced
  | .parenthesis | .invisible => spaced

/-- Only a sign that stands in operators lengthens others. -/
theorem lengthens_mem {signs : List Char} {c : Char} (h : lengthens signs c = true) : c ∈ operators.flatten := by
  obtain ⟨form, mem, fits⟩ := List.any_eq_true.1 h
  have inside : c ∈ form := (List.isPrefixOf_iff_prefix.1 fits).subset (by simp)
  have signs : (['/', '/'] :: ['/', '*'] :: operators).all (fun form => form.all operators.flatten.contains) = true := by
    decide
  exact List.contains_iff_mem.1 (List.all_eq_true.1 (List.all_eq_true.1 signs form mem) c inside)

/-- What the check of a mode says: no character that may come next lengthens the signs. -/
theorem keepsApart_spec {mode : Mode} {signs : List Char} (h : mode.keepsApart signs = true) {c : Char}
    (admitted : mode.admits c = true) : (!lengthens signs c) = true := by
  cases longer : lengthens signs c with
  | false => rfl
  | true =>
    have all := List.all_eq_true.1 h c (lengthens_mem longer)
    rw [admitted, longer] at all
    exact all

end Mode

/-! ## §2. Streams that can be written. -/

/-- A literal that is read as it stands. -/
structure IsLiteral (text : String) : Prop where
  reads : Reads endsLiteral text.toList [Lexeme.literal text]
  begins : text.toList.head?.any (fun c => c == '"' || isIdentContinue c) = true
  ends : text.toList.getLast?.all (fun c => !isSpace c) = true

/-- The stream can be written in the mode `before` and leaves the mode `after`. -/
inductive Fits : Mode → List Token → Mode → Prop
  | nil {mode : Mode} : Fits mode [] mode
  | word {before after : Mode} {id : Identifier} {rest : List Token} (name : id.IsName)
      (others : Fits .named rest after) : Fits before (.word id :: rest) after
  | literal {before after : Mode} {value : Literal} {rest : List Token} (form : IsLiteral value.text)
      (others : Fits .spaced rest after) : Fits before (.literal value :: rest) after
  | operator {before after : Mode} {signs : List Char} {rest : List Token} (takes : before.takesOperator signs = true)
      (others : Fits (before.afterOperator signs) rest after) : Fits before (Token.operator signs ++ rest) after
  | lifetime {before after : Mode} {name : String} {rest : List Token} (takes : before.takesLifetime = true)
      (shape : hasIdentifierShape name.toList = true) (others : Fits .named rest after) :
      Fits before (Token.lifetime name ++ rest) after
  | group {before within after : Mode} {delimiter : Delimiter} {inner rest : List Token}
      (visible : delimiter ≠ .invisible) (content : Fits .start inner within)
      (others : Fits (before.afterGroup delimiter) rest after) : Fits before (.group delimiter inner :: rest) after

/-- One stream behind another. -/
theorem Fits.append {before between after : Mode} {a b : List Token} (first : Fits before a between)
    (second : Fits between b after) : Fits before (a ++ b) after := by
  induction first with
  | nil => exact second
  | word name _ ih => exact .word name (ih second)
  | literal form _ ih => exact .literal form (ih second)
  | operator takes _ ih =>
    rw [List.append_assoc]
    exact .operator takes (ih second)
  | lifetime takes shape _ ih =>
    rw [List.append_assoc]
    exact .lifetime takes shape (ih second)
  | group visible content _ _ ih => exact .group visible content (ih second)

/-! ## §3. Texts that have been written. -/

/-- The text reads as `ls`: it is a text that does so and ends visibly, and then white space.  Without white space
the mode says what may come next. -/
def Written (text : List Char) (mode : Mode) (ls : List Lexeme) : Prop :=
  ∃ base white : List Char, text = base ++ white ∧ white.all isSpace = true ∧
    base.getLast?.all (fun c => !isSpace c) = true ∧
    Reads (fun c => isSpace c || (white.isEmpty && mode.admits c)) base ls

namespace Written

variable {text : List Char} {mode : Mode} {ls : List Lexeme}

theorem blank : Written [] mode [] :=
  ⟨[], [], rfl, rfl, rfl, Reads.nil⟩

/-- A written text is read as the lexemes that it holds. -/
theorem read?_eq (h : Written text mode ls) : read? text = some ls := by
  obtain ⟨base, white, rfl, blank, -, reads⟩ := h
  cases white with
  | nil => simpa using reads.whole
  | cons c white =>
    have spaced : Reads (fun _ => true) (base ++ c :: white) ls :=
      Reads.spaces (reads.mono (fun c h => by simp [h])) blank (by simp)
    exact spaced.whole

/-- White space may be added anywhere, and then anything may follow. -/
theorem white (h : Written text mode ls) {more : List Char} (blank : more.all isSpace = true) (nonempty : more ≠ [])
    (next : Mode) : Written (text ++ more) next ls := by
  obtain ⟨base, white, rfl, before, ends, reads⟩ := h
  refine ⟨base, white ++ more, List.append_assoc _ _ _, by simp [before, blank], ends, ?_⟩
  refine reads.mono (fun c admitted => ?_)
  have apart : (white ++ more).isEmpty = false := by simp [nonempty]
  rw [apart] at admitted
  simp only [Bool.false_and, Bool.or_false] at admitted
  simp [admitted]

/-- A text that is admitted is added to what has been written. -/
theorem more (h : Written text mode ls) {admits : Char → Bool} {s : List Char} {new : List Lexeme} {c : Char}
    (reads : Reads admits s new) (begins : s.head? = some c) (admitted : mode.admits c = true)
    (ends : s.getLast?.all (fun c => !isSpace c) = true) {next : Mode}
    (le : ∀ d, isSpace d = true ∨ next.admits d = true → admits d = true) : Written (text ++ s) next (ls ++ new) := by
  obtain ⟨base, white, rfl, blank, _, before⟩ := h
  have nonempty : s ≠ [] := by rintro rfl; cases begins
  refine ⟨base ++ white ++ s, [], by simp, rfl, ?_, ?_⟩
  · obtain ⟨last, same⟩ := Option.isSome_iff_exists.1 (List.getLast?_isSome.2 nonempty)
    rw [List.getLast?_append, same]
    rw [same] at ends
    exact ends
  have after : Reads (fun d => isSpace d || (([] : List Char).isEmpty && next.admits d)) s new :=
    reads.mono (fun d => by simpa using le d)
  -- with no white space between, the text itself has to be admitted
  cases white with
  | nil =>
    rw [List.append_nil]
    exact before.append after begins (by simp [admitted])
  | cons d white =>
    have apart : Reads mode.admits (base ++ d :: white) ls :=
      Reads.spaces (before.mono (fun c h => by simp [h])) blank (by simp)
    exact apart.append after begins admitted

end Written

/-! ## §4. Writing on a page. -/

namespace Page

@[simp] theorem text_put (page : Page) (s : List Char) : (page.put s).text = page.text ++ s := by
  simp [put, text]

@[simp] theorem text_become (page : Page) (mode : Mode) : (page.become mode).text = page.text := rfl

@[simp] theorem mode_become (page : Page) (mode : Mode) : (page.become mode).mode = mode := rfl

/-- The page keeps its last character in front. -/
theorem getLast?_text (page : Page) : page.text.getLast? = page.reversed.head? := by
  rw [text, List.getLast?_reverse]

/-- The spaces that are taken back all stand behind the last other character. -/
theorem text_trimSpaces {page : Page} {base white : List Char} (split : page.text = base ++ white)
    (ends : base.getLast? ≠ some ' ') : ∃ left, left <+: white ∧ page.trimSpaces.text = base ++ left := by
  -- the page keeps its text in reverse, so the end comes first
  have reversed : page.reversed = white.reverse ++ base.reverse := by
    rw [← List.reverse_append, ← split, text, List.reverse_reverse]
  have stays : base.reverse.dropWhile (· == ' ') = base.reverse := by
    cases same : base.reverse with
    | nil => rfl
    | cons c rest =>
      rw [List.getLast?_eq_head?_reverse, same] at ends
      exact List.dropWhile_cons_of_neg (by simpa using ends)
  have trimmed : page.trimSpaces.reversed = white.reverse.dropWhile (· == ' ') ++ base.reverse := by
    rw [trimSpaces, reversed, List.dropWhile_append, stays]
    split
    next none => rw [List.isEmpty_iff.1 none, List.nil_append]
    next => rfl
  refine ⟨(white.reverse.dropWhile (· == ' ')).reverse, ?_, ?_⟩
  · rw [← List.reverse_suffix, List.reverse_reverse]
    exact List.dropWhile_suffix _
  · rw [text, trimmed, List.reverse_append, List.reverse_reverse]

/-- A new line is a line break and the indentation of the level. -/
theorem text_newLine (page : Page) : page.newLine.text = page.text ++ '\n' :: List.replicate (4 * page.level) ' ' := by
  simp [newLine, indent, put, text]

end Page

/-- Indentation is white space. -/
theorem isSpace_indentation (n : Nat) : (List.replicate n ' ').all isSpace = true := by
  rw [List.all_eq_true]
  intro c mem
  rw [List.eq_of_mem_replicate mem]
  decide

namespace Written

variable {page : Page} {mode : Mode} {ls : List Lexeme}

/-- A new line adds no lexeme, and any mode may follow it. -/
theorem newLine (h : Written page.text mode ls) (next : Mode) : Written page.newLine.text next ls := by
  rw [Page.text_newLine]
  refine h.white ?_ (by simp) next
  rw [List.all_cons, isSpace_indentation]
  decide

/-- Indentation adds no lexeme. -/
theorem indent (h : Written page.text mode ls) : Written page.indent.text mode ls := by
  rw [Page.indent, Page.text_put]
  cases same : List.replicate (4 * page.level) ' ' with
  | nil => rwa [List.append_nil]
  | cons c more => exact h.white (same ▸ isSpace_indentation _) (by simp) mode

/-- A text is written behind a gap. -/
theorem behindGap (h : Written page.text page.mode ls) {admits : Char → Bool} {s : List Char} {new : List Lexeme}
    {c : Char} {gap : Gap} (reads : Reads admits s new) (begins : s.head? = some c)
    (admitted : gap = .nothing → page.mode.admits c = true)
    (ends : s.getLast?.all (fun c => !isSpace c) = true) {next : Mode}
    (le : ∀ d, isSpace d = true ∨ next.admits d = true → admits d = true) :
    Written ((page.leave gap).put s).text next (ls ++ new) := by
  rw [Page.text_put]
  cases gap with
  | nothing => exact h.more reads begins (admitted rfl) ends le
  | space =>
    have apart : Written (page.leave .space).text .start ls := by
      rw [Page.leave, Page.text_put]
      exact h.white (by decide) (by simp) .start
    exact apart.more reads begins rfl ends le
  | line => exact (h.newLine .start).more reads begins rfl ends le

/-- Taking back the spaces at the end and ending the line leaves white space at the end. -/
theorem endLine (h : Written page.text mode ls) (next : Mode) : Written page.trimSpaces.endLine.text next ls := by
  obtain ⟨base, white, split, blank, ends, reads⟩ := h
  have visible : ∀ {c : Char}, isSpace c = true → base.getLast? ≠ some c := by
    intro c space last
    rw [last, Option.all_some, space] at ends
    cases ends
  -- the spaces taken back are all from the white space
  obtain ⟨kept, fewer, text⟩ := Page.text_trimSpaces split (visible (by decide))
  have still : kept.all isSpace = true :=
    List.all_eq_true.2 (fun c mem => List.all_eq_true.1 blank c (fewer.subset mem))
  obtain ⟨left, same, leftBlank, nonempty⟩ : ∃ left : List Char, page.trimSpaces.endLine.text = base ++ left ∧
      left.all isSpace = true ∧ left ≠ [] := by
    unfold Page.endLine
    split
    next line =>
      refine ⟨kept, text, still, ?_⟩
      intro none
      rw [none, List.append_nil] at text
      rw [← Page.getLast?_text, text] at line
      exact absurd line (visible (by decide))
    next =>
      refine ⟨kept ++ ['\n'], by rw [Page.text_put, text, List.append_assoc], ?_, by simp⟩
      rw [List.all_append, still]
      decide
  refine ⟨base, left, same, leftBlank, ends, reads.mono (fun c admitted => ?_)⟩
  have apart : left.isEmpty = false := by simp [nonempty]
  simp only [apart, Bool.false_and, Bool.or_false] at admitted
  simp [admitted]

end Written

/-! ## §5. Writing single tokens. -/

section

variable {page : Page} {ls : List Lexeme}

/-- Words and literals can stand wherever they get no gap. -/
theorem Mode.admits_word {mode : Mode} {c : Char} (begins : (c == '"' || isIdentContinue c) = true)
    (none : mode.gapBeforeWord = .nothing) : mode.admits c = true := by
  have other : ∀ d, isIdentContinue d = false → d ≠ '"' → c ≠ d := by
    rintro d outside quote rfl
    simp [outside, quote] at begins
  cases mode with
  | start | scope => rfl
  | joined =>
    simp [Mode.admits, other '&' (by decide) (by decide), other '=' (by decide) (by decide),
      other '.' (by decide) (by decide)]
  | hash => simp [Mode.admits, other '=' (by decide) (by decide)]
  | spaced | named | closed => cases none

/-- The characters of a word are visible, and it begins as words do. -/
theorem Identifier.IsName.visible {id : Identifier} (name : id.IsName) :
    id.text.toList.head?.any isIdentContinue = true ∧ ∀ c ∈ id.text.toList, isSpace c = false := by
  obtain ⟨inside, c, others, same, starts⟩ := all_of_shape name.shape
  have visible : ∀ c ∈ id.name.toList, isSpace c = false :=
    fun c mem => isSpace_of_isIdentContinue (List.all_eq_true.1 inside c mem)
  cases raw : id.raw with
  | false =>
    have written : id.text.toList = id.name.toList := by simp [Identifier.text, raw]
    have begins : id.name.toList.head? = some c := by rw [same]; rfl
    rw [written]
    exact ⟨by simpa [begins] using isIdentContinue_of_startsWord starts, visible⟩
  | true =>
    have written : id.text.toList = 'r' :: '#' :: id.name.toList := by simp [Identifier.text, raw]
    rw [written]
    refine ⟨rfl, fun d mem => ?_⟩
    rcases List.mem_cons.1 mem with rfl | mem
    · decide
    · rcases List.mem_cons.1 mem with rfl | mem
      · decide
      · exact visible d mem

/-- A text without white space ends visibly. -/
theorem getLast?_visible {s : List Char} (h : ∀ c ∈ s, isSpace c = false) :
    s.getLast?.all (fun c => !isSpace c) = true := by
  cases last : s.getLast? with
  | none => rfl
  | some c => simpa using h c (List.mem_of_getLast? last)

/-- **Words.** An identifier adds one lexeme. -/
theorem Written.word (h : Written page.text page.mode ls) {id : Identifier} (name : id.IsName) :
    Written (page.word id.text .named).text .named (ls ++ [Lexeme.word id]) := by
  obtain ⟨c, begins, starts⟩ := (Option.any_eq_true _ _).1 name.visible.1
  refine h.behindGap (reads_word name) begins (Mode.admits_word (by simp [starts])) (getLast?_visible name.visible.2) ?_
  rintro d (space | next)
  · exact (ends_of_isSpace space).1
  · exact next

/-- **Literals.** A literal adds one lexeme. -/
theorem Written.literal (h : Written page.text page.mode ls) {value : Literal} (form : IsLiteral value.text) :
    Written (page.word value.text .spaced).text .spaced (ls ++ [Lexeme.literal value.text]) := by
  obtain ⟨c, begins, starts⟩ := (Option.any_eq_true _ _).1 form.begins
  refine h.behindGap form.reads begins (Mode.admits_word starts) form.ends ?_
  rintro d (space | next)
  · exact (ends_of_isSpace space).2
  · have known : isSpace d = true ∨ d = ';' ∨ d = ',' ∨ d = ')' ∨ d = ']' ∨ d = '\x7d' := by
      simpa [Mode.admits, isClosing, or_assoc] using next
    rcases known with space | rfl | rfl | rfl | rfl | rfl
    · exact (ends_of_isSpace space).2
    all_goals decide

end

/-! ## §6. Operators. -/

/-- The signs of an operator are read in one run. -/
theorem afterRun_operator {signs : List Char} (h : signs ≠ []) (run : List Char) (rest : List Token) :
    afterRun run (Token.operator signs ++ rest) = Lexeme.operator (run ++ signs) :: afterRun [] rest := by
  fun_induction Token.operator signs generalizing run with
  | case1 => exact absurd rfl h
  | case2 c => rw [List.singleton_append, mark, afterRun]
  | case3 c others more ih =>
    rw [List.cons_append, afterRun, ih more, List.append_assoc]
    rfl

/-- A sign is written behind its gap, and a line may end behind it. -/
theorem sign_text (page : Page) (c : Char) (joint : Bool) :
    (page.sign c joint).mode = page.mode.afterSign c joint ∧
      ∃ white : List Char, white.all isSpace = true ∧
        (page.sign c joint).text = ((page.leave (page.mode.gapBeforeSign c)).put [c]).text ++ white ∧
        (page.mode.endsLine c = false → white = []) := by
  refine ⟨rfl, ?_⟩
  unfold Page.sign
  cases ended : page.mode.endsLine c with
  | false => exact ⟨[], rfl, by simp, fun _ => rfl⟩
  | true =>
    refine ⟨_, ?_, Page.text_newLine _, fun other => by cases other⟩
    rw [List.all_cons, isSpace_indentation]
    decide

/-- The signs of an operator are written side by side behind one gap. -/
theorem tokens_operator {signs : List Char} {c : Char} (begins : signs.head? = some c) (page : Page)
    (connects : page.mode.connects signs = true) (rest : List Token) :
    ∃ after : Page, page.tokens (Token.operator signs ++ rest) = after.tokens rest ∧
      after.mode = page.mode.afterOperator signs ∧
      ∃ white : List Char, white.all isSpace = true ∧
        after.text = ((page.leave (page.mode.gapBeforeSign c)).put signs).text ++ white ∧
        (white = [] ∨ after.mode = .start) := by
  -- all signs but the last are joined to the next, so the induction is over the signs
  fun_induction Token.operator signs generalizing page c with
  | case1 => cases begins
  | case2 d =>
    obtain rfl : d = c := by simpa using begins
    obtain ⟨mode, white, blank, text, none⟩ := sign_text page d false
    refine ⟨page.sign d false, rfl, mode, white, blank, text, ?_⟩
    cases ended : page.mode.endsLine d with
    | false => exact .inl (none ended)
    | true =>
      right
      rw [mode]
      simp [Mode.afterSign, ended]
  | case3 d others more ih =>
    obtain rfl : d = c := by simpa using begins
    obtain ⟨e, others, rfl⟩ := List.exists_cons_of_ne_nil more
    obtain ⟨mode, white, blank, text, none⟩ := sign_text page d true
    simp only [Mode.connects, Bool.and_eq_true, Bool.not_eq_true', beq_iff_eq] at connects
    obtain ⟨⟨stays, close⟩, inner⟩ := connects
    obtain ⟨after, same, final, tail, tailBlank, tailText, tailEnd⟩ :=
      ih rfl (page.sign d true) (by rw [mode]; exact inner)
    refine ⟨after, same, ?_, tail, tailBlank, ?_, tailEnd⟩
    · rw [final, mode]
      rfl
    · rw [tailText, mode, close, Page.leave, Page.text_put, text, none stays, List.append_nil]
      simp

section

variable {page : Page} {ls : List Lexeme}

/-- **Operators.** The signs of an operator add one lexeme if the mode takes it. -/
theorem Written.operator (h : Written page.text page.mode ls) {signs : List Char}
    (takes : page.mode.takesOperator signs = true) (rest : List Token) :
    ∃ after : Page, page.tokens (Token.operator signs ++ rest) = after.tokens rest ∧
      after.mode = page.mode.afterOperator signs ∧
      Written after.text after.mode (ls ++ [Lexeme.operator signs]) := by
  simp only [Mode.takesOperator, Bool.and_eq_true, List.contains_iff_mem] at takes
  obtain ⟨⟨⟨known, first⟩, connects⟩, apart⟩ := takes
  obtain ⟨c, begins, taken⟩ := (Option.any_eq_true _ _).1 first
  obtain ⟨after, same, mode, white, blank, text, ended⟩ := tokens_operator begins page connects rest
  refine ⟨after, same, mode, ?_⟩
  have admitted : page.mode.gapBeforeSign c = .nothing → page.mode.admits c = true := by
    intro none
    simpa [Mode.takesSign, none] using taken
  have ends : signs.getLast?.all (fun c => !isSpace c) = true := by
    -- operators are listed, so this is checked for each of them
    have visible : ∀ signs ∈ operators, signs.getLast?.all (fun c => !isSpace c) = true := by decide
    exact visible signs known
  have le : ∀ d, isSpace d = true ∨ (page.mode.afterOperator signs).admits d = true →
      (!lengthens signs d) = true := by
    rintro d (space | next)
    · rw [Bool.not_eq_true', Bool.eq_false_iff]
      intro longer
      have visible : operators.flatten.all (fun d => !isSpace d) = true := by decide
      have here := List.all_eq_true.1 visible d (Mode.lengthens_mem longer)
      rw [space] at here
      cases here
    · exact Mode.keepsApart_spec apart next
  have plain := h.behindGap (reads_operator known) begins admitted ends le
  rw [text, mode]
  cases white with
  | nil => simpa using plain
  | cons d white =>
    rcases ended with none | start
    · cases none
    · exact plain.white blank (by simp) _

/-- **Lifetimes.** A quote and its name add one lexeme. -/
theorem Written.lifetime (h : Written page.text page.mode ls) {name : String}
    (takes : page.mode.takesLifetime = true) (shape : hasIdentifierShape name.toList = true) (rest : List Token) :
    ∃ after : Page, page.tokens (Token.lifetime name ++ rest) = after.tokens rest ∧ after.mode = .named ∧
      Written after.text .named (ls ++ [Lexeme.lifetime name]) := by
  simp only [Mode.takesLifetime, Bool.and_eq_true, Bool.not_eq_true', beq_iff_eq] at takes
  obtain ⟨⟨taken, stays⟩, close⟩ := takes
  obtain ⟨mode, white, -, text, none⟩ := sign_text page '\'' true
  refine ⟨(page.sign '\'' true).word name .named, ?_, rfl, ?_⟩
  · show ((page.sign '\'' true).word (Identifier.text ⟨name, false⟩) .named).tokens rest = _
    rw [Identifier.text_mk (isFirm_of_shape shape)]
  have admitted : page.mode.gapBeforeSign '\'' = .nothing → page.mode.admits '\'' = true := by
    intro nothing
    simpa [Mode.takesSign, nothing] using taken
  have written : ((page.sign '\'' true).word name .named).text =
      ((page.leave (page.mode.gapBeforeSign '\'')).put ('\'' :: name.toList)).text := by
    unfold Page.word
    rw [mode, close, Page.leave, Page.text_become, Page.text_put, text, none stays, List.append_nil]
    simp
  rw [written]
  refine h.behindGap (reads_lifetime shape) rfl admitted ?_ ?_
  · refine getLast?_visible (fun c mem => ?_)
    rcases List.mem_cons.1 mem with rfl | mem
    · decide
    · exact isSpace_of_isIdentContinue (List.all_eq_true.1 (all_of_shape shape).1 c mem)
  · rintro d (space | next)
    · exact (ends_of_isSpace space).1
    · exact next

end

/-! ## §7. Groups. -/

/-- The opening bracket of a printed group. -/
def openingSign : Delimiter → Char
  | .brace => '\x7b'
  | .bracket => '['
  | .parenthesis | .invisible => '('

/-- The closing bracket of a printed group. -/
def closingSign : Delimiter → Char
  | .brace => '\x7d'
  | .bracket => ']'
  | .parenthesis | .invisible => ')'

/-- Where a group gets no gap, its bracket may stand. -/
theorem Mode.admits_opening (mode : Mode) (delimiter : Delimiter)
    (none : mode.gapBeforeGroup delimiter = .nothing) : mode.admits (openingSign delimiter) = true := by
  cases mode <;> cases delimiter <;> first | decide | cases none

section

variable {page : Page} {ls : List Lexeme} {delimiter : Delimiter}

/-- The opening bracket of a group adds one lexeme. -/
theorem Written.opens (h : Written page.text page.mode ls) (visible : delimiter ≠ .invisible) (next : Mode) :
    Written ((page.leave (page.mode.gapBeforeGroup delimiter)).put [openingSign delimiter]).text next
      (ls ++ [opening delimiter]) := by
  have bracket : bracket? (openingSign delimiter) = some (opening delimiter) := by
    cases delimiter <;> first | rfl | exact absurd rfl visible
  have ends : [openingSign delimiter].getLast?.all (fun c => !isSpace c) = true := by
    cases delimiter <;> decide
  exact h.behindGap (reads_bracket bracket) rfl (Mode.admits_opening _ _) ends (fun _ _ => rfl)

/-- The closing bracket of a group adds one lexeme. -/
theorem Written.closes {text : List Char} {mode : Mode} (h : Written text mode ls)
    (visible : delimiter ≠ .invisible) (next : Mode) :
    Written (text ++ [closingSign delimiter]) next (ls ++ [closing delimiter]) := by
  have bracket : bracket? (closingSign delimiter) = some (closing delimiter) := by
    cases delimiter <;> first | rfl | exact absurd rfl visible
  have ends : [closingSign delimiter].getLast?.all (fun c => !isSpace c) = true := by
    cases delimiter <;> decide
  have closes : isClosing (closingSign delimiter) = true := by
    cases delimiter <;> decide
  exact h.more (reads_bracket bracket) rfl (mode.admits_closing closes) ends (fun _ _ => rfl)

/-- A group is written if its content can be written behind the opening bracket. -/
theorem Written.group (h : Written page.text page.mode ls) (visible : delimiter ≠ .invisible) {inner : List Token}
    (content : ∀ (opened : Page) (ls : List Lexeme), opened.mode = .start → Written opened.text opened.mode ls →
      Written (opened.tokens inner).text (opened.tokens inner).mode (ls ++ ofTokens inner)) :
    (page.token (.group delimiter inner)).mode = page.mode.afterGroup delimiter ∧
      Written (page.token (.group delimiter inner)).text (page.mode.afterGroup delimiter)
        (ls ++ between delimiter (ofTokens inner)) := by
  have all : ls ++ between delimiter (ofTokens inner) =
      ls ++ [opening delimiter] ++ ofTokens inner ++ [closing delimiter] := by
    simp [between, visible]
  rw [all]
  cases delimiter with
  | invisible => exact absurd rfl visible
  | parenthesis =>
    have filled := content (((page.leave (page.mode.gapBeforeGroup .parenthesis)).put ['(']).become .start) _ rfl
      (h.opens visible .start)
    rw [Page.token]
    refine ⟨rfl, ?_⟩
    rw [Page.text_become, Page.text_put]
    exact filled.closes visible _
  | bracket =>
    have filled := content (((page.leave (page.mode.gapBeforeGroup .bracket)).put ['[']).become .start) _ rfl
      (h.opens visible .start)
    have closed := fun next => filled.closes visible next
    simp only [Page.token]
    split
    next onHash =>
      -- the group is an attribute, behind which the line ends
      refine ⟨by simp [Mode.afterGroup, onHash], ?_⟩
      rw [Page.text_become]
      have bracketed := closed .start
      rw [← Page.text_put] at bracketed
      exact bracketed.newLine _
    next inLine =>
      refine ⟨by simp [Mode.afterGroup, inLine], ?_⟩
      rw [Page.text_become, Page.text_put]
      exact closed _
  | brace =>
    have opened : Written (((page.leave (page.mode.gapBeforeGroup .brace)).put ['\x7b']).atLevel (page.level + 1)).text
        .start (ls ++ [opening .brace]) := h.opens visible .start
    have filled := content ((((page.leave (page.mode.gapBeforeGroup .brace)).put ['\x7b']).atLevel
      (page.level + 1)).newLine.become .start) _ rfl (opened.newLine .start)
    have back : Written (Page.atLevel _ page.level).text _ _ := filled
    have ended := back.endLine .start
    rw [Page.token]
    refine ⟨rfl, ?_⟩
    rw [Page.text_become, Page.text_put]
    exact ended.indent.closes visible _

end

/-! ## §8. Whole streams. -/

/-- Writing a stream that fits adds its lexemes to what has been written. -/
theorem Fits.written {before after : Mode} {stream : List Token} (fits : Fits before stream after) :
    ∀ (page : Page) (ls : List Lexeme), page.mode = before → Written page.text page.mode ls →
      (page.tokens stream).mode = after ∧ Written (page.tokens stream).text after (ls ++ ofTokens stream) := by
  -- along the stream, with the mode that the page is in as an index
  induction fits with
  | nil =>
    rintro page ls rfl written
    refine ⟨rfl, ?_⟩
    have none : ls ++ ofTokens [] = ls := by simp [ofTokens, afterRun, ofRun]
    rwa [none]
  | @word _ _ id rest name _ ih =>
    rintro page ls rfl written
    have all : ls ++ ofTokens (.word id :: rest) = ls ++ [Lexeme.word id] ++ ofTokens rest := by
      simp [ofTokens, afterRun, ofWord, ofRun]
    rw [Page.tokens, Page.token, all]
    exact ih _ _ rfl (written.word name)
  | @literal _ _ value rest form _ ih =>
    rintro page ls rfl written
    have all : ls ++ ofTokens (.literal value :: rest) = ls ++ [Lexeme.literal value.text] ++ ofTokens rest := by
      simp [ofTokens, afterRun, ofRun]
    rw [Page.tokens, Page.token, all]
    exact ih _ _ rfl (written.literal form)
  | @operator _ _ signs rest takes _ ih =>
    rintro page ls rfl written
    have nonempty : signs ≠ [] := by
      rintro rfl
      simp [Mode.takesOperator] at takes
    have all : ls ++ ofTokens (Token.operator signs ++ rest) = ls ++ [Lexeme.operator signs] ++ ofTokens rest := by
      simp [ofTokens, afterRun_operator nonempty]
    obtain ⟨after, same, mode, added⟩ := written.operator takes rest
    rw [same, all]
    exact ih after _ mode added
  | @lifetime _ _ name rest takes shape _ ih =>
    rintro page ls rfl written
    have all : ls ++ ofTokens (Token.lifetime name ++ rest) = ls ++ [Lexeme.lifetime name] ++ ofTokens rest := by
      simp [ofTokens, Token.lifetime, fixed, afterRun, ofWord, Identifier.text_mk (isFirm_of_shape shape)]
    obtain ⟨after, same, mode, added⟩ := written.lifetime takes shape rest
    rw [same, all]
    exact ih after _ mode (mode ▸ added)
  | @group _ _ _ delimiter inner rest visible _ _ content ih =>
    rintro page ls rfl written
    have all : ls ++ ofTokens (.group delimiter inner :: rest) =
        ls ++ between delimiter (ofTokens inner) ++ ofTokens rest := by
      simp [ofTokens, afterRun, ofRun]
    obtain ⟨mode, added⟩ := written.group visible (fun opened ls start reads => by
      obtain ⟨final, filled⟩ := content opened ls start reads
      rwa [final])
    rw [Page.tokens, all]
    exact ih _ _ mode (mode ▸ added)

/-- The text of a stream that fits reads as the lexemes of the stream. -/
theorem Fits.read?_layout {after : Mode} {stream : List Token} (fits : Fits .start stream after) :
    read? (layout stream).toList = some (ofTokens stream) := by
  have written := (fits.written .blank [] rfl Written.blank).2.read?_eq
  rw [layout, String.toList_ofList]
  simpa using written

end ScriptBridge.Token

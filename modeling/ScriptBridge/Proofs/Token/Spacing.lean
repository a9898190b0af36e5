import Mathlib.Data.List.Chain
import ScriptBridge.Proofs.Token.Layout

/-!
# ScriptBridge.Proofs.Token.Spacing

What a laid-out text shows of a stream, whatever the stream is like.

`pieces` lists what is visible of a stream: its words, literals and signs, and the brackets of its groups.  A text
spaces them out if it is these pieces in their order, with nothing but spaces and line breaks in front of each of them
and behind the last one, and something between two words.  Unlike `Fits`, this asks nothing of the order of the tokens;
the pieces may fuse with each other, but no character is lost.  Spaces at the end of a line are taken back in front of
a closing brace, which is harmless because identifiers and literals never end in one (`Piece.isFirm`).

While a text is written, what is visible stays where it is, and only the white space at its end may change: `Shows`
says so of a page, and that the mode will keep two words apart.

Main results:
  * `Page.Shows.word`, `Page.Shows.sign`, `Adds.group` — what one token adds to a page;
  * `Adds.append`, `adds_pieces` — what a stream adds to a page;
  * `layout_spaces` — the text of a stream spaces out its pieces.
-/

namespace ScriptBridge.Token

/-! ## §1. What is visible of a stream. -/

/-- One visible piece of a stream. -/
inductive Piece where
  | word (name : Identifier)
  | literal (value : Literal)
  | sign (char : Char)
  | bracket (char : Char)
  deriving DecidableEq, Repr

namespace Piece

/-- The piece as it is written. -/
def text : Piece → List Char
  | word name => name.text.toList
  | literal value => value.text.toList
  | sign c | bracket c => [c]

/-- Whether the piece is an identifier or a literal. -/
def isWord : Piece → Bool
  | word _ | literal _ => true
  | sign _ | bracket _ => false

/-- Whether the piece ends in something else than a space. -/
def isFirm (p : Piece) : Bool :=
  p.text.getLast?.any (· != ' ')

/-- An identifier is firm as it is written, since its name is. -/
theorem isFirm_word (name : Identifier) : (word name).isFirm = true := by
  show Token.isFirm name.text = true
  unfold Identifier.text
  split
  · exact isFirm_append "r#" name.spelling.firm
  · exact name.spelling.firm

/-- A literal is firm. -/
theorem isFirm_literal (value : Literal) : (literal value).isFirm = true :=
  value.spelling.firm

/-- A sign is firm unless it is a space. -/
theorem isFirm_sign {c : Char} (visible : c ≠ ' ') : (sign c).isFirm = true :=
  bne_iff_ne.2 visible

end Piece

/-- The bracket in front of the content of a group, if it is printed. -/
def Delimiter.front (delimiter : Delimiter) : List Piece :=
  if delimiter = .invisible then [] else [.bracket (openingSign delimiter)]

/-- The bracket behind the content of a group, if it is printed. -/
def Delimiter.back (delimiter : Delimiter) : List Piece :=
  if delimiter = .invisible then [] else [.bracket (closingSign delimiter)]

mutual

/-- The visible pieces of a token.  Of a boundary that is not printed, only the content is visible. -/
def tokenPieces : Token → List Piece
  | .word name => [.word name]
  | .sign c _ => [.sign c]
  | .literal value => [.literal value]
  | .group delimiter inner => delimiter.front ++ pieces inner ++ delimiter.back

/-- The visible pieces of a stream, in order. -/
def pieces : List Token → List Piece
  | [] => []
  | t :: rest => tokenPieces t ++ pieces rest

end

theorem pieces_append (a b : List Token) : pieces (a ++ b) = pieces a ++ pieces b := by
  induction a with
  | nil => rfl
  | cons t a ih => rw [List.cons_append, pieces, pieces, ih, List.append_assoc]

/-! ## §2. Pieces and gaps. -/

/-- The spaces and line breaks that the layout puts between pieces. -/
def isBlank (c : Char) : Bool :=
  c == ' ' || c == '\n'

/-- A piece, with the white space in front of it. -/
structure Span where
  gap : List Char
  piece : Piece

/-- The span as it is written. -/
def Span.text (s : Span) : List Char :=
  s.gap ++ s.piece.text

/-- Two words do not touch each other. -/
def Span.Apart (a b : Span) : Prop :=
  a.piece.isWord = true → b.piece.isWord = true → b.gap ≠ []

/-- The text is that of the spans and of the white space behind them, and no two words in it touch each other. -/
structure Spaces (text : List Char) (spans : List Span) (trail : List Char) : Prop where
  split : text = spans.flatMap Span.text ++ trail
  gaps : ∀ s ∈ spans, s.gap.all isBlank = true
  trail : trail.all isBlank = true
  apart : spans.IsChain Span.Apart

namespace Spaces

variable {text : List Char} {spans : List Span} {trail : List Char}

/-- White space may be added at the end. -/
theorem white (h : Spaces text spans trail) {more : List Char} (blank : more.all isBlank = true) :
    Spaces (text ++ more) spans (trail ++ more) where
  split := by rw [h.split, List.append_assoc]
  gaps := h.gaps
  trail := by rw [List.all_append, h.trail, blank, Bool.and_self]
  apart := h.apart

/-- A piece is added behind the white space. -/
theorem piece (h : Spaces text spans trail) {p : Piece}
    (apart : ∀ s ∈ spans.getLast?, s.piece.isWord = true → p.isWord = true → trail ≠ []) :
    Spaces (text ++ p.text) (spans ++ [⟨trail, p⟩]) [] where
  split := by simp [h.split, Span.text]
  gaps := by
    intro s mem
    rcases List.mem_append.1 mem with before | last
    · exact h.gaps s before
    · rw [List.mem_singleton.1 last]
      exact h.trail
  trail := rfl
  apart := by
    refine List.isChain_append.2 ⟨h.apart, .singleton _, ?_⟩
    rintro s last t ⟨⟩
    exact apart s last

end Spaces

/-! ## §3. White space on a page. -/

namespace Page

/-- The white space that a gap is. -/
def white (page : Page) : Gap → List Char
  | .nothing => []
  | .space => [' ']
  | .line => '\n' :: List.replicate (4 * page.level) ' '

theorem text_leave (page : Page) (gap : Gap) : (page.leave gap).text = page.text ++ page.white gap := by
  cases gap with
  | nothing => rw [leave, white, List.append_nil]
  | space => rw [leave, white, text_put]
  | line => rw [leave, white, text_newLine]

theorem level_leave (page : Page) (gap : Gap) : (page.leave gap).level = page.level := by
  cases gap <;> rfl

theorem white_eq_nil_iff (page : Page) (gap : Gap) : page.white gap = [] ↔ gap = .nothing := by
  cases gap <;> simp [white]

end Page

theorem isBlank_indentation (n : Nat) : (List.replicate n ' ').all isBlank = true := by
  rw [List.all_eq_true]
  intro c mem
  rw [List.eq_of_mem_replicate mem]
  rfl

theorem Page.isBlank_white (page : Page) (gap : Gap) : (page.white gap).all isBlank = true := by
  cases gap with
  | nothing => rfl
  | space => rfl
  | line =>
    rw [Page.white, List.all_cons, isBlank_indentation]
    rfl

/-- Taking back the spaces at the end and ending the line changes white space only, since pieces are firm. -/
theorem Spaces.endLine (page : Page) {spans : List Span} {trail : List Char} (h : Spaces page.text spans trail)
    (firm : ∀ s ∈ spans, s.piece.isFirm = true) : ∃ left, Spaces page.trimSpaces.endLine.text spans left := by
  -- the last piece does not end in a space, so that only the trail is taken back
  have ends : (spans.flatMap Span.text).getLast? ≠ some ' ' := by
    rcases List.eq_nil_or_concat spans with rfl | ⟨before, last, rfl⟩
    · simp
    · obtain ⟨c, same, other⟩ := (Option.any_eq_true _ _).1 (firm last (by simp))
      simpa [Span.text, List.getLast?_append, same] using other
  obtain ⟨left, fewer, text⟩ := Page.text_trimSpaces h.split ends
  have blank : left.all isBlank = true :=
    List.all_eq_true.2 (fun c mem => List.all_eq_true.1 h.trail c (fewer.subset mem))
  have cut : Spaces page.trimSpaces.text spans left := ⟨text, h.gaps, blank, h.apart⟩
  unfold Page.endLine
  split
  · exact ⟨left, cut⟩
  · rw [Page.text_put]
    exact ⟨_, cut.white rfl⟩

/-! ## §4. Pages that show spans. -/

/-- The page shows the spans and white space behind them, and is ready for a word: if the last piece is one, and no
white space is behind it, the mode makes some. -/
structure Page.Shows (page : Page) (spans : List Span) (trail : List Char) : Prop where
  spaces : Spaces page.text spans trail
  firm : ∀ s ∈ spans, s.piece.isFirm = true
  ready : ∀ s ∈ spans.getLast?, s.piece.isWord = true → trail = [] → page.mode.gapBeforeWord ≠ .nothing

namespace Page.Shows

variable {page : Page} {spans : List Span} {trail : List Char}

theorem blank : Page.blank.Shows [] [] where
  spaces := ⟨rfl, List.forall_mem_nil _, rfl, .nil⟩
  firm := List.forall_mem_nil _
  ready := by rintro s ⟨⟩

/-- White space is added, and the page is left in another mode. -/
theorem white (h : page.Shows spans trail) {more : List Char} {next : Page} (blank : more.all isBlank = true)
    (text : next.text = page.text ++ more)
    (ready : ∀ s ∈ spans.getLast?, s.piece.isWord = true → trail ++ more = [] → next.mode.gapBeforeWord ≠ .nothing) :
    next.Shows spans (trail ++ more) where
  spaces := by
    rw [text]
    exact h.spaces.white blank
  firm := h.firm
  ready := ready

/-- A piece is written, and the page is left in a mode that is ready for a word if the piece is one. -/
theorem ofPiece {text : List Char} (h : Spaces text spans trail) (all : ∀ s ∈ spans, s.piece.isFirm = true)
    {p : Piece} (firm : p.isFirm = true)
    (apart : p.isWord = true → ∀ s ∈ spans.getLast?, s.piece.isWord = true → trail ≠ []) {next : Page}
    (written : next.text = text ++ p.text) (ready : p.isWord = true → next.mode.gapBeforeWord ≠ .nothing) :
    next.Shows (spans ++ [⟨trail, p⟩]) [] where
  spaces := by
    rw [written]
    exact h.piece (fun s last one two => apart two s last one)
  firm := by
    intro s mem
    rcases List.mem_append.1 mem with before | last
    · exact all s before
    · rw [List.mem_singleton.1 last]
      exact firm
  ready := by
    intro s last one _
    rw [List.getLast?_concat] at last
    obtain rfl := Option.some.inj last
    exact ready one

/-- **Words.**  A word or literal gets its gap. -/
theorem word (h : page.Shows spans trail) {p : Piece} {s : String} {after : Mode} (firm : p.isFirm = true)
    (text : p.text = s.toList) (ready : after.gapBeforeWord ≠ .nothing) :
    (page.word s after).Shows (spans ++ [⟨trail ++ page.white page.mode.gapBeforeWord, p⟩]) [] := by
  refine ofPiece (h.spaces.white (page.isBlank_white _)) h.firm firm ?_ ?_ (fun _ => ready)
  · intro _ s last one none
    obtain ⟨before, here⟩ := List.append_eq_nil_iff.1 none
    exact h.ready s last one before ((white_eq_nil_iff page _).1 here)
  · rw [Page.word, text_become, text_put, text_leave, text]

/-- A sign or bracket is written behind white space.  Any mode will do behind it. -/
theorem ofMark {text : List Char} (h : Spaces text spans trail) (all : ∀ s ∈ spans, s.piece.isFirm = true)
    {p : Piece} (firm : p.isFirm = true) (other : p.isWord = false) {next : Page}
    (written : next.text = text ++ p.text) : next.Shows (spans ++ [⟨trail, p⟩]) [] := by
  have noWord : p.isWord ≠ true := by simp [other]
  exact ofPiece h all firm (fun word => absurd word noWord) written (fun word => absurd word noWord)

/-- A sign or bracket is written behind a gap. -/
theorem mark (h : page.Shows spans trail) {p : Piece} (firm : p.isFirm = true) (other : p.isWord = false) (gap : Gap)
    {next : Page} (text : next.text = ((page.leave gap).put p.text).text) :
    next.Shows (spans ++ [⟨trail ++ page.white gap, p⟩]) [] :=
  ofMark (h.spaces.white (page.isBlank_white gap)) h.firm firm other (by rw [text, text_put, text_leave])

/-- White space is added behind a sign or bracket. -/
theorem behind {s : Span} (h : page.Shows (spans ++ [s]) trail) (other : s.piece.isWord = false) {more : List Char}
    {next : Page} (blank : more.all isBlank = true) (text : next.text = page.text ++ more) :
    next.Shows (spans ++ [s]) (trail ++ more) := by
  refine h.white blank text ?_
  intro t last word
  rw [List.getLast?_concat] at last
  obtain rfl := Option.some.inj last
  rw [other] at word
  cases word

/-- **Signs.**  A sign gets its gap, and white space behind it if it ends its line. -/
theorem sign (h : page.Shows spans trail) {c : Char} (firm : (Piece.sign c).isFirm = true) (joint : Bool) :
    (page.sign c joint).Shows (spans ++ [⟨trail ++ page.white (page.mode.gapBeforeSign c), .sign c⟩])
      (if page.mode.endsLine c then page.white .line else []) := by
  unfold Page.sign
  split
  next =>
    refine (h.mark firm rfl (page.mode.gapBeforeSign c) rfl).behind rfl (page.isBlank_white .line) ?_
    rw [text_become, text_newLine, put, level_leave]
    rfl
  next => exact h.mark firm rfl (page.mode.gapBeforeSign c) rfl

end Page.Shows

/-! ## §5. What streams add to a page. -/

/-- A boundary that is not printed gets a gap where a word does. -/
theorem Mode.gapBeforeWord_boundary {mode : Mode} (none : mode.gapBeforeGroup .invisible = .nothing) :
    mode.gapBeforeWord = .nothing := by
  cases mode <;> first | rfl | cases none

/-- The mode after a token. -/
def Mode.afterToken (mode : Mode) : Token → Mode
  | .word _ => named
  | .sign c joint => mode.afterSign c joint
  | .literal _ => spaced
  | .group delimiter _ => mode.afterGroup delimiter

/-- The mode after a stream. -/
def Mode.after (mode : Mode) (stream : List Token) : Mode :=
  stream.foldl afterToken mode

theorem Page.mode_token (page : Page) (t : Token) : (page.token t).mode = page.mode.afterToken t := by
  cases t with
  | word name => rfl
  | sign c joint => rfl
  | literal value => rfl
  | group delimiter inner =>
    cases delimiter with
    | bracket =>
      simp only [Page.token, Mode.afterToken, Mode.afterGroup]
      split <;> rfl
    | _ => rfl

/-- The mode behind a stream is settled by the stream and the mode in front of it. -/
theorem Page.mode_tokens (page : Page) (stream : List Token) : (page.tokens stream).mode = page.mode.after stream := by
  induction stream generalizing page with
  | nil => rfl
  | cons t rest ih =>
    rw [Page.tokens, ih, page.mode_token]
    rfl

theorem Page.tokens_append (page : Page) (a b : List Token) :
    page.tokens (a ++ b) = (page.tokens a).tokens b := by
  induction a generalizing page with
  | nil => rfl
  | cons t a ih => rw [List.cons_append, Page.tokens, Page.tokens, ih]

/-- Wherever the stream is written in the mode, it adds spans of this kind. -/
def Adds (mode : Mode) (stream : List Token) (kind : List Span → Prop) : Prop :=
  ∀ (page : Page) (spans : List Span) (trail : List Char), page.mode = mode → page.Shows spans trail →
    ∃ more left, kind more ∧ (page.tokens stream).Shows (spans ++ more) left

/-- Spans of this kind, between spans that show the given pieces. -/
def Enclosed (front : List Piece) (kind : List Span → Prop) (back : List Piece) (spans : List Span) : Prop :=
  ∃ x inner y, spans = x ++ inner ++ y ∧ x.map Span.piece = front ∧ kind inner ∧ y.map Span.piece = back

/-- Spans between the brackets of a group. -/
theorem Enclosed.printed {delimiter : Delimiter} {kind : List Span → Prop} {inner : List Span}
    (visible : delimiter ≠ .invisible) (known : kind inner) (first last : List Char) :
    Enclosed delimiter.front kind delimiter.back
      ([⟨first, .bracket (openingSign delimiter)⟩] ++ (inner ++ [⟨last, .bracket (closingSign delimiter)⟩])) :=
  ⟨[_], inner, [_], (List.append_assoc _ _ _).symm, by simp [Delimiter.front, visible], known,
    by simp [Delimiter.back, visible]⟩

namespace Adds

variable {mode : Mode} {inner : List Token} {kind : List Span → Prop}

/-- A boundary keeps the words on its two sides apart, since it gets a gap where a word does. -/
theorem invisible (content : Adds .start inner kind) :
    Adds mode [.group .invisible inner] (Enclosed Delimiter.invisible.front kind Delimiter.invisible.back) := by
  rintro page spans trail rfl h
  have opened : ((page.leave (page.mode.gapBeforeGroup .invisible)).become .start).Shows spans
      (trail ++ page.white (page.mode.gapBeforeGroup .invisible)) := by
    refine h.white (page.isBlank_white _) (page.text_leave _) ?_
    intro s last word none
    obtain ⟨before, here⟩ := List.append_eq_nil_iff.1 none
    exact absurd (Mode.gapBeforeWord_boundary ((page.white_eq_nil_iff _).1 here)) (h.ready s last word before)
  obtain ⟨more, left, known, filled⟩ := content _ _ _ rfl opened
  have closed : (page.token (.group .invisible inner)).Shows (spans ++ more) left := by
    rw [Page.token]
    exact ⟨filled.spaces, filled.firm, fun _ _ _ _ => by rintro ⟨⟩⟩
  exact ⟨more, left, ⟨[], more, [], by simp, rfl, known, rfl⟩, closed⟩

/-- The content of parentheses stands between them. -/
theorem parenthesis (content : Adds .start inner kind) :
    Adds mode [.group .parenthesis inner] (Enclosed Delimiter.parenthesis.front kind Delimiter.parenthesis.back) := by
  rintro page spans trail rfl h
  have opened : (((page.leave (page.mode.gapBeforeGroup .parenthesis)).put ['(']).become .start).Shows _ [] :=
    h.mark (p := .bracket '(') rfl rfl (page.mode.gapBeforeGroup .parenthesis) rfl
  obtain ⟨more, left, known, filled⟩ := content _ _ _ rfl opened
  have closed : (page.token (.group .parenthesis inner)).Shows _ [] :=
    .ofMark (p := .bracket ')') filled.spaces filled.firm rfl rfl (by rw [Page.token]; exact Page.text_put _ _)
  rw [List.append_assoc, List.append_assoc] at closed
  exact ⟨_, _, .printed (by decide) known _ _, closed⟩

/-- The content of brackets stands between them, and the line ends behind an attribute. -/
theorem bracket (content : Adds .start inner kind) :
    Adds mode [.group .bracket inner] (Enclosed Delimiter.bracket.front kind Delimiter.bracket.back) := by
  rintro page spans trail rfl h
  have opened : (((page.leave (page.mode.gapBeforeGroup .bracket)).put ['[']).become .start).Shows _ [] :=
    h.mark (p := .bracket '[') rfl rfl (page.mode.gapBeforeGroup .bracket) rfl
  obtain ⟨more, left, known, filled⟩ := content _ _ _ rfl opened
  have closed : ∀ mode, Page.Shows (Page.become (Page.put _ [']']) mode) _ [] := fun mode =>
    .ofMark (p := .bracket ']') filled.spaces filled.firm rfl rfl (Page.text_put _ _)
  obtain ⟨after, ended⟩ : ∃ after, (page.token (.group .bracket inner)).Shows _ after := by
    simp only [Page.token]
    split
    next =>
      -- the group is an attribute, behind which the line ends
      exact ⟨_, (closed .start).behind rfl (Page.isBlank_white _ .line) (Page.text_newLine _)⟩
    next => exact ⟨_, closed _⟩
  rw [List.append_assoc, List.append_assoc] at ended
  exact ⟨_, _, .printed (by decide) known _ _, ended⟩

/-- The content of braces stands between them, on lines of its own. -/
theorem brace (content : Adds .start inner kind) :
    Adds mode [.group .brace inner] (Enclosed Delimiter.brace.front kind Delimiter.brace.back) := by
  rintro page spans trail rfl h
  generalize start : ((page.leave (page.mode.gapBeforeGroup .brace)).put ['\x7b']).atLevel (page.level + 1) = begun
  have marked : begun.Shows _ [] :=
    h.mark (p := .bracket '\x7b') rfl rfl (page.mode.gapBeforeGroup .brace) (by rw [← start]; rfl)
  have opened : (begun.newLine.become .start).Shows _ _ :=
    marked.behind rfl (begun.isBlank_white .line) begun.text_newLine
  obtain ⟨more, left, known, filled⟩ := content _ _ _ rfl opened
  -- the white space in front of the closing bracket is made anew
  obtain ⟨kept, ended⟩ := Spaces.endLine (Page.atLevel _ page.level) filled.spaces filled.firm
  have closed : (page.token (.group .brace inner)).Shows _ [] :=
    .ofMark (p := .bracket '\x7d') (ended.white (isBlank_indentation _)) filled.firm rfl rfl (by
      rw [Page.token, start, Page.text_become, Page.text_put, Page.indent, Page.text_put]
      rfl)
  rw [List.append_assoc, List.append_assoc] at closed
  exact ⟨_, _, .printed (by decide) known _ _, closed⟩

/-- **Groups.**  The content of a group stands between its brackets. -/
theorem group (content : Adds .start inner kind) (delimiter : Delimiter) :
    Adds mode [.group delimiter inner] (Enclosed delimiter.front kind delimiter.back) := by
  cases delimiter with
  | invisible => exact content.invisible
  | parenthesis => exact content.parenthesis
  | bracket => exact content.bracket
  | brace => exact content.brace

/-- One stream behind another. -/
theorem append {a b : List Token} {first second : List Span → Prop} (one : Adds mode a first)
    (two : Adds (mode.after a) b second) :
    Adds mode (a ++ b) (fun spans => ∃ x y, spans = x ++ y ∧ first x ∧ second y) := by
  rintro page spans trail rfl h
  obtain ⟨x, middle, known, written⟩ := one page spans trail rfl h
  obtain ⟨y, left, after, all⟩ := two _ _ middle (page.mode_tokens a) written
  rw [List.append_assoc] at all
  exact ⟨x ++ y, left, ⟨x, y, rfl, known, after⟩, page.tokens_append a b ▸ all⟩

/-- A stream adds what follows from what it adds. -/
theorem imp {stream : List Token} {other : List Span → Prop} (h : Adds mode stream kind)
    (weaker : ∀ spans, kind spans → other spans) : Adds mode stream other := by
  intro page spans trail same shows
  obtain ⟨more, left, known, written⟩ := h page spans trail same shows
  exact ⟨more, left, weaker more known, written⟩

/-- The text of a stream is spaced out as the stream adds to an empty page. -/
theorem layout {stream : List Token} (h : Adds .start stream kind) :
    ∃ spans trail, kind spans ∧ Spaces (layout stream).toList spans trail := by
  obtain ⟨spans, trail, known, written⟩ := h .blank [] [] rfl .blank
  refine ⟨spans, trail, known, ?_⟩
  rw [Token.layout, String.toList_ofList]
  exact written.spaces

end Adds

/-! ## §6. Whole streams. -/

mutual

/-- A token adds its pieces. -/
theorem adds_token : ∀ (t : Token) (mode : Mode), Piece.sign ' ' ∉ tokenPieces t →
    Adds mode [t] (fun spans => spans.map Span.piece = tokenPieces t)
  | .word name, mode, _ => by
    rintro page spans trail rfl h
    exact ⟨_, _, rfl, h.word (Piece.isFirm_word name) rfl (by rintro ⟨⟩)⟩
  | .literal value, mode, _ => by
    rintro page spans trail rfl h
    exact ⟨_, _, rfl, h.word (Piece.isFirm_literal value) rfl (by rintro ⟨⟩)⟩
  | .sign c joint, mode, signs => by
    rintro page spans trail rfl h
    have visible : c ≠ ' ' := fun blank => signs (by simp [tokenPieces, blank])
    exact ⟨_, _, rfl, h.sign (Piece.isFirm_sign visible) joint⟩
  | .group delimiter inner, mode, signs => by
    have content := adds_pieces inner .start (fun mem => signs (by simp [tokenPieces, mem]))
    refine (content.group delimiter).imp ?_
    rintro spans ⟨front, middle, back, rfl, first, known, last⟩
    rw [List.map_append, List.map_append, first, known, last]
    rfl

/-- A stream adds its pieces. -/
theorem adds_pieces : ∀ (stream : List Token) (mode : Mode), Piece.sign ' ' ∉ pieces stream →
    Adds mode stream (fun spans => spans.map Span.piece = pieces stream)
  | [], mode, _ => by
    intro page spans trail _ h
    exact ⟨[], trail, rfl, by rwa [List.append_nil]⟩
  | t :: rest, mode, signs => by
    have one := adds_token t mode (fun mem => signs (by simp [pieces, mem]))
    have others := adds_pieces rest (mode.after [t]) (fun mem => signs (by simp [pieces, mem]))
    refine (one.append others).imp ?_
    rintro spans ⟨x, y, rfl, first, second⟩
    rw [List.map_append, first, second]
    rfl

end

/-- **The text of a stream spaces out its pieces**: nothing is lost, repeated, moved or changed, only spaces and line
breaks are added, and two words have some between them, whatever invisible boundaries there are.  Only a sign that is
itself a space could be lost; identifiers and literals never end in one. -/
theorem layout_spaces {stream : List Token} (signs : Piece.sign ' ' ∉ pieces stream) :
    ∃ spans trail, spans.map Span.piece = pieces stream ∧ Spaces (layout stream).toList spans trail :=
  (adds_pieces stream .start signs).layout

/-- A stream with groups of all four kinds: invisible boundaries stand between words, and a brace is behind a brace. -/
def medley : List Token :=
  [.sign '#' false, .group .bracket [.word ⟨"inline", false⟩],
   .group .invisible [.word ⟨"type", true⟩, .group .invisible [.literal ⟨"\"a b\""⟩]], .word ⟨"x", false⟩,
   .group .brace [.group .brace [], .group .parenthesis [.sign '&' true, .sign '&' false, .literal ⟨"1u8"⟩]],
   .sign ',' false]

theorem layout_spaces_medley : Piece.sign ' ' ∉ pieces medley ∧
    ∃ spans trail, spans.map Span.piece = pieces medley ∧ Spaces (layout medley).toList spans trail :=
  ⟨by decide, layout_spaces (by decide)⟩

/-- A sign that is a space does not last in front of a closing brace. -/
example : layout [.group .brace [.literal ⟨"1"⟩, .sign ' ' false]] = "\x7b\n    1\n\x7d" := by decide

end ScriptBridge.Token

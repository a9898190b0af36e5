import ScriptBridge.Token.Basic

/-!
# ScriptBridge.Token.Layout

Laying out a token stream as source text in one pass.

Lines break after `;`, around brace groups, after attributes, and after a comma that follows a closing brace.
Everything else stays on one line, and what the previous token was decides whether a space comes before the next:

    start      — line start: nothing
    spaced     — a space
    joined     — after a joint sign, `$`, or a sign like `&` that sticks to what follows: nothing
    scope      — after `::`: nothing
    named      — after an identifier: nothing before `.`, calls and indexing, a space otherwise
    closed     — after a closing brace: a new line, unless `;` or `,` follows
    hash       — after `#`: nothing, and a bracket group ends the line

The printer only ever adds spaces and line breaks between tokens; the characters of the tokens come out in order.
-/

namespace ScriptBridge.Token

/-! ## §1. What the previous token implies. -/

/-- The state of the layout between two tokens. -/
inductive Mode where
  | start
  | spaced
  | joined
  | scope
  | named
  | closed
  | hash
  deriving DecidableEq, Repr

/-- The white space in front of a token. -/
inductive Gap where
  | nothing
  | space
  | line
  deriving DecidableEq, Repr

namespace Mode

/-- The gap before a punctuation sign. -/
def gapBeforeSign (mode : Mode) (c : Char) : Gap :=
  match mode with
  | spaced => if c = ';' ∨ c = ',' then .nothing else .space
  | named => if c = '.' ∨ c = ';' ∨ c = ',' ∨ c = ':' then .nothing else .space
  | closed => if c = ';' ∨ c = ',' then .nothing else .line
  | _ => .nothing

/-- The gap before an identifier or a literal. -/
def gapBeforeWord : Mode → Gap
  | spaced | named => .space
  | closed => .line
  | start | joined | scope | hash => .nothing

/-- The gap before a group. -/
def gapBeforeGroup (mode : Mode) (delimiter : Delimiter) : Gap :=
  match mode with
  | spaced => .space
  | named => if delimiter = .brace ∨ delimiter = .invisible then .space else .nothing
  | closed => .line
  | _ => .nothing

/-- Whether a sign ends its line. -/
def endsLine (mode : Mode) (c : Char) : Bool :=
  c == ';' || (c == ',' && mode == closed)

/-- The mode after a sign. -/
def afterSign (mode : Mode) (c : Char) (joint : Bool) : Mode :=
  if mode.endsLine c then start
  else if c = '#' then hash
  else if c = '!' ∧ mode = hash then hash
  else if c = '$' then joined
  else if c = '&' ∨ c = '!' then (if mode = joined then spaced else joined)
  else if c = ':' ∧ mode = joined then scope
  else if c = '.' ∧ mode = named then joined
  else if mode = hash then joined
  else if mode = closed then spaced
  else if joint then joined
  else spaced

end Mode

/-! ## §2. The page. -/

/-- A text being written: its characters so far, last first, the depth of indentation and the mode. -/
structure Page where
  reversed : List Char
  level : Nat
  mode : Mode

namespace Page

/-- The empty page. -/
def blank : Page :=
  ⟨[], 0, .start⟩

/-- The text on the page. -/
def text (page : Page) : List Char :=
  page.reversed.reverse

/-- Writes characters as they are. -/
def put (page : Page) (s : List Char) : Page :=
  { page with reversed := s.reverse ++ page.reversed }

/-- Indents a fresh line. -/
def indent (page : Page) : Page :=
  page.put (List.replicate (4 * page.level) ' ')

/-- Starts a new line. -/
def newLine (page : Page) : Page :=
  (page.put ['\n']).indent

/-- Leaves a gap. -/
def leave (page : Page) : Gap → Page
  | .nothing => page
  | .space => page.put [' ']
  | .line => page.newLine

/-- Takes back the spaces at the end of the page. -/
def trimSpaces (page : Page) : Page :=
  { page with reversed := page.reversed.dropWhile (· == ' ') }

/-- Ends the current line, unless a line has just ended. -/
def endLine (page : Page) : Page :=
  if page.reversed.head? = some '\n' then page else page.put ['\n']

/-- Sets the mode. -/
def become (page : Page) (mode : Mode) : Page :=
  { page with mode := mode }

/-- Sets the depth of indentation. -/
def atLevel (page : Page) (level : Nat) : Page :=
  { page with level := level }

/-! ## §3. Writing tokens. -/

/-- Writes a punctuation sign. -/
def sign (page : Page) (c : Char) (joint : Bool) : Page :=
  let written := (page.leave (page.mode.gapBeforeSign c)).put [c]
  let ended := if page.mode.endsLine c then written.newLine else written
  ended.become (page.mode.afterSign c joint)

/-- Writes an identifier or a literal. -/
def word (page : Page) (s : String) (after : Mode) : Page :=
  ((page.leave page.mode.gapBeforeWord).put s.toList).become after

mutual

/-- Writes one token. -/
def token (page : Page) : Token → Page
  | .word name => page.word name.text .named
  | .sign c joint => page.sign c joint
  | .literal value => page.word value.text .spaced
  | .group .brace inner =>
    let opened := ((page.leave (page.mode.gapBeforeGroup .brace)).put ['\x7b']).atLevel (page.level + 1)
    let filled := tokens (opened.newLine.become .start) inner
    ((filled.atLevel page.level).trimSpaces.endLine.indent.put ['\x7d']).become .closed
  | .group .bracket inner =>
    let opened := (page.leave (page.mode.gapBeforeGroup .bracket)).put ['[']
    let filled := (tokens (opened.become .start) inner).put [']']
    if page.mode = .hash then filled.newLine.become .start else filled.become .spaced
  | .group .parenthesis inner =>
    let opened := (page.leave (page.mode.gapBeforeGroup .parenthesis)).put ['(']
    ((tokens (opened.become .start) inner).put [')']).become .spaced
  | .group .invisible inner =>
    let opened := page.leave (page.mode.gapBeforeGroup .invisible)
    (tokens (opened.become .start) inner).become .spaced

/-- Writes tokens in order. -/
def tokens (page : Page) : List Token → Page
  | [] => page
  | t :: rest => tokens (token page t) rest

end

end Page

/-- The source text of a token stream. -/
def layout (stream : List Token) : String :=
  String.ofList (Page.blank.tokens stream).text

end ScriptBridge.Token

import ScriptBridge.Text.Alphabet

/-!
# ScriptBridge.Text.Pieces

Taking texts apart: trimming, words, the parts of a scoped name, replacing and searching.

Everything works on lists of characters.  Pieces between single separators are `List.splitOnP`, and
`List.intercalate` puts pieces together again.
-/

namespace ScriptBridge.Text

/-! ## §1. Trimming and words. -/

/-- Drops white space at the start. -/
def trimStart (s : List Char) : List Char :=
  s.dropWhile isSpace

/-- Drops white space at the end. -/
def trimEnd (s : List Char) : List Char :=
  (s.reverse.dropWhile isSpace).reverse

/-- Drops white space at both ends. -/
def trim (s : List Char) : List Char :=
  trimEnd (trimStart s)

/-- The words of a text: its maximal runs without white space. -/
def words (s : List Char) : List (List Char) :=
  (s.splitOnP isSpace).filter (fun word => !word.isEmpty)

/-! ## §2. The scope separator. -/

/-- The pieces of `s` between occurrences of `::`, found from the left; there is always at least one piece. -/
def splitScopes : List Char → List (List Char)
  | [] => [[]]
  | ':' :: ':' :: rest => [] :: splitScopes rest
  | c :: rest => (splitScopes rest).modifyHead (c :: ·)

/-- The part of `s` after its last `::`, or all of `s`.  In a run of colons the last two count. -/
def afterLastScope (s : List Char) : List Char :=
  go s s
where
  /-- Walks to the end; `best` is the part after the last `::` seen. -/
  go (best : List Char) : List Char → List Char
    | ':' :: ':' :: rest => go rest (':' :: rest)
    | _ :: rest => go best rest
    | [] => best

/-! ## §3. Replacing and searching. -/

/-- Replaces each occurrence of the characters `a`, `b` in a row, from the left and without overlap. -/
def replacePair (a b : Char) (new : List Char) : List Char → List Char
  | [] => []
  | [c] => [c]
  | c :: d :: rest =>
    if c = a ∧ d = b then new ++ replacePair a b new rest
    else c :: replacePair a b new (d :: rest)

/-- Whether `needle` stands somewhere in the text. -/
def holds (needle : List Char) : List Char → Bool
  | [] => needle.isEmpty
  | c :: rest => needle.isPrefixOf (c :: rest) || holds needle rest

/-- Whether the text `needle` stands somewhere in the text `s`. -/
def holdsText (needle s : String) : Bool :=
  holds needle.toList s.toList

end ScriptBridge.Text

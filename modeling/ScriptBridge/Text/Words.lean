import ScriptBridge.Text.Pieces

/-!
# ScriptBridge.Text.Words

Snake case: the words of a mixed-case name, lower-cased and joined by `_`.

A name is cut at every character that belongs to no word.  Inside such a piece a word ends where lower case is
followed by upper case (`getValue`), and before the last of several capitals that is followed by lower case
(`HTTPServer`).  Characters without case, such as digits, keep the mode of the letters before them.
-/

namespace ScriptBridge.Text

/-! ## §1. Word boundaries. -/

/-- The case of the last cased character of the word being read; `start` if there is none yet. -/
inductive WordMode where
  | start
  | lower
  | upper
  deriving DecidableEq, Repr

/-- The mode once `c` has been read. -/
def WordMode.after (mode : WordMode) (c : Char) : WordMode :=
  if isLower c then .lower else if isUpper c then .upper else mode

/-- Cuts a piece without separators into words.  `word` holds the characters of the current word, last first. -/
def cutWords (mode : WordMode) (word : List Char) : List Char → List (List Char)
  | [] => if word.isEmpty then [] else [word.reverse]
  | [c] => [(c :: word).reverse]
  | c :: next :: rest =>
    if mode.after c = .lower ∧ isUpper next then
      (c :: word).reverse :: cutWords .start [] (next :: rest)
    else if mode = .upper ∧ isUpper c ∧ isLower next then
      word.reverse :: cutWords .start [c] (next :: rest)
    else
      cutWords (mode.after c) (c :: word) (next :: rest)

/-- All words of a mixed-case name, in order. -/
def caseWords (s : List Char) : List (List Char) :=
  (s.splitOnP (fun c => !isWordChar c)).flatMap (cutWords .start [])

/-! ## §2. Lower case. -/

/-- A word in lower case.  A sigma at the end of a word takes its final form. -/
def lowerWord : List Char → List Char
  | [] => []
  | ['Σ'] => ['ς']
  | c :: rest => toLower c ++ lowerWord rest

/-- The words of `s` in lower case, joined by `_`. -/
def snakeWords (s : List Char) : List Char :=
  List.intercalate ['_'] ((caseWords s).map lowerWord)

end ScriptBridge.Text

import ScriptBridge.Text.Concealed
import ScriptBridge.Text.LetterCase
import ScriptBridge.Text.Letters

/-!
# ScriptBridge.Text.Alphabet

What a character is good for: whether it is part of a word, what case it has, whether it may start or continue an
identifier, whether it is white space, and whether a quoted text shows it by its code.

ASCII is decided by rule, everything beyond it by the tables of runs.
-/

namespace ScriptBridge.Text

/-- Whether a character is an ASCII character. -/
def isAscii (c : Char) : Bool :=
  c.toNat < 128

/-! ## §1. Words and identifiers. -/

/-- ASCII letters and digits, the characters that need no escape in a generated name. -/
def isAsciiWordChar (c : Char) : Bool :=
  c.isAlphanum

/-- Letters, digits and other numbers, and the marks that spell words: the characters that words are made of. -/
def isWordChar (c : Char) : Bool :=
  if isAscii c then isAsciiWordChar c
  else letters.holds c.toNat || innerWordChars.holds c.toNat || numerals.holds c.toNat

/-- The letters an identifier may start with (`_` is allowed apart from these). -/
def isIdentStart (c : Char) : Bool :=
  if isAscii c then c.isAlpha
  else letters.holds c.toNat || letterlikeSymbols.holds c.toNat

/-- The characters an identifier may go on with. -/
def isIdentContinue (c : Char) : Bool :=
  if isAscii c then isAsciiWordChar c || c == '_'
  else isIdentStart c || innerWordChars.holds c.toNat || joiners.holds c.toNat

/-! ## §2. Case. -/

/-- Characters in upper case. -/
def isUpper (c : Char) : Bool :=
  if isAscii c then c.isUpper else upperCase.holds c.toNat

/-- Characters in lower case. -/
def isLower (c : Char) : Bool :=
  if isAscii c then c.isLower else lowerCase.holds c.toNat

/-- The lower-case form of a character beyond ASCII, if it has a form of one character. -/
def lowerForm? (c : Char) : Option Char :=
  (lowerForms.find? (fun entry => goesThrough entry.1.1 entry.1.2.1 entry.1.2.2 c.toNat)).map
    (fun entry => Char.ofNat (entry.2 + (c.toNat - entry.1.1)))

/-- The lower-case form of a character; a character without one stands for itself.  Only the dotted capital I takes
two characters. -/
def toLower (c : Char) : List Char :=
  if isAscii c then [c.toLower]
  else if c = '\u0130' then ['i', '\u0307']
  else [(lowerForm? c).getD c]

/-! ## §3. What is not seen. -/

/-- The code points of white space. -/
def whiteSpace : Runs :=
  [ (0x9, 0xD), (0x20, 0x20), (0x85, 0x85), (0xA0, 0xA0), (0x1680, 0x1680), (0x2000, 0x200A), (0x2028, 0x2029),
    (0x202F, 0x202F), (0x205F, 0x205F), (0x3000, 0x3000) ]

/-- White space, the plain space included. -/
def isSpace (c : Char) : Bool :=
  whiteSpace.holds c.toNat

/-- The characters that a quoted text shows as a code: those that would not be seen as themselves.  The plain space
is none of them. -/
def isConcealed (c : Char) : Bool :=
  if isAscii c then c.toNat < 32 || c.toNat == 127 else concealed.holds c.toNat

/-! ## §4. Agreement with the classes of ASCII. -/

/-- Letters and digits in the sense of ASCII are ASCII characters. -/
theorem isAscii_of_isAlphanum {c : Char} (h : c.isAlphanum = true) : isAscii c = true := by
  delta Char.isAlphanum Char.isAlpha Char.isUpper Char.isLower Char.isDigit at h
  simp only [Bool.or_eq_true, Bool.and_eq_true, decide_eq_true_eq] at h
  have bound : c.toNat < 128 := by
    rcases h with (h | h) | h
    all_goals
      have last := UInt32.le_iff_toNat_le.mp h.2
      simp at last
      omega
  simpa [isAscii] using bound

/-- A fact about ASCII characters can be checked for all code points below 128. -/
theorem forall_ascii {p : Char → Bool} (h : (List.range 128).all (fun n => p (Char.ofNat n)) = true) {c : Char}
    (ascii : isAscii c = true) : p c = true := by
  have here := List.all_eq_true.1 h c.toNat (List.mem_range.2 (of_decide_eq_true ascii))
  rwa [Char.ofNat_toNat] at here

/-- Letters and digits in the sense of ASCII are parts of words. -/
theorem isWordChar_of_isAlphanum {c : Char} (h : c.isAlphanum = true) : isWordChar c = true := by
  simp [isWordChar, isAscii_of_isAlphanum h, isAsciiWordChar, h]

end ScriptBridge.Text

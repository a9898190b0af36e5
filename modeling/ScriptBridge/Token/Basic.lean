/-!
# ScriptBridge.Token.Basic

Source code as a stream of tokens: identifiers, punctuation, literals and delimited groups.

A punctuation sign is *joint* when it and the next sign belong to one operator: `::` is a joint `:` followed by a
plain one.  A group with invisible delimiters only marks a boundary.

Identifiers and literals are not empty and do not end in a space, so that they can be told from the white space around
them.  They carry the proof of it (`Spelling`).
-/

namespace ScriptBridge.Token

/-- The brackets around a group. -/
inductive Delimiter where
  | brace
  | bracket
  | parenthesis
  /-- A boundary that is not printed. -/
  | invisible
  deriving DecidableEq, Repr, Inhabited

/-- Whether a text can stand beside others in source code: it is not empty, and it does not end in a space. -/
def isFirm (text : String) : Bool :=
  text.toList.getLast?.any (· != ' ')

/-- A text with something else than a space at its end is firm. -/
theorem isFirm_of_getLast? {text : String} {c : Char} (last : text.toList.getLast? = some c) (other : c ≠ ' ') :
    isFirm text = true := by
  rw [isFirm, last]
  simpa using other

/-- Whatever is put in front of a firm text leaves it firm. -/
theorem isFirm_append (before : String) {text : String} (firm : isFirm text = true) :
    isFirm (before ++ text) = true := by
  obtain ⟨c, last, other⟩ := (Option.any_eq_true _ _).1 firm
  have same : (before ++ text).toList.getLast? = some c := by
    rw [String.toList_append, List.getLast?_append, last, Option.some_or]
  exact isFirm_of_getLast? same (bne_iff_ne.1 other)

/-- A text that can stand beside others. -/
structure Spelling where
  text : String
  firm : isFirm text = true
  deriving DecidableEq, Repr

/-- A text in quotes is firm. -/
theorem isFirm_quoted (text : String) : isFirm (text ++ "\"") = true :=
  isFirm_append text (by decide)

/-- The spelling that is a given text.  A text that cannot stand by itself is put in quotes. -/
def Spelling.ofText (text : String) : Spelling :=
  if h : isFirm text = true then ⟨text, h⟩ else ⟨"\"" ++ text ++ "\"", isFirm_quoted _⟩

/-- Texts stand for their spellings. -/
instance : Coe String Spelling :=
  ⟨Spelling.ofText⟩

instance : Inhabited Spelling :=
  ⟨"_"⟩

namespace Spelling

theorem ofText_of_firm {text : String} (firm : isFirm text = true) : ofText text = ⟨text, firm⟩ :=
  dif_pos firm

/-- A text that can stand by itself is spelled as it is. -/
theorem text_ofText {text : String} (firm : isFirm text = true) : (ofText text).text = text := by
  rw [ofText_of_firm firm]

/-- A spelling is that of its text. -/
theorem ofText_text (s : Spelling) : ofText s.text = s :=
  ofText_of_firm s.firm

/-- A text that neither needs quotes nor begins with one is the spelling of no other text. -/
theorem eq_of_ofText {text other : String} (same : ofText other = ofText text) (firm : isFirm text = true)
    (bare : text.toList.head? ≠ some '"') : other = text := by
  have written : (ofText other).text = text := by rw [same, text_ofText firm]
  by_cases stands : isFirm other = true
  · rwa [text_ofText stands] at written
  · rw [ofText, dif_neg stands] at written
    exact absurd (by rw [← written]; simp) bare

end Spelling

/-- A name in source code.  A raw identifier is written with `r#` in front and may be a keyword. -/
structure Identifier where
  spelling : Spelling
  raw : Bool
  deriving DecidableEq, Repr, Inhabited

namespace Identifier

/-- The name, whether it is raw or not. -/
def name (id : Identifier) : String :=
  id.spelling.text

/-- The identifier as it is written. -/
def text (id : Identifier) : String :=
  if id.raw then "r#" ++ id.name else id.name

/-- The name of an identifier is what it was made of. -/
theorem name_mk {name : String} (raw : Bool) (firm : isFirm name = true) : (⟨name, raw⟩ : Identifier).name = name :=
  Spelling.text_ofText firm

/-- A plain identifier is written as its name. -/
theorem text_mk {name : String} (firm : isFirm name = true) : (⟨name, false⟩ : Identifier).text = name :=
  name_mk false firm

/-- An identifier is made of its name. -/
theorem mk_name (id : Identifier) : (⟨id.name, id.raw⟩ : Identifier) = id := by
  rw [name, Spelling.ofText_text]

end Identifier

/-- A literal, given by its source text. -/
structure Literal where
  spelling : Spelling
  deriving DecidableEq, Repr, Inhabited

/-- The source text of a literal. -/
def Literal.text (value : Literal) : String :=
  value.spelling.text

end ScriptBridge.Token

namespace ScriptBridge

/-- One token of source code, or a delimited group of them. -/
inductive Token where
  | word (name : Token.Identifier)
  | sign (char : Char) (joint : Bool)
  | literal (value : Token.Literal)
  | group (delimiter : Token.Delimiter) (inner : List Token)
  deriving Repr, Inhabited

end ScriptBridge

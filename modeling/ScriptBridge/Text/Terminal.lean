import ScriptBridge.Text.Digits

/-!
# ScriptBridge.Text.Terminal

Texts as they are sent to a terminal.

Characters that a terminal would obey instead of showing them are written as their codes: escape, bell, backspace,
form feed and delete with two digits, and the controls beyond ASCII in braces.  Tabs and line ends stay.
-/

namespace ScriptBridge.Text

/-- The ASCII controls that are not sent to a terminal, with what is sent in their place. -/
def terminalCodes : List (Char × String) :=
  [('\x1b', "\\x1b"), ('\x07', "\\x07"), ('\x08', "\\x08"), ('\x0c', "\\x0c"), ('\x7f', "\\x7f")]

/-- One character of a text for a terminal. -/
def terminalChar (c : Char) : List Char :=
  match terminalCodes.lookup c with
  | some code => code.toList
  | none =>
    if 0x80 ≤ c.toNat ∧ c.toNat ≤ 0x9F then ['\\', 'u', '\x7b'] ++ hexDigits c.toNat ++ ['\x7d']
    else [c]

/-- A text as it is sent to a terminal. -/
def forTerminal (s : String) : String :=
  String.ofList (s.toList.flatMap terminalChar)

end ScriptBridge.Text

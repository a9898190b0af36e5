import ScriptBridge.Text.Quoted

/-!
# ScriptBridge.Proofs.Text.Quoted

A string literal determines its text.

A character is quoted in one of three ways (`QuotedAs`): by a backslash and another character, by its code, or as it
stands.  `readQuoted?` reads the first character back, whatever follows, so texts with one literal agree character by
character.

Main results:
  * `quotedAs_quoteChar` — how a character is quoted;
  * `stringLiteral_injective` — no two texts share a string literal.
-/

namespace ScriptBridge.Text

/-! ## §1. Hexadecimal codes. -/

theorem isAlphanum_of_mem_hexDigits {c : Char} {n : Nat} (h : c ∈ hexDigits n) : c.isAlphanum = true := by
  have digit : ∀ d < 16, (Nat.digitChar d).isAlphanum = true := by decide
  induction n using Nat.strongRecOn with
  | ind n ih =>
    unfold hexDigits at h ih
    rw [Nat.toDigits_eq_if (by decide)] at h
    split at h
    next small =>
      rw [List.mem_singleton.1 h]
      exact digit n small
    next =>
      rcases List.mem_append.1 h with front | last
      · exact ih (n / 16) (by omega) front
      · rw [List.mem_singleton.1 last]
        exact digit (n % 16) (by omega)

/-- The number that a series of hexadecimal digits stands for. -/
def hexNumber (digits : List Char) : Nat :=
  digits.foldl (fun n d => 16 * n + (hexValue? d).getD 0) 0

theorem hexNumber_hexDigits (n : Nat) : hexNumber (hexDigits n) = n := by
  have value : ∀ d < 16, (hexValue? (Nat.digitChar d)).getD 0 = d := by decide
  induction n using Nat.strongRecOn with
  | ind n ih =>
    unfold hexDigits hexNumber at ih ⊢
    rw [Nat.toDigits_eq_if (by decide)]
    split
    next small => simp [value n small]
    next =>
      rw [List.foldl_append, ih (n / 16) (by omega), List.foldl_cons, List.foldl_nil, value (n % 16) (by omega)]
      omega

/-! ## §2. Quoted characters. -/

/-- The character that is quoted by a backslash and a sign. -/
def escaped? (sign : Char) : Option Char :=
  match sign with
  | '0' => some '\x00'
  | 't' => some '\t'
  | 'r' => some '\r'
  | 'n' => some '\n'
  | '"' => some '"'
  | '\\' => some '\\'
  | _ => none

/-- A character is quoted by a backslash and a sign, by its code, or as it stands. -/
inductive QuotedAs (c : Char) : List Char → Prop where
  | escape {sign : Char} (h : escaped? sign = some c) : QuotedAs c ['\\', sign]
  | code : QuotedAs c ('\\' :: 'u' :: '\x7b' :: (hexDigits c.toNat ++ ['\x7d']))
  | plain (quote : c ≠ '"') (backslash : c ≠ '\\') : QuotedAs c [c]

theorem quotedAs_quoteChar (c : Char) : QuotedAs c (quoteChar c) := by
  unfold quoteChar
  -- every sign has a branch of its own
  iterate 5
    split
    next same =>
      subst same
      exact .escape rfl
  split
  next same =>
    subst same
    exact .escape rfl
  next quote backslash =>
    split
    · exact .code
    · exact .plain quote backslash

/-- Reads the first character: which one it is, and what follows. -/
def readQuoted? : List Char → Option (Char × List Char)
  | '\\' :: 'u' :: '\x7b' :: rest =>
    some (Char.ofNat (hexNumber (rest.takeWhile (· != '\x7d'))), (rest.dropWhile (· != '\x7d')).tail)
  | '\\' :: 'x' :: rest => some ('\x00', rest.drop 2)
  | '\\' :: sign :: rest => (escaped? sign).map (fun c => (c, rest))
  | c :: rest => some (c, rest)
  | [] => none

theorem readQuoted?_escape {sign c : Char} (h : escaped? sign = some c) (tail : List Char) :
    readQuoted? ('\\' :: sign :: tail) = some (c, tail) := by
  unfold readQuoted?
  split
  next same =>
    cases same
    cases h
  next same =>
    cases same
    cases h
  next same =>
    cases same
    rw [h]
    rfl
  next other same =>
    cases same
    exact absurd rfl (other sign tail rfl)
  next same => cases same

/-- A code is read up to its closing brace. -/
theorem readQuoted?_code (c : Char) (tail : List Char) :
    readQuoted? ('\\' :: 'u' :: '\x7b' :: (hexDigits c.toNat ++ '\x7d' :: tail)) = some (c, tail) := by
  have inside : ∀ d ∈ hexDigits c.toNat, (d != '\x7d') = true := by
    intro d mem
    rw [bne_iff_ne]
    rintro rfl
    cases isAlphanum_of_mem_hexDigits mem
  rw [readQuoted?, List.takeWhile_append_of_pos inside, List.dropWhile_append_of_pos inside]
  simp [hexNumber_hexDigits]

/-- A quoted character is read back, whatever follows. -/
theorem readQuoted?_quoted {c : Char} {piece : List Char} (h : QuotedAs c piece) (tail : List Char) :
    readQuoted? (piece ++ tail) = some (c, tail) := by
  cases h with
  | escape h => exact readQuoted?_escape h tail
  | code =>
    rw [← readQuoted?_code c tail]
    simp
  | plain quote backslash =>
    unfold readQuoted?
    split
    case h_4 same => cases same; rfl
    case h_5 same => cases same
    all_goals
      rename_i same
      exact absurd (List.cons.inj same).1 backslash

/-! ## §3. Literals. -/

theorem readQuoted?_literalBody (c : Char) (rest : List Char) :
    readQuoted? (literalBody (c :: rest)) = some (c, literalBody rest) := by
  rw [literalBody]
  split
  next octal =>
    obtain ⟨rfl, -⟩ := octal
    rfl
  next => exact readQuoted?_quoted (quotedAs_quoteChar c) _

theorem literalBody_injective {s t : List Char} (h : literalBody s = literalBody t) : s = t := by
  induction s generalizing t with
  | nil =>
    cases t with
    | nil => rfl
    | cons d t =>
      have read := readQuoted?_literalBody d t
      rw [← h] at read
      cases read
  | cons c s ih =>
    have read := readQuoted?_literalBody c s
    rw [h] at read
    cases t with
    | nil => cases read
    | cons d t =>
      obtain ⟨same, others⟩ := Prod.mk.inj (Option.some.inj ((readQuoted?_literalBody d t).symm.trans read))
      rw [same, ih others.symm]

/-- No two texts share a string literal. -/
theorem stringLiteral_injective {s t : String} (h : stringLiteral s = stringLiteral t) : s = t := by
  have inner := congrArg String.toList h
  simp only [stringLiteral, String.toList_ofList] at inner
  have body := List.append_cancel_right (List.cons.inj inner).2
  exact String.toList_inj.1 (literalBody_injective body)

end ScriptBridge.Text

import ScriptBridge.Declared.BasicType
import ScriptBridge.Proofs.Declared.CanonicalId
import ScriptBridge.Proofs.Outcome
import ScriptBridge.Token.Compose

/-!
# ScriptBridge.Proofs.Declared.BasicType

Texts that are no basic type, or none that code can name.

A basic type is never the word `const` alone, since qualifiers are taken out of it.  A type whose text begins with a
digit is a class whose first name begins with that digit, and such a name is no identifier.
-/

namespace ScriptBridge.Declared

open ScriptBridge.Text ScriptBridge.Token

/-- What is left of a type is not the word `const`. -/
theorem basicType_ne_const (ty : List Char) : basicType ty ≠ "const".toList := by
  have kept : ∀ word ∈ basicWords ty, word ≠ "const".toList := by
    intro word mem same
    have free := (List.mem_filter.1 mem).2
    rw [same] at free
    cases free
  intro same
  unfold basicType at same
  match list : basicWords ty with
  | [] =>
    rw [list] at same
    cases same
  | [only] =>
    rw [list, List.intercalate_singleton] at same
    exact kept only (by simp [list]) same
  | first :: next :: others =>
    -- several words are set apart by spaces
    have space : ' ' ∈ "const".toList := by
      rw [← same, list, List.intercalate_cons_cons]
      simp
    exact absurd space (by decide)

/-! ## Types that begin with a digit. -/

theorem mem_digits {c : Char} (h : c.isDigit = true) : c ∈ "0123456789".toList := by
  obtain ⟨first, last⟩ : '0'.val ≤ c.val ∧ c.val ≤ '9'.val := by simpa [Char.isDigit] using h
  have low : 48 ≤ c.toNat := UInt32.le_iff_toNat_le.1 first
  have high : c.toNat < 58 := Nat.lt_succ_of_le (UInt32.le_iff_toNat_le.1 last)
  have table : ∀ n < 58, 48 ≤ n → Char.ofNat n ∈ "0123456789".toList := by decide
  rw [← Char.ofNat_toNat c]
  exact table _ high low

/-- A digit is visible and no sign of a type, and no identifier starts with it. -/
theorem digit_classes {c : Char} (h : c.isDigit = true) :
    isSpace c = false ∧ isIdentStart c = false ∧ c ≠ '_' ∧ c ≠ '<' ∧ c ≠ ':' ∧ c ≠ 'v' ∧ c ≠ 'Q' ∧ c ≠ 'r' := by
  have each : "0123456789".toList.all (fun c => !isSpace c && !isIdentStart c && c != '_' && c != '<' && c != ':' &&
      c != 'v' && c != 'Q' && c != 'r') = true := by
    decide
  simpa [and_assoc] using List.all_eq_true.1 each c (mem_digits h)

theorem contains_startsDigit {known : List String} (free : known.all (fun s => !startsDigit s.toList) = true)
    {s : String} (h : startsDigit s.toList = true) : known.contains s = false := by
  rw [Bool.eq_false_iff]
  intro mem
  have other := List.all_eq_true.1 free s (List.contains_iff_mem.1 mem)
  rw [h] at other
  cases other

theorem exists_digit {s : List Char} (h : startsDigit s = true) : ∃ c rest, s = c :: rest ∧ c.isDigit = true := by
  cases s with
  | nil => cases h
  | cons c rest => exact ⟨c, rest, rfl, h⟩

/-- A text that begins with a digit is no identifier. -/
theorem escaped_digit {s : String} {id : Identifier} (h : startsDigit s.toList = true) :
    Identifier.escaped s ≠ .ok id := by
  obtain ⟨c, rest, text, digit⟩ := exists_digit h
  obtain ⟨-, noStart, notLow, -, -, -, -, notRaw⟩ := digit_classes digit
  -- the name has no shape of an identifier, and it is not raised since no keyword begins with a digit
  have wrong : ∃ e, nameError? s = some e := by
    unfold nameError? hasIdentifierShape
    rw [text]
    split
    · exact ⟨_, rfl⟩
    · split
      · exact ⟨_, rfl⟩
      · simp [noStart, notLow]
  obtain ⟨e, wrong⟩ := wrong
  have plain : Identifier.plain s = .error e := by
    rw [Identifier.plain_eq, wrong]
  rw [Identifier.escaped, contains_startsDigit (by decide) h, if_neg (by decide), Identifier.ofText, text]
  split
  next same => exact absurd (List.cons.inj same).1 notRaw
  next =>
    rw [plain]
    rintro ⟨⟩

theorem startsDigit_trim {s : List Char} (h : startsDigit s = true) : startsDigit (trim s) = true := by
  obtain ⟨c, rest, rfl, digit⟩ := exists_digit h
  have visible := (digit_classes digit).1
  have start : trimStart (c :: rest) = c :: rest := List.dropWhile_cons_of_neg (by simp [visible])
  rw [trim, start, trimEnd, List.reverse_cons, List.dropWhile_append]
  split
  · rw [List.dropWhile_cons_of_neg (by simp [visible])]
    exact digit
  · rw [List.reverse_append]
    exact digit

theorem splitScopes_ne_nil (s : List Char) : splitScopes s ≠ [] := by
  induction s using splitScopes.induct with
  | case1 => simp [splitScopes]
  | case2 => simp [splitScopes]
  | case3 c rest single ih =>
    rw [splitScopes.eq_3 _ _ single]
    cases pieces : splitScopes rest with
    | nil => exact absurd pieces ih
    | cons => simp

/-- A scoped name that begins with a digit has a first segment that does. -/
theorem splitScopes_digit {s : List Char} (h : startsDigit s = true) :
    ∃ first ∈ splitScopes s, startsDigit first = true := by
  obtain ⟨c, rest, rfl, digit⟩ := exists_digit h
  have single : ∀ more : List Char, c = ':' → rest = ':' :: more → False := by
    rintro more rfl -
    cases digit
  rw [splitScopes.eq_3 _ _ single]
  cases pieces : splitScopes rest with
  | nil => exact absurd pieces (splitScopes_ne_nil rest)
  | cons piece pieces => exact ⟨c :: piece, by simp, digit⟩

theorem splitTemplate_digit {ty : List Char} (h : startsDigit ty = true) : startsDigit (splitTemplate ty).1 = true := by
  unfold splitTemplate
  split
  · obtain ⟨c, rest, rfl, digit⟩ := exists_digit h
    obtain ⟨-, -, -, notBracket, -⟩ := digit_classes digit
    rw [List.takeWhile_cons_of_pos (by simpa using notBracket)]
    exact startsDigit_trim digit
  · exact h

/-- A type that begins with a digit is a class. -/
theorem ofBasic_digit {ty : List Char} (h : startsDigit ty = true) :
    ∃ name arguments, startsDigit name = true ∧
      TargetType.ofBasic ty = TargetType.ofTemplate.classNamed name arguments := by
  have trimmed := startsDigit_trim h
  obtain ⟨c, rest, text, digit⟩ := exists_digit trimmed
  obtain ⟨-, -, -, -, -, notVoid, -⟩ := digit_classes digit
  -- it is neither `void` nor a builtin type nor a list, all of which begin with letters
  have some : ¬ (trim ty = [] ∨ trim ty = "void".toList) := by
    rw [text]
    rintro (none | void)
    · cases none
    · exact notVoid (List.cons.inj void).1
  have noBuiltin : Builtin.ofSpelling? (String.ofList (trim ty)) = none := by
    refine List.find?_eq_none.2 (fun b _ => ?_)
    rw [contains_startsDigit (by cases b <;> decide) (by rw [String.toList_ofList]; exact trimmed)]
    decide
  have name := splitTemplate_digit trimmed
  obtain ⟨d, more, front, first⟩ := exists_digit name
  have noList : TargetType.isListTemplate (splitTemplate (trim ty)).1 = false := by
    obtain ⟨-, -, -, -, -, -, notQ, -⟩ := digit_classes first
    rw [front]
    simp [TargetType.isListTemplate, notQ]
  have template : ∀ arguments, TargetType.ofTemplate (splitTemplate (trim ty)).1 arguments =
      TargetType.ofTemplate.classNamed (splitTemplate (trim ty)).1 arguments := by
    intro arguments
    unfold TargetType.ofTemplate
    split
    · rw [noList, if_neg (by decide)]
    · rfl
  rw [TargetType.ofBasic, if_neg some, noBuiltin]
  exact ⟨_, _, name, template _⟩

/-- No code can be made for a type that begins with a digit. -/
theorem typeTokens_digit {ty : List Char} {stream : List Token} (h : startsDigit ty = true) :
    typeTokens (.ofBasic ty) ≠ .ok stream := by
  obtain ⟨name, arguments, digit, same⟩ := ofBasic_digit h
  obtain ⟨first, mem, starts⟩ := splitScopes_digit digit
  rw [same, TargetType.ofTemplate.classNamed, typeTokens.eq_def]
  intro made
  obtain ⟨names, checked, -⟩ := bind_ok made
  obtain ⟨id, -, one⟩ := exists_right_of_mem (forall₂_of_mapM checked) (List.mem_map_of_mem mem)
  exact escaped_digit (by rw [String.toList_ofList]; exact startsDigit_trim starts) one

end ScriptBridge.Declared

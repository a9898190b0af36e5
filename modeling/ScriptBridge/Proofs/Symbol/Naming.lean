import ScriptBridge.Proofs.Token.Identifier
import ScriptBridge.Symbol.Naming

/-!
# ScriptBridge.Proofs.Symbol.Naming

What a module name can hold.

A class may have any text for a name, and its module names a file.  Of the ASCII characters only letters, digits and
`_` can come into a module name: words hold nothing else, lower case adds nothing else, and words are joined by `_`.
Whatever separates the parts of a path or sets off a raw identifier is gone.

Main results:
  * `tame_moduleName` - the ASCII characters of a module name are letters, digits and `_`;
  * `slash_notMem_moduleName` - a module name is a single part of a path;
  * `name_escaped_moduleName` - the identifier of a module has the name of the module.
-/

namespace ScriptBridge.Text

/-! ## §1. Lower case. -/

/-- If the character is ASCII, it is a letter, a digit or `_`. -/
def Tame (c : Char) : Prop :=
  isAscii c = true → c.isAlphanum = true ∨ c = '_'

/-- A character beyond ASCII is tame. -/
theorem Tame.of_not_ascii {c : Char} (h : isAscii c = false) : Tame c := by
  intro ascii
  rw [h] at ascii
  cases ascii

/-- The characters of words are tame. -/
theorem Tame.of_isWordChar {c : Char} (h : isWordChar c = true) : Tame c := by
  intro ascii
  rw [isWordChar, if_pos ascii] at h
  exact .inl h

/-- The forms of a run lie beyond ASCII, with the Kelvin sign as the only exception. -/
def formsBeyondAscii (entry : (Nat × Nat × Nat) × Nat) : Bool :=
  entry == ((0x212A, 1, 0x212A), 0x6B) ||
    (128 ≤ entry.2 && (entry.2 + (entry.1.2.2 - entry.1.1) < 0xD800 ||
      (0xDFFF < entry.2 && entry.2 + (entry.1.2.2 - entry.1.1) < 0x110000)))

/-- All lower cases in the table lie beyond ASCII, that of the Kelvin sign apart. -/
theorem lowerForms_beyondAscii : lowerForms.all formsBeyondAscii = true := by
  decide +kernel

/-- A code point beyond ASCII is that of a character beyond ASCII. -/
theorem isAscii_ofNat {n : Nat} (beyond : 128 ≤ n) (valid : n < 0xD800 ∨ 0xDFFF < n ∧ n < 0x110000) :
    isAscii (Char.ofNat n) = false := by
  have known : n.isValidChar := valid
  have same : (Char.ofNat n).toNat = n := by
    rw [Char.ofNat, dif_pos known]
    rfl
  rw [isAscii, same]
  exact decide_eq_false (by omega)

/-- The lower case that the table gives for a character is tame. -/
theorem tame_lowerForm? {c d : Char} (h : lowerForm? c = some d) : Tame d := by
  obtain ⟨entry, found, rfl⟩ := Option.map_eq_some_iff.1 h
  have within := List.find?_some found
  have checked := List.all_eq_true.1 lowerForms_beyondAscii entry (List.mem_of_find?_eq_some found)
  simp only [goesThrough, Bool.and_eq_true, decide_eq_true_eq] at within
  unfold formsBeyondAscii at checked
  rcases Bool.or_eq_true_iff.1 checked with kelvin | beyond
  · obtain rfl := eq_of_beq kelvin
    have only : c.toNat - 0x212A = 0 := Nat.sub_eq_zero_of_le within.1.2
    rw [only]
    exact fun _ => .inl rfl
  · simp only [Bool.and_eq_true, Bool.or_eq_true, decide_eq_true_eq] at beyond
    exact .of_not_ascii (isAscii_ofNat (by omega) (by omega))

/-- Letters and digits stay so in lower case. -/
theorem isAlphanum_toLower {c : Char} (h : c.isAlphanum = true) : c.toLower.isAlphanum = true := by
  have each := forall_ascii (p := fun c => !c.isAlphanum || c.toLower.isAlphanum) (by decide +kernel)
    (isAscii_of_isAlphanum h)
  simpa [h] using each

/-- Lower case makes nothing but letters and digits of the characters of words, as far as ASCII goes. -/
theorem tame_toLower {c d : Char} (word : isWordChar c = true) (mem : d ∈ toLower c) : Tame d := by
  unfold toLower at mem
  split at mem
  next ascii =>
    obtain rfl := List.mem_singleton.1 mem
    rw [isWordChar, if_pos ascii] at word
    exact fun _ => .inl (isAlphanum_toLower word)
  next beyond =>
    split at mem
    next =>
      rcases List.mem_cons.1 mem with rfl | mem
      · exact fun _ => .inl rfl
      · obtain rfl := List.mem_singleton.1 mem
        exact .of_not_ascii rfl
    next =>
      obtain rfl := List.mem_singleton.1 mem
      -- what has no lower form is kept as it is
      cases form : lowerForm? c with
      | none => exact .of_isWordChar word
      | some d => exact tame_lowerForm? form

/-- A word is tame in lower case. -/
theorem tame_lowerWord {word : List Char} (h : ∀ c ∈ word, isWordChar c = true) : ∀ d ∈ lowerWord word, Tame d := by
  intro d mem
  fun_induction lowerWord word with
  | case1 => cases mem
  | case2 =>
    -- the final sigma
    obtain rfl := List.mem_singleton.1 mem
    exact .of_not_ascii rfl
  | case3 c rest _ ih =>
    rcases List.mem_append.1 mem with first | later
    · exact tame_toLower (h c List.mem_cons_self) first
    · exact ih (fun other known => h other (List.mem_cons_of_mem c known)) later

/-! ## §2. Words. -/

/-- The pieces between separators hold characters of the text, but no separator. -/
theorem of_mem_splitOnP {p : Char → Bool} {s piece : List Char} (here : piece ∈ s.splitOnP p) {c : Char}
    (mem : c ∈ piece) : c ∈ s ∧ p c = false := by
  induction s generalizing piece with
  | nil =>
    obtain rfl : piece = [] := by simpa using here
    cases mem
  | cons first rest ih =>
    rw [List.splitOnP_cons_eq_if_modifyHead] at here
    split at here
    next =>
      rcases List.mem_cons.1 here with rfl | here
      · cases mem
      · exact (ih here mem).imp_left (List.mem_cons_of_mem first)
    next plain =>
      -- the first character is put in front of the first piece of the rest
      obtain ⟨head, others, pieces⟩ := List.exists_cons_of_ne_nil (List.splitOnP_ne_nil p rest)
      rw [pieces] at here ih
      rcases List.mem_cons.1 here with rfl | here
      · rcases List.mem_cons.1 mem with rfl | mem
        · exact ⟨List.mem_cons_self, Bool.eq_false_iff.2 plain⟩
        · exact (ih List.mem_cons_self mem).imp_left (List.mem_cons_of_mem first)
      · exact (ih (List.mem_cons_of_mem head here) mem).imp_left (List.mem_cons_of_mem first)

/-- Cutting a piece into words adds no characters. -/
theorem mem_of_mem_cutWords {mode : WordMode} {word piece : List Char} {w : List Char}
    (here : w ∈ cutWords mode word piece) {c : Char} (mem : c ∈ w) : c ∈ word ∨ c ∈ piece := by
  fun_induction cutWords mode word piece with
  | case1 => cases here
  | case2 =>
    obtain rfl := List.mem_singleton.1 here
    exact .inl (List.mem_reverse.1 mem)
  | case3 =>
    obtain rfl := List.mem_singleton.1 here
    rcases List.mem_cons.1 (List.mem_reverse.1 mem) with rfl | mem
    · exact .inr List.mem_cons_self
    · exact .inl mem
  | case4 mode word c next rest _ ih =>
    -- a word ends behind `c`
    rcases List.mem_cons.1 here with rfl | here
    · rcases List.mem_cons.1 (List.mem_reverse.1 mem) with rfl | mem
      · exact .inr List.mem_cons_self
      · exact .inl mem
    · rcases ih here with none | later
      · cases none
      · exact .inr (List.mem_cons_of_mem c later)
  | case5 mode word c next rest _ _ ih =>
    -- a word ends in front of `c`
    rcases List.mem_cons.1 here with rfl | here
    · exact .inl (List.mem_reverse.1 mem)
    · rcases ih here with only | later
      · obtain rfl := List.mem_singleton.1 only
        exact .inr List.mem_cons_self
      · exact .inr (List.mem_cons_of_mem c later)
  | case6 mode word c next rest _ _ ih =>
    rcases ih here with known | later
    · rcases List.mem_cons.1 known with rfl | known
      · exact .inr List.mem_cons_self
      · exact .inl known
    · exact .inr (List.mem_cons_of_mem c later)

/-- The words of a text are made of characters of words. -/
theorem isWordChar_of_mem_caseWords {s word : List Char} (here : word ∈ caseWords s) {c : Char} (mem : c ∈ word) :
    isWordChar c = true := by
  obtain ⟨piece, split, cut⟩ := List.mem_flatMap.1 here
  rcases mem_of_mem_cutWords cut mem with none | mem
  · cases none
  · simpa using (of_mem_splitOnP split mem).2

/-- What stands in a joined text stands in the separator or in a part. -/
theorem mem_intercalate {separator : List Char} {parts : List (List Char)} {c : Char}
    (mem : c ∈ List.intercalate separator parts) : c ∈ separator ∨ ∃ part ∈ parts, c ∈ part := by
  induction parts with
  | nil => cases mem
  | cons part parts ih =>
    cases parts with
    | nil =>
      rw [List.intercalate_singleton] at mem
      exact .inr ⟨part, List.mem_cons_self, mem⟩
    | cons next parts =>
      rw [List.intercalate_cons_cons] at mem
      rcases List.mem_append.1 mem with front | later
      · rcases List.mem_append.1 front with here | between
        · exact .inr ⟨part, List.mem_cons_self, here⟩
        · exact .inl between
      · rcases ih later with between | ⟨other, known, here⟩
        · exact .inl between
        · exact .inr ⟨other, List.mem_cons_of_mem part known, here⟩

/-- The words of a name in snake case are tame. -/
theorem tame_snakeWords (s : List Char) : ∀ c ∈ snakeWords s, Tame c := by
  intro c mem
  rcases mem_intercalate mem with between | ⟨lowered, known, here⟩
  · obtain rfl := List.mem_singleton.1 between
    exact fun _ => .inr rfl
  · obtain ⟨word, cut, rfl⟩ := List.mem_map.1 known
    exact tame_lowerWord (fun d inside => isWordChar_of_mem_caseWords cut inside) c here

end ScriptBridge.Text

namespace ScriptBridge.Symbol

open ScriptBridge.Text ScriptBridge.Token

/-! ## §3. Module names. -/

/-- **Snake case is tame**: of ASCII, only letters, digits and underscores stand in it. -/
theorem tame_snakeCase (name : String) : ∀ c ∈ (snakeCase name).toList, Tame c := by
  have table : fixedSnakeCase.all (fun entry => entry.2.toList.all (fun c => c.isAlphanum || c == '_')) = true := by
    decide
  unfold snakeCase
  split
  next fixed found =>
    intro c mem ascii
    obtain ⟨before, after, here, -⟩ := List.lookup_eq_some_iff.1 found
    have entry := List.all_eq_true.1 table (name, fixed) (by rw [here]; simp)
    simpa using List.all_eq_true.1 entry c mem
  next =>
    rw [String.toList_ofList]
    exact tame_snakeWords _

/-- **The ASCII characters of a module name are letters, digits and `_`**, whatever the class is called. -/
theorem tame_moduleName (className : String) : ∀ c ∈ (moduleName className).toList, Tame c :=
  tame_snakeCase _

/-- A module name is one part of a path. -/
theorem slash_notMem_moduleName (className : String) : '/' ∉ (moduleName className).toList := by
  intro mem
  rcases tame_moduleName className '/' mem rfl with alphanumeric | underscore
  · cases alphanumeric
  · cases underscore

/-- No module name looks like a raw identifier. -/
theorem hash_notMem_moduleName (className : String) : '#' ∉ (moduleName className).toList := by
  intro mem
  rcases tame_moduleName className '#' mem rfl with alphanumeric | underscore
  · cases alphanumeric
  · cases underscore

/-- The identifier of a module has the name of the module; only keywords are raw. -/
theorem name_escaped_moduleName {className : String} {id : Identifier}
    (h : Identifier.escaped (moduleName className) = .ok id) :
    id.name = moduleName className ∧ (id.raw = true ↔ Identifier.keywords.contains (moduleName className) = true) := by
  unfold Identifier.escaped at h
  split at h
  next keyword =>
    have raised : id.raw = true := by rw [(Identifier.prefixed_eq_ok h).2.2]
    exact ⟨Identifier.name_prefixed h, iff_of_true raised keyword⟩
  next free =>
    unfold Identifier.ofText at h
    split at h
    next rest spelled =>
      -- no module name begins with `r#`
      exact absurd (spelled ▸ List.mem_cons_of_mem 'r' List.mem_cons_self) (hash_notMem_moduleName className)
    next =>
      have bare : id.raw = false := by rw [(Identifier.plain_eq_ok h).2]
      exact ⟨Identifier.name_plain h, iff_of_false (bare ▸ Bool.false_ne_true) free⟩

end ScriptBridge.Symbol

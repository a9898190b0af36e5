import ScriptBridge.Declared.CanonicalId

/-!
# ScriptBridge.Proofs.Declared.CanonicalId

Identifier fragments read back.

A fragment is a series of codes, of which `readCode?` reads the first one, whatever follows.  `readId` reads codes for
as long as there are any.  A single underscore that no digit follows is no code, so fragments that are set apart by
underscores are read back one by one.

Main results:
  * `readId_canonicalId` — a fragment is read back, up to where its codes end;
  * `spelled_injective` — fragments set apart by underscores determine their texts;
  * `letters_suffix` — letters at the end of a fragment are letters at the end of its text;
  * `canonicalIdText_reversible` — every fragment stands for one text, and what fragments look like.
-/

namespace ScriptBridge.Text

/-- ASCII letters, digits and the underscore. -/
def isNameChar (c : Char) : Bool :=
  c.isAlphanum || c == '_'

end ScriptBridge.Text

namespace ScriptBridge.Declared

open ScriptBridge.Text

/-! ## §1. Codes. -/

/-- The character that a code digit stands for. -/
def signOfCode? (digit : Char) : Option Char :=
  match digit with
  | '0' => some ' '
  | '1' => some '_'
  | '3' => some '<'
  | '4' => some '>'
  | '5' => some ','
  | '6' => some '*'
  | '7' => some '&'
  | _ => none

/-- Reads the first code: what it stands for, and what follows. -/
def readCode? : List Char → Option (List Char × List Char)
  | [] => none
  | '_' :: '2' :: rest => some ([':', ':'], rest)
  | '_' :: '9' :: rest =>
    match rest.dropWhile Char.isDigit with
    | '_' :: after => some ([Char.ofNat (Nat.ofDigitChars 10 (rest.takeWhile Char.isDigit) 0)], after)
    | _ => none
  | '_' :: digit :: rest => (signOfCode? digit).map (fun sign => ([sign], rest))
  | c :: rest => if c.isAlphanum then some ([c], rest) else none

/-- The code of a sign is read back as the sign, and is not one of the codes that begin others. -/
theorem typeSignCode_eq {c code : Char} (h : typeSignCode c = some code) :
    signOfCode? code = some c ∧ code ≠ '2' ∧ code ≠ '9' := by
  unfold typeSignCode at h
  split at h
  all_goals cases h
  all_goals decide

/-- The code of a character is read back, whatever follows. -/
theorem readCode?_canonicalChar (c : Char) (rest : List Char) :
    readCode? (canonicalChar c ++ rest) = some ([c], rest) := by
  unfold canonicalChar
  split
  next alphanum =>
    have plain : c ≠ '_' := by
      rintro rfl
      cases alphanum
    unfold readCode?
    simp [alphanum, plain]
  next =>
    split
    next code sign =>
      obtain ⟨back, notScope, notNumber⟩ := typeSignCode_eq sign
      rw [List.cons_append, List.cons_append, List.nil_append,
        readCode?.eq_4 _ _ notScope notNumber, back]
      rfl
    next =>
      -- a number is read up to the underscore behind it, which is no digit
      have digits : ∀ d ∈ Nat.toDigits 10 c.toNat, d.isDigit = true :=
        fun d mem => Nat.isDigit_of_mem_toDigits (by decide) (by decide) mem
      have taken : ∀ after, (Nat.toDigits 10 c.toNat ++ after).takeWhile Char.isDigit =
          Nat.toDigits 10 c.toNat ++ after.takeWhile Char.isDigit := fun _ => List.takeWhile_append_of_pos digits
      have left : ∀ after, (Nat.toDigits 10 c.toNat ++ after).dropWhile Char.isDigit =
          after.dropWhile Char.isDigit := fun _ => List.dropWhile_append_of_pos digits
      simp [readCode?, taken, left]

/-- A code that was read is gone from the text. -/
theorem length_readCode? {s text rest : List Char} (h : readCode? s = some (text, rest)) : rest.length < s.length := by
  -- every code takes a character at least, and a number the underscore behind it
  unfold readCode? at h
  split at h
  next => cases h
  next =>
    cases h
    simp only [List.length_cons]
    omega
  next after =>
    split at h
    next rest left =>
      cases h
      have le := (List.dropWhile_sublist (p := Char.isDigit) (l := after)).length_le
      rw [left, List.length_cons] at le
      simp only [List.length_cons]
      omega
    next => cases h
  next =>
    obtain ⟨sign, -, same⟩ := Option.map_eq_some_iff.1 h
    cases same
    simp only [List.length_cons]
    omega
  next =>
    split at h
    · cases h
      simp
    · cases h

/-- Reads codes for as long as there are any: what they stand for, and what follows. -/
def readId (s : List Char) : List Char × List Char :=
  match _h : readCode? s with
  | some (text, rest) => (text ++ (readId rest).1, (readId rest).2)
  | none => ([], s)
termination_by s.length
decreasing_by all_goals exact length_readCode? _h

/-- A code in front is read first, and then the rest. -/
theorem readId_code {s text rest : List Char} (h : readCode? s = some (text, rest)) :
    readId s = (text ++ (readId rest).1, (readId rest).2) := by
  rw [readId.eq_def]
  split
  next other same =>
    rw [h] at same
    cases same
    rfl
  next none =>
    rw [h] at none
    cases none

/-- Where no code stands, reading stops. -/
theorem readId_stop {s : List Char} (h : readCode? s = none) : readId s = ([], s) := by
  rw [readId.eq_def]
  split
  next some =>
    rw [h] at some
    cases some
  next => rfl

/-- A character that does not begin a scope separator has a code of its own. -/
theorem canonicalId_cons {c : Char} {s : List Char} (single : ∀ rest : List Char, c = ':' → s = ':' :: rest → False) :
    canonicalId (c :: s) = canonicalChar c ++ canonicalId s :=
  canonicalId.eq_3 c s single

/-- A text is empty, or begins with a scope separator, or with another character. -/
theorem canonicalId_induction {P : List Char → Prop} (nil : P []) (scope : ∀ s, P s → P (':' :: ':' :: s))
    (char : ∀ c s, (∀ rest : List Char, c = ':' → s = ':' :: rest → False) → P s → P (c :: s)) (s : List Char) : P s :=
  canonicalId.induct P nil scope char s

/-- A fragment is read back, up to where its codes end. -/
theorem readId_canonicalId (s : List Char) {rest : List Char} (stop : readCode? rest = none) :
    readId (canonicalId s ++ rest) = (s, rest) := by
  induction s using canonicalId_induction with
  | nil => exact readId_stop stop
  | scope s ih =>
    have first : readCode? (canonicalId (':' :: ':' :: s) ++ rest) = some ([':', ':'], canonicalId s ++ rest) := rfl
    rw [readId_code first, ih]
    rfl
  | char c s single ih =>
    rw [canonicalId_cons single, List.append_assoc, readId_code (readCode?_canonicalChar c _), ih]
    rfl

/-! ## §2. Letters. -/

/-- A code that ends with a letter is that letter. -/
theorem canonicalChar_letter {c d : Char} {front : List Char} (h : canonicalChar c = front ++ [d])
    (letter : d.isAlpha = true) : canonicalChar c = [c] := by
  unfold canonicalChar at h ⊢
  split
  next => rfl
  next other =>
    rw [if_neg other] at h
    split at h
    next code sign =>
      have parts : ['_'] ++ [code] = front ++ [d] := h
      -- codes of signs are digits
      obtain rfl : code = d := List.singleton_inj.1 (List.append_inj_right' parts rfl)
      unfold typeSignCode at sign
      split at sign
      all_goals
        cases sign
        try cases letter
    next =>
      obtain rfl : '_' = d := List.singleton_inj.1 (List.append_inj_right' h rfl)
      cases letter

/-- Every character is written as something. -/
theorem canonicalChar_ne_nil (c : Char) : canonicalChar c ≠ [] := by
  intro none
  have read := readCode?_canonicalChar c []
  rw [none] at read
  cases read

/-- A fragment of letters only is its text. -/
theorem canonicalId_of_letters (s : List Char) (letters : ∀ d ∈ canonicalId s, d.isAlpha = true) :
    canonicalId s = s := by
  induction s using canonicalId_induction with
  | nil => rfl
  | scope s =>
    have underscore := letters '_' (by simp [canonicalId])
    cases underscore
  | char c s single ih =>
    rw [canonicalId_cons single] at letters ⊢
    obtain none | ⟨front, d, code⟩ := List.eq_nil_or_concat (canonicalChar c)
    · exact absurd none (canonicalChar_ne_nil c)
    · rw [List.concat_eq_append] at code
      have letter := letters d (List.mem_append_left _ (by simp [code]))
      rw [canonicalChar_letter code letter, ih (fun d mem => letters d (List.mem_append_right _ mem))]
      rfl

/-- Letters at the end of a fragment are letters at the end of its text. -/
theorem letters_suffix (s : List Char) {w : List Char} (letters : ∀ c ∈ w, c.isAlpha = true)
    (h : w <:+ canonicalId s) : w <:+ s := by
  induction s using canonicalId_induction with
  | nil => exact h
  | scope s ih =>
    have behind : ∀ {c : Char} {rest : List Char}, c.isAlpha = false → w <:+ c :: rest → w <:+ rest := by
      intro c rest other h
      rcases List.suffix_cons_iff.1 h with rfl | h
      · exact absurd (letters c (by simp)) (by simp [other])
      · exact h
    exact ((ih (behind (by decide) (behind (by decide) h))).trans (List.suffix_cons _ _)).trans (List.suffix_cons _ _)
  | char c s single ih =>
    rw [canonicalId_cons single] at h
    -- the letters stand behind the first code, or they begin inside it
    rcases List.suffix_or_suffix_of_suffix h (List.suffix_append _ _) with behind | ⟨v, rfl⟩
    · exact (ih behind).trans (List.suffix_cons _ _)
    · have rest : canonicalId s = s := canonicalId_of_letters s (fun d mem => letters d (List.mem_append_right _ mem))
      rw [rest] at h letters ⊢
      obtain rfl | ⟨front, d, rfl⟩ := List.eq_nil_or_concat v
      · exact List.suffix_cons _ _
      · rw [List.concat_eq_append] at h letters ⊢
        obtain ⟨before, same⟩ := h
        have code : before ++ front ++ [d] = canonicalChar c := by
          rw [← List.append_assoc] at same
          rw [← List.append_cancel_right same, List.append_assoc]
        have letter := canonicalChar_letter code.symm (letters d (by simp))
        rw [letter] at code
        exact ⟨before, by rw [← List.append_assoc, ← List.append_assoc, code]; rfl⟩

/-- Letters are written as they are. -/
theorem canonicalId_letters {w : List Char} (letters : ∀ c ∈ w, c.isAlpha = true) : canonicalId w = w := by
  induction w with
  | nil => rfl
  | cons c w ih =>
    have alpha := letters c (by simp)
    have single : ∀ rest : List Char, c = ':' → w = ':' :: rest → False := by
      rintro rest rfl
      cases alpha
    rw [canonicalId_cons single, canonicalChar, if_pos (by simp [Char.isAlphanum, alpha]),
      ih (fun other mem => letters other (by simp [mem]))]
    rfl

/-! ## §3. Fragments set apart by underscores. -/

/-- The fragments of some texts, each behind an underscore. -/
def spelled : List (List Char) → List Char
  | [] => []
  | s :: texts => '_' :: canonicalId s ++ spelled texts

/-- Whether a text begins with a digit. -/
def startsDigit (s : List Char) : Bool :=
  s.head?.any Char.isDigit

/-- Only digits are the codes of signs. -/
theorem signOfCode?_eq_none {digit : Char} (h : digit.isDigit = false) : signOfCode? digit = none := by
  unfold signOfCode?
  split
  all_goals first | rfl | cases h

/-- An underscore that no digit follows is no code. -/
theorem readCode?_underscore {s : List Char} (h : startsDigit s = false) : readCode? ('_' :: s) = none := by
  unfold readCode?
  split
  next => rfl
  next same =>
    cases same
    cases h
  next same =>
    cases same
    cases h
  next same =>
    cases same
    rw [signOfCode?_eq_none (by simpa [startsDigit] using h)]
    rfl
  next same =>
    cases same
    rfl

/-- A text that does not begin with a digit is not written with one in front. -/
theorem startsDigit_canonicalId {s rest : List Char} (h : startsDigit s = false) (next : startsDigit rest = false) :
    startsDigit (canonicalId s ++ rest) = false := by
  cases s using canonicalId_induction with
  | nil => exact next
  | scope => rfl
  | char c s single =>
    rw [canonicalId_cons single, canonicalChar]
    split
    · exact h
    · split <;> rfl

/-- The underscore in front of a text is not read as a code. -/
theorem readCode?_spelled {texts : List (List Char)} (h : ∀ s ∈ texts.head?, startsDigit s = false) :
    readCode? (spelled texts) = none := by
  cases texts with
  | nil => rfl
  | cons s texts =>
    refine readCode?_underscore (startsDigit_canonicalId (h s rfl) ?_)
    cases texts <;> rfl

/-- Fragments set apart by underscores determine their texts, if none but the first begins with a digit. -/
theorem spelled_injective {texts others : List (List Char)} (first : ∀ s ∈ texts.tail, startsDigit s = false)
    (second : ∀ s ∈ others.tail, startsDigit s = false) (h : spelled texts = spelled others) : texts = others := by
  induction texts generalizing others with
  | nil =>
    cases others with
    | nil => rfl
    | cons s others => cases h
  | cons s texts ih =>
    cases others with
    | nil => cases h
    | cons other others =>
      have head : ∀ l : List (List Char), (∀ s ∈ l, startsDigit s = false) → ∀ s ∈ l.head?, startsDigit s = false :=
        fun l all s mem => all s (List.mem_of_head? mem)
      -- the first fragment is read back from either side, so the first texts are the same
      have one := readId_canonicalId s (readCode?_spelled (head texts first))
      have two := readId_canonicalId other (readCode?_spelled (head others second))
      have same : canonicalId s ++ spelled texts = canonicalId other ++ spelled others := (List.cons.inj h).2
      rw [same, two] at one
      obtain ⟨rfl, rest⟩ := Prod.mk.inj one
      exact congrArg (List.cons _) (ih (fun t mem => first t (List.mem_of_mem_tail mem))
        (fun t mem => second t (List.mem_of_mem_tail mem)) rest.symm)

theorem spelled_cons (s : List Char) (texts : List (List Char)) :
    spelled (s :: texts) = '_' :: (canonicalId s ++ spelled texts) := rfl

/-- Texts are spelled one behind the other. -/
theorem spelled_append (texts others : List (List Char)) :
    spelled (texts ++ others) = spelled texts ++ spelled others := by
  induction texts with
  | nil => rfl
  | cons s texts ih => simp [spelled, ih]

/-- Fragments joined by underscores behind a first part. -/
theorem intercalate_fragments (first : List Char) (texts : List (List Char)) :
    List.intercalate ['_'] (first :: texts.map canonicalId) = first ++ spelled texts := by
  induction texts generalizing first with
  | nil => simp [spelled]
  | cons s texts ih =>
    rw [List.map_cons, List.intercalate_cons_cons, ih]
    simp [spelled]

/-- Letters at the end of fragments set apart by underscores are letters at the end of the last text. -/
theorem letters_suffix_spelled (texts : List (List Char)) (s : List Char) {w : List Char}
    (letters : ∀ c ∈ w, c.isAlpha = true) (h : w <:+ spelled (texts ++ [s])) : w <:+ s := by
  rw [spelled_append, spelled, spelled, List.append_nil] at h
  rcases List.suffix_or_suffix_of_suffix h (List.suffix_append _ _) with behind | ⟨v, same⟩
  · rcases List.suffix_cons_iff.1 behind with rfl | behind
    · exact absurd (letters '_' (by simp)) (by decide)
    · exact letters_suffix s letters behind
  · exact absurd (letters '_' (by simp [← same])) (by decide)

/-! ## §4. Reading back. -/

/-- The text that a fragment stands for. -/
def decodedId (id : String) : String :=
  String.ofList (readId id.toList).1

/-- **The identifier of a text is decoded to the text**, as strings. -/
theorem decodedId_canonicalIdText (s : String) : decodedId (canonicalIdText s) = s := by
  have read : readId (canonicalId s.toList) = (s.toList, []) := by
    have stop : readCode? [] = none := rfl
    simpa using readId_canonicalId s.toList stop
  rw [decodedId, canonicalIdText, String.toList_ofList, read, String.ofList_toList]

/-- Digits belong to names. -/
theorem isNameChar_of_isDigit {c : Char} (h : c.isDigit = true) : isNameChar c = true := by
  simp [isNameChar, Char.isAlphanum, h]

/-- The codes of signs belong to names. -/
theorem isNameChar_typeSignCode {c code : Char} (h : typeSignCode c = some code) : isNameChar code = true := by
  unfold typeSignCode at h
  split at h
  all_goals cases h
  all_goals rfl

/-- Fragments are made of characters of names. -/
theorem isNameChar_canonicalChar (c : Char) : ∀ d ∈ canonicalChar c, isNameChar d = true := by
  unfold canonicalChar
  split
  next alphanum => simp [isNameChar, alphanum]
  next =>
    split
    next code sign =>
      exact List.forall_mem_cons.2 ⟨rfl, List.forall_mem_singleton.2 (isNameChar_typeSignCode sign)⟩
    next =>
      have digits : ∀ d ∈ Nat.toDigits 10 c.toNat, isNameChar d = true :=
        fun d mem => isNameChar_of_isDigit (Nat.isDigit_of_mem_toDigits (by decide) (by decide) mem)
      intro d mem
      simp only [List.cons_append, List.nil_append, List.mem_cons, List.mem_append, List.not_mem_nil, or_false] at mem
      rcases mem with rfl | rfl | mem | rfl
      · rfl
      · rfl
      · exact digits d mem
      · rfl

/-- **The alphabet**: identifiers of texts are written in letters, digits and underscores. -/
theorem isNameChar_canonicalId (s : List Char) : ∀ d ∈ canonicalId s, isNameChar d = true := by
  induction s using canonicalId_induction with
  | nil => exact List.forall_mem_nil _
  | scope s ih => exact List.forall_mem_cons.2 ⟨rfl, List.forall_mem_cons.2 ⟨rfl, ih⟩⟩
  | char c s single ih =>
    rw [canonicalId_cons single]
    exact List.forall_mem_append.2 ⟨isNameChar_canonicalChar c, ih⟩

/-- Only a text of letters has itself for its fragment if that consists of letters. -/
theorem canonicalId_eq_letters_iff {s w : List Char} (letters : ∀ c ∈ w, c.isAlpha = true) :
    canonicalId s = w ↔ s = w := by
  constructor
  · intro same
    rw [← same] at letters
    rw [← same, canonicalId_of_letters s letters]
  · rintro rfl
    exact canonicalId_letters letters

/-- **Fragments can be read back.**  So no two texts share one.  They consist of ASCII letters, digits and underscores,
and only the word `const` has the fragment `const`. -/
theorem canonicalIdText_reversible :
    (∀ s, decodedId (canonicalIdText s) = s) ∧ Function.Injective canonicalIdText ∧
      (∀ s, ∀ c ∈ (canonicalIdText s).toList, c.isAlphanum = true ∨ c = '_') ∧
      ∀ s, canonicalIdText s = "const" ↔ s = "const" := by
  refine ⟨decodedId_canonicalIdText, Function.LeftInverse.injective decodedId_canonicalIdText, ?_, ?_⟩
  · intro s c mem
    rw [canonicalIdText, String.toList_ofList] at mem
    simpa [isNameChar] using isNameChar_canonicalId s.toList c mem
  · intro s
    have letters : ∀ c ∈ "const".toList, c.isAlpha = true := List.all_eq_true.1 (by decide)
    calc canonicalIdText s = "const"
      _ ↔ canonicalId s.toList = "const".toList := by
        rw [canonicalIdText, ← String.toList_inj, String.toList_ofList]
      _ ↔ s.toList = "const".toList := canonicalId_eq_letters_iff letters
      _ ↔ s = "const" := String.toList_inj

/-- A third colon in a row has a code that ends with an underscore, and what follows it is still read as it was. -/
theorem canonicalIdText_reversible_colons :
    decodedId (canonicalIdText "a:::2") = "a:::2" ∧ '_' ∈ (canonicalIdText "a:::2").toList ∧
      ('_'.isAlphanum = true ∨ '_' = '_') ∧ canonicalIdText "a:::2" = "a_2_958_2" := by
  have code : '_' ∈ (canonicalIdText "a:::2").toList := by decide
  exact ⟨canonicalIdText_reversible.1 _, code, canonicalIdText_reversible.2.2.1 _ _ code, by decide⟩

end ScriptBridge.Declared

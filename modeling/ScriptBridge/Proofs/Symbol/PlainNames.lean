import ScriptBridge.Proofs.Declared.BasicType
import ScriptBridge.Proofs.Symbol.Naming

/-!
# ScriptBridge.Proofs.Symbol.PlainNames

Plain names, and what is made of them.

A plain name is an ASCII letter followed by ASCII letters, digits and underscores.  It is an identifier, and so is its
snake-case form; the only plain name that is reserved and cannot be raised is `crate`.  `Usable` leaves out that one
and what becomes it in snake case.  `Scoped` names are joined by `::`: they fall into their parts again, and the module
of a usable one is a name that can be declared.

Main results:
  * `ofText_plain`, `escaped_plain` - a plain name is an identifier;
  * `plain_snakeCase` - snake case makes a plain name of a plain name;
  * `pathOf_scoped` - a scoped name is a path;
  * `plain_moduleName`, `moduleName_ne` - the module of a class with a usable name can be declared.
-/

namespace ScriptBridge.Text

/-! ## §1. Plain names. -/

/-- An ASCII letter, followed by ASCII letters, digits and underscores. -/
def isPlainName : List Char → Bool
  | [] => false
  | c :: rest => c.isAlpha && rest.all isNameChar

/-- What the characters of names are good for, and what they are not. -/
structure NameCharClasses (c : Char) : Prop where
  visible : isSpace c = false
  continues : isIdentContinue c = true
  colon : c ≠ ':'
  opening : c ≠ '<'
  closing : c ≠ '>'
  comma : c ≠ ','
  reference : c ≠ '&'
  pointer : c ≠ '*'

/-- The characters of names are ASCII. -/
theorem isAscii_of_isNameChar {c : Char} (h : isNameChar c = true) : isAscii c = true := by
  rcases Bool.or_eq_true_iff.1 h with alphanum | underscore
  · exact isAscii_of_isAlphanum alphanum
  · rw [eq_of_beq underscore]
    rfl

/-- The characters of names belong to words, and neither to paths nor to white space. -/
theorem isNameChar_classes {c : Char} (h : isNameChar c = true) : NameCharClasses c := by
  have each := forall_ascii (p := fun c => !isNameChar c || (!isSpace c && isIdentContinue c && c != ':' && c != '<' &&
    c != '>' && c != ',' && c != '&' && c != '*')) (by decide +kernel) (isAscii_of_isNameChar h)
  simp only [h, Bool.not_true, Bool.false_or, Bool.and_eq_true, Bool.not_eq_true', bne_iff_ne, ne_eq, and_assoc] at each
  obtain ⟨visible, continues, colon, opening, closing, comma, reference, pointer⟩ := each
  exact ⟨visible, continues, colon, opening, closing, comma, reference, pointer⟩

theorem isAlphanum_of_isAlpha {c : Char} (h : c.isAlpha = true) : c.isAlphanum = true := by
  simp [Char.isAlphanum, h]

/-- Letters belong to names. -/
theorem isNameChar_of_isAlpha {c : Char} (h : c.isAlpha = true) : isNameChar c = true := by
  rw [isNameChar, isAlphanum_of_isAlpha h, Bool.true_or]

section

variable {w : List Char}

/-- A plain name begins with a letter. -/
theorem exists_letter (h : isPlainName w = true) : ∃ c rest, w = c :: rest ∧ c.isAlpha = true ∧
    ∀ d ∈ rest, isNameChar d = true := by
  cases w with
  | nil => cases h
  | cons c rest =>
    obtain ⟨letter, others⟩ := Bool.and_eq_true_iff.1 h
    exact ⟨c, rest, rfl, letter, List.all_eq_true.1 others⟩

/-- A letter in front of characters of names makes a plain name. -/
theorem isPlainName_cons {c : Char} {rest : List Char} (letter : c.isAlpha = true)
    (others : ∀ d ∈ rest, isNameChar d = true) : isPlainName (c :: rest) = true :=
  Bool.and_eq_true_iff.2 ⟨letter, List.all_eq_true.2 others⟩

/-- All characters of a plain name are characters of names. -/
theorem isNameChar_of_mem (h : isPlainName w = true) {c : Char} (mem : c ∈ w) : isNameChar c = true := by
  obtain ⟨first, rest, rfl, letter, others⟩ := exists_letter h
  rcases List.mem_cons.1 mem with rfl | mem
  · exact isNameChar_of_isAlpha letter
  · exact others c mem

/-- A plain name may be made longer. -/
theorem isPlainName_append (h : isPlainName w = true) {more : List Char} (others : ∀ c ∈ more, isNameChar c = true) :
    isPlainName (w ++ more) = true := by
  obtain ⟨first, rest, rfl, letter, known⟩ := exists_letter h
  refine isPlainName_cons letter (fun d mem => ?_)
  rcases List.mem_append.1 mem with mem | mem
  · exact known d mem
  · exact others d mem

end

/-! ## §2. Scoped names. -/

/-- Names with a property, joined by `::`. -/
inductive Scoped (P : List Char → Prop) : List Char → Prop
  | one {w : List Char} (part : P w) : Scoped P w
  | cons {w s : List Char} (part : P w) (rest : Scoped P s) : Scoped P (w ++ ':' :: ':' :: s)

section

variable {P : List Char → Prop} {s : List Char}

/-- A part without colons is split off. -/
theorem splitScopes_part {w : List Char} (free : ∀ c ∈ w, c ≠ ':') (s : List Char) :
    splitScopes (w ++ ':' :: ':' :: s) = w :: splitScopes s := by
  induction w with
  | nil => rfl
  | cons c w ih =>
    obtain ⟨here, later⟩ := List.forall_mem_cons.1 free
    rw [List.cons_append, splitScopes.eq_3 _ _ (fun _ colon _ => here colon), ih later]
    rfl

/-- A text without colons is one part. -/
theorem splitScopes_single {w : List Char} (free : ∀ c ∈ w, c ≠ ':') : splitScopes w = [w] := by
  induction w with
  | nil => rfl
  | cons c w ih =>
    obtain ⟨here, later⟩ := List.forall_mem_cons.1 free
    rw [splitScopes.eq_3 _ _ (fun _ colon _ => here colon), ih later]
    rfl

/-- No colon stands in a plain name. -/
theorem colon_free {w : List Char} (h : isPlainName w = true) : ∀ c ∈ w, c ≠ ':' :=
  fun _ mem => (isNameChar_classes (isNameChar_of_mem h mem)).colon

/-- A scoped name falls into its parts. -/
theorem Scoped.of_mem_splitScopes (plain : ∀ {w}, P w → isPlainName w = true) (h : Scoped P s) :
    ∀ part ∈ splitScopes s, P part := by
  induction h with
  | one part =>
    rw [splitScopes_single (colon_free (plain part))]
    exact List.forall_mem_singleton.2 part
  | cons part _ ih =>
    rw [splitScopes_part (colon_free (plain part))]
    exact List.forall_mem_cons.2 ⟨part, ih⟩

/-- A scoped name begins with a letter and goes on with characters of names and colons. -/
theorem Scoped.exists_letter (plain : ∀ {w}, P w → isPlainName w = true) (h : Scoped P s) :
    ∃ c rest, s = c :: rest ∧ c.isAlpha = true ∧ ∀ d ∈ rest, isNameChar d = true ∨ d = ':' := by
  induction h with
  | one part =>
    obtain ⟨c, rest, rfl, letter, others⟩ := Text.exists_letter (plain part)
    exact ⟨c, rest, rfl, letter, fun d mem => .inl (others d mem)⟩
  | cons part _ ih =>
    obtain ⟨c, rest, rfl, letter, others⟩ := Text.exists_letter (plain part)
    obtain ⟨first, later, rfl, initial, more⟩ := ih
    refine ⟨c, _, List.cons_append, letter, fun d mem => ?_⟩
    simp only [List.mem_append, List.mem_cons] at mem
    rcases mem with here | rfl | rfl | rfl | there
    · exact .inl (others d here)
    · exact .inr rfl
    · exact .inr rfl
    · exact .inl (isNameChar_of_isAlpha initial)
    · exact more d there

end

/-! ## §3. Replaced pairs. -/

section

variable {a b : Char} {new : List Char}

/-- Where no pair begins, nothing is replaced. -/
theorem replacePair_cons {c : Char} (other : c ≠ a) (rest : List Char) :
    replacePair a b new (c :: rest) = c :: replacePair a b new rest := by
  cases rest with
  | nil => rfl
  | cons d rest => rw [replacePair, if_neg (fun both => other both.1)]

/-- A character that belongs to no pair parts the text. -/
theorem replacePair_append (x y : List Char) {c : Char} (first : c ≠ a) (second : c ≠ b) :
    replacePair a b new (x ++ c :: y) = replacePair a b new x ++ c :: replacePair a b new y := by
  fun_induction replacePair a b new x with
  | case1 => exact replacePair_cons first y
  | case2 d =>
    rw [List.singleton_append, replacePair, if_neg (fun both => second both.2), replacePair_cons first]
    rfl
  | case3 d e rest pair ih =>
    rw [List.cons_append, List.cons_append, replacePair, if_pos pair, ih, List.append_assoc]
  | case4 d e rest apart ih =>
    rw [List.cons_append, List.cons_append, replacePair, if_neg apart, ← List.cons_append, ih]
    rfl

/-- What is in the text afterwards was put there or was there before. -/
theorem mem_replacePair {s : List Char} {c : Char} (mem : c ∈ replacePair a b new s) : c ∈ new ∨ c ∈ s := by
  fun_induction replacePair a b new s with
  | case1 => cases mem
  | case2 => exact .inr mem
  | case3 d e rest _ ih =>
    rcases List.mem_append.1 mem with here | later
    · exact .inl here
    · exact (ih later).imp_right (fun known => List.mem_cons_of_mem d (List.mem_cons_of_mem e known))
  | case4 d e rest _ ih =>
    rcases List.mem_cons.1 mem with rfl | later
    · exact .inr List.mem_cons_self
    · exact (ih later).imp_right (List.mem_cons_of_mem d)

/-- Replacing a pair that begins with no letter leaves a plain name plain. -/
theorem plain_replacePair {w : List Char} (h : isPlainName w = true) (digit : a.isAlpha = false)
    (names : ∀ c ∈ new, isNameChar c = true) : isPlainName (replacePair a b new w) = true := by
  obtain ⟨c, rest, rfl, letter, others⟩ := exists_letter h
  have apart : c ≠ a := by
    rintro rfl
    rw [digit] at letter
    cases letter
  rw [replacePair_cons apart]
  exact isPlainName_cons letter (fun d mem => (mem_replacePair mem).elim (names d) (others d))

/-- The first pair in a text is replaced, and then those behind it. -/
theorem replacePair_part {w : List Char} (free : ∀ c ∈ w, c ≠ ':') (s : List Char) :
    replacePair ':' ':' new (w ++ ':' :: ':' :: s) = w ++ (new ++ replacePair ':' ':' new s) := by
  induction w with
  | nil => simp [replacePair]
  | cons c w ih =>
    obtain ⟨here, later⟩ := List.forall_mem_cons.1 free
    rw [List.cons_append, replacePair_cons here, ih later]
    rfl

/-- In a text without colons there is no pair to replace. -/
theorem replacePair_single {w : List Char} (free : ∀ c ∈ w, c ≠ ':') : replacePair ':' ':' new w = w := by
  induction w with
  | nil => rfl
  | cons c w ih =>
    obtain ⟨here, later⟩ := List.forall_mem_cons.1 free
    rw [replacePair_cons here, ih later]

end

/-! ## §4. Words of mixed case. -/

/-- The first word that is cut off goes on where it was begun. -/
theorem cutWords_begun {mode : WordMode} {word piece : List Char} {c : Char} {front : List Char}
    (begun : word.reverse = c :: front) : ∃ w ws, cutWords mode word piece = (c :: w) :: ws := by
  have longer : ∀ (word : List Char) (d : Char) (front : List Char), word.reverse = c :: front →
      (d :: word).reverse = c :: (front ++ [d]) := by
    intro word d front begun
    rw [List.reverse_cons, begun, List.cons_append]
  fun_induction cutWords mode word piece generalizing front with
  | case1 mode word none =>
    obtain rfl := List.isEmpty_iff.1 none
    cases begun
  | case2 => exact ⟨front, [], by rw [begun]⟩
  | case3 mode word d => exact ⟨front ++ [d], [], by rw [longer word d front begun]⟩
  | case4 mode word d => exact ⟨front ++ [d], _, by rw [longer word d front begun]⟩
  | case5 => exact ⟨front, _, by rw [begun]⟩
  | case6 mode word d _ _ _ _ ih => exact ih (longer word d front begun)

/-- The first word begins with the first character, if words have that. -/
theorem caseWords_cons {c : Char} (inside : isWordChar c = true) (rest : List Char) :
    ∃ w ws, caseWords (c :: rest) = (c :: w) :: ws := by
  have first : ∀ piece, ∃ w ws, cutWords .start [] (c :: piece) = (c :: w) :: ws := by
    intro piece
    cases piece with
    | nil => exact ⟨[], [], rfl⟩
    | cons next piece =>
      rw [cutWords]
      split
      · exact ⟨[], _, rfl⟩
      · rw [if_neg (by rintro ⟨⟨⟩, -⟩)]
        exact cutWords_begun rfl
  obtain ⟨head, others, split⟩ := List.exists_cons_of_ne_nil (List.splitOnP_ne_nil (fun c => !isWordChar c) rest)
  obtain ⟨w, ws, cut⟩ := first head
  refine ⟨w, ws ++ others.flatMap (cutWords .start []), ?_⟩
  rw [caseWords, List.splitOnP_cons_eq_if_modifyHead, if_neg (by simp [inside]), split, List.modifyHead_cons,
    List.flatMap_cons, cut, List.cons_append]

/-- A character that words do not have parts a text. -/
theorem caseWords_append (x y : List Char) {c : Char} (outside : isWordChar c = false) :
    caseWords (x ++ c :: y) = caseWords x ++ caseWords y := by
  unfold caseWords
  rw [List.splitOnP_append_cons x y (by simp [outside]), List.flatMap_append]

/-- The characters of the words are those of the text. -/
theorem mem_of_mem_caseWords {s word : List Char} (here : word ∈ caseWords s) {c : Char} (mem : c ∈ word) : c ∈ s := by
  obtain ⟨piece, split, cut⟩ := List.mem_flatMap.1 here
  exact (of_mem_splitOnP split ((mem_of_mem_cutWords cut mem).resolve_left List.not_mem_nil)).1

/-- The words of a text of names are made of letters and digits. -/
theorem isAlphanum_of_mem_caseWords {s word : List Char} (names : ∀ c ∈ s, isNameChar c = true)
    (here : word ∈ caseWords s) {c : Char} (mem : c ∈ word) : c.isAlphanum = true := by
  have name := names c (mem_of_mem_caseWords here mem)
  have inside := isWordChar_of_mem_caseWords here mem
  rwa [isWordChar, if_pos (isAscii_of_isNameChar name)] at inside

/-! ## §5. Lower case. -/

/-- The lower case of a letter or digit is one character. -/
theorem toLower_of_isAlphanum {c : Char} (h : c.isAlphanum = true) : toLower c = [c.toLower] := by
  rw [toLower, if_pos (isAscii_of_isAlphanum h)]

/-- The lower case of a word is that of its characters. -/
theorem lowerWord_cons {c : Char} (h : c.isAlphanum = true) (rest : List Char) :
    lowerWord (c :: rest) = c.toLower :: lowerWord rest := by
  rw [lowerWord, toLower_of_isAlphanum h, List.singleton_append]
  rintro rfl -
  cases h

/-- Letters stay letters in lower case. -/
theorem isAlpha_toLower {c : Char} (h : c.isAlpha = true) : c.toLower.isAlpha = true := by
  have each := forall_ascii (p := fun c => !c.isAlpha || c.toLower.isAlpha) (by decide +kernel)
    (isAscii_of_isAlphanum (isAlphanum_of_isAlpha h))
  rw [h] at each
  exact each

/-- Letters and digits stay so in lower case. -/
theorem isAlphanum_of_mem_lowerWord {word : List Char} (h : ∀ c ∈ word, c.isAlphanum = true) {d : Char}
    (mem : d ∈ lowerWord word) : d.isAlphanum = true := by
  induction word with
  | nil => cases mem
  | cons c rest ih =>
    obtain ⟨here, later⟩ := List.forall_mem_cons.1 h
    rw [lowerWord_cons here] at mem
    rcases List.mem_cons.1 mem with rfl | mem
    · exact isAlphanum_toLower here
    · exact ih later mem

/-- Snake case makes a plain name of a plain name. -/
theorem plain_snakeWords {s : List Char} (h : isPlainName s = true) : isPlainName (snakeWords s) = true := by
  have names : ∀ c ∈ snakeWords s, isNameChar c = true := by
    intro c mem
    rcases mem_intercalate mem with between | ⟨lowered, known, here⟩
    · obtain rfl := List.mem_singleton.1 between
      rfl
    · obtain ⟨word, cut, rfl⟩ := List.mem_map.1 known
      have letters : ∀ d ∈ word, d.isAlphanum = true :=
        fun d inside => isAlphanum_of_mem_caseWords (fun e mem => isNameChar_of_mem h mem) cut inside
      rw [isNameChar, isAlphanum_of_mem_lowerWord letters here, Bool.true_or]
  -- the first word begins with the first letter, in lower case
  obtain ⟨c, rest, rfl, letter, -⟩ := exists_letter h
  obtain ⟨w, ws, cut⟩ := caseWords_cons (isWordChar_of_isAlphanum (isAlphanum_of_isAlpha letter)) rest
  obtain ⟨others, whole⟩ : ∃ others, snakeWords (c :: rest) = c.toLower :: others := by
    rw [snakeWords, cut, List.map_cons, lowerWord_cons (isAlphanum_of_isAlpha letter)]
    cases ws with
    | nil => exact ⟨_, List.intercalate_singleton⟩
    | cons next ws => exact ⟨_, List.intercalate_cons_cons⟩
  rw [whole] at names ⊢
  exact isPlainName_cons (isAlpha_toLower letter) (fun d mem => names d (List.mem_cons_of_mem _ mem))

/-- Two names that an underscore parts stay parted. -/
theorem underscore_mem_snakeWords {x y : List Char} (first : isPlainName x = true) (second : isPlainName y = true) :
    '_' ∈ snakeWords (x ++ '_' :: y) := by
  obtain ⟨c, rest, rfl, letter, -⟩ := exists_letter first
  obtain ⟨d, later, rfl, initial, -⟩ := exists_letter second
  obtain ⟨v, vs, front⟩ := caseWords_cons (isWordChar_of_isAlphanum (isAlphanum_of_isAlpha letter)) rest
  obtain ⟨w, ws, back⟩ := caseWords_cons (isWordChar_of_isAlphanum (isAlphanum_of_isAlpha initial)) later
  rw [snakeWords, caseWords_append _ _ (by decide), front, back, List.cons_append, List.map_cons]
  cases vs with
  | nil => simp
  | cons next vs => simp

end ScriptBridge.Text

namespace ScriptBridge.Token

open ScriptBridge.Text

/-! ## §6. Identifiers. -/

/-- Whatever has the shape of an identifier is no number and passes the check. -/
theorem nameError?_of_shape {name : String} (shape : hasIdentifierShape name.toList = true) :
    nameError? name = none := by
  unfold nameError?
  cases text : name.toList with
  | nil =>
    rw [text] at shape
    cases shape
  | cons c rest =>
    rw [text] at shape
    have digit : c.isDigit = false := by
      rw [Bool.eq_false_iff]
      intro digit
      obtain ⟨-, noStart, notLow, -⟩ := Declared.digit_classes digit
      simp [hasIdentifierShape, noStart, notLow] at shape
    rw [if_neg (List.cons_ne_nil c rest), if_neg (by simp [digit]), if_pos shape]

/-- A plain name has the shape of an identifier. -/
theorem shape_plain {w : List Char} (h : isPlainName w = true) : hasIdentifierShape w = true := by
  obtain ⟨c, rest, rfl, letter, others⟩ := exists_letter h
  have start : isIdentStart c = true := by
    rw [isIdentStart, if_pos (isAscii_of_isAlphanum (isAlphanum_of_isAlpha letter)), letter]
  rw [hasIdentifierShape, start, Bool.or_true, Bool.true_and]
  exact List.all_eq_true.2 (fun d mem => (isNameChar_classes (others d mem)).continues)

/-- Whatever has the shape of an identifier is one. -/
theorem ofText_of_shape {name : String} (shape : hasIdentifierShape name.toList = true) :
    Identifier.ofText name = .ok ⟨name, false⟩ := by
  unfold Identifier.ofText
  split
  next rest text =>
    -- a sharp sign is no character of an identifier
    rw [text] at shape
    simp [hasIdentifierShape, show isIdentContinue '#' = false by decide] at shape
  next => rw [Identifier.plain_eq, nameError?_of_shape shape]

/-- Keywords are raised, if they may be. -/
theorem escaped_of_shape {name : String} (shape : hasIdentifierShape name.toList = true) :
    Identifier.escaped name =
      if Identifier.keywords.contains name then
        if unraisable.contains name then .error (.reserved name) else .ok ⟨name, true⟩
      else .ok ⟨name, false⟩ := by
  rw [Identifier.escaped, ofText_of_shape shape, Identifier.prefixed_eq, nameError?_of_shape shape]

/-- A plain name is an identifier. -/
theorem ofText_plain {name : String} (h : isPlainName name.toList = true) :
    Identifier.ofText name = .ok ⟨name, false⟩ :=
  ofText_of_shape (shape_plain h)

/-- The only keyword that cannot be raised is `crate`. -/
theorem eq_crate_of_unraisable {name : String} (known : name ∈ Identifier.keywords)
    (unraised : unraisable.contains name = true) : name = "crate" := by
  have each : ∀ k ∈ Identifier.keywords, unraisable.contains k = true → k = "crate" := by decide
  exact each name known unraised

/-- A plain name other than `crate` is an identifier, also where keywords are raised. -/
theorem escaped_plain {name : String} (h : isPlainName name.toList = true) (other : name ≠ "crate") :
    ∃ id, Identifier.escaped name = .ok id := by
  rw [escaped_of_shape (shape_plain h)]
  split
  next known =>
    rw [if_neg (fun unraised => other (eq_crate_of_unraisable (List.contains_iff_mem.1 known) unraised))]
    exact ⟨_, rfl⟩
  next => exact ⟨_, rfl⟩

/-- There is nothing to trim where no white space is. -/
theorem trim_plain {w : List Char} (h : ∀ c ∈ w, isSpace c = false) : trim w = w := by
  have start : ∀ v : List Char, (∀ c ∈ v, isSpace c = false) → v.dropWhile isSpace = v := by
    intro v free
    cases v with
    | nil => rfl
    | cons c v => exact List.dropWhile_cons_of_neg (by simp [free c List.mem_cons_self])
  rw [trim, trimStart, start w h, trimEnd, start w.reverse (fun c mem => h c (List.mem_reverse.1 mem)),
    List.reverse_reverse]

/-- No white space stands in a plain name. -/
theorem visible_plain {w : List Char} (h : isPlainName w = true) : ∀ c ∈ w, isSpace c = false :=
  fun _ mem => (isNameChar_classes (isNameChar_of_mem h mem)).visible

/-- A scoped name is a path. -/
theorem pathOf_scoped {s : String} (h : Scoped (fun w => isPlainName w = true) s.toList) :
    ∃ stream, pathOf s = .ok stream := by
  have parts := h.of_mem_splitScopes (fun plain => plain)
  unfold pathOf
  obtain ⟨names, checked⟩ : ∃ names, (((splitScopes s.toList).map trim).filter (fun segment => !segment.isEmpty)).mapM
      (fun segment => Identifier.ofText (String.ofList segment)) = .ok names := by
    refine exists_mapM_ok (fun segment mem => ?_)
    obtain ⟨part, known, rfl⟩ := List.mem_map.1 (List.mem_filter.1 mem).1
    have plain := parts part known
    rw [trim_plain (visible_plain plain)]
    exact ⟨_, ofText_plain (by rwa [String.toList_ofList])⟩
  rw [checked]
  exact ⟨_, rfl⟩

end ScriptBridge.Token

namespace ScriptBridge.Symbol

open ScriptBridge.Text ScriptBridge.Token

/-! ## §7. Usable names. -/

/-- A name with the suffixes `2D` and `3D` as words of their own. -/
def dimensioned (s : List Char) : List Char :=
  replacePair '3' 'D' "_3d".toList (replacePair '2' 'D' "_2d".toList s)

/-- A plain name stays one when its suffix becomes a word of its own. -/
theorem plain_dimensioned {s : List Char} (h : isPlainName s = true) : isPlainName (dimensioned s) = true :=
  plain_replacePair (plain_replacePair h (by decide) (List.all_eq_true.1 (by decide))) (by decide)
    (List.all_eq_true.1 (by decide))

/-- Of two parts with an underscore between them, each has its own suffixes. -/
theorem dimensioned_append (x y : List Char) :
    dimensioned (x ++ '_' :: y) = dimensioned x ++ '_' :: dimensioned y := by
  unfold dimensioned
  rw [replacePair_append x y (by decide) (by decide), replacePair_append _ _ (by decide) (by decide)]

/-- The snake-case form of a name is fixed, or it is made of the words of the name. -/
theorem snakeCase_cases (name : String) :
    (∃ entry ∈ fixedSnakeCase, snakeCase name = entry.2) ∨
      (snakeCase name).toList = snakeWords (dimensioned name.toList) := by
  unfold snakeCase
  split
  next fixed found =>
    obtain ⟨before, after, here, -⟩ := List.lookup_eq_some_iff.1 found
    exact .inl ⟨(name, fixed), by rw [here]; simp, rfl⟩
  next => exact .inr String.toList_ofList

/-- Snake case makes a plain name of a plain name. -/
theorem plain_snakeCase {name : String} (h : isPlainName name.toList = true) :
    isPlainName (snakeCase name).toList = true := by
  have table : fixedSnakeCase.all (fun entry => isPlainName entry.2.toList) = true := by decide
  rcases snakeCase_cases name with ⟨entry, known, fixed⟩ | made
  · rw [fixed]
    exact List.all_eq_true.1 table entry known
  · rw [made]
    exact plain_snakeWords (plain_dimensioned h)

/-- Two names that an underscore parts do not become `crate`. -/
theorem snakeCase_parted_ne {x y : List Char} (first : isPlainName x = true) (second : isPlainName y = true) :
    snakeCase (String.ofList (x ++ '_' :: y)) ≠ "crate" := by
  have table : fixedSnakeCase.all (fun entry => entry.2 != "crate") = true := by decide
  rcases snakeCase_cases (String.ofList (x ++ '_' :: y)) with ⟨entry, known, fixed⟩ | made
  · rw [fixed]
    simpa using List.all_eq_true.1 table entry known
  · intro same
    have underscore := underscore_mem_snakeWords (plain_dimensioned first) (plain_dimensioned second)
    rw [← dimensioned_append, ← String.toList_ofList (l := x ++ '_' :: y), ← made, same] at underscore
    exact absurd underscore (by decide)

/-- A plain name that is not `crate`, and does not become it in snake case. -/
structure Usable (w : List Char) : Prop where
  plain : isPlainName w = true
  name : String.ofList w ≠ "crate"
  snake : snakeCase (String.ofList w) ≠ "crate"

/-- A name is usable if it is plain and neither it nor its snake case is `crate`. -/
theorem usable_iff {w : List Char} : Usable w ↔
    isPlainName w = true ∧ String.ofList w ≠ "crate" ∧ snakeCase (String.ofList w) ≠ "crate" :=
  ⟨fun h => ⟨h.plain, h.name, h.snake⟩, fun ⟨plain, name, snake⟩ => ⟨plain, name, snake⟩⟩

instance (w : List Char) : Decidable (Usable w) :=
  decidable_of_iff' _ usable_iff

/-- With its scopes flattened, a scoped name is plain. -/
theorem plain_flattened {s : List Char} (h : Scoped Usable s) : isPlainName (replacePair ':' ':' ['_'] s) = true := by
  induction h with
  | one part =>
    rw [replacePair_single (colon_free part.plain)]
    exact part.plain
  | cons part _ ih =>
    rw [replacePair_part (colon_free part.plain)]
    refine isPlainName_append part.plain (fun c mem => ?_)
    rcases List.mem_cons.1 mem with rfl | mem
    · rfl
    · exact isNameChar_of_mem ih mem

variable {className : String}

/-- The module of a class with a usable name is a plain name ... -/
theorem plain_moduleName (h : Scoped Usable className.toList) : isPlainName (moduleName className).toList = true :=
  plain_snakeCase (by rw [String.toList_ofList]; exact plain_flattened h)

/-- ... other than `crate`. -/
theorem moduleName_ne (h : Scoped Usable className.toList) : moduleName className ≠ "crate" := by
  unfold moduleName
  generalize className.toList = s at h
  cases h with
  | one part =>
    rw [replacePair_single (colon_free part.plain)]
    exact part.snake
  | cons part rest =>
    rw [replacePair_part (colon_free part.plain)]
    exact snakeCase_parted_ne part.plain (plain_flattened rest)

-- a class may be called `Crate` in a scope only
example : moduleName "Crate" = "crate" ∧ moduleName "wood::Crate" = "wood_crate" := by decide +kernel

end ScriptBridge.Symbol

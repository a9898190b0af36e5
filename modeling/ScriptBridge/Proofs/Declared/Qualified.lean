import ScriptBridge.Declared.Banned
import ScriptBridge.Proofs.Declared.TypeGrammar

/-!
# ScriptBridge.Proofs.Declared.Qualified

Qualifiers around a declared type, and what they hide from the filter of banned types.

A pointer shape is recognised in the text of a type, by a word and the pointer sign right behind it.  So `const` and
`volatile` in front of the word do no harm, but between the word and the sign they hide the shape: `const bool *` is a
pointer to `bool`, `bool const *` passes.  A pointer to `float` has to end the text as well, and a qualifier behind the
sign is enough to hide it.

Main results:
  * `BannedType.occursIn_append` - where a shape is found once there are signs and qualifiers behind a base;
  * `Qualified.bannedType?_text` - the answer of the filter, from the type without its qualifiers;
  * `Qualified.bannedType?_eq_iff` - when two spellings of a type get the same answer.
-/

namespace ScriptBridge.Declared

open ScriptBridge.Text ScriptBridge.Symbol

/-! ## §1. Looking for patterns. -/

section

variable {p q : List Char → Bool}

/-- Patterns that agree on every end of a text are found in it together. -/
theorem atWordStart_congr {x : List Char} (same : ∀ s, s <:+ x → p s = q s) (free : Bool) :
    atWordStart p free x = atWordStart q free x := by
  induction x generalizing free with
  | nil => rw [atWordStart, atWordStart, same [] List.suffix_rfl]
  | cons c x ih =>
    rw [atWordStart, atWordStart, same _ List.suffix_rfl, ih (fun s tail => same s (tail.trans (List.suffix_cons c x)))]

/-- A pattern that no end of a text has is not found in it. -/
theorem atWordStart_none {x : List Char} (none : ∀ s, s <:+ x → p s = false) (free : Bool) :
    atWordStart p free x = false := by
  induction x generalizing free with
  | nil => rw [atWordStart, none [] List.suffix_rfl, Bool.and_false]
  | cons c x ih =>
    rw [atWordStart, none _ List.suffix_rfl, ih (fun s tail => none s (tail.trans (List.suffix_cons c x))),
      Bool.and_false, Bool.or_false]

/-- White space, with nothing to find up to there, changes nothing. -/
theorem atWordStart_skip {x y : List Char} {d : Char} (space : isSpace d = true)
    (none : ∀ s, s <:+ x → p (s ++ d :: y) = false) (free : Bool) :
    atWordStart p free (x ++ d :: y) = atWordStart p true y := by
  -- up to the white space there is nothing to find, and behind it a word may begin
  induction x generalizing free with
  | nil =>
    have parts : (d.isAlphanum || d == '_') = false := by
      rw [Bool.eq_false_iff]
      intro word
      have classes := isNameChar_classes (c := d) word
      rw [classes.visible] at space
      cases space
    have here := none [] List.suffix_rfl
    rw [List.nil_append] at here ⊢
    rw [atWordStart, here, parts, Bool.and_false, Bool.false_or, Bool.not_false]
  | cons c x ih =>
    have here := none _ List.suffix_rfl
    rw [List.cons_append] at here ⊢
    rw [atWordStart, here, Bool.and_false, Bool.false_or, ih (fun s tail => none s (tail.trans (List.suffix_cons c x)))]

/-- A text that has the pattern at no end is only looked at from the text in front of it. -/
theorem atWordStart_append {x y : List Char} (none : ∀ s, s <:+ y → p s = false) (free : Bool) :
    atWordStart p free (x ++ y) = atWordStart (fun s => p (s ++ y)) free x := by
  induction x generalizing free with
  | nil =>
    rw [List.nil_append, atWordStart_none none, atWordStart, List.nil_append, none y List.suffix_rfl, Bool.and_false]
  | cons c x ih => rw [List.cons_append, atWordStart, ih, atWordStart, List.cons_append]

/-- Two patterns are looked for at the same time, the second under a condition. -/
theorem atWordStart_or_and (b : Bool) (x : List Char) (free : Bool) :
    atWordStart (fun s => p s || (q s && b)) free x = (atWordStart p free x || (atWordStart q free x && b)) := by
  induction x generalizing free with
  | nil => cases free <;> simp [atWordStart]
  | cons c x ih =>
    rw [atWordStart, ih, atWordStart, atWordStart]
    cases free <;> cases b <;> simp [Bool.or_assoc, Bool.or_left_comm]

end

/-! ## §2. Patterns of types. -/

/-- The characters of a text that are no white space. -/
def visible (s : List Char) : List Char :=
  s.filter (fun c => !isSpace c)

theorem visible_append (x y : List Char) : visible (x ++ y) = visible x ++ visible y :=
  List.filter_append _ _

/-- All of a solid text is visible. -/
theorem visible_solid {x : List Char} (solid : Solid x) : visible x = x :=
  List.filter_eq_self.2 (fun c mem => by simp [solid c mem])

/-- Nothing of white space is visible. -/
theorem visible_blank {x : List Char} (blank : ∀ c ∈ x, isSpace c = true) : visible x = [] :=
  List.filter_eq_nil_iff.2 (fun c mem => by simp [blank c mem])

/-- What begins with a pointer sign is seen from the visible characters. -/
theorem startsPointer_eq (s : List Char) : startsPointer s = ((visible s).head? == some '*') := by
  rw [startsPointer, visible, List.head?_filter, List.find?_not_eq_head?_dropWhile]

/-- What is a pointer sign and nothing else is seen from the visible characters. -/
theorem isLastPointer_eq (s : List Char) : isLastPointer s = (visible s == ['*']) := by
  induction s with
  | nil => rfl
  | cons c s ih =>
    by_cases space : isSpace c = true
    · rw [isLastPointer, List.dropWhile_cons_of_pos space, ← isLastPointer, ih, visible, visible,
        List.filter_cons_of_neg (by simp [space])]
    · rw [isLastPointer, List.dropWhile_cons_of_neg space, visible, List.filter_cons_of_pos (by simp [space])]
      split
      next rest text =>
        obtain ⟨rfl, rfl⟩ := List.cons.inj text
        rw [Bool.eq_iff_iff]
        simp
      next other =>
        have sign : c ≠ '*' := fun same => other s (by rw [same])
        simp [sign]

/-- A text is taken off the front of another if it stands there. -/
theorem dropStart?_eq_some {w s rest : List Char} : dropStart? w s = some rest ↔ s = w ++ rest := by
  induction w generalizing s with
  | nil => simp [dropStart?, eq_comm]
  | cons c w ih =>
    cases s with
    | nil => simp [dropStart?]
    | cons d s =>
      rw [dropStart?]
      split
      next same => simp [ih, same]
      next other => simp [Ne.symm other]

/-- A pointer to a word is the word with a pointer sign as the next visible character. -/
theorem isPointerTo_iff (w s : List Char) :
    isPointerTo w s = true ↔ ∃ rest, s = w ++ rest ∧ ((visible rest).head? == some '*') = true := by
  unfold isPointerTo
  simp only [← startsPointer_eq, ← dropStart?_eq_some]
  cases dropStart? w s with
  | none => simp
  | some rest => simp

/-- A pointer to `float` is one of its two words with a pointer sign as the last visible character. -/
theorem isFloatPointer_iff (s : List Char) :
    isFloatPointer s = true ↔
      ∃ w ∈ ["float".toList, "float3".toList], ∃ rest, s = w ++ rest ∧ (visible rest == ['*']) = true := by
  simp only [← isLastPointer_eq, List.mem_cons, List.not_mem_nil, or_false, exists_eq_or_imp, exists_eq_left]
  have three : ∀ rest, "float3".toList ++ rest = "float".toList ++ '3' :: rest := fun _ => rfl
  have noSign : ∀ rest, isLastPointer ('3' :: rest) = false := by
    intro rest
    rw [isLastPointer_eq, visible, List.filter_cons_of_pos (by decide)]
    simp
  unfold isFloatPointer
  simp only [three, ← dropStart?_eq_some]
  -- a text that begins with `float3` begins with `float` too, but what follows then is no pointer
  generalize dropStart? "float".toList s = reading
  split
  next rest => simp [noSign]
  next rest other =>
    have plain : ∀ more, rest ≠ '3' :: more := other
    simp [plain]
  next => simp

/-- White space, the signs of indirections, and the letters of qualifiers. -/
def isMark (c : Char) : Bool :=
  isSeparator c || ("const".toList ++ "volatile".toList).contains c

/-- A pattern that reads one of some words and then looks at the visible characters behind, but not beyond the first
that is no pointer sign. -/
structure Reads (p : List Char → Bool) (words : List (List Char)) (follows : List Char → Bool) : Prop where
  iff : ∀ s, p s = true ↔ ∃ w ∈ words, ∃ rest, s = w ++ rest ∧ follows (visible rest) = true
  /-- Something has to follow the word. -/
  some : follows [] = false
  settled : ∀ x d z, d ≠ '*' → follows (x ++ d :: z) = follows (x ++ [d])
  solid : ∀ w ∈ words, ∀ c ∈ w, isSeparator c = false
  /-- A letter that tells the words from qualifiers. -/
  rare : ∃ c, isMark c = false ∧ ∀ w ∈ words, c ∈ w

/-- A text that ends in a character that is neither white space nor a sign. -/
def Closed (s : List Char) : Prop :=
  ∃ x d, s = x ++ [d] ∧ isSeparator d = false

/-- What a closed text ends in is closed. -/
theorem Closed.of_suffix {s t : List Char} (closed : Closed s) (tail : t <:+ s) (some : t ≠ []) : Closed t := by
  obtain ⟨x, d, rfl, solid⟩ := closed
  obtain none | ⟨y, last, -⟩ := List.suffix_concat_iff.1 tail
  · exact absurd none some
  · exact ⟨y, d, last, solid⟩

namespace Reads

variable {p : List Char → Bool} {words : List (List Char)} {follows : List Char → Bool}

/-- A text of marks holds no word. -/
theorem marks (h : Reads p words follows) {w x y : List Char} (known : w ∈ words) (marks : ∀ c ∈ x, isMark c = true) :
    x ≠ w ++ y := by
  rintro rfl
  obtain ⟨c, other, each⟩ := h.rare
  have mark := marks c (List.mem_append_left y (each w known))
  rw [other] at mark
  cases mark

/-- The pattern is not found in a text of marks. -/
theorem tail (h : Reads p words follows) {y : List Char} (marks : ∀ c ∈ y, isMark c = true) {s : List Char}
    (tail : s <:+ y) : p s = false := by
  rw [Bool.eq_false_iff]
  intro found
  obtain ⟨w, known, rest, text, -⟩ := (h.iff s).1 found
  exact h.marks known (fun c mem => marks c (tail.subset mem)) text

/-- The pattern is not found in marks in front of white space. -/
theorem front (h : Reads p words follows) {x y : List Char} {d : Char} (marks : ∀ c ∈ x, isMark c = true)
    (space : isSpace d = true) {s : List Char} (tail : s <:+ x) : p (s ++ d :: y) = false := by
  rw [Bool.eq_false_iff]
  intro found
  obtain ⟨w, known, rest, text, -⟩ := (h.iff _).1 found
  have own : ∀ c ∈ s, isMark c = true := fun c mem => marks c (tail.subset mem)
  rcases List.append_eq_append_iff.1 text with ⟨z, word, behind⟩ | ⟨z, whole, -⟩
  · cases z with
    | nil => exact h.marks known own (y := []) (by rw [word, List.append_nil, List.append_nil])
    | cons e z =>
      obtain ⟨rfl, -⟩ := List.cons.inj behind
      have solid := h.solid w known d (by simp [word])
      simp [isSeparator, space] at solid
  · exact h.marks known own whole

/-- Signs and qualifiers behind a text matter right behind a word. -/
theorem append (h : Reads p words follows) {y t : List Char} (closed : Closed y)
    (apart : ∀ c ∈ t.head?, isSeparator c = true) :
    p (y ++ t) = (p y || (words.contains y && follows (visible t))) := by
  obtain ⟨x, d, rfl, solid⟩ := closed
  have plain : visible [d] = [d] ∧ d ≠ '*' := by
    obtain ⟨space, sign⟩ := Bool.or_eq_false_iff.1 solid
    refine ⟨visible_solid (List.forall_mem_singleton.2 space), ?_⟩
    rintro rfl
    cases sign
  have stops : ∀ z, follows (visible (z ++ [d] ++ t)) = follows (visible (z ++ [d])) := by
    intro z
    rw [visible_append, visible_append, plain.1, List.append_assoc]
    exact h.settled _ _ _ plain.2
  rw [Bool.eq_iff_iff, Bool.or_eq_true_iff, Bool.and_eq_true_iff, List.contains_iff_mem, h.iff, h.iff]
  constructor
  · rintro ⟨w, known, rest, text, found⟩
    rcases List.append_eq_append_iff.1 text with ⟨z, word, behind⟩ | ⟨z, whole, rfl⟩
    · cases z with
      | nil =>
        rw [List.append_nil] at word
        rw [List.nil_append] at behind
        subst word behind
        exact .inr ⟨known, found⟩
      | cons e z =>
        -- the word would go on with a separator
        have inside := h.solid w known e (by simp [word])
        have outside := apart e (by simp [behind])
        rw [inside] at outside
        cases outside
    · obtain rfl | ⟨z, rfl, -⟩ := List.suffix_concat_iff.1 ⟨w, whole.symm⟩
      · rw [List.append_nil] at whole
        exact .inr ⟨whole ▸ known, found⟩
      · rw [stops] at found
        exact .inl ⟨w, known, z ++ [d], whole, found⟩
  · rintro (⟨w, known, rest, text, found⟩ | ⟨known, found⟩)
    · obtain rfl | ⟨z, rfl, -⟩ := List.suffix_concat_iff.1 ⟨w, text.symm⟩
      · rw [visible_blank (List.forall_mem_nil _), h.some] at found
        cases found
      · rw [← stops] at found
        exact ⟨w, known, z ++ [d] ++ t, by rw [text, List.append_assoc], found⟩
    · exact ⟨_, known, t, rfl, found⟩

/-- **Where a pattern is found in a type with signs and qualifiers behind it**: in the type, or right at its end. -/
theorem atWordStart_behind (h : Reads p words follows) {base t : List Char} (closed : Closed base)
    (apart : ∀ c ∈ t.head?, isSeparator c = true) (marks : ∀ c ∈ t, isMark c = true) :
    atWordStart p true (base ++ t) =
      (atWordStart p true base || (atWordStart words.contains true base && follows (visible t))) := by
  rw [atWordStart_append (fun s => h.tail marks), ← atWordStart_or_and]
  refine atWordStart_congr (fun s tail => ?_) true
  cases s with
  | nil =>
    -- a word has letters, so there is none in an empty text
    have noWord : words.contains [] = false := by
      rw [Bool.eq_false_iff, Ne, List.contains_iff_mem]
      intro known
      exact h.marks known (List.forall_mem_nil _) (List.append_nil []).symm
    rw [List.nil_append, h.tail marks List.suffix_rfl, h.tail (List.forall_mem_nil _) List.suffix_rfl, noWord]
    rfl
  | cons c s => exact h.append (closed.of_suffix tail (List.cons_ne_nil c s)) apart

end Reads

/-- A word followed by a pointer sign is read by its word. -/
theorem reads_isPointerTo {w : List Char} (solid : ∀ c ∈ w, isSeparator c = false) {c : Char} (rare : isMark c = false)
    (mem : c ∈ w) : Reads (isPointerTo w) [w] (fun s => s.head? == some '*') where
  iff s := by simpa using isPointerTo_iff w s
  some := rfl
  settled x d z _ := by cases x <;> rfl
  solid := List.forall_mem_singleton.2 solid
  rare := ⟨c, rare, List.forall_mem_singleton.2 mem⟩

/-- Pointers to `float` are read by their words, with one pointer sign behind. -/
theorem reads_isFloatPointer :
    Reads isFloatPointer ["float".toList, "float3".toList] (fun s => s == ['*']) where
  iff := isFloatPointer_iff
  some := rfl
  settled x d z noSign := by
    cases x with
    | nil => simp [noSign]
    | cons e x => cases x <;> simp
  solid := List.forall_mem_cons.2 ⟨forall_of_any (by decide), List.forall_mem_singleton.2 (forall_of_any (by decide))⟩
  rare := ⟨'f', by decide, List.forall_mem_cons.2 ⟨by decide, List.forall_mem_singleton.2 (by decide)⟩⟩

/-! ## §3. Where a shape is found. -/

namespace BannedType

/-- The words that make a shape with signs behind them. -/
def words : BannedType → List (List Char)
  | boolPointer => ["bool".toList]
  | floatPointer => ["float".toList, "float3".toList]
  | charPointer => ["char".toList]
  | standardLibrary => []
  | array => []

/-- Whether the visible characters behind a word make the shape: a pointer sign, which for `float` has to be the last
character. -/
def follows : BannedType → List Char → Bool
  | floatPointer, s => s == ['*']
  | _, s => s.head? == some '*'

/-- Whether a type, as far as it goes, ends in a word of the shape. -/
def endsIn (shape : BannedType) (base : List Char) : Bool :=
  atWordStart shape.words.contains true base

end BannedType

/-- A text holds another if that stands somewhere in it. -/
theorem holds_iff (needle s : List Char) : holds needle s = true ↔ needle <:+: s := by
  induction s with
  | nil => simp [holds]
  | cons c s ih => rw [holds, Bool.or_eq_true_iff, List.isPrefixOf_iff_prefix, ih, List.infix_cons_iff]

section

variable {needle x y t : List Char} {d : Char}

/-- Marks in front of white space hold nothing of a text without white space. -/
theorem holds_skip (rare : ∃ c ∈ needle, isMark c = false) (solid : ∀ c ∈ needle, isSeparator c = false)
    (marks : ∀ c ∈ x, isMark c = true) (space : isSpace d = true) : holds needle (x ++ d :: y) = holds needle y := by
  obtain ⟨c, mem, other⟩ := rare
  have noMark : isMark d = true := by simp [isMark, isSeparator, space]
  have outside : ∀ {u}, (∀ c ∈ u, isMark c = true) → ¬ needle <:+: u := by
    intro u marks part
    rw [marks c (part.subset mem)] at other
    cases other
  rw [Bool.eq_iff_iff, holds_iff, holds_iff, ← List.singleton_append, ← List.append_assoc, List.infix_append_iff]
  have front : ∀ e ∈ x ++ [d], isMark e = true :=
    List.forall_mem_append.2 ⟨marks, List.forall_mem_singleton.2 noMark⟩
  -- an occurrence lies in front of the white space, behind it, or across; the first has only marks, the last a
  -- separator
  constructor
  · rintro (part | part | ⟨l, r, rfl, tail, head⟩)
    · exact absurd part (outside front)
    · exact part
    · obtain rfl | ⟨z, rfl, -⟩ := List.suffix_concat_iff.1 tail
      · exact head.isInfix
      · have inside := solid d (by simp)
        simp [isSeparator, space] at inside
  · exact fun part => .inr (.inl part)

/-- Marks behind a separator hold nothing of a text without separators. -/
theorem holds_append (rare : ∃ c ∈ needle, isMark c = false) (solid : ∀ c ∈ needle, isSeparator c = false)
    (apart : ∀ c ∈ t.head?, isSeparator c = true) (marks : ∀ c ∈ t, isMark c = true) :
    holds needle (x ++ t) = holds needle x := by
  obtain ⟨c, mem, other⟩ := rare
  rw [Bool.eq_iff_iff, holds_iff, holds_iff, List.infix_append_iff]
  -- an occurrence lies in front of the marks, in them, or across, and then it has the separator between
  constructor
  · rintro (part | part | ⟨l, r, rfl, tail, head⟩)
    · exact part
    · rw [marks c (part.subset mem)] at other
      cases other
    · cases r with
      | nil => simpa using tail.isInfix
      | cons e r =>
        obtain ⟨u, rfl⟩ := head
        have inside := solid e (by simp)
        have outside := apart e (by simp)
        rw [inside] at outside
        cases outside
  · exact .inl

end

/-- Marks in front of white space are no part of a shape. -/
theorem BannedType.occursIn_skip (shape : BannedType) {x y : List Char} {d : Char} (marks : ∀ c ∈ x, isMark c = true)
    (space : isSpace d = true) : shape.occursIn (x ++ d :: y) = shape.occursIn y := by
  have word : ∀ {w : List Char} {c : Char}, (∀ c ∈ w, isSeparator c = false) → isMark c = false → c ∈ w →
      atWordStart (isPointerTo w) true (x ++ d :: y) = atWordStart (isPointerTo w) true y :=
    fun solid rare mem => atWordStart_skip space (fun s => (reads_isPointerTo solid rare mem).front marks space) true
  -- shapes that are words, runs of characters and single characters are searched for in different ways
  cases shape with
  | boolPointer => exact word (c := 'b') (forall_of_any (by decide)) (by decide) (by decide)
  | charPointer => exact word (c := 'h') (forall_of_any (by decide)) (by decide) (by decide)
  | floatPointer => exact atWordStart_skip space (fun s => reads_isFloatPointer.front marks space) true
  | standardLibrary => exact holds_skip ⟨':', by decide, by decide⟩ (forall_of_any (by decide)) marks space
  | array =>
    have other : '[' ∉ x ++ [d] := by
      intro mem
      have mark : isMark '[' = true := by
        refine List.forall_mem_append.2 ⟨marks, List.forall_mem_singleton.2 ?_⟩ '[' mem
        simp [isMark, isSeparator, space]
      cases mark
    have whole : '[' ∈ x ++ d :: y ↔ '[' ∈ y := by
      rw [← List.singleton_append, ← List.append_assoc, List.mem_append]
      exact or_iff_right other
    rw [occursIn, occursIn, Bool.eq_iff_iff, List.contains_iff_mem, List.contains_iff_mem, whole]

/-- **Where a shape is found once there are signs and qualifiers behind a type**: in the type, or right at its end. -/
theorem BannedType.occursIn_append (shape : BannedType) {base t : List Char} (closed : Closed base)
    (apart : ∀ c ∈ t.head?, isSeparator c = true) (marks : ∀ c ∈ t, isMark c = true) :
    shape.occursIn (base ++ t) = (shape.occursIn base || (shape.endsIn base && shape.follows (visible t))) := by
  have noWord : atWordStart ([] : List (List Char)).contains true base = false :=
    atWordStart_none (fun _ _ => rfl) true
  -- only pointers can begin in the base and end behind it
  cases shape with
  | boolPointer =>
    have reads := reads_isPointerTo (w := "bool".toList) (c := 'b') (forall_of_any (by decide)) (by decide) (by decide)
    exact reads.atWordStart_behind closed apart marks
  | charPointer =>
    have reads := reads_isPointerTo (w := "char".toList) (c := 'h') (forall_of_any (by decide)) (by decide) (by decide)
    exact reads.atWordStart_behind closed apart marks
  | floatPointer => exact reads_isFloatPointer.atWordStart_behind closed apart marks
  | standardLibrary =>
    rw [endsIn, words, noWord, Bool.false_and, Bool.or_false]
    exact holds_append ⟨':', by decide, by decide⟩ (forall_of_any (by decide)) apart marks
  | array =>
    have other : '[' ∉ t := by
      intro mem
      cases marks '[' mem
    rw [endsIn, words, noWord, Bool.false_and, Bool.or_false]
    simp [occursIn, other]

/-! ## §4. Spellings of a type. -/

/-- A qualifier, and the white space that sets it off. -/
structure Qualifier where
  gap : List Char
  word : List Char
  blank : ∀ c ∈ gap, isSpace c = true
  known : isQualifier word = true

/-- A sign, the white space in front of it and the qualifiers behind it.  Only the first of these may follow the sign
directly. -/
structure Layer where
  gap : List Char
  sign : Char
  behind : List Qualifier
  blank : ∀ c ∈ gap, isSpace c = true
  indirection : isIndirection sign = true
  parted : ∀ q ∈ behind.tail, q.gap ≠ []

/-- A declared type: a base, signs behind it, and qualifiers in front of the base, between base and signs, and behind
each sign. -/
structure Qualified where
  left : List Char
  before : List Qualifier
  base : List Char
  between : List Qualifier
  layers : List Layer
  right : List Char
  blankLeft : ∀ c ∈ left, isSpace c = true
  blankRight : ∀ c ∈ right, isSpace c = true
  partedBefore : ∀ q ∈ before, q.gap ≠ []
  partedBetween : ∀ q ∈ between, q.gap ≠ []
  starts : ∀ c ∈ base.head?, isSpace c = false
  closed : Closed base

def Layer.text (l : Layer) : List Char :=
  l.gap ++ l.sign :: l.behind.flatMap (fun q => q.gap ++ q.word)

namespace Qualified

variable (q r : Qualified)

/-- The qualifiers in front of the base. -/
def front : List Char :=
  q.before.flatMap (fun w => w.word ++ w.gap)

/-- The signs and qualifiers behind the base. -/
def back : List Char :=
  q.between.flatMap (fun w => w.gap ++ w.word) ++ q.layers.flatMap Layer.text

/-- The type as it is declared. -/
def text : List Char :=
  q.left ++ (q.front ++ (q.base ++ q.back)) ++ q.right

def signs : List Char :=
  q.layers.map Layer.sign

/-- The type without qualifiers and white space around its signs. -/
def bare : List Char :=
  q.base ++ q.signs

/-- Whether two spellings differ in white space and qualifiers only. -/
def SameType (q r : Qualified) : Prop :=
  q.base = r.base ∧ q.signs = r.signs
  deriving Decidable

/-- Whether a shape that ends the base is hidden by the qualifiers: for a word with a sign behind it by those in
between, for a word with a last sign by any behind the base. -/
def hides : BannedType → Bool
  | .boolPointer | .charPointer => !q.between.isEmpty
  | .floatPointer => !q.between.isEmpty || q.layers.any (fun l => !l.behind.isEmpty)
  | .standardLibrary | .array => false

/-- Whether the type without qualifiers has a shape that the declared type does not show. -/
def masks (shape : BannedType) : Bool :=
  !shape.occursIn q.base && q.hides shape

end Qualified

/-! ## §5. What is read of a spelling. -/

/-- Characters of the qualifier words. -/
theorem isMark_qualifier {w : List Char} (h : isQualifier w = true) : ∀ c ∈ w, isMark c = true := by
  intro c mem
  have listed : c ∈ "const".toList ++ "volatile".toList := by
    rw [List.mem_append]
    rcases qualifier_cases h with rfl | rfl
    · exact .inl mem
    · exact .inr mem
  rw [isMark, List.contains_iff_mem.2 listed, Bool.or_true]

/-- White space and signs are marks. -/
theorem isMark_separator {c : Char} (h : isSeparator c = true) : isMark c = true := by
  rw [isMark, h, Bool.true_or]

namespace Qualifier

variable (w : Qualifier)

/-- A qualifier begins with a letter and has an `o`, which tells it from signs. -/
theorem exists_letter : ∃ c rest, w.word = c :: rest ∧ (c == '*') = false ∧ 'o' ∈ w.word := by
  rcases qualifier_cases w.known with word | word
  all_goals
    rw [word]
    exact ⟨_, _, rfl, by decide, by decide⟩

/-- A qualifier and its white space are marks. -/
theorem marks : ∀ c ∈ w.gap ++ w.word, isMark c = true :=
  List.forall_mem_append.2 ⟨fun c mem => isMark_separator (isSeparator_space (w.blank c mem)), isMark_qualifier w.known⟩

/-- Of a qualifier and its white space, the word is visible. -/
theorem visible_text : visible (w.gap ++ w.word) = w.word := by
  rw [visible_append, visible_blank w.blank, visible_solid (solid_qualifier w.known), List.nil_append]

end Qualifier

/-- A sign with its qualifiers is made of marks. -/
theorem Layer.marks (l : Layer) : ∀ c ∈ l.text, isMark c = true := by
  refine List.forall_mem_append.2 ⟨fun c mem => isMark_separator (isSeparator_space (l.blank c mem)), ?_⟩
  refine List.forall_mem_cons.2 ⟨isMark_separator (isSeparator_sign l.indirection), fun c mem => ?_⟩
  obtain ⟨w, -, mem⟩ := List.mem_flatMap.1 mem
  exact w.marks c mem

/-- What is visible of a series is what is visible of its items. -/
theorem visible_flatMap {α : Type} {f g : α → List Char} (each : ∀ a, visible (f a) = g a) (items : List α) :
    visible (items.flatMap f) = items.flatMap g := by
  induction items with
  | nil => rfl
  | cons a items ih => rw [List.flatMap_cons, List.flatMap_cons, visible_append, each, ih]

/-- Of a sign with its qualifiers, the sign and the words are visible. -/
theorem Layer.visible_text (l : Layer) : visible l.text = l.sign :: l.behind.flatMap Qualifier.word := by
  have sign : visible [l.sign] = [l.sign] := visible_solid (List.forall_mem_singleton.2 (isSpace_sign l.indirection))
  rw [text, visible_append, visible_blank l.blank, List.nil_append, ← List.singleton_append, visible_append, sign,
    visible_flatMap Qualifier.visible_text, List.singleton_append]

namespace Qualified

variable (q : Qualified)

/-- What is visible behind the base: its qualifiers, and the signs with theirs. -/
theorem visible_back : visible q.back =
    q.between.flatMap Qualifier.word ++ q.layers.flatMap (fun l => l.sign :: l.behind.flatMap Qualifier.word) := by
  rw [back, visible_append, visible_flatMap Qualifier.visible_text, visible_flatMap Layer.visible_text]

/-- What stands behind the base is made of marks. -/
theorem marks_back : ∀ c ∈ q.back, isMark c = true := by
  refine List.forall_mem_append.2 ⟨fun c mem => ?_, fun c mem => ?_⟩
  · obtain ⟨w, -, mem⟩ := List.mem_flatMap.1 mem
    exact w.marks c mem
  · obtain ⟨l, -, mem⟩ := List.mem_flatMap.1 mem
    exact l.marks c mem

/-- White space or a sign parts the base from what is behind it. -/
theorem apart_back : ∀ c ∈ q.back.head?, isSeparator c = true := by
  intro c mem
  unfold back at mem
  -- the base is followed by a qualifier, by the first layer, or by nothing
  cases between : q.between with
  | cons w ws =>
    have parted := q.partedBetween w (by simp [between])
    obtain ⟨d, gap, blank⟩ := List.exists_cons_of_ne_nil parted
    rw [between, List.flatMap_cons, blank] at mem
    cases mem
    exact isSeparator_space (w.blank c (by simp [blank]))
  | nil =>
    rw [between] at mem
    cases layers : q.layers with
    | nil =>
      rw [layers] at mem
      cases mem
    | cons l ls =>
      rw [layers, List.flatMap_cons, Layer.text] at mem
      cases gap : l.gap with
      | nil =>
        rw [gap] at mem
        cases mem
        exact isSeparator_sign l.indirection
      | cons d rest =>
        rw [gap] at mem
        cases mem
        exact isSeparator_space (l.blank c (by simp [gap]))

/-- Qualifiers in front of the base are no part of a shape. -/
theorem occursIn_front (shape : BannedType) (s : List Char) : shape.occursIn (q.front ++ s) = shape.occursIn s := by
  have each : ∀ ws : List Qualifier, (∀ w ∈ ws, w.gap ≠ []) →
      shape.occursIn (ws.flatMap (fun w => w.word ++ w.gap) ++ s) = shape.occursIn s := by
    intro ws
    induction ws with
    | nil => exact fun _ => rfl
    | cons w ws ih =>
      intro parted
      obtain ⟨here, later⟩ := List.forall_mem_cons.1 parted
      -- the last character of the gap is white space, in front of which there are marks only
      obtain none | ⟨gap, d, last⟩ := List.eq_nil_or_concat w.gap
      · exact absurd none here
      · rw [List.concat_eq_append] at last
        have blank := w.blank
        rw [last] at blank
        have marks : ∀ c ∈ w.word ++ gap, isMark c = true :=
          List.forall_mem_append.2 ⟨isMark_qualifier w.known,
            fun c mem => isMark_separator (isSeparator_space (blank c (by simp [mem])))⟩
        have whole : (w :: ws).flatMap (fun w => w.word ++ w.gap) ++ s =
            (w.word ++ gap) ++ d :: (ws.flatMap (fun w => w.word ++ w.gap) ++ s) := by
          simp [last]
        rw [whole, shape.occursIn_skip marks (blank d (by simp)), ih later]
  exact each q.before q.partedBefore

/-- A shape occurs in the bare type if it occurs in the base, or if the base ends in a word of the shape that the signs
complete. -/
theorem occursIn_bare (shape : BannedType) :
    shape.occursIn q.bare = (shape.occursIn q.base || (shape.endsIn q.base && shape.follows q.signs)) := by
  have signs : ∀ c ∈ q.signs, isIndirection c = true := by
    intro c mem
    obtain ⟨l, -, rfl⟩ := List.mem_map.1 mem
    exact l.indirection
  have separators : ∀ c ∈ q.signs, isSeparator c = true := fun c mem => isSeparator_sign (signs c mem)
  rw [bare, shape.occursIn_append q.closed (fun c mem => separators c (List.mem_of_head? mem))
    (fun c mem => isMark_separator (separators c mem)), visible_solid (fun c mem => isSpace_sign (signs c mem))]

/-- A qualifier behind the base shows among the visible characters there. -/
theorem mem_visible_back (qualified : q.hides .floatPointer = true) : 'o' ∈ visible q.back := by
  rw [visible_back, List.mem_append]
  rcases Bool.or_eq_true_iff.1 qualified with between | behind
  · obtain ⟨w, mem⟩ := List.exists_mem_of_ne_nil q.between (by simpa using between)
    obtain ⟨-, -, -, -, own⟩ := w.exists_letter
    exact .inl (List.mem_flatMap.2 ⟨w, mem, own⟩)
  · obtain ⟨l, listed, some⟩ := List.any_eq_true.1 behind
    obtain ⟨w, mem⟩ := List.exists_mem_of_ne_nil l.behind (by simpa using some)
    obtain ⟨-, -, -, -, own⟩ := w.exists_letter
    exact .inr (List.mem_flatMap.2 ⟨l, listed, List.mem_cons_of_mem _ (List.mem_flatMap.2 ⟨w, mem, own⟩)⟩)

/-- With no qualifier behind the base, the signs are all that is visible there. -/
theorem visible_back_unqualified (unqualified : q.hides .floatPointer = false) : visible q.back = q.signs := by
  obtain ⟨between, behind⟩ := Bool.or_eq_false_iff.1 unqualified
  have empty : q.between = [] := by simpa using between
  have plain : ∀ ls : List Layer, ls.any (fun l => !l.behind.isEmpty) = false →
      ls.flatMap (fun l => l.sign :: l.behind.flatMap Qualifier.word) = ls.map Layer.sign := by
    intro ls
    induction ls with
    | nil => exact fun _ => rfl
    | cons l ls ih =>
      intro none
      obtain ⟨here, later⟩ := Bool.or_eq_false_iff.1 none
      have empty : l.behind = [] := by simpa using here
      rw [List.flatMap_cons, empty, ih later]
      rfl
  rw [visible_back, empty, plain _ behind]
  rfl

/-- The visible characters behind the base make a pointer shape as the signs do, unless qualifiers hide it. -/
theorem follows_back {shape : BannedType} (pointer : shape.words ≠ []) :
    shape.follows (visible q.back) = (shape.follows q.signs && !q.hides shape) := by
  have first : ((visible q.back).head? == some '*') = ((q.signs.head? == some '*') && !!q.between.isEmpty) := by
    rw [visible_back, signs]
    cases q.between with
    | nil => cases q.layers <;> simp
    | cons w ws =>
      obtain ⟨c, rest, word, other, -⟩ := w.exists_letter
      rw [List.flatMap_cons, word]
      simpa using other
  cases shape with
  | boolPointer => exact first
  | charPointer => exact first
  | standardLibrary => exact absurd rfl pointer
  | array => exact absurd rfl pointer
  | floatPointer =>
    cases qualified : q.hides .floatPointer with
    | true =>
      -- the letters of a qualifier are no sign
      rw [Bool.not_true, Bool.and_false, Bool.eq_false_iff]
      intro same
      have letter := q.mem_visible_back qualified
      rw [eq_of_beq same] at letter
      simp at letter
    | false => rw [q.visible_back_unqualified qualified, Bool.not_false, Bool.and_true]

end Qualified

/-! ## §6. Margins. -/

/-- A text ends as its last part does. -/
theorem ends_append {P : Char → Prop} {x y : List Char} (first : ∀ c ∈ x.getLast?, P c)
    (second : ∀ c ∈ y.getLast?, P c) : ∀ c ∈ (x ++ y).getLast?, P c := by
  intro c mem
  rw [List.getLast?_append, Option.mem_def, Option.or_eq_some_iff] at mem
  rcases mem with mem | ⟨-, mem⟩
  · exact second c mem
  · exact first c mem

theorem ends_flatMap {α : Type} {f : α → List Char} (each : ∀ a, ∀ c ∈ (f a).getLast?, isSpace c = false)
    (items : List α) : ∀ c ∈ (items.flatMap f).getLast?, isSpace c = false := by
  induction items with
  | nil => simp
  | cons a items ih => exact ends_append (each a) ih

/-- A qualifier does not end in white space. -/
theorem Qualifier.ends (w : Qualifier) : ∀ c ∈ (w.gap ++ w.word).getLast?, isSpace c = false := by
  rcases qualifier_cases w.known with word | word
  all_goals
    rw [word]
    intro c mem
    rw [List.getLast?_append] at mem
    cases mem
    decide

/-- A sign with its qualifiers does not end in white space. -/
theorem Layer.ends (l : Layer) : ∀ c ∈ l.text.getLast?, isSpace c = false := by
  have sign : ∀ c ∈ (l.gap ++ [l.sign]).getLast?, isSpace c = false := by
    intro c mem
    rw [List.getLast?_append] at mem
    cases mem
    exact isSpace_sign l.indirection
  have whole : l.text = (l.gap ++ [l.sign]) ++ l.behind.flatMap (fun w => w.gap ++ w.word) := by simp [text]
  rw [whole]
  exact ends_append sign (ends_flatMap Qualifier.ends _)

namespace Qualified

variable (q : Qualified)

/-- The base does not begin in white space, whatever stands behind it. -/
theorem starts_append (s : List Char) : ∀ c ∈ (q.base ++ s).head?, isSpace c = false := by
  obtain ⟨x, d, base, -⟩ := q.closed
  have starts := q.starts
  rw [base] at starts ⊢
  cases x <;> exact starts

/-- The base does not end in white space. -/
theorem ends_base : ∀ c ∈ q.base.getLast?, isSpace c = false := by
  obtain ⟨x, d, base, solid⟩ := q.closed
  intro c mem
  rw [base, List.getLast?_concat] at mem
  cases mem
  exact (Bool.or_eq_false_iff.1 solid).1

/-- Trimming takes the white space around the declared type away, and nothing else. -/
theorem trim_text : trim q.text = q.front ++ (q.base ++ q.back) := by
  refine trim_margins q.blankLeft q.blankRight ?_ ?_
  · unfold front
    cases q.before with
    | nil => exact q.starts_append q.back
    | cons w ws =>
      obtain ⟨c, rest, word, -⟩ := w.exists_letter
      have solid := solid_qualifier w.known
      rw [word] at solid
      intro d mem
      rw [List.flatMap_cons, word] at mem
      cases mem
      exact solid c List.mem_cons_self
  · have back := ends_append (ends_flatMap Qualifier.ends q.between) (ends_flatMap Layer.ends q.layers)
    intro c mem
    rw [List.getLast?_append, Option.mem_def, Option.or_eq_some_iff] at mem
    rcases mem with mem | ⟨none, -⟩
    · exact ends_append q.ends_base back c mem
    · obtain ⟨x, d, base, -⟩ := q.closed
      simp [base] at none

/-- There is nothing to trim in the bare type. -/
theorem trim_bare : trim q.bare = q.bare := by
  have signs : ∀ c ∈ q.signs.getLast?, isSpace c = false := by
    intro c mem
    obtain ⟨l, -, rfl⟩ := List.mem_map.1 (List.mem_of_getLast? mem)
    exact isSpace_sign l.indirection
  have trimmed := trim_margins (l := []) (r := []) (List.forall_mem_nil _) (List.forall_mem_nil _)
    (q.starts_append q.signs) (ends_append q.ends_base signs)
  rwa [List.nil_append, List.append_nil] at trimmed

/-! ## §7. The answer of the filter. -/

/-- **A declared type has the shapes of the type without its qualifiers, but for those that they mask.** -/
theorem occursIn_text (shape : BannedType) :
    shape.occursIn (trim q.text) = (shape.occursIn q.bare && !q.masks shape) := by
  rw [trim_text, occursIn_front, shape.occursIn_append q.closed q.apart_back q.marks_back, occursIn_bare, masks]
  by_cases pointer : shape.words = []
  · have noWord : shape.endsIn q.base = false := by
      rw [BannedType.endsIn, pointer]
      exact atWordStart_none (fun _ _ => rfl) true
    rw [noWord]
    cases shape.occursIn q.base <;> rfl
  · rw [q.follows_back pointer]
    cases shape.occursIn q.base <;> simp [Bool.and_assoc]

end Qualified

/-- The shapes in the order in which they are reported. -/
def BannedType.inOrder : List BannedType :=
  [boolPointer, floatPointer, standardLibrary, charPointer, array]

/-- **The answer of the filter**, from the type without its qualifiers. -/
theorem Qualified.bannedType?_text (q : Qualified) :
    bannedType? q.text = BannedType.inOrder.find? (fun shape => shape.occursIn q.bare && !q.masks shape) :=
  congrArg (BannedType.inOrder.find? ·) (funext q.occursIn_text)

/-- The bare type is banned for the first shape that occurs in it. -/
theorem Qualified.bannedType?_bare (q : Qualified) :
    bannedType? q.bare = BannedType.inOrder.find? (fun shape => shape.occursIn q.bare) := by
  rw [bannedType?, trim_bare]
  rfl

/-- A base that ends in a word of a shape has this word as its end. -/
theorem BannedType.exists_suffix {shape : BannedType} {base : List Char} (ends : shape.endsIn base = true) :
    ∃ w ∈ shape.words, w <:+ base := by
  have each : ∀ (free : Bool) (s : List Char), atWordStart shape.words.contains free s = true →
      ∃ w ∈ shape.words, w <:+ s := by
    intro free s
    induction s generalizing free with
    | nil =>
      intro found
      have word := (Bool.and_eq_true_iff.1 found).2
      exact ⟨[], List.contains_iff_mem.1 word, List.suffix_rfl⟩
    | cons c s ih =>
      intro found
      rcases Bool.or_eq_true_iff.1 found with here | later
      · exact ⟨c :: s, List.contains_iff_mem.1 (Bool.and_eq_true_iff.1 here).2, List.suffix_rfl⟩
      · obtain ⟨w, known, tail⟩ := ih _ later
        exact ⟨w, known, tail.trans (List.suffix_cons c s)⟩
  exact each true base ends

/-- A base ends in the words of one shape only. -/
theorem BannedType.endsIn_unique {first second : BannedType} {base : List Char} (one : first.endsIn base = true)
    (other : second.endsIn base = true) : first = second := by
  obtain ⟨w, known, tail⟩ := exists_suffix one
  obtain ⟨v, listed, tail'⟩ := exists_suffix other
  have table : ∀ first second : BannedType, ∀ w ∈ first.words, ∀ v ∈ second.words, w <:+ v → first = second := by
    intro first second
    cases first <;> cases second <;> decide
  rcases List.suffix_or_suffix_of_suffix tail tail' with nested | nested
  · exact table first second w known v listed nested
  · exact (table second first v listed w known nested).symm

/-- What is found first among more is found first among fewer that it is one of. -/
theorem find?_narrow {α : Type} {f g : α → Bool} {items : List α} {a : α} (first : items.find? f = some a)
    (here : g a = true) (narrower : ∀ b, g b = true → f b = true) : items.find? g = some a := by
  obtain ⟨-, front, back, rfl, before⟩ := List.find?_eq_some_iff_append.1 first
  refine List.find?_eq_some_iff_append.2 ⟨here, front, back, rfl, fun b mem => ?_⟩
  have none := before b mem
  rw [Bool.not_eq_true'] at none ⊢
  rw [Bool.eq_false_iff]
  intro found
  rw [narrower b found] at none
  cases none

namespace Qualified

variable {q r : Qualified}

/-- Spellings of the same type have the same bare type. -/
theorem SameType.bare_eq (same : q.SameType r) : q.bare = r.bare := by
  rw [bare, bare, same.1, same.2]

/-- A masked shape is made by the word that the base ends in. -/
theorem endsIn_of_masks {shape : BannedType} (found : shape.occursIn q.bare = true) (masked : q.masks shape = true) :
    shape.endsIn q.base = true := by
  have alone : shape.occursIn q.base = false := by simpa using (Bool.and_eq_true_iff.1 masked).1
  rw [occursIn_bare, alone, Bool.false_or] at found
  exact (Bool.and_eq_true_iff.1 found).1

/-- Over one base, no two shapes are masked. -/
theorem masks_unique (base : q.base = r.base) {one other : BannedType} (found : one.occursIn q.bare = true)
    (masked : q.masks one = true) (found' : other.occursIn r.bare = true) (masked' : r.masks other = true) :
    one = other :=
  BannedType.endsIn_unique (endsIn_of_masks found masked) (base ▸ endsIn_of_masks found' masked')

/-- Qualifiers add no shape. -/
theorem bannedType?_text_none (bare : bannedType? q.bare = none) : bannedType? q.text = none := by
  rw [bannedType?_bare] at bare
  rw [bannedType?_text]
  refine List.find?_eq_none.2 (fun shape mem found => ?_)
  exact List.find?_eq_none.1 bare shape mem (Bool.and_eq_true_iff.1 found).1

/-- The shape of a type is reported exactly if the qualifiers do not mask it. -/
theorem bannedType?_text_eq_some {shape : BannedType} (first : bannedType? q.bare = some shape) :
    bannedType? q.text = some shape ↔ q.masks shape = false := by
  rw [bannedType?_bare] at first
  rw [bannedType?_text]
  constructor
  · intro answer
    have both := List.find?_some answer
    simpa using (Bool.and_eq_true_iff.1 both).2
  · intro free
    have found : shape.occursIn q.bare = true := List.find?_some first
    exact find?_narrow first (by rw [found, free]; rfl) (fun _ both => (Bool.and_eq_true_iff.1 both).1)

/-- Once two spellings mask the shape of their type, the filter goes on to the same shapes. -/
theorem bannedType?_text_of_masks (same : q.SameType r) {shape : BannedType} (found : shape.occursIn q.bare = true)
    (left : q.masks shape = true) (right : r.masks shape = true) : bannedType? q.text = bannedType? r.text := by
  rw [bannedType?_text, bannedType?_text, ← same.bare_eq]
  refine congrArg (BannedType.inOrder.find? ·) (funext (fun other => ?_))
  by_cases one : other = shape
  · rw [one, left, right]
  · cases shows : other.occursIn q.bare with
    | false => rfl
    | true =>
      -- the base makes no other shape, so nothing else is masked
      have here : q.masks other = false :=
        Bool.eq_false_iff.2 (fun masked => one (masks_unique rfl shows masked found left))
      have there : r.masks other = false :=
        Bool.eq_false_iff.2 (fun masked => one (masks_unique same.1.symm (same.bare_eq ▸ shows) masked found left))
      rw [here, there]

/-- **Two spellings of a type get the same answer from the filter exactly if their qualifiers mask the shape of the
type alike.** -/
theorem bannedType?_eq_iff (same : q.SameType r) :
    bannedType? q.text = bannedType? r.text ↔
      ∀ shape, bannedType? q.bare = some shape → q.masks shape = r.masks shape := by
  have other : ∀ {answer}, bannedType? q.bare = answer → bannedType? r.bare = answer :=
    fun first => same.bare_eq ▸ first
  constructor
  · intro alike shape first
    have left := bannedType?_text_eq_some first
    rw [alike, bannedType?_text_eq_some (other first)] at left
    cases here : r.masks shape with
    | false => exact left.1 here
    | true => simpa [here] using left
  · intro alike
    cases first : bannedType? q.bare with
    | none => rw [bannedType?_text_none first, bannedType?_text_none (other first)]
    | some shape =>
      have agree := alike shape first
      -- a shape that is not masked is the answer itself
      cases left : q.masks shape with
      | false =>
        rw [(bannedType?_text_eq_some first).2 left, (bannedType?_text_eq_some (other first)).2 (agree ▸ left)]
      | true =>
        rw [bannedType?_bare] at first
        exact bannedType?_text_of_masks same (List.find?_some first) left (agree ▸ left)

/-- The word `const` behind a space, or in front of one. -/
def constWord : Qualifier where
  gap := [' ']
  word := "const".toList
  blank := List.forall_mem_singleton.2 rfl
  known := rfl

/-- A pointer sign behind a space. -/
def pointerLayer : Layer where
  gap := [' ']
  sign := '*'
  behind := []
  blank := List.forall_mem_singleton.2 rfl
  indirection := rfl
  parted := List.forall_mem_nil _

/-- `const bool *` -/
def constBoolPointer : Qualified where
  left := []
  before := [constWord]
  base := "bool".toList
  between := []
  layers := [pointerLayer]
  right := []
  blankLeft := List.forall_mem_nil _
  blankRight := List.forall_mem_nil _
  partedBefore := List.forall_mem_singleton.2 (List.cons_ne_nil _ _)
  partedBetween := List.forall_mem_nil _
  starts := by
    rintro c ⟨⟩
    rfl
  closed := ⟨"boo".toList, 'l', rfl, rfl⟩

/-- `bool const *` -/
def boolConstPointer : Qualified where
  left := []
  before := []
  base := "bool".toList
  between := [constWord]
  layers := [pointerLayer]
  right := []
  blankLeft := List.forall_mem_nil _
  blankRight := List.forall_mem_nil _
  partedBefore := List.forall_mem_nil _
  partedBetween := List.forall_mem_singleton.2 (List.cons_ne_nil _ _)
  starts := by
    rintro c ⟨⟩
    rfl
  closed := ⟨"boo".toList, 'l', rfl, rfl⟩

/-- The two places of `const` around the base of a pointer to `bool`. -/
theorem bannedType?_eq_iff_const : constBoolPointer.SameType boolConstPointer ∧
    (bannedType? constBoolPointer.text = bannedType? boolConstPointer.text ↔
      ∀ shape, bannedType? constBoolPointer.bare = some shape →
        constBoolPointer.masks shape = boolConstPointer.masks shape) :=
  have same : constBoolPointer.SameType boolConstPointer := by decide
  ⟨same, bannedType?_eq_iff same⟩

/-- With `const` behind its base, a pointer to `bool` passes the filter. -/
theorem bannedType?_boolConstPointer : constBoolPointer.SameType boolConstPointer ∧
    constBoolPointer.text = "const bool *".toList ∧ bannedType? constBoolPointer.text = some .boolPointer ∧
    boolConstPointer.text = "bool const *".toList ∧ bannedType? boolConstPointer.text = none := by
  decide

end Qualified

end ScriptBridge.Declared

import Mathlib.Data.List.Induction
import ScriptBridge.Proofs.Declared.Qualified
import ScriptBridge.Proofs.Symbol.PlainNames

/-!
# ScriptBridge.Proofs.Declared.Shapes

Banned shapes in any spacing and in any surroundings.

The patterns of the filter are all of one kind: a word, what may stand in front of it, and what has to come behind it,
white space aside (`BannedType.Stands`).  So white space in front of pointer signs does not matter, nor does it at
either end of a text.  And only a pointer to `float` has to end the text; any other shape that stands in a text stands
in every text around it, unless a letter, a digit or an underscore right in front makes another word of its word.

Main results:
  * `BannedType.occursIn_iff` - where a shape is found, for all shapes at once;
  * `BannedType.stands_tighten_iff`, `BannedType.stands_blank_append` - spacing does not matter;
  * `BannedType.Stands.within` - nor do surroundings;
  * `bannedType?_anywhere` - the same for the filter.
-/

namespace ScriptBridge.Declared

open ScriptBridge.Text

/-! ## §1. Where shapes are found. -/

/-- A word may begin behind the text: it does not end in an ASCII letter, a digit or an underscore. -/
def Open (front : List Char) : Prop :=
  ∀ c ∈ front.getLast?, isNameChar c = false

theorem open_nil : Open [] :=
  fun _ none => nomatch none

/-- A text is open if its last character does not belong to a name. -/
theorem open_cons_iff {c : Char} {front : List Char} :
    Open (c :: front) ↔ (front = [] → isNameChar c = false) ∧ Open front := by
  unfold Open
  cases front with
  | nil => simp
  | cons d front => simp [List.getLast?_cons_cons]

/-- Two open texts make an open one. -/
theorem Open.append {x y : List Char} (first : Open x) (second : Open y) : Open (x ++ y) :=
  ends_append first second

/-- White space is open. -/
theorem Open.of_blank {x : List Char} (blank : ∀ c ∈ x, isSpace c = true) : Open x := by
  intro c mem
  rw [Bool.eq_false_iff]
  intro word
  have space := blank c (List.mem_of_getLast? mem)
  rw [(isNameChar_classes word).visible] at space
  cases space

/-- **Where a pattern is found**: behind an open text. -/
theorem atWordStart_iff {p : List Char → Bool} {free : Bool} {s : List Char} :
    atWordStart p free s = true ↔
      ∃ front rest, s = front ++ rest ∧ p rest = true ∧ (front = [] → free = true) ∧ Open front := by
  -- induction on the text, where `free` says what stood in front of it
  induction s generalizing free with
  | nil =>
    rw [atWordStart, Bool.and_eq_true]
    constructor
    · rintro ⟨start, found⟩
      exact ⟨[], [], rfl, found, fun _ => start, open_nil⟩
    · rintro ⟨front, rest, text, found, start, -⟩
      obtain ⟨rfl, rfl⟩ := List.append_eq_nil_iff.1 text.symm
      exact ⟨start rfl, found⟩
  | cons c s ih =>
    rw [atWordStart, Bool.or_eq_true, Bool.and_eq_true, ih]
    constructor
    · rintro (⟨start, found⟩ | ⟨front, rest, rfl, found, start, opened⟩)
      · exact ⟨[], c :: s, rfl, found, fun _ => start, open_nil⟩
      · refine ⟨c :: front, rest, rfl, found, (fun none => by cases none), open_cons_iff.2 ⟨fun none => ?_, opened⟩⟩
        simpa [isNameChar] using start none
    · rintro ⟨front, rest, text, found, start, opened⟩
      cases front with
      | nil => exact .inl ⟨start rfl, text ▸ found⟩
      | cons d front =>
        obtain ⟨rfl, rfl⟩ := List.cons.inj text
        obtain ⟨first, opened⟩ := open_cons_iff.1 opened
        exact .inr ⟨front, rest, rfl, found, fun none => by simpa [isNameChar] using first none, opened⟩

namespace BannedType

/-- The words that a shape is known by. -/
def keys : BannedType → List (List Char)
  | boolPointer => ["bool".toList]
  | floatPointer => ["float".toList, "float3".toList]
  | standardLibrary => ["std::".toList]
  | charPointer => ["char".toList]
  | array => ["[".toList]

/-- The shapes that are pointers. -/
def isPointer : BannedType → Bool
  | boolPointer | floatPointer | charPointer => true
  | standardLibrary | array => false

/-- What may stand in front of such a word: for a pointer nothing that the word would be a part of. -/
def Admits (shape : BannedType) (front : List Char) : Prop :=
  shape.isPointer = true → Open front

/-- What has to come behind such a word, white space aside: for a pointer the sign, and for one to `float` nothing
else. -/
def Continues : BannedType → List Char → Prop
  | boolPointer, s | charPointer, s => s.head? = some '*'
  | floatPointer, s => s = ['*']
  | standardLibrary, _ | array, _ => True

/-- The shape stands in the text. -/
def Stands (shape : BannedType) (s : List Char) : Prop :=
  ∃ front key behind, s = front ++ (key ++ behind) ∧ key ∈ shape.keys ∧ shape.Admits front ∧
    shape.Continues (visible behind)

variable {shape : BannedType} {key s t : List Char}

/-- The words of shapes have neither white space nor signs in them. -/
theorem exists_key (known : key ∈ shape.keys) :
    (∃ c rest, key = c :: rest) ∧ ∀ c ∈ key, isSeparator c = false := by
  have table : ∀ shape : BannedType, ∀ key ∈ shape.keys, key ≠ [] ∧ key.any isSeparator = false := by
    intro shape
    cases shape <;> decide
  obtain ⟨some, solid⟩ := table shape key known
  exact ⟨List.exists_cons_of_ne_nil some, forall_of_any solid⟩

/-- What it says that a pointer shape stands in a text. -/
theorem stands_pointer_iff (pointer : shape.isPointer = true) : shape.Stands s ↔ ∃ front key behind,
    s = front ++ (key ++ behind) ∧ key ∈ shape.keys ∧ Open front ∧ shape.Continues (visible behind) := by
  simp only [Stands, Admits, pointer, forall_const]

/-- A pattern that reads words stands where a word does, with an open text in front. -/
theorem stands_of_reads {p : List Char → Bool} {words : List (List Char)} {follows : List Char → Bool}
    (reads : Reads p words follows) (s : List Char) :
    atWordStart p true s = true ↔ ∃ front key behind,
      s = front ++ (key ++ behind) ∧ key ∈ words ∧ Open front ∧ follows (visible behind) = true := by
  rw [atWordStart_iff]
  constructor
  · rintro ⟨front, rest, rfl, found, -, opened⟩
    obtain ⟨key, known, behind, rfl, goes_on⟩ := (reads.iff rest).1 found
    exact ⟨front, key, behind, rfl, known, opened, goes_on⟩
  · rintro ⟨front, key, behind, rfl, known, opened, goes_on⟩
    exact ⟨front, key ++ behind, rfl, (reads.iff _).2 ⟨key, known, behind, rfl, goes_on⟩, fun _ => rfl, opened⟩

/-- **A shape is found exactly where it stands.** -/
theorem occursIn_iff : shape.occursIn s = true ↔ shape.Stands s := by
  have pointer : ∀ {w : List Char} {c : Char}, (∀ c ∈ w, isSeparator c = false) → isMark c = false → c ∈ w →
      (atWordStart (isPointerTo w) true s = true ↔ ∃ front key behind, s = front ++ (key ++ behind) ∧ key ∈ [w] ∧
        Open front ∧ (visible behind).head? = some '*') := by
    intro w c solid rare mem
    simpa only [beq_iff_eq] using stands_of_reads (reads_isPointerTo solid rare mem) s
  -- pointers are searched for word by word, the other shapes anywhere
  cases shape with
  | boolPointer =>
    rw [stands_pointer_iff rfl]
    exact pointer (c := 'b') (forall_of_any (by decide)) (by decide) (by decide)
  | charPointer =>
    rw [stands_pointer_iff rfl]
    exact pointer (c := 'h') (forall_of_any (by decide)) (by decide) (by decide)
  | floatPointer =>
    have found := stands_of_reads reads_isFloatPointer s
    simp only [beq_iff_eq] at found
    rw [stands_pointer_iff rfl]
    exact found
  | standardLibrary =>
    have found := holds_iff "std::".toList s
    simp only [occursIn, found, Stands, keys, Admits, isPointer, Continues, List.mem_singleton, Bool.false_eq_true,
      false_implies, and_true]
    constructor
    · rintro ⟨front, behind, rfl⟩
      exact ⟨front, _, behind, List.append_assoc _ _ _, rfl⟩
    · rintro ⟨front, key, behind, rfl, rfl⟩
      exact ⟨front, behind, List.append_assoc _ _ _⟩
  | array =>
    have found : '[' ∈ s ↔ _ := List.mem_iff_append
    simp only [occursIn, List.contains_iff_mem, found, Stands, keys, Admits, isPointer, Continues, List.mem_singleton,
      Bool.false_eq_true, false_implies, and_true]
    constructor
    · rintro ⟨front, behind, rfl⟩
      exact ⟨front, _, behind, rfl, rfl⟩
    · rintro ⟨front, key, behind, rfl, rfl⟩
      exact ⟨front, behind, rfl⟩

end BannedType

/-! ## §2. White space in front of pointer signs. -/

/-- The text without the white space in front of its pointer signs. -/
def tighten : List Char → List Char
  | [] => []
  | c :: s => if isSpace c ∧ startsPointer s then tighten s else c :: tighten s

/-- What is visible of a text, one character at a time. -/
theorem visible_cons (c : Char) (s : List Char) : visible (c :: s) = visible [c] ++ visible s :=
  visible_append [c] s

/-- In front of a sign all white space goes. -/
theorem tighten_blank {a b x : List Char} (blank : ∀ c ∈ x, isSpace c = true) :
    tighten (a ++ (x ++ '*' :: b)) = tighten (a ++ '*' :: b) := by
  induction a with
  | nil =>
    induction x with
    | nil => rfl
    | cons c x ih =>
      obtain ⟨space, blank⟩ := List.forall_mem_cons.1 blank
      have sign : startsPointer (x ++ '*' :: b) = true := by
        rw [startsPointer_eq, visible_append, visible_blank blank]
        rfl
      exact (if_pos ⟨space, sign⟩).trans (ih blank)
  | cons c a ih =>
    have sign : startsPointer (a ++ (x ++ '*' :: b)) = startsPointer (a ++ '*' :: b) := by
      rw [startsPointer_eq, startsPointer_eq, visible_append, visible_append x, visible_blank blank, List.nil_append,
        ← visible_append]
    rw [List.cons_append, List.cons_append, tighten, tighten, sign, ih]

/-- Tightening takes white space away only. -/
theorem visible_tighten (s : List Char) : visible (tighten s) = visible s := by
  induction s with
  | nil => rfl
  | cons c s ih =>
    rw [tighten]
    split
    next gap => rw [ih, visible_cons, visible_blank (List.forall_mem_singleton.2 gap.1), List.nil_append]
    next => rw [visible_cons, ih, ← visible_cons]

/-- The text ends as before. -/
theorem getLast?_tighten (s : List Char) : (tighten s).getLast? = s.getLast? := by
  induction s with
  | nil => rfl
  | cons c s ih =>
    rw [tighten]
    split
    next gap =>
      -- there is a sign behind the white space
      cases s with
      | nil => cases gap.2
      | cons d s => rw [ih, List.getLast?_cons_cons]
    next => rw [List.getLast?_cons, ih, ← List.getLast?_cons]

/-- Tightening does not change whether a text is open. -/
theorem open_tighten_iff {s : List Char} : Open (tighten s) ↔ Open s := by
  rw [Open, getLast?_tighten, Open]

section

variable {key : List Char} (some : ∃ c rest, key = c :: rest) (solid : ∀ c ∈ key, isSeparator c = false)

include some solid

/-- No pointer sign comes up before the word. -/
theorem startsPointer_append (x y : List Char) : startsPointer (x ++ (key ++ y)) = startsPointer x := by
  obtain ⟨c, rest, rfl⟩ := some
  obtain ⟨space, sign⟩ := Bool.or_eq_false_iff.1 (solid c List.mem_cons_self)
  have other : c ≠ '*' := by
    rintro rfl
    cases sign
  have first : (visible (c :: rest ++ y)).head? = Option.some c := by
    rw [List.cons_append, visible_cons, visible_solid (List.forall_mem_singleton.2 space)]
    rfl
  rw [startsPointer_eq, startsPointer_eq, visible_append, List.head?_append, first]
  cases (visible x).head? with
  | none => simp [other]
  | some d => rfl

omit some in
/-- A word in front of a text stays as it is. -/
theorem tighten_word (y : List Char) : tighten (key ++ y) = key ++ tighten y := by
  induction key with
  | nil => rfl
  | cons c rest ih =>
    obtain ⟨here, later⟩ := List.forall_mem_cons.1 solid
    have visible : ¬(isSpace c = true ∧ startsPointer (rest ++ y) = true) := by
      rintro ⟨space, -⟩
      simp [isSeparator, space] at here
    rw [List.cons_append, tighten, if_neg visible, ih later, List.cons_append]

/-- Texts around a word are tightened apart from each other. -/
theorem tighten_append (x y : List Char) : tighten (x ++ (key ++ y)) = tighten x ++ (key ++ tighten y) := by
  induction x with
  | nil => exact tighten_word solid y
  | cons c x ih =>
    rw [List.cons_append, tighten, tighten, startsPointer_append some solid, ih]
    split
    · rfl
    · rfl

omit some in
/-- A text that begins with the word once it is tightened begins with it before. -/
theorem exists_word {s y : List Char} (text : tighten s = key ++ y) : ∃ z, s = key ++ z ∧ tighten z = y := by
  induction key generalizing s with
  | nil => exact ⟨s, rfl, text⟩
  | cons c rest ih =>
    obtain ⟨here, later⟩ := List.forall_mem_cons.1 solid
    cases s with
    | nil => cases text
    | cons d s =>
      rw [tighten] at text
      split at text
      next gap =>
        -- the tightened text would begin with the sign
        have pointer := gap.2
        rw [startsPointer_eq, ← visible_tighten, text, ← startsPointer_eq,
          ← List.nil_append (c :: rest ++ y), startsPointer_append ⟨c, rest, rfl⟩ solid] at pointer
        cases pointer
      next =>
        obtain ⟨rfl, same⟩ := List.cons.inj text
        obtain ⟨z, rfl, tight⟩ := ih later same
        exact ⟨z, rfl, tight⟩

/-- A word in the tightened text is there before. -/
theorem exists_surroundings {s x y : List Char} (text : tighten s = x ++ (key ++ y)) :
    ∃ front behind, s = front ++ (key ++ behind) ∧ tighten front = x ∧ tighten behind = y := by
  induction s generalizing x with
  | nil =>
    obtain ⟨c, rest, rfl⟩ := some
    simp [tighten] at text
  | cons d s ih =>
    rw [tighten] at text
    split at text
    next gap =>
      obtain ⟨front, behind, rfl, tight, rest⟩ := ih text
      rw [startsPointer_append some solid] at gap
      exact ⟨d :: front, behind, rfl, by rw [tighten, if_pos gap, tight], rest⟩
    next visible =>
      cases x with
      | nil =>
        obtain ⟨z, whole, tight⟩ := exists_word solid (s := d :: s) (by rw [tighten, if_neg visible]; exact text)
        exact ⟨[], z, whole, rfl, tight⟩
      | cons c x =>
        obtain ⟨rfl, same⟩ := List.cons.inj text
        obtain ⟨front, behind, rfl, tight, rest⟩ := ih same
        rw [startsPointer_append some solid] at visible
        exact ⟨d :: front, behind, rfl, by rw [tighten, if_neg visible, tight], rest⟩

end

namespace BannedType

variable {shape : BannedType} {s t : List Char}

/-- What is admitted behind a word is a matter of what is visible. -/
theorem admits_tighten_iff : shape.Admits (tighten s) ↔ shape.Admits s :=
  imp_congr_right fun _ => open_tighten_iff

/-- **White space in front of pointer signs does not matter.** -/
theorem stands_tighten_iff : shape.Stands (tighten s) ↔ shape.Stands s := by
  constructor
  · -- words have no white space in them, so none of them comes about
    rintro ⟨x, key, y, text, known, admitted, goes_on⟩
    obtain ⟨some, solid⟩ := exists_key known
    obtain ⟨front, behind, rfl, rfl, rfl⟩ := exists_surroundings some solid text
    rw [visible_tighten] at goes_on
    exact ⟨front, key, behind, rfl, known, admits_tighten_iff.1 admitted, goes_on⟩
  · rintro ⟨front, key, behind, rfl, known, admitted, goes_on⟩
    obtain ⟨some, solid⟩ := exists_key known
    refine ⟨tighten front, key, tighten behind, tighten_append some solid front behind, known,
      admits_tighten_iff.2 admitted, ?_⟩
    rwa [visible_tighten]

/-! ## §3. Surroundings. -/

/-- **Whatever is around a text does not matter to shapes other than pointers to `float`**, unless it makes another word
of the first one. -/
theorem Stands.within (h : shape.Stands s) (any : shape ≠ floatPointer) {p : List Char} (opened : Open p)
    (q : List Char) : shape.Stands (p ++ (s ++ q)) := by
  obtain ⟨front, key, behind, rfl, known, admitted, goes_on⟩ := h
  have further : shape.Continues (visible (behind ++ q)) := by
    rw [visible_append]
    have first : ∀ {x y : List Char}, x.head? = some '*' → (x ++ y).head? = some '*' := by
      intro x y first
      rw [List.head?_append, first, Option.some_or]
    cases shape with
    | boolPointer | charPointer => exact first goes_on
    | floatPointer => exact absurd rfl any
    | standardLibrary | array => exact trivial
  exact ⟨p ++ front, key, behind ++ q, by simp, known, fun pointer => opened.append (admitted pointer), further⟩

/-- A shape does not begin with white space. -/
theorem Stands.of_cons {c : Char} (space : isSpace c = true) (h : shape.Stands (c :: s)) : shape.Stands s := by
  obtain ⟨front, key, behind, text, known, admitted, goes_on⟩ := h
  obtain ⟨⟨k, rest, rfl⟩, solid⟩ := exists_key known
  cases front with
  | nil =>
    obtain ⟨rfl, -⟩ := List.cons.inj text
    have visible := solid c List.mem_cons_self
    simp [isSeparator, space] at visible
  | cons d front =>
    obtain ⟨rfl, rfl⟩ := List.cons.inj text
    exact ⟨front, _, behind, rfl, known, fun pointer => (open_cons_iff.1 (admitted pointer)).2, goes_on⟩

/-- Nor does it end with any. -/
theorem Stands.of_concat {c : Char} (space : isSpace c = true) (h : shape.Stands (s ++ [c])) : shape.Stands s := by
  obtain ⟨front, key, behind, text, known, admitted, goes_on⟩ := h
  obtain ⟨⟨k, rest, rfl⟩, solid⟩ := exists_key known
  rw [← List.append_assoc] at text
  obtain rfl | ⟨behind, d, rfl⟩ := List.eq_nil_or_concat' behind
  · have last : c ∈ k :: rest := by
      have same := congrArg List.getLast? text
      rw [List.append_nil, List.getLast?_concat, List.getLast?_append_of_ne_nil _ (List.cons_ne_nil _ _)] at same
      exact List.mem_of_getLast? same.symm
    have visible := solid c last
    simp [isSeparator, space] at visible
  · rw [← List.append_assoc] at text
    obtain ⟨rfl, same⟩ := List.append_inj' text rfl
    obtain rfl := List.singleton_inj.1 same
    rw [visible_append, visible_blank (List.forall_mem_singleton.2 space), List.append_nil] at goes_on
    exact ⟨front, _, behind, List.append_assoc _ _ _, known, admitted, goes_on⟩

/-- **White space at either end does not matter.** -/
theorem stands_blank_append {x y : List Char} (before : ∀ c ∈ x, isSpace c = true)
    (after : ∀ c ∈ y, isSpace c = true) : shape.Stands (x ++ (s ++ y)) ↔ shape.Stands s := by
  constructor
  · -- blanks go one by one, those in front first
    intro h
    have begun : shape.Stands (s ++ y) := by
      induction x with
      | nil => exact h
      | cons c x ih =>
        obtain ⟨space, before⟩ := List.forall_mem_cons.1 before
        exact ih before (h.of_cons space)
    clear h
    induction y using List.reverseRecOn with
    | nil => exact List.append_nil s ▸ begun
    | append_singleton y c ih =>
      obtain ⟨after, space⟩ := List.forall_mem_append.1 after
      rw [← List.append_assoc] at begun
      exact ih after (begun.of_concat (space c (List.mem_singleton_self c)))
  · rintro ⟨front, key, behind, rfl, known, admitted, goes_on⟩
    have opened : shape.Admits (x ++ front) := fun pointer => (Open.of_blank before).append (admitted pointer)
    refine ⟨x ++ front, key, behind ++ y, by simp, known, opened, ?_⟩
    rwa [visible_append, visible_blank after, List.append_nil]

/-- Trimming does not change which shapes stand in a text. -/
theorem stands_trim_iff : shape.Stands (trim s) ↔ shape.Stands s := by
  have blank : ∀ t : List Char, ∀ c ∈ t.takeWhile isSpace, isSpace c = true :=
    fun t => List.all_eq_true.1 List.all_takeWhile
  have around : s = s.takeWhile isSpace ++ (trim s ++ ((trimStart s).reverse.takeWhile isSpace).reverse) := by
    rw [trim, trimEnd, ← List.reverse_append, List.takeWhile_append_dropWhile, List.reverse_reverse, trimStart,
      List.takeWhile_append_dropWhile]
  conv_rhs => rw [around]
  exact (stands_blank_append (blank s) fun c mem => blank _ c (List.mem_reverse.1 mem)).symm

end BannedType

/-! ## §4. The filter. -/

variable {s t : List Char}

/-- **The answer of the filter** is the first shape, in the order of reports, that stands in the text. -/
theorem bannedType?_eq_some_iff {shape : BannedType} : bannedType? t = some shape ↔ shape.Stands t ∧
    ∃ before after, BannedType.inOrder = before ++ shape :: after ∧ ∀ other ∈ before, ¬ other.Stands t := by
  have stands : ∀ other : BannedType, other.occursIn (trim t) = true ↔ other.Stands t := fun other =>
    BannedType.occursIn_iff.trans BannedType.stands_trim_iff
  rw [bannedType?, List.find?_eq_some_iff_append, stands]
  simp only [Bool.not_eq_true', ← Bool.not_eq_true, stands]
  rfl

/-- A shape that is recognised stands in the text. -/
theorem stands_of_bannedType? {shape : BannedType} (banned : bannedType? s = some shape) : shape.Stands s :=
  (bannedType?_eq_some_iff.1 banned).1

/-- A text in which some shape stands is recognised. -/
theorem exists_bannedType? {shape : BannedType} (h : shape.Stands s) : ∃ found, bannedType? s = some found := by
  have occurs := BannedType.occursIn_iff.2 (BannedType.stands_trim_iff.2 h)
  refine Option.isSome_iff_exists.1 (List.find?_isSome.2 ⟨shape, ?_, occurs⟩)
  cases shape <;> decide

/-- Texts with the same shapes are banned alike. -/
theorem bannedType?_congr (same : ∀ shape : BannedType, shape.Stands s ↔ shape.Stands t) :
    bannedType? s = bannedType? t := by
  have alike : ∀ shape : BannedType, shape.occursIn (trim s) = shape.occursIn (trim t) := by
    intro shape
    rw [Bool.eq_iff_iff, BannedType.occursIn_iff, BannedType.occursIn_iff, BannedType.stands_trim_iff, same,
      BannedType.stands_trim_iff]
  exact congrArg (BannedType.inOrder.find? ·) (funext alike)

/-- **Banned shapes are recognised in any spacing and in any surroundings**: a text is banned for the first shape that
stands in it.  White space in front of pointer signs and at either end changes no answer, and a banned type that is no
pointer to `float` is banned wherever it stands. -/
theorem bannedType?_anywhere :
    (∀ t shape, bannedType? t = some shape ↔ shape.Stands t ∧
      ∃ before after, BannedType.inOrder = before ++ shape :: after ∧ ∀ other ∈ before, ¬ other.Stands t) ∧
    (∀ a b x y, (∀ c ∈ x, isSpace c = true) → (∀ c ∈ y, isSpace c = true) →
      bannedType? (a ++ (x ++ '*' :: b)) = bannedType? (a ++ (y ++ '*' :: b))) ∧
    (∀ t x y, (∀ c ∈ x, isSpace c = true) → (∀ c ∈ y, isSpace c = true) →
      bannedType? (x ++ (t ++ y)) = bannedType? t) ∧
    ∀ t shape, bannedType? t = some shape → shape ≠ .floatPointer →
      ∀ p, Open p → ∀ q, ∃ found, bannedType? (p ++ (t ++ q)) = some found := by
  refine ⟨fun t shape => bannedType?_eq_some_iff, ?_, ?_, ?_⟩
  · intro a b x y before after
    refine bannedType?_congr fun shape => ?_
    rw [← BannedType.stands_tighten_iff, tighten_blank before, ← tighten_blank after, BannedType.stands_tighten_iff]
  · intro t x y before after
    exact bannedType?_congr fun shape => BannedType.stands_blank_append before after
  · intro t shape banned any p opened q
    exact exists_bannedType? ((stands_of_bannedType? banned).within any opened q)

/-- With three more spaces a pointer to `bool` is one still, and so it is as an argument of a template. -/
theorem bannedType?_anywhere_nested :
    bannedType? "bool*".toList = some .boolPointer ∧ bannedType? " bool  *".toList = some .boolPointer ∧
      Open "QList<const ".toList ∧
      ∃ found, bannedType? ("QList<const ".toList ++ (" bool  *".toList ++ ">".toList)) = some found := by
  have spaces : ∀ n, ∀ c ∈ List.replicate n ' ', isSpace c = true := by
    intro n c mem
    rw [List.eq_of_mem_replicate mem]
    rfl
  have pointer : bannedType? "bool*".toList = some .boolPointer := by decide
  have respaced : bannedType? "bool  *".toList = some .boolPointer :=
    (bannedType?_anywhere.2.1 "bool".toList [] _ _ (spaces 2) (spaces 0)).trans pointer
  have indented : bannedType? " bool  *".toList = some .boolPointer :=
    (bannedType?_anywhere.2.2.1 "bool  *".toList _ _ (spaces 1) (spaces 0)).trans respaced
  have opened : Open "QList<const ".toList := by
    rintro c ⟨⟩
    rfl
  exact ⟨pointer, indented, opened, bannedType?_anywhere.2.2.2 _ _ indented (by decide) _ opened _⟩

end ScriptBridge.Declared

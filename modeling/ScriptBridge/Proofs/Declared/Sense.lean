import Mathlib.Data.List.Forall2
import ScriptBridge.Declared.Target

/-!
# ScriptBridge.Proofs.Declared.Sense

The sense of a declared type: what its reading depends on.

A declared type is stripped and cut into arguments, which are stripped and cut in turn.  At every level this moves
white space and drops qualifiers, so that an argument is hardly ever read as it was written.  What stays is the *sense*
of a text: its words other than qualifiers.  A basic type depends on the sense only, and a delimiter cuts a text
wherever it cuts one of the same sense.

Main results:
  * `basicType_congr` - texts of one sense have one basic type;
  * `cut_at_delimiter`, `cut_at_commas` - texts of one sense are cut alike;
  * `isLevel_congr` - texts of one sense have their brackets and commas alike;
  * `cutArguments_commas` - level arguments are found again.
-/

namespace ScriptBridge.Declared

open ScriptBridge.Text

/-! ## §1. The sense of a text. -/

/-- No character is white space. -/
def Solid (w : List Char) : Prop :=
  ∀ c ∈ w, isSpace c = false

/-- A text is solid, or it goes on behind its first white space. -/
theorem solid_or_spaced (t : List Char) : Solid t ∨ ∃ w c rest, t = w ++ c :: rest ∧ Solid w ∧ isSpace c = true := by
  induction t with
  | nil => exact .inl (List.forall_mem_nil _)
  | cons d t ih =>
    by_cases space : isSpace d = true
    · exact .inr ⟨[], d, t, rfl, List.forall_mem_nil _, space⟩
    · have visible : isSpace d = false := by simpa using space
      rcases ih with solid | ⟨w, c, rest, rfl, solid, behind⟩
      · exact .inl (List.forall_mem_cons.2 ⟨visible, solid⟩)
      · exact .inr ⟨d :: w, c, rest, rfl, List.forall_mem_cons.2 ⟨visible, solid⟩, behind⟩

/-- Induction on the white space of a text. -/
theorem spaced_induction {P : List Char → Prop} (solid : ∀ w, Solid w → P w)
    (spaced : ∀ w c rest, Solid w → isSpace c = true → P rest → P (w ++ c :: rest)) (t : List Char) : P t := by
  rcases solid_or_spaced t with whole | ⟨w, c, rest, split, front, space⟩
  · exact solid t whole
  · rw [split]
    exact spaced w c rest front space (spaced_induction solid spaced rest)
termination_by t.length
decreasing_by
  simp [split]
  omega

/-- White space parts words. -/
theorem words_append_space (x y : List Char) {c : Char} (space : isSpace c = true) :
    words (x ++ c :: y) = words x ++ words y := by
  unfold words
  rw [List.splitOnP_append_cons x y space, List.filter_append]

/-- A text without white space is a word. -/
theorem words_solid {w : List Char} (solid : Solid w) (nonempty : w ≠ []) : words w = [w] := by
  rw [words, List.splitOnP_eq_singleton solid]
  simp [nonempty]

/-- The only word of a text without white space is the text. -/
theorem eq_of_mem_words {v w : List Char} (solid : Solid v) (mem : w ∈ words v) : w = v ∧ v ≠ [] := by
  by_cases none : v = []
  · subst none
    cases mem
  · rw [words_solid solid none, List.mem_singleton] at mem
    exact ⟨mem, none⟩

/-- White space in front leaves the words as they are. -/
theorem words_spaces_append {gap : List Char} (spaces : ∀ c ∈ gap, isSpace c = true) (t : List Char) :
    words (gap ++ t) = words t := by
  induction gap with
  | nil => rfl
  | cons c gap ih =>
    obtain ⟨here, later⟩ := List.forall_mem_cons.1 spaces
    exact (words_append_space [] (gap ++ t) here).trans (ih later)

/-- White space has no words. -/
theorem words_spaces {gap : List Char} (spaces : ∀ c ∈ gap, isSpace c = true) : words gap = [] := by
  rw [← List.append_nil gap, words_spaces_append spaces]
  rfl

/-- White space at the end leaves the words as they are. -/
theorem words_append_spaces (t : List Char) {gap : List Char} (spaces : ∀ c ∈ gap, isSpace c = true) :
    words (t ++ gap) = words t := by
  cases gap with
  | nil => rw [List.append_nil]
  | cons c gap =>
    obtain ⟨here, later⟩ := List.forall_mem_cons.1 spaces
    rw [words_append_space t gap here, words_spaces later, List.append_nil]

/-- Trimming leaves the words as they are. -/
theorem words_trimEnd (t : List Char) : words (trimEnd t) = words t := by
  have whole : t = trimEnd t ++ (t.reverse.takeWhile isSpace).reverse := by
    rw [trimEnd, ← List.reverse_append, List.takeWhile_append_dropWhile, List.reverse_reverse]
  have spaces : ∀ c ∈ (t.reverse.takeWhile isSpace).reverse, isSpace c = true :=
    fun c mem => List.all_eq_true.1 List.all_takeWhile c (List.mem_reverse.1 mem)
  calc words (trimEnd t)
    _ = words (trimEnd t ++ (t.reverse.takeWhile isSpace).reverse) := (words_append_spaces _ spaces).symm
    _ = words t := by rw [← whole]

/-- Trimming at the front leaves the words as they are. -/
theorem words_trimStart (t : List Char) : words (trimStart t) = words t := by
  have spaces : ∀ c ∈ t.takeWhile isSpace, isSpace c = true := List.all_eq_true.1 List.all_takeWhile
  calc words (trimStart t)
    _ = words (t.takeWhile isSpace ++ trimStart t) := (words_spaces_append spaces _).symm
    _ = words t := by rw [trimStart, List.takeWhile_append_dropWhile]

/-- Trimming at both ends leaves the words as they are. -/
theorem words_trim (t : List Char) : words (trim t) = words t := by
  rw [trim, words_trimEnd, words_trimStart]

/-- The words of a text that are no qualifiers. -/
def sense (t : List Char) : List (List Char) :=
  (words t).filter (fun word => !isQualifier word)

/-- White space parts the sense of a text. -/
theorem sense_append_space (x y : List Char) {c : Char} (space : isSpace c = true) :
    sense (x ++ c :: y) = sense x ++ sense y := by
  rw [sense, words_append_space x y space, List.filter_append]
  rfl

/-- A blank in front leaves the sense as it is. -/
theorem sense_cons_space (y : List Char) {c : Char} (space : isSpace c = true) : sense (c :: y) = sense y :=
  sense_append_space [] y space

/-- White space in front leaves the sense as it is. -/
theorem sense_spaces_append {gap : List Char} (spaces : ∀ c ∈ gap, isSpace c = true) (y : List Char) :
    sense (gap ++ y) = sense y := by
  rw [sense, words_spaces_append spaces, sense]

/-- White space at the end leaves the sense as it is. -/
theorem sense_append_spaces (x : List Char) {gap : List Char} (spaces : ∀ c ∈ gap, isSpace c = true) :
    sense (x ++ gap) = sense x := by
  rw [sense, words_append_spaces x spaces, sense]

theorem qualifier_cases {w : List Char} (h : isQualifier w = true) : w = "const".toList ∨ w = "volatile".toList := by
  simpa [isQualifier] using h

theorem forall_of_any {p : Char → Bool} {s : List Char} (none : s.any p = false) : ∀ c ∈ s, p c = false :=
  fun c mem => Bool.eq_false_iff.2 (List.any_eq_false.1 none c mem)

/-- A kind of characters that neither `const` nor `volatile` has is in no qualifier. -/
theorem notMem_qualifier {p : Char → Bool} (h : ("const".toList ++ "volatile".toList).any p = false) {w : List Char}
    (qualifier : isQualifier w = true) : ∀ c ∈ w, p c = false := by
  intro c mem
  refine forall_of_any h c (List.mem_append.2 ?_)
  rcases qualifier_cases qualifier with rfl | rfl
  · exact .inl mem
  · exact .inr mem

/-- A qualifier is one word. -/
theorem solid_qualifier {w : List Char} (h : isQualifier w = true) : Solid w :=
  notMem_qualifier (by decide) h

/-- A qualifier has no sense. -/
theorem sense_qualifier {w : List Char} (h : isQualifier w = true) : sense w = [] := by
  rcases qualifier_cases h with rfl | rfl
  all_goals decide

/-- The sense of a word that is no qualifier is the word. -/
theorem sense_word {w : List Char} (solid : Solid w) (nonempty : w ≠ []) (other : isQualifier w = false) :
    sense w = [w] := by
  rw [sense, words_solid solid nonempty]
  simp [other]

/-- A solid text is a word that counts, or it has no sense. -/
theorem sense_solid {w : List Char} (solid : Solid w) :
    sense w = [w] ∨ sense w = [] ∧ (w = [] ∨ isQualifier w = true) := by
  by_cases none : w = []
  · subst none
    exact .inr ⟨rfl, .inl rfl⟩
  · by_cases qualifier : isQualifier w = true
    · exact .inr ⟨sense_qualifier qualifier, .inr qualifier⟩
    · exact .inl (sense_word solid none (by simpa using qualifier))

/-- The words of a sense have themselves for their sense. -/
theorem sense_of_mem {t w : List Char} (mem : w ∈ sense t) : sense w = [w] := by
  have own : ∀ v, Solid v → w ∈ sense v → sense w = [w] := by
    intro v solid mem
    rcases sense_solid solid with one | ⟨none, -⟩
    · rw [one] at mem
      rwa [List.mem_singleton.1 mem]
    · rw [none] at mem
      cases mem
  induction t using spaced_induction with
  | solid v solid => exact own v solid mem
  | spaced v c rest solid space ih =>
    rw [sense_append_space v rest space] at mem
    exact (List.mem_append.1 mem).elim (own v solid) ih

/-- Words joined by single spaces. -/
def spaceOut (ws : List (List Char)) : List Char :=
  List.intercalate [' '] ws

theorem spaceOut_cons_cons (w v : List Char) (ws : List (List Char)) :
    spaceOut (w :: v :: ws) = w ++ ' ' :: spaceOut (v :: ws) := by
  rw [spaceOut, List.intercalate_cons_cons, List.append_assoc]
  rfl

/-- A text glued to the first word stands in front of all of them. -/
theorem spaceOut_cons_append (p w : List Char) (ws : List (List Char)) :
    spaceOut ((p ++ w) :: ws) = p ++ spaceOut (w :: ws) := by
  cases ws with
  | nil => simp [spaceOut]
  | cons v ws => rw [spaceOut_cons_cons, spaceOut_cons_cons, List.append_assoc]

/-- Words with a space in front of each. -/
def spaced (ws : List (List Char)) : List Char :=
  ws.flatMap (fun w => ' ' :: w)

theorem spaced_append (ws vs : List (List Char)) : spaced (ws ++ vs) = spaced ws ++ spaced vs :=
  List.flatMap_append

theorem spaced_cons (w : List Char) (ws : List (List Char)) : spaced (w :: ws) = ' ' :: spaceOut (w :: ws) := by
  induction ws generalizing w with
  | nil => simp [spaced, spaceOut]
  | cons v ws ih =>
    rw [spaceOut_cons_cons, ← ih v]
    rfl

/-- What falls apart at spaces falls apart word by word. -/
theorem split_spaceOut {α : Type} {split : List Char → List α} (nothing : split [] = [])
    (space : ∀ x y, split (x ++ ' ' :: y) = split x ++ split y) (ws : List (List Char)) :
    split (spaceOut ws) = ws.flatMap split := by
  induction ws with
  | nil => exact nothing
  | cons w ws ih =>
    cases ws with
    | nil => simp [spaceOut]
    | cons v ws =>
      rw [spaceOut_cons_cons, space, ih]
      rfl

/-- The sense of words that are written one behind the other is the sense of each of them. -/
theorem sense_spaceOut (ws : List (List Char)) : sense (spaceOut ws) = ws.flatMap sense :=
  split_spaceOut rfl (fun x y => sense_append_space x y (by decide)) ws

/-- Setting the words of a sense apart again leaves the sense as it is. -/
theorem flatMap_sense (t : List Char) : (sense t).flatMap sense = sense t := by
  have each : ∀ w ∈ sense t, sense w = [w] := fun _ mem => sense_of_mem mem
  rw [List.flatMap_congr each, List.flatMap_singleton']

/-- The first word of a text, to which whatever stands in front of the text is joined. -/
theorem exists_firstWord (t : List Char) : ∃ w rest, Solid w ∧ ∀ x, sense (x ++ t) = sense (x ++ w) ++ sense rest := by
  rcases solid_or_spaced t with solid | ⟨w, c, rest, rfl, solid, space⟩
  · exact ⟨t, [], solid, fun x => (List.append_nil _).symm⟩
  · refine ⟨w, rest, solid, fun x => ?_⟩
    rw [← List.append_assoc, sense_append_space _ _ space]

/-- Trimming at the end leaves the sense as it is. -/
theorem sense_trimEnd (t : List Char) : sense (trimEnd t) = sense t := by
  rw [sense, words_trimEnd, sense]

/-- Trimming leaves the sense as it is. -/
theorem sense_trim (t : List Char) : sense (trim t) = sense t := by
  rw [sense, words_trim, sense]

/-! ## §2. Basic types. -/

/-- The words of a basic type are the sense of the text once its indirections are blanked. -/
theorem basicWords_eq (t : List Char) : basicWords t = sense (blankIndirections 0 t) := rfl

/-- A basic type is its words with single spaces between them. -/
theorem basicType_eq (t : List Char) : basicType t = spaceOut (basicWords t) := rfl

/-- The bracket depth behind a text. -/
def depthBehind (depth : Nat) (t : List Char) : Nat :=
  t.foldl depthAfter depth

/-- The brackets of one text count for the next. -/
theorem depthBehind_append (depth : Nat) (x y : List Char) :
    depthBehind depth (x ++ y) = depthBehind (depthBehind depth x) y :=
  List.foldl_append

/-- Indirections are blanked in each part of a text, at the depth that it has. -/
theorem blankIndirections_append (depth : Nat) (x y : List Char) :
    blankIndirections depth (x ++ y) = blankIndirections depth x ++ blankIndirections (depthBehind depth x) y := by
  induction x generalizing depth with
  | nil => rfl
  | cons c x ih =>
    rw [List.cons_append, blankIndirections, ih]
    rfl

/-- Without signs there is nothing to blank. -/
theorem blankIndirections_plain {x : List Char} (h : ∀ c ∈ x, isIndirection c = false) (depth : Nat) :
    blankIndirections depth x = x := by
  induction x generalizing depth with
  | nil => rfl
  | cons c x ih =>
    obtain ⟨here, later⟩ := List.forall_mem_cons.1 h
    rw [blankIndirections, ih later, if_neg (by simp [here])]

/-- White space is neither an indirection nor a delimiter. -/
theorem space_classes {c : Char} (h : isSpace c = true) :
    isIndirection c = false ∧ c ≠ '<' ∧ c ≠ '>' ∧ c ≠ ',' := by
  refine ⟨?_, ?_, ?_, ?_⟩
  · rw [Bool.eq_false_iff]
    intro sign
    rcases Bool.or_eq_true_iff.1 sign with sign | sign
    all_goals
      rw [eq_of_beq sign] at h
      revert h
      decide
  all_goals
    rintro rfl
    revert h
    decide

/-- White space opens and closes nothing. -/
theorem depthAfter_space {c : Char} (h : isSpace c = true) (depth : Nat) : depthAfter depth c = depth := by
  obtain ⟨-, opening, closing, -⟩ := space_classes h
  rw [depthAfter, if_neg opening, if_neg closing]

/-- White space is never blanked. -/
theorem blankIndirections_space {c : Char} (h : isSpace c = true) (depth : Nat) (t : List Char) :
    blankIndirections depth (c :: t) = c :: blankIndirections depth t := by
  rw [blankIndirections, if_neg (by simp [(space_classes h).1]), depthAfter_space h]

/-- The words that are left of words once indirections are blanked; the brackets of one count for the next. -/
def blankWords (depth : Nat) : List (List Char) → List (List Char)
  | [] => []
  | w :: ws => sense (blankIndirections depth w) ++ blankWords (depthBehind depth w) ws

/-- **Words are blanked one by one**, at the depth of brackets that each of them has. -/
theorem sense_blankIndirections (depth : Nat) (t : List Char) :
    sense (blankIndirections depth t) = blankWords depth (words t) := by
  induction t using spaced_induction generalizing depth with
  | solid w solid =>
    by_cases none : w = []
    · subst none
      rfl
    · rw [words_solid solid none, blankWords, blankWords, List.append_nil]
  | spaced w c rest solid space ih =>
    rw [blankIndirections_append, blankIndirections_space space, sense_append_space _ _ space, ih,
      words_append_space w rest space]
    by_cases none : w = []
    · subst none
      rfl
    · rw [words_solid solid none]
      rfl

/-- Qualifiers leave no words, and no brackets. -/
theorem blankWords_filter (depth : Nat) (ws : List (List Char)) :
    blankWords depth (ws.filter (fun word => !isQualifier word)) = blankWords depth ws := by
  induction ws generalizing depth with
  | nil => rfl
  | cons w ws ih =>
    by_cases qualifier : isQualifier w = true
    · have gone : sense (blankIndirections depth w) = [] ∧ depthBehind depth w = depth := by
        rw [blankIndirections_plain (notMem_qualifier (by decide) qualifier)]
        refine ⟨sense_qualifier qualifier, ?_⟩
        rcases qualifier_cases qualifier with rfl | rfl
        all_goals rfl
      rw [List.filter_cons_of_neg (by simp [qualifier]), ih, blankWords, gone.1, gone.2]
      rfl
    · rw [List.filter_cons_of_pos (by simp [qualifier]), blankWords, blankWords, ih]

/-- **Texts of one sense have one basic type.** -/
theorem basicType_congr {t u : List Char} (same : sense t = sense u) : basicType t = basicType u := by
  have each : ∀ v, basicWords v = blankWords 0 (sense v) := by
    intro v
    rw [basicWords_eq, sense_blankIndirections, sense, blankWords_filter]
  rw [basicType_eq, basicType_eq, each, each, same]

/-! ## §3. Delimiters. -/

/-- The characters that the reading of templates cuts at. -/
def isDelimiter (c : Char) : Bool :=
  c == '<' || c == '>' || c == ','

/-- A delimiter is no white space and stands in no qualifier. -/
theorem delimiter_classes {d : Char} (h : isDelimiter d = true) :
    isSpace d = false ∧ ∀ w, d ∈ w → isQualifier w = false := by
  constructor
  · have known : d = '<' ∨ d = '>' ∨ d = ',' := by simpa [isDelimiter, or_assoc] using h
    rcases known with rfl | rfl | rfl
    all_goals decide
  · intro w mem
    rw [Bool.eq_false_iff]
    intro qualifier
    have other := notMem_qualifier (p := isDelimiter) (by decide) qualifier d mem
    rw [h] at other
    cases other

/-- A solid text with a delimiter is a word that counts. -/
theorem sense_delimited {p q : List Char} {d : Char} (delimiter : isDelimiter d = true) (front : Solid p)
    (back : Solid q) : sense (p ++ d :: q) = [p ++ d :: q] := by
  obtain ⟨visible, counts⟩ := delimiter_classes delimiter
  refine sense_word ?_ (by simp) (counts _ (by simp))
  intro c mem
  rcases List.mem_append.1 mem with here | there
  · exact front c here
  · rcases List.mem_cons.1 there with rfl | there
    · exact visible
    · exact back c there

/-- A delimiter stands in one word, which belongs to both sides. -/
theorem exists_delimited (x y : List Char) {d : Char} (delimiter : isDelimiter d = true) :
    ∃ before p q after, Solid p ∧ Solid q ∧ sense (x ++ d :: y) = before ++ (p ++ d :: q) :: after ∧
      sense x = before ++ sense p ∧ sense y = sense q ++ after := by
  obtain ⟨q, rest, back, first⟩ := exists_firstWord y
  induction x using spaced_induction with
  | solid p front =>
    refine ⟨[], p, q, sense rest, front, back, ?_, rfl, first []⟩
    have whole := first (p ++ [d])
    simp only [List.append_assoc, List.singleton_append] at whole
    rw [whole, sense_delimited delimiter front back]
    rfl
  | spaced w c x front space ih =>
    obtain ⟨before, p, q, after, solid, solid', all, left, right⟩ := ih
    refine ⟨sense w ++ before, p, q, after, solid, solid', ?_, ?_, right⟩
    · rw [List.append_assoc, List.cons_append, sense_append_space _ _ space, all, List.append_assoc]
    · rw [sense_append_space _ _ space, left, List.append_assoc]

/-- A text whose sense holds a delimiter in some word is cut there. -/
theorem cut_at_word {t : List Char} {before after : List (List Char)} {p q : List Char} {d : Char}
    (h : sense t = before ++ (p ++ d :: q) :: after) :
    ∃ x y, t = x ++ d :: y ∧ sense x = before ++ sense p ∧ sense y = sense q ++ after := by
  induction t using spaced_induction generalizing before with
  | solid w solid =>
    rcases sense_solid solid with one | ⟨none, -⟩
    · rw [one] at h
      obtain ⟨rfl, rfl, rfl⟩ : before = [] ∧ w = p ++ d :: q ∧ after = [] := by
        cases before with
        | nil => simpa using h
        | cons b before => simp at h
      exact ⟨p, q, rfl, rfl, (List.append_nil _).symm⟩
    · rw [none] at h
      simp at h
  | spaced w c rest solid space ih =>
    rw [sense_append_space w rest space] at h
    -- the word is the first one, or it comes later
    rcases sense_solid solid with one | ⟨none, -⟩
    · rw [one] at h
      cases before with
      | nil =>
        obtain ⟨rfl, rfl⟩ : w = p ++ d :: q ∧ sense rest = after := by simpa using h
        exact ⟨p, q ++ c :: rest, by simp, rfl, sense_append_space q rest space⟩
      | cons b before =>
        obtain ⟨rfl, later⟩ : w = b ∧ sense rest = before ++ (p ++ d :: q) :: after := by simpa using h
        obtain ⟨x, y, rfl, left, right⟩ := ih later
        refine ⟨w ++ c :: x, y, by simp, ?_, right⟩
        rw [sense_append_space w x space, one, left]
        rfl
    · rw [none, List.nil_append] at h
      obtain ⟨x, y, rfl, left, right⟩ := ih h
      refine ⟨w ++ c :: x, y, by simp, ?_, right⟩
      rw [sense_append_space w x space, none, left]
      rfl

/-- **Texts of one sense are cut alike.** -/
theorem cut_at_delimiter {t x y : List Char} {d : Char} (delimiter : isDelimiter d = true)
    (same : sense t = sense (x ++ d :: y)) : ∃ x' y', t = x' ++ d :: y' ∧ sense x' = sense x ∧ sense y' = sense y := by
  obtain ⟨before, p, q, after, -, -, all, left, right⟩ := exists_delimited x y delimiter
  rw [left, right]
  exact cut_at_word (same.trans all)

/-- Texts without sense have no delimiters. -/
theorem delimiter_notMem {t : List Char} (none : sense t = []) {d : Char} (delimiter : isDelimiter d = true) :
    d ∉ t := by
  intro mem
  obtain ⟨x, y, rfl⟩ := List.append_of_mem mem
  obtain ⟨before, p, q, after, -, -, all, -⟩ := exists_delimited x y delimiter
  rw [none] at all
  simp at all

/-- Texts of the sense of a list are lists of texts of these senses. -/
theorem cut_at_commas {t : List Char} {args : List (List Char)} (nonempty : args ≠ [])
    (same : sense t = sense (List.intercalate [','] args)) :
    ∃ parts, parts ≠ [] ∧ t = List.intercalate [','] parts ∧
      List.Forall₂ (fun part arg => sense part = sense arg) parts args := by
  induction args generalizing t with
  | nil => exact absurd rfl nonempty
  | cons arg args ih =>
    cases args with
    | nil =>
      rw [List.intercalate_singleton] at same
      exact ⟨[t], by simp, by simp, .cons same .nil⟩
    | cons next args =>
      rw [List.intercalate_cons_cons, List.append_assoc] at same
      -- the text is cut at its first comma outside of words, and what is behind goes on alike
      obtain ⟨x, y, rfl, left, right⟩ := cut_at_delimiter (d := ',') (by decide) same
      obtain ⟨parts, some, rfl, each⟩ := ih (by simp) right
      refine ⟨x :: parts, by simp, ?_, .cons left each⟩
      cases parts with
      | nil => exact absurd rfl some
      | cons part parts =>
        rw [List.intercalate_cons_cons, List.append_assoc]
        rfl

/-! ## §4. Levels. -/

/-- The bracket depth behind a text, if no comma and no closing bracket stands outside of brackets. -/
def levelBehind (depth : Nat) : List Char → Option Nat
  | [] => some depth
  | c :: rest => if depth = 0 ∧ (c = ',' ∨ c = '>') then none else levelBehind (depthAfter depth c) rest

/-- The level behind two texts is the one behind the second, if the first has one. -/
theorem levelBehind_append (depth : Nat) (x y : List Char) :
    levelBehind depth (x ++ y) = (levelBehind depth x).bind (levelBehind · y) := by
  induction x generalizing depth with
  | nil => rfl
  | cons c x ih =>
    rw [List.cons_append, levelBehind, levelBehind]
    split
    · rfl
    · exact ih _

/-- A character that is no delimiter opens and closes nothing. -/
theorem depthAfter_plain {c : Char} (h : isDelimiter c = false) (depth : Nat) : depthAfter depth c = depth := by
  simp only [isDelimiter, Bool.or_eq_false_iff, beq_eq_false_iff_ne, ne_eq] at h
  rw [depthAfter, if_neg h.1.1, if_neg h.1.2]

/-- A text without delimiters keeps the level. -/
theorem levelBehind_plain {x : List Char} (h : ∀ c ∈ x, isDelimiter c = false) (depth : Nat) :
    levelBehind depth x = some depth := by
  induction x with
  | nil => rfl
  | cons c x ih =>
    obtain ⟨here, later⟩ := List.forall_mem_cons.1 h
    rw [levelBehind, depthAfter_plain here, ih later, if_neg]
    rintro ⟨-, rfl | rfl⟩
    all_goals cases here

/-- Qualifiers keep the level. -/
theorem levelBehind_qualifier {w : List Char} (h : isQualifier w = true) (depth : Nat) :
    levelBehind depth w = some depth :=
  levelBehind_plain (notMem_qualifier (by decide) h) depth

theorem isDelimiter_space {c : Char} (h : isSpace c = true) : isDelimiter c = false := by
  rw [Bool.eq_false_iff]
  intro delimiter
  rw [(delimiter_classes delimiter).1] at h
  cases h

/-- The level is a matter of the sense. -/
theorem levelBehind_sense (depth : Nat) (t : List Char) :
    levelBehind depth t = levelBehind depth (sense t).flatten := by
  have word : ∀ (depth : Nat) (w : List Char), Solid w → levelBehind depth w = levelBehind depth (sense w).flatten := by
    intro depth w solid
    rcases sense_solid solid with one | ⟨none, rfl | qualifier⟩
    · rw [one, List.flatten_singleton]
    · rfl
    · rw [none, levelBehind_qualifier qualifier]
      rfl
  induction t using spaced_induction generalizing depth with
  | solid w solid => exact word depth w solid
  | spaced w c rest solid space ih =>
    -- white space between words leaves the level as it is
    have blank : ∀ depth, levelBehind depth (c :: rest) = levelBehind depth rest := by
      intro depth
      have alone := levelBehind_plain (x := [c]) (List.forall_mem_singleton.2 (isDelimiter_space space)) depth
      rw [← List.singleton_append, levelBehind_append, alone, Option.bind_some]
    rw [sense_append_space w rest space, List.flatten_append, levelBehind_append, levelBehind_append,
      word depth w solid]
    congr 1
    funext inner
    rw [blank, ih]

/-- The text closes its brackets, and its commas stand inside of them. -/
def IsLevel (t : List Char) : Prop :=
  levelBehind 0 t = some 0

/-- Texts of one sense are level together. -/
theorem isLevel_congr {t u : List Char} (same : sense t = sense u) (h : IsLevel u) : IsLevel t := by
  rw [IsLevel, levelBehind_sense, same, ← levelBehind_sense]
  exact h

/-- Where the level is known, so are the brackets. -/
theorem depthBehind_of_levelBehind {depth last : Nat} {t : List Char} (h : levelBehind depth t = some last) :
    depthBehind depth t = last := by
  induction t generalizing depth with
  | nil => exact Option.some.inj h
  | cons c t ih =>
    rw [levelBehind] at h
    split at h
    · cases h
    · exact ih h

/-- One bracket further in, nothing is blanked, and the level is one higher. -/
theorem inside_of_levelBehind {depth last : Nat} {t : List Char} (h : levelBehind depth t = some last) :
    levelBehind (depth + 1) t = some (last + 1) ∧ blankIndirections (depth + 1) t = t := by
  induction t generalizing depth with
  | nil =>
    cases h
    exact ⟨rfl, rfl⟩
  | cons c t ih =>
    rw [levelBehind] at h
    split at h
    next => cases h
    next free =>
      -- a bracket that would close at level zero has been excluded, so both depths change alike
      have further : depthAfter (depth + 1) c = depthAfter depth c + 1 := by
        unfold depthAfter
        split
        · rfl
        · split
          next closing =>
            have positive : depth ≠ 0 := fun zero => free ⟨zero, .inr closing⟩
            omega
          next => rfl
      obtain ⟨level, same⟩ := ih h
      rw [levelBehind, blankIndirections, further, if_neg (by simp), if_neg (by simp)]
      exact ⟨level, congrArg (c :: ·) same⟩

/-- Arguments inside of brackets stay as they are, and leave the level that they had. -/
theorem inside_of_args {args : List (List Char)} (each : ∀ a ∈ args, IsLevel a) :
    levelBehind 1 (List.intercalate [','] args) = some 1 ∧
      blankIndirections 1 (List.intercalate [','] args) = List.intercalate [','] args := by
  induction args with
  | nil => exact ⟨rfl, rfl⟩
  | cons arg args ih =>
    obtain ⟨here, later⟩ := List.forall_mem_cons.1 each
    obtain ⟨level, same⟩ := inside_of_levelBehind here
    cases args with
    | nil =>
      rw [List.intercalate_singleton]
      exact ⟨level, same⟩
    | cons next args =>
      -- each argument leaves level one behind it, and so does each comma
      obtain ⟨levels, others⟩ := ih later
      have comma : levelBehind 1 [','] = some 1 ∧ blankIndirections 1 [','] = [','] := ⟨rfl, rfl⟩
      rw [List.intercalate_cons_cons, List.append_assoc, levelBehind_append, level, Option.bind_some,
        levelBehind_append, comma.1, Option.bind_some, levels, blankIndirections_append, same,
        depthBehind_of_levelBehind level, blankIndirections_append, comma.2, depthBehind_of_levelBehind comma.1, others]
      exact ⟨rfl, rfl⟩

/-- A text that keeps its level stays in one piece. -/
theorem cutArguments_append {depth last : Nat} {t : List Char} (h : levelBehind depth t = some last)
    (rest : List Char) :
    cutArguments depth (t ++ rest) = (cutArguments last rest).modifyHead (t ++ ·) := by
  induction t generalizing depth with
  | nil =>
    cases h
    rw [List.nil_append]
    cases cutArguments last rest <;> rfl
  | cons c t ih =>
    rw [levelBehind] at h
    split at h
    next => cases h
    next free =>
      rw [List.cons_append, cutArguments, if_neg (fun both => free ⟨both.2, .inl both.1⟩), ih h]
      cases cutArguments last rest <;> rfl

/-- Level arguments are cut at the commas that part them. -/
theorem cutArguments_commas {args : List (List Char)} (nonempty : args ≠ []) (each : ∀ a ∈ args, IsLevel a) :
    cutArguments 0 (List.intercalate [','] args) = args := by
  induction args with
  | nil => exact absurd rfl nonempty
  | cons arg args ih =>
    obtain ⟨here, later⟩ := List.forall_mem_cons.1 each
    cases args with
    | nil =>
      have alone := cutArguments_append here []
      rw [List.append_nil] at alone
      simp [alone, cutArguments]
    | cons next args =>
      rw [List.intercalate_cons_cons, List.append_assoc, cutArguments_append here, List.singleton_append, cutArguments,
        if_pos ⟨rfl, rfl⟩, ih (by simp) later]
      simp

end ScriptBridge.Declared

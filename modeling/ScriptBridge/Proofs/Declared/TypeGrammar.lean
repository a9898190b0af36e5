import Mathlib.Data.List.TakeWhile
import ScriptBridge.Proofs.Declared.Sense
import ScriptBridge.Proofs.Symbol.PlainNames

/-!
# ScriptBridge.Proofs.Declared.TypeGrammar

Declared types that code can name.

`IsType` is a grammar of declared types: built-in spellings, scoped names, and templates of types, each decorated with
qualifiers, references and pointers.  Decorations do not count for a basic type.  The basic type of a template has the
name of the template in front of its brackets, and between them a text that falls into arguments of the same sense as
those it was written with, so the reading goes on with types of the grammar all the way down.

Main results:
  * `IsType.level` - a type closes its brackets, and its commas stand inside of them;
  * `nameable_scoped` - code can be made for every scoped name;
  * `IsType.nameable` - code can be made for every type of the grammar.
-/

namespace ScriptBridge.Declared

open ScriptBridge.Text ScriptBridge.Token ScriptBridge.Symbol

/-! ## §1. The grammar. -/

/-- White space, and the signs for references and pointers. -/
def isSeparator (c : Char) : Bool :=
  isSpace c || isIndirection c

/-- Types made of built-in spellings, scoped names and template arguments, with decorations around them. -/
inductive IsType : List Char → Prop
  /-- A built-in spelling; white space and qualifiers between its words do not count. -/
  | builtin {b : Builtin} {s : String} {t : List Char} (known : s ∈ b.spellings) (same : sense t = sense s.toList) :
      IsType t
  | name {s : List Char} (path : Scoped Usable s) : IsType s
  /-- A template.  A qualifier in front of a gap would be a decoration; one may follow the closing bracket directly. -/
  | template {s gap tail : List Char} {args : List (List Char)} (path : Scoped Usable s)
      (spaces : ∀ c ∈ gap, isSpace c = true) (apart : gap = [] ∨ isQualifier s = false) (each : ∀ a ∈ args, IsType a)
      (closed : tail = [] ∨ isQualifier tail = true) :
      IsType (s ++ (gap ++ '<' :: (List.intercalate [','] args ++ '>' :: tail)))
  | signBefore {c : Char} {t : List Char} (sign : isSeparator c = true) (type : IsType t) : IsType (c :: t)
  | signAfter {c : Char} {t : List Char} (sign : isSeparator c = true) (type : IsType t) : IsType (t ++ [c])
  | wordBefore {w t : List Char} {c : Char} (word : isQualifier w = true) (sign : isSeparator c = true)
      (type : IsType t) : IsType (w ++ c :: t)
  | wordAfter {w t : List Char} {c : Char} (word : isQualifier w = true) (sign : isSeparator c = true)
      (type : IsType t) : IsType (t ++ c :: w)

/-! ## §2. Characters of types. -/

/-- What the characters of scoped names are not. -/
structure SignFree (s : List Char) : Prop where
  solid : Solid s
  indirection : ∀ c ∈ s, isIndirection c = false
  delimiter : ∀ c ∈ s, isDelimiter c = false

/-- A class name is free of signs. -/
theorem SignFree.of_scoped {s : List Char} (h : Scoped Usable s) : SignFree s := by
  obtain ⟨first, rest, rfl, letter, others⟩ := h.exists_letter (fun part => part.plain)
  have each : ∀ c ∈ first :: rest, isSpace c = false ∧ isIndirection c = false ∧ isDelimiter c = false := by
    intro c mem
    have known : isNameChar c = true ∨ c = ':' := by
      rcases List.mem_cons.1 mem with rfl | mem
      · exact .inl (isNameChar_of_isAlpha letter)
      · exact others c mem
    rcases known with name | rfl
    · have classes := isNameChar_classes name
      exact ⟨classes.visible, by simp [isIndirection, classes.reference, classes.pointer],
        by simp [isDelimiter, classes.opening, classes.closing, classes.comma]⟩
    · decide
  exact ⟨fun c mem => (each c mem).1, fun c mem => (each c mem).2.1, fun c mem => (each c mem).2.2⟩

/-- A qualifier is free of signs. -/
theorem SignFree.of_qualifier {w : List Char} (h : isQualifier w = true) : SignFree w :=
  ⟨solid_qualifier h, notMem_qualifier (by decide) h, notMem_qualifier (by decide) h⟩

/-- White space separates. -/
theorem isSeparator_space {c : Char} (h : isSpace c = true) : isSeparator c = true := by
  rw [isSeparator, h, Bool.true_or]

/-- The signs of indirections separate. -/
theorem isSeparator_sign {c : Char} (h : isIndirection c = true) : isSeparator c = true := by
  rw [isSeparator, h, Bool.or_true]

/-- A sign is visible. -/
theorem isSpace_sign {c : Char} (h : isIndirection c = true) : isSpace c = false := by
  rw [Bool.eq_false_iff]
  intro space
  rw [(space_classes space).1] at h
  cases h

/-- What separates is no delimiter. -/
theorem isDelimiter_separator {c : Char} (h : isSeparator c = true) : isDelimiter c = false := by
  rcases Bool.or_eq_true_iff.1 h with space | sign
  · exact isDelimiter_space space
  · rcases Bool.or_eq_true_iff.1 sign with sign | sign
    all_goals
      rw [eq_of_beq sign]
      rfl

/-- Level arguments between brackets are level, with no delimiters in front of them and behind. -/
theorem isLevel_brackets {front : List Char} (tail : List Char) {args : List (List Char)}
    (plain : ∀ c ∈ front, isDelimiter c = false) (level : ∀ a ∈ args, IsLevel a)
    (behind : ∀ c ∈ tail, isDelimiter c = false) :
    IsLevel (front ++ '<' :: (List.intercalate [','] args ++ '>' :: tail)) := by
  have opened : ∀ rest, levelBehind 0 ('<' :: rest) = levelBehind 1 rest := fun _ => rfl
  have shut : ∀ rest, levelBehind 1 ('>' :: rest) = levelBehind 0 rest := fun _ => rfl
  rw [IsLevel, levelBehind_append, levelBehind_plain plain, Option.bind_some, opened, levelBehind_append,
    (inside_of_args level).1, Option.bind_some, shut, levelBehind_plain behind]

/-- No spelling of a built-in type has a delimiter or a scope. -/
theorem chars_spelling {b : Builtin} {s : String} (known : s ∈ b.spellings) :
    ∀ c ∈ s.toList, isDelimiter c = false ∧ c ≠ ':' := by
  have table : b.spellings.all (fun s => s.toList.all (fun c => !isDelimiter c && c != ':')) = true := by
    cases b <;> decide +kernel
  intro c mem
  simpa using List.all_eq_true.1 (List.all_eq_true.1 table s known) c mem

/-- A qualifier is level. -/
theorem isLevel_qualifier {w : List Char} (h : isQualifier w = true) : IsLevel w :=
  levelBehind_qualifier h 0

/-- Two level texts make one with a separator between them. -/
theorem isLevel_append {x y : List Char} {c : Char} (front : IsLevel x) (sign : isSeparator c = true)
    (back : IsLevel y) : IsLevel (x ++ c :: y) := by
  have between : levelBehind 0 [c] = some 0 :=
    levelBehind_plain (List.forall_mem_singleton.2 (isDelimiter_separator sign)) 0
  rw [IsLevel, levelBehind_append, front, Option.bind_some, ← List.singleton_append, levelBehind_append, between,
    Option.bind_some, back]

/-- **A type closes its brackets**, and its commas stand inside of them. -/
theorem IsType.level {t : List Char} (h : IsType t) : IsLevel t := by
  induction h with
  | @builtin b s t known same =>
    exact isLevel_congr same (levelBehind_plain (fun c mem => (chars_spelling known c mem).1) 0)
  | name path => exact levelBehind_plain (SignFree.of_scoped path).delimiter 0
  | @template s gap tail args path spaces _ _ closed ih =>
    have front : ∀ c ∈ s ++ gap, isDelimiter c = false :=
      List.forall_mem_append.2 ⟨(SignFree.of_scoped path).delimiter, fun c mem => isDelimiter_space (spaces c mem)⟩
    have behind : ∀ c ∈ tail, isDelimiter c = false := by
      rcases closed with rfl | qualifier
      · exact List.forall_mem_nil _
      · exact (SignFree.of_qualifier qualifier).delimiter
    rw [← List.append_assoc]
    exact isLevel_brackets tail front ih behind
  | signBefore sign _ ih => exact isLevel_append (x := []) rfl sign ih
  | signAfter sign _ ih => exact isLevel_append ih sign rfl
  | wordBefore word sign _ ih => exact isLevel_append (isLevel_qualifier word) sign ih
  | wordAfter word sign _ ih => exact isLevel_append ih sign (isLevel_qualifier word)

/-! ## §3. Decorations. -/

/-- Outside of brackets, a separator parts the words of a basic type. -/
theorem basicWords_append_closed {x : List Char} (closed : depthBehind 0 x = 0) {c : Char}
    (sign : isSeparator c = true) (y : List Char) : basicWords (x ++ c :: y) = basicWords x ++ basicWords y := by
  obtain ⟨d, space, blanked⟩ : ∃ d, isSpace d = true ∧ blankIndirections 0 (c :: y) = d :: blankIndirections 0 y := by
    rcases Bool.or_eq_true_iff.1 sign with space | sign
    · exact ⟨c, space, blankIndirections_space space 0 y⟩
    · refine ⟨' ', by decide, ?_⟩
      have same : depthAfter 0 c = 0 := depthAfter_plain (isDelimiter_separator (by simp [isSeparator, sign])) 0
      rw [blankIndirections, if_pos ⟨rfl, sign⟩, same]
  rw [basicWords_eq, blankIndirections_append, closed, blanked, sense_append_space _ _ space]
  rfl

/-- The words of a basic type are those of its parts, whatever separates them. -/
theorem basicWords_append {x : List Char} (level : IsLevel x) {c : Char} (sign : isSeparator c = true) (y : List Char) :
    basicWords (x ++ c :: y) = basicWords x ++ basicWords y :=
  basicWords_append_closed (depthBehind_of_levelBehind level) sign y

/-- A qualifier leaves no words. -/
theorem basicWords_qualifier {w : List Char} (h : isQualifier w = true) : basicWords w = [] := by
  rw [basicWords_eq, blankIndirections_plain (SignFree.of_qualifier h).indirection, sense_qualifier h]

/-! ## §4. Reading a template. -/

/-- White space at the end is trimmed no further than to a visible character. -/
theorem trimEnd_append (x y : List Char) {c : Char} (visible : isSpace c = false) :
    trimEnd (x ++ c :: y) = x ++ c :: trimEnd y := by
  have stop : (c :: x.reverse).dropWhile isSpace = c :: x.reverse := List.dropWhile_cons_of_neg (by simp [visible])
  rw [trimEnd, List.reverse_append, List.reverse_cons, List.append_assoc, List.singleton_append, List.dropWhile_append,
    stop, trimEnd]
  split
  next none =>
    rw [List.isEmpty_iff.1 none]
    simp
  next => simp

theorem trimStart_cons {c : Char} (visible : isSpace c = false) (t : List Char) : trimStart (c :: t) = c :: t :=
  List.dropWhile_cons_of_neg (by simp [visible])

/-- A text without white space at its ends is what is left when that around it is trimmed. -/
theorem trim_margins {l s r : List Char} (left : ∀ c ∈ l, isSpace c = true) (right : ∀ c ∈ r, isSpace c = true)
    (starts : ∀ c ∈ s.head?, isSpace c = false) (ends : ∀ c ∈ s.getLast?, isSpace c = false) :
    trim (l ++ s ++ r) = s := by
  have none : trimEnd r = [] := by
    rw [trimEnd, List.dropWhile_eq_nil_iff.2 (fun c mem => right c (List.mem_reverse.1 mem)), List.reverse_nil]
  rw [List.append_assoc, trim, trimStart, List.dropWhile_append_of_pos left]
  cases s with
  | nil =>
    rw [List.nil_append, List.dropWhile_eq_nil_iff.2 right]
    rfl
  | cons c s =>
    rw [List.cons_append, List.dropWhile_cons_of_neg (by simp [starts c rfl]), ← List.cons_append]
    obtain empty | ⟨front, d, last⟩ := List.eq_nil_or_concat (c :: s)
    · cases empty
    · rw [List.concat_eq_append] at last
      rw [last] at ends ⊢
      rw [List.append_assoc, List.singleton_append, trimEnd_append _ _ (ends d (by simp)), none]

/-- A text without white space is trimmed to itself, with white space around it or without. -/
theorem trim_solid {l w r : List Char} (left : ∀ c ∈ l, isSpace c = true) (solid : Solid w)
    (right : ∀ c ∈ r, isSpace c = true) : trim (l ++ w ++ r) = w :=
  trim_margins left right (fun c mem => solid c (List.mem_of_head? mem))
    (fun c mem => solid c (List.mem_of_getLast? mem))

/-- A name is trimmed to itself, with a space behind it or without. -/
theorem trim_name {s gap : List Char} (path : Scoped Usable s) (spaces : ∀ c ∈ gap, isSpace c = true) :
    trim (s ++ gap) = s :=
  trim_solid (List.forall_mem_nil _) (SignFree.of_scoped path).solid spaces

/-- A template falls into the text in front of its first bracket and that between its outermost ones. -/
theorem splitTemplate_brackets {p inner tail : List Char} (front : '<' ∉ p) (back : '>' ∉ tail) :
    splitTemplate (p ++ '<' :: (inner ++ '>' :: tail)) = (trim p, templateArguments inner) := by
  have before : ∀ c ∈ p, (c != '<') = true := fun c mem => bne_iff_ne.2 (fun same => front (same ▸ mem))
  have behind : ∀ c ∈ tail.reverse, (c != '>') = true :=
    fun c mem => bne_iff_ne.2 (fun same => back (same ▸ List.mem_reverse.1 mem))
  have found : bracketed? (p ++ '<' :: (inner ++ '>' :: tail)) = some inner := by
    unfold bracketed?
    rw [List.dropWhile_append_of_pos before, List.dropWhile_cons_of_neg (by decide)]
    simp only [List.reverse_append, List.reverse_cons, List.append_assoc, List.singleton_append]
    rw [List.dropWhile_append_of_pos behind, List.dropWhile_cons_of_neg (by decide)]
    simp
  rw [splitTemplate, found, List.takeWhile_append_of_pos before, List.takeWhile_cons_of_neg (by decide),
    List.append_nil]

/-- A text without brackets has no arguments. -/
theorem splitTemplate_plain {s : List Char} (free : '<' ∉ s) : splitTemplate s = (s, []) := by
  have none : bracketed? s = none := by
    unfold bracketed?
    have all : ∀ c ∈ s, (c != '<') = true := fun c mem => bne_iff_ne.2 (fun same => free (same ▸ mem))
    rw [List.dropWhile_eq_nil_iff.2 all]
  rw [splitTemplate, none]

/-- An argument of a template is a trimmed piece. -/
theorem mem_templateArguments {inner arg : List Char} (mem : arg ∈ templateArguments inner) :
    ∃ piece ∈ cutArguments 0 inner, arg = trim piece := by
  have trimmed : arg ∈ (cutArguments 0 inner).map trim := by
    rcases List.mem_append.1 mem with mem | mem
    · exact (List.dropLast_sublist _).subset mem
    · exact List.mem_of_getLast? (Option.mem_toList.1 (List.mem_filter.1 mem).1)
  obtain ⟨piece, known, same⟩ := List.mem_map.1 trimmed
  exact ⟨piece, known, same.symm⟩

/-! ## §5. Code for types. -/

/-- Code can be made for the type that a basic type stands for. -/
def Nameable (ty : List Char) : Prop :=
  ∃ stream, typeTokens (.ofBasic ty) = .ok stream

/-- Several types can be written if each of them can. -/
theorem exists_typeTokensList {types : List TargetType} (each : ∀ t ∈ types, ∃ stream, typeTokens t = .ok stream) :
    ∃ parts, typeTokensList types = .ok parts := by
  induction types with
  | nil => exact ⟨[], rfl⟩
  | cons t types ih =>
    obtain ⟨⟨stream, here⟩, later⟩ := List.forall_mem_cons.1 each
    obtain ⟨parts, there⟩ := ih later
    refine ⟨stream :: parts, ?_⟩
    rw [typeTokensList, here, there]
    rfl

/-- A class of a scoped name, with arguments that code can be made for. -/
theorem exists_tokens_classNamed {name : List Char} {types : List TargetType} (path : Scoped Usable name)
    (each : ∀ t ∈ types, ∃ stream, typeTokens t = .ok stream) :
    ∃ stream, typeTokens (TargetType.ofTemplate.classNamed name types) = .ok stream := by
  have parts := path.of_mem_splitScopes (fun part => part.plain)
  -- every segment is a plain name and can be escaped
  obtain ⟨names, checked⟩ : ∃ names, ((splitScopes name).map (fun segment => String.ofList (trim segment))).mapM
      Identifier.escaped = .ok names := by
    refine exists_mapM_ok (fun segment mem => ?_)
    obtain ⟨part, known, rfl⟩ := List.mem_map.1 mem
    have usable := parts part known
    rw [trim_plain (visible_plain usable.plain)]
    exact escaped_plain (by rw [String.toList_ofList]; exact usable.plain) usable.name
  rw [TargetType.ofTemplate.classNamed, typeTokens.eq_def]
  simp only [checked]
  cases types with
  | nil => exact ⟨_, rfl⟩
  | cons t types =>
    obtain ⟨inner, made⟩ := exists_typeTokensList each
    simp only [made]
    exact ⟨_, rfl⟩

/-- **A template can be written** if its name is a path and its arguments can be written. -/
theorem exists_tokens_ofTemplate {name : List Char} {types : List TargetType} (path : Scoped Usable name)
    (each : ∀ t ∈ types, ∃ stream, typeTokens t = .ok stream) :
    ∃ stream, typeTokens (.ofTemplate name types) = .ok stream := by
  unfold TargetType.ofTemplate
  split
  next element =>
    split
    · obtain ⟨inner, made⟩ := each element List.mem_cons_self
      exact ⟨fixed "Vec" :: angled inner, by rw [typeTokens, made]; rfl⟩
    · exact exists_tokens_classNamed path each
  next => exact exists_tokens_classNamed path each

/-- A basic type can be named if it is a template of a scoped name with arguments that can be named. -/
theorem nameable_of_split {ty name : List Char} {args : List (List Char)}
    (split : splitTemplate (trim ty) = (name, args))
    (path : Scoped Usable name) (each : ∀ a ∈ args, Nameable (basicType a)) : Nameable ty := by
  unfold Nameable
  rw [TargetType.ofBasic]
  split
  · exact ⟨_, rfl⟩
  · split
    · exact ⟨_, rfl⟩
    · have named : (splitTemplate (trim ty)).1 = name := by rw [split]
      rw [named]
      refine exists_tokens_ofTemplate path (fun t mem => ?_)
      obtain ⟨⟨arg, known⟩, -, rfl⟩ := List.mem_map.1 mem
      exact each arg (by rwa [split] at known)

/-- Code can be made for every scoped name. -/
theorem nameable_scoped {s : List Char} (path : Scoped Usable s) : Nameable s := by
  have free := SignFree.of_scoped path
  have split : splitTemplate (trim s) = (s, []) := by
    rw [trim_plain free.solid, splitTemplate_plain (fun mem => by cases free.delimiter '<' mem)]
  exact nameable_of_split split path (List.forall_mem_nil _)

theorem nameable_nil : Nameable [] :=
  ⟨[parens []], by rw [TargetType.ofBasic, if_pos (.inl rfl), typeTokens]⟩

/-! ## §6. Templates. -/

section

variable {s gap y : List Char}

/-- The basic type of a template: its name, perhaps a space, and a bracket, behind which the sense is what it was. -/
theorem exists_spaceOut_template (path : Scoped Usable s) (spaces : ∀ c ∈ gap, isSpace c = true)
    (apart : gap = [] ∨ isQualifier s = false) :
    ∃ gap' y', spaceOut (sense (s ++ (gap ++ '<' :: y))) = s ++ (gap' ++ '<' :: y') ∧
      (∀ c ∈ gap', isSpace c = true) ∧ sense y' = sense y := by
  have solid := (SignFree.of_scoped path).solid
  obtain ⟨q, rest, back, first⟩ := exists_firstWord y
  -- the words behind the bracket, set apart by single spaces
  have behind : sense (spaceOut (q :: sense rest)) = sense y := by
    rw [sense_spaceOut, List.flatMap_cons, flatMap_sense]
    exact (first []).symm
  have word : ∀ p, Solid p → sense (p ++ '<' :: y) = (p ++ '<' :: q) :: sense rest := by
    intro p front
    have whole := first (p ++ ['<'])
    simp only [List.append_assoc, List.singleton_append] at whole
    rw [whole, sense_delimited (by decide) front back]
    rfl
  have opened : spaceOut (('<' :: q) :: sense rest) = '<' :: spaceOut (q :: sense rest) :=
    spaceOut_cons_append ['<'] q (sense rest)
  cases gap with
  | nil =>
    refine ⟨[], spaceOut (q :: sense rest), ?_, by simp, behind⟩
    rw [List.nil_append, word s solid, spaceOut_cons_append, opened]
    rfl
  | cons c gap =>
    obtain ⟨here, later⟩ := List.forall_mem_cons.1 spaces
    have name : sense s = [s] := by
      obtain ⟨first, others, rfl, -⟩ := path.exists_letter (fun part => part.plain)
      exact sense_word solid (List.cons_ne_nil _ _) (apart.resolve_left (List.cons_ne_nil _ _))
    have bracket : sense (gap ++ '<' :: y) = ('<' :: q) :: sense rest := by
      rw [sense_spaces_append later]
      exact word [] (List.forall_mem_nil _)
    refine ⟨[' '], spaceOut (q :: sense rest), ?_, List.forall_mem_singleton.2 rfl, behind⟩
    rw [List.cons_append, sense_append_space _ _ here, name, bracket, List.singleton_append, spaceOut_cons_cons, opened]
    rfl

variable {args : List (List Char)}

/-- Outside of the brackets of a template there is nothing to blank, and inside of them nothing is blanked. -/
theorem basicWords_brackets {front : List Char} (tail : List Char) (plain : ∀ c ∈ front, isDelimiter c = false)
    (free : ∀ c ∈ front, isIndirection c = false) (level : ∀ a ∈ args, IsLevel a)
    (ending : ∀ c ∈ tail, isIndirection c = false) :
    basicWords (front ++ '<' :: (List.intercalate [','] args ++ '>' :: tail)) =
      sense (front ++ '<' :: (List.intercalate [','] args ++ '>' :: tail)) := by
  obtain ⟨inside, same⟩ := inside_of_args level
  have opened : ∀ rest, blankIndirections 0 ('<' :: rest) = '<' :: blankIndirections 1 rest := fun _ => rfl
  have shut : ∀ rest, blankIndirections 1 ('>' :: rest) = '>' :: blankIndirections 0 rest := fun _ => rfl
  rw [basicWords_eq, blankIndirections_append, depthBehind_of_levelBehind (levelBehind_plain plain 0), opened,
    blankIndirections_append, depthBehind_of_levelBehind inside, shut, blankIndirections_plain free, same,
    blankIndirections_plain ending]

variable {tail : List Char}

/-- A text with the sense of arguments between brackets falls into the name and pieces with the sense of arguments. -/
theorem exists_split_template (path : Scoped Usable s) (spaces : ∀ c ∈ gap, isSpace c = true) (nonempty : args ≠ [])
    (level : ∀ a ∈ args, IsLevel a) (none : sense tail = [])
    (same : sense y = sense (List.intercalate [','] args ++ '>' :: tail)) :
    ∃ pieces, splitTemplate (trim (s ++ (gap ++ '<' :: y))) = (s, pieces) ∧
      ∀ piece ∈ pieces, ∃ arg ∈ args, sense piece = sense arg := by
  have free := SignFree.of_scoped path
  -- trimming reaches the text behind the bracket only, and this is cut where it was closed
  obtain ⟨inner, after, cut, inside, outside⟩ := cut_at_delimiter (d := '>') (by decide) ((sense_trimEnd y).trans same)
  obtain ⟨parts, some, rfl, alike⟩ := cut_at_commas nonempty inside
  have trimmed : trim (s ++ (gap ++ '<' :: y)) =
      (s ++ gap) ++ '<' :: (List.intercalate [','] parts ++ '>' :: after) := by
    obtain ⟨first, others, rfl, -⟩ := path.exists_letter (fun part => part.plain)
    rw [trim, List.cons_append, trimStart_cons (free.solid first List.mem_cons_self), ← List.cons_append,
      ← List.append_assoc, trimEnd_append _ _ (by decide), cut]
  have front : '<' ∉ s ++ gap := by
    intro mem
    rcases List.mem_append.1 mem with mem | mem
    · cases free.delimiter '<' mem
    · cases isDelimiter_space (spaces '<' mem)
  have back : '>' ∉ after := delimiter_notMem (outside.trans none) (by decide)
  refine ⟨templateArguments (List.intercalate [','] parts), ?_, fun piece mem => ?_⟩
  · rw [trimmed, splitTemplate_brackets front back, trim_name path spaces]
  · obtain ⟨part, known, rfl⟩ := mem_templateArguments mem
    rw [cutArguments_commas some] at known
    · obtain ⟨arg, listed, equal⟩ := exists_right_of_mem alike known
      exact ⟨arg, listed, (sense_trim part).trans equal⟩
    · intro part listed
      obtain ⟨arg, known, equal⟩ := exists_right_of_mem alike listed
      exact isLevel_congr equal (level arg known)

/-- A template of types that can be named can be named. -/
theorem nameable_template (path : Scoped Usable s) (spaces : ∀ c ∈ gap, isSpace c = true)
    (apart : gap = [] ∨ isQualifier s = false) (nonempty : args ≠ []) (level : ∀ a ∈ args, IsLevel a)
    (each : ∀ a ∈ args, Nameable (basicType a)) (closed : tail = [] ∨ isQualifier tail = true) :
    Nameable (basicType (s ++ (gap ++ '<' :: (List.intercalate [','] args ++ '>' :: tail)))) := by
  have ending : SignFree tail ∧ sense tail = [] := by
    rcases closed with rfl | qualifier
    · exact ⟨⟨List.forall_mem_nil _, List.forall_mem_nil _, List.forall_mem_nil _⟩, rfl⟩
    · exact ⟨.of_qualifier qualifier, sense_qualifier qualifier⟩
  obtain ⟨blanks, y, whole, spaced, meaning⟩ := exists_spaceOut_template path spaces apart
    (y := List.intercalate [','] args ++ '>' :: tail)
  obtain ⟨pieces, split, alike⟩ := exists_split_template path spaced nonempty level ending.2 meaning
  have free := SignFree.of_scoped path
  have words := basicWords_brackets tail
    (List.forall_mem_append.2 ⟨free.delimiter, fun c mem => isDelimiter_space (spaces c mem)⟩)
    (List.forall_mem_append.2 ⟨free.indirection, fun c mem => (space_classes (spaces c mem)).1⟩) level
    ending.1.indirection
  rw [List.append_assoc] at words
  -- the arguments have been stripped on the way, but what they are mapped to depends on their senses
  rw [basicType_eq, words, whole]
  refine nameable_of_split split path (fun piece mem => ?_)
  obtain ⟨arg, known, same⟩ := alike piece mem
  rw [basicType_congr same]
  exact each arg known

end

/-! ## §7. All types. -/

/-- **Code can be made for every type of the grammar.** -/
theorem IsType.nameable {t : List Char} (h : IsType t) : Nameable (basicType t) := by
  have decorated : ∀ {t u}, Nameable (basicType t) → basicWords u = basicWords t → Nameable (basicType u) := by
    intro t u named same
    rwa [basicType_eq, same, ← basicType_eq]
  -- decorations do not count, and the arguments of a template are types of the grammar
  induction h with
  | @builtin b s t known same =>
    have table : b.spellings.all (fun s => (typeTokens (.ofBasic (basicType s.toList))).toOption.isSome) = true := by
      cases b <;> decide +kernel
    rw [basicType_congr same]
    exact exists_ok (List.all_eq_true.1 table s known)
  | @name s path =>
    have free := SignFree.of_scoped path
    rw [basicType_eq, basicWords_eq, blankIndirections_plain free.indirection]
    rcases sense_solid free.solid with one | ⟨none, -⟩
    · rw [one, spaceOut, List.intercalate_singleton]
      exact nameable_scoped path
    · rw [none]
      exact nameable_nil
  | @template s gap tail args path spaces apart each closed ih =>
    cases args with
    | nil =>
      -- no arguments are one blank argument
      have level : ∀ a ∈ [([] : List Char)], IsLevel a := List.forall_mem_singleton.2 rfl
      have named : ∀ a ∈ [([] : List Char)], Nameable (basicType a) := List.forall_mem_singleton.2 nameable_nil
      have blank := nameable_template path spaces apart (List.cons_ne_nil [] []) level named closed
      exact blank
    | cons arg args =>
      exact nameable_template path spaces apart (by simp) (fun a mem => (each a mem).level) ih closed
  | @signBefore c t sign _ ih =>
    refine decorated ih ?_
    exact basicWords_append (x := []) rfl sign t
  | @signAfter c t sign type ih =>
    refine decorated ih ?_
    rw [basicWords_append type.level sign []]
    exact List.append_nil _
  | @wordBefore w t c word sign _ ih =>
    refine decorated ih ?_
    rw [basicWords_append (isLevel_qualifier word) sign, basicWords_qualifier word, List.nil_append]
  | @wordAfter w t c word sign type ih =>
    refine decorated ih ?_
    rw [basicWords_append type.level sign, basicWords_qualifier word, List.append_nil]

end ScriptBridge.Declared

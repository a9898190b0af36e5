import ScriptBridge.Proofs.Declared.TypeGrammar

/-!
# ScriptBridge.Proofs.Declared.Spelling

The type mapping undoes spelling.

`TargetType.Spells` relates a type to its spellings: the words of a built-in type, the template of a list, the path of
a class with its arguments, white space around each sign, and qualifiers, references and pointers around each type at
any depth.  Stripping a type moves the white space inside of its brackets and may take qualifiers of its arguments, so
an argument is hardly ever read as it was spelled; but it keeps its sense, and a basic type depends on that only.  The
name in front of the brackets keeps its words, and the segments of a scoped name depend on these only.

Main results:
  * `congr_words` - what takes white space for a separator depends on words only;
  * `exists_front` - stripping leaves the words in front of a bracket, and the sense behind it;
  * `TargetType.Spells.ofBasic_eq` - the type that a spelling is mapped to is the type that was spelled.
-/

namespace ScriptBridge.Declared

open ScriptBridge.Text

/-! ## §1. Spellings. -/

/-- An ASCII identifier: a letter or an underscore, followed by letters, digits and underscores. -/
def isAsciiIdentifier : List Char → Bool
  | [] => false
  | c :: rest => (c.isAlpha || c == '_') && rest.all isNameChar

/-- The segments of a class name in texts: identifiers with `::` and white space between them, none a qualifier. -/
inductive SpellsPath : List String → List Char → Prop
  | last {w : String} (name : isAsciiIdentifier w.toList = true) (other : isQualifier w.toList = false) :
      SpellsPath [w] w.toList
  | scope {w : String} {path : List String} {before after s : List Char} (name : isAsciiIdentifier w.toList = true)
      (other : isQualifier w.toList = false) (left : ∀ c ∈ before, isSpace c = true)
      (right : ∀ c ∈ after, isSpace c = true) (rest : SpellsPath path s) :
      SpellsPath (w :: path) (w.toList ++ before ++ ':' :: ':' :: (after ++ s))

/-- Class names that mean something else where no arguments follow. -/
def IsKnown (path : List String) : Prop :=
  path = ["void"] ∨ ∃ b : Builtin, ∃ s ∈ b.spellings, path = [s]

namespace TargetType

/-- The declared types that spell a type. -/
inductive Spells : TargetType → List Char → Prop
  | void : Spells unit "void".toList
  | builtin {b : Builtin} {s : String} {t : List Char} (known : s ∈ b.spellings) (same : words t = words s.toList) :
      Spells (builtin b) t
  | list {name gap t : List Char} {element : TargetType} (known : isListTemplate name = true)
      (spaces : ∀ c ∈ gap, isSpace c = true) (spelled : Spells element t) :
      Spells (list element) (name ++ gap ++ '<' :: (t ++ ['>']))
  | plain {path : List String} {s : List Char} (spelled : SpellsPath path s) (free : ¬ IsKnown path) :
      Spells (named path []) s
  | empty {path : List String} {s gap inner : List Char} (spelled : SpellsPath path s)
      (spaces : ∀ c ∈ gap, isSpace c = true) (blank : ∀ c ∈ inner, isSpace c = true) :
      Spells (named path []) (s ++ gap ++ '<' :: (inner ++ ['>']))
  /-- A class with arguments, each of which comes with its spelling. -/
  | template {path : List String} {s gap : List Char} {args : List (TargetType × List Char)}
      (spelled : SpellsPath path s) (spaces : ∀ c ∈ gap, isSpace c = true) (some : args ≠ [])
      (free : args.length = 1 → path ≠ ["QList"] ∧ path ≠ ["QVector"]) (each : ∀ arg ∈ args, Spells arg.1 arg.2) :
      Spells (named path (args.map Prod.fst)) (s ++ gap ++ '<' :: (List.intercalate [','] (args.map Prod.snd) ++ ['>']))
  | spaceBefore {type : TargetType} {t : List Char} {c : Char} (space : isSpace c = true) (spelled : Spells type t) :
      Spells type (c :: t)
  | signAfter {type : TargetType} {t : List Char} {c : Char} (sign : isSeparator c = true) (spelled : Spells type t) :
      Spells type (t ++ [c])
  | wordBefore {type : TargetType} {w t : List Char} {c : Char} (word : isQualifier w = true)
      (space : isSpace c = true) (spelled : Spells type t) : Spells type (w ++ c :: t)
  | wordAfter {type : TargetType} {w t : List Char} {c : Char} (word : isQualifier w = true)
      (sign : isSeparator c = true) (spelled : Spells type t) : Spells type (t ++ c :: w)

end TargetType

/-! ## §2. Words. -/

/-- **What takes white space for a separator depends on words only.** -/
theorem congr_words {β : Type} (f : List Char → β) (join : β → β → β)
    (spaced : ∀ x c y, isSpace c = true → f (x ++ c :: y) = join (f x) (f y)) (left : ∀ x, join (f []) (f x) = f x)
    (right : ∀ x, join (f x) (f []) = f x) {s t : List Char} (same : words s = words t) : f s = f t := by
  -- what such a function makes of a text is put together of what it makes of the words
  have fold : ∀ t, f t = (words t).foldr (fun w rest => join (f w) rest) (f []) := by
    intro t
    induction t using spaced_induction with
    | solid w solid =>
      by_cases none : w = []
      · subst none
        rfl
      · rw [words_solid solid none, List.foldr_cons, List.foldr_nil, right]
    | spaced w c rest solid space ih =>
      rw [spaced w c rest space, words_append_space w rest space]
      by_cases none : w = []
      · subst none
        rw [left, ih]
        rfl
      · rw [words_solid solid none, List.singleton_append, List.foldr_cons, ← ih]
  rw [fold s, fold t, same]

/-- A word has no white space in it, and is not empty. -/
theorem mem_words {t w : List Char} (mem : w ∈ words t) : Solid w ∧ w ≠ [] := by
  have own : ∀ v, Solid v → w ∈ words v → Solid w ∧ w ≠ [] := by
    intro v solid mem
    obtain ⟨rfl, some⟩ := eq_of_mem_words solid mem
    exact ⟨solid, some⟩
  induction t using spaced_induction with
  | solid v solid => exact own v solid mem
  | spaced v c rest solid space ih =>
    rw [words_append_space v rest space] at mem
    exact (List.mem_append.1 mem).elim (own v solid) ih

/-- A text without words is white space. -/
theorem blank_of_words {t : List Char} (none : words t = []) : ∀ c ∈ t, isSpace c = true := by
  induction t using spaced_induction with
  | solid v solid =>
    by_cases empty : v = []
    · subst empty
      exact List.forall_mem_nil _
    · rw [words_solid solid empty] at none
      cases none
  | spaced v c rest solid space ih =>
    rw [words_append_space v rest space, List.append_eq_nil_iff] at none
    by_cases empty : v = []
    · subst empty
      exact List.forall_mem_cons.2 ⟨space, ih none.2⟩
    · rw [words_solid solid empty] at none
      cases none.1

/-- A text of one word is that word with white space around it. -/
theorem exists_margins {t w : List Char} (one : words t = [w]) : ∃ l r, t = l ++ w ++ r ∧
    (∀ c ∈ l, isSpace c = true) ∧ (∀ c ∈ r, isSpace c = true) := by
  induction t using spaced_induction with
  | solid v solid =>
    by_cases empty : v = []
    · subst empty
      cases one
    · rw [words_solid solid empty] at one
      cases one
      exact ⟨[], [], by simp, List.forall_mem_nil _, List.forall_mem_nil _⟩
  | spaced v c rest solid space ih =>
    rw [words_append_space v rest space] at one
    by_cases empty : v = []
    · subst empty
      obtain ⟨l, r, rfl, left, right⟩ := ih one
      exact ⟨c :: l, r, rfl, List.forall_mem_cons.2 ⟨space, left⟩, right⟩
    · rw [words_solid solid empty, List.singleton_append, List.cons.injEq] at one
      obtain ⟨rfl, none⟩ := one
      exact ⟨[], c :: rest, rfl, List.forall_mem_nil _, List.forall_mem_cons.2 ⟨space, blank_of_words none⟩⟩

/-- A text of one word is trimmed to it. -/
theorem trim_of_words {t w : List Char} (one : words t = [w]) : trim t = w := by
  obtain ⟨l, r, rfl, left, right⟩ := exists_margins one
  exact trim_solid left (mem_words (one ▸ List.mem_singleton_self w)).1 right

/-- The words of texts that are written one behind the other are those of each of them. -/
theorem words_spaceOut (ws : List (List Char)) : words (spaceOut ws) = ws.flatMap words :=
  split_spaceOut rfl (fun x y => words_append_space x y (by decide)) ws

/-- Setting words apart again leaves them as they are. -/
theorem flatMap_words (t : List Char) : (words t).flatMap words = words t := by
  have each : ∀ w ∈ words t, words w = [w] := by
    intro w mem
    obtain ⟨solid, some⟩ := mem_words mem
    exact words_solid solid some
  rw [List.flatMap_congr each, List.flatMap_singleton']

/-- A visible character belongs to a word with what stands around it. -/
theorem mem_words_append {x y w : List Char} {c : Char} (visible : isSpace c = false) (mem : w ∈ words (x ++ c :: y)) :
    w ∈ words x ∨ w ∈ words y ∨ c ∈ w := by
  induction x using spaced_induction with
  | spaced v d x solid space ih =>
    rw [List.append_assoc, List.cons_append, words_append_space _ _ space] at mem
    rw [words_append_space _ _ space]
    rcases List.mem_append.1 mem with here | later
    · exact .inl (List.mem_append_left _ here)
    · rcases ih later with front | behind
      · exact .inl (List.mem_append_right _ front)
      · exact .inr behind
  | solid v solid =>
    -- the character glues what stands around it into one word
    have glued : ∀ u, Solid u → w ∈ words (v ++ c :: u) → c ∈ w := by
      intro u solid' mem
      have whole : Solid (v ++ c :: u) :=
        List.forall_mem_append.2 ⟨solid, List.forall_mem_cons.2 ⟨visible, solid'⟩⟩
      rw [(eq_of_mem_words whole mem).1]
      simp
    rcases solid_or_spaced y with solid' | ⟨u, d, rest, rfl, solid', space⟩
    · exact .inr (.inr (glued y solid' mem))
    · rw [← List.cons_append, ← List.append_assoc, words_append_space _ _ space] at mem
      rw [words_append_space _ _ space]
      rcases List.mem_append.1 mem with here | later
      · exact .inr (.inr (glued u solid' here))
      · exact .inr (.inl (List.mem_append_right _ later))

/-! ## §3. Scoped names. -/

/-- The pieces of two texts set apart by white space: the last piece of one goes on with the first of the other. -/
def joinPieces {α : Type} : List (List α) → List (List α) → List (List α)
  | [], right => right
  | [piece], right => right.modifyHead (piece ++ ·)
  | piece :: next :: left, right => piece :: joinPieces (next :: left) right

/-- A change at the head of pieces is one at the head of the left ones. -/
theorem modifyHead_joinPieces {α : Type} {d : α} {left : List (List α)} (some : left ≠ []) (right : List (List α)) :
    (joinPieces left right).modifyHead (d :: ·) = joinPieces (left.modifyHead (d :: ·)) right := by
  match left with
  | [] => exact absurd rfl some
  | [piece] => cases right <;> rfl
  | piece :: next :: left => rfl

theorem joinPieces_nil {α : Type} (right : List (List α)) : joinPieces [[]] right = right := by
  cases right <;> rfl

/-- An empty piece at the right end is joined to the last one. -/
theorem joinPieces_end {α : Type} {left : List (List α)} (some : left ≠ []) : joinPieces left [[]] = left := by
  induction left with
  | nil => exact absurd rfl some
  | cons piece left ih =>
    cases left with
    | nil => simp [joinPieces]
    | cons next left => rw [joinPieces, ih (List.cons_ne_nil _ _)]

/-- White space where pieces are joined parts their words. -/
theorem map_words_joinPieces {c : Char} (space : isSpace c = true) (left right : List (List Char)) :
    (joinPieces left (right.modifyHead (c :: ·))).map words = joinPieces (left.map words) (right.map words) := by
  match left with
  | [] =>
    cases right with
    | nil => rfl
    | cons piece right =>
      have same : words (c :: piece) = words piece := words_append_space [] piece space
      simp [joinPieces, same]
  | [piece] =>
    cases right with
    | nil => rfl
    | cons next right => simp [joinPieces, words_append_space piece next space]
  | piece :: next :: left =>
    have ih := map_words_joinPieces space (next :: left) right
    rw [joinPieces, List.map_cons, ih]
    rfl

/-- White space is in no `::`. -/
theorem splitScopes_space {c : Char} (space : isSpace c = true) (x y : List Char) :
    splitScopes (x ++ c :: y) = joinPieces (splitScopes x) ((splitScopes y).modifyHead (c :: ·)) := by
  have other : c ≠ ':' := by
    rintro rfl
    revert space
    decide
  induction x using splitScopes.induct with
  | case1 =>
    rw [List.nil_append, splitScopes.eq_3 _ _ (fun _ colon _ => other colon), splitScopes, joinPieces_nil]
  | case2 rest ih =>
    have more := splitScopes_ne_nil rest
    rw [List.cons_append, List.cons_append, splitScopes, ih, splitScopes]
    cases pieces : splitScopes rest with
    | nil => exact absurd pieces more
    | cons piece pieces => rfl
  | case3 d rest single ih =>
    -- what follows the character is no `::` before, and none with white space behind it
    have still : ∀ more, d = ':' → rest ++ c :: y = ':' :: more → False := by
      intro more colon text
      cases rest with
      | nil => exact other (List.cons.inj text).1
      | cons e rest => exact single rest colon (by rw [(List.cons.inj text).1])
    rw [List.cons_append, splitScopes.eq_3 _ _ still, ih, splitScopes.eq_3 _ _ single,
      modifyHead_joinPieces (splitScopes_ne_nil rest)]

/-- The segments of a scoped name depend on its words. -/
theorem splitScopes_congr {s t : List Char} (same : words s = words t) :
    (splitScopes s).map words = (splitScopes t).map words := by
  refine congr_words (fun t => (splitScopes t).map words) joinPieces ?_ ?_ ?_ same
  · intro x c y space
    rw [splitScopes_space space, map_words_joinPieces space]
  · exact fun x => joinPieces_nil _
  · intro x
    refine joinPieces_end ?_
    simpa using splitScopes_ne_nil x

/-- An identifier is made of characters of names. -/
theorem isNameChar_identifier {w : List Char} (h : isAsciiIdentifier w = true) :
    w ≠ [] ∧ ∀ c ∈ w, isNameChar c = true := by
  cases w with
  | nil => cases h
  | cons c rest =>
    obtain ⟨first, others⟩ := Bool.and_eq_true_iff.1 h
    refine ⟨List.cons_ne_nil c rest, List.forall_mem_cons.2 ⟨?_, List.all_eq_true.1 others⟩⟩
    rcases Bool.or_eq_true_iff.1 first with letter | low
    · exact isNameChar_of_isAlpha letter
    · rw [isNameChar, low, Bool.or_true]

/-- An identifier is one word. -/
theorem words_identifier {w : List Char} (h : isAsciiIdentifier w = true) : words w = [w] := by
  obtain ⟨some, chars⟩ := isNameChar_identifier h
  exact words_solid (fun c mem => (isNameChar_classes (chars c mem)).visible) some

namespace SpellsPath

variable {path : List String} {s : List Char}

/-- The words of the segments of a scoped name are the segments. -/
theorem map_words (h : SpellsPath path s) : (splitScopes s).map words = path.map (fun w => [w.toList]) := by
  induction h with
  | last name other =>
    have free := fun c mem => (isNameChar_classes ((isNameChar_identifier name).2 c mem)).colon
    rw [splitScopes_single free, List.map_singleton, words_identifier name]
    rfl
  | @scope w path before after s name other left right rest ih =>
    have free : ∀ c ∈ w.toList ++ before, c ≠ ':' := by
      refine List.forall_mem_append.2
        ⟨fun c mem => (isNameChar_classes ((isNameChar_identifier name).2 c mem)).colon, fun c mem => ?_⟩
      rintro rfl
      cases left ':' mem
    rw [splitScopes_part free, List.map_cons, words_append_spaces _ left, words_identifier name,
      splitScopes_congr (words_spaces_append right s), ih]
    rfl

/-- A scoped name has no qualifier among its words. -/
theorem words_plain (h : SpellsPath path s) : ∀ v ∈ words s, isQualifier v = false := by
  induction h with
  | last name other =>
    rw [words_identifier name]
    exact List.forall_mem_singleton.2 other
  | @scope w path before after s name other left right rest ih =>
    -- a word that takes in the `::` is no qualifier
    have colon : ∀ v : List Char, ':' ∈ v → isQualifier v = false := by
      intro v mem
      rw [Bool.eq_false_iff]
      intro qualifier
      exact absurd (notMem_qualifier (p := (· == ':')) (by decide) qualifier ':' mem) (by decide)
    intro v mem
    rcases mem_words_append (by decide) mem with front | behind | inside
    · rw [words_append_spaces _ left, words_identifier name, List.mem_singleton] at front
      exact front ▸ other
    · rcases mem_words_append (x := []) (by decide) behind with none | later | inside
      · cases none
      · rw [words_spaces_append right] at later
        exact ih v later
      · exact colon v inside
    · exact colon v inside

/-- No character of a scoped name is a sign or a delimiter. -/
theorem chars_plain (h : SpellsPath path s) : ∀ c ∈ s, isIndirection c = false ∧ isDelimiter c = false := by
  have part : ∀ {w : List Char}, isAsciiIdentifier w = true →
      ∀ c ∈ w, isIndirection c = false ∧ isDelimiter c = false := by
    intro w name c mem
    have classes := isNameChar_classes ((isNameChar_identifier name).2 c mem)
    exact ⟨by simp [isIndirection, classes.reference, classes.pointer],
      by simp [isDelimiter, classes.opening, classes.closing, classes.comma]⟩
  have blank : ∀ {gap : List Char}, (∀ c ∈ gap, isSpace c = true) →
      ∀ c ∈ gap, isIndirection c = false ∧ isDelimiter c = false :=
    fun spaces c mem => ⟨(space_classes (spaces c mem)).1, isDelimiter_space (spaces c mem)⟩
  induction h with
  | last name other => exact part name
  | scope name other left right rest ih =>
    refine List.forall_mem_append.2 ⟨List.forall_mem_append.2 ⟨part name, blank left⟩, ?_⟩
    refine List.forall_mem_cons.2 ⟨by decide, List.forall_mem_cons.2 ⟨by decide, ?_⟩⟩
    exact List.forall_mem_append.2 ⟨blank right, ih⟩

/-- **A text with the words of a scoped name is read as its segments.** -/
theorem segments_eq (h : SpellsPath path s) {u : List Char} (same : words u = words s) :
    (splitScopes u).map (fun segment => String.ofList (trim segment)) = path := by
  have pieces : (splitScopes u).map words = path.map (fun w => [w.toList]) := (splitScopes_congr same).trans h.map_words
  -- a piece that has one word is trimmed to it
  have each : ∀ (parts : List (List Char)) (path : List String), parts.map words = path.map (fun w => [w.toList]) →
      parts.map (fun segment => String.ofList (trim segment)) = path := by
    intro parts
    induction parts with
    | nil =>
      intro path same
      cases path with
      | nil => rfl
      | cons w path => cases same
    | cons part parts ih =>
      intro path same
      cases path with
      | nil => cases same
      | cons w path =>
        obtain ⟨here, later⟩ := List.cons.inj same
        rw [List.map_cons, trim_of_words here, ih path later, String.ofList_toList]
  exact each _ path pieces

/-- A path has words. -/
theorem words_ne_nil (h : SpellsPath path s) : words s ≠ [] := by
  intro none
  have nothing : path = [""] := (h.segments_eq (u := []) none.symm).symm
  rw [nothing] at h
  cases h with
  | last name other => cases name
  | scope name => cases name

/-- A text with the words of a scoped name and no scopes in it is the only segment. -/
theorem lone_segment (h : SpellsPath path s) {u : List Char} (same : words u = words s) (plain : ∀ c ∈ u, c ≠ ':') :
    path = [String.ofList (trim u)] := by
  have pieces := h.segments_eq same
  rw [splitScopes_single plain, List.map_singleton] at pieces
  exact pieces.symm

/-- No template has the words of a path. -/
theorem bracketless (h : SpellsPath path s) {u : List Char} (same : words u = words s) : '<' ∉ u := by
  intro mem
  obtain ⟨a, b, split⟩ := List.append_of_mem mem
  have meaning : sense s = sense (a ++ '<' :: b) := by
    rw [← split, sense, sense, same]
  obtain ⟨a', b', own, -⟩ := cut_at_delimiter (by decide) meaning
  cases (h.chars_plain '<' (by simp [own])).2

/-- The basic type of a scoped name has its words. -/
theorem words_basicType (h : SpellsPath path s) : words (basicType s) = words s := by
  have kept : basicWords s = words s := by
    rw [basicWords_eq, blankIndirections_plain (fun c mem => (h.chars_plain c mem).1)]
    exact List.filter_eq_self.2 (fun w mem => by simp [h.words_plain w mem])
  rw [basicType_eq, kept, words_spaceOut, flatMap_words]

end SpellsPath

/-! ## §4. Texts in front of a bracket and behind it. -/

/-- The words behind a delimiter: the first is joined to the delimiter, and the others are set apart. -/
theorem exists_behind {d : Char} (delimiter : isDelimiter d = true) (y : List Char) : ∃ q ws,
    (∀ p, Solid p → sense (p ++ d :: y) = (p ++ d :: q) :: ws) ∧ sense (spaceOut (q :: ws)) = sense y ∧
      ((∀ w ∈ words y, isQualifier w = false) → words (spaceOut (q :: ws)) = words y) := by
  rcases solid_or_spaced y with solid | ⟨w, c, rest, rfl, solid, space⟩
  · refine ⟨y, [], fun p front => sense_delimited delimiter front solid, ?_, fun _ => ?_⟩
    all_goals rw [spaceOut, List.intercalate_singleton]
  · refine ⟨w, sense rest, fun p front => ?_, ?_, fun plain => ?_⟩
    · rw [← List.cons_append, ← List.append_assoc, sense_append_space _ _ space, sense_delimited delimiter front solid]
      rfl
    · rw [sense_spaceOut, List.flatMap_cons, flatMap_sense, sense_append_space _ _ space]
    · rw [words_append_space w rest space] at plain ⊢
      have all : sense rest = words rest :=
        List.filter_eq_self.2 (fun v mem => by simp [plain v (List.mem_append_right _ mem)])
      rw [words_spaceOut, List.flatMap_cons, all, flatMap_words]

/-- **Stripping leaves the words in front of a delimiter, and the sense behind it.** -/
theorem exists_front {d : Char} (delimiter : isDelimiter d = true) {x : List Char}
    (plain : ∀ w ∈ words x, isQualifier w = false) (y : List Char) : ∃ x' y',
      spaceOut (sense (x ++ d :: y)) = x' ++ d :: y' ∧ words x' = words x ∧ sense y' = sense y ∧
        ((∀ w ∈ words y, isQualifier w = false) → words y' = words y) := by
  -- the word with the delimiter begins with the last word in front of it
  obtain ⟨q, ws, behind, meaning, same⟩ := exists_behind delimiter y
  induction x using spaced_induction with
  | solid p solid =>
    refine ⟨p, spaceOut (q :: ws), ?_, rfl, meaning, same⟩
    rw [behind p solid, spaceOut_cons_append]
    exact congrArg (p ++ ·) (spaceOut_cons_append [d] q ws)
  | spaced w c x solid space ih =>
    rw [words_append_space w x space] at plain
    obtain ⟨here, later⟩ := List.forall_mem_append.1 plain
    obtain ⟨x', y', whole, front, rest⟩ := ih later
    by_cases none : w = []
    · subst none
      refine ⟨x', y', ?_, ?_, rest⟩
      · rw [List.nil_append, List.cons_append, sense_cons_space _ space, whole]
      · rw [front]
        exact (words_append_space [] x space).symm
    -- a word in front is no qualifier, so it is kept
    · have word : words w = [w] := words_solid solid none
      have counts : sense w = [w] := sense_word solid none (here w (by simp [word]))
      refine ⟨w ++ ' ' :: x', y', ?_, ?_, rest⟩
      · obtain ⟨first, others, more⟩ : ∃ first others, sense (x ++ d :: y) = first :: others := by
          cases texts : sense (x ++ d :: y) with
          | nil =>
            rw [texts] at whole
            simp [spaceOut] at whole
          | cons first others => exact ⟨first, others, rfl⟩
        rw [List.append_assoc, List.cons_append, sense_append_space _ _ space, counts, List.singleton_append, more,
          spaceOut_cons_cons, ← more, whole, List.append_assoc, List.cons_append]
      · rw [words_append_space w x' (by decide), words_append_space w x space, front]

/-- A text is trimmed in front of a delimiter and behind it. -/
theorem trim_delimited {d : Char} (delimiter : isDelimiter d = true) (x y : List Char) :
    trim (x ++ d :: y) = trimStart x ++ d :: trimEnd y := by
  have visible := (delimiter_classes delimiter).1
  have start : trimStart (x ++ d :: y) = trimStart x ++ d :: y := by
    rw [trimStart, trimStart, List.dropWhile_append]
    split
    next none => rw [List.isEmpty_iff.1 none, List.dropWhile_cons_of_neg (by simp [visible])]; rfl
    next => rfl
  rw [trim, start, trimEnd_append _ _ visible]

section

variable {front : List Char}

/-- The trimmed basic type of a text with a bracket. -/
theorem exists_bracket (plain : ∀ w ∈ words front, isQualifier w = false) (free : ∀ c ∈ front, isDelimiter c = false)
    {y : List Char} (kept : basicWords (front ++ '<' :: y) = sense (front ++ '<' :: y)) : ∃ x' y',
      trim (basicType (front ++ '<' :: y)) = x' ++ '<' :: y' ∧ '<' ∉ x' ∧ words x' = words front ∧
        sense y' = sense y ∧ ((∀ w ∈ words y, isQualifier w = false) → words y' = words y) := by
  obtain ⟨x', y', whole, before, behind, same⟩ := exists_front (d := '<') (by decide) plain y
  refine ⟨trimStart x', trimEnd y', ?_, fun mem => ?_, ?_, ?_, fun none => ?_⟩
  · rw [basicType_eq, kept, whole, trim_delimited (by decide)]
  · -- a bracket would be in the words in front
    obtain ⟨a, b, split⟩ := List.append_of_mem mem
    have meaning : sense front = sense (a ++ '<' :: b) := by
      rw [← split, sense, sense, words_trimStart, before]
    obtain ⟨a', b', own, -⟩ := cut_at_delimiter (by decide) meaning
    cases free '<' (by simp [own])
  · rw [words_trimStart, before]
  · rw [sense_trimEnd, behind]
  · rw [words_trimEnd, same none]

end

/-! ## §5. Reading a class. -/

namespace TargetType

variable {ty : List Char}

/-- A basic type that is no known one is read as its template. -/
theorem ofBasic_class (some : trim ty ≠ []) (notVoid : trim ty ≠ "void".toList)
    (unknown : ∀ b : Builtin, ∀ s ∈ b.spellings, trim ty ≠ s.toList) :
    ofBasic ty = ofTemplate (splitTemplate (trim ty)).1
      ((splitTemplate (trim ty)).2.map (fun arg => ofBasic (basicType arg))) := by
  have none : Builtin.ofSpelling? (String.ofList (trim ty)) = none := by
    refine List.find?_eq_none.2 (fun b _ known => ?_)
    refine unknown b _ (List.contains_iff_mem.1 known) ?_
    rw [String.toList_ofList]
  rw [ofBasic, if_neg (by rintro (empty | void); exacts [some empty, notVoid void]), none,
    List.attach_map_val (f := fun arg => ofBasic (basicType arg))]

/-- A basic type with brackets is read as the name in front of them, with the arguments between them. -/
theorem ofBasic_brackets {front inner tail : List Char} (text : trim ty = front ++ '<' :: (inner ++ '>' :: tail))
    (before : '<' ∉ front) (behind : '>' ∉ tail) :
    ofBasic ty = ofTemplate (trim front) ((templateArguments inner).map (fun arg => ofBasic (basicType arg))) := by
  have mem : '<' ∈ trim ty := by simp [text]
  have split : splitTemplate (trim ty) = (trim front, templateArguments inner) := by
    rw [text, splitTemplate_brackets before behind]
  have free : ∀ s : List Char, s.contains '<' = false → trim ty ≠ s := by
    rintro s none rfl
    rw [List.contains_iff_mem.2 mem] at none
    cases none
  have spelling : ∀ b : Builtin, ∀ s ∈ b.spellings, s.toList.contains '<' = false := by
    intro b s known
    rw [Bool.eq_false_iff, Ne, List.contains_iff_mem]
    intro inside
    cases (chars_spelling known '<' inside).1
  rw [ofBasic_class (free [] rfl) (free _ (by decide)) (fun b s known => free _ (spelling b s known)), split]

end TargetType

/-- White space between brackets stands for no arguments. -/
theorem templateArguments_blank {inner : List Char} (blank : ∀ c ∈ inner, isSpace c = true) :
    templateArguments inner = [] := by
  have level : ∀ a ∈ [inner], IsLevel a :=
    List.forall_mem_singleton.2 (levelBehind_plain (fun c mem => isDelimiter_space (blank c mem)) 0)
  have whole : cutArguments 0 inner = [inner] := by
    have cut := cutArguments_commas (List.cons_ne_nil inner []) level
    rwa [List.intercalate_singleton] at cut
  have none : trim inner = [] := by
    have trimmed := trim_solid (l := []) (List.forall_mem_nil _) (List.forall_mem_nil _) blank
    exact trimmed
  rw [templateArguments, whole, List.map_singleton, none]
  rfl

/-- Level arguments are found again, trimmed. -/
theorem templateArguments_commas {parts : List (List Char)} (some : parts ≠ []) (level : ∀ a ∈ parts, IsLevel a)
    (last : ∀ a ∈ parts, trim a ≠ []) : templateArguments (List.intercalate [','] parts) = parts.map trim := by
  rw [templateArguments, cutArguments_commas some level]
  have kept : (parts.map trim).getLast?.toList.filter (fun piece => !piece.isEmpty) =
      (parts.map trim).getLast?.toList := by
    refine List.filter_eq_self.2 (fun piece mem => ?_)
    obtain ⟨part, known, rfl⟩ := List.mem_map.1 (List.mem_of_getLast? (Option.mem_toList.1 mem))
    simpa using last part known
  simp only [kept]
  obtain none | ⟨front, piece, whole⟩ := List.eq_nil_or_concat (parts.map trim)
  · exact absurd (List.map_eq_nil_iff.1 none) some
  · rw [whole]
    simp

/-- A visible character is in a word of the sense, or in a qualifier. -/
theorem mem_of_sense {t : List Char} {c : Char} (mem : c ∈ t) (visible : isSpace c = false) :
    (∃ w ∈ sense t, c ∈ w) ∨ ∃ w, isQualifier w = true ∧ c ∈ w := by
  -- a word is left out only if it is a qualifier
  have own : ∀ w, Solid w → c ∈ w → (∃ v ∈ sense w, c ∈ v) ∨ ∃ v, isQualifier v = true ∧ c ∈ v := by
    intro w solid mem
    rcases sense_solid solid with one | ⟨-, rfl | qualifier⟩
    · exact .inl ⟨w, one ▸ List.mem_singleton_self w, mem⟩
    · cases mem
    · exact .inr ⟨w, qualifier, mem⟩
  induction t using spaced_induction with
  | solid w solid => exact own w solid mem
  | spaced w d rest solid space ih =>
    rw [sense_append_space w rest space]
    rcases List.mem_append.1 mem with here | later
    · exact (own w solid here).imp_left fun ⟨v, known, inside⟩ => ⟨v, List.mem_append_left _ known, inside⟩
    · rcases List.mem_cons.1 later with rfl | later
      · rw [visible] at space
        cases space
      · exact (ih later).imp_left fun ⟨v, known, inside⟩ => ⟨v, List.mem_append_right _ known, inside⟩

/-- A character that is neither white space nor a letter of qualifiers makes sense. -/
theorem sense_ne_nil {t : List Char} {c : Char} (mem : c ∈ t) (visible : isSpace c = false)
    (other : ∀ w, isQualifier w = true → c ∉ w) : sense t ≠ [] := by
  rcases mem_of_sense mem visible with ⟨w, known, -⟩ | ⟨w, qualifier, inside⟩
  · exact List.ne_nil_of_mem known
  · exact absurd inside (other w qualifier)

/-! ## §6. Reading spellings. -/

namespace TargetType

variable {path : List String} {s gap : List Char}

/-- A class is read from a text with the words of its name. -/
theorem classNamed_eq (spelled : SpellsPath path s) {u : List Char} (same : words u = words s)
    (args : List TargetType) : ofTemplate.classNamed u args = named path args := by
  rw [ofTemplate.classNamed, spelled.segments_eq same]

/-- The name of a list template is a scoped name. -/
theorem isListTemplate_path {name : List Char} (known : isListTemplate name = true) :
    SpellsPath [String.ofList name] name ∧ (String.ofList name = "QList" ∨ String.ofList name = "QVector") := by
  rcases Bool.or_eq_true_iff.1 known with known | known
  all_goals
    rw [eq_of_beq known]
    refine ⟨?_, by decide⟩
    exact .last (by decide) (by decide)

/-- A template that is no list is read as a class. -/
theorem ofTemplate_class (spelled : SpellsPath path s) {u : List Char} (same : words u = words s)
    {args : List TargetType} (free : args.length = 1 → path ≠ ["QList"] ∧ path ≠ ["QVector"]) :
    ofTemplate (trim u) args = named path args := by
  have whole : words (trim u) = words s := (words_trim u).trans same
  -- only with one argument could it be a list
  match args with
  | [] => exact classNamed_eq spelled whole []
  | first :: second :: rest => exact classNamed_eq spelled whole _
  | [element] =>
    have noList : isListTemplate (trim u) = false := by
      rw [Bool.eq_false_iff]
      intro list
      obtain ⟨lone, name⟩ := isListTemplate_path list
      have segments : path = [String.ofList (trim u)] := (spelled.segments_eq whole).symm.trans (lone.segments_eq rfl)
      obtain ⟨notList, notVector⟩ := free rfl
      rcases name with name | name
      · exact notList (segments.trans (congrArg (fun w => [w]) name))
      · exact notVector (segments.trans (congrArg (fun w => [w]) name))
    rw [ofTemplate, noList, if_neg (by decide)]
    exact classNamed_eq spelled whole [element]

/-- A scoped name that is no known type is read as a class. -/
theorem ofBasic_plain (spelled : SpellsPath path s) (free : ¬ IsKnown path) :
    ofBasic (basicType s) = named path [] := by
  have same : words (trim (basicType s)) = words s := (words_trim _).trans spelled.words_basicType
  -- a known type is spelled by one name
  have single : ∀ known : String, (∀ c ∈ known.toList, c ≠ ':') → trim known.toList = known.toList →
      trim (basicType s) = known.toList → path = [known] := by
    intro known plain trimmed text
    have lone := spelled.lone_segment (text ▸ same) plain
    rwa [trimmed, String.ofList_toList] at lone
  have some : trim (basicType s) ≠ [] := by
    intro none
    rw [none] at same
    exact spelled.words_ne_nil same.symm
  have notVoid : trim (basicType s) ≠ "void".toList := by
    intro text
    have colons : ∀ c ∈ "void".toList, (c == ':') = false := forall_of_any (by decide)
    exact free (.inl (single "void" (fun c mem => by simpa using colons c mem) (by decide) text))
  have unknown : ∀ b : Builtin, ∀ known ∈ b.spellings, trim (basicType s) ≠ known.toList := by
    intro b known listed text
    have table : b.spellings.all (fun s => trim s.toList == s.toList) = true := by cases b <;> decide +kernel
    have trimmed : trim known.toList = known.toList := by simpa using List.all_eq_true.1 table known listed
    exact free (.inr ⟨b, known, listed, single known (fun c mem => (chars_spelling listed c mem).2) trimmed text⟩)
  rw [ofBasic_class some notVoid unknown, splitTemplate_plain (spelled.bracketless same)]
  exact classNamed_eq spelled same []

/-- **Builtin types** are recognised by their words. -/
theorem ofBasic_builtin {b : Builtin} {known : String} (listed : known ∈ b.spellings) {t : List Char}
    (same : words t = words known.toList) : ofBasic (basicType t) = builtin b := by
  have table : b.spellings.all (fun s => trim (basicType s.toList) != [] &&
      trim (basicType s.toList) != "void".toList &&
      Builtin.ofSpelling? (String.ofList (trim (basicType s.toList))) == some b) = true := by
    cases b <;> decide +kernel
  obtain ⟨⟨some, notVoid⟩, found⟩ := by simpa using List.all_eq_true.1 table known listed
  have alike : sense t = sense known.toList := by rw [sense, same, sense]
  rw [basicType_congr alike, ofBasic, if_neg (by rintro (empty | void); exacts [some empty, notVoid void]), found]

section

variable {front : List Char} (plain : ∀ w ∈ words front, isQualifier w = false)
  (free : ∀ c ∈ front, isIndirection c = false ∧ isDelimiter c = false)

include plain free

/-- Brackets without arguments are read as a name without arguments. -/
theorem exists_reading_empty {inner : List Char} (blank : ∀ c ∈ inner, isSpace c = true) : ∃ name,
    words name = words front ∧ ofBasic (basicType (front ++ '<' :: (inner ++ ['>']))) = ofTemplate (trim name) [] := by
  have level : ∀ a ∈ [inner], IsLevel a :=
    List.forall_mem_singleton.2 (levelBehind_plain (fun c mem => isDelimiter_space (blank c mem)) 0)
  have kept := basicWords_brackets [] (fun c mem => (free c mem).2) (fun c mem => (free c mem).1) level
    (List.forall_mem_nil _)
  rw [List.intercalate_singleton] at kept
  obtain ⟨x, y, text, bracketless, before, -, behind⟩ := exists_bracket plain (fun c mem => (free c mem).2) kept
  have one : words (inner ++ ['>']) = [['>']] := words_spaces_append blank ['>']
  obtain ⟨l, r, rfl, left, right⟩ := exists_margins ((behind (by rw [one]; decide)).trans one)
  rw [List.append_assoc, List.singleton_append] at text
  have none : '>' ∉ r := fun mem => by cases right '>' mem
  refine ⟨x, before, ?_⟩
  rw [ofBasic_brackets text bracketless none, templateArguments_blank left]
  rfl

/-- Brackets around arguments are read as a name and the arguments. -/
theorem exists_reading (texts : List (List Char)) (some : texts ≠ []) (level : ∀ t ∈ texts, IsLevel t)
    (visible : ∀ t ∈ texts, sense t ≠ []) : ∃ name, words name = words front ∧
      ofBasic (basicType (front ++ '<' :: (List.intercalate [','] texts ++ ['>']))) =
        ofTemplate (trim name) (texts.map (fun t => ofBasic (basicType t))) := by
  have kept := basicWords_brackets [] (fun c mem => (free c mem).2) (fun c mem => (free c mem).1) level
    (List.forall_mem_nil _)
  obtain ⟨x, y, text, bracketless, before, meaning, -⟩ := exists_bracket plain (fun c mem => (free c mem).2) kept
  -- behind the first bracket, the text is cut where it was closed and at the commas
  obtain ⟨inner, after, rfl, inside, outside⟩ := cut_at_delimiter (d := '>') (by decide) meaning
  obtain ⟨parts, several, rfl, alike⟩ := cut_at_commas some inside
  have levels : ∀ part ∈ parts, IsLevel part := by
    intro part mem
    obtain ⟨t, known, same⟩ := exists_right_of_mem alike mem
    exact isLevel_congr same (level t known)
  have shown : ∀ part ∈ parts, trim part ≠ [] := by
    intro part mem none
    obtain ⟨t, known, same⟩ := exists_right_of_mem alike mem
    rw [← sense_trim, none] at same
    exact visible t known same.symm
  have readings : (parts.map trim).map (fun part => ofBasic (basicType part)) =
      texts.map (fun t => ofBasic (basicType t)) := by
    have same : List.Forall₂ Eq ((parts.map trim).map (fun part => ofBasic (basicType part)))
        (texts.map (fun t => ofBasic (basicType t))) := by
      rw [List.map_map, List.forall₂_map_left_iff, List.forall₂_map_right_iff]
      exact alike.imp (fun part t same => congrArg ofBasic (basicType_congr ((sense_trim part).trans same)))
    rwa [List.forall₂_eq_eq_eq] at same
  refine ⟨x, before, ?_⟩
  rw [ofBasic_brackets text bracketless (delimiter_notMem outside (by decide)),
    templateArguments_commas several levels shown, readings]

end

/-! ## §7. All spellings. -/

/-- In front of the brackets of a spelled type there are no signs and no delimiters. -/
theorem front_plain (spelled : SpellsPath path s) (spaces : ∀ c ∈ gap, isSpace c = true) :
    words (s ++ gap) = words s ∧ ∀ c ∈ s ++ gap, isIndirection c = false ∧ isDelimiter c = false :=
  ⟨words_append_spaces s spaces, List.forall_mem_append.2
    ⟨spelled.chars_plain, fun c mem => ⟨(space_classes (spaces c mem)).1, isDelimiter_space (spaces c mem)⟩⟩⟩

namespace Spells

variable {type : TargetType} {t : List Char}

/-- A spelling closes its brackets, and its commas stand inside of them. -/
theorem level (h : Spells type t) : IsLevel t := by
  -- brackets are closed around their arguments, and what is put around a type is no bracket
  induction h with
  | void => exact levelBehind_plain (forall_of_any (by decide)) 0
  | @builtin b s t known same =>
    have alike : sense t = sense s.toList := by rw [sense, same, sense]
    exact isLevel_congr alike (levelBehind_plain (fun c mem => (chars_spelling known c mem).1) 0)
  | @list name gap t element known spaces _ ih =>
    have front := (front_plain (isListTemplate_path known).1 spaces).2
    have level := isLevel_brackets [] (fun c mem => (front c mem).2) (List.forall_mem_singleton.2 ih)
      (List.forall_mem_nil _)
    rwa [List.intercalate_singleton] at level
  | plain spelled free => exact levelBehind_plain (fun c mem => (spelled.chars_plain c mem).2) 0
  | @empty path s gap inner spelled spaces blank =>
    have front := (front_plain spelled spaces).2
    have level := isLevel_brackets [] (fun c mem => (front c mem).2)
      (List.forall_mem_singleton.2 (levelBehind_plain (fun c mem => isDelimiter_space (blank c mem)) 0))
      (List.forall_mem_nil _)
    rwa [List.intercalate_singleton] at level
  | template spelled spaces some free each ih =>
    have front := (front_plain spelled spaces).2
    refine isLevel_brackets [] (fun c mem => (front c mem).2) (fun a mem => ?_) (List.forall_mem_nil _)
    obtain ⟨arg, known, rfl⟩ := List.mem_map.1 mem
    exact ih arg known
  | spaceBefore space _ ih => exact isLevel_congr (sense_cons_space _ space) ih
  | signAfter sign _ ih => exact isLevel_append ih sign rfl
  | wordBefore word space _ ih => exact isLevel_append (isLevel_qualifier word) (isSeparator_space space) ih
  | wordAfter word sign _ ih => exact isLevel_append ih sign (isLevel_qualifier word)

/-- A spelling makes sense. -/
theorem sense_ne_nil (h : Spells type t) : sense t ≠ [] := by
  have bracket : ∀ {x y : List Char}, Declared.sense (x ++ '<' :: y) ≠ [] := by
    intro x y
    refine Declared.sense_ne_nil (c := '<') (by simp) (by decide) (fun w qualifier mem => ?_)
    rw [(delimiter_classes (d := '<') (by decide)).2 w mem] at qualifier
    cases qualifier
  have signed : ∀ {c : Char} {t : List Char}, isIndirection c = true → c ∈ t → Declared.sense t ≠ [] := by
    intro c t sign mem
    refine Declared.sense_ne_nil mem (isSpace_sign sign) (fun w qualifier inside => ?_)
    rw [(SignFree.of_qualifier qualifier).indirection c inside] at sign
    cases sign
  induction h with
  | void => decide
  | @builtin b s t known same =>
    -- a type without sense would be read as no type at all
    intro none
    have nothing : basicType t = basicType [] := basicType_congr none
    have read := ofBasic_builtin known same
    rw [nothing, ofBasic, if_pos (.inl rfl)] at read
    cases read
  | list => exact bracket
  | @plain path s spelled free =>
    have all : sense s = words s := List.filter_eq_self.2 (fun w mem => by simp [spelled.words_plain w mem])
    rw [all]
    exact spelled.words_ne_nil
  | empty => exact bracket
  | template => exact bracket
  | spaceBefore space _ ih => rwa [sense_cons_space _ space]
  | @signAfter type t c sign _ ih =>
    rcases Bool.or_eq_true_iff.1 sign with space | sign
    · rwa [sense_append_spaces t (List.forall_mem_singleton.2 space)]
    · exact signed sign (by simp)
  | @wordBefore type w t c word space _ ih =>
    rw [sense_append_space w t space, sense_qualifier word]
    exact ih
  | @wordAfter type w t c word sign _ ih =>
    rcases Bool.or_eq_true_iff.1 sign with space | sign
    · rw [sense_append_space t w space, sense_qualifier word, List.append_nil]
      exact ih
    · exact signed sign (by simp)

/-- A list template is read as a list of what its argument is read as. -/
theorem ofBasic_list {name gap t : List Char} {element : TargetType} (known : isListTemplate name = true)
    (spaces : ∀ c ∈ gap, isSpace c = true) (spelled : Spells element t) (read : ofBasic (basicType t) = element) :
    ofBasic (basicType (name ++ gap ++ '<' :: (t ++ ['>']))) = .list element := by
  obtain ⟨path, -⟩ := isListTemplate_path known
  obtain ⟨same, front⟩ := front_plain path spaces
  obtain ⟨u, named, whole⟩ := exists_reading (same ▸ path.words_plain) front [t] (List.cons_ne_nil t [])
    (List.forall_mem_singleton.2 spelled.level) (List.forall_mem_singleton.2 spelled.sense_ne_nil)
  have one : words name = [name] := by
    rcases Bool.or_eq_true_iff.1 known with known | known
    all_goals
      rw [eq_of_beq known]
      decide
  rw [List.intercalate_singleton, trim_of_words ((named.trans same).trans one), List.map_singleton, read] at whole
  rw [whole, ofTemplate, if_pos known]

/-- Empty brackets are read as if they were not there. -/
theorem ofBasic_empty {path : List String} {s gap inner : List Char} (spelled : SpellsPath path s)
    (spaces : ∀ c ∈ gap, isSpace c = true) (blank : ∀ c ∈ inner, isSpace c = true) :
    ofBasic (basicType (s ++ gap ++ '<' :: (inner ++ ['>']))) = named path [] := by
  obtain ⟨same, front⟩ := front_plain spelled spaces
  obtain ⟨u, named, read⟩ := exists_reading_empty (same ▸ spelled.words_plain) front blank
  rw [read]
  exact ofTemplate_class spelled (named.trans same) (fun one => by cases one)

/-- A class is read with what its arguments are read as. -/
theorem ofBasic_template {path : List String} {s gap : List Char} {args : List (TargetType × List Char)}
    (spelled : SpellsPath path s) (spaces : ∀ c ∈ gap, isSpace c = true) (some : args ≠ [])
    (free : args.length = 1 → path ≠ ["QList"] ∧ path ≠ ["QVector"]) (each : ∀ arg ∈ args, Spells arg.1 arg.2)
    (reads : ∀ arg ∈ args, ofBasic (basicType arg.2) = arg.1) :
    ofBasic (basicType (s ++ gap ++ '<' :: (List.intercalate [','] (args.map Prod.snd) ++ ['>']))) =
      named path (args.map Prod.fst) := by
  obtain ⟨same, front⟩ := front_plain spelled spaces
  have texts : ∀ {P : List Char → Prop}, (∀ arg ∈ args, P arg.2) → ∀ t ∈ args.map Prod.snd, P t := by
    intro P all t mem
    obtain ⟨arg, known, rfl⟩ := List.mem_map.1 mem
    exact all arg known
  obtain ⟨u, named, whole⟩ := exists_reading (same ▸ spelled.words_plain) front (args.map Prod.snd)
    (by simpa using some) (texts (fun arg known => (each arg known).level))
    (texts (fun arg known => (each arg known).sense_ne_nil))
  have types : (args.map Prod.snd).map (fun t => ofBasic (basicType t)) = args.map Prod.fst := by
    rw [List.map_map]
    exact List.map_congr_left reads
  rw [whole, types]
  exact ofTemplate_class spelled (named.trans same) (by simpa using free)

/-- **The type that a spelling is mapped to is the type that was spelled.** -/
theorem ofBasic_eq (h : Spells type t) : ofBasic (basicType t) = type := by
  have decorated : ∀ {t u type}, ofBasic (basicType t) = type → basicWords u = basicWords t →
      ofBasic (basicType u) = type := by
    intro t u type read same
    rwa [basicType_eq, same, ← basicType_eq]
  -- a template is read as its name and its arguments, and what is around a type does not count
  induction h with
  | void =>
    rw [ofBasic, if_pos (.inr (by decide))]
  | builtin known same => exact ofBasic_builtin known same
  | list known spaces spelled ih => exact ofBasic_list known spaces spelled ih
  | plain spelled free => exact ofBasic_plain spelled free
  | empty spelled spaces blank => exact ofBasic_empty spelled spaces blank
  | template spelled spaces some free each ih => exact ofBasic_template spelled spaces some free each ih
  | @spaceBefore type t c space _ ih => exact decorated ih (basicWords_append (x := []) rfl (isSeparator_space space) t)
  | @signAfter type t c sign spelled ih =>
    refine decorated ih ?_
    rw [basicWords_append spelled.level sign []]
    exact List.append_nil _
  | @wordBefore type w t c word space _ ih =>
    refine decorated ih ?_
    rw [basicWords_append (isLevel_qualifier word) (isSeparator_space space), basicWords_qualifier word,
      List.nil_append]
  | @wordAfter type w t c word sign spelled ih =>
    refine decorated ih ?_
    rw [basicWords_append spelled.level sign, basicWords_qualifier word, List.append_nil]

end Spells

/-- A class with two arguments, with white space and decorations at every level. -/
theorem ofBasic_eq_map :
    (named ["Map"] [named ["ns", "Key"] [], list (builtin .u32)]).Spells
        "const Map < ns :: Key const &, QList<unsigned  int>* > const &".toList ∧
      ofBasic (basicType "const Map < ns :: Key const &, QList<unsigned  int>* > const &".toList) =
        named ["Map"] [named ["ns", "Key"] [], list (builtin .u32)] := by
  have key : (named ["ns", "Key"] []).Spells " ns :: Key const &".toList := by
    have path : SpellsPath ["ns", "Key"] "ns :: Key".toList :=
      @SpellsPath.scope "ns" ["Key"] [' '] [' '] _ (by decide) (by decide) (List.forall_mem_singleton.2 rfl)
        (List.forall_mem_singleton.2 rfl) (.last (w := "Key") (by decide) (by decide))
    have free : ¬ IsKnown ["ns", "Key"] := by
      rintro (void | ⟨b, s, -, known⟩)
      · simp at void
      · simp at known
    have qualified := (Spells.plain path free).wordAfter (w := "const".toList) (c := ' ') rfl rfl
    exact ((qualified.signAfter (c := ' ') rfl).signAfter (c := '&') rfl).spaceBefore (c := ' ') rfl
  have values : (list (builtin .u32)).Spells " QList<unsigned  int>* ".toList := by
    have number : (builtin .u32).Spells "unsigned  int".toList :=
      .builtin (s := "unsigned int") (by decide) (by decide)
    have numbers := @Spells.list "QList".toList [] _ _ rfl (List.forall_mem_nil _) number
    exact ((numbers.signAfter (c := '*') rfl).signAfter (c := ' ') rfl).spaceBefore (c := ' ') rfl
  have whole : (named ["Map"] [named ["ns", "Key"] [], list (builtin .u32)]).Spells
      "const Map < ns :: Key const &, QList<unsigned  int>* > const &".toList := by
    have template := @Spells.template ["Map"] "Map".toList [' ']
      [(named ["ns", "Key"] [], " ns :: Key const &".toList),
        (list (builtin .u32), " QList<unsigned  int>* ".toList)]
      (.last (w := "Map") (by decide) (by decide)) (List.forall_mem_singleton.2 rfl) (by simp) (by simp)
      (List.forall_mem_cons.2 ⟨key, List.forall_mem_singleton.2 values⟩)
    have qualified := template.wordAfter (w := "const".toList) (c := ' ') rfl rfl
    have referred := (qualified.signAfter (c := ' ') rfl).signAfter (c := '&') rfl
    exact referred.wordBefore (w := "const".toList) (c := ' ') rfl rfl
  exact ⟨whole, Spells.ofBasic_eq whole⟩

end TargetType

end ScriptBridge.Declared

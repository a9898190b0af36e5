import ScriptBridge.Proofs.Declared.Spelling

/-!
# ScriptBridge.Proofs.Declared.WriteBack

What the type mapping reads of a basic type, and what it ignores.

A type that was mapped can be written back: the segments of its path with `::` between them, its arguments between
brackets, a list as one of its templates.  The text is compared with the one that was mapped by its lexemes, so up to
white space, and without qualifiers and signs between the brackets, where they are stripped from arguments.  Some
lexemes of a text leave no trace in the type: those behind the last bracket, and a blank last argument with the comma in
front of it.  `ignored` lists them at every level, and they are all that is lost.

Main results:
  * `content_basicType` - stripping an argument takes qualifiers and signs only;
  * `content_templateArguments` - cutting a text at its commas loses a blank last argument only;
  * `TargetType.exists_writing` - a type is written back as it was read, but for what is ignored.
-/

namespace ScriptBridge.Declared

open ScriptBridge.Text

/-! ## §1. Lexemes. -/

/-- The signs that stand for themselves in a type. -/
def isSign (c : Char) : Bool :=
  isDelimiter c || isIndirection c || c == ':'

/-- A text with white space around each sign. -/
def setApart (t : List Char) : List Char :=
  t.flatMap (fun c => if isSign c then [' ', c, ' '] else [c])

/-- The words and signs of a text. -/
def lexemes (t : List Char) : List (List Char) :=
  words (setApart t)

theorem lexemes_nil : lexemes [] = [] := rfl

/-- White space is no sign. -/
theorem isSign_space {c : Char} (h : isSpace c = true) : isSign c = false := by
  have colon : (c == ':') = false := by
    rw [Bool.eq_false_iff]
    intro same
    rw [eq_of_beq same] at h
    cases h
  rw [isSign, isDelimiter_space h, (space_classes h).1, colon]
  rfl

/-- White space parts the lexemes. -/
theorem lexemes_append_space (x y : List Char) {c : Char} (space : isSpace c = true) :
    lexemes (x ++ c :: y) = lexemes x ++ lexemes y := by
  have whole : setApart (x ++ c :: y) = setApart x ++ c :: setApart y := by
    simp [setApart, isSign_space space]
  rw [lexemes, whole, words_append_space _ _ space]
  rfl

/-- A sign is a lexeme. -/
theorem lexemes_append_sign (x y : List Char) {c : Char} (sign : isSign c = true) :
    lexemes (x ++ c :: y) = lexemes x ++ [c] :: lexemes y := by
  have visible : isSpace c = false := by
    rw [Bool.eq_false_iff]
    intro space
    rw [isSign_space space] at sign
    cases sign
  have whole : setApart (x ++ c :: y) = setApart x ++ ' ' :: ([c] ++ ' ' :: setApart y) := by
    simp [setApart, sign]
  rw [lexemes, whole, words_append_space _ _ (by decide), words_append_space _ _ (by decide),
    words_solid (List.forall_mem_singleton.2 visible) (List.cons_ne_nil c [])]
  rfl

/-- The lexemes of a text depend on its words. -/
theorem lexemes_congr {s t : List Char} (same : words s = words t) : lexemes s = lexemes t :=
  congr_words lexemes (· ++ ·) (fun x _ y space => lexemes_append_space x y space) (fun _ => rfl)
    (fun _ => List.append_nil _) same

/-- Trimming leaves the lexemes as they are. -/
theorem lexemes_trim (t : List Char) : lexemes (trim t) = lexemes t :=
  lexemes_congr (words_trim t)

/-- The characters of words are those of the text. -/
theorem mem_of_words {s w : List Char} (mem : w ∈ words s) {c : Char} (inside : c ∈ w) : c ∈ s := by
  have own : ∀ {v}, Solid v → w ∈ words v → c ∈ v := fun solid mem => (eq_of_mem_words solid mem).1 ▸ inside
  induction s using spaced_induction with
  | solid v solid => exact own solid mem
  | spaced v d rest solid space ih =>
    rw [words_append_space v rest space] at mem
    rcases List.mem_append.1 mem with here | later
    · exact List.mem_append_left _ (own solid here)
    · exact List.mem_append_right _ (List.mem_cons_of_mem _ (ih later))

/-- The characters of lexemes are those of the text. -/
theorem mem_of_lexemes {t w : List Char} {c : Char} (mem : w ∈ lexemes t) (inside : c ∈ w) : c ∈ t := by
  have visible := (mem_words mem).1 c inside
  obtain ⟨d, known, own⟩ := List.mem_flatMap.1 (mem_of_words mem inside)
  split at own
  · have here : c = ' ' ∨ c = d ∨ c = ' ' := by simpa using own
    rcases here with rfl | rfl | rfl
    · cases visible
    · exact known
    · cases visible
  · exact List.mem_singleton.1 own ▸ known

/-! ## §2. Decorations do not count. -/

/-- Lexemes that are stripped from arguments. -/
def isDecoration (w : List Char) : Bool :=
  isQualifier w || w == ['&'] || w == ['*']

/-- The lexemes of a text that are no decorations. -/
def content (t : List Char) : List (List Char) :=
  (lexemes t).filter (fun w => !isDecoration w)

/-- Texts of the same lexemes have the same content. -/
theorem content_congr {s t : List Char} (same : lexemes s = lexemes t) : content s = content t := by
  rw [content, same, content]

/-- White space parts the content. -/
theorem content_append_space (x y : List Char) {c : Char} (space : isSpace c = true) :
    content (x ++ c :: y) = content x ++ content y := by
  rw [content, lexemes_append_space x y space, List.filter_append]
  rfl

/-- A delimiter is content, and parts what is in front of it from what is behind. -/
theorem content_append_delimiter (x y : List Char) {c : Char} (delimiter : isDelimiter c = true) :
    content (x ++ c :: y) = content x ++ [c] :: content y := by
  have counts : isDecoration [c] = false := by
    have known : c = '<' ∨ c = '>' ∨ c = ',' := by simpa [isDelimiter, or_assoc] using delimiter
    rcases known with rfl | rfl | rfl
    all_goals decide
  rw [content, lexemes_append_sign x y (by simp [isSign, delimiter]), List.filter_append,
    List.filter_cons_of_pos (by simp [counts])]
  rfl

/-- An indirection is no content, but parts it. -/
theorem content_append_indirection (x y : List Char) {c : Char} (sign : isIndirection c = true) :
    content (x ++ c :: y) = content x ++ content y := by
  have gone : isDecoration [c] = true := by
    rcases Bool.or_eq_true_iff.1 sign with same | same
    all_goals
      rw [eq_of_beq same]
      decide
  rw [content, lexemes_append_sign x y (by simp [isSign, sign]), List.filter_append,
    List.filter_cons_of_neg (by simp [gone])]
  rfl

/-- Blanking indirections leaves the content as it is, wherever they stand. -/
theorem content_blankIndirections (t : List Char) (depth : Nat) (x : List Char) :
    content (x ++ blankIndirections depth t) = content (x ++ t) := by
  induction t generalizing depth x with
  | nil => rfl
  | cons c t ih =>
    rw [blankIndirections]
    split
    next outside =>
      have rest := ih (depthAfter depth c) []
      rw [List.nil_append, List.nil_append] at rest
      rw [content_append_space x _ (by decide), rest, content_append_indirection x t outside.2]
    next =>
      have rest := ih (depthAfter depth c) (x ++ [c])
      rwa [List.append_assoc, List.append_assoc, List.singleton_append, List.singleton_append] at rest

/-- The content of words that are written one behind the other is that of each of them. -/
theorem content_spaceOut (ws : List (List Char)) : content (spaceOut ws) = ws.flatMap content :=
  split_spaceOut rfl (fun x y => content_append_space x y (by decide)) ws

/-- **Stripping a type takes qualifiers and signs only.** -/
theorem content_basicType (t : List Char) : content (basicType t) = content t := by
  -- blanked signs and qualifiers are decorations, and spaces part lexemes only
  have gone : ∀ w : List Char, isQualifier w = true → content w = [] := by
    intro w qualifier
    rcases qualifier_cases qualifier with rfl | rfl
    all_goals decide
  have kept : ∀ ws : List (List Char),
      (ws.filter (fun w => !isQualifier w)).flatMap content = ws.flatMap content := by
    intro ws
    induction ws with
    | nil => rfl
    | cons w ws ih =>
      by_cases qualifier : isQualifier w = true
      · rw [List.filter_cons_of_neg (by simp [qualifier]), ih, List.flatMap_cons, gone w qualifier, List.nil_append]
      · rw [List.filter_cons_of_pos (by simp [qualifier]), List.flatMap_cons, List.flatMap_cons, ih]
  have apart : ∀ s : List Char, content (spaceOut (words s)) = content s := fun s =>
    content_congr (lexemes_congr (by rw [words_spaceOut, flatMap_words]))
  have blanked := content_blankIndirections t 0 []
  rw [basicType_eq, content_spaceOut, basicWords_eq, sense, kept, ← content_spaceOut, apart]
  exact blanked

/-! ## §3. The ink of a type. -/

/-- Lexemes without the decorations between the first opening and the last closing bracket. -/
def stripInside (ls : List (List Char)) : List (List Char) :=
  match ls.dropWhile (· != ['<']) with
  | [] => ls
  | opening :: rest =>
    match rest.reverse.dropWhile (· != ['>']) with
    | [] => ls
    | closing :: inner =>
      ls.takeWhile (· != ['<']) ++ opening :: (inner.reverse.filter (fun w => !isDecoration w) ++
        closing :: (rest.reverse.takeWhile (· != ['>'])).reverse)

/-- What is written on the paper when a type is written down, up to white space and to the decorations of its template
arguments. -/
def ink (ty : List Char) : List (List Char) :=
  stripInside (lexemes ty)

/-- Between the outermost brackets the decorations go, and everything else stays. -/
theorem stripInside_brackets {front inner tail : List (List Char)} (before : ['<'] ∉ front) (behind : ['>'] ∉ tail) :
    stripInside (front ++ ['<'] :: (inner ++ ['>'] :: tail)) =
      front ++ ['<'] :: (inner.filter (fun w => !isDecoration w) ++ ['>'] :: tail) := by
  have first : ∀ w ∈ front, (w != ['<']) = true := fun w mem => bne_iff_ne.2 (fun same => before (same ▸ mem))
  have last : ∀ w ∈ tail.reverse, (w != ['>']) = true :=
    fun w mem => bne_iff_ne.2 (fun same => behind (same ▸ List.mem_reverse.1 mem))
  unfold stripInside
  rw [List.dropWhile_append_of_pos first, List.dropWhile_cons_of_neg (by decide),
    List.takeWhile_append_of_pos first, List.takeWhile_cons_of_neg (by decide)]
  simp only [List.reverse_append, List.reverse_cons, List.append_assoc, List.singleton_append]
  rw [List.dropWhile_append_of_pos last, List.dropWhile_cons_of_neg (by decide),
    List.takeWhile_append_of_pos last, List.takeWhile_cons_of_neg (by decide)]
  simp

/-- Without decorations, nothing is missing from the ink. -/
theorem filter_stripInside (ls : List (List Char)) :
    (stripInside ls).filter (fun w => !isDecoration w) = ls.filter (fun w => !isDecoration w) := by
  unfold stripInside
  split
  · rfl
  next opening rest found =>
    split
    · rfl
    next closing inner found' =>
      have whole : ls = ls.takeWhile (· != ['<']) ++ opening :: rest := by
        rw [← found, List.takeWhile_append_dropWhile]
      have back : rest = inner.reverse ++ closing :: (rest.reverse.takeWhile (· != ['>'])).reverse := by
        have reversed := congrArg List.reverse (List.takeWhile_append_dropWhile (p := (· != ['>'])) (l := rest.reverse))
        rw [found'] at reversed
        simpa using reversed.symm
      conv_rhs => rw [whole, back]
      simp [List.filter_append, List.filter_cons]

/-! ## §4. Taking texts apart and putting them together. -/

/-- The lexemes of a path are those of its segments, with the signs of the separator between them. -/
theorem lexemes_intercalate_scopes (pieces : List (List Char)) :
    lexemes (List.intercalate [':', ':'] pieces) = List.intercalate [[':'], [':']] (pieces.map lexemes) := by
  induction pieces with
  | nil => rfl
  | cons piece pieces ih =>
    cases pieces with
    | nil => simp
    | cons next pieces =>
      have behind := lexemes_append_sign [] (List.intercalate [':', ':'] (next :: pieces)) (c := ':') (by decide)
      rw [List.nil_append] at behind
      rw [List.intercalate_cons_cons, List.append_assoc, List.cons_append, List.singleton_append,
        lexemes_append_sign _ _ (by decide), behind, ih]
      simp only [List.map_cons, List.intercalate_cons_cons, List.append_assoc]
      rfl

/-- The first part of a list is followed by its comma. -/
theorem content_cons_commas (piece next : List Char) (pieces : List (List Char)) :
    content (List.intercalate [','] (piece :: next :: pieces)) =
      content piece ++ ([[',']] ++ content (List.intercalate [','] (next :: pieces))) := by
  rw [List.intercalate_cons_cons, List.append_assoc, List.singleton_append, content_append_delimiter _ _ (by decide)]
  rfl

/-- The content of a list is that of its parts, with the commas between them. -/
theorem content_intercalate_commas (pieces : List (List Char)) :
    content (List.intercalate [','] pieces) = List.intercalate [[',']] (pieces.map content) := by
  induction pieces with
  | nil => rfl
  | cons piece pieces ih =>
    cases pieces with
    | nil => simp
    | cons next pieces =>
      rw [content_cons_commas, ih]
      simp only [List.map_cons, List.intercalate_cons_cons, List.append_assoc]

/-- The first piece of a text goes on in front. -/
theorem intercalate_modifyHead {c : Char} (sep : List Char) {pieces : List (List Char)} (some : pieces ≠ []) :
    List.intercalate sep (pieces.modifyHead (c :: ·)) = c :: List.intercalate sep pieces := by
  match pieces with
  | [] => exact absurd rfl some
  | [piece] => simp
  | piece :: next :: pieces => simp

/-- The segments of a text make the text again. -/
theorem intercalate_splitScopes (s : List Char) : List.intercalate [':', ':'] (splitScopes s) = s := by
  induction s using splitScopes.induct with
  | case1 => rfl
  | case2 rest ih =>
    rw [splitScopes]
    cases pieces : splitScopes rest with
    | nil => exact absurd pieces (splitScopes_ne_nil rest)
    | cons piece pieces' =>
      rw [List.intercalate_cons_cons, ← pieces, ih]
      rfl
  | case3 c rest single ih =>
    rw [splitScopes.eq_3 _ _ single, intercalate_modifyHead _ (splitScopes_ne_nil rest), ih]

/-- A list of arguments has at least one part. -/
theorem cutArguments_ne_nil (depth : Nat) (s : List Char) : cutArguments depth s ≠ [] := by
  induction s generalizing depth with
  | nil => simp [cutArguments]
  | cons c s ih =>
    rw [cutArguments]
    split
    · exact List.cons_ne_nil _ _
    · cases pieces : cutArguments (depthAfter depth c) s with
      | nil => exact absurd pieces (ih _)
      | cons => simp

/-- The parts of a list of arguments make the list again. -/
theorem intercalate_cutArguments (depth : Nat) (s : List Char) :
    List.intercalate [','] (cutArguments depth s) = s := by
  induction s generalizing depth with
  | nil => rfl
  | cons c s ih =>
    rw [cutArguments]
    split
    next comma =>
      cases pieces : cutArguments depth s with
      | nil => exact absurd pieces (cutArguments_ne_nil depth s)
      | cons piece pieces' =>
        rw [List.intercalate_cons_cons, ← pieces, ih, comma.1]
        rfl
    next => rw [intercalate_modifyHead _ (cutArguments_ne_nil _ s), ih]

theorem intercalate_concat {α : Type} (sep : List α) {pieces : List (List α)} (some : pieces ≠ []) (last : List α) :
    List.intercalate sep (pieces ++ [last]) = List.intercalate sep pieces ++ (sep ++ last) := by
  match pieces with
  | [] => exact absurd rfl some
  | [piece] => simp
  | piece :: next :: pieces =>
    have ih := intercalate_concat sep (List.cons_ne_nil next pieces) last
    rw [List.cons_append] at ih
    rw [List.cons_append, List.cons_append, List.intercalate_cons_cons, ih, List.intercalate_cons_cons]
    simp only [List.append_assoc]

/-- The comma in front of a blank last argument. -/
def blankEnd (inner : List Char) : List (List Char) :=
  let pieces := (cutArguments 0 inner).map trim
  if 2 ≤ pieces.length ∧ pieces.getLast? = some [] then [[',']] else []

/-- **Cutting a text at its commas loses a blank last argument only.** -/
theorem content_templateArguments (inner : List Char) :
    content inner = content (List.intercalate [','] (templateArguments inner)) ++ blankEnd inner := by
  have whole : content inner = List.intercalate [[',']] (((cutArguments 0 inner).map trim).map content) := by
    have same : content ∘ trim = content := funext (fun t => content_congr (lexemes_trim t))
    rw [List.map_map, same, ← content_intercalate_commas, intercalate_cutArguments]
  have some : (cutArguments 0 inner).map trim ≠ [] := by simpa using cutArguments_ne_nil 0 inner
  rw [whole, content_intercalate_commas, templateArguments, blankEnd]
  obtain none | ⟨front, last, pieces⟩ := List.eq_nil_or_concat ((cutArguments 0 inner).map trim)
  · exact absurd none some
  · rw [List.concat_eq_append] at pieces
    simp only [pieces, List.dropLast_concat, List.getLast?_concat, Option.toList_some, List.map_append,
      List.map_singleton]
    -- a blank last argument is dropped, but the comma in front of it counts
    cases last with
    | cons c last => simp
    | nil =>
      have nothing : content [] = [] := rfl
      cases front with
      | nil => rfl
      | cons first front =>
        rw [nothing, List.map_cons, intercalate_concat _ (List.cons_ne_nil _ _)]
        simp

/-! ## §5. Accounts. -/

/-- Of what is read, some is written in the order in which it was read, and the rest is ignored. -/
structure Accounts {α : Type} (read written ignored : List α) : Prop where
  order : List.Sublist written read
  all : List.Perm read (written ++ ignored)

namespace Accounts

variable {α : Type} {read read' written written' ignored ignored' : List α}

theorem kept (l : List α) : Accounts l l [] :=
  ⟨List.Sublist.refl l, by rw [List.append_nil]⟩

theorem gone (l : List α) : Accounts l [] l :=
  ⟨List.nil_sublist l, List.Perm.refl l⟩

/-- Accounts of two lists make one of both. -/
theorem append (h : Accounts read written ignored) (h' : Accounts read' written' ignored') :
    Accounts (read ++ read') (written ++ written') (ignored ++ ignored') := by
  refine ⟨h.order.append h'.order, (h.all.append h'.all).trans ?_⟩
  rw [List.append_assoc, List.append_assoc, ← List.append_assoc ignored, ← List.append_assoc written']
  exact (List.perm_append_comm.append_right ignored').append_left written

/-- What is left out on both sides leaves an account. -/
theorem filter (p : α → Bool) (h : Accounts read written ignored) :
    Accounts (read.filter p) (written.filter p) (ignored.filter p) := by
  refine ⟨h.order.filter p, ?_⟩
  rw [← List.filter_append]
  exact h.all.filter p

/-- Everything is written if and only if nothing is ignored. -/
theorem written_eq_iff (h : Accounts read written ignored) : written = read ↔ ignored = [] := by
  have length := h.all.length_eq
  rw [List.length_append] at length
  constructor
  · rintro rfl
    exact List.eq_nil_of_length_eq_zero (by omega)
  · rintro rfl
    exact h.order.eq_of_length (by simpa using length.symm)

end Accounts

/-! ## §6. Writing types, and what is ignored. -/

/-- The text behind the last closing bracket. -/
def behindBrackets (ty : List Char) : List Char :=
  (ty.reverse.takeWhile (· != '>')).reverse

/-- The lexemes of a type outside of its arguments that its reading does not depend on. -/
def unread (ty : List Char) : List (List Char) :=
  match bracketed? ty with
  | some inner => blankEnd inner ++ lexemes (behindBrackets ty)
  | none => []

namespace TargetType

/-- A class name in a text. -/
def pathText (path : List String) : List Char :=
  List.intercalate [':', ':'] (path.map String.toList)

/-- The texts that a type is written back as. -/
inductive Writes : TargetType → List Char → Prop
  | blank : Writes unit []
  | void : Writes unit "void".toList
  | builtin {b : Builtin} {s : String} (known : s ∈ b.spellings) : Writes (builtin b) s.toList
  | list {name w : List Char} {element : TargetType} (known : isListTemplate name = true) (inner : Writes element w) :
      Writes (list element) (name ++ '<' :: (w ++ ['>']))
  | plain (path : List String) : Writes (named path []) (pathText path)
  /-- A class with arguments, each of which comes with its text. -/
  | template (path : List String) {args : List (TargetType × List Char)} (each : ∀ arg ∈ args, Writes arg.1 arg.2) :
      Writes (named path (args.map Prod.fst))
        (pathText path ++ '<' :: (List.intercalate [','] (args.map Prod.snd) ++ ['>']))

/-- The lexemes of a basic type that the type it is mapped to does not depend on, at any level. -/
def ignored (ty : List Char) : List (List Char) :=
  ((splitTemplate (trim ty)).2.attach.flatMap (fun arg => ignored (basicType arg.1))).filter
    (fun w => !isDecoration w) ++ unread (trim ty)
termination_by ty.length
decreasing_by exact length_basicType_argument_lt arg.2

/-- What is ignored of a type: what is ignored of its arguments, without decorations, and the lexemes outside of them
that are not read. -/
theorem ignored_eq (ty : List Char) : ignored ty =
    ((splitTemplate (trim ty)).2.flatMap (fun arg => ignored (basicType arg))).filter (fun w => !isDecoration w) ++
      unread (trim ty) := by
  rw [ignored, List.flatMap_def, List.attach_map_val (f := fun arg => ignored (basicType arg)), ← List.flatMap_def]

/-- The segments of a name, written with `::` between them, have the lexemes of the name. -/
theorem lexemes_pathText (name : List Char) :
    lexemes (pathText ((splitScopes name).map (fun segment => String.ofList (trim segment)))) = lexemes name := by
  have same : lexemes ∘ trim = lexemes := funext lexemes_trim
  have segments : ((splitScopes name).map (fun segment => String.ofList (trim segment))).map String.toList =
      (splitScopes name).map trim := by
    simp [Function.comp_def]
  rw [pathText, segments, lexemes_intercalate_scopes, List.map_map, same, ← lexemes_intercalate_scopes,
    intercalate_splitScopes]

/-- A text that does not fall into a name and arguments is written back with its lexemes. -/
theorem exists_writing_bare {ty : List Char} (none : bracketed? (trim ty) = none) :
    ∃ w, (ofBasic ty).Writes w ∧ lexemes w = lexemes ty := by
  have split : splitTemplate (trim ty) = (trim ty, []) := by rw [splitTemplate, none]
  -- the ways in which a text without brackets is read, in the order in which they are tried
  by_cases empty : trim ty = []
  · rw [ofBasic, if_pos (.inl empty)]
    exact ⟨[], .blank, by rw [← lexemes_trim ty, empty]⟩
  by_cases void : trim ty = "void".toList
  · rw [ofBasic, if_pos (.inr void)]
    exact ⟨_, .void, by rw [← lexemes_trim ty, void]⟩
  by_cases known : ∃ b : Builtin, ∃ s ∈ b.spellings, trim ty = s.toList
  · have found : ∃ b, Builtin.ofSpelling? (String.ofList (trim ty)) = some b := by
      obtain ⟨b, s, listed, text⟩ := known
      refine Option.isSome_iff_exists.1 (List.find?_isSome.2 ⟨b, by cases b <;> decide, ?_⟩)
      rw [text, String.ofList_toList]
      exact List.contains_iff_mem.2 listed
    obtain ⟨b, found⟩ := found
    have listed : String.ofList (trim ty) ∈ b.spellings :=
      List.contains_iff_mem.1 (List.find?_some (p := fun b : Builtin => b.spellings.contains _) found)
    rw [ofBasic, if_neg (by rintro (none | same); exacts [empty none, void same]), found]
    exact ⟨_, .builtin listed, by rw [String.toList_ofList, lexemes_trim]⟩
  · rw [ofBasic_class empty void (fun b s listed text => known ⟨b, s, listed, text⟩), split]
    exact ⟨_, .plain _, by rw [lexemes_pathText, lexemes_trim]⟩

/-- A template is written back with the lexemes of its name. -/
theorem exists_writing_template (name : List Char) {args : List (TargetType × List Char)}
    (each : ∀ arg ∈ args, Writes arg.1 arg.2) : ∃ front, lexemes front = lexemes name ∧
      (ofTemplate name (args.map Prod.fst)).Writes
        (front ++ '<' :: (List.intercalate [','] (args.map Prod.snd) ++ ['>'])) := by
  have named : ∃ front, lexemes front = lexemes name ∧ (ofTemplate.classNamed name (args.map Prod.fst)).Writes
      (front ++ '<' :: (List.intercalate [','] (args.map Prod.snd) ++ ['>'])) :=
    ⟨_, lexemes_pathText name, .template _ each⟩
  match args with
  | [] => exact named
  | first :: second :: rest => exact named
  | [arg] =>
    by_cases known : isListTemplate name = true
    · refine ⟨name, rfl, ?_⟩
      rw [List.map_singleton, ofTemplate, if_pos known, List.map_singleton, List.intercalate_singleton]
      exact .list known (each arg (List.mem_singleton_self arg))
    · rw [List.map_singleton, ofTemplate, if_neg known]
      exact named

/-- Arguments that are accounted for one by one are accounted for together. -/
theorem exists_writings (texts : List (List Char))
    (each : ∀ t ∈ texts, ∃ w, (ofBasic (basicType t)).Writes w ∧
      Accounts (ink (basicType t)) (ink w) (ignored (basicType t))) :
    ∃ args : List (TargetType × List Char), args.map Prod.fst = texts.map (fun t => ofBasic (basicType t)) ∧
      (∀ arg ∈ args, Writes arg.1 arg.2) ∧
      Accounts (content (List.intercalate [','] texts)) (content (List.intercalate [','] (args.map Prod.snd)))
        ((texts.flatMap (fun t => ignored (basicType t))).filter (fun w => !isDecoration w)) := by
  induction texts with
  | nil => exact ⟨[], rfl, List.forall_mem_nil _, .kept []⟩
  | cons t texts ih =>
    obtain ⟨⟨w, writes, here⟩, later⟩ := List.forall_mem_cons.1 each
    obtain ⟨args, types, all, there⟩ := ih later
    -- decorations do not count
    have own : Accounts (content t) (content w) ((ignored (basicType t)).filter (fun w => !isDecoration w)) := by
      have filtered := here.filter (fun w => !isDecoration w)
      rw [ink, ink, filter_stripInside, filter_stripInside] at filtered
      rw [← content_basicType t]
      exact filtered
    refine ⟨(ofBasic (basicType t), w) :: args, by rw [List.map_cons, types, List.map_cons],
      List.forall_mem_cons.2 ⟨writes, all⟩, ?_⟩
    rw [List.flatMap_cons, List.filter_append]
    cases texts with
    | nil =>
      obtain rfl : args = [] := by simpa using types
      simpa using own
    | cons next texts =>
      obtain ⟨arg, args', rfl⟩ : ∃ arg args', args = arg :: args' := by
        cases args with
        | nil => cases types
        | cons arg args' => exact ⟨arg, args', rfl⟩
      rw [List.map_cons, List.map_cons, content_cons_commas, content_cons_commas]
      exact own.append ((Accounts.kept [[',']]).append there)

/-- A text with a bracket pair, cut at its first opening and its last closing bracket. -/
theorem exists_brackets {ty inner : List Char} (found : bracketed? ty = some inner) : ∃ front tail,
    ty = front ++ '<' :: (inner ++ '>' :: tail) ∧ '<' ∉ front ∧ '>' ∉ tail := by
  have free : ∀ (c : Char) (s : List Char), c ∉ s.takeWhile (· != c) := by
    intro c s mem
    simpa using List.mem_takeWhile_imp mem
  -- what was cut off begins with the bracket that the cut was made at
  have here : ∀ {c d : Char} {s rest : List Char}, s.dropWhile (· != c) = d :: rest → d = c := by
    intro c d s rest cut
    have first := List.head?_dropWhile_not (· != c) s
    rw [cut] at first
    simpa using first
  unfold bracketed? at found
  split at found
  next c rest opening =>
    split at found
    next d inner' closing =>
      cases found
      refine ⟨ty.takeWhile (· != '<'), (rest.reverse.takeWhile (· != '>')).reverse, ?_, free _ _, ?_⟩
      · have back : rest = inner'.reverse ++ '>' :: (rest.reverse.takeWhile (· != '>')).reverse := by
          have reversed := congrArg List.reverse (List.takeWhile_append_dropWhile (p := (· != '>')) (l := rest.reverse))
          rw [closing, here closing] at reversed
          simpa using reversed.symm
        calc ty
          _ = ty.takeWhile (· != '<') ++ '<' :: rest := by
            rw [← here opening, ← opening, here opening, List.takeWhile_append_dropWhile]
          _ = _ := by rw [← back]
      · exact fun mem => free _ _ (List.mem_reverse.1 mem)
    next => cases found
  next => cases found

/-- What stands behind the last closing bracket. -/
theorem behindBrackets_eq {x tail : List Char} (free : '>' ∉ tail) : behindBrackets (x ++ '>' :: tail) = tail := by
  have each : ∀ c ∈ tail.reverse, (c != '>') = true :=
    fun c mem => bne_iff_ne.2 (fun same => free (same ▸ List.mem_reverse.1 mem))
  rw [behindBrackets, List.reverse_append, List.reverse_cons, List.append_assoc, List.singleton_append,
    List.takeWhile_append_of_pos each, List.takeWhile_cons_of_neg (by decide), List.append_nil, List.reverse_reverse]

/-- The ink of a template, whose arguments count without their decorations. -/
theorem ink_brackets {front inner tail : List Char} (before : ['<'] ∉ lexemes front) (behind : '>' ∉ tail) :
    ink (front ++ '<' :: (inner ++ '>' :: tail)) =
      lexemes front ++ ([['<']] ++ (content inner ++ ([['>']] ++ lexemes tail))) := by
  rw [ink, lexemes_append_sign _ _ (by decide), lexemes_append_sign _ _ (by decide), stripInside_brackets before]
  · rfl
  · exact fun mem => behind (mem_of_lexemes mem (by simp))

/-- **A type is written back as it was read, but for what is ignored.** -/
theorem exists_accounts (ty : List Char) :
    ∃ w, (ofBasic ty).Writes w ∧ Accounts (ink ty) (ink w) (ignored ty) := by
  cases found : bracketed? (trim ty) with
  | none =>
    obtain ⟨w, writes, same⟩ := exists_writing_bare found
    have nothing : ignored ty = [] := by
      rw [ignored, unread, found, splitTemplate, found]
      rfl
    refine ⟨w, writes, ?_⟩
    rw [nothing, ink, ink, same]
    exact .kept _
  | some inner =>
    obtain ⟨front, tail, text, before, behind⟩ := exists_brackets found
    have split : (splitTemplate (trim ty)).2 = templateArguments inner := by rw [splitTemplate, found]
    -- the arguments are shorter, and so are their basic types
    obtain ⟨args, types, each, inside⟩ := exists_writings (templateArguments inner)
      (fun t known => exists_accounts (basicType t))
    obtain ⟨front', name, writes⟩ := exists_writing_template (trim front) each
    rw [lexemes_trim] at name
    have opening : ['<'] ∉ lexemes front := fun mem => before (mem_of_lexemes mem (by simp))
    have own : unread (trim ty) = blankEnd inner ++ lexemes tail := by
      have last : behindBrackets (trim ty) = tail := by
        rw [text, ← List.cons_append, ← List.append_assoc, behindBrackets_eq behind]
      rw [unread, found, last]
    have whole : ink ty = lexemes front ++ ([['<']] ++ (content inner ++ ([['>']] ++ lexemes tail))) := by
      rw [ink, ← lexemes_trim, text, ← ink, ink_brackets opening behind]
    refine ⟨front' ++ '<' :: (List.intercalate [','] (args.map Prod.snd) ++ ['>']), ?_, ?_⟩
    · rw [ofBasic_brackets text before behind, ← types]
      exact writes
    · have closed := (Accounts.kept [['>']]).append (.gone (lexemes tail))
      have outside := (inside.append (.gone (blankEnd inner))).append closed
      have accounts := (Accounts.kept (lexemes front)).append ((Accounts.kept [['<']]).append outside)
      rw [whole, ink_brackets (by rwa [name]) List.not_mem_nil, name, ignored_eq, split, own, content_templateArguments]
      simpa [lexemes_nil] using accounts
termination_by ty.length
decreasing_by
  exact length_basicType_argument_lt (by rw [split]; exact known)

/-- **A type is written back as it was read if and only if nothing in it is ignored**, and in any case all of it that is
not ignored is written back in its order. -/
theorem exists_writing (ty : List Char) : ∃ w, (ofBasic ty).Writes w ∧ Accounts (ink ty) (ink w) (ignored ty) ∧
    (ink w = ink ty ↔ ignored ty = []) := by
  obtain ⟨w, writes, accounts⟩ := exists_accounts ty
  exact ⟨w, writes, accounts, accounts.written_eq_iff⟩

/-- A class is written without arguments, or with those it has. -/
theorem Writes.of_named {path : List String} {types : List TargetType} {w : List Char}
    (h : Writes (named path types) w) : types = [] ∧ w = pathText path ∨
      ∃ args : List (TargetType × List Char), args.map Prod.fst = types ∧ (∀ arg ∈ args, Writes arg.1 arg.2) ∧
        w = pathText path ++ '<' :: (List.intercalate [','] (args.map Prod.snd) ++ ['>']) := by
  generalize same : named path types = type at h
  cases h with
  | blank => cases same
  | void => cases same
  | builtin => cases same
  | list => cases same
  | plain =>
    cases same
    exact .inl ⟨rfl, rfl⟩
  | @template _ args each =>
    cases same
    exact .inr ⟨args, rfl, each, rfl⟩

/-- A scoped name behind the arguments of a template is ignored, and no text of the type has it. -/
theorem writes_scopedTemplate : ofBasic "Foo<A>::B".toList = named ["Foo"] [named ["A"] []] ∧
    ∀ w, (ofBasic "Foo<A>::B".toList).Writes w → ink w ≠ ink "Foo<A>::B".toList := by
  have argument : ofBasic (basicType ['A']) = named ["A"] [] := by
    refine ofBasic_plain (.last (w := "A") (by decide) (by decide)) ?_
    rintro (void | ⟨b, s, known, same⟩)
    · simp at void
    · obtain rfl : "A" = s := by simpa using same
      cases b <;> revert known <;> decide
  have read : ofBasic "Foo<A>::B".toList = named ["Foo"] [named ["A"] []] := by
    have text : trim "Foo<A>::B".toList = "Foo".toList ++ '<' :: (['A'] ++ '>' :: "::B".toList) := by decide
    rw [ofBasic_brackets text (by decide) (by decide)]
    have args : templateArguments ['A'] = [['A']] := by decide
    rw [args, List.map_singleton, argument]
    rfl
  refine ⟨read, fun w writes => ?_⟩
  rw [read] at writes
  -- whatever the argument is written as, nothing is written behind the bracket
  obtain ⟨none, -⟩ | ⟨args, types, each, rfl⟩ := writes.of_named
  · cases none
  · have one : args.length = 1 := by simpa using congrArg List.length types
    obtain ⟨⟨type, v⟩, rfl⟩ := List.length_eq_one_iff.1 one
    obtain rfl : type = named ["A"] [] := by simpa using types
    obtain ⟨-, rfl⟩ | ⟨args, none, -, rfl⟩ := (each _ (List.mem_singleton_self _)).of_named
    · decide
    · obtain rfl := List.map_eq_nil_iff.1 none
      decide

end TargetType

end ScriptBridge.Declared

import ScriptBridge.Proofs.Declared.Brackets
import ScriptBridge.Symbol.Declaration

/-!
# ScriptBridge.Proofs.Declared.Arguments

What stripping a declared type does to the arguments of its templates.

Signs are taken away outside of brackets only, but qualifiers are taken away wherever they are words of the whole text.
Inside of brackets a word has white space on both sides, unless it touches a bracket.  So `QList<const Entity *>` keeps
its qualifier, which is a word together with the bracket in front of it, and `QList<Entity const *>` loses it, with the
consequence that functions with these two parameters, and with `QList<Entity *>`, do not all count as different.

Main results:
  * `stripped_eq_squeezed_iff` - an argument is left alone unless a qualifier stands between white space in it;
  * `Grouped.basicType` - the frame of a type is stripped like a type of its own, and each argument by itself;
  * `signature_eq_iff` - which functions that differ inside of template arguments have one signature;
  * `basicType_arguments` - all of this together.
-/

namespace ScriptBridge.Declared

open ScriptBridge.Text ScriptBridge.Symbol

/-! ## §1. White space. -/

/-- Each run of white space becomes one space. -/
def squeezed : List Char → List Char
  | [] => []
  | c :: t =>
    if isSpace c then (if t.head?.any isSpace then squeezed t else ' ' :: squeezed t)
    else c :: squeezed t

/-- The words of a text with white space on both sides. -/
def enclosedWords (t : List Char) : List (List Char) :=
  (t.splitOnP isSpace).tail.dropLast

/-- Puts a space in front of each piece, but leaves out the pieces in front of the last one that are not to be kept. -/
def spacePieces (keep : List Char → Bool) : List (List Char) → List Char
  | [] => []
  | [last] => ' ' :: last
  | piece :: next :: pieces => (if keep piece then ' ' :: piece else []) ++ spacePieces keep (next :: pieces)

/-- The text behind white space, with single spaces between its pieces. -/
def joinedBehind (keep : List Char → Bool) (t : List Char) : List Char :=
  spacePieces keep (t.splitOnP isSpace)

/-- The text with single spaces between its pieces.  Of the enclosed words only some are kept. -/
def joined (keep : List Char → Bool) (t : List Char) : List Char :=
  match t.splitOnP isSpace with
  | [] => []
  | first :: pieces => first ++ spacePieces keep pieces

/-- A template argument without the qualifiers that are enclosed in it. -/
def stripped (t : List Char) : List Char :=
  joined (fun w => !w.isEmpty && !isQualifier w) t

section

variable {keep keep' : List Char → Bool} {w rest : List Char} {c : Char}

/-- Behind white space a word is joined by one space. -/
theorem joinedBehind_solid (solid : Solid w) : joinedBehind keep w = ' ' :: w := by
  rw [joinedBehind, List.splitOnP_eq_singleton solid, spacePieces]

/-- Behind white space a word that is kept is joined by one space, and then the rest. -/
theorem joinedBehind_append (solid : Solid w) (space : isSpace c = true) :
    joinedBehind keep (w ++ c :: rest) = (if keep w then ' ' :: w else []) ++ joinedBehind keep rest := by
  rw [joinedBehind, joinedBehind, List.splitOnP_append_cons w rest space, List.splitOnP_eq_singleton solid]
  obtain ⟨piece, pieces, list⟩ := List.exists_cons_of_ne_nil (List.splitOnP_ne_nil isSpace rest)
  rw [list]
  rfl

/-- A word by itself is joined to nothing. -/
theorem joined_solid (solid : Solid w) : joined keep w = w := by
  rw [joined, List.splitOnP_eq_singleton solid]
  exact List.append_nil w

/-- The first word of a text stays in its place, and the rest is joined behind it. -/
theorem joined_append (solid : Solid w) (space : isSpace c = true) :
    joined keep (w ++ c :: rest) = w ++ joinedBehind keep rest := by
  rw [joined, List.splitOnP_append_cons w rest space, List.splitOnP_eq_singleton solid]
  rfl

/-- The more words are kept, the more pieces there are. -/
theorem length_spacePieces_le (weaker : ∀ w, keep w = true → keep' w = true) (pieces : List (List Char)) :
    (spacePieces keep pieces).length ≤ (spacePieces keep' pieces).length := by
  induction pieces using spacePieces.induct with
  | case1 => exact Nat.le_refl _
  | case2 last => exact Nat.le_refl _
  | case3 piece next pieces ih =>
    rw [spacePieces, spacePieces, List.length_append, List.length_append]
    refine Nat.add_le_add ?_ ih
    cases here : keep piece with
    | false => exact Nat.zero_le _
    | true => exact Nat.le_of_eq (by rw [weaker piece here])

/-- Two selections leave the same text only if they keep the same pieces in front of the last one. -/
theorem spacePieces_eq_iff (weaker : ∀ w, keep w = true → keep' w = true) (pieces : List (List Char)) :
    spacePieces keep pieces = spacePieces keep' pieces ↔
      ∀ w ∈ pieces.dropLast, keep' w = true → keep w = true := by
  induction pieces using spacePieces.induct with
  | case1 => simp [spacePieces]
  | case2 last => simp [spacePieces]
  | case3 piece next pieces ih =>
    rw [spacePieces, spacePieces, List.dropLast_cons_cons, List.forall_mem_cons, ← ih]
    cases here : keep piece with
    | true =>
      rw [weaker piece here]
      simp
    | false =>
      cases there : keep' piece with
      | false => simp
      | true =>
        -- what is left out makes the text shorter
        refine iff_of_false (fun same => ?_) (fun both => by simpa using both.1 rfl)
        have lengths := congrArg List.length same
        have shorter := length_spacePieces_le weaker (next :: pieces)
        simp at lengths
        omega

/-- Two ways to keep words come to the same if the words between other words are kept by both. -/
theorem joined_eq_iff (weaker : ∀ w, keep w = true → keep' w = true) (t : List Char) :
    joined keep t = joined keep' t ↔ ∀ w ∈ enclosedWords t, keep' w = true → keep w = true := by
  obtain ⟨first, pieces, list⟩ := List.exists_cons_of_ne_nil (List.splitOnP_ne_nil isSpace t)
  rw [joined, joined, enclosedWords, list]
  exact (List.append_right_inj first).trans (spacePieces_eq_iff weaker pieces)

/-- A word in front stays as it is. -/
theorem squeezed_solid_append (solid : Solid w) (t : List Char) : squeezed (w ++ t) = w ++ squeezed t := by
  induction w with
  | nil => rfl
  | cons c w ih =>
    obtain ⟨visible, later⟩ := List.forall_mem_cons.1 solid
    rw [List.cons_append, squeezed, if_neg (by simp [visible]), ih later]
    rfl

/-- A word by itself stays as it is. -/
theorem squeezed_solid (solid : Solid w) : squeezed w = w := by
  have alone := squeezed_solid_append solid []
  rwa [List.append_nil, squeezed, List.append_nil] at alone

/-- A space stays in front of a word only. -/
theorem squeezed_space (space : isSpace c = true) (t : List Char) :
    squeezed (c :: t) = joinedBehind (fun w => !w.isEmpty) t := by
  induction t using spaced_induction generalizing c with
  | solid w solid =>
    rw [joinedBehind_solid solid, squeezed, if_pos space, squeezed_solid solid]
    cases w with
    | nil => rfl
    | cons d w => rw [if_neg (by simp [solid d List.mem_cons_self])]
  | spaced w d rest solid space' ih =>
    rw [joinedBehind_append solid space', squeezed, if_pos space, squeezed_solid_append solid, ih space']
    cases w with
    | nil => rw [if_pos (by simp [space'])]; rfl
    | cons e w =>
      rw [if_neg (by simp [solid e List.mem_cons_self])]
      rfl

/-- To squeeze white space is to join all words. -/
theorem squeezed_eq_joined (t : List Char) : squeezed t = joined (fun w => !w.isEmpty) t := by
  rcases solid_or_spaced t with solid | ⟨w, c, rest, rfl, solid, space⟩
  · rw [squeezed_solid solid, joined_solid solid]
  · rw [squeezed_solid_append solid, squeezed_space space, joined_append solid space]

end

/-- **An argument is left alone, white space apart, exactly if no qualifier is enclosed in it.** -/
theorem stripped_eq_squeezed_iff (t : List Char) :
    stripped t = squeezed t ↔ ∀ w ∈ enclosedWords t, isQualifier w = false := by
  have weaker : ∀ w : List Char, (!w.isEmpty && !isQualifier w) = true → (!w.isEmpty) = true :=
    fun w both => (Bool.and_eq_true_iff.1 both).1
  have named : ∀ w : List Char, isQualifier w = true → w.isEmpty = false := by
    intro w qualifier
    rcases qualifier_cases qualifier with rfl | rfl
    all_goals rfl
  rw [stripped, squeezed_eq_joined, joined_eq_iff weaker]
  refine forall₂_congr (fun w _ => ?_)
  cases qualifier : isQualifier w with
  | false => simp
  | true => simp [named w qualifier]

/-! ## §2. Words around brackets. -/

/-- Words that count have a space in front. -/
theorem spaced_sense_solid {w : List Char} (solid : Solid w) :
    spaced (sense w) = if !w.isEmpty && !isQualifier w then ' ' :: w else [] := by
  by_cases none : w = []
  · subst none
    rfl
  · cases qualifier : isQualifier w with
    | true =>
      rw [sense_qualifier qualifier, if_neg (by simp)]
      rfl
    | false =>
      rw [sense_word solid none qualifier, if_pos (by simp [none]), spaced, List.flatMap_singleton]

/-- The text `behind` is what follows a delimiter once the words of `t` are set apart. -/
def FollowsDelimiter (t behind : List Char) : Prop :=
  ∀ x d, isDelimiter d = true → Solid x → spaced (sense (x ++ d :: t)) = ' ' :: (x ++ d :: behind)

/-- A delimiter is always part of a word that counts, so what follows does not depend on what is in front. -/
theorem exists_followsDelimiter (t : List Char) : ∃ behind, FollowsDelimiter t behind := by
  obtain ⟨w, rest, solid, first⟩ := exists_firstWord t
  refine ⟨w ++ spaced (sense rest), fun x d delimiter front => ?_⟩
  have whole := first (x ++ [d])
  simp only [List.append_assoc, List.singleton_append] at whole
  rw [whole, sense_delimited delimiter front solid]
  simp [spaced]

section

variable {t behind : List Char} (follows : FollowsDelimiter t behind)

include follows

/-- In front of a closing bracket the words are joined that are neither empty nor qualifiers. -/
theorem spaced_closing (s : List Char) : spaced (sense (s ++ '>' :: t)) =
    joinedBehind (fun w => !w.isEmpty && !isQualifier w) s ++ '>' :: behind := by
  induction s using spaced_induction with
  | solid w solid =>
    rw [follows w '>' rfl solid, joinedBehind_solid solid]
    rfl
  | spaced w c rest solid space ih =>
    rw [List.append_assoc, List.cons_append, sense_append_space _ _ space, spaced_append, ih,
      joinedBehind_append solid space, spaced_sense_solid solid, List.append_assoc]

/-- **Between brackets, enclosed qualifiers go, and white space becomes single spaces.** -/
theorem spaced_group {x : List Char} (front : Solid x) (g : List Char) :
    spaced (sense (x ++ '<' :: (g ++ '>' :: t))) = ' ' :: (x ++ '<' :: (stripped g ++ '>' :: behind)) := by
  rcases solid_or_spaced g with solid | ⟨w, c, rest, rfl, solid, space⟩
  · -- without white space the group is inside of one word
    have whole : Solid (x ++ '<' :: g) :=
      List.forall_mem_append.2 ⟨front, List.forall_mem_cons.2 ⟨by decide, solid⟩⟩
    have last := follows (x ++ '<' :: g) '>' rfl whole
    rw [stripped, joined_solid solid]
    simpa using last
  · -- the first word of the group goes with the opening bracket, the last one with the closing bracket
    have cut : x ++ '<' :: (w ++ c :: rest ++ '>' :: t) = (x ++ '<' :: w) ++ c :: (rest ++ '>' :: t) := by simp
    rw [cut, sense_append_space _ _ space, sense_delimited rfl front solid, spaced_append, spaced_closing follows,
      stripped, joined_append solid space]
    simp [spaced]

end

/-! ## §3. Stripping a type with arguments. -/

/-- What is left out of an argument has no brackets. -/
theorem brackets_joinedBehind {keep : List Char → Bool} (free : ∀ w, keep w = false → w.filter isBracket = [])
    (t : List Char) : (joinedBehind keep t).filter isBracket = t.filter isBracket := by
  induction t using spaced_induction with
  | solid w solid =>
    rw [joinedBehind_solid solid]
    rfl
  | spaced w c rest solid space ih =>
    rw [joinedBehind_append solid space, List.filter_append, List.filter_append, ih,
      List.filter_cons_of_neg (by simp [isBracket_space space])]
    congr 1
    cases kept : keep w with
    | true => rfl
    | false => exact (free w kept).symm

/-- Stripping takes no brackets away. -/
theorem brackets_stripped (t : List Char) : (stripped t).filter isBracket = t.filter isBracket := by
  have free : ∀ w : List Char, (!w.isEmpty && !isQualifier w) = false → w.filter isBracket = [] := by
    intro w out
    by_cases none : w = []
    · rw [none]
      rfl
    · have qualifier : isQualifier w = true := by simpa [none] using out
      have plain := notMem_qualifier (p := isBracket) (by decide) qualifier
      exact List.filter_eq_nil_iff.2 (fun c mem => by simp [plain c mem])
  rcases solid_or_spaced t with solid | ⟨w, c, rest, rfl, solid, space⟩
  · rw [stripped, joined_solid solid]
  · rw [stripped, joined_append solid space, List.filter_append, List.filter_append, brackets_joinedBehind free,
      List.filter_cons_of_neg (by simp [isBracket_space space])]

/-- The sense of a text without brackets has none. -/
theorem isBracket_spaced_sense {x : List Char} (solid : Solid x) (free : ∀ c ∈ x, isBracket c = false) :
    ∀ c ∈ spaced (sense x), isBracket c = false := by
  rw [spaced_sense_solid solid]
  split
  · exact List.forall_mem_cons.2 ⟨rfl, free⟩
  · exact List.forall_mem_nil _

namespace Grouped

variable {t u frame other : List Char} {groups others : List (List Char)}

/-- Setting the words of a text apart sets those of its frame apart, and strips its groups. -/
theorem spaced_sense (h : Grouped t frame groups) : ∀ x, Solid x → (∀ c ∈ x, isBracket c = false) →
    Grouped (spaced (sense (x ++ t))) (spaced (sense (x ++ frame))) (groups.map stripped) := by
  -- `x` is the word that is being read
  induction h with
  | nil =>
    intro x solid free
    rw [List.append_nil]
    exact of_plain (isBracket_spaced_sense solid free)
  | @char c t frame groups plain rest ih =>
    intro x solid free
    by_cases space : isSpace c = true
    · rw [sense_append_space x t space, sense_append_space x frame space, spaced_append, spaced_append]
      exact Grouped.plain (isBracket_spaced_sense solid free) (ih [] (List.forall_mem_nil _) (List.forall_mem_nil _))
    · have visible : isSpace c = false := by simpa using space
      have longer := ih (x ++ [c]) (List.forall_mem_append.2 ⟨solid, List.forall_mem_singleton.2 visible⟩)
        (List.forall_mem_append.2 ⟨free, List.forall_mem_singleton.2 plain⟩)
      rwa [List.append_assoc, List.append_assoc] at longer
  | @group g inner t frame parts groups inside rest _ ih =>
    intro x solid free
    obtain ⟨a, follows⟩ := exists_followsDelimiter t
    obtain ⟨b, follows'⟩ := exists_followsDelimiter frame
    -- what follows the group is what would follow a comma
    have comma := ih [','] (List.forall_mem_singleton.2 (by decide)) (List.forall_mem_singleton.2 rfl)
    rw [List.singleton_append, List.singleton_append, ← List.nil_append (',' :: t),
      ← List.nil_append (',' :: frame), follows [] ',' rfl (List.forall_mem_nil _),
      follows' [] ',' rfl (List.forall_mem_nil _)] at comma
    obtain ⟨_, same, comma⟩ := of_char rfl comma
    obtain rfl := (List.cons.inj same).2
    obtain ⟨_, same, behind⟩ := of_char rfl comma
    obtain rfl := (List.cons.inj same).2
    obtain ⟨_, _, argument⟩ := inside.of_brackets (brackets_stripped g)
    have emptied := spaced_group follows' solid []
    rw [List.nil_append] at emptied
    rw [spaced_group follows solid g, emptied]
    exact .char rfl (Grouped.plain free (.group argument behind))

/-- Without the first space. -/
theorem of_spaced {ws vs : List (List Char)} (h : Grouped (spaced ws) (spaced vs) groups) :
    Grouped (spaceOut ws) (spaceOut vs) groups := by
  -- a frame has words exactly if the text has, since both begin alike
  cases ws with
  | nil =>
    cases vs with
    | nil => exact h
    | cons v vs =>
      rw [spaced_cons] at h
      have none : Grouped [] (' ' :: spaceOut (v :: vs)) groups := h
      cases none
  | cons w ws =>
    rw [spaced_cons] at h
    obtain ⟨rest, same, tail⟩ := of_char rfl h
    cases vs with
    | nil => cases same
    | cons v vs =>
      rw [spaced_cons] at same
      rwa [(List.cons.inj same).2]

/-- **The frame of a type is stripped like a type of its own, and each argument by itself.** -/
theorem basicType (h : Grouped t frame groups) : Grouped (basicType t) (basicType frame) (groups.map stripped) := by
  have words := h.blank.spaced_sense [] (List.forall_mem_nil _) (List.forall_mem_nil _)
  exact of_spaced words

/-- Types that differ inside of their arguments have one basic type exactly if their arguments are stripped to the same
texts. -/
theorem basicType_eq_iff (one : Grouped t frame groups) (two : Grouped u frame others) :
    Declared.basicType t = Declared.basicType u ↔ groups.map stripped = others.map stripped := by
  have first := one.basicType
  have second := two.basicType
  constructor
  · intro same
    rw [same] at first
    exact (first.unique second).2
  · intro same
    rw [same] at first
    exact first.text_unique second

end Grouped

/-! ## §4. Signatures. -/

/-- The types differ inside of template arguments only. -/
def SameOutside (s u : String) : Prop :=
  ∃ frame groups others, Grouped s.toList frame groups ∧ Grouped u.toList frame others

/-- The types differ in the white space of template arguments and in the qualifiers that are enclosed there only. -/
def SameArguments (s u : String) : Prop :=
  ∃ frame groups others, Grouped s.toList frame groups ∧ Grouped u.toList frame others ∧
    groups.map stripped = others.map stripped

/-- **Which arguments make one basic type**, for types that are alike outside of their arguments. -/
theorem basicTypeText_eq_iff {s u : String} (alike : SameOutside s u) :
    basicTypeText s = basicTypeText u ↔ SameArguments s u := by
  obtain ⟨frame, groups, others, one, two⟩ := alike
  have lists : basicTypeText s = basicTypeText u ↔ groups.map stripped = others.map stripped := by
    rw [← one.basicType_eq_iff two, basicTypeText, basicTypeText, String.ofList_inj]
  rw [lists]
  constructor
  · intro same
    exact ⟨frame, groups, others, one, two, same⟩
  · rintro ⟨_, _, _, one', two', same⟩
    obtain ⟨rfl, rfl⟩ := one.unique one'
    obtain ⟨-, rfl⟩ := two.unique two'
    exact same

/-- Functions that differ inside of template arguments have one signature exactly if they differ in white space and
enclosed qualifiers only. -/
theorem signature_eq_iff {d e : Declaration} (name : d.name = e.name) (const : d.isConst = e.isConst)
    (alike : List.Forall₂ (fun p q => SameOutside p.type q.type) d.parameters e.parameters) :
    d.signature = e.signature ↔ List.Forall₂ (fun p q => SameArguments p.type q.type) d.parameters e.parameters := by
  have types : ∀ {ps qs : List Parameter}, List.Forall₂ (fun p q => SameOutside p.type q.type) ps qs →
      (ps.map (·.basicType) = qs.map (·.basicType) ↔ List.Forall₂ (fun p q => SameArguments p.type q.type) ps qs) := by
    intro ps qs alike
    induction alike with
    | nil => simp
    | cons here _ ih =>
      rw [List.map_cons, List.map_cons, List.cons.injEq, List.forall₂_cons, ih]
      exact and_congr_left' (basicTypeText_eq_iff here)
  rw [← types alike, Declaration.signature, Declaration.signature, name, const, Prod.mk.injEq, Prod.mk.injEq]
  simp [Declaration.basicTypes]

/-! ## §5. Template arguments. -/

/-- **What becomes of template arguments.**  Each argument stays in its place, with single spaces and without the
qualifiers that are enclosed in it; it is left alone exactly if there are none.  So functions that differ inside of
template arguments have one signature exactly if they differ there in white space and enclosed qualifiers only. -/
theorem basicType_arguments {t frame : List Char} {groups : List (List Char)} (grouped : Grouped t frame groups) :
    Grouped (basicType t) (basicType frame) (groups.map stripped) ∧
      (Grouped (basicType t) (basicType frame) (groups.map squeezed) ↔
        ∀ g ∈ groups, ∀ w ∈ enclosedWords g, w ≠ "const".toList ∧ w ≠ "volatile".toList) ∧
      ∀ d e : Declaration, d.name = e.name → d.isConst = e.isConst →
        List.Forall₂ (fun p q => SameOutside p.type q.type) d.parameters e.parameters →
        (d.signature = e.signature ↔
          List.Forall₂ (fun p q => SameArguments p.type q.type) d.parameters e.parameters) := by
  refine ⟨grouped.basicType, ?_, fun d e name const alike => signature_eq_iff name const alike⟩
  have plain : ∀ w : List Char, isQualifier w = false ↔ w ≠ "const".toList ∧ w ≠ "volatile".toList := by
    intro w
    simp [isQualifier]
  -- groups that stand in the same frame are the same
  calc Grouped (basicType t) (basicType frame) (groups.map squeezed)
    _ ↔ groups.map stripped = groups.map squeezed :=
      ⟨fun kept => (grouped.basicType.unique kept).2, fun same => same ▸ grouped.basicType⟩
    _ ↔ ∀ g ∈ groups, stripped g = squeezed g := List.map_inj_left
    _ ↔ ∀ g ∈ groups, ∀ w ∈ enclosedWords g, w ≠ "const".toList ∧ w ≠ "volatile".toList := by
      simp only [stripped_eq_squeezed_iff, plain]

/-- A function with one parameter of the given type. -/
def functionTaking (type : String) : Declaration :=
  { (default : Declaration) with kind := .function, name := "Add", parameters := [⟨"items", type⟩] }

/-- A list type, taken apart. -/
theorem grouped_list {g : List Char} (free : ∀ c ∈ g, isBracket c = false) :
    Grouped ("QList<".toList ++ (g ++ ['>'])) "QList<>".toList [g] :=
  Grouped.plain (x := "QList".toList) (forall_of_any (by decide)) (.group (.of_plain free) .nil)

/-- A qualifier at the start of an argument is kept, whatever white space follows it. -/
theorem basicType_arguments_constEntity :
    Grouped "QList<const  Entity *>".toList "QList<>".toList ["const  Entity *".toList] ∧
      Grouped (basicType "QList<const  Entity *>".toList) (basicType "QList<>".toList)
        (["const  Entity *".toList].map squeezed) ∧
      (functionTaking "QList<const  Entity *>").signature ≠ (functionTaking "QList<Entity *>").signature := by
  have grouped : Grouped "QList<const  Entity *>".toList "QList<>".toList ["const  Entity *".toList] :=
    grouped_list (g := "const  Entity *".toList) (forall_of_any (by decide))
  have other : Grouped "QList<Entity *>".toList "QList<>".toList ["Entity *".toList] :=
    grouped_list (g := "Entity *".toList) (forall_of_any (by decide))
  refine ⟨grouped, (basicType_arguments grouped).2.1.2 (by decide), fun same => ?_⟩
  have arguments := ((basicType_arguments grouped).2.2 (functionTaking "QList<const  Entity *>")
    (functionTaking "QList<Entity *>") rfl rfl (.cons ⟨_, _, _, grouped, other⟩ .nil)).1 same
  cases arguments with
  | cons here =>
    obtain ⟨_, _, _, one, two, stripped⟩ := here
    rw [(one.unique grouped).2, (two.unique other).2] at stripped
    exact absurd stripped (by decide)

/-- A qualifier inside of an argument is lost, and two functions that differ there only have one signature. -/
theorem basicType_entityConst :
    basicType "QList<Entity const *>".toList = "QList<Entity *>".toList ∧
      ¬ (∀ t frame groups, Grouped t frame groups →
        Grouped (basicType t) (basicType frame) (groups.map squeezed)) ∧
      (functionTaking "QList<Entity const *>").signature = (functionTaking "QList<Entity *>").signature := by
  have grouped : Grouped "QList<Entity const *>".toList "QList<>".toList ["Entity const *".toList] :=
    grouped_list (g := "Entity const *".toList) (forall_of_any (by decide))
  have lost : basicType "QList<Entity const *>".toList = "QList<Entity *>".toList := by decide
  refine ⟨lost, fun claim => ?_, by decide⟩
  have same := (grouped.basicType.unique (claim _ _ _ grouped)).2
  exact absurd same (by decide)

end ScriptBridge.Declared

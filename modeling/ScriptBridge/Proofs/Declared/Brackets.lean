import ScriptBridge.Proofs.Declared.Sense

/-!
# ScriptBridge.Proofs.Declared.Brackets

Texts whose angle brackets are balanced.

`Grouped` is the grammar of these texts.  It cuts a text at its outermost pairs of brackets: the *groups* are the texts
between them, and the *frame* is the text with all groups emptied, so that `QList<Entity *> &` has the frame
`QList<> &` and the group `Entity *`.  What looks outside of brackets only sees the frame.

Main results:
  * `Grouped.unique` - a text has one frame and one list of groups;
  * `exists_grouped_iff` - the texts of the grammar are those in which counting brackets never fails;
  * `Grouped.of_brackets` - whether brackets are balanced is a matter of the brackets;
  * `Grouped.depthBehind`, `Grouped.outsideBrackets` - the depth behind a balanced text, and what is outside.
-/

namespace ScriptBridge.Declared

open ScriptBridge.Text

/-! ## §1. The grammar. -/

/-- Angle brackets. -/
def isBracket (c : Char) : Bool :=
  c == '<' || c == '>'

/-- The brackets of a text are balanced, with this frame and these groups. -/
inductive Grouped : List Char → List Char → List (List Char) → Prop
  | nil : Grouped [] [] []
  | char {c : Char} {t frame : List Char} {groups : List (List Char)} (plain : isBracket c = false)
      (rest : Grouped t frame groups) : Grouped (c :: t) (c :: frame) groups
  | group {g inner t frame : List Char} {parts groups : List (List Char)} (inside : Grouped g inner parts)
      (rest : Grouped t frame groups) : Grouped ('<' :: (g ++ '>' :: t)) ('<' :: '>' :: frame) (g :: groups)

/-- The frame without the brackets of its groups: the text with its bracket groups deleted. -/
def withoutBrackets (frame : List Char) : List Char :=
  frame.filter (fun c => !isBracket c)

theorem isBracket_eq_false_iff {c : Char} : isBracket c = false ↔ c ≠ '<' ∧ c ≠ '>' := by
  simp [isBracket]

/-- White space is no bracket. -/
theorem isBracket_space {c : Char} (h : isSpace c = true) : isBracket c = false := by
  obtain ⟨-, opening, closing, -⟩ := space_classes h
  exact isBracket_eq_false_iff.2 ⟨opening, closing⟩

/-- Other characters keep the depth. -/
theorem depthAfter_noBracket {c : Char} (plain : isBracket c = false) (depth : Nat) : depthAfter depth c = depth := by
  obtain ⟨opening, closing⟩ := isBracket_eq_false_iff.1 plain
  rw [depthAfter, if_neg opening, if_neg closing]

/-- Whether no bracket is closed that has not been opened, and none is left open, `depth` brackets being open at the
start. -/
def closesBrackets (depth : Nat) : List Char → Bool
  | [] => depth == 0
  | c :: rest => if depth = 0 ∧ c = '>' then false else closesBrackets (depthAfter depth c) rest

section

variable (depth : Nat) (s : List Char)

theorem depthBehind_opening : depthBehind depth ('<' :: s) = depthBehind (depth + 1) s := rfl

theorem depthBehind_closing : depthBehind (depth + 1) ('>' :: s) = depthBehind depth s := rfl

/-- Blanking goes on one bracket further in. -/
theorem blankIndirections_opening : blankIndirections depth ('<' :: s) = '<' :: blankIndirections (depth + 1) s := by
  rw [blankIndirections, if_neg (fun both => by cases both.2)]
  rfl

theorem blankIndirections_closing : blankIndirections (depth + 1) ('>' :: s) = '>' :: blankIndirections depth s := rfl

/-- Nothing inside of a bracket is outside of brackets. -/
theorem outsideBrackets_opening : outsideBrackets depth ('<' :: s) = outsideBrackets (depth + 1) s := by
  rw [outsideBrackets, if_neg (fun all => all.2.1 rfl)]
  rfl

theorem outsideBrackets_closing : outsideBrackets (depth + 1) ('>' :: s) = outsideBrackets depth s := rfl

/-- An opening bracket has to be closed later. -/
theorem closesBrackets_opening : closesBrackets depth ('<' :: s) = closesBrackets (depth + 1) s := by
  rw [closesBrackets, if_neg (fun both => by cases both.2)]
  rfl

theorem closesBrackets_closing : closesBrackets (depth + 1) ('>' :: s) = closesBrackets depth s := rfl

end

/-- What stands outside of brackets in two texts, with the brackets of the first counted for the second. -/
theorem outsideBrackets_append (depth : Nat) (x y : List Char) :
    outsideBrackets depth (x ++ y) = outsideBrackets depth x ++ outsideBrackets (depthBehind depth x) y := by
  induction x generalizing depth with
  | nil => rfl
  | cons c x ih =>
    rw [List.cons_append, outsideBrackets, outsideBrackets, ih]
    split <;> rfl

namespace Grouped

variable {t u frame other x : List Char} {groups others : List (List Char)} {c : Char}

/-- A text without brackets in front. -/
theorem plain (free : ∀ c ∈ x, isBracket c = false) (rest : Grouped t frame groups) :
    Grouped (x ++ t) (x ++ frame) groups := by
  induction x with
  | nil => exact rest
  | cons c x ih =>
    obtain ⟨here, later⟩ := List.forall_mem_cons.1 free
    exact .char here (ih later)

/-- A text without brackets is its own frame. -/
theorem of_plain (free : ∀ c ∈ x, isBracket c = false) : Grouped x x [] := by
  simpa using plain free .nil

/-- Two texts with their groups, one behind the other. -/
theorem append (front : Grouped t frame groups) (back : Grouped u other others) :
    Grouped (t ++ u) (frame ++ other) (groups ++ others) := by
  induction front with
  | nil => exact back
  | char plain _ ih => exact .char plain ih
  | group inside _ _ ih =>
    rw [List.cons_append, List.append_assoc]
    exact .group inside ih

/-- A character in front that is no bracket belongs to the frame. -/
theorem of_char (plain : isBracket c = false) (h : Grouped (c :: t) frame groups) :
    ∃ rest, frame = c :: rest ∧ Grouped t rest groups := by
  cases h with
  | char _ rest => exact ⟨_, rfl, rest⟩
  | group => cases plain

/-- A character in front of the frame that is no bracket stands in front of the text. -/
theorem of_char_frame (plain : isBracket c = false) (h : Grouped t (c :: frame) groups) :
    ∃ rest, t = c :: rest ∧ Grouped rest frame groups := by
  cases h with
  | char _ rest => exact ⟨_, rfl, rest⟩
  | group => cases plain

/-- An opening bracket in front begins a group. -/
theorem of_opening (h : Grouped ('<' :: t) frame groups) : ∃ g inner parts rest back more,
    t = g ++ '>' :: rest ∧ frame = '<' :: '>' :: back ∧ groups = g :: more ∧
      Grouped g inner parts ∧ Grouped rest back more := by
  generalize whole : '<' :: t = s at h
  cases h with
  | nil => cases whole
  | char plain =>
    cases whole
    cases plain
  | group inside rest =>
    cases whole
    exact ⟨_, _, _, _, _, _, rfl, rfl, rfl, inside, rest⟩

/-! ## §2. Scanning. -/

/-- The depth behind a balanced text is that in front of it. -/
theorem depthBehind (h : Grouped t frame groups) (depth : Nat) : depthBehind depth t = depth := by
  induction h generalizing depth with
  | nil => rfl
  | char plain _ ih =>
    rw [Declared.depthBehind, List.foldl_cons, depthAfter_noBracket plain]
    exact ih depth
  | @group g _ t _ _ _ _ _ inside behind =>
    rw [depthBehind_opening, depthBehind_append, inside, depthBehind_closing, behind]

/-- Inside of brackets nothing is blanked. -/
theorem blank_inside (h : Grouped t frame groups) (depth : Nat) : blankIndirections (depth + 1) t = t := by
  induction h generalizing depth with
  | nil => rfl
  | char plain _ ih => rw [blankIndirections, if_neg (by simp), depthAfter_noBracket plain, ih]
  | @group g _ t _ _ _ front _ inside behind =>
    rw [blankIndirections_opening, blankIndirections_append, inside, front.depthBehind, blankIndirections_closing,
      behind]

/-- Blanking signs outside of brackets blanks them in the frame. -/
theorem blank (h : Grouped t frame groups) :
    Grouped (blankIndirections 0 t) (blankIndirections 0 frame) groups := by
  induction h with
  | nil => exact .nil
  | @char c _ _ _ plain _ ih =>
    rw [blankIndirections, blankIndirections, depthAfter_noBracket plain]
    refine .char ?_ ih
    split
    · rfl
    · exact plain
  | @group g _ t frame _ _ inside _ _ ih =>
    rw [blankIndirections_opening, blankIndirections_opening, blankIndirections_closing, blankIndirections_append,
      inside.blank_inside, inside.depthBehind, blankIndirections_closing]
    exact .group inside ih

/-- Nothing inside of brackets is outside. -/
theorem outsideBrackets_inside (h : Grouped t frame groups) (depth : Nat) : outsideBrackets (depth + 1) t = [] := by
  induction h generalizing depth with
  | nil => rfl
  | char plain _ ih => rw [Declared.outsideBrackets, if_neg (by simp), depthAfter_noBracket plain, ih]
  | @group g _ t _ _ _ front _ inside behind =>
    rw [outsideBrackets_opening, outsideBrackets_append, inside, front.depthBehind, outsideBrackets_closing, behind]
    rfl

/-- What is outside of brackets is the frame without its brackets. -/
theorem outsideBrackets (h : Grouped t frame groups) : outsideBrackets 0 t = withoutBrackets frame := by
  induction h with
  | nil => rfl
  | @char c _ _ _ plain _ ih =>
    rw [Declared.outsideBrackets, if_pos ⟨rfl, isBracket_eq_false_iff.1 plain⟩, depthAfter_noBracket plain, ih,
      withoutBrackets, withoutBrackets, List.filter_cons_of_pos (by simp [plain])]
  | @group g _ t _ _ _ inside _ _ ih =>
    rw [outsideBrackets_opening, outsideBrackets_append, inside.outsideBrackets_inside, inside.depthBehind,
      outsideBrackets_closing, ih]
    rfl

/-! ## §3. One reading. -/

/-- A balanced text closes the brackets that it opens, and no others. -/
theorem closesBrackets_append (h : Grouped t frame groups) (depth : Nat) (rest : List Char) :
    closesBrackets depth (t ++ rest) = closesBrackets depth rest := by
  induction h generalizing depth rest with
  | nil => rfl
  | char plain _ ih =>
    obtain ⟨-, closing⟩ := isBracket_eq_false_iff.1 plain
    rw [List.cons_append, closesBrackets, if_neg (fun both => closing both.2), depthAfter_noBracket plain, ih]
  | @group g _ t _ _ _ _ _ inside behind =>
    rw [List.cons_append, List.append_assoc, List.cons_append, closesBrackets_opening, inside, closesBrackets_closing,
      behind]

/-- A text that is taken apart into groups closes its brackets. -/
theorem closesBrackets (h : Grouped t frame groups) : closesBrackets 0 t = true := by
  rw [← List.append_nil t, h.closesBrackets_append]
  rfl

/-- No balanced text goes on with a closing bracket behind a balanced text. -/
theorem closing_notMem {rest : List Char} (front : Grouped t frame groups)
    (whole : Grouped (t ++ '>' :: rest) other others) : False := by
  have stopped : Declared.closesBrackets 0 (t ++ '>' :: rest) = false := by
    rw [front.closesBrackets_append, Declared.closesBrackets, if_pos ⟨rfl, rfl⟩]
  rw [whole.closesBrackets] at stopped
  cases stopped

/-- A closing bracket ends one balanced text. -/
theorem closing_unique {rest rest' : List Char} (one : Grouped t frame groups) (two : Grouped u other others)
    (same : t ++ '>' :: rest = u ++ '>' :: rest') : t = u ∧ rest = rest' := by
  -- otherwise one of the texts goes on with the bracket that closes the other one
  rcases List.append_eq_append_iff.1 same with ⟨more, rfl, tail⟩ | ⟨more, rfl, tail⟩
  · cases more with
    | nil => exact ⟨(List.append_nil t).symm, (List.cons.inj tail).2⟩
    | cons c more =>
      obtain rfl := (List.cons.inj tail).1
      exact (closing_notMem one two).elim
  · cases more with
    | nil => exact ⟨List.append_nil u, (List.cons.inj tail).2.symm⟩
    | cons c more =>
      obtain rfl := (List.cons.inj tail).1
      exact (closing_notMem two one).elim

/-- **A text has one frame and one list of groups.** -/
theorem unique (one : Grouped t frame groups) (two : Grouped t other others) : frame = other ∧ groups = others := by
  induction one generalizing other others with
  | nil =>
    cases two with
    | nil => exact ⟨rfl, rfl⟩
  | char plain _ ih =>
    obtain ⟨back, rfl, rest⟩ := of_char plain two
    obtain ⟨rfl, rfl⟩ := ih rest
    exact ⟨rfl, rfl⟩
  | group inside _ _ ih =>
    obtain ⟨g, inner, parts, rest, back, more, same, rfl, rfl, inside', behind⟩ := of_opening two
    -- both readings close the group at the same bracket
    obtain ⟨rfl, rfl⟩ := closing_unique inside inside' same
    obtain ⟨rfl, rfl⟩ := ih behind
    exact ⟨rfl, rfl⟩

/-- The frame and the groups make the text. -/
theorem text_unique (one : Grouped t frame groups) (two : Grouped u frame groups) : t = u := by
  induction one generalizing u with
  | nil =>
    cases two with
    | nil => rfl
  | char plain _ ih =>
    obtain ⟨rest, rfl, behind⟩ := of_char_frame plain two
    rw [ih behind]
  | group _ _ _ ih =>
    cases two with
    | char plain => cases plain
    | group _ rest => rw [ih rest]

/-- **Whether brackets are balanced is a matter of the brackets.** -/
theorem of_brackets (h : Grouped t frame groups) (same : u.filter isBracket = t.filter isBracket) :
    ∃ other others, Grouped u other others := by
  induction h generalizing u with
  | nil =>
    have free : ∀ c ∈ u, isBracket c = false := by
      intro c mem
      simpa using List.filter_eq_nil_iff.1 same c mem
    exact ⟨u, [], of_plain free⟩
  | char plain _ ih =>
    rw [List.filter_cons_of_neg (by simp [plain])] at same
    exact ih same
  | @group g _ t _ _ _ _ _ inside behind =>
    rw [List.filter_cons_of_pos rfl, List.filter_append, List.filter_cons_of_pos rfl] at same
    obtain ⟨front, s, rfl, none, -, same⟩ := List.filter_eq_cons_iff.1 same
    obtain ⟨g', s, rfl, inner, same⟩ := List.filter_eq_append_iff.1 same
    obtain ⟨between, t', rfl, none', -, same⟩ := List.filter_eq_cons_iff.1 same
    -- what is between the group and its closing bracket goes to the group
    have within : (g' ++ between).filter isBracket = g.filter isBracket := by
      rw [List.filter_append, inner, List.filter_eq_nil_iff.2 none', List.append_nil]
    obtain ⟨_, _, inside⟩ := inside within
    obtain ⟨back, more, behind⟩ := behind same
    have free : ∀ c ∈ front, isBracket c = false := fun c mem => by simpa using none c mem
    have whole := plain free (.group inside behind)
    rw [List.append_assoc] at whole
    exact ⟨_, _, whole⟩

end Grouped

/-! ## §4. Every balanced text has a reading. -/

/-- A text that closes one bracket too many has a balanced text in front of that bracket. -/
theorem exists_closing (depth : Nat) : ∀ t, closesBrackets (depth + 1) t = true → ∃ g rest, t = g ++ '>' :: rest ∧
    (∃ frame groups, Grouped g frame groups) ∧ closesBrackets depth rest = true
  | [], h => by cases h
  | c :: t, h => by
    have next : closesBrackets (depthAfter (depth + 1) c) t = true := by
      rwa [closesBrackets, if_neg (by simp)] at h
    by_cases opening : c = '<'
    · -- the bracket that is opened here is closed first
      subst opening
      obtain ⟨g, rest, rfl, ⟨_, _, inside⟩, next⟩ := exists_closing (depth + 1) t next
      obtain ⟨g', rest', rfl, ⟨_, _, behind⟩, next⟩ := exists_closing depth rest next
      exact ⟨'<' :: (g ++ '>' :: g'), rest', by simp, ⟨_, _, .group inside behind⟩, next⟩
    · by_cases closing : c = '>'
      · subst closing
        exact ⟨[], t, rfl, ⟨_, _, .nil⟩, next⟩
      · have plain : isBracket c = false := isBracket_eq_false_iff.2 ⟨opening, closing⟩
        rw [depthAfter_noBracket plain] at next
        obtain ⟨g, rest, rfl, ⟨_, _, inside⟩, next⟩ := exists_closing depth t next
        exact ⟨c :: g, rest, rfl, ⟨_, _, .char plain inside⟩, next⟩
termination_by t => t.length

/-- Every text that closes its brackets can be taken apart into groups. -/
theorem exists_grouped : ∀ t, closesBrackets 0 t = true → ∃ frame groups, Grouped t frame groups
  | [], _ => ⟨_, _, .nil⟩
  | c :: t, h => by
    by_cases closing : c = '>'
    · subst closing
      cases h
    · have next : closesBrackets (depthAfter 0 c) t = true := by
        rwa [closesBrackets, if_neg (fun both => closing both.2)] at h
      by_cases opening : c = '<'
      · subst opening
        obtain ⟨g, rest, rfl, ⟨_, _, inside⟩, next⟩ := exists_closing 0 t next
        obtain ⟨_, _, behind⟩ := exists_grouped rest next
        exact ⟨_, _, .group inside behind⟩
      · have plain : isBracket c = false := isBracket_eq_false_iff.2 ⟨opening, closing⟩
        rw [depthAfter_noBracket plain] at next
        obtain ⟨_, _, behind⟩ := exists_grouped t next
        exact ⟨_, _, .char plain behind⟩
termination_by t => t.length

/-- **The grammar has exactly the texts that close the brackets which they open.** -/
theorem exists_grouped_iff (t : List Char) :
    (∃ frame groups, Grouped t frame groups) ↔ closesBrackets 0 t = true :=
  ⟨fun ⟨_, _, h⟩ => h.closesBrackets, exists_grouped t⟩

end ScriptBridge.Declared

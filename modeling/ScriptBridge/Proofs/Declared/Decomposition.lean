import ScriptBridge.Proofs.Declared.Brackets
import ScriptBridge.Proofs.Declared.TypeGrammar

/-!
# ScriptBridge.Proofs.Declared.Decomposition

A declared type falls into its basic type and the way in which it is passed.

A text is a basic type of itself if it has no reference or pointer sign outside of brackets, and its words, none of
them a qualifier, are set apart by single spaces.  Stripping leads to such a text in one step, also where brackets
are not balanced: what it takes away are signs outside of brackets, white space and qualifiers, and none of these
changes the depth of what follows.

The two readings of a declared type scan its brackets each on its own.  On a balanced text they agree on what is
outside, and so a type that is decorated as parameters are keeps its basic type and is passed as its decoration says.

Main results:
  * `blankIndirections_basicType`, `basicType_basicType` - stripping is done in one step;
  * `ParameterForm.basicType_text`, `ParameterForm.passing_text` - decorating a type;
  * `declaredType_decomposes` - all of this together.
-/

namespace ScriptBridge.Declared

open ScriptBridge.Text

/-! ## §1. Stripping. -/

theorem blankIndirections_idem (depth : Nat) (t : List Char) :
    blankIndirections depth (blankIndirections depth t) = blankIndirections depth t := by
  induction t generalizing depth with
  | nil => rfl
  | cons c t ih =>
    rw [blankIndirections]
    by_cases sign : depth = 0 ∧ isIndirection c = true
    · have same : depthAfter depth c = depth := depthAfter_plain (isDelimiter_separator (isSeparator_sign sign.2)) depth
      rw [if_pos sign, same, blankIndirections_space (by decide), ih]
    · rw [if_neg sign, blankIndirections, if_neg sign, ih]

/-- Where nothing is left to blank, there is no sign outside of brackets. -/
theorem isIndirection_outside {depth : Nat} {t : List Char} (settled : blankIndirections depth t = t) :
    ∀ c ∈ outsideBrackets depth t, isIndirection c = false := by
  induction t generalizing depth with
  | nil => exact List.forall_mem_nil _
  | cons c t ih =>
    obtain ⟨here, later⟩ := List.cons.inj settled
    rw [outsideBrackets]
    split
    next outer =>
      refine List.forall_mem_cons.2 ⟨?_, ih later⟩
      rw [Bool.eq_false_iff]
      intro sign
      rw [if_pos ⟨outer.1, sign⟩] at here
      rw [← here] at sign
      cases sign
    next => exact ih later

/-- Words that count have the brackets of their text. -/
theorem depthBehind_spaced_solid {w : List Char} (solid : Solid w) (depth : Nat) :
    depthBehind depth (spaced (sense w)) = depthBehind depth w := by
  rcases sense_solid solid with one | ⟨none, rfl | qualifier⟩
  · rw [one, spaced, List.flatMap_singleton]
    rfl
  · rfl
  · rw [none]
    rcases qualifier_cases qualifier with rfl | rfl
    all_goals rfl

/-- **Taking words out and setting them apart leaves nothing to blank.**  Qualifiers and white space have no brackets,
so every sign stays at its depth. -/
theorem blankIndirections_spaced {depth : Nat} {t : List Char} (settled : blankIndirections depth t = t) :
    blankIndirections depth (spaced (sense t)) = spaced (sense t) := by
  have word : ∀ {depth : Nat} {w : List Char}, Solid w → blankIndirections depth w = w →
      blankIndirections depth (spaced (sense w)) = spaced (sense w) := by
    intro depth w solid settled
    rcases sense_solid solid with one | ⟨none, -⟩
    · rw [one, spaced, List.flatMap_singleton, blankIndirections_space (by decide), settled]
    · rw [none]
      rfl
  induction t using spaced_induction generalizing depth with
  | solid w solid => exact word solid settled
  | spaced w c rest solid space ih =>
    -- blanking keeps lengths, so both sides of the first white space are settled by themselves
    rw [blankIndirections_append, blankIndirections_space space] at settled
    obtain ⟨front, back⟩ := List.append_inj settled (length_blankIndirections depth w)
    rw [sense_append_space w rest space, spaced_append, blankIndirections_append, word solid front,
      depthBehind_spaced_solid solid, ih (List.cons.inj back).2]

/-- No reference or pointer sign of a basic type is outside of brackets. -/
theorem blankIndirections_basicType (ty : List Char) : blankIndirections 0 (basicType ty) = basicType ty := by
  have settled : blankIndirections 0 (spaced (basicWords ty)) = spaced (basicWords ty) :=
    blankIndirections_spaced (blankIndirections_idem 0 ty)
  rw [basicType_eq]
  cases list : basicWords ty with
  | nil => rfl
  | cons w ws =>
    rw [list, spaced_cons, blankIndirections_space (by decide)] at settled
    exact (List.cons.inj settled).2

/-- A basic type is the basic type of itself. -/
theorem basicType_basicType (ty : List Char) : basicType (basicType ty) = basicType ty := by
  have words : basicWords (basicType ty) = basicWords ty := by
    rw [basicWords_eq, blankIndirections_basicType, basicType_eq, sense_spaceOut, basicWords_eq, flatMap_sense]
  rw [basicType_eq, words, ← basicType_eq]

/-- The words of a basic type. -/
theorem basicWords_classes {ty w : List Char} (mem : w ∈ basicWords ty) :
    w ≠ [] ∧ Solid w ∧ w ≠ "const".toList ∧ w ≠ "volatile".toList := by
  obtain ⟨word, counts⟩ := List.mem_filter.1 mem
  obtain ⟨piece, nonempty⟩ := List.mem_filter.1 word
  refine ⟨by simpa using nonempty, fun c inside => (of_mem_splitOnP piece inside).2, ?_⟩
  simpa [isQualifier] using counts

/-! ## §2. Parameters of a type. -/

/-- The ways in which a parameter of a type is declared. -/
inductive ParameterForm where
  /-- `T` -/
  | plain
  /-- `const T &` -/
  | constReference
  /-- `const T *` -/
  | constPointer
  /-- `T const &` -/
  | trailingConstReference
  /-- `volatile T` -/
  | volatile
  /-- `T &` -/
  | reference
  /-- `T *` -/
  | pointer
  deriving DecidableEq, Repr

namespace ParameterForm

/-- What stands in front of the type. -/
def front : ParameterForm → List Char
  | constReference | constPointer => "const ".toList
  | volatile => "volatile ".toList
  | plain | trailingConstReference | reference | pointer => []

/-- What stands behind the type. -/
def back : ParameterForm → List Char
  | constReference | reference => " &".toList
  | constPointer | pointer => " *".toList
  | trailingConstReference => " const &".toList
  | plain | volatile => []

/-- The type declared in this form. -/
def text (form : ParameterForm) (t : List Char) : List Char :=
  form.front ++ (t ++ form.back)

/-- How a parameter of this form is passed. -/
def passing : ParameterForm → Passing
  | plain | volatile => .value
  | constReference | constPointer | trailingConstReference => .shared
  | reference | pointer => .exclusive

theorem basicWords_front (form : ParameterForm) (y : List Char) : basicWords (form.front ++ y) = basicWords y := by
  have qualified : ∀ w : List Char, isQualifier w = true → basicWords (w ++ ' ' :: y) = basicWords y := by
    intro w qualifier
    rw [basicWords_append (isLevel_qualifier qualifier) (by decide), basicWords_qualifier qualifier, List.nil_append]
  cases form with
  | constReference | constPointer => exact qualified "const".toList rfl
  | volatile => exact qualified "volatile".toList rfl
  | plain | trailingConstReference | reference | pointer => rfl

theorem basicWords_back (form : ParameterForm) {x : List Char} (closed : depthBehind 0 x = 0) :
    basicWords (x ++ form.back) = basicWords x := by
  have decorated : ∀ y : List Char, basicWords y = [] → basicWords (x ++ ' ' :: y) = basicWords x := by
    intro y none
    rw [basicWords_append_closed closed (by decide), none, List.append_nil]
  cases form with
  | constReference | reference => exact decorated "&".toList (by decide)
  | constPointer | pointer => exact decorated "*".toList (by decide)
  | trailingConstReference => exact decorated "const &".toList (by decide)
  | plain | volatile => exact congrArg basicWords (List.append_nil x)

/-- The decoration does not count for the basic type. -/
theorem basicType_text (form : ParameterForm) {t : List Char} (closed : depthBehind 0 t = 0) :
    basicType (form.text t) = basicType t := by
  rw [basicType_eq, text, basicWords_front, basicWords_back form closed, basicType_eq]

end ParameterForm

/-! ## §3. Passing. -/

/-- Whether `const` is a word of the text that is outside of brackets; reference and pointer signs part words too. -/
def namesConst (outer : List Char) : Bool :=
  (outer.splitOnP isSeparator).contains "const".toList

theorem passing_eq (ty : List Char) : passing ty =
    if (outsideBrackets 0 ty).any isIndirection then
      (if namesConst (outsideBrackets 0 ty) then .shared else .exclusive)
    else .value := rfl

theorem namesConst_append {x : List Char} (y : List Char) {c : Char} (sign : isSeparator c = true) :
    namesConst (x ++ c :: y) = (namesConst x || namesConst y) := by
  rw [namesConst, List.splitOnP_append_cons x y sign, List.contains_eq_any_beq, List.any_append,
    ← List.contains_eq_any_beq, ← List.contains_eq_any_beq]
  rfl

theorem splitOnP_congr {p q : Char → Bool} {s : List Char} (same : ∀ c ∈ s, p c = q c) :
    s.splitOnP p = s.splitOnP q := by
  induction s with
  | nil => rfl
  | cons c s ih =>
    obtain ⟨here, later⟩ := List.forall_mem_cons.1 same
    rw [List.splitOnP_cons_eq_if_modifyHead, List.splitOnP_cons_eq_if_modifyHead, here, ih later]

/-- Without signs, words are parted by white space only. -/
theorem namesConst_eq_false {outer : List Char} (signFree : ∀ c ∈ outer, isIndirection c = false)
    (free : "const".toList ∉ words outer) : namesConst outer = false := by
  have pieces : outer.splitOnP isSeparator = outer.splitOnP isSpace :=
    splitOnP_congr (fun c mem => by rw [isSeparator, signFree c mem, Bool.or_false])
  rw [namesConst, pieces, Bool.eq_false_iff]
  intro known
  exact free (List.mem_filter.2 ⟨List.contains_iff_mem.1 known, rfl⟩)

namespace ParameterForm

theorem namesConst_front (form : ParameterForm) (y : List Char) :
    namesConst (form.front ++ y) = (namesConst form.front || namesConst y) := by
  have qualified : ∀ w : List Char, namesConst (w ++ ' ' :: y) = (namesConst (w ++ [' ']) || namesConst y) := by
    intro w
    rw [namesConst_append y (by decide), namesConst_append [] (by decide), Bool.or_assoc]
    rfl
  cases form with
  | constReference | constPointer => exact qualified "const".toList
  | volatile => exact qualified "volatile".toList
  | plain | trailingConstReference | reference | pointer => rfl

theorem namesConst_back (form : ParameterForm) (x : List Char) :
    namesConst (x ++ form.back) = (namesConst x || namesConst form.back) := by
  have decorated : ∀ y : List Char, namesConst (x ++ ' ' :: y) = (namesConst x || namesConst (' ' :: y)) := by
    intro y
    rw [namesConst_append y (by decide), ← List.nil_append (' ' :: y), namesConst_append y (by decide)]
    rfl
  cases form with
  | constReference | reference => exact decorated "&".toList
  | constPointer | pointer => exact decorated "*".toList
  | trailingConstReference => exact decorated "const &".toList
  | plain | volatile => exact (congrArg namesConst (List.append_nil x)).trans (Bool.or_false _).symm

/-- All of the decoration is outside of brackets. -/
theorem outsideBrackets_text (form : ParameterForm) {t : List Char} (closed : depthBehind 0 t = 0) :
    outsideBrackets 0 (form.text t) = form.front ++ (outsideBrackets 0 t ++ form.back) := by
  have front : outsideBrackets 0 form.front = form.front ∧ depthBehind 0 form.front = 0 := by
    cases form <;> decide
  have back : outsideBrackets 0 form.back = form.back := by
    cases form <;> decide
  rw [text, outsideBrackets_append, outsideBrackets_append, front.1, front.2, closed, back]

/-- The decoration says how a type is passed that has no signs and no `const` outside of brackets. -/
theorem passing_text (form : ParameterForm) {t : List Char} (closed : depthBehind 0 t = 0)
    (signFree : ∀ c ∈ outsideBrackets 0 t, isIndirection c = false)
    (free : "const".toList ∉ words (outsideBrackets 0 t)) : Declared.passing (form.text t) = form.passing := by
  have signs : (outsideBrackets 0 t).any isIndirection = false :=
    List.any_eq_false.2 (fun c mem => by simp [signFree c mem])
  rw [passing_eq, outsideBrackets_text form closed, List.any_append, List.any_append, signs, namesConst_front,
    namesConst_back, namesConst_eq_false signFree free]
  cases form <;> decide

end ParameterForm

/-! ## §4. The decomposition. -/

/-- The text with a space in place of each sign that is outside of brackets: in front of it, no bracket is left open. -/
def signsBlanked (ty : List Char) : List Char :=
  ty.mapIdx (fun i c => if depthBehind 0 (ty.take i) = 0 ∧ (c = '&' ∨ c = '*') then ' ' else c)

/-- Signs are blanked at their positions. -/
theorem blankIndirections_eq_mapIdx (depth : Nat) (t : List Char) : blankIndirections depth t =
    t.mapIdx (fun i c => if depthBehind depth (t.take i) = 0 ∧ (c = '&' ∨ c = '*') then ' ' else c) := by
  induction t generalizing depth with
  | nil => rfl
  | cons c t ih =>
    have sign : isIndirection c = true ↔ c = '&' ∨ c = '*' := by
      rw [isIndirection, Bool.or_eq_true, beq_iff_eq, beq_iff_eq]
    rw [blankIndirections, List.mapIdx_cons, ih]
    exact congrArg₂ List.cons (if_congr (and_congr_right fun _ => sign) rfl rfl) rfl

/-- **The words of a basic type** are those of the declared type that are no qualifiers, once the signs are blanked. -/
theorem basicWords_eq_filter (ty : List Char) : basicWords ty =
    (words (signsBlanked ty)).filter (fun w => w != "const".toList && w != "volatile".toList) := by
  rw [basicWords, blankIndirections_eq_mapIdx]
  exact List.filter_congr (fun w _ => Bool.not_or _ _)

/-- **A declared type falls into its basic type and the way in which it is passed.**  The basic type of a text is what is
left of its words: reference and pointer signs outside of brackets part words, the words `const` and `volatile` are left
out, and single spaces stand between the others.  Stripping once is enough, and leaves no signs outside of brackets.  A
type with balanced brackets and neither signs nor the word `const` outside of them keeps its basic type in every form of
a parameter, and the form decides how it is passed. -/
theorem declaredType_decomposes :
    (∀ ty, basicType (basicType ty) = basicType ty ∧
      (∃ ws, ws = (words (signsBlanked ty)).filter (fun w => w != "const".toList && w != "volatile".toList) ∧
        basicType ty = List.intercalate [' '] ws ∧
        ∀ w ∈ ws, w ≠ [] ∧ Solid w ∧ w ≠ "const".toList ∧ w ≠ "volatile".toList) ∧
      ∀ c ∈ outsideBrackets 0 (basicType ty), c ≠ '&' ∧ c ≠ '*') ∧
    ∀ t frame groups, Grouped t frame groups → (∀ c ∈ withoutBrackets frame, c ≠ '&' ∧ c ≠ '*') →
      "const".toList ∉ words (withoutBrackets frame) →
      ∀ form : ParameterForm, basicType (form.text t) = basicType t ∧ passing (form.text t) = form.passing := by
  have sign : ∀ c, isIndirection c = false ↔ c ≠ '&' ∧ c ≠ '*' := by
    intro c
    simp [isIndirection]
  constructor
  · intro ty
    refine ⟨basicType_basicType ty, ?_, ?_⟩
    · rw [← basicWords_eq_filter]
      exact ⟨basicWords ty, rfl, rfl, fun w mem => basicWords_classes mem⟩
    · intro c mem
      exact (sign c).1 (isIndirection_outside (blankIndirections_basicType ty) c mem)
  · intro t frame groups grouped signFree free form
    have closed : depthBehind 0 t = 0 := grouped.depthBehind 0
    rw [← grouped.outsideBrackets] at signFree free
    exact ⟨form.basicType_text closed, form.passing_text closed (fun c mem => (sign c).2 (signFree c mem)) free⟩

/-- Signs and qualifiers inside of brackets do not count for the way in which a list is passed. -/
theorem declaredType_decomposes_pointerList :
    Grouped "QList<const Entity *>".toList "QList<>".toList ["const Entity *".toList] ∧
      basicType (ParameterForm.trailingConstReference.text "QList<const Entity *>".toList) =
        basicType "QList<const Entity *>".toList ∧
      passing (ParameterForm.trailingConstReference.text "QList<const Entity *>".toList) = .shared ∧
      passing "QList<const Entity *>".toList = .value := by
  have inside : Grouped "const Entity *".toList "const Entity *".toList [] := .of_plain (forall_of_any (by decide))
  have grouped : Grouped "QList<const Entity *>".toList "QList<>".toList ["const Entity *".toList] :=
    Grouped.plain (x := "QList".toList) (forall_of_any (by decide)) (.group inside .nil)
  have signFree : ∀ c ∈ withoutBrackets "QList<>".toList, c ≠ '&' ∧ c ≠ '*' :=
    fun c mem => by simpa [isIndirection] using forall_of_any (p := isIndirection) (by decide) c mem
  have forms := declaredType_decomposes.2 _ _ _ grouped signFree (by decide)
  exact ⟨grouped, (forms .trailingConstReference).1, (forms .trailingConstReference).2, by decide⟩

end ScriptBridge.Declared

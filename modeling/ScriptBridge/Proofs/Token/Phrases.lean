import ScriptBridge.Proofs.Outcome
import ScriptBridge.Proofs.Token.Identifier
import ScriptBridge.Proofs.Token.Layout

/-!
# ScriptBridge.Proofs.Token.Phrases

The vocabulary for composing code makes streams that fit.

`Leads p q stream` says that the stream can be written in every mode of the set `p` and leaves a mode of the set `q`.
It composes like a triple of a program logic, so each word of the vocabulary has one lemma.  Three sets carry the
argument: `Mode.inline`, where an expression may stand; `Mode.settled`, where a statement or an item may stand, which
is also right behind a closing brace; and every mode at all, since words, literals and groups may stand anywhere.

Main results:
  * `leads_call`, `leads_withType`, `leads_bind`, `leads_function`, … — one for each word of the vocabulary;
  * `leads_typeTokens` — every type in source code is an expression;
  * `isName_ofText`, `isName_escaped` — identifiers that were checked are read as they stand.
-/

namespace ScriptBridge.Token

open ScriptBridge.Text Lexeme

/-! ## §1. Modes. -/

namespace Mode

/-- All modes. -/
def all : List Mode :=
  [start, spaced, joined, scope, named, closed, hash]

/-- The list of all modes is complete, so that a check of the list is a check of every mode. -/
theorem mem_all (mode : Mode) : mode ∈ all := by
  cases mode <;> decide

/-- Where an expression may stand. -/
def inline (mode : Mode) : Bool :=
  mode == start || mode == spaced || mode == named

/-- Where a statement or an item may stand. -/
def settled (mode : Mode) : Bool :=
  mode.inline || mode == closed

/-- Where a type argument may stand. -/
def afterPath (mode : Mode) : Bool :=
  mode.inline || mode == scope

/-- Every mode. -/
def anywhere (_ : Mode) : Bool :=
  true

/-- Where an expression may stand, a statement may stand. -/
theorem settled_of_inline {mode : Mode} (h : mode.inline = true) : mode.settled = true := by
  simp [settled, h]

/-- Where an expression may stand, a type argument may stand. -/
theorem afterPath_of_inline {mode : Mode} (h : mode.inline = true) : mode.afterPath = true := by
  simp [afterPath, h]

/-- Behind the separator of a path a type argument may stand. -/
theorem afterPath_of_scope {mode : Mode} (h : (mode == scope) = true) : mode.afterPath = true := by
  simp [afterPath, h]

end Mode

/-! ## §2. Streams that lead from modes to modes. -/

/-- The stream can be written in the modes of `p` and leaves a mode of `q`. -/
def Leads (p q : Mode → Bool) (stream : List Token) : Prop :=
  ∀ before : Mode, p before = true → ∃ after : Mode, q after = true ∧ Fits before stream after

namespace Leads

variable {p p' q q' r : Mode → Bool} {a b : List Token}

/-- The empty stream stays where it is. -/
theorem nil : Leads p p [] :=
  fun before h => ⟨before, h, .nil⟩

/-- **Composition.** Two streams compose if the second may begin where the first ends. -/
theorem append (first : Leads p q a) (second : Leads q r b) : Leads p r (a ++ b) := by
  intro before h
  obtain ⟨between, inner, fits⟩ := first before h
  obtain ⟨after, outer, more⟩ := second between inner
  exact ⟨after, outer, fits.append more⟩

/-- One token, and the stream behind it. -/
theorem cons {t : Token} (first : Leads p q [t]) (second : Leads q r b) : Leads p r (t :: b) :=
  append first second

/-- A smaller set of modes to start from. -/
theorem before (h : Leads p q a) (le : ∀ m, p' m = true → p m = true) : Leads p' q a :=
  fun mode inside => h mode (le mode inside)

/-- A larger set of modes to end in. -/
theorem after (h : Leads p q a) (le : ∀ m, q m = true → q' m = true) : Leads p q' a := by
  intro mode inside
  obtain ⟨next, outside, fits⟩ := h mode inside
  exact ⟨next, le next outside, fits⟩

/-- What may stand anywhere may stand at a given place. -/
theorem here (h : Leads Mode.anywhere q a) : Leads p q a :=
  h.before (fun _ _ => rfl)

/-- An expression may also end a statement. -/
theorem settled (h : Leads p Mode.inline a) : Leads p Mode.settled a :=
  h.after (fun _ => Mode.settled_of_inline)

/-- A series of streams that all come back to the modes where they began. -/
theorem flatten {parts : List (List Token)} (h : ∀ part ∈ parts, Leads p p part) : Leads p p parts.flatten := by
  induction parts with
  | nil => exact nil
  | cons part parts ih =>
    rw [List.flatten_cons]
    exact (h part (by simp)).append (ih (fun other mem => h other (by simp [mem])))

/-- A series of streams that are made of the elements of a list. -/
theorem flatten_map {α : Type} {make : α → List Token} {l : List α} (h : ∀ x ∈ l, Leads p p (make x)) :
    Leads p p (l.map make).flatten := by
  refine flatten (fun part mem => ?_)
  obtain ⟨x, known, rfl⟩ := List.mem_map.1 mem
  exact h x known

/-- Parts with a separator between two of them. -/
theorem separated {separator : List Token} {parts : List (List Token)} (between : Leads q p separator)
    (nonempty : parts ≠ []) (h : ∀ part ∈ parts, Leads p q part) : Leads p q (Token.separated separator parts) := by
  unfold Token.separated
  induction parts with
  | nil => exact absurd rfl nonempty
  | cons part parts ih =>
    have first : Leads p q part := h part (by simp)
    cases parts with
    | nil => simpa using first
    | cons next parts =>
      have others : Leads p q (List.intercalate separator (next :: parts)) :=
        ih (by simp) (fun other mem => h other (by simp [mem]))
      rw [List.intercalate_cons_cons, List.append_assoc]
      exact first.append (between.append others)

end Leads

/-! ## §3. Single tokens. -/

section

variable {p q : Mode → Bool}

/-- A name may stand anywhere, and is an expression. -/
theorem leads_word {id : Identifier} (name : id.IsName) : Leads p Mode.inline [.word id] :=
  fun _ _ => ⟨.named, rfl, .word name .nil⟩

/-- A fixed word that has the shape of an identifier is read as it stands. -/
theorem isName_fixed {name : String} (shape : hasIdentifierShape name.toList = true) :
    (⟨name, false⟩ : Identifier).IsName :=
  ⟨(Identifier.name_mk false (isFirm_of_shape shape)).symm ▸ shape, fun raw => by cases raw⟩

/-- A fixed word may stand anywhere, and is an expression. -/
theorem leads_expr (name : String) (shape : hasIdentifierShape name.toList = true) :
    Leads p Mode.inline (expr name) :=
  leads_word (isName_fixed shape)

/-- A literal may stand anywhere, and is an expression. -/
theorem leads_literal {value : Literal} (form : IsLiteral value.text) : Leads p Mode.inline [.literal value] :=
  fun _ _ => ⟨.spaced, rfl, .literal form .nil⟩

/-- An operator leads from one set of modes to another if it does so from each of the seven modes. -/
theorem leads_operator (signs : List Char)
    (h : Mode.all.all (fun m => !p m || (m.takesOperator signs && q (m.afterOperator signs))) = true) :
    Leads p q (operator signs) := by
  intro before inside
  have here := List.all_eq_true.1 h before before.mem_all
  simp only [inside, Bool.not_true, Bool.false_or, Bool.and_eq_true] at here
  refine ⟨before.afterOperator signs, here.2, ?_⟩
  rw [← List.append_nil (operator signs)]
  exact .operator here.1 .nil

/-- A lifetime may stand behind the sign of a borrow. -/
theorem leads_lifetime (name : String) (shape : hasIdentifierShape name.toList = true) :
    Leads (· == .joined) Mode.inline (lifetime name) := by
  intro before joined
  obtain rfl : before = .joined := by simpa using joined
  refine ⟨.named, rfl, ?_⟩
  rw [← List.append_nil (lifetime name)]
  exact .lifetime (by decide) shape .nil

/-- Parentheses around what leads on from an expression may stand anywhere. -/
theorem leads_parens {inner : List Token} (content : Leads Mode.inline q inner) :
    Leads p Mode.inline [parens inner] := by
  intro before _
  obtain ⟨within, -, fits⟩ := content .start rfl
  exact ⟨.spaced, rfl, .group (by decide) fits .nil⟩

/-- Brackets around what leads on from an expression may stand anywhere. -/
theorem leads_brackets {inner : List Token} (content : Leads Mode.inline q inner) :
    Leads p Mode.inline [brackets inner] := by
  intro before _
  obtain ⟨within, -, fits⟩ := content .start rfl
  exact ⟨before.afterGroup .bracket, by cases before <;> decide, .group (by decide) fits .nil⟩

/-- A block may stand anywhere, and only an item or a statement follows it. -/
theorem leads_braces {inner : List Token} (content : Leads Mode.inline q inner) :
    Leads p Mode.settled [braces inner] := by
  intro before _
  obtain ⟨within, -, fits⟩ := content .start rfl
  exact ⟨.closed, rfl, .group (by decide) fits .nil⟩

/-! ## §4. Operators. -/

theorem leads_comma : Leads Mode.settled Mode.inline [mark ','] :=
  leads_operator [','] (by decide)

theorem leads_semicolon : Leads Mode.settled Mode.inline [mark ';'] :=
  leads_operator [';'] (by decide)

theorem leads_colon : Leads Mode.inline Mode.inline [mark ':'] :=
  leads_operator [':'] (by decide)

theorem leads_equals : Leads Mode.inline Mode.inline [mark '='] :=
  leads_operator ['='] (by decide)

theorem leads_bar : Leads Mode.inline Mode.inline [mark '|'] :=
  leads_operator ['|'] (by decide)

theorem leads_question : Leads Mode.inline Mode.inline [mark '?'] :=
  leads_operator ['?'] (by decide)

theorem leads_star : Leads Mode.afterPath Mode.inline [mark '*'] :=
  leads_operator ['*'] (by decide)

theorem leads_less : Leads Mode.afterPath Mode.inline [mark '<'] :=
  leads_operator ['<'] (by decide)

theorem leads_greater : Leads Mode.inline Mode.inline [mark '>'] :=
  leads_operator ['>'] (by decide)

theorem leads_and : Leads Mode.settled (· == .joined) [mark '&'] :=
  leads_operator ['&'] (by decide)

theorem leads_dot : Leads Mode.inline Mode.anywhere [mark '.'] :=
  leads_operator ['.'] (by decide)

theorem leads_hash : Leads Mode.settled (· == .hash) [mark '#'] :=
  leads_operator ['#'] (by decide)

theorem leads_not : Leads (· == .hash) Mode.anywhere [mark '!'] :=
  leads_operator ['!'] (by decide)

/-- The separator of a path stands behind an expression; a segment or a type argument follows. -/
theorem leads_scope : Leads Mode.inline (· == .scope) scope :=
  leads_operator _ (by decide)

/-- The empty parameter list of a closure. -/
theorem leads_either : Leads Mode.inline Mode.inline (operator ['|', '|']) :=
  leads_operator _ (by decide)

/-- Two closing brackets of type arguments, written as one operator. -/
theorem leads_twoGreater : Leads Mode.inline Mode.inline (operator ['>', '>']) :=
  leads_operator _ (by decide)

/-- The arrow stands between two expressions. -/
theorem leads_arrow : Leads Mode.inline Mode.inline arrow :=
  leads_operator _ (by decide)

/-! ## §5. Literals. -/

/-- A text in quotes, with its characters escaped, is read as one literal. -/
theorem isLiteral_stringLiteral (s : String) : IsLiteral (stringLiteral s) where
  reads := reads_stringLiteral s
  begins := by simp [stringLiteral]
  ends := by
    have text : (stringLiteral s).toList = '"' :: literalBody s.toList ++ ['"'] := by simp [stringLiteral]
    rw [text, List.getLast?_append]
    rfl

/-- The digits of a number are characters that words go on with. -/
theorem isIdentContinue_of_mem_number {n : Nat} {c : Char} (mem : c ∈ (toString n).toList) :
    isIdentContinue c = true := by
  rw [Nat.toString_eq_repr, Nat.toList_repr] at mem
  exact isIdentContinue_of_isDigit (Nat.isDigit_of_mem_toDigits (by decide) (by decide) mem)

/-- A number is read as one literal. -/
theorem isLiteral_number (n : Nat) : IsLiteral (toString n) := by
  refine ⟨reads_number n, ?_, getLast?_visible (fun c mem => ?_)⟩
  case refine_2 => exact isSpace_of_isIdentContinue (isIdentContinue_of_mem_number mem)
  have nonempty : (toString n).toList ≠ [] := by
    rw [Nat.toString_eq_repr, Nat.toList_repr]
    exact Nat.toDigits_ne_nil
  obtain ⟨c, others, same⟩ := List.exists_cons_of_ne_nil nonempty
  have first : isIdentContinue c = true := isIdentContinue_of_mem_number (n := n) (by rw [same]; simp)
  rw [same]
  simp [first]

/-- A raw text without quotes is read as one literal. -/
theorem isLiteral_raw {body : String} (h : body.toList.contains '"' = false) :
    IsLiteral ("r\"" ++ body ++ "\"") where
  reads := reads_rawLiteral h
  begins := by simp; decide
  ends := by
    have text : ("r\"" ++ body ++ "\"").toList = ("r\"" ++ body).toList ++ ['"'] := by simp
    rw [text, List.getLast?_append]
    rfl

/-- A text literal is an expression. -/
theorem leads_text (s : String) : Leads p Mode.inline [text s] :=
  leads_literal (isLiteral_stringLiteral s)

/-- A number is an expression. -/
theorem leads_number (n : Nat) : Leads p Mode.inline [number n] :=
  leads_literal (isLiteral_number n)

/-- A documentation comment without quotes may stand in front of an item. -/
theorem leads_documentation {comment : String} (h : (" " ++ comment).toList.contains '"' = false) :
    Leads Mode.settled Mode.inline (documentation comment) := by
  have same : "r\" " ++ comment ++ "\"" = "r\"" ++ (" " ++ comment) ++ "\"" := by
    rw [← String.append_assoc]
    rfl
  have form : IsLiteral ("r\" " ++ comment ++ "\"") := same ▸ isLiteral_raw h
  have body : Leads Mode.inline Mode.inline [rawText comment] := leads_literal form
  exact leads_hash.cons (leads_brackets ((leads_expr "doc" rfl).cons (leads_equals.cons body)))

/-! ## §6. The vocabulary. -/

variable {receiver value type name content body result part : List Token} {parts : List (List Token)}

/-- No parts at all lead anywhere. -/
theorem parts_nil : ∀ part ∈ ([] : List (List Token)), Leads p q part := by
  intro part mem
  cases mem

/-- Each of several parts leads on if the first and the others do. -/
theorem parts_cons (first : Leads p q part) (others : ∀ other ∈ parts, Leads p q other) :
    ∀ other ∈ part :: parts, Leads p q other :=
  List.forall_mem_cons.2 ⟨first, others⟩

/-- A single part, as a series of parts. -/
theorem parts_one (only : Leads p q part) : ∀ other ∈ [part], Leads p q other :=
  parts_cons only parts_nil

/-- Parts with commas between them. -/
theorem leads_commas (h : ∀ part ∈ parts, Leads Mode.inline Mode.inline part) :
    Leads Mode.inline Mode.inline (commas parts) := by
  by_cases none : parts = []
  · subst none
    exact Leads.nil
  · exact Leads.separated (leads_comma.before (fun _ => Mode.settled_of_inline)) none h

/-- Parts that may end with a block, with commas between them. -/
theorem leads_blocks (h : ∀ part ∈ parts, Leads Mode.inline Mode.settled part) :
    Leads Mode.inline Mode.settled (commas parts) := by
  by_cases none : parts = []
  · subst none
    exact Leads.nil.settled
  · exact Leads.separated leads_comma none h

/-- Type arguments in angle brackets stand behind a path. -/
theorem leads_angled (h : Leads Mode.inline Mode.inline content) : Leads Mode.afterPath Mode.inline (angled content) :=
  (leads_less.cons h).append leads_greater

/-- Angle brackets in an expression. -/
theorem leads_applied (h : Leads Mode.inline Mode.inline content) : Leads Mode.inline Mode.inline (angled content) :=
  (leads_angled h).before (fun _ => Mode.afterPath_of_inline)

/-- Names joined to a path; without any name it is nothing. -/
theorem leads_path {names : List Identifier} (h : ∀ id ∈ names, id.IsName) :
    Leads Mode.inline Mode.inline (path names) := by
  by_cases none : names = []
  · subst none
    exact Leads.nil
  · refine Leads.here (Leads.separated (leads_scope.after (fun _ _ => rfl)) (by simpa using none) ?_)
    rintro part mem
    obtain ⟨id, known, rfl⟩ := List.mem_map.1 mem
    exact leads_word (h id known)

/-- A path of fixed words is an expression. -/
theorem leads_fixedPath (segments : List String)
    (h : (!segments.isEmpty && segments.all (fun s => hasIdentifierShape s.toList)) = true) :
    Leads p Mode.inline (fixedPath segments) := by
  obtain ⟨nonempty, shapes⟩ := Bool.and_eq_true_iff.1 h
  refine Leads.here (Leads.separated (leads_scope.after (fun _ _ => rfl)) (by simpa using nonempty) ?_)
  rintro part mem
  obtain ⟨s, known, rfl⟩ := List.mem_map.1 mem
  exact leads_expr s (List.all_eq_true.1 shapes s known)

/-- A member of an expression is an expression. -/
theorem leads_member (h : Leads p Mode.inline receiver) {id : Identifier} (isName : id.IsName) :
    Leads p Mode.inline (member receiver (.word id)) :=
  h.append (leads_dot.cons (leads_word isName))

/-- A member with a fixed name is an expression. -/
theorem leads_fixedMember (h : Leads p Mode.inline receiver) (method : String)
    (shape : hasIdentifierShape method.toList = true) :
    Leads p Mode.inline (member receiver (fixed method)) :=
  leads_member h (isName_fixed shape)

/-- A call is an expression if its function and its arguments are. -/
theorem leads_call (h : Leads p Mode.inline receiver) (arguments : ∀ part ∈ parts, Leads Mode.inline Mode.inline part) :
    Leads p Mode.inline (call receiver parts) :=
  h.append (leads_parens (leads_commas arguments))

/-- The call of a fixed method is an expression if the receiver and the arguments are. -/
theorem leads_send (h : Leads p Mode.inline receiver) (method : String)
    (shape : hasIdentifierShape method.toList = true) (arguments : ∀ part ∈ parts, Leads Mode.inline Mode.inline part) :
    Leads p Mode.inline (send receiver method parts) :=
  leads_call (leads_fixedMember h method shape) arguments

/-- A function with its type argument is an expression. -/
theorem leads_withType (h : Leads p Mode.inline receiver) (argument : Leads Mode.inline Mode.inline type) :
    Leads p Mode.inline (withType receiver type) :=
  (h.append leads_scope).append ((leads_angled argument).before (fun _ => Mode.afterPath_of_scope))

/-- A type seen as an implementation of an interface is an expression. -/
theorem leads_asInterface (h : Leads Mode.inline Mode.inline type) (interface : String)
    (shape : hasIdentifierShape interface.toList = true) :
    Leads Mode.inline Mode.inline (asInterface type interface) := by
  have words : Leads Mode.inline Mode.inline [fixed "as", fixed interface] :=
    (leads_expr "as" rfl).cons (leads_expr interface shape)
  exact leads_applied (h.append words)

/-- A path through an interface. -/
theorem leads_through (h : Leads p Mode.inline receiver) {id : Identifier} (isName : id.IsName) :
    Leads p Mode.inline (receiver ++ scope ++ [.word id]) :=
  (h.append leads_scope).append (leads_word isName)

/-- A reading borrow is an expression if its value may stand behind a joint sign. -/
theorem leads_borrow (h : Leads (· == .joined) Mode.inline value) : Leads Mode.inline Mode.inline (borrow value) :=
  (leads_and.before (fun _ => Mode.settled_of_inline)).cons h

/-- A writing borrow is an expression if its value is. -/
theorem leads_borrowMut (h : Leads Mode.inline Mode.inline value) : Leads Mode.inline Mode.inline (borrowMut value) :=
  leads_borrow ((leads_expr "mut" rfl).cons h)

/-- An expression whose error ends the function is an expression. -/
theorem leads_orFail (h : Leads p Mode.inline value) : Leads p Mode.inline (orFail value) :=
  h.append leads_question

/-- A semicolon makes a statement of anything that a statement may end with. -/
theorem leads_statement (h : Leads p Mode.settled content) : Leads p Mode.inline (statement content) :=
  h.append leads_semicolon

/-- A name with its type leads on where the type does. -/
theorem leads_typed (first : Leads p Mode.inline name) (second : Leads Mode.inline q type) :
    Leads p q (typed name type) :=
  first.append (leads_colon.cons second)

/-- The binding of a name to an expression is a statement. -/
theorem leads_bind (first : Leads Mode.inline Mode.inline name) (second : Leads Mode.inline Mode.inline value) :
    Leads p Mode.inline (bind name value) :=
  leads_statement (((leads_expr "let" rfl).cons first).append (leads_equals.cons second)).settled

/-- The definition of a constant is a statement. -/
theorem leads_constant (constantName : String) (shape : hasIdentifierShape constantName.toList = true)
    (first : Leads Mode.inline Mode.inline type) (second : Leads Mode.inline Mode.settled value) :
    Leads p Mode.inline (constant constantName type value) :=
  leads_statement (((leads_expr "const" rfl).cons (leads_typed (leads_expr constantName shape) first)).append
    (leads_equals.cons second))

/-- The result part of a function stands between its parameters and its body. -/
theorem leads_returning (h : Leads Mode.inline Mode.inline type) : Leads Mode.inline Mode.inline (returning type) :=
  leads_arrow.append h

/-- A function is an item if its parameters, its result and its body are readable. -/
theorem leads_function {id : Identifier} (isName : id.IsName)
    (parameters : ∀ part ∈ parts, Leads Mode.inline Mode.inline part) (answer : Leads Mode.inline Mode.inline result)
    (inside : Leads Mode.inline q body) : Leads p Mode.settled (function (.word id) parts result body) := by
  have head : Leads p Mode.inline [fixed "fn", .word id, parens (commas parts)] :=
    (leads_expr "fn" rfl).cons ((leads_word isName).cons (leads_parens (leads_commas parameters)))
  exact (head.append answer).append (leads_braces inside)

/-- An implementation is an item if its type and its body are readable. -/
theorem leads_implementation (interface : String) (shape : hasIdentifierShape interface.toList = true)
    (first : Leads Mode.inline Mode.inline type) (inside : Leads Mode.inline q body) :
    Leads p Mode.settled (implementation interface type body) := by
  have head : Leads p Mode.inline [fixed "impl", fixed interface, fixed "for"] :=
    (leads_expr "impl" rfl).cons ((leads_expr interface shape).cons (leads_expr "for" rfl))
  exact (head.append first).append (leads_braces inside)

end

/-! ## §7. Checked names, paths and types. -/

/-- A plain identifier that was checked is read as it stands. -/
theorem isName_plain {name : String} {id : Identifier} (h : Identifier.plain name = .ok id) : id.IsName := by
  obtain ⟨right, rfl⟩ := Identifier.plain_eq_ok h
  exact isName_fixed (shape_of_nameError? right)

/-- A raw identifier that was checked is read as it stands. -/
theorem isName_prefixed {name : String} {id : Identifier} (h : Identifier.prefixed name = .ok id) : id.IsName := by
  obtain ⟨right, raised, rfl⟩ := Identifier.prefixed_eq_ok h
  have same : (⟨name, true⟩ : Identifier).name = name := Identifier.name_mk true (isFirm_of_nameError? right)
  exact ⟨same.symm ▸ shape_of_nameError? right, fun _ => same.symm ▸ raised⟩

/-- An identifier made from a text is read as it stands. -/
theorem isName_ofText {s : String} {id : Identifier} (h : Identifier.ofText s = .ok id) : id.IsName := by
  unfold Identifier.ofText at h
  split at h
  · exact isName_prefixed h
  · exact isName_plain h

/-- An identifier made from a name that may be a keyword is read as it stands. -/
theorem isName_escaped {s : String} {id : Identifier} (h : Identifier.escaped s = .ok id) : id.IsName := by
  unfold Identifier.escaped at h
  split at h
  · exact isName_prefixed h
  · exact isName_ofText h

/-- Identifiers that are checked one by one are all read as they stand. -/
theorem isName_of_mapM {α : Type} {f : α → Except IdentifierError Identifier}
    (checked : ∀ {a id}, f a = .ok id → id.IsName) {l : List α} {names : List Identifier}
    (h : l.mapM f = .ok names) : ∀ id ∈ names, id.IsName := by
  intro id mem
  obtain ⟨a, -, same⟩ := exists_of_mem_mapM h mem
  exact checked same

/-- A path that was checked is an expression. -/
theorem leads_pathOf {s : String} {stream : List Token} (h : pathOf s = .ok stream) :
    Leads Mode.inline Mode.inline stream := by
  obtain ⟨names, checked, h⟩ := bind_ok h
  cases h
  exact leads_path (isName_of_mapM isName_ofText checked)

/-- A built-in type is one word. -/
theorem shape_builtin (b : Declared.Builtin) : hasIdentifierShape b.name.toList = true := by
  cases b <;> decide

mutual

/-- A type in source code is an expression. -/
theorem leads_typeTokens : ∀ {type : Declared.TargetType} {stream : List Token}, typeTokens type = .ok stream →
    Leads Mode.inline Mode.inline stream
  | .unit, stream, h => by
    cases h
    exact leads_parens Leads.nil
  | .builtin b, stream, h => by
    cases h
    exact leads_expr b.name (shape_builtin b)
  | .list element, stream, h => by
    rw [typeTokens] at h
    obtain ⟨content, inner, h⟩ := bind_ok h
    cases h
    exact (leads_expr "Vec" rfl).cons (leads_applied (leads_typeTokens inner))
  | .named segments arguments, stream, h => by
    rw [typeTokens.eq_def] at h
    obtain ⟨names, checked, h⟩ := bind_ok h
    have front : Leads Mode.inline Mode.inline (path names) := leads_path (isName_of_mapM isName_escaped checked)
    cases arguments with
    | nil =>
      cases h
      exact front
    | cons arg args =>
      obtain ⟨parts, inner, h⟩ := bind_ok h
      cases h
      exact front.append (leads_applied (leads_commas (leads_typeTokensList inner)))

/-- Each of several types is an expression. -/
theorem leads_typeTokensList : ∀ {types : List Declared.TargetType} {parts : List (List Token)},
    typeTokensList types = .ok parts → ∀ part ∈ parts, Leads Mode.inline Mode.inline part
  | [], parts, h => by
    cases h
    intro part mem
    cases mem
  | type :: types, parts, h => by
    rw [typeTokensList] at h
    obtain ⟨one, first, h⟩ := bind_ok h
    obtain ⟨more, others, h⟩ := bind_ok h
    cases h
    intro part mem
    rcases List.mem_cons.1 mem with rfl | mem
    · exact leads_typeTokens first
    · exact leads_typeTokensList others part mem

end

end ScriptBridge.Token

import ScriptBridge.Proofs.Outcome
import ScriptBridge.Proofs.Token.Identifier
import ScriptBridge.Token.Compose

/-!
# ScriptBridge.Proofs.Token.Structure

Reading code: its items, its statements, and what stands between commas.

These readers see a token stream only; how the stream was composed does not show in them.  `items keyword` finds
the items that begin with a keyword, `statements` cuts a function body at its semicolons, and `arguments` cuts at the
commas outside angle brackets, so that `Map<K, V>` is one argument.

Main results:
  * `items_function`, `items_implementation` — an item is found with its name and its block;
  * `statements_cons` — a statement is found as it was written;
  * `arguments_commas` — parts joined by commas are found again;
  * `typeTokens_made` — what a type in source code is made of: it brings no item and no argument of its own.
-/

namespace ScriptBridge.Token

open ScriptBridge.Declared

/-! ## §1. Items. -/

/-- The content of the first block in a stream. -/
def block? : List Token → Option (List Token)
  | [] => none
  | .group .brace inner :: _ => some inner
  | _ :: rest => block? rest

/-- The items of a stream that begin with a keyword, each by its name and the block it ends with.  What stands
inside of groups does not count. -/
def items (keyword : String) : List Token → List (Identifier × List Token)
  | .word k :: .word name :: rest =>
    if k = ⟨keyword, false⟩ then ((block? rest).map (Prod.mk name)).toList ++ items keyword rest
    else items keyword (.word name :: rest)
  | _ :: rest => items keyword rest
  | [] => []

/-- The stream holds no item that begins with the keyword, whatever follows. -/
def Lacks (keyword : String) (stream : List Token) : Prop :=
  ∀ rest : List Token, items keyword (stream ++ rest) = items keyword rest

namespace Lacks

variable {keyword : String} {a b : List Token}

theorem nil : Lacks keyword [] :=
  fun _ => rfl

/-- Two streams without items make one without items. -/
theorem append (first : Lacks keyword a) (second : Lacks keyword b) : Lacks keyword (a ++ b) := by
  intro rest
  rw [List.append_assoc, first, second]

/-- A series of streams without items has none. -/
theorem flatten_map {α : Type} {make : α → List Token} {l : List α} (h : ∀ x ∈ l, Lacks keyword (make x)) :
    Lacks keyword (l.map make).flatten := by
  induction l with
  | nil => exact nil
  | cons x l ih =>
    rw [List.map_cons, List.flatten_cons]
    exact (h x (by simp)).append (ih (fun other mem => h other (by simp [mem])))

/-- A token that is no word begins no item. -/
theorem other {t : Token} (h : ∀ id, t ≠ .word id) : Lacks keyword [t] := by
  intro rest
  cases t with
  | word id => exact absurd rfl (h id)
  | sign | literal | group => rfl

/-- A word other than the keyword begins no item. -/
theorem word {id : Identifier} (h : id ≠ ⟨keyword, false⟩) : Lacks keyword [.word id] := by
  intro rest
  cases rest with
  | nil => rfl
  | cons t rest =>
    cases t with
    | word name =>
      rw [List.singleton_append, items, if_neg h]
    | sign | literal | group => rfl

/-- A word in front of a sign begins no item, even if it is the keyword. -/
theorem wordSign (id : Identifier) (c : Char) (joint : Bool) : Lacks keyword [.word id, .sign c joint] :=
  fun _ => rfl

/-- The segments of a path begin no item if the path goes on. -/
theorem path_scope (names : List Identifier) : Lacks keyword (path names ++ scope) := by
  unfold path separated
  induction names with
  | nil => exact (other (by rintro id ⟨⟩)).append (other (by rintro id ⟨⟩))
  | cons name names ih =>
    cases names with
    | nil => exact (wordSign name ':' true).append (other (by rintro id ⟨⟩))
    | cons next names =>
      rw [List.map_cons, List.map_cons, List.intercalate_cons_cons, List.append_assoc]
      exact ((wordSign name ':' true).append (other (t := mark ':') (by rintro id ⟨⟩))).append ih

end Lacks

/-- The items in a series of streams that hold one item each. -/
theorem items_flatten {α : Type} {keyword : String} {P : α → Identifier × List Token → Prop} {make : α → List Token}
    {l : List α} (h : ∀ a ∈ l, ∃ item, P a item ∧
      ∀ rest, items keyword (make a ++ rest) = item :: items keyword rest) :
    ∃ found, List.Forall₂ P l found ∧
      ∀ rest, items keyword ((l.map make).flatten ++ rest) = found ++ items keyword rest := by
  induction l with
  | nil => exact ⟨[], .nil, fun _ => rfl⟩
  | cons a l ih =>
    obtain ⟨item, holds, here⟩ := h a (by simp)
    obtain ⟨found, others, later⟩ := ih (fun other mem => h other (by simp [mem]))
    refine ⟨item :: found, .cons holds others, fun rest => ?_⟩
    rw [List.map_cons, List.flatten_cons, List.append_assoc, here, later]
    rfl

/-- The words of the stream are other than the keyword. -/
def WordsOther (keyword : String) (stream : List Token) : Prop :=
  ∀ t ∈ stream, t ≠ .word ⟨keyword, false⟩

/-- A stream without the keyword holds no item that begins with it. -/
theorem WordsOther.lacks {keyword : String} {stream : List Token} (h : WordsOther keyword stream) :
    Lacks keyword stream := by
  induction stream with
  | nil => exact Lacks.nil
  | cons t stream ih =>
    have first : Lacks keyword [t] := by
      cases t with
      | word id =>
        refine Lacks.word ?_
        rintro rfl
        exact h _ (by simp) rfl
      | sign | literal | group => exact Lacks.other (by rintro id ⟨⟩)
    exact first.append (ih (fun other mem => h other (by simp [mem])))

/-- Whether a token is the keyword. -/
def isKeyword (keyword : String) : Token → Bool
  | .word id => id = ⟨keyword, false⟩
  | _ => false

/-- The words of a fixed stream can be checked. -/
theorem WordsOther.of_check {keyword : String} {stream : List Token} (h : stream.any (isKeyword keyword) = false) :
    WordsOther keyword stream := by
  rintro t mem rfl
  simpa [isKeyword] using List.any_eq_false.1 h _ mem

/-- The stream has no block of its own. -/
def Blockless (stream : List Token) : Prop :=
  ∀ rest : List Token, block? (stream ++ rest) = block? rest

section

variable {id : Identifier} {parts : List (List Token)} {result type body : List Token}

/-- A function is found with its name and its body. -/
theorem items_function (answer : Blockless result) (others : WordsOther "fn" result) (rest : List Token) :
    items "fn" (function (.word id) parts result body ++ rest) = (id, body) :: items "fn" rest := by
  have head : items "fn" (function (.word id) parts result body ++ rest) =
      ((block? ([parens (commas parts)] ++ (result ++ braces body :: rest))).map (Prod.mk id)).toList ++
        items "fn" ([parens (commas parts)] ++ (result ++ braces body :: rest)) := by
    simp only [function, List.append_assoc, List.cons_append, List.nil_append, fixed, items, if_true]
  have block : block? ([parens (commas parts)] ++ (result ++ braces body :: rest)) = some body := by
    rw [show block? ([parens (commas parts)] ++ (result ++ braces body :: rest)) =
      block? (result ++ braces body :: rest) from rfl, answer]
    rfl
  have after : items "fn" ([parens (commas parts)] ++ (result ++ braces body :: rest)) = items "fn" rest := by
    rw [Lacks.other (by rintro id ⟨⟩), others.lacks]
    exact Lacks.other (by rintro id ⟨⟩) rest
  rw [head, block, after]
  rfl

/-- An implementation is found with its interface and its body. -/
theorem items_implementation (interface : String) (header : Blockless type) (others : WordsOther "impl" type)
    (rest : List Token) :
    items "impl" (implementation interface type body ++ rest) = (⟨interface, false⟩, body) :: items "impl" rest := by
  have head : items "impl" (implementation interface type body ++ rest) =
      ((block? ([fixed "for"] ++ (type ++ braces body :: rest))).map (Prod.mk ⟨interface, false⟩)).toList ++
        items "impl" ([fixed "for"] ++ (type ++ braces body :: rest)) := by
    simp only [implementation, List.append_assoc, List.cons_append, List.nil_append, fixed, items, if_true]
  have block : block? ([fixed "for"] ++ (type ++ braces body :: rest)) = some body := by
    rw [show block? ([fixed "for"] ++ (type ++ braces body :: rest)) = block? (type ++ braces body :: rest) from rfl,
      header]
    rfl
  have after : items "impl" ([fixed "for"] ++ (type ++ braces body :: rest)) = items "impl" rest := by
    have word : Lacks "impl" [fixed "for"] := Lacks.word (by decide)
    rw [word, others.lacks]
    exact Lacks.other (by rintro id ⟨⟩) rest
  rw [head, block, after]
  rfl

/-- A function is no implementation, and what is in its groups does not count. -/
theorem lacks_function (others : WordsOther "impl" result) : Lacks "impl" (function (.word id) parts result body) := by
  have keyword : Lacks "impl" [fixed "fn"] := Lacks.word (by decide)
  have head : Lacks "impl" [fixed "fn", .word id, parens (commas parts)] := keyword.append (fun _ => rfl)
  exact (head.append others.lacks).append (Lacks.other (by rintro id ⟨⟩))

/-- An implementation is no function, and what is in its groups does not count. -/
theorem lacks_implementation (interface : String) (other : interface ≠ "fn") (others : WordsOther "fn" type) :
    Lacks "fn" (implementation interface type body) := by
  have named : (⟨interface, false⟩ : Identifier) ≠ ⟨"fn", false⟩ := fun same =>
    other (Spelling.eq_of_ofText (congrArg Identifier.spelling same) (by decide) (by decide))
  have head : Lacks "fn" [fixed "impl", fixed interface, fixed "for"] :=
    (Lacks.word (by decide)).append ((Lacks.word named).append (Lacks.word (by decide)))
  exact (head.append others.lacks).append (Lacks.other (by rintro id ⟨⟩))

end

/-! ## §2. Statements. -/

/-- Whether a token ends a statement. -/
def isSemicolon : Token → Bool
  | .sign c joint => c == ';' && !joint
  | _ => false

/-- The statements of a function body; the last one is the answer. -/
def statements : List Token → List (List Token)
  | [] => [[]]
  | t :: rest => if isSemicolon t then [] :: statements rest else (statements rest).modifyHead (t :: ·)

/-- A statement is found as it was written, if it has no other semicolon outside of its groups. -/
theorem statements_cons {content : List Token} (h : content.all (fun t => !isSemicolon t) = true) (rest : List Token) :
    statements (statement content ++ rest) = content :: statements rest := by
  induction content with
  | nil => rfl
  | cons t content ih =>
    obtain ⟨first, others⟩ : isSemicolon t = false ∧ content.all (fun t => !isSemicolon t) = true := by simpa using h
    have later : statements (t :: (statement content ++ rest)) =
        (statements (statement content ++ rest)).modifyHead (t :: ·) := by
      rw [statements, first]
      rfl
    rw [show statement (t :: content) ++ rest = t :: (statement content ++ rest) from rfl, later, ih others]
    rfl

/-- What stands behind the last semicolon is the answer. -/
theorem statements_answer {content : List Token} (h : content.all (fun t => !isSemicolon t) = true) :
    statements content = [content] := by
  induction content with
  | nil => rfl
  | cons t content ih =>
    obtain ⟨first, others⟩ : isSemicolon t = false ∧ content.all (fun t => !isSemicolon t) = true := by simpa using h
    rw [statements, first, ih others]
    rfl

/-- A series of statements made from a list. -/
theorem statements_flatten {α : Type} {make : α → List Token} {l : List α}
    (h : ∀ a ∈ l, (make a).all (fun t => !isSemicolon t) = true) (rest : List Token) :
    statements ((l.map (fun a => statement (make a))).flatten ++ rest) = l.map make ++ statements rest := by
  induction l with
  | nil => rfl
  | cons a l ih =>
    rw [List.map_cons, List.flatten_cons, List.append_assoc, statements_cons (h a (by simp)),
      ih (fun other mem => h other (by simp [mem]))]
    rfl

/-! ## §3. Arguments. -/

/-- The depth of angle brackets behind a token. -/
def angleDepth (depth : Nat) : Token → Nat
  | .sign '<' _ => depth + 1
  | .sign '>' _ => depth - 1
  | _ => depth

/-- Whether a token separates arguments. -/
def isComma : Token → Bool
  | .sign c _ => c == ','
  | _ => false

/-- A token that is neither a comma nor an angle bracket. -/
def isFlat : Token → Bool
  | .sign c _ => c != ',' && c != '<' && c != '>'
  | _ => true

/-- The pieces between commas outside angle brackets; there is always at least one. -/
def cutAtCommas (depth : Nat) : List Token → List (List Token)
  | [] => [[]]
  | t :: rest =>
    if isComma t ∧ depth = 0 then [] :: cutAtCommas depth rest
    else (cutAtCommas (angleDepth depth t) rest).modifyHead (t :: ·)

/-- The arguments in a list of arguments. -/
def arguments (inner : List Token) : List (List Token) :=
  if inner.isEmpty then [] else cutAtCommas 0 inner

/-- The stream stays in one piece at any depth. -/
def Whole (part : List Token) : Prop :=
  ∀ (depth : Nat) (rest : List Token),
    cutAtCommas depth (part ++ rest) = (cutAtCommas depth rest).modifyHead (part ++ ·)

/-- The stream stays in one piece inside of angle brackets. -/
def WholeInside (part : List Token) : Prop :=
  ∀ (depth : Nat) (rest : List Token),
    cutAtCommas (depth + 1) (part ++ rest) = (cutAtCommas (depth + 1) rest).modifyHead (part ++ ·)

theorem modifyHead_append (a b : List Token) (pieces : List (List Token)) :
    (pieces.modifyHead (b ++ ·)).modifyHead (a ++ ·) = pieces.modifyHead (a ++ b ++ ·) := by
  cases pieces with
  | nil => rfl
  | cons piece pieces => simp

theorem modifyHead_nil (pieces : List (List Token)) : pieces.modifyHead ([] ++ ·) = pieces := by
  cases pieces <;> rfl

/-- A flat token separates nothing. -/
theorem isComma_of_isFlat {t : Token} (h : isFlat t = true) : isComma t = false := by
  cases t with
  | sign c spacing => simp_all [isFlat, isComma]
  | _ => rfl

/-- A flat token keeps the depth of angle brackets. -/
theorem angleDepth_of_isFlat {t : Token} (h : isFlat t = true) (depth : Nat) : angleDepth depth t = depth := by
  unfold angleDepth
  split
  · cases h
  · cases h
  · rfl

namespace Whole

variable {a b : List Token}

theorem nil : Whole [] :=
  fun _ _ => (modifyHead_nil _).symm

/-- Two streams that stay whole make one that does. -/
theorem append (first : Whole a) (second : Whole b) : Whole (a ++ b) := by
  intro depth rest
  rw [List.append_assoc, first, second, modifyHead_append]

/-- A token in front of a stream that stays whole. -/
theorem cons {t : Token} (first : Whole [t]) (second : Whole b) : Whole (t :: b) :=
  append first second

/-- A flat token stays whole. -/
theorem single {t : Token} (h : isFlat t = true) : Whole [t] := by
  intro depth rest
  rw [List.singleton_append, cutAtCommas, isComma_of_isFlat h, angleDepth_of_isFlat h]
  rfl

/-- A stream of flat tokens stays whole. -/
theorem flat (h : a.all isFlat = true) : Whole a := by
  induction a with
  | nil => exact nil
  | cons t a ih =>
    obtain ⟨first, others⟩ := Bool.and_eq_true_iff.1 h
    exact cons (single first) (ih others)

/-- What stays whole at any depth does so inside of angle brackets. -/
theorem inside (h : Whole a) : WholeInside a :=
  fun depth rest => h (depth + 1) rest

end Whole

/-- Two streams that stay whole inside of angle brackets make one that does. -/
theorem WholeInside.append {a b : List Token} (first : WholeInside a) (second : WholeInside b) :
    WholeInside (a ++ b) := by
  intro depth rest
  rw [List.append_assoc, first, second, modifyHead_append]

/-- Inside of angle brackets commas separate no arguments. -/
theorem wholeInside_commas {parts : List (List Token)} (h : ∀ part ∈ parts, Whole part) :
    WholeInside (commas parts) := by
  unfold commas separated
  induction parts with
  | nil => exact Whole.nil.inside
  | cons part parts ih =>
    have first : WholeInside part := (h part (by simp)).inside
    cases parts with
    | nil => simpa using first
    | cons next parts =>
      have comma : WholeInside [mark ','] := fun _ _ => rfl
      rw [List.intercalate_cons_cons]
      exact (first.append comma).append (ih (fun other mem => h other (by simp [mem])))

/-- What stands in angle brackets is one argument. -/
theorem whole_angled {inner : List Token} (h : WholeInside inner) : Whole (angled inner) := by
  intro depth rest
  have opened : cutAtCommas depth (angled inner ++ rest) =
      (cutAtCommas (depth + 1) (inner ++ mark '>' :: rest)).modifyHead (mark '<' :: ·) := by
    have same : angled inner ++ rest = mark '<' :: (inner ++ mark '>' :: rest) := by simp [angled]
    rw [same]
    rfl
  have closed : cutAtCommas (depth + 1) (mark '>' :: rest) = (cutAtCommas depth rest).modifyHead (mark '>' :: ·) := rfl
  rw [opened, h, closed]
  cases cutAtCommas depth rest with
  | nil => rfl
  | cons piece pieces => simp [angled]

/-- Parts joined by commas are found again if each of them stays whole. -/
theorem cutAtCommas_commas {parts : List (List Token)} (h : ∀ part ∈ parts, Whole part) (nonempty : parts ≠ []) :
    cutAtCommas 0 (commas parts) = parts := by
  unfold commas separated
  induction parts with
  | nil => exact absurd rfl nonempty
  | cons part parts ih =>
    have first : Whole part := h part (by simp)
    cases parts with
    | nil =>
      have alone := first 0 []
      simpa [cutAtCommas] using alone
    | cons next parts =>
      have others := ih (fun other mem => h other (by simp [mem])) (by simp)
      rw [List.intercalate_cons_cons, List.append_assoc, first, List.singleton_append, cutAtCommas, others]
      simp [mark, isComma]

/-- Parts joined by commas are found again. -/
theorem arguments_commas {parts : List (List Token)} (h : ∀ part ∈ parts, Whole part ∧ part ≠ []) :
    arguments (commas parts) = parts := by
  cases parts with
  | nil => rfl
  | cons part parts =>
    have some : (commas (part :: parts)).isEmpty = false := by
      have nonempty := (h part (by simp)).2
      cases parts with
      | nil => simpa [commas, separated] using nonempty
      | cons next parts => simp [commas, separated, List.intercalate_cons_cons, nonempty]
    rw [arguments, some]
    exact cutAtCommas_commas (fun part mem => (h part mem).1) (by simp)

/-! ## §4. Types. -/

/-- What a type in source code is made of: names that are no keywords, signs and empty parentheses. -/
inductive TypeToken : Token → Prop
  | word {id : Identifier} (h : ∀ keyword, Identifier.keywords.contains keyword = true → id ≠ ⟨keyword, false⟩) :
      TypeToken (.word id)
  | sign (c : Char) (joint : Bool) : TypeToken (.sign c joint)
  | unit : TypeToken (parens [])

/-- The identifier that is a keyword has no other name. -/
theorem eq_of_keyword {name keyword : String} (known : Identifier.keywords.contains keyword = true)
    (same : (⟨name, false⟩ : Identifier) = ⟨keyword, false⟩) : name = keyword := by
  have plain : ∀ k ∈ Identifier.keywords, isFirm k = true ∧ k.toList.head? ≠ some '"' := by decide
  obtain ⟨firm, bare⟩ := plain keyword (List.contains_iff_mem.1 known)
  exact Spelling.eq_of_ofText (congrArg Identifier.spelling same) firm bare

/-- Checked names are no keywords, unless they are raw. -/
theorem typeToken_escaped {s : String} {id : Identifier} (h : Identifier.escaped s = .ok id) : TypeToken (.word id) := by
  refine .word (fun keyword known => ?_)
  rintro rfl
  -- an identifier with a prefix is raw
  have plain : ∀ {name : String}, Identifier.prefixed name ≠ .ok ⟨keyword, false⟩ := by
    intro name made
    have raised := congrArg Identifier.raw (Identifier.prefixed_eq_ok made).2.2
    cases raised
  unfold Identifier.escaped at h
  split at h
  next => exact plain h
  next free =>
    unfold Identifier.ofText at h
    split at h
    · exact plain h
    · obtain rfl := eq_of_keyword known (Identifier.plain_eq_ok h).2.symm
      exact free known

/-- A fixed word that is no keyword may stand in a type. -/
theorem typeToken_fixed {name : String} (h : Identifier.keywords.contains name = false) : TypeToken (fixed name) := by
  refine .word (fun keyword known same => ?_)
  rw [← eq_of_keyword known same, h] at known
  cases known

/-- Parts of types make a type, with a separator that may stand in one. -/
theorem typeToken_separated {separator : List Token} {parts : List (List Token)} (between : ∀ t ∈ separator, TypeToken t)
    (h : ∀ part ∈ parts, ∀ t ∈ part, TypeToken t) : ∀ t ∈ separated separator parts, TypeToken t := by
  unfold separated
  induction parts with
  | nil =>
    intro t mem
    cases mem
  | cons part parts ih =>
    cases parts with
    | nil => simpa using h part (by simp)
    | cons next parts =>
      rw [List.intercalate_cons_cons]
      intro t mem
      rcases List.mem_append.1 mem with mem | mem
      · rcases List.mem_append.1 mem with mem | mem
        · exact h part (by simp) t mem
        · exact between t mem
      · exact ih (fun other known => h other (by simp [known])) t mem

/-- A path of names is a type. -/
theorem typeToken_path {names : List Identifier} (h : ∀ id ∈ names, TypeToken (.word id)) :
    ∀ t ∈ path names, TypeToken t := by
  refine typeToken_separated (fun t mem => ?_) (fun part mem t known => ?_)
  · rcases List.mem_cons.1 mem with rfl | mem
    · exact .sign _ _
    · rw [List.mem_singleton.1 mem]
      exact .sign _ _
  · obtain ⟨id, named, rfl⟩ := List.mem_map.1 mem
    rw [List.mem_singleton.1 known]
    exact h id named

/-- Angle brackets may stand in a type. -/
theorem typeToken_angled {inner : List Token} (h : ∀ t ∈ inner, TypeToken t) : ∀ t ∈ angled inner, TypeToken t := by
  intro t mem
  rcases List.mem_append.1 mem with mem | mem
  · rcases List.mem_cons.1 mem with rfl | mem
    · exact .sign _ _
    · exact h t mem
  · rw [List.mem_singleton.1 mem]
    exact .sign _ _

/-- A path is one argument. -/
theorem whole_path (names : List Identifier) : Whole (path names) := by
  unfold path separated
  induction names with
  | nil => exact Whole.nil
  | cons name names ih =>
    have first : Whole [.word name] := Whole.flat rfl
    cases names with
    | nil => simpa using first
    | cons next names =>
      have between : Whole scope := Whole.flat rfl
      rw [List.map_cons, List.map_cons, List.intercalate_cons_cons]
      exact (first.append between).append ih

mutual

/-- A type in source code is made of type tokens, and commas stand inside of its brackets only. -/
theorem typeTokens_made : ∀ {type : TargetType} {stream : List Token}, typeTokens type = .ok stream →
    (∀ t ∈ stream, TypeToken t) ∧ Whole stream
  | .unit, stream, h => by
    cases h
    exact ⟨by simpa using .unit, Whole.single rfl⟩
  | .builtin b, stream, h => by
    cases h
    refine ⟨?_, Whole.single rfl⟩
    intro t mem
    rw [List.mem_singleton.1 mem]
    exact typeToken_fixed (by cases b <;> decide)
  | .list element, stream, h => by
    rw [typeTokens] at h
    obtain ⟨content, inner, h⟩ := bind_ok h
    cases h
    obtain ⟨tokens, whole⟩ := typeTokens_made inner
    refine ⟨?_, Whole.cons (Whole.single rfl) (whole_angled whole.inside)⟩
    intro t mem
    rcases List.mem_cons.1 mem with rfl | mem
    · exact typeToken_fixed (by decide)
    · exact typeToken_angled tokens t mem
  | .named segments arguments, stream, h => by
    rw [typeTokens.eq_def] at h
    obtain ⟨names, checked, h⟩ := bind_ok h
    have front : ∀ t ∈ path names, TypeToken t := by
      refine typeToken_path (fun id mem => ?_)
      obtain ⟨s, -, made⟩ := exists_of_mem_mapM checked mem
      exact typeToken_escaped made
    cases arguments with
    | nil =>
      cases h
      exact ⟨front, whole_path names⟩
    | cons arg args =>
      obtain ⟨parts, inner, h⟩ := bind_ok h
      cases h
      have all := typeTokensList_made inner
      refine ⟨?_, (whole_path names).append (whole_angled (wholeInside_commas (fun part mem => (all part mem).2)))⟩
      intro t mem
      rcases List.mem_append.1 mem with mem | mem
      · exact front t mem
      · refine typeToken_angled (typeToken_separated (fun t mem => ?_) (fun part mem => (all part mem).1)) t mem
        rw [List.mem_singleton.1 mem]
        exact .sign _ _

/-- Each of several types is made of words, signs and empty parentheses, and is one argument. -/
theorem typeTokensList_made : ∀ {types : List TargetType} {parts : List (List Token)},
    typeTokensList types = .ok parts → ∀ part ∈ parts, (∀ t ∈ part, TypeToken t) ∧ Whole part
  | [], parts, h => by
    cases h
    intro part mem
    cases mem
  | type :: types, parts, h => by
    rw [typeTokensList] at h
    obtain ⟨one, first, h⟩ := bind_ok h
    obtain ⟨more, others, h⟩ := bind_ok h
    cases h
    intro part mem
    rcases List.mem_cons.1 mem with rfl | mem
    · exact typeTokens_made first
    · exact typeTokensList_made others part mem

end

/-- A type holds no keyword. -/
theorem wordsOther_of_typeTokens {stream : List Token} (h : ∀ t ∈ stream, TypeToken t) {keyword : String}
    (known : Identifier.keywords.contains keyword = true) : WordsOther keyword stream := by
  rintro t mem rfl
  cases h _ mem with
  | word free => exact free keyword known rfl

/-- A type holds no block. -/
theorem blockless_of_typeTokens {stream : List Token} (h : ∀ t ∈ stream, TypeToken t) : Blockless stream := by
  induction stream with
  | nil => exact fun _ => rfl
  | cons t stream ih =>
    have others := ih (fun other mem => h other (by simp [mem]))
    intro rest
    rw [List.cons_append]
    cases h t (by simp) with
    | word | sign | unit => exact others rest

end ScriptBridge.Token

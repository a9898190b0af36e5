import ScriptBridge.Proofs.Binding.ClassFile
import ScriptBridge.Proofs.Binding.Definitions

/-!
# ScriptBridge.Proofs.Binding.Functions

The functions of a class file, read off its code.

The readers know that a class is published by the `register_prototype` of its `ScriptClass` implementation, and that
a selector is a function around a `Selector` record with a list of `Overload` records.  They do not know how the file
was put together.

Main results:
  * `functions_tokens` — the free functions of a file: its wrappers, its selectors and `register_prototype`;
  * `registering?_tokens` — the body of the function that publishes the class;
  * `table?_body` — the overloads that a selector lists.
-/

namespace ScriptBridge.Binding

open ScriptBridge.Symbol ScriptBridge.Declared ScriptBridge.Token

/-! ## §1. Readers. -/

/-- The value of a field of a record. -/
def field? (name : String) (record : List Token) : Option (List Token) :=
  (cutAtCommas 0 record).findSome? (fun piece =>
    match piece with
    | .word n :: .sign ':' false :: value => if n = ⟨name, false⟩ then some value else none
    | _ => none)

/-- The elements of a borrowed array. -/
def elements? : List Token → Option (List (List Token))
  | [.sign '&' false, .group .bracket inner] => some (arguments inner)
  | _ => none

/-- The type checks and the wrapper of an overload. -/
def overload? : List Token → Option (List (List Token) × List Token)
  | [.word o, .group .brace record] =>
    if o = ⟨"Overload", false⟩ then do
      let checks ← (field? "params" record).bind elements?
      let wrapper ← field? "wrapper" record
      return (checks, wrapper)
    else none
  | _ => none

/-- The overloads that the body of a selector lists. -/
def table? (body : List Token) : Option (List (List (List Token) × List Token)) := do
  let record ← block? body
  let overloads ← (field? "overloads" record).bind elements?
  overloads.mapM overload?

/-- The free functions of a file, each by its name and its body. -/
def functions (code : List Token) : List (Identifier × List Token) :=
  items "fn" code

/-- The body of the function that publishes the class: the `register_prototype` of its `ScriptClass`
implementation. -/
def registering? (code : List Token) : Option (List Token) := do
  let implementation ← (items "impl" code).lookup ⟨"ScriptClass", false⟩
  (items "fn" implementation).lookup ⟨"register_prototype", false⟩

/-! ## §2. Records. -/

/-- A field of a record ends at its comma. -/
theorem cutAtCommas_recordField {name : String} {value : List Token} (whole : Whole value) (rest : List Token) :
    cutAtCommas 0 (Selector.recordField name value ++ rest) = typed (expr name) value :: cutAtCommas 0 rest := by
  have front : Whole (expr name ++ [mark ':']) := Whole.flat rfl
  have named : Whole (typed (expr name) value) := by simpa [typed] using front.append whole
  have comma : cutAtCommas 0 (mark ',' :: rest) = [] :: cutAtCommas 0 rest := rfl
  rw [Selector.recordField, List.append_assoc, named, List.singleton_append, comma]
  simp

/-- A field is found with its value. -/
theorem field?_here {name : String} {value : List Token} (whole : Whole value) (rest : List Token) :
    field? name (Selector.recordField name value ++ rest) = some value := by
  rw [field?, cutAtCommas_recordField whole, List.findSome?_cons]
  simp [typed, expr, fixed, mark]

/-- A field of another name is passed over. -/
theorem field?_later {name other : String} (different : (⟨other, false⟩ : Identifier) ≠ ⟨name, false⟩)
    {value : List Token} (whole : Whole value) (rest : List Token) :
    field? name (Selector.recordField other value ++ rest) = field? name rest := by
  rw [field?, cutAtCommas_recordField whole, List.findSome?_cons]
  simp only [typed, expr, fixed, mark, List.singleton_append, if_neg different]
  rfl

/-- The elements of an array are found again. -/
theorem elements?_array {parts : List (List Token)} (h : ∀ part ∈ parts, Whole part ∧ part ≠ []) :
    elements? (borrow [brackets (commas parts)]) = some parts :=
  congrArg some (arguments_commas h)

/-- An array stays whole, whatever is in it. -/
theorem whole_array (parts : List (List Token)) : Whole (borrow [brackets (commas parts)]) :=
  Whole.flat rfl

/-! ## §3. Tables. -/

/-- The test whether a script value has a type. -/
def typeCheck (type : List Token) : List Token :=
  asInterface type "ScriptType" ++ scope ++ [fixed "is_of_type"]

/-- The check of a type stays whole if the type does. -/
theorem whole_typeCheck {type : List Token} (whole : Whole type) : Whole (typeCheck type) := by
  have interface : Whole (asInterface type "ScriptType") :=
    whole_angled (whole.append (Whole.flat rfl)).inside
  have between : Whole scope := Whole.flat rfl
  exact (interface.append between).append (Whole.single rfl)

/-- **A row of a table** is read off the code of its candidate. -/
theorem overload?_candidate {c : Candidate} (types : ∀ type ∈ c.types, Whole type) :
    overload? (Selector.candidateTokens c) = some (c.types.map typeCheck, [.word c.wrapper]) := by
  have checks : ∀ part ∈ c.types.map typeCheck, Whole part ∧ part ≠ [] := by
    intro part mem
    obtain ⟨type, known, rfl⟩ := List.mem_map.1 mem
    exact ⟨whole_typeCheck (types type known), by simp [typeCheck]⟩
  have wrapper : Whole [.word c.wrapper] := Whole.single rfl
  have written : Selector.candidateTokens c = [.word ⟨"Overload", false⟩,
      .group .brace (Selector.recordField "params" (borrow [brackets (commas (c.types.map typeCheck))]) ++
        (Selector.recordField "wrapper" [.word c.wrapper] ++ []))] := by
    rw [List.append_nil]
    rfl
  rw [written, overload?, if_pos rfl, field?_here (whole_array _), field?_later (by decide) (whole_array _),
    field?_here wrapper, Option.bind_some, elements?_array checks]
  rfl

namespace Selector

/-- The body of a selector. -/
def body (s : Selector) : List Token :=
  let record := [fixed "Selector",
    braces (recordField "name" [text s.label] ++ recordField "kind" s.kindTokens ++
      recordField "overloads" (borrow [brackets (commas (s.candidates.map candidateTokens))]))]
  constant "SELECTOR" (expr "Selector") record ++ send (expr "SELECTOR") "dispatch" [expr "ctx", expr "engine"]

/-- The kind of a selector stays whole. -/
theorem whole_kindTokens (s : Selector) : Whole s.kindTokens := by
  have path : ∀ variant : String, Whole (fixedPath ["SelectorKind", variant]) :=
    fun _ => Whole.flat rfl
  unfold kindTokens
  split
  · exact (path "Constructor").append (Whole.single rfl)
  · exact path "Method"

/-- A selector lists its candidates, each with one check per parameter. -/
theorem table?_body {s : Selector} (types : ∀ c ∈ s.candidates, ∀ type ∈ c.types, Whole type) :
    table? s.body = some (s.candidates.map (fun c => (c.types.map typeCheck, [.word c.wrapper]))) := by
  have overloads : Whole (borrow [brackets (commas (s.candidates.map candidateTokens))]) := whole_array _
  -- the body is one block, whose last field lists the candidates
  have record : block? s.body = some (recordField "name" [text s.label] ++ (recordField "kind" s.kindTokens ++
      (recordField "overloads" (borrow [brackets (commas (s.candidates.map candidateTokens))]) ++ []))) := by
    rw [List.append_nil, ← List.append_assoc]
    rfl
  have listed : ∀ part ∈ s.candidates.map candidateTokens, Whole part ∧ part ≠ [] := by
    intro part mem
    obtain ⟨c, -, rfl⟩ := List.mem_map.1 mem
    exact ⟨Whole.flat rfl, by simp [candidateTokens]⟩
  have read : ∀ candidates : List Candidate, (∀ c ∈ candidates, ∀ type ∈ c.types, Whole type) →
      (candidates.map candidateTokens).mapM overload? =
        some (candidates.map (fun c => (c.types.map typeCheck, [.word c.wrapper]))) := by
    intro candidates types
    induction candidates with
    | nil => rfl
    | cons c candidates ih =>
      rw [List.map_cons, List.mapM_cons, overload?_candidate (types c (by simp)),
        ih (fun other mem => types other (by simp [mem]))]
      rfl
  rw [table?, record, Option.bind_eq_bind, Option.bind_some, field?_later (by decide) (Whole.single rfl),
    field?_later (by decide) (whole_kindTokens s), field?_here overloads, Option.bind_some, elements?_array listed]
  exact read s.candidates types

end Selector

/-! ## §4. Wrappers. -/

/-- Whether a token is a block. -/
def isBlock : Token → Bool
  | .group .brace _ => true
  | _ => false

/-- A stream without blocks has no first one. -/
theorem block?_eq_none {stream : List Token} (h : stream.any isBlock = false) : block? stream = none := by
  induction stream with
  | nil => rfl
  | cons t stream ih =>
    obtain ⟨here, later⟩ : isBlock t = false ∧ stream.any isBlock = false := by simpa using h
    cases t with
    | group delimiter inner =>
      cases delimiter with
      | brace => cases here
      | bracket | parenthesis | invisible => exact ih later
    | word | sign | literal => exact ih later

/-- No block stands in a type. -/
theorem isBlock_of_typeTokens {type : TargetType} {stream : List Token} (h : typeTokens type = .ok stream) :
    stream.any isBlock = false := by
  refine List.any_eq_false.2 (fun t mem => ?_)
  cases (typeTokens_made h).1 t mem with
  | word | sign | unit => exact Bool.false_ne_true

namespace Wrapper

/-- The body of a wrapper in the file of the class `owner`. -/
def body (owner : List Token) (w : Wrapper) : List Token :=
  constant "FN" (borrow (expr "str")) [text w.label] ++ w.countCheck ++ w.receiverTokens owner ++
    (w.arguments.mapIdx argumentTokens).flatten ++ w.invocation owner ++ w.writeBack owner ++ w.answer owner

section

variable {owner : List Token} {w : Wrapper}

/-- No block stands in the lines that read arguments. -/
theorem isBlock_arguments {arguments : List Argument} (types : ∀ a ∈ arguments, a.type.any isBlock = false) :
    (arguments.mapIdx argumentTokens).flatten.any isBlock = false := by
  refine List.any_eq_false.2 (fun t mem => ?_)
  obtain ⟨part, known, mem⟩ := List.mem_flatten.1 mem
  obtain ⟨i, bound, rfl⟩ := List.mem_mapIdx.1 known
  have type := types _ (List.getElem_mem bound)
  refine List.any_eq_false.1 ?_ t mem
  unfold argumentTokens localName
  split
  all_goals simp [Token.bind, statement, typed, conversion, orFail, call, withType, member, angled, scope, operator,
    isBlock, type, fixed, mark, expr, argumentName, parens]

/-- No block stands in the native call. -/
theorem isBlock_nativeCall (owned : owner.any isBlock = false) : (w.nativeCall owner).any isBlock = false := by
  unfold nativeCall
  dsimp only
  split
  · rfl
  · simp [call, angled, scope, operator, owned, isBlock, mark, parens]

/-- No block stands in the line that holds the native call. -/
theorem isBlock_invocation (owned : owner.any isBlock = false) : (w.invocation owner).any isBlock = false := by
  have called := isBlock_nativeCall (w := w) owned
  unfold invocation
  split
  · simp [Token.bind, statement, typed, expr, fixed, mark, isBlock, owned, called]
  · simp [statement, mark, isBlock, called]
  · simp [Token.bind, statement, send, call, member, expr, fixed, mark, parens, isBlock, called]

/-- What a wrapper does with its receiver, before the call and behind it. -/
theorem isBlock_receiver (owned : owner.any isBlock = false) : w.countCheck.any isBlock = false ∧
    (w.receiverTokens owner).any isBlock = false ∧ (w.writeBack owner).any isBlock = false := by
  unfold countCheck receiverTokens writeBack
  rcases w.receiver with _ | ⟨describes, isConst⟩
  · exact ⟨rfl, rfl, rfl⟩
  · cases describes <;> cases isConst <;> simp [Token.bind, statement, typed, conversion, localName, send, orFail,
      call, withType, member, angled, scope, operator, isBlock, owned, fixed, mark, expr, parens]

/-- No block stands in the answer. -/
theorem isBlock_answer : (w.answer owner).any isBlock = false := by
  unfold answer
  split
  all_goals rfl

/-- A wrapper lists nothing: its body is a series of statements without a block. -/
theorem table?_body (owned : owner.any isBlock = false) (types : ∀ a ∈ w.arguments, a.type.any isBlock = false) :
    table? (w.body owner) = none := by
  obtain ⟨counted, received, writtenBack⟩ := isBlock_receiver (w := w) owned
  have head : (constant "FN" (borrow (expr "str")) [text w.label]).any isBlock = false := rfl
  have none : block? (w.body owner) = none := by
    refine block?_eq_none ?_
    simp only [body, List.any_append, head, counted, received, isBlock_arguments types, isBlock_invocation owned,
      writtenBack, isBlock_answer, Bool.or_self]
  rw [table?, none]
  rfl

end

end Wrapper

/-! ## §5. The functions of a file. -/

namespace ClassFile

/-- An import brings no items of another keyword. -/
theorem lacks_useAll {keyword : String} (other : (⟨"use", false⟩ : Identifier) ≠ ⟨keyword, false⟩)
    {stream : List Token} (h : Lacks keyword (stream ++ scope)) : Lacks keyword (useAll stream) := by
  have use : Lacks keyword [fixed "use"] := Lacks.word other
  have all : Lacks keyword [mark '*', mark ';'] := fun _ => rfl
  have parts : useAll stream = [fixed "use"] ++ ((stream ++ scope) ++ [mark '*', mark ';']) := by
    simp [useAll, statement]
  rw [parts]
  exact use.append (h.append all)

/-- The imports at the head of a file bring no items that begin with the keyword. -/
theorem lacks_imports {keyword : String} (other : (⟨"use", false⟩ : Identifier) ≠ ⟨keyword, false⟩) {paths : Paths}
    {s : Scope} {f : ClassFile} (made : Made paths s f) :
    Lacks keyword (useAll (f.runtime ++ scope ++ [fixed "prelude"]) ++ useAll f.natives) := by
  have names : ∀ {text stream}, pathOf text = .ok stream → Lacks keyword (stream ++ scope) := by
    intro text stream h
    obtain ⟨segments, -, h⟩ := bind_ok h
    cases h
    exact Lacks.path_scope segments
  have prelude : Lacks keyword (f.runtime ++ scope ++ [fixed "prelude"] ++ scope) := by
    rw [List.append_assoc]
    exact (names made.runtime).append (Lacks.path_scope [⟨"prelude", false⟩])
  exact (lacks_useAll other prelude).append (lacks_useAll other (names made.natives))

/-- The conversions of a class bring no functions of the file. -/
theorem lacks_conversions {type : List Token} (others : WordsOther "fn" type) :
    Lacks "fn" (conversionImplementations type) :=
  ((lacks_implementation "ToScript" (by decide) others).append
    (lacks_implementation "FromScript" (by decide) others)).append
      (lacks_implementation "ScriptType" (by decide) others)

section

variable {paths : Paths} {s : Scope} {f : ClassFile}

/-- The type of a class holds no keyword. -/
theorem wordsOther_type (made : Made paths s f) {keyword : String}
    (known : Identifier.keywords.contains keyword = true) : WordsOther keyword f.type :=
  wordsOther_of_typeTokens (typeTokens_made made.type).1 known

/-- What the implementation of the interface of a class holds. -/
def interfaceBody (f : ClassFile) : List Token :=
  constant "CLASS_NAME" (borrow (lifetime "static" ++ expr "str")) [text f.label] ++ f.marshalling.tokens ++
    f.registration.tokens

/-- What follows behind that implementation. -/
def ending (f : ClassFile) : List Token :=
  conversionImplementations f.type ++ documentation "Publishes the constructor on the engine's global object." ++
    fixed "pub" :: function (fixed "register_prototype") [typed (expr "engine") (borrowMut (expr "ScriptEngine"))]
      (returning (expr "ScriptValue"))
      (call (asInterface f.type "ScriptClass" ++ scope ++ [fixed "register_prototype"]) [expr "engine"])

/-- **The parts of a class file**: allowances, imports, wrappers, selectors, the implementation and the ending. -/
theorem tokens_parts (f : ClassFile) : f.tokens =
    allowances ++ ((useAll (f.runtime ++ scope ++ [fixed "prelude"]) ++ useAll f.natives) ++
      ((f.wrappers.map (·.tokens f.type)).flatten ++ ((f.selectors.map (·.tokens)).flatten ++
        (implementation "ScriptClass" f.type f.interfaceBody ++ f.ending)))) := by
  simp [tokens, interfaceBody, ending]

/-- The ending brings one function, which registers the class. -/
theorem functions_ending (made : Made paths s f) :
    ∃ registering, items "fn" f.ending = [(⟨"register_prototype", false⟩, registering)] := by
  have remark : Lacks "fn" (documentation "Publishes the constructor on the engine's global object.") := fun _ => rfl
  have visible : Lacks "fn" [fixed "pub"] := Lacks.word (by decide)
  rw [ending, List.append_assoc, lacks_conversions (wordsOther_type made (by decide)), remark, ← List.singleton_append,
    visible, ← List.append_nil (function _ _ _ _)]
  exact ⟨_, items_function (fun _ => rfl) (.of_check (by decide)) []⟩

/-- The free functions of a file are its wrappers, its selectors and the function that registers the class. -/
theorem functions_tokens (made : Made paths s f) : ∃ wrappers selectors registering,
    functions f.tokens = wrappers ++ selectors ++ [(⟨"register_prototype", false⟩, registering)] ∧
    List.Forall₂ (fun w item => item = (w.name, w.body f.type)) f.wrappers wrappers ∧
    List.Forall₂ (fun selector item => item = (selector.name, selector.body)) f.selectors selectors := by
  have wrapper : ∀ w ∈ f.wrappers, ∃ item : Identifier × List Token, item = (w.name, w.body f.type) ∧
      ∀ rest, items "fn" (w.tokens f.type ++ rest) = item :: items "fn" rest :=
    fun w _ => ⟨_, rfl, items_function (fun _ => rfl) (.of_check (by decide))⟩
  have selector : ∀ selector ∈ f.selectors, ∃ item : Identifier × List Token, item = (selector.name, selector.body) ∧
      ∀ rest, items "fn" (selector.tokens ++ rest) = item :: items "fn" rest :=
    fun selector _ => ⟨_, rfl, items_function (fun _ => rfl) (.of_check (by decide))⟩
  obtain ⟨wrappers, named, first⟩ := items_flatten wrapper
  obtain ⟨selectors, listed, second⟩ := items_flatten selector
  obtain ⟨registering, last⟩ := functions_ending made
  have head : Lacks "fn" allowances := fun _ => rfl
  refine ⟨wrappers, selectors, registering, ?_, named, listed⟩
  rw [functions, tokens_parts, head, lacks_imports (by decide) made, first, second,
    lacks_implementation "ScriptClass" (by decide) (wordsOther_type made (by decide)), last, List.append_assoc]

/-- The marshalling functions of a class come before its registration. -/
theorem functions_interfaceBody (f : ClassFile) :
    (items "fn" f.interfaceBody).lookup ⟨"register_prototype", false⟩ = some f.registration.body := by
  have name : Lacks "fn" (constant "CLASS_NAME" (borrow (lifetime "static" ++ expr "str")) [text f.label]) :=
    fun _ => rfl
  have parts : f.interfaceBody = constant "CLASS_NAME" (borrow (lifetime "static" ++ expr "str")) [text f.label] ++
      (f.marshalling.toExisting ++ (Marshalling.toScriptValue ++ (f.marshalling.toConst ++
        (f.marshalling.fromScript ++ (f.registration.tokens ++ []))))) := by
    simp [interfaceBody, Marshalling.tokens]
  rw [parts, name]
  unfold Marshalling.toExisting Marshalling.toScriptValue Marshalling.toConst Marshalling.fromScript Registration.tokens
    fixed
  dsimp only
  rw [items_function (fun _ => rfl) (.of_check (by decide)), items_function (fun _ => rfl) (.of_check (by decide)),
    items_function (fun _ => rfl) (.of_check (by decide)), items_function (fun _ => rfl) (.of_check (by decide)),
    items_function (fun _ => rfl) (.of_check (by decide))]
  rfl

/-- The body of the function that publishes the class is that of its registration. -/
theorem registering?_tokens (made : Made paths s f) : registering? f.tokens = some f.registration.body := by
  have head : Lacks "impl" allowances := fun _ => rfl
  have wrappers : Lacks "impl" (f.wrappers.map (·.tokens f.type)).flatten :=
    Lacks.flatten_map (fun _ _ => lacks_function (.of_check (by decide)))
  have selectors : Lacks "impl" (f.selectors.map (·.tokens)).flatten :=
    Lacks.flatten_map (fun _ _ => lacks_function (.of_check (by decide)))
  rw [registering?, tokens_parts, head, lacks_imports (by decide) made, wrappers, selectors,
    items_implementation "ScriptClass" (blockless_of_typeTokens (typeTokens_made made.type).1)
      (wordsOther_type made (by decide))]
  exact functions_interfaceBody f

end

end ClassFile

end ScriptBridge.Binding

import ScriptBridge.Proofs.Binding.Functions
import ScriptBridge.Proofs.Symbol.Naming

/-!
# ScriptBridge.Proofs.Binding.ModuleFile

What the module file of a run says, read off its code.

The readers know that a module is declared by `mod` and its name, and that `register_all_prototypes` registers a
module by a call of its `register_prototype`.  They do not know how the file was put together.

Main results:
  * `declared_tokens` - the modules that the file declares;
  * `registered?_tokens` - the modules that it registers, in the order of the calls;
  * `ties_ofModules` - both are the modules that the file was made for.
-/

namespace ScriptBridge.Binding

open ScriptBridge.Symbol ScriptBridge.Token

/-! ## §1. Readers. -/

/-- The modules that code declares without giving their content. -/
def declaredModules : List Token → List Identifier
  | .word k :: .word name :: .sign ';' false :: rest =>
    if k = ⟨"mod", false⟩ then name :: declaredModules rest
    else declaredModules (.word name :: .sign ';' false :: rest)
  | _ :: rest => declaredModules rest
  | [] => []

/-- The module that a statement registers. -/
def registration? : List Token → Option Identifier
  | [.word name, .sign ':' true, .sign ':' false, .word f, .group .parenthesis [.word argument]] =>
    if f = ⟨"register_prototype", false⟩ ∧ argument = ⟨"engine", false⟩ then some name else none
  | _ => none

/-- The modules that `register_all_prototypes` registers; nothing if some statement does something else. -/
def registeredModules? (code : List Token) : Option (List Identifier) := do
  let body ← (functions code).lookup ⟨"register_all_prototypes", false⟩
  ((statements body).filter (fun statement => !statement.isEmpty)).mapM registration?

/-! ## §2. The module file. -/

namespace ModuleFile

/-- The declaration of a module. -/
def declaration (m : Identifier) : List Token :=
  statement [fixed "pub", fixed "mod", .word m]

/-- The call that registers a module. -/
def registration (m : Identifier) : List Token :=
  call (Token.word m :: scope ++ [fixed "register_prototype"]) [expr "engine"]

/-- What follows behind the declarations. -/
def ending (f : ModuleFile) : List Token :=
  documentation "Registers every generated class, in generation order." ++
    fixed "pub" :: function (fixed "register_all_prototypes")
      [typed (expr "engine") (borrowMut (f.runtime ++ scope ++ fixedPath ["prelude", "ScriptEngine"]))] []
      (f.modules.map (fun m => statement (registration m))).flatten

theorem tokens_parts (f : ModuleFile) : f.tokens = (f.modules.map declaration).flatten ++ f.ending :=
  List.append_assoc _ _ _

theorem declaredModules_declarations (modules : List Identifier) (rest : List Token) :
    declaredModules ((modules.map declaration).flatten ++ rest) = modules ++ declaredModules rest := by
  induction modules with
  | nil => rfl
  | cons m modules ih =>
    rw [List.map_cons, List.flatten_cons, List.append_assoc]
    show declaredModules
      (fixed "pub" :: fixed "mod" :: .word m :: mark ';' :: ((modules.map declaration).flatten ++ rest)) = _
    rw [fixed, fixed, mark, declaredModules, declaredModules, if_pos rfl, ih]
    · rfl
    · rintro _ _ _ ⟨⟩ ⟨⟩

/-- The file declares its modules. -/
theorem declared_tokens (f : ModuleFile) : declaredModules f.tokens = f.modules := by
  rw [tokens_parts, declaredModules_declarations]
  exact List.append_nil f.modules

theorem lacks_declarations (modules : List Identifier) : Lacks "fn" (modules.map declaration).flatten := by
  refine Lacks.flatten_map (fun m _ => ?_)
  have words : Lacks "fn" [fixed "pub", fixed "mod"] := (Lacks.word (by decide)).append (Lacks.word (by decide))
  exact words.append (Lacks.wordSign m ';' false)

theorem registration?_registration (m : Identifier) : registration? (registration m) = some m := rfl

/-- The file registers its modules, in their order. -/
theorem registered?_tokens (f : ModuleFile) : registeredModules? f.tokens = some f.modules := by
  have remark : Lacks "fn" (documentation "Registers every generated class, in generation order.") := fun _ => rfl
  have visible : Lacks "fn" [fixed "pub"] := Lacks.word (by decide)
  -- the declarations and the remark hold no function, so there is one, whose body is read statement by statement
  have body : functions f.tokens = [(⟨"register_all_prototypes", false⟩,
      (f.modules.map (fun m => statement (registration m))).flatten)] := by
    rw [functions, tokens_parts, lacks_declarations, ending, remark, ← List.singleton_append, visible,
      ← List.append_nil (function _ _ _ _)]
    exact items_function (fun _ => rfl) (.of_check rfl) []
  have calls : statements (f.modules.map (fun m => statement (registration m))).flatten =
      f.modules.map registration ++ [[]] := by
    rw [← List.append_nil (List.flatten _), statements_flatten (fun _ _ => rfl)]
    rfl
  have each : ∀ modules : List Identifier, (modules.map registration).mapM registration? = some modules := by
    intro modules
    induction modules with
    | nil => rfl
    | cons m modules ih =>
      rw [List.map_cons, List.mapM_cons, registration?_registration, ih]
      rfl
  have kept : (f.modules.map registration ++ [[]]).filter (fun statement => !statement.isEmpty) =
      f.modules.map registration := by
    rw [List.filter_append, List.filter_eq_self.2]
    · exact List.append_nil _
    · intro statement mem
      obtain ⟨m, -, rfl⟩ := List.mem_map.1 mem
      rfl
  rw [registeredModules?, body]
  show ((statements _).filter _).mapM registration? = _
  rw [calls, kept, each]

/-! ## §3. The modules of classes. -/

/-- The code ties the modules together: it declares and registers them, and nothing else, in this order. -/
structure Ties (modules : List String) (code : List Token) : Prop where
  declares : (declaredModules code).map (·.name) = modules
  registers : registeredModules? code = some (declaredModules code)

/-- **The module file for the modules of classes declares and registers these modules**, under their own names. -/
theorem ties_ofModules {paths : Paths} {classNames : List String} {f : ModuleFile}
    (h : ofModules paths (classNames.map moduleName) = .ok f) : Ties (classNames.map moduleName) f.tokens := by
  obtain ⟨runtime, -, h⟩ := bind_ok h
  obtain ⟨modules, named, h⟩ := bind_ok h
  cases h
  refine ⟨?_, by rw [registered?_tokens, declared_tokens]⟩
  rw [declared_tokens]
  have each := List.forall₂_map_left_iff.1 (forall₂_of_mapM named)
  exact (map_eq_of_forall₂ (each.imp (fun _ _ one => (name_escaped_moduleName one).1.symm))).symm

end ModuleFile

end ScriptBridge.Binding

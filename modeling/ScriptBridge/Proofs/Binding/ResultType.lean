import ScriptBridge.Proofs.Binding.Callables
import ScriptBridge.Proofs.Binding.ClassFile
import ScriptBridge.Proofs.Binding.ReceiverSource
import ScriptBridge.Proofs.Declared.Decomposition
import ScriptBridge.Proofs.Declared.Spelling

/-!
# ScriptBridge.Proofs.Binding.ResultType

Functions without a result.

A declared type says that there is no result if nothing but `void` is left of its words, or nothing at all, once
qualifiers are gone (`SaysVoid`).  A function counts as one without a result a little more often: reference and pointer
signs are taken off its type first, so a pointer to `void` counts, too (`IsBareIndirection`).  The wrapper of a function
that counts drops what the native function returns (`Wrapper.Drops`): it comes to the same end however the result would
be converted, and its answer is undefined.  Any other wrapper can answer every value.

Main results:
  * `returnsVoid_iff` - which declared types count as no result;
  * `Wrapper.drops_iff` - which wrappers drop the result;
  * `drops_result_iff` - both at once, for every function that a class file has a wrapper for.
-/

namespace ScriptBridge.Declared

open ScriptBridge.Text

/-! ## §1. Types that say void. -/

/-- The type says that there is no value: qualifiers aside, it is `void`, or empty. -/
def SaysVoid (t : List Char) : Prop :=
  sense t = [] ∨ sense t = ["void".toList]

instance (t : List Char) : Decidable (SaysVoid t) :=
  inferInstanceAs (Decidable (_ ∨ _))

/-- The text with spaces in place of its reference and pointer signs. -/
def unsigned (t : List Char) : List Char :=
  t.map (fun c => if isIndirection c then ' ' else c)

/-- The type is a reference or pointer to `void`, or to nothing. -/
def IsBareIndirection (t : List Char) : Prop :=
  t.any isIndirection = true ∧ SaysVoid (unsigned t)

instance (t : List Char) : Decidable (IsBareIndirection t) :=
  inferInstanceAs (Decidable (_ ∧ _))

variable {t : List Char}

/-- Such a type has the letters of `void` and of qualifiers in it, and white space. -/
theorem SaysVoid.forall_letter (h : SaysVoid t) {p : Char → Bool}
    (foreign : ("const".toList ++ "volatile".toList ++ "void".toList).any p = false)
    (visible : ∀ c, p c = true → isSpace c = false) : ∀ c ∈ t, p c = false := by
  rw [List.any_append, Bool.or_eq_false_iff] at foreign
  intro c mem
  rw [Bool.eq_false_iff]
  intro holds
  rcases mem_of_sense mem (visible c holds) with ⟨w, known, inside⟩ | ⟨w, qualifier, inside⟩
  · rcases h with none | void
    · rw [none] at known
      cases known
    · obtain rfl := List.mem_singleton.1 (void ▸ known)
      exact Bool.eq_false_iff.1 (forall_of_any foreign.2 c inside) holds
  · exact Bool.eq_false_iff.1 (notMem_qualifier foreign.1 qualifier c inside) holds

/-- What says `void` has no signs. -/
theorem SaysVoid.noSign (h : SaysVoid t) : ∀ c ∈ t, isIndirection c = false :=
  h.forall_letter (by decide) fun _ sign => by
    rw [Bool.eq_false_iff]
    intro space
    rw [(space_classes space).1] at sign
    cases sign

/-- With a sign in it, a type does not say `void`. -/
theorem SaysVoid.not_of_any (h : t.any isIndirection = true) : ¬ SaysVoid t := by
  intro void
  obtain ⟨c, mem, sign⟩ := List.any_eq_true.1 h
  rw [void.noSign c mem] at sign
  cases sign

/-- What says `void` is no template. -/
theorem SaysVoid.noBracket (h : SaysVoid t) : '<' ∉ t := by
  intro mem
  have other := h.forall_letter (p := (· == '<')) (by decide) (fun c same => eq_of_beq same ▸ by decide) '<' mem
  cases other

/-- A text without signs is left as it is. -/
theorem unsigned_plain (h : ∀ c ∈ t, isIndirection c = false) : unsigned t = t := by
  refine (List.map_congr_left fun c mem => ?_).trans (List.map_id t)
  rw [if_neg (by simp [h c mem])]
  rfl

/-- Outside of brackets all signs are blanked. -/
theorem blankIndirections_unbracketed (h : '<' ∉ t) : blankIndirections 0 t = unsigned t := by
  induction t with
  | nil => rfl
  | cons c t ih =>
    obtain ⟨here, later⟩ := not_or.1 (mt List.mem_cons.2 h)
    have depth : depthAfter 0 c = 0 := by
      rw [depthAfter, if_neg (Ne.symm here)]
      split
      · rfl
      · rfl
    rw [blankIndirections, depth, ih later]
    simp [unsigned]

/-- Blanking signs leaves a bracket where it is. -/
theorem mem_blankIndirections (mem : '<' ∈ t) : ∀ depth, '<' ∈ blankIndirections depth t := by
  induction t with
  | nil => cases mem
  | cons c t ih =>
    intro depth
    rcases List.mem_cons.1 mem with rfl | mem
    · rw [blankIndirections, if_neg (by simp [isIndirection])]
      exact List.mem_cons_self
    · exact List.mem_cons_of_mem _ (ih mem _)

/-- An opening bracket stays when the signs go. -/
theorem mem_unsigned (mem : '<' ∈ t) : '<' ∈ unsigned t :=
  List.mem_map.2 ⟨'<', mem, rfl⟩

/-- Once signs are blanked, a type says void if it did before, or if it is a bare indirection. -/
theorem saysVoid_blankIndirections_iff :
    SaysVoid (blankIndirections 0 t) ↔ SaysVoid t ∨ IsBareIndirection t := by
  by_cases bracket : '<' ∈ t
  · -- neither side can have one
    constructor
    · intro h
      exact absurd (mem_blankIndirections bracket 0) h.noBracket
    · rintro (h | ⟨-, h⟩)
      · exact absurd bracket h.noBracket
      · exact absurd (mem_unsigned bracket) h.noBracket
  · rw [blankIndirections_unbracketed bracket]
    cases sign : t.any isIndirection with
    | true =>
      simp [IsBareIndirection, sign, SaysVoid.not_of_any sign]
    | false =>
      rw [unsigned_plain (forall_of_any sign)]
      simp [IsBareIndirection, sign]

/-- The words of a basic type are those that it was made of. -/
theorem words_basicType (t : List Char) : words (basicType t) = basicWords t := by
  rw [basicType_eq, words_spaceOut]
  have each : ∀ w ∈ basicWords t, words w = [w] := by
    intro w mem
    obtain ⟨some, solid, -⟩ := basicWords_classes mem
    exact words_solid solid some
  rw [List.flatMap_congr each, List.flatMap_singleton']

namespace TargetType

/-- Only a blank text and `void` have no value. -/
theorem isUnit_ofBasic_iff : (ofBasic t).isUnit = true ↔ trim t = [] ∨ trim t = "void".toList := by
  have template : ∀ name arguments, (ofTemplate name arguments).isUnit = false := by
    intro name arguments
    unfold ofTemplate
    split
    · split <;> rfl
    · rfl
  rw [ofBasic]
  split
  next void => exact iff_of_true rfl void
  next other =>
    refine iff_of_false ?_ other
    split
    · exact Bool.false_ne_true
    · rw [template]
      exact Bool.false_ne_true

/-- A declared type is read as the unit type if it says `void` once its top-level signs are blanked. -/
theorem isUnit_ofDeclared_iff {type : String} :
    (ofDeclared type).isUnit = true ↔ SaysVoid (blankIndirections 0 type.toList) := by
  have words := words_basicType type.toList
  rw [ofDeclared, isUnit_ofBasic_iff]
  constructor
  · -- trimming leaves the words
    rintro (blank | void)
    · rw [← words_trim, blank] at words
      exact .inl words.symm
    · rw [← words_trim, void] at words
      exact .inr words.symm
  · rintro (none | void)
    · refine .inl ?_
      rw [basicType_eq, basicWords_eq, none]
      rfl
    · exact .inr (trim_of_words (words.trans void))

end TargetType

end ScriptBridge.Declared

namespace ScriptBridge.Symbol

open ScriptBridge.Declared

/-- **What counts as no result**: a type that says void, and a bare indirection. -/
theorem returnsVoid_iff (d : Declaration) :
    d.returnsVoid = true ↔ SaysVoid d.type.toList ∨ IsBareIndirection d.type.toList :=
  TargetType.isUnit_ofDeclared_iff.trans saysVoid_blankIndirections_iff

end ScriptBridge.Symbol

namespace ScriptBridge.Binding

open ScriptBridge.Native ScriptBridge.Declared ScriptBridge.Symbol
open ScriptBridge.Script (Value Object ObjectId Store StoreM ConvertError InvocationError CallContext)

/-! ## §2. Wrappers that drop the result. -/

section

variable {α : Type}

/-- The native function, its result converted in another way. -/
@[reducible]
def NativeItem.converting (m : NativeItem α) (toScript : m.Result → StoreM Value) : NativeItem α :=
  { m with toScript := toScript }

/-- The local variables of a wrapper do not depend on that. -/
def Locals.converting {m : NativeItem α} (toScript : m.Result → StoreM Value) (locals : Locals m) :
    Locals (m.converting toScript) :=
  ⟨locals.this, locals.arguments, locals.ret⟩

end

/-- The wrapper drops what the native function returns. -/
structure Wrapper.Drops (w : Wrapper) (f : ClassFile) : Prop where
  /-- How the result would be converted makes no difference. -/
  unused {α : Type} (n : NativeClass α) (m : NativeItem α) (toScript : m.Result → StoreM Value) (call : CallContext) :
    w.run f n (m.converting toScript) call = w.run f n m call
  /-- An answer is undefined. -/
  undefined {α : Type} (n : NativeClass α) (m : NativeItem α) (call : CallContext) (s t : Store) (v : Value) :
    w.run f n m call s = (.ok v, t) → v = .undefined

section

variable {α : Type} {f : ClassFile} {n : NativeClass α} {w : Wrapper} {m : NativeItem α} {call : CallContext}

/-- A statement of a wrapper that answers nothing has no use for the conversion of the result. -/
theorem Statement.run_converting (nothing : w.outcome = .nothing) (toScript : m.Result → StoreM Value)
    (st : Statement) (locals : Locals m) :
    st.run f n w (m.converting toScript) call (locals.converting toScript) =
      Locals.converting toScript <$> st.run f n w m call locals := by
  cases st with
  | checkCount parameters => simp only [run, map_bind, map_pure]
  | invoke =>
    -- the result is not looked at
    simp only [run, nothing, map_bind, map_pure]
    rfl
  | receive _ | argument _ _ | writeBack =>
    simp only [run, map_bind, map_pure]
    rfl

/-- A wrapper without a result runs in the same way, whatever the result would be converted to. -/
theorem Statement.runAll_converting (nothing : w.outcome = .nothing) (toScript : m.Result → StoreM Value)
    (statements : List Statement) (locals : Locals m) :
    runAll f n w (m.converting toScript) call (locals.converting toScript) statements =
      Locals.converting toScript <$> runAll f n w m call locals statements := by
  induction statements generalizing locals with
  | nil => rfl
  | cons st rest ih =>
    rw [runAll_cons, run_converting nothing, bind_map_left, runAll_cons, map_bind]
    exact congrArg _ (funext ih)

/-- Nor has such a wrapper. -/
theorem Wrapper.run_converting (nothing : w.outcome = .nothing) (toScript : m.Result → StoreM Value) :
    w.run f n (m.converting toScript) call = w.run f n m call := by
  have start : (⟨n.fresh, [], .undefined⟩ : Locals m).converting toScript = ⟨n.fresh, [], .undefined⟩ := rfl
  funext s
  rw [run_eq, run_eq, ← start, Statement.runAll_converting nothing, map_eq_pure_bind, Attempt.bind_run]
  rcases (Statement.runAll f n w m call ⟨n.fresh, [], .undefined⟩ w.statements).run s with ⟨e | locals, t⟩
  · rfl
  · rfl

/-- Nor does it come to a result. -/
theorem Statement.run_undefined (nothing : w.outcome = .nothing) (st : Statement) {locals next : Locals m}
    {s t : Store} (none : locals.ret = .undefined) (ran : (st.run f n w m call locals).run s = (.ok next, t)) :
    next.ret = .undefined := by
  cases st with
  | invoke =>
    obtain ⟨_, _, -, rest⟩ := Attempt.bind_ok ran
    simp only [nothing] at rest
    cases rest
    rfl
  | checkCount _ | receive _ | argument _ _ | writeBack =>
    -- the result is left as it is
    obtain ⟨_, _, -, rest⟩ := Attempt.bind_ok ran
    cases rest
    exact none

/-- A wrapper without a result leaves nothing to answer with. -/
theorem Statement.runAll_undefined (nothing : w.outcome = .nothing) (statements : List Statement)
    {locals last : Locals m} {s t : Store} (none : locals.ret = .undefined)
    (ran : (runAll f n w m call locals statements).run s = (.ok last, t)) : last.ret = .undefined := by
  induction statements generalizing locals s with
  | nil =>
    cases ran
    exact none
  | cons st rest ih =>
    rw [runAll_cons] at ran
    obtain ⟨next, u, first, later⟩ := Attempt.bind_ok ran
    exact ih (run_undefined nothing st none first) later

end

/-! ## §3. Wrappers that do not. -/

/-- A native class of which nothing is known, and which can be read from every object. -/
def blankClass : NativeClass Unit where
  fresh := ()
  field _ := ⟨Unit, ⟨fun _ => return .undefined, fun _ => return .undefined, fun _ => return .ok ()⟩, id, fun a _ => a⟩
  attach _ o := o
  attached? _ := none

/-- A native function that takes all arguments and returns the native form of a value. -/
def NativeItem.returning (v : Value) : NativeItem Unit where
  Argument := Unit
  Result := Value
  typeName _ := ""
  ofScript _ _ := return .ok ()
  run a _ := return (a, v)
  toScript v := return v

/-- A call that fits the wrapper: its receiver and its arguments are objects. -/
def Wrapper.fitting (w : Wrapper) : CallContext :=
  ⟨.object ⟨0⟩, List.replicate w.arguments.length (.object ⟨0⟩), [], false⟩

variable {f : ClassFile} {w : Wrapper} {v : Value}

/-- An instance without fields is read off any object. -/
theorem ClassFile.read_blank (id : ObjectId) (s : Store) : ∃ t, f.read blankClass (.object id) () s = (.ok (), t) := by
  have each : ∀ (fields : List Field) s, ∃ t, Field.readAll blankClass id fields () s = (.ok (), t) := by
    intro fields
    induction fields with
    | nil => exact fun s => ⟨s, rfl⟩
    | cons field rest ih => exact fun s => ih s
  exact each _ s

/-- In a fitting call the receiver is the first object, wherever it is looked for. -/
theorem Wrapper.source_fitting (w : Wrapper) (r : Receiver) : r.source w.fitting = .object ⟨0⟩ := by
  unfold Receiver.source fitting
  cases w.arguments <;> cases r.describes <;> rfl

/-- The number of arguments that is checked is that of the wrapper. -/
theorem Statement.checkCount_of_mem {parameters : Nat} :
    checkCount parameters ∈ w.statements → parameters = w.arguments.length := by
  unfold Wrapper.statements
  rcases w.receiver with _ | ⟨describes, isConst⟩
  · simp
  · cases describes <;> cases isConst <;> simp

/-- Every statement of such a wrapper succeeds, and calling the function comes to the value. -/
theorem Statement.run_fitting (some : w.outcome ≠ .nothing) {st : Statement} (known : st ∈ w.statements)
    (locals : Locals (.returning v)) (s : Store) :
    ∃ next t, (st.run f blankClass w (.returning v) w.fitting locals).run s = (.ok next, t) ∧
      (locals.ret = v ∨ st = .invoke → next.ret = v) := by
  have kept : ∀ {st : Statement}, st ≠ .invoke → locals.ret = v ∨ st = .invoke → locals.ret = v :=
    fun other h => h.resolve_right other
  cases st with
  | checkCount parameters =>
    -- the call has as many arguments as the wrapper asks for
    have fits : w.fitting.checkCount w.label parameters = .ok () := by
      rw [checkCount_of_mem known, CallContext.checkCount, if_pos (by simp [Wrapper.fitting])]
    refine ⟨locals, s, ?_, kept (by rintro ⟨⟩)⟩
    simp only [run, Attempt.bind_run, fits]
    rfl
  | receive r =>
    obtain ⟨t, read⟩ := ClassFile.read_blank (f := f) ⟨0⟩ s
    refine ⟨{ locals with this := () }, t, ?_, kept (by rintro ⟨⟩)⟩
    have reads : f.read blankClass (r.source w.fitting) blankClass.fresh s = (.ok (), t) := by
      rw [w.source_fitting]
      exact read
    simp only [run, Attempt.bind_run, Attempt.converting_run, reads]
    rfl
  | argument index a => exact ⟨_, s, rfl, kept (by rintro ⟨⟩)⟩
  | invoke =>
    refine ⟨{ locals with ret := v }, s, ?_, fun _ => rfl⟩
    unfold run
    cases outcome : w.outcome with
    | nothing => exact absurd outcome some
    | constructed => rfl
    | converted => rfl
  | writeBack => exact ⟨locals, _, rfl, kept (by rintro ⟨⟩)⟩

/-- **In a fitting call** nothing fails, and the result of the native function is answered. -/
theorem Statement.runAll_fitting (some : w.outcome ≠ .nothing) {statements : List Statement}
    (known : ∀ st ∈ statements, st ∈ w.statements) (locals : Locals (.returning v)) (s : Store) :
    ∃ last t, (runAll f blankClass w (.returning v) w.fitting locals statements).run s = (.ok last, t) ∧
      (locals.ret = v ∨ .invoke ∈ statements → last.ret = v) := by
  -- once the call was made the result is there, and no other statement takes it away
  induction statements generalizing locals s with
  | nil => exact ⟨locals, s, rfl, fun h => h.resolve_right List.not_mem_nil⟩
  | cons st rest ih =>
    obtain ⟨here, later⟩ := List.forall_mem_cons.1 known
    obtain ⟨next, u, first, comes⟩ := run_fitting some here locals s
    obtain ⟨last, t, ran, stays⟩ := ih later next u
    refine ⟨last, t, ?_, ?_⟩
    · rw [runAll_cons, Attempt.bind_run, first]
      exact ran
    · rintro (already | mem)
      · exact stays (.inl (comes (.inl already)))
      · rcases List.mem_cons.1 mem with rfl | mem
        · exact stays (.inl (comes (.inr rfl)))
        · exact stays (.inr mem)

/-- **Any other wrapper can answer every value.** -/
theorem Wrapper.run_fitting (some : w.outcome ≠ .nothing) (v : Value) (s : Store) :
    ∃ t, w.run f blankClass (.returning v) w.fitting s = (.ok v, t) := by
  obtain ⟨last, t, ran, comes⟩ :=
    Statement.runAll_fitting (f := f) (v := v) some (fun _ mem => mem) ⟨(), [], .undefined⟩ s
  have invokes : Statement.invoke ∈ w.statements := by simp [statements]
  refine ⟨t, ?_⟩
  have start : blankClass.fresh = () := rfl
  rw [run_eq, start, ran]
  exact congrArg (fun ret => (Except.ok ret, t)) (comes (.inr invokes))

/-- **The wrappers that drop the result are those that answer nothing.** -/
theorem Wrapper.drops_iff : w.Drops f ↔ w.outcome = .nothing := by
  constructor
  · intro h
    by_contra some
    -- otherwise a call can come to `true`
    obtain ⟨t, ran⟩ := Wrapper.run_fitting (f := f) some (.bool true) .empty
    cases h.undefined _ _ _ _ _ _ ran
  · intro nothing
    refine ⟨?_, ?_⟩
    · exact fun n m toScript call => run_converting nothing toScript
    · intro α n m call s t v ran
      rw [run_eq] at ran
      split at ran
      · cases ran
      · next locals u all =>
        cases ran
        exact Statement.runAll_undefined nothing w.statements rfl all

/-! ## §4. The functions of a class. -/

/-- What a wrapper does with the result is settled by its callable. -/
theorem Wrapper.outcome_ofCallable {c : Callable} (h : Wrapper.ofCallable c = .ok w) : w.outcome = outcomeOf c := by
  obtain ⟨name, -, h⟩ := bind_ok h
  obtain ⟨arguments, -, h⟩ := bind_ok h
  obtain ⟨target, -, h⟩ := bind_ok h
  cases h
  rfl

/-- A constructor hands out the new value; of other functions those drop the result that count as ones without. -/
theorem Wrapper.outcomeOf_iff {c : Callable} :
    outcomeOf c = .nothing ↔ c.isConstructor = false ∧ c.declaration.returnsVoid = true := by
  unfold outcomeOf
  cases c.isConstructor <;> cases c.declaration.returnsVoid <;> decide

/-- **Which results are dropped**: a function counts as one without a result exactly if its declared type says void or
is a bare indirection, which no type is at once; and of the wrappers of a class, those of constructors aside, exactly
the ones of such functions drop the result. -/
theorem drops_result_iff (d : Declaration) :
    (d.returnsVoid = true ↔ SaysVoid d.type.toList ∨ IsBareIndirection d.type.toList) ∧
    ¬ (SaysVoid d.type.toList ∧ IsBareIndirection d.type.toList) ∧
    ∀ (paths : Paths) (s : Scope) (f : ClassFile), (ClassFile.ofScope paths s).2 = .ok f →
      ∀ c ∈ (Callables.ofScope s).callables, c.declaration = d → ∃ w ∈ f.wrappers, Wrapper.ofCallable c = .ok w ∧
        (w.Drops f ↔ c.isConstructor = false ∧ d.returnsVoid = true) := by
  refine ⟨returnsVoid_iff d, fun ⟨void, bare⟩ => SaysVoid.not_of_any bare.1 void, ?_⟩
  rintro paths s f made c kept rfl
  obtain ⟨w, mem, wrapper⟩ := exists_right_of_mem (forall₂_of_mapM (ClassFile.made_ofScope made).wrappers) kept
  refine ⟨w, mem, wrapper, ?_⟩
  rw [Wrapper.drops_iff, Wrapper.outcome_ofCallable wrapper, Wrapper.outcomeOf_iff]

/-- A class of buffers, which hand out where their data is. -/
def buffer : Scope where
  owner := { (default : Declaration) with name := "Buffer", kind := .classType }
  members := [{ (default : Declaration) with name := "data", kind := .function, type := "void *" }]

/-- A function that gives a pointer to `void`, whose result is dropped. -/
theorem drops_result_iff_buffer : ∃ f, (ClassFile.ofScope .standard buffer).2 = .ok f ∧
    ∃ c ∈ (Callables.ofScope buffer).callables, ∃ w ∈ f.wrappers, Wrapper.ofCallable c = .ok w ∧
      (w.Drops f ↔ c.isConstructor = false ∧ c.declaration.returnsVoid = true) := by
  obtain ⟨f, made⟩ : ∃ f, (ClassFile.ofScope .standard buffer).2 = .ok f := exists_ok (by decide +kernel)
  obtain ⟨c, kept⟩ : ∃ c, c ∈ (Callables.ofScope buffer).callables := ⟨_, List.mem_singleton_self _⟩
  exact ⟨f, made, c, kept, (drops_result_iff c.declaration).2.2 _ _ f made c kept rfl⟩

/-- Where the data is does not come back to scripts, although the function is declared to return a pointer. -/
theorem drops_pointer : ∃ d f w, buffer.members = [d] ∧ d.kind = .function ∧ d.type = "void *" ∧
    ¬ SaysVoid d.type.toList ∧ d.returnsVoid = true ∧ (ClassFile.ofScope .standard buffer).2 = .ok f ∧
      f.wrappers = [w] ∧ w.Drops f := by
  have counts : ∀ d ∈ buffer.members, d.returnsVoid = true := by
    intro d mem
    obtain rfl := List.mem_singleton.1 mem
    exact (returnsVoid_iff _).2 (.inr (by decide +kernel))
  have run : ((ClassFile.ofScope .standard buffer).2.toOption.any (fun f => f.wrappers.length == 1 &&
      f.wrappers.all (fun w => w.outcome == .nothing))) = true := by decide +kernel
  obtain ⟨f, made, checked⟩ := exists_ok_of_any run
  simp only [Bool.and_eq_true, beq_iff_eq, List.all_eq_true] at checked
  obtain ⟨w, wrappers⟩ := List.length_eq_one_iff.1 checked.1
  have nothing := checked.2 w (wrappers ▸ List.mem_singleton_self w)
  exact ⟨_, f, w, rfl, rfl, rfl, by decide, counts _ (List.mem_singleton_self _), made, wrappers,
    Wrapper.drops_iff.2 nothing⟩

end ScriptBridge.Binding

import ScriptBridge.Command.Arguments

/-!
# ScriptBridge.Proofs.Command.Strict

What the flag `--strict` changes in a request.

Reading arguments goes on in the same way whether skipped classes are tolerated or not, except that the flag may be given
only once.  So in front of arguments that do not have it, it makes the same request with a strict ending.

Main results:
  * `ofArguments_strict` - the flag in front of other arguments.
-/

namespace ScriptBridge.Command

open ScriptBridge.Binding ScriptBridge.Generation

/-- The draft of a request that tolerates no skipped class. -/
def Draft.strictly (d : Draft) : Draft :=
  { d with strict := true }

/-- The request that tolerates no skipped class. -/
def Arguments.strictly (a : Arguments) : Arguments :=
  { a with strict := true }

namespace Draft

theorem finish_eq_run {d : Draft} {a : Arguments} (h : d.finish = .run a) :
    a.strict = d.strict ∧ d.strictly.finish = .run a.strictly := by
  unfold finish at h
  split at h
  next symbols out selection first second third =>
    cases h
    refine ⟨rfl, ?_⟩
    unfold finish
    have same : d.strictly.selection? = d.selection? := rfl
    have symbols' : d.strictly.symbols = d.symbols := rfl
    have out' : d.strictly.out = d.out := rfl
    rw [same, symbols', out', first, second, third]
    rfl
  next => cases h

theorem assign_strictly (d : Draft) (s : Setting) (value : String) :
    d.strictly.assign s value = (d.assign s value).map strictly := by
  cases s with
  | symbols => simp [assign, strictly, Function.comp_def]
  | out => simp [assign, strictly, Function.comp_def]
  | runtime => simp [assign, strictly, Function.comp_def]
  | natives => simp [assign, strictly, Function.comp_def]
  | level => simp [assign, strictly, Function.comp_def]

theorem strict_assign {d next : Draft} {s : Setting} {value : String} (h : d.assign s value = some next) :
    next.strict = d.strict := by
  cases s with
  | symbols => obtain ⟨v, -, rfl⟩ := Option.map_eq_some_iff.1 h; rfl
  | out => obtain ⟨v, -, rfl⟩ := Option.map_eq_some_iff.1 h; rfl
  | runtime => obtain ⟨v, -, rfl⟩ := Option.map_eq_some_iff.1 h; rfl
  | natives => obtain ⟨v, -, rfl⟩ := Option.map_eq_some_iff.1 h; rfl
  | level => obtain ⟨v, -, rfl⟩ := Option.map_eq_some_iff.1 h; rfl

end Draft

/-- Reading goes on alike for a strict draft, and what is strict stays so. -/
theorem readArguments_strictly {d : Draft} {pending : Option Setting} {arguments : List String} {a : Arguments}
    (h : readArguments d pending arguments = .run a) : (d.strict = true → a.strict = true) ∧
      (a.strict = false → readArguments d.strictly pending arguments = .run a.strictly) := by
  fun_induction readArguments d pending arguments with
  | case2 d pending complete =>
    obtain ⟨same, finished⟩ := Draft.finish_eq_run h
    refine ⟨fun strict => same.trans strict, fun _ => ?_⟩
    rw [readArguments, if_neg complete, finished]
  | case3 d argument rest setting plain next assigned ih =>
    refine ⟨fun strict => (ih h).1 ((Draft.strict_assign assigned).trans strict), fun tolerant => ?_⟩
    rw [readArguments, if_pos plain, Draft.assign_strictly, assigned]
    exact (ih h).2 tolerant
  | case6 d argument rest looks =>
    obtain ⟨same, finished⟩ := Draft.finish_eq_run h
    refine ⟨fun strict => same.trans strict, fun _ => ?_⟩
    rw [readArguments, looks]
    exact finished
  | case7 d argument rest looks ih =>
    refine ⟨(ih h).1, fun tolerant => ?_⟩
    rw [readArguments, looks]
    exact (ih h).2 tolerant
  | case11 d argument rest name setting known looks ih =>
    refine ⟨(ih h).1, fun tolerant => ?_⟩
    simp only [readArguments, looks, known]
    exact (ih h).2 tolerant
  | case12 d argument rest name setting value known next assigned looks ih =>
    refine ⟨fun strict => (ih h).1 ((Draft.strict_assign assigned).trans strict), fun tolerant => ?_⟩
    simp only [readArguments, looks, known, Draft.assign_strictly, assigned]
    exact (ih h).2 tolerant
  | case17 d argument rest name flag unknown fresh looks ih =>
    refine ⟨(ih h).1, fun tolerant => ?_⟩
    simp only [readArguments, looks, unknown, flag]
    rw [if_neg (show ¬ d.strictly.keep = true from fresh)]
    exact (ih h).2 tolerant
  | case19 d argument rest name flag unknown fresh looks ih =>
    -- with the flag the request is strict
    have strict := (ih h).1 rfl
    exact ⟨fun _ => strict, fun tolerant => absurd (strict.symm.trans tolerant) (by decide)⟩
  | case21 d argument rest name flag unknown fresh looks ih =>
    refine ⟨(ih h).1, fun tolerant => ?_⟩
    simp only [readArguments, looks, unknown, flag]
    rw [if_neg (show ¬ d.strictly.all = true from fresh)]
    exact (ih h).2 tolerant
  | _ => cases h

/-- **The flag in front of other arguments** makes the request that they make, but strict, unless they have it
themselves. -/
theorem ofArguments_strict {arguments : List String} {a : Arguments} (h : Request.ofArguments arguments = .run a)
    (tolerant : a.strict = false) : Request.ofArguments ("--strict" :: arguments) = .run a.strictly := by
  have read := (readArguments_strictly h).2 tolerant
  exact read

end ScriptBridge.Command

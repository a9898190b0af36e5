import ScriptBridge.Binding.ClassFile
import ScriptBridge.Proofs.Outcome

/-!
# ScriptBridge.Proofs.Binding.ClassFile

What the making of a class file has settled once it has succeeded.
-/

namespace ScriptBridge.Binding

open ScriptBridge.Symbol ScriptBridge.Declared ScriptBridge.Token

namespace ClassFile

/-- The parts of the file of a class, each with the check it went through. -/
structure Made (paths : Paths) (s : Scope) (f : ClassFile) : Prop where
  runtime : pathOf paths.runtime = .ok f.runtime
  natives : pathOf paths.natives = .ok f.natives
  type : typeTokens (.ofBasicText s.owner.name) = .ok f.type
  wrappers : (Callables.ofScope s).callables.mapM Wrapper.ofCallable = .ok f.wrappers
  selectors : ((Callables.ofScope s).sets.filter (·.needsSelector)).mapM
    (Selector.ofSet s.owner.name (Callables.ofScope s)) = .ok f.selectors
  marshalling : ∃ fields, (fieldsOf s.owner.name s.members).2 = .ok fields ∧
    Marshalling.ofFields fields s.marshalsWholeValue = .ok f.marshalling
  registration : Registration.ofScope s (Callables.ofScope s) = .ok f.registration

theorem made_ofScope {paths : Paths} {s : Scope} {f : ClassFile} (h : (ClassFile.ofScope paths s).2 = .ok f) :
    Made paths s f := by
  unfold ClassFile.ofScope at h
  split at h
  next => cases h
  next runtime fromRuntime =>
    split at h
    next => cases h
    next natives fromNatives =>
      obtain ⟨fields, collected, h⟩ := bind_ok h
      obtain ⟨marshalling, marshalled, h⟩ := bind_ok h
      obtain ⟨registration, registered, h⟩ := bind_ok h
      obtain ⟨type, typed, h⟩ := bind_ok h
      obtain ⟨wrappers, wrapped, h⟩ := bind_ok h
      obtain ⟨selectors, selected, h⟩ := bind_ok h
      cases h
      exact ⟨fromRuntime, fromNatives, typed, wrapped, selected, ⟨fields, collected, marshalled⟩, registered⟩

/-- A class of trees: an overloaded method, a static function, fields, and a member that scripts do not see. -/
def grove : Scope where
  owner := { (default : Declaration) with name := "garden::Grove", kind := .classType }
  members :=
    [{ (default : Declaration) with name := "plant", kind := .function, type := "void", parameters := [⟨"age", "int"⟩] },
     { (default : Declaration) with name := "plant", kind := .function, type := "void", parameters :=
        [⟨"ages", "const QList<QList<int>> &"⟩] },
     { (default : Declaration) with name := "match", kind := .function, type := "bool", isConst := true },
     { (default : Declaration) with name := "empty", kind := .function, type := "garden::Grove", isStatic := true },
     { (default : Declaration) with name := "size", kind := .field, type := "int" },
     { (default : Declaration) with name := "type", kind := .field, type := "const QString", isConst := true },
     { (default : Declaration) with name := "origin", kind := .field, type := "garden::Tree", isStatic := true },
     { (default : Declaration) with name := "burn", kind := .function, type := "void", visibility := .owner }]

/-- Its code can be made. -/
theorem grove_ok : ∃ f, (ClassFile.ofScope .standard grove).2 = .ok f :=
  exists_ok (by decide +kernel)

end ClassFile

end ScriptBridge.Binding

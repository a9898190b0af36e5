import Mathlib.Data.List.Forall2

/-!
# ScriptBridge.Proofs.Outcome

Computations that may fail, taken apart once they have succeeded.
-/

namespace ScriptBridge

universe u v

variable {ε α β : Type}

theorem bind_ok {x : Except ε α} {f : α → Except ε β} {b : β} (h : (x >>= f) = .ok b) :
    ∃ a, x = .ok a ∧ f a = .ok b := by
  cases x with
  | error e => cases h
  | ok a => exact ⟨a, rfl, h⟩

/-- A result that is put into another form is there if it was there before. -/
theorem exists_map_eq_ok_iff {x : Except ε α} {f : α → β} : (∃ b, x.map f = .ok b) ↔ ∃ a, x = .ok a := by
  cases x with
  | error e => exact iff_of_false (by rintro ⟨_, ⟨⟩⟩) (by rintro ⟨_, ⟨⟩⟩)
  | ok a => exact iff_of_true ⟨f a, rfl⟩ ⟨a, rfl⟩

/-- Else it fails with the error it failed with. -/
theorem map_eq_error_iff {x : Except ε α} {f : α → β} {e : ε} : x.map f = .error e ↔ x = .error e := by
  cases x with
  | error other => exact ⟨fun same => congrArg _ (Except.error.inj same), fun same => congrArg _ (Except.error.inj same)⟩
  | ok a => exact iff_of_false (by rintro ⟨⟩) (by rintro ⟨⟩)

/-- Whether a computation succeeds can be checked where it can be run. -/
theorem exists_ok {x : Except ε α} (h : x.toOption.isSome = true) : ∃ a, x = .ok a := by
  cases x with
  | error e => cases h
  | ok a => exact ⟨a, rfl⟩

/-- So can what its result is like. -/
theorem exists_ok_of_any {x : Except ε α} {p : α → Bool} (h : x.toOption.any p = true) : ∃ a, x = .ok a ∧ p a = true := by
  cases x with
  | error e => cases h
  | ok a => exact ⟨a, rfl, h⟩

/-- So can whether it fails. -/
theorem exists_error {x : Except ε α} (h : x.toOption.isNone = true) : ∃ e, x = .error e := by
  cases x with
  | error e => exact ⟨e, rfl⟩
  | ok a => cases h

/-- What `mapM` makes, it makes element by element. -/
theorem forall₂_of_mapM {f : α → Except ε β} {l : List α} {made : List β} (h : l.mapM f = .ok made) :
    List.Forall₂ (fun a b => f a = .ok b) l made := by
  induction l generalizing made with
  | nil =>
    rw [List.mapM_nil] at h
    cases h
    exact .nil
  | cons a l ih =>
    rw [List.mapM_cons] at h
    obtain ⟨b, first, h⟩ := bind_ok h
    obtain ⟨more, others, h⟩ := bind_ok h
    cases h
    exact .cons first (ih others)

theorem mapM_of_forall₂ {f : α → Except ε β} {l : List α} {made : List β}
    (h : List.Forall₂ (fun a b => f a = .ok b) l made) : l.mapM f = .ok made := by
  induction h with
  | nil => rfl
  | cons first _ ih =>
    rw [List.mapM_cons, first, ih]
    rfl

/-- If every element can be mapped, all can. -/
theorem exists_mapM_ok {f : α → Except ε β} {l : List α} (h : ∀ a ∈ l, ∃ b, f a = .ok b) :
    ∃ made, l.mapM f = .ok made := by
  induction l with
  | nil => exact ⟨[], rfl⟩
  | cons a l ih =>
    obtain ⟨b, first⟩ := h a List.mem_cons_self
    obtain ⟨more, others⟩ := ih (fun other mem => h other (List.mem_cons_of_mem a mem))
    refine ⟨b :: more, ?_⟩
    rw [List.mapM_cons, first, others]
    rfl

theorem exists_left_of_mem {α : Type u} {β : Type v} {R : α → β → Prop} {l : List α} {m : List β}
    (h : List.Forall₂ R l m) {b : β} (mem : b ∈ m) : ∃ a ∈ l, R a b := by
  induction h with
  | nil => cases mem
  | cons first _ ih =>
    rcases List.mem_cons.1 mem with rfl | mem
    · exact ⟨_, by simp, first⟩
    · obtain ⟨a, known, same⟩ := ih mem
      exact ⟨a, by simp [known], same⟩

theorem exists_right_of_mem {α : Type u} {β : Type v} {R : α → β → Prop} {l : List α} {m : List β}
    (h : List.Forall₂ R l m) {a : α} (mem : a ∈ l) : ∃ b ∈ m, R a b :=
  exists_left_of_mem (R := flip R) h.flip mem

theorem exists_of_mem_mapM {f : α → Except ε β} {l : List α} {made : List β} (h : l.mapM f = .ok made) {b : β}
    (mem : b ∈ made) : ∃ a ∈ l, f a = .ok b :=
  exists_left_of_mem (forall₂_of_mapM h) mem

theorem map_eq_of_forall₂ {γ : Type} {f : α → γ} {g : β → γ} {l : List α} {m : List β}
    (h : List.Forall₂ (fun a b => f a = g b) l m) : l.map f = m.map g := by
  rw [← List.forall₂_eq_eq_eq, List.forall₂_map_left_iff, List.forall₂_map_right_iff]
  exact h

/-- Two relations, one behind the other. -/
theorem forall₂_through {γ : Type} {R : α → β → Prop} {S : β → γ → Prop} {T : α → γ → Prop}
    (h : ∀ {a b c}, R a b → S b c → T a c) {l : List α} {m : List β} {n : List γ} (first : List.Forall₂ R l m)
    (second : List.Forall₂ S m n) : List.Forall₂ T l n := by
  induction first generalizing n with
  | nil =>
    cases second
    exact .nil
  | cons here _ ih =>
    cases second with
    | cons next others => exact .cons (h here next) (ih others)

end ScriptBridge

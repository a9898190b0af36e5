import Mathlib.Data.List.Induction
import Mathlib.Data.List.Nodup

/-!
# ScriptBridge.Proofs.FirstOccurrence

The elements of a list in the order in which they first occur.

`List.eraseDups` keeps the first occurrence of each element.  Walks over a list build it up from the front, so the
lemmas say what one more element at the end does.
-/

namespace ScriptBridge

variable {α : Type} [BEq α] [LawfulBEq α]

/-- An element that has occurred before adds nothing. -/
theorem eraseDups_concat_of_mem {l : List α} {a : α} (mem : a ∈ l) : (l ++ [a]).eraseDups = l.eraseDups := by
  rw [List.eraseDups_append]
  simp [List.removeAll, mem]

/-- A new element comes last. -/
theorem eraseDups_concat_of_not_mem {l : List α} {a : α} (new : a ∉ l) :
    (l ++ [a]).eraseDups = l.eraseDups ++ [a] := by
  have alone : [a].eraseDups = [a] := List.eraseDups_cons
  rw [List.eraseDups_append]
  simp [List.removeAll, new, alone]

/-- No element is kept twice. -/
theorem nodup_eraseDups (l : List α) : l.eraseDups.Nodup := by
  induction l using List.reverseRecOn with
  | nil => exact List.nodup_nil
  | append_singleton l a ih =>
    by_cases mem : a ∈ l
    · rwa [eraseDups_concat_of_mem mem]
    · rw [eraseDups_concat_of_not_mem mem]
      refine List.nodup_append.2 ⟨ih, List.nodup_singleton a, ?_⟩
      rintro b known c here rfl
      rw [List.mem_singleton.1 here, List.mem_eraseDups] at known
      exact mem known

end ScriptBridge

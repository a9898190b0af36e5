/-!
# ScriptBridge.Keyed

Lists of keyed entries, in the order in which their keys first came.

`List.lookup` finds the value of a key.  Main statements: setting a key changes the value of that key and of no other
(`lookup_set`), and so does erasing it (`lookup_erase`).
-/

namespace ScriptBridge.Keyed

variable {κ β : Type} [DecidableEq κ]

/-- Gives a key a value: in place, if the key is there, else at the end. -/
def set (key : κ) (value : β) : List (κ × β) → List (κ × β)
  | [] => [(key, value)]
  | (other, old) :: rest => if other = key then (key, value) :: rest else (other, old) :: set key value rest

/-- Takes a key away. -/
def erase (key : κ) (entries : List (κ × β)) : List (κ × β) :=
  entries.filter (fun entry => entry.1 ≠ key)

variable [BEq κ] [LawfulBEq κ]

theorem lookup_set (key other : κ) (value : β) (entries : List (κ × β)) :
    (set key value entries).lookup other = if other = key then some value else entries.lookup other := by
  -- the first entry with the key is replaced where it stands, so all others are found as before
  induction entries with
  | nil =>
    by_cases same : other = key
    · simp [set, same]
    · simp [set, same]
  | cons entry rest ih =>
    obtain ⟨here, old⟩ := entry
    by_cases hit : here = key
    · subst hit
      by_cases same : other = here
      · simp [set, same]
      · have apart : (other == here) = false := by simpa using same
        simp [set, List.lookup_cons, apart, same]
    · rw [set, if_neg hit, List.lookup_cons, List.lookup_cons, ih]
      by_cases found : other = here
      · simp [found, hit]
      · have apart : (other == here) = false := by simpa using found
        simp [apart]

theorem lookup_filter (keep : κ → Bool) (other : κ) (entries : List (κ × β)) :
    (entries.filter (fun entry => keep entry.1)).lookup other =
      if keep other then entries.lookup other else none := by
  induction entries with
  | nil => simp
  | cons entry rest ih =>
    obtain ⟨here, old⟩ := entry
    by_cases stays : keep here = true
    · rw [List.filter_cons, if_pos stays, List.lookup_cons, List.lookup_cons, ih]
      by_cases found : other = here
      · simp [found, stays]
      · have apart : (other == here) = false := by simpa using found
        simp [apart]
    · rw [List.filter_cons, if_neg stays, ih, List.lookup_cons]
      by_cases found : other = here
      · simp [found, stays]
      · have apart : (other == here) = false := by simpa using found
        simp [apart]

theorem lookup_erase (key other : κ) (entries : List (κ × β)) :
    (erase key entries).lookup other = if other = key then none else entries.lookup other := by
  have filtered := lookup_filter (fun k => decide (k ≠ key)) other entries
  rw [erase, filtered]
  by_cases same : other = key
  · simp [same]
  · simp [same]

end ScriptBridge.Keyed

import ScriptBridge.Proofs.Symbol.Registry

/-!
# ScriptBridge.Proofs.Symbol.Duplicate

Which databases are refused because of their names.

Where kinds and visibilities are known and no member has members, a name that is already taken is the only reason to
refuse a database.  The name of a top-level entry can be taken in two ways: an earlier top-level entry has it, or it is
the key of a member of an earlier entry.  The first is the same in every order of the entries, the second is not: a
class that is listed as a member and again at the top level may stand in front of its outer class but not behind it.

Main results:
  * `ofEntries_sound` - a database of sound entries is made a registry, or refused at the first name that is taken;
  * `duplicate_iff` - when this happens, in terms of names;
  * `duplicate_member` - a database in which all names differ, and which loads from back to front only.
-/

namespace ScriptBridge.Symbol

open ScriptBridge.Database

/-! ## §1. Sound entries. -/

/-- Kind and visibility are known. -/
def Known (e : Entry) : Prop :=
  (Kind.ofName? e.kind).isSome = true ∧
    (Visibility.ofName? (e.visibility.getD Visibility.everyone.name)).isSome = true

instance (e : Entry) : Decidable (Known e) :=
  inferInstanceAs (Decidable (_ ∧ _))

/-- Nothing but its name can be wrong with the entry: all kinds and visibilities are known, and no member has
members. -/
def Sound (e : Entry) : Prop :=
  Known e ∧ ∀ m ∈ e.memberList, Known m ∧ m.memberList.isEmpty = true

instance (e : Entry) : Decidable (Sound e) :=
  inferInstanceAs (Decidable (_ ∧ _))

theorem Known.exists_ofEntry {e : Entry} (h : Known e) : ∃ d, Declaration.ofEntry e = .ok d := by
  obtain ⟨kind, visibility⟩ := h
  obtain ⟨kind, known⟩ := Option.isSome_iff_exists.1 kind
  obtain ⟨visibility, seen⟩ := Option.isSome_iff_exists.1 visibility
  unfold Declaration.ofEntry
  rw [known, seen]
  exact ⟨_, rfl⟩

namespace Registry

theorem exists_memberDeclarations (owner : String) {members : List Entry}
    (h : ∀ m ∈ members, Known m ∧ m.memberList.isEmpty = true) :
    ∃ declarations, memberDeclarations owner members = .ok declarations := by
  induction members with
  | nil => exact ⟨[], rfl⟩
  | cons m rest ih =>
    obtain ⟨known, flat⟩ := h m List.mem_cons_self
    obtain ⟨first, read⟩ := known.exists_ofEntry
    obtain ⟨others, more⟩ := ih (fun n mem => h n (List.mem_cons_of_mem m mem))
    unfold memberDeclarations
    rw [if_pos flat, read, more]
    exact ⟨first :: others, rfl⟩

/-- A sound entry is added unless its name is taken. -/
theorem add_sound (r : Registry) {e : Entry} (sound : Sound e) :
    ∃ next, r.add e = if (r.lookup e.name).isSome then .error (.duplicate e.name) else .ok next := by
  obtain ⟨known, members⟩ := sound
  obtain ⟨owner, read⟩ := known.exists_ofEntry
  obtain ⟨declarations, each⟩ := exists_memberDeclarations e.name members
  exact ⟨r.extend owner declarations, add_eq read each⟩

/-! ## §2. Names that are taken. -/

/-- The entry is the first whose name is a key of an entry before it. -/
structure FirstTaken (entries before : List Entry) (e : Entry) : Prop where
  here : ∃ after, entries = before ++ e :: after
  free : before.Pairwise LeavesName
  taken : e.name ∈ keys before

theorem FirstTaken.not_pairwise {entries before : List Entry} {e : Entry} (h : FirstTaken entries before e) :
    ¬ entries.Pairwise LeavesName := by
  obtain ⟨⟨after, rfl⟩, -, taken⟩ := h
  intro apart
  obtain ⟨f, mem, key⟩ := List.mem_flatMap.1 taken
  exact (List.pairwise_append.1 apart).2.2 f mem e List.mem_cons_self key

/-- **Sound entries make a registry, or they are refused at the first name that is taken.** -/
theorem ofEntries_sound {entries : List Entry} (sound : ∀ e ∈ entries, Sound e) :
    (∃ r, ofEntries entries = .ok r) ∨
      ∃ before e, FirstTaken entries before e ∧ ofEntries entries = .error (.duplicate e.name) := by
  -- induction on the entries from the last one on; a refusal is final, so there is nothing more to prove after it
  induction entries using List.reverseRecOn with
  | nil => exact .inl ⟨_, rfl⟩
  | append_singleton entries e ih =>
    rw [ofEntries_snoc]
    rcases ih (fun f mem => sound f (List.mem_append_left _ mem)) with ⟨r, made⟩ | ⟨before, f, first, refused⟩
    · have represents := represents_ofEntries made
      obtain ⟨next, added⟩ := r.add_sound (sound e (by simp))
      rw [made]
      show (∃ r', r.add e = .ok r') ∨ _
      by_cases taken : (r.lookup e.name).isSome = true
      · rw [if_pos taken] at added
        have first : FirstTaken (entries ++ [e]) entries e :=
          ⟨⟨[], rfl⟩, represents.apart, (represents.lookup_isSome_iff e.name).1 taken⟩
        exact .inr ⟨entries, e, first, added⟩
      · rw [if_neg taken] at added
        exact .inl ⟨next, added⟩
    · obtain ⟨⟨after, here⟩, free, taken⟩ := first
      rw [refused]
      exact .inr ⟨before, f, ⟨⟨after ++ [e], by rw [here, List.append_assoc]; rfl⟩, free, taken⟩, rfl⟩

/-- Sound entries make a registry exactly if no name is taken. -/
theorem loads_iff {entries : List Entry} (sound : ∀ e ∈ entries, Sound e) :
    (∃ r, ofEntries entries = .ok r) ↔ entries.Pairwise LeavesName := by
  constructor
  · intro h
    obtain ⟨r, made⟩ := h
    exact (represents_ofEntries made).apart
  · intro apart
    rcases ofEntries_sound sound with loads | ⟨before, e, first, -⟩
    · exact loads
    · exact absurd apart first.not_pairwise

/-- The later entry is not called like a member of the earlier one. -/
def SparesMembers (earlier later : Entry) : Prop :=
  ∀ m ∈ earlier.memberList, memberKey earlier.name m.name ≠ later.name

/-- A name can be taken by a top-level entry and by a member. -/
theorem pairwise_leavesName_iff (entries : List Entry) :
    entries.Pairwise LeavesName ↔ (entries.map (·.name)).Nodup ∧ entries.Pairwise SparesMembers := by
  have split : ∀ earlier later : Entry, LeavesName earlier later ↔
      earlier.name ≠ later.name ∧ SparesMembers earlier later := by
    intro earlier later
    unfold LeavesName SparesMembers entryKeys
    rw [List.mem_cons, not_or, List.mem_map, not_exists]
    apply and_congr
    · exact ne_comm
    · exact forall_congr' (fun m => not_and)
  rw [List.Nodup, List.pairwise_map, ← List.pairwise_and_iff]
  exact List.Pairwise.iff split

/-- **Which databases are refused because of a name**: those in which two top-level entries have one name, and those
in which a top-level entry is called like a member of an entry before it.  All others load, and the name that is
complained of is the first that is taken. -/
theorem duplicate_iff {entries : List Entry} (sound : ∀ e ∈ entries, Sound e) :
    ((∃ name, ofEntries entries = .error (.duplicate name)) ↔
      ¬ (entries.map (·.name)).Nodup ∨ ¬ entries.Pairwise SparesMembers) ∧
    ((∃ r, ofEntries entries = .ok r) ↔
      (entries.map (·.name)).Nodup ∧ entries.Pairwise SparesMembers) ∧
    ∀ error, ofEntries entries = .error error →
      ∃ before e, FirstTaken entries before e ∧ error = .duplicate e.name := by
  -- loading and failing exclude each other, so one of them is enough
  have loads := loads_iff sound
  rw [pairwise_leavesName_iff] at loads
  have fails : ∀ error, ofEntries entries = .error error →
      ∃ before e, FirstTaken entries before e ∧ error = .duplicate e.name := by
    intro error failed
    rcases ofEntries_sound sound with ⟨r, made⟩ | ⟨before, e, first, refused⟩
    · rw [made] at failed
      cases failed
    · rw [refused] at failed
      exact ⟨before, e, first, (Except.error.inj failed).symm⟩
  refine ⟨?_, loads, fails⟩
  rw [← Decidable.not_and_iff_not_or_not, ← loads]
  constructor
  · intro refused made
    obtain ⟨name, refused⟩ := refused
    obtain ⟨r, made⟩ := made
    rw [made] at refused
    cases refused
  · intro none
    rcases ofEntries_sound sound with made | ⟨before, e, -, refused⟩
    · exact absurd made none
    · exact ⟨e.name, refused⟩

/-- A class, listed as a member of another one and again at the top level, behind it. -/
def orchard : List Entry := [
  { (default : Entry) with
    kind := "class", name := "Tree", members := some [{ (default : Entry) with kind := "class", name := "Leaf" }] },
  { (default : Entry) with kind := "class", name := "Tree::Leaf" }]

theorem duplicate_iff_orchard : (∀ e ∈ orchard, Sound e) ∧
    ((∃ name, ofEntries orchard = .error (.duplicate name)) ↔
      ¬ (orchard.map (·.name)).Nodup ∨ ¬ orchard.Pairwise SparesMembers) := by
  have sound : ∀ e ∈ orchard, Sound e := by decide +kernel
  exact ⟨sound, (duplicate_iff sound).1⟩

/-- **Names that differ do not suffice**, and the order of the entries matters. -/
theorem duplicate_member : (∀ e ∈ orchard, Sound e) ∧ (orchard.map (·.name)).Nodup ∧
    ofEntries orchard = .error (.duplicate "Tree::Leaf") ∧ ∃ r, ofEntries orchard.reverse = .ok r := by
  have sound : ∀ e ∈ orchard, Sound e := by decide +kernel
  have loads : ∃ r, ofEntries orchard.reverse = .ok r := exists_ok (by decide +kernel)
  exact ⟨sound, by decide +kernel, rfl, loads⟩

end Registry

end ScriptBridge.Symbol

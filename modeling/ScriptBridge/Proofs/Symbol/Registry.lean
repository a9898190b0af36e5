import Mathlib.Data.List.Induction
import ScriptBridge.Proofs.Outcome
import ScriptBridge.Symbol.Registry

/-!
# ScriptBridge.Proofs.Symbol.Registry

What the registry of a database holds, and which databases have one.

Every entry of a database makes a series of keys: its name, and `Class::member` for each member.  The keys of all
entries, in order, are those of the symbols, in order, and a registry answers a key with the first symbol that has it.
A top-level entry whose name is among the keys of an entry before it is refused.  `Represents` says all this of a
registry and the entries it was made from; adding an entry keeps it, and hence it holds of every registry.

Main results:
  * `Represents.add` - what adding an entry keeps;
  * `Represents.finds` - what a registry finds, from what it holds;
  * `ofEntries_represents` - both, of every registry.
-/

namespace ScriptBridge.Symbol

open ScriptBridge.Database

/-! ## §1. Entries and keys, in order. -/

/-- The entries in the order of their symbols: each top-level entry in front of its members. -/
def inOrder (entries : List Entry) : List Entry :=
  entries.flatMap (fun e => e :: e.memberList)

/-- The number of the symbol of the top-level entry at place `k`. -/
def rootNumber (entries : List Entry) (k : Nat) : Nat :=
  (inOrder (entries.take k)).length

/-- The keys that an entry makes. -/
def entryKeys (e : Entry) : List String :=
  e.name :: e.memberList.map (fun m => Registry.memberKey e.name m.name)

/-- The keys that a series of entries makes. -/
def keys (entries : List Entry) : List String :=
  entries.flatMap entryKeys

/-- The name of the later entry is no key of the earlier one. -/
def LeavesName (earlier later : Entry) : Prop :=
  later.name ∉ entryKeys earlier

section

variable (entries : List Entry) (e : Entry)

/-- One more class comes last, with its members. -/
theorem inOrder_snoc : inOrder (entries ++ [e]) = inOrder entries ++ e :: e.memberList := by
  simp [inOrder]

/-- One more class adds its keys at the end. -/
theorem keys_snoc : keys (entries ++ [e]) = keys entries ++ entryKeys e := by
  simp [keys]

/-- Each symbol has one key. -/
theorem length_keys : (keys entries).length = (inOrder entries).length := by
  unfold keys inOrder
  rw [List.length_flatMap, List.length_flatMap]
  simp [entryKeys]

/-- The next class is numbered by the symbols so far. -/
theorem rootNumber_length : rootNumber entries entries.length = (inOrder entries).length := by
  rw [rootNumber, List.take_length]

/-- One more class leaves the numbers of the others as they are. -/
theorem rootNumber_snoc {k : Nat} (before : k ≤ entries.length) :
    rootNumber (entries ++ [e]) k = rootNumber entries k := by
  rw [rootNumber, List.take_append_of_le_length before, rootNumber]

/-- The last of several entries, or one of those before it. -/
theorem getElem?_snoc {k : Nat} {f : Entry} (here : (entries ++ [e])[k]? = some f) :
    k < entries.length ∧ entries[k]? = some f ∨ k = entries.length ∧ f = e := by
  by_cases before : k < entries.length
  · rw [List.getElem?_append_left before] at here
    exact .inl ⟨before, here⟩
  · obtain ⟨bound, same⟩ := List.getElem?_eq_some_iff.1 here
    rw [List.length_append, List.length_singleton] at bound
    obtain rfl : k = entries.length := by omega
    rw [List.getElem_append_right (Nat.le_refl _)] at same
    exact .inr ⟨rfl, by simpa using same.symm⟩

end

/-- The first place of a key in two series, one behind the other. -/
theorem idxOf?_append (key : String) (first second : List String) :
    (first ++ second).idxOf? key = (first.idxOf? key).or ((second.idxOf? key).map (· + first.length)) :=
  List.findIdx?_append

/-- An entry with those before it and those behind it. -/
theorem split_at {entries : List Entry} {k : Nat} {e : Entry} (here : entries[k]? = some e) :
    entries = entries.take k ++ e :: entries.drop (k + 1) := by
  obtain ⟨bound, rfl⟩ := List.getElem?_eq_some_iff.1 here
  rw [← List.drop_eq_getElem_cons bound, List.take_append_drop]

/-- What an entry makes stands behind what the entries before it make. -/
theorem getElem?_flatMap {β : Type} (make : Entry → List β) {entries : List Entry} {k i : Nat} {e : Entry}
    (here : entries[k]? = some e) (inside : i < (make e).length) :
    (entries.flatMap make)[((entries.take k).flatMap make).length + i]? = (make e)[i]? := by
  have split := congrArg (List.flatMap make) (split_at here)
  rw [List.flatMap_append, List.flatMap_cons] at split
  rw [split, List.getElem?_append_right (Nat.le_add_right _ _), Nat.add_sub_cancel_left,
    List.getElem?_append_left inside]

/-- **The symbols of a class** are numbered on from its own number. -/
theorem getElem?_inOrder {entries : List Entry} {k i : Nat} {e : Entry} (here : entries[k]? = some e)
    (inside : i ≤ e.memberList.length) :
    (inOrder entries)[rootNumber entries k + i]? = (e :: e.memberList)[i]? :=
  getElem?_flatMap (fun e => e :: e.memberList) here (Nat.lt_succ_of_le inside)

/-- The keys of a class stand at the numbers of its symbols. -/
theorem getElem?_keys {entries : List Entry} {k i : Nat} {e : Entry} (here : entries[k]? = some e)
    (inside : i ≤ e.memberList.length) : (keys entries)[rootNumber entries k + i]? = (entryKeys e)[i]? := by
  rw [rootNumber, ← length_keys]
  exact getElem?_flatMap entryKeys here (by simp [entryKeys]; omega)

/-- The symbols of an entry come before those of later entries. -/
theorem rootNumber_add_lt {entries : List Entry} {k : Nat} {e : Entry} (here : entries[k]? = some e) :
    rootNumber entries k + e.memberList.length < (inOrder entries).length := by
  obtain ⟨f, found⟩ : ∃ f, (e :: e.memberList)[e.memberList.length]? = some f :=
    ⟨_, List.getElem?_eq_getElem (Nat.lt_succ_self _)⟩
  have last := getElem?_inOrder here (Nat.le_refl _)
  rw [found] at last
  exact (List.getElem?_eq_some_iff.1 last).1

/-- Every symbol is that of a top-level entry or that of a member. -/
theorem exists_place (entries : List Entry) {i : Nat} (bound : i < (inOrder entries).length) :
    ∃ k e, entries[k]? = some e ∧ (i = rootNumber entries k ∨
      ∃ j, j < e.memberList.length ∧ i = rootNumber entries k + 1 + j) := by
  -- induction on the entries from the last one on, since this is how a registry grows
  induction entries using List.reverseRecOn with
  | nil => exact absurd bound (Nat.not_lt_zero i)
  | append_singleton entries e ih =>
    by_cases before : i < (inOrder entries).length
    · obtain ⟨k, f, here, place⟩ := ih before
      obtain ⟨inside, -⟩ := List.getElem?_eq_some_iff.1 here
      rw [← rootNumber_snoc entries e (Nat.le_of_lt inside)] at place
      exact ⟨k, f, by rw [List.getElem?_append_left inside, here], place⟩
    · have last : rootNumber (entries ++ [e]) entries.length = (inOrder entries).length := by
        rw [rootNumber_snoc entries e (Nat.le_refl _), rootNumber_length]
      rw [inOrder_snoc, List.length_append, List.length_cons] at bound
      refine ⟨entries.length, e, by simp, ?_⟩
      rw [last]
      by_cases first : i = (inOrder entries).length
      · exact .inl first
      · exact .inr ⟨i - (inOrder entries).length - 1, by omega, by omega⟩

/-! ## §2. Adding an entry. -/

namespace Registry

/-- A declaration has the name of its entry. -/
theorem ofEntry_name {e : Entry} {d : Declaration} (h : Declaration.ofEntry e = .ok d) : d.name = e.name := by
  unfold Declaration.ofEntry at h
  split at h
  · cases h
  · split at h
    · cases h
    · cases h
      rfl

/-- The declarations of members are read one by one, and none of them has members. -/
theorem forall₂_of_memberDeclarations {owner : String} {entries : List Entry} {members : List Declaration}
    (h : memberDeclarations owner entries = .ok members) :
    List.Forall₂ (fun m d => Declaration.ofEntry m = .ok d) entries members := by
  induction entries generalizing members with
  | nil =>
    cases h
    exact .nil
  | cons m rest ih =>
    unfold memberDeclarations at h
    split at h
    · obtain ⟨first, read, h⟩ := bind_ok h
      obtain ⟨others, more, h⟩ := bind_ok h
      cases h
      exact .cons read (ih more)
    · cases h

/-- A registry with the symbols of one more class. -/
def extend (r : Registry) (owner : Declaration) (members : List Declaration) : Registry :=
  let id := r.symbols.length
  { symbols := r.symbols ++
      ⟨id, none, List.range' (id + 1) members.length, owner, (Scope.mk owner members).marshalsWholeValue⟩ ::
        memberSymbols id (id + 1) members
    names := claimMembers owner.name (claimName r.names owner.name id) (id + 1) members
    roots := r.roots ++ [id] }

/-- An entry that can be read is added unless its name is taken. -/
theorem add_eq {r : Registry} {e : Entry} {owner : Declaration} {members : List Declaration}
    (read : Declaration.ofEntry e = .ok owner) (each : memberDeclarations e.name e.memberList = .ok members) :
    r.add e = if (r.lookup e.name).isSome then .error (.duplicate e.name) else .ok (r.extend owner members) := by
  unfold add extend
  rw [read, each, ofEntry_name read]
  by_cases taken : (r.lookup e.name).isSome = true
  · simp only [if_pos taken]
    rfl
  · simp only [if_neg taken]
    rfl

/-- What an entry was like that could be added. -/
theorem add_eq_ok {r next : Registry} {e : Entry} (h : r.add e = .ok next) : ∃ owner members,
    Declaration.ofEntry e = .ok owner ∧ memberDeclarations e.name e.memberList = .ok members ∧
      r.lookup e.name = none ∧ next = r.extend owner members := by
  obtain ⟨owner, read, rest⟩ := bind_ok h
  cases free : r.lookup e.name with
  | some id =>
    rw [free] at rest
    cases rest
  | none =>
    rw [free] at rest
    obtain ⟨members, each, -⟩ := bind_ok rest
    rw [add_eq read each, free] at h
    exact ⟨owner, members, read, each, rfl, (Except.ok.inj h).symm⟩

/-- One more class is added to the registry of the others. -/
theorem ofEntries_snoc (entries : List Entry) (e : Entry) :
    ofEntries (entries ++ [e]) = ofEntries entries >>= fun r => r.add e := by
  unfold ofEntries
  rw [List.foldlM_append]
  congr 1
  funext r
  rw [List.foldlM_cons]
  cases r.add e with
  | error error => rfl
  | ok next => rfl

/-! ## §3. The symbols of a class. -/

/-- The symbols of members come one after the other, linked to their class. -/
theorem getElem?_memberSymbols (parent id : Nat) (members : List Declaration) (j : Nat) :
    (memberSymbols parent id members)[j]? = members[j]?.map (fun d => ⟨id + j, some parent, [], d, false⟩) := by
  induction members generalizing id j with
  | nil => rfl
  | cons d rest ih =>
    cases j with
    | zero => rfl
    | succ j =>
      show (memberSymbols parent (id + 1) rest)[j]? = _
      rw [ih, Nat.add_right_comm]
      rfl

/-- The symbols of an extended registry by their numbers: those that were there, the new top-level one, its members. -/
theorem getElem?_extend_of_lt (r : Registry) (owner : Declaration) (members : List Declaration) {i : Nat}
    (before : i < r.symbols.length) : (r.extend owner members).symbols[i]? = r.symbols[i]? :=
  List.getElem?_append_left before

/-- The symbol of the new class, linked to its members. -/
theorem getElem?_extend_root (r : Registry) (owner : Declaration) (members : List Declaration) :
    (r.extend owner members).symbols[r.symbols.length]? = some ⟨r.symbols.length, none,
      List.range' (r.symbols.length + 1) members.length, owner, (Scope.mk owner members).marshalsWholeValue⟩ := by
  show (r.symbols ++ _)[r.symbols.length]? = _
  rw [List.getElem?_append_right (Nat.le_refl _), Nat.sub_self]
  rfl

/-- The symbols of its members, linked to the class. -/
theorem getElem?_extend_member (r : Registry) (owner : Declaration) (members : List Declaration) (j : Nat) :
    (r.extend owner members).symbols[r.symbols.length + 1 + j]? =
      members[j]?.map (fun d => ⟨r.symbols.length + 1 + j, some r.symbols.length, [], d, false⟩) := by
  show (r.symbols ++ _)[r.symbols.length + 1 + j]? = _
  rw [List.getElem?_append_right (by omega), Nat.add_assoc, Nat.add_sub_cancel_left, Nat.add_comm 1,
    List.getElem?_cons_succ, getElem?_memberSymbols]
  rw [Nat.add_assoc, Nat.add_comm 1]

/-- The symbols of members have the declarations of their entries. -/
theorem forall₂_memberSymbols {entries : List Entry} {members : List Declaration} (parent id : Nat)
    (h : List.Forall₂ (fun m d => Declaration.ofEntry m = .ok d) entries members) :
    List.Forall₂ (fun (m : Entry) (s : Symbol) => Declaration.ofEntry m = .ok s.declaration) entries
      (memberSymbols parent id members) := by
  induction h generalizing id with
  | nil => exact .nil
  | cons read _ ih => exact .cons read (ih (id + 1))

/-- A name is given to the first that claims it. -/
theorem lookup_claimName (names : List (String × Nat)) (name : String) (id : Nat) (key : String) :
    (claimName names name id).lookup key = (names.lookup key).or (if name == key then some id else none) := by
  unfold claimName
  by_cases same : name = key
  · subst same
    cases taken : names.lookup name with
    | some other => simp [taken]
    | none => simp [taken, List.lookup_append]
  · have apart : (key == name) = false := beq_eq_false_iff_ne.2 (fun h => same h.symm)
    split
    · simp [same]
    · simp [same, List.lookup_append, List.lookup_cons, apart]

/-- A key finds what it found before, or else the first member that claims it. -/
theorem lookup_claimMembers (owner : String) (names : List (String × Nat)) (id : Nat) (members : List Declaration)
    (key : String) : (claimMembers owner names id members).lookup key =
      (names.lookup key).or (((members.map (fun d => memberKey owner d.name)).idxOf? key).map (id + ·)) := by
  induction members generalizing names id with
  | nil =>
    unfold claimMembers
    simp
  | cons d rest ih =>
    unfold claimMembers
    rw [ih, lookup_claimName, Option.or_assoc, List.map_cons, List.idxOf?_cons]
    congr 1
    by_cases same : memberKey owner d.name = key
    · simp [same]
    · simp [same, Function.comp_def, Nat.add_assoc, Nat.add_comm 1]

/-! ## §4. What a registry holds. -/

/-- The key of a member: `Class::member`.  Top-level symbols have none. -/
def qualifiedName? (r : Registry) (s : Symbol) : Option String :=
  (r.parent? s).map (fun owner => memberKey owner.declaration.name s.declaration.name)

/-- The registry holds the entries: its symbols are those of the entries, one for one, numbered in order and linked as
the entries are nested.  No top-level name is a key of an earlier entry, and of all keys the first ones count. -/
structure Represents (r : Registry) (entries : List Entry) : Prop where
  symbols : List.Forall₂ (fun (e : Entry) (s : Symbol) => Declaration.ofEntry e = .ok s.declaration) (inOrder entries)
    r.symbols
  numbered : ∀ (i : Nat) (s : Symbol), r.symbols[i]? = some s → s.id = i
  roots : r.roots = (List.range entries.length).map (rootNumber entries)
  root : ∀ (k : Nat) (e : Entry), entries[k]? = some e →
    ∃ s : Symbol, r.symbols[rootNumber entries k]? = some s ∧ s.parent = none ∧
      s.children = List.range' (rootNumber entries k + 1) e.memberList.length
  member : ∀ (k : Nat) (e : Entry) (j : Nat), entries[k]? = some e → j < e.memberList.length →
    ∃ s : Symbol, r.symbols[rootNumber entries k + 1 + j]? = some s ∧ s.parent = some (rootNumber entries k) ∧
      s.children = []
  apart : entries.Pairwise LeavesName
  names : ∀ key, r.lookup key = (keys entries).idxOf? key

namespace Represents

variable {r : Registry} {entries : List Entry}

/-- There are as many symbols as entries. -/
theorem length (h : r.Represents entries) : r.symbols.length = (inOrder entries).length :=
  h.symbols.length_eq.symm

/-- The empty registry holds no entries. -/
theorem of_empty : empty.Represents [] where
  symbols := .nil
  numbered _ _ here := by cases here
  roots := rfl
  root _ _ here := by cases here
  member _ _ _ here := by cases here
  apart := .nil
  names _ := rfl

/-- A name is free exactly if it is no key of the entries. -/
theorem lookup_isSome_iff (h : r.Represents entries) (name : String) :
    (r.lookup name).isSome = true ↔ name ∈ keys entries := by
  rw [h.names, List.isSome_idxOf?]

/-- The keys of an extended registry: those that were there come first. -/
theorem lookup_extend (h : r.Represents entries) {e : Entry} {owner : Declaration} {members : List Declaration}
    (read : Declaration.ofEntry e = .ok owner)
    (each : List.Forall₂ (fun m d => Declaration.ofEntry m = .ok d) e.memberList members) (key : String) :
    (r.extend owner members).lookup key = (keys (entries ++ [e])).idxOf? key := by
  have named : members.map (fun d => memberKey owner.name d.name) =
      e.memberList.map (fun m => memberKey e.name m.name) := by
    refine (map_eq_of_forall₂ (each.imp ?_)).symm
    intro m d one
    rw [ofEntry_name read, ofEntry_name one]
  show (claimMembers owner.name (claimName r.names owner.name r.symbols.length) _ members).lookup key = _
  rw [lookup_claimMembers, lookup_claimName, named, ofEntry_name read, Option.or_assoc]
  show (r.lookup key).or _ = _
  rw [h.names, keys_snoc, idxOf?_append, length_keys, ← h.length]
  congr 1
  -- the name of the entry comes in front of the keys of its members
  rw [entryKeys, List.idxOf?_cons]
  by_cases same : e.name = key
  · simp [same]
  · simp [same, Function.comp_def, Nat.add_comm, Nat.add_left_comm]

/-- The number of a new entry is that of the next symbol. -/
theorem rootNumber_last (h : r.Represents entries) (e : Entry) :
    rootNumber (entries ++ [e]) entries.length = r.symbols.length := by
  rw [rootNumber_snoc entries e (Nat.le_refl _), rootNumber_length, h.length]

/-- The symbols of the entries that were there stay where they are. -/
theorem getElem?_extend_earlier (h : r.Represents entries) (owner : Declaration) (members : List Declaration)
    {k j : Nat} {f : Entry} (here : entries[k]? = some f) (inside : j ≤ f.memberList.length) :
    (r.extend owner members).symbols[rootNumber entries k + j]? = r.symbols[rootNumber entries k + j]? := by
  have bound := rootNumber_add_lt here
  rw [← h.length] at bound
  exact getElem?_extend_of_lt r owner members (by omega)

/-- New symbols get the next numbers. -/
theorem numbered_extend (h : r.Represents entries) (owner : Declaration) (members : List Declaration) {i : Nat}
    {s : Symbol} (here : (r.extend owner members).symbols[i]? = some s) : s.id = i := by
  rcases Nat.lt_trichotomy i r.symbols.length with before | same | behind
  · rw [getElem?_extend_of_lt r owner members before] at here
    exact h.numbered i s here
  · rw [same, getElem?_extend_root] at here
    rw [same, ← Option.some.inj here]
  · -- a symbol behind the new top-level one is one of its members
    obtain ⟨j, rfl⟩ := Nat.exists_eq_add_of_le (Nat.succ_le_of_lt behind)
    rw [getElem?_extend_member] at here
    obtain ⟨d, -, rfl⟩ := Option.map_eq_some_iff.1 here
    rfl

/-- The new top-level symbol is the last one. -/
theorem roots_extend (h : r.Represents entries) (owner : Declaration) (members : List Declaration) (e : Entry) :
    (r.extend owner members).roots = (List.range (entries ++ [e]).length).map (rootNumber (entries ++ [e])) := by
  have earlier : ∀ k ∈ List.range entries.length, rootNumber entries k = rootNumber (entries ++ [e]) k := by
    intro k mem
    rw [rootNumber_snoc entries e (Nat.le_of_lt (List.mem_range.1 mem))]
  rw [List.length_append, List.length_singleton, List.range_succ, List.map_append, List.map_singleton,
    h.rootNumber_last]
  show r.roots ++ [r.symbols.length] = _
  rw [h.roots, List.map_congr_left earlier]

/-- A free name is left alone by all entries that were there. -/
theorem apart_snoc (h : r.Represents entries) {e : Entry} (free : r.lookup e.name = none) :
    (entries ++ [e]).Pairwise LeavesName := by
  refine List.pairwise_append.2 ⟨h.apart, List.pairwise_singleton _ _, ?_⟩
  intro f mem g only key
  obtain rfl := List.mem_singleton.1 only
  have taken : g.name ∈ keys entries := List.mem_flatMap.2 ⟨f, mem, key⟩
  rw [← h.lookup_isSome_iff, free] at taken
  cases taken

/-- **Adding an entry.**  What is there stays where it is, and the symbols of the entry come behind it. -/
theorem add (h : r.Represents entries) {e : Entry} {next : Registry} (added : r.add e = .ok next) :
    next.Represents (entries ++ [e]) := by
  obtain ⟨owner, members, read, declared, free, rfl⟩ := add_eq_ok added
  have each := forall₂_of_memberDeclarations declared
  have count : members.length = e.memberList.length := each.length_eq.symm
  exact {
    symbols := by
      rw [inOrder_snoc]
      exact List.rel_append h.symbols (.cons read (forall₂_memberSymbols _ _ each))
    numbered := fun i s => h.numbered_extend owner members
    roots := h.roots_extend owner members e
    root := by
      intro k f here
      rcases getElem?_snoc entries e here with ⟨before, here⟩ | ⟨rfl, rfl⟩
      · rw [rootNumber_snoc entries e (Nat.le_of_lt before)]
        obtain ⟨s, at_, shape⟩ := h.root k f here
        exact ⟨s, (h.getElem?_extend_earlier owner members here (Nat.zero_le _)).trans at_, shape⟩
      · rw [h.rootNumber_last]
        exact ⟨_, getElem?_extend_root r owner members, rfl, by rw [← count]⟩
    member := by
      intro k f j here inside
      rcases getElem?_snoc entries e here with ⟨before, here⟩ | ⟨rfl, rfl⟩
      · rw [rootNumber_snoc entries e (Nat.le_of_lt before)]
        obtain ⟨s, at_, shape⟩ := h.member k f j here inside
        rw [Nat.add_assoc] at at_ ⊢
        exact ⟨s, (h.getElem?_extend_earlier owner members here (by omega)).trans at_, shape⟩
      · rw [h.rootNumber_last, getElem?_extend_member, List.getElem?_eq_getElem (by omega)]
        exact ⟨_, rfl, rfl, rfl⟩
    apart := h.apart_snoc free
    names := h.lookup_extend read each }

end Represents

/-- **What a registry holds.** -/
theorem represents_ofEntries {r : Registry} {entries : List Entry} (h : ofEntries entries = .ok r) :
    r.Represents entries := by
  -- induction on the entries from the last one on, with `Represents` as the invariant
  induction entries using List.reverseRecOn generalizing r with
  | nil =>
    cases h
    exact .of_empty
  | append_singleton entries e ih =>
    rw [ofEntries_snoc] at h
    obtain ⟨before, made, added⟩ := bind_ok h
    exact (ih made).add added

/-! ## §5. What a registry finds. -/

/-- Top-level names are different and find their symbols.  Any other key finds the first member that has it. -/
structure Finds (r : Registry) (entries : List Entry) : Prop where
  distinct : (entries.map (·.name)).Nodup
  root : ∀ (k : Nat) (e : Entry), entries[k]? = some e →
    ∃ s : Symbol, r.symbols[rootNumber entries k]? = some s ∧ r.find? e.name = some s
  other : ∀ key, key ∉ entries.map (·.name) →
    r.find? key = r.symbols.find? (fun s => r.qualifiedName? s == some key)

namespace Represents

variable {r : Registry} {entries : List Entry}

/-- No two classes have the same name. -/
theorem distinct (h : r.Represents entries) : (entries.map (·.name)).Nodup := by
  refine List.pairwise_map.2 (h.apart.imp ?_)
  intro earlier later apart same
  exact apart (by rw [← same]; exact List.mem_cons_self)

/-- The first key with the name of a top-level entry is its own. -/
theorem lookup_root (h : r.Represents entries) {k : Nat} {e : Entry} (here : entries[k]? = some e) :
    r.lookup e.name = some (rootNumber entries k) := by
  have split := split_at here
  have fresh : e.name ∉ keys (entries.take k) := by
    intro taken
    obtain ⟨f, mem, key⟩ := List.mem_flatMap.1 taken
    have apart := h.apart
    rw [split] at apart
    exact (List.pairwise_append.1 apart).2.2 f mem e List.mem_cons_self key
  have order : keys entries = keys (entries.take k) ++ e.name ::
      (e.memberList.map (fun m => memberKey e.name m.name) ++ keys (entries.drop (k + 1))) := by
    have all := congrArg keys split
    rw [keys, keys, List.flatMap_append, List.flatMap_cons] at all
    exact all
  rw [h.names, order, idxOf?_append, List.idxOf?_eq_none_iff.2 fresh, List.idxOf?_cons]
  simp [length_keys, rootNumber]

/-- A top-level symbol is found by the name of its entry. -/
theorem find?_root (h : r.Represents entries) {k : Nat} {e : Entry} {s : Symbol} (here : entries[k]? = some e)
    (at_ : r.symbols[rootNumber entries k]? = some s) : r.find? e.name = some s := by
  rw [find?, h.lookup_root here, Option.bind_some, at_]

/-- The name of the symbol at a place is that of the entry there. -/
theorem name_of_place (h : r.Represents entries) {k i : Nat} {e f : Entry} {s : Symbol} (here : entries[k]? = some e)
    (inside : (e :: e.memberList)[i]? = some f) (at_ : r.symbols[rootNumber entries k + i]? = some s) :
    s.declaration.name = f.name := by
  have names : (inOrder entries).map (·.name) = r.symbols.map (·.declaration.name) :=
    map_eq_of_forall₂ (h.symbols.imp (fun _ _ read => (ofEntry_name read).symm))
  obtain ⟨bound, -⟩ := List.getElem?_eq_some_iff.1 inside
  have same := congrArg (·[rootNumber entries k + i]?) names
  rw [List.getElem?_map, List.getElem?_map, getElem?_inOrder here (Nat.le_of_lt_succ bound), inside, at_] at same
  exact (Option.some.inj same).symm

/-- The qualified name of a symbol at a place is the key there, unless that is the name of a top-level entry. -/
theorem qualifiedName?_eq (h : r.Represents entries) {key : String} (other : key ∉ entries.map (·.name)) :
    r.symbols.map (fun s => r.qualifiedName? s == some key) = (keys entries).map (· == key) := by
  refine List.ext_getElem? ?_
  intro i
  by_cases bound : i < (inOrder entries).length
  · obtain ⟨k, e, here, place⟩ := exists_place entries bound
    obtain ⟨root, at_root, top, -⟩ := h.root k e here
    have own := getElem?_keys here (Nat.zero_le _)
    rcases place with rfl | ⟨j, inside, rfl⟩
    · -- a top-level symbol has no qualified name
      have apart : e.name ≠ key := by
        rintro rfl
        exact other (List.mem_map_of_mem (List.mem_of_getElem? here))
      have unqualified : r.qualifiedName? root = none := by
        unfold qualifiedName? parent?
        rw [top]
        rfl
      rw [Nat.add_zero] at own
      rw [List.getElem?_map, List.getElem?_map, at_root, own, entryKeys, Option.map_some, unqualified]
      simp [apart]
    · -- a member is qualified by the top-level symbol that it belongs to
      obtain ⟨s, at_member, parent, -⟩ := h.member k e j here inside
      rw [Nat.add_assoc, Nat.add_comm 1] at at_member
      have member : (e :: e.memberList)[j + 1]? = some e.memberList[j] := by simp
      have qualified : r.qualifiedName? s = some (memberKey e.name e.memberList[j].name) := by
        unfold qualifiedName? parent?
        rw [parent, Option.bind_some, at_root, Option.map_some, h.name_of_place here (i := 0) rfl at_root,
          h.name_of_place here member at_member]
      rw [Nat.add_assoc, Nat.add_comm 1, List.getElem?_map, List.getElem?_map, at_member, Option.map_some, qualified,
        getElem?_keys here inside, entryKeys]
      simp [inside]
  · rw [List.getElem?_eq_none, List.getElem?_eq_none]
    · rw [List.length_map, length_keys]
      omega
    · rw [List.length_map, h.length]
      omega

/-- **What a registry finds.** -/
theorem finds (h : r.Represents entries) : r.Finds entries where
  distinct := h.distinct
  root := by
    intro k e here
    obtain ⟨s, at_, -⟩ := h.root k e here
    exact ⟨s, at_, h.find?_root here at_⟩
  other := by
    intro key other
    unfold find?
    rw [h.names, List.find?_eq_bind_findIdx?_getElem?]
    congr 1
    -- the first key and the first symbol that has it stand at one place
    have first := congrArg (List.findIdx? (fun found => found)) (h.qualifiedName?_eq other)
    rw [List.findIdx?_map, List.findIdx?_map] at first
    exact first.symm

end Represents

/-- **A registry represents its database**, and finds by name what it holds. -/
theorem ofEntries_represents {r : Registry} {entries : List Entry} (h : ofEntries entries = .ok r) :
    r.Represents entries ∧ r.Finds entries :=
  ⟨represents_ofEntries h, (represents_ofEntries h).finds⟩

/-- Two classes with a member each, of one key: `A::B::C`. -/
def sharedKey : List Entry := [
  { (default : Entry) with
    kind := "class", name := "A", members := some [{ (default : Entry) with kind := "variable", name := "B::C" }] },
  { (default : Entry) with
    kind := "class", name := "A::B", members := some [{ (default : Entry) with kind := "function", name := "C" }] }]

/-- The two classes are accepted, although their members share a key. -/
theorem ofEntries_represents_sharedKey :
    ∃ r, ofEntries sharedKey = .ok r ∧ r.Represents sharedKey ∧ r.Finds sharedKey := by
  obtain ⟨r, made⟩ : ∃ r, ofEntries sharedKey = .ok r := exists_ok (by decide +kernel)
  exact ⟨r, made, ofEntries_represents made⟩

end Registry

end ScriptBridge.Symbol

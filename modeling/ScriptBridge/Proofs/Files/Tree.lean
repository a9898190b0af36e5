import Mathlib.Data.List.Induction
import ScriptBridge.Files.Tree
import ScriptBridge.Proofs.Outcome

/-!
# ScriptBridge.Proofs.Files.Tree

What the operations on a file tree do to its places.

A walk follows the steps of a path through directories, so it leads to the same place in any tree that still has
those directories.  Making directories adds directories on the way and nothing else; writing a file changes what
stands at one place; removing a tree takes away what is below one place, except what stays.  The statements are about
the view `node?`, which says what stands at a place.

Main results:
  * `Keeps.walk` - walks stay what they are while directories stay;
  * `makeDirectories_grown` - what making directories changes, and `makeDirectories_reaches` - that they are there;
  * `node?_removeTree_below` - what is left below a place whose tree is removed;
  * `write_eq_ok` - what a write changes, and `read_of_node` - that it can be read back.
-/

namespace ScriptBridge.Files

/-! ## §1. Paths. -/

/-- A text that is a single part of a path and leads down. -/
structure IsName (name : String) : Prop where
  slash : '/' ∉ name.toList
  down : Step.ofPart? name.toList = some (.down name)

/-- The path only goes down, along the names of the place, and ends in the last of them.  The empty path stays where it
is. -/
structure LeadsDown (path : String) (place : Place) : Prop where
  steps : steps path = place.map .down
  named : path ≠ "" → endsUnnamed path = false ∧ place ≠ []

/-- A path that an operation takes is not empty. -/
theorem ne_empty_of_checkPath {path : String} (checked : checkPath path = .ok ()) : path ≠ "" := by
  intro empty
  rw [empty] at checked
  cases checked

/-- A name is neither empty nor one of the two dotted parts. -/
theorem IsName.parts {name : String} (h : IsName name) :
    name.toList ≠ [] ∧ name.toList ≠ ['.'] ∧ name.toList ≠ ['.', '.'] := by
  have down := h.down
  unfold Step.ofPart? at down
  split at down
  next => cases down
  next plain =>
    split at down
    next => cases down
    next other => exact ⟨fun none => plain (.inl none), fun dot => plain (.inr dot), other⟩

/-- A name is one part of a path. -/
theorem IsName.splitOn {name : String} (h : IsName name) : name.toList.splitOn '/' = [name.toList] :=
  List.splitOn_eq_singleton h.slash

/-- The parts of a path with a name behind it: the steps in front are those of the directory. -/
theorem splitOn_join (out : String) {name : String} (h : IsName name) :
    ∃ front, (join out name).toList.splitOn '/' = front ++ [name.toList] ∧
      front.filterMap Step.ofPart? = steps out := by
  unfold join
  -- a slash is put between them unless there is one at the end
  split
  next closed =>
    rcases Bool.or_eq_true_iff.1 closed with empty | slash
    · rw [String.isEmpty_iff.1 empty]
      exact ⟨[], by rw [String.empty_append, h.splitOn]; rfl, rfl⟩
    · rw [String.endsWith_eq_endsWith_toSlice, String.Slice.endsWith_string_iff] at slash
      obtain ⟨front, spelled⟩ := slash
      have whole : out.toList = front ++ '/' :: [] := by simpa using spelled.symm
      refine ⟨front.splitOn '/', ?_, ?_⟩
      · rw [String.toList_append, whole, List.append_assoc, List.cons_append, List.nil_append,
          List.splitOn_append_cons_self, h.splitOn]
      · rw [steps, whole, List.splitOn_append_cons_self, List.filterMap_append]
        exact (List.append_nil _).symm
  next =>
    refine ⟨out.toList.splitOn '/', ?_, rfl⟩
    have slash : "/".toList = ['/'] := rfl
    rw [String.toList_append, String.toList_append, slash, List.append_assoc, List.singleton_append,
      List.splitOn_append_cons_self, h.splitOn]

/-- A name behind a path is one more step down. -/
theorem steps_join (out : String) {name : String} (h : IsName name) :
    steps (join out name) = steps out ++ [.down name] := by
  obtain ⟨front, parts, same⟩ := splitOn_join out h
  rw [steps, parts, List.filterMap_append, same, List.filterMap_cons, h.down]
  rfl

/-- A name behind a path may be that of a file. -/
theorem demandsDirectory_join (out : String) {name : String} (h : IsName name) :
    demandsDirectory (join out name) = false := by
  obtain ⟨front, parts, -⟩ := splitOn_join out h
  rw [demandsDirectory, parts, List.getLast?_concat]
  simp [h.parts]

/-- Which paths an operation takes. -/
theorem checkPath_eq_ok_iff {path : String} :
    checkPath path = .ok () ↔ path.isEmpty = false ∧ '\x00' ∉ path.toList ∧ path.utf8ByteSize ≤ longestPath := by
  unfold checkPath
  rw [String.contains_char_eq]
  split
  next empty => simp [empty]
  next some =>
    split
    next null => simp_all
    next plain =>
      split
      next long => simp [Nat.not_le.2 long]
      next fits => simp_all

namespace Tree

variable {t u next : Tree} {place parent target : Place} {name : String} {path : List Step}

/-! ## §2. Walks. -/

/-- What is seen under a name, if the name is not too long. -/
theorem look_eq_ok_iff {node : Option Node} :
    t.look parent name = .ok node ↔ name.utf8ByteSize ≤ longestName ∧ t.node? (parent ++ [name]) = node := by
  unfold look
  split
  next long => exact iff_of_false (by rintro ⟨⟩) (fun fits => Nat.not_lt.2 fits.1 long)
  next fits => exact ⟨fun same => ⟨Nat.le_of_not_lt fits, Except.ok.inj same⟩, fun same => by rw [same.2]⟩

/-- A walk goes on from where it has come to. -/
theorem walk_append (first second : List Step) (place : Place) :
    t.walk place (first ++ second) = t.walk place first >>= fun reached => t.walk reached second := by
  induction first generalizing place with
  | nil => rfl
  | cons step rest ih =>
    cases step with
    | up => exact ih _
    | down name =>
      rw [List.cons_append, walk, walk]
      rcases t.look place name with e | (_ | _ | _)
      · rfl
      · rfl
      · rfl
      · exact ih _

/-- One step down leads to a directory. -/
theorem walk_snoc_eq_ok_iff : t.walk place (path ++ [.down name]) = .ok target ↔
    ∃ parent, t.walk place path = .ok parent ∧ name.utf8ByteSize ≤ longestName ∧
      t.node? (parent ++ [name]) = some .directory ∧ target = parent ++ [name] := by
  rw [walk_append]
  constructor
  · intro h
    obtain ⟨parent, first, last⟩ := bind_ok h
    refine ⟨parent, first, ?_⟩
    rw [walk] at last
    split at last
    · cases last
    · cases last
    · cases last
    next found =>
      obtain ⟨fits, here⟩ := look_eq_ok_iff.1 found
      exact ⟨fits, here, (Except.ok.inj last).symm⟩
  · rintro ⟨parent, first, fits, here, rfl⟩
    rw [first]
    show t.walk parent [.down name] = _
    rw [walk, look_eq_ok_iff.2 ⟨fits, here⟩]
    rfl

/-- Going down by names leads to the place with these names. -/
theorem walk_names {names : List String} (h : t.walk place (names.map .down) = .ok target) :
    target = place ++ names := by
  induction names using List.reverseRecOn generalizing target with
  | nil => simpa using (Except.ok.inj h).symm
  | append_singleton names name ih =>
    rw [List.map_append, List.map_singleton] at h
    obtain ⟨parent, first, -, -, rfl⟩ := walk_snoc_eq_ok_iff.1 h
    rw [ih first, List.append_assoc]

/-- The directories of the first tree are directories of the second. -/
def Keeps (t next : Tree) : Prop :=
  ∀ place, t.node? place = some .directory → next.node? place = some .directory

/-- A walk leads to the same place as long as directories stay. -/
theorem Keeps.walk (keeps : Keeps t next) (h : t.walk place path = .ok target) : next.walk place path = .ok target := by
  induction path using List.reverseRecOn generalizing target with
  | nil => exact h
  | append_singleton path step ih =>
    cases step with
    | up =>
      rw [walk_append] at h ⊢
      obtain ⟨parent, first, last⟩ := bind_ok h
      rw [ih first]
      exact last
    | down name =>
      obtain ⟨parent, first, fits, here, same⟩ := walk_snoc_eq_ok_iff.1 h
      exact walk_snoc_eq_ok_iff.2 ⟨parent, ih first, fits, keeps _ here, same⟩

/-- A new directory leaves the others in place. -/
theorem Keeps.set_directory (nonempty : place ≠ []) : Keeps t (t.set place .directory) := by
  intro other here
  rw [node?_set nonempty]
  split
  · rfl
  · exact here

/-- A file that is written where no directory is leaves the directories in place. -/
theorem Keeps.set_file (nonempty : place ≠ []) (free : t.node? place ≠ some .directory) (content : ByteArray) :
    Keeps t (t.set place (.file content)) := by
  intro other here
  rw [node?_set nonempty, if_neg]
  · exact here
  · rintro rfl
    exact free here

/-! ## §3. Places that can be reached. -/

/-- The place is a directory, and so is everything on the way to it. -/
def Reaches (t : Tree) (place : Place) : Prop :=
  t.walk [] (place.map .down) = .ok place

/-- A place is reached if the one above it is, and it is a directory of a name that is not too long. -/
theorem reaches_snoc_iff : t.Reaches (place ++ [name]) ↔
    t.Reaches place ∧ name.utf8ByteSize ≤ longestName ∧ t.node? (place ++ [name]) = some .directory := by
  unfold Reaches
  rw [List.map_append, List.map_singleton, walk_snoc_eq_ok_iff]
  constructor
  · rintro ⟨parent, first, fits, here, -⟩
    obtain rfl : parent = place := walk_names first
    exact ⟨first, fits, here⟩
  · rintro ⟨first, fits, here⟩
    exact ⟨place, first, fits, here, rfl⟩

/-- A place that is reached is a directory. -/
theorem Reaches.node? (h : t.Reaches place) (nonempty : place ≠ []) : t.node? place = some .directory := by
  rw [← List.dropLast_concat_getLast nonempty] at h ⊢
  exact (reaches_snoc_iff.1 h).2.2

/-- What leads to a place that can be reached is a directory. -/
theorem Reaches.directory (reached : t.Reaches place) {above : Place} (leads : above <+: place) :
    t.node? above = some .directory := by
  by_cases root : above = []
  · rw [root]
    rfl
  · obtain ⟨below, rfl⟩ := leads
    have stop : t.walk [] (above.map .down ++ below.map .down) = .ok (above ++ below) := by
      rw [← List.map_append]
      exact reached
    rw [walk_append] at stop
    obtain ⟨target, first, -⟩ := bind_ok stop
    obtain rfl : above = target := (walk_names first).symm
    exact Reaches.node? first root

/-- The names on the way to a place that is reached are not too long. -/
theorem Reaches.fits (h : t.Reaches place) : ∀ name ∈ place, name.utf8ByteSize ≤ longestName := by
  induction place using List.reverseRecOn with
  | nil => simp
  | append_singleton place last ih =>
    obtain ⟨before, fits, -⟩ := reaches_snoc_iff.1 h
    intro name mem
    rcases List.mem_append.1 mem with mem | mem
    · exact ih before name mem
    · rw [List.mem_singleton.1 mem]
      exact fits

/-- Everything in the tree stands in a directory. -/
def Closed (t : Tree) : Prop :=
  ∀ (place : Place) (name : String), (t.node? (place ++ [name])).isSome = true → t.node? place = some .directory

/-- Whether a tree is closed shows in its list of nodes. -/
theorem closed_of_nodes (h : t.nodes.all (fun entry => t.node? entry.1.dropLast == some .directory) = true) :
    t.Closed := by
  intro place name here
  obtain ⟨node, found⟩ := Option.isSome_iff_exists.1 here
  rw [node?, if_neg (by simp)] at found
  obtain ⟨before, after, listed, -⟩ := List.lookup_eq_some_iff.1 found
  have parent := List.all_eq_true.1 h (place ++ [name], node) (by rw [listed]; simp)
  simpa using parent

/-- Whatever there is stands in a directory. -/
theorem Closed.above (closed : t.Closed) {below : Place} (nonempty : below ≠ [])
    (here : (t.node? (place ++ below)).isSome = true) : t.node? place = some .directory := by
  induction below using List.reverseRecOn with
  | nil => exact absurd rfl nonempty
  | append_singleton below name ih =>
    rw [← List.append_assoc] at here
    have parent := closed _ _ here
    cases below with
    | nil => simpa using parent
    | cons first rest => exact ih (List.cons_ne_nil _ _) (by rw [parent]; rfl)

/-- A directory is reached if no name on the way is too long. -/
theorem Closed.reaches (closed : t.Closed) (fits : ∀ name ∈ place, name.utf8ByteSize ≤ longestName)
    (here : t.node? place = some .directory) : t.Reaches place := by
  induction place using List.reverseRecOn with
  | nil => rfl
  | append_singleton place name ih =>
    have parent := closed place name (by rw [here]; rfl)
    refine reaches_snoc_iff.2 ⟨ih (fun other mem => fits other ?_) parent, fits name ?_, here⟩
    · exact List.mem_append_left _ mem
    · exact List.mem_append_right _ (List.mem_singleton.2 rfl)

/-! ## §4. Making directories. -/

/-- Nothing has changed but that directories are there which were missing on the way to a place. -/
def Grown (place : Place) (t next : Tree) : Prop :=
  ∀ other, next.node? other = t.node? other ∨
    other <+: place ∧ t.node? other = none ∧ next.node? other = some .directory

/-- Nothing has changed. -/
theorem Grown.refl (place : Place) (t : Tree) : Grown place t t :=
  fun _ => .inl rfl

/-- Some directories, and then more of them. -/
theorem Grown.trans {last : Tree} (first : Grown place t next) (second : Grown place next last) :
    Grown place t last := by
  intro other
  rcases second other with same | ⟨before, missing, made⟩
  · rw [same]
    exact first other
  · rcases first other with same | ⟨-, -, already⟩
    · exact .inr ⟨before, same ▸ missing, made⟩
    · rw [already] at missing
      cases missing

/-- A longer way goes through all places of a shorter one. -/
theorem Grown.widen {longer : Place} (h : Grown place t next) (begins : place <+: longer) : Grown longer t next := by
  intro other
  rcases h other with same | ⟨before, change⟩
  · exact .inl same
  · exact .inr ⟨before.trans begins, change⟩

/-- A directory is made where nothing stands, in a directory. -/
theorem makeDirectory_eq_ok {dotted : Bool} (h : t.makeDirectory path dotted = .ok next) :
    ∃ init parent name, path = init ++ [.down name] ∧ t.walk [] init = .ok parent ∧
      name.utf8ByteSize ≤ longestName ∧ t.node? (parent ++ [name]) = none ∧
      next = t.set (parent ++ [name]) .directory := by
  unfold makeDirectory at h
  split at h
  next name last =>
    obtain ⟨parent, first, h⟩ := bind_ok h
    obtain ⟨node, found, h⟩ := bind_ok h
    obtain ⟨fits, rfl⟩ := look_eq_ok_iff.1 found
    have split : path = path.dropLast ++ [.down name] := (List.dropLast_append_getLast? _ last).symm
    split at h
    next free => exact ⟨path.dropLast, parent, name, split, first, fits, free, (Except.ok.inj h).symm⟩
    next => cases h
  next =>
    obtain ⟨-, -, h⟩ := bind_ok h
    cases h

/-- A directory that was made can be walked to. -/
theorem makeDirectory_reaches {dotted : Bool} (h : t.makeDirectory path dotted = .ok next) :
    ∃ place, next.walk [] path = .ok place := by
  obtain ⟨init, parent, name, rfl, first, fits, -, rfl⟩ := makeDirectory_eq_ok h
  have nonempty : parent ++ [name] ≠ [] := by simp
  refine ⟨parent ++ [name], walk_snoc_eq_ok_iff.2 ⟨parent, ?_, fits, ?_, rfl⟩⟩
  · exact (Keeps.set_directory nonempty).walk first
  · rw [node?_set nonempty, if_pos rfl]

/-- Making a directory adds one on the way at most. -/
theorem makeDirectory_grown {dotted : Bool} (h : t.makeDirectory (place.map .down) dotted = .ok next) :
    Grown place t next := by
  obtain ⟨init, parent, name, split, first, -, free, rfl⟩ := makeDirectory_eq_ok h
  obtain ⟨before, last, rfl, rfl, only⟩ := List.map_eq_append_iff.1 split
  obtain rfl : last = [name] := by simpa using only
  obtain rfl : parent = before := walk_names first
  intro other
  rw [node?_set (by simp)]
  split
  next same =>
    subst same
    exact .inr ⟨List.prefix_refl _, free, rfl⟩
  next => exact .inl rfl

/-- A failure is excused if there is a directory already. -/
theorem excuse_eq_ok {e : Failure} (h : t.excuse path e = .ok ()) : ∃ place, t.walk [] path = .ok place := by
  unfold excuse directoryAt? at h
  split at h
  next there => exact exists_ok there
  next => cases h

/-- After directories were made, they can be walked through. -/
theorem makeAlong_reaches {dotted : Bool} (h : (t.makeAlong path dotted).2 = .ok ()) :
    ∃ place, (t.makeAlong path dotted).1.walk [] path = .ok place := by
  fun_induction makeAlong t path dotted with
  | case1 => exact ⟨[], rfl⟩
  | case2 _ _ _ next made => exact makeDirectory_reaches made
  | case3 => cases h
  | case4 _ _ _ _ _ above _ next made => exact makeDirectory_reaches made
  | case5 => exact excuse_eq_ok h
  | case6 => exact excuse_eq_ok h

/-- Whether it succeeds or not, making directories adds directories on the way and nothing else. -/
theorem makeAlong_grown {dotted : Bool} (h : path = place.map .down) : Grown place t (t.makeAlong path dotted).1 := by
  -- the directories above are made first, so the induction is on the path without its last step
  have shorter : ∀ {names : Place}, (names.map Step.down).dropLast = names.dropLast.map .down := List.map_dropLast.symm
  fun_induction makeAlong t path dotted generalizing place with
  | case1 => exact .refl place t
  | case2 _ _ _ next made =>
    subst h
    exact makeDirectory_grown made
  | case3 _ _ _ _ _ above _ failed ih =>
    subst h
    rw [failed] at ih
    exact (ih shorter).widen (List.dropLast_prefix place)
  | case4 _ _ _ _ _ above made next last ih =>
    subst h
    rw [made] at ih
    exact ((ih shorter).widen (List.dropLast_prefix place)).trans (makeDirectory_grown last)
  | case5 _ _ _ _ _ above made _ _ ih =>
    subst h
    rw [made] at ih
    exact (ih shorter).widen (List.dropLast_prefix place)
  | case6 => exact .refl place t

/-- **Directories that were made can be walked to.** -/
theorem makeDirectories_reaches {out : String} (h : (t.makeDirectories out).2 = .ok ()) :
    ∃ place, (t.makeDirectories out).1.walk [] (steps out) = .ok place := by
  unfold makeDirectories at h ⊢
  split at h
  next empty =>
    rw [if_pos empty, String.isEmpty_iff.1 empty]
    exact ⟨[], rfl⟩
  next some =>
    rw [if_neg some]
    split at h
    next => cases h
    next => exact makeAlong_reaches h

/-- A directory is made at once if it is missing and the one above it is there. -/
theorem makeDirectories_of_makeDirectory {out : String} (checked : checkPath out = .ok ())
    (made : t.makeDirectory (steps out) (endsUnnamed out) = .ok next) : t.makeDirectories out = (next, .ok ()) := by
  obtain ⟨init, parent, name, split, -⟩ := makeDirectory_eq_ok made
  have nonempty : steps out ≠ [] := by simp [split]
  unfold makeDirectories
  rw [if_neg, checked]
  · show t.makeAlong (steps out) (endsUnnamed out) = _
    rw [makeAlong, dif_neg nonempty, made]
  · intro empty
    exact nonempty (by rw [String.isEmpty_iff.1 empty]; rfl)

/-- Making directories adds some on the way and changes nothing else. -/
theorem makeDirectories_grown {out : String} (down : LeadsDown out place) :
    Grown place t (t.makeDirectories out).1 := by
  unfold makeDirectories
  split
  next => exact .refl place t
  next =>
    split
    next => exact .refl place t
    next => exact makeAlong_grown down.steps

/-- Making directories does not change what is held. -/
theorem held_makeAlong {dotted : Bool} : (t.makeAlong path dotted).1.held = t.held := by
  fun_induction makeAlong t path dotted with
  | case1 => rfl
  | case2 _ _ _ next made =>
    obtain ⟨_, _, _, -, -, -, -, rfl⟩ := makeDirectory_eq_ok made
    rfl
  | case3 _ _ _ _ _ above _ failed ih =>
    rw [failed] at ih
    exact ih
  | case4 _ _ _ _ _ above made next last ih =>
    rw [made] at ih
    obtain ⟨_, _, _, -, -, -, -, rfl⟩ := makeDirectory_eq_ok last
    exact ih
  | case5 _ _ _ _ _ above made _ _ ih =>
    rw [made] at ih
    exact ih
  | case6 => rfl

/-- Making directories leaves the held entries held. -/
theorem held_makeDirectories (out : String) : (t.makeDirectories out).1.held = t.held := by
  unfold makeDirectories
  split
  next => rfl
  next =>
    split
    next => rfl
    next => exact held_makeAlong

/-! ## §5. Removing a tree. -/

/-- What stays is held, or has something held below it. -/
theorem stays_iff : t.stays place = true ↔ ∃ kept ∈ t.held, place <+: kept ∧ (t.node? kept).isSome = true := by
  unfold stays
  rw [List.any_eq_true]
  simp only [Bool.and_eq_true, List.isPrefixOf_iff_prefix]

/-- A directory stays with what stays in it. -/
theorem stays_above {below : Place} (h : t.stays (place ++ below) = true) : t.stays place = true := by
  obtain ⟨kept, held, begins, here⟩ := stays_iff.1 h
  exact stays_iff.2 ⟨kept, held, (List.prefix_append place below).trans begins, here⟩

/-- What stays in a tree stays in every tree that holds the same places and has at least its nodes. -/
theorem stays_of_isSome (held : t.held ⊆ u.held)
    (there : ∀ kept, place <+: kept → t.stays kept = true → (t.node? kept).isSome = true → (u.node? kept).isSome = true)
    (h : t.stays place = true) : u.stays place = true := by
  obtain ⟨kept, mem, begins, here⟩ := stays_iff.1 h
  have self : t.stays kept = true := stays_iff.2 ⟨kept, mem, List.prefix_refl kept, here⟩
  exact stays_iff.2 ⟨kept, held mem, begins, there kept begins self here⟩

/-- A tree is removed, but for what stays, if its place can be reached; else nothing happens. -/
theorem removeTree_cases {out : String} (down : LeadsDown out place) :
    (t.removeTree out).1 = t.prune place ∨
      (t.removeTree out).1 = t ∧ (checkPath out ≠ .ok () ∨ ¬ t.Reaches place) := by
  unfold removeTree
  rw [down.steps]
  cases checked : checkPath out with
  | error e => exact .inr ⟨rfl, .inl (by rintro ⟨⟩)⟩
  | ok =>
    cases reached : t.walk [] (place.map .down) with
    | error e =>
      refine .inr ⟨rfl, .inr ?_⟩
      rw [Reaches, reached]
      rintro ⟨⟩
    | ok target =>
      obtain rfl : target = place := walk_names reached
      left
      simp [(down.named (ne_empty_of_checkPath checked)).1]

/-- Removing a directory leaves the held entries held. -/
theorem held_removeTree (out : String) : (t.removeTree out).1.held = t.held := by
  unfold removeTree
  split
  · rfl
  · split
    · rfl
    · split
      · rfl
      · rfl

/-- A removal that does not fail leaves nothing. -/
theorem removeTree_eq_ok {out : String} (down : LeadsDown out place) (h : (t.removeTree out).2 = .ok ()) :
    out ≠ "" ∧ t.stays place = false := by
  unfold removeTree at h
  rw [down.steps] at h
  cases checked : checkPath out with
  | error e =>
    rw [checked] at h
    cases h
  | ok =>
    refine ⟨ne_empty_of_checkPath checked, ?_⟩
    rw [checked] at h
    cases reached : t.walk [] (place.map .down) with
    | error e =>
      rw [reached] at h
      cases h
    | ok target =>
      obtain rfl : target = place := walk_names reached
      simp only [reached, (down.named (ne_empty_of_checkPath checked)).1, Bool.false_eq_true, if_false] at h
      split at h
      next => cases h
      next gone => exact Bool.eq_false_iff.2 gone

/-- What is left at a place below a directory that is removed: what stays, and all of it if the path is empty, since
there is no removal then. -/
def spared (t : Tree) (out : String) (place : Place) : Option Node :=
  if out = "" ∨ t.stays place = true then t.node? place else none

/-- Of what is below a place that is pruned, exactly that is left which stays. -/
theorem node?_prune_below {below : Place} (nonempty : below ≠ []) :
    (t.prune place).node? (place ++ below) =
      if t.stays (place ++ below) = true then t.node? (place ++ below) else none := by
  rw [node?_prune (by simp [nonempty]), List.isPrefixOf_iff_prefix.2 (List.prefix_append place below)]
  cases t.stays (place ++ below)
  · rfl
  · rfl

/-- **What a removal leaves** below its directory, whether it fails or not. -/
theorem node?_removeTree_below {out : String} (down : LeadsDown out place) (closed : t.Closed)
    (usable : out ≠ "" → checkPath out = .ok ()) (fits : ∀ name ∈ place, name.utf8ByteSize ≤ longestName)
    {below : Place} (nonempty : below ≠ []) :
    (t.removeTree out).1.node? (place ++ below) = t.spared out (place ++ below) := by
  unfold spared
  rcases removeTree_cases (t := t) down with pruned | ⟨same, why⟩
  · by_cases empty : out = ""
    · rw [if_pos (.inl empty), removeTree, empty]
      rfl
    · rw [pruned, node?_prune_below nonempty]
      simp only [empty, false_or]
  · rw [same]
    by_cases empty : out = ""
    · rw [if_pos (.inl empty)]
    · -- the directory cannot be reached, so that there is nothing in it
      have unreached : ¬ t.Reaches place := why.resolve_left (fun refused => refused (usable empty))
      have nothing : t.node? (place ++ below) = none := by
        by_contra here
        exact unreached (closed.reaches fits (closed.above nonempty (Option.isSome_iff_ne_none.2 here)))
      rw [nothing, ite_self]

/-! ## §6. Writing and reading. -/

/-- A path whose last part is this name can be used as far as lengths and characters go. -/
def Takes (path name : String) : Prop :=
  checkPath path = .ok () ∧ name.utf8ByteSize ≤ longestName

/-- Whether a path can be used can be checked. -/
theorem takes_iff {path name : String} : Takes path name ↔
    (path.isEmpty = false ∧ '\x00' ∉ path.toList ∧ path.utf8ByteSize ≤ longestPath) ∧
      name.utf8ByteSize ≤ longestName :=
  and_congr_left' checkPath_eq_ok_iff

instance (path name : String) : Decidable (Takes path name) :=
  decidable_of_iff' _ takes_iff

section

variable {file : String} (named : steps file = path ++ [.down name]) (reached : t.walk [] path = .ok parent)

include named reached in
/-- The end of a path with a name stands in the directory that the other steps lead to. -/
theorem resolve_eq_ok_iff {found : Target} : t.resolve file = .ok found ↔
    Takes file name ∧ found = .named parent name (t.node? (parent ++ [name])) := by
  unfold resolve Takes
  rw [named, List.getLast?_concat, List.dropLast_concat]
  cases checkPath file with
  | error e => exact iff_of_false (by rintro ⟨⟩) (by rintro ⟨⟨⟨⟩, -⟩, -⟩)
  | ok checked =>
    cases checked
    -- the path is walked up to its last step, which may lead anywhere
    show (t.walk [] path >>= fun parent => t.look parent name >>= fun node => pure (Target.named parent name node)) =
      _ ↔ _
    rw [reached]
    show (t.look parent name >>= fun node => pure (Target.named parent name node)) = _ ↔ _
    constructor
    · intro h
      obtain ⟨node, found, h⟩ := bind_ok h
      obtain ⟨fits, rfl⟩ := look_eq_ok_iff.1 found
      exact ⟨⟨rfl, fits⟩, (Except.ok.inj h).symm⟩
    · rintro ⟨⟨-, fits⟩, rfl⟩
      rw [look_eq_ok_iff.2 ⟨fits, rfl⟩]
      rfl

include named reached in
/-- A write puts a file at one place, where no directory stands. -/
theorem write_eq_ok {text : String} (h : t.write file text = .ok next) :
    Takes file name ∧ t.node? (parent ++ [name]) ≠ some .directory ∧
      next = t.set (parent ++ [name]) (.file text.toUTF8) := by
  obtain ⟨found, resolved, h⟩ := bind_ok h
  obtain ⟨takes, rfl⟩ := (resolve_eq_ok_iff named reached).1 resolved
  refine ⟨takes, ?_⟩
  split at h
  · cases h
  · cases h
  next other same =>
    cases same
    split at h
    · cases h
    · exact ⟨other, (Except.ok.inj h).symm⟩

include named reached in
/-- A file can be written where no directory stands. -/
theorem write_ok {text : String} (takes : Takes file name) (plain : demandsDirectory file = false)
    (free : t.node? (parent ++ [name]) ≠ some .directory) :
    t.write file text = .ok (t.set (parent ++ [name]) (.file text.toUTF8)) := by
  have resolved := (resolve_eq_ok_iff named reached).2 ⟨takes, rfl⟩
  unfold write writeBytes
  rw [resolved]
  rcases here : t.node? (parent ++ [name]) with _ | (_ | _)
  · show (if demandsDirectory file = true then throw Failure.isDirectory else return t.set _ (.file text.toUTF8)) = _
    rw [plain]
    rfl
  · show (if demandsDirectory file = true then throw Failure.isDirectory else return t.set _ (.file text.toUTF8)) = _
    rw [plain]
    rfl
  · exact absurd here free

/-- A text is read back from its bytes. -/
theorem fromUTF8?_toUTF8 (text : String) : String.fromUTF8? text.toUTF8 = some text := by
  have valid : text.toUTF8.IsValidUTF8 := text.isValidUTF8
  unfold String.fromUTF8?
  rw [dif_pos valid]
  rfl

include named reached in
/-- The text of a file can be read. -/
theorem read_of_node (takes : Takes file name) (plain : demandsDirectory file = false) {text : String}
    (here : t.node? (parent ++ [name]) = some (.file text.toUTF8)) : t.read file = .ok text := by
  have resolved := (resolve_eq_ok_iff named reached).2 ⟨takes, rfl⟩
  rw [here] at resolved
  have bytes : t.readBytes file = .ok text.toUTF8 := by
    unfold readBytes
    rw [resolved]
    show (if demandsDirectory file = true then throw Failure.notDirectory else return text.toUTF8) = _
    rw [plain]
    rfl
  unfold read
  rw [bytes]
  simp only [bind, Except.bind, fromUTF8?_toUTF8]
  rfl

end

end Tree

end ScriptBridge.Files

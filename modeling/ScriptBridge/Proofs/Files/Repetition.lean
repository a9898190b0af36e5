import ScriptBridge.Proofs.Files.Tree

/-!
# ScriptBridge.Proofs.Files.Repetition

What the operations on a file tree do when they are done once more.

Operations look at a tree through the view `node?` only.  Making directories a second time finds them there if the
first time went well, and is stopped by the same obstacle otherwise: the first attempt has already made everything in
front of it.

Main results:
  * `write_congr` - trees with the same view refuse the same writes;
  * `makeDirectories_reached` - directories that are there are not made again;
  * `makeDirectories_stopped` - where making directories fails, it fails again, and nothing more is made.
-/

namespace ScriptBridge.Files.Tree

/-- The place where a file can be put, if the end of a path is one. -/
def Target.spot (slash : Bool) : Target → Except Failure Place
  | .reached _ => .error .isDirectory
  | .named _ _ (some .directory) => .error .isDirectory
  | .named parent name _ => if slash then .error .isDirectory else .ok (parent ++ [name])

variable {t u : Tree} {place : Place} {name : String} {path : List Step}

/-! ## §1. The view decides. -/

theorem look_congr (same : t.node? = u.node?) (parent : Place) (name : String) :
    t.look parent name = u.look parent name := by
  unfold look
  rw [same]

theorem walk_congr (same : t.node? = u.node?) (place : Place) (path : List Step) :
    t.walk place path = u.walk place path := by
  induction path generalizing place with
  | nil => rfl
  | cons step rest ih =>
    cases step with
    | up => exact ih _
    | down name =>
      rw [walk, walk, look_congr same]
      rcases u.look place name with e | (_ | _ | _)
      · rfl
      · rfl
      · rfl
      · exact ih _

theorem resolve_congr (same : t.node? = u.node?) (path : String) : t.resolve path = u.resolve path := by
  unfold resolve
  simp only [walk_congr same, look_congr same]

/-- A write looks for a place first, and then puts the file there. -/
theorem write_eq_map (t : Tree) (file text : String) : t.write file text =
    (t.resolve file >>= Target.spot (demandsDirectory file)).map (fun spot => t.set spot (.file text.toUTF8)) := by
  unfold write writeBytes
  rcases t.resolve file with e | place | ⟨parent, name, _ | _ | _⟩
  · rfl
  · rfl
  · cases demandsDirectory file <;> rfl
  · cases demandsDirectory file <;> rfl
  · rfl

/-- Trees with the same view refuse the same writes, for the same reasons. -/
theorem write_congr (same : t.node? = u.node?) {file text : String} {e : Failure}
    (failed : t.write file text = .error e) : u.write file text = .error e := by
  rw [write_eq_map] at failed ⊢
  rw [← resolve_congr same]
  cases found : t.resolve file >>= Target.spot (demandsDirectory file) with
  | error other =>
    rw [found] at failed
    exact failed
  | ok spot =>
    rw [found] at failed
    cases failed

/-! ## §2. Directories that are there. -/

/-- Making the directory of a last step down looks at what is there. -/
theorem makeDirectory_snoc (t : Tree) (path : List Step) (name : String) :
    t.makeDirectory (path ++ [.down name]) false = t.walk [] path >>= fun parent => t.look parent name >>=
      fun | none => .ok (t.set (parent ++ [name]) .directory) | some _ => .error .alreadyExists := by
  unfold makeDirectory
  rw [List.getLast?_concat, List.dropLast_concat]
  rfl

/-- A directory that is there is not made again. -/
theorem makeAlong_reached {names : Place} (reached : t.Reaches names) :
    t.makeAlong (names.map .down) false = (t, .ok ()) := by
  cases names using List.reverseRecOn with
  | nil =>
    rw [makeAlong]
    rfl
  | append_singleton names name =>
    obtain ⟨above, fits, here⟩ := reaches_snoc_iff.1 reached
    have refused : t.makeDirectory (names.map .down ++ [.down name]) false = .error .alreadyExists := by
      rw [makeDirectory_snoc, above]
      show (t.look names name >>= _) = _
      rw [look_eq_ok_iff.2 ⟨fits, here⟩]
      rfl
    -- that it is there already is excused, since what is there is a directory
    have excused : t.excuse (names.map .down ++ [.down name]) .alreadyExists = .ok () := by
      have there : t.walk [] (names.map .down ++ [.down name]) = .ok (names ++ [name]) := by
        simpa [Reaches] using reached
      rw [excuse, directoryAt?, there]
      rfl
    rw [List.map_append, List.map_singleton, makeAlong, dif_neg (by simp), refused]
    simp only [excused]

theorem makeDirectories_reached {out : String} (down : LeadsDown out place) (checked : checkPath out = .ok ())
    (reached : t.Reaches place) : t.makeDirectories out = (t, .ok ()) := by
  unfold makeDirectories
  rw [checked, down.steps, (down.named (ne_empty_of_checkPath checked)).1]
  split
  · rfl
  · exact makeAlong_reached reached

/-! ## §3. Directories that cannot be made. -/

theorem look_long {parent : Place} (long : ¬ name.utf8ByteSize ≤ longestName) :
    t.look parent name = .error .nameTooLong := by
  rw [look, if_pos (Nat.lt_of_not_le long)]

/-- A missing directory above is the one reason for a directory not to be found when it is made. -/
theorem makeDirectory_missing_iff : t.makeDirectory (path ++ [.down name]) false = .error .notFound ↔
    t.walk [] path = .error .notFound := by
  rw [makeDirectory_snoc]
  cases t.walk [] path with
  | error e => exact ⟨fun same => congrArg _ (Except.error.inj same), fun same => congrArg _ (Except.error.inj same)⟩
  | ok parent =>
    refine iff_of_false ?_ (by rintro ⟨⟩)
    unfold look
    split
    · rintro ⟨⟩
    · show (match t.node? (parent ++ [name]) with | none => _ | some _ => _) ≠ _
      cases t.node? (parent ++ [name]) with
      | none => rintro ⟨⟩
      | some node => rintro ⟨⟩

/-- What stops a walk stops making the directory that it leads to, but for the last step: that may be missing, and a
file in its place is another failure. -/
theorem makeDirectory_of_walk {e : Failure} (stopped : t.walk [] (path ++ [.down name]) = .error e) :
    t.makeDirectory (path ++ [.down name]) false = .error e ∨
    e = .notFound ∧ (∃ next, t.makeDirectory (path ++ [.down name]) false = .ok next) ∨
    e = .notDirectory ∧ t.makeDirectory (path ++ [.down name]) false = .error .alreadyExists := by
  rw [walk_append] at stopped
  rw [makeDirectory_snoc]
  cases above : t.walk [] path with
  | error other =>
    rw [above] at stopped
    exact .inl (congrArg _ (Except.error.inj stopped))
  | ok parent =>
    rw [above] at stopped
    change t.walk parent [.down name] = _ at stopped
    rw [walk] at stopped
    simp only [bind, Except.bind]
    -- the last step finds nothing, a file or a directory
    rcases found : t.look parent name with other | _ | _ | _
    · rw [found] at stopped
      exact .inl (congrArg _ (Except.error.inj stopped))
    · rw [found] at stopped
      exact .inr (.inl ⟨(Except.error.inj stopped).symm, _, rfl⟩)
    · rw [found] at stopped
      exact .inr (.inr ⟨(Except.error.inj stopped).symm, rfl⟩)
    · rw [found] at stopped
      cases stopped

/-- Where an attempt is refused: at its last step, while the directories above are made, or at its last step when they
are there. -/
theorem makeAlong_refused {e : Failure} (failed : t.makeAlong (path ++ [.down name]) false = (u, .error e)) :
    u = t ∧ (∃ other, t.makeDirectory (path ++ [.down name]) false = .error other ∧ other ≠ .notFound) ∨
    t.walk [] path = .error .notFound ∧ (t.makeAlong path false = (u, .error e) ∨
      t.makeAlong path false = (u, .ok ()) ∧ u.makeDirectory (path ++ [.down name]) false = .error e) := by
  rw [makeAlong, dif_neg (by simp)] at failed
  split at failed
  next => cases failed
  next first =>
    simp only [List.dropLast_concat] at failed
    -- a directory above is missing, so it is made first
    refine .inr ⟨makeDirectory_missing_iff.1 first, ?_⟩
    split at failed
    next above other refused =>
      cases failed
      exact .inl refused
    next above made =>
      split at failed
      next => cases failed
      next other last =>
        obtain ⟨rfl, excused⟩ := Prod.mk.inj failed
        unfold excuse at excused
        split at excused
        next => cases excused
        next =>
          cases excused
          exact .inr ⟨made, last⟩
  next other apart first =>
    obtain ⟨rfl, -⟩ := Prod.mk.inj failed
    exact .inl ⟨rfl, other, first, apart⟩

/-- Nothing stands in a directory that was not there before. -/
theorem free_of_made (closed : t.Closed) {names : Place} (missing : t.walk [] (names.map .down) = .error .notFound)
    (made : t.makeAlong (names.map .down) false = (u, .ok ())) (reached : u.Reaches names) :
    u.node? (names ++ [name]) = none := by
  have grown : Grown names t (t.makeAlong (names.map .down) false).1 := makeAlong_grown rfl
  rw [made] at grown
  rcases grown (names ++ [name]) with same | ⟨before, -⟩
  · rw [same]
    by_contra here
    have there : t.Reaches names := closed.reaches reached.fits (closed names name (Option.isSome_iff_ne_none.2 here))
    rw [Reaches, missing] at there
    cases there
  · exact absurd before.length_le (by simp)

/-- If a walk breaks off where something is missing, only a name that is too long can prevent the directories from
being made, and then it ends the walk through those that were made before it. -/
theorem makeAlong_missing (closed : t.Closed) {names : Place} {e : Failure}
    (missing : t.walk [] (names.map .down) = .error .notFound)
    (failed : t.makeAlong (names.map .down) false = (u, .error e)) :
    e = .nameTooLong ∧ u.walk [] (names.map .down) = .error .nameTooLong := by
  induction names using List.reverseRecOn generalizing u e with
  | nil => cases missing
  | append_singleton names name ih =>
    rw [List.map_append, List.map_singleton] at missing failed ⊢
    rcases makeAlong_refused failed with ⟨rfl, other, first, apart⟩ | ⟨above, refused | ⟨made, last⟩⟩
    · rcases makeDirectory_of_walk missing with same | ⟨-, next, made⟩ | ⟨⟨⟩, -⟩
      · exact absurd (Except.error.inj (first.symm.trans same)) apart
      · rw [made] at first
        cases first
    · obtain ⟨rfl, stopped⟩ := ih above refused
      rw [walk_append, stopped]
      exact ⟨rfl, rfl⟩
    · obtain ⟨target, reached⟩ := makeAlong_reaches (congrArg Prod.snd made)
      rw [made] at reached
      obtain rfl : names = target := (walk_names reached).symm
      rw [makeDirectory_snoc, reached] at last
      change (u.look names name >>= _) = _ at last
      by_cases fits : name.utf8ByteSize ≤ longestName
      · -- nothing stands in a directory that was just made
        rw [look_eq_ok_iff.2 ⟨fits, free_of_made closed above made reached⟩] at last
        cases last
      · rw [look_long fits] at last
        rw [walk_append, reached]
        refine ⟨(Except.error.inj last).symm, ?_⟩
        show u.walk names [.down name] = _
        rw [walk, look_long fits]

/-- A failed attempt leaves a tree in which the same attempt fails at once. -/
theorem makeAlong_stopped (closed : t.Closed) {names : Place} {e : Failure}
    (failed : t.makeAlong (names.map .down) false = (u, .error e)) :
    u.makeAlong (names.map .down) false = (u, .error e) ∧ ¬ u.Reaches names := by
  cases names using List.reverseRecOn with
  | nil =>
    rw [List.map_nil, makeAlong, dif_pos rfl] at failed
    cases failed
  | append_singleton names name =>
    have again : u.makeAlong ((names ++ [name]).map .down) false = (u, .error e) := by
      rw [List.map_append, List.map_singleton] at failed ⊢
      rcases makeAlong_refused failed with ⟨rfl, -⟩ | ⟨above, -⟩
      · exact failed
      · -- what was missing is there now, so it is the name that cannot be used
        have missing : t.walk [] ((names ++ [name]).map .down) = .error .notFound := by
          rw [List.map_append, walk_append, above]
          rfl
        rw [← List.map_singleton, ← List.map_append] at failed
        obtain ⟨rfl, long⟩ := makeAlong_missing closed missing failed
        rw [List.map_append, List.map_singleton] at long
        have refused : u.makeDirectory (names.map .down ++ [.down name]) false = .error .nameTooLong := by
          simpa using makeDirectory_of_walk long
        rw [makeAlong, dif_neg (by simp), refused]
        simp only [excuse, directoryAt?, long]
        rfl
    refine ⟨again, fun reached => ?_⟩
    rw [makeAlong_reached reached] at again
    cases again

/-- Where no directory can be reached, nothing is removed. -/
theorem removeTree_of_unreached {out : String} (down : LeadsDown out place) (unreached : ¬ t.Reaches place) :
    (t.removeTree out).1 = t := by
  unfold removeTree
  rw [down.steps]
  cases checkPath out with
  | error e => rfl
  | ok =>
    cases walked : t.walk [] (place.map .down) with
    | error e => rfl
    | ok target =>
      obtain rfl : place = target := (walk_names walked).symm
      exact absurd walked unreached

/-- A directory that can be reached is removed, but for what stays. -/
theorem removeTree_of_reached {out : String} (down : LeadsDown out place) (checked : checkPath out = .ok ())
    (reached : t.Reaches place) : (t.removeTree out).1 = t.prune place := by
  rcases removeTree_cases (t := t) down with pruned | ⟨-, refused | unreached⟩
  · exact pruned
  · exact absurd checked refused
  · exact absurd reached unreached

/-- **Where directories cannot be made, the next attempt fails in the same way** and makes nothing; and there is nothing
to remove. -/
theorem makeDirectories_stopped {out : String} {e : Failure} (down : LeadsDown out place) (closed : t.Closed)
    (failed : t.makeDirectories out = (u, .error e)) :
    u.makeDirectories out = (u, .error e) ∧ (u.removeTree out).1 = u := by
  have attempt := failed
  unfold makeDirectories at failed
  split at failed
  next => cases failed
  next named =>
    split at failed
    -- a path that cannot be used is refused before the tree is looked at
    next other refused =>
      obtain ⟨rfl, -⟩ := Prod.mk.inj failed
      refine ⟨attempt, ?_⟩
      rw [removeTree, refused]
    next checked =>
      have named' : endsUnnamed out = false := (down.named (ne_empty_of_checkPath checked)).1
      rw [down.steps, named'] at failed
      obtain ⟨again, unreached⟩ := makeAlong_stopped closed failed
      refine ⟨?_, removeTree_of_unreached down unreached⟩
      rw [makeDirectories, if_neg named, checked, down.steps, named']
      exact again

/-! ## §4. Directories that are removed and made again. -/

/-- What is left of a tree stands in directories: a directory stays with what is in it. -/
theorem Closed.prune (closed : t.Closed) (place : Place) : (t.prune place).Closed := by
  intro parent name here
  by_cases root : parent = []
  · rw [root]
    rfl
  · rw [node?_prune (by simp)] at here
    rw [node?_prune root]
    split at here
    next => cases here
    next kept =>
      rw [if_neg]
      · exact closed parent name here
      · intro gone
        obtain ⟨above, left⟩ := Bool.and_eq_true_iff.1 gone
        refine kept (Bool.and_eq_true_iff.2 ⟨?_, ?_⟩)
        · exact List.isPrefixOf_iff_prefix.2 ((List.isPrefixOf_iff_prefix.1 above).trans (List.prefix_append _ _))
        · cases stays : t.stays (parent ++ [name]) with
          | false => rfl
          | true => rw [stays_above stays] at left; cases left

/-- Directories on the way to a place are all that it needs to be reached. -/
theorem Reaches.of_above (reached : t.Reaches place)
    (keeps : ∀ above, above <+: place → t.node? above = some .directory → u.node? above = some .directory) :
    u.Reaches place := by
  induction place using List.reverseRecOn with
  | nil => rfl
  | append_singleton place name ih =>
    obtain ⟨before, fits, here⟩ := reaches_snoc_iff.1 reached
    refine reaches_snoc_iff.2 ⟨ih before ?_, fits, keeps _ (List.prefix_refl _) here⟩
    exact fun above inside => keeps above (inside.trans (List.prefix_append _ _))

/-- A directory that stays is there after the removal, and one above it as well. -/
theorem Reaches.prune (reached : t.Reaches place) (stays : t.stays place = true) : (t.prune place).Reaches place := by
  refine reached.of_above (fun above inside here => ?_)
  by_cases root : above = []
  · rw [root]
    rfl
  · obtain ⟨below, rfl⟩ := inside
    rw [node?_prune root, stays_above stays, Bool.not_true, Bool.and_false]
    exact here

/-- A directory that was removed can be made again. -/
theorem makeDirectories_prune {out : String} (down : LeadsDown out place) (checked : checkPath out = .ok ())
    (reached : t.Reaches place) : ((t.prune place).makeDirectories out).2 = .ok () := by
  cases stays : t.stays place with
  | true => rw [makeDirectories_reached down checked (reached.prune stays)]
  | false =>
    obtain ⟨named, nonempty⟩ := down.named (ne_empty_of_checkPath checked)
    obtain ⟨parent, name, rfl⟩ : ∃ parent name, place = parent ++ [name] :=
      ⟨_, _, (List.dropLast_concat_getLast nonempty).symm⟩
    obtain ⟨above, fits, -⟩ := reaches_snoc_iff.1 reached
    -- the directory above is there still, for nothing above a place is below it
    have still : (t.prune (parent ++ [name])).Reaches parent := by
      refine above.of_above (fun other inside here => ?_)
      by_cases root : other = []
      · rw [root]
        rfl
      · rw [node?_prune root, if_neg, here]
        intro gone
        have below := List.isPrefixOf_iff_prefix.1 (Bool.and_eq_true_iff.1 gone).1
        exact absurd (below.trans inside).length_le (by simp)
    have free : (t.prune (parent ++ [name])).node? (parent ++ [name]) = none := by
      rw [node?_prune (by simp), stays, if_pos (by simp)]
    have made : (t.prune (parent ++ [name])).makeDirectory (steps out) (endsUnnamed out) =
        .ok ((t.prune (parent ++ [name])).set (parent ++ [name]) .directory) := by
      rw [down.steps, named, List.map_append, List.map_singleton, makeDirectory_snoc, still]
      show (look _ parent name >>= _) = _
      rw [look_eq_ok_iff.2 ⟨fits, free⟩]
      rfl
    rw [makeDirectories_of_makeDirectory checked made]

end ScriptBridge.Files.Tree

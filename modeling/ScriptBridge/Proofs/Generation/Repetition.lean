import ScriptBridge.Proofs.Files.Repetition
import ScriptBridge.Proofs.Generation.Directory

/-!
# ScriptBridge.Proofs.Generation.Repetition

A run that is repeated.

The second run starts on what the first one left, which is more than the first one found: files that it wrote, perhaps
only some of them, and directories.  Still it does the same.  A directory that could not be made cannot be made the
second time; one that was made is found, or cleared to what it was before the plan was carried out.  While the plan is
carried out again, every place looks either as it did the first time or as it did in the end, and both look alike to a
write: files never stand in the way, and directories are the same all along.

Main results:
  * `perform_again` - a plan that is carried out once more;
  * `prepared_again` - the directory that is made once more;
  * `generate_again` - a second run repeats the first and changes nothing.
-/

namespace ScriptBridge.Generation

open ScriptBridge.Symbol ScriptBridge.Binding ScriptBridge.Token ScriptBridge.Files

/-! ## §1. A plan, carried out again. -/

/-- At each place the middle tree looks like the first one or like the last one. -/
def Between (first middle last : Tree) : Prop :=
  ∀ place, middle.node? place = first.node? place ∨ middle.node? place = last.node? place

/-- Two trees have the same directories. -/
def SameDirectories (t u : Tree) : Prop :=
  ∀ place, t.node? place = some .directory ↔ u.node? place = some .directory

section

variable {first middle last t u : Tree} {out : String} {place : Place}

theorem Between.directory_iff (between : Between first middle last) (same : SameDirectories first last) :
    SameDirectories first middle := by
  intro other
  rcases between other with here | here
  · rw [here]
  · rw [here]
    exact same other

/-- The same file is put into both trees. -/
theorem Between.set {file : Place} {node : Node} (between : Between first middle last) (nonempty : file ≠ []) :
    Between (first.set file node) (middle.set file node) last := by
  intro other
  rw [Tree.node?_set nonempty, Tree.node?_set nonempty]
  split
  · exact .inl rfl
  · exact between other

theorem SameDirectories.set {file : Place} (nonempty : file ≠ []) (free : t.node? file ≠ some .directory)
    (content : ByteArray) : SameDirectories t (t.set file (.file content)) := by
  intro other
  rw [Tree.node?_set nonempty]
  split
  next same =>
    subst same
    exact iff_of_false free (by rintro ⟨⟩)
  next => exact Iff.rfl

/-- Carrying out a plan makes no directories and replaces none. -/
theorem perform_directories {actions : List Action} {outputs : List Output}
    (files : actions.filterMap Action.file? = outputs.map (Output.file out))
    (plain : ∀ o ∈ outputs, '/' ∉ o.module.toList) (reached : t.walk [] (steps out) = .ok place) :
    SameDirectories t ((perform actions : StateM Tree _) t).2 := by
  induction actions generalizing outputs t with
  | nil => exact fun _ => Iff.rfl
  | cons action actions ih =>
    cases action with
    | report entry => exact ih files plain reached
    | write path text =>
      obtain ⟨o, outputs, rfl, rfl, rfl, first, others_files, others, next⟩ := write_next files plain reached
      rcases next with ⟨e, written⟩ | ⟨takes, free, written, still⟩
      · rw [perform_write_error actions written]
        exact fun _ => Iff.rfl
      · rw [perform_write_ok actions written]
        intro other
        exact (SameDirectories.set (by simp) free _ other).trans (ih others_files others still other)

/-- **A plan that is carried out once more** reports the same and ends in the same way, and leaves the same tree behind,
as long as every place looks as it did the first time or in the end. -/
theorem perform_again {actions : List Action} {outputs : List Output}
    (files : actions.filterMap Action.file? = outputs.map (Output.file out))
    (plain : ∀ o ∈ outputs, '/' ∉ o.module.toList) (reached : t.walk [] (steps out) = .ok place)
    (between : Between t u ((perform actions : StateM Tree _) t).2) :
    ((perform actions : StateM Tree _) u).1 = ((perform actions : StateM Tree _) t).1 ∧
      ((perform actions : StateM Tree _) u).2.node? = ((perform actions : StateM Tree _) t).2.node? := by
  have directories := between.directory_iff (perform_directories files plain reached)
  induction actions generalizing outputs t u with
  | nil => exact ⟨rfl, funext fun other => (between other).elim id id⟩
  | cons action actions ih =>
    cases action with
    | report entry =>
      obtain ⟨reported, view⟩ := ih files plain reached between directories
      rw [perform_report, perform_report, reported]
      exact ⟨rfl, view⟩
    | write path text =>
      obtain ⟨o, outputs, rfl, rfl, rfl, first, others_files, others, next⟩ := write_next files plain reached
      rcases next with ⟨e, written⟩ | ⟨takes, free, written, still⟩
      · -- nothing was written the first time, so the trees look the same
        rw [perform_write_error actions written] at between ⊢
        have view : u.node? = t.node? := funext fun other => (between other).elim id id
        rw [perform_write_error actions (Tree.write_congr view.symm written)]
        exact ⟨rfl, view⟩
      · have reached' : u.walk [] (steps out) = .ok place :=
          Tree.Keeps.walk (fun other => (directories other).1) reached
        have free' : u.node? (place ++ [o.fileName]) ≠ some .directory := fun here => free ((directories _).2 here)
        have written' := (write_output_iff first reached').2 ⟨takes, free', rfl⟩
        rw [perform_write_ok actions written] at between
        have between' : Between (t.set (place ++ [o.fileName]) (.file o.text.toUTF8)) _ _ := between.set (by simp)
        obtain ⟨ended, view⟩ := ih others_files others still between'
          (between'.directory_iff (perform_directories others_files others still))
        rw [perform_write_ok actions written, perform_write_ok actions written', ended]
        exact ⟨rfl, view⟩

end

/-! ## §2. The directory, made again. -/

section

variable {options : Options} {r : Registry} {names : List String} {out : String} {place : Place} {t u : Tree}

theorem closed_cleared (down : LeadsDown out place) (closed : t.Closed) : (cleared options out t).Closed := by
  unfold cleared
  split
  · rcases Tree.removeTree_cases (t := t) down with pruned | ⟨same, -⟩
    · rw [pruned]
      exact closed.prune place
    · rw [same]
      exact closed
  · exact closed

/-- A directory that was made can be reached. -/
theorem prepared_reaches (down : LeadsDown out place) (made : (prepared options out t).2 = .ok ()) :
    (prepared options out t).1.walk [] (steps out) = .ok place ∧ (prepared options out t).1.Reaches place := by
  obtain ⟨target, walked⟩ := Tree.makeDirectories_reaches made
  have same := walked
  rw [down.steps] at same
  obtain rfl : place = target := (Tree.walk_names same).symm
  exact ⟨walked, same⟩

/-- A directory that could not be made cannot be made the second time. -/
theorem prepared_stopped {e : Failure} (down : LeadsDown out place) (closed : t.Closed)
    (failed : (prepared options out t).2 = .error e) :
    prepared options out (prepared options out t).1 = ((prepared options out t).1, .error e) := by
  have whole : (cleared options out t).Closed := closed_cleared down closed
  obtain ⟨again, kept⟩ := Tree.makeDirectories_stopped down whole (Prod.ext rfl failed)
  have nothing : cleared options out (prepared options out t).1 = (prepared options out t).1 := by
    unfold cleared
    split
    · exact kept
    · rfl
  rw [prepared, nothing]
  exact again

/-- **A directory that is there is made again**: it is found, or it is cleared, and then what was below it is gone unless
it stays. -/
theorem prepared_again (down : LeadsDown out place) (usable : out ≠ "" → checkPath out = .ok ())
    (reached : t.Reaches place) :
    (prepared options out t).2 = .ok () ∧ ∀ other, (prepared options out t).1.node? other = t.node? other ∨
      options.clean = true ∧ out ≠ "" ∧ t.stays other = false ∧ (∃ below, below ≠ [] ∧ other = place ++ below) ∧
        (prepared options out t).1.node? other = none := by
  by_cases empty : out = ""
  · -- there is nothing to make, and nothing is removed
    have same : prepared options out t = (t, .ok ()) := by
      unfold prepared cleared
      rw [empty]
      split
      · rfl
      · rfl
    rw [same]
    exact ⟨rfl, fun other => .inl rfl⟩
  have checked := usable empty
  unfold prepared cleared
  cases clean : options.clean with
  | false =>
    show (t.makeDirectories out).2 = .ok () ∧ ∀ other, (t.makeDirectories out).1.node? other = _ ∨ _
    rw [Tree.makeDirectories_reached down checked reached]
    exact ⟨rfl, fun other => .inl rfl⟩
  | true =>
    rw [if_pos rfl, Tree.removeTree_of_reached down checked reached]
    have made := Tree.makeDirectories_prune down checked reached
    refine ⟨made, fun other => ?_⟩
    have grown := Tree.makeDirectories_grown (t := t.prune place) down
    by_cases inside : place <+: other
    · obtain ⟨below, rfl⟩ := inside
      by_cases here : below = []
      · -- the directory itself
        obtain ⟨target, walked⟩ := Tree.makeDirectories_reaches made
        rw [down.steps] at walked
        obtain rfl : place = target := (Tree.walk_names walked).symm
        have there := Tree.Reaches.directory walked (List.prefix_refl place)
        rw [here, List.append_nil, there, reached.directory (List.prefix_refl place)]
        exact .inl rfl
      · rw [node?_grown_below grown here, Tree.node?_prune_below here]
        cases stays : t.stays (place ++ below) with
        | true => exact .inl (if_pos rfl)
        | false => exact .inr ⟨rfl, empty, rfl, ⟨below, here, rfl⟩, if_neg Bool.false_ne_true⟩
    · left
      rcases (Confined.prune place t).trans (.of_grown grown) other inside with same | ⟨above, missing, -⟩
      · exact same
      · rw [reached.directory above] at missing
        cases missing

/-- Clearing and making the directory changes nothing of what is held. -/
theorem held_prepared : (prepared options out t).1.held = t.held := by
  unfold prepared
  rw [Tree.held_makeDirectories]
  unfold cleared
  split
  · exact Tree.held_removeTree out
  · rfl

/-- **What the second removal takes away, the first has taken away**: what stayed stays again, since a run does not take
anything away itself. -/
theorem prepared_gone (down : LeadsDown out place) (closed : t.Closed) (clean : options.clean = true) (named : out ≠ "")
    (made : (prepared options out t).2 = .ok ()) (held : u.held = t.held)
    (there : ∀ other, ((prepared options out t).1.node? other).isSome = true → (u.node? other).isSome = true)
    {below : Place} (nonempty : below ≠ []) (gone : u.stays (place ++ below) = false) :
    (prepared options out t).1.node? (place ++ below) = none := by
  rw [prepared_below down closed clean made nonempty, Tree.spared, if_neg]
  rintro (empty | stays)
  · exact named empty
  · have same : t.held ⊆ u.held := by
      rw [held]
      exact List.Subset.refl _
    refine Bool.false_ne_true (gone.symm.trans (Tree.stays_of_isSome same ?_ stays))
    -- a place that is held is still there after the first removal
    rintro kept ⟨more, rfl⟩ self here
    refine there _ ?_
    rw [List.append_assoc] at self here ⊢
    rw [prepared_below down closed clean made (by simp [nonempty]), Tree.spared, if_pos (.inr self)]
    exact here

/-! ## §3. The run. -/

/-- Two runs that get their directory and carry out their plan in the same way have the same outcome. -/
theorem generate_congr (first : (prepared options out t).2 = .ok ()) (second : (prepared options out u).2 = .ok ())
    (same :
      ((perform (Plan.ofRequests options.paths r out names).actions : StateM Tree _) (prepared options out t).1).1 =
        ((perform (Plan.ofRequests options.paths r out names).actions : StateM Tree _) (prepared options out u).1).1) :
    ((generate options r names out : StateM Tree _) t).1 = ((generate options r names out : StateM Tree _) u).1 := by
  rw [generate, run_bind, run_bind, run_prepare, run_prepare, first, second]
  generalize Plan.ofRequests options.paths r out names = plan at same
  simp only [Except.mapError]
  rw [run_bind, run_bind, same]
  rcases ((perform plan.actions : StateM Tree _) (prepared options out u).1).1 with ⟨log, problem | count⟩
  · rfl
  · cases plan.ending with
    | error e => rfl
    | ok report => rfl

/-- **Generation can be repeated**: on the tree that a run leaves behind, the same run has the same outcome, be it a
report or an error, and the tree stays as it is. -/
theorem generate_again (down : LeadsDown out place) (closed : t.Closed) :
    let first := (generate options r names out : StateM Tree _) t
    let second := (generate options r names out : StateM Tree _) first.2
    second.1 = first.1 ∧ second.2.node? = first.2.node? := by
  intro first second
  cases made : (prepared options out t).2 with
  | error e =>
    -- without a directory there is nothing but the attempt to make it
    have once : first = (⟨[], .error (.file out e)⟩, (prepared options out t).1) := generate_unprepared made
    have stopped := prepared_stopped down closed made
    have again : second = (⟨[], .error (.file out e)⟩, (prepared options out first.2).1) := by
      refine generate_unprepared ?_
      rw [once, stopped]
    rw [again, once, stopped]
    exact ⟨rfl, rfl⟩
  | ok =>
    obtain ⟨outputs, files, submits⟩ := submits_ofRequests options.paths r out names
    obtain ⟨start, found⟩ := prepared_reaches down made
    have carried : first.2 = _ := (generate_prepared r names made).1
    obtain ⟨done, rest, -, deposits, -⟩ := perform_deposits files submits.plain start
    have reached : first.2.Reaches place := by
      rw [carried, Tree.Reaches, ← down.steps]
      exact deposits.reached
    obtain ⟨remade, near⟩ : (prepared options out first.2).2 = .ok () ∧ _ :=
      prepared_again down (checkPath_of_makeDirectories made) reached
    have tree : first.2 = deposit place (prepared options out t).1 done := carried.trans deposits.tree
    have held : first.2.held = t.held := by
      rw [tree, held_deposit, held_prepared]
    have there : ∀ other, ((prepared options out t).1.node? other).isSome = true →
        (first.2.node? other).isSome = true := by
      intro other here
      rw [tree]
      exact isSome_node?_deposit here
    have between : Between (prepared options out t).1 (prepared options out first.2).1 first.2 := by
      intro other
      rcases near other with same | ⟨clean, named, stays, ⟨below, inside, rfl⟩, gone⟩
      · exact .inr same
      · rw [gone, prepared_gone down closed clean named made held there inside stays]
        exact .inl rfl
    obtain ⟨ended, view⟩ := perform_again files submits.plain start
      (fun other => (between other).imp_right (·.trans (congrArg (Tree.node? · other) carried)))
    refine ⟨generate_congr remade made ended, ?_⟩
    rw [(generate_prepared r names remade).1, view, carried]

end

theorem generate_again_grove : LeadsDown "build/gen" ["build", "gen"] ∧ meadow.Closed ∧
    let first := (generate .standard (lone "garden::Grove") ["garden::Grove"] "build/gen" : StateM Tree _) meadow
    let second := (generate .standard (lone "garden::Grove") ["garden::Grove"] "build/gen" : StateM Tree _) first.2
    second.1 = first.1 ∧ second.2.node? = first.2.node? := by
  have closed : meadow.Closed := Tree.closed_of_nodes (by decide +kernel)
  exact ⟨leadsDown_gen, closed, generate_again leadsDown_gen closed⟩

end ScriptBridge.Generation

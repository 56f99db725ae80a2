import Respecify.Proofs.Workspace.Walk

/-!
# What actions on files do

Each action is told by what it answers and by the tree that it leaves behind,
also where it fails.  Making directories adds directories and nothing else, and
writing a file changes that file only.
-/

namespace Respecify

namespace Disk

variable {α β : Type}

/-! ## Performing actions -/

theorem perform_pure (value : α) (tree : FileTree) :
    perform (pure value) tree = (.ok value, tree) := rfl

theorem perform_get (tree : FileTree) : perform (get : Disk FileTree) tree = (.ok tree, tree) := rfl

theorem perform_bind (action : Disk α) (next : α → Disk β) (tree : FileTree) :
    perform (action >>= next) tree =
      match action.perform tree with
      | (.ok value, after) => (next value).perform after
      | (.error error, after) => (.error error, after) := by
  change (ExceptT.bindCont next ((action.perform tree).1)) (action.perform tree).2 = _
  rcases action.perform tree with ⟨_ | _, _⟩ <;> rfl

/-- What holds behind an action, and stays true where another one follows, holds behind
both. -/
theorem after_bind {P : FileTree → Prop} {action : Disk α} {next : α → Disk β} {tree : FileTree}
    (first : P (action.perform tree).2)
    (second : ∀ value between, P between → P ((next value).perform between).2) :
    P (perform (action >>= next) tree).2 := by
  rw [perform_bind]
  generalize action.perform tree = outcome at first
  rcases outcome with ⟨error | value, between⟩
  · exact first
  · exact second value between first

theorem perform_tryCatch (action : Disk α) (next : FileError → Disk α) (tree : FileTree) :
    perform (tryCatch action next) tree =
      match action.perform tree with
      | (.ok value, after) => (.ok value, after)
      | (.error error, after) => (next error).perform after := by
  unfold perform
  rw [ExceptT.run_tryCatch, StateT.run_bind]
  rcases done : action.run.run tree with ⟨error | value, after⟩
  · rfl
  · rfl

theorem perform_makeDirectory (location : Location) (tree : FileTree) :
    perform (makeDirectory location) tree =
      match tree.place? location with
      | .error error => (.error error, tree)
      | .ok place =>
          if (tree.node? place).isSome then (.error .occupied, tree)
          else (.ok (), tree.put place .directory) := by
  unfold makeDirectory place
  simp only [perform_bind, perform_get]
  cases tree.place? location with
  | error error => rfl
  | ok place =>
      simp only [perform_pure]
      split
      · rfl
      · rfl

theorem perform_ensureDirectory (location : Location) (tree : FileTree) :
    perform (ensureDirectory location) tree =
      match perform (makeDirectory location) tree with
      | (.ok value, after) => (.ok value, after)
      | (.error error, after) =>
          if after.hasDirectory location then (.ok (), after) else (.error error, after) := by
  unfold ensureDirectory
  rw [perform_tryCatch]
  rcases perform (makeDirectory location) tree with ⟨_ | _, after⟩
  · simp only [perform_bind, perform_get]
    split <;> rfl
  · rfl

theorem perform_ensureDirectories_cons (anchor name : Text) (above : List Text) (tree : FileTree) :
    perform (ensureDirectories anchor (name :: above)) tree =
      match perform (makeDirectory ⟨anchor, (name :: above).reverse⟩) tree with
      | (.ok value, after) => (.ok value, after)
      | (.error error, after) =>
          if error = .notFound then
            perform (do
              ensureDirectories anchor above
              ensureDirectory ⟨anchor, (name :: above).reverse⟩) after
          else if after.hasDirectory ⟨anchor, (name :: above).reverse⟩ then (.ok (), after)
          else (.error error, after) := by
  rw [ensureDirectories, perform_tryCatch]
  rcases perform (makeDirectory ⟨anchor, (name :: above).reverse⟩) tree with ⟨error | _, after⟩
  · dsimp only
    split
    · rfl
    · simp only [perform_bind, perform_get]
      split <;> rfl
  · rfl

/-- What holds where a directory is made or not holds where it is made unless it is
there. -/
theorem after_ensureDirectory {P : FileTree → Prop} {location : Location} {tree : FileTree}
    (made : P (perform (makeDirectory location) tree).2) :
    P (perform (ensureDirectory location) tree).2 := by
  rw [perform_ensureDirectory]
  generalize perform (makeDirectory location) tree = outcome at made
  rcases outcome with ⟨error | _, after⟩
  · dsimp only
    split <;> exact made
  · exact made

/-- What stays true where a directory is made stays true where directories are made above
one another. -/
theorem after_ensureDirectories {P : FileTree → Prop} {anchor : Text} {names : List Text}
    {tree : FileTree} (before : P tree)
    (step : ∀ above, above <:+ names → ∀ between, P between →
      P (perform (makeDirectory ⟨anchor, above.reverse⟩) between).2) :
    P (perform (ensureDirectories anchor names) tree).2 := by
  induction names generalizing tree with
  | nil => exact after_ensureDirectory (step [] List.suffix_rfl tree before)
  | cons name above inductionHypothesis =>
      have made := step (name :: above) List.suffix_rfl
      have first := made tree before
      rw [perform_ensureDirectories_cons]
      generalize perform (makeDirectory ⟨anchor, (name :: above).reverse⟩) tree = outcome at first
      rcases outcome with ⟨error | _, between⟩
      · dsimp only
        split
        · exact after_bind (inductionHypothesis first fun further isAbove =>
              step further (isAbove.trans (List.suffix_cons name above)))
            fun _ _ held => after_ensureDirectory (made _ held)
        · split <;> exact first
      · exact first

theorem perform_writeText (location : Location) (code : Text) (tree : FileTree) :
    perform (writeText location code) tree =
      match tree.place? location with
      | .error error => (.error error, tree)
      | .ok place =>
          if tree.node? place = some .directory then (.error .isDirectory, tree)
          else
            match Utf8.encode? code with
            | some bytes => (.ok (), (tree.put place (.file [])).put place (.file bytes))
            | none => (.error .unencodable, tree.put place (.file [])) := by
  unfold writeText place
  simp only [perform_bind, perform_get]
  cases tree.place? location with
  | error error => rfl
  | ok place =>
      simp only [perform_pure]
      split
      · rfl
      · cases Utf8.encode? code with
        | some bytes => rfl
        | none => rfl

theorem perform_readText (location : Location) (tree : FileTree) :
    perform (readText location) tree = (tree.readText location, tree) := by
  unfold readText
  simp only [perform_bind, perform_get]
  cases tree.readText location with
  | error error => rfl
  | ok source => rfl

end Disk

/-! ## Directories that are added -/

/-- From one tree to the other, nothing happened but that directories came up where
nothing was. -/
structure FileTree.Grows (before after : FileTree) : Prop where
  same : ∀ place, after.node? place = before.node? place ∨
    before.node? place = none ∧ after.node? place = some .directory
  nested : before.IsNested → after.IsNested

namespace FileTree

variable {tree before middle after : FileTree} {start place : Place} {node : Node}

theorem Grows.refl (tree : FileTree) : tree.Grows tree :=
  ⟨fun _ => Or.inl rfl, id⟩

theorem Grows.trans (first : before.Grows middle) (second : middle.Grows after) :
    before.Grows after := by
  refine ⟨fun place => ?_, fun nested => second.nested (first.nested nested)⟩
  rcases second.same place with kept | ⟨none, directory⟩
  · rw [kept]
    exact first.same place
  · rcases first.same place with kept | ⟨_, present⟩
    · exact Or.inr ⟨kept ▸ none, directory⟩
    · rw [none] at present
      cases present

/-- What is there stays as it is. -/
theorem Grows.node?_of_some (grows : before.Grows after) (present : before.node? place = some node) :
    after.node? place = some node := by
  rcases grows.same place with kept | ⟨none, _⟩
  · rw [kept, present]
  · rw [none] at present
    cases present

theorem IsNested.directory_dropLast (nested : tree.IsNested) (below : place ≠ [])
    (present : (tree.node? place).isSome) : tree.node? place.dropLast = some .directory := by
  rw [← List.dropLast_append_getLast below] at present
  exact nested _ _ present

/-- A walk that starts in a directory ends in one, or right below one. -/
theorem IsNested.directory_of_walk (nested : tree.IsNested) {names : List Text}
    (begins : tree.node? start = some .directory) (walked : tree.walk start names = .ok place)
    (below : place ≠ []) : tree.node? place.dropLast = some .directory := by
  refine walk_induction (motive := fun start _ => tree.node? start = some .directory →
    tree.node? place.dropLast = some .directory) ?nil ?last ?entered walked begins
  case nil =>
    intro directory
    exact nested.directory_dropLast below (by rw [directory]; rfl)
  case last =>
    rintro start name - rfl directory
    rwa [List.dropLast_concat]
  case entered =>
    intro start inner name names here inductionHypothesis directory
    apply inductionHypothesis
    rcases enter_eq_ok_iff.mp here with ⟨_, inside, rfl⟩ | ⟨_, found, rfl⟩
    · exact nested.directory_dropLast inside (by rw [directory]; rfl)
    · exact found

theorem node?_nil (tree : FileTree) : tree.node? [] = some .directory :=
  rfl

/-- A location leads to a directory, or right below one. -/
theorem IsNested.directory_of_place? (nested : tree.IsNested) {location : Location}
    (led : tree.place? location = .ok place) (below : place ≠ []) :
    tree.node? place.dropLast = some .directory := by
  rw [place?] at led
  split at led
  · exact nested.directory_of_walk tree.node?_nil led below
  · cases led

end FileTree

namespace Disk

/-- Making a directory adds it or nothing. -/
theorem grows_makeDirectory (location : Location) (tree : FileTree) :
    tree.Grows (perform (makeDirectory location) tree).2 := by
  rw [perform_makeDirectory]
  cases led : tree.place? location with
  | error error => exact FileTree.Grows.refl tree
  | ok place =>
      dsimp only
      split
      · exact FileTree.Grows.refl tree
      · rename_i absent
        rw [Bool.not_eq_true, Option.isSome_eq_false_iff, Option.isNone_iff_eq_none] at absent
        have below : place ≠ [] := by
          rintro rfl
          cases absent
        constructor
        · intro other
          rw [FileTree.node?_put _ _ _ below]
          split
          · rename_i here
            exact Or.inr ⟨here ▸ absent, rfl⟩
          · exact Or.inl rfl
        · intro nested
          exact nested.put below (nested.directory_of_place? led below) (by rw [absent]; simp) _

/-- Making a directory with those above it adds directories only. -/
theorem grows_ensureDirectories (anchor : Text) (names : List Text) (tree : FileTree) :
    tree.Grows (perform (ensureDirectories anchor names) tree).2 :=
  after_ensureDirectories (P := tree.Grows) (FileTree.Grows.refl tree) fun _ _ between grows =>
    grows.trans (grows_makeDirectory _ between)

theorem grows_ensureParent (location : Location) (tree : FileTree) :
    tree.Grows (perform (ensureParent location) tree).2 :=
  grows_ensureDirectories _ _ tree

end Disk

end Respecify

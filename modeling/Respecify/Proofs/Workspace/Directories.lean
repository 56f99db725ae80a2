import Respecify.Proofs.Workspace.Disk

/-!
# Making directories below a location

Below a directory, what stands at names is what stands at their place.  The
directories that a place needs are made unless a file stands where one of them
should be, and nothing else changes.
-/

namespace Respecify

namespace FileTree

/-- A file stands at the place. -/
def isFile (tree : FileTree) (place : Place) : Bool :=
  match tree.node? place with
  | some (.file _) => true
  | _ => false

/-- Neither at the place nor above it stands a file, so that it can be made a
directory. -/
def HasWay (tree : FileTree) (place : Place) : Prop :=
  ∀ above ∈ place.inits, tree.isFile above = false

instance (tree : FileTree) (place : Place) : Decidable (tree.HasWay place) :=
  inferInstanceAs (Decidable (∀ above ∈ place.inits, tree.isFile above = false))

/-- The location leads to a directory of a tree as a file system holds it. -/
structure IsRooted (tree : FileTree) (location : Location) (root : Place) : Prop where
  place : tree.place? location = .ok root
  directory : tree.node? root = some .directory
  nested : tree.IsNested

variable {tree after : FileTree} {place : Place} {code : Text}

/-! ## The way to a place -/

theorem hasWay_iff :
    tree.HasWay place ↔
      ∀ above, above <+: place → ∀ bytes, tree.node? above ≠ some (.file bytes) := by
  simp only [HasWay, List.mem_inits, isFile]
  constructor
  · intro way above isAbove bytes file
    have noFile := way above isAbove
    rw [file] at noFile
    cases noFile
  · intro way above isAbove
    split
    · rename_i bytes file
      exact absurd file (way above isAbove bytes)
    · rfl

/-- A way to a place leads through those above it. -/
theorem HasWay.of_prefix {above : Place} (way : tree.HasWay place) (isAbove : above <+: place) :
    tree.HasWay above :=
  hasWay_iff.mpr fun _ within => hasWay_iff.mp way _ (within.trans isAbove)

/-- Above a directory there is no file. -/
theorem IsNested.hasWay (nested : tree.IsNested) (directory : tree.node? place = some .directory) :
    tree.HasWay place := by
  refine hasWay_iff.mpr fun above isAbove bytes file => ?_
  rw [nested.eq_of_prefix isAbove file (by rw [directory]; rfl), directory] at file
  cases file

/-- The way to a place where something stands is free. -/
theorem IsNested.hasWay_dropLast (nested : tree.IsNested) (below : place ≠ [])
    (present : (tree.node? place).isSome) : tree.HasWay place.dropLast :=
  nested.hasWay (nested.directory_dropLast below present)

/-- Directories that are added are in nobody's way. -/
theorem Grows.hasWay_iff (grows : tree.Grows after) : after.HasWay place ↔ tree.HasWay place := by
  rw [FileTree.hasWay_iff, FileTree.hasWay_iff]
  refine forall_congr' fun above => forall_congr' fun _ => forall_congr' fun bytes => not_congr ?_
  rcases grows.same above with kept | ⟨none, directory⟩
  · rw [kept]
  · simp [none, directory]

/-! ## Names below a location -/

section Rooted

variable {location : Location} {root : Place} {below : List Text}

theorem IsRooted.walked (rooted : tree.IsRooted location root) :
    location.anchor.isEmpty = true ∧ tree.walk [] location.names = .ok root := by
  have led := rooted.place
  rw [place?] at led
  split at led
  · rename_i bare
    exact ⟨bare, led⟩
  · cases led

/-- Where directories stay, a location leads where it led. -/
theorem IsRooted.of_kept (rooted : tree.IsRooted location root) (nested : after.IsNested)
    (kept : ∀ place, tree.node? place = some .directory → after.node? place = some .directory) :
    after.IsRooted location root where
  place := by
    rw [place?, if_pos rooted.walked.1]
    exact walk_mono kept rooted.walked.2
  directory := kept _ rooted.directory
  nested := nested

theorem IsRooted.grows (rooted : tree.IsRooted location root) (grows : tree.Grows after) :
    after.IsRooted location root :=
  rooted.of_kept (grows.nested rooted.nested) fun _ directory => grows.node?_of_some directory

/-- In a directory, a name leads to its place. -/
theorem IsRooted.place?_of_directory (rooted : tree.IsRooted location root) {last : Text}
    (ordinary : ∀ name ∈ below ++ [last], name ≠ up)
    (directory : tree.node? (root ++ below) = some .directory) :
    tree.place? ⟨location.anchor, location.names ++ (below ++ [last])⟩ =
      .ok (root ++ (below ++ [last])) := by
  rw [place?, if_pos rooted.walked.1, walk_append rooted.walked.2 rooted.directory,
    walk_of_directory rooted.nested ordinary directory, List.append_assoc]

/-- Without a directory, a name leads nowhere. -/
theorem IsRooted.place?_of_not_directory (rooted : tree.IsRooted location root) {last : Text}
    (ordinary : ∀ name ∈ below ++ [last], name ≠ up)
    (noDirectory : tree.node? (root ++ below) ≠ some .directory) :
    tree.place? ⟨location.anchor, location.names ++ (below ++ [last])⟩ = .error .notFound ∨
      tree.place? ⟨location.anchor, location.names ++ (below ++ [last])⟩ = .error .notDirectory ∧
        ¬ tree.HasWay (root ++ below) := by
  rw [place?, if_pos rooted.walked.1, walk_append rooted.walked.2 rooted.directory]
  rcases walk_of_not_directory ordinary rooted.directory noDirectory with
    missing | ⟨blocked, above, bytes, isAbove, file⟩
  · exact Or.inl missing
  · exact Or.inr ⟨blocked, fun way => hasWay_iff.mp way above isAbove bytes file⟩

/-- At names below a location stands what stands at their place. -/
theorem IsRooted.at?_eq (rooted : tree.IsRooted location root)
    (ordinary : ∀ name ∈ below, name ≠ up) :
    tree.at? ⟨location.anchor, location.names ++ below⟩ = tree.node? (root ++ below) := by
  rcases List.eq_nil_or_concat below with rfl | ⟨middle, last, rfl⟩
  · rw [List.append_nil, List.append_nil, at?]
    have led := rooted.place
    change tree.place? ⟨location.anchor, location.names⟩ = _ at led
    rw [led]
  · rw [List.concat_eq_append] at ordinary ⊢
    rw [at?]
    by_cases directory : tree.node? (root ++ middle) = some .directory
    · rw [rooted.place?_of_directory ordinary directory]
    · have absent : tree.node? (root ++ (middle ++ [last])) = none := by
        by_contra present
        rw [← ne_eq, Option.ne_none_iff_isSome, ← List.append_assoc] at present
        exact directory (rooted.nested _ _ present)
      rw [absent]
      rcases rooted.place?_of_not_directory ordinary directory with missing | ⟨blocked, _⟩
      · rw [missing]
      · rw [blocked]

/-- The text that is read at names below a location is the one at their place. -/
theorem IsRooted.readText_eq_ok_iff (rooted : tree.IsRooted location root)
    (ordinary : ∀ name ∈ below, name ≠ up) :
    tree.readText ⟨location.anchor, location.names ++ below⟩ = .ok code ↔
      tree.text? (root ++ below) = some code := by
  have here := rooted.at?_eq ordinary
  rw [at?] at here
  rw [readText, text?, ← here]
  cases led : tree.place? ⟨location.anchor, location.names ++ below⟩ with
  | error error => simp
  | ok place =>
      dsimp only
      cases tree.node? place with
      | none => simp
      | some node =>
          cases node with
          | directory => simp
          | file bytes =>
              dsimp only
              cases Utf8.decode? bytes <;> simp

end Rooted

end FileTree

/-- What making a directory at a place does to a tree, with those above it. -/
structure FileTree.IsMade (before : FileTree) (place : Place)
    (outcome : Except FileError Unit × FileTree) : Prop where
  made : before.HasWay place →
    outcome.1 = .ok () ∧ outcome.2.node? place = some .directory
  failed : ¬ before.HasWay place → ∃ error, outcome.1 = .error error
  elsewhere : ∀ other, ¬ other <+: place → outcome.2.node? other = before.node? other

namespace FileTree.IsMade

variable {tree between : FileTree} {above place : Place} {error : FileError}

theorem hasWay (made : tree.IsMade place (.ok (), between)) : tree.HasWay place := by
  by_contra blocked
  rcases made.failed blocked with ⟨error, failed⟩
  cases failed

theorem not_hasWay (made : tree.IsMade place (.error error, between)) : ¬ tree.HasWay place := by
  intro way
  cases (made.made way).1

theorem directory (made : tree.IsMade place (.ok (), between)) :
    between.node? place = some .directory :=
  (made.made made.hasWay).2

/-- Below a directory that cannot be made, none can. -/
theorem of_error (made : tree.IsMade above (.error error, between)) (isAbove : above <+: place) :
    tree.IsMade place (.error error, between) where
  made way := absurd (way.of_prefix isAbove) made.not_hasWay
  failed _ := ⟨error, rfl⟩
  elsewhere other apart := made.elsewhere other fun within => apart (within.trans isAbove)

/-- A directory is made with those above it, first these and then itself. -/
theorem trans {outcome : Except FileError Unit × FileTree}
    (made : tree.IsMade above (.ok (), between)) (grows : tree.Grows between)
    (settles : between.IsMade place outcome) (isAbove : above <+: place) :
    tree.IsMade place outcome where
  made way := settles.made (grows.hasWay_iff.mpr way)
  failed blocked := settles.failed fun way => blocked (grows.hasWay_iff.mp way)
  elsewhere other apart := (settles.elsewhere other apart).trans
    (made.elsewhere other fun within => apart (within.trans isAbove))

end FileTree.IsMade

namespace Disk

open FileTree

variable {tree : FileTree} {location : Location} {root : Place} {below : List Text}

/-! ## Directories that are made -/

/-- What comes of a directory that is to be made in another one. -/
def settled (tree : FileTree) (place : Place) (location : Location) :
    Except FileError Unit × FileTree :=
  if (tree.node? place).isSome then
    if tree.hasDirectory location then (.ok (), tree) else (.error .occupied, tree)
  else
    (.ok (), tree.put place .directory)

/-- In a directory, another one is made unless a file stands there. -/
theorem isMade_settled (rooted : tree.IsRooted location root) {last : Text}
    (ordinary : ∀ name ∈ below ++ [last], name ≠ up)
    (directory : tree.node? (root ++ below) = some .directory) :
    tree.IsMade (root ++ (below ++ [last]))
      (settled tree (root ++ (below ++ [last]))
        ⟨location.anchor, location.names ++ (below ++ [last])⟩) := by
  have filled : root ++ (below ++ [last]) ≠ [] := by simp
  have here := rooted.at?_eq ordinary
  have way : tree.HasWay (root ++ (below ++ [last])) ↔
      ∀ bytes, tree.node? (root ++ (below ++ [last])) ≠ some (.file bytes) := by
    refine hasWay_iff.trans ⟨fun way => way _ List.prefix_rfl, fun noFile above isAbove => ?_⟩
    rw [← List.append_assoc, List.prefix_concat_iff] at isAbove
    rcases isAbove with rfl | isAbove
    · rw [List.append_assoc]
      exact noFile
    · exact hasWay_iff.mp (rooted.nested.hasWay directory) above isAbove
  unfold settled hasDirectory
  rw [here]
  cases found : tree.node? (root ++ (below ++ [last])) with
  | none =>
      refine ⟨fun _ => ⟨rfl, ?_⟩, fun blocked => absurd (way.mpr ?_) blocked, fun other apart => ?_⟩
      · exact (node?_put _ _ _ filled).trans (if_pos rfl)
      · intro bytes file
        rw [found] at file
        cases file
      · refine (node?_put _ _ _ filled).trans (if_neg ?_)
        rintro rfl
        exact apart List.prefix_rfl
  | some node =>
      cases node with
      | file bytes =>
          exact ⟨fun free => absurd found (way.mp free bytes), fun _ => ⟨.occupied, rfl⟩,
            fun _ _ => rfl⟩
      | directory =>
          refine ⟨fun _ => ⟨rfl, found⟩, fun blocked => absurd (way.mpr ?_) blocked,
            fun _ _ => rfl⟩
          intro bytes file
          rw [found] at file
          cases file

theorem perform_makeDirectory_of_directory (rooted : tree.IsRooted location root) {last : Text}
    (ordinary : ∀ name ∈ below ++ [last], name ≠ up)
    (directory : tree.node? (root ++ below) = some .directory) :
    perform (makeDirectory ⟨location.anchor, location.names ++ (below ++ [last])⟩) tree =
      if (tree.node? (root ++ (below ++ [last]))).isSome then (.error .occupied, tree)
      else (.ok (), tree.put (root ++ (below ++ [last])) .directory) := by
  rw [perform_makeDirectory, rooted.place?_of_directory ordinary directory]

theorem perform_ensureDirectory_of_directory (rooted : tree.IsRooted location root) {last : Text}
    (ordinary : ∀ name ∈ below ++ [last], name ≠ up)
    (directory : tree.node? (root ++ below) = some .directory) :
    perform (ensureDirectory ⟨location.anchor, location.names ++ (below ++ [last])⟩) tree =
      settled tree (root ++ (below ++ [last]))
        ⟨location.anchor, location.names ++ (below ++ [last])⟩ := by
  rw [perform_ensureDirectory, perform_makeDirectory_of_directory rooted ordinary directory,
    settled]
  by_cases present : (tree.node? (root ++ (below ++ [last]))).isSome = true
  · rw [if_pos present, if_pos present]
  · rw [if_neg present, if_neg present]

/-- Directories that are there need not be made. -/
theorem perform_ensureDirectories_of_rooted (rooted : tree.IsRooted location root) :
    perform (ensureDirectories location.anchor location.names.reverse) tree = (.ok (), tree) := by
  have led := rooted.place
  have isThere : (tree.node? root).isSome = true := by
    rw [rooted.directory]
    rfl
  have isDirectory : tree.hasDirectory ⟨location.anchor, location.names⟩ = true := by
    have here := @IsRooted.at?_eq tree location root [] rooted (by simp)
    rw [List.append_nil, List.append_nil, rooted.directory] at here
    rw [hasDirectory, here]
    rfl
  have made : perform (makeDirectory ⟨location.anchor, location.names⟩) tree =
      (.error .occupied, tree) := by
    rw [perform_makeDirectory]
    change tree.place? ⟨location.anchor, location.names⟩ = _ at led
    rw [led]
    exact if_pos isThere
  cases names : location.names.reverse with
  | nil =>
      have none : location.names = [] := List.reverse_eq_nil_iff.mp names
      rw [none] at made isDirectory
      rw [ensureDirectories, perform_ensureDirectory, made]
      exact if_pos isDirectory
  | cons name above =>
      have whole : (name :: above).reverse = location.names := by
        rw [← names, List.reverse_reverse]
      rw [perform_ensureDirectories_cons, whole, made]
      exact (if_neg (by simp)).trans (if_pos isDirectory)

/-- The directories of a place are made unless a file stands in the way. -/
theorem isMade_ensureDirectories (rooted : tree.IsRooted location root)
    (ordinary : ∀ name ∈ below, name ≠ up) :
    tree.IsMade (root ++ below)
      (perform (ensureDirectories location.anchor (location.names ++ below).reverse) tree) := by
  induction below using List.reverseRecOn with
  | nil =>
      rw [List.append_nil, List.append_nil, perform_ensureDirectories_of_rooted rooted]
      exact ⟨fun _ => ⟨rfl, rooted.directory⟩,
        fun blocked => absurd (rooted.nested.hasWay rooted.directory) blocked, fun _ _ => rfl⟩
  | append_singleton below last inductionHypothesis =>
      have aboveMade := inductionHypothesis fun name member =>
        ordinary name (List.mem_append_left _ member)
      have isAbove : root ++ below <+: root ++ (below ++ [last]) := by simp
      have whole : (location.names ++ (below ++ [last])).reverse =
          last :: (location.names ++ below).reverse := by simp
      have back : (last :: (location.names ++ below).reverse).reverse =
          location.names ++ (below ++ [last]) := by simp
      rw [whole, perform_ensureDirectories_cons, back]
      by_cases directory : tree.node? (root ++ below) = some .directory
      · have settles := isMade_settled rooted ordinary directory
        rw [perform_makeDirectory_of_directory rooted ordinary directory]
        unfold settled at settles
        split at settles
        · rename_i present
          rw [if_pos present]
          exact settles
        · rename_i absent
          rw [if_neg absent]
          exact settles
      · rcases rooted.place?_of_not_directory ordinary directory with missing | ⟨blocked, noWay⟩
        · -- The directories above are made first.
          rw [perform_makeDirectory, missing]
          dsimp only
          rw [if_pos rfl, perform_bind]
          have grows := grows_ensureDirectories location.anchor (location.names ++ below).reverse
            tree
          generalize perform (ensureDirectories location.anchor (location.names ++ below).reverse)
            tree = outcome at aboveMade grows
          rcases outcome with ⟨error | _, between⟩
          · exact aboveMade.of_error isAbove
          · have rootedBetween := rooted.grows grows
            dsimp only
            rw [perform_ensureDirectory_of_directory rootedBetween ordinary aboveMade.directory]
            exact aboveMade.trans grows
              (isMade_settled rootedBetween ordinary aboveMade.directory) isAbove
        · have noDirectory : tree.hasDirectory
              ⟨location.anchor, location.names ++ (below ++ [last])⟩ = false := by
            rw [hasDirectory, rooted.at?_eq ordinary, beq_eq_false_iff_ne]
            intro isDirectory
            rw [← List.append_assoc] at isDirectory
            exact directory (rooted.nested _ _ (by rw [isDirectory]; rfl))
          rw [perform_makeDirectory, blocked]
          dsimp only
          rw [if_neg (by simp), noDirectory]
          exact ⟨fun way => absurd (way.of_prefix isAbove) noWay,
            fun _ => ⟨.notDirectory, rfl⟩, fun _ _ => rfl⟩

end Disk

end Respecify

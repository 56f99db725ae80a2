import Respecify.Proofs.Workspace.Directories
import Respecify.Workspace.Store

/-!
# Saving one script

A script is saved if no file stands where a directory is needed, its own place
is free or holds a file with a text, and its text has a byte form.  Otherwise
its place stays as it was, or its file is left empty.  Whatever else there is
stays.
-/

namespace Respecify

namespace FileTree

/-- The text can be saved at the place. -/
structure Takes (tree : FileTree) (place : Place) (code : Text) : Prop where
  way : tree.HasWay place.dropLast
  free : tree.node? place = none ∨ (tree.text? place).isSome
  scalar : ∀ c ∈ code, isScalar c = true

instance (tree : FileTree) (place : Place) (code : Text) : Decidable (tree.Takes place code) :=
  decidable_of_iff (_ ∧ _ ∧ _)
    ⟨fun ⟨way, free, scalar⟩ => ⟨way, free, scalar⟩,
      fun ⟨way, free, scalar⟩ => ⟨way, free, scalar⟩⟩

/-- What saving a text at a place does to that place. -/
structure IsSavedAt (before after : FileTree) (place : Place) (code : Text) : Prop where
  taken : before.Takes place code → after.text? place = some code
  held : before.text? place = some code → after.node? place = before.node? place
  refused : ¬ before.Takes place code → (∀ c ∈ code, isScalar c = true) →
    after.node? place = before.node? place
  emptied : ¬ (∀ c ∈ code, isScalar c = true) → (before.text? place).isSome →
    after.node? place = some (.file [])

/-- What saving a text at a place does to a tree. -/
structure IsSave (before : FileTree) (place : Place) (code : Text)
    (outcome : Except FileError Unit × FileTree) : Prop
    extends IsSavedAt before outcome.2 place code where
  ok_iff : outcome.1 = .ok () ↔ before.Takes place code
  elsewhere : ∀ other, other ≠ place → outcome.2.node? other = before.node? other ∨
    before.node? other = none ∧ outcome.2.node? other = some .directory ∧ other <+: place
  directories : ∀ other, before.node? other = some .directory →
    outcome.2.node? other = some .directory
  nested : outcome.2.IsNested

variable {tree : FileTree} {place : Place} {code : Text}

/-- A text that is held can be saved. -/
theorem IsNested.takes (nested : tree.IsNested) (below : place ≠ [])
    (held : tree.text? place = some code) : tree.Takes place code := by
  rcases text?_eq_some_iff.mp held with ⟨bytes, file, decoded⟩
  exact
    { way := nested.hasWay_dropLast below (by rw [file]; rfl)
      free := Or.inr (by rw [held]; rfl)
      scalar := Utf8.isScalar_of_decode? decoded }

/-- What writing a text at a place does to a tree, where it can be done. -/
structure IsWrite (before : FileTree) (place : Place) (code : Text)
    (outcome : Except FileError Unit × FileTree) : Prop where
  written : (∀ c ∈ code, isScalar c = true) →
    outcome.1 = .ok () ∧ outcome.2.text? place = some code
  emptied : ¬ (∀ c ∈ code, isScalar c = true) →
    outcome.1 ≠ .ok () ∧ outcome.2.node? place = some (.file [])
  elsewhere : ∀ other, other ≠ place → outcome.2.node? other = before.node? other
  nested : outcome.2.IsNested

/-- A text that is neither there nor saved leaves its place as it was. -/
theorem IsSave.of_refused {outcome : Except FileError Unit × FileTree}
    (refused : ¬ tree.Takes place code) (noText : tree.text? place = none)
    (failed : outcome.1 ≠ .ok ()) (same : outcome.2.node? place = tree.node? place)
    (elsewhere : ∀ other, other ≠ place → outcome.2.node? other = tree.node? other ∨
      tree.node? other = none ∧ outcome.2.node? other = some .directory ∧ other <+: place)
    (nested : outcome.2.IsNested) : tree.IsSave place code outcome where
  ok_iff := ⟨fun ok => absurd ok failed, fun takes => absurd takes refused⟩
  taken takes := absurd takes refused
  held _ := same
  refused _ _ := same
  emptied _ present := by
    rw [noText] at present
    cases present
  elsewhere := elsewhere
  directories other directory := by
    by_cases here : other = place
    · rw [here, same, ← here, directory]
    · rcases elsewhere other here with kept | ⟨none, _⟩
      · rw [kept, directory]
      · rw [directory] at none
        cases none
  nested := nested

/-- A text is saved by leaving it where it is. -/
theorem IsNested.isSave_of_held (nested : tree.IsNested) (below : place ≠ [])
    (held : tree.text? place = some code) : tree.IsSave place code (.ok (), tree) where
  ok_iff := ⟨fun _ => nested.takes below held, fun _ => rfl⟩
  taken _ := held
  held _ := rfl
  refused _ _ := rfl
  emptied unencodable _ := absurd (nested.takes below held).scalar unencodable
  elsewhere _ _ := Or.inl rfl
  directories _ := id
  nested := nested

/-- No text is saved where something stands that has none. -/
theorem IsNested.isSave_of_noText {error : FileError} (nested : tree.IsNested)
    (present : tree.node? place ≠ none) (noText : tree.text? place = none) :
    tree.IsSave place code (.error error, tree) := by
  have refused : ¬ tree.Takes place code := fun takes => by
    rcases takes.free with absent | isText
    · exact present absent
    · rw [noText] at isText
      cases isText
  exact IsSave.of_refused refused noText (by simp) rfl (fun _ _ => Or.inl rfl) nested

/-! ## Texts for which directories are made -/

/-- Directories that are added stand above the place for which they are made. -/
theorem Grows.same_of_elsewhere {after : FileTree} {above other : Place}
    {answer : Except FileError Unit} (grows : tree.Grows after)
    (made : tree.IsMade above (answer, after)) (isAbove : above <+: place) :
    after.node? other = tree.node? other ∨
      tree.node? other = none ∧ after.node? other = some .directory ∧ other <+: place := by
  by_cases within : other <+: above
  · rcases grows.same other with kept | ⟨none, directory⟩
    · exact Or.inl kept
    · exact Or.inr ⟨none, directory, within.trans isAbove⟩
  · exact Or.inl (made.elsewhere other within)

theorem not_prefix_dropLast (below : place ≠ []) : ¬ place <+: place.dropLast := by
  intro isAbove
  have lengths := isAbove.length_le
  have filled := List.length_pos_iff.mpr below
  rw [List.length_dropLast] at lengths
  omega

theorem ne_directory_of_free (free : tree.node? place = none ∨ (tree.text? place).isSome) :
    tree.node? place ≠ some .directory := by
  rcases free with absent | present
  · rw [absent]
    simp
  · rcases Option.isSome_iff_exists.mp present with ⟨source, found⟩
    rcases text?_eq_some_iff.mp found with ⟨bytes, file, _⟩
    rw [file]
    simp

section Made

variable {between : FileTree} (grows : tree.Grows between) (below : place ≠ [])
  (nested : tree.IsNested)

include grows below nested

/-- A text is not saved if its directories cannot be made. -/
theorem Grows.isSave_of_error {error : FileError}
    (made : tree.IsMade place.dropLast (.error error, between)) :
    tree.IsSave place code (.error error, between) := by
  have absent : tree.node? place = none := by
    by_contra present
    rw [← ne_eq, Option.ne_none_iff_isSome] at present
    exact made.not_hasWay (nested.hasWay_dropLast below present)
  have noText : tree.text? place = none := by rw [text?, absent]
  exact IsSave.of_refused (fun takes => made.not_hasWay takes.way) noText (by simp)
    (made.elsewhere _ (not_prefix_dropLast below))
    (fun other _ => grows.same_of_elsewhere made (List.dropLast_prefix _)) (grows.nested nested)

omit nested in
/-- A text is saved by writing it, where its directories are made, in the place of
another one or of nothing. -/
theorem Grows.isSave_of_write {outcome : Except FileError Unit × FileTree}
    (made : tree.IsMade place.dropLast (.ok (), between))
    (write : between.IsWrite place code outcome)
    (free : tree.node? place = none ∨ (tree.text? place).isSome)
    (differs : tree.text? place ≠ some code) : tree.IsSave place code outcome := by
  have same : between.node? place = tree.node? place :=
    made.elsewhere _ (not_prefix_dropLast below)
  have takes : tree.Takes place code ↔ ∀ c ∈ code, isScalar c = true :=
    ⟨Takes.scalar, fun scalar => ⟨made.hasWay, free, scalar⟩⟩
  exact
    { ok_iff := by
        rw [takes]
        refine ⟨fun ok => ?_, fun scalar => (write.written scalar).1⟩
        by_contra unencodable
        exact (write.emptied unencodable).1 ok
      taken := fun taken => (write.written taken.scalar).2
      held := fun held => absurd held differs
      refused := fun refused scalar => absurd (takes.mpr scalar) refused
      emptied := fun unencodable _ => (write.emptied unencodable).2
      elsewhere := fun other apart => by
        rw [write.elsewhere other apart]
        exact grows.same_of_elsewhere made (List.dropLast_prefix _)
      directories := fun other directory => by
        have apart : other ≠ place := by
          rintro rfl
          exact ne_directory_of_free free directory
        rw [write.elsewhere other apart]
        exact grows.node?_of_some directory
      nested := write.nested }

end Made

end FileTree

/-! ## Writing a file -/

namespace Disk

open FileTree

variable {tree : FileTree} {location : Location} {place : Place}

/-- A file is written where no directory stands. -/
theorem isWrite_writeText (nested : tree.IsNested) (led : tree.place? location = .ok place)
    (noDirectory : tree.node? place ≠ some .directory) (code : Text) :
    tree.IsWrite place code (perform (writeText location code) tree) := by
  have below : place ≠ [] := by
    rintro rfl
    exact noDirectory rfl
  have parent := nested.directory_of_place? led below
  have emptied : (tree.put place (.file [])).IsNested := nested.put below parent noDirectory _
  have isFile : (tree.put place (.file [])).node? place = some (.file []) :=
    (node?_put _ _ _ below).trans (if_pos rfl)
  have parentStays : (tree.put place (.file [])).node? place.dropLast = some .directory := by
    rw [node?_put _ _ _ below, parent]
    refine if_neg fun same => ?_
    have lengths := congrArg List.length same
    rw [List.length_dropLast] at lengths
    have filled := List.length_pos_iff.mpr below
    omega
  have elsewhere : ∀ other, other ≠ place →
      (tree.put place (.file [])).node? other = tree.node? other := fun other apart =>
    (node?_put _ _ _ below).trans (if_neg apart)
  rw [perform_writeText, led]
  dsimp only
  rw [if_neg noDirectory, Utf8.encode?]
  by_cases whole : code.all isScalar = true
  · have scalar := List.all_eq_true.mp whole
    rw [if_pos whole]
    refine ⟨fun _ => ⟨rfl, text?_eq_some_iff.mpr ⟨Utf8.encode code, ?_, ?_⟩⟩,
      fun unencodable => absurd scalar unencodable, fun other apart => ?_, ?_⟩
    · exact (node?_put _ _ _ below).trans (if_pos rfl)
    · exact Utf8.decode?_encode scalar
    · exact ((node?_put _ _ _ below).trans (if_neg apart)).trans (elsewhere other apart)
    · exact emptied.put below parentStays (by rw [isFile]; simp) _
  · rw [if_neg whole]
    exact ⟨fun scalar => absurd (List.all_eq_true.mpr scalar) whole,
      fun _ => ⟨by simp, isFile⟩, elsewhere, emptied⟩

/-- Where a file is written, directories stay. -/
theorem directory_writeText (location : Location) (code : Text) {other : Place}
    (directory : tree.node? other = some .directory) (nested : tree.IsNested) :
    (perform (writeText location code) tree).2.node? other = some .directory := by
  cases led : tree.place? location with
  | error error =>
      rw [perform_writeText, led]
      exact directory
  | ok place =>
      by_cases isDirectory : tree.node? place = some .directory
      · rw [perform_writeText, led]
        dsimp only
        rwa [if_pos isDirectory]
      · have apart : other ≠ place := by
          rintro rfl
          exact isDirectory directory
        rw [(isWrite_writeText nested led isDirectory code).elsewhere other apart, directory]

/-- Writing a file changes no other place than the one that its location stands
for, whether or not the file is written. -/
theorem node?_writeText (location : Location) (code : Text) (nested : tree.IsNested) :
    (∀ other, location.target? ≠ some other →
        (perform (writeText location code) tree).2.node? other = tree.node? other) ∧
      (perform (writeText location code) tree).2.IsNested := by
  cases led : tree.place? location with
  | error error =>
      rw [perform_writeText, led]
      exact ⟨fun _ _ => rfl, nested⟩
  | ok place =>
      by_cases isDirectory : tree.node? place = some .directory
      · rw [perform_writeText, led]
        dsimp only
        rw [if_pos isDirectory]
        exact ⟨fun _ _ => rfl, nested⟩
      · have write := isWrite_writeText nested led isDirectory code
        refine ⟨fun other apart => write.elsewhere other ?_, write.nested⟩
        rintro rfl
        exact apart (Location.target?_of_place? led)

end Disk

/-! ## Saving a script -/

namespace Store

open FileTree

variable {store : Store} {tree : FileTree} {hostname : Text} {script : Script} {root : Place}
  {below : List Text}

/-- A file is looked at without being written. -/
theorem perform_isStored (store : Store) (hostname : Text) (script : Script) (tree : FileTree) :
    Disk.perform (store.isStored hostname script) tree =
      (if (tree.at? (store.scriptLocation hostname script.name)).isSome then
          (tree.readText (store.scriptLocation hostname script.name)).map
            fun source => decide (source = script.code)
        else .ok false, tree) := by
  rw [isStored, Disk.perform_bind, Disk.perform_get]
  dsimp only
  split
  · rw [Disk.perform_bind, Disk.perform_readText]
    cases tree.readText (store.scriptLocation hostname script.name) <;> rfl
  · rfl

/-- A script whose place is free is written. -/
theorem perform_saveScript_of_absent
    (absent : (tree.at? (store.scriptLocation hostname script.name)).isSome = false) :
    Disk.perform (store.saveScript hostname script) tree =
      Disk.perform (do
        Disk.ensureParent (store.scriptLocation hostname script.name)
        Disk.writeText (store.scriptLocation hostname script.name) script.code) tree := by
  have missing := perform_isStored store hostname script tree
  rw [if_neg (by simp [absent])] at missing
  rw [saveScript, Disk.perform_bind, missing]
  rfl

/-- A script whose place is taken is written unless its text is there. -/
theorem perform_saveScript_of_present
    (present : (tree.at? (store.scriptLocation hostname script.name)).isSome = true) :
    Disk.perform (store.saveScript hostname script) tree =
      match tree.readText (store.scriptLocation hostname script.name) with
      | .error error => (.error error, tree)
      | .ok source =>
          if source = script.code then (.ok (), tree)
          else
            Disk.perform (do
              Disk.ensureParent (store.scriptLocation hostname script.name)
              Disk.writeText (store.scriptLocation hostname script.name) script.code) tree := by
  have stored := perform_isStored store hostname script tree
  rw [if_pos present] at stored
  rw [saveScript, Disk.perform_bind, stored]
  cases tree.readText (store.scriptLocation hostname script.name) with
  | error error => rfl
  | ok source =>
      by_cases same : source = script.code
      · simp only [Except.map, same, decide_true, if_true]
        rfl
      · simp only [Except.map, same, decide_false, if_false]
        rfl

/-- What holds of a tree and of what writing a script makes of it holds when the script is
saved. -/
theorem after_saveScript {P : FileTree → Prop} (same : P tree)
    (written : P (Disk.perform (do
      Disk.ensureParent (store.scriptLocation hostname script.name)
      Disk.writeText (store.scriptLocation hostname script.name) script.code) tree).2) :
    P (Disk.perform (store.saveScript hostname script) tree).2 := by
  cases present : (tree.at? (store.scriptLocation hostname script.name)).isSome with
  | false => rwa [perform_saveScript_of_absent present]
  | true =>
      rw [perform_saveScript_of_present present]
      split
      · exact same
      · split
        · exact same
        · exact written

/-- A text is saved by writing it where another one or nothing stands. -/
theorem isSave_write (rooted : tree.IsRooted store.root root)
    (ordinary : ∀ name ∈ below, name ≠ up) (filled : below ≠ []) (code : Text)
    (free : tree.node? (root ++ below) = none ∨ (tree.text? (root ++ below)).isSome)
    (differs : tree.text? (root ++ below) ≠ some code) :
    tree.IsSave (root ++ below) code
      (Disk.perform (do
        Disk.ensureParent ⟨store.root.anchor, store.root.names ++ below⟩
        Disk.writeText ⟨store.root.anchor, store.root.names ++ below⟩ code) tree) := by
  have placeFilled : root ++ below ≠ [] := by simp [filled]
  rcases List.eq_nil_or_concat below with rfl | ⟨middle, last, rfl⟩
  · exact absurd rfl filled
  rw [List.concat_eq_append] at *
  have parentPlace : (root ++ (middle ++ [last])).dropLast = root ++ middle := by
    rw [← List.append_assoc, List.dropLast_concat]
  have parentLocation : (Location.mk store.root.anchor (store.root.names ++ (middle ++ [last]))).parent =
      ⟨store.root.anchor, store.root.names ++ middle⟩ := by
    rw [Location.parent, ← List.append_assoc, List.dropLast_concat]
  have made := Disk.isMade_ensureDirectories rooted fun name member =>
    ordinary name (List.mem_append_left _ member)
  have grows := Disk.grows_ensureDirectories store.root.anchor (store.root.names ++ middle).reverse
    tree
  rw [Disk.perform_bind, Disk.ensureParent, parentLocation]
  rw [← parentPlace] at made
  dsimp only
  generalize Disk.perform (Disk.ensureDirectories store.root.anchor
    (store.root.names ++ middle).reverse) tree = outcome at made grows
  rcases outcome with ⟨error | _, between⟩
  · exact grows.isSave_of_error placeFilled rooted.nested made
  · have rootedBetween := rooted.grows grows
    have led := rootedBetween.place?_of_directory ordinary (parentPlace ▸ made.directory)
    have noDirectory : between.node? (root ++ (middle ++ [last])) ≠ some .directory := by
      rw [made.elsewhere _ (not_prefix_dropLast placeFilled)]
      exact ne_directory_of_free free
    exact grows.isSave_of_write placeFilled made
      (Disk.isWrite_writeText rootedBetween.nested led noDirectory code) free differs

/-- A script below the root is saved at its place. -/
theorem isSave_saveScript (rooted : tree.IsRooted store.root root)
    (ordinary : ∀ name ∈ below, name ≠ up) (filled : below ≠ [])
    (located : store.scriptLocation hostname script.name =
      ⟨store.root.anchor, store.root.names ++ below⟩) :
    tree.IsSave (root ++ below) script.code
      (Disk.perform (store.saveScript hostname script) tree) := by
  have placeFilled : root ++ below ≠ [] := by simp [filled]
  have here := rooted.at?_eq ordinary
  cases found : tree.node? (root ++ below) with
  | none =>
      rw [perform_saveScript_of_absent (by rw [located, here, found]; rfl), located]
      exact isSave_write rooted ordinary filled _ (Or.inl found) (by rw [text?, found]; simp)
  | some node =>
      rw [perform_saveScript_of_present (by rw [located, here, found]; rfl), located]
      cases read : tree.readText ⟨store.root.anchor, store.root.names ++ below⟩ with
      | error error =>
          refine rooted.nested.isSave_of_noText (by simp [found]) ?_
          refine Option.eq_none_iff_forall_ne_some.mpr fun source text => ?_
          rw [(rooted.readText_eq_ok_iff ordinary).mpr text] at read
          cases read
      | ok source =>
          have text := (rooted.readText_eq_ok_iff ordinary).mp read
          dsimp only
          split
          · rename_i same
            exact rooted.nested.isSave_of_held placeFilled (same ▸ text)
          · rename_i differs
            refine isSave_write rooted ordinary filled _ (Or.inr (by rw [text]; rfl)) ?_
            rw [text]
            exact fun same => differs (Option.some.inj same)

end Store

end Respecify

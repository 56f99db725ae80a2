import Respecify.Proofs.Workspace.Course

/-!
# Trees stay proper

Files and directories that come up have names from a settings text or from a tree that
holds them already, and they stand in directories.  So a migration leaves a tree behind
that a file system can hold, whether or not it comes to its end, and the workspace can
be loaded again.
-/

namespace Respecify

/-! ## Names that are written -/

namespace Location

/-- Each name of the location can name a file, or leads back up. -/
def IsWritten (location : Location) : Prop :=
  ∀ name ∈ location.names, IsName name ∨ name = FileTree.up

variable {location : Location} {path : Text}

theorem isWritten_ofText (path : Text) : (ofText path).IsWritten := by
  intro name member
  rcases List.mem_filter.mp member with ⟨isPart, counts⟩
  rw [Bool.and_eq_true, Bool.not_eq_true', List.isEmpty_eq_false_iff, bne_iff_ne] at counts
  by_cases isUp : name = FileTree.up
  · exact Or.inr isUp
  · exact Or.inl ⟨counts.1, Text.not_mem_of_mem_splitOn isPart, counts.2, isUp⟩

theorem IsWritten.join (written : location.IsWritten) (path : Text) :
    (location.join path).IsWritten := by
  rw [Location.join]
  split
  · exact isWritten_ofText path
  · intro name member
    rcases List.mem_append.mp member with before | behind
    · exact written name before
    · exact isWritten_ofText path name behind

/-- Names that are written lead to a place that has names only. -/
theorem isName_of_leads {start place : Place} {names : List Text}
    (written : ∀ name ∈ names, IsName name ∨ name = FileTree.up)
    (begins : ∀ name ∈ start, IsName name) (led : leads start names = some place) :
    ∀ name ∈ place, IsName name := by
  induction names generalizing start with
  | nil =>
      rw [leads, Option.some.injEq] at led
      exact led ▸ begins
  | cons name names inductionHypothesis =>
      have behind := fun other member => written other (List.mem_cons_of_mem name member)
      rw [leads] at led
      split at led
      · split at led
        · cases led
        · exact inductionHypothesis behind
            (fun other member => begins other (List.dropLast_subset _ member)) led
      · rename_i ordinary
        have isName := (written name List.mem_cons_self).resolve_right ordinary
        refine inductionHypothesis behind (fun other member => ?_) led
        rcases List.mem_append.mp member with before | here
        · exact begins other before
        · exact List.mem_singleton.mp here ▸ isName

theorem IsWritten.isName {tree : FileTree} {place : Place} (written : location.IsWritten)
    (led : tree.place? location = .ok place) : ∀ name ∈ place, IsName name := by
  have target := target?_of_place? led
  rw [target?] at target
  split at target
  · exact isName_of_leads written (fun _ member => absurd member List.not_mem_nil) target
  · cases target

end Location

/-! ## Trees -/

namespace FileTree

variable {tree : FileTree} {place start : Place} {names : List Text}

theorem mem_putIn {node : Node} {entries : List (Place × Node)} {entry : Place × Node}
    (member : entry ∈ putIn place node entries) : entry = (place, node) ∨ entry ∈ entries := by
  induction entries with
  | nil => exact Or.inl (List.mem_singleton.mp member)
  | cons first entries inductionHypothesis =>
      rw [putIn] at member
      split at member
      · exact (List.mem_cons.mp member).imp_right (List.mem_cons_of_mem _)
      · rcases List.mem_cons.mp member with rfl | member
        · exact Or.inr List.mem_cons_self
        · exact (inductionHypothesis member).imp_right (List.mem_cons_of_mem _)

/-- A place that has an entry keeps its turn, and another one comes last. -/
theorem map_fst_putIn (place : Place) (node : Node) (entries : List (Place × Node)) :
    (putIn place node entries).map Prod.fst =
      if place ∈ entries.map Prod.fst then entries.map Prod.fst
      else entries.map Prod.fst ++ [place] := by
  induction entries with
  | nil => rfl
  | cons first entries inductionHypothesis =>
      rw [putIn, List.map_cons]
      split
      · rename_i here
        rw [List.map_cons, if_pos (here ▸ List.mem_cons_self), here]
      · rename_i elsewhere
        rw [List.map_cons, inductionHypothesis]
        by_cases member : place ∈ entries.map Prod.fst
        · rw [if_pos member, if_pos (List.mem_cons_of_mem _ member)]
        · rw [if_neg member, if_neg, List.cons_append]
          rw [List.mem_cons, not_or]
          exact ⟨Ne.symm elsewhere, member⟩

/-- A tree stays proper where something other than a directory is replaced. -/
theorem IsProper.put (proper : tree.IsProper) (filled : place ≠ [])
    (named : ∀ name ∈ place, IsName name)
    (parent : tree.node? place.dropLast = some .directory)
    (replaced : tree.node? place ≠ some .directory) (node : Node) :
    (tree.put place node).IsProper where
  named entry member := by
    rcases mem_putIn member with rfl | old
    · exact ⟨filled, named⟩
    · exact proper.named entry old
  distinct := by
    change ((putIn place node tree.entries).map Prod.fst).Nodup
    rw [map_fst_putIn]
    split
    · exact proper.distinct
    · rename_i absent
      exact List.nodup_append.mpr ⟨proper.distinct, List.nodup_singleton _,
        fun one member other here same =>
          absent (List.mem_singleton.mp here ▸ same ▸ member)⟩
  inside entry member := by
    have directory : tree.node? entry.1.dropLast = some .directory := by
      rcases mem_putIn member with rfl | old
      · exact parent
      · exact proper.inside entry old
    rw [node?_put _ _ _ filled, if_neg, directory]
    intro here
    exact replaced (here ▸ directory)

/-- Whatever stands in a proper tree stands at names. -/
theorem IsProper.isName_of_node? (proper : tree.IsProper) (present : (tree.node? place).isSome) :
    ∀ name ∈ place, IsName name := by
  intro name member
  rcases Option.isSome_iff_exists.mp present with ⟨node, found⟩
  exact (proper.named _ (mem_entries_of_node? (List.ne_nil_of_mem member) found)).2 name member

/-- Names that lead through a proper tree to something are such as can be written. -/
theorem IsProper.isName_or_eq_up_of_walk (proper : tree.IsProper)
    (walked : tree.walk start names = .ok place) (present : (tree.node? place).isSome) :
    ∀ name ∈ names, IsName name ∨ name = up := by
  refine walk_induction (motive := fun _ names => ∀ name ∈ names, IsName name ∨ name = up)
    (fun _ member => absurd member List.not_mem_nil) ?last ?entered walked
  case last =>
    rintro start name - rfl other member
    rw [List.mem_singleton.mp member]
    exact Or.inl (proper.isName_of_node? present name (by simp))
  case entered =>
    intro start inner name names here inductionHypothesis
    rw [List.forall_mem_cons]
    refine ⟨?_, inductionHypothesis⟩
    rcases enter_eq_ok_iff.mp here with ⟨isUp, _⟩ | ⟨_, directory, _⟩
    · exact Or.inr isUp
    · exact Or.inl (proper.isName_of_node? (by rw [directory]; rfl) name (by simp))

theorem IsProper.isWritten_of_isRooted {location : Location} {root : Place}
    (proper : tree.IsProper) (rooted : tree.IsRooted location root) : location.IsWritten :=
  proper.isName_or_eq_up_of_walk rooted.walked.2 (by rw [rooted.directory]; rfl)

end FileTree

/-! ## Actions on files -/

namespace Disk

open FileTree

variable {tree : FileTree} {location : Location}

theorem isProper_makeDirectory (written : location.IsWritten) (proper : tree.IsProper) :
    (perform (makeDirectory location) tree).2.IsProper := by
  rw [perform_makeDirectory]
  cases led : tree.place? location with
  | error error => exact proper
  | ok place =>
      dsimp only
      split
      · exact proper
      · rename_i absent
        have filled : place ≠ [] := by
          rintro rfl
          exact absent rfl
        refine proper.put filled (written.isName led)
          (proper.isNested.directory_of_place? led filled) (fun directory => absent ?_) _
        rw [directory]
        rfl

theorem isProper_writeText (written : location.IsWritten) (code : Text) (proper : tree.IsProper) :
    (perform (writeText location code) tree).2.IsProper := by
  rw [perform_writeText]
  cases led : tree.place? location with
  | error error => exact proper
  | ok place =>
      dsimp only
      split
      · exact proper
      · rename_i noDirectory
        have filled : place ≠ [] := by
          rintro rfl
          exact noDirectory rfl
        have named := written.isName led
        have parent := proper.isNested.directory_of_place? led filled
        have emptied := proper.put filled named parent noDirectory (.file [])
        split
        · refine emptied.put filled named ?_ ?_ _
          · rw [node?_put _ _ _ filled, if_neg, parent]
            intro same
            have shorter := congrArg List.length same
            rw [List.length_dropLast] at shorter
            exact absurd (List.length_pos_iff.mpr filled) (by omega)
          · rw [node?_put _ _ _ filled, if_pos rfl]
            simp
        · exact emptied

theorem isProper_ensureParent_writeText (written : location.IsWritten) (code : Text)
    (proper : tree.IsProper) :
    (perform (do ensureParent location; writeText location code) tree).2.IsProper := by
  refine after_bind (P := IsProper) ?_ fun _ _ => isProper_writeText written code
  refine after_ensureDirectories (P := IsProper) proper fun above isAbove _ =>
    isProper_makeDirectory fun name member => written name (List.dropLast_subset _ ?_)
  exact List.mem_reverse.mp (isAbove.subset (List.mem_reverse.mp member))

end Disk

/-! ## Migrations -/

namespace Store

open FileTree

variable {parser : JavaScript.ScriptParser} {store : Store} {tree after : FileTree}

theorem isProper_saveScript (written : store.root.IsWritten) (hostname : Text) (script : Script)
    (proper : tree.IsProper) :
    (Disk.perform (store.saveScript hostname script) tree).2.IsProper :=
  after_saveScript (P := IsProper) proper (Disk.isProper_ensureParent_writeText
    ((written.join hostname).join (Path.unrooted script.name)) script.code proper)

theorem isProper_saveEach (written : store.root.IsWritten) (savings : List Saving)
    (proper : tree.IsProper) : (Disk.perform (store.saveEach savings) tree).2.IsProper :=
  after_saveEach (P := IsProper) proper fun saving _ _ =>
    isProper_saveScript written saving.hostname saving.script

theorem isProper_conclude (written : store.root.IsWritten) (report : Report)
    (proper : tree.IsProper) : (Disk.perform (store.conclude report) tree).2.IsProper := by
  rw [conclude]
  split
  · exact Disk.isProper_ensureParent_writeText
      ((written.join store.settings.home).join store.settings.changeLog) _ proper
  · exact proper

/-- A migration leaves a tree that a file system can hold, wherever it stops. -/
theorem isProper_migrate {dryRun : Bool} {result : Except FileError Report}
    (proper : tree.IsProper)
    (migrated : (store.migrateBy parser dryRun).perform tree = (result, after)) :
    after.IsProper := by
  cases loaded : store.load tree with
  | error error =>
      rw [perform_migrate_of_unloaded dryRun loaded] at migrated
      cases migrated
      exact proper
  | ok servers =>
      cases dryRun with
      | true =>
          rw [perform_migrate_dry loaded] at migrated
          cases migrated
          exact proper
      | false =>
          rcases exists_isRooted_of_load proper loaded with ⟨root, rooted⟩
          have written := proper.isWritten_of_isRooted rooted
          rcases course_of_migrate loaded migrated with
            ⟨error, stopped, _⟩ | ⟨between, logged, saved, concluded, _⟩
          · have left := isProper_saveEach written
              (BatchMigration.ofServersBy parser store.settings servers).savings proper
            rwa [stopped] at left
          · have left := isProper_saveEach written
              (BatchMigration.ofServersBy parser store.settings servers).savings proper
            rw [saved] at left
            have leftToo := isProper_conclude written
              (BatchMigration.ofServersBy parser store.settings servers).report left
            rwa [concluded] at leftToo

end Store

end Respecify

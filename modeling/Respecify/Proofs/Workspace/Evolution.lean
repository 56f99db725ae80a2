import Respecify.Proofs.Workspace.Run

/-!
# What a run of saves leaves standing

Whether or not it comes to an end, a run of saves only adds directories and writes
texts where its scripts are stored.  So a file without a text that it meets was there
before the run, and a file with a text keeps one.  Other than by the file system, a
run is stopped by such a file only, or by a text that has no byte form.
-/

namespace Respecify

/-- The error tells of the file system, and not of a text. -/
def FileError.isSystem : FileError → Bool
  | .undecodable | .unencodable => false
  | _ => true

namespace FileTree

/-- A file stands at the place that holds no text. -/
def isUndecodable (tree : FileTree) (place : Place) : Bool :=
  match tree.node? place with
  | some (.file bytes) => (Utf8.decode? bytes).isNone
  | _ => false

/-- From one tree to the other, texts were written at some of the places told, and
directories came up where nothing was. -/
structure Evolves (before : FileTree) (written : Place → Prop) (after : FileTree) : Prop where
  same : ∀ place, after.node? place = before.node? place ∨
    (before.node? place = none ∧ after.node? place = some .directory) ∨
    (written place ∧ before.node? place ≠ some .directory ∧ (after.text? place).isSome = true)
  nested : before.IsNested → after.IsNested

variable {tree before middle after : FileTree} {written : Place → Prop} {place : Place}

theorem isUndecodable_iff :
    tree.isUndecodable place = true ↔
      ∃ bytes, tree.node? place = some (.file bytes) ∧ Utf8.decode? bytes = none := by
  rw [isUndecodable]
  cases found : tree.node? place with
  | none => simp
  | some node => cases node <;> simp

theorem isUndecodable_congr {other : FileTree} (same : other.node? place = tree.node? place) :
    other.isUndecodable place = tree.isUndecodable place := by
  rw [isUndecodable, isUndecodable, same]

/-- A file with a text is no file without one. -/
theorem isUndecodable_eq_false_of_text? (isText : (tree.text? place).isSome = true) :
    tree.isUndecodable place = false := by
  rcases Option.isSome_iff_exists.mp isText with ⟨code, found⟩
  rcases text?_eq_some_iff.mp found with ⟨bytes, file, decoded⟩
  rw [isUndecodable, file]
  dsimp only
  rw [decoded]
  rfl

theorem isUndecodable_of_directory (directory : tree.node? place = some .directory) :
    tree.isUndecodable place = false := by
  rw [isUndecodable, directory]

/-! ## Trees that evolve -/

theorem Evolves.refl (tree : FileTree) (written : Place → Prop) : tree.Evolves written tree :=
  ⟨fun _ => Or.inl rfl, id⟩

theorem Grows.evolves (grows : before.Grows after) (written : Place → Prop) :
    before.Evolves written after :=
  ⟨fun place => (grows.same place).imp_right Or.inl, grows.nested⟩

theorem Evolves.mono (evolves : before.Evolves written after) {more : Place → Prop}
    (within : ∀ place, written place → more place) : before.Evolves more after :=
  ⟨fun place => (evolves.same place).imp_right
    (Or.imp_right fun touched => ⟨within place touched.1, touched.2⟩), evolves.nested⟩

/-- Directories stay. -/
theorem Evolves.directory (evolves : before.Evolves written after)
    (directory : before.node? place = some .directory) :
    after.node? place = some .directory := by
  rcases evolves.same place with kept | ⟨none, _⟩ | ⟨_, noDirectory, _⟩
  · rw [kept, directory]
  · rw [none] at directory
    cases directory
  · exact absurd directory noDirectory

/-- A file with a text keeps one. -/
theorem Evolves.text?_isSome (evolves : before.Evolves written after)
    (isText : (before.text? place).isSome = true) : (after.text? place).isSome = true := by
  rcases evolves.same place with kept | ⟨none, _⟩ | ⟨_, _, isTextAfter⟩
  · rwa [text?_congr kept]
  · rw [text?, none] at isText
    cases isText
  · exact isTextAfter

/-- A file without a text was there before. -/
theorem Evolves.isUndecodable_before (evolves : before.Evolves written after)
    (undecodable : after.isUndecodable place = true) : before.isUndecodable place = true := by
  rcases evolves.same place with kept | ⟨_, directory⟩ | ⟨_, _, isText⟩
  · rwa [isUndecodable_congr kept] at undecodable
  · rw [isUndecodable_of_directory directory] at undecodable
    cases undecodable
  · rw [isUndecodable_eq_false_of_text? isText] at undecodable
    cases undecodable

/-- A file without a text is still there, unless something was written at its place. -/
theorem Evolves.isUndecodable_after (evolves : before.Evolves written after)
    (undecodable : before.isUndecodable place = true) :
    after.isUndecodable place = true ∨ written place := by
  rcases evolves.same place with kept | ⟨none, _⟩ | ⟨touched, _⟩
  · exact Or.inl (by rwa [isUndecodable_congr kept])
  · rw [isUndecodable, none] at undecodable
    cases undecodable
  · exact Or.inr touched

theorem Evolves.trans (first : before.Evolves written middle)
    (second : middle.Evolves written after) : before.Evolves written after := by
  refine ⟨fun place => ?_, fun nested => second.nested (first.nested nested)⟩
  rcases second.same place with kept | ⟨none, directory⟩ | ⟨touched, noDirectory, isText⟩
  · rw [kept, text?_congr kept]
    exact first.same place
  · rcases first.same place with kept | ⟨_, present⟩ | ⟨_, _, isText⟩
    · exact Or.inr (Or.inl ⟨kept ▸ none, directory⟩)
    · rw [none] at present
      cases present
    · rw [text?, none] at isText
      cases isText
  · exact Or.inr (Or.inr ⟨touched, fun directory => noDirectory (first.directory directory),
      isText⟩)

/-- What leads somewhere leads there still. -/
theorem Evolves.place? (evolves : before.Evolves written after) {location : Location}
    (led : before.place? location = .ok place) : after.place? location = .ok place := by
  rw [FileTree.place?] at led ⊢
  split at led
  · rename_i bare
    rw [if_pos bare]
    exact walk_mono (fun _ => evolves.directory) led
  · cases led

/-! ## Places that a tree does not have -/

theorem isSystem_of_enter {start : Place} {name : Text} {error : FileError}
    (failed : tree.enter start name = .error error) : error.isSystem = true := by
  rw [enter] at failed
  split at failed
  · split at failed
    · cases failed
      rfl
    · cases failed
  · split at failed
    all_goals cases failed
    all_goals rfl

theorem isSystem_of_walk {start : Place} {names : List Text} {error : FileError}
    (failed : tree.walk start names = .error error) : error.isSystem = true := by
  induction names generalizing start with
  | nil => cases failed
  | cons name names inductionHypothesis =>
      cases names with
      | nil =>
          rw [walk] at failed
          split at failed
          · exact isSystem_of_enter failed
          · cases failed
      | cons next rest =>
          rw [walk_cons_of_ne_nil _ _ _ (by simp)] at failed
          cases entered : tree.enter start name with
          | error error =>
              rw [entered] at failed
              cases failed
              exact isSystem_of_enter entered
          | ok inner =>
              rw [entered] at failed
              exact inductionHypothesis failed

theorem isSystem_of_place? {location : Location} {error : FileError}
    (failed : tree.place? location = .error error) : error.isSystem = true := by
  rw [FileTree.place?] at failed
  split at failed
  · exact isSystem_of_walk failed
  · cases failed
    rfl

/-- What is read fails at the file system, or at a file that holds no text. -/
theorem exists_isUndecodable_of_readText {location : Location} {error : FileError}
    (failed : tree.readText location = .error error) (noSystem : error.isSystem = false) :
    ∃ place, location.target? = some place ∧ tree.isUndecodable place = true := by
  rw [readText] at failed
  cases led : tree.place? location with
  | error other =>
      rw [led] at failed
      cases failed
      rw [isSystem_of_place? led] at noSystem
      cases noSystem
  | ok place =>
      rw [led] at failed
      dsimp only at failed
      split at failed
      · cases failed
        cases noSystem
      · cases failed
        cases noSystem
      · rename_i bytes file
        split at failed
        · cases failed
        · rename_i undecodable
          exact ⟨place, Location.target?_of_place? led,
            isUndecodable_iff.mpr ⟨bytes, file, undecodable⟩⟩

/-- A file without a text is not read. -/
theorem readText_of_isUndecodable {location : Location} (led : tree.place? location = .ok place)
    (undecodable : tree.isUndecodable place = true) :
    tree.readText location = .error .undecodable := by
  rcases isUndecodable_iff.mp undecodable with ⟨bytes, file, noText⟩
  simp only [readText, led, file, noText]

/-- What is read has a byte form. -/
theorem isScalar_of_readText {location : Location} {code : Text}
    (read : tree.readText location = .ok code) : ∀ c ∈ code, isScalar c = true := by
  rw [readText] at read
  split at read
  · cases read
  · split at read
    · cases read
    · cases read
    · split at read
      · rename_i decoded
        cases read
        exact Utf8.isScalar_of_decode? decoded
      · cases read

end FileTree

/-! ## Actions that go on or stop -/

namespace Disk

open FileTree

variable {tree after : FileTree} {error : FileError}

theorem isSystem_of_makeDirectory {location : Location}
    (failed : perform (makeDirectory location) tree = (.error error, after)) :
    error.isSystem = true := by
  rw [perform_makeDirectory] at failed
  cases led : tree.place? location with
  | error other =>
      rw [led] at failed
      cases failed
      exact isSystem_of_place? led
  | ok place =>
      rw [led] at failed
      dsimp only at failed
      split at failed
      · cases failed
        rfl
      · cases failed

theorem isSystem_of_ensureDirectory {location : Location}
    (failed : perform (ensureDirectory location) tree = (.error error, after)) :
    error.isSystem = true := by
  rw [perform_ensureDirectory] at failed
  split at failed
  · cases failed
  · rename_i made
    split at failed
    · cases failed
    · cases failed
      exact isSystem_of_makeDirectory made

/-- Directories are refused by the file system only. -/
theorem isSystem_of_ensureDirectories {anchor : Text} {names : List Text}
    (failed : perform (ensureDirectories anchor names) tree = (.error error, after)) :
    error.isSystem = true := by
  induction names generalizing tree after error with
  | nil => exact isSystem_of_ensureDirectory failed
  | cons name above inductionHypothesis =>
      rw [perform_ensureDirectories_cons] at failed
      split at failed
      · cases failed
      · rename_i made
        split at failed
        · rw [perform_bind] at failed
          split at failed
          · exact isSystem_of_ensureDirectory failed
          · rename_i aboveMade
            cases failed
            exact inductionHypothesis aboveMade
        · split at failed
          · cases failed
          · cases failed
            exact isSystem_of_makeDirectory made

theorem isSystem_of_ensureParent {location : Location}
    (failed : perform (ensureParent location) tree = (.error error, after)) :
    error.isSystem = true :=
  isSystem_of_ensureDirectories failed

/-- A text that is not written has no byte form, if the file system lets it be. -/
theorem unencodable_of_writeText {location : Location} {code : Text}
    (failed : perform (writeText location code) tree = (.error error, after))
    (noSystem : error.isSystem = false) : ¬ ∀ c ∈ code, isScalar c = true := by
  rw [perform_writeText] at failed
  cases led : tree.place? location with
  | error other =>
      rw [led] at failed
      cases failed
      rw [isSystem_of_place? led] at noSystem
      cases noSystem
  | ok place =>
      rw [led] at failed
      dsimp only at failed
      split at failed
      · cases failed
        cases noSystem
      · split at failed
        · cases failed
        · rename_i noBytes
          intro scalar
          rw [Utf8.encode?, if_pos (List.all_eq_true.mpr scalar)] at noBytes
          cases noBytes

/-- Writing a text, whether or not it is done, writes it at the place that its location
stands for. -/
theorem evolves_writeText (location : Location) (code : Text) (tree : FileTree) :
    tree.Evolves (fun place => location.target? = some place)
      (perform (writeText location code) tree).2 := by
  refine ⟨fun other => ?_, fun nested => (node?_writeText location code nested).2⟩
  rw [perform_writeText]
  cases led : tree.place? location with
  | error error => exact Or.inl rfl
  | ok place =>
      dsimp only
      split
      · exact Or.inl rfl
      · rename_i noDirectory
        have below : place ≠ [] := by
          rintro rfl
          exact noDirectory rfl
        by_cases here : other = place
        · subst here
          refine Or.inr (Or.inr ⟨Location.target?_of_place? led, noDirectory, ?_⟩)
          rw [Utf8.encode?]
          by_cases whole : code.all isScalar = true
          · rw [if_pos whole, text?, node?_put _ _ _ below, if_pos rfl]
            dsimp only
            rw [Utf8.decode?_encode (List.all_eq_true.mp whole)]
            rfl
          · rw [if_neg whole, text?, node?_put _ _ _ below, if_pos rfl]
            rfl
        · left
          split
          · rw [node?_put _ _ _ below, if_neg here, node?_put _ _ _ below, if_neg here]
          · rw [node?_put _ _ _ below, if_neg here]

/-- A text that is written can be read at its location. -/
theorem readText_of_writeText {location : Location} {code : Text}
    (done : perform (writeText location code) tree = (.ok (), after)) :
    after.readText location = .ok code := by
  have evolves := evolves_writeText location code tree
  rw [done] at evolves
  rw [perform_writeText] at done
  cases led : tree.place? location with
  | error error =>
      rw [led] at done
      cases done
  | ok place =>
      rw [led] at done
      dsimp only at done
      split at done
      · cases done
      · rename_i noDirectory
        have below : place ≠ [] := by
          rintro rfl
          exact noDirectory rfl
        split at done
        · rename_i bytes encoded
          cases done
          have decoded : Utf8.decode? bytes = some code := by
            rw [Utf8.encode?] at encoded
            split at encoded
            · rename_i whole
              cases encoded
              exact Utf8.decode?_encode (List.all_eq_true.mp whole)
            · cases encoded
          rw [FileTree.readText, evolves.place? led]
          dsimp only
          rw [node?_put _ _ _ below, if_pos rfl]
          dsimp only
          rw [decoded]
        · cases done

/-- Making the directories of a location and writing a text there. -/
theorem evolves_ensureParent_writeText (location : Location) (code : Text) (tree : FileTree) :
    tree.Evolves (fun place => location.target? = some place)
      (perform (do ensureParent location; writeText location code) tree).2 := by
  refine after_bind (P := tree.Evolves fun place => location.target? = some place)
    ((grows_ensureParent location tree).evolves _) fun _ between evolves => ?_
  exact evolves.trans (evolves_writeText location code between)

theorem unencodable_of_ensureParent_writeText {location : Location} {code : Text}
    (failed : perform (do ensureParent location; writeText location code) tree =
      (.error error, after))
    (noSystem : error.isSystem = false) : ¬ ∀ c ∈ code, isScalar c = true := by
  rw [perform_bind] at failed
  split at failed
  · exact unencodable_of_writeText failed noSystem
  · rename_i parent
    cases failed
    rw [isSystem_of_ensureParent parent] at noSystem
    cases noSystem

theorem readText_of_ensureParent_writeText {location : Location} {code : Text}
    (done : perform (do ensureParent location; writeText location code) tree = (.ok (), after)) :
    after.readText location = .ok code := by
  rw [perform_bind] at done
  split at done
  · exact readText_of_writeText done
  · cases done

end Disk

/-! ## Saves that go on or stop -/

namespace Store

open FileTree

variable {store : Store} {tree after : FileTree} {hostname : Text} {script : Script}
  {savings : List Saving} {error : FileError}

/-- Where a script that is to be saved is stored. -/
def locationOf (store : Store) (saving : Saving) : Location :=
  store.scriptLocation saving.hostname saving.script.name

theorem evolves_saveScript (store : Store) (hostname : Text) (script : Script) (tree : FileTree) :
    tree.Evolves (fun place => (store.scriptLocation hostname script.name).target? = some place)
      (Disk.perform (store.saveScript hostname script) tree).2 :=
  after_saveScript (P := tree.Evolves fun place =>
      (store.scriptLocation hostname script.name).target? = some place)
    (Evolves.refl _ _) (Disk.evolves_ensureParent_writeText _ _ tree)

/-- A save is stopped by the file system, by a file without a text, or by a text that
has no byte form. -/
theorem cause_of_saveScript
    (failed : Disk.perform (store.saveScript hostname script) tree = (.error error, after))
    (noSystem : error.isSystem = false) :
    (∃ place, (store.scriptLocation hostname script.name).target? = some place ∧
        tree.isUndecodable place = true) ∨
      ¬ ∀ c ∈ script.code, isScalar c = true := by
  cases present : (tree.at? (store.scriptLocation hostname script.name)).isSome with
  | false =>
      rw [perform_saveScript_of_absent present] at failed
      exact Or.inr (Disk.unencodable_of_ensureParent_writeText failed noSystem)
  | true =>
      rw [perform_saveScript_of_present present] at failed
      split at failed
      · rename_i unread
        cases failed
        exact Or.inl (exists_isUndecodable_of_readText unread noSystem)
      · split at failed
        · cases failed
        · exact Or.inr (Disk.unencodable_of_ensureParent_writeText failed noSystem)

/-- What is saved can be read where it is stored. -/
theorem readText_of_saveScript
    (done : Disk.perform (store.saveScript hostname script) tree = (.ok (), after)) :
    after.readText (store.scriptLocation hostname script.name) = .ok script.code := by
  cases present : (tree.at? (store.scriptLocation hostname script.name)).isSome with
  | false =>
      rw [perform_saveScript_of_absent present] at done
      exact Disk.readText_of_ensureParent_writeText done
  | true =>
      rw [perform_saveScript_of_present present] at done
      split at done
      · cases done
      · rename_i source read
        split at done
        · rename_i same
          cases done
          rw [read, same]
        · exact Disk.readText_of_ensureParent_writeText done

/-- A save that is done has met no file without a text. -/
theorem readText_ne_undecodable_of_saveScript
    (done : Disk.perform (store.saveScript hostname script) tree = (.ok (), after)) :
    tree.readText (store.scriptLocation hostname script.name) ≠ .error .undecodable := by
  intro unread
  have present : (tree.at? (store.scriptLocation hostname script.name)).isSome = true := by
    rw [readText] at unread
    rw [at?]
    split at unread
    · rename_i system led
      cases unread
      cases isSystem_of_place? led
    · rename_i place led
      rw [led]
      dsimp only
      split at unread
      · cases unread
      · rename_i found
        rw [found]
        rfl
      · rename_i bytes found
        rw [found]
        rfl
  rw [perform_saveScript_of_present present, unread] at done
  cases done

theorem evolves_saveEach (store : Store) (savings : List Saving) (tree : FileTree) :
    tree.Evolves (fun place => ∃ saving ∈ savings, (store.locationOf saving).target? = some place)
      (Disk.perform (store.saveEach savings) tree).2 := by
  refine after_saveEach (P := tree.Evolves fun place =>
      ∃ saving ∈ savings, (store.locationOf saving).target? = some place)
    (Evolves.refl _ _) fun saving member between evolves => evolves.trans ?_
  exact (evolves_saveScript store saving.hostname saving.script between).mono
    fun place there => ⟨saving, member, there⟩

/-- Other than by the file system, a run of saves is stopped by a file that held no text
before it, or by a text that has no byte form. -/
theorem cause_of_saveEach
    (failed : Disk.perform (store.saveEach savings) tree = (.error error, after))
    (noSystem : error.isSystem = false) :
    (∃ saving ∈ savings, ∃ place, (store.locationOf saving).target? = some place ∧
        tree.isUndecodable place = true) ∨
      ∃ saving ∈ savings, ¬ ∀ c ∈ saving.script.code, isScalar c = true := by
  induction savings generalizing tree with
  | nil => cases failed
  | cons saving savings inductionHypothesis =>
      have evolves := evolves_saveScript store saving.hostname saving.script tree
      rw [saveEach, Disk.perform_bind] at failed
      split at failed
      · rename_i between done
        rw [done] at evolves
        rcases inductionHypothesis failed with
          ⟨other, member, place, there, undecodable⟩ | ⟨other, member, unencodable⟩
        · exact Or.inl ⟨other, List.mem_cons_of_mem _ member, place, there,
            evolves.isUndecodable_before undecodable⟩
        · exact Or.inr ⟨other, List.mem_cons_of_mem _ member, unencodable⟩
      · rename_i stopped
        cases failed
        rcases cause_of_saveScript stopped noSystem with undecodable | unencodable
        · exact Or.inl ⟨saving, List.mem_cons_self, undecodable⟩
        · exact Or.inr ⟨saving, List.mem_cons_self, unencodable⟩

/-- A run that is done has saved texts that have byte forms. -/
theorem isScalar_of_saveEach
    (done : Disk.perform (store.saveEach savings) tree = (.ok (), after)) :
    ∀ saving ∈ savings, ∀ c ∈ saving.script.code, isScalar c = true := by
  induction savings generalizing tree with
  | nil => exact fun _ member => absurd member List.not_mem_nil
  | cons saving savings inductionHypothesis =>
      rw [saveEach, Disk.perform_bind] at done
      split at done
      · rename_i between saved
        rw [List.forall_mem_cons]
        exact ⟨isScalar_of_readText (readText_of_saveScript saved), inductionHypothesis done⟩
      · cases done

/-- The script is stored at its place below the root, without a way back up. -/
structure IsDirect (store : Store) (saving : Saving) : Prop where
  location : store.locationOf saving = ⟨store.root.anchor, store.root.names ++ saving.names⟩
  ordinary : ∀ name ∈ saving.names, name ≠ up

theorem IsDirect.target? {root : Place} {saving : Saving} (direct : store.IsDirect saving)
    (rooted : tree.IsRooted store.root root) :
    (store.locationOf saving).target? = some (saving.place root) := by
  rw [direct.location, Location.target?, if_pos rooted.walked.1,
    Location.leads_append _ (Location.leads_of_walk rooted.walked.2),
    Location.leads_ordinary _ direct.ordinary, Saving.place]

/-- Where a script is stored without a way back up, a save that is done has met no file
without a text. -/
theorem IsDirect.isUndecodable_of_saveScript {root : Place} {saving : Saving}
    (direct : store.IsDirect saving) (rooted : tree.IsRooted store.root root)
    (saved : Disk.perform (store.saveScript saving.hostname saving.script) tree =
      (.ok (), after)) :
    tree.isUndecodable (saving.place root) = false := by
  rw [← Bool.not_eq_true]
  intro undecodable
  refine readText_ne_undecodable_of_saveScript saved ?_
  change tree.readText (store.locationOf saving) = _
  rcases isUndecodable_iff.mp undecodable with ⟨bytes, file, noText⟩
  have found := rooted.at?_eq direct.ordinary
  rw [← direct.location, at?] at found
  rw [Saving.place] at file
  rw [file] at found
  split at found
  · rename_i place led
    exact readText_of_isUndecodable led (isUndecodable_iff.mpr ⟨bytes, found, noText⟩)
  · cases found

/-- A run that is done has met no file without a text, as far as the scripts are stored
without a way back up. -/
theorem isUndecodable_of_saveEach {root : Place} (rooted : tree.IsRooted store.root root)
    (direct : ∀ saving ∈ savings, store.IsDirect saving ∨ (store.locationOf saving).target? = none)
    (done : Disk.perform (store.saveEach savings) tree = (.ok (), after)) :
    ∀ saving ∈ savings, ∀ place, (store.locationOf saving).target? = some place →
      tree.isUndecodable place = false := by
  induction savings generalizing tree with
  | nil => exact fun _ member => absurd member List.not_mem_nil
  | cons saving savings inductionHypothesis =>
      have evolves := evolves_saveScript store saving.hostname saving.script tree
      rw [saveEach, Disk.perform_bind] at done
      split at done
      · rename_i between saved
        rw [saved] at evolves
        have here : ∀ place, (store.locationOf saving).target? = some place →
            tree.isUndecodable place = false := by
          intro place there
          rcases direct saving List.mem_cons_self with isDirect | nowhere
          · rw [isDirect.target? rooted, Option.some.injEq] at there
            subst there
            exact isDirect.isUndecodable_of_saveScript rooted saved
          · rw [nowhere] at there
            cases there
        rw [List.forall_mem_cons]
        refine ⟨here, fun other member place there => ?_⟩
        have behind := inductionHypothesis
          (rooted.of_kept (evolves.nested rooted.nested) fun _ => evolves.directory)
          (fun further furtherMember => direct further (List.mem_cons_of_mem _ furtherMember))
          done other member place there
        rw [← Bool.not_eq_true]
        intro undecodable
        rcases evolves.isUndecodable_after undecodable with still | written
        · rw [behind] at still
          cases still
        · rw [here place written] at undecodable
          cases undecodable
      · cases done

end Store

end Respecify

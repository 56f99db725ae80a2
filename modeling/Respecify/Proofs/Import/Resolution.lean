import Mathlib.Data.List.Nodup
import Respecify.Import.Outcome
import Respecify.Proofs.Path.Convention
import Respecify.Proofs.Path.Normal

/-!
# Resolving a specifier among other names

Whether a specifier is a URL does not depend on the names that are known.  Where
more names are known behind those known before, the name that was found from the
root is found still, since the first one decides.  Where no two names are of one
module, their order does not matter, nor how often each is told.
-/

namespace Respecify.Known

variable {known more : Known} {specifier importer : Text}

/-- No resolution of a specifier tells of earlier runs. -/
theorem resolve_ne_annotated :
    known.resolve specifier importer ≠ .unresolved .annotated := by
  unfold resolve
  split
  · simp
  · split
    · dsimp only
      split <;> simp
    · split <;> simp

/-- Only URLs are external. -/
theorem resolve_eq_external_iff :
    known.resolve specifier importer = .unresolved .external ↔ Path.isUrl specifier = true := by
  unfold resolve
  split
  · rename_i isUrl
    simp [isUrl]
  · rename_i isPath
    simp only [isPath, Bool.false_eq_true, iff_false]
    split <;> split <;> simp

/-- A specifier is up to date if it is the first module that it names from the
root, with its slash. -/
theorem resolve_eq_upToDate_iff :
    known.resolve specifier importer = .unresolved .upToDate ↔
      Path.isUrl specifier = false ∧
        ∃ name, known.rootMatch? specifier = some name ∧ Path.rooted name = specifier := by
  unfold resolve
  split
  · rename_i isUrl
    simp [isUrl]
  · rename_i isPath
    simp only [isPath, true_and]
    split
    · rename_i name found
      split <;> simp [*]
    · rename_i rootMissed
      split <;> simp [rootMissed]

/-- Where a script is found from the root, its name with the slash decides. -/
theorem resolve_of_rootMatch? {name : Text} (isPath : Path.isUrl specifier = false)
    (found : known.rootMatch? specifier = some name) :
    known.resolve specifier importer =
      if Path.rooted name = specifier then .unresolved .upToDate
      else .root (Path.rooted name) name := by
  unfold resolve
  rw [isPath, found]
  rfl

/-- An import is found from the root under another specifier than its own. -/
theorem resolve_eq_root_iff {new target : Text} :
    known.resolve specifier importer = .root new target ↔
      Path.isUrl specifier = false ∧ known.rootMatch? specifier = some target ∧
        Path.rooted target = new ∧ new ≠ specifier := by
  constructor
  · intro resolved
    unfold resolve at resolved
    split at resolved
    · cases resolved
    · rename_i isPath
      split at resolved
      · rename_i name found
        dsimp only at resolved
        split at resolved
        · cases resolved
        · rename_i differs
          cases resolved
          exact ⟨Bool.eq_false_iff.mpr isPath, found, rfl, differs⟩
      · split at resolved <;> cases resolved
  · rintro ⟨isPath, found, rfl, differs⟩
    rw [resolve_of_rootMatch? isPath found, if_neg differs]

/-- An import is found from a directory only if it is not found from the root. -/
theorem resolve_eq_directory_iff {new target : Text} :
    known.resolve specifier importer = .directory new target ↔
      Path.isUrl specifier = false ∧ known.rootMatch? specifier = none ∧
        known.directoryMatch? specifier importer = some target ∧ target = new := by
  constructor
  · intro resolved
    unfold resolve at resolved
    split at resolved
    · cases resolved
    · rename_i isPath
      split at resolved
      · dsimp only at resolved
        split at resolved <;> cases resolved
      · rename_i missed
        split at resolved
        · rename_i name found
          cases resolved
          exact ⟨Bool.eq_false_iff.mpr isPath, missed, found, rfl⟩
        · cases resolved
  · rintro ⟨isPath, missed, found, rfl⟩
    unfold resolve
    rw [isPath, missed, found]
    rfl

/-- A script is found from the root by its module. -/
theorem rootMatch?_eq_find? (known : Known) (specifier : Text) :
    known.rootMatch? specifier =
      known.find? fun name => Path.modulePath name == Path.rootModule specifier :=
  rfl

/-- Specifiers that name one module find one script. -/
theorem rootMatch?_congr {other : Text}
    (same : Path.rootModule specifier = Path.rootModule other) :
    known.rootMatch? specifier = known.rootMatch? other := by
  rw [rootMatch?_eq_find?, rootMatch?_eq_find?, same]

/-- The script that is found from the root is of the module that the specifier
names. -/
theorem modulePath_of_rootMatch? {name : Text} (found : known.rootMatch? specifier = some name) :
    Path.modulePath name = Path.rootModule specifier := by
  have names := List.find?_some found
  exact beq_iff_eq.mp names

/-- A script that is found from a directory is known by a path in normal form, which
may lack its slash. -/
theorem isNormal_of_directoryMatch? {name : Text}
    (found : known.directoryMatch? specifier importer = some name) :
    name ∈ known ∧ Path.IsNormal (Path.rooted name) := by
  rcases List.exists_of_findSome?_eq_some found with ⟨path, candidate, first⟩
  have normal := Path.isNormal_of_mem_candidates candidate
  have names := List.find?_some first
  have same : Path.rooted name = Path.rooted path := beq_iff_eq.mp names
  refine ⟨List.mem_of_find?_eq_some first, ?_⟩
  rwa [same, normal.rooted_eq]

/-! ## More names -/

theorem rootMatch?_append :
    (known ++ more).rootMatch? specifier =
      (known.rootMatch? specifier).or (more.rootMatch? specifier) :=
  List.find?_append

/-- A specifier that is up to date stays so. -/
theorem resolve_append_of_upToDate
    (upToDate : known.resolve specifier importer = .unresolved .upToDate) :
    (known ++ more).resolve specifier importer = .unresolved .upToDate := by
  rw [resolve_eq_upToDate_iff] at upToDate ⊢
  rcases upToDate with ⟨isPath, name, found, rooted⟩
  exact ⟨isPath, name, by rw [rootMatch?_append, found, Option.some_or], rooted⟩

/-! ## The same names in another order -/

/-- The first item of a kind is the only one of it, so another list of the same items has
the same one. -/
theorem find?_congr_of_unique {α : Type} {items others : List α} {asked : α → Bool}
    (same : ∀ item, item ∈ items ↔ item ∈ others)
    (unique : ∀ one ∈ items, ∀ other ∈ items,
      asked one = true → asked other = true → one = other) :
    items.find? asked = others.find? asked := by
  cases found : others.find? asked with
  | none =>
      rw [List.find?_eq_none] at found ⊢
      exact fun item member => found item ((same item).mp member)
  | some item =>
      have isAsked := List.find?_some found
      have member := (same item).mpr (List.mem_of_find?_eq_some found)
      cases first : items.find? asked with
      | none => exact absurd isAsked (List.find?_eq_none.mp first item member)
      | some other =>
          rw [unique other (List.mem_of_find?_eq_some first) item member
            (List.find?_some first) isAsked]

section SameNames

variable {others : Known} (same : ∀ name, name ∈ known ↔ name ∈ others)
  (distinct : (known.map Path.modulePath).Nodup)

include same distinct

/-- What a specifier resolves to depends on which names are known, not on their order. -/
theorem resolve_congr : known.resolve specifier importer = others.resolve specifier importer := by
  have apart : ∀ one ∈ known, ∀ other ∈ known,
      Path.modulePath one = Path.modulePath other → one = other := fun _ isKnown _ isKnown' =>
    List.inj_on_of_nodup_map distinct isKnown isKnown'
  have rootMatches : known.rootMatch? specifier = others.rootMatch? specifier :=
    find?_congr_of_unique same fun one isKnown other isKnown' names names' =>
      apart one isKnown other isKnown' ((Path.modulePath_eq_of_namesModule names).trans
        (Path.modulePath_eq_of_namesModule names').symm)
  have files : ∀ path, (known.find? fun name => Path.sameFile name path) =
      others.find? fun name => Path.sameFile name path := fun path =>
    find?_congr_of_unique same fun one isKnown other isKnown' names names' =>
      apart one isKnown other isKnown' ((Path.modulePath_eq_of_sameFile names).trans
        (Path.modulePath_eq_of_sameFile names').symm)
  unfold resolve directoryMatch?
  simp only [rootMatches, files]

/-- So the outcomes of the imports of a script do not depend on it either. -/
theorem ofSites_congr (source : Text) (sites : List ImportSite) :
    Outcome.ofSites known importer source sites = Outcome.ofSites others importer source sites := by
  refine List.map_congr_left fun site _ => ?_
  unfold Outcome.ofSite
  rw [resolve_congr same distinct]

end SameNames

end Respecify.Known

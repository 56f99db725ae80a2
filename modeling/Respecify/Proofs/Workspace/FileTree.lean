import Mathlib.Data.List.Infix
import Respecify.Proofs.Text.Utf8
import Respecify.Workspace.Disk

/-!
# Trees as a file system holds them

In a tree that a file system holds, every place is told by names, no place is
told twice, and whatever stands in a directory has that directory above it.
-/

namespace Respecify

/-- The text can name a file in a directory. -/
def IsName (name : Text) : Prop :=
  name ≠ [] ∧ Path.separator ∉ name ∧ name ≠ text "." ∧ name ≠ FileTree.up

instance : DecidablePred IsName :=
  fun _ => inferInstanceAs (Decidable (_ ∧ _))

namespace FileTree

/-- Whatever stands at a place stands in a directory. -/
def IsNested (tree : FileTree) : Prop :=
  ∀ place name, (tree.node? (place ++ [name])).isSome → tree.node? place = some .directory

/-- The tree is one that a file system can hold. -/
structure IsProper (tree : FileTree) : Prop where
  named : ∀ entry ∈ tree.entries, entry.1 ≠ [] ∧ ∀ name ∈ entry.1, IsName name
  distinct : (tree.entries.map Prod.fst).Nodup
  inside : ∀ entry ∈ tree.entries, tree.node? entry.1.dropLast = some .directory

instance (tree : FileTree) : Decidable tree.IsProper :=
  decidable_of_iff (_ ∧ _ ∧ _)
    ⟨fun ⟨named, distinct, inside⟩ => ⟨named, distinct, inside⟩,
      fun ⟨named, distinct, inside⟩ => ⟨named, distinct, inside⟩⟩

/-- The text of the file at a place. -/
def text? (tree : FileTree) (place : Place) : Option Text :=
  match tree.node? place with
  | some (.file bytes) => Utf8.decode? bytes
  | _ => none

variable {tree : FileTree} {place : Place} {node : Node}

/-! ## Entries -/

theorem mem_of_lookup {entries : List (Place × Node)} (found : entries.lookup place = some node) :
    (place, node) ∈ entries := by
  induction entries with
  | nil => cases found
  | cons entry entries inductionHypothesis =>
      rcases entry with ⟨other, there⟩
      by_cases here : place = other
      · subst here
        rw [List.lookup_cons_self, Option.some.injEq] at found
        rw [found]
        exact List.mem_cons_self
      · rw [lookup_cons_ne here] at found
        exact List.mem_cons_of_mem _ (inductionHypothesis found)

theorem lookup_of_mem {entries : List (Place × Node)} (distinct : (entries.map Prod.fst).Nodup)
    (member : (place, node) ∈ entries) : entries.lookup place = some node := by
  induction entries with
  | nil => cases member
  | cons entry entries inductionHypothesis =>
      rcases entry with ⟨other, there⟩
      rw [List.map_cons, List.nodup_cons] at distinct
      rcases List.mem_cons.mp member with same | member
      · cases same
        exact List.lookup_cons_self
      · have elsewhere : place ≠ other := fun same =>
          distinct.1 (List.mem_map.mpr ⟨(place, node), member, same⟩)
        rw [lookup_cons_ne elsewhere]
        exact inductionHypothesis distinct.2 member

/-- What stands at a place other than the root has an entry. -/
theorem mem_entries_of_node? (below : place ≠ []) (found : tree.node? place = some node) :
    (place, node) ∈ tree.entries := by
  rw [node?, if_neg (by simpa using below)] at found
  exact mem_of_lookup found

/-- What has an entry stands at its place. -/
theorem IsProper.node?_of_mem (proper : tree.IsProper) (member : (place, node) ∈ tree.entries) :
    tree.node? place = some node := by
  rw [node?, if_neg (by simpa using (proper.named _ member).1)]
  exact lookup_of_mem proper.distinct member

theorem IsProper.isNested (proper : tree.IsProper) : tree.IsNested := by
  intro place name present
  rcases Option.isSome_iff_exists.mp present with ⟨node, found⟩
  have parent := proper.inside _ (mem_entries_of_node? (by simp) found)
  rwa [List.dropLast_concat] at parent

/-! ## What stands above a place -/

/-- Whatever stands at a place has directories above it. -/
theorem IsNested.directory_of_append (nested : tree.IsNested) {rest : Place} (below : rest ≠ [])
    (present : (tree.node? (place ++ rest)).isSome) : tree.node? place = some .directory := by
  induction rest using List.reverseRecOn with
  | nil => exact absurd rfl below
  | append_singleton rest name inductionHypothesis =>
      rw [← List.append_assoc] at present
      have parent := nested _ _ present
      rcases List.eq_nil_or_concat rest with rfl | ⟨others, last, rfl⟩
      · rwa [List.append_nil] at parent
      · exact inductionHypothesis (by simp) (by rw [parent]; rfl)

/-- A place above another one where something stands is a directory. -/
theorem IsNested.directory_of_prefix (nested : tree.IsNested) {above : Place}
    (isAbove : above <+: place) (apart : above ≠ place) (present : (tree.node? place).isSome) :
    tree.node? above = some .directory := by
  rcases isAbove with ⟨rest, rfl⟩
  refine nested.directory_of_append ?_ present
  rintro rfl
  exact apart (List.append_nil _).symm

/-- No file stands below a file. -/
theorem IsNested.eq_of_prefix (nested : tree.IsNested) {above : Place} {bytes : List Nat}
    (isAbove : above <+: place) (file : tree.node? above = some (.file bytes))
    (present : (tree.node? place).isSome) : above = place := by
  by_contra apart
  rw [nested.directory_of_prefix isAbove apart present] at file
  cases file

/-- A tree stays nested if something other than a directory is replaced. -/
theorem IsNested.put (nested : tree.IsNested) (below : place ≠ [])
    (parent : tree.node? place.dropLast = some .directory)
    (replaced : tree.node? place ≠ some .directory) (node : Node) :
    (tree.put place node).IsNested := by
  intro above name present
  rw [node?_put _ _ _ below] at present ⊢
  split at present
  · rename_i here
    rw [← here, List.dropLast_concat] at parent
    rw [if_neg (by rw [← here]; simp), parent]
  · have directory := nested _ _ present
    have elsewhere : above ≠ place := by
      rintro rfl
      exact replaced directory
    rw [if_neg elsewhere, directory]

/-! ## Texts of files -/

theorem text?_eq_some_iff {code : Text} :
    tree.text? place = some code ↔
      ∃ bytes, tree.node? place = some (.file bytes) ∧ Utf8.decode? bytes = some code := by
  rw [text?]
  cases found : tree.node? place with
  | none => simp
  | some node => cases node <;> simp

theorem text?_congr {other : FileTree} (same : other.node? place = tree.node? place) :
    other.text? place = tree.text? place := by
  rw [text?, text?, same]

/-! ## Below a place -/

theorem mem_below_iff {rest : Place} :
    (rest, node) ∈ tree.below place ↔ rest ≠ [] ∧ (place ++ rest, node) ∈ tree.entries := by
  simp only [below, List.mem_filterMap, Bool.and_eq_true, bne_iff_ne, Prod.exists]
  constructor
  · rintro ⟨whole, there, member, answer⟩
    split at answer
    · rename_i within
      rcases List.isPrefixOf_iff_prefix.mp within.1 with ⟨others, rfl⟩
      rw [Option.some.injEq, Prod.mk.injEq, List.drop_left] at answer
      rcases answer with ⟨rfl, rfl⟩
      exact ⟨fun none => within.2 (by rw [none, List.append_nil]), member⟩
    · cases answer
  · rintro ⟨filled, member⟩
    refine ⟨_, _, member, ?_⟩
    rw [if_pos ⟨List.isPrefixOf_iff_prefix.mpr (List.prefix_append _ _), by simpa using filled⟩,
      List.drop_left]

/-- Below a place, each place is told once. -/
theorem IsProper.nodup_below (proper : tree.IsProper) (place : Place) :
    ((tree.below place).map Prod.fst).Nodup := by
  have distinct := proper.distinct
  unfold below
  generalize tree.entries = entries at distinct
  induction entries with
  | nil => exact List.nodup_nil
  | cons entry entries inductionHypothesis =>
      rw [List.map_cons, List.nodup_cons] at distinct
      have others := inductionHypothesis distinct.2
      rw [List.filterMap_cons]
      split
      · exact others
      · rename_i kept
        split at kept
        · rename_i within
          cases kept
          rw [Bool.and_eq_true] at within
          rcases List.isPrefixOf_iff_prefix.mp within.1 with ⟨rest, whole⟩
          rw [List.map_cons, List.nodup_cons]
          refine ⟨fun member => distinct.1 ?_, others⟩
          rcases List.mem_map.mp member with ⟨⟨other, node⟩, isBelow, same⟩
          rcases (mem_below_iff).mp isBelow with ⟨_, isEntry⟩
          have whole' : place ++ other = entry.1 := by
            rw [← whole] at same ⊢
            rw [List.drop_left] at same
            exact congrArg (place ++ ·) same
          exact List.mem_map.mpr ⟨_, isEntry, whole'⟩
        · cases kept

theorem sortedBelow_perm (tree : FileTree) (place : Place) :
    (tree.sortedBelow place).Perm (tree.below place) :=
  Order.sort_perm _ _

theorem IsProper.nodup_sortedBelow (proper : tree.IsProper) (place : Place) :
    ((tree.sortedBelow place).map Prod.fst).Nodup :=
  ((tree.sortedBelow_perm place).map Prod.fst).nodup_iff.mpr (proper.nodup_below place)

end FileTree

end Respecify

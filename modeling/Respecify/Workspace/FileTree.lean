import Respecify.Order
import Respecify.Text.Basic

/-!
# A tree of files

A tree of files and directories as a value.  Each file and each directory has
a place: the names that lead to it from the root.  The root itself is a
directory.
-/

namespace Respecify

/-- Where a file or a directory stands: the names from the root down. -/
abbrev Place := List Text

/-- The order of places: name by name, each by its code points. -/
def Place.before : Place → Place → Bool :=
  Order.lexical (Order.lexical fun one other => decide (one ≤ other))

/-- What stands at a place. -/
inductive Node where
  | file (bytes : List Nat)
  | directory
deriving DecidableEq, Repr

/-- What stands at all places other than the root. -/
structure FileTree where
  entries : List (Place × Node)
deriving DecidableEq, Repr

namespace FileTree

/-- A tree with nothing in it. -/
def empty : FileTree :=
  ⟨[]⟩

/-- What stands at a place. -/
def node? (tree : FileTree) (place : Place) : Option Node :=
  if place.isEmpty then some .directory else tree.entries.lookup place

/-- Change the entry of a place, or add one after the others. -/
def putIn (place : Place) (node : Node) : List (Place × Node) → List (Place × Node)
  | [] => [(place, node)]
  | (other, old) :: rest =>
      if other = place then (place, node) :: rest
      else (other, old) :: putIn place node rest

/-- Put something at a place other than the root. -/
def put (tree : FileTree) (place : Place) (node : Node) : FileTree :=
  ⟨putIn place node tree.entries⟩

/-- Take away what stands at a place. -/
def remove (tree : FileTree) (place : Place) : FileTree :=
  ⟨tree.entries.filter fun entry => entry.1 != place⟩

/-- The places below a place, told from there, and what stands at them. -/
def below (tree : FileTree) (place : Place) : List (Place × Node) :=
  tree.entries.filterMap fun entry =>
    if place.isPrefixOf entry.1 && entry.1 != place then
      some (entry.1.drop place.length, entry.2)
    else
      none

/-- The places below a place in their order. -/
def sortedBelow (tree : FileTree) (place : Place) : List (Place × Node) :=
  Order.sort (fun one other => one.1.before other.1) (tree.below place)

theorem lookup_cons_ne {place other : Place} (different : other ≠ place) (node : Node)
    (entries : List (Place × Node)) :
    List.lookup other ((place, node) :: entries) = entries.lookup other := by
  have unequal : (other == place) = false := beq_eq_false_iff_ne.mpr different
  rw [List.lookup_cons, unequal]

theorem lookup_putIn (place other : Place) (node : Node) (entries : List (Place × Node)) :
    (putIn place node entries).lookup other =
      if other = place then some node else entries.lookup other := by
  induction entries with
  | nil =>
      by_cases same : other = place
      · simp [putIn, same]
      · simp [putIn, lookup_cons_ne same, same]
  | cons entry rest inductionHypothesis =>
      obtain ⟨first, old⟩ := entry
      by_cases here : first = place
      · by_cases same : other = place
        · simp [putIn, here, same]
        · simp [putIn, here, lookup_cons_ne same, same]
      · by_cases found : other = first
        · subst found
          simp [putIn, here]
        · simp [putIn, here, lookup_cons_ne found, inductionHypothesis]

/-- After something is put at a place, it stands there, and all else is as it
was. -/
theorem node?_put (tree : FileTree) {place : Place} (node : Node) (other : Place)
    (below : place ≠ []) :
    (tree.put place node).node? other = if other = place then some node else tree.node? other := by
  unfold node? put
  rw [lookup_putIn]
  by_cases root : other = []
  · subst root
    simp [Ne.symm below]
  · simp [root]

end FileTree

end Respecify

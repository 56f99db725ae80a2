import Respecify.JavaScript.Recovery
import Respecify.Proofs.JavaScript.Walk

/-!
# The first fault of a tree

The search for the first fault keeps the trees that it has still to look at on a stack,
and it passes over what is below a node without a mark.  If every node above a fault is
marked, whichever others are, nothing is missed: what is found is the first fault of all
nodes in source order, parents before children.
-/

namespace Respecify.JavaScript.RecoveredTree

open Respecify.JavaScript.Tree (pushAll pushAll_eq_append)

/-! ## Nodes -/

/-- The node is marked as one with a fault below it. -/
def hasError : RecoveredTree → Bool
  | node _ _ _ hasError _ _ => hasError

/-- The trees directly below the node. -/
def children : RecoveredTree → List RecoveredTree
  | node _ _ _ _ children _ => children

variable {tree child : RecoveredTree} {stack : List RecoveredTree}

theorem nodes_eq_cons (tree : RecoveredTree) : tree.nodes = tree :: nodesAmong tree.children := by
  cases tree
  rfl

theorem nodesAmong_eq_flatMap (trees : List RecoveredTree) :
    nodesAmong trees = trees.flatMap nodes := by
  induction trees with
  | nil => rfl
  | cons tree others inductionHypothesis =>
      rw [nodesAmong, inductionHypothesis, List.flatMap_cons]

theorem nodesAmong_append (first second : List RecoveredTree) :
    nodesAmong (first ++ second) = nodesAmong first ++ nodesAmong second := by
  simp only [nodesAmong_eq_flatMap, List.flatMap_append]

/-- The nodes of a tree on a stack are itself, those below it and those further down. -/
theorem nodesAmong_cons (tree : RecoveredTree) (stack : List RecoveredTree) :
    nodesAmong (tree :: stack) = tree :: nodesAmong (tree.children ++ stack) := by
  rw [nodesAmong, nodes_eq_cons, nodesAmong_append, List.cons_append]

/-- The nodes of a tree below another one are nodes of that one. -/
theorem nodes_subset_of_mem (member : child ∈ tree.children) : child.nodes ⊆ tree.nodes := by
  intro node inside
  rw [nodes_eq_cons, nodesAmong_eq_flatMap]
  exact List.mem_cons_of_mem tree (List.mem_flatMap.mpr ⟨child, member, inside⟩)

/-! ## The search with a stack -/

/-- Walk over the trees of a stack to the first fault.  What is below a node is looked
at if the node is marked. -/
def walkFault? : List RecoveredTree → Option RecoveredTree
  | [] => none
  | tree :: stack =>
      if tree.isFault then some tree
      else if tree.hasError then walkFault? (pushAll tree.children stack)
      else walkFault? stack
termination_by stack => (nodesAmong stack).length
decreasing_by
  · rw [pushAll_eq_append, nodesAmong_cons]
    exact Nat.lt_succ_self _
  · rw [nodesAmong_cons, nodesAmong_append, List.length_cons, List.length_append]
    omega

theorem firstFault?_eq (tree : RecoveredTree) :
    tree.firstFault? =
      if tree.isFault then some tree
      else if tree.hasError then firstFaultAmong? tree.children else none := by
  cases tree
  rfl

theorem firstFaultAmong?_cons (tree : RecoveredTree) (others : List RecoveredTree) :
    firstFaultAmong? (tree :: others) = tree.firstFault?.or (firstFaultAmong? others) := by
  rw [firstFaultAmong?]
  cases tree.firstFault? <;> rfl

theorem firstFaultAmong?_append (first second : List RecoveredTree) :
    firstFaultAmong? (first ++ second) =
      (firstFaultAmong? first).or (firstFaultAmong? second) := by
  induction first with
  | nil => rfl
  | cons tree others inductionHypothesis =>
      rw [List.cons_append, firstFaultAmong?_cons, firstFaultAmong?_cons, inductionHypothesis,
        Option.or_assoc]

/-- The walk comes to the fault that is found by recursion on the trees. -/
theorem walkFault?_eq_firstFaultAmong? (stack : List RecoveredTree) :
    walkFault? stack = firstFaultAmong? stack := by
  fun_induction walkFault? stack with
  | case1 => rfl
  | case2 tree stack faulty => simp [firstFaultAmong?_cons, firstFault?_eq, faulty]
  | case3 tree stack sound marked inductionHypothesis =>
      rw [inductionHypothesis, pushAll_eq_append, firstFaultAmong?_append, firstFaultAmong?_cons,
        firstFault?_eq, if_neg sound, if_pos marked]
  | case4 tree stack sound unmarked inductionHypothesis =>
      rw [inductionHypothesis, firstFaultAmong?_cons, firstFault?_eq, if_neg sound,
        if_neg unmarked, Option.none_or]

/-! ## Marked trees -/

/-- Every node above a fault is marked. -/
def IsMarked (tree : RecoveredTree) : Prop :=
  ∀ node ∈ tree.nodes, ∀ fault ∈ nodesAmong node.children,
    fault.isFault = true → node.hasError = true

instance (tree : RecoveredTree) : Decidable tree.IsMarked :=
  inferInstanceAs (Decidable (∀ node ∈ tree.nodes, ∀ fault ∈ nodesAmong node.children,
    fault.isFault = true → node.hasError = true))

namespace IsMarked

/-- So it is with the trees below a tree. -/
theorem of_mem (marked : tree.IsMarked) (member : child ∈ tree.children) : child.IsMarked :=
  fun node inside => marked node (nodes_subset_of_mem member inside)

/-- Below a node without a mark there is no fault. -/
theorem find?_eq_none (marked : tree.IsMarked) (unmarked : ¬tree.hasError = true) :
    (nodesAmong tree.children).find? isFault = none := by
  have above : tree ∈ tree.nodes := by
    rw [nodes_eq_cons]
    exact List.mem_cons_self
  rw [List.find?_eq_none]
  intro fault below faulty
  exact unmarked (marked tree above fault below faulty)

end IsMarked

/-- The walk comes to the first fault of all nodes, though it does not look at all of
them. -/
theorem walkFault?_eq_find? (marked : ∀ tree ∈ stack, tree.IsMarked) :
    walkFault? stack = (nodesAmong stack).find? isFault := by
  fun_induction walkFault? stack with
  | case1 => rfl
  | case2 tree stack faulty => simp [nodesAmong_cons, faulty]
  | case3 tree stack sound isMarked inductionHypothesis =>
      rw [pushAll_eq_append] at inductionHypothesis ⊢
      rw [inductionHypothesis, nodesAmong_cons, List.find?_cons_of_neg sound]
      intro other member
      rcases List.mem_append.mp member with below | beneath
      · exact (marked tree List.mem_cons_self).of_mem below
      · exact marked other (List.mem_cons_of_mem tree beneath)
  | case4 tree stack sound unmarked inductionHypothesis =>
      have clean := (marked tree List.mem_cons_self).find?_eq_none unmarked
      rw [inductionHypothesis fun other member => marked other (List.mem_cons_of_mem tree member),
        nodesAmong_cons, List.find?_cons_of_neg sound, nodesAmong_append, List.find?_append, clean,
        Option.none_or]

theorem firstFault?_eq_walkFault? (tree : RecoveredTree) :
    tree.firstFault? = walkFault? [tree] := by
  rw [walkFault?_eq_firstFaultAmong?, firstFaultAmong?_cons, firstFaultAmong?, Option.or_none]

/-- What is found in a tree is the first fault of all its nodes. -/
theorem IsMarked.firstFault?_eq_find? (marked : tree.IsMarked) :
    tree.firstFault? = tree.nodes.find? isFault := by
  rw [firstFault?_eq_walkFault?, walkFault?_eq_find? (by simpa using marked), nodesAmong,
    nodesAmong, List.append_nil]

/-- In a tree where every node above a fault is marked, the walk comes to the first node
that is a fault, and to none exactly if there is no fault. -/
theorem walkFault?_decides (marked : tree.IsMarked) :
    (∀ fault, walkFault? [tree] = some fault ↔
        ∃ before behind, tree.nodes = before ++ fault :: behind ∧ fault.isFault = true ∧
          ∀ node ∈ before, node.isFault = false) ∧
      (walkFault? [tree] = none ↔ ∀ node ∈ tree.nodes, node.isFault = false) ∧
      tree.firstFault? = walkFault? [tree] := by
  have found : walkFault? [tree] = tree.nodes.find? isFault :=
    (firstFault?_eq_walkFault? tree).symm.trans marked.firstFault?_eq_find?
  refine ⟨fun fault => ?_, ?_, firstFault?_eq_walkFault? tree⟩
  · rw [found, List.find?_eq_some_iff_append]
    constructor
    · rintro ⟨faulty, before, behind, split, first⟩
      exact ⟨before, behind, split, faulty, by simpa using first⟩
    · rintro ⟨before, behind, split, faulty, first⟩
      exact ⟨faulty, before, behind, split, by simpa using first⟩
  · simp [found, List.find?_eq_none]

/-- The first statement is marked though there is no fault in it, and the fault below the
second one has a fault below itself. -/
theorem walkFault?_decides_nested :
    let name := node (text "name") false false false []
    let clean := node (text "statement") false false true [name]
    let missing := node (text ";") false true false []
    let fault := node (text "ERROR") true false true [name, missing]
    let tree := node (text "program") false false true
      [clean, node (text "statement") false false true [name, fault], missing]
    tree.IsMarked ∧ walkFault? [tree] = some fault ∧ tree.firstFault? = some fault ∧
      clean.IsMarked ∧ walkFault? [clean] = none := by
  intro name clean missing fault tree
  have marked : tree.IsMarked := by decide
  have markedClean : clean.IsMarked := by decide
  obtain ⟨first, _, same⟩ := walkFault?_decides marked
  obtain ⟨_, none, _⟩ := walkFault?_decides markedClean
  have found : walkFault? [tree] = some fault :=
    (first fault).mpr
      ⟨[tree, clean, name, node (text "statement") false false true [name, fault], name],
        [name, missing, missing], rfl, rfl, by decide⟩
  exact ⟨marked, found, same.trans found, markedClean, none.mpr (by decide)⟩

end Respecify.JavaScript.RecoveredTree

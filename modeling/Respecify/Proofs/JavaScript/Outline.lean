import Respecify.Import.Survey

/-!
# Outlines of statements

Two texts of one script may differ in what stands between its tokens.  Their
trees then differ in positions only, and bind the same names.  The outline of a
statement keeps what such trees share, and it is all that the rules of module
code look at.
-/

namespace Respecify

open JavaScript

namespace JavaScript.Tree

/-! ## Trees without positions -/

mutual

/-- The tree with all its positions taken away. -/
def erase : Tree → Tree
  | .node kind role _ children => .node kind role ⟨0, 0⟩ (eraseAll children)

/-- The trees with all their positions taken away. -/
def eraseAll : List Tree → List Tree
  | [] => []
  | tree :: others => erase tree :: eraseAll others

end

theorem eraseAll_eq_map (trees : List Tree) : eraseAll trees = trees.map erase := by
  induction trees with
  | nil => rfl
  | cons tree others inductionHypothesis =>
      rw [eraseAll, inductionHypothesis, List.map_cons]

@[simp]
theorem kind_erase (tree : Tree) : tree.erase.kind = tree.kind := by
  cases tree
  rfl

@[simp]
theorem role_erase (tree : Tree) : tree.erase.role = tree.role := by
  cases tree
  rfl

theorem children_erase (tree : Tree) : tree.erase.children = tree.children.map erase := by
  cases tree
  rw [erase, children, eraseAll_eq_map, children]

theorem child?_erase (role : Role) (tree : Tree) :
    tree.erase.child? role = (tree.child? role).map erase := by
  rw [child?, children_erase, List.find?_map, child?]
  simp only [Function.comp_def, role_erase]

/-! ## Rules that look at kinds only -/

mutual

theorem firstViolation?_erase (inFunction : Bool) : (tree : Tree) →
    (firstViolation? inFunction tree.erase).isNone = (firstViolation? inFunction tree).isNone
  | .node kind role span children => by
      rw [erase, firstViolation?, firstViolation?]
      cases kind.fault? inFunction with
      | some fault => rfl
      | none => exact firstViolationIn?_eraseAll (inFunction || kind.isFunction) children

theorem firstViolationIn?_eraseAll (inFunction : Bool) : (trees : List Tree) →
    (firstViolationIn? inFunction (eraseAll trees)).isNone =
      (firstViolationIn? inFunction trees).isNone
  | [] => rfl
  | tree :: others => by
      have here := firstViolation?_erase inFunction tree
      have behind := firstViolationIn?_eraseAll inFunction others
      rw [eraseAll, firstViolationIn?, firstViolationIn?]
      cases first : firstViolation? inFunction tree <;>
        cases firstErased : firstViolation? inFunction tree.erase <;>
        simp_all

end

mutual

theorem firstNestedImport?_erase (parent : Kind) : (tree : Tree) →
    (firstNestedImport? parent tree.erase).isNone = (firstNestedImport? parent tree).isNone
  | .node kind role span children => by
      rw [erase, firstNestedImport?, firstNestedImport?]
      split
      · split <;> rfl
      · exact firstNestedImportIn?_eraseAll kind children

theorem firstNestedImportIn?_eraseAll (parent : Kind) : (trees : List Tree) →
    (firstNestedImportIn? parent (eraseAll trees)).isNone =
      (firstNestedImportIn? parent trees).isNone
  | [] => rfl
  | tree :: others => by
      have here := firstNestedImport?_erase parent tree
      have behind := firstNestedImportIn?_eraseAll parent others
      rw [eraseAll, firstNestedImportIn?, firstNestedImportIn?]
      cases first : firstNestedImport? parent tree <;>
        cases firstErased : firstNestedImport? parent tree.erase <;>
        simp_all

end

/-- Whether a statement binds its names by `var` is told by kinds. -/
theorem statementNames_erase (statement : Tree) :
    statement.erase.statementNames.1 = statement.statementNames.1 := by
  have declares : statement.erase.declared? = statement.declared?.map erase := by
    unfold declared?
    rw [kind_erase]
    split
    · exact child?_erase .declaration statement
    · rfl
  unfold statementNames
  rw [declares]
  cases statement.declared? with
  | none => rfl
  | some declaration =>
      dsimp only [Option.map_some]
      rw [kind_erase]
      split <;> rfl

end JavaScript.Tree

/-! ## Outlines -/

/-- What the tree of a statement says, apart from where it stands. -/
structure Outline where
  /-- The tree without its positions. -/
  tree : Tree
  /-- The names that the statement binds. -/
  names : List Text

namespace Outline

/-- The names that the statement binds, and whether by `var`. -/
def bound (outline : Outline) : List (Text × Bool) :=
  outline.names.map fun name => (name, outline.tree.statementNames.1)

end Outline

/-- The outline of a statement of a text. -/
def JavaScript.Tree.outline (source : Source) (statement : Tree) : Outline :=
  ⟨statement.erase, statement.statementNames.2.map fun name => source.textOf name.span⟩

/-! ## The rules of module code, told from outlines -/

/-- What makes two bindings clash. -/
def JavaScript.Binding.face (binding : Binding) : Text × Bool :=
  (binding.name, binding.repeatable)

/-- Bindings of the same names clash or do not clash alike. -/
theorem firstClashAfter?_congr {earlier earlier' names names' : List Binding}
    (sameEarlier : earlier.map Binding.face = earlier'.map Binding.face)
    (same : names.map Binding.face = names'.map Binding.face) :
    (firstClashAfter? earlier names).isNone = (firstClashAfter? earlier' names').isNone := by
  induction names generalizing earlier earlier' names' with
  | nil =>
      rw [List.map_eq_nil_iff.mp same.symm]
      rfl
  | cons name names inductionHypothesis =>
      rcases List.map_eq_cons_iff.mp same.symm with ⟨name', names', rfl, sameName, sameNames⟩
      have told : ∀ (before : List Binding) (binding : Binding),
          before.any (·.clashes binding) =
            (before.map Binding.face).any fun face =>
              face.1 == binding.face.1 && !(face.2 && binding.face.2) := by
        intro before binding
        rw [List.any_map]
        rfl
      rw [firstClashAfter?, firstClashAfter?, told earlier, told earlier', sameEarlier, sameName]
      split
      · rfl
      · refine inductionHypothesis ?_ sameNames.symm
        rw [List.map_cons, List.map_cons, sameName, sameEarlier]

/-- The names bound at the top of a script are told by the outlines of its
statements. -/
theorem map_face_bindings (source : Source) (program : Tree) :
    (bindings source program).map Binding.face =
      (program.children.map (Tree.outline source)).flatMap Outline.bound := by
  rw [bindings, List.map_flatMap, List.flatMap_map]
  congr 1
  funext statement
  simp only [Tree.outline, Outline.bound, List.map_map, Tree.statementNames_erase]
  rfl

/-- A tree is one of module code if it breaks none of the three rules. -/
theorem checkModule_eq_ok_iff {source : Source} {program : Tree} :
    checkModule source program = .ok () ↔
      (program.firstViolation? false).isNone = true ∧
        (firstClash? (bindings source program)).isNone = true ∧
        (program.firstNestedImport? .program).isNone = true := by
  unfold checkModule
  cases program.firstViolation? false <;> cases firstClash? (bindings source program) <;>
    cases program.firstNestedImport? .program <;>
    simp [bind, Except.bind, pure, Except.pure, throw, throwThe, MonadExceptOf.throw]

/-- Whether a tree is one of module code is told by the outlines of its
statements. -/
theorem checkModule_congr {source source' : Source} {program program' : Tree}
    (isProgram : program.kind = .program) (isProgram' : program'.kind = .program)
    (same : program.children.map (Tree.outline source) =
      program'.children.map (Tree.outline source'))
    (checked : checkModule source program = .ok ()) :
    checkModule source' program' = .ok () := by
  have sameFaces : (bindings source program).map Binding.face =
      (bindings source' program').map Binding.face := by
    rw [map_face_bindings, map_face_bindings, same]
  rcases program with ⟨kind, role, span, children⟩
  rcases program' with ⟨kind', role', span', children'⟩
  cases isProgram
  cases isProgram'
  have sameErased : Tree.eraseAll children = Tree.eraseAll children' := by
    have mapped := congrArg (List.map Outline.tree) same
    rw [List.map_map, List.map_map] at mapped
    rw [Tree.eraseAll_eq_map, Tree.eraseAll_eq_map]
    exact mapped
  have violation := Tree.firstViolationIn?_eraseAll (false || Kind.program.isFunction) children
  rw [sameErased, Tree.firstViolationIn?_eraseAll] at violation
  have nested := Tree.firstNestedImportIn?_eraseAll .program children
  rw [sameErased, Tree.firstNestedImportIn?_eraseAll] at nested
  rw [checkModule_eq_ok_iff] at checked ⊢
  refine ⟨violation.trans checked.1, ?_, nested.trans checked.2.2⟩
  rw [firstClash?, ← firstClashAfter?_congr rfl sameFaces]
  exact checked.2.1

end Respecify

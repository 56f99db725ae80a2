import Respecify.JavaScript.Tree
import Respecify.JavaScript.Failure

/-!
# Rules of module code

The grammar accepts more than a module may hold.  Three kinds of nodes are
refused: a `return` outside functions, a `with` statement, and markup.  The
first such node in source order, parents before children, decides.
-/

namespace Respecify.JavaScript

/-- What is wrong with a node of this kind; `inFunction` tells whether it
stands in a function. -/
def Kind.fault? (inFunction : Bool) : Kind → Option Fault
  | .returnStatement => if inFunction then none else some .strayReturn
  | .withStatement => some .withStatement
  | kind => if kind.isMarkup then some .markup else none

namespace Tree

/-- A node that breaks a rule. -/
structure Violation where
  fault : Fault
  tree : Tree

mutual

/-- The first node of a tree that breaks a rule. -/
def firstViolation? (inFunction : Bool) : Tree → Option Violation
  | .node kind role span children =>
      match kind.fault? inFunction with
      | some fault => some ⟨fault, .node kind role span children⟩
      | none => firstViolationIn? (inFunction || kind.isFunction) children

/-- The first node of several trees that breaks a rule. -/
def firstViolationIn? (inFunction : Bool) : List Tree → Option Violation
  | [] => none
  | tree :: others =>
      match firstViolation? inFunction tree with
      | some violation => some violation
      | none => firstViolationIn? inFunction others

end

/-! ## Imports inside other statements -/

mutual

/-- The first import declaration of a tree that does not stand directly below
the root of the script; `parent` is what the tree stands below.  The parts of
an import declaration are not searched. -/
def firstNestedImport? (parent : Kind) : Tree → Option Tree
  | .node kind role span children =>
      if kind = .importStatement then
        if parent = .program then none else some (.node kind role span children)
      else
        firstNestedImportIn? kind children

/-- The first such import declaration of several trees. -/
def firstNestedImportIn? (parent : Kind) : List Tree → Option Tree
  | [] => none
  | tree :: others =>
      match firstNestedImport? parent tree with
      | some found => some found
      | none => firstNestedImportIn? parent others

end

/-- The import declarations directly below the root, in source order. -/
def imports (tree : Tree) : List Tree :=
  tree.children.filter fun child => child.kind = .importStatement

end Tree

end Respecify.JavaScript

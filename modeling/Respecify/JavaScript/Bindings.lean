import Respecify.JavaScript.Source

/-!
# Names bound at the top of a script

Imports, variables, functions and classes bind names at the top of a script,
exported declarations included.  No name may be bound twice there, except by
`var` both times.  The first binding that repeats an earlier one is refused.
-/

namespace Respecify.JavaScript

/-- A name bound at the top of a script. -/
structure Binding where
  name : Text
  /-- The name is bound by `var`. -/
  repeatable : Bool
  /-- Where the name stands. -/
  tree : Tree

/-- Two bindings of one name exclude each other, unless both are by `var`. -/
def Binding.clashes (earlier later : Binding) : Bool :=
  earlier.name == later.name && !(earlier.repeatable && later.repeatable)

namespace Tree

/-! ## Names in patterns -/

mutual

/-- The names that a pattern binds, in source order.  Of a part with a default
value only the target counts, and of a member of an object only the value. -/
def boundNames : Tree → List Tree
  | .node .identifier role span children => [.node .identifier role span children]
  | .node .shorthandPattern role span children => [.node .shorthandPattern role span children]
  | .node .assignmentPattern _ _ children => boundNamesOf .left children
  | .node .objectAssignmentPattern _ _ children => boundNamesOf .left children
  | .node .pairPattern _ _ children => boundNamesOf .value children
  | .node _ _ _ children => boundNamesIn children

/-- The names bound by the first of several trees that has a role. -/
def boundNamesOf (role : Role) : List Tree → List Tree
  | [] => []
  | tree :: others => if tree.role = role then boundNames tree else boundNamesOf role others

/-- The names bound by several trees. -/
def boundNamesIn : List Tree → List Tree
  | [] => []
  | tree :: others => boundNames tree ++ boundNamesIn others

end

/-! ## Names in declarations -/

/-- The names that a declaration binds: its own name, or those of its
variables. -/
def introducedNames (declaration : Tree) : List Tree :=
  match declaration.child? .name with
  | some name => [name]
  | none =>
      declaration.children.flatMap fun child =>
        if child.kind = .variableDeclarator then
          match child.child? .name with
          | some target => target.boundNames
          | none => []
        else []

/-- The name that an imported name is bound to. -/
def importedName? (specifier : Tree) : Option Tree :=
  if specifier.kind = .importSpecifier then
    specifier.child? .renamed <|> specifier.child? .name
  else none

/-- The names that an import declaration binds. -/
def importedNames (statement : Tree) : List Tree :=
  statement.children.flatMap fun clause =>
    if clause.kind = .importClause then
      clause.children.flatMap fun part =>
        match part.kind with
        | .identifier => [part]
        | .namespaceImport => part.children.filter fun child => child.kind = .identifier
        | .namedImports => part.children.filterMap importedName?
        | _ => []
    else []

/-- The declaration that a statement at the top of a script makes. -/
def declared? (statement : Tree) : Option Tree :=
  if statement.kind = .exportStatement then statement.child? .declaration else some statement

/-- The names that a statement at the top of a script binds, and whether `var`
binds them. -/
def statementNames (statement : Tree) : Bool × List Tree :=
  match statement.declared? with
  | none => (false, [])
  | some declaration =>
      match declaration.kind with
      | .variableDeclaration => (true, declaration.introducedNames)
      | .importStatement => (false, declaration.importedNames)
      | .lexicalDeclaration | .classDeclaration | .functionDeclaration | .generatorDeclaration =>
          (false, declaration.introducedNames)
      | _ => (false, [])

end Tree

/-! ## Repeated bindings -/

/-- The names bound at the top of a script, in source order. -/
def bindings (source : Source) (program : Tree) : List Binding :=
  program.children.flatMap fun statement =>
    let (repeatable, names) := statement.statementNames
    names.map fun tree => ⟨source.textOf tree.span, repeatable, tree⟩

/-- The first binding that clashes with one before it; `earlier` holds the
bindings that come before all of them. -/
def firstClashAfter? (earlier : List Binding) : List Binding → Option Binding
  | [] => none
  | binding :: others =>
      if earlier.any (·.clashes binding) then some binding
      else firstClashAfter? (binding :: earlier) others

/-- The first binding that clashes with one before it. -/
def firstClash? (bindings : List Binding) : Option Binding :=
  firstClashAfter? [] bindings

end Respecify.JavaScript

/-!
# Trees of a parsed script

A parsed script is a tree of nodes, each with a kind, the role it plays in its
parent and the stretch of source text it covers, measured in bytes of the
text's UTF-8 form.  Punctuation and comments leave no node.  Trees are what the
rules of module code are stated on.
-/

namespace Respecify.JavaScript

/-- What a node is. -/
inductive Kind where
  | program
  -- Imports and exports.
  | importStatement
  | importClause
  | namespaceImport
  | namedImports
  | importSpecifier
  | importAttribute
  | exportStatement
  | exportClause
  | exportSpecifier
  | namespaceExport
  -- Declarations.
  | functionDeclaration
  | generatorDeclaration
  | classDeclaration
  | lexicalDeclaration
  | variableDeclaration
  | variableDeclarator
  -- Statements.
  | expressionStatement
  | block
  | emptyStatement
  | ifStatement
  | elseClause
  | switchStatement
  | switchCase
  | switchDefault
  | forStatement
  | forInStatement
  | whileStatement
  | doStatement
  | tryStatement
  | catchClause
  | finallyClause
  | withStatement
  | breakStatement
  | continueStatement
  | debuggerStatement
  | returnStatement
  | throwStatement
  | labeledStatement
  -- Functions and classes.
  | functionExpression
  | generatorExpression
  | arrowFunction
  | methodDefinition
  | parameters
  | classExpression
  | classHeritage
  | classBody
  | fieldDefinition
  | staticBlock
  | decorator
  -- Names.
  | identifier
  | undefinedName
  | shorthandProperty
  | shorthandPattern
  | propertyName
  | privateName
  | computedName
  | label
  -- Patterns.
  | objectPattern
  | arrayPattern
  | assignmentPattern
  | objectAssignmentPattern
  | pairPattern
  | restPattern
  -- Literals.
  | string
  | number
  | regex
  | template
  | substitution
  | word
  | object
  | array
  | pair
  | spread
  -- Compound expressions.
  | parenthesized
  | member
  | subscript
  | call
  | arguments
  | new
  | metaProperty
  | importCallee
  | unary
  | update
  | binary
  | ternary
  | assignment
  | augmentedAssignment
  | await
  | yield
  -- Markup.
  | markupElement
  | markupAttribute
  | markupExpression
deriving DecidableEq, Repr

/-- Markup: elements, their attributes and embedded expressions. -/
def Kind.isMarkup : Kind → Bool
  | .markupElement | .markupAttribute | .markupExpression => true
  | _ => false

/-- The functions: what a `return` may stand in. -/
def Kind.isFunction : Kind → Bool
  | .functionDeclaration | .generatorDeclaration | .functionExpression | .generatorExpression
  | .arrowFunction | .methodDefinition => true
  | _ => false

/-- The part a node plays in its parent, where the parent gives it one. -/
inductive Role where
  | part
  | name
  | renamed
  | source
  | declaration
  | left
  | value
deriving DecidableEq, Repr

/-- A stretch of source text: the bytes from `start` up to `stop`. -/
structure Span where
  start : Nat
  stop : Nat
deriving DecidableEq, Repr

/-- A node with the nodes below it, in source order. -/
inductive Tree where
  | node (kind : Kind) (role : Role) (span : Span) (children : List Tree)
deriving Repr

namespace Tree

/-- What the root of the tree is. -/
def kind : Tree → Kind
  | .node kind _ _ _ => kind

/-- The part the tree plays in its parent. -/
def role : Tree → Role
  | .node _ role _ _ => role

/-- The stretch of source text the tree covers. -/
def span : Tree → Span
  | .node _ _ span _ => span

/-- The trees directly below the root. -/
def children : Tree → List Tree
  | .node _ _ _ children => children

/-- The same tree in another role. -/
def withRole (role : Role) : Tree → Tree
  | .node kind _ span children => .node kind role span children

/-- The same tree with a root of another kind. -/
def withKind (kind : Kind) : Tree → Tree
  | .node _ role span children => .node kind role span children

/-- The first child with the given role. -/
def child? (role : Role) (tree : Tree) : Option Tree :=
  tree.children.find? fun child => child.role = role

@[simp]
theorem kind_withRole (role : Role) (tree : Tree) : (tree.withRole role).kind = tree.kind := by
  cases tree
  rfl

@[simp]
theorem children_withRole (role : Role) (tree : Tree) :
    (tree.withRole role).children = tree.children := by
  cases tree
  rfl

@[simp]
theorem role_withRole (role : Role) (tree : Tree) : (tree.withRole role).role = role := by
  cases tree
  rfl

end Tree

end Respecify.JavaScript

import Respecify.JavaScript.Reader

/-!
# Expressions that may turn out to be patterns

Until the token after it is read, `[a, b]` may be a list of values or the
target of an assignment, and `(a, b)` may be a group or the parameters of a
function.  So an expression is read together with its form: what the same
text could stand for.  The form of a compound expression is computed from the
forms of its parts, and no text is read twice.
-/

namespace Respecify.JavaScript

/-- Where an expression stands. -/
structure Place where
  /-- The expression ends a statement whose semicolon may be left out. -/
  omissible : Bool
  /-- The word `in` is an operator here. -/
  membership : Bool

namespace Place

/-- Inside brackets: no statement ends here. -/
def inside : Place := ⟨false, true⟩

/-- At the end of a statement. -/
def ending : Place := ⟨true, true⟩

end Place

/-- What a text that was read as an expression can stand for. -/
inductive Form where
  /-- A name, which can also be bound, assigned and updated. -/
  | name
  /-- The name `undefined`, which can be assigned but not updated. -/
  | undefinedName
  /-- A member of an object, which can be assigned and updated. -/
  | reference
  /-- An expression in parentheses: it can be assigned and updated, but is no
  part of a pattern. -/
  | group
  /-- An object or a list, which may be a value, a pattern or both. -/
  | literal (value pattern : Bool)
  /-- An assignment; in a pattern it is a part with a default value, if its
  target is a pattern. -/
  | assignment (pattern : Bool)
  /-- Any other expression that a call with `?.` may follow directly. -/
  | primary
  /-- Any other expression. -/
  | compound
deriving DecidableEq, Repr

namespace Form

/-- The text is an expression. -/
def isExpression : Form → Bool
  | .literal value _ => value
  | _ => true

/-- The text can be the target of a plain assignment. -/
def isTarget : Form → Bool
  | .name | .undefinedName | .reference | .group => true
  | .literal _ pattern => pattern
  | _ => false

/-- The text can be the target of an assignment with an operator. -/
def isUpdatable : Form → Bool
  | .name | .reference | .group => true
  | _ => false

/-- The text is a pattern. -/
def isPattern : Form → Bool
  | .name | .undefinedName | .reference => true
  | .literal _ pattern => pattern
  | _ => false

/-- The text is a pattern, possibly with a default value. -/
def isPatternPart : Form → Bool
  | .assignment pattern => pattern
  | form => form.isPattern

/-- A call with `?.` may follow the text directly. -/
def isPrimary : Form → Bool
  | .assignment _ | .compound => false
  | _ => true

/-- A pattern is a part of a pattern. -/
theorem isPatternPart_of_isPattern {form : Form} (pattern : form.isPattern = true) :
    form.isPatternPart = true := by
  cases form <;> simp_all [isPattern, isPatternPart]

/-- A pattern can be assigned. -/
theorem isTarget_of_isPattern {form : Form} (pattern : form.isPattern = true) :
    form.isTarget = true := by
  cases form <;> simp_all [isPattern, isTarget]

end Form

/-- An expression together with its form. -/
structure Cover where
  tree : Tree
  form : Form

/-! ## Patterns -/

namespace Tree

mutual

/-- The tree of a pattern that was read as an expression. -/
def asPattern : Tree → Tree
  | .node .object role span children => .node .objectPattern role span (asPatterns children)
  | .node .array role span children => .node .arrayPattern role span (asPatterns children)
  | .node .pair role span children => .node .pairPattern role span (asPatterns children)
  | .node .spread role span children => .node .restPattern role span (asPatterns children)
  | .node .shorthandProperty role span children => .node .shorthandPattern role span children
  | .node .assignment role span (left :: others) =>
      .node .assignmentPattern role span (left.asPattern :: others)
  | .node .objectAssignmentPattern role span (left :: others) =>
      .node .objectAssignmentPattern role span (left.asPattern :: others)
  | tree => tree

/-- The trees of patterns that were read as expressions. -/
def asPatterns : List Tree → List Tree
  | [] => []
  | tree :: others => tree.asPattern :: asPatterns others

end

end Tree

/-! ## The parsers that call each other -/

/-- Parsers for the three kinds of phrases that may contain each other. -/
structure Grammar where
  statement : Parser Tree
  expression : Place → Parser Cover
  element : Parser Tree

namespace Grammar

/-- The grammar of no script. -/
def empty : Grammar where
  statement := failure
  expression _ := failure
  element := failure

variable (grammar : Grammar)

/-- Read an expression that is no mere pattern. -/
def value (place : Place) : Parser Tree := do
  let cover ← grammar.expression place
  unless cover.form.isExpression do failure
  return cover.tree

/-- Read one or more expressions with commas between them. -/
def values (bound : Nat) (place : Place) : Parser (List Tree) := do
  let first ← grammar.value place
  let more : Parser Bool := do
    if place.omissible && (← Parser.endsHere false) then return false
    Parser.symbol? ","
  let others ← Parser.many bound more (grammar.value place)
  return first :: others

/-- Read expressions in parentheses. -/
def group (bound : Nat) : Parser Tree := do
  let start ← Parser.start
  Parser.symbol "("
  let trees ← grammar.values bound .inside
  Parser.symbol ")"
  Parser.close .parenthesized start trees

end Grammar

/-! ## Lists of elements -/

/-- Elements between two brackets, together with what they can stand for. -/
structure Elements where
  trees : List Tree
  /-- Every element is an expression, possibly spread. -/
  values : Bool
  /-- Every element is part of a pattern. -/
  patterns : Bool
  /-- Some element is spread. -/
  spread : Bool
  /-- Some element is missing. -/
  hole : Bool
  /-- A comma follows the last element. -/
  trailing : Bool

namespace Elements

/-- No elements. -/
def none : Elements := ⟨[], true, true, false, false, false⟩

/-- The elements in parentheses can be the parameters of a function. -/
def areParameters (elements : Elements) : Bool :=
  elements.patterns && !elements.hole

/-- The elements in parentheses are a group of expressions. -/
def areGroup (elements : Elements) : Bool :=
  elements.values && !elements.hole && !elements.trailing && !elements.spread &&
    !elements.trees.isEmpty

/-- The elements in brackets are the one expression that computes a key. -/
def areKey (elements : Elements) : Bool :=
  elements.areGroup && elements.trees.length == 1

variable (grammar : Grammar)

/-- Read one element into those read before.  A spread part of a pattern has no
default value. -/
def readOne (before : Elements) : Parser Elements := do
  let start ← Parser.start
  if ← Parser.symbol? "..." then
    let cover ← grammar.expression .inside
    let tree ← Parser.close .spread start [cover.tree]
    return { before with
      trees := tree :: before.trees
      values := before.values && cover.form.isExpression
      patterns := before.patterns && cover.form.isPattern
      spread := true
      trailing := false }
  let cover ← grammar.expression .inside
  return { before with
    trees := cover.tree :: before.trees
    values := before.values && cover.form.isExpression
    patterns := before.patterns && cover.form.isPatternPart
    trailing := false }

/-- Read further elements up to the closing bracket; those read before are
listed last first.  `due` tells that an element may come next. -/
def readTail (closing : String) : Nat → Bool → Elements → Parser Elements
  | 0, _, _ => failure
  | bound + 1, due, before => do
      if ← Parser.symbol? closing then
        return { before with trees := before.trees.reverse }
      if due then
        if ← Parser.symbol? "," then
          readTail closing bound true { before with hole := true, trailing := true }
        else
          readTail closing bound false (← readOne grammar before)
      else
        Parser.symbol ","
        readTail closing bound true { before with trailing := true }

/-- Read elements in brackets. -/
def read (bound : Nat) (opening closing : String) : Parser Elements := do
  Parser.symbol opening
  readTail grammar closing bound true none

end Elements

/-- Read the arguments of a call. -/
def readArguments (grammar : Grammar) (bound : Nat) : Parser Tree := do
  let start ← Parser.start
  let elements ← Elements.read grammar bound "(" ")"
  unless elements.values do failure
  Parser.close .arguments start elements.trees

end Respecify.JavaScript

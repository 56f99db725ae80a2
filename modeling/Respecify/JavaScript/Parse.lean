import Respecify.JavaScript.Grammar.Statement

/-!
# Parsing a script

The parsers of statements, expressions and elements call each other, so they
are tied together here: a grammar of depth `n + 1` reads phrases whose parts
are read by the grammar of depth `n`.  Each level of nesting consumes at least
one character of the text, except for the step from a statement to its
expression, so twice the length of the text is depth enough.  The same number
bounds every repetition.
-/

namespace Respecify.JavaScript

/-- The grammar of scripts that nest to a given depth. -/
def Grammar.ofDepth : Nat → Grammar
  | 0 => .empty
  | depth + 1 =>
      let inner := Grammar.ofDepth depth
      { statement := inner.statementWith (depth + 1)
        expression := inner.expressionWith (depth + 1)
        element := inner.markupElement (depth + 1) }

/-- Read a whole script.  A line that starts with `#!` may open it. -/
def program (bound : Nat) : Parser Tree := do
  let text ← Parser.upcoming
  if "#!".toList.isPrefixOf text then
    Parser.moveTo (text.dropWhile (· != '\n'))
  let more : Parser Bool := do
    Parser.skipMarkupComments bound
    return !(← Parser.upcoming).isEmpty
  let statements ← Parser.many bound more (Grammar.ofDepth bound).statement
  unless (← Parser.upcoming).isEmpty do failure
  return .node .program .part ⟨0, ← Parser.here⟩ statements

/-- The tree of a script, or `none` where the text is no script. -/
def parse? (text : List Char) : Option Tree :=
  ((program (2 * text.length + 16)).run (Reader.ofText text)).map (·.1)

end Respecify.JavaScript

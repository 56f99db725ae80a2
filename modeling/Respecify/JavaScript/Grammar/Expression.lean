import Respecify.JavaScript.Grammar.Operand

/-!
# Expressions

Operands with operators between them.  No rule of module code depends on how
strongly an operator binds, so operators are read from left to right.
-/

namespace Respecify.JavaScript.Grammar

variable (grammar : Grammar) (bound : Nat)

/-- The operators between two operands that are written in punctuation, longer
ones first. -/
def binaryOperators : List String :=
  [">>>", "===", "!==", "<<", ">>", "<=", ">=", "==", "!=", "&&", "||", "??", "**", "<", ">", "+",
    "-", "*", "/", "%", "&", "^", "|"]

/-- The operator between two operands that comes next, if one does. -/
def nextOperator? (place : Place) : Parser (Option String) := do
  let text ← Parser.upcoming
  match binaryOperators.find? fun operator => operator.toList.isPrefixOf text with
  | some operator => return some operator
  | none =>
      match ← Parser.nextWord? with
      | some "in" => return if place.membership then some "in" else none
      | some "instanceof" => return some "instanceof"
      | _ => return none

/-- Read further operands with the operators before them. -/
def operators (place : Place) (start : Nat) : Nat → Cover → Parser Cover
  | 0, cover => return cover
  | limit + 1, cover => do
      if place.omissible && (← Parser.endsHere false) then
        return cover
      match ← nextOperator? place with
      | some operator =>
          unless cover.form.isExpression do failure
          Parser.symbol operator
          let right ← grammar.operand bound place (bound + 1)
          unless right.form.isExpression do failure
          let tree ← Parser.close .binary start [cover.tree, right.tree]
          operators place start limit ⟨tree, .compound⟩
      | none =>
          if ← Parser.nextIsQuestion then
            unless cover.form.isExpression do failure
            Parser.symbol "?"
            let consequence ← grammar.value .inside
            Parser.symbol ":"
            let alternative ← grammar.value place
            let tree ← Parser.close .ternary start [cover.tree, consequence, alternative]
            return ⟨tree, .compound⟩
          return cover

/-- Read an expression. -/
def expressionWith (place : Place) : Parser Cover := do
  let first ← grammar.operand bound place (bound + 1)
  let start := first.tree.span.start
  grammar.operators bound place start (bound + 1) first

end Respecify.JavaScript.Grammar

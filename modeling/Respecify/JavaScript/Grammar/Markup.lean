import Respecify.JavaScript.Grammar.Cover

/-!
# Markup

Elements in angle brackets with attributes, text and embedded expressions.
The grammar accepts them so that the rules of module code can refuse them at
the element and not somewhere inside it.
-/

namespace Respecify.JavaScript.Grammar

variable (grammar : Grammar) (bound : Nat)

/-- Read a name with or without hyphens and tell whether it has one.  Without
hyphens no reserved word is a name here. -/
def markupName : Parser Bool := do
  match dropHyphenName? (← Parser.upcoming) with
  | some rest =>
      Parser.moveTo rest
      return true
  | none =>
      let _ ← Parser.name
      return false

/-- Read the name of a tag: members of a name, or a name after a colon. -/
def tagName : Parser Tree := do
  let start ← Parser.start
  let hyphened ← markupName
  if ← Parser.symbol? ":" then
    let _ ← markupName
    Parser.close .identifier start []
  else
    unless hyphened do
      let _ ← Parser.many bound (Parser.symbol? ".") Parser.name
    Parser.close .identifier start []

/-- Read an embedded expression in braces; in an element it may be missing or
spread. -/
def markupExpression : Parser Tree := do
  let start ← Parser.start
  Parser.symbol "\x7b"
  let children ←
    if ← Parser.nextIs "\x7d" then pure []
    else if ← Parser.symbol? "..." then pure [← grammar.value .inside]
    else grammar.values bound .inside
  Parser.symbol "\x7d"
  Parser.close .markupExpression start children

/-- Read an attribute. -/
def markupAttribute : Parser Tree := do
  if ← Parser.nextIs "\x7b" then
    grammar.markupExpression bound
  else
    let start ← Parser.start
    let _ ← markupName
    if ← Parser.symbol? ":" then
      let _ ← markupName
    if ← Parser.symbol? "=" then
      let value ←
        if ← Parser.nextIs "\x7b" then grammar.markupExpression bound
        else if ← Parser.nextIs "<" then grammar.element
        else Parser.leaf .string dropAttributeString?
      Parser.close .markupAttribute start [value]
    else
      Parser.close .markupAttribute start []

/-- Read the content of an element up to and including its closing tag. -/
def content : Nat → Parser (List Tree)
  | 0 => failure
  | limit + 1 => do
      Parser.moveTo ((← get).rest.dropWhile fun c => !endsMarkupText c)
      if ← Parser.symbol? "</" then
        unless ← Parser.nextIs ">" do
          let _ ← tagName bound
        Parser.symbol ">"
        return []
      if ← Parser.nextIs "\x7b" then
        let first ← grammar.markupExpression bound
        return first :: (← content limit)
      if ← Parser.nextIs "<" then
        let first ← grammar.element
        return first :: (← content limit)
      Parser.lexeme dropCharacterReference?
      content limit

/-- Read an element. -/
def markupElement : Parser Tree := do
  let start ← Parser.start
  Parser.symbol "<"
  if ← Parser.symbol? ">" then
    let children ← grammar.content bound (bound + 1)
    Parser.close .markupElement start children
  else
    let tag ← tagName bound
    let more : Parser Bool := return !((← Parser.nextIs ">") || (← Parser.nextIs "/>"))
    let attributes ← Parser.many bound more (grammar.markupAttribute bound)
    if ← Parser.symbol? "/>" then
      Parser.close .markupElement start (tag :: attributes)
    else
      Parser.symbol ">"
      let children ← grammar.content bound (bound + 1)
      Parser.close .markupElement start (tag :: attributes ++ children)

end Respecify.JavaScript.Grammar

import Respecify.JavaScript.Grammar.Cover

/-!
# Blocks, functions and members

Blocks of statements, the parameters and bodies of functions, and the members
that objects and classes share: keys, the words that may stand before them,
and methods.
-/

namespace Respecify.JavaScript.Grammar

variable (grammar : Grammar) (bound : Nat)

/-- Read a block of statements in braces, its opening brace by `opening`. -/
def blockAfter (opening : Parser Unit) : Parser Tree := do
  let start ← Parser.start
  opening
  let statements ← Parser.many bound (return !(← Parser.nextIs "\x7d")) grammar.statement
  Parser.symbol "\x7d"
  Parser.close .block start statements

/-- Read a block of statements where no object can stand. -/
def block : Parser Tree :=
  grammar.blockAfter bound (Parser.symbol "\x7b")

/-- Read the parameters of a function. -/
def parameters : Parser Tree := do
  let start ← Parser.start
  let elements ← Elements.read grammar bound "(" ")"
  unless elements.areParameters do failure
  Parser.close .parameters start (Tree.asPatterns elements.trees)

/-- Read a function from the word `function` on.  A function may be nameless;
the kinds are those of a plain function and of a generator. -/
def function (plain generator : Kind) (start : Nat) : Parser Tree := do
  Parser.word "function"
  let starred ← Parser.symbol? "*"
  let names ←
    if ← Parser.nextIs "(" then pure [] else pure [(← Parser.name).withRole .name]
  let parameters ← grammar.parameters bound
  let body ← grammar.block bound
  Parser.close (if starred then generator else plain) start (names ++ [parameters, body])

/-! ## Members -/

/-- Read decorators: names of members or their calls, or expressions in
parentheses, each after an at sign. -/
def decorators : Parser (List Tree) :=
  Parser.many bound (Parser.nextIs "@") do
    let start ← Parser.start
    Parser.symbol "@"
    let children ←
      if ← Parser.nextIs "(" then
        pure [← grammar.group bound]
      else
        let first ← Parser.name
        let property : Parser Tree := return (← Parser.name).withKind .propertyName
        let others ← Parser.many bound (Parser.symbol? ".") property
        let arguments ←
          if ← Parser.nextIs "(" then pure [← readArguments grammar bound] else pure []
        pure (first :: others ++ arguments)
    Parser.close .decorator start children

/-- Read the key of a member that is not computed. -/
def plainKey : Parser Tree := do
  let text ← Parser.upcoming
  match text with
  | [] => failure
  | c :: _ =>
      if c == '\x22' || c == '\x27' then Parser.string
      else if c == '#' then Parser.leaf .privateName dropPrivateName?
      else if isDigit c || c == '.' then Parser.leaf .number dropNumber?
      else Parser.anyWord .propertyName

/-- Read the key of a member. -/
def key : Parser Tree := do
  if ← Parser.nextIs "[" then
    let start ← Parser.start
    Parser.symbol "["
    let value ← grammar.value .inside
    Parser.symbol "]"
    Parser.close .computedName start [value]
  else
    plainKey

/-- Read one of these words, unless it is itself the key of a member: then one
of the given characters follows, or the member ends. -/
def modifier? (words : List String) (afterKey : List Char) (ends : Parser Bool) :
    Parser Bool := do
  let before ← get
  match ← Parser.nextWord? with
  | none => return false
  | some word =>
      if words.contains word then
        Parser.lexeme dropName?
        let next ← Parser.upcoming
        if next.head?.all afterKey.contains || (← ends) then
          set before
          return false
        return true
      return false

/-- Read the words that may stand before the key of a method: `static`, then
`async`, then `get`, `set` or a star.  Tell whether one of the latter was
read, after which only a method may follow, and whether any was. -/
def modifiers (afterKey : List Char) (ends : Parser Bool) : Parser (Bool × Bool) := do
  let fixed ← modifier? ["static"] afterKey ends
  let deferred ← modifier? ["async"] afterKey ends
  let accessor ←
    if ← Parser.symbol? "*" then pure true else modifier? ["get", "set"] afterKey ends
  return (deferred || accessor, fixed || deferred || accessor)

/-- Read a method from its parameters on. -/
def method (start : Nat) (before : List Tree) : Parser Tree := do
  let parameters ← grammar.parameters bound
  let body ← grammar.block bound
  Parser.close .methodDefinition start (before ++ [parameters, body])

end Respecify.JavaScript.Grammar

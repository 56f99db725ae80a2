import Respecify.JavaScript.Grammar.Class
import Respecify.JavaScript.Grammar.Literal
import Respecify.JavaScript.Grammar.Markup

/-!
# Operands

The operands of an expression: literals, names, functions, groups, and what
may be attached to them before and behind.  Assignments and arrow functions
are operands too, because they may stand wherever an operand may and reach as
far to the right as the text allows.
-/

namespace Respecify.JavaScript.Grammar

variable (grammar : Grammar) (bound : Nat)

/-! ## Arrow functions -/

/-- Does the next token continue an expression, where a statement cannot
start with it? -/
def continuesExpression : Parser Bool := do
  match ← Parser.upcoming with
  | '.' :: rest => return !rest.head?.any isDigit
  | '!' :: rest => return rest.head? == some '='
  | c :: _ =>
      if ['?', ',', '=', '*', '%', '&', '|', '^', '>'].contains c then
        return true
      let word ← Parser.nextWord?
      return word == some "in" || word == some "instanceof"
  | [] => return false

/-- Can the text from a brace on be an object, where a block could stand as
well?  Its first member must be told from a statement: no keyword starts it, it
is no shorthand, and no line break follows a word before its key. -/
def startsObject : Parser Bool := do
  let before ← get
  Parser.brace
  let verdict ←
    match ← Parser.nextWord? with
    | none => pure true
    | some word =>
        if !(word == "export" || (← Parser.nextIsName)) ||
            ["await", "yield", "undefined"].contains word then
          pure false
        else
          Parser.lexeme dropName?
          let ended ← Parser.endsHere false
          let text ← Parser.upcoming
          pure (!ended && !text.head?.all [',', '\x7d', '='].contains)
  set before
  return verdict

/-- Does the sign of a plain assignment come next? -/
def nextIsAssignment : Parser Bool := do
  match ← Parser.upcoming with
  | '=' :: rest => return rest.head? != some '=' && rest.head? != some '>'
  | _ => return false

/-- Read an expression that starts with an object, where a block could stand as
well. -/
def objectValue (place : Place) : Parser Tree := do
  unless ← startsObject do failure
  grammar.value place

/-- Read the body of an arrow function: a block where the text allows one,
otherwise an expression. -/
def arrowBody (place : Place) : Parser (Tree × Bool) := do
  if ← Parser.nextIs "\x7b" then
    let before ← get
    match ← (some <$> grammar.blockAfter bound Parser.brace <|> pure none) with
    | some body =>
        if ← nextIsAssignment then
          let after ← get
          set before
          (do return (← grammar.objectValue place, false)) <|> (do set after; return (body, true))
        else
          return (body, true)
    | none =>
        set before
        return (← grammar.objectValue place, false)
  else
    return (← grammar.value place, false)

/-- Read an arrow function from its arrow on. -/
def arrow (place : Place) (start : Nat) (parameters : List Tree) : Parser Cover := do
  Parser.symbol "=>"
  let (body, braced) ← grammar.arrowBody bound place
  let tree ← Parser.close .arrowFunction start (parameters ++ [body])
  return ⟨tree, if braced then .primary else .compound⟩

/-! ## Primary expressions -/

/-- Read what starts with a parenthesis: a group of expressions, or the
parameters of an arrow function. -/
def groupOrArrow (place : Place) : Parser Cover := do
  let start ← Parser.start
  let elements ← Elements.read grammar bound "(" ")"
  if ← Parser.nextIs "=>" then
    unless elements.areParameters do failure
    let parameters ← Parser.close .parameters start (Tree.asPatterns elements.trees)
    grammar.arrow bound place start [parameters]
  else
    unless elements.areGroup do failure
    return ⟨← Parser.close .parenthesized start elements.trees, .group⟩

/-- Read a name, or an arrow function with that one parameter. -/
def nameOrArrow (place : Place) : Parser Cover := do
  let start ← Parser.start
  let name ← if ← Parser.nextIsWord "export" then Parser.anyWord .identifier else Parser.name
  if ← Parser.nextIs "=>" then
    grammar.arrow bound place start [name]
  else
    return ⟨name, .name⟩

/-- Read what starts with the word `async`: a function, an arrow function, a
call or just the name. -/
def asyncOperand (place : Place) : Parser Cover := do
  let before ← get
  let start ← Parser.start
  let name ← Parser.name
  if place.omissible && (← Parser.endsHere false) then
    return ⟨name, .name⟩
  if ← Parser.nextIsWord "function" then
    let tree ← grammar.function bound .functionExpression .generatorExpression start
    return ⟨tree, .primary⟩
  if ← Parser.nextIs "(" then
    let argumentsStart ← Parser.start
    let elements ← Elements.read grammar bound "(" ")"
    if ← Parser.nextIs "=>" then
      unless elements.areParameters do failure
      let parameters ←
        Parser.close .parameters argumentsStart (Tree.asPatterns elements.trees)
      grammar.arrow bound place start [parameters]
    else
      unless elements.values do failure
      let arguments ← Parser.close .arguments argumentsStart elements.trees
      return ⟨← Parser.close .call start [name, arguments], .primary⟩
  else if (← Parser.nextIsName) || (← Parser.nextIsWord "export") then
    let parameter ← Parser.anyWord .identifier
    grammar.arrow bound place start [parameter]
  else
    set before
    grammar.nameOrArrow bound place

/-- Read what starts with the word `import` inside an expression. -/
def importOperand : Parser Cover := do
  let start ← Parser.start
  Parser.word "import"
  let callee ← Parser.close .importCallee start []
  if ← Parser.symbol? "." then
    Parser.word "meta"
    return ⟨← Parser.close .metaProperty start [], .primary⟩
  if ← Parser.symbol? "?." then
    let property ←
      if ← Parser.nextIs "#" then Parser.leaf .privateName dropPrivateName?
      else Parser.anyWord .propertyName
    return ⟨← Parser.close .member start [callee, property], .reference⟩
  let arguments ←
    if ← Parser.nextIs "\x60" then grammar.template bound else readArguments grammar bound
  return ⟨← Parser.close .call start [callee, arguments], .primary⟩

/-- Read a primary expression that starts with a word. -/
def wordOperand (place : Place) : Parser Cover := do
  let start ← Parser.start
  let some word ← Parser.nextWord? | failure
  match word with
  | "function" =>
      let tree ← grammar.function bound .functionExpression .generatorExpression start
      return ⟨tree, .primary⟩
  | "class" => return ⟨← grammar.classFrom bound .classExpression start [], .primary⟩
  | "this" | "super" | "true" | "false" | "null" =>
      return ⟨← Parser.anyWord .word, .primary⟩
  | "undefined" => return ⟨← Parser.anyWord .undefinedName, .undefinedName⟩
  | "import" => grammar.importOperand bound
  | "async" => grammar.asyncOperand bound place
  | "await" | "yield" => failure
  | _ => grammar.nameOrArrow bound place

/-- Read a primary expression. -/
def primary (place : Place) : Parser Cover := do
  match ← Parser.upcoming with
  | [] => failure
  | c :: _ =>
      if c == '(' then grammar.groupOrArrow bound place
      else if c == '[' then return (← grammar.list bound).2
      else if c == '\x7b' then grammar.object bound
      else if c == '\x60' then return ⟨← grammar.template bound, .primary⟩
      else if c == '\x22' || c == '\x27' then return ⟨← Parser.string, .primary⟩
      else if c == '/' then return ⟨← Parser.leaf .regex dropRegex?, .primary⟩
      else if c == '@' then
        let start ← Parser.start
        let decorators ← grammar.decorators bound
        return ⟨← grammar.classFrom bound .classExpression start decorators, .primary⟩
      else if isDigit c || c == '.' then return ⟨← Parser.leaf .number dropNumber?, .primary⟩
      else grammar.wordOperand bound place

/-! ## Attachments -/

/-- Read the property after a point. -/
def property : Parser Tree := do
  if ← Parser.nextIs "#" then Parser.leaf .privateName dropPrivateName?
  else Parser.anyWord .propertyName

/-- Read a subscript in brackets behind an operand. -/
def subscript (start : Nat) (before : Tree) : Parser Tree := do
  Parser.symbol "["
  let index ← grammar.values bound .inside
  Parser.symbol "]"
  Parser.close .subscript start (before :: index)

/-- Read everything attached behind an operand: members, subscripts, calls,
templates and updates.  After the word `new` the first call belongs to it, and
the members before that call are no targets of assignments. -/
def attachments (place : Place) (start : Nat) : Nat → Bool → Cover → Parser Cover
  | 0, _, cover => return cover
  | limit + 1, constructing, cover => do
      if place.omissible && (← Parser.endsHere false) then
        return cover
      let tree := cover.tree
      let usable : Parser Unit := unless cover.form.isExpression do failure
      let referenced : Form := if constructing then .primary else .reference
      let called : Form := if constructing then .compound else .primary
      match ← Parser.upcoming with
      | '.' :: _ =>
          usable
          Parser.symbol "."
          let tree ← Parser.close .member start [tree, ← property]
          attachments place start limit constructing ⟨tree, referenced⟩
      | '(' :: _ =>
          usable
          let arguments ← readArguments grammar bound
          let tree ← Parser.close .call start [tree, arguments]
          attachments place start limit false ⟨tree, called⟩
      | '[' :: _ =>
          usable
          let tree ← grammar.subscript bound start tree
          attachments place start limit constructing ⟨tree, referenced⟩
      | '\x60' :: _ =>
          usable
          let tree ← Parser.close .call start [tree, ← grammar.template bound]
          attachments place start limit constructing ⟨tree, .primary⟩
      | '+' :: '+' :: _ =>
          usable
          Parser.symbol "++"
          attachments place start limit false ⟨← Parser.close .update start [tree], .compound⟩
      | '-' :: '-' :: _ =>
          usable
          Parser.symbol "--"
          attachments place start limit false ⟨← Parser.close .update start [tree], .compound⟩
      | '?' :: '.' :: rest =>
          if rest.head?.any isDigit then
            return cover
          usable
          Parser.symbol "?."
          if ← Parser.nextIs "(" then
            unless cover.form.isPrimary do failure
            let arguments ← readArguments grammar bound
            let tree ← Parser.close .call start [tree, arguments]
            attachments place start limit constructing ⟨tree, .primary⟩
          else if ← Parser.nextIs "[" then
            let tree ← grammar.subscript bound start tree
            attachments place start limit constructing ⟨tree, referenced⟩
          else
            let tree ← Parser.close .member start [tree, ← property]
            attachments place start limit constructing ⟨tree, referenced⟩
      | _ =>
          return if constructing then ⟨tree, .compound⟩ else cover

/-- The operators that update a target. -/
def updateOperators : List String :=
  [">>>=", "<<=", ">>=", "**=", "&&=", "||=", "??=", "+=", "-=", "*=", "/=", "%=", "^=", "&=",
    "|="]

/-- The update operator a text starts with. -/
def updateOperator? (text : List Char) : Option String :=
  updateOperators.find? fun operator => operator.toList.isPrefixOf text

/-- Read an assignment to an operand, if one comes next. -/
def assignmentTo (place : Place) (start : Nat) (target : Cover) : Parser Cover := do
  if place.omissible && (← Parser.endsHere false) then
    return target
  let text ← Parser.upcoming
  match text with
  | '=' :: rest =>
      if rest.head? == some '=' || rest.head? == some '>' || !target.form.isTarget then
        return target
      Parser.symbol "="
      let value ← grammar.value place
      let left := if target.form == .group then target.tree else target.tree.asPattern
      let tree ← Parser.close .assignment start [left.withRole .left, value]
      return ⟨tree, .assignment target.form.isPattern⟩
  | _ =>
      match updateOperator? text with
      | none => return target
      | some operator =>
          unless target.form.isUpdatable do failure
          Parser.symbol operator
          let value ← grammar.value place
          let tree ← Parser.close .augmentedAssignment start [target.tree, value]
          return ⟨tree, .compound⟩

/-- Read an operand after one or more words `new`, or the meta property
`new.target`. -/
def construction (place : Place) : Nat → Parser (Cover × Bool)
  | 0 => failure
  | limit + 1 => do
      let start ← Parser.start
      Parser.word "new"
      if (← Parser.nextIs ".") && (dropNumber? (← Parser.upcoming)).isNone then
        Parser.symbol "."
        Parser.word "target"
        return (⟨← Parser.close .metaProperty start [], .primary⟩, false)
      let (inner, _) ←
        if ← Parser.nextIsWord "new" then construction place limit
        else pure (← grammar.primary bound place, false)
      unless inner.form.isExpression do failure
      return (⟨← Parser.close .new start [inner.tree], .primary⟩, true)

/-- The words that stand before an operand as operators. -/
def prefixWords : List String :=
  ["typeof", "void", "delete", "await"]

/-- Can the next token start an operand? -/
def startsOperand : Parser Bool := do
  match ← Parser.upcoming with
  | [] => return false
  | c :: rest =>
      if c == '.' then
        return rest.head?.any isDigit
      if ['(', '[', '\x7b', '\x60', '\x22', '\x27', '/', '<', '#', '@', '+', '-', '!', '~'].contains c ||
          isDigit c then
        return true
      match ← Parser.nextWord? with
      | none => return false
      | some word =>
          return !Parser.reservedWords.contains word ||
            ["function", "class", "this", "super", "true", "false", "null", "import", "new",
              "export", "typeof", "void", "delete"].contains word

/-- Read what follows the word `yield`. -/
def yieldOperand (place : Place) (start : Nat) : Parser Cover := do
  Parser.word "yield"
  if place.omissible && (← Parser.endsHere false) then
    return ⟨← Parser.close .yield start [], .compound⟩
  let text ← Parser.upcoming
  let delegates := text.head? == some '*' && (text.drop 1).head? != some '*'
  if delegates then
    Parser.symbol "*"
    let value ← grammar.value place
    return ⟨← Parser.close .yield start [value], .compound⟩
  if ← startsOperand then
    let value ← grammar.value place
    return ⟨← Parser.close .yield start [value], .compound⟩
  return ⟨← Parser.close .yield start [], .compound⟩

/-- Read an operand with everything attached to it, after so many operators
before it at most. -/
def operand (place : Place) : Nat → Parser Cover
  | 0 => failure
  | limit + 1 => do
      Parser.skipMarkupComments bound
      let start ← Parser.start
      let apply (kind : Kind) (operator : Parser Unit) : Parser Cover := do
        operator
        let inner ← operand place limit
        unless inner.form.isExpression do failure
        return ⟨← Parser.close kind start [inner.tree], .compound⟩
      match ← Parser.upcoming with
      | '+' :: '+' :: _ => apply .update (Parser.symbol "++")
      | '-' :: '-' :: _ => apply .update (Parser.symbol "--")
      | '+' :: _ => apply .unary (Parser.symbol "+")
      | '-' :: _ => apply .unary (Parser.symbol "-")
      | '!' :: _ => apply .unary (Parser.symbol "!")
      | '~' :: _ => apply .unary (Parser.symbol "~")
      | '<' :: _ =>
          let element ← grammar.element
          grammar.attachments bound place start bound false ⟨element, .compound⟩
      | '#' :: _ =>
          let name ← Parser.leaf .privateName dropPrivateName?
          unless place.membership && (← Parser.nextIsWord "in") do failure
          return ⟨name, .compound⟩
      | _ =>
          match ← Parser.nextWord? with
          | some "new" =>
              let (callee, constructing) ← grammar.construction bound place (bound + 1)
              let cover ← grammar.attachments bound place start bound constructing callee
              grammar.assignmentTo place start cover
          | some "yield" =>
              let cover ← grammar.yieldOperand place start
              grammar.attachments bound place start bound false cover
          | some word =>
              if prefixWords.contains word then
                apply (if word == "await" then .await else .unary) (Parser.word word)
              else
                attached start
          | none => attached start
where
  /-- Read an operand with what is attached behind it. -/
  attached (start : Nat) : Parser Cover := do
    let first ← grammar.primary bound place
    let cover ← grammar.attachments bound place start bound false first
    grammar.assignmentTo place start cover

end Respecify.JavaScript.Grammar

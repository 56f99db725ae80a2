import Respecify.JavaScript.Grammar.Expression
import Respecify.JavaScript.Grammar.Module

/-!
# Statements

A statement that starts with a brace may be a block or an expression that
starts with an object, and one that starts with `function` or `class` a
declaration or an expression.  The block and the declaration come first; the
expression is what the text stands for if they fail, or if a token follows
them that only continues an expression.
-/

namespace Respecify.JavaScript.Grammar

variable (grammar : Grammar) (bound : Nat)

/-! ## Expressions as statements -/

/-- Read an expression that is a statement. -/
def expressionStatement : Parser Tree := do
  let start ← Parser.start
  let trees ← grammar.values bound .ending
  Parser.semicolon false
  Parser.close .expressionStatement start trees

/-- Read a statement that starts with a brace. -/
def bracedStatement : Parser Tree := do
  let before ← get
  match ← (some <$> grammar.blockAfter bound Parser.brace <|> pure none) with
  | some tree =>
      if ← continuesExpression then
        let after ← get
        set before
        (do unless ← startsObject do failure
            grammar.expressionStatement bound) <|> (do set after; return tree)
      else
        return tree
  | none =>
      set before
      unless ← startsObject do failure
      grammar.expressionStatement bound

/-- Read a declaration that can also be the start of an expression. -/
def declarationStatement (declaration : Parser Tree) : Parser Tree := do
  let before ← get
  match ← (some <$> declaration <|> pure none) with
  | some tree =>
      if ← continuesExpression then
        let after ← get
        set before
        grammar.expressionStatement bound <|> (do set after; return tree)
      else
        return tree
  | none =>
      set before
      grammar.expressionStatement bound

/-! ## Control flow -/

/-- Read a conditional statement. -/
def ifStatement : Parser Tree := do
  let start ← Parser.start
  Parser.word "if"
  let condition ← grammar.group bound
  let consequence ← grammar.statement
  let elseStart ← Parser.start
  let alternative ←
    if ← Parser.word? "else" then
      pure [← Parser.close .elseClause elseStart [← grammar.statement]]
    else
      pure []
  Parser.close .ifStatement start (condition :: consequence :: alternative)

/-- Read a case of a switch. -/
def switchCase : Parser Tree := do
  let start ← Parser.start
  let (kind, values) ←
    if ← Parser.word? "default" then
      pure (Kind.switchDefault, [])
    else
      Parser.word "case"
      pure (Kind.switchCase, ← grammar.values bound .inside)
  Parser.symbol ":"
  let more : Parser Bool := do
    let word ← Parser.nextWord?
    return !(← Parser.nextIs "\x7d") && word != some "case" && word != some "default"
  let statements ← Parser.many bound more grammar.statement
  Parser.close kind start (values ++ statements)

/-- Read a switch. -/
def switchStatement : Parser Tree := do
  let start ← Parser.start
  Parser.word "switch"
  let subject ← grammar.group bound
  Parser.symbol "\x7b"
  let cases ← Parser.many bound (return !(← Parser.nextIs "\x7d")) (grammar.switchCase bound)
  Parser.symbol "\x7d"
  Parser.close .switchStatement start (subject :: cases)

/-- Read a `while` loop or a `with` statement. -/
def guardedStatement (word : String) (kind : Kind) : Parser Tree := do
  let start ← Parser.start
  Parser.word word
  let subject ← grammar.group bound
  let body ← grammar.statement
  Parser.close kind start [subject, body]

/-- Read the body of a `do` loop, with the word after it.  Only an expression
can be followed by a semicolon there, so a brace may have to start an object. -/
def doBody : Parser Tree := do
  let before ← get
  (do let body ← grammar.statement
      Parser.word "while"
      return body) <|>
    (do set before
        if ← Parser.nextIs "\x7b" then
          unless ← startsObject do failure
        let body ← grammar.expressionStatement bound
        Parser.word "while"
        return body)

/-- Read a `do` loop. -/
def doStatement : Parser Tree := do
  let start ← Parser.start
  Parser.word "do"
  let body ← grammar.doBody bound
  let condition ← grammar.group bound
  unless ← Parser.endsHere true do
    let _ ← Parser.symbol? ";"
  Parser.close .doStatement start [body, condition]

/-- Read a `try` statement; both its handlers may be missing. -/
def tryStatement : Parser Tree := do
  let start ← Parser.start
  Parser.word "try"
  let body ← grammar.block bound
  let handlerStart ← Parser.start
  let handler ←
    if ← Parser.word? "catch" then
      let parameter ←
        if ← Parser.symbol? "(" then
          let binding ← grammar.binding bound
          Parser.symbol ")"
          pure [binding]
        else
          pure []
      let block ← grammar.block bound
      pure [← Parser.close .catchClause handlerStart (parameter ++ [block])]
    else
      pure []
  let finalStart ← Parser.start
  let finalizer ←
    if ← Parser.word? "finally" then
      let block ← grammar.block bound
      pure [← Parser.close .finallyClause finalStart [block]]
    else
      pure []
  Parser.close .tryStatement start (body :: handler ++ finalizer)

/-- Read a `break` or a `continue`, with its label if one stands on the same
line. -/
def jumpStatement (word : String) (kind : Kind) : Parser Tree := do
  let start ← Parser.start
  Parser.word word
  let target ←
    if !(← Parser.endsHere true) && (← Parser.nextIsName) then
      pure [← Parser.anyWord .label]
    else
      pure []
  Parser.semicolon true
  Parser.close kind start target

/-- Read a `debugger` statement. -/
def debuggerStatement : Parser Tree := do
  let start ← Parser.start
  Parser.word "debugger"
  Parser.semicolon true
  Parser.close .debuggerStatement start []

/-- Read a `return`, with its value if one starts on the same line. -/
def returnStatement : Parser Tree := do
  let start ← Parser.start
  Parser.word "return"
  if (← Parser.endsHere true) || (← Parser.nextIs ";") then
    Parser.semicolon true
    Parser.close .returnStatement start []
  else
    let trees ← grammar.values bound .ending
    Parser.semicolon false
    Parser.close .returnStatement start trees

/-- Read a `throw`. -/
def throwStatement : Parser Tree := do
  let start ← Parser.start
  Parser.word "throw"
  let trees ← grammar.values bound .ending
  Parser.semicolon false
  Parser.close .throwStatement start trees

/-! ## Loops over elements -/

/-- Read what follows the target of a loop over keys or elements: its object,
the closing parenthesis and the body. -/
def loopOver (start : Nat) (target : List Tree) : Parser Tree := do
  if ← Parser.nextIsWord "in" then Parser.word "in" else Parser.word "of"
  let values ← grammar.values bound .inside
  Parser.symbol ")"
  let body ← grammar.statement
  Parser.close .forInStatement start (target ++ values ++ [body])

/-- Read a loop over keys or elements that declares its variable. -/
def loopWithDeclaration (start : Nat) : Parser Tree := do
  let some word ← Parser.nextWord? | failure
  unless ["var", "let", "const"].contains word do failure
  Parser.word word
  if ← Parser.nextIsWord "of" then failure
  let target ← grammar.binding bound
  if word == "var" then
    if ← Parser.endsHere true then failure
    let initial ←
      if ← Parser.symbol? "=" then
        let value ← grammar.value ⟨true, false⟩
        if ← Parser.endsHere false then failure
        pure [value]
      else
        pure []
    grammar.loopOver bound start (target :: initial)
  else
    grammar.loopOver bound start [target]

/-- Read a loop over keys or elements that assigns an existing target. -/
def loopWithTarget (start : Nat) : Parser Tree := do
  let cover ← grammar.expression ⟨false, false⟩
  unless cover.form.isTarget do failure
  grammar.loopOver bound start [cover.tree.asPattern]

/-- Read the part of a loop's head up to a semicolon; it may be empty. -/
def headPart : Parser (List Tree) := do
  if ← Parser.symbol? ";" then
    return []
  let trees ← grammar.values bound .inside
  Parser.symbol ";"
  return trees

/-- Read a loop with an initial step, a condition and a step. -/
def loopWithSteps (start : Nat) : Parser Tree := do
  let word ← Parser.nextWord?
  let initial ←
    if word == some "var" then pure [← grammar.variableList bound "var"]
    else if word == some "const" then pure [← grammar.variableList bound "const"]
    else if ← nextDeclaresLet false then pure [← grammar.variableList bound "let"]
    else grammar.headPart bound
  let condition ← grammar.headPart bound
  let step ← if ← Parser.nextIs ")" then pure [] else grammar.values bound .inside
  Parser.symbol ")"
  let body ← grammar.statement
  Parser.close .forStatement start (initial ++ condition ++ step ++ [body])

/-- Read a `for` loop. -/
def forStatement : Parser Tree := do
  let start ← Parser.start
  Parser.word "for"
  let awaiting ← Parser.word? "await"
  Parser.symbol "("
  grammar.loopWithDeclaration bound start <|> grammar.loopWithTarget bound start <|>
    (if awaiting then failure else grammar.loopWithSteps bound start)

/-! ## All statements -/

/-- Is the next token a label, that is, a name with a colon behind it? -/
def nextIsLabel : Parser Bool := do
  let before ← get
  if (← Parser.nextIsName) || (← Parser.nextIsWord "export") then
    let word ← Parser.nextWord?
    Parser.lexeme dropName?
    let found ← Parser.nextIs ":"
    set before
    return found && !word.any ["await", "yield", "undefined"].contains
  return false

/-- Read a statement with a label. -/
def labeledStatement : Parser Tree := do
  let start ← Parser.start
  let label ← Parser.anyWord .label
  Parser.symbol ":"
  let body ← grammar.statement
  Parser.close .labeledStatement start [label, body]

/-- Does the word `import` come next and start an expression? -/
def nextIsImportExpression : Parser Bool := do
  let before ← get
  Parser.word "import"
  let text ← Parser.upcoming
  set before
  match text with
  | '(' :: _ | '.' :: _ | '\x60' :: _ | '?' :: '.' :: _ => return true
  | _ => return false

/-- Does the word `export` come next and start an export?  It is a plain name
where a line break or an operator follows. -/
def nextIsExport : Parser Bool := do
  let before ← get
  Parser.word "export"
  let ended ← Parser.endsHere false
  let text ← Parser.upcoming
  let word ← Parser.nextWord?
  set before
  return !ended &&
    match text with
    | '\x7b' :: _ | '@' :: _ => true
    | '*' :: rest => rest.head? != some '*' && rest.head? != some '='
    | _ =>
        word.any ["default", "var", "let", "const", "function", "class", "async"].contains

/-- Read a statement with decorators: a class or an exported class. -/
def decoratedStatement : Parser Tree := do
  let before ← get
  let _ ← grammar.decorators bound
  let exported ← Parser.nextIsWord "export"
  set before
  if exported then grammar.exportStatement bound
  else grammar.declarationStatement bound (grammar.classDeclaration bound)

/-- Read a statement that starts with a word. -/
def wordStatement (word : String) : Parser Tree := do
  match word with
  | "var" | "const" => grammar.variableList bound word
  | "let" =>
      if ← nextDeclaresLet true then grammar.variableList bound "let"
      else grammar.expressionStatement bound
  | "function" => grammar.declarationStatement bound (grammar.functionDeclaration bound)
  | "async" =>
      if ← nextIsAsyncFunction true then
        grammar.declarationStatement bound (grammar.functionDeclaration bound)
      else
        grammar.expressionStatement bound
  | "class" => grammar.declarationStatement bound (grammar.classDeclaration bound)
  | "import" =>
      if ← nextIsImportExpression then grammar.expressionStatement bound
      else grammar.importStatement bound
  | "export" =>
      if ← nextIsExport then grammar.exportStatement bound
      else grammar.expressionStatement bound
  | "if" => grammar.ifStatement bound
  | "switch" => grammar.switchStatement bound
  | "for" => grammar.forStatement bound
  | "while" => grammar.guardedStatement bound "while" .whileStatement
  | "with" => grammar.guardedStatement bound "with" .withStatement
  | "do" => grammar.doStatement bound
  | "try" => grammar.tryStatement bound
  | "break" => jumpStatement "break" .breakStatement
  | "continue" => jumpStatement "continue" .continueStatement
  | "debugger" => debuggerStatement
  | "return" => grammar.returnStatement bound
  | "throw" => grammar.throwStatement bound
  | _ => grammar.expressionStatement bound

/-- Read a statement. -/
def statementWith : Parser Tree := do
  Parser.skipMarkupComments bound
  match ← Parser.upcoming with
  | [] => failure
  | c :: _ =>
      if c == '\x7b' then grammar.bracedStatement bound
      else if c == ';' then
        let start ← Parser.start
        Parser.symbol ";"
        Parser.close .emptyStatement start []
      else if c == '@' then grammar.decoratedStatement bound
      else if ← nextIsLabel then grammar.labeledStatement
      else
        match ← Parser.nextWord? with
        | some word => grammar.wordStatement bound word
        | none => grammar.expressionStatement bound

end Respecify.JavaScript.Grammar

import Respecify.JavaScript.Lexeme
import Respecify.JavaScript.Tree

/-!
# Reading tokens

A reader stands in a text right after the last token it read, and knows the
byte offset of that place.  A parser is a step of a reader that may fail; a
failed step leaves no trace, so alternatives are tried from the same place.
The reader stays before the gap that follows a token, because the gap decides
whether a statement may end there.
-/

namespace Respecify.JavaScript

/-- A place in a text. -/
structure Reader where
  /-- The text that is left. -/
  rest : List Char
  /-- The number of characters that are left. -/
  length : Nat
  /-- The byte offset of the place. -/
  offset : Nat
  /-- The place is right behind a brace that may open an object.  A member of
  an object may have any name, so more words can be names here. -/
  afterBrace : Bool := false

/-- The number of bytes of a text's UTF-8 form. -/
def byteLength : List Char → Nat
  | [] => 0
  | c :: rest => c.utf8Size + byteLength rest

namespace Reader

/-- A reader before the first character of a text. -/
def ofText (text : List Char) : Reader where
  rest := text
  length := text.length
  offset := 0

/-- The same reader further on, where `rest` is left of the text. -/
def moveTo (reader : Reader) (rest : List Char) : Reader :=
  let length := rest.length
  { rest, length
    offset := reader.offset + byteLength (reader.rest.take (reader.length - length)) }

/-- The text from the next token on. -/
def upcoming (reader : Reader) : List Char :=
  skipGap reader.length reader.rest

end Reader

/-- A step of a reader, which may fail. -/
abbrev Parser := StateT Reader Option

namespace Parser

/-- The text from the next token on. -/
def upcoming : Parser (List Char) := do
  return (← get).upcoming

/-- Go on to where `rest` is left of the text. -/
def moveTo (rest : List Char) : Parser Unit :=
  modify fun reader => reader.moveTo rest

/-- The offset right after the last token. -/
def here : Parser Nat := do
  return (← get).offset

/-- The offset of the next token. -/
def start : Parser Nat := do
  let reader ← get
  return (reader.moveTo reader.upcoming).offset

/-- Read a token that `drop` knows to drop. -/
def lexeme (drop : List Char → Option (List Char)) : Parser Unit := do
  match drop (← upcoming) with
  | some rest => moveTo rest
  | none => failure

/-- Does the next token start with these characters? -/
def nextIs (symbol : String) : Parser Bool := do
  return symbol.toList.isPrefixOf (← upcoming)

/-- Does the question mark of a conditional expression come next? -/
def nextIsQuestion : Parser Bool := do
  let reader ← get
  return startsQuestion reader.length reader.rest

/-- Read these characters if the next token starts with them, and tell whether
it does. -/
def symbol? (symbol : String) : Parser Bool := do
  let text ← upcoming
  if symbol.toList.isPrefixOf text then
    moveTo (text.drop symbol.length)
    return true
  return false

/-- Read these characters. -/
def symbol (symbol : String) : Parser Unit := do
  unless ← symbol? symbol do failure

/-- Read a brace that may open an object as well as a block. -/
def brace : Parser Unit := do
  symbol "\x7b"
  modify fun reader => { reader with afterBrace := true }

/-! ## Words -/

/-- The name that comes next, if one does. -/
def nextWord? : Parser (Option String) := do
  return (name? (← upcoming)).map String.ofList

/-- Is the next token this word? -/
def nextIsWord (word : String) : Parser Bool := do
  return (← nextWord?) == some word

/-- Read this word if it comes next, and tell whether it did. -/
def word? (word : String) : Parser Bool := do
  if ← nextIsWord word then
    lexeme dropName?
    return true
  return false

/-- Read this word. -/
def word (word : String) : Parser Unit := do
  unless ← word? word do failure

/-- The words that can never be a name. -/
def reservedWords : List String :=
  ["break", "case", "catch", "class", "const", "continue", "debugger", "default", "delete", "do",
    "else", "export", "extends", "false", "finally", "for", "function", "if", "import", "in",
    "instanceof", "new", "null", "return", "super", "switch", "this", "throw", "true", "try",
    "typeof", "var", "void", "while", "with"]

/-- The reserved words with which neither a statement nor an expression
starts. -/
def innerWords : List String :=
  ["case", "catch", "default", "else", "extends", "finally", "in", "instanceof"]

/-- Is a name that can be bound next? -/
def nextIsName : Parser Bool := do
  let afterBrace := (← get).afterBrace
  return (← nextWord?).any fun word =>
    !reservedWords.contains word || (afterBrace && innerWords.contains word)

/-! ## Nodes -/

/-- The node of this kind that started at an offset and ends here. -/
def close (kind : Kind) (start : Nat) (children : List Tree) : Parser Tree := do
  return .node kind .part ⟨start, ← here⟩ children

/-- Read a token that becomes a node without children. -/
def leaf (kind : Kind) (drop : List Char → Option (List Char)) : Parser Tree := do
  let start ← start
  lexeme drop
  close kind start []

/-- Read a word that becomes a node without children. -/
def anyWord (kind : Kind) : Parser Tree :=
  leaf kind dropName?

/-- Read a name that can be bound. -/
def name : Parser Tree := do
  if ← nextIsName then anyWord .identifier else failure

/-- Read a string. -/
def string : Parser Tree :=
  leaf .string dropString?

/-! ## Ends of statements -/

/-- May a statement end here although no semicolon is written? -/
def endsHere (bare : Bool) : Parser Bool := do
  let reader ← get
  return (endOfStatement? bare reader.length reader.rest).isSome

/-- Read the end of a statement, written or not. -/
def semicolon (bare : Bool) : Parser Unit := do
  let reader ← get
  match endOfStatement? bare reader.length reader.rest with
  | some rest => moveTo rest
  | none => symbol ";"

/-- Before a statement or an operand, text that starts like a comment of a
hypertext document is a comment that runs to the end of its line.  Drop at
most so many of them. -/
def skipMarkupComments : Nat → Parser Unit
  | 0 => pure ()
  | bound + 1 => do
      let text ← upcoming
      if "<!--".toList.isPrefixOf text || "-->".toList.isPrefixOf text then
        moveTo (text.dropWhile fun c => !(isLineBreak c || c == '\x00'))
        skipMarkupComments bound

/-! ## Repetition -/

/-- Run a parser again and again while `more` holds, at most so many times,
and collect what it reads. -/
def many {α : Type} (bound : Nat) (more : Parser Bool) (item : Parser α) : Parser (List α) :=
  match bound with
  | 0 => return []
  | bound + 1 => do
      if ← more then
        let first ← item
        return first :: (← many bound more item)
      return []

end Parser

end Respecify.JavaScript

import Respecify.JavaScript.Grammar.Function

/-!
# Objects, lists and templates

Objects and lists are read once for both uses, as values and as patterns: the
form of the whole follows from the forms of the members.  A member with a
default value, `a = 1`, makes an object a pattern; a method makes it a value.
-/

namespace Respecify.JavaScript.Grammar

variable (grammar : Grammar) (bound : Nat)

/-- A member of an object together with what it can stand for. -/
structure Member where
  tree : Tree
  value : Bool
  pattern : Bool

/-- Read a list in brackets. -/
def list : Parser (Elements × Cover) := do
  let start ← Parser.start
  let elements ← Elements.read grammar bound "[" "]"
  let tree ← Parser.close .array start elements.trees
  return (elements, ⟨tree, .literal elements.values elements.patterns⟩)

/-- Read the value of a member after its key. -/
def pair (start : Nat) (key : Tree) : Parser Member := do
  Parser.symbol ":"
  let valueStart ← Parser.start
  if ← Parser.symbol? "..." then
    let cover ← grammar.expression .inside
    let spread ← Parser.close .spread valueStart [cover.tree]
    let tree ← Parser.close .pair start [key, spread.withRole .value]
    return ⟨tree, false, cover.form.isPattern⟩
  let cover ← grammar.expression .inside
  let tree ← Parser.close .pair start [key, cover.tree.withRole .value]
  return ⟨tree, cover.form.isExpression, cover.form.isPatternPart⟩

/-- Read the default value of a pattern inside an object. -/
def objectDefault (start : Nat) (left : Tree) : Parser Member := do
  Parser.symbol "="
  let value ← grammar.value .inside
  let tree ← Parser.close .objectAssignmentPattern start [left.withRole .left, value]
  return ⟨tree, false, true⟩

/-- Read the member of an object that a bracket starts: a computed key, or a
list with a default value. -/
def bracketMember (start : Nat) : Parser Member := do
  let (elements, cover) ← grammar.list bound
  let computed := cover.tree.withKind .computedName
  if ← Parser.nextIs "=" then
    unless cover.form.isPattern do failure
    grammar.objectDefault start cover.tree.asPattern
  else
    unless elements.areKey do failure
    if ← Parser.nextIs "(" then
      return ⟨← grammar.method bound start [computed], true, false⟩
    else
      grammar.pair start computed

/-- The characters after a word that make it the key of a member or a
shorthand. -/
def afterObjectKey : List Char :=
  [':', '(', ',', '\x7d', '=']

/-- Read the member of an object that starts with a word, a star or a plain
key. -/
def wordMember (start : Nat) (decorators : List Tree) : Parser Member := do
  let (_, modified) ← modifiers afterObjectKey (pure false)
  let isWord := (← Parser.nextWord?).isSome
  if modified || !decorators.isEmpty then
    let key ← grammar.key
    return ⟨← grammar.method bound start (decorators ++ [key]), true, false⟩
  let key ← plainKey
  if ← Parser.nextIs "(" then
    return ⟨← grammar.method bound start [key], true, false⟩
  if ← Parser.nextIs ":" then
    grammar.pair start key
  else
    unless isWord do failure
    if ← Parser.nextIs "=" then
      grammar.objectDefault start (key.withKind .shorthandPattern)
    else
      return ⟨key.withKind .shorthandProperty, true, true⟩

/-- Read an object in braces, its members by `member`. -/
def objectOf (member : Parser Member) : Parser Cover := do
  let start ← Parser.start
  Parser.symbol "\x7b"
  let members ← membersFrom true (bound + 1)
  Parser.symbol "\x7d"
  let tree ← Parser.close .object start (members.map (·.tree))
  return ⟨tree, .literal (members.all (·.value)) (members.all (·.pattern))⟩
where
  /-- Read members with commas between them; any of them may be missing. -/
  membersFrom : Bool → Nat → Parser (List Member)
    | _, 0 => return []
    | due, limit + 1 => do
        if ← Parser.nextIs "\x7d" then
          return []
        if ← Parser.symbol? "," then
          membersFrom true limit
        else
          unless due do failure
          let first ← member
          return first :: (← membersFrom false limit)

/-- Read a member of an object that is no nested object. -/
def shallowMember : Parser Member := do
  let start ← Parser.start
  if ← Parser.symbol? "..." then
    let cover ← grammar.expression .inside
    let tree ← Parser.close .spread start [cover.tree]
    return ⟨tree, cover.form.isExpression, cover.form.isPattern⟩
  if ← Parser.nextIs "[" then
    grammar.bracketMember bound start
  else
    let decorators ← grammar.decorators bound
    grammar.wordMember bound start decorators

/-- Read an object in braces.  A member may also be an object with a default
value, to so many levels without a key between them. -/
def objectWithin : Nat → Parser Cover
  | 0 => failure
  | depth + 1 =>
      objectOf bound do
        if ← Parser.nextIs "\x7b" then
          let start ← Parser.start
          let cover ← objectWithin depth
          unless cover.form.isPattern do failure
          grammar.objectDefault start cover.tree.asPattern
        else
          grammar.shallowMember bound

/-- Read an object in braces. -/
def object : Parser Cover :=
  grammar.objectWithin bound (bound + 1)

/-! ## Templates -/

/-- Read the parts of a template up to its closing quote. -/
def templateParts : Nat → Parser (List Tree)
  | 0 => failure
  | limit + 1 => do
      match dropTemplateText (← get).rest with
      | '\x60' :: rest => do
          Parser.moveTo rest
          return []
      | '\\' :: rest =>
          match dropEscape? rest with
          | some after => do
              Parser.moveTo after
              templateParts limit
          | none => failure
      | '$' :: '\x7b' :: rest => do
          Parser.moveTo ('$' :: '\x7b' :: rest)
          let start ← Parser.here
          Parser.moveTo rest
          let trees ← grammar.values bound .inside
          Parser.symbol "\x7d"
          let first ← Parser.close .substitution start trees
          return first :: (← templateParts limit)
      | _ => failure

/-- Read a template. -/
def template : Parser Tree := do
  let start ← Parser.start
  Parser.symbol "\x60"
  let parts ← grammar.templateParts bound (bound + 1)
  Parser.close .template start parts

end Respecify.JavaScript.Grammar

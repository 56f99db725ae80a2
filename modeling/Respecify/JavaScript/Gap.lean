import Respecify.JavaScript.Character

/-!
# What may stand between two tokens

Between two tokens a script may hold spaces and comments.  Two questions are
asked about such a gap: where the next token begins (`skipGap`), and whether
a statement may end here although no semicolon is written (`endOfStatement?`).

The second question has a lexical answer.  A statement ends at a closing
brace, at the end of the text and at a line break, unless the first character
after the line break, further spaces and comments is one that continues an
expression.  A block comment is crossed in search of the line break; it counts
as one itself only where no operator could follow.  A comment that hides the
line break from the search belongs to the statement before it.
-/

namespace Respecify.JavaScript

/-! ## The next token -/

/-- The text after the end of a block comment; the flag tells whether the last
character read was a star. -/
def closeComment : Bool → List Char → Option (List Char)
  | _, [] => none
  | star, c :: rest =>
      if star && c == '/' then some rest else closeComment (c == '*') rest

/-- Drop the comment at the head of the text, if there is a complete one. -/
def dropComment? : List Char → Option (List Char)
  | '/' :: '/' :: rest => some (rest.dropWhile fun c => !endsLineComment c)
  | '/' :: '*' :: rest => closeComment false rest
  | _ => none

/-- Drop at most so many comments, and the spaces before each, from the head of
the text. -/
def dropComments : Nat → List Char → List Char
  | 0, text => text
  | bound + 1, text =>
      match dropComment? (text.dropWhile isSpace) with
      | some rest => dropComments bound rest
      | none => text

/-- The text from the next token on, if at most so many comments stand before
it. -/
def skipGap (bound : Nat) (text : List Char) : List Char :=
  (dropComments bound text).dropWhile isSpace

/-- Does the text go on with the question mark of a conditional expression, after
at most so many comments?  Only breakable spaces may stand between it and the
token or comment before. -/
def startsQuestion (bound : Nat) (text : List Char) : Bool :=
  ((dropComments bound text).dropWhile isBreakableSpace).head? == some '?'

/-! ## Omitted semicolons -/

/-- Where a reader of a gap stands. -/
inductive GapState where
  /-- Outside comments. -/
  | space
  /-- After a slash that may open a comment. -/
  | slash
  /-- Inside a comment that runs to the end of its line. -/
  | line
  /-- Inside a block comment; the flag tells whether the last character was a
  star. -/
  | block (star : Bool)

/-- How the search through a gap ends. -/
inductive Crossing where
  /-- At a character that belongs to a token. -/
  | token
  /-- After a block comment, where the search was asked to stop; the flag
  tells whether the comments crossed hold a line break. -/
  | comment (broken : Bool)
  /-- At a slash that opens no comment. -/
  | division

/-- Cross breakable spaces and comments.  Unless `through` is set, the search
stops after a block comment that is not directly followed by a slash.  A null
character is taken for the end of the text. -/
def crossGap (through : Bool) : GapState → Bool → List Char → Crossing × List Char
  | .slash, _, [] => (.division, [])
  | _, _, [] => (.token, [])
  | .space, broken, c :: rest =>
      if isBreakableSpace c then crossGap through .space broken rest
      else if c == '/' then crossGap through .slash broken rest
      else (.token, c :: rest)
  | .slash, broken, c :: rest =>
      if c == '/' then crossGap through .line broken rest
      else if c == '*' then crossGap through (.block false) broken rest
      else (.division, c :: rest)
  | .line, broken, c :: rest =>
      if c == '\x00' then (.token, c :: rest)
      else if isLineBreak c then crossGap through .space broken rest
      else crossGap through .line broken rest
  | .block star, broken, c :: rest =>
      if c == '\x00' then (.token, c :: rest)
      else if star && c == '/' then
        if through || rest.head? == some '/' then crossGap through .space broken rest
        else (.comment broken, rest)
      else crossGap through (.block (c == '*')) (broken || isLineBreak c) rest

/-- May the character continue a word?  Latin letters do, and outside ASCII
every character of a name. -/
def isWordLetter (c : Char) : Bool :=
  isLatinLetter c || (0x80 ≤ c.toNat && isNamePart c)

/-- The characters with which a statement goes on after a line break. -/
def continuations : List Char :=
  ['\x60', ',', ':', ';', '*', '%', '>', '<', '=', '[', '(', '?', '^', '|', '&', '/']

/-- May a statement end before this text, which follows a line break?  Not
where the text goes on with an operator, a bracket or a separator.  A word
that starts with `in` counts as the operator unless a letter follows. -/
def startsAnew : List Char → Bool
  | [] => true
  | '.' :: rest => rest.head?.any isDigit
  | '+' :: rest => rest.head? == some '+'
  | '-' :: rest => rest.head? == some '-'
  | '!' :: rest => rest.head? != some '='
  | 'i' :: 'n' :: 's' :: 't' :: 'a' :: 'n' :: 'c' :: 'e' :: 'o' :: 'f' :: rest =>
      rest.head?.any isWordLetter
  | 'i' :: 'n' :: rest => rest.head?.any isWordLetter
  | c :: _ => !continuations.contains c

/-- Does a statement end at the head of this text, which is no slash and not
the end of the script?  `resume` answers for the text after a space on the same
line. -/
def endsAtToken (resume : List Char → Bool) : List Char → Bool
  | [] => false
  | c :: rest =>
      if c == '\x7d' then true
      else if isLineBreak c then
        match crossGap true .space false rest with
        | (.division, _) => false
        | (_, after) => startsAnew after
      else isBreakableSpace c && resume rest

/-- Does a statement end here although no semicolon is written?  `bare` tells
that no operator can follow: then a comment that holds a line break, or that
runs to the end of its line, is enough, unless a comma or an equals sign
follows.  The number bounds the spaces and comments looked at. -/
def endsOnLine (bare : Bool) : Nat → List Char → Bool
  | 0, _ => false
  | _, [] => true
  | _, '\x00' :: _ => true
  | bound + 1, '/' :: rest =>
      let enough (after : List Char) : Bool :=
        bare && after.head? != some ',' && after.head? != some '='
      match crossGap false .slash false rest with
      | (.division, _) => false
      | (.comment broken, after) =>
          (broken && enough after) || endsAtToken (endsOnLine bare bound) after
      | (.token, after) => enough after || endsAtToken (endsOnLine bare bound) after
  | bound + 1, text => endsAtToken (endsOnLine bare bound) text

/-- The text after a statement that ends at the head of this text, although no
semicolon is written; none if it does not end here.  The question is asked here
and again after each of so many comments, and the comments before the answer
belong to the statement. -/
def endOfStatement? (bare : Bool) : Nat → List Char → Option (List Char)
  | 0, text => if endsOnLine bare 1 text then some text else none
  | bound + 1, text =>
      if endsOnLine bare (bound + 2) text then some text
      else
        match dropComment? (text.dropWhile isSpace) with
        | some rest => endOfStatement? bare bound rest
        | none => none

end Respecify.JavaScript

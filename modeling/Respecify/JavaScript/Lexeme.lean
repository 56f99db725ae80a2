import Respecify.JavaScript.Gap

/-!
# Lexemes

The tokens that are more than fixed punctuation: names, numbers, strings,
regular expressions and the literal parts of templates.  Each is given by a
function that drops one such token from the head of a text and returns the
rest, or `none` where the text does not start with one.  A token is as long as
the text allows.
-/

namespace Respecify.JavaScript

/-! ## Digits -/

/-- Drop further digits of a number, each of which may follow an underscore. -/
def dropDigitTail (digit : Char → Bool) : List Char → List Char
  | [] => []
  | c :: rest =>
      if digit c then dropDigitTail digit rest
      else if c == '_' && rest.head?.any digit then dropDigitTail digit rest
      else c :: rest

/-- Drop a run of digits in which single underscores may separate digits. -/
def dropDigits? (digit : Char → Bool) : List Char → Option (List Char)
  | [] => none
  | c :: rest => if digit c then some (dropDigitTail digit rest) else none

/-- Drop an exponent: the letter `e`, an optional sign and digits. -/
def dropExponent? : List Char → Option (List Char)
  | c :: rest =>
      if c == 'e' || c == 'E' then
        match rest with
        | '+' :: digits => dropDigits? isDigit digits
        | '-' :: digits => dropDigits? isDigit digits
        | digits => dropDigits? isDigit digits
      else none
  | [] => none

/-- Drop an exponent if there is one. -/
def dropExponent (text : List Char) : List Char :=
  (dropExponent? text).getD text

/-- Drop the mark of a big integer if there is one. -/
def dropBigMark : List Char → List Char
  | 'n' :: rest => rest
  | text => text

/-- Digits before a point or an exponent start with a digit other than zero,
which one zero may precede, unless they are a single zero. -/
def isIntegerPart : List Char → Bool
  | ['0'] => true
  | '0' :: c :: _ => isDigit c && c != '0'
  | _ => true

/-- Drop a number that starts with a decimal digit. -/
def dropDecimal? (text : List Char) : Option (List Char) := do
  let rest ← dropDigits? isDigit text
  let whole := isIntegerPart (text.take (text.length - rest.length))
  match rest with
  | 'n' :: after => some after
  | '.' :: after =>
      if whole then some (dropExponent ((dropDigits? isDigit after).getD after)) else some rest
  | _ => if whole then some (dropExponent rest) else some rest

/-- Drop a number. -/
def dropNumber? : List Char → Option (List Char)
  | '.' :: rest => (dropDigits? isDigit rest).map dropExponent
  | '0' :: c :: rest =>
      let digits :=
        if c == 'x' || c == 'X' then dropDigits? isHexDigit rest
        else if c == 'b' || c == 'B' then dropDigits? isBinaryDigit rest
        else if c == 'o' || c == 'O' then dropDigits? isOctalDigit rest
        else none
      match digits with
      | some after => some (dropBigMark after)
      | none => dropDecimal? ('0' :: c :: rest)
  | text => dropDecimal? text

/-! ## Escapes -/

/-- The number of characters of a code point in an escape sequence: four
hexadecimal digits, or any number of them in braces. -/
def codePointLength? : List Char → Option Nat
  | '\x7b' :: rest =>
      let digits := rest.takeWhile isHexDigit
      if !digits.isEmpty && (rest.drop digits.length).head? == some '\x7d' then
        some (digits.length + 2)
      else none
  | a :: b :: c :: d :: _ => if [a, b, c, d].all isHexDigit then some 4 else none
  | _ => none

/-- Drop what follows the backslash of an escape sequence in a string.  A
carriage return and a question mark take a following line break with them. -/
def dropEscape? : List Char → Option (List Char)
  | [] => none
  | '?' :: c :: rest => if isLineBreak c then some rest else some (c :: rest)
  | 'u' :: rest => (codePointLength? rest).map rest.drop
  | 'x' :: a :: b :: rest => if isHexDigit a && isHexDigit b then some rest else none
  | 'x' :: _ => none
  | '\r' :: c :: rest => if isLineBreak c then some rest else some (c :: rest)
  | c :: rest =>
      if isOctalDigit c then
        match rest with
        | a :: b :: after =>
            if isOctalDigit a && isOctalDigit b then some after
            else if isOctalDigit a then some (b :: after)
            else some rest
        | [a] => if isOctalDigit a then some [] else some rest
        | [] => some []
      else some rest

/-! ## Names -/

/-- The characters that continue a name at the head of a text.  An escape
sequence may stand for a character; so many characters at the head belong to
one. -/
def nameFrom : Nat → List Char → List Char
  | _, [] => []
  | escaped + 1, c :: rest => c :: nameFrom escaped rest
  | 0, '\\' :: 'u' :: rest =>
      match codePointLength? rest with
      | some length => '\\' :: 'u' :: nameFrom length rest
      | none => []
  | 0, c :: rest => if isNamePart c then c :: nameFrom 0 rest else []

/-- The name at the head of a text.  No name starts with a digit, and an empty
one is none. -/
def name? (text : List Char) : Option (List Char) :=
  if text.head?.any isDigit then none
  else
    match nameFrom 0 text with
    | [] => none
    | name => some name

/-- Drop a name. -/
def dropName? (text : List Char) : Option (List Char) :=
  (name? text).map fun name => text.drop name.length

/-- Drop a name that is private to a class. -/
def dropPrivateName? : List Char → Option (List Char)
  | '#' :: rest => dropName? rest
  | _ => none

/-! ## Strings, templates and regular expressions -/

/-- Drop the rest of a string up to and including the closing quote.  A string
does not cross the end of its line, except after a backslash. -/
def dropStringTail? (quote : Char) : Nat → List Char → Option (List Char)
  | 0, _ => none
  | _, [] => none
  | bound + 1, c :: rest =>
      if c == quote then some rest
      else if c == '\\' then do dropStringTail? quote bound (← dropEscape? rest)
      else if c == '\n' || c == '\r' then none
      else dropStringTail? quote bound rest

/-- Drop a string. -/
def dropString? : List Char → Option (List Char)
  | c :: rest =>
      if c == '\x22' || c == '\x27' then dropStringTail? c rest.length rest else none
  | [] => none

/-- Drop the literal characters of a template up to its end, a substitution or
an escape sequence.  A null character is not one of them. -/
def dropTemplateText : List Char → List Char
  | [] => []
  | '$' :: '\x7b' :: rest => '$' :: '\x7b' :: rest
  | c :: rest =>
      if c == '\x60' || c == '\\' || c == '\x00' then c :: rest else dropTemplateText rest

/-- Where a reader of a regular expression stands: inside or outside a
character class, and whether the last character was a backslash. -/
inductive PatternState where
  | plain
  | plainEscape
  | charClass
  | charClassEscape

/-- Drop the rest of a regular expression up to and including its closing
slash.  It does not cross a line feed. -/
def dropPatternTail? : PatternState → List Char → Option (List Char)
  | _, [] => none
  | state, c :: rest =>
      if c == '\n' then none
      else
        match state with
        | .plain =>
            if c == '/' then some rest
            else if c == '\\' then dropPatternTail? .plainEscape rest
            else if c == '[' then dropPatternTail? .charClass rest
            else dropPatternTail? .plain rest
        | .plainEscape => dropPatternTail? .plain rest
        | .charClass =>
            if c == ']' then dropPatternTail? .plain rest
            else if c == '\\' then dropPatternTail? .charClassEscape rest
            else dropPatternTail? .charClass rest
        | .charClassEscape => dropPatternTail? .charClass rest

/-- A flag of a regular expression. -/
def isFlag (c : Char) : Bool :=
  'a' ≤ c && c ≤ 'z'

/-- Drop the flags of a regular expression.  Comments may stand before them, if
no statement ends there. -/
def dropFlags (text : List Char) : List Char :=
  let flags := dropComments text.length text
  if (endOfStatement? false text.length text).isNone && flags.head?.any isFlag then
    flags.dropWhile isFlag
  else
    text

/-- Drop a regular expression with its flags. -/
def dropRegex? : List Char → Option (List Char)
  | '/' :: '/' :: _ => none
  | '/' :: rest => (dropPatternTail? .plain rest).map dropFlags
  | _ => none

/-! ## Markup inside scripts -/

/-- Drop a character reference such as `&amp;`: a name, or a decimal or
hexadecimal number after a hash sign. -/
def dropCharacterReference? : List Char → Option (List Char)
  | '&' :: '#' :: x :: rest =>
      if x == 'x' || x == 'X' then counted isHexDigit 6 rest
      else counted isDigit 5 (x :: rest)
  | '&' :: rest => counted isLatinLetter 30 rest
  | _ => none
where
  /-- One to so many characters of a class and a semicolon. -/
  counted (part : Char → Bool) (most : Nat) (text : List Char) : Option (List Char) :=
    let run := text.takeWhile part
    if 0 < run.length && run.length ≤ most then
      match text.dropWhile part with
      | ';' :: after => some after
      | _ => none
    else none

/-- Drop the rest of an attribute's string up to and including the closing
quote.  An ampersand before a letter or a hash sign starts a character
reference. -/
def dropAttributeTail? (quote : Char) : Nat → List Char → Option (List Char)
  | 0, _ => none
  | _, [] => none
  | bound + 1, c :: rest =>
      if c == quote then some rest
      else if c == '&' && rest.head?.any (fun d => isLatinLetter d || d == '#') then do
        dropAttributeTail? quote bound (← dropCharacterReference? (c :: rest))
      else dropAttributeTail? quote bound rest

/-- Drop the string of an attribute. -/
def dropAttributeString? : List Char → Option (List Char)
  | c :: rest =>
      if c == '\x22' || c == '\x27' then dropAttributeTail? c rest.length rest else none
  | [] => none

/-- Drop a name with at least one hyphen after its first character, as tags
and attributes may have. -/
def dropHyphenName? : List Char → Option (List Char)
  | c :: rest =>
      if isLatinLetter c || c == '_' || c == '$' then
        match rest.dropWhile word with
        | '-' :: after => some (after.dropWhile fun d => word d || d == '-')
        | _ => none
      else none
  | [] => none
where
  /-- The characters between the hyphens. -/
  word (c : Char) : Bool := isLatinLetter c || isDigit c || c == '_' || c == '$'

/-- The characters at which the text between two tags ends. -/
def endsMarkupText (c : Char) : Bool :=
  c == '\x00' || c == '<' || c == '>' || c == '\x7b' || c == '\x7d' || c == '&'

end Respecify.JavaScript

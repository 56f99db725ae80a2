/-!
# Character classes of JavaScript source text

Four classes of characters matter to the grammar: what may stand between two
tokens, what ends a line, what ends a line for the purpose of leaving out a
semicolon, and what may occur in a name.  They are decided here, once, on
`Char`; a script that is no sequence of Unicode scalar values never gets this
far.
-/

namespace Respecify.JavaScript

/-- Space characters between tokens: the Unicode property `White_Space`
together with the byte order mark, the word joiner and the zero width space. -/
def isSpace (c : Char) : Bool :=
  let n := c.toNat
  (0x09 ≤ n && n ≤ 0x0D) || n == 0x20 || n == 0x85 || n == 0xA0 || n == 0x1680 ||
    (0x2000 ≤ n && n ≤ 0x200B) || n == 0x2028 || n == 0x2029 || n == 0x202F ||
    n == 0x205F || n == 0x2060 || n == 0x3000 || n == 0xFEFF

/-- Breakable spaces, which the search for an omitted semicolon may cross: no
character that forbids a line break is among them. -/
def isBreakableSpace (c : Char) : Bool :=
  let n := c.toNat
  (0x09 ≤ n && n ≤ 0x0D) || n == 0x20 || n == 0x1680 || (0x2000 ≤ n && n ≤ 0x2006) ||
    (0x2008 ≤ n && n ≤ 0x200A) || n == 0x2028 || n == 0x2029 || n == 0x205F || n == 0x3000

/-- A breakable space is a space. -/
theorem isSpace_of_isBreakableSpace {c : Char} (breakable : isBreakableSpace c = true) :
    isSpace c = true := by
  simp only [isBreakableSpace, isSpace, Bool.or_eq_true, Bool.and_eq_true, decide_eq_true_eq,
    beq_iff_eq] at *
  omega

/-- The characters that end a line: line feed, line separator and paragraph
separator.  A carriage return alone does not. -/
def isLineBreak (c : Char) : Bool :=
  c == '\n' || c.toNat == 0x2028 || c.toNat == 0x2029

/-- The characters before which a `//` comment stops. -/
def endsLineComment (c : Char) : Bool :=
  isLineBreak c || c == '\r'

/-- A decimal digit. -/
def isDigit (c : Char) : Bool :=
  '0' ≤ c && c ≤ '9'

/-- A binary digit. -/
def isBinaryDigit (c : Char) : Bool :=
  c == '0' || c == '1'

/-- An octal digit. -/
def isOctalDigit (c : Char) : Bool :=
  '0' ≤ c && c ≤ '7'

/-- A hexadecimal digit. -/
def isHexDigit (c : Char) : Bool :=
  isDigit c || ('a' ≤ c && c ≤ 'f') || ('A' ≤ c && c ≤ 'F')

/-- A letter of the Latin alphabet. -/
def isLatinLetter (c : Char) : Bool :=
  ('a' ≤ c && c ≤ 'z') || ('A' ≤ c && c ≤ 'Z')

/-- The punctuation that can never be part of a name. -/
def namePunctuation : List Char :=
  [':', ';', '\x60', '\x22', '\x27', '@', '#', '.', ',', '|', '^', '&', '<', '=', '>', '+', '-',
    '*', '/', '\\', '%', '?', '!', '~', '(', ')', '[', ']', '\x7b', '\x7d']

/-- The characters of a name: everything that is neither a control character,
nor a space, nor punctuation.  A name may not start with a digit. -/
def isNamePart (c : Char) : Bool :=
  0x20 ≤ c.toNat && !isSpace c && !namePunctuation.contains c

end Respecify.JavaScript

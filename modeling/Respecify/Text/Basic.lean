/-!
# Text as a sequence of code points

Scripts, file names and messages are sequences of Unicode code points.  A
sequence may hold single surrogates, which a `String` cannot: they reach the
program in its input, and it has to say where they are.  Offsets into a text
count code points.
-/

namespace Respecify

/-- A sequence of code points. -/
abbrev Text := List Nat

/-- The code points of a string. -/
def text (literal : String) : Text :=
  literal.toList.map Char.toNat

/-- Half of a pair that stands for one character in UTF-16. -/
def isSurrogate (c : Nat) : Bool :=
  0xD800 ≤ c && c < 0xE000

/-- A code point that stands for a character of its own, so that it has a form
in UTF-8. -/
def isScalar (c : Nat) : Bool :=
  c < 0x110000 && !isSurrogate c

/-- The line feed, which alone separates the lines that positions count. -/
def lineFeed : Nat := 0x0A

namespace Text

/-- The code points from one offset up to another; offsets past the end of the
text stand for its end. -/
def slice (source : Text) (start stop : Nat) : Text :=
  (source.take stop).drop start

/-- Does the text start with another? -/
def startsWith (source start : Text) : Bool :=
  start.isPrefixOf source

/-- Does the text end with another? -/
def endsWith (source ending : Text) : Bool :=
  ending.isSuffixOf source

/-- Does the part of the text before an offset end with another text? -/
def endsWithAt (source ending : Text) (offset : Nat) : Bool :=
  endsWith (source.take offset) ending

/-- The text without another one at its start, if it starts with it. -/
def dropStart (source start : Text) : Text :=
  if source.startsWith start then source.drop start.length else source

/-- Write one text for every occurrence of another, from left to right; the
number bounds the characters looked at. -/
def replaceWithin (old new : Text) : Nat → Text → Text
  | 0, source => source
  | _, [] => []
  | bound + 1, c :: rest =>
      if old.isPrefixOf (c :: rest) then
        new ++ replaceWithin old new bound ((c :: rest).drop old.length)
      else
        c :: replaceWithin old new bound rest

/-- Write one text for every occurrence of another, from left to right.  The
text to replace is not empty. -/
def replace (source old new : Text) : Text :=
  replaceWithin old new source.length source

/-- The parts of a text between the occurrences of a character. -/
def splitOn (separator : Nat) : Text → List Text
  | [] => [[]]
  | c :: rest =>
      if c = separator then [] :: splitOn separator rest
      else
        match splitOn separator rest with
        | [] => [[c]]
        | part :: parts => (c :: part) :: parts

/-- Texts joined with another text between each two. -/
def join (separator : Text) : List Text → Text
  | [] => []
  | [part] => part
  | part :: parts => part ++ separator ++ join separator parts

/-- A number in decimal digits. -/
def ofNat (n : Nat) : Text :=
  text (toString n)

/-- An integer in decimal digits, with a minus sign if it is negative. -/
def ofInt (n : Int) : Text :=
  text (toString n)

/-- The text as a string, if it holds no surrogate. -/
def toString? (source : Text) : Option String :=
  if source.all isScalar then some (String.ofList (source.map Char.ofNat))
  else none

end Text

end Respecify

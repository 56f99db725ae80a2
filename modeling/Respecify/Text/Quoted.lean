import Respecify.Text.Printable

/-!
# Quoted text

How a message shows a text: between single quotes, or between double quotes
where the text holds single quotes and no double ones.  The quote, the
backslash and everything that is not printable are written as escapes.
-/

namespace Respecify.Text

/-- The digit that stands for a number below sixteen. -/
def hexDigit (n : Nat) : Nat :=
  if n < 10 then 0x30 + n else 0x61 + (n - 10)

/-- A number in hexadecimal digits, padded with zeros to a width. -/
def hex : Nat → Nat → Text
  | 0, _ => []
  | width + 1, n => hex width (n / 16) ++ [hexDigit (n % 16)]

/-- The quote to put around a text. -/
def quoteFor (source : Text) : Nat :=
  if source.contains 0x27 && !source.contains 0x22 then 0x22 else 0x27

/-- One character of a quoted text. -/
def escape (quote c : Nat) : Text :=
  if c = quote || c = 0x5C then [0x5C, c]
  else if c = 0x09 then text "\\t"
  else if c = 0x0A then text "\\n"
  else if c = 0x0D then text "\\r"
  else if isPrintable c then [c]
  else if c < 0x100 then text "\\x" ++ hex 2 c
  else if c < 0x10000 then text "\\u" ++ hex 4 c
  else text "\\U" ++ hex 8 c

/-- The text as a message shows it. -/
def quoted (source : Text) : Text :=
  let quote := quoteFor source
  quote :: source.flatMap (escape quote) ++ [quote]

end Respecify.Text

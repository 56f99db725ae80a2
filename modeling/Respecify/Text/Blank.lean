import Respecify.Text.Basic

/-!
# Blank characters and ends of lines

Two classes of characters that shape texts written by people: the blanks
around a name, which do not belong to it, and the characters that end a line
when a text is shown line by line.
-/

namespace Respecify

/-- Blanks: the characters with the Unicode property `White_Space` and the
four separators of information among the control characters. -/
def isBlank (c : Nat) : Bool :=
  (0x09 ≤ c && c ≤ 0x0D) || (0x1C ≤ c && c ≤ 0x20) || c == 0x85 || c == 0xA0 || c == 0x1680 ||
    (0x2000 ≤ c && c ≤ 0x200A) || c == 0x2028 || c == 0x2029 || c == 0x202F || c == 0x205F ||
    c == 0x3000

/-- The characters that end a line of a text that is shown. -/
def endsLine (c : Nat) : Bool :=
  (0x0A ≤ c && c ≤ 0x0D) || (0x1C ≤ c && c ≤ 0x1E) || c == 0x85 || c == 0x2028 || c == 0x2029

/-- What ends a line is blank. -/
theorem isBlank_of_endsLine {c : Nat} (ends : endsLine c = true) :
    isBlank c = true := by
  simp only [endsLine, isBlank, Bool.or_eq_true, Bool.and_eq_true,
    decide_eq_true_eq, beq_iff_eq] at *
  omega

namespace Text

/-- The text without the blanks at its end. -/
def stripEnd (source : Text) : Text :=
  (source.reverse.dropWhile isBlank).reverse

/-- The text without the blanks at its start and its end. -/
def strip (source : Text) : Text :=
  stripEnd (source.dropWhile isBlank)

/-- The lines of a text, without the characters that end them.  A carriage
return and a line feed together end one line, and a text that ends with the
end of a line has no further line. -/
def lines (source : Text) : List Text :=
  go source []
where
  /-- The lines of the rest of the text; the current line is listed last
  character first. -/
  go : Text → Text → List Text
    | [], [] => []
    | [], current => [current.reverse]
    | 0x0D :: 0x0A :: rest, current => current.reverse :: go rest []
    | c :: rest, current =>
        if endsLine c then current.reverse :: go rest [] else go rest (c :: current)

end Text

end Respecify

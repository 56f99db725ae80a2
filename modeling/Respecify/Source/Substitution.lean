import Respecify.Source.Edit

/-!
# Edits made all at once

What a list of edits means, told offset by offset and without any order of
making them: at each offset stand the insertions made there, the last of the
list first, then the text of the edit that replaces the characters from there
on, then the character itself unless an edit covers it.
-/

namespace Respecify.Edit

/-- The edit inserts at the offset. -/
def insertsAt (offset : Nat) (edit : Edit) : Bool :=
  edit.start == offset && edit.stop == offset

/-- The edit replaces characters from the offset on. -/
def replacesAt (offset : Nat) (edit : Edit) : Bool :=
  edit.start == offset && offset < edit.stop

/-- The edit covers the character at the offset. -/
def covers (offset : Nat) (edit : Edit) : Bool :=
  edit.start ≤ offset && offset < edit.stop

/-- The new text that stands at an offset. -/
def newTextAt (edits : List Edit) (offset : Nat) : Text :=
  (edits.filter (insertsAt offset)).reverse.flatMap Edit.text ++
    (edits.filter (replacesAt offset)).flatMap Edit.text

/-- What stands at an offset: new text, and the character unless it is covered. -/
def textAt (source : Text) (edits : List Edit) (offset : Nat) : Text :=
  newTextAt edits offset ++
    if edits.any (covers offset) then [] else source[offset]?.toList

/-- The text with all edits made at once. -/
def substitute (source : Text) (edits : List Edit) : Text :=
  (List.range (source.length + 1)).flatMap (textAt source edits)

/-- Two edits of a list are in conflict: the first is not before the second in
the order of edits, and the second ends after the first starts. -/
def overlaps (one other : Edit) : Bool :=
  atMost other one && one.start < other.stop

end Respecify.Edit

import Respecify.Order
import Respecify.Source.Range

/-!
# Edits of a source text

An edit replaces one range of a text.  All edits of a list refer to the same
text; they are made from its end towards its start.  Edits that overlap, and
edits outside the text, are refused.
-/

namespace Respecify

/-- The replacement of a stretch of a text; an insertion replaces an empty
stretch. -/
structure Edit where
  start : Nat
  stop : Nat
  text : Text
  start_le_stop : start ≤ stop := by omega
deriving Repr

/-- An edit that overlaps the one made before it, or ends past the end of the
text; the bound is where either starts. -/
structure EditConflict where
  start : Nat
  stop : Nat
  bound : Nat
deriving DecidableEq, Repr

/-- The wording of the conflict. -/
def EditConflict.message (conflict : EditConflict) : Text :=
  text "Edit [" ++ Text.ofNat conflict.start ++ text ", " ++ Text.ofNat conflict.stop ++
    text ") overlaps a later edit or the end of the text (" ++ Text.ofNat conflict.bound ++
    text ")"

namespace Edit

/-- The edit of the stretch between two integers; the first is no less than
zero and no greater than the second. -/
def ofInts? (start stop : Int) (replacement : Text) : Except RangeError Edit :=
  if ordered : 0 ≤ start ∧ start ≤ stop then
    .ok ⟨start.toNat, stop.toNat, replacement, toNat_le_toNat_of_ordered ordered⟩
  else
    .error ⟨"edit", start, stop⟩

/-- Put a text at an offset. -/
def insertion (offset : Nat) (inserted : Text) : Edit :=
  ⟨offset, offset, inserted, Nat.le_refl offset⟩

/-- Write a text for a range. -/
def replacement (range : TextRange) (replaced : Text) : Edit :=
  ⟨range.start, range.stop, replaced, range.start_le_stop⟩

/-- The order of edits: by where they start, then by where they end. -/
def atMost (one other : Edit) : Bool :=
  one.start < other.start || (one.start == other.start && one.stop ≤ other.stop)

/-- The edits from the last one of the text to the first. -/
def lastFirst (edits : List Edit) : List Edit :=
  Order.sort (fun one other => other.atMost one) edits

/-- Make one edit. -/
def applyOne (edit : Edit) (source : Text) : Text :=
  source.take edit.start ++ edit.text ++ source.drop edit.stop

/-- Make edits one after the other.  None may end past the bound, which is
where the one before it starts. -/
def applyInOrder : List Edit → Nat → Text → Except EditConflict Text
  | [], _, source => .ok source
  | edit :: rest, bound, source =>
      if bound < edit.stop then .error ⟨edit.start, edit.stop, bound⟩
      else applyInOrder rest edit.start (edit.applyOne source)

/-- Make edits of a text. -/
def apply (source : Text) (edits : List Edit) : Except EditConflict Text :=
  applyInOrder (lastFirst edits) source.length source

/-- No edits change nothing. -/
theorem apply_nil (source : Text) : apply source [] = .ok source :=
  rfl

theorem ofInts?_eq_error_iff {start stop : Int} {replaced : Text} {error : RangeError} :
    ofInts? start stop replaced = .error error ↔
      ¬(0 ≤ start ∧ start ≤ stop) ∧ error = ⟨"edit", start, stop⟩ := by
  unfold ofInts?
  split
  · simp_all
  · simp_all [eq_comm]

end Edit

end Respecify

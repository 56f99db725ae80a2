import Mathlib.Data.List.Infix
import Respecify.Text.Basic

/-!
# Slices and ends of texts

Slices that follow each other make up a text.  A text that ends with another
one ends with it no matter what stands before, and a character that does not
occur in an ending cannot lie inside it.
-/

namespace Respecify.Text

/-- What is before a slice and the slice make up the text up to its end. -/
theorem take_append_slice (source : Text) {start stop : Nat} (ordered : start ≤ stop) :
    source.take start ++ source.slice start stop = source.take stop := by
  have whole := List.take_append_drop start (source.take stop)
  rwa [List.take_take, Nat.min_eq_left ordered] at whole

/-- A slice and what is behind it make up the text from its start on. -/
theorem slice_append_drop (source : Text) {start stop : Nat} (ordered : start ≤ stop) :
    source.slice start stop ++ source.drop stop = source.drop start := by
  have behind : source.drop stop = (source.drop start).drop (stop - start) := by
    rw [List.drop_drop, Nat.add_sub_cancel' ordered]
  rw [slice, List.drop_take, behind]
  exact List.take_append_drop _ _

/-- Two slices that follow each other make up one. -/
theorem slice_append_slice (source : Text) {start middle stop : Nat}
    (first : start ≤ middle) (second : middle ≤ stop) :
    source.slice start middle ++ source.slice middle stop = source.slice start stop := by
  apply List.append_cancel_left
  rw [← List.append_assoc, take_append_slice source first, take_append_slice source second,
    take_append_slice source (first.trans second)]

theorem slice_self (source : Text) (offset : Nat) : source.slice offset offset = [] := by
  simp [slice]

theorem length_slice (source : Text) (start : Nat) {stop : Nat}
    (inside : stop ≤ source.length) : (source.slice start stop).length = stop - start := by
  simp [slice, Nat.min_eq_left inside]

/-- The middle one of three texts is a slice of them all. -/
theorem slice_append_append (first second third : Text) :
    (first ++ second ++ third).slice first.length (first.length + second.length) = second := by
  rw [slice, ← List.length_append, List.take_left, List.drop_left]

theorem endsWith_iff {source ending : Text} :
    source.endsWith ending = true ↔ ending <:+ source :=
  List.isSuffixOf_iff_suffix

theorem endsWithAt_iff {source ending : Text} {offset : Nat} :
    source.endsWithAt ending offset = true ↔ ending <:+ source.take offset :=
  endsWith_iff

theorem startsWith_iff {source start : Text} :
    source.startsWith start = true ↔ start <+: source :=
  List.isPrefixOf_iff_prefix

theorem mem_of_mem_dropStart {source start : Text} {c : Nat}
    (member : c ∈ source.dropStart start) : c ∈ source := by
  unfold dropStart at member
  split at member
  · exact List.mem_of_mem_drop member
  · exact member

/-- An ending lies behind every character that does not occur in it. -/
theorem suffix_append_cons_iff {ending first second : Text} {c : Nat} (absent : c ∉ ending) :
    ending <:+ first ++ c :: second ↔ ending <:+ second := by
  constructor
  · intro whole
    have tail : c :: second <:+ first ++ c :: second := List.suffix_append _ _
    rcases List.suffix_or_suffix_of_suffix whole tail with inside | longer
    · rcases List.suffix_cons_iff.mp inside with same | inside
      · exact absurd (same ▸ List.mem_cons_self) absent
      · exact inside
    · exact absurd (longer.subset List.mem_cons_self) absent
  · intro inside
    exact (inside.trans (List.suffix_cons c second)).trans (List.suffix_append _ _)

end Respecify.Text

import Mathlib.Data.List.Basic
import Respecify.Text.Blank

/-!
# Texts without the blanks around them

A text that neither starts nor ends with a blank is left as it is, and a character that
is no blank stays in front of what is behind it.
-/

namespace Respecify.Text

variable {source : Text} {c : Nat}

theorem stripEnd_prefix (source : Text) : stripEnd source <+: source := by
  rw [stripEnd, ← List.reverse_suffix, List.reverse_reverse]
  exact List.dropWhile_suffix _

theorem stripEnd_cons (visible : isBlank c = false) (source : Text) :
    stripEnd (c :: source) = c :: stripEnd source := by
  have kept : [c].dropWhile isBlank = [c] := by simp [visible]
  rw [stripEnd, stripEnd, List.reverse_cons, List.dropWhile_append, kept]
  split
  · rename_i blank
    simp [List.isEmpty_iff.mp blank]
  · simp

theorem strip_cons (visible : isBlank c = false) (source : Text) :
    strip (c :: source) = c :: stripEnd source := by
  rw [strip, List.dropWhile_cons_of_neg (by simp [visible]), stripEnd_cons visible]

/-- Of a text without blanks at its start only those at its end are taken away. -/
theorem strip_eq_stripEnd (visible : ∀ c ∈ source.head?, isBlank c = false) :
    strip source = stripEnd source := by
  cases source with
  | nil => rfl
  | cons c rest =>
      have first : isBlank c = false := visible c rfl
      rw [strip_cons first, stripEnd_cons first]

/-- A text that ends with a character which is no blank is stripped at its start only. -/
theorem stripEnd_append_singleton (visible : isBlank c = false) (source : Text) :
    stripEnd (source ++ [c]) = source ++ [c] := by
  simp [stripEnd, visible]

/-- A text without blanks at its ends stays as it is. -/
theorem strip_eq_self (first : ∀ c ∈ source.head?, isBlank c = false)
    (last : ∀ c ∈ source.getLast?, isBlank c = false) : strip source = source := by
  rw [strip_eq_stripEnd first]
  rcases List.eq_nil_or_concat source with rfl | ⟨before, c, rfl⟩
  · rfl
  · rw [List.concat_eq_append] at last ⊢
    exact stripEnd_append_singleton (last c (by simp)) before

end Respecify.Text

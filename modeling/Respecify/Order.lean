/-!
# Stable sorting

Items are put in an order given by a relation.  Items that may stand in either
order keep the order in which they were given.
-/

namespace Respecify.Order

variable {α : Type}

/-- Insert an item before the first one that it may stand before. -/
def insert (before : α → α → Bool) (item : α) : List α → List α
  | [] => [item]
  | other :: rest =>
      if before item other then item :: other :: rest
      else other :: insert before item rest

/-- Sort items by a relation that tells which may stand before which. -/
def sort (before : α → α → Bool) : List α → List α
  | [] => []
  | item :: rest => insert before item (sort before rest)

/-- Inserting adds exactly the item. -/
theorem insert_perm (before : α → α → Bool) (item : α) (items : List α) :
    (insert before item items).Perm (item :: items) := by
  induction items with
  | nil => exact List.Perm.refl _
  | cons other rest inductionHypothesis =>
      rw [insert]
      split
      · exact List.Perm.refl _
      · exact (inductionHypothesis.cons other).trans (List.Perm.swap item other rest)

/-- Sorting neither adds nor loses an item. -/
theorem sort_perm (before : α → α → Bool) (items : List α) :
    (sort before items).Perm items := by
  induction items with
  | nil => exact List.Perm.refl _
  | cons item rest inductionHypothesis =>
      exact (insert_perm before item _).trans (inductionHypothesis.cons item)

@[simp]
theorem mem_sort {before : α → α → Bool} {items : List α} {item : α} :
    item ∈ sort before items ↔ item ∈ items :=
  (sort_perm before items).mem_iff

/-- The order of words over ordered letters: the first difference decides, and
a word comes before its continuations. -/
def lexical [DecidableEq α] (before : α → α → Bool) : List α → List α → Bool
  | [], _ => true
  | _ :: _, [] => false
  | letter :: rest, other :: others =>
      if letter = other then lexical before rest others else before letter other

/-- Every word may stand before itself. -/
theorem lexical_self [DecidableEq α] (before : α → α → Bool) (word : List α) :
    lexical before word word = true := by
  induction word with
  | nil => rfl
  | cons letter rest inductionHypothesis => simpa [lexical] using inductionHypothesis

end Respecify.Order

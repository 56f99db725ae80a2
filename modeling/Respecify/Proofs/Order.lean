import Mathlib.Data.List.Pairwise
import Respecify.Order

/-!
# What sorting gives

Sorting puts items in order.  Where no two items of a list may stand in either
order, sorting gives one and the same list for every rearrangement of them.
Items that are mapped in a way that keeps their order are sorted as before, and
selected items that may stand in either order keep the order they have.
-/

namespace Respecify.Order

variable {α : Type} {before : α → α → Bool}

/-- An item inserted among items in order leaves them in order. -/
theorem pairwise_insert
    (total : ∀ one other, before one other = true ∨ before other one = true)
    (transitive : ∀ one other third,
      before one other = true → before other third = true → before one third = true)
    (item : α) {items : List α}
    (ordered : items.Pairwise fun one other => before one other = true) :
    (insert before item items).Pairwise fun one other => before one other = true := by
  induction items with
  | nil => exact List.pairwise_singleton _ _
  | cons other rest inductionHypothesis =>
      rw [List.pairwise_cons] at ordered
      rw [insert]
      split
      · rename_i first
        refine List.pairwise_cons.mpr ⟨?_, List.pairwise_cons.mpr ordered⟩
        intro later member
        rcases List.mem_cons.mp member with same | member
        · exact same ▸ first
        · exact transitive _ _ _ first (ordered.1 later member)
      · rename_i notFirst
        have otherFirst : before other item = true := (total other item).resolve_right notFirst
        refine List.pairwise_cons.mpr ⟨?_, inductionHypothesis ordered.2⟩
        intro later member
        rcases List.mem_cons.mp ((insert_perm before item rest).mem_iff.mp member) with
          same | member
        · exact same ▸ otherFirst
        · exact ordered.1 later member

/-- Sorting puts items in order. -/
theorem pairwise_sort
    (total : ∀ one other, before one other = true ∨ before other one = true)
    (transitive : ∀ one other third,
      before one other = true → before other third = true → before one third = true)
    (items : List α) :
    (sort before items).Pairwise fun one other => before one other = true := by
  induction items with
  | nil => exact List.Pairwise.nil
  | cons item rest inductionHypothesis =>
      exact pairwise_insert total transitive item inductionHypothesis

/-- A list in strict order is what sorting gives for every rearrangement of
it. -/
theorem sort_eq_of_perm
    (total : ∀ one other, before one other = true ∨ before other one = true)
    (transitive : ∀ one other third,
      before one other = true → before other third = true → before one third = true)
    {items ordered : List α} (rearranged : items.Perm ordered)
    (strict : ordered.Pairwise fun one other =>
      before one other = true ∧ before other one = false) :
    sort before items = ordered := by
  have same : (sort before items).Perm ordered := (sort_perm before items).trans rearranged
  refine same.eq_of_pairwise ?_ (pairwise_sort total transitive items) (strict.imp And.left)
  intro one other oneMember otherMember forward backward
  by_contra different
  have apart : ordered.Pairwise fun one other =>
      ¬(before one other = true ∧ before other one = true) :=
    strict.imp fun ordered both => by simp [ordered.2] at both
  have : Std.Symm fun one other =>
      ¬(before one other = true ∧ before other one = true) :=
    ⟨fun _ _ exclusive both => exclusive both.symm⟩
  exact apart.forall (same.mem_iff.mp oneMember) otherMember different ⟨forward, backward⟩

/-! ## Items that are selected -/

section Selected

variable {selects : α → Bool}

theorem filter_insert {item : α} {items : List α}
    (stays : ∀ other ∈ items, selects item = true → selects other = true →
      before item other = true) :
    (insert before item items).filter selects = (item :: items).filter selects := by
  induction items with
  | nil => rfl
  | cons other rest inductionHypothesis =>
      have behind := inductionHypothesis fun later member =>
        stays later (List.mem_cons_of_mem _ member)
      rw [insert]
      split
      · rfl
      · rename_i notFirst
        rw [List.filter_cons, behind]
        cases selected : selects item with
        | false => simp [selected, List.filter_cons]
        | true =>
            have passed : selects other = false := by
              by_contra also
              exact notFirst (stays other List.mem_cons_self selected (by simpa using also))
            simp [selected, passed]

/-- Sorting keeps the order of selected items, if each of them may stand before those
behind it. -/
theorem filter_sort {items : List α}
    (stays : items.Pairwise fun one other =>
      selects one = true → selects other = true → before one other = true) :
    (sort before items).filter selects = items.filter selects := by
  induction items with
  | nil => rfl
  | cons item rest inductionHypothesis =>
      rw [List.pairwise_cons] at stays
      rw [sort, filter_insert fun other member => stays.1 other (mem_sort.mp member),
        List.filter_cons, inductionHypothesis stays.2, List.filter_cons]

end Selected

/-! ## Items that are mapped -/

section Mapped

variable {β : Type} {earlier : β → β → Bool} {change : α → β}
  (same : ∀ one other, earlier (change one) (change other) = before one other)

include same

theorem insert_map (item : α) (items : List α) :
    insert earlier (change item) (items.map change) = (insert before item items).map change := by
  induction items with
  | nil => rfl
  | cons other items inductionHypothesis =>
      rw [List.map_cons, insert, insert, same]
      split
      · rfl
      · rw [inductionHypothesis, List.map_cons]

/-- Sorting does not depend on what is changed of the items, if their order stays. -/
theorem sort_map (items : List α) :
    sort earlier (items.map change) = (sort before items).map change := by
  induction items with
  | nil => rfl
  | cons item items inductionHypothesis =>
      rw [List.map_cons, sort, inductionHypothesis, insert_map same, sort]

end Mapped

end Respecify.Order

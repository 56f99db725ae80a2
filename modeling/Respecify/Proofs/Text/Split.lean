import Mathlib.Data.List.Basic
import Respecify.Text.Basic

/-!
# Splitting and joining

A text that is cut at a character and the parts joined with it are the same: the
parts hold the character nowhere, and parts that do not hold it are found again.
-/

namespace Respecify.Text

theorem splitOn_of_not_mem {separator : Nat} {part : Text} (plain : separator ∉ part) :
    splitOn separator part = [part] := by
  induction part with
  | nil => rfl
  | cons c part inductionHypothesis =>
      rw [List.mem_cons, not_or] at plain
      rw [splitOn, if_neg fun same => plain.1 same.symm, inductionHypothesis plain.2]

theorem splitOn_ne_nil (separator : Nat) (source : Text) : splitOn separator source ≠ [] := by
  cases source with
  | nil => exact List.cons_ne_nil _ _
  | cons c rest =>
      rw [splitOn]
      split
      · exact List.cons_ne_nil _ _
      · split <;> exact List.cons_ne_nil _ _

/-- Where a separator stands, the parts before it and the parts behind it meet. -/
theorem splitOn_append_separator (separator : Nat) (first second : Text) :
    splitOn separator (first ++ separator :: second) =
      splitOn separator first ++ splitOn separator second := by
  induction first with
  | nil => rw [List.nil_append, splitOn, splitOn, if_pos rfl, List.singleton_append]
  | cons c first inductionHypothesis =>
      rw [List.cons_append, splitOn, splitOn, inductionHypothesis]
      split
      · rw [List.cons_append]
      · rcases List.exists_cons_of_ne_nil (splitOn_ne_nil separator first) with
          ⟨part, parts, whole⟩
        rw [whole]
        rfl

theorem splitOn_append_cons {separator : Nat} {part : Text} (plain : separator ∉ part)
    (rest : Text) : splitOn separator (part ++ separator :: rest) = part :: splitOn separator rest := by
  rw [splitOn_append_separator, splitOn_of_not_mem plain, List.singleton_append]

theorem join_cons_cons (separator part other : Text) (parts : List Text) :
    join separator (part :: other :: parts) = part ++ separator ++ join separator (other :: parts) :=
  rfl

/-- Parts that were joined are found again. -/
theorem splitOn_join {separator : Nat} {parts : List Text} (filled : parts ≠ [])
    (plain : ∀ part ∈ parts, separator ∉ part) :
    splitOn separator (join [separator] parts) = parts := by
  induction parts with
  | nil => exact absurd rfl filled
  | cons part parts inductionHypothesis =>
      have here := plain part List.mem_cons_self
      cases parts with
      | nil => exact splitOn_of_not_mem here
      | cons other parts =>
          rw [join_cons_cons, List.append_assoc, List.singleton_append, splitOn_append_cons here,
            inductionHypothesis (by simp) fun other member =>
              plain other (List.mem_cons_of_mem _ member)]

theorem join_append {separator : Text} {first second : List Text} (filled : first ≠ [])
    (filledToo : second ≠ []) :
    join separator (first ++ second) = join separator first ++ separator ++ join separator second := by
  induction first with
  | nil => exact absurd rfl filled
  | cons part parts inductionHypothesis =>
      cases parts with
      | nil =>
          rcases List.exists_cons_of_ne_nil filledToo with ⟨other, others, rfl⟩
          rfl
      | cons other parts =>
          have behind := inductionHypothesis (by simp)
          rw [List.cons_append] at behind
          rw [List.cons_append, List.cons_append, join_cons_cons, behind, join_cons_cons]
          simp only [List.append_assoc]

theorem join_cons (separator part : Text) {parts : List Text} (filled : parts ≠ []) :
    join separator (part :: parts) = part ++ separator ++ join separator parts := by
  rcases List.exists_cons_of_ne_nil filled with ⟨other, others, rfl⟩
  rfl

/-- A text is what its parts make. -/
theorem join_splitOn (separator : Nat) (source : Text) :
    join [separator] (splitOn separator source) = source := by
  induction source with
  | nil => rfl
  | cons c source inductionHypothesis =>
      rw [splitOn]
      split
      · rename_i here
        rw [join_cons _ _ (splitOn_ne_nil separator source), inductionHypothesis, here]
        rfl
      · rcases List.exists_cons_of_ne_nil (splitOn_ne_nil separator source) with
          ⟨part, parts, whole⟩
        rw [whole] at inductionHypothesis ⊢
        rw [← inductionHypothesis]
        cases parts with
        | nil => rfl
        | cons other others => rfl

/-- No part holds the character at which the text is cut. -/
theorem not_mem_of_mem_splitOn {separator : Nat} {source part : Text}
    (member : part ∈ splitOn separator source) : separator ∉ part := by
  induction source generalizing part with
  | nil =>
      rw [splitOn, List.mem_singleton] at member
      rw [member]
      exact List.not_mem_nil
  | cons c source inductionHypothesis =>
      rw [splitOn] at member
      split at member
      · rcases List.mem_cons.mp member with rfl | member
        · exact List.not_mem_nil
        · exact inductionHypothesis member
      · rename_i differs
        rcases List.exists_cons_of_ne_nil (splitOn_ne_nil separator source) with
          ⟨first, others, whole⟩
        rw [whole] at member inductionHypothesis
        rcases List.mem_cons.mp member with rfl | member
        · rw [List.mem_cons, not_or]
          exact ⟨Ne.symm differs, inductionHypothesis List.mem_cons_self⟩
        · exact inductionHypothesis (List.mem_cons_of_mem _ member)

end Respecify.Text

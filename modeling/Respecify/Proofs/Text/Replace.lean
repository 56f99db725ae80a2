import Mathlib.Data.List.Infix
import Respecify.Text.Basic

/-!
# Replacing parts of a text

Replacing goes through a text from left to right.  Where the old part begins, the new
one is written for it; any other character is passed on.  A part that shares no
character with the start of the old and the new one begins in the text afterwards only
if it began there before.
-/

namespace Respecify.Text

variable {old new source rest part : Text} {c : Nat}

/-! ## One step after the other -/

/-- Looking at more characters than there are changes nothing. -/
theorem replaceWithin_eq_replace (filled : old ≠ []) {bound : Nat}
    (enough : source.length ≤ bound) :
    replaceWithin old new bound source = source.replace old new := by
  have same : ∀ (one other : Nat) (source : Text), source.length ≤ one → source.length ≤ other →
      replaceWithin old new one source = replaceWithin old new other source := by
    intro one
    induction one with
    | zero =>
        intro other source short _
        have empty : source = [] := List.length_eq_zero_iff.mp (Nat.le_zero.mp short)
        subst source
        cases other <;> rfl
    | succ one inductionHypothesis =>
        intro other source short short'
        cases source with
        | nil => cases other <;> rfl
        | cons c rest =>
            cases other with
            | zero => cases short'
            | succ other =>
                rw [List.length_cons] at short short'
                have positive : 0 < old.length := List.length_pos_iff.mpr filled
                have dropped : ((c :: rest).drop old.length).length ≤ rest.length := by
                  rw [List.length_drop, List.length_cons]
                  omega
                rw [replaceWithin, replaceWithin]
                split
                · rw [inductionHypothesis other _ (by omega) (by omega)]
                · rw [inductionHypothesis other _ (by omega) (by omega)]
  exact same bound source.length source enough (Nat.le_refl _)

@[simp]
theorem replace_nil (old new : Text) : replace [] old new = [] :=
  rfl

/-- The new part is written where the old one begins. -/
theorem replace_append_left (filled : old ≠ []) (new rest : Text) :
    replace (old ++ rest) old new = new ++ replace rest old new := by
  rcases List.exists_cons_of_ne_nil filled with ⟨c, others, rfl⟩
  have begins : (c :: others).isPrefixOf (c :: (others ++ rest)) = true :=
    List.isPrefixOf_iff_prefix.mpr (List.prefix_append (c :: others) rest)
  rw [List.cons_append, replace, List.length_cons, replaceWithin, if_pos begins]
  apply congrArg (new ++ ·)
  rw [← List.cons_append, List.drop_left]
  exact replaceWithin_eq_replace filled (by simp)

/-- Where the old part does not begin, a character is passed on. -/
theorem replace_cons (filled : old ≠ []) (new : Text) (other : ¬ old <+: c :: rest) :
    replace (c :: rest) old new = c :: replace rest old new := by
  have absent : old.isPrefixOf (c :: rest) = false := by
    rw [Bool.eq_false_iff, ne_eq, List.isPrefixOf_iff_prefix]
    exact other
  rw [replace, List.length_cons, replaceWithin, absent, if_neg Bool.false_ne_true]
  apply congrArg (c :: ·)
  exact replaceWithin_eq_replace filled (Nat.le_refl _)

/-- A text is empty, or the old part begins it, or it goes on with a character that is
passed on. -/
@[elab_as_elim]
theorem replace_induction {motive : Text → Prop} (filled : old ≠ []) (nil : motive [])
    (found : ∀ rest, motive rest → motive (old ++ rest))
    (passed : ∀ c rest, ¬ old <+: c :: rest → motive rest → motive (c :: rest))
    (source : Text) : motive source := by
  induction bound : source.length using Nat.strong_induction_on generalizing source with
  | h bound inductionHypothesis =>
      subst bound
      by_cases begins : old <+: source
      · rcases begins with ⟨rest, rfl⟩
        have positive : 0 < old.length := List.length_pos_iff.mpr filled
        apply found
        apply inductionHypothesis rest.length _ rest rfl
        rw [List.length_append]
        omega
      · cases source with
        | nil => exact nil
        | cons c rest =>
            apply passed c rest begins
            exact inductionHypothesis rest.length (by simp) rest rfl

/-! ## What begins in a text afterwards -/

/-- Where the old and the new part start alike, what begins without that character began
before. -/
theorem prefix_of_prefix_replace {oldRest newRest : Text} (absent : c ∉ part)
    (begins : part <+: source.replace (c :: oldRest) (c :: newRest)) : part <+: source := by
  induction part generalizing source with
  | nil => exact List.nil_prefix
  | cons first others inductionHypothesis =>
      rw [List.mem_cons, not_or] at absent
      have filled : c :: oldRest ≠ [] := List.cons_ne_nil _ _
      cases source with
      | nil => exact begins
      | cons d rest =>
          by_cases isOld : c :: oldRest <+: d :: rest
          · rcases isOld with ⟨behind, whole⟩
            rw [← whole, replace_append_left filled, List.cons_append] at begins
            exact absurd (List.cons_prefix_cons.mp begins).1.symm absent.1
          · rw [replace_cons filled _ isOld, List.cons_prefix_cons] at begins
            rw [List.cons_prefix_cons]
            exact ⟨begins.1, inductionHypothesis absent.2 begins.2⟩

/-- What was put behind each occurrence of a character can be taken away again. -/
theorem replace_replace_character (c : Nat) (added source : Text) :
    (source.replace [c] (c :: added)).replace (c :: added) [c] = source := by
  have single : [c] ≠ [] := List.cons_ne_nil _ _
  have filled : c :: added ≠ [] := List.cons_ne_nil _ _
  induction source with
  | nil => rfl
  | cons d rest inductionHypothesis =>
      by_cases same : c = d
      · subst d
        rw [← List.singleton_append, replace_append_left single, replace_append_left filled,
          inductionHypothesis]
      · have other : ¬ [c] <+: d :: rest := by simp [same]
        have other' : ¬ c :: added <+: d :: replace rest [c] (c :: added) := by
          simp [List.cons_prefix_cons, same]
        rw [replace_cons single _ other, replace_cons filled _ other', inductionHypothesis]

end Respecify.Text

import Respecify.Path.Normal
import Respecify.Proofs.Text.Split

/-!
# Paths in normal form

What resolving a path leads to is made of segments that are names and neither of the
two dotted ones, with one slash before each of them.  So a name that is such a path,
with or without its slash, holds no character that a segment may not hold, and it does
not begin with the marker of the root.
-/

namespace Respecify.Path

/-- The path has one slash before each of its segments, of which there is at least one. -/
def IsNormal (path : Text) : Prop :=
  ∃ segments : List Text, segments ≠ [] ∧
    (∀ segment ∈ segments, isSegment segment = true ∧ separator ∉ segment) ∧
    path = ofSegments segments

/-! ## What a normal form is -/

theorem isName_of_isSegment {segment : Text} (isOne : isSegment segment = true) :
    isName segment = true :=
  (Bool.and_eq_true_iff.mp (Bool.and_eq_true_iff.mp isOne).1).1

theorem ne_nil_of_isSegment {segment : Text} (isOne : isSegment segment = true) :
    segment ≠ [] := by
  rintro rfl
  cases isOne

theorem ne_here_of_isSegment {segment : Text} (isOne : isSegment segment = true) :
    segment ≠ here := by
  rintro rfl
  cases isOne

theorem ne_above_of_isSegment {segment : Text} (isOne : isSegment segment = true) :
    segment ≠ above := by
  rintro rfl
  cases isOne

/-- A character that a segment may hold is no blank. -/
theorem isBlank_of_isForbidden {c : Nat} (allowed : isForbidden c = false) :
    isBlank c = false := by
  rw [isForbidden, Bool.or_eq_false_iff] at allowed
  exact allowed.1

/-- A segment holds no character that none may hold. -/
theorem isForbidden_of_isSegment {segment : Text} (isOne : isSegment segment = true) :
    ∀ c ∈ segment, isForbidden c = false := by
  have plain := (Bool.and_eq_true_iff.mp (isName_of_isSegment isOne)).2
  rw [Bool.not_eq_true', List.any_eq_false] at plain
  exact fun c member => Bool.eq_false_iff.mpr (plain c member)

namespace IsNormal

variable {path name : Text}

/-- A path in normal form is a slash and something behind it. -/
theorem exists_cons (normal : IsNormal path) : ∃ rest, rest ≠ [] ∧ path = separator :: rest := by
  rcases normal with ⟨segments, filled, each, rfl⟩
  rcases List.exists_cons_of_ne_nil filled with ⟨first, others, rfl⟩
  have nonempty := ne_nil_of_isSegment (each first List.mem_cons_self).1
  rw [ofSegments, List.flatMap_cons, List.cons_append]
  exact ⟨_, fun empty => nonempty (List.append_eq_nil_iff.mp empty).1, rfl⟩

/-- A path in normal form has its slash. -/
theorem rooted_eq (normal : IsNormal path) : rooted path = path := by
  rcases normal.exists_cons with ⟨rest, _, rfl⟩
  exact rooted_cons_separator rest

/-- No character of a path in normal form is one that no segment may hold. -/
theorem isForbidden_eq_false (normal : IsNormal path) : ∀ c ∈ path, isForbidden c = false := by
  rcases normal with ⟨segments, _, each, rfl⟩
  intro c member
  rcases List.mem_flatMap.mp member with ⟨segment, isOne, inside⟩
  rcases List.mem_cons.mp inside with rfl | inside
  · decide +kernel
  · exact isForbidden_of_isSegment (each segment isOne).1 c inside

/-- The name of a path in normal form does not begin with the marker of the root. -/
theorem dropStart_rootMarker (normal : IsNormal (rooted name)) :
    name.dropStart rootMarker = name := by
  refine if_neg fun marked => ?_
  rcases List.isPrefixOf_iff_prefix.mp marked with ⟨rest, rfl⟩
  rcases normal with ⟨segments, filled, each, whole⟩
  rcases List.exists_cons_of_ne_nil filled with ⟨first, others, rfl⟩
  have isFirst := each first List.mem_cons_self
  have begins : 0x2E :: separator :: rest = first ++ ofSegments others := by
    have slash : rooted (rootMarker ++ rest) = separator :: 0x2E :: separator :: rest := rfl
    rw [slash, ofSegments, List.flatMap_cons, List.cons_append] at whole
    exact (List.cons.inj whole).2
  -- The first segment is neither empty nor a dot, so it would reach over the slash.
  match first, isFirst, begins with
  | [], isFirst, _ => exact ne_nil_of_isSegment isFirst.1 rfl
  | [c], isFirst, begins =>
      have dot : 0x2E = c := (List.cons.inj begins).1
      exact ne_here_of_isSegment isFirst.1 (dot ▸ rfl)
  | c :: d :: more, isFirst, begins =>
      have slash : separator = d := (List.cons.inj (List.cons.inj begins).2).1
      exact isFirst.2 (by simp [slash])

end IsNormal

/-! ## What has a normal form -/

variable {path found specifier : Text} {bases : List Text}

/-- The segments of the place to which segments lead are those of the place where they
start, and some of them that name a file or a directory. -/
theorem forall_of_follow {allowed : Text → Prop} {place segments found : List Text}
    (followed : follow place segments = some found) (start : ∀ segment ∈ place, allowed segment)
    (more : ∀ segment ∈ segments, isSegment segment = true → allowed segment) :
    ∀ segment ∈ found, allowed segment := by
  induction segments generalizing place with
  | nil =>
      rw [follow] at followed
      exact Option.some.inj followed ▸ start
  | cons segment segments inductionHypothesis =>
      have others := fun other member => more other (List.mem_cons_of_mem segment member)
      unfold follow at followed
      split at followed
      · exact inductionHypothesis followed start others
      · rename_i notHere
        split at followed
        · cases place with
          | nil => cases followed
          | cons _ parent =>
              exact inductionHypothesis followed
                (fun other member => start other (List.mem_cons_of_mem _ member)) others
        · rename_i notAbove
          split at followed
          · rename_i isOne
            have own : allowed segment := more segment List.mem_cons_self
              (by simp [isSegment, isOne, notHere, notAbove])
            exact inductionHypothesis followed
              (fun other member => (List.mem_cons.mp member).elim (· ▸ own) (start other)) others
          · cases followed

theorem not_mem_of_mem_segments {segment : Text} (member : segment ∈ segments path) :
    separator ∉ segment :=
  Text.not_mem_of_mem_splitOn member

/-- What a path is resolved to is in normal form. -/
theorem isNormal_of_resolve? (resolved : resolve? path = some found) : IsNormal found := by
  unfold resolve? at resolved
  split at resolved
  · cases resolved
  · cases resolved
  · rename_i place nonempty followed
    cases resolved
    have each : ∀ segment ∈ place, isSegment segment = true ∧ separator ∉ segment :=
      forall_of_follow followed (fun _ member => absurd member List.not_mem_nil)
        (fun _ member isOne => ⟨isOne, not_mem_of_mem_segments member⟩)
    exact ⟨place.reverse, fun empty => nonempty (List.reverse_eq_nil_iff.mp empty),
      fun segment member => each segment (List.mem_reverse.mp member), rfl⟩

theorem isNormal_of_normalize (normalized : normalize path bases = some found) :
    IsNormal found := by
  unfold normalize at normalized
  dsimp only at normalized
  split at normalized
  · cases normalized
  · split at normalized
    · exact isNormal_of_resolve? normalized
    · rcases List.exists_of_findSome?_eq_some normalized with ⟨base, _, resolved⟩
      exact isNormal_of_resolve? resolved

/-- The paths under which a specifier is looked up are in normal form. -/
theorem isNormal_of_mem_candidates (candidate : path ∈ candidates specifier bases) :
    IsNormal path := by
  have collected : ∀ path ∈ candidates specifier bases, IsNormal path := by
    unfold candidates
    refine List.foldlRecOn (motive := fun found => ∀ path ∈ found, IsNormal path)
      (variants specifier) _ (fun _ member => absurd member List.not_mem_nil) ?_
    intro found before variant _
    split
    · rename_i other normalized
      split
      · exact before
      · intro path member
        rcases List.mem_append.mp member with member | member
        · exact before path member
        · exact List.mem_singleton.mp member ▸ isNormal_of_normalize normalized
    · exact before
  exact collected path candidate

end Respecify.Path

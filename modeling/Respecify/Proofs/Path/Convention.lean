import Respecify.Path.Convention
import Respecify.Proofs.Text.Slice

/-!
# Names of modules

Imports may leave out the slash at the start and the extension of a script, so a module
is known by its name with both of them.  Names of the same file are names of the same
module, whichever of the two is asked for.
-/

namespace Respecify.Path

variable {name other specifier : Text}

/-- The name of a script with its slash and with its extension. -/
def modulePath (name : Text) : Text :=
  rooted (withExtension name)

/-- A slash at the start does not change how a name ends. -/
theorem endsWith_rooted (name : Text) :
    (rooted name).endsWith moduleExtension = name.endsWith moduleExtension := by
  unfold rooted
  split
  · rfl
  · rw [Bool.eq_iff_iff, Text.endsWith_iff, Text.endsWith_iff, List.suffix_cons_iff]
    have slashless : moduleExtension.head? ≠ some separator := by decide
    refine or_iff_right fun whole => slashless ?_
    rw [whole, List.head?_cons]

/-- The slash and the extension are put at two ends of a name. -/
theorem rooted_append_moduleExtension (name : Text) :
    rooted (name ++ moduleExtension) = rooted name ++ moduleExtension := by
  cases name with
  | nil => decide
  | cons c rest =>
      by_cases slash : separator = c
      · simp [rooted, Text.startsWith, slash]
      · simp [rooted, Text.startsWith, slash]

/-- The slash and the extension may be added in either order. -/
theorem modulePath_eq_withExtension_rooted (name : Text) :
    modulePath name = withExtension (rooted name) := by
  rw [modulePath, withExtension, withExtension, endsWith_rooted]
  split
  · rfl
  · exact rooted_append_moduleExtension name

/-- Names of the same file are names of the same module. -/
theorem modulePath_eq_of_sameFile (same : sameFile name other = true) :
    modulePath name = modulePath other := by
  rw [modulePath_eq_withExtension_rooted, modulePath_eq_withExtension_rooted,
    beq_iff_eq.mp same]

/-- A specifier names the scripts of one module. -/
theorem modulePath_eq_of_namesModule (names : namesModule name specifier = true) :
    modulePath name = modulePath (specifier.dropStart rootMarker) :=
  beq_iff_eq.mp names

theorem modulePath_rooted (name : Text) : modulePath (rooted name) = modulePath name :=
  modulePath_eq_of_sameFile (by rw [sameFile_rooted, sameFile_self])

/-! ## Slashes at the start -/

theorem startsWith_rooted (name : Text) : (rooted name).startsWith [separator] = true := by
  rcases exists_rooted_eq name with ⟨rest, whole⟩
  simp [whole, Text.startsWith]

/-- A name is as it was with its slash exactly if it had one. -/
theorem rooted_eq_self_iff : rooted name = name ↔ name.startsWith [separator] = true := by
  constructor
  · intro same
    exact same ▸ startsWith_rooted name
  · exact fun slash => if_pos slash

theorem mem_rooted {c : Nat} (member : c ∈ name) : c ∈ rooted name := by
  unfold rooted
  split
  · exact member
  · exact List.mem_cons_of_mem _ member

/-- A name with its slash does not begin with the marker of the root. -/
theorem dropStart_rootMarker_rooted (name : Text) :
    (rooted name).dropStart rootMarker = rooted name := by
  rcases exists_rooted_eq name with ⟨rest, whole⟩
  have apart : rootMarker = [0x2E, separator] := rfl
  refine if_neg ?_
  rw [whole, apart, Text.startsWith, List.isPrefixOf]
  simp [separator]

/-! ## The module that a specifier names -/

/-- The module that an import names from the root.  The marker of the root may stand
before its name twice: it is taken away once before the names are compared, and once
more when they are. -/
def rootModule (specifier : Text) : Text :=
  modulePath ((specifier.dropStart rootMarker).dropStart rootMarker)

theorem rootModule_rooted (name : Text) : rootModule (rooted name) = modulePath name := by
  rw [rootModule, dropStart_rootMarker_rooted, dropStart_rootMarker_rooted, modulePath_rooted]

theorem mem_withExtension {c : Nat} (member : c ∈ name) : c ∈ withExtension name := by
  unfold withExtension
  split
  · exact member
  · exact List.mem_append_left _ member

/-- Nothing but the slash and the extension is added to a name. -/
theorem mem_of_mem_modulePath {c : Nat} (member : c ∈ modulePath name) :
    c ∈ name ∨ c ∈ separator :: moduleExtension := by
  have inside : c = separator ∨ c ∈ withExtension name := by
    unfold modulePath rooted at member
    split at member
    · exact Or.inr member
    · exact List.mem_cons.mp member
  rcases inside with rfl | inside
  · exact Or.inr List.mem_cons_self
  · unfold withExtension at inside
    split at inside
    · exact Or.inl inside
    · exact (List.mem_append.mp inside).imp_right (List.mem_cons_of_mem _)

/-- A name with its slash is no URL. -/
theorem isUrl_rooted (name : Text) : isUrl (rooted name) = false := by
  rcases exists_rooted_eq name with ⟨rest, whole⟩
  rw [whole]
  rfl

/-- A URL has a colon behind its scheme. -/
theorem mem_of_isUrl (isUrl : isUrl specifier = true) : 0x3A ∈ specifier := by
  cases specifier with
  | nil => cases isUrl
  | cons c rest =>
      have colon := (Bool.and_eq_true_iff.mp isUrl).2
      have behind := List.mem_of_mem_head? (beq_iff_eq.mp colon)
      exact List.mem_cons_of_mem c ((List.dropWhile_suffix _).subset behind)

end Respecify.Path

import Mathlib.Data.List.Forall2
import Respecify.Proofs.Import.Resolution
import Respecify.Proofs.Text.Blank
import Respecify.Proofs.Text.Slice

/-!
# Slashes before names

The slash at the start of a name may be there or not: names are compared with it, and the
directories above a script are listed without looking at it.  So a specifier resolves to
the same script, at the same place among the names that are known, however many of them
are told with their slash.  Only where a name is written as it is known does the slash
show: that is the specifier of a script found from a directory.
-/

namespace Respecify

namespace Path

variable {name other : Text}

/-- The other name is the same one, or the same one with the slash that it lacks. -/
def Slashed (name other : Text) : Prop :=
  other = name ∨ name.startsWith [separator] = false ∧ other = separator :: name

theorem Slashed.rooted_eq (slashed : Slashed name other) : rooted other = rooted name := by
  rcases slashed with rfl | ⟨slashless, rfl⟩
  · rfl
  · rw [rooted_cons_separator, rooted, slashless, if_neg Bool.false_ne_true]

theorem Slashed.modulePath_eq (slashed : Slashed name other) :
    modulePath other = modulePath name := by
  rw [← modulePath_rooted, slashed.rooted_eq, modulePath_rooted]

theorem Slashed.sameFile_eq (slashed : Slashed name other) (path : Text) :
    sameFile other path = sameFile name path := by
  rw [← sameFile_rooted, slashed.rooted_eq, sameFile_rooted]

/-- A name lies in the same directories with its slash and without it, unless blanks
stand at its start: they would stand behind the slash. -/
theorem Slashed.enclosingDirectories_eq (slashed : Slashed name other)
    (visible : ∀ c ∈ name.head?, isBlank c = false) :
    enclosingDirectories other = enclosingDirectories name := by
  rcases slashed with rfl | ⟨slashless, rfl⟩
  · rfl
  · have slash : isBlank separator = false := by decide
    have added : unrooted (Text.strip (separator :: name)) = Text.stripEnd name := by
      rw [Text.strip_cons slash]
      simp [unrooted, Text.dropStart, Text.startsWith]
    have bare : unrooted name.strip = Text.stripEnd name := by
      rw [Text.strip_eq_stripEnd visible]
      apply if_neg
      intro starts
      rw [Text.startsWith_iff] at starts
      rw [Text.startsWith_iff.mpr (starts.trans (Text.stripEnd_prefix name))] at slashless
      cases slashless
    rw [enclosingDirectories, enclosingDirectories, added, bare]

end Path

open Respecify.Path

namespace Known

/-! ## Names at the same place -/

variable {known slashed : Known}

/-- Of two lists of names the same one was picked, each in its own form: the first of its
name in either list, at one place, and they differ at most in a slash.  Or none was. -/
inductive PickedAlike (known slashed : Known) : Option Text → Option Text → Prop where
  | missed : PickedAlike known slashed none none
  | found {name other : Text} {position : Nat} (first : known.idxOf? name = some position)
      (first' : slashed.idxOf? other = some position) (same : Slashed name other) :
      PickedAlike known slashed (some name) (some other)

/-- What is asked of names without looking at their slash picks the same one. -/
theorem pickedAlike_find? {asked : Text → Bool} (names : List.Forall₂ Slashed known slashed)
    (blind : ∀ name other, Slashed name other → asked other = asked name) :
    PickedAlike known slashed (known.find? asked) (slashed.find? asked) := by
  induction names with
  | nil => exact .missed
  | @cons name other known slashed same names inductionHypothesis =>
      rw [List.find?_cons, List.find?_cons, blind name other same]
      cases isAsked : asked name with
      | true =>
          have first : (name :: known).idxOf? name = some 0 := by simp [List.idxOf?_cons]
          have first' : (other :: slashed).idxOf? other = some 0 := by simp [List.idxOf?_cons]
          exact .found first first' same
      | false =>
          dsimp only
          generalize picked : known.find? asked = one at inductionHypothesis ⊢
          generalize picked' : slashed.find? asked = two at inductionHypothesis ⊢
          cases inductionHypothesis with
          | missed => exact .missed
          | @found later later' position first first' sameLater =>
              have passed : (name == later) = false := by
                rw [beq_eq_false_iff_ne]
                rintro rfl
                cases isAsked.symm.trans (List.find?_some picked)
              have passed' : (other == later') = false := by
                rw [beq_eq_false_iff_ne]
                rintro rfl
                rw [← blind name other same, List.find?_some picked'] at isAsked
                cases isAsked
              have next : (name :: known).idxOf? later = some (position + 1) := by
                simp [List.idxOf?_cons, passed, first]
              have next' : (other :: slashed).idxOf? later' = some (position + 1) := by
                simp [List.idxOf?_cons, passed', first']
              exact .found next next' sameLater

theorem pickedAlike_findSome? {paths : List Text} {search search' : Text → Option Text}
    (alike : ∀ path, PickedAlike known slashed (search path) (search' path)) :
    PickedAlike known slashed (paths.findSome? search) (paths.findSome? search') := by
  induction paths with
  | nil => exact .missed
  | cons path paths inductionHypothesis =>
      have here := alike path
      rw [List.findSome?_cons, List.findSome?_cons]
      generalize search path = picked at here ⊢
      generalize search' path = picked' at here ⊢
      cases here with
      | missed => exact inductionHypothesis
      | found first first' same => exact .found first first' same

/-! ## Resolving among slashed names -/

section Slashed

variable (names : List.Forall₂ Slashed known slashed)

include names

theorem pickedAlike_rootMatch? (specifier : Text) :
    PickedAlike known slashed (known.rootMatch? specifier) (slashed.rootMatch? specifier) := by
  rw [rootMatch?_eq_find?, rootMatch?_eq_find?]
  apply pickedAlike_find? names
  intro name other same
  rw [same.modulePath_eq]

theorem pickedAlike_directoryMatch? {importer importer' : Text}
    (directories : enclosingDirectories importer' = enclosingDirectories importer)
    (specifier : Text) :
    PickedAlike known slashed (known.directoryMatch? specifier importer)
      (slashed.directoryMatch? specifier importer') := by
  rw [directoryMatch?, directoryMatch?, directories]
  apply pickedAlike_findSome?
  intro path
  apply pickedAlike_find? names
  intro name other same
  exact same.sameFile_eq path

end Slashed

end Known

/-- Two outcomes tell the same of two lists of names: the specifier that is written for a
script found from the root, or the reason why none is written, and the place of the
script in its list.  A script that is found from a directory is written as its list has
it. -/
inductive Resolution.Alike (known slashed : Known) : Resolution → Resolution → Prop where
  | root {target target' : Text} {position : Nat} (new : Text)
      (first : known.idxOf? target = some position)
      (first' : slashed.idxOf? target' = some position) :
      Alike known slashed (.root new target) (.root new target')
  | directory {target target' : Text} {position : Nat}
      (first : known.idxOf? target = some position)
      (first' : slashed.idxOf? target' = some position) :
      Alike known slashed (.directory target target) (.directory target' target')
  | unresolved (reason : Reason) : Alike known slashed (.unresolved reason) (.unresolved reason)

namespace Known

/-- Slashes that are put before known names, and before the name of the importing script,
change nothing of what a specifier resolves to but how the script is told.  In front of
the importing script there must be no blank, since the slash would keep it there. -/
theorem resolve_alike {known slashed : Known} {importer importer' : Text}
    (names : List.Forall₂ Slashed known slashed) (same : Slashed importer importer')
    (visible : ∀ c ∈ importer.head?, isBlank c = false) (specifier : Text) :
    Resolution.Alike known slashed (known.resolve specifier importer)
      (slashed.resolve specifier importer') := by
  have fromRoot := pickedAlike_rootMatch? names specifier
  have fromDirectory :=
    pickedAlike_directoryMatch? names (same.enclosingDirectories_eq visible) specifier
  unfold resolve
  split
  · exact .unresolved .external
  · generalize known.rootMatch? specifier = root at fromRoot ⊢
    generalize slashed.rootMatch? specifier = root' at fromRoot ⊢
    cases fromRoot with
    | found first first' same =>
        dsimp only
        rw [same.rooted_eq]
        split
        · exact .unresolved .upToDate
        · exact .root _ first first'
    | missed =>
        generalize known.directoryMatch? specifier importer = directory at fromDirectory ⊢
        generalize slashed.directoryMatch? specifier importer' = directory' at fromDirectory ⊢
        cases fromDirectory with
        | found first first' same => exact .directory first first'
        | missed => exact .unresolved .notFound

/-- Of an empty name, one with a dot and a plain one, the first and the last get their
slash, and so does the importing script: the script is still found, as it is told. -/
theorem resolve_alike_three_names :
    let known := [[], text "./b.js", text "lib/b.js"]
    let slashed := [text "/", text "./b.js", text "/lib/b.js"]
    let importer := text "lib/m.js"
    let specifier := text "../lib/b"
    List.Forall₂ Slashed known slashed ∧ Slashed importer (separator :: importer) ∧
      (∀ c ∈ importer.head?, isBlank c = false) ∧
      Resolution.Alike known slashed (resolve known specifier importer)
        (resolve slashed specifier (separator :: importer)) ∧
      resolve known specifier importer = .directory (text "lib/b.js") (text "lib/b.js") ∧
      resolve slashed specifier (separator :: importer) =
        .directory (text "/lib/b.js") (text "/lib/b.js") := by
  intro known slashed importer specifier
  have names : List.Forall₂ Slashed known slashed := by
    refine .cons (.inr ?_) (.cons (.inl rfl) (.cons (.inr ?_) .nil)) <;> decide
  have same : Slashed importer (separator :: importer) := .inr ⟨by decide, rfl⟩
  have visible : ∀ c ∈ importer.head?, isBlank c = false := by decide
  exact ⟨names, same, visible, resolve_alike names same visible specifier,
    by decide, by decide⟩

end Known

end Respecify

import Respecify.Annotation.Banner
import Respecify.Annotation.Warning
import Respecify.Proofs.Text.Slice

/-!
# Import declarations and the markers above them

A marker is looked for right before an import declaration, without regard to
where the declaration before it ends.  The last character of a declaration
occurs in no marker, so a marker that is found lies behind it.
-/

namespace Respecify

/-- The characters with which an import declaration can end: its semicolon, the
quote of its specifier or the brace of its attributes. -/
def declarationEnds : Text :=
  text ";\x22\x27\x7d"

/-- The text starts and ends like an import declaration. -/
def isDeclaration (statement : Text) : Bool :=
  statement.startsWith (text "import") && statement.getLast?.any declarationEnds.contains

/-- The sites stand in a text as a parser finds them: in source order, none
inside another one, each on the text of an import declaration. -/
structure Orderly (source : Text) (sites : List ImportSite) : Prop where
  apart : sites.Pairwise fun earlier later =>
    earlier.statementRange.stop ≤ later.statementRange.start
  inside : ∀ site ∈ sites, site.statementRange.stop ≤ source.length
  declared : ∀ site ∈ sites, isDeclaration (site.statementRange.slice source) = true

instance (source : Text) (sites : List ImportSite) : Decidable (Orderly source sites) :=
  decidable_of_iff
    ((sites.Pairwise fun earlier later =>
        earlier.statementRange.stop ≤ later.statementRange.start) ∧
      (∀ site ∈ sites, site.statementRange.stop ≤ source.length) ∧
      ∀ site ∈ sites, isDeclaration (site.statementRange.slice source) = true)
    ⟨fun ⟨apart, inside, declared⟩ => ⟨apart, inside, declared⟩,
      fun orderly => ⟨orderly.apart, orderly.inside, orderly.declared⟩⟩

/-- A declaration ends with one of the characters that can end one. -/
theorem exists_declarationEnd {statement : Text} (declared : isDeclaration statement = true) :
    ∃ first c, statement = first ++ [c] ∧ c ∈ declarationEnds := by
  have ended : statement.getLast?.any declarationEnds.contains = true :=
    (Bool.and_eq_true_iff.mp declared).2
  rcases Option.any_eq_true_iff_get declarationEnds.contains _ |>.mp ended with ⟨some, contained⟩
  rcases Option.isSome_iff_exists.mp some with ⟨c, last⟩
  rcases List.getLast?_eq_some_iff.mp last with ⟨first, whole⟩
  refine ⟨first, c, whole, ?_⟩
  simpa [last] using contained

namespace ImportSite

/-- A declaration is not empty, because its specifier is not. -/
theorem statement_nonempty (site : ImportSite) :
    site.statementRange.start < site.statementRange.stop := by
  have inside := site.specifier_inside
  have nonempty := site.specifier_nonempty
  simp only [TextRange.contains, Bool.and_eq_true, decide_eq_true_eq] at inside
  omega

theorem start_le_specifier (site : ImportSite) :
    site.statementRange.start ≤ site.specifierRange.start := by
  have inside := site.specifier_inside
  simp only [TextRange.contains, Bool.and_eq_true, decide_eq_true_eq] at inside
  exact inside.1

theorem specifier_le_stop (site : ImportSite) :
    site.specifierRange.stop ≤ site.statementRange.stop := by
  have inside := site.specifier_inside
  simp only [TextRange.contains, Bool.and_eq_true, decide_eq_true_eq] at inside
  exact inside.2

end ImportSite

/-- A marker right before an offset lies behind a declaration that ends before
it, if the marker holds no character with which a declaration ends. -/
theorem stop_add_length_le_of_marker {source marker : Text} {site : ImportSite} {offset : Nat}
    (declared : isDeclaration (site.statementRange.slice source) = true)
    (ordered : site.statementRange.stop ≤ offset) (inside : offset ≤ source.length)
    (plain : ∀ c ∈ marker, c ∉ declarationEnds)
    (marked : source.endsWithAt marker offset = true) :
    site.statementRange.stop + marker.length ≤ offset := by
  rcases exists_declarationEnd declared with ⟨first, last, whole, ending⟩
  have absent : last ∉ marker := fun member => plain last member ending
  have upTo : source.take offset =
      (source.take site.statementRange.start ++ first) ++
        last :: source.slice site.statementRange.stop offset := by
    calc
      source.take offset
          = source.take site.statementRange.stop ++
              source.slice site.statementRange.stop offset :=
            (Text.take_append_slice source ordered).symm
      _ = (source.take site.statementRange.start ++ site.statementRange.slice source) ++
              source.slice site.statementRange.stop offset := by
            rw [TextRange.slice,
              Text.take_append_slice source site.statementRange.start_le_stop]
      _ = _ := by
            rw [whole]
            simp only [List.append_assoc, List.singleton_append]
  have behind : marker <:+ source.slice site.statementRange.stop offset := by
    rw [Text.endsWithAt_iff, upTo] at marked
    exact (Text.suffix_append_cons_iff absent).mp marked
  have shorter := behind.length_le
  rw [Text.length_slice source _ inside] at shorter
  omega

namespace Warning

/-- The two forms in which a warning is found. -/
def markers : List Text :=
  [block, comment ++ [lineFeed]]

theorem markers_plain {marker : Text} (member : marker ∈ markers) :
    ∀ c ∈ marker, c ∉ declarationEnds := by
  have plain : ∀ marker ∈ markers, ∀ c ∈ marker, c ∉ declarationEnds := by decide +kernel
  exact plain marker member

theorem length_pos_of_mem_markers {marker : Text} (member : marker ∈ markers) :
    0 < marker.length := by
  rw [markers, List.mem_cons, List.mem_singleton] at member
  rcases member with rfl | rfl <;> simp [block]

/-- A warning is found where one of its forms stands right before the import;
it starts as far before the import as that form is long. -/
theorem exists_marker_of_span? {source : Text} {site : ImportSite} {span : TextRange}
    (inside : site.statementRange.start ≤ source.length)
    (found : span? source site = some span) :
    ∃ marker ∈ markers, source.endsWithAt marker site.statementRange.start = true ∧
      span.start + marker.length = site.statementRange.start ∧
      span.stop = site.statementRange.start := by
  have ofMarker : ∀ marker, markerSpan? source site marker = some span →
      source.endsWithAt marker site.statementRange.start = true ∧
        span.start + marker.length = site.statementRange.start ∧
        span.stop = site.statementRange.start := by
    intro marker here
    simp only [markerSpan?] at here
    split at here
    · rename_i marked
      have shorter := (Text.endsWithAt_iff.mp marked).length_le
      rw [List.length_take, Nat.min_eq_left inside] at shorter
      cases here
      exact ⟨marked, Nat.sub_add_cancel shorter, rfl⟩
    · contradiction
  unfold span? at found
  split at found
  · rename_i here
    cases found
    exact ⟨block, by simp [markers], ofMarker block here⟩
  · exact ⟨comment ++ [lineFeed], by simp [markers], ofMarker _ found⟩

end Warning

end Respecify

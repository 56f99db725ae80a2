import Respecify.Migration.Plan
import Respecify.Proofs.Import.Declaration
import Respecify.Proofs.Source.Substitution

/-!
# What the planned edits do to a text

The planned edits of all imports are made in one pass from the end of the text
to its start.  The same text is told here from the start to the end, import by
import, and the two are shown to agree in whatever order the outcomes are
planned.
-/

namespace Respecify

/-! ## The text that outcomes call for -/

/-- The comment that is put above an import with a given declaration. -/
def Resolution.comment (statement : Text) : Resolution → Text
  | .root .. | .directory .. => Banner.block statement
  | .unresolved .notFound => Warning.block
  | .unresolved _ => []

namespace Outcome

/-- Where the text before an import ends that stays: before a warning that no
longer holds, and otherwise right before the import. -/
def keptUntil (source : Text) (outcome : Outcome) : Nat :=
  if outcome.resolves then
    ((Warning.span? source outcome.site).map TextRange.start).getD
      outcome.site.statementRange.start
  else
    outcome.site.statementRange.start

/-- The comment that is put above an import. -/
def comment (source : Text) (outcome : Outcome) : Text :=
  outcome.resolution.comment (outcome.site.statementRange.slice source)

/-- The specifier that an import gets. -/
def specifier (source : Text) (outcome : Outcome) : Text :=
  outcome.resolution.newSpecifier?.getD (outcome.site.specifierRange.slice source)

/-- The declaration with the specifier that the import gets. -/
def declaration (source : Text) (outcome : Outcome) : Text :=
  source.slice outcome.site.statementRange.start outcome.site.specifierRange.start ++
    outcome.specifier source ++
    source.slice outcome.site.specifierRange.stop outcome.site.statementRange.stop

/-- The text from an offset on, with the outcomes of the imports behind the
offset carried out: for each of them what stays of the text before it, the
comment above it and its declaration. -/
def revisedFrom (source : Text) : Nat → List Outcome → Text
  | offset, [] => source.drop offset
  | offset, outcome :: rest =>
      source.slice offset (outcome.keptUntil source) ++ outcome.comment source ++
        outcome.declaration source ++
        revisedFrom source outcome.site.statementRange.stop rest

/-! ## What is kept -/

/-- What is kept of the text before an import reaches at most up to it. -/
theorem keptUntil_le_start {source : Text} {outcome : Outcome}
    (inside : outcome.site.statementRange.start ≤ source.length) :
    outcome.keptUntil source ≤ outcome.site.statementRange.start := by
  unfold keptUntil
  split
  · cases found : Warning.span? source outcome.site with
    | none => simp
    | some span =>
        rcases Warning.exists_marker_of_span? inside found with ⟨marker, _, _, startEq, _⟩
        simp only [Option.map_some, Option.getD_some]
        omega
  · exact Nat.le_refl _

/-- No part of a declaration is taken away with the warning above a later
import. -/
theorem stop_le_keptUntil {source : Text} {site : ImportSite} {outcome : Outcome}
    (declared : isDeclaration (site.statementRange.slice source) = true)
    (ordered : site.statementRange.stop ≤ outcome.site.statementRange.start)
    (inside : outcome.site.statementRange.start ≤ source.length) :
    site.statementRange.stop ≤ outcome.keptUntil source := by
  unfold keptUntil
  split
  · cases found : Warning.span? source outcome.site with
    | none => simpa using ordered
    | some span =>
        rcases Warning.exists_marker_of_span? inside found with
          ⟨marker, member, marked, startEq, _⟩
        have behind := stop_add_length_le_of_marker declared ordered inside
          (Warning.markers_plain member) marked
        simp only [Option.map_some, Option.getD_some]
        omega
  · exact ordered

/-- The removal of a stale warning is the edit of the stretch between what is
kept and the import. -/
theorem cleanupEdits_eq {source : Text} {outcome : Outcome}
    (inside : outcome.site.statementRange.start ≤ source.length) :
    outcome.cleanupEdits source = [] ∧
        outcome.keptUntil source = outcome.site.statementRange.start ∨
      ∃ edit, outcome.cleanupEdits source = [edit] ∧
        edit.start = outcome.keptUntil source ∧
        edit.start < outcome.site.statementRange.start ∧
        edit.stop = outcome.site.statementRange.start ∧ edit.text = [] := by
  unfold cleanupEdits keptUntil
  split
  · cases found : Warning.span? source outcome.site with
    | none => exact Or.inl ⟨rfl, rfl⟩
    | some span =>
        rcases Warning.exists_marker_of_span? inside found with
          ⟨marker, member, _, startEq, stopEq⟩
        have long := Warning.length_pos_of_mem_markers member
        refine Or.inr ⟨Edit.replacement span [], rfl, rfl, ?_, stopEq, rfl⟩
        change span.start < _
        omega
  · exact Or.inl ⟨rfl, rfl⟩

/-! ## Making the edits of one outcome -/

/-- Without a new specifier, the declaration is the slice that it was. -/
theorem declaration_eq_slice {source : Text} {outcome : Outcome}
    (same : outcome.resolution.newSpecifier? = none) :
    outcome.declaration source = outcome.site.statementRange.slice source := by
  have specifierOrdered := outcome.site.specifierRange.start_le_stop
  have specifierFrom := outcome.site.start_le_specifier
  have specifierUpTo := outcome.site.specifier_le_stop
  rw [declaration, specifier, same, Option.getD_none, TextRange.slice, TextRange.slice,
    Text.slice_append_slice source specifierFrom specifierOrdered,
    Text.slice_append_slice source (specifierFrom.trans specifierOrdered) specifierUpTo]

/-- A new specifier and the banner above the declaration are written, and the edits to
come stay before the declaration. -/
theorem applyInOrder_rewrite {source new : Text} {outcome : Outcome}
    (changed : outcome.resolution.newSpecifier? = some new)
    (inside : outcome.site.statementRange.stop ≤ source.length) {bound : Nat}
    (ordered : outcome.site.statementRange.stop ≤ bound) (rest : List Edit) (tail : Text) :
    Edit.applyInOrder
        (Edit.replacement outcome.site.specifierRange new ::
          Edit.insertion outcome.site.statementRange.start
            (Banner.block (outcome.site.statementRange.slice source)) :: rest) bound
        (source.take outcome.site.statementRange.stop ++ tail) =
      Edit.applyInOrder rest outcome.site.statementRange.start
        (source.take outcome.site.statementRange.start ++
          (Banner.block (outcome.site.statementRange.slice source) ++
            outcome.declaration source ++ tail)) := by
  have specifierOrdered := outcome.site.specifierRange.start_le_stop
  have specifierFrom := outcome.site.start_le_specifier
  have specifierUpTo := outcome.site.specifier_le_stop
  rw [Edit.applyInOrder_cons (specifierUpTo.trans ordered),
    Edit.applyOne_take_append (Edit.replacement outcome.site.specifierRange new)
      specifierUpTo inside]
  rw [Edit.applyInOrder_cons specifierFrom]
  change Edit.applyInOrder rest outcome.site.statementRange.start
    ((Edit.insertion outcome.site.statementRange.start _).applyOne
      (source.take outcome.site.specifierRange.start ++ _)) = _
  rw [Edit.applyOne_take_append
      (Edit.insertion outcome.site.statementRange.start _) specifierFrom
      (specifierOrdered.trans (specifierUpTo.trans inside))]
  rw [declaration, specifier, changed, Option.getD_some]
  simp only [Edit.insertion, Edit.replacement, List.append_assoc]

/-- The edits that write the specifier of an import and the comment above it
turn the text up to the end of its declaration into what the outcome calls
for. -/
theorem applyInOrder_mainEdits {source : Text} {outcome : Outcome}
    (inside : outcome.site.statementRange.stop ≤ source.length) {bound : Nat}
    (ordered : outcome.site.statementRange.stop ≤ bound) (rest : List Edit) (tail : Text) :
    ∃ next, outcome.site.statementRange.start ≤ next ∧
      Edit.applyInOrder (outcome.mainEdits source ++ rest) bound
          (source.take outcome.site.statementRange.stop ++ tail) =
        Edit.applyInOrder rest next
          (source.take outcome.site.statementRange.start ++
            (outcome.comment source ++ outcome.declaration source ++ tail)) := by
  have statementOrdered := outcome.site.statementRange.start_le_stop
  cases resolved : outcome.resolution with
  | root new target | directory new target =>
      have changed : outcome.resolution.newSpecifier? = some new := by rw [resolved]; rfl
      refine ⟨outcome.site.statementRange.start, Nat.le_refl _, ?_⟩
      simpa only [mainEdits, comment, Resolution.comment, resolved, List.cons_append,
        List.nil_append] using applyInOrder_rewrite changed inside ordered rest tail
  | unresolved reason =>
      have same : outcome.resolution.newSpecifier? = none := by rw [resolved]; rfl
      cases reason with
      | notFound =>
          refine ⟨outcome.site.statementRange.start, Nat.le_refl _, ?_⟩
          simp only [mainEdits, comment, Resolution.comment, resolved, List.cons_append, List.nil_append]
          rw [Edit.applyInOrder_cons (statementOrdered.trans ordered),
            Edit.applyOne_take_append
              (Edit.insertion outcome.site.statementRange.start Warning.block)
              statementOrdered inside, declaration_eq_slice same]
          rfl
      | upToDate | annotated | external =>
          refine ⟨bound, statementOrdered.trans ordered, ?_⟩
          have silent : outcome.comment source = [] := by rw [comment, resolved]; rfl
          rw [silent, declaration_eq_slice same, List.nil_append, ← List.append_assoc (source.take _),
            TextRange.slice, Text.take_append_slice source statementOrdered]
          simp only [mainEdits, resolved, List.nil_append]

/-- The edits of one outcome turn the text up to the end of the declaration
into what the outcome calls for, and leave alone what stands before an earlier
offset. -/
theorem applyInOrder_edits {source : Text} {outcome : Outcome}
    (inside : outcome.site.statementRange.stop ≤ source.length) {offset bound : Nat}
    (kept : offset ≤ outcome.keptUntil source)
    (ordered : outcome.site.statementRange.stop ≤ bound) (rest : List Edit) (tail : Text) :
    ∃ next, offset ≤ next ∧
      Edit.applyInOrder (outcome.edits source ++ rest) bound
          (source.take outcome.site.statementRange.stop ++ tail) =
        Edit.applyInOrder rest next
          (source.take offset ++
            (source.slice offset (outcome.keptUntil source) ++ outcome.comment source ++
              outcome.declaration source ++ tail)) := by
  have startInside : outcome.site.statementRange.start ≤ source.length :=
    outcome.site.statementRange.start_le_stop.trans inside
  have before : ∀ written : Text,
      source.take offset ++ (source.slice offset (outcome.keptUntil source) ++ written) =
        source.take (outcome.keptUntil source) ++ written := by
    intro written
    rw [← List.append_assoc, Text.take_append_slice source kept]
  rcases applyInOrder_mainEdits inside ordered (outcome.cleanupEdits source ++ rest) tail with
    ⟨next, reached, mainDone⟩
  rw [edits, List.append_assoc, mainDone]
  simp only [List.append_assoc, before]
  rcases cleanupEdits_eq startInside with ⟨noEdit, upToStart⟩ | ⟨edit, oneEdit, from_, _, upTo, empty⟩
  · refine ⟨next, (upToStart ▸ kept).trans reached, ?_⟩
    rw [noEdit, upToStart, List.nil_append]
  · refine ⟨edit.start, from_ ▸ kept, ?_⟩
    rw [oneEdit, List.singleton_append, Edit.applyInOrder_cons (upTo ▸ reached),
      Edit.applyOne_take_append edit upTo.le startInside, empty, upTo, Text.slice_self, from_]
    rfl

/-! ## Making the edits of all outcomes -/

variable {source : Text} {outcomes : List Outcome}

/-- Planned from the last import to the first and made in this order, the edits
turn the text into what the outcomes call for.  The induction goes through the
imports in source order; the edits of those behind an import are made before
its own. -/
theorem applyInOrder_allEdits_reverse
    (orderly : Orderly source (outcomes.map Outcome.site)) {offset : Nat}
    (within : offset ≤ source.length)
    (kept : ∀ outcome ∈ outcomes, offset ≤ outcome.keptUntil source) (rest : List Edit) :
    ∃ next, offset ≤ next ∧
      Edit.applyInOrder (allEdits source outcomes.reverse ++ rest) source.length source =
        Edit.applyInOrder rest next
          (source.take offset ++ revisedFrom source offset outcomes) := by
  induction outcomes generalizing offset rest with
  | nil =>
      refine ⟨source.length, within, ?_⟩
      rw [revisedFrom, List.take_append_drop]
      rfl
  | cons outcome others inductionHypothesis =>
      rw [List.map_cons] at orderly
      have apart := List.pairwise_cons.mp orderly.apart
      have inside : outcome.site.statementRange.stop ≤ source.length :=
        orderly.inside _ List.mem_cons_self
      have behind : Orderly source (others.map Outcome.site) :=
        ⟨apart.2, fun site member => orderly.inside site (List.mem_cons_of_mem _ member),
          fun site member => orderly.declared site (List.mem_cons_of_mem _ member)⟩
      have keptBehind : ∀ other ∈ others,
          outcome.site.statementRange.stop ≤ other.keptUntil source := by
        intro other member
        have memberSite := List.mem_map_of_mem (f := Outcome.site) member
        exact stop_le_keptUntil (orderly.declared _ List.mem_cons_self)
          (apart.1 _ memberSite)
          (other.site.statementRange.start_le_stop.trans (behind.inside _ memberSite))
      have planned : allEdits source (outcome :: others).reverse ++ rest =
          allEdits source others.reverse ++ (outcome.edits source ++ rest) := by
        simp [allEdits, List.flatMap_append]
      rcases inductionHypothesis behind inside keptBehind (outcome.edits source ++ rest) with
        ⟨bound, ordered, othersDone⟩
      rcases applyInOrder_edits inside (kept outcome List.mem_cons_self) ordered rest
        (revisedFrom source outcome.site.statementRange.stop others) with
        ⟨next, reached, outcomeDone⟩
      exact ⟨next, reached, by rw [planned, othersDone, outcomeDone, revisedFrom]⟩

/-! ## The order of the edits -/

/-- The edits of one outcome are listed from the last to the first, and lie
between what is kept before the import and the end of its declaration. -/
theorem pairwise_edits {outcome : Outcome}
    (inside : outcome.site.statementRange.start ≤ source.length) :
    (outcome.edits source).Pairwise Edit.Behind ∧
      ∀ edit ∈ outcome.edits source,
        outcome.keptUntil source ≤ edit.start ∧
          edit.start < outcome.site.statementRange.stop := by
  have keptBefore := keptUntil_le_start inside
  have nonempty := outcome.site.statement_nonempty
  have specifierNonempty := outcome.site.specifier_nonempty
  have specifierFrom := outcome.site.start_le_specifier
  have specifierUpTo := outcome.site.specifier_le_stop
  have main : (outcome.mainEdits source).Pairwise Edit.Behind ∧
      ∀ edit ∈ outcome.mainEdits source,
        outcome.site.statementRange.start ≤ edit.start ∧
          outcome.site.statementRange.start ≤ edit.stop ∧
          edit.start < outcome.site.statementRange.stop := by
    unfold mainEdits
    split <;>
      simp only [List.pairwise_cons, List.mem_cons, List.not_mem_nil, or_false, forall_eq,
        forall_eq_or_imp, List.Pairwise.nil, Edit.behind_iff, Edit.replacement, Edit.insertion] <;>
      grind
  rcases cleanupEdits_eq inside with ⟨none, _⟩ | ⟨edit, one, from_, before, upTo, _⟩
  · rw [edits, none, List.append_nil]
    refine ⟨main.1, fun edit member => ?_⟩
    have bounds := main.2 edit member
    omega
  · rw [edits, one]
    constructor
    · refine List.pairwise_append.mpr ⟨main.1, List.pairwise_singleton _ _, ?_⟩
      intro mainEdit member cleanup cleanupMember
      have bounds := main.2 mainEdit member
      rw [List.mem_singleton.mp cleanupMember, Edit.behind_iff]
      omega
    · intro other member
      rcases List.mem_append.mp member with member | member
      · have bounds := main.2 other member
        omega
      · rw [List.mem_singleton.mp member]
        omega

/-- Planned from the last import to the first, the edits are listed from the
last to the first. -/
theorem pairwise_allEdits_reverse (orderly : Orderly source (outcomes.map Outcome.site)) :
    (allEdits source outcomes.reverse).Pairwise Edit.Behind := by
  have startInside : ∀ outcome ∈ outcomes,
      outcome.site.statementRange.start ≤ source.length := fun outcome member =>
    outcome.site.statementRange.start_le_stop.trans
      (orderly.inside _ (List.mem_map_of_mem member))
  refine List.pairwise_flatMap.mpr ⟨?_, ?_⟩
  · intro outcome member
    exact (pairwise_edits (startInside outcome (List.mem_reverse.mp member))).1
  · rw [List.pairwise_reverse]
    refine (List.pairwise_map.mp orderly.apart).imp_of_mem ?_
    intro earlier later earlierMember laterMember apart laterEdit laterEditMember earlierEdit
      earlierEditMember
    have stays := stop_le_keptUntil
      (orderly.declared _ (List.mem_map_of_mem earlierMember)) apart (startInside _ laterMember)
    have laterBounds := (pairwise_edits (startInside _ laterMember)).2 _ laterEditMember
    have earlierBounds := (pairwise_edits (startInside _ earlierMember)).2 _ earlierEditMember
    exact Edit.behind_iff.mpr (Or.inl (by omega))

/-- In whatever order the outcomes are planned, making the edits gives the text
that the outcomes call for. -/
theorem apply_allEdits_of_perm {planned : List Outcome}
    (orderly : Orderly source (outcomes.map Outcome.site)) (arranged : planned.Perm outcomes) :
    Edit.apply source (allEdits source planned) = .ok (revisedFrom source 0 outcomes) := by
  have rearranged : (allEdits source planned).Perm (allEdits source outcomes.reverse) :=
    (arranged.trans (List.reverse_perm outcomes).symm).flatMap_right _
  rcases applyInOrder_allEdits_reverse orderly (Nat.zero_le _)
    (fun outcome _ => Nat.zero_le _) [] with ⟨next, _, done⟩
  rw [Edit.apply, Edit.lastFirst_eq_of_perm rearranged (pairwise_allEdits_reverse orderly)]
  simpa only [List.append_nil, List.take_zero, List.nil_append, Edit.applyInOrder] using done

/-- Planned edits never conflict and touch nothing else.  The ranges they are
built from are ranges, and in whatever order the outcomes are planned, making
the edits gives the text that is told from the start to the end. -/
theorem allEdits_carry_out {planned : List Outcome}
    (orderly : Orderly source (outcomes.map Outcome.site)) (arranged : planned.Perm outcomes) :
    (∀ outcome ∈ planned, ∀ span, Warning.span? source outcome.site = some span →
        ∃ marker ∈ Warning.markers,
          source.endsWithAt marker outcome.site.statementRange.start = true ∧
            TextRange.ofInts? (outcome.site.statementRange.start - (marker.length : Int))
              outcome.site.statementRange.start = .ok span) ∧
      (∀ edit ∈ allEdits source planned,
        Edit.ofInts? edit.start edit.stop edit.text = .ok edit) ∧
      Edit.apply source (allEdits source planned) = .ok (revisedFrom source 0 outcomes) := by
  refine ⟨?_, ?_, apply_allEdits_of_perm orderly arranged⟩
  · intro outcome member span found
    have memberSite := List.mem_map_of_mem (f := Outcome.site) (arranged.mem_iff.mp member)
    have inside := outcome.site.statementRange.start_le_stop.trans (orderly.inside _ memberSite)
    rcases Warning.exists_marker_of_span? inside found with
      ⟨marker, isMarker, marked, startEq, stopEq⟩
    refine ⟨marker, isMarker, marked, ?_⟩
    rcases span with ⟨start, stop, ordered⟩
    simp only at startEq stopEq
    subst stopEq
    have startOfInt : (outcome.site.statementRange.start : Int) - (marker.length : Int) =
        (start : Int) := by omega
    rw [startOfInt, TextRange.ofInts?, dif_pos (by omega)]
    rfl
  · intro edit _
    rw [Edit.ofInts?, dif_pos ⟨Int.natCast_nonneg _, Int.ofNat_le.mpr edit.start_le_stop⟩]
    rfl

/-- Two imports on neighbouring lines, the first of which gets a warning while
the second one loses the warning that it shares a line with and is changed. -/
theorem allEdits_carry_out_neighbours :
    let source := text "import './a';" ++ Warning.comment ++ text "\nimport './b'\n"
    let first : Outcome :=
      ⟨⟨text "./a", ⟨8, 11, by decide⟩, ⟨0, 13, by decide⟩, 1, by decide, by decide⟩,
        .unresolved .notFound⟩
    let second : Outcome :=
      ⟨⟨text "./b", ⟨111, 114, by decide⟩, ⟨103, 115, by decide⟩, 2, by decide, by decide⟩,
        .root (text "/b") (text "b")⟩
    Orderly source ([first, second].map Outcome.site) ∧ [second, first].Perm [first, second] ∧
      Edit.apply source (allEdits source [second, first]) =
        .ok (Warning.block ++ text "import './a';" ++ Banner.block (text "import './b'") ++
          text "import '/b'\n") := by
  intro source first second
  have orderly : Orderly source ([first, second].map Outcome.site) :=
    ⟨by decide +kernel, by decide +kernel, by decide +kernel⟩
  have arranged : [second, first].Perm [first, second] := List.Perm.swap _ _ _
  refine ⟨orderly, arranged, ?_⟩
  rw [(allEdits_carry_out orderly arranged).2.2]
  have told : revisedFrom source 0 [first, second] =
      Warning.block ++ text "import './a';" ++ Banner.block (text "import './b'") ++
        text "import '/b'\n" := by decide +kernel
  rw [told]

end Outcome

end Respecify

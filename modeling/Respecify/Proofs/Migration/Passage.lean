import Respecify.Migration.Revision
import Respecify.Proofs.Import.Survey
import Respecify.Proofs.Migration.Plan
import Respecify.Proofs.Source.Layout

/-!
# Revising a script passage by passage

A revision looks at offsets and edits, but what becomes of an import depends on
its passage alone: the markers above it are those with which the text before it
ends, and the edits stay within the passage.  So the revision of a script is
the revision of each passage of its layout.
-/

namespace Respecify

/-! ## Looking back from a declaration -/

/-- The text is empty or ends like an import declaration. -/
def Closed (done : Text) : Prop :=
  done = [] ∨ ∃ first c, done = first ++ [c] ∧ c ∈ declarationEnds

/-- A marker stands at the end of a closed text and another text only if it
stands at the end of the other one. -/
theorem Closed.suffix_iff {done marker : Text} (closed : Closed done)
    (plain : ∀ c ∈ marker, c ∉ declarationEnds) (before : Text) :
    marker <:+ done ++ before ↔ marker <:+ before := by
  rcases closed with rfl | ⟨first, last, rfl, ending⟩
  · rw [List.nil_append]
  · rw [List.append_assoc, List.singleton_append]
    exact Text.suffix_append_cons_iff fun member => plain last member ending

/-- A text is closed behind a declaration. -/
theorem closed_append_text {passage : Passage} (done : Text)
    (declared : isDeclaration passage.declaration = true) :
    Closed (done ++ passage.text) := by
  rcases exists_declarationEnd declared with ⟨first, c, whole, ending⟩
  exact Or.inr ⟨done ++ (passage.before ++ first), c, by simp [Passage.text, whole], ending⟩

/-- The line with which a banner ends. -/
def Banner.marker : Text :=
  Banner.closing ++ [lineFeed]

theorem Banner.marker_plain : ∀ c ∈ Banner.marker, c ∉ declarationEnds := by
  decide +kernel

/-- The line with which a warning ends. -/
def Warning.marker : Text :=
  Warning.comment ++ [lineFeed]

theorem Warning.marker_plain : ∀ c ∈ Warning.marker, c ∉ declarationEnds :=
  Warning.markers_plain (by simp [markers, marker])

/-- No text ends with a banner and with a warning. -/
theorem not_warningMarker_suffix_of_bannerMarker_suffix {before : Text}
    (bannered : Banner.marker <:+ before) : ¬Warning.marker <:+ before := by
  intro warned
  have apart : ¬Banner.marker <:+ Warning.marker ∧ ¬Warning.marker <:+ Banner.marker := by
    decide +kernel
  rcases List.suffix_or_suffix_of_suffix bannered warned with inside | inside
  · exact apart.1 inside
  · exact apart.2 inside

/-- The text without a warning at its end. -/
def Warning.strip (before : Text) : Text :=
  if Warning.block <:+ before then before.take (before.length - Warning.block.length)
  else if Warning.marker <:+ before then before.take (before.length - Warning.marker.length)
  else before

/-- The text ends with a warning in one of its two forms exactly if it ends with
the shorter one. -/
theorem Warning.marker_suffix_of_block_suffix {before : Text}
    (marked : Warning.block <:+ before) : Warning.marker <:+ before :=
  (List.suffix_cons lineFeed Warning.marker).trans marked

/-- What is taken away at the end of a text is a warning in one of its two forms. -/
theorem Warning.exists_eq_strip_append (before : Text) :
    ∃ words ∈ [] :: Warning.markers, before = Warning.strip before ++ words := by
  have cut : ∀ {marker : Text}, marker <:+ before →
      before = before.take (before.length - marker.length) ++ marker :=
    fun marked => (List.suffix_iff_eq_append.mp marked).symm
  unfold strip
  split
  · rename_i marked
    exact ⟨block, by simp [markers], cut marked⟩
  · split
    · rename_i marked
      exact ⟨marker, by simp [markers, marker], cut marked⟩
    · exact ⟨[], by simp, (List.append_nil _).symm⟩

namespace Passage

/-- What the import of a passage resolves to, in view of the marker above it. -/
def resolution (known : Known) (importer : Text) (passage : Passage) : Resolution :=
  if Banner.marker <:+ passage.before then .unresolved .annotated
  else
    let resolution := known.resolve passage.specifier importer
    if resolution.isMissing ∧ Warning.marker <:+ passage.before then .unresolved .annotated
    else resolution

/-- What stays of the text before a declaration: a warning that no longer holds
is taken away. -/
def kept (resolution : Resolution) (passage : Passage) : Text :=
  if resolution.isChange || resolution == .unresolved .upToDate then
    Warning.strip passage.before
  else
    passage.before

/-- What is taken away above a declaration is a warning in one of its two forms. -/
theorem exists_eq_kept_append (resolution : Resolution) (passage : Passage) :
    ∃ words ∈ [] :: Warning.markers, passage.before = passage.kept resolution ++ words := by
  unfold kept
  split
  · exact Warning.exists_eq_strip_append passage.before
  · exact ⟨[], by simp, (List.append_nil _).symm⟩

/-- What a passage becomes: a comment is put above the declaration, and the
specifier is replaced. -/
def carryOut (resolution : Resolution) (passage : Passage) : Passage :=
  { passage with
    before := passage.kept resolution ++ resolution.comment passage.declaration
    specifier := resolution.newSpecifier?.getD passage.specifier }

/-- The passage of the named script after its revision. -/
def revise (known : Known) (importer : Text) (passage : Passage) : Passage :=
  passage.carryOut (passage.resolution known importer)

/-- Above a revised declaration stands what is kept of the text there, and then the
comment. -/
theorem before_revise (known : Known) (importer : Text) (passage : Passage) :
    (passage.revise known importer).before =
      passage.kept (passage.resolution known importer) ++
        (passage.resolution known importer).comment passage.declaration := by
  rw [revise, carryOut]

/-- A revised declaration has the new specifier, if there is one. -/
theorem specifier_revise (known : Known) (importer : Text) (passage : Passage) :
    (passage.revise known importer).specifier =
      (passage.resolution known importer).newSpecifier?.getD passage.specifier := by
  rw [revise, carryOut]

variable {passage : Passage} {done tail : Text} {site : ImportSite}

/-- Right before a declaration stands what its passage starts with. -/
theorem IsAt.endsWithAt_iff (here : passage.IsAt done.length site) (closed : Closed done)
    {marker : Text} (plain : ∀ c ∈ marker, c ∉ declarationEnds) :
    (done ++ passage.text ++ tail).endsWithAt marker site.statementRange.start = true ↔
      marker <:+ passage.before := by
  rw [Text.endsWithAt_iff, here.take_start, closed.suffix_iff plain]

/-- Where a warning above an import starts is told by its passage. -/
theorem IsAt.warning_start? (here : passage.IsAt done.length site) (closed : Closed done)
    (tail : Text) :
    (Warning.span? (done ++ passage.text ++ tail) site).map TextRange.start =
      if Warning.block <:+ passage.before then
        some (site.statementRange.start - Warning.block.length)
      else if Warning.marker <:+ passage.before then
        some (site.statementRange.start - Warning.marker.length)
      else none := by
  have spanAt : ∀ marker ∈ Warning.markers,
      (Warning.markerSpan? (done ++ passage.text ++ tail) site marker).map TextRange.start =
        if marker <:+ passage.before then some (site.statementRange.start - marker.length)
        else none := by
    intro marker member
    have seen : (done ++ passage.text ++ tail).endsWithAt marker site.statementRange.start = true ↔
        marker <:+ passage.before := here.endsWithAt_iff closed (Warning.markers_plain member)
    unfold Warning.markerSpan?
    dsimp only
    by_cases marked : marker <:+ passage.before
    · rw [if_pos (seen.mpr marked), if_pos marked, Option.map_some]
    · rw [if_neg (fun found => marked (seen.mp found)), if_neg marked, Option.map_none]
  have long := spanAt Warning.block (by simp [Warning.markers])
  have short := spanAt Warning.marker (by simp [Warning.markers, Warning.marker])
  unfold Warning.span?
  cases found : Warning.markerSpan? (done ++ passage.text ++ tail) site Warning.block with
  | some span =>
      rw [found] at long
      dsimp only
      rw [long]
      split
      · rfl
      · rename_i unmarked
        rw [if_neg unmarked] at long
        cases long
  | none =>
      rw [found] at long
      have unmarked : ¬Warning.block <:+ passage.before := by
        intro marked
        rw [if_pos marked] at long
        cases long
      rw [if_neg unmarked]
      exact short

/-- A warning is seen above an import exactly if its passage has one. -/
theorem IsAt.warned_iff (here : passage.IsAt done.length site) (closed : Closed done)
    (tail : Text) :
    (Warning.span? (done ++ passage.text ++ tail) site).isSome = true ↔
      Warning.marker <:+ passage.before := by
  rw [← Option.isSome_map (f := TextRange.start), here.warning_start? closed]
  by_cases marked : Warning.marker <:+ passage.before
  · rw [if_pos marked]
    split <;> simp [marked]
  · have unmarked : ¬Warning.block <:+ passage.before := fun found =>
      marked (Warning.marker_suffix_of_block_suffix found)
    simp [marked, unmarked]

/-- A banner or a warning is seen above an import exactly if its passage has
it, so the passage tells what the import resolves to. -/
theorem IsAt.ofSite_eq (here : passage.IsAt done.length site) (closed : Closed done)
    (known : Known) (importer : Text) :
    Outcome.ofSite known importer (done ++ passage.text ++ tail) site =
      ⟨site, passage.resolution known importer⟩ := by
  have banner : Banner.precedes (done ++ passage.text ++ tail) site = true ↔
      Banner.marker <:+ passage.before :=
    here.endsWithAt_iff closed Banner.marker_plain
  unfold Outcome.ofSite resolution
  rw [here.specifier_eq]
  by_cases annotated : Banner.marker <:+ passage.before
  · rw [if_pos (banner.mpr annotated), if_pos annotated]
  · rw [if_neg (fun seen => annotated (banner.mp seen)), if_neg annotated]
    simp only [Bool.and_eq_true, here.warned_iff closed]
    split <;> rfl

/-- Without a marker that ends a passage's text before its declaration, the text
up to the declaration ends where the passage does without the marker. -/
theorem IsAt.take_start_sub (here : passage.IsAt done.length site) {marker : Text}
    (suffix : marker <:+ passage.before) :
    (done ++ passage.text ++ tail).take (site.statementRange.start - marker.length) =
      done ++ passage.before.take (passage.before.length - marker.length) := by
  have shorter := suffix.length_le
  have startEq := here.start_eq
  have upTo : (done ++ passage.text ++ tail).take (site.statementRange.start - marker.length) =
      (done ++ passage.before).take (site.statementRange.start - marker.length) := by
    rw [← here.take_start, List.take_take, Nat.min_eq_left (Nat.sub_le _ _)]
  have countEq : site.statementRange.start - marker.length =
      done.length + (passage.before.length - marker.length) := by omega
  rw [upTo, countEq, List.take_length_add_append]

/-- What is kept before an import is what its passage keeps. -/
theorem IsAt.slice_kept (here : passage.IsAt done.length site) (closed : Closed done)
    (resolution : Resolution) :
    (done ++ passage.text ++ tail).slice done.length
        (Outcome.keptUntil (done ++ passage.text ++ tail) ⟨site, resolution⟩) =
      passage.kept resolution := by
  -- Cutting a marker off the text up to the import cuts it off the passage.
  have cut : ∀ marker : Text, marker <:+ passage.before →
      (done ++ passage.text ++ tail).slice done.length
          (site.statementRange.start - marker.length) =
        passage.before.take (passage.before.length - marker.length) := by
    intro marker suffix
    rw [Text.slice, here.take_start_sub suffix, List.drop_left]
  unfold Outcome.keptUntil Outcome.resolves kept
  split
  · rw [Warning.strip, here.warning_start? closed]
    split
    · rename_i marked
      exact cut Warning.block marked
    · split
      · rename_i marked
        exact cut Warning.marker marked
      · exact here.slice_before
  · exact here.slice_before

/-- The new declaration of an import is that of its revised passage. -/
theorem IsAt.declaration_ofSite (here : passage.IsAt done.length site)
    (resolution : Resolution) :
    Outcome.declaration (done ++ passage.text ++ tail) ⟨site, resolution⟩ =
      (passage.carryOut resolution).declaration := by
  unfold Outcome.declaration Outcome.specifier
  rw [here.slice_opening, here.slice_closing, here.slice_specifier]
  rfl

end Passage

/-! ## The revision of a layout -/

namespace Sited

variable {passages : List Passage} {sites : List ImportSite} {done tail : Text}

/-- The text behind an offset is revised passage by passage. -/
theorem revisedFrom_eq (sited : Sited done.length passages sites) (closed : Closed done)
    (declared : ∀ passage ∈ passages, isDeclaration passage.declaration = true)
    (known : Known) (importer : Text) :
    Outcome.revisedFrom (done ++ passages.flatMap Passage.text ++ tail) done.length
        (Outcome.ofSites known importer (done ++ passages.flatMap Passage.text ++ tail) sites) =
      (passages.map (Passage.revise known importer)).flatMap Passage.text ++ tail := by
  induction passages generalizing done sites with
  | nil =>
      cases sited
      simp [Outcome.ofSites, Outcome.revisedFrom]
  | cons passage passages inductionHypothesis =>
      cases sited with
      | @cons _ _ _ site sites here behind =>
          have isDeclared := declared passage List.mem_cons_self
          have longer : done.length + passage.text.length = (done ++ passage.text).length := by
            simp
          have others := inductionHypothesis (longer ▸ behind)
            (closed_append_text done isDeclared)
            (fun other member => declared other (List.mem_cons_of_mem _ member))
          have split : done ++ (passage :: passages).flatMap Passage.text ++ tail =
              done ++ passage.text ++ (passages.flatMap Passage.text ++ tail) := by
            simp
          have regroup : done ++ passage.text ++ passages.flatMap Passage.text ++ tail =
              done ++ passage.text ++ (passages.flatMap Passage.text ++ tail) := by
            simp
          rw [regroup, ← longer, ← here.stop_eq] at others
          rw [split]
          rw [Outcome.ofSites, List.map_cons, here.ofSite_eq closed, Outcome.revisedFrom,
            here.slice_kept closed, here.declaration_ofSite, Outcome.comment,
            here.slice_statement]
          rw [Outcome.ofSites] at others
          rw [others]
          simp [Passage.revise, Passage.text, Passage.carryOut]

end Sited

/-- Outcomes keep the sites of the imports. -/
theorem Outcome.map_site_ofSites (known : Known) (importer source : Text)
    (sites : List ImportSite) :
    (Outcome.ofSites known importer source sites).map Outcome.site = sites := by
  rw [ofSites, List.map_map]
  conv_rhs => rw [← List.map_id sites]
  exact List.map_congr_left fun site _ => site_ofSite known importer source site

/-- A script that is read as its layout says is revised passage by passage. -/
theorem Layout.reviseBy_text {parser : JavaScript.ScriptParser} {layout : Layout}
    {sites : List ImportSite} (surveyed : surveyBy parser layout.text = .ok sites)
    (sited : Sited 0 layout.passages sites)
    (declared : ∀ passage ∈ layout.passages, isDeclaration passage.declaration = true)
    (known : Known) (importer : Text) :
    ∃ revision, reviseBy parser known importer layout.text = .ok revision ∧
      revision.code = (layout.map (Passage.revise known importer)).text ∧
      revision.outcomes = Outcome.ofSites known importer layout.text sites := by
  have orderly : Orderly layout.text sites := by
    simpa [Layout.text] using @Sited.orderly _ _ [] layout.rest sited declared
  have sitesEq := Outcome.map_site_ofSites known importer layout.text sites
  have arranged : (Outcome.lastFirst (Outcome.ofSites known importer layout.text sites)).Perm
      (Outcome.ofSites known importer layout.text sites) := Order.sort_perm _ _
  have applied := Outcome.apply_allEdits_of_perm (sitesEq.symm ▸ orderly) arranged
  have told := @Sited.revisedFrom_eq _ _ [] layout.rest sited (Or.inl rfl) declared known importer
  have revised : Revision.ofSites known importer layout.text sites =
      .ok ⟨layout.text, (layout.map (Passage.revise known importer)).text,
        Outcome.ofSites known importer layout.text sites,
        Outcome.allEdits layout.text
          (Outcome.lastFirst (Outcome.ofSites known importer layout.text sites))⟩ := by
    unfold Revision.ofSites Revision.ofOutcomes
    dsimp only
    rw [applied]
    dsimp only
    congr 2
  exact ⟨_, by rw [reviseBy, surveyed]; dsimp only; rw [revised], rfl, rfl⟩

/-! ## Revisions of surveyed scripts -/

section Revisions

variable {parser : JavaScript.ScriptParser} {known : Known} {importer source : Text}
  {sites : List ImportSite} {revision : Revision}

/-- A script whose imports stand in order has a revision. -/
theorem exists_reviseBy (known : Known) (importer : Text)
    (surveyed : surveyBy parser source = .ok sites) (orderly : Orderly source sites) :
    ∃ revision, reviseBy parser known importer source = .ok revision := by
  have perm : (Outcome.lastFirst (Outcome.ofSites known importer source sites)).Perm
      (Outcome.ofSites known importer source sites) := Order.sort_perm _ _
  have made := Outcome.apply_allEdits_of_perm
    (by rw [Outcome.map_site_ofSites]; exact orderly) perm
  rw [reviseBy, surveyed]
  dsimp only [Revision.ofSites, Revision.ofOutcomes]
  rw [made]
  exact ⟨_, rfl⟩

/-- A revision makes the edits that the outcomes of the imports call for. -/
theorem outcomes_of_reviseBy (revised : reviseBy parser known importer source = .ok revision) :
    surveyBy parser source = .ok (revision.outcomes.map Outcome.site) ∧
      revision.outcomes =
        Outcome.ofSites known importer source (revision.outcomes.map Outcome.site) ∧
      revision.edits = Outcome.allEdits source (Outcome.lastFirst revision.outcomes) := by
  unfold reviseBy Revision.ofSites Revision.ofOutcomes at revised
  split at revised
  · cases revised
  · rename_i sites surveyed
    dsimp only at revised
    cases applied : Edit.apply source (Outcome.allEdits source
        (Outcome.lastFirst (Outcome.ofSites known importer source sites))) with
    | error conflict =>
        rw [applied] at revised
        cases revised
    | ok code =>
        rw [applied] at revised
        cases revised
        have sitesEq := Outcome.map_site_ofSites known importer source sites
        exact ⟨sitesEq.symm ▸ surveyed, by rw [sitesEq], rfl⟩

/-- The imports of a revision are those that are found in the script. -/
theorem sites_of_reviseBy (revised : reviseBy parser known importer source = .ok revision) :
    revision.outcomes.map Outcome.site = (surveyBy parser source).toOption.getD [] := by
  rw [(outcomes_of_reviseBy revised).1]
  rfl

/-- A revision of a script whose imports stand in order is that of its layout, passage by
passage. -/
theorem Layout.cut_of_reviseBy (revised : reviseBy parser known importer source = .ok revision)
    (orderly : Orderly source (revision.outcomes.map Outcome.site)) :
    let layout := Layout.cut source (revision.outcomes.map Outcome.site)
    layout.text = source ∧ Sited 0 layout.passages (revision.outcomes.map Outcome.site) ∧
      (∀ passage ∈ layout.passages, isDeclaration passage.declaration = true) ∧
      revision.code = (layout.map (Passage.revise known importer)).text := by
  intro layout
  rcases outcomes_of_reviseBy revised with ⟨surveyed, _⟩
  rcases Layout.cut_spec orderly (specifier_eq_of_surveyBy surveyed) with ⟨whole, sited⟩
  have there : Orderly layout.text (revision.outcomes.map Outcome.site) := whole.symm ▸ orderly
  have declared := @Sited.declared _ _ [] layout.rest sited (by simpa [Layout.text] using there)
  rcases Layout.reviseBy_text (whole.symm ▸ surveyed) sited declared known importer with
    ⟨revision', revised', code, _⟩
  rw [whole] at revised'
  cases revised.symm.trans revised'
  exact ⟨whole, sited, declared, code⟩

end Revisions

end Respecify

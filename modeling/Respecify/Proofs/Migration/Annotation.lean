import Respecify.Proofs.Import.Reading
import Respecify.Proofs.Migration.Passage

/-!
# Runs over one script

A script is revised again and again while the names known on its server come
and go.  What the runs leave above an import, and what they put in place of its
specifier, is one of three states that steps with the outcome of each run, so a
script after any number of runs is its first text with a state at each import.
-/

namespace Respecify

/-! ## The states of an import -/

/-- How far the runs over a script have come with one import. -/
inductive Annotation where
  /-- The import stands as it was. -/
  | plain
  /-- A warning stands above the import. -/
  | warned
  /-- A banner keeps the import as it was, and the import names this. -/
  | migrated (specifier : Text)
deriving DecidableEq, Repr

/-- The state of an import after a run that resolves its specifier.  An import
that was changed stays as it is. -/
def Annotation.next : Annotation → Resolution → Annotation
  | .migrated specifier, _ => .migrated specifier
  | _, .root specifier _ | _, .directory specifier _ => .migrated specifier
  | _, .unresolved .notFound => .warned
  | _, .unresolved .upToDate => .plain
  | state, .unresolved _ => state

namespace Passage

/-- A passage in a state: with a warning above its declaration, or with a banner
above it and a new specifier in it. -/
def annotate (passage : Passage) : Annotation → Passage
  | .plain => passage
  | .warned => { passage with before := passage.before ++ Warning.block }
  | .migrated specifier =>
      { passage with
        before := passage.before ++ Banner.block passage.declaration
        specifier := specifier }

/-- The state of the import of a passage after runs with known names. -/
def stateAfter (importer : Text) (runs : List Known) (passage : Passage) : Annotation :=
  runs.foldl (fun state known => state.next (known.resolve passage.specifier importer))
    .plain

/-- No earlier run has left a comment right above the declaration. -/
def Unmarked (passage : Passage) : Prop :=
  ¬Banner.marker <:+ passage.before ∧ ¬Warning.marker <:+ passage.before

end Passage

/-- A layout with every import in its state after runs with known names. -/
def Layout.annotated (layout : Layout) (importer : Text) (runs : List Known) : Layout :=
  layout.map fun passage => passage.annotate (passage.stateAfter importer runs)

/-! ## One run over one import -/

/-- A banner is not mistaken for a warning. -/
theorem not_bannerMarker_suffix_append_warning (before : Text) :
    ¬Banner.marker <:+ before ++ Warning.block := by
  intro marked
  exact not_warningMarker_suffix_of_bannerMarker_suffix marked
    (Warning.marker_suffix_of_block_suffix (List.suffix_append before _))

/-- A banner ends with its marker. -/
theorem bannerMarker_suffix_append_banner (before statement : Text) :
    Banner.marker <:+ before ++ Banner.block statement := by
  have ending : Banner.marker <:+ Banner.block statement := by
    rw [Banner.block, Banner.marker, List.append_assoc]
    exact List.suffix_append _ _
  exact ending.trans (List.suffix_append before _)

namespace Passage

variable {passage : Passage}

/-- A warning that was put above a declaration is taken away whole. -/
theorem strip_append_block (before : Text) :
    Warning.strip (before ++ Warning.block) = before := by
  rw [Warning.strip, if_pos (List.suffix_append before _), List.length_append,
    Nat.add_sub_cancel, List.take_left]

theorem Unmarked.strip_before (unmarked : passage.Unmarked) :
    Warning.strip passage.before = passage.before := by
  have noBlock : ¬Warning.block <:+ passage.before := fun marked =>
    unmarked.2 (Warning.marker_suffix_of_block_suffix marked)
  rw [Warning.strip, if_neg noBlock, if_neg unmarked.2]

/-- A run takes an import from its state to the next one. -/
theorem revise_annotate (unmarked : passage.Unmarked) (known : Known) (importer : Text)
    (state : Annotation) :
    (passage.annotate state).revise known importer =
      passage.annotate (state.next (known.resolve passage.specifier importer)) := by
  cases state with
  | plain =>
      have resolved : passage.resolution known importer =
          known.resolve passage.specifier importer := by
        rw [resolution, if_neg unmarked.1]
        exact if_neg fun marked => unmarked.2 marked.2
      change passage.revise known importer = _
      rw [revise, resolved, carryOut, kept, unmarked.strip_before, ite_self]
      rcases known.resolve passage.specifier importer with
        ⟨specifier, _⟩ | ⟨specifier, _⟩ | ⟨_ | _ | _ | _⟩
      all_goals simp [Resolution.comment, Resolution.newSpecifier?, Annotation.next, annotate]
  | warned =>
      have resolved : (passage.annotate .warned).resolution known importer =
          if (known.resolve passage.specifier importer).isMissing then .unresolved .annotated
          else known.resolve passage.specifier importer := by
        have marked : Warning.marker <:+ (passage.annotate .warned).before :=
          Warning.marker_suffix_of_block_suffix (List.suffix_append _ _)
        have unbannered : ¬Banner.marker <:+ (passage.annotate .warned).before :=
          not_bannerMarker_suffix_append_warning passage.before
        rw [resolution, if_neg unbannered]
        simp only [marked, and_true]
        rfl
      rw [revise, resolved]
      rcases known.resolve passage.specifier importer with
        ⟨specifier, _⟩ | ⟨specifier, _⟩ | ⟨_ | _ | _ | _⟩
      all_goals simp [Resolution.isMissing, Resolution.isChange, Resolution.comment, carryOut, kept,
        Resolution.newSpecifier?, Annotation.next, annotate, declaration, strip_append_block]
  | migrated specifier =>
      have resolved : (passage.annotate (.migrated specifier)).resolution known importer =
          .unresolved .annotated := by
        rw [resolution]
        exact if_pos (bannerMarker_suffix_append_banner passage.before passage.declaration)
      rw [revise, resolved]
      simp [carryOut, kept, Resolution.isChange, Resolution.newSpecifier?, Resolution.comment,
        Annotation.next]

end Passage

/-! ## Runs over a script -/

/-- The text of the named script after it was revised once with each of several
lists of known names. -/
def reviseAll (parser : JavaScript.ScriptParser) (importer : Text) (runs : List Known)
    (source : Text) : Except RevisionError Text :=
  runs.foldlM (fun code known => (reviseBy parser known importer code).map Revision.code) source

/-- One more run revises what the runs before it have made. -/
theorem reviseAll_append_singleton {parser : JavaScript.ScriptParser}
    {importer source code : Text} {runs : List Known} {known : Known}
    (before : reviseAll parser importer runs source = .ok code) :
    reviseAll parser importer (runs ++ [known]) source =
      (reviseBy parser known importer code).map Revision.code := by
  unfold reviseAll at before ⊢
  rw [List.foldlM_append, before]
  exact bind_pure ((reviseBy parser known importer code).map Revision.code)

namespace Layout

variable {parser : JavaScript.ScriptParser} {layout : Layout} {importer : Text}

/-- A script that is read as its layout says is revised as its layout is. -/
theorem IsReadBy.reviseBy_eq (read : layout.IsReadBy parser) (known : Known) (importer : Text) :
    (reviseBy parser known importer layout.text).map Revision.code =
      .ok (layout.map (Passage.revise known importer)).text := by
  rcases read.exists_declared with ⟨sites, surveyed, sited, declared⟩
  rcases reviseBy_text surveyed sited declared known importer with ⟨revision, revised, code, _⟩
  rw [revised, Except.map, code]

/-- A run takes every import of a layout from its state to the next one. -/
theorem reviseBy_annotated {runs : List Known}
    (unmarked : ∀ passage ∈ layout.passages, passage.Unmarked)
    (read : (layout.annotated importer runs).IsReadBy parser) (known : Known) :
    (reviseBy parser known importer (layout.annotated importer runs).text).map Revision.code =
      .ok (layout.annotated importer (runs ++ [known])).text := by
  have stepped : (layout.annotated importer runs).map (Passage.revise known importer) =
      layout.annotated importer (runs ++ [known]) := by
    unfold annotated map
    rw [List.map_map]
    congr 1
    refine List.map_congr_left fun passage member => ?_
    change (passage.annotate _).revise known importer = _
    rw [Passage.revise_annotate (unmarked passage member)]
    simp [Passage.stateAfter, List.foldl_append]
  rw [read.reviseBy_eq, stepped]

end Layout

/-- After every one of any number of runs, with known names that change in any
way between them, the script is its first text with each import in the state to
which the runs have taken it. -/
theorem reviseAll_eq_annotated {parser : JavaScript.ScriptParser} {importer source : Text}
    {sites : List ImportSite} {runs : List Known}
    (surveyed : surveyBy parser source = .ok sites) (orderly : Orderly source sites)
    (unmarked : ∀ site ∈ sites, ∀ marker ∈ [Warning.marker, Banner.marker],
      source.endsWithAt marker site.statementRange.start = false)
    (read : ∀ count, 0 < count → count < runs.length →
      ((Layout.cut source sites).annotated importer (runs.take count)).IsReadBy parser) :
    ∀ count ≤ runs.length, reviseAll parser importer (runs.take count) source =
      .ok ((Layout.cut source sites).annotated importer (runs.take count)).text := by
  have whole := Layout.cut_spec orderly (specifier_eq_of_surveyBy surveyed)
  have first : (Layout.cut source sites).annotated importer [] = Layout.cut source sites := by
    simp [Layout.annotated, Layout.map, Passage.stateAfter, Passage.annotate]
  have plain : ∀ passage ∈ (Layout.cut source sites).passages, passage.Unmarked := by
    intro passage member
    rcases @Sited.exists_site _ _ [] (Layout.cut source sites).rest whole.2 passage member with
      ⟨done, tail, site, siteMember, split, here⟩
    have sourceEq : source = done ++ passage.text ++ tail := by
      rw [← split, List.nil_append]
      exact whole.1.symm
    have absent : ∀ marker ∈ [Warning.marker, Banner.marker], ¬marker <:+ passage.before := by
      intro marker isMarker found
      have marked : source.endsWithAt marker site.statementRange.start = true := by
        rw [Text.endsWithAt_iff, sourceEq, here.take_start]
        exact found.trans (List.suffix_append done _)
      rw [unmarked site siteMember marker isMarker] at marked
      cases marked
    exact ⟨absent _ (by simp), absent _ (by simp)⟩
  intro count
  induction count with
  | zero =>
      intro _
      rw [List.take_zero, first, whole.1]
      rfl
  | succ count inductionHypothesis =>
      intro inside
      have before := inductionHypothesis (by omega)
      have readHere :
          ((Layout.cut source sites).annotated importer (runs.take count)).IsReadBy parser := by
        rcases Nat.eq_zero_or_pos count with rfl | positive
        · rw [List.take_zero, first]
          exact ⟨sites, by rw [whole.1]; exact surveyed, whole.2, by rw [whole.1]; exact orderly⟩
        · exact read count positive (by omega)
      rw [List.take_succ_eq_append_getElem (by omega), reviseAll_append_singleton before,
        Layout.reviseBy_annotated plain readHere]

/-- Both imports are missed by the first run; the second run changes one of them
and takes back the warning above the other one, which the third run misses
again. -/
theorem reviseAll_eq_annotated_three_runs :
    let source := text "import './a';\nimport '/b.js';\n"
    let sites : List ImportSite :=
      [⟨text "./a", ⟨8, 11, by decide⟩, ⟨0, 13, by decide⟩, 1, by decide, by decide⟩,
        ⟨text "/b.js", ⟨22, 27, by decide⟩, ⟨14, 29, by decide⟩, 2, by decide, by decide⟩]
    let runs : List Known := [[], [text "a.js", text "b.js"], []]
    surveyBy JavaScript.parse? source = .ok sites ∧ Orderly source sites ∧
      (∀ count, 0 < count → count < runs.length →
        ((Layout.cut source sites).annotated (text "m.js") (runs.take count)).IsReadBy
          JavaScript.parse?) ∧
      reviseAll JavaScript.parse? (text "m.js") runs source =
        .ok (Banner.block (text "import './a';") ++ text "import '/a.js';\n" ++ Warning.block ++
          text "import '/b.js';\n") := by
  intro source sites runs
  -- All is evaluated at once, so that the long words of comments are read only once.
  have evaluated : surveyBy JavaScript.parse? source = .ok sites ∧ Orderly source sites ∧
      (∀ site ∈ sites, ∀ marker ∈ [Warning.marker, Banner.marker],
        source.endsWithAt marker site.statementRange.start = false) ∧
      (∀ count ∈ [1, 2],
        ((Layout.cut source sites).annotated (text "m.js") (runs.take count)).IsReadBy
          JavaScript.parse?) ∧
      ((Layout.cut source sites).annotated (text "m.js") runs).text =
        Banner.block (text "import './a';") ++ text "import '/a.js';\n" ++ Warning.block ++
          text "import '/b.js';\n" := by
    decide +kernel
  rcases evaluated with ⟨surveyed, orderly, unmarked, each, code⟩
  have read : ∀ count, 0 < count → count < runs.length →
      ((Layout.cut source sites).annotated (text "m.js") (runs.take count)).IsReadBy
        JavaScript.parse? := by
    intro count positive short
    have upper : count < 3 := short
    exact each count (by simp only [List.mem_cons, List.not_mem_nil, or_false]; omega)
  refine ⟨surveyed, orderly, read, ?_⟩
  have last := reviseAll_eq_annotated surveyed orderly unmarked read 3 (Nat.le_refl 3)
  rw [show runs.take 3 = runs from rfl, code] at last
  exact last

end Respecify

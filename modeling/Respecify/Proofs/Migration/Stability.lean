import Respecify.Migration.Migrator
import Respecify.Proofs.Import.Renaming
import Respecify.Proofs.Migration.Annotation

/-!
# Revising a revised script

A revision leaves a passage alone if it takes no warning away and puts no comment
above the declaration; such a passage is settled.  A script stays as it is, with
no edit planned, exactly if all its passages are settled, so whether a second
revision changes anything is asked of each passage that the first one has made.
The one thing that the first revision leaves to the second is a warning below
which stood another one.
-/

namespace Respecify

/-! ## Comments and warnings -/

theorem Warning.block_ne_nil : Warning.block ≠ [] :=
  List.cons_ne_nil _ _

theorem Banner.block_ne_nil (statement : Text) : Banner.block statement ≠ [] :=
  List.cons_ne_nil _ _

/-- An import gets no comment if it neither changes nor lacks its script. -/
theorem Resolution.comment_eq_nil_iff {statement : Text} (resolution : Resolution) :
    resolution.comment statement = [] ↔
      resolution.newSpecifier? = none ∧ resolution ≠ .unresolved .notFound := by
  rcases resolution with ⟨_, _⟩ | ⟨_, _⟩ | ⟨_ | _ | _ | _⟩ <;>
    simp [comment, newSpecifier?, Banner.block_ne_nil, Warning.block_ne_nil]

/-- Nothing is taken away from a text exactly if it ends with no warning. -/
theorem Warning.strip_eq_self_iff {before : Text} :
    Warning.strip before = before ↔ ¬Warning.marker <:+ before := by
  have shorter : ∀ marker : Text, marker ≠ [] → marker <:+ before →
      before.take (before.length - marker.length) ≠ before := by
    intro marker filled suffix same
    have positive := List.length_pos_iff.mpr filled
    have within := suffix.length_le
    have lengths := congrArg List.length same
    rw [List.length_take] at lengths
    omega
  constructor
  · intro same marked
    unfold Warning.strip at same
    split at same
    · rename_i blocked
      exact shorter Warning.block block_ne_nil blocked same
    · exact shorter Warning.marker (by simp [marker]) marked same
  · intro unmarked
    have unblocked : ¬Warning.block <:+ before := fun blocked =>
      unmarked (Warning.marker_suffix_of_block_suffix blocked)
    rw [Warning.strip, if_neg unblocked, if_neg unmarked]

/-! ## How comments begin -/

/-- Texts that begin in two ways, neither of which continues the other, are not
the same. -/
theorem append_ne_append {one other : Text} (apart : ¬one <+: other ∧ ¬other <+: one)
    (first second : Text) : one ++ first ≠ other ++ second := by
  intro same
  have here : other <+: one ++ first := same ▸ List.prefix_append other second
  rcases List.prefix_or_prefix_of_prefix (List.prefix_append one first) here with within | within
  · exact apart.1 within
  · exact apart.2 within

/-- How warnings, banners and imports begin is told apart by their first characters. -/
theorem openings_apart :
    (∀ words ∈ Warning.markers,
      (¬words <+: text "import" ∧ ¬text "import" <+: words) ∧
        (¬lineFeed :: Banner.opening <+: words ∧ ¬words <+: lineFeed :: Banner.opening)) ∧
      (¬lineFeed :: Banner.opening <+: text "import" ∧
        ¬text "import" <+: lineFeed :: Banner.opening) := by
  decide +kernel

/-- No warning begins like an import. -/
theorem Warning.append_ne_import {words : Text} (marked : words ∈ Warning.markers)
    (more written : Text) : words ++ more ≠ text "import" ++ written :=
  append_ne_append (openings_apart.1 words marked).1 more written

/-- A banner begins with the line that opens it. -/
theorem Banner.opening_prefix (statement : Text) :
    lineFeed :: opening <+: block statement := by
  unfold block
  simp only [List.append_assoc, List.singleton_append]
  exact List.prefix_append (lineFeed :: opening) _

/-- No banner begins like an import. -/
theorem Banner.append_ne_import (statement more written : Text) :
    block statement ++ more ≠ text "import" ++ written := by
  rcases opening_prefix statement with ⟨lines, whole⟩
  rw [← whole, List.append_assoc]
  exact append_ne_append openings_apart.2 _ written

/-- No banner begins like a warning. -/
theorem Banner.append_ne_warning {words : Text} (marked : words ∈ Warning.markers)
    (statement more rest : Text) : block statement ++ more ≠ words ++ rest := by
  rcases opening_prefix statement with ⟨lines, whole⟩
  rw [← whole, List.append_assoc]
  exact append_ne_append (openings_apart.1 words marked).2 _ rest

/-! ## Passages that stay as they are -/

namespace Passage

variable {passage : Passage} {known : Known} {importer : Text}

/-- A revision takes nothing away from the passage and puts nothing into it. -/
def Settled (known : Known) (importer : Text) (passage : Passage) : Prop :=
  passage.kept (passage.resolution known importer) = passage.before ∧
    (passage.resolution known importer).comment passage.declaration = []

theorem kept_eq_before_iff {resolution : Resolution} :
    passage.kept resolution = passage.before ↔
      ((resolution.isChange || resolution == .unresolved .upToDate) = true →
        ¬Warning.marker <:+ passage.before) := by
  rw [← Warning.strip_eq_self_iff]
  unfold kept
  split
  · rename_i resolves
    simp [resolves]
  · rename_i unresolved
    simp [unresolved]

/-- A passage is settled if its import keeps its specifier, has no need of a
warning, and has none that it does not need. -/
theorem settled_iff :
    passage.Settled known importer ↔
      (passage.resolution known importer).newSpecifier? = none ∧
        passage.resolution known importer ≠ .unresolved .notFound ∧
        (passage.resolution known importer = .unresolved .upToDate →
          ¬Warning.marker <:+ passage.before) := by
  rw [Settled, kept_eq_before_iff, Resolution.comment_eq_nil_iff]
  rcases passage.resolution known importer with ⟨_, _⟩ | ⟨_, _⟩ | ⟨_ | _ | _ | _⟩ <;>
    simp [Resolution.newSpecifier?, Resolution.isChange]

theorem Settled.revise_eq (settled : passage.Settled known importer) :
    passage.revise known importer = passage := by
  have unchanged := (settled_iff.mp settled).1
  rw [revise, carryOut, settled.1, settled.2, unchanged, List.append_nil, Option.getD_none]

/-- An import below a banner is settled. -/
theorem settled_of_bannered (bannered : Banner.marker <:+ passage.before) :
    passage.Settled known importer := by
  rw [settled_iff, resolution, if_pos bannered]
  simp [Resolution.newSpecifier?]

/-- An import below a warning is settled as long as its script is not found, unless
it names none. -/
theorem settled_iff_of_warned (unbannered : ¬Banner.marker <:+ passage.before)
    (warned : Warning.marker <:+ passage.before) :
    passage.Settled known importer ↔
      known.resolve passage.specifier importer = .unresolved .notFound ∨
        known.resolve passage.specifier importer = .unresolved .external := by
  rw [settled_iff, resolution, if_neg unbannered]
  have present := @Known.resolve_ne_annotated known passage.specifier importer
  rcases resolved : known.resolve passage.specifier importer with
    ⟨_, _⟩ | ⟨_, _⟩ | ⟨_ | _ | _ | _⟩ <;>
    simp_all [Resolution.isMissing, Resolution.newSpecifier?]

/-- An import below neither a banner nor a warning is settled if its script needs
no other specifier. -/
theorem settled_iff_of_unmarked (unbannered : ¬Banner.marker <:+ passage.before)
    (unwarned : ¬Warning.marker <:+ passage.before) :
    passage.Settled known importer ↔
      known.resolve passage.specifier importer = .unresolved .upToDate ∨
        known.resolve passage.specifier importer = .unresolved .external := by
  rw [settled_iff, resolution, if_neg unbannered]
  have present := @Known.resolve_ne_annotated known passage.specifier importer
  rcases resolved : known.resolve passage.specifier importer with
    ⟨_, _⟩ | ⟨_, _⟩ | ⟨_ | _ | _ | _⟩ <;>
    simp_all [Resolution.isMissing, Resolution.newSpecifier?]

/-- An import that names a URL is settled. -/
theorem settled_of_isUrl (isUrl : Path.isUrl passage.specifier = true) :
    passage.Settled known importer := by
  have external := (@Known.resolve_eq_external_iff known passage.specifier importer).mpr isUrl
  rw [settled_iff, resolution, external]
  split <;> simp [Resolution.newSpecifier?, Resolution.isMissing]

/-! ## Passages after a revision -/

variable {known' : Known}

/-- Above an import that changes, a revision puts a banner. -/
theorem bannered_revise
    (changes : (passage.resolution known importer).newSpecifier? ≠ none) :
    Banner.marker <:+ (passage.revise known importer).before := by
  rw [before_revise]
  rcases resolved : passage.resolution known importer with ⟨_, _⟩ | ⟨_, _⟩ | _
  · exact bannerMarker_suffix_append_banner _ _
  · exact bannerMarker_suffix_append_banner _ _
  · rw [resolved] at changes
    exact absurd rfl changes

/-- Above an import whose script is not found, a revision puts a warning, unless
one is there. -/
theorem revise_of_notFound (unbannered : ¬Banner.marker <:+ passage.before)
    (missed : known.resolve passage.specifier importer = .unresolved .notFound) :
    passage.revise known importer = passage.withBefore (passage.before ++
      if Warning.marker <:+ passage.before then [] else Warning.block) := by
  rw [revise, resolution, if_neg unbannered, missed]
  by_cases warned : Warning.marker <:+ passage.before <;>
    simp [warned, carryOut, kept, withBefore, Resolution.isMissing, Resolution.isChange,
      Resolution.newSpecifier?, Resolution.comment]

/-- From an import that is up to date, a revision takes a warning away. -/
theorem revise_of_upToDate
    (upToDate : passage.resolution known importer = .unresolved .upToDate) :
    passage.revise known importer = passage.withBefore (Warning.strip passage.before) := by
  rw [revise, upToDate]
  simp [carryOut, kept, withBefore, Resolution.newSpecifier?, Resolution.comment]

/-- Where a script is not found, a revision leaves a warning, the one that was there
or its own, and the import is settled as long as the script is still missing. -/
theorem settled_revise_iff_of_notFound (unbannered : ¬Banner.marker <:+ passage.before)
    (missed : known.resolve passage.specifier importer = .unresolved .notFound) :
    (passage.revise known importer).Settled known' importer ↔
      known'.resolve passage.specifier importer = .unresolved .notFound := by
  have isPath : known'.resolve passage.specifier importer ≠ .unresolved .external := by
    intro external
    rw [Known.resolve_eq_external_iff, ← @Known.resolve_eq_external_iff known _ importer,
      missed] at external
    cases external
  have marked : Warning.marker <:+ passage.before ++
      (if Warning.marker <:+ passage.before then [] else Warning.block) := by
    split
    · rename_i warned
      rwa [List.append_nil]
    · exact Warning.marker_suffix_of_block_suffix (List.suffix_append _ _)
  have unbannered' : ¬Banner.marker <:+ passage.before ++
      (if Warning.marker <:+ passage.before then [] else Warning.block) := fun found =>
    not_warningMarker_suffix_of_bannerMarker_suffix found marked
  rw [revise_of_notFound unbannered missed, settled_iff_of_warned unbannered' marked]
  simp [withBefore, isPath]

/-- Where the specifier is up to date and stays so, a revision settles the import
unless a second warning comes up behind the one that it takes away. -/
theorem settled_revise_iff_of_upToDate
    (upToDate : passage.resolution known importer = .unresolved .upToDate)
    (again : known'.resolve passage.specifier importer = .unresolved .upToDate) :
    (passage.revise known importer).Settled known' importer ↔
      ¬Warning.marker <:+ Warning.strip passage.before := by
  rw [revise_of_upToDate upToDate]
  by_cases bannered : Banner.marker <:+ Warning.strip passage.before
  · simp [settled_of_bannered, withBefore, bannered,
      not_warningMarker_suffix_of_bannerMarker_suffix bannered]
  · by_cases warned : Warning.marker <:+ Warning.strip passage.before
    · rw [settled_iff_of_warned bannered warned]
      simp [withBefore, again, warned]
    · rw [settled_iff_of_unmarked bannered warned]
      simp [withBefore, again, warned]

/-- A revision with other names leaves alone what a revision has made, unless a
warning is left above an import that is up to date, or a script that was missed
is found now. -/
theorem settled_revise_iff
    (again : known.resolve passage.specifier importer = .unresolved .upToDate →
      known'.resolve passage.specifier importer = .unresolved .upToDate) :
    (passage.revise known importer).Settled known' importer ↔
      (passage.resolution known importer = .unresolved .upToDate →
          ¬Warning.marker <:+ Warning.strip passage.before) ∧
        (¬Banner.marker <:+ passage.before →
          known.resolve passage.specifier importer = .unresolved .notFound →
          known'.resolve passage.specifier importer = .unresolved .notFound) := by
  by_cases bannered : Banner.marker <:+ passage.before
  · have settled : passage.Settled known importer := settled_of_bannered bannered
    have annotated : passage.resolution known importer = .unresolved .annotated := if_pos bannered
    rw [settled.revise_eq, annotated]
    simp [settled_of_bannered bannered, bannered]
  have resolutionEq : passage.resolution known importer =
      if (known.resolve passage.specifier importer).isMissing ∧ Warning.marker <:+ passage.before
      then .unresolved .annotated else known.resolve passage.specifier importer :=
    if_neg bannered
  have bannerPut : (passage.resolution known importer).newSpecifier? ≠ none →
      (passage.revise known importer).Settled known' importer := fun changes =>
    settled_of_bannered (bannered_revise changes)
  rcases resolved : known.resolve passage.specifier importer with
    ⟨new, target⟩ | ⟨new, target⟩ | ⟨_ | _ | _ | _⟩
  case root =>
    have changed : passage.resolution known importer = .root new target := by
      simp [resolutionEq, resolved, Resolution.isMissing]
    simp [bannerPut (by simp [changed, Resolution.newSpecifier?]), changed]
  case directory =>
    have changed : passage.resolution known importer = .directory new target := by
      simp [resolutionEq, resolved, Resolution.isMissing]
    simp [bannerPut (by simp [changed, Resolution.newSpecifier?]), changed]
  case unresolved.notFound =>
    have missed : passage.resolution known importer ≠ .unresolved .upToDate := by
      rw [resolutionEq, resolved]
      split <;> simp
    rw [settled_revise_iff_of_notFound bannered resolved]
    simp [missed, bannered]
  case unresolved.upToDate =>
    have upToDate : passage.resolution known importer = .unresolved .upToDate := by
      simp [resolutionEq, resolved, Resolution.isMissing]
    rw [settled_revise_iff_of_upToDate upToDate (again resolved)]
    simp [upToDate]
  case unresolved.annotated => exact absurd resolved Known.resolve_ne_annotated
  case unresolved.external =>
    have isUrl := Known.resolve_eq_external_iff.mp resolved
    have external : passage.resolution known importer = .unresolved .external := by
      simp [resolutionEq, resolved, Resolution.isMissing]
    have settled : passage.Settled known importer := settled_of_isUrl isUrl
    rw [settled.revise_eq]
    simp [settled_of_isUrl isUrl, external]

/-- A second revision leaves alone what the first one has made, unless it finds
one more warning above an import that is up to date. -/
theorem settled_revise_self_iff :
    (passage.revise known importer).Settled known importer ↔
      (passage.resolution known importer = .unresolved .upToDate →
        ¬Warning.marker <:+ Warning.strip passage.before) := by
  rw [settled_revise_iff id]
  simp

/-! ## Edits of a passage -/

variable {done tail : Text} {site : ImportSite}

/-- No edit is planned for an import exactly if its passage is settled. -/
theorem IsAt.edits_eq_nil_iff (here : passage.IsAt done.length site) (closed : Closed done) :
    (Outcome.ofSite known importer (done ++ passage.text ++ tail) site).edits
        (done ++ passage.text ++ tail) = [] ↔
      passage.Settled known importer := by
  rw [here.ofSite_eq closed, Settled, Outcome.edits, List.append_eq_nil_iff, and_comm]
  apply and_congr
  · rw [kept_eq_before_iff, ← here.warned_iff closed tail, Outcome.cleanupEdits]
    unfold Outcome.resolves
    split
    · rename_i resolves
      simp [resolves]
    · rename_i unresolved
      simp [unresolved]
  · rcases passage.resolution known importer with ⟨_, _⟩ | ⟨_, _⟩ | ⟨_ | _ | _ | _⟩ <;>
      simp [Outcome.mainEdits, Resolution.comment, Banner.block_ne_nil, Warning.block_ne_nil]

/-- Right above the warning above an import stands what its passage would end with
without it. -/
theorem IsAt.endsWithAt_warning_iff (here : passage.IsAt done.length site) (closed : Closed done)
    {span : TextRange} (found : Warning.span? (done ++ passage.text ++ tail) site = some span)
    {marker : Text} (plain : ∀ c ∈ marker, c ∉ declarationEnds) :
    (done ++ passage.text ++ tail).endsWithAt marker span.start = true ↔
      marker <:+ Warning.strip passage.before := by
  have started := here.warning_start? closed tail
  rw [found, Option.map_some] at started
  rw [Text.endsWithAt_iff, Warning.strip]
  split at started
  · rename_i blocked
    rw [if_pos blocked, Option.some.inj started, here.take_start_sub blocked,
      closed.suffix_iff plain]
  · rename_i unblocked
    split at started
    · rename_i marked
      rw [if_neg unblocked, if_pos marked, Option.some.inj started, here.take_start_sub marked,
        closed.suffix_iff plain]
    · cases started

/-- Where one text begins with a passage and with its revision, the passage is
settled: no comment begins like a declaration, and no banner like a warning. -/
theorem settled_of_text_eq (declared : isDeclaration passage.declaration = true)
    {tail tail' : Text}
    (same : (passage.revise known importer).text ++ tail' = passage.text ++ tail) :
    passage.Settled known importer := by
  rcases Text.startsWith_iff.mp (Bool.and_eq_true_iff.mp declared).1 with ⟨written, started⟩
  rcases passage.exists_eq_kept_append (passage.resolution known importer) with
    ⟨words, member, whole⟩
  -- Behind what both texts keep, one goes on with the comment that is put there, the
  -- other one with the words that are taken away.
  have cancelled : (passage.resolution known importer).comment passage.declaration ++
      ((passage.revise known importer).declaration ++ tail') =
        words ++ (passage.declaration ++ tail) := by
    apply (List.append_right_inj (passage.kept (passage.resolution known importer))).mp
    calc
      _ = (passage.revise known importer).text ++ tail' := by
        simp only [text, revise, carryOut, List.append_assoc]
      _ = passage.text ++ tail := same
      _ = _ := by
        rw [text]
        conv_lhs => rw [whole]
        simp only [List.append_assoc]
  rw [← started] at cancelled
  rw [Settled]
  rcases resolved : passage.resolution known importer with
    ⟨new, target⟩ | ⟨new, target⟩ | ⟨_ | _ | _ | _⟩
  all_goals rw [resolved] at cancelled whole
  case root | directory =>
    rw [Resolution.comment] at cancelled
    rcases List.mem_cons.mp member with rfl | marked
    · rw [List.nil_append, List.append_assoc (Respecify.text "import")] at cancelled
      exact absurd cancelled (Banner.append_ne_import _ _ _)
    · exact absurd cancelled (Banner.append_ne_warning marked _ _ _)
  case unresolved.notFound =>
    have nothing : words = [] := List.append_right_eq_self.mp whole.symm
    rw [nothing, Resolution.comment, List.nil_append, List.append_assoc] at cancelled
    exact absurd cancelled (Warning.append_ne_import (by simp [Warning.markers]) _ _)
  case unresolved.upToDate =>
    rcases List.mem_cons.mp member with rfl | marked
    · rw [List.append_nil] at whole
      exact ⟨whole.symm, rfl⟩
    · rw [revise_of_upToDate resolved] at cancelled
      change passage.declaration ++ tail' = _ at cancelled
      rw [← started, List.append_assoc] at cancelled
      exact absurd cancelled.symm (Warning.append_ne_import marked _ _)
  all_goals exact ⟨rfl, rfl⟩

end Passage

/-! ## Revisions of a layout -/

namespace Sited

variable {passages : List Passage} {sites : List ImportSite} {done tail : Text}

/-- What holds of each passage and the site that stands on it holds of passages and
sites one by one. -/
theorem forall₂_of_isAt (sited : Sited done.length passages sites) (closed : Closed done)
    (declared : ∀ passage ∈ passages, isDeclaration passage.declaration = true)
    {related : Passage → ImportSite → Prop}
    (each : ∀ first passage last site,
      done ++ passages.flatMap Passage.text ++ tail = first ++ passage.text ++ last →
        Closed first → passage.IsAt first.length site → related passage site) :
    List.Forall₂ related passages sites := by
  induction passages generalizing done sites with
  | nil =>
      cases sited
      exact List.Forall₂.nil
  | cons passage passages inductionHypothesis =>
      cases sited with
      | @cons _ _ _ site sites here behind =>
          have longer : done.length + passage.text.length = (done ++ passage.text).length := by
            simp
          exact List.Forall₂.cons
            (each done passage (passages.flatMap Passage.text ++ tail) site (by simp) closed here)
            (inductionHypothesis (longer ▸ behind)
              (closed_append_text done (declared passage List.mem_cons_self))
              (fun other member => declared other (List.mem_cons_of_mem _ member))
              (fun first other last otherSite whole =>
                each first other last otherSite (by rw [← whole]; simp)))

/-- What sites tell of their passages is told of all sites exactly if it holds of
all passages. -/
theorem forall_site_iff (sited : Sited done.length passages sites) (closed : Closed done)
    (declared : ∀ passage ∈ passages, isDeclaration passage.declaration = true)
    {property : Passage → Prop} {told : ImportSite → Prop}
    (tells : ∀ first passage last site,
      done ++ passages.flatMap Passage.text ++ tail = first ++ passage.text ++ last →
        Closed first → passage.IsAt first.length site → (told site ↔ property passage)) :
    (∀ site ∈ sites, told site) ↔ ∀ passage ∈ passages, property passage := by
  have each := sited.forall₂_of_isAt closed declared tells
  clear sited declared tells
  induction each with
  | nil => simp
  | cons own _ inductionHypothesis =>
      rw [List.forall_mem_cons, List.forall_mem_cons]
      exact and_congr own inductionHypothesis

end Sited

namespace Layout

variable {parser : JavaScript.ScriptParser} {layout : Layout} {known : Known} {importer : Text}

/-- What sites tell of the passages of a layout is told of all sites exactly if it
holds of all passages. -/
theorem forall_site_iff {sites : List ImportSite} (sited : Sited 0 layout.passages sites)
    (declared : ∀ passage ∈ layout.passages, isDeclaration passage.declaration = true)
    {property : Passage → Prop} {told : ImportSite → Prop}
    (tells : ∀ first passage last site, layout.text = first ++ passage.text ++ last →
      Closed first → passage.IsAt first.length site → (told site ↔ property passage)) :
    (∀ site ∈ sites, told site) ↔ ∀ passage ∈ layout.passages, property passage :=
  @Sited.forall_site_iff _ _ [] layout.rest sited (Or.inl rfl) declared _ _ tells

/-- No edit is planned for a script exactly if all its passages are settled. -/
theorem allEdits_eq_nil_iff {sites : List ImportSite} (sited : Sited 0 layout.passages sites)
    (declared : ∀ passage ∈ layout.passages, isDeclaration passage.declaration = true)
    (known : Known) (importer : Text) :
    Outcome.allEdits layout.text (Outcome.ofSites known importer layout.text sites) = [] ↔
      ∀ passage ∈ layout.passages, passage.Settled known importer := by
  rw [Outcome.allEdits, Outcome.ofSites, List.flatMap_eq_nil_iff, List.forall_mem_map]
  apply forall_site_iff sited declared
  intro first passage last site whole closed here
  rw [whole]
  exact here.edits_eq_nil_iff closed

/-- A revision keeps a text exactly if it leaves every passage alone: the first
passage that it does not leave alone differs from what it becomes. -/
theorem text_map_revise_eq_iff
    (declared : ∀ passage ∈ layout.passages, isDeclaration passage.declaration = true) :
    (layout.map (Passage.revise known importer)).text = layout.text ↔
      ∀ passage ∈ layout.passages, passage.Settled known importer := by
  rcases layout with ⟨passages, rest⟩
  change ∀ passage ∈ passages, _ at declared
  change (passages.map (Passage.revise known importer)).flatMap Passage.text ++ rest =
    passages.flatMap Passage.text ++ rest ↔ ∀ passage ∈ passages, _
  induction passages with
  | nil => simp
  | cons passage passages inductionHypothesis =>
      have others := inductionHypothesis
        fun other member => declared other (List.mem_cons_of_mem _ member)
      rw [List.map_cons, List.flatMap_cons, List.flatMap_cons, List.append_assoc, List.append_assoc,
        List.forall_mem_cons, ← others]
      constructor
      · intro same
        have settled := Passage.settled_of_text_eq (declared passage List.mem_cons_self) same
        rw [settled.revise_eq] at same
        exact ⟨settled, List.append_cancel_left same⟩
      · rintro ⟨settled, same⟩
        rw [settled.revise_eq, same]

end Layout

/-! ## The second revision -/

variable {parser : JavaScript.ScriptParser} {known : Known} {importer source : Text}
  {revision : Revision}

theorem Revision.progress_eq_unchanged_iff :
    revision.progress = .unchanged ↔ revision.edits = [] := by
  unfold progress isChanged
  cases revision.edits <;> simp

/-- A revision makes no edit if its outcomes call for none. -/
theorem edits_eq_nil_iff_of_reviseBy
    (revised : reviseBy parser known importer source = .ok revision) :
    revision.edits = [] ↔ Outcome.allEdits source revision.outcomes = [] := by
  rw [(outcomes_of_reviseBy revised).2.2]
  simp [Outcome.allEdits, Outcome.lastFirst]

/-- A script that is read as its layout says is left alone by a revision exactly if
all its passages are settled. -/
theorem Layout.IsReadBy.exists_unchanged_iff {layout : Layout} (read : layout.IsReadBy parser)
    (known : Known) (importer : Text) :
    ∃ again, reviseBy parser known importer layout.text = .ok again ∧
      (again.edits = [] ↔ ∀ passage ∈ layout.passages, passage.Settled known importer) ∧
      (again.code = layout.text ↔
        ∀ passage ∈ layout.passages, passage.Settled known importer) := by
  rcases read.exists_declared with ⟨sites, surveyed, sited, declared⟩
  rcases Layout.reviseBy_text surveyed sited declared known importer with
    ⟨again, revised, code, outcomes⟩
  refine ⟨again, revised, ?_, ?_⟩
  · rw [edits_eq_nil_iff_of_reviseBy revised, outcomes]
    exact Layout.allEdits_eq_nil_iff sited declared known importer
  · rw [code, Layout.text_map_revise_eq_iff declared]

/-- No second warning stands right above the warning above an import that is up to
date. -/
def Outcome.IsCleared (source : Text) (outcome : Outcome) : Prop :=
  outcome.resolution = .unresolved .upToDate →
    ∀ span, Warning.span? source outcome.site = some span →
      source.endsWithAt Warning.marker span.start = false

/-- A second revision leaves a passage alone exactly if the first one clears it of
warnings, where it is to. -/
theorem Passage.IsAt.isCleared_iff {passage : Passage} {done tail : Text} {site : ImportSite}
    (here : passage.IsAt done.length site) (closed : Closed done) :
    (Outcome.ofSite known importer (done ++ passage.text ++ tail) site).IsCleared
        (done ++ passage.text ++ tail) ↔
      (passage.revise known importer).Settled known importer := by
  rw [Passage.settled_revise_self_iff, here.ofSite_eq closed, Outcome.IsCleared]
  refine imp_congr_right fun _ => ?_
  cases found : Warning.span? (done ++ passage.text ++ tail) site with
  | none =>
      have unwarned : ¬Warning.marker <:+ passage.before := by
        rw [← here.warned_iff closed tail, found]
        simp
      rw [Warning.strip_eq_self_iff.mpr unwarned]
      simp [unwarned]
  | some span =>
      rw [← here.endsWithAt_warning_iff closed found Warning.marker_plain]
      simp

/-- A second revision leaves a script alone exactly if the first one clears all its
imports of warnings, where it is to. -/
theorem Layout.forall_isCleared_iff {layout : Layout} {sites : List ImportSite}
    (sited : Sited 0 layout.passages sites)
    (declared : ∀ passage ∈ layout.passages, isDeclaration passage.declaration = true) :
    (∀ outcome ∈ Outcome.ofSites known importer layout.text sites,
        outcome.IsCleared layout.text) ↔
      ∀ passage ∈ (layout.map (Passage.revise known importer)).passages,
        passage.Settled known importer := by
  rw [Outcome.ofSites, List.forall_mem_map, Layout.map, List.forall_mem_map]
  apply forall_site_iff sited declared
  intro first passage last site whole closed here
  rw [whole]
  exact here.isCleared_iff closed

/-- A script whose revised text is read as it was written can be revised once more, and
the second revision changes nothing exactly if the first one has left no warning above
an import that is up to date. -/
theorem reviseBy_revision_unchanged_iff
    (revised : reviseBy parser known importer source = .ok revision)
    (orderly : Orderly source (revision.outcomes.map Outcome.site))
    (read : ((Layout.cut source (revision.outcomes.map Outcome.site)).map
      (Passage.revise known importer)).IsReadBy parser) :
    ∃ again, reviseBy parser known importer revision.code = .ok again ∧
      ((again.progress = .unchanged ∧ again.edits = [] ∧ again.code = revision.code) ↔
        ∀ outcome ∈ revision.outcomes, outcome.IsCleared source) := by
  rcases Layout.cut_of_reviseBy revised orderly with ⟨whole, sited, declared, code⟩
  rcases read.exists_unchanged_iff known importer with ⟨again, revisedAgain, edits, text⟩
  have cleared := @Layout.forall_isCleared_iff known importer _ _ sited declared
  rw [whole, ← (outcomes_of_reviseBy revised).2.1] at cleared
  rw [← code, ← cleared] at text
  rw [← cleared] at edits
  refine ⟨again, code ▸ revisedAgain, ?_⟩
  rw [Revision.progress_eq_unchanged_iff, edits, text]
  simp

/-- Among other statements, an import below a warning names its script from the root after
a revision, one that is missed has a warning, and a second revision changes nothing more. -/
theorem reviseBy_revision_unchanged_iff_warned :
    let source := text "f();" ++ Warning.block ++
      text "import './a.js';\nimport './b.js';\ng();\n"
    ∃ revision again,
      reviseBy JavaScript.parse? [text "a.js"] (text "m.js") source = .ok revision ∧
        revision.code = text "f();" ++ Banner.block (text "import './a.js';") ++
          text "import '/a.js';\n" ++ Warning.block ++ text "import './b.js';\ng();\n" ∧
        reviseBy JavaScript.parse? [text "a.js"] (text "m.js") revision.code = .ok again ∧
        again.progress = .unchanged ∧ again.edits = [] ∧ again.code = revision.code := by
  intro source
  let sites : List ImportSite := (surveyBy JavaScript.parse? source).toOption.getD []
  let layout := Layout.cut source sites
  have evaluated : (reviseBy JavaScript.parse? [text "a.js"] (text "m.js") source).toOption.map
      (fun revision => (revision.code, revision.outcomes.map Outcome.resolution)) =
        some (text "f();" ++ Banner.block (text "import './a.js';") ++
          text "import '/a.js';\n" ++ Warning.block ++ text "import './b.js';\ng();\n",
          [.root (text "/a.js") (text "a.js"), .unresolved .notFound]) ∧
      Orderly source sites ∧
      (layout.map (Passage.revise [text "a.js"] (text "m.js"))).IsReadBy JavaScript.parse? := by
    decide +kernel
  rcases evaluated with ⟨answer, orderly, read⟩
  cases revised : reviseBy JavaScript.parse? [text "a.js"] (text "m.js") source with
  | error error =>
      rw [revised] at answer
      cases answer
  | ok revision =>
      rw [revised] at answer
      rcases Prod.mk.inj (Option.some.inj answer) with ⟨code, resolutions⟩
      have sitesEq : revision.outcomes.map Outcome.site = sites := sites_of_reviseBy revised
      rcases reviseBy_revision_unchanged_iff revised (sitesEq.symm ▸ orderly)
        (sitesEq.symm ▸ read) with ⟨again, revisedAgain, unchanged⟩
      refine ⟨revision, again, rfl, code, revisedAgain, unchanged.mpr ?_⟩
      intro outcome member upToDate
      have here := List.mem_map_of_mem (f := Outcome.resolution) member
      rw [resolutions, upToDate] at here
      simp at here

/-- A second warning above an import that is up to date is left by one revision and
taken away by the next. -/
theorem not_reviseBy_revision_unchanged :
    let source := Warning.marker ++ Warning.block ++ text "import a from '/b.js';\n"
    let between := Warning.marker ++ text "import a from '/b.js';\n"
    (revise [text "b.js"] (text "m.js") source).toOption.map Revision.code = some between ∧
      (revise [text "b.js"] (text "m.js") between).toOption.map
          (fun again => (again.progress, again.code)) =
        some (.changed, text "import a from '/b.js';\n") := by
  decide +kernel

end Respecify

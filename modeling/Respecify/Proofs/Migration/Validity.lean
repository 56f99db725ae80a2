import Mathlib.Data.List.Sections
import Respecify.Proofs.Import.Alike
import Respecify.Proofs.Import.Renaming
import Respecify.Proofs.Migration.Passage

/-!
# Scripts stay modules with the same imports

A revision writes specifiers, puts comments above imports and takes warnings
away.  The comments do no harm.  A specifier does none if it can stand between
the quotes of the old one.  A warning that is taken away may have ended the line
before it, so whether that does harm is asked of the parser, for each warning on
its own.  All this is told for parsers that treat imports as the grammar does in the
scripts through which a revision leads, import by import and step by step.
-/

namespace Respecify

open JavaScript

/-! ## What a revision changes in a passage -/

namespace Passage

variable {passage : Passage} {known : Known} {importer : Text}

/-- The passage without the warning that a revision takes away, and with a line
break for the comment that the revision puts above the declaration. -/
def loosened (known : Known) (importer : Text) (passage : Passage) : Passage :=
  passage.withBefore (passage.kept (passage.resolution known importer) ++
    if (passage.resolution known importer).comment passage.declaration = [] then []
    else [lineFeed])

/-- The passage with the comments of a revision and its old specifier. -/
def commented (known : Known) (importer : Text) (passage : Passage) : Passage :=
  passage.withBefore (passage.kept (passage.resolution known importer) ++
    (passage.resolution known importer).comment passage.declaration)

/-- The specifier that a revision writes can stand in the declaration, and a
machine word can tell its length. -/
def Renames (known : Known) (importer : Text) (passage : Passage) : Prop :=
  ∀ specifier, (passage.resolution known importer).newSpecifier? = some specifier →
    passage.accepts specifier = true ∧ specifier.length ≤ TextRange.greatestLength

instance (known : Known) (importer : Text) (passage : Passage) :
    Decidable (passage.Renames known importer) :=
  decidable_of_iff
    ((passage.resolution known importer).newSpecifier?.all fun specifier =>
      passage.accepts specifier && decide (specifier.length ≤ TextRange.greatestLength))
    (by simp [Renames, Option.all_eq_true])

/-- What is taken away above a declaration is a warning. -/
theorem exists_words (resolution : Resolution) (passage : Passage) :
    ∃ words, passage.before = passage.kept resolution ++ words ∧ IsAside words := by
  rcases passage.exists_eq_kept_append resolution with ⟨words, member, whole⟩
  refine ⟨words, whole, ?_⟩
  simp only [Warning.markers, List.mem_cons, List.not_mem_nil, or_false] at member
  rcases member with rfl | rfl | rfl
  · exact isAside_nil
  · exact isAside_warningBlock
  · exact isAside_warningMarker

/-- The comment above an import is made of comments, if there is one. -/
theorem comment_eq_nil_or_isInset (resolution : Resolution) {statement : Text}
    (scalar : ∀ c ∈ statement, isScalar c = true) :
    resolution.comment statement = [] ∨ IsInset (resolution.comment statement) := by
  rcases resolution with ⟨_, _⟩ | ⟨_, _⟩ | ⟨_ | _ | _ | _⟩
  · exact Or.inr (Banner.isInset_block scalar)
  · exact Or.inr (Banner.isInset_block scalar)
  · exact Or.inr isInset_warningBlock
  all_goals exact Or.inl rfl

theorem revise_eq (known : Known) (importer : Text) (passage : Passage) :
    passage.revise known importer =
      (passage.commented known importer).withSpecifier
        ((passage.resolution known importer).newSpecifier?.getD passage.specifier) := by
  rw [revise, carryOut, withSpecifier, commented, withBefore]

/-- Without a comment above it, a passage is loosened to what a revision makes of
it, apart from the specifier. -/
theorem loosened_eq_commented
    (none : (passage.resolution known importer).comment passage.declaration = []) :
    passage.loosened known importer = passage.commented known importer := by
  rw [loosened, commented, if_pos none, none]

theorem loosened_eq_of_isInset
    (inset : IsInset ((passage.resolution known importer).comment passage.declaration)) :
    passage.loosened known importer =
      passage.withBefore (passage.kept (passage.resolution known importer) ++ [lineFeed]) := by
  rcases inset with ⟨lines, _, whole⟩
  rw [loosened, if_neg (by rw [whole]; exact List.cons_ne_nil _ _)]

/-- A passage is loosened by words of a warning. -/
theorem exists_loosened_eq (known : Known) (importer : Text) (passage : Passage) :
    ∃ words, IsAside words ∧ passage.loosened known importer =
      passage.withBefore (passage.kept (passage.resolution known importer) ++ words) := by
  rw [loosened]
  split
  · exact ⟨[], isAside_nil, rfl⟩
  · exact ⟨[lineFeed], isAside_lineFeed, rfl⟩

/-- A new specifier is not empty. -/
theorem specifier_ne_nil_of_resolution {specifier : Text}
    (renamed : (passage.resolution known importer).newSpecifier? = some specifier) :
    specifier ≠ [] := by
  unfold resolution at renamed
  split at renamed
  · cases renamed
  · dsimp only at renamed
    split at renamed
    · cases renamed
    · exact Known.newSpecifier_ne_nil renamed

/-- Spelling does not depend on what stands before a declaration. -/
theorem IsSpelled.withBefore (spelled : passage.IsSpelled) (before : Text) :
    (passage.withBefore before).IsSpelled :=
  ⟨spelled.starts, spelled.ends, spelled.quoted, spelled.accepted, spelled.nonempty⟩

theorem IsSpelled.withSpecifier (spelled : passage.IsSpelled) {specifier : Text}
    (accepted : passage.accepts specifier = true) (nonempty : specifier ≠ []) :
    (passage.withSpecifier specifier).IsSpelled :=
  ⟨spelled.starts, spelled.ends, spelled.quoted, accepted, nonempty⟩

/-- The new declaration is spelled as one if the new specifier can stand in
it. -/
theorem IsSpelled.revise (spelled : passage.IsSpelled)
    (renames : passage.Renames known importer) :
    (passage.revise known importer).IsSpelled := by
  rw [revise_eq]
  refine (spelled.withBefore _).withSpecifier ?_ ?_
  · cases renamed : (passage.resolution known importer).newSpecifier? with
    | none => exact spelled.accepted
    | some specifier => exact (renames specifier renamed).1
  · cases renamed : (passage.resolution known importer).newSpecifier? with
    | none => exact spelled.nonempty
    | some specifier => exact specifier_ne_nil_of_resolution renamed

/-- A machine word can tell how long the new declaration is, if it can tell that of the
new specifier. -/
theorem IsMeasured.revise (measured : passage.IsMeasured) (spelled : passage.IsSpelled)
    (renames : passage.Renames known importer) :
    (passage.revise known importer).IsMeasured := by
  refine ⟨(spelled.revise renames).nonempty, ?_⟩
  rw [revise_eq]
  cases renamed : (passage.resolution known importer).newSpecifier? with
  | none => exact measured.2
  | some specifier => exact (renames specifier renamed).2

/-- Where a passage is loosened, the declarations stay as they were. -/
theorem fit_loosened {earlier later : List Passage}
    (fit : ∀ other ∈ earlier ++ passage :: later, other.IsSpelled ∧ other.IsMeasured) :
    ∀ other ∈ earlier ++ passage.loosened known importer :: later,
      other.IsSpelled ∧ other.IsMeasured := by
  intro other member
  rcases List.mem_append.mp member with member | member
  · exact fit other (List.mem_append_left _ member)
  · rcases List.mem_cons.mp member with rfl | member
    · have own := fit passage (List.mem_append_right _ List.mem_cons_self)
      exact ⟨own.1.withBefore _, own.2⟩
    · exact fit other (List.mem_append_right _ (List.mem_cons_of_mem _ member))

/-- What a passage is in the course of a revision: as it was, without its warning and
with a line break, with the comments of the revision, and with its new specifier. -/
def drafts (known : Known) (importer : Text) (passage : Passage) : List Passage :=
  [passage, passage.loosened known importer, passage.commented known importer,
    passage.revise known importer].eraseDups

theorem mem_drafts {draft : Passage} :
    draft ∈ passage.drafts known importer ↔ draft = passage ∨
      draft = passage.loosened known importer ∨ draft = passage.commented known importer ∨
        draft = passage.revise known importer := by
  simp [drafts, List.mem_eraseDups]

/-- The change makes a draft of every passage. -/
def IsDrafting (known : Known) (importer : Text) (change : Passage → Passage) : Prop :=
  ∀ passage, change passage ∈ passage.drafts known importer

theorem isDrafting_id (known : Known) (importer : Text) : IsDrafting known importer id :=
  fun _ => mem_drafts.mpr (Or.inl rfl)

theorem isDrafting_loosened (known : Known) (importer : Text) :
    IsDrafting known importer (loosened known importer) :=
  fun _ => mem_drafts.mpr (Or.inr (Or.inl rfl))

theorem isDrafting_commented (known : Known) (importer : Text) :
    IsDrafting known importer (commented known importer) :=
  fun _ => mem_drafts.mpr (Or.inr (Or.inr (Or.inl rfl)))

theorem isDrafting_revise (known : Known) (importer : Text) :
    IsDrafting known importer (revise known importer) :=
  fun _ => mem_drafts.mpr (Or.inr (Or.inr (Or.inr rfl)))

/-- If a warning is taken away, a line break stands before it that goes with it,
and either one more that stays or a banner that comes. -/
def KeepsLineEnd (known : Known) (importer : Text) (passage : Passage) : Prop :=
  passage.kept (passage.resolution known importer) ≠ passage.before →
    passage.before = passage.kept (passage.resolution known importer) ++ Warning.block ∧
      ((passage.kept (passage.resolution known importer)).getLast? = some lineFeed ∨
        (passage.resolution known importer).comment passage.declaration ≠ [])

end Passage

/-- A layout that is read with the statements of a script of module code has its
imports where it says. -/
theorem Layout.Reads.isReadBy {parser : ScriptParser} {layout other : Layout}
    {segments : List Segment} {last : List Outline} {otherSites : List ImportSite}
    (read : layout.Reads parser segments last) (otherRead : other.Reads parser segments last)
    (otherSurveyed : surveyBy parser other.text = .ok otherSites)
    (fit : ∀ passage ∈ layout.passages, passage.IsSpelled ∧ passage.IsMeasured) :
    layout.IsReadBy parser := by
  rcases read.exists_sites otherRead otherSurveyed fun passage member => (fit passage member).2
    with ⟨sites, surveyed, sited⟩
  refine ⟨sites, surveyed, sited, ?_⟩
  simpa [Layout.text] using @Sited.orderly _ _ [] layout.rest sited
    fun passage member => (fit passage member).1.isDeclaration

/-! ## The scripts through which a revision leads -/

namespace Layout

variable {known : Known} {importer : Text} {layout : Layout} {earlier later : List Passage}
  {passage : Passage} {change change' : Passage → Passage}

/-- The scripts in the course of a revision: each passage is one of its drafts. -/
def drafts (known : Known) (importer : Text) (layout : Layout) : List Layout :=
  (layout.passages.map (Passage.drafts known importer)).sections.map fun passages =>
    ⟨passages, layout.rest⟩

theorem mem_drafts_iff {passages : List Passage} :
    ⟨passages, layout.rest⟩ ∈ layout.drafts known importer ↔
      List.Forall₂ (fun draft passage => draft ∈ passage.drafts known importer) passages
        layout.passages := by
  rw [drafts, List.mem_map]
  simp only [mk.injEq, and_true, exists_eq_right, List.mem_sections, List.forall₂_map_right_iff]

theorem forall₂_drafts (drafting : Passage.IsDrafting known importer change)
    (passages : List Passage) :
    List.Forall₂ (fun draft passage => draft ∈ passage.drafts known importer)
      (passages.map change) passages := by
  rw [List.forall₂_map_left_iff, List.forall₂_same]
  exact fun passage _ => drafting passage

/-- Passages that are changed in one way up to a place, and in another one behind it, make
a script in the course of the revision. -/
theorem append_mem_drafts (drafting : Passage.IsDrafting known importer change)
    (drafting' : Passage.IsDrafting known importer change')
    (split : layout.passages = earlier ++ later) :
    ⟨earlier.map change ++ later.map change', layout.rest⟩ ∈ layout.drafts known importer := by
  rw [mem_drafts_iff, split]
  exact List.rel_append (forall₂_drafts drafting earlier) (forall₂_drafts drafting' later)

/-- Passages may be changed in one way up to a place, and left as they were behind it. -/
theorem map_append_mem_drafts (drafting : Passage.IsDrafting known importer change)
    (split : layout.passages = earlier ++ later) :
    ⟨earlier.map change ++ later, layout.rest⟩ ∈ layout.drafts known importer := by
  have among := append_mem_drafts drafting (Passage.isDrafting_id known importer) split
  rwa [List.map_id] at among

/-- At that place, a passage may be any of its drafts. -/
theorem append_cons_mem_drafts (drafting : Passage.IsDrafting known importer change)
    (drafting' : Passage.IsDrafting known importer change')
    (split : layout.passages = earlier ++ passage :: later) :
    ∀ draft ∈ passage.drafts known importer,
      ⟨earlier.map change ++ draft :: later.map change', layout.rest⟩ ∈
        layout.drafts known importer := by
  intro draft member
  rw [mem_drafts_iff, split]
  exact List.rel_append (forall₂_drafts drafting earlier)
    (List.Forall₂.cons member (forall₂_drafts drafting' later))

/-- In a script that is as it was elsewhere, a passage may be any of its drafts. -/
theorem cons_mem_drafts (split : layout.passages = earlier ++ passage :: later) :
    ∀ draft ∈ passage.drafts known importer,
      ⟨earlier ++ draft :: later, layout.rest⟩ ∈ layout.drafts known importer := by
  have among := append_cons_mem_drafts (Passage.isDrafting_id known importer)
    (Passage.isDrafting_id known importer) split
  simpa only [List.map_id] using among

theorem self_mem_drafts (known : Known) (importer : Text) (layout : Layout) :
    layout ∈ layout.drafts known importer := by
  have among := append_mem_drafts (Passage.isDrafting_id known importer)
    (Passage.isDrafting_id known importer) (List.append_nil layout.passages).symm
  simpa only [List.map_id, List.map_nil, List.append_nil] using among

theorem map_revise_mem_drafts (known : Known) (importer : Text) (layout : Layout) :
    layout.map (Passage.revise known importer) ∈ layout.drafts known importer := by
  have among := append_mem_drafts (Passage.isDrafting_revise known importer)
    (Passage.isDrafting_id known importer) (List.append_nil layout.passages).symm
  rwa [List.map_nil, List.append_nil] at among

end Layout

/-- A script with its imports where its layout has them is read as the layout says. -/
theorem Regular.exists_reading {parser : ScriptParser} {scripts : List Layout} {layout : Layout}
    (regular : Regular parser scripts) (among : layout ∈ scripts)
    (read : layout.IsReadBy parser) :
    ∃ segments last, layout.Reads parser segments last ∧
      ∀ passage ∈ layout.passages, passage.IsSpelled ∧ passage.IsMeasured := by
  rcases regular.positions among read with ⟨⟨segments, last, reads⟩, spelled⟩
  rcases read with ⟨sites, surveyed, _, _⟩
  have measured := (reads.sited (fun passage member => (spelled passage member).nonempty)
    surveyed).2
  exact ⟨segments, last, reads, fun passage member =>
    ⟨spelled passage member, measured passage member⟩⟩

namespace Regular

/-! ## One passage -/

section Passage

variable {parser : ScriptParser} {scripts : List Layout} (regular : Regular parser scripts)
  {known : Known} {importer : Text} {passage : Passage} {earlier later : List Passage}
  {rest : Text} {segments segments' : List Segment} {last last' : List Outline}
  (among : ∀ draft ∈ passage.drafts known importer,
    ⟨earlier ++ draft :: later, rest⟩ ∈ scripts)

include regular among

/-- Comments may take the place of a line break above a declaration, and a new
specifier that of the old one. -/
theorem reads_revise (spelled : passage.IsSpelled) (renames : passage.Renames known importer)
    (read : Layout.Reads parser ⟨earlier ++ passage.loosened known importer :: later, rest⟩
      segments last) :
    Layout.Reads parser ⟨earlier ++ passage.revise known importer :: later, rest⟩
      segments last := by
  have amongLoosened := among _ (Passage.isDrafting_loosened known importer passage)
  have amongCommented := among _ (Passage.isDrafting_commented known importer passage)
  have amongRevised := among _ (Passage.isDrafting_revise known importer passage)
  have commented : Layout.Reads parser
      ⟨earlier ++ passage.commented known importer :: later, rest⟩ segments last := by
    rcases Passage.comment_eq_nil_or_isInset (passage.resolution known importer)
      (read.isScalar_declaration rfl) with none | inset
    · rwa [Passage.loosened_eq_commented none] at read
    · rw [Passage.loosened_eq_of_isInset inset] at amongLoosened read
      exact (regular.comments isAside_lineFeed inset amongLoosened amongCommented amongLoosened
        read).mpr read
  rw [Passage.revise_eq] at amongRevised ⊢
  cases renamed : (passage.resolution known importer).newSpecifier? with
  | none => exact commented
  | some specifier =>
      rw [renamed, Option.getD_some] at amongRevised
      exact regular.strings (spelled.withBefore _) (renames specifier renamed).1
        (Passage.specifier_ne_nil_of_resolution renamed) amongCommented amongRevised commented

/-- The old specifier may take the place of the new one. -/
theorem reads_commented (spelled : passage.IsSpelled) (renames : passage.Renames known importer)
    (read : Layout.Reads parser ⟨earlier ++ passage.revise known importer :: later, rest⟩
      segments last) :
    Layout.Reads parser ⟨earlier ++ passage.commented known importer :: later, rest⟩
      segments last :=
  regular.strings (spelled.revise renames) spelled.accepted spelled.nonempty
    (among _ (Passage.isDrafting_revise known importer passage))
    (among _ (Passage.isDrafting_commented known importer passage)) read

/-- Where the comments of a revision may stand above one declaration of a script,
a line break may. -/
theorem reads_loosened
    (source : Layout.Reads parser ⟨earlier ++ passage :: later, rest⟩ segments last)
    (read : Layout.Reads parser ⟨earlier ++ passage.commented known importer :: later, rest⟩
      segments' last') :
    Layout.Reads parser ⟨earlier ++ passage.loosened known importer :: later, rest⟩
      segments' last' := by
  have amongLoosened := among _ (Passage.isDrafting_loosened known importer passage)
  have amongCommented := among _ (Passage.isDrafting_commented known importer passage)
  have amongSource := among _ (Passage.isDrafting_id known importer passage)
  rcases Passage.comment_eq_nil_or_isInset (passage.resolution known importer)
    (source.isScalar_declaration rfl) with none | inset
  · rwa [Passage.loosened_eq_commented none]
  · rcases passage.exists_words (passage.resolution known importer) with ⟨words, whole, aside⟩
    rw [id_eq, ← passage.withBefore_before, whole] at amongSource
    rw [← passage.withBefore_before, whole] at source
    rw [Passage.loosened_eq_of_isInset inset] at amongLoosened ⊢
    exact (regular.comments aside inset amongSource amongCommented amongLoosened source).mp read

/-- With or without a warning, a script has the same statements. -/
theorem eq_of_reads_loosened
    (source : Layout.Reads parser ⟨earlier ++ passage :: later, rest⟩ segments last)
    (read : Layout.Reads parser ⟨earlier ++ passage.loosened known importer :: later, rest⟩
      segments' last') :
    segments = segments' ∧ last = last' := by
  have amongLoosened := among _ (Passage.isDrafting_loosened known importer passage)
  have amongSource := among _ (Passage.isDrafting_id known importer passage)
  rcases passage.exists_words (passage.resolution known importer) with ⟨words, whole, aside⟩
  rcases passage.exists_loosened_eq known importer with ⟨words', aside', loosened⟩
  rw [id_eq, ← passage.withBefore_before, whole] at amongSource
  rw [← passage.withBefore_before, whole] at source
  rw [loosened] at amongLoosened read
  exact regular.traceless aside aside' amongSource amongLoosened source read

/-- A warning that can be taken away on its own leaves the statements as they were. -/
theorem reads_loosened_of_harmless
    (harmless : passage.kept (passage.resolution known importer) ≠ passage.before →
      Layout.IsReadBy parser ⟨earlier ++ passage.loosened known importer :: later, rest⟩)
    (source : Layout.Reads parser ⟨earlier ++ passage :: later, rest⟩ segments last) :
    Layout.Reads parser ⟨earlier ++ passage.loosened known importer :: later, rest⟩
      segments last := by
  have amongSource := among _ (Passage.isDrafting_id known importer passage)
  have amongLoosened := among _ (Passage.isDrafting_loosened known importer passage)
  by_cases kept : passage.kept (passage.resolution known importer) = passage.before
  · rw [Passage.loosened, kept] at amongLoosened ⊢
    split at amongLoosened
    · rw [if_pos ‹_›]
      rwa [List.append_nil]
    · rw [if_neg ‹_›]
      exact regular.breaks amongSource amongLoosened source
  · rcases regular.exists_reading amongLoosened (harmless kept) with ⟨segments', last', read, _⟩
    rcases regular.eq_of_reads_loosened among source read with ⟨rfl, rfl⟩
    exact read

/-- Above a declaration, a warning with a line break before it can be taken away if
another line break stands before that one or a banner takes its place. -/
theorem reads_loosened_of_keepsLineEnd (keeps : passage.KeepsLineEnd known importer)
    (taken : passage.kept (passage.resolution known importer) ≠ passage.before)
    (source : Layout.Reads parser ⟨earlier ++ passage :: later, rest⟩ segments last) :
    Layout.Reads parser ⟨earlier ++ passage.loosened known importer :: later, rest⟩
      segments last := by
  have amongLoosened := among _ (Passage.isDrafting_loosened known importer passage)
  have amongSource := among _ (Passage.isDrafting_id known importer passage)
  rcases keeps taken with ⟨whole, ended⟩
  rw [id_eq, ← passage.withBefore_before, whole] at amongSource
  rw [← passage.withBefore_before, whole] at source
  by_cases none : (passage.resolution known importer).comment passage.declaration = []
  · rcases List.getLast?_eq_some_iff.mp (ended.resolve_right (not_not.mpr none)) with
      ⟨first, keptEq⟩
    have loosenedEq : passage.loosened known importer =
        passage.withBefore (first ++ [lineFeed]) := by
      rw [Passage.loosened, if_pos none, List.append_nil, keptEq]
    rw [keptEq, List.append_assoc] at amongSource source
    rw [loosenedEq] at amongLoosened ⊢
    exact (regular.comments isAside_lineFeed_warningBlock isInset_lineFeed_warningBlock
      amongSource amongSource amongLoosened source).mp source
  · rw [Passage.loosened, if_neg none] at amongLoosened ⊢
    exact (regular.comments isAside_warningBlock isInset_warningBlock amongSource amongSource
      amongLoosened source).mp source

end Passage

end Regular

/-! ## The sites of the new text -/

/-- A site of the new text is what became of an import: it names the new
specifier, or the old one if there is no new one, and its declaration differs
from the old one in nothing else. -/
def Outcome.IsKeptAs (before after : Text) (outcome : Outcome) (site : ImportSite) : Prop :=
  site.specifier = outcome.resolution.newSpecifier?.getD outcome.site.specifier ∧
    site.statementRange.slice after = outcome.declaration before

/-- The site of a revised passage is what became of the import. -/
theorem Passage.IsAt.isKeptAs {done done' tail tail' : Text} {passage : Passage}
    {site newSite : ImportSite} (here : passage.IsAt done.length site) (closed : Closed done)
    {known : Known} {importer : Text}
    (newHere : (passage.revise known importer).IsAt done'.length newSite) :
    Outcome.IsKeptAs (done ++ passage.text ++ tail)
      (done' ++ (passage.revise known importer).text ++ tail')
      (Outcome.ofSite known importer (done ++ passage.text ++ tail) site) newSite := by
  have oldText := @Passage.IsAt.declaration_ofSite _ _ tail _ here
    (passage.resolution known importer)
  rw [here.ofSite_eq closed]
  refine ⟨?_, newHere.slice_statement.trans oldText.symm⟩
  rw [newHere.specifier_eq, here.specifier_eq]
  rfl

/-- The sites of revised passages are what became of the imports. -/
theorem Sited.forall₂_isKeptAs {done done' tail : Text} {passages : List Passage}
    {sites found : List ImportSite} (sited : Sited done.length passages sites)
    (closed : Closed done)
    (declared : ∀ passage ∈ passages, isDeclaration passage.declaration = true)
    (known : Known) (importer : Text)
    (revised : Sited done'.length (passages.map (Passage.revise known importer)) found) :
    List.Forall₂
      (Outcome.IsKeptAs (done ++ passages.flatMap Passage.text ++ tail)
        (done' ++ (passages.map (Passage.revise known importer)).flatMap Passage.text ++ tail))
      (Outcome.ofSites known importer (done ++ passages.flatMap Passage.text ++ tail) sites)
      found := by
  induction passages generalizing done done' sites found with
  | nil =>
      cases sited
      cases revised
      exact List.Forall₂.nil
  | cons passage passages inductionHypothesis =>
      cases sited with
      | @cons _ _ _ site sites here behind =>
          cases revised with
          | @cons _ _ _ newSite found newHere newBehind =>
              have isDeclared := declared passage List.mem_cons_self
              have longer : done.length + passage.text.length = (done ++ passage.text).length := by
                simp
              have newLonger : done'.length + (passage.revise known importer).text.length =
                  (done' ++ (passage.revise known importer).text).length := by
                simp
              have others := inductionHypothesis (longer ▸ behind)
                (closed_append_text done isDeclared)
                (fun other member => declared other (List.mem_cons_of_mem _ member))
                (newLonger ▸ newBehind)
              simp only [List.map_cons, List.flatMap_cons, List.append_assoc] at others ⊢
              rw [Outcome.ofSites, List.map_cons]
              have own := @Passage.IsAt.isKeptAs _ _ (passages.flatMap Passage.text ++ tail)
                ((passages.map (Passage.revise known importer)).flatMap Passage.text ++ tail)
                _ _ _ here closed known importer newHere
              rw [List.append_assoc, List.append_assoc] at own
              exact List.Forall₂.cons own others

/-! ## When a revision keeps a module -/

/-- Each new specifier can be written between the quotes of the old one, and each warning
that a revision takes away can be taken away on its own. -/
def Layout.IsHarmless (parser : ScriptParser) (known : Known) (importer : Text)
    (layout : Layout) : Prop :=
  ∀ earlier passage later, layout.passages = earlier ++ passage :: later →
    passage.Renames known importer ∧
      (passage.kept (passage.resolution known importer) ≠ passage.before →
        Layout.IsReadBy parser
          ⟨earlier ++ passage.loosened known importer :: later, layout.rest⟩)

/-- Whether a revision is harmless can be asked passage by passage. -/
theorem Layout.isHarmless_iff {parser : ScriptParser} {known : Known} {importer : Text}
    {layout : Layout} :
    layout.IsHarmless parser known importer ↔
      ∀ count : Fin layout.passages.length,
        let passage := layout.passages[count]
        passage.Renames known importer ∧
          (passage.kept (passage.resolution known importer) ≠ passage.before →
            Layout.IsReadBy parser
              ⟨layout.passages.take count ++ passage.loosened known importer ::
                layout.passages.drop (count + 1), layout.rest⟩) := by
  constructor
  · intro harmless count
    exact harmless _ _ _ (by simp)
  · intro each earlier passage later split
    have inside : earlier.length < layout.passages.length := by
      rw [split, List.length_append, List.length_cons]
      omega
    have here := each ⟨earlier.length, inside⟩
    simpa [split] using here

instance (parser : ScriptParser) (known : Known) (importer : Text) (layout : Layout) :
    Decidable (layout.IsHarmless parser known importer) :=
  decidable_of_iff _ Layout.isHarmless_iff.symm

theorem Layout.IsHarmless.renames {parser : ScriptParser} {known : Known} {importer : Text}
    {layout : Layout} (harmless : layout.IsHarmless parser known importer) :
    ∀ passage ∈ layout.passages, passage.Renames known importer := by
  intro passage member
  rcases List.append_of_mem member with ⟨earlier, later, split⟩
  exact (harmless earlier passage later split).1

namespace Regular

variable {parser : ScriptParser} {known : Known} {importer : Text} {layout : Layout}
  (regular : Regular parser (layout.drafts known importer))

include regular

/-- A revised layout is read like the old one if each new specifier can be
written and each warning can be taken away on its own. -/
theorem isReadBy_map_revise (source : layout.IsReadBy parser)
    (harmless : layout.IsHarmless parser known importer) :
    (layout.map (Passage.revise known importer)).IsReadBy parser := by
  rcases regular.exists_reading (layout.self_mem_drafts known importer) source with
    ⟨segments, last, read, fit⟩
  rcases source with ⟨sites, surveyed, _, _⟩
  have loosened : Layout.Reads parser
      ⟨layout.passages.map (Passage.loosened known importer), layout.rest⟩ segments last :=
    regular.reads_map_of_each
      (fun earlier later split =>
        Layout.map_append_mem_drafts (Passage.isDrafting_loosened known importer) split)
      (fun earlier passage later split =>
        Layout.cons_mem_drafts split _ (Passage.isDrafting_loosened known importer passage))
      read
      fun earlier passage later split =>
        regular.reads_loosened_of_harmless (Layout.cons_mem_drafts split)
          (harmless earlier passage later split).2 (split ▸ read)
  have revised : (layout.map (Passage.revise known importer)).Reads parser segments last :=
    Layout.reads_map_of_step (fun earlier passage later split =>
      have member : passage ∈ layout.passages := split ▸ List.mem_append_right _ List.mem_cons_self
      regular.reads_revise (Layout.append_cons_mem_drafts
          (Passage.isDrafting_revise known importer) (Passage.isDrafting_loosened known importer)
          split)
        (fit passage member).1 (harmless.renames passage member)) loosened
  refine revised.isReadBy read surveyed fun passage member => ?_
  rcases List.mem_map.mp member with ⟨old, oldMember, rfl⟩
  have renames := harmless.renames old oldMember
  exact ⟨(fit old oldMember).1.revise renames,
    (fit old oldMember).2.revise (fit old oldMember).1 renames⟩

/-- Where a revised layout is read like the old one, each new specifier can be
written and each warning can be taken away on its own. -/
theorem isHarmless_of_isReadBy_map_revise (source : layout.IsReadBy parser)
    (after : (layout.map (Passage.revise known importer)).IsReadBy parser) :
    layout.IsHarmless parser known importer := by
  have original := layout.self_mem_drafts known importer
  rcases regular.exists_reading original source with ⟨segments, last, read, fit⟩
  rcases regular.exists_reading (layout.map_revise_mem_drafts known importer) after with
    ⟨segments', last', readAfter, fitAfter⟩
  rcases source with ⟨sites, surveyed, _, _⟩
  have renames : ∀ passage ∈ layout.passages, passage.Renames known importer := by
    intro passage member specifier renamed
    have after := fitAfter _ (List.mem_map_of_mem (f := Passage.revise known importer) member)
    have named : (passage.revise known importer).specifier = specifier := by
      rw [Passage.specifier_revise, renamed, Option.getD_some]
    have accepted := after.1.accepted
    rw [named] at accepted
    exact ⟨accepted, named ▸ after.2.2⟩
  have commented : Layout.Reads parser
      ⟨layout.passages.map (Passage.commented known importer), layout.rest⟩ segments' last' :=
    Layout.reads_map_of_step (fun earlier passage later split =>
      have member : passage ∈ layout.passages := split ▸ List.mem_append_right _ List.mem_cons_self
      regular.reads_commented (Layout.append_cons_mem_drafts
          (Passage.isDrafting_commented known importer) (Passage.isDrafting_revise known importer)
          split)
        (fit passage member).1 (renames passage member)) readAfter
  intro earlier passage later split
  have member : passage ∈ layout.passages := split ▸ List.mem_append_right _ List.mem_cons_self
  refine ⟨renames passage member, fun _ => ?_⟩
  -- The comments of the others are taken away again, and then those of the passage.
  rcases regular.exists_reads_of_map original
    (fun earlier later split =>
      Layout.map_append_mem_drafts (Passage.isDrafting_commented known importer) split)
    (fun earlier passage later split =>
      Layout.cons_mem_drafts split _ (Passage.isDrafting_commented known importer passage))
    read commented earlier passage later split with ⟨segments'', readCommented⟩
  have among := @Layout.cons_mem_drafts known importer _ _ _ _ split
  have here : Layout.Reads parser ⟨earlier ++ passage :: later, layout.rest⟩ segments last :=
    split ▸ read
  have loosened := regular.reads_loosened among here readCommented
  rcases regular.eq_of_reads_loosened among here loosened with ⟨rfl, _⟩
  exact loosened.isReadBy read surveyed
    (Passage.fit_loosened fun other otherMember => fit other (split ▸ otherMember))

/-- No warning does harm that leaves the line before it its end. -/
theorem isHarmless_of_keepsLineEnd (source : layout.IsReadBy parser)
    (fine : ∀ passage ∈ layout.passages,
      passage.Renames known importer ∧ passage.KeepsLineEnd known importer) :
    layout.IsHarmless parser known importer := by
  rcases regular.exists_reading (layout.self_mem_drafts known importer) source with
    ⟨segments, last, read, fit⟩
  rcases source with ⟨sites, surveyed, _, _⟩
  intro earlier passage later split
  have member : passage ∈ layout.passages := split ▸ List.mem_append_right _ List.mem_cons_self
  refine ⟨(fine passage member).1, fun taken => ?_⟩
  have here : Layout.Reads parser ⟨earlier ++ passage :: later, layout.rest⟩ segments last :=
    split ▸ read
  have loosened := regular.reads_loosened_of_keepsLineEnd (Layout.cons_mem_drafts split)
    (fine passage member).2 taken here
  exact loosened.isReadBy read surveyed
    (Passage.fit_loosened fun other otherMember => fit other (split ▸ otherMember))

end Regular

/-! ## Revisions and layouts -/

section Revisions

variable {parser : ScriptParser} {known : Known} {importer source : Text} {revision : Revision}

/-- Where a revised layout is read as it was written, each import is kept in its
place. -/
theorem exists_isKeptAs (revised : reviseBy parser known importer source = .ok revision)
    (orderly : Orderly source (revision.outcomes.map Outcome.site))
    (read : ((Layout.cut source (revision.outcomes.map Outcome.site)).map
      (Passage.revise known importer)).IsReadBy parser) :
    ∃ found, surveyBy parser revision.code = .ok found ∧
      List.Forall₂ (Outcome.IsKeptAs source revision.code) revision.outcomes found ∧
      Sited 0 ((Layout.cut source (revision.outcomes.map Outcome.site)).map
        (Passage.revise known importer)).passages found := by
  rcases Layout.cut_of_reviseBy revised orderly with ⟨whole, sited, declared, code⟩
  rcases read with ⟨found, surveyedAfter, sitedAfter, _⟩
  have kept := @Sited.forall₂_isKeptAs [] []
    (Layout.cut source (revision.outcomes.map Outcome.site)).rest _ _ _ sited
    (Or.inl rfl) declared known importer sitedAfter
  simp only [List.nil_append] at kept
  change List.Forall₂ (Outcome.IsKeptAs
      (Layout.cut source (revision.outcomes.map Outcome.site)).text _)
    (Outcome.ofSites known importer
      (Layout.cut source (revision.outcomes.map Outcome.site)).text _) found at kept
  rw [whole, ← (outcomes_of_reviseBy revised).2.1] at kept
  rw [code]
  exact ⟨found, surveyedAfter, kept, sitedAfter⟩

/-- The layout of a script that has a revision is read, if the imports stand in order. -/
theorem isReadBy_cut_of_reviseBy (revised : reviseBy parser known importer source = .ok revision)
    (orderly : Orderly source (revision.outcomes.map Outcome.site)) :
    (Layout.cut source (revision.outcomes.map Outcome.site)).IsReadBy parser :=
  Layout.isReadBy_cut (outcomes_of_reviseBy revised).1 orderly

/-- A module stays one with the same imports if each new specifier can be written
between the quotes of the old one, and the line before a warning that is taken
away keeps its end. -/
theorem Regular.revision_keeps_imports
    (revised : reviseBy parser known importer source = .ok revision)
    (orderly : Orderly source (revision.outcomes.map Outcome.site))
    (regular : Regular parser
      ((Layout.cut source (revision.outcomes.map Outcome.site)).drafts known importer))
    (fine : ∀ passage ∈ (Layout.cut source (revision.outcomes.map Outcome.site)).passages,
      passage.Renames known importer ∧ passage.KeepsLineEnd known importer) :
    ∃ found, surveyBy parser revision.code = .ok found ∧
      List.Forall₂ (Outcome.IsKeptAs source revision.code) revision.outcomes found := by
  have read := isReadBy_cut_of_reviseBy revised orderly
  rcases exists_isKeptAs revised orderly
    (regular.isReadBy_map_revise read (regular.isHarmless_of_keepsLineEnd read fine)) with
    ⟨found, surveyedAfter, kept, _⟩
  exact ⟨found, surveyedAfter, kept⟩

/-- The text of a script after a revision is a module with the same imports, each
in its place with its new specifier or its old one, exactly if each new specifier
can be written between the quotes of the old one, and each warning that the
revision takes away can be taken away on its own.  The imports stand in order, and the
parser treats them as the grammar does in the scripts through which the revision
leads. -/
theorem Regular.revision_keeps_imports_iff
    (revised : reviseBy parser known importer source = .ok revision)
    (orderly : Orderly source (revision.outcomes.map Outcome.site))
    (regular : Regular parser
      ((Layout.cut source (revision.outcomes.map Outcome.site)).drafts known importer)) :
    let layout := Layout.cut source (revision.outcomes.map Outcome.site)
    (∃ found, surveyBy parser revision.code = .ok found ∧
        List.Forall₂ (Outcome.IsKeptAs source revision.code) revision.outcomes found ∧
        Sited 0 (layout.map (Passage.revise known importer)).passages found) ↔
      layout.IsHarmless parser known importer := by
  intro layout
  have read := isReadBy_cut_of_reviseBy revised orderly
  constructor
  · rintro ⟨found, surveyedAfter, _, sitedAfter⟩
    rcases regular.exists_reading (layout.self_mem_drafts known importer) read with ⟨_, _, _, fit⟩
    rw [(Layout.cut_of_reviseBy revised orderly).2.2.2] at surveyedAfter
    refine regular.isHarmless_of_isReadBy_map_revise read ⟨found, surveyedAfter, sitedAfter, ?_⟩
    refine @Sited.orderly _ _ [] layout.rest sitedAfter fun passage member => ?_
    rcases List.mem_map.mp member with ⟨old, oldMember, rfl⟩
    exact Passage.isDeclaration_of_ends (fit old oldMember).1.starts (fit old oldMember).1.ends
  · intro harmless
    exact exists_isKeptAs revised orderly (regular.isReadBy_map_revise read harmless)

end Revisions

/-- Among other statements, an import that is up to date loses the warning above it, and
the statement before it the end of its line; the next import gets a new specifier and a
banner.  Both are found where they were. -/
theorem Regular.revision_keeps_imports_iff_warned :
    let source := text "f();" ++ Warning.block ++
      text "import '/a.js';\nimport './b.js';\ng();\n"
    ∃ revision,
      reviseBy JavaScript.parse? [text "a.js", text "b.js"] (text "m.js") source = .ok revision ∧
        revision.code = text "f();import '/a.js';\n" ++
          Banner.block (text "import './b.js';") ++ text "import '/b.js';\ng();\n" ∧
        ∃ found, surveyBy JavaScript.parse? revision.code = .ok found ∧
          List.Forall₂ (Outcome.IsKeptAs source revision.code) revision.outcomes found := by
  intro source
  let known : Known := [text "a.js", text "b.js"]
  let sites : List ImportSite := (surveyBy JavaScript.parse? source).toOption.getD []
  let layout : Layout :=
    ⟨[⟨text "f();" ++ Warning.block, text "import '", text "/a.js", text "';"⟩,
        ⟨text "\n", text "import '", text "./b.js", text "';"⟩],
      text "\ng();\n"⟩
  -- All is evaluated at once, so that the long words of comments are read only once.
  have evaluated : (reviseBy JavaScript.parse? known (text "m.js") source).toOption.map
        Revision.code = some (text "f();import '/a.js';\n" ++
          Banner.block (text "import './b.js';") ++ text "import '/b.js';\ng();\n") ∧
      Orderly source sites ∧ Layout.cut source sites = layout ∧
      areReadAlike JavaScript.parse? (layout.drafts known (text "m.js")) = true ∧
      layout.IsHarmless JavaScript.parse? known (text "m.js") := by
    decide +kernel
  rcases evaluated with ⟨code, orderly, cut, alike, harmless⟩
  cases revised : reviseBy JavaScript.parse? known (text "m.js") source with
  | error error =>
      rw [revised] at code
      cases code
  | ok revision =>
      rw [revised] at code
      have sitesEq : revision.outcomes.map Outcome.site = sites := sites_of_reviseBy revised
      have keeps := Regular.revision_keeps_imports_iff revised
      rw [sitesEq, cut] at keeps
      rcases (keeps orderly (Regular.of_areReadAlike alike)).mpr harmless with
        ⟨found, surveyed, kept, _⟩
      exact ⟨revision, rfl, Option.some.inj code, found, surveyed, kept⟩

/-- A warning that is taken away takes the end of its line along: a module in
which a statement without a semicolon stands above it is not one any more. -/
theorem not_revision_keeps_imports :
    let source := text "let x = 1\n" ++ Warning.marker ++ text "import a from '/b.js';\n"
    (survey source).isOk = true ∧
      (revise [text "b.js"] (text "m.js") source).toOption.map Revision.code =
        some (text "let x = 1import a from '/b.js';\n") ∧
      survey (text "let x = 1import a from '/b.js';\n") = .error (.parse ⟨.malformed, none⟩) := by
  decide +kernel

end Respecify

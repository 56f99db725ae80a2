import Mathlib.Data.List.MinMax
import Respecify.Proofs.Migration.Stability
import Respecify.Proofs.Server.Effect

/-!
# Edits that are planned change the text

A revision is said to change a script if any edit is planned for it, and a batch
looks whether the texts differ.  The two are the same.  At the first place where an
edit is made, the old text goes on with an import or with a warning.  The new one
goes on with a comment that was put there, or with the import from which the
warning was taken away, and none of these begins like the other.
-/

namespace Respecify

/-! ## How the text goes on behind an edit -/

namespace Resolution

variable {resolution : Resolution} {statement : Text}

/-- No comment begins like an import. -/
theorem comment_append_ne_import (filled : resolution.comment statement ≠ [])
    (more written : Text) : resolution.comment statement ++ more ≠ text "import" ++ written := by
  rcases resolution with ⟨_, _⟩ | ⟨_, _⟩ | ⟨_ | _ | _ | _⟩
  case root | directory => exact Banner.append_ne_import _ _ _
  case unresolved.notFound =>
    have marked : Warning.block ∈ Warning.markers := List.mem_cons_self
    exact Warning.append_ne_import marked _ _
  all_goals exact absurd rfl filled

/-- A comment that begins like a warning is one. -/
theorem eq_notFound_of_comment_append_eq {words more rest : Text}
    (marked : words ∈ Warning.markers) (filled : resolution.comment statement ≠ [])
    (same : resolution.comment statement ++ more = words ++ rest) :
    resolution = .unresolved .notFound := by
  rcases resolution with ⟨_, _⟩ | ⟨_, _⟩ | ⟨_ | _ | _ | _⟩
  case root | directory => exact absurd same (Banner.append_ne_warning marked _ _ _)
  case unresolved.notFound => rfl
  all_goals exact absurd rfl filled

end Resolution

namespace Outcome

variable {source : Text} {outcome : Outcome} {edit : Edit}

/-- An edit of an outcome writes the new specifier, puts the comment above the import,
or takes a warning away. -/
theorem mem_edits_iff :
    edit ∈ outcome.edits source ↔
      (∃ new, outcome.resolution.newSpecifier? = some new ∧
        edit = Edit.replacement outcome.site.specifierRange new) ∨
      (outcome.comment source ≠ [] ∧
        edit = Edit.insertion outcome.site.statementRange.start (outcome.comment source)) ∨
      (outcome.resolves = true ∧ ∃ span, Warning.span? source outcome.site = some span ∧
        edit = Edit.replacement span []) := by
  have cleanup : edit ∈ outcome.cleanupEdits source ↔
      outcome.resolves = true ∧ ∃ span, Warning.span? source outcome.site = some span ∧
        edit = Edit.replacement span [] := by
    unfold cleanupEdits
    split
    · rename_i resolves
      simp [resolves, Option.mem_toList, eq_comm]
    · rename_i unresolved
      simp [unresolved]
  rw [edits, List.mem_append, cleanup, ← or_assoc]
  refine or_congr_left ?_
  rcases resolved : outcome.resolution with ⟨_, _⟩ | ⟨_, _⟩ | ⟨_ | _ | _ | _⟩ <;>
    simp [mainEdits, comment, Resolution.comment, Resolution.newSpecifier?, resolved,
      Banner.block_ne_nil, Warning.block_ne_nil]

/-- Above an import that gets a new specifier a comment is put. -/
theorem comment_ne_nil {new : Text} (changes : outcome.resolution.newSpecifier? = some new) :
    outcome.comment source ≠ [] := by
  rw [comment, ne_eq, Resolution.comment_eq_nil_iff, changes]
  simp

/-- A warning is put above no import that has one. -/
theorem span?_eq_none_of_missed {known : Known} {importer : Text} {site : ImportSite}
    (missed : (ofSite known importer source site).resolution = .unresolved .notFound) :
    Warning.span? source site = none := by
  unfold ofSite at missed
  split at missed
  · simp at missed
  · dsimp only at missed
    split at missed
    · simp at missed
    · rename_i unwarned
      change known.resolve site.specifier importer = _ at missed
      simpa [missed, Resolution.isMissing] using unwarned

end Outcome

/-! ## The first word of an import -/

section Started

variable {source : Text} {site other : ImportSite}

/-- Where an import starts, the text goes on with its first word. -/
theorem exists_drop_start
    (started : (site.statementRange.slice source).startsWith (text "import") = true) :
    ∃ written, source.drop site.statementRange.start = text "import" ++ written := by
  have within : site.statementRange.slice source <+: source.drop site.statementRange.start :=
    (List.take_prefix _ _).drop _
  rcases (Text.startsWith_iff.mp started).trans within with ⟨written, same⟩
  exact ⟨written, same.symm⟩

/-- The letters of the first word of an import. -/
theorem getElem?_start_add
    (started : (site.statementRange.slice source).startsWith (text "import") = true)
    {count : Nat} (short : count < 6) :
    source[site.statementRange.start + count]? = (text "import")[count]? := by
  rcases exists_drop_start started with ⟨written, same⟩
  rw [← List.getElem?_drop, same, List.getElem?_append_left short]

theorem start_add_le_length
    (started : (site.statementRange.slice source).startsWith (text "import") = true) :
    site.statementRange.start + 6 ≤ source.length := by
  rcases exists_drop_start started with ⟨written, same⟩
  have lengths := congrArg List.length same
  have word : (text "import").length = 6 := rfl
  rw [List.length_drop, List.length_append, word] at lengths
  omega

/-- No import starts inside the first word of another one. -/
theorem add_le_start
    (started : (site.statementRange.slice source).startsWith (text "import") = true)
    (otherStarted : (other.statementRange.slice source).startsWith (text "import") = true)
    (behind : site.statementRange.start < other.statementRange.start) :
    site.statementRange.start + 6 ≤ other.statementRange.start := by
  by_contra near
  rcases Nat.exists_eq_add_of_lt behind with ⟨count, startEq⟩
  rw [Nat.add_assoc] at startEq
  have first : source[other.statementRange.start + 0]? = (text "import")[0]? :=
    getElem?_start_add otherStarted (by decide)
  rw [Nat.add_zero, startEq, getElem?_start_add started (by omega)] at first
  have letters : ∀ count < 5, (text "import")[count + 1]? ≠ (text "import")[0]? := by decide
  exact letters count (by omega) first

/-- A warning that stands above an import. -/
theorem exists_marker_of_span {span : TextRange}
    (inside : site.statementRange.start ≤ source.length)
    (found : Warning.span? source site = some span) :
    ∃ marker ∈ Warning.markers, span.start + marker.length = site.statementRange.start ∧
      span.stop = site.statementRange.start ∧
      source.drop span.start = marker ++ source.drop site.statementRange.start := by
  rcases Warning.exists_marker_of_span? inside found with
    ⟨marker, isMarker, marked, startEq, stopEq⟩
  refine ⟨marker, isMarker, startEq, stopEq, ?_⟩
  rcases Text.endsWithAt_iff.mp marked with ⟨before, same⟩
  have lengths := congrArg List.length same
  rw [List.length_append, List.length_take_of_le inside] at lengths
  have startIs : span.start = before.length := by omega
  conv_lhs => rw [← List.take_append_drop site.statementRange.start source, ← same]
  rw [startIs, List.append_assoc, List.drop_left]

/-- Whether a warning stands above an import depends on where the import starts. -/
theorem Warning.span?_congr (source : Text)
    (same : site.statementRange.start = other.statementRange.start) :
    Warning.span? source site = Warning.span? source other := by
  unfold Warning.span? Warning.markerSpan?
  simp only [same]

/-- No warning starts inside the first word of an import. -/
theorem span_start_notin {span : TextRange}
    (inside : other.statementRange.start ≤ source.length)
    (found : Warning.span? source other = some span)
    (started : (site.statementRange.slice source).startsWith (text "import") = true)
    (behind : site.statementRange.start ≤ span.start) :
    site.statementRange.start + 6 ≤ span.start := by
  by_contra near
  rcases exists_marker_of_span inside found with ⟨marker, isMarker, _, _, same⟩
  rcases Nat.exists_eq_add_of_le behind with ⟨count, startEq⟩
  have letters : ∀ marker ∈ Warning.markers, marker ≠ [] ∧
      ∀ count < 6, (text "import")[count]? ≠ marker[0]? := by decide +kernel
  have first : (source.drop span.start)[0]? = marker[0]? := by
    rw [same, List.getElem?_append_left (List.length_pos_iff.mpr (letters marker isMarker).1)]
  rw [List.getElem?_drop, Nat.add_zero, startEq, getElem?_start_add started (by omega)] at first
  exact (letters marker isMarker).2 count (by omega) first

end Started

/-! ## The first edit of a script -/

namespace Outcome

variable {source : Text} {outcomes : List Outcome} {outcome : Outcome}

/-- The comment above an import that gets a new specifier is among the edits. -/
theorem comment_mem_allEdits (member : outcome ∈ outcomes)
    (filled : outcome.comment source ≠ []) :
    Edit.insertion outcome.site.statementRange.start (outcome.comment source) ∈
      allEdits source outcomes :=
  List.mem_flatMap.mpr ⟨outcome, member, mem_edits_iff.mpr (Or.inr (Or.inl ⟨filled, rfl⟩))⟩

/-- The first of the edits takes a warning away, if nothing is inserted where it starts:
the comment above an import starts no later than its specifier. -/
theorem exists_span_of_first {first : Edit} (planned : first ∈ allEdits source outcomes)
    (behind : ∀ edit ∈ allEdits source outcomes, first.start ≤ edit.start)
    (bare : ∀ edit ∈ allEdits source outcomes, Edit.insertsAt first.start edit = false) :
    ∃ outcome ∈ outcomes, ∃ span, Warning.span? source outcome.site = some span ∧
      first = Edit.replacement span [] := by
  rcases List.mem_flatMap.mp planned with ⟨outcome, member, isEdit⟩
  rcases mem_edits_iff.mp isEdit with
    ⟨new, changes, firstEq⟩ | ⟨filled, firstEq⟩ | ⟨_, span, found, firstEq⟩
  · have filled : outcome.comment source ≠ [] := comment_ne_nil changes
    have commented := comment_mem_allEdits member filled
    have noEarlier : first.start ≤ outcome.site.statementRange.start := behind _ commented
    have noLater : outcome.site.statementRange.start ≤ first.start := by
      rw [firstEq]
      exact outcome.site.start_le_specifier
    have absent := bare _ commented
    simp [Edit.insertsAt, Edit.insertion, noLater.antisymm noEarlier] at absent
  · have absent := bare _ planned
    simp [firstEq, Edit.insertsAt, Edit.insertion] at absent
  · exact ⟨outcome, member, span, found, firstEq⟩

variable (started : ∀ outcome ∈ outcomes,
  (outcome.site.statementRange.slice source).startsWith (text "import") = true)

include started

/-- An insertion is the comment above an import. -/
theorem exists_comment_of_insertsAt {offset : Nat} {edit : Edit}
    (planned : edit ∈ allEdits source outcomes) (inserts : Edit.insertsAt offset edit = true) :
    ∃ outcome ∈ outcomes, outcome.comment source ≠ [] ∧
      outcome.site.statementRange.start = offset ∧ edit.text = outcome.comment source := by
  rw [Edit.insertsAt, Bool.and_eq_true, beq_iff_eq, beq_iff_eq] at inserts
  rcases List.mem_flatMap.mp planned with ⟨outcome, member, isEdit⟩
  rcases mem_edits_iff.mp isEdit with
    ⟨new, _, rfl⟩ | ⟨filled, rfl⟩ | ⟨_, span, found, rfl⟩
  · have nonempty := outcome.site.specifier_nonempty
    change outcome.site.specifierRange.start = _ ∧ outcome.site.specifierRange.stop = _ at inserts
    omega
  · exact ⟨outcome, member, filled, inserts.1, rfl⟩
  · have inside := start_add_le_length (started outcome member)
    rcases exists_marker_of_span (by omega) found with ⟨marker, isMarker, startEq, stopEq, _⟩
    have long := Warning.length_pos_of_mem_markers isMarker
    change span.start = _ ∧ span.stop = _ at inserts
    omega

section Bare

variable (member : outcome ∈ outcomes)
  (clear : ∀ edit ∈ allEdits source outcomes, edit.start < outcome.site.statementRange.start →
    edit.start < edit.stop ∧ edit.stop ≤ outcome.site.statementRange.start)
  (bare : ∀ edit ∈ allEdits source outcomes,
    Edit.insertsAt outcome.site.statementRange.start edit = false)

include member clear bare

/-- Where nothing is put above an import, the next comment stands behind its first word. -/
theorem add_le_start_of_comment {other : Outcome} (otherMember : other ∈ outcomes)
    (filled : other.comment source ≠ []) :
    outcome.site.statementRange.start + 6 ≤ other.site.statementRange.start := by
  have planned := comment_mem_allEdits otherMember filled
  refine add_le_start (started outcome member) (started other otherMember) ?_
  rcases Nat.lt_trichotomy other.site.statementRange.start outcome.site.statementRange.start
    with before | same | behind
  · exact absurd (clear _ planned before).1 (Nat.lt_irrefl _)
  · have absent := bare _ planned
    simp [Edit.insertsAt, Edit.insertion, same] at absent
  · exact behind

/-- So does every edit that does not start before the import: a new specifier stands
behind its own comment. -/
theorem add_le_start_of_edit {edit : Edit} (planned : edit ∈ allEdits source outcomes)
    (behind : outcome.site.statementRange.start ≤ edit.start) :
    outcome.site.statementRange.start + 6 ≤ edit.start := by
  rcases List.mem_flatMap.mp planned with ⟨other, otherMember, isEdit⟩
  rcases mem_edits_iff.mp isEdit with ⟨new, changes, rfl⟩ | ⟨filled, rfl⟩ | ⟨_, span, found, rfl⟩
  · exact (add_le_start_of_comment started member clear bare otherMember
      (comment_ne_nil changes)).trans other.site.start_le_specifier
  · exact add_le_start_of_comment started member clear bare otherMember filled
  · have otherInside := start_add_le_length (started other otherMember)
    exact span_start_notin (by omega) found (started outcome member) behind

/-- Where nothing is put above an import and no edit reaches beyond its start, its first
word stands. -/
theorem exists_textFrom_start :
    ∃ rest, Edit.textFrom source (allEdits source outcomes) outcome.site.statementRange.start =
      text "import" ++ rest := by
  have inside := start_add_le_length (started outcome member)
  have untouched : ∀ edit ∈ allEdits source outcomes,
      edit.stop ≤ outcome.site.statementRange.start ∧
          edit.start < outcome.site.statementRange.start ∨
        outcome.site.statementRange.start + 6 ≤ edit.start := by
    intro edit planned
    by_cases before : edit.start < outcome.site.statementRange.start
    · exact Or.inl ⟨(clear edit planned before).2, before⟩
    · exact Or.inr (add_le_start_of_edit started member clear bare planned (Nat.not_lt.mp before))
  rcases exists_drop_start (started outcome member) with ⟨written, same⟩
  rw [Edit.textFrom_split (Nat.le_add_right _ 6) (inside.trans (Nat.le_succ _)),
    Nat.add_sub_cancel_left, Edit.flatMap_textAt_of_untouched, same]
  · exact ⟨_, rfl⟩
  · intro offset from_ upTo edit planned
    have apart := untouched edit planned
    simp only [Edit.insertsAt, Edit.covers, Bool.and_eq_false_iff, beq_eq_false_iff_ne,
      decide_eq_false_iff_not]
    omega

end Bare

variable (unwarned : ∀ outcome ∈ outcomes, outcome.resolution = .unresolved .notFound →
  Warning.span? source outcome.site = none)

include unwarned

/-- Where a warning stood above an import, the text does not go on with a warning. -/
theorem textFrom_start_ne_warning {span : TextRange} {marker rest : Text}
    (member : outcome ∈ outcomes) (found : Warning.span? source outcome.site = some span)
    (isMarker : marker ∈ Warning.markers)
    (clear : ∀ edit ∈ allEdits source outcomes,
      edit.start < outcome.site.statementRange.start →
        edit.start < edit.stop ∧ edit.stop ≤ outcome.site.statementRange.start) :
    Edit.textFrom source (allEdits source outcomes) outcome.site.statementRange.start ≠
      marker ++ rest := by
  intro same
  have inside : outcome.site.statementRange.start ≤ source.length :=
    (Nat.le_add_right _ 6).trans (start_add_le_length (started outcome member))
  by_cases commented : ∃ edit ∈ allEdits source outcomes,
      Edit.insertsAt outcome.site.statementRange.start edit = true
  · -- A comment that begins like a warning is put above imports without one.
    rcases Edit.exists_textFrom_of_insertsAt inside commented with
      ⟨edit, planned, inserts, more, starts⟩
    rcases exists_comment_of_insertsAt started planned inserts with
      ⟨other, otherMember, filled, sameStart, textEq⟩
    rw [same, textEq] at starts
    have missed := Resolution.eq_notFound_of_comment_append_eq isMarker filled starts.symm
    have absent := unwarned other otherMember missed
    rw [Warning.span?_congr source sameStart, found] at absent
    cases absent
  · rcases exists_textFrom_start started member clear (by simpa using commented) with
      ⟨more, starts⟩
    rw [same] at starts
    exact Warning.append_ne_import isMarker _ _ starts

/-- If any edit is planned, the text with the edits made is another one. -/
theorem substitute_allEdits_ne (free : ¬Edit.Conflicting source (allEdits source outcomes))
    (planned : allEdits source outcomes ≠ []) :
    Edit.substitute source (allEdits source outcomes) ≠ source := by
  rcases Edit.not_conflicting_iff.mp free with ⟨within, apart⟩
  obtain ⟨first, least⟩ : ∃ first, first ∈ (allEdits source outcomes).argmin Edit.start :=
    Option.ne_none_iff_exists'.mp (mt List.argmin_eq_none.mp planned)
  have firstPlanned := List.argmin_mem least
  have behind : ∀ edit ∈ allEdits source outcomes, first.start ≤ edit.start :=
    fun edit member => List.le_of_mem_argmin member least
  have inside : first.start ≤ source.length := first.start_le_stop.trans (within _ firstPlanned)
  intro same
  -- The two texts agree up to the first edit, so they have to agree behind its start.
  have goesOn : Edit.textFrom source (allEdits source outcomes) first.start =
      source.drop first.start := by
    rw [Edit.substitute_eq_take_append inside behind] at same
    conv_rhs at same => rw [← List.take_append_drop first.start source]
    exact List.append_cancel_left same
  by_cases inserted : ∃ edit ∈ allEdits source outcomes, Edit.insertsAt first.start edit = true
  · -- A comment stands where an import stood.
    rcases Edit.exists_textFrom_of_insertsAt inside inserted with
      ⟨edit, editPlanned, inserts, rest, starts⟩
    rcases exists_comment_of_insertsAt started editPlanned inserts with
      ⟨outcome, member, filled, startEq, textEq⟩
    rcases exists_drop_start (started outcome member) with ⟨written, stood⟩
    rw [goesOn, ← startEq, stood, textEq] at starts
    exact Resolution.comment_append_ne_import filled _ _ starts.symm
  have bare : ∀ edit ∈ allEdits source outcomes, Edit.insertsAt first.start edit = false := by
    simpa using inserted
  rcases exists_span_of_first firstPlanned behind bare with ⟨outcome, member, span, found, firstEq⟩
  -- A warning is taken away, and no other edit starts where it stood.
  have begins := start_add_le_length (started outcome member)
  rcases exists_marker_of_span (by omega) found with ⟨marker, isMarker, startEq, stopEq, stood⟩
  have long := Warning.length_pos_of_mem_markers isMarker
  have firstStart : first.start = span.start := by rw [firstEq]; rfl
  have firstStop : first.stop = outcome.site.statementRange.start := by
    rw [firstEq, ← stopEq]
    rfl
  have only : ∀ edit ∈ allEdits source outcomes, edit.start < first.stop → edit = first :=
    fun edit editPlanned before => Edit.eq_of_start_within apart firstPlanned editPlanned
      (bare edit editPlanned) (behind edit editPlanned) before
  have removed := Edit.textFrom_eq_of_removal firstPlanned (by rw [firstEq]; rfl) (by omega)
    (within _ firstPlanned) fun edit editPlanned _ before => only edit editPlanned before
  rw [removed, firstStop, firstStart, stood] at goesOn
  refine textFrom_start_ne_warning started unwarned member found isMarker ?_ goesOn
  intro edit editPlanned before
  rw [only edit editPlanned (by omega)]
  omega

end Outcome

/-! ## Revisions that change a script -/

variable {parser : JavaScript.ScriptParser} {known : Known} {importer source : Text}
  {sites : List ImportSite} {revision : Revision}

/-- Outcomes that call for edits change the text, and no others do. -/
theorem Revision.isChanged_iff_of_ofOutcomes {outcomes : List Outcome}
    (started : ∀ outcome ∈ outcomes,
      (outcome.site.statementRange.slice source).startsWith (text "import") = true)
    (unwarned : ∀ outcome ∈ outcomes, outcome.resolution = .unresolved .notFound →
      Warning.span? source outcome.site = none)
    (made : Revision.ofOutcomes source outcomes = .ok revision) :
    revision.isChanged = true ↔ revision.code ≠ source := by
  have perm : (Outcome.lastFirst outcomes).Perm outcomes := Order.sort_perm _ _
  dsimp only [ofOutcomes] at made
  by_cases conflicting :
      Edit.Conflicting source (Outcome.allEdits source (Outcome.lastFirst outcomes))
  · have none := mt Edit.exists_apply_iff.mp (not_not.mpr conflicting)
    cases applied : Edit.apply source (Outcome.allEdits source (Outcome.lastFirst outcomes)) with
    | error conflict =>
        rw [applied] at made
        cases made
    | ok code => exact absurd ⟨code, applied⟩ none
  · rw [Edit.apply_eq_substitute_of_not_conflicting conflicting] at made
    cases made
    change (!(Outcome.allEdits source (Outcome.lastFirst outcomes)).isEmpty) = true ↔
      Edit.substitute source (Outcome.allEdits source (Outcome.lastFirst outcomes)) ≠ source
    rw [Bool.not_eq_true', List.isEmpty_eq_false_iff]
    refine ⟨Outcome.substitute_allEdits_ne
      (fun outcome member => started outcome (perm.mem_iff.mp member))
      (fun outcome member => unwarned outcome (perm.mem_iff.mp member)) conflicting, ?_⟩
    intro differs none
    rw [none, Edit.substitute_nil] at differs
    exact differs rfl

/-- A revision with edits changes the text, and no other one does. -/
theorem isChanged_iff_code_ne (surveyed : surveyBy parser source = .ok sites)
    (started : ∀ site ∈ sites,
      (site.statementRange.slice source).startsWith (text "import") = true)
    (revised : reviseBy parser known importer source = .ok revision) :
    revision.isChanged = true ↔ revision.code ≠ source := by
  rw [reviseBy, surveyed] at revised
  dsimp only at revised
  cases made : Revision.ofSites known importer source sites with
  | error conflict =>
      rw [made] at revised
      cases revised
  | ok other =>
      rw [made] at revised
      cases revised
      refine Revision.isChanged_iff_of_ofOutcomes (fun outcome member => ?_)
        (fun outcome member missed => ?_) made
      all_goals
        rcases List.mem_map.mp member with ⟨site, siteMember, rfl⟩
        rw [Outcome.site_ofSite]
      · exact started site siteMember
      · exact Outcome.span?_eq_none_of_missed missed

/-- A migrator reports a change where there are edits. -/
theorem Revision.progress_eq_changed_iff :
    revision.progress = .changed ↔ revision.isChanged = true := by
  unfold progress
  split <;> simp_all

/-- A script that can be surveyed and whose imports start with their word has a revision
if they stand in order.  A revision reports a change exactly if the text is another one,
so a batch, which compares the texts, counts the script as changed and keeps a backup of
it exactly if the revision has edits. -/
theorem progress_eq_changed_iff_code_ne {script : Script}
    (surveyed : surveyBy parser script.code = .ok sites)
    (started : ∀ site ∈ sites,
      (site.statementRange.slice script.code).startsWith (text "import") = true) :
    (Orderly script.code sites →
      ∃ revision, reviseBy parser known script.name script.code = .ok revision) ∧
    ∀ revision, reviseBy parser known script.name script.code = .ok revision →
      (revision.progress = .changed ↔ revision.code ≠ script.code) ∧
      (revision.isChanged = true ↔ revision.code ≠ script.code) ∧
      ∀ settings hostname, script.isMigrated settings = true →
        (script.judgeBy parser settings known).verdict? =
          some (if revision.isChanged then .changed revision else .unchanged) ∧
        (script.judgeBy parser settings known).backup? settings hostname =
          if revision.isChanged then some (script.backup settings hostname) else none := by
  refine ⟨exists_reviseBy known script.name surveyed, fun revision revised => ?_⟩
  have differs := isChanged_iff_code_ne surveyed started revised
  refine ⟨Revision.progress_eq_changed_iff.trans differs, differs, ?_⟩
  intro settings hostname migrated
  have verdict : (script.judgeBy parser settings known).verdict? =
      some (if revision.isChanged then .changed revision else .unchanged) := by
    unfold Script.judgeBy Script.verdictBy
    rw [if_pos migrated, revised]
    dsimp only
    by_cases same : revision.code = script.code
    · rw [if_pos same, if_neg (mt differs.mp (not_not.mpr same))]
    · rw [if_neg same, if_pos (differs.mpr same)]
  refine ⟨verdict, ?_⟩
  rw [Judgement.backup?, verdict]
  cases revision.isChanged <;> rfl

/-- The warning of the first import is taken away, and the second import gets one, so
the text keeps its length. -/
theorem progress_eq_changed_iff_code_ne_moved :
    let source := Warning.block ++ text "import '/a.js';\nimport './b';\n"
    let moved := text "import '/a.js';\n" ++ Warning.block ++ text "import './b';\n"
    let script : Script := ⟨text "m.js", source, text "home"⟩
    let sites := (surveyBy JavaScript.parse? source).toOption.getD []
    surveyBy JavaScript.parse? source = .ok sites ∧ Orderly source sites ∧
      (∀ site ∈ sites, (site.statementRange.slice source).startsWith (text "import") = true) ∧
      ∃ revision, reviseBy JavaScript.parse? [text "a.js"] script.name source = .ok revision ∧
        revision.code = moved ∧ moved.length = source.length ∧ revision.progress = .changed ∧
        (script.judgeBy JavaScript.parse? .default [text "a.js"]).backup? .default
          (text "home") = some (script.backup .default (text "home")) := by
  intro source moved script sites
  have evaluated : surveyBy JavaScript.parse? source = .ok sites ∧ Orderly source sites ∧
      (∀ site ∈ sites, (site.statementRange.slice source).startsWith (text "import") = true) ∧
      script.isMigrated .default = true ∧
      (reviseBy JavaScript.parse? [text "a.js"] script.name source).toOption.map
        Revision.code = some moved ∧
      moved ≠ source ∧ moved.length = source.length := by
    decide +kernel
  rcases evaluated with ⟨surveyed, orderly, started, migrated, answer, differs⟩
  rcases @progress_eq_changed_iff_code_ne JavaScript.parse? [text "a.js"] sites script surveyed
    started with ⟨total, agrees⟩
  rcases total orderly with ⟨revision, revised⟩
  change reviseBy JavaScript.parse? [text "a.js"] script.name source = .ok revision at revised
  rw [revised] at answer
  have code : revision.code = moved := Option.some.inj answer
  rcases agrees revision revised with ⟨reported, edited, batch⟩
  have changed : revision.code ≠ source := by rw [code]; exact differs.1
  refine ⟨surveyed, orderly, started, revision, revised, code, differs.2,
    reported.mpr changed, ?_⟩
  rw [(batch .default (text "home") migrated).2, if_pos (edited.mpr changed)]

end Respecify

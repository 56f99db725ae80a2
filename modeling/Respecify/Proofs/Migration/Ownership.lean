import Respecify.Proofs.Annotation.Comment
import Respecify.Proofs.Migration.Stability

/-!
# Whose banner stands above an import

An import right below the line that closes a banner is taken for one that was changed,
and is left alone.  The line does not tell whose banner it closes.  Above an import a run
puts only a banner that keeps the declaration of this import, so a closing line that
belongs to something else was put there by hand, or the import was; and then no run will
ever look at the import.
-/

namespace Respecify

/-- The text above an import ends with a banner that keeps the declaration of this
very import, with whatever specifier. -/
def Banner.IsOwn (source : Text) (site : ImportSite) : Prop :=
  ∃ specifier,
    block (source.slice site.statementRange.start site.specifierRange.start ++ specifier ++
        source.slice site.specifierRange.stop site.statementRange.stop) <:+
      source.take site.statementRange.start

namespace Passage

variable {passage : Passage} {known : Known} {importer : Text} {runs : List Known}

/-- A text ends with a banner that keeps the declaration of the passage, with whatever
specifier. -/
def EndsWithBanner (passage : Passage) (before : Text) : Prop :=
  ∃ specifier, Banner.block (passage.opening ++ specifier ++ passage.closing) <:+ before

/-- If the line that closes a banner stands above the declaration, or comes to stand
there when warnings are taken away, then it closes a banner of this declaration. -/
def IsHonest (passage : Passage) : Prop :=
  ∀ count, Banner.marker <:+ Warning.strip^[count] passage.before →
    passage.EndsWithBanner (Warning.strip^[count] passage.before)

/-- The passage of the named script after it was revised with each of several lists of
known names. -/
def reviseAll (importer : Text) (runs : List Known) (passage : Passage) : Passage :=
  runs.foldl (fun passage known => passage.revise known importer) passage

/-! ## One run over one import -/

/-- No warning is taken away from a text that ends with a banner. -/
theorem iterate_strip_of_bannered {before : Text} (bannered : Banner.marker <:+ before)
    (count : Nat) : Warning.strip^[count] before = before :=
  Function.iterate_fixed
    (Warning.strip_eq_self_iff.mpr (not_warningMarker_suffix_of_bannerMarker_suffix bannered)) count

/-- A run changes nothing of a declaration but its specifier. -/
theorem endsWithBanner_revise_iff {before : Text} :
    (passage.revise known importer).EndsWithBanner before ↔ passage.EndsWithBanner before := by
  rw [EndsWithBanner, Passage.revise, carryOut, EndsWithBanner]

/-- An import above which no earlier run has left a comment is honest, so a script that
only runs have marked stays honest. -/
theorem Unmarked.isHonest (unmarked : passage.Unmarked) : passage.IsHonest := by
  intro count bannered
  rw [Function.iterate_fixed unmarked.strip_before] at bannered
  exact absurd bannered unmarked.1

/-- Above an import that changes, a run puts a banner that keeps its declaration. -/
theorem endsWithBanner_revise
    (changes : (passage.resolution known importer).newSpecifier? ≠ none) :
    passage.EndsWithBanner (passage.revise known importer).before := by
  refine ⟨passage.specifier, ?_⟩
  rw [before_revise]
  rcases resolved : passage.resolution known importer with ⟨_, _⟩ | ⟨_, _⟩ | _
  · exact List.suffix_append _ _
  · exact List.suffix_append _ _
  · rw [resolved] at changes
    exact absurd rfl changes

/-- A run leaves honest what is honest: it puts up a banner of the declaration, puts up
a warning, takes one away, or leaves the text before the declaration alone. -/
theorem IsHonest.revise (honest : passage.IsHonest) (known : Known) (importer : Text) :
    (passage.revise known importer).IsHonest := by
  intro count bannered
  rw [endsWithBanner_revise_iff]
  by_cases changes : (passage.resolution known importer).newSpecifier? = none
  · rcases resolved : passage.resolution known importer with
      ⟨_, _⟩ | ⟨_, _⟩ | ⟨_ | _ | _ | _⟩
    case root | directory =>
      rw [resolved] at changes
      cases changes
    case unresolved.notFound =>
      have whole : (passage.revise known importer).before = passage.before ++ Warning.block := by
        simp [before_revise, resolved, kept, Resolution.isChange, Resolution.newSpecifier?,
          Resolution.comment]
      rw [whole] at bannered ⊢
      cases count with
      | zero =>
          rw [Function.iterate_zero_apply] at bannered
          exact absurd bannered (not_bannerMarker_suffix_append_warning _)
      | succ count =>
          rw [Function.iterate_succ_apply, strip_append_block] at bannered ⊢
          exact honest count bannered
    case unresolved.upToDate =>
      have whole : (passage.revise known importer).before = Warning.strip passage.before := by
        rw [revise_of_upToDate resolved, withBefore]
      rw [whole, ← Function.iterate_succ_apply] at bannered ⊢
      exact honest (count + 1) bannered
    all_goals
      have same : (passage.revise known importer).before = passage.before := by
        rw [before_revise, resolved]
        exact List.append_nil _
      rw [same] at bannered ⊢
      exact honest count bannered
  · rw [iterate_strip_of_bannered (bannered_revise changes)]
    exact endsWithBanner_revise changes

/-! ## Any number of runs over one import -/

theorem reviseAll_cons (known : Known) (importer : Text) (runs : List Known)
    (passage : Passage) :
    passage.reviseAll importer (known :: runs) =
      (passage.revise known importer).reviseAll importer runs := by
  rw [reviseAll, List.foldl_cons, reviseAll]

theorem IsHonest.reviseAll (honest : passage.IsHonest) (importer : Text) (runs : List Known) :
    (passage.reviseAll importer runs).IsHonest := by
  induction runs generalizing passage with
  | nil => exact honest
  | cons known runs inductionHypothesis =>
      rw [reviseAll_cons]
      exact inductionHypothesis (honest.revise known importer)

/-- No run changes an import below the line that closes a banner. -/
theorem reviseAll_of_bannered (bannered : Banner.marker <:+ passage.before) (importer : Text)
    (runs : List Known) : passage.reviseAll importer runs = passage := by
  induction runs with
  | nil => rfl
  | cons known runs inductionHypothesis =>
      have settled : passage.Settled known importer := settled_of_bannered bannered
      rw [reviseAll_cons, settled.revise_eq, inductionHypothesis]

/-- An import that any of the runs has changed has a banner above it that keeps its
declaration. -/
theorem endsWithBanner_reviseAll
    (changed : (passage.reviseAll importer runs).specifier ≠ passage.specifier) :
    Banner.marker <:+ (passage.reviseAll importer runs).before ∧
      (passage.reviseAll importer runs).EndsWithBanner
        (passage.reviseAll importer runs).before := by
  induction runs generalizing passage with
  | nil => exact absurd rfl changed
  | cons known runs inductionHypothesis =>
      rw [reviseAll_cons] at changed ⊢
      by_cases changes : (passage.resolution known importer).newSpecifier? = none
      · have same : (passage.revise known importer).specifier = passage.specifier := by
          rw [specifier_revise, changes, Option.getD_none]
        exact inductionHypothesis (same ▸ changed)
      · rw [reviseAll_of_bannered (bannered_revise changes), endsWithBanner_revise_iff]
        exact ⟨bannered_revise changes, endsWithBanner_revise changes⟩

/-! ## The sites of imports -/

variable {done tail : Text} {site : ImportSite}

/-- A banner at the end of what a passage starts with stands above its import. -/
theorem IsAt.isOwn (here : passage.IsAt done.length site) (tail : Text)
    (own : passage.EndsWithBanner passage.before) :
    Banner.IsOwn (done ++ passage.text ++ tail) site := by
  rcases own with ⟨specifier, within⟩
  refine ⟨specifier, ?_⟩
  rw [here.slice_opening, here.slice_closing, here.take_start]
  exact within.trans (List.suffix_append done _)

/-- The line that closes a banner is seen above an import exactly if its passage has
it. -/
theorem IsAt.precedes_iff (here : passage.IsAt done.length site) (closed : Closed done)
    (tail : Text) :
    Banner.precedes (done ++ passage.text ++ tail) site = true ↔
      Banner.marker <:+ passage.before :=
  here.endsWithAt_iff closed Banner.marker_plain

/-- What runs over a script make of an import, at the site where it stands behind them.
If they have changed it, it stands below its own banner.  If it stands below a banner at
all, that is its own, unless it was below another one before.  If it was below a banner
before, it is as it was. -/
structure IsLeftAs (code : Text) (passage : Passage) (site : ImportSite) : Prop where
  changed : site.specifier ≠ passage.specifier →
    Banner.precedes code site = true ∧ Banner.IsOwn code site
  honest : passage.IsHonest → Banner.precedes code site = true → Banner.IsOwn code site
  bannered : Banner.marker <:+ passage.before →
    Banner.precedes code site = true ∧ site.statementRange.slice code = passage.declaration

theorem IsAt.isLeftAs (here : (passage.reviseAll importer runs).IsAt done.length site)
    (closed : Closed done) (tail : Text) :
    passage.IsLeftAs (done ++ (passage.reviseAll importer runs).text ++ tail) site := by
  refine ⟨fun changed => ?_, fun honest precedes => ?_, fun bannered => ?_⟩
  · rw [here.specifier_eq] at changed
    rcases endsWithBanner_reviseAll changed with ⟨bannered, own⟩
    exact ⟨(here.precedes_iff closed tail).mpr bannered, here.isOwn tail own⟩
  · have bannered := (here.precedes_iff closed tail).mp precedes
    exact here.isOwn tail (honest.reviseAll importer runs 0 bannered)
  · have seen := here.precedes_iff closed tail
    have slice := @IsAt.slice_statement _ _ tail _ here
    rw [reviseAll_of_bannered bannered] at seen slice ⊢
    exact ⟨seen.mpr bannered, slice⟩

end Passage

/-! ## Runs over a script -/

/-- The layout after it was revised with each of several lists of known names. -/
def Layout.reviseAll (importer : Text) (runs : List Known) (layout : Layout) : Layout :=
  layout.map (Passage.reviseAll importer runs)

namespace Layout

variable {parser : JavaScript.ScriptParser} {layout : Layout} {importer : Text}
  {runs : List Known}

theorem reviseAll_nil (importer : Text) (layout : Layout) : layout.reviseAll importer [] = layout := by
  have same : Passage.reviseAll importer [] = id := rfl
  rw [reviseAll, map, same, List.map_id]

theorem reviseAll_append_singleton (importer : Text) (runs : List Known) (known : Known)
    (layout : Layout) :
    layout.reviseAll importer (runs ++ [known]) =
      (layout.reviseAll importer runs).map (Passage.revise known importer) := by
  simp [reviseAll, map, Passage.reviseAll, List.foldl_append, Function.comp_def]

/-- Where a script is read as its layout says, what holds of each passage and the site
that stands on it holds of the passages and the sites that are found. -/
theorem IsReadBy.exists_forall₂ (read : layout.IsReadBy parser)
    {related : Passage → ImportSite → Prop}
    (each : ∀ first passage last site, layout.text = first ++ passage.text ++ last →
      Closed first → passage.IsAt first.length site → related passage site) :
    ∃ found, surveyBy parser layout.text = .ok found ∧
      List.Forall₂ related layout.passages found := by
  rcases read.exists_declared with ⟨found, surveyed, sited, declared⟩
  exact ⟨found, surveyed,
    @Sited.forall₂_of_isAt _ _ [] layout.rest sited (Or.inl rfl) declared _ each⟩

/-- A script that is read after each run as the runs have left it is revised as its
layout is, run by run. -/
theorem reviseAll_text
    (read : ∀ count < runs.length, (layout.reviseAll importer (runs.take count)).IsReadBy parser) :
    Respecify.reviseAll parser importer runs layout.text =
      .ok (layout.reviseAll importer runs).text := by
  induction runs using List.reverseRecOn with
  | nil =>
      rw [reviseAll_nil]
      rfl
  | append_singleton runs known inductionHypothesis =>
      have upTo : ∀ count ≤ runs.length, (runs ++ [known]).take count = runs.take count :=
        fun count within => List.take_append_of_le_length within
      have before := inductionHypothesis fun count within =>
        upTo count within.le ▸ read count (by simp; omega)
      have readHere : (layout.reviseAll importer runs).IsReadBy parser := by
        have last := read runs.length (by simp)
        rwa [upTo _ (Nat.le_refl _), List.take_length] at last
      rw [Respecify.reviseAll_append_singleton before, readHere.reviseBy_eq,
        reviseAll_append_singleton]

end Layout

/-- After any number of runs over a script, an import that they have changed stands
below a banner that keeps its declaration.  So does any other import that stands below
the line that closes a banner, unless a line that closes another one was there before
the runs; and below such a line no run changes the import. -/
theorem reviseAll_banners {parser : JavaScript.ScriptParser} {importer source : Text}
    {sites : List ImportSite} {runs : List Known}
    (surveyed : surveyBy parser source = .ok sites) (orderly : Orderly source sites)
    (read : ∀ count, 0 < count → count ≤ runs.length →
      ((Layout.cut source sites).reviseAll importer (runs.take count)).IsReadBy parser) :
    ∃ code found, reviseAll parser importer runs source = .ok code ∧
      surveyBy parser code = .ok found ∧
      List.Forall₂ (Passage.IsLeftAs code) (Layout.cut source sites).passages found := by
  have whole := Layout.cut_spec orderly (specifier_eq_of_surveyBy surveyed)
  have readEach : ∀ count ≤ runs.length,
      ((Layout.cut source sites).reviseAll importer (runs.take count)).IsReadBy parser := by
    intro count within
    rcases Nat.eq_zero_or_pos count with rfl | positive
    · rw [List.take_zero, Layout.reviseAll_nil]
      exact Layout.isReadBy_cut surveyed orderly
    · exact read count positive within
  have revised := Layout.reviseAll_text fun count within => readEach count within.le
  rw [whole.1] at revised
  have readLast := readEach runs.length (Nat.le_refl _)
  rw [List.take_length] at readLast
  rcases @Layout.IsReadBy.exists_forall₂ _ _ readLast
    (fun revised site => ∀ passage : Passage, revised = passage.reviseAll importer runs →
      passage.IsLeftAs ((Layout.cut source sites).reviseAll importer runs).text site)
    (by
      rintro done _ tail site split closed here passage rfl
      rw [split]
      exact here.isLeftAs closed tail)
    with ⟨found, surveyedLast, each⟩
  rw [Layout.reviseAll, Layout.map, List.forall₂_map_left_iff] at each
  exact ⟨_, found, revised, surveyedLast, each.imp fun passage site told => told passage rfl⟩

/-- Below a line that closes nothing, an import is never looked at; the one below it gets
its own banner in the first run and keeps it in the second. -/
theorem reviseAll_banners_two_runs :
    let source := Banner.marker ++ text "import './x.js';\nimport './a.js';\n"
    let code := Banner.marker ++ text "import './x.js';\n" ++
      Banner.block (text "import './a.js';") ++ text "import '/a.js';\n"
    reviseAll JavaScript.parse? (text "m.js") [[text "x.js", text "a.js"], []] source =
        .ok code ∧
      ∃ first second, surveyBy JavaScript.parse? code = .ok [first, second] ∧
        (Banner.precedes code first = true ∧
          first.statementRange.slice code = text "import './x.js';") ∧
        Banner.precedes code second = true ∧ Banner.IsOwn code second := by
  intro source code
  let sites : List ImportSite :=
    [⟨text "./x.js", ⟨89, 95, by decide⟩, ⟨81, 97, by decide⟩, 2, by decide, by decide⟩,
      ⟨text "./a.js", ⟨106, 112, by decide⟩, ⟨98, 114, by decide⟩, 3, by decide, by decide⟩]
  let first : ImportSite :=
    ⟨text "./x.js", ⟨89, 95, by decide⟩, ⟨81, 97, by decide⟩, 2, by decide, by decide⟩
  let second : ImportSite :=
    ⟨text "/a.js", ⟨297, 302, by decide⟩, ⟨289, 304, by decide⟩, 9, by decide, by decide⟩
  let runs : List Known := [[text "x.js", text "a.js"], []]
  have evaluated : (surveyBy JavaScript.parse? source = .ok sites ∧ Orderly source sites) ∧
      (surveyBy JavaScript.parse? code = .ok [first, second] ∧ Orderly code [first, second]) ∧
      (Layout.cut source sites).passages =
        [⟨Banner.marker, text "import '", text "./x.js", text "';"⟩,
          ⟨[lineFeed], text "import '", text "./a.js", text "';"⟩] ∧
      ∀ count ∈ [1, 2], (Layout.cut source sites).reviseAll (text "m.js") (runs.take count) =
        Layout.cut code [first, second] := by
    decide +kernel
  rcases evaluated with
    ⟨⟨surveyed, orderly⟩, ⟨surveyedAfter, orderlyAfter⟩, passages, left⟩
  have read : ∀ count ≤ 2, ((Layout.cut source sites).reviseAll (text "m.js")
      (runs.take count)).IsReadBy JavaScript.parse? := by
    intro count within
    rcases Nat.eq_zero_or_pos count with rfl | positive
    · rw [List.take_zero, Layout.reviseAll_nil]
      exact Layout.isReadBy_cut surveyed orderly
    · rw [left count (by simp only [List.mem_cons, List.not_mem_nil, or_false]; omega)]
      exact Layout.isReadBy_cut surveyedAfter orderlyAfter
  have both : reviseAll JavaScript.parse? (text "m.js") runs source = .ok code := by
    have revised := Layout.reviseAll_text fun count (short : count < runs.length) =>
      read count short.le
    have last : (Layout.cut source sites).reviseAll (text "m.js") runs =
        Layout.cut code [first, second] := left 2 (by simp)
    rw [last, (Layout.cut_spec orderly (specifier_eq_of_surveyBy surveyed)).1,
      (Layout.cut_spec orderlyAfter (specifier_eq_of_surveyBy surveyedAfter)).1] at revised
    exact revised
  rcases reviseAll_banners surveyed orderly fun count _ within => read count within with
    ⟨_, _, revised, surveyedLast, each⟩
  cases revised.symm.trans both
  cases surveyedLast.symm.trans surveyedAfter
  rw [passages] at each
  rcases List.forall₂_cons.mp each with ⟨isFirst, others⟩
  have isSecond := (List.forall₂_cons.mp others).1
  exact ⟨both, first, second, surveyedAfter, isFirst.bannered List.suffix_rfl,
    isSecond.changed (by decide +kernel)⟩

/-- A new import below the banner of another one is taken for one that was changed, and
never gets the specifier of its script. -/
theorem not_isOwn_of_precedes :
    let source := Banner.block (text "import b from './b.js';") ++
      text "import c from './c.js';\nimport b from '/b.js';\n"
    ∃ site other, survey source = .ok [site, other] ∧
      site.statementRange.slice source = text "import c from './c.js';" ∧
      Banner.precedes source site = true ∧ ¬Banner.IsOwn source site ∧
      (revise [text "b.js", text "c.js"] (text "m.js") source).toOption.map Revision.code =
        some source := by
  intro source
  let site : ImportSite :=
    ⟨text "./c.js", ⟨213, 219, by decide⟩, ⟨198, 221, by decide⟩, 7, by decide, by decide⟩
  let other : ImportSite :=
    ⟨text "/b.js", ⟨237, 242, by decide⟩, ⟨222, 244, by decide⟩, 8, by decide, by decide⟩
  have evaluated : survey source = .ok [site, other] ∧
      site.statementRange.slice source = text "import c from './c.js';" ∧
      Banner.precedes source site = true ∧
      0x63 ∈ source.slice site.statementRange.start site.specifierRange.start ∧
      0x63 ∉ source.take site.statementRange.start ∧
      (revise [text "b.js", text "c.js"] (text "m.js") source).toOption.map Revision.code =
        some source := by
    decide +kernel
  rcases evaluated with ⟨surveyed, statement, precedes, named, absent, unchanged⟩
  refine ⟨site, other, surveyed, statement, precedes, ?_, unchanged⟩
  -- The text above the import has no `c`, which a banner of the import would have.
  rintro ⟨specifier, within⟩
  exact absent (within.subset (Banner.mem_block (by decide +kernel) (by simp [named])))

end Respecify

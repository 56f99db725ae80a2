import Respecify.Proofs.Import.Survey
import Respecify.Proofs.JavaScript.Outline
import Respecify.Proofs.Source.Layout
import Respecify.Proofs.Text.Utf8

/-!
# Reading a layout

A parser reads a script as its layout says if the statements of its tree are,
passage by passage, those that stand before an import declaration and then that
declaration, at its place.  The sites of the script are then those of the
passages.
-/

namespace Respecify

open JavaScript

/-! ## Statements and passages -/

/-- What the statements of a passage say: those before the declaration, and the
declaration. -/
structure Segment where
  ahead : List Outline
  declaration : Outline

/-- The outlines of a segment in source order. -/
def Segment.outlines (segment : Segment) : List Outline :=
  segment.ahead ++ [segment.declaration]

/-- A statement gives no site: it is no import declaration, or one with an empty
specifier. -/
def JavaScript.Tree.IsSilent (source : Source) (statement : Tree) : Prop :=
  statement.kind = .importStatement →
    siteOf? source (ByteIndex.ofText source.text) statement = .ok none

/-- A statement is the import declaration of a passage that stands behind a
text: it covers the bytes of the declaration, and its source those of the
specifier with the quotes around it. -/
structure Passage.IsDeclaredBy (passage : Passage) (done : Text) (statement specifier : Tree) :
    Prop where
  kind_eq : statement.kind = .importStatement
  source_eq : statement.child? .source = some specifier
  start_eq : statement.span.start = (Utf8.encode (done ++ passage.before)).length
  stop_eq : statement.span.stop = (Utf8.encode (done ++ passage.text)).length
  specifier_start_eq :
    specifier.span.start + 1 = (Utf8.encode (done ++ passage.before ++ passage.opening)).length
  specifier_stop_eq :
    specifier.span.stop =
      (Utf8.encode (done ++ passage.before ++ passage.opening ++ passage.specifier)).length + 1

/-- The statements of a source behind a text are those of passages, and silent
ones behind them. -/
inductive Laid (source : Source) :
    Text → List Passage → List Segment → List Outline → List Tree → Prop where
  | rest {done : Text} {statements : List Tree}
      (silent : ∀ statement ∈ statements, statement.IsSilent source) :
      Laid source done [] [] (statements.map (Tree.outline source)) statements
  | passage {done : Text} {passage : Passage} {passages : List Passage}
      {segments : List Segment} {last : List Outline} {ahead behind : List Tree}
      {declaration specifier : Tree}
      (silent : ∀ statement ∈ ahead, statement.IsSilent source)
      (declared : passage.IsDeclaredBy done declaration specifier)
      (others : Laid source (done ++ passage.text) passages segments last behind) :
      Laid source done (passage :: passages)
        (⟨ahead.map (Tree.outline source), declaration.outline source⟩ :: segments) last
        (ahead ++ declaration :: behind)

/-- A parser reads the script of a layout as the layout says, with statements of
these outlines. -/
def Layout.Reads (parser : ScriptParser) (layout : Layout) (segments : List Segment)
    (last : List Outline) : Prop :=
  ∃ program, parseScriptBy parser layout.text = .ok program ∧ program.kind = .program ∧
    Laid (Source.ofText layout.text) [] layout.passages segments last program.children

namespace Laid

variable {source : Source} {done : Text} {passages : List Passage} {segments : List Segment}
  {last : List Outline} {statements : List Tree}

theorem length_segments (laid : Laid source done passages segments last statements) :
    segments.length = passages.length := by
  induction laid with
  | rest => rfl
  | passage _ _ _ inductionHypothesis =>
      rw [List.length_cons, List.length_cons, inductionHypothesis]

/-- The outlines of the statements are those of the segments. -/
theorem map_outline (laid : Laid source done passages segments last statements) :
    statements.map (Tree.outline source) = segments.flatMap Segment.outlines ++ last := by
  induction laid with
  | rest => rfl
  | passage _ _ _ inductionHypothesis =>
      simp [Segment.outlines, inductionHypothesis]

end Laid

/-! ## The sites of a layout -/

/-- A specifier that a site can have: it is not empty, and a machine word can
tell its length. -/
def Passage.IsMeasured (passage : Passage) : Prop :=
  passage.specifier ≠ [] ∧ passage.specifier.length ≤ TextRange.greatestLength

/-- A range between two offsets in characters. -/
theorem rangeOf_eq_ok {offsets : ByteIndex} {start stop : Nat} {range : TextRange}
    (startEq : offsets.charactersBefore start = range.start)
    (stopEq : offsets.charactersBefore stop = range.stop) :
    rangeOf offsets start stop = .ok range := by
  have ordered := range.start_le_stop
  rw [rangeOf, startEq, stopEq, TextRange.ofInts?, dif_pos (by omega)]
  rfl

/-- The parts of a site make the site, unless a machine word cannot tell the
length of the specifier. -/
theorem ImportSite.ofParts?_eq (site : ImportSite) :
    ImportSite.ofParts? site.specifier site.specifierRange site.statementRange site.line =
      if TextRange.greatestLength < site.specifierRange.length then .error .overlong
      else .ok site := by
  rw [ImportSite.ofParts?, dif_pos site.specifier_nonempty, dif_pos site.specifier_inside]

/-- A declaration that names nothing gives no site. -/
theorem siteOf?_eq_none {source : Source} {offsets : ByteIndex} {statement specifier : Tree}
    (found : statement.child? .source = some specifier)
    (empty : offsets.charactersBefore (specifier.span.stop - 1) ≤
      offsets.charactersBefore (specifier.span.start + 1)) :
    siteOf? source offsets statement = .ok none := by
  unfold siteOf?
  rw [found]
  dsimp only
  rw [if_pos empty]
  rfl

/-- A declaration whose nodes cover the characters of a site gives the site, unless a
machine word cannot tell the length of its specifier. -/
theorem siteOf?_eq_of_offsets {source : Source} {offsets : ByteIndex}
    {statement specifier : Tree} (site : ImportSite)
    (found : statement.child? .source = some specifier)
    (startAt : offsets.charactersBefore statement.span.start = site.statementRange.start)
    (stopAt : offsets.charactersBefore statement.span.stop = site.statementRange.stop)
    (fromAt : offsets.charactersBefore (specifier.span.start + 1) = site.specifierRange.start)
    (toAt : offsets.charactersBefore (specifier.span.stop - 1) = site.specifierRange.stop)
    (sliced : site.specifierRange.slice source.text = site.specifier)
    (lineEq : source.lineOf statement.span.start = site.line) :
    siteOf? source offsets statement =
      if TextRange.greatestLength < site.specifierRange.length then .error (.site .overlong)
      else .ok (some site) := by
  have nonempty := site.specifier_nonempty
  have inner : rangeOf offsets _ _ = .ok site.specifierRange := rangeOf_eq_ok fromAt toAt
  have outer : rangeOf offsets _ _ = .ok site.statementRange := rangeOf_eq_ok startAt stopAt
  unfold siteOf?
  rw [found]
  dsimp only
  rw [fromAt, toAt, if_neg (by omega), inner, outer]
  dsimp only [bind, Except.bind]
  rw [sliced, lineEq, site.ofParts?_eq]
  by_cases long : TextRange.greatestLength < site.specifierRange.length
  · rw [if_pos long, if_pos long]
    rfl
  · rw [if_neg long, if_neg long]
    rfl

/-- The declaration of a passage gives the site of the passage, unless its
specifier is too long. -/
theorem Passage.IsDeclaredBy.siteOf?_eq {passage : Passage} {done tail : Text}
    {statement specifier : Tree} (declared : passage.IsDeclaredBy done statement specifier)
    (nonempty : passage.specifier ≠ [])
    (scalar : ∀ c ∈ done ++ passage.text ++ tail, isScalar c = true) :
    ∃ site, passage.IsAt done.length site ∧
      siteOf? (Source.ofText (done ++ passage.text ++ tail))
          (ByteIndex.ofText (done ++ passage.text ++ tail)) statement =
        if TextRange.greatestLength < passage.specifier.length then .error (.site .overlong)
        else .ok (some site) := by
  have positive : 0 < passage.specifier.length := List.length_pos_iff.mpr nonempty
  have lengths := passage.length_text
  let site : ImportSite :=
    { specifier := passage.specifier
      specifierRange :=
        { start := done.length + passage.before.length + passage.opening.length
          stop := done.length + passage.before.length + passage.opening.length +
            passage.specifier.length }
      statementRange :=
        { start := done.length + passage.before.length
          stop := done.length + passage.text.length }
      line := (Source.ofText (done ++ passage.text ++ tail)).lineOf statement.span.start
      specifier_nonempty := by dsimp only; omega
      specifier_inside := by
        simp only [TextRange.contains, Bool.and_eq_true, decide_eq_true_eq]
        omega }
  have here : passage.IsAt done.length site := ⟨rfl, rfl, rfl, rfl, rfl⟩
  have upTo : ∀ first second : Text, done ++ passage.text ++ tail = first ++ second →
      (ByteIndex.ofText (done ++ passage.text ++ tail)).charactersBefore
        (Utf8.encode first).length = first.length := by
    intro first second split
    rw [split] at scalar ⊢
    exact ByteIndex.charactersBefore_length_encode fun c member =>
      scalar c (List.mem_append_left _ member)
  have startAt := upTo (done ++ passage.before) (passage.declaration ++ tail)
    (by simp [Passage.text])
  have stopAt := upTo (done ++ passage.text) tail rfl
  have fromAt := upTo (done ++ passage.before ++ passage.opening)
    (passage.specifier ++ passage.closing ++ tail) (by simp [Passage.text, Passage.declaration])
  have toAt := upTo (done ++ passage.before ++ passage.opening ++ passage.specifier)
    (passage.closing ++ tail) (by simp [Passage.text, Passage.declaration])
  rw [← declared.start_eq] at startAt
  rw [← declared.stop_eq] at stopAt
  rw [← declared.specifier_start_eq] at fromAt
  rw [← Nat.add_sub_cancel (Utf8.encode _).length 1, ← declared.specifier_stop_eq] at toAt
  simp only [List.length_append] at startAt stopAt fromAt toAt
  have length : site.specifierRange.length = passage.specifier.length :=
    Nat.add_sub_cancel_left _ _
  refine ⟨site, here, ?_⟩
  rw [siteOf?_eq_of_offsets site declared.source_eq startAt (stopAt.trans here.stop_eq.symm)
    fromAt toAt here.slice_specifier rfl, length]

/-- Silent statements give no sites. -/
theorem exists_options_of_silent {source : Source} {statements : List Tree}
    (silent : ∀ statement ∈ statements, statement.IsSilent source) :
    ∃ options : List (Option ImportSite),
      (statements.filter fun statement => statement.kind = .importStatement).map
          (siteOf? source (ByteIndex.ofText source.text)) = options.map .ok ∧
        options.filterMap id = [] := by
  refine ⟨(statements.filter fun statement => statement.kind = .importStatement).map
    fun _ => none, ?_, ?_⟩
  · rw [List.map_map]
    refine List.map_congr_left fun statement member => ?_
    rcases List.mem_filter.mp member with ⟨statementMember, isImport⟩
    exact silent statement statementMember (of_decide_eq_true isImport)
  · rw [List.filterMap_map]
    exact List.filterMap_eq_nil_iff.mpr fun _ _ => rfl

/-- Statements that are laid as passages give the sites of the passages. -/
theorem Laid.exists_options {text done tail : Text} {passages : List Passage}
    {segments : List Segment} {last : List Outline} {statements : List Tree}
    (laid : Laid (Source.ofText text) done passages segments last statements)
    (whole : text = done ++ passages.flatMap Passage.text ++ tail)
    (scalar : ∀ c ∈ text, isScalar c = true)
    (measured : ∀ passage ∈ passages, passage.IsMeasured) :
    ∃ options : List (Option ImportSite),
      (statements.filter fun statement => statement.kind = .importStatement).map
          (siteOf? (Source.ofText text) (ByteIndex.ofText text)) = options.map .ok ∧
        Sited done.length passages (options.filterMap id) := by
  induction laid with
  | rest silent =>
      rcases exists_options_of_silent silent with ⟨options, answers, none⟩
      exact ⟨options, answers, none ▸ Sited.nil _⟩
  | @passage done passage passages segments last ahead behind declaration specifier silent
      declared _ inductionHypothesis =>
      have split : text = done ++ passage.text ++ (passages.flatMap Passage.text ++ tail) := by
        rw [whole]
        simp
      rcases exists_options_of_silent silent with ⟨none, noneAnswers, noneSites⟩
      rcases declared.siteOf?_eq
        (measured passage List.mem_cons_self).1 (by rwa [← split]) with ⟨site, here, found⟩
      rw [← split, if_neg (Nat.not_lt.mpr (measured passage List.mem_cons_self).2)] at found
      rcases inductionHypothesis (by rw [split]; simp)
        (fun other member => measured other (List.mem_cons_of_mem _ member)) with
        ⟨options, answers, sited⟩
      refine ⟨none ++ some site :: options, ?_, ?_⟩
      · have isImport : decide (declaration.kind = .importStatement) = true :=
          decide_eq_true declared.kind_eq
        rw [List.filter_append, List.filter_cons, if_pos isImport, List.map_append,
          List.map_cons, found, answers, List.map_append, List.map_cons]
        exact congrArg (· ++ _) noneAnswers
      · rw [List.filterMap_append, noneSites, List.nil_append]
        exact Sited.cons here (by rwa [List.length_append] at sited)

/-- Where every declaration of a layout gives an answer, a machine word can tell
the length of every specifier. -/
theorem Laid.isMeasured {text done tail : Text} {passages : List Passage}
    {segments : List Segment} {last : List Outline} {statements : List Tree}
    (laid : Laid (Source.ofText text) done passages segments last statements)
    (whole : text = done ++ passages.flatMap Passage.text ++ tail)
    (scalar : ∀ c ∈ text, isScalar c = true)
    (nonempty : ∀ passage ∈ passages, passage.specifier ≠ [])
    (answered : ∀ statement ∈ statements, statement.kind = .importStatement →
      ∃ option, siteOf? (Source.ofText text) (ByteIndex.ofText text) statement = .ok option) :
    ∀ passage ∈ passages, passage.IsMeasured := by
  induction laid with
  | rest => exact fun _ member => absurd member List.not_mem_nil
  | @passage done passage passages segments last ahead behind declaration specifier _ declared _
      inductionHypothesis =>
      have split : text = done ++ passage.text ++ (passages.flatMap Passage.text ++ tail) := by
        rw [whole]
        simp
      have others := inductionHypothesis (by rw [split]; simp)
        (fun other member => nonempty other (List.mem_cons_of_mem _ member))
        (fun statement member => answered statement
          (List.mem_append_right _ (List.mem_cons_of_mem _ member)))
      rcases declared.siteOf?_eq
        (nonempty passage List.mem_cons_self) (by rwa [← split]) with ⟨site, _, found⟩
      rcases answered declaration (List.mem_append_right _ List.mem_cons_self) declared.kind_eq
        with ⟨option, given⟩
      rw [← split, given] at found
      intro other member
      rcases List.mem_cons.mp member with rfl | member
      · refine ⟨nonempty other List.mem_cons_self, ?_⟩
        by_contra long
        rw [if_pos (Nat.lt_of_not_le long)] at found
        cases found
      · exact others other member

namespace Layout

/-- A parser finds the declarations of a layout, and no others, where the layout
has them. -/
def IsReadBy (parser : ScriptParser) (layout : Layout) : Prop :=
  ∃ sites, surveyBy parser layout.text = .ok sites ∧ Sited 0 layout.passages sites ∧
    Orderly layout.text sites

instance (parser : ScriptParser) (layout : Layout) :
    Decidable (layout.IsReadBy parser) :=
  match surveyed : surveyBy parser layout.text with
  | .ok sites =>
      decidable_of_iff (Sited 0 layout.passages sites ∧ Orderly layout.text sites)
        ⟨fun ⟨sited, orderly⟩ => ⟨sites, surveyed, sited, orderly⟩,
          fun ⟨_, found, sited, orderly⟩ => by
            cases surveyed.symm.trans found
            exact ⟨sited, orderly⟩⟩
  | .error _ => isFalse fun ⟨_, found, _⟩ => nomatch surveyed.symm.trans found

variable {parser : ScriptParser} {layout : Layout} {segments : List Segment}
  {last : List Outline}

/-- The declarations of a script that is read hold characters only. -/
theorem Reads.isScalar_declaration {earlier later : List Passage} {passage : Passage}
    {declaration : Text} {rest : Text}
    (read : Reads parser ⟨earlier ++ passage :: later, rest⟩ segments last)
    (same : passage.declaration = declaration) : ∀ c ∈ declaration, isScalar c = true := by
  rcases read with ⟨_, parsed, _⟩
  intro c member
  refine (parseScriptBy_eq_ok_iff.mp parsed).1 c ?_
  rw [← same] at member
  simp [text, Passage.text, member]

/-- A script that is read as its layout says has the sites of its layout, if it
has any. -/
theorem Reads.sited (read : layout.Reads parser segments last) {sites : List ImportSite}
    (nonempty : ∀ passage ∈ layout.passages, passage.specifier ≠ [])
    (surveyed : surveyBy parser layout.text = .ok sites) :
    Sited 0 layout.passages sites ∧ ∀ passage ∈ layout.passages, passage.IsMeasured := by
  rcases read with ⟨program, parsed, _, laid⟩
  rcases surveyBy_eq_ok_iff.mp surveyed with ⟨same, options, parsed', _, answers, rfl⟩
  cases parsed.symm.trans parsed'
  have scalar := (parseScriptBy_eq_ok_iff.mp parsed).1
  have measured := laid.isMeasured rfl scalar nonempty (by
    intro statement member isImport
    have isOne : statement ∈ program.imports :=
      List.mem_filter.mpr ⟨member, decide_eq_true isImport⟩
    have answered := List.mem_map_of_mem
      (f := siteOf? (Source.ofText layout.text) (ByteIndex.ofText layout.text)) isOne
    rw [answers] at answered
    rcases List.mem_map.mp answered with ⟨option, _, given⟩
    exact ⟨option, given.symm⟩)
  rcases laid.exists_options rfl scalar measured with
    ⟨options', answers', sited⟩
  have same : options' = options := by
    have both := answers'.symm.trans answers
    exact List.map_injective_iff.mpr (fun _ _ => Except.ok.inj) both
  exact ⟨same ▸ sited, measured⟩

/-- A script that is read as its layout says, with the statements of a script
that keeps the rules of module code, has the sites of its layout. -/
theorem Reads.exists_sites (read : layout.Reads parser segments last) {other : Layout}
    {otherSites : List ImportSite} (otherRead : other.Reads parser segments last)
    (otherSurveyed : surveyBy parser other.text = .ok otherSites)
    (measured : ∀ passage ∈ layout.passages, passage.IsMeasured) :
    ∃ sites, surveyBy parser layout.text = .ok sites ∧ Sited 0 layout.passages sites := by
  rcases read with ⟨program, parsed, isProgram, laid⟩
  rcases otherRead with ⟨otherProgram, otherParsed, isOtherProgram, otherLaid⟩
  rcases surveyBy_eq_ok_iff.mp otherSurveyed with ⟨same, _, otherParsed', checked, _⟩
  cases otherParsed.symm.trans otherParsed'
  rcases laid.exists_options rfl (parseScriptBy_eq_ok_iff.mp parsed).1
    measured with ⟨options, answers, sited⟩
  have checkedHere := checkModule_congr isOtherProgram isProgram
    (otherLaid.map_outline.trans laid.map_outline.symm) checked
  exact ⟨_, surveyBy_eq_ok_iff.mpr ⟨program, options, parsed, checkedHere, answers, rfl⟩, sited⟩

/-- Sites tell where a script is cut. -/
theorem cutFrom_text {done rest : Text} {passages : List Passage} {sites : List ImportSite}
    (sited : Sited done.length passages sites) :
    cutFrom (done ++ passages.flatMap Passage.text ++ rest) done.length sites =
      ⟨passages, rest⟩ := by
  induction passages generalizing done sites with
  | nil =>
      cases sited
      rw [cutFrom, List.flatMap_nil, List.append_nil, List.drop_left]
  | cons passage passages inductionHypothesis =>
      cases sited with
      | @cons _ _ _ site sites here behind =>
          have longer : done.length + passage.text.length = (done ++ passage.text).length := by
            simp
          have others := inductionHypothesis (longer ▸ behind)
          have split : done ++ (passage :: passages).flatMap Passage.text ++ rest =
              done ++ passage.text ++ (passages.flatMap Passage.text ++ rest) := by
            simp
          have regroup : done ++ passage.text ++ passages.flatMap Passage.text ++ rest =
              done ++ passage.text ++ (passages.flatMap Passage.text ++ rest) := by
            simp
          rw [regroup, ← longer, ← here.stop_eq] at others
          rw [split, cutFrom, others, here.slice_before, here.slice_opening,
            here.slice_specifier, here.slice_closing]

/-- The layout of a script is the one that its sites tell. -/
theorem cut_text {sites : List ImportSite} (sited : Sited 0 layout.passages sites) :
    cut layout.text sites = layout := by
  have whole := @cutFrom_text [] layout.rest _ _ sited
  rw [List.nil_append] at whole
  exact whole

/-- A script is read as the layout says that its sites tell. -/
theorem isReadBy_cut {source : Text} {sites : List ImportSite}
    (surveyed : surveyBy parser source = .ok sites) (orderly : Orderly source sites) :
    (cut source sites).IsReadBy parser := by
  have whole := cut_spec orderly (specifier_eq_of_surveyBy surveyed)
  exact ⟨sites, by rw [whole.1]; exact surveyed, whole.2, by rw [whole.1]; exact orderly⟩

/-- The declarations of a layout that is read are those of imports. -/
theorem IsReadBy.exists_declared (read : layout.IsReadBy parser) :
    ∃ sites, surveyBy parser layout.text = .ok sites ∧ Sited 0 layout.passages sites ∧
      ∀ passage ∈ layout.passages, isDeclaration passage.declaration = true := by
  rcases read with ⟨sites, surveyed, sited, orderly⟩
  exact ⟨sites, surveyed, sited,
    @Sited.declared _ _ [] layout.rest sited (by simpa [text] using orderly)⟩

end Layout

end Respecify

import Respecify.Import.Survey
import Respecify.Proofs.JavaScript.Recovery

/-!
# Sites of a survey

A survey gives one site for each import declaration directly below the root of
the tree, unless its specifier is empty.  A text without a tree has no sites, and
where its parser goes on after an error, the failure tells of the first one.
-/

namespace Respecify

open JavaScript

/-! ## Trees of scripts -/

/-- The characters of a text are told if all its code points are characters. -/
theorem characters_eq_ok_iff {source : Text} {given : List Char} :
    characters source = .ok given ↔
      (∀ c ∈ source, isScalar c = true) ∧ given = source.map Char.ofNat := by
  unfold characters
  split
  · rename_i offset found
    have present : ∃ c ∈ source, isScalar c = false := by
      rcases List.findIdx?_eq_some_iff_getElem.mp found with ⟨inside, unscalar, _⟩
      exact ⟨source[offset], List.getElem_mem inside, by simpa using unscalar⟩
    rcases present with ⟨c, member, unscalar⟩
    constructor
    · intro failed
      cases failed
    · rintro ⟨scalar, _⟩
      rw [scalar c member] at unscalar
      cases unscalar
  · rename_i absent
    have scalar : ∀ c ∈ source, isScalar c = true := by
      intro c member
      simpa using List.findIdx?_eq_none_iff.mp absent c member
    exact ⟨fun same => ⟨scalar, (Except.ok.inj same).symm⟩, fun told => congrArg _ told.2.symm⟩

/-- A text has a tree if all its code points are characters and the parser gives
one. -/
theorem parseScriptBy_eq_ok_iff {parser : ScriptParser} {source : Text} {program : Tree} :
    parseScriptBy parser source = .ok program ↔
      (∀ c ∈ source, isScalar c = true) ∧ parser.tree? (source.map Char.ofNat) = some program := by
  unfold parseScriptBy
  cases given : characters source with
  | error failure =>
      constructor
      · intro failed
        cases failed
      · rintro ⟨scalar, _⟩
        rw [characters_eq_ok_iff.mpr ⟨scalar, rfl⟩] at given
        cases given
  | ok chars =>
      rcases characters_eq_ok_iff.mp given with ⟨scalar, rfl⟩
      dsimp only [bind, Except.bind]
      cases parser.tree? (source.map Char.ofNat) with
      | none =>
          constructor
          · intro failed
            cases failed
          · rintro ⟨_, absent⟩
            cases absent
      | some tree =>
          constructor
          · intro same
            exact ⟨scalar, congrArg some (Except.ok.inj same)⟩
          · rintro ⟨_, same⟩
            exact congrArg Except.ok (Option.some.inj same)

/-- Malformed code fails at the first fault of all nodes to which the parser recovers,
if every node above a fault is marked, and without a place if there is no fault. -/
theorem parseScriptBy_eq_error_of_malformed {parser : ScriptParser} {source : Text}
    (scalar : ∀ c ∈ source, isScalar c = true)
    (malformed : parser.tree? (source.map Char.ofNat) = none)
    (marked : ∀ tree, parser.recovered? (source.map Char.ofNat) = some tree → tree.IsMarked) :
    parseScriptBy parser source = .error
      (((parser.recovered? (source.map Char.ofNat)).bind fun tree =>
          tree.nodes.find? RecoveredTree.isFault).elim ⟨.malformed, none⟩ fun fault =>
        fault.faulty.failure (Utf8.encode source)) := by
  have given := characters_eq_ok_iff.mpr ⟨scalar, rfl⟩
  rw [parseScriptBy, given]
  dsimp only [bind, Except.bind]
  rw [malformed]
  dsimp only
  rw [RecoveredTree.failureOf]
  cases recovered : parser.recovered? (source.map Char.ofNat) with
  | none => rfl
  | some tree =>
      rw [Option.bind_some, Option.bind_some, (marked tree recovered).firstFault?_eq_find?]
      cases tree.nodes.find? RecoveredTree.isFault <;> rfl

/-! ## Sites -/

/-- All items of a list have answers exactly if each of them has. -/
theorem mapM_eq_ok_iff {α β ε : Type} {answer : α → Except ε β} {items : List α}
    {answers : List β} :
    items.mapM answer = .ok answers ↔ items.map answer = answers.map .ok := by
  induction items generalizing answers with
  | nil =>
      rw [List.mapM_nil, List.map_nil, List.nil_eq, List.map_eq_nil_iff]
      exact ⟨fun same => (Except.ok.inj same).symm, fun same => by rw [same]; rfl⟩
  | cons item items inductionHypothesis =>
      rw [List.mapM_cons, List.map_cons]
      constructor
      · intro done
        cases first : answer item with
        | error failure =>
            rw [first] at done
            cases done
        | ok given =>
            cases others : items.mapM answer with
            | error failure =>
                rw [first, others] at done
                cases done
            | ok rest =>
                rw [first, others] at done
                cases done
                rw [List.map_cons, inductionHypothesis.mp others]
      · intro same
        rcases List.map_eq_cons_iff.mp same.symm with ⟨given, rest, rfl, first, others⟩
        rw [← first, inductionHypothesis.mpr others.symm]
        rfl

/-- A site spells its specifier as the text does. -/
theorem specifier_eq_of_siteOf? {source : Source} {offsets : ByteIndex} {statement : Tree}
    {site : ImportSite} (found : siteOf? source offsets statement = .ok (some site)) :
    site.specifier = site.specifierRange.slice source.text := by
  unfold siteOf? at found
  split at found
  · cases found
  · rename_i specifier _
    dsimp only at found
    split at found
    · cases found
    · cases inner : rangeOf offsets (specifier.span.start + 1) (specifier.span.stop - 1) with
      | error failure =>
          rw [inner] at found
          cases found
      | ok specifierRange =>
          cases outer : rangeOf offsets statement.span.start statement.span.stop with
          | error failure =>
              rw [inner, outer] at found
              cases found
          | ok statementRange =>
              rw [inner, outer] at found
              dsimp only [bind, Except.bind] at found
              unfold ImportSite.ofParts? at found
              split at found
              · rename_i site made
                split at made
                · cases made
                · split at made
                  · split at made
                    · cases made
                      cases found
                      rfl
                    · cases made
                  · cases made
              · cases found

/-- The sites of a tree are what its import declarations answer, less the answers of
those that name nothing. -/
theorem sitesOf_eq (source : Source) (program : Tree) :
    sitesOf source program =
      (program.imports.mapM (siteOf? source (ByteIndex.ofText source.text))).map
        (·.filterMap id) := by
  change program.imports.mapM (siteOf? source (ByteIndex.ofText source.text)) >>= _ = _
  cases program.imports.mapM (siteOf? source (ByteIndex.ofText source.text)) <;> rfl

/-- A tree has sites exactly if all its import declarations have answers. -/
theorem sitesOf_eq_ok_iff {source : Source} {program : Tree} {sites : List ImportSite} :
    sitesOf source program = .ok sites ↔
      ∃ options : List (Option ImportSite),
        program.imports.map (siteOf? source (ByteIndex.ofText source.text)) =
          options.map .ok ∧
        sites = options.filterMap id := by
  rw [sitesOf_eq]
  constructor
  · intro found
    cases each : program.imports.mapM (siteOf? source (ByteIndex.ofText source.text)) with
    | error failure =>
        rw [each] at found
        cases found
    | ok options =>
        rw [each] at found
        exact ⟨options, mapM_eq_ok_iff.mp each, (Except.ok.inj found).symm⟩
  · rintro ⟨options, answers, rfl⟩
    rw [mapM_eq_ok_iff.mpr answers]
    rfl

/-- A survey gives sites where the parser gives a tree of module code, all of
whose import declarations have answers. -/
theorem surveyBy_eq_ok_iff {parser : ScriptParser} {source : Text} {sites : List ImportSite} :
    surveyBy parser source = .ok sites ↔
      ∃ (program : Tree) (options : List (Option ImportSite)),
        parseScriptBy parser source = .ok program ∧
        checkModule (Source.ofText source) program = .ok () ∧
        program.imports.map (siteOf? (Source.ofText source) (ByteIndex.ofText source)) =
          options.map .ok ∧
        sites = options.filterMap id := by
  unfold surveyBy surveyTree
  constructor
  · intro found
    split at found
    · cases found
    · rename_i program parsed
      split at found
      · cases found
      · rename_i checked
        rcases sitesOf_eq_ok_iff.mp found with ⟨options, answers, same⟩
        exact ⟨program, options, parsed, checked, answers, same⟩
  · rintro ⟨program, options, parsed, checked, answers, same⟩
    rw [parsed]
    dsimp only
    rw [checked]
    exact sitesOf_eq_ok_iff.mpr ⟨options, answers, same⟩

/-- The sites of a survey spell their specifiers as the text does. -/
theorem specifier_eq_of_surveyBy {parser : ScriptParser} {source : Text}
    {sites : List ImportSite} (surveyed : surveyBy parser source = .ok sites) :
    ∀ site ∈ sites, site.specifier = site.specifierRange.slice source := by
  rcases surveyBy_eq_ok_iff.mp surveyed with ⟨program, options, _, _, answers, rfl⟩
  intro site member
  rcases List.mem_filterMap.mp member with ⟨option, optionMember, same⟩
  have answered := List.mem_map_of_mem (f := Except.ok (ε := SurveyError)) optionMember
  rw [← answers] at answered
  rcases List.mem_map.mp answered with ⟨statement, _, foundHere⟩
  rw [show option = some site from same] at foundHere
  exact specifier_eq_of_siteOf? foundHere

end Respecify

import Mathlib.Data.List.TakeWhile
import Respecify.Proofs.Import.Regular

/-!
# Scripts that are read alike

Whether a parser reads a script as its layout says can be computed, and so can the
outlines of the statements.  Where scripts have the same ones, a parser keeps the laws
of import declarations on them.
-/

namespace Respecify

open JavaScript

/-! ## Trees that are the same -/

namespace JavaScript.Tree

mutual

/-- The trees are the same one. -/
def isSame : Tree → Tree → Bool
  | .node kind role span children, .node kind' role' span' children' =>
      decide (kind = kind') && decide (role = role') && decide (span = span') &&
        areSame children children'

/-- The trees of two lists are the same ones. -/
def areSame : List Tree → List Tree → Bool
  | [], [] => true
  | tree :: others, tree' :: others' => isSame tree tree' && areSame others others'
  | _, _ => false

end

mutual

theorem isSame_iff : (tree tree' : Tree) → (tree.isSame tree' = true ↔ tree = tree')
  | .node kind role span children, .node kind' role' span' children' => by
      rw [isSame, Bool.and_eq_true, Bool.and_eq_true, Bool.and_eq_true, decide_eq_true_iff,
        decide_eq_true_iff, decide_eq_true_iff, areSame_iff children children', node.injEq,
        and_assoc, and_assoc]

theorem areSame_iff : (trees trees' : List Tree) → (areSame trees trees' = true ↔ trees = trees')
  | [], [] => by simp [areSame]
  | tree :: others, tree' :: others' => by
      rw [areSame, Bool.and_eq_true, isSame_iff tree tree', areSame_iff others others',
        List.cons.injEq]
  | [], _ :: _ => by simp [areSame]
  | _ :: _, [] => by simp [areSame]

end

instance : DecidableEq Tree :=
  fun tree tree' => decidable_of_iff _ (isSame_iff tree tree')

end JavaScript.Tree

-- The derived instances would carry the rest of a comparison along the equation of its
-- first part, and to evaluate that costs more than to compare.
instance : DecidableEq Outline :=
  fun outline other =>
    decidable_of_iff (outline.tree = other.tree ∧ outline.names = other.names)
      (by rw [← Outline.mk.injEq])

instance : DecidableEq Segment :=
  fun segment other =>
    decidable_of_iff (segment.ahead = other.ahead ∧ segment.declaration = other.declaration)
      (by rw [← Segment.mk.injEq])

/-! ## Computing a reading -/

section Laid

variable {passage : Passage} {done tail text : Text} {source : Source} {statement : Tree}

instance (source : Source) (statement : Tree) : Decidable (statement.IsSilent source) :=
  inferInstanceAs (Decidable (statement.kind = .importStatement →
    siteOf? source (ByteIndex.ofText source.text) statement = .ok none))

/-- A statement is the import declaration of a passage that stands behind a text. -/
def Passage.isDeclaredBy (passage : Passage) (done : Text) (statement : Tree) : Bool :=
  match statement.child? .source with
  | none => false
  | some specifier =>
      decide (statement.kind = .importStatement ∧
        statement.span.start = (Utf8.encode (done ++ passage.before)).length ∧
        statement.span.stop = (Utf8.encode (done ++ passage.text)).length ∧
        specifier.span.start + 1 =
          (Utf8.encode (done ++ passage.before ++ passage.opening)).length ∧
        specifier.span.stop =
          (Utf8.encode (done ++ passage.before ++ passage.opening ++ passage.specifier)).length + 1)

theorem Passage.isDeclaredBy_iff :
    passage.isDeclaredBy done statement = true ↔
      ∃ specifier, passage.IsDeclaredBy done statement specifier := by
  rw [isDeclaredBy]
  cases found : statement.child? .source with
  | none =>
      constructor
      · intro declared
        cases declared
      · rintro ⟨specifier, declared⟩
        cases found.symm.trans declared.source_eq
  | some specifier =>
      rw [decide_eq_true_iff]
      constructor
      · rintro ⟨kind, start, stop, inner, outer⟩
        exact ⟨specifier, kind, found, start, stop, inner, outer⟩
      · rintro ⟨other, declared⟩
        cases found.symm.trans declared.source_eq
        exact ⟨declared.kind_eq, declared.start_eq, declared.stop_eq,
          declared.specifier_start_eq, declared.specifier_stop_eq⟩

/-- The outlines of statements behind a text, if they are those of passages. -/
def laid? (source : Source) : Text → List Passage → List Tree →
    Option (List Segment × List Outline)
  | _, [], statements =>
      if ∀ statement ∈ statements, statement.IsSilent source then
        some ([], statements.map (Tree.outline source))
      else none
  | done, passage :: passages, statements =>
      let ahead := statements.takeWhile (!passage.isDeclaredBy done ·)
      match statements.dropWhile (!passage.isDeclaredBy done ·) with
      | [] => none
      | declaration :: behind =>
          if ∀ statement ∈ ahead, statement.IsSilent source then
            (laid? source (done ++ passage.text) passages behind).map fun others =>
              (⟨ahead.map (Tree.outline source), declaration.outline source⟩ :: others.1, others.2)
          else none

theorem laid_of_laid? {passages : List Passage} {statements : List Tree}
    {segments : List Segment} {last : List Outline}
    (computed : laid? source done passages statements = some (segments, last)) :
    Laid source done passages segments last statements := by
  induction passages generalizing done statements segments with
  | nil =>
      rw [laid?] at computed
      split at computed
      · rename_i silent
        cases computed
        exact Laid.rest silent
      · cases computed
  | cons passage passages inductionHypothesis =>
      rw [laid?] at computed
      split at computed
      · cases computed
      · rename_i declaration behind found
        split at computed
        · rename_i silent
          rcases Option.map_eq_some_iff.mp computed with ⟨⟨others, _⟩, there, same⟩
          cases same
          have isDeclared : passage.isDeclaredBy done declaration = true := by
            have first := List.head?_dropWhile_not (!passage.isDeclaredBy done ·) statements
            rw [found] at first
            simpa using first
          rcases Passage.isDeclaredBy_iff.mp isDeclared with ⟨specifier, declared⟩
          have whole := List.takeWhile_append_dropWhile
            (p := (!passage.isDeclaredBy done ·)) (l := statements)
          rw [found] at whole
          have laid := Laid.passage silent declared (inductionHypothesis there)
          rwa [whole] at laid
        · cases computed

/-- The declaration of a passage is not silent. -/
theorem Passage.IsDeclaredBy.not_isSilent {specifier : Tree}
    (declared : passage.IsDeclaredBy done statement specifier) (nonempty : passage.specifier ≠ [])
    (scalar : ∀ c ∈ done ++ passage.text ++ tail, isScalar c = true) :
    ¬ statement.IsSilent (Source.ofText (done ++ passage.text ++ tail)) := by
  intro silent
  rcases declared.siteOf?_eq nonempty scalar with ⟨site, _, found⟩
  have given := found.symm.trans (silent declared.kind_eq)
  split at given <;> cases given

theorem laid?_of_laid {passages : List Passage} {statements : List Tree}
    {segments : List Segment} {last : List Outline}
    (laid : Laid (Source.ofText text) done passages segments last statements)
    (whole : text = done ++ passages.flatMap Passage.text ++ tail)
    (scalar : ∀ c ∈ text, isScalar c = true)
    (nonempty : ∀ passage ∈ passages, passage.specifier ≠ []) :
    laid? (Source.ofText text) done passages statements = some (segments, last) := by
  induction laid with
  | rest silent => rw [laid?, if_pos silent]
  | @passage done passage passages segments last ahead behind declaration specifier silent
      declared _ inductionHypothesis =>
      have split : text = done ++ passage.text ++ (passages.flatMap Passage.text ++ tail) := by
        rw [whole]
        simp
      have undeclared : ∀ statement ∈ ahead, (!passage.isDeclaredBy done statement) = true := by
        intro statement member
        rw [Bool.not_eq_true', ← Bool.not_eq_true, Passage.isDeclaredBy_iff]
        rintro ⟨other, isDeclared⟩
        have spoken := @Passage.IsDeclaredBy.not_isSilent _ _
          (passages.flatMap Passage.text ++ tail) _ _ isDeclared
          (nonempty passage List.mem_cons_self) (by rwa [← split])
        rw [← split] at spoken
        exact spoken (silent statement member)
      have isDeclared := Passage.isDeclaredBy_iff.mpr ⟨specifier, declared⟩
      have others := inductionHypothesis (by rw [split]; simp)
        fun other member => nonempty other (List.mem_cons_of_mem _ member)
      rw [laid?, List.dropWhile_append_of_pos undeclared, List.takeWhile_append_of_pos undeclared,
        List.dropWhile_cons_of_neg (by simp [isDeclared]),
        List.takeWhile_cons_of_neg (by simp [isDeclared]), List.append_nil]
      dsimp only
      rw [if_pos silent, others]
      rfl

end Laid

namespace Layout

variable {parser : ScriptParser} {layout : Layout} {segments : List Segment}
  {last : List Outline}

/-- The outlines of the statements of a script, if a parser reads it as its layout
says. -/
def reading? (parser : ScriptParser) (layout : Layout) : Option (List Segment × List Outline) :=
  match parseScriptBy parser layout.text with
  | .error _ => none
  | .ok program =>
      if program.kind = .program then
        laid? (Source.ofText layout.text) [] layout.passages program.children
      else none

/-- A script is read in one way at most. -/
theorem reading?_eq_some_iff (nonempty : ∀ passage ∈ layout.passages, passage.specifier ≠ []) :
    layout.reading? parser = some (segments, last) ↔ layout.Reads parser segments last := by
  rw [reading?]
  cases parsed : parseScriptBy parser layout.text with
  | error failure =>
      constructor
      · intro computed
        cases computed
      · rintro ⟨program, parsed', _⟩
        cases parsed.symm.trans parsed'
  | ok program =>
      dsimp only
      constructor
      · intro computed
        split at computed
        · rename_i isProgram
          exact ⟨program, parsed, isProgram, laid_of_laid? computed⟩
        · cases computed
      · rintro ⟨program', parsed', isProgram, laid⟩
        cases parsed.symm.trans parsed'
        rw [if_pos isProgram]
        exact laid?_of_laid laid rfl (parseScriptBy_eq_ok_iff.mp parsed).1 nonempty

end Layout

/-! ## Regular parsers -/

instance (passage : Passage) : Decidable passage.IsSpelled :=
  decidable_of_iff
    (passage.opening.startsWith (Respecify.text "import") = true ∧
      passage.closing.getLast?.any declarationEnds.contains = true ∧
      passage.closing.head? = passage.opening.getLast? ∧
      passage.accepts passage.specifier = true ∧ passage.specifier ≠ [])
    ⟨fun ⟨starts, ends, quoted, accepted, nonempty⟩ => ⟨starts, ends, quoted, accepted, nonempty⟩,
      fun spelled => ⟨spelled.starts, spelled.ends, spelled.quoted, spelled.accepted,
        spelled.nonempty⟩⟩

/-- A parser reads all the scripts with statements of the same outlines, and their
declarations are spelled as such. -/
def areReadAlike (parser : ScriptParser) (scripts : List Layout) : Bool :=
  (scripts.all fun layout => layout.passages.all fun passage => passage.IsSpelled) &&
    match scripts.map (Layout.reading? parser) with
    | [] => true
    | first :: others => first.isSome && others.all (· = first)

theorem exists_reads_of_areReadAlike {parser : ScriptParser} {scripts : List Layout}
    (alike : areReadAlike parser scripts = true) :
    (∀ layout ∈ scripts, ∀ passage ∈ layout.passages, passage.IsSpelled) ∧
      ∃ segments last, ∀ layout ∈ scripts, ∀ segments' last',
        layout.Reads parser segments' last' ↔ segments' = segments ∧ last' = last := by
  rw [areReadAlike, Bool.and_eq_true, List.all_eq_true] at alike
  rcases alike with ⟨spelled, same⟩
  have isSpelled : ∀ layout ∈ scripts, ∀ passage ∈ layout.passages, passage.IsSpelled := by
    intro layout member passage passageMember
    exact of_decide_eq_true (List.all_eq_true.mp (spelled layout member) passage passageMember)
  refine ⟨isSpelled, ?_⟩
  cases scripts with
  | nil => exact ⟨[], [], fun _ member => absurd member List.not_mem_nil⟩
  | cons first others =>
      rw [List.map_cons] at same
      dsimp only at same
      rw [Bool.and_eq_true, Option.isSome_iff_exists, List.all_eq_true] at same
      rcases same with ⟨⟨⟨segments, last⟩, reading⟩, alike⟩
      refine ⟨segments, last, fun layout member segments' last' => ?_⟩
      have here : layout.reading? parser = some (segments, last) := by
        rcases List.mem_cons.mp member with rfl | member
        · exact reading
        · exact (of_decide_eq_true (alike _ (List.mem_map_of_mem member))).trans reading
      rw [← Layout.reading?_eq_some_iff fun passage passageMember =>
        (isSpelled layout member passage passageMember).nonempty, here, Option.some_inj,
        Prod.mk.injEq, eq_comm, @eq_comm _ last]

/-- A parser that reads scripts alike treats their imports as the grammar does. -/
theorem Regular.of_areReadAlike {parser : ScriptParser} {scripts : List Layout}
    (alike : areReadAlike parser scripts = true) : Regular parser scripts := by
  rcases exists_reads_of_areReadAlike alike with ⟨spelled, segments, last, reads⟩
  have lengths : ∀ {passages : List Passage} {rest : Text}, ⟨passages, rest⟩ ∈ scripts →
      passages.length = segments.length := by
    intro passages rest member
    rcases (reads _ member segments last).mpr ⟨rfl, rfl⟩ with ⟨program, _, _, laid⟩
    exact laid.length_segments.symm
  exact
    { positions := fun member _ =>
        ⟨⟨segments, last, (reads _ member _ _).mpr ⟨rfl, rfl⟩⟩, spelled _ member⟩
      cut := by
        intro earlier later earlier' later' passage passage' rest rest' ahead behind ahead' behind'
          segment segment' _ _ member member' memberBoth length length' read read'
        rcases (reads _ member _ _).mp read with ⟨same, rfl⟩
        rcases (reads _ member' _ _).mp read' with ⟨same', rfl⟩
        have one := lengths member
        have other := lengths member'
        have both := lengths memberBoth
        simp only [List.length_append, List.length_cons] at one other both
        rcases List.append_inj (same'.trans same.symm) (by omega) with ⟨rfl, sameBehind⟩
        cases sameBehind
        exact (reads _ memberBoth _ _).mpr ⟨same, rfl⟩
      breaks := fun member member' read =>
        (reads _ member' _ _).mpr ((reads _ member _ _).mp read)
      comments := fun _ _ _ memberGap memberBreak _ =>
        (reads _ memberGap _ _).trans (reads _ memberBreak _ _).symm
      traceless := by
        intro _ _ _ _ _ _ _ _ _ _ _ _ _ member member' read read'
        rcases (reads _ member _ _).mp read with ⟨rfl, rfl⟩
        rcases (reads _ member' _ _).mp read' with ⟨rfl, rfl⟩
        exact ⟨rfl, rfl⟩
      strings := fun _ _ _ member member' read =>
        (reads _ member' _ _).mpr ((reads _ member _ _).mp read) }

end Respecify

import Respecify.JavaScript.Lexeme
import Respecify.Proofs.Annotation.Comment
import Respecify.Proofs.Import.Reading

/-!
# What is relied on in a parser

The grammar of scripts is large, and little of it bears on import declarations:
they stand one behind the other among the statements at the top of a script,
line breaks and comments may stand before them, and their specifiers are
strings.  These laws are stated here for any parser and for the scripts at hand,
with the changes of a layout that they allow.
-/

namespace Respecify

open JavaScript

/-- The text can stand between two quotes: with them it is one string. -/
def isBody (quote : Nat) (body : Text) : Bool :=
  body.all isScalar && dropString? ((quote :: body ++ [quote]).map Char.ofNat) == some []

namespace Passage

/-- The text can stand between the quotes of the declaration. -/
def accepts (passage : Passage) (specifier : Text) : Bool :=
  passage.opening.getLast?.any (isBody · specifier)

/-- The declaration is spelled as one: it starts with the word `import`, it ends
with a character that can end it, and its specifier is not empty and stands
between two quotes of one kind. -/
structure IsSpelled (passage : Passage) : Prop where
  starts : passage.opening.startsWith (Respecify.text "import") = true
  ends : passage.closing.getLast?.any declarationEnds.contains = true
  quoted : passage.closing.head? = passage.opening.getLast?
  accepted : passage.accepts passage.specifier = true
  nonempty : passage.specifier ≠ []

variable {passage : Passage}

/-- What stands around the specifier makes a declaration. -/
theorem isDeclaration_of_ends
    (starts : passage.opening.startsWith (Respecify.text "import") = true)
    (ends : passage.closing.getLast?.any declarationEnds.contains = true) :
    isDeclaration passage.declaration = true := by
  have started : passage.declaration.startsWith (Respecify.text "import") = true := by
    have within := Text.startsWith_iff.mp starts
    exact Text.startsWith_iff.mpr (within.trans (by simp [declaration]))
  have ended : passage.declaration.getLast?.any declarationEnds.contains = true := by
    cases last : passage.closing.getLast? with
    | none =>
        rw [last] at ends
        cases ends
    | some c =>
        rw [last] at ends
        rw [declaration, List.getLast?_append, last]
        exact ends
  rw [Respecify.isDeclaration, started, ended]
  rfl

/-- A declaration that is spelled as one starts and ends like one. -/
theorem IsSpelled.isDeclaration (spelled : passage.IsSpelled) :
    isDeclaration passage.declaration = true :=
  isDeclaration_of_ends spelled.starts spelled.ends

end Passage

/-- A parser treats the import declarations of some scripts as the grammar does.  Each
law tells how one of these scripts is read from how others of them are, and says nothing
of any other script.  No law holds of all scripts: what stands before a declaration may
reach into what is put there, as a comment does that nothing closes. -/
structure Regular (parser : ScriptParser) (scripts : List Layout) : Prop where
  /-- Import declarations that are found where the layout has them are in the tree of the
  script with the stretches of text that they and their specifiers cover. -/
  positions : ∀ {layout : Layout}, layout ∈ scripts → layout.IsReadBy parser →
    (∃ segments last, layout.Reads parser segments last) ∧
      ∀ passage ∈ layout.passages, passage.IsSpelled
  /-- Statements are read one after the other: what stands before an import
  declaration has no bearing on how it and the statements behind it are read. -/
  cut : ∀ {earlier later earlier' later' : List Passage} {passage passage' : Passage}
      {rest rest' : Text} {ahead behind ahead' behind' : List Segment} {segment segment' : Segment}
      {last last' : List Outline},
    ⟨earlier ++ passage :: later, rest⟩ ∈ scripts →
    ⟨earlier' ++ passage' :: later', rest'⟩ ∈ scripts →
    ⟨earlier ++ passage'.withBefore passage.before :: later', rest'⟩ ∈ scripts →
    ahead.length = earlier.length → ahead'.length = earlier'.length →
    Layout.Reads parser ⟨earlier ++ passage :: later, rest⟩ (ahead ++ segment :: behind) last →
    Layout.Reads parser ⟨earlier' ++ passage' :: later', rest'⟩
      (ahead' ++ segment' :: behind') last' →
    Layout.Reads parser ⟨earlier ++ passage'.withBefore passage.before :: later', rest'⟩
      (ahead ++ ⟨segment.ahead, segment'.declaration⟩ :: behind') last'
  /-- A line break may stand before an import declaration. -/
  breaks : ∀ {earlier later : List Passage} {passage : Passage} {rest : Text}
      {segments : List Segment} {last : List Outline},
    ⟨earlier ++ passage :: later, rest⟩ ∈ scripts →
    ⟨earlier ++ passage.withBefore (passage.before ++ [lineFeed]) :: later, rest⟩ ∈ scripts →
    Layout.Reads parser ⟨earlier ++ passage :: later, rest⟩ segments last →
    Layout.Reads parser
      ⟨earlier ++ passage.withBefore (passage.before ++ [lineFeed]) :: later, rest⟩ segments last
  /-- If a declaration is read below empty lines or lines of the warning, comments
  on lines of their own and a mere line break are alike in their place: the words
  of the warning make sense in a comment to the end of a line only, so that a line
  break ends whatever holds them. -/
  comments : ∀ {earlier later : List Passage} {passage : Passage} {rest first words gap : Text}
      {segments segments' : List Segment} {last last' : List Outline},
    IsAside words → IsInset gap →
    ⟨earlier ++ passage.withBefore (first ++ words) :: later, rest⟩ ∈ scripts →
    ⟨earlier ++ passage.withBefore (first ++ gap) :: later, rest⟩ ∈ scripts →
    ⟨earlier ++ passage.withBefore (first ++ [lineFeed]) :: later, rest⟩ ∈ scripts →
    Layout.Reads parser ⟨earlier ++ passage.withBefore (first ++ words) :: later, rest⟩
      segments last →
    (Layout.Reads parser ⟨earlier ++ passage.withBefore (first ++ gap) :: later, rest⟩
        segments' last' ↔
      Layout.Reads parser ⟨earlier ++ passage.withBefore (first ++ [lineFeed]) :: later, rest⟩
        segments' last')
  /-- Empty lines and lines of the warning leave no trace in a tree. -/
  traceless : ∀ {earlier later : List Passage} {passage : Passage} {rest first words words' : Text}
      {segments segments' : List Segment} {last last' : List Outline},
    IsAside words → IsAside words' →
    ⟨earlier ++ passage.withBefore (first ++ words) :: later, rest⟩ ∈ scripts →
    ⟨earlier ++ passage.withBefore (first ++ words') :: later, rest⟩ ∈ scripts →
    Layout.Reads parser ⟨earlier ++ passage.withBefore (first ++ words) :: later, rest⟩
      segments last →
    Layout.Reads parser ⟨earlier ++ passage.withBefore (first ++ words') :: later, rest⟩
      segments' last' →
    segments = segments' ∧ last = last'
  /-- Any string may be the specifier of an import declaration. -/
  strings : ∀ {earlier later : List Passage} {passage : Passage} {rest specifier : Text}
      {segments : List Segment} {last : List Outline},
    passage.IsSpelled → passage.accepts specifier = true → specifier ≠ [] →
    ⟨earlier ++ passage :: later, rest⟩ ∈ scripts →
    ⟨earlier ++ passage.withSpecifier specifier :: later, rest⟩ ∈ scripts →
    Layout.Reads parser ⟨earlier ++ passage :: later, rest⟩ segments last →
    Layout.Reads parser ⟨earlier ++ passage.withSpecifier specifier :: later, rest⟩ segments last

/-! ## Changes of many passages -/

namespace Layout

variable {parser : ScriptParser} {passages : List Passage} {rest : Text}
  {segments segments' : List Segment} {last last' : List Outline}

/-- The statements of a layout can be split where its passages are. -/
theorem Reads.exists_split {earlier later : List Passage} {passage : Passage}
    (read : Reads parser ⟨earlier ++ passage :: later, rest⟩ segments last) :
    ∃ ahead segment behind, segments = ahead ++ segment :: behind ∧
      ahead.length = earlier.length := by
  rcases read with ⟨program, _, _, laid⟩
  have lengths := laid.length_segments
  simp only [List.length_append, List.length_cons] at lengths
  refine ⟨segments.take earlier.length, segments[earlier.length],
    segments.drop (earlier.length + 1), ?_, List.length_take_of_le (by omega)⟩
  rw [List.getElem_cons_drop, List.take_append_drop]

/-- A change that can be made in any one passage, behind passages that are changed and
before those that are not, can be made in all of them. -/
theorem reads_map_of_step {change change' : Passage → Passage}
    (step : ∀ earlier passage later, passages = earlier ++ passage :: later →
      Reads parser ⟨earlier.map change' ++ change passage :: later.map change, rest⟩
          segments last →
        Reads parser ⟨earlier.map change' ++ change' passage :: later.map change, rest⟩
          segments last)
    (read : Reads parser ⟨passages.map change, rest⟩ segments last) :
    Reads parser ⟨passages.map change', rest⟩ segments last := by
  have upTo : ∀ behind done, passages = done ++ behind →
      Reads parser ⟨done.map change' ++ behind.map change, rest⟩ segments last →
        Reads parser ⟨passages.map change', rest⟩ segments last := by
    intro behind
    induction behind with
    | nil =>
        intro done split sofar
        rw [List.append_nil] at split
        rwa [List.map_nil, List.append_nil, ← split] at sofar
    | cons passage behind inductionHypothesis =>
        intro done split sofar
        have next := step done passage behind split sofar
        exact inductionHypothesis (done ++ [passage]) (by rw [split]; simp) (by simpa using next)
  exact upTo passages [] rfl read

end Layout

namespace Regular

variable {parser : ScriptParser} {scripts : List Layout} (regular : Regular parser scripts)
  {passages : List Passage} {rest : Text} {segments segments' : List Segment}
  {last last' : List Outline} {before : Passage → Text}

include regular

/-- What may stand before each declaration on its own may stand before all of
them. -/
theorem reads_map_of_each
    (among : ∀ earlier later, passages = earlier ++ later →
      ⟨earlier.map (fun passage => passage.withBefore (before passage)) ++ later, rest⟩ ∈ scripts)
    (amongEach : ∀ earlier passage later, passages = earlier ++ passage :: later →
      ⟨earlier ++ passage.withBefore (before passage) :: later, rest⟩ ∈ scripts)
    (read : Layout.Reads parser ⟨passages, rest⟩ segments last)
    (each : ∀ earlier passage later, passages = earlier ++ passage :: later →
      Layout.Reads parser ⟨earlier ++ passage.withBefore (before passage) :: later, rest⟩
        segments last) :
    Layout.Reads parser ⟨passages.map fun passage => passage.withBefore (before passage), rest⟩
      segments last := by
  -- The passages are changed from the first to the last one.
  have upTo : ∀ done behind, passages = done ++ behind →
      Layout.Reads parser
        ⟨done.map (fun passage => passage.withBefore (before passage)) ++ behind, rest⟩
        segments last := by
    intro done
    induction done using List.reverseRecOn with
    | nil =>
        intro behind split
        rw [List.map_nil, List.nil_append, ← List.nil_append behind, ← split]
        exact read
    | append_singleton done passage inductionHypothesis =>
        intro behind split
        have here := among (done ++ [passage]) behind split
        rw [List.append_assoc, List.singleton_append] at split
        have sofar := inductionHypothesis (passage :: behind) split
        have single := each done passage behind split
        have there := among done (passage :: behind) split
        have alone := amongEach done passage behind split
        rcases List.eq_nil_or_concat done with rfl | ⟨others, neighbour, rfl⟩
        · exact single
        · rw [List.concat_eq_append] at here there alone sofar single ⊢
          simp only [List.map_append, List.map_cons, List.map_nil, List.append_assoc,
            List.singleton_append] at here there alone sofar single ⊢
          rcases sofar.exists_split with ⟨ahead, segment, later, rfl, aheadLength⟩
          exact regular.cut there alone here aheadLength
            (by rw [aheadLength, List.length_map]) sofar single
  have whole := upTo passages [] (List.append_nil _).symm
  rwa [List.append_nil] at whole

/-- What may stand before all declarations may stand before each of them on its
own. -/
theorem exists_reads_of_map
    (original : ⟨passages, rest⟩ ∈ scripts)
    (among : ∀ earlier later, passages = earlier ++ later →
      ⟨earlier.map (fun passage => passage.withBefore (before passage)) ++ later, rest⟩ ∈ scripts)
    (amongEach : ∀ earlier passage later, passages = earlier ++ passage :: later →
      ⟨earlier ++ passage.withBefore (before passage) :: later, rest⟩ ∈ scripts)
    (read : Layout.Reads parser ⟨passages, rest⟩ segments last)
    (all : Layout.Reads parser
      ⟨passages.map fun passage => passage.withBefore (before passage), rest⟩ segments' last') :
    ∀ earlier passage later, passages = earlier ++ passage :: later →
      ∃ segments'', Layout.Reads parser
        ⟨earlier ++ passage.withBefore (before passage) :: later, rest⟩ segments'' last := by
  intro earlier passage later split
  have whole := among passages [] (List.append_nil _).symm
  have upTo := among (earlier ++ [passage]) later (by rw [split]; simp)
  have alone := amongEach earlier passage later split
  subst split
  simp only [List.append_nil, List.map_append, List.map_cons, List.map_nil, List.append_assoc,
    List.singleton_append] at whole upTo all
  rcases read.exists_split with ⟨ahead, segment, behind, rfl, aheadLength⟩
  rcases all.exists_split with ⟨ahead', segment', behind', rfl, aheadLength'⟩
  -- First the old text comes back behind the declaration, then before it.
  have back := regular.cut whole original upTo aheadLength' aheadLength all read
  rcases List.eq_nil_or_concat earlier with rfl | ⟨others, neighbour, rfl⟩
  · exact ⟨_, back⟩
  · rw [List.concat_eq_append] at original upTo alone back read ⊢
    simp only [List.map_append, List.map_cons, List.map_nil, List.append_assoc,
      List.singleton_append] at original upTo alone back read ⊢
    rcases read.exists_split with ⟨first, own, second, readSplit, firstLength⟩
    rcases back.exists_split with ⟨first', own', second', backSplit, firstLength'⟩
    rw [readSplit] at read
    rw [backSplit] at back
    have kept := regular.cut original upTo alone firstLength firstLength' read back
    exact ⟨_, kept⟩

end Regular

end Respecify

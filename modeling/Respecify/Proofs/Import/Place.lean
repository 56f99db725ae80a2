import Respecify.Proofs.Import.Reading
import Respecify.Proofs.Text.Offset

/-!
# Where the imports of a script stand

Trees count bytes, and sites count characters.  If the nodes of a tree cover
whole characters, each inside its parent and behind its neighbours, then the
site of an import stands on the characters that its nodes cover: one quote off
the string of the specifier on either side, and the whole declaration.
-/

namespace Respecify

open JavaScript

/-! ## Trees in their places -/

/-- The text stands between two quotes of one kind. -/
def isQuoted (source : Text) : Bool :=
  [0x22, 0x27].any fun quote =>
    2 ≤ source.length && source.head? == some quote && source.getLast? == some quote

/-- The character at the start of a quoted stretch of a text is the one at its end. -/
theorem exists_quote_of_isQuoted {source : Text} {range : TextRange}
    (inside : range.stop ≤ source.length) (quoted : isQuoted (range.slice source) = true) :
    ∃ quote ∈ [0x22, 0x27], range.start + 2 ≤ range.stop ∧ source[range.start]? = some quote ∧
      source[range.stop - 1]? = some quote := by
  rw [isQuoted, List.any_eq_true] at quoted
  rcases quoted with ⟨quote, member, ends⟩
  rw [Bool.and_eq_true, Bool.and_eq_true, decide_eq_true_eq, beq_iff_eq, beq_iff_eq,
    TextRange.slice, Text.length_slice source _ inside] at ends
  rcases ends with ⟨⟨long, first⟩, last⟩
  refine ⟨quote, member, by omega, ?_, ?_⟩
  · rw [Text.slice, List.head?_drop, List.getElem?_take_of_lt (by omega)] at first
    exact first
  · have index : range.start + (range.stop - range.start - 1) = range.stop - 1 := by omega
    rw [List.getLast?_eq_getElem?, Text.length_slice source _ inside, Text.slice,
      List.getElem?_drop, index, List.getElem?_take_of_lt (by omega)] at last
    exact last

namespace JavaScript

/-- The number of the character that starts at a byte of the text. -/
def characterAt? (source : Text) (offset : Nat) : Option Nat :=
  (List.range (source.length + 1)).find? fun count => Utf8.offsetOf source count == offset

namespace Tree

/-- The characters that a node covers, if it starts and stops between two of them. -/
def text? (source : Text) (tree : Tree) : Option Text :=
  (characterAt? source tree.span.start).bind fun start =>
    (characterAt? source tree.span.stop).bind fun stop =>
      if start ≤ stop then some (source.slice start stop) else none

/-- A node is written as its kind asks: a string between its quotes, and an import
declaration with its first word and with a string for its specifier. -/
def isWritten (tree : Tree) (written : Text) : Bool :=
  match tree.kind with
  | .string => isQuoted written
  | .importStatement =>
      written.startsWith (text "import") && (tree.child? .source).all (·.kind = .string)
  | _ => true

/-- The nodes directly below a node lie inside it, one behind the other. -/
def isOrdered (tree : Tree) : Bool :=
  (tree.children.all fun child =>
      tree.span.start ≤ child.span.start && child.span.stop ≤ tree.span.stop) &&
    decide (tree.children.Pairwise fun earlier later => earlier.span.stop ≤ later.span.start)

mutual

/-- Every node of the tree covers characters, written as its kind asks, and the nodes
below it lie inside it, one behind the other. -/
def isPlaced (source : Text) : Tree → Bool
  | .node kind role span children =>
      ((Tree.node kind role span children).text? source).any
          (Tree.node kind role span children).isWritten &&
        (Tree.node kind role span children).isOrdered && arePlaced source children

/-- So it is with every node of the trees. -/
def arePlaced (source : Text) : List Tree → Bool
  | [] => true
  | tree :: others => isPlaced source tree && arePlaced source others

end

/-- The node covers the characters of a range. -/
structure Covers (source : Text) (tree : Tree) (range : TextRange) : Prop where
  inside : range.stop ≤ source.length
  start_eq : tree.span.start = Utf8.offsetOf source range.start
  stop_eq : tree.span.stop = Utf8.offsetOf source range.stop

variable {source : Text} {tree child : Tree}

theorem exists_of_characterAt? {offset count : Nat} (found : characterAt? source offset = some count) :
    count ≤ source.length ∧ offset = Utf8.offsetOf source count := by
  have member := List.mem_of_find?_eq_some found
  have same := List.find?_some found
  exact ⟨Nat.lt_succ_iff.mp (List.mem_range.mp member), (beq_iff_eq.mp same).symm⟩

/-- A placed tree covers characters that are written as its kind asks. -/
theorem exists_covers (placed : tree.isPlaced source = true) :
    ∃ range, tree.Covers source range ∧ tree.isWritten (range.slice source) = true := by
  rcases tree with ⟨kind, role, span, children⟩
  rw [isPlaced, Bool.and_eq_true, Bool.and_eq_true, Option.any_eq_true] at placed
  rcases placed.1.1 with ⟨written, covered, asked⟩
  rcases Option.bind_eq_some_iff.mp covered with ⟨start, startAt, covered⟩
  rcases Option.bind_eq_some_iff.mp covered with ⟨stop, stopAt, covered⟩
  split at covered
  · rename_i ordered
    cases covered
    rcases exists_of_characterAt? startAt with ⟨_, startEq⟩
    rcases exists_of_characterAt? stopAt with ⟨inside, stopEq⟩
    exact ⟨⟨start, stop, ordered⟩, ⟨inside, startEq, stopEq⟩, asked⟩
  · cases covered

theorem isOrdered_of_isPlaced (placed : tree.isPlaced source = true) : tree.isOrdered = true := by
  rcases tree with ⟨kind, role, span, children⟩
  rw [isPlaced, Bool.and_eq_true, Bool.and_eq_true] at placed
  exact placed.1.2

theorem span_inside (ordered : tree.isOrdered = true) (member : child ∈ tree.children) :
    tree.span.start ≤ child.span.start ∧ child.span.stop ≤ tree.span.stop := by
  rw [isOrdered, Bool.and_eq_true, List.all_eq_true] at ordered
  simpa using ordered.1 child member

/-- An import declaration starts with its first word, and its specifier is a string. -/
theorem isWritten_of_isImport {written : Text} (isImport : tree.kind = .importStatement)
    (asked : tree.isWritten written = true) :
    written.startsWith (Respecify.text "import") = true ∧
      ∀ specifier, tree.child? .source = some specifier → specifier.kind = .string := by
  rw [isWritten, isImport] at asked
  simpa [Option.all_eq_true] using asked

theorem isPlaced_of_mem (placed : tree.isPlaced source = true) (member : child ∈ tree.children) :
    child.isPlaced source = true := by
  rcases tree with ⟨kind, role, span, children⟩
  rw [isPlaced, Bool.and_eq_true] at placed
  have each := placed.2
  change child ∈ children at member
  clear placed
  induction children with
  | nil => cases member
  | cons first others inductionHypothesis =>
      rw [arePlaced, Bool.and_eq_true] at each
      rcases List.mem_cons.mp member with rfl | member
      · exact each.1
      · exact inductionHypothesis each.2 member

end Tree

end JavaScript

/-! ## Sites on their characters -/

/-- The site stands on the characters of a declaration: its specifier is what stands
between two quotes of one kind inside the declaration. -/
structure ImportSite.IsExact (source : Text) (site : ImportSite) : Prop where
  inside : site.statementRange.stop ≤ source.length
  nonempty : site.specifierRange.start < site.specifierRange.stop
  contained : site.statementRange.contains site.specifierRange = true
  sliced : site.specifierRange.slice source = site.specifier
  quoted : ∃ quote ∈ [0x22, 0x27], 0 < site.specifierRange.start ∧
    source[site.specifierRange.start - 1]? = some quote ∧
      source[site.specifierRange.stop]? = some quote
  started : (site.statementRange.slice source).startsWith (text "import") = true
  line_eq : site.line = (source.take site.statementRange.start).count lineFeed + 1

variable {source : Text}

/-- A byte at which a character starts lies on the line of the character. -/
theorem lineOf_offsetOf (count : Nat) :
    (Source.ofText source).lineOf (Utf8.offsetOf source count) =
      (source.take count).count lineFeed + 1 := by
  have whole : Utf8.encode source =
      Utf8.encode (source.take count) ++ Utf8.encode (source.drop count) := by
    rw [← Utf8.encode_append, List.take_append_drop]
  rw [Source.lineOf, Source.ofText, whole, Utf8.offsetOf, List.take_left,
    Utf8.count_lineFeed_encode]

namespace JavaScript.Tree

variable {statement specifier : Tree} {range specifierRange : TextRange}

/-- A node below another one covers characters inside it. -/
theorem Covers.contains (covers : statement.Covers source range)
    (below : specifier.Covers source specifierRange)
    (inside : statement.span.start ≤ specifier.span.start ∧
      specifier.span.stop ≤ statement.span.stop) :
    range.start ≤ specifierRange.start ∧ specifierRange.stop ≤ range.stop := by
  have first := range.start_le_stop.trans covers.inside
  have second := specifierRange.start_le_stop.trans below.inside
  rw [covers.start_eq, below.start_eq, covers.stop_eq, below.stop_eq,
    Utf8.offsetOf_le_offsetOf_iff first second,
    Utf8.offsetOf_le_offsetOf_iff below.inside covers.inside] at inside
  exact inside

/-- A node behind another one covers characters behind it. -/
theorem Covers.stop_le_start {later : Tree} {laterRange : TextRange}
    (covers : statement.Covers source range) (behind : later.Covers source laterRange)
    (ordered : statement.span.stop ≤ later.span.start) : range.stop ≤ laterRange.start := by
  have inside := laterRange.start_le_stop.trans behind.inside
  rwa [covers.stop_eq, behind.start_eq,
    Utf8.offsetOf_le_offsetOf_iff covers.inside inside] at ordered

/-- The bytes between the quotes of a string start and stop between two characters. -/
theorem Covers.between_quotes {quote : Nat} (covers : specifier.Covers source range)
    (isQuote : quote ∈ [0x22, 0x27]) (long : range.start + 2 ≤ range.stop)
    (first : source[range.start]? = some quote) (last : source[range.stop - 1]? = some quote) :
    specifier.span.start + 1 = Utf8.offsetOf source (range.start + 1) ∧
      specifier.span.stop - 1 = Utf8.offsetOf source (range.stop - 1) := by
  have single : quote < 0x80 := by
    simp only [List.mem_cons, List.not_mem_nil, or_false] at isQuote
    omega
  have startEq := Utf8.offsetOf_succ first single
  have stopEq := Utf8.offsetOf_succ last single
  rw [Nat.sub_add_cancel (by omega)] at stopEq
  rw [covers.start_eq, covers.stop_eq, startEq, stopEq]
  exact ⟨rfl, rfl⟩

end JavaScript.Tree

/-- The specifier of a placed declaration is a string, whose quotes stand inside the
declaration. -/
theorem exists_quotes_of_isPlaced {statement specifier : Tree} {range : TextRange}
    (placed : statement.isPlaced source = true) (covers : statement.Covers source range)
    (asked : statement.isWritten (range.slice source) = true)
    (isImport : statement.kind = .importStatement)
    (found : statement.child? .source = some specifier) :
    ∃ first last, first ≤ last ∧ range.start ≤ first ∧ last < range.stop ∧
      specifier.span.start + 1 = Utf8.offsetOf source (first + 1) ∧
      specifier.span.stop - 1 = Utf8.offsetOf source last ∧
      ∃ quote ∈ [0x22, 0x27], source[first]? = some quote ∧ source[last]? = some quote := by
  have member : specifier ∈ statement.children := List.mem_of_find?_eq_some found
  have isString := (Tree.isWritten_of_isImport isImport asked).2 specifier found
  rcases Tree.exists_covers (Tree.isPlaced_of_mem placed member) with
    ⟨specifierRange, below, written⟩
  rw [Tree.isWritten, isString] at written
  rcases exists_quote_of_isQuoted below.inside written with ⟨quote, isQuote, long, opens, closes⟩
  rcases below.between_quotes isQuote long opens closes with ⟨startEq, stopEq⟩
  rcases covers.contains below (Tree.span_inside (Tree.isOrdered_of_isPlaced placed) member) with
    ⟨startInside, stopInside⟩
  exact ⟨specifierRange.start, specifierRange.stop - 1, by omega, startInside, by omega, startEq,
    stopEq, quote, isQuote, opens, closes⟩

/-- The import of a placed declaration has a site on its characters, unless it names
nothing or a machine word cannot tell the length of what it names. -/
theorem siteOf?_of_isPlaced (scalar : ∀ c ∈ source, isScalar c = true) {statement : Tree}
    (placed : statement.isPlaced source = true) (isImport : statement.kind = .importStatement) :
    ∃ range, statement.Covers source range ∧
      (siteOf? (Source.ofText source) (ByteIndex.ofText source) statement = .ok none ∨
        (∃ site, siteOf? (Source.ofText source) (ByteIndex.ofText source) statement =
            .ok (some site) ∧ site.statementRange = range ∧ site.IsExact source) ∨
        siteOf? (Source.ofText source) (ByteIndex.ofText source) statement =
            .error (.site .overlong) ∧ TextRange.greatestLength < source.length) := by
  rcases Tree.exists_covers placed with ⟨range, covers, asked⟩
  refine ⟨range, covers, ?_⟩
  cases found : statement.child? .source with
  | none =>
      refine Or.inl ?_
      unfold siteOf?
      rw [found]
  | some specifier =>
      rcases exists_quotes_of_isPlaced placed covers asked isImport found with
        ⟨first, last, ordered, firstInside, lastInside, startEq, stopEq, quote, isQuote, opens,
          closes⟩
      have rangeInside := covers.inside
      have fromAt := charactersBefore_offsetOf scalar (first + 1) (by omega)
      have toAt := charactersBefore_offsetOf scalar last (by omega)
      rw [← startEq] at fromAt
      rw [← stopEq] at toAt
      by_cases empty : last ≤ first + 1
      · exact Or.inl (siteOf?_eq_none found (fromAt ▸ toAt ▸ empty))
      have startAt := charactersBefore_offsetOf scalar range.start
        (range.start_le_stop.trans covers.inside)
      have stopAt := charactersBefore_offsetOf scalar range.stop covers.inside
      rw [← covers.start_eq] at startAt
      rw [← covers.stop_eq] at stopAt
      -- What stands on the characters is a site as it is, so its check lets it pass.
      let specifierRange : TextRange := ⟨first + 1, last, by omega⟩
      let site : ImportSite :=
        { specifier := specifierRange.slice source
          specifierRange
          statementRange := range
          line := (Source.ofText source).lineOf statement.span.start
          specifier_nonempty := by
            change first + 1 < last
            omega
          specifier_inside := by
            rw [TextRange.contains, Bool.and_eq_true, decide_eq_true_eq, decide_eq_true_eq]
            change range.start ≤ first + 1 ∧ last ≤ range.stop
            omega }
      have exact : site.IsExact source :=
        { inside := covers.inside
          nonempty := site.specifier_nonempty
          contained := site.specifier_inside
          sliced := rfl
          quoted := ⟨quote, isQuote, Nat.succ_pos first, opens, closes⟩
          started := (Tree.isWritten_of_isImport isImport asked).1
          line_eq := by
            change (((Source.ofText source).lineOf statement.span.start : Nat) : Int) = _
            rw [covers.start_eq, lineOf_offsetOf]
            rfl }
      rw [siteOf?_eq_of_offsets site found startAt stopAt fromAt toAt rfl rfl]
      by_cases long : TextRange.greatestLength < site.specifierRange.length
      · have lengthEq : site.specifierRange.length = last - (first + 1) := rfl
        rw [if_pos long]
        exact Or.inr (Or.inr ⟨rfl, by omega⟩)
      · rw [if_neg long]
        exact Or.inr (Or.inl ⟨site, rfl, rfl, exact⟩)

/-- The imports of placed declarations, one behind the other, have sites one behind the
other on their characters. -/
theorem mapM_siteOf?_of_isPlaced (scalar : ∀ c ∈ source, isScalar c = true)
    {statements : List Tree}
    (each : ∀ statement ∈ statements,
      statement.isPlaced source = true ∧ statement.kind = .importStatement)
    (apart : statements.Pairwise fun earlier later => earlier.span.stop ≤ later.span.start) :
    (∃ options, statements.mapM (siteOf? (Source.ofText source) (ByteIndex.ofText source)) =
        .ok options ∧
      ((options.filterMap id).Pairwise fun earlier later =>
        earlier.statementRange.stop ≤ later.statementRange.start) ∧
      ∀ site ∈ options.filterMap id, site.IsExact source ∧
        ∃ statement ∈ statements, statement.Covers source site.statementRange) ∨
    statements.mapM (siteOf? (Source.ofText source) (ByteIndex.ofText source)) =
        .error (.site .overlong) ∧ TextRange.greatestLength < source.length := by
  induction statements with
  | nil => exact Or.inl ⟨[], rfl, List.Pairwise.nil, fun _ member => absurd member List.not_mem_nil⟩
  | cons statement statements inductionHypothesis =>
      rw [List.pairwise_cons] at apart
      have own := each statement List.mem_cons_self
      have others := inductionHypothesis
        (fun other member => each other (List.mem_cons_of_mem _ member)) apart.2
      rcases siteOf?_of_isPlaced scalar own.1 own.2 with ⟨range, covers, answer⟩
      rw [List.mapM_cons]
      rcases others with ⟨options, answers, ordered, told⟩ | ⟨overlong, long⟩
      case inr =>
        refine Or.inr ⟨?_, long⟩
        rcases answer with given | ⟨_, given, _⟩ | ⟨given, _⟩ <;> rw [given, overlong] <;> rfl
      have behind : ∀ site ∈ options.filterMap id, site.IsExact source ∧
          ∃ other ∈ statement :: statements, other.Covers source site.statementRange := by
        intro site member
        rcases told site member with ⟨exact, other, otherMember, there⟩
        exact ⟨exact, other, List.mem_cons_of_mem _ otherMember, there⟩
      rcases answer with empty | ⟨site, found, rfl, exact⟩ | ⟨overlong, long⟩
      · rw [empty, answers]
        exact Or.inl ⟨none :: options, rfl, ordered, behind⟩
      · rw [found, answers]
        have sites : (some site :: options).filterMap id = site :: options.filterMap id := rfl
        refine Or.inl ⟨some site :: options, rfl, ?_⟩
        rw [sites, List.pairwise_cons, List.forall_mem_cons]
        refine ⟨⟨fun later member => ?_, ordered⟩,
          ⟨exact, statement, List.mem_cons_self, covers⟩, behind⟩
        rcases told later member with ⟨_, other, otherMember, there⟩
        exact covers.stop_le_start there (apart.1 other otherMember)
      · rw [overlong]
        exact Or.inr ⟨rfl, long⟩

/-- Where a parser gives a tree of module code whose nodes stand in their places, the
survey of the script gives sites in source order, none inside another one, each on
the characters of its declaration, unless the text is longer than a machine word can
tell. -/
theorem surveyBy_of_isPlaced {parser : ScriptParser} {program : Tree}
    (parsed : parseScriptBy parser source = .ok program)
    (checked : checkModule (Source.ofText source) program = .ok ())
    (placed : program.isPlaced source = true) :
    (∃ sites, surveyBy parser source = .ok sites ∧
      (sites.Pairwise fun earlier later =>
        earlier.statementRange.stop ≤ later.statementRange.start) ∧
      ∀ site ∈ sites, site.IsExact source) ∨
    surveyBy parser source = .error (.site .overlong) ∧
      TextRange.greatestLength < source.length := by
  have each : ∀ statement ∈ program.imports,
      statement.isPlaced source = true ∧ statement.kind = .importStatement := by
    intro statement member
    rcases List.mem_filter.mp member with ⟨isChild, isImport⟩
    exact ⟨Tree.isPlaced_of_mem placed isChild, of_decide_eq_true isImport⟩
  have apart : program.imports.Pairwise fun earlier later =>
      earlier.span.stop ≤ later.span.start := by
    have ordered := Tree.isOrdered_of_isPlaced placed
    rw [Tree.isOrdered, Bool.and_eq_true, decide_eq_true_eq] at ordered
    exact ordered.2.sublist List.filter_sublist
  have surveyed : surveyBy parser source = sitesOf (Source.ofText source) program := by
    rw [surveyBy, parsed]
    dsimp only
    rw [surveyTree, checked]
  rw [surveyed, sitesOf]
  rcases mapM_siteOf?_of_isPlaced (parseScriptBy_eq_ok_iff.mp parsed).1 each apart with
    ⟨options, answers, ordered, told⟩ | ⟨overlong, long⟩
  · refine Or.inl ⟨options.filterMap id, ?_, ordered, fun site member => (told site member).1⟩
    change (program.imports.mapM
      (siteOf? (Source.ofText source) (ByteIndex.ofText source)) >>= _) = _
    rw [answers]
    rfl
  · refine Or.inr ⟨?_, long⟩
    change (program.imports.mapM
      (siteOf? (Source.ofText source) (ByteIndex.ofText source)) >>= _) = _
    rw [overlong]
    rfl

/-- Two imports on one line, behind and among characters of two, three and four
bytes. -/
theorem surveyBy_of_isPlaced_wide :
    let source := text "// é€𝄞\nimport ü from './𝄞.js'; import \"é\";\n"
    ∃ sites, surveyBy parse? source = .ok sites ∧
      sites.map ImportSite.specifier = [text "./𝄞.js", text "é"] ∧
      ∀ site ∈ sites, site.IsExact source := by
  intro source
  have specifiers : (surveyBy parse? source).toOption.map
      (fun sites => sites.map ImportSite.specifier) = some [text "./𝄞.js", text "é"] := by
    decide +kernel
  have fit : ((parseScriptBy parse? source).toOption.any fun program =>
      program.isPlaced source && (checkModule (Source.ofText source) program).isOk) = true := by
    decide +kernel
  cases parsed : parseScriptBy parse? source with
  | error failure =>
      rw [parsed] at fit
      cases fit
  | ok program =>
      rw [parsed] at fit
      rcases Bool.and_eq_true_iff.mp fit with ⟨placed, isModule⟩
      have checked : checkModule (Source.ofText source) program = .ok () := by
        cases given : checkModule (Source.ofText source) program with
        | error failure =>
            rw [given] at isModule
            cases isModule
        | ok _ => rfl
      rcases surveyBy_of_isPlaced parsed checked placed with
        ⟨sites, surveyed, _, exact⟩ | ⟨overlong, long⟩
      · rw [surveyed] at specifiers
        exact ⟨sites, surveyed, Option.some.inj specifiers, exact⟩
      · rw [overlong] at specifiers
        cases specifiers

/-! ## Scripts that are drawn as the grammar draws them -/

namespace JavaScript.Tree

variable {statement : Tree} {range : TextRange}

/-- Every node of the tree stands in its place, and the import declarations directly
below its root end like declarations. -/
def isDrawn (source : Text) (program : Tree) : Bool :=
  program.isPlaced source &&
    program.imports.all fun statement => (statement.text? source).any isDeclaration

/-- The characters that a node covers are those of its range. -/
theorem Covers.text?_eq {written : Text} (covers : statement.Covers source range)
    (told : statement.text? source = some written) : written = range.slice source := by
  have unique : ∀ {one other : Nat}, one ≤ source.length → other ≤ source.length →
      Utf8.offsetOf source one = Utf8.offsetOf source other → one = other := by
    intro one other inside inside' same
    exact ((Utf8.offsetOf_le_offsetOf_iff inside inside').mp same.le).antisymm
      ((Utf8.offsetOf_le_offsetOf_iff inside' inside).mp same.ge)
  rcases Option.bind_eq_some_iff.mp told with ⟨start, startAt, told⟩
  rcases Option.bind_eq_some_iff.mp told with ⟨stop, stopAt, told⟩
  rcases exists_of_characterAt? startAt with ⟨startInside, startEq⟩
  rcases exists_of_characterAt? stopAt with ⟨stopInside, stopEq⟩
  split at told
  · cases told
    rw [unique startInside (range.start_le_stop.trans covers.inside)
        (startEq.symm.trans covers.start_eq),
      unique stopInside covers.inside (stopEq.symm.trans covers.stop_eq)]
    rfl
  · cases told

end JavaScript.Tree

/-- A parser gives no tree of the text but one that is drawn so. -/
def isDrawnBy (parser : ScriptParser) (source : Text) : Bool :=
  (parseScriptBy parser source).toOption.all (Tree.isDrawn source)

/-- The survey of a script whose tree is drawn so fails because the script is no module,
or gives sites in source order. -/
theorem exists_orderly_of_isDrawnBy {parser : ScriptParser}
    (drawn : isDrawnBy parser source = true)
    (short : source.length ≤ TextRange.greatestLength) :
    (∃ failure, surveyBy parser source = .error (.parse failure)) ∨
      ∃ sites, surveyBy parser source = .ok sites ∧ Orderly source sites := by
  unfold surveyBy surveyTree
  unfold isDrawnBy at drawn
  cases parsed : parseScriptBy parser source with
  | error failure => exact Or.inl ⟨failure, rfl⟩
  | ok program =>
      rw [parsed, Except.toOption, Option.all_some] at drawn
      dsimp only
      cases checkModule (Source.ofText source) program with
      | error failure => exact Or.inl ⟨failure, rfl⟩
      | ok _ =>
          rw [Tree.isDrawn, Bool.and_eq_true, List.all_eq_true] at drawn
          rcases drawn with ⟨placed, declared⟩
          have each : ∀ statement ∈ program.imports,
              statement.isPlaced source = true ∧ statement.kind = .importStatement := by
            intro statement member
            rcases List.mem_filter.mp member with ⟨isChild, isImport⟩
            exact ⟨Tree.isPlaced_of_mem placed isChild, of_decide_eq_true isImport⟩
          have ordered := Tree.isOrdered_of_isPlaced placed
          rw [Tree.isOrdered, Bool.and_eq_true, decide_eq_true_eq] at ordered
          rcases mapM_siteOf?_of_isPlaced (parseScriptBy_eq_ok_iff.mp parsed).1 each
              (ordered.2.sublist List.filter_sublist) with
            ⟨options, answers, apart, told⟩ | ⟨_, long⟩
          · refine Or.inr ⟨options.filterMap id, ?_, apart,
              fun site member => (told site member).1.inside, fun site member => ?_⟩
            · change sitesOf (Source.ofText source) program = _
              rw [sitesOf_eq]
              exact congrArg (Except.map _) answers
            · rcases told site member with ⟨_, statement, isImport, covers⟩
              have ends := declared statement isImport
              rw [Option.any_eq_true] at ends
              rcases ends with ⟨written, given, isDeclared⟩
              rwa [← covers.text?_eq given]
          · omega

end Respecify

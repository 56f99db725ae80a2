import Respecify.Proofs.Annotation.Comment
import Respecify.Proofs.Text.Replace
import Respecify.Proofs.Text.Slice

/-!
# What a banner keeps

To a reader of comments a banner is a line comment, one block comment and another line
comment, and it ends where its last line ends, whatever statement it keeps.  The
statement is read back by taking away what the banner put in.  That fails only for a
statement which already held what the banner writes for the end of a comment, since
nobody can tell afterwards which of the two was meant.
-/

namespace Respecify

theorem Banner.commentEnd_eq : commentEnd = [0x2A, 0x2F] :=
  rfl

theorem Banner.escapedEnd_eq : escapedEnd = [0x2A, 0x5C, 0x2F] :=
  rfl

/-! ## Reading comments -/

/-- A piece of what may stand between two tokens.  Only a line feed ends a line. -/
inductive Trivium where
  | lineEnd
  | lineComment (words : Text)
  | blockComment (words : Text)
deriving DecidableEq, Repr

/-- The rest of a block comment, through its end, and what stands behind it; the flag
tells whether the last character read was a star. -/
def throughEnd? : Bool → Text → Option (Text × Text)
  | _, [] => none
  | star, c :: rest =>
      if star && c == 0x2F then some ([c], rest)
      else (throughEnd? (c == 0x2A) rest).map fun (words, behind) => (c :: words, behind)

/-- The piece that comes first, and what stands behind it.  A line comment goes up to the
end of its line, and a block comment through the first star with a slash behind it. -/
def readTrivium? : Text → Option (Trivium × Text)
  | 0x0A :: rest => some (.lineEnd, rest)
  | 0x2F :: 0x2F :: rest =>
      some (.lineComment (0x2F :: 0x2F :: rest.takeWhile (· != lineFeed)),
        rest.dropWhile (· != lineFeed))
  | 0x2F :: 0x2A :: rest =>
      (throughEnd? false rest).map fun (words, behind) =>
        (.blockComment (0x2F :: 0x2A :: words), behind)
  | _ => none

/-- So many pieces, and what stands behind them. -/
def readTrivia? : Nat → Text → Option (List Trivium × Text)
  | 0, source => some ([], source)
  | count + 1, source => do
      let (piece, rest) ← readTrivium? source
      let (pieces, behind) ← readTrivia? count rest
      return (piece :: pieces, behind)

theorem readTrivia?_succ {source rest behind : Text} {piece : Trivium} {count : Nat}
    {pieces : List Trivium} (first : readTrivium? source = some (piece, rest))
    (others : readTrivia? count rest = some (pieces, behind)) :
    readTrivia? (count + 1) source = some (piece :: pieces, behind) := by
  simp [readTrivia?, first, others]

theorem readTrivium?_lineEnd (rest : Text) :
    readTrivium? ([lineFeed] ++ rest) = some (.lineEnd, rest) :=
  rfl

/-- A line comment is read up to the line feed behind it. -/
theorem readTrivium?_lineComment {words rest : Text} (plain : lineFeed ∉ words) :
    readTrivium? (text "//" ++ words ++ ([lineFeed] ++ rest)) =
      some (.lineComment (text "//" ++ words), [lineFeed] ++ rest) := by
  have start : text "//" = [0x2F, 0x2F] := rfl
  have within : ∀ c ∈ words, (c != lineFeed) = true := by
    intro c member
    rw [bne_iff_ne]
    rintro rfl
    exact plain member
  simp [start, readTrivium?, List.takeWhile_append_of_pos within,
    List.dropWhile_append_of_pos within]

theorem throughEnd?_append {star : Bool} {inner : Text}
    (still : endsComment star inner = false) (rest : Text) :
    throughEnd? star (inner ++ Banner.commentEnd ++ rest) =
      some (inner ++ Banner.commentEnd, rest) := by
  induction inner generalizing star with
  | nil => simp [Banner.commentEnd_eq, throughEnd?]
  | cons c inner inductionHypothesis =>
      rw [endsComment, Bool.or_eq_false_iff] at still
      rw [List.cons_append, List.cons_append, throughEnd?, still.1,
        inductionHypothesis still.2]
      rfl

/-- A block comment is read through its end, and nothing before that ends it. -/
theorem readTrivium?_blockComment {inner : Text} (still : endsComment false inner = false)
    (rest : Text) :
    readTrivium? (text "/*" ++ (inner ++ Banner.commentEnd) ++ rest) =
      some (.blockComment (text "/*" ++ (inner ++ Banner.commentEnd)), rest) := by
  have start : text "/*" = [0x2F, 0x2A] := rfl
  rw [start]
  simp only [List.cons_append, List.nil_append, readTrivium?]
  rw [throughEnd?_append still]
  rfl

/-! ## The one end of a comment -/

/-- Without a star before it, a text ends a comment no sooner than with one. -/
theorem endsComment_false_of {star : Bool} {source : Text}
    (still : endsComment star source = false) : endsComment false source = false := by
  cases source with
  | nil => rfl
  | cons c rest =>
      rw [endsComment, Bool.or_eq_false_iff] at still
      rw [endsComment, still.2]
      rfl

theorem endsComment_commentEnd_append {star : Bool} (before behind : Text) :
    endsComment star (before ++ Banner.commentEnd ++ behind) = true := by
  induction before generalizing star with
  | nil => simp [Banner.commentEnd_eq, endsComment]
  | cons c before inductionHypothesis =>
      rw [List.cons_append, List.cons_append, endsComment, inductionHypothesis, Bool.or_true]

/-- Between two texts that end no comment, the end of a comment stands where it was put
and nowhere else. -/
theorem append_commentEnd_inj {first second before behind : Text}
    (still : endsComment false first = false) (stillBehind : endsComment false second = false) :
    first ++ Banner.commentEnd ++ second = before ++ Banner.commentEnd ++ behind ↔
      first = before ∧ second = behind := by
  constructor
  · intro whole
    induction first generalizing before with
    | nil =>
        match before with
        | [] => exact ⟨rfl, List.append_cancel_left whole⟩
        | [c] =>
            rw [Banner.commentEnd_eq] at whole
            cases whole
        | c :: d :: before =>
            rw [Banner.commentEnd_eq] at whole
            have inside : second = before ++ [0x2A, 0x2F] ++ behind :=
              (List.cons.inj (List.cons.inj whole).2).2
            rw [inside, ← Banner.commentEnd_eq, endsComment_commentEnd_append] at stillBehind
            cases stillBehind
    | cons c first inductionHypothesis =>
        cases before with
        | nil =>
            rw [Banner.commentEnd_eq] at whole
            obtain ⟨rfl, others⟩ := List.cons.inj whole
            -- The star is the last character of the first text, or a slash follows it there.
            cases first with
            | nil => cases others
            | cons d first =>
                obtain ⟨rfl, _⟩ := List.cons.inj others
                cases still
        | cons d before =>
            obtain ⟨rfl, others⟩ := List.cons.inj whole
            rw [endsComment, Bool.or_eq_false_iff] at still
            have same := inductionHypothesis (endsComment_false_of still.2) others
            exact ⟨congrArg (c :: ·) same.1, same.2⟩
  · rintro ⟨rfl, rfl⟩
    rfl

namespace Banner

/-! ## Reading a banner -/

/-- The words of the line that opens a banner, behind the two slashes. -/
theorem exists_opening : ∃ words, lineFeed ∉ words ∧ opening = text "//" ++ words :=
  ⟨opening.drop 2, by decide, by decide⟩

/-- The words of the line that closes a banner, behind the two slashes. -/
theorem exists_closing : ∃ words, lineFeed ∉ words ∧ closing = text "//" ++ words :=
  ⟨closing.drop 2, by decide, by decide⟩

/-- The lines of a banner, one behind the other. -/
theorem block_append (statement rest : Text) :
    block statement ++ rest =
      [lineFeed] ++ (opening ++ ([lineFeed] ++ (comment statement ++ ([lineFeed] ++
        (closing ++ ([lineFeed] ++ rest)))))) := by
  simp [block, comment]

/-- A reader goes over a banner in seven pieces, the line feeds included. -/
theorem readTrivia?_block (statement rest : Text) :
    readTrivia? 7 (block statement ++ rest) =
      some ([.lineEnd, .lineComment opening, .lineEnd, .blockComment (comment statement),
        .lineEnd, .lineComment closing, .lineEnd], rest) := by
  rcases exists_opening with ⟨first, plain, isOpening⟩
  rcases exists_closing with ⟨last, plain', isClosing⟩
  rw [block_append, isOpening, isClosing, comment_eq]
  refine readTrivia?_succ (readTrivium?_lineEnd _) ?_
  refine readTrivia?_succ (readTrivium?_lineComment plain) ?_
  refine readTrivia?_succ (readTrivium?_lineEnd _) ?_
  refine readTrivia?_succ
    (readTrivium?_blockComment (endsComment_commentInner statement) _) ?_
  refine readTrivia?_succ (readTrivium?_lineEnd _) ?_
  refine readTrivia?_succ (readTrivium?_lineComment plain') ?_
  exact readTrivia?_succ (readTrivium?_lineEnd _) rfl

/-- All that stands in a banner before the end of its comment. -/
def blockHead (statement : Text) : Text :=
  [lineFeed] ++ opening ++ [lineFeed] ++ text "/*" ++ commentInner statement

/-- All that stands in a banner behind the end of its comment. -/
def blockTail : Text :=
  [lineFeed] ++ closing ++ [lineFeed]

theorem block_eq (statement : Text) :
    block statement = blockHead statement ++ commentEnd ++ blockTail := by
  have whole := block_append statement []
  rw [comment_eq, List.append_nil] at whole
  rw [whole, blockHead, blockTail]
  simp only [List.append_assoc, List.append_nil]

theorem endsComment_blockHead (statement : Text) :
    endsComment false (blockHead statement) = false := by
  have apart : (commentInner statement).head? ≠ some 0x2F := by
    have start : text "*" = [0x2A] := rfl
    rw [commentInner, start]
    simp
  exact endsComment_append (by decide) apart (endsComment_commentInner statement)

/-! ## Reading the statement back -/

/-- What stands in a banner before the lines of its statement. -/
def bodyHead : Text :=
  [lineFeed] ++ opening ++ [lineFeed] ++ text "/**" ++ [lineFeed] ++ lineStart

/-- What stands in a banner behind the lines of its statement. -/
def bodyTail : Text :=
  [lineFeed] ++ text " */" ++ [lineFeed] ++ closing ++ [lineFeed]

/-- The lines of a statement as they stand in a banner. -/
def bodyOf (banner : Text) : Text :=
  banner.slice bodyHead.length (banner.length - bodyTail.length)

/-- The statement that a banner keeps: each start of a line is taken away, and what
stands for the end of a comment becomes one. -/
def statementOf (banner : Text) : Text :=
  ((bodyOf banner).replace (lineFeed :: lineStart) [lineFeed]).replace escapedEnd commentEnd

theorem bodyOf_block (statement : Text) : bodyOf (block statement) = body statement := by
  have whole : block statement = bodyHead ++ body statement ++ bodyTail := by
    simp [block, bodyHead, bodyTail]
  have stop : (block statement).length - bodyTail.length =
      bodyHead.length + (body statement).length := by
    rw [whole, List.length_append, List.length_append, Nat.add_sub_cancel]
  rw [bodyOf, stop, whole]
  exact Text.slice_append_append _ _ _

/-- The starts of the lines are found again. -/
theorem statementOf_block (statement : Text) :
    statementOf (block statement) =
      (statement.replace commentEnd escapedEnd).replace escapedEnd commentEnd := by
  rw [statementOf, bodyOf_block, body, Text.replace_replace_character]

section Escapes

variable {source : Text}

/-- The end of a comment is found again where it was written in another way, unless the
text was written so before. -/
theorem replace_escaped (plain : ¬ escapedEnd <:+: source) :
    (source.replace commentEnd escapedEnd).replace escapedEnd commentEnd = source := by
  have filled : commentEnd ≠ [] := by decide
  have filled' : escapedEnd ≠ [] := by decide
  induction source using Text.replace_induction filled with
  | nil => rfl
  | found rest inductionHypothesis =>
      have plainRest : ¬ escapedEnd <:+: rest := fun inside =>
        plain (inside.trans (List.suffix_append _ _).isInfix)
      rw [Text.replace_append_left filled, Text.replace_append_left filled',
        inductionHypothesis plainRest]
  | passed c rest other inductionHypothesis =>
      have plainRest : ¬ escapedEnd <:+: rest := fun inside =>
        plain (inside.trans (List.suffix_cons c rest).isInfix)
      have other' : ¬ escapedEnd <+: c :: Text.replace rest commentEnd escapedEnd := by
        intro begins
        rw [escapedEnd_eq, List.cons_prefix_cons] at begins
        rw [commentEnd_eq] at begins
        have before : [0x5C, 0x2F] <+: rest :=
          Text.prefix_of_prefix_replace (by decide) begins.2
        apply plain
        rw [escapedEnd_eq, begins.1]
        exact (List.cons_prefix_cons.mpr ⟨rfl, before⟩).isInfix
      rw [Text.replace_cons filled _ other, Text.replace_cons filled' _ other',
        inductionHypothesis plainRest]

/-- No text is left that stands for the end of a comment. -/
theorem not_escapedEnd_infix_replace (source : Text) :
    ¬ escapedEnd <:+: source.replace escapedEnd commentEnd := by
  have filled : escapedEnd ≠ [] := by decide
  induction source using Text.replace_induction filled with
  | nil =>
      rw [Text.replace_nil, List.infix_nil]
      exact filled
  | found rest inductionHypothesis =>
      rw [Text.replace_append_left filled, commentEnd_eq, List.cons_append, List.cons_append,
        List.nil_append, List.infix_cons_iff, List.infix_cons_iff, ← commentEnd_eq]
      rintro (begins | begins | inside)
      · rw [escapedEnd_eq] at begins
        simp [List.cons_prefix_cons] at begins
      · rw [escapedEnd_eq] at begins
        simp [List.cons_prefix_cons] at begins
      · exact inductionHypothesis inside
  | passed c rest other inductionHypothesis =>
      rw [Text.replace_cons filled _ other, List.infix_cons_iff]
      rintro (begins | inside)
      · rw [escapedEnd_eq, List.cons_prefix_cons] at begins
        rw [commentEnd_eq] at begins
        have before : [0x5C, 0x2F] <+: rest :=
          Text.prefix_of_prefix_replace (by decide) begins.2
        apply other
        rw [escapedEnd_eq, begins.1]
        exact List.cons_prefix_cons.mpr ⟨rfl, before⟩
      · exact inductionHypothesis inside

/-- A statement is read back from its banner exactly if it did not hold what stands for
the end of a comment. -/
theorem statementOf_block_eq_iff (statement : Text) :
    statementOf (block statement) = statement ↔ ¬ escapedEnd <:+: statement := by
  rw [statementOf_block]
  constructor
  · intro same
    rw [← same]
    exact not_escapedEnd_infix_replace _
  · exact replace_escaped

end Escapes

/-- A banner is read as one line comment, one block comment and another line comment,
each on lines of its own, and what stands behind the banner is left for what follows.
The only end of a comment in it is the one before its last line.  The statement is read
back from it, unless it held what stands for the end of a comment. -/
theorem block_isInert (statement : Text) :
    (∀ rest, readTrivia? 7 (block statement ++ rest) =
        some ([.lineEnd, .lineComment opening, .lineEnd, .blockComment (comment statement),
          .lineEnd, .lineComment closing, .lineEnd], rest)) ∧
      (∀ before behind, block statement = before ++ commentEnd ++ behind ↔
        blockHead statement = before ∧ blockTail = behind) ∧
      (statementOf (block statement) = statement ↔ ¬ escapedEnd <:+: statement) := by
  refine ⟨readTrivia?_block statement, ?_, statementOf_block_eq_iff statement⟩
  intro before behind
  rw [block_eq]
  exact append_commentEnd_inj (endsComment_blockHead statement) (by decide)

-- Stars and slashes in a row come back, and what stood for the end of a comment is taken
-- for one.
example : statementOf (block (text "**//\n/ *\\/")) = text "**//\n/ */" := by decide +kernel

end Banner

end Respecify

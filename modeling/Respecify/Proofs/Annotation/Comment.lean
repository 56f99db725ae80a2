import Respecify.Annotation.Banner
import Respecify.Annotation.Warning
import Respecify.JavaScript.Gap

/-!
# Banners and warnings are comments

What a revision puts above an import is made of lines, each of them empty or one
complete comment.  The statement in a banner cannot end the comment that it
stands in.
-/

namespace Respecify

open JavaScript

/-! ## Lines that hold comments -/

/-- The text is one complete comment. -/
def isComment (line : Text) : Bool :=
  line.all isScalar && dropComment? (line.map Char.ofNat) == some []

/-- Lines of comments below a line break: every line is empty or one complete
comment. -/
def IsInset (gap : Text) : Prop :=
  ∃ lines : List Text, (∀ line ∈ lines, line = [] ∨ isComment line = true) ∧
    gap = lineFeed :: lines.flatMap (· ++ [lineFeed])

/-- Lines that are empty or hold the words of the warning. -/
def IsAside (gap : Text) : Prop :=
  ∃ lines : List Text, (∀ line ∈ lines, line = [] ∨ line = Warning.comment) ∧
    gap = lines.flatMap (· ++ [lineFeed])

theorem isAside_nil : IsAside [] :=
  ⟨[], by simp, rfl⟩

theorem isAside_lineFeed : IsAside [lineFeed] :=
  ⟨[[]], by simp, rfl⟩

theorem isAside_warningMarker : IsAside (Warning.comment ++ [lineFeed]) :=
  ⟨[Warning.comment], by simp, rfl⟩

theorem isAside_warningBlock : IsAside Warning.block :=
  ⟨[[], Warning.comment], by simp, rfl⟩

theorem isAside_lineFeed_warningBlock : IsAside ([lineFeed] ++ Warning.block) :=
  ⟨[[], [], Warning.comment], by simp, rfl⟩

theorem isInset_warningBlock : IsInset Warning.block :=
  ⟨[Warning.comment], by decide, rfl⟩

theorem isInset_lineFeed_warningBlock : IsInset ([lineFeed] ++ Warning.block) :=
  ⟨[[], Warning.comment], by decide, rfl⟩

/-! ## Block comments -/

/-- A star and a slash follow each other in the text; the flag tells whether a
star stands before it. -/
def endsComment : Bool → Text → Bool
  | _, [] => false
  | star, c :: rest => (star && c == 0x2F) || endsComment (c == 0x2A) rest

theorem ofNat_beq {c : Nat} {char : Char} (proper : char ≠ '\x00') :
    (Char.ofNat c == char) = (c == char.toNat) := by
  rw [Bool.eq_iff_iff, beq_iff_eq, beq_iff_eq]
  constructor
  · intro same
    by_cases valid : c.isValidChar
    · rw [← same, Char.ofNat, dif_pos valid]
      rfl
    · rw [Char.ofNat, dif_neg valid] at same
      exact absurd same.symm proper
  · intro same
    rw [same, Char.ofNat_toNat]

/-- Texts that do not end a comment do not end one together, unless the second
starts with a slash. -/
theorem endsComment_append {star : Bool} {first second : Text}
    (still : endsComment star first = false) (apart : second.head? ≠ some 0x2F)
    (stillBehind : endsComment false second = false) :
    endsComment star (first ++ second) = false := by
  induction first generalizing star with
  | nil =>
      cases second with
      | nil => rfl
      | cons c second =>
          have unslashed : (c == 0x2F) = false := by simpa using apart
          rw [List.nil_append, endsComment, unslashed, Bool.and_false]
          simpa [endsComment] using stillBehind
  | cons c first inductionHypothesis =>
      rw [endsComment, Bool.or_eq_false_iff] at still
      rw [List.cons_append, endsComment, still.1]
      exact inductionHypothesis still.2

/-- A text that does not end a comment can stand in one. -/
theorem closeComment_append {star : Bool} {inner : Text}
    (still : endsComment star inner = false) :
    closeComment star ((inner ++ Banner.commentEnd).map Char.ofNat) = some [] := by
  induction inner generalizing star with
  | nil => cases star <;> decide
  | cons c inner inductionHypothesis =>
      rw [endsComment, Bool.or_eq_false_iff] at still
      rw [List.cons_append, List.map_cons, closeComment, ofNat_beq (by decide),
        ofNat_beq (by decide)]
      rw [if_neg (by simpa using still.1)]
      exact inductionHypothesis still.2

namespace Banner

/-- What would end a comment is written in another way. -/
theorem endsComment_escaped {bound : Nat} {source : Text} {star : Bool}
    (enough : source.length ≤ bound) (apart : star = true → source.head? ≠ some 0x2F) :
    endsComment star (Text.replaceWithin commentEnd escapedEnd bound source) = false := by
  have escaped : escapedEnd = [0x2A, 0x5C, 0x2F] := by decide
  have endLength : commentEnd.length = 2 := by decide
  induction bound generalizing source star with
  | zero =>
      rw [List.length_eq_zero_iff.mp (Nat.le_zero.mp enough)]
      rfl
  | succ bound inductionHypothesis =>
      cases source with
      | nil => rfl
      | cons c rest =>
          rw [List.length_cons] at enough
          rw [Text.replaceWithin]
          split
          · have shorter : ((c :: rest).drop commentEnd.length).length ≤ bound := by
              rw [List.length_drop, List.length_cons, endLength]
              omega
            have others := @inductionHypothesis _ false shorter (by simp)
            rw [escaped] at others ⊢
            simpa [endsComment] using others
          · rename_i unmarked
            rw [endsComment, Bool.or_eq_false_iff]
            constructor
            · cases star with
              | false => rfl
              | true => simpa using apart rfl
            · refine inductionHypothesis (by omega) fun isStar slash => unmarked ?_
              rw [beq_iff_eq.mp isStar, List.isPrefixOf_iff_prefix]
              rcases List.head?_eq_some_iff.mp slash with ⟨others, rfl⟩
              exact ⟨others, rfl⟩

/-- The starts of lines end no comment. -/
theorem endsComment_lines {bound : Nat} {source : Text} {star : Bool}
    (still : endsComment star source = false) :
    endsComment star (Text.replaceWithin [lineFeed] (lineFeed :: lineStart) bound source) =
      false := by
  have started : lineFeed :: lineStart = [0x0A, 0x20, 0x2A, 0x20] := by decide
  induction bound generalizing source star with
  | zero => exact still
  | succ bound inductionHypothesis =>
      cases source with
      | nil => rfl
      | cons c rest =>
          rw [endsComment, Bool.or_eq_false_iff] at still
          rw [Text.replaceWithin]
          split
          · rename_i isLineFeed
            have same : lineFeed = c := by simpa using isLineFeed
            subst same
            have others := inductionHypothesis still.2
            rw [started] at others ⊢
            simpa [endsComment, lineFeed] using others
          · rw [endsComment, still.1]
            exact inductionHypothesis still.2

/-- The statement in a banner does not end the comment that it stands in. -/
theorem endsComment_body (statement : Text) : endsComment false (body statement) = false :=
  endsComment_lines (endsComment_escaped (Nat.le_refl _) (by simp))

/-- The lines of a banner between its first line and its last one. -/
def comment (statement : Text) : Text :=
  text "/**" ++ [lineFeed] ++ lineStart ++ body statement ++ [lineFeed] ++ text " */"

/-- What is written for a part of a statement keeps to characters. -/
theorem isScalar_replaceWithin {old new source : Text} {bound : Nat}
    (scalar : ∀ c ∈ source, isScalar c = true) (scalarNew : ∀ c ∈ new, isScalar c = true) :
    ∀ c ∈ Text.replaceWithin old new bound source, isScalar c = true := by
  induction bound generalizing source with
  | zero => exact scalar
  | succ bound inductionHypothesis =>
      cases source with
      | nil => exact scalar
      | cons first rest =>
          rw [Text.replaceWithin]
          split
          · intro c member
            rcases List.mem_append.mp member with member | member
            · exact scalarNew c member
            · exact inductionHypothesis
                (fun other otherMember => scalar other (List.mem_of_mem_drop otherMember)) c member
          · intro c member
            rcases List.mem_cons.mp member with rfl | member
            · exact scalar _ List.mem_cons_self
            · exact inductionHypothesis
                (fun other otherMember => scalar other (List.mem_cons_of_mem _ otherMember)) c
                member

/-- A part of a text that is not replaced stays. -/
theorem mem_replaceWithin {old new source : Text} {bound c : Nat} (absent : c ∉ old)
    (member : c ∈ source) : c ∈ Text.replaceWithin old new bound source := by
  induction bound generalizing source with
  | zero => exact member
  | succ bound inductionHypothesis =>
      cases source with
      | nil => exact member
      | cons first rest =>
          rw [Text.replaceWithin]
          split
          · rename_i isOld
            rcases List.isPrefixOf_iff_prefix.mp isOld with ⟨others, whole⟩
            rw [← whole] at member ⊢
            rw [List.drop_left]
            exact List.mem_append_right _
              (inductionHypothesis ((List.mem_append.mp member).resolve_left absent))
          · rcases List.mem_cons.mp member with rfl | member
            · exact List.mem_cons_self
            · exact List.mem_cons_of_mem _ (inductionHypothesis member)

/-- A banner holds the characters of its statement, apart from those that it writes in
another way. -/
theorem mem_block {statement : Text} {c : Nat} (plain : c ∉ lineFeed :: commentEnd)
    (member : c ∈ statement) : c ∈ block statement := by
  rw [List.mem_cons, not_or] at plain
  have inside : c ∈ body statement :=
    mem_replaceWithin (by simpa using plain.1) (mem_replaceWithin plain.2 member)
  simp [block, inside]

/-- What stands in the block comment of a banner, between the two characters that open
it and the two that end it. -/
def commentInner (statement : Text) : Text :=
  text "*" ++ [lineFeed] ++ lineStart ++ (body statement ++ ([lineFeed] ++ text " "))

theorem comment_eq (statement : Text) :
    comment statement = text "/*" ++ (commentInner statement ++ commentEnd) := by
  have start : text "/**" = text "/*" ++ text "*" := by decide
  have ending : text " */" = text " " ++ commentEnd := by decide
  rw [comment, commentInner, start, ending]
  simp only [List.append_assoc]

theorem endsComment_commentInner (statement : Text) :
    endsComment false (commentInner statement) = false := by
  have others : endsComment false (body statement ++ ([lineFeed] ++ text " ")) = false :=
    endsComment_append (endsComment_body statement) (by decide) (by decide)
  have start : text "*" ++ [lineFeed] ++ lineStart = [0x2A, 0x0A, 0x20, 0x2A, 0x20] := by
    decide
  rw [commentInner, start]
  simpa [endsComment] using others

/-- They are one comment. -/
theorem isComment_comment {statement : Text} (scalar : ∀ c ∈ statement, isScalar c = true) :
    isComment (comment statement) = true := by
  have proper : (comment statement).all isScalar = true := by
    have fixed : ∀ c ∈ text "/**" ++ [lineFeed] ++ lineStart ++ escapedEnd ++ [lineFeed] ++
        text " */", isScalar c = true := by decide
    have inner : ∀ c ∈ body statement, isScalar c = true :=
      isScalar_replaceWithin
        (isScalar_replaceWithin scalar fun c member => fixed c (by simp [member]))
        fun c member => fixed c (by
          rcases List.mem_cons.mp member with rfl | member
          · simp
          · simp [member])
    rw [List.all_eq_true]
    intro c member
    simp only [comment, List.mem_append, List.mem_singleton] at member
    rcases member with ((((member | rfl) | member) | member) | rfl) | member
    · exact fixed c (by simp [member])
    · exact fixed _ (by simp)
    · exact fixed c (by simp [member])
    · exact inner c member
    · exact fixed _ (by simp)
    · exact fixed c (by simp [member])
  have opening : (text "/*").map Char.ofNat = ['/', '*'] := by decide
  rw [isComment, proper, comment_eq, List.map_append, opening, List.cons_append,
    List.cons_append, List.nil_append, dropComment?,
    closeComment_append (endsComment_commentInner statement)]
  rfl

/-- A banner is made of comments. -/
theorem isInset_block {statement : Text} (scalar : ∀ c ∈ statement, isScalar c = true) :
    IsInset (block statement) := by
  refine ⟨[opening, comment statement, closing], ?_, ?_⟩
  · intro line member
    simp only [List.mem_cons, List.not_mem_nil, or_false] at member
    rcases member with rfl | rfl | rfl
    · exact Or.inr (by decide)
    · exact Or.inr (isComment_comment scalar)
    · exact Or.inr (by decide)
  · simp [block, comment]

end Banner

end Respecify

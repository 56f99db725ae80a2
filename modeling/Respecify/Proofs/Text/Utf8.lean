import Mathlib.Algebra.Group.Nat.Defs
import Mathlib.Tactic.SplitIfs
import Respecify.Text.Utf8

/-!
# Reading what was written in UTF-8

The bytes of a character are read back as that character, whatever follows
them.  So a text is read back whole, and offsets in its bytes and offsets in
the text tell the same places.
-/

namespace Respecify

namespace Utf8

/-! ## One character -/

variable (rest : List Nat)

theorem unitsAfter_none_cons (b : Nat) :
    unitsAfter none (b :: rest) = (readFirst b).1 ++ unitsAfter (readFirst b).2 rest :=
  rfl

/-- A byte that completes a character. -/
theorem unitsAfter_last {before : Partial} {b : Nat} (low : before.least ≤ b)
    (high : b ≤ before.greatest) (last : before.missing ≤ 1) :
    unitsAfter (some before) (b :: rest) =
      some (before.bits * 0x40 + (b - 0x80)) :: unitsAfter none rest := by
  simp [unitsAfter, readNext, low, high, last]

/-- A byte of a character that goes on. -/
theorem unitsAfter_more {before : Partial} {b : Nat} (low : before.least ≤ b)
    (high : b ≤ before.greatest) (more : 1 < before.missing) :
    unitsAfter (some before) (b :: rest) =
      unitsAfter (some ⟨before.bits * 0x40 + (b - 0x80), before.missing - 1, 0x80, 0xBF⟩)
        rest := by
  simp [unitsAfter, readNext, low, high, Nat.not_le.mpr more]

theorem readFirst_of_two {b : Nat} (low : 0xC2 ≤ b) (high : b < 0xE0) :
    readFirst b = ([], some ⟨b - 0xC0, 1, 0x80, 0xBF⟩) := by
  rw [readFirst, if_neg (by omega), if_neg (by omega), if_pos high]

theorem readFirst_of_three {b : Nat} (low : 0xE0 ≤ b) (high : b < 0xF0) :
    readFirst b =
      ([], some ⟨b - 0xE0, 2, if b = 0xE0 then 0xA0 else 0x80,
        if b = 0xED then 0x9F else 0xBF⟩) := by
  rw [readFirst, if_neg (by omega), if_neg (by omega), if_neg (by omega), if_pos high]

theorem readFirst_of_four {b : Nat} (low : 0xF0 ≤ b) (high : b < 0xF5) :
    readFirst b =
      ([], some ⟨b - 0xF0, 3, if b = 0xF0 then 0x90 else 0x80,
        if b = 0xF4 then 0x8F else 0xBF⟩) := by
  rw [readFirst, if_neg (by omega), if_neg (by omega), if_neg (by omega), if_neg (by omega),
    if_pos high]

theorem isScalar_iff {c : Nat} :
    isScalar c = true ↔ c < 0x110000 ∧ ¬(0xD800 ≤ c ∧ c < 0xE000) := by
  simp only [isScalar, isSurrogate, Bool.and_eq_true, Bool.not_eq_true', decide_eq_true_eq,
    Bool.and_eq_false_imp, decide_eq_false_iff_not, not_and]

/-- The bytes of a character are read as that character. -/
theorem unitsAfter_encodeOne {c : Nat} (scalar : isScalar c = true) :
    unitsAfter none (encodeOne c ++ rest) = some c :: unitsAfter none rest := by
  rcases isScalar_iff.mp scalar with ⟨bounded, unpaired⟩
  unfold encodeOne
  split
  · rename_i one
    simp [unitsAfter_none_cons, readFirst, one]
  · split
    · have startBound : 0xC2 ≤ 0xC0 + c / 0x40 ∧ 0xC0 + c / 0x40 < 0xE0 := by omega
      have whole : (0xC0 + c / 0x40 - 0xC0) * 0x40 + (0x80 + c % 0x40 - 0x80) = c := by omega
      simp only [List.cons_append, List.nil_append]
      rw [unitsAfter_none_cons, readFirst_of_two startBound.1 startBound.2, List.nil_append,
        unitsAfter_last rest (by dsimp only; omega) (by dsimp only; omega) (Nat.le_refl 1), whole]
    · split
      · have startBound : 0xE0 ≤ 0xE0 + c / 0x1000 ∧ 0xE0 + c / 0x1000 < 0xF0 := by omega
        have whole : ((0xE0 + c / 0x1000 - 0xE0) * 0x40 + (0x80 + c / 0x40 % 0x40 - 0x80)) *
            0x40 + (0x80 + c % 0x40 - 0x80) = c := by omega
        simp only [List.cons_append, List.nil_append]
        rw [unitsAfter_none_cons, readFirst_of_three startBound.1 startBound.2, List.nil_append,
          unitsAfter_more _ (by dsimp only; split <;> omega) (by dsimp only; split <;> omega)
            (Nat.lt_succ_self 1),
          unitsAfter_last rest (by dsimp only; omega) (by dsimp only; omega) (Nat.le_refl 1),
          whole]
      · have startBound : 0xF0 ≤ 0xF0 + c / 0x40000 ∧ 0xF0 + c / 0x40000 < 0xF5 := by omega
        have whole : (((0xF0 + c / 0x40000 - 0xF0) * 0x40 +
            (0x80 + c / 0x1000 % 0x40 - 0x80)) * 0x40 + (0x80 + c / 0x40 % 0x40 - 0x80)) *
            0x40 + (0x80 + c % 0x40 - 0x80) = c := by omega
        simp only [List.cons_append, List.nil_append]
        rw [unitsAfter_none_cons, readFirst_of_four startBound.1 startBound.2, List.nil_append,
          unitsAfter_more _ (by dsimp only; split <;> omega) (by dsimp only; split <;> omega)
            (by dsimp only; omega),
          unitsAfter_more _ (by dsimp only; omega) (by dsimp only; omega) (by dsimp only; omega),
          unitsAfter_last rest (by dsimp only; omega) (by dsimp only; omega) (Nat.le_refl 1),
          whole]

/-! ## A text -/

variable {source : Text}

@[simp]
theorem encode_append (one other : Text) : encode (one ++ other) = encode one ++ encode other :=
  List.flatMap_append

/-- The bytes of a text are read as that text. -/
theorem units_encode (scalar : ∀ c ∈ source, isScalar c = true) :
    units (encode source) = source.map some := by
  induction source with
  | nil => rfl
  | cons c source inductionHypothesis =>
      rw [encode, List.flatMap_cons, units,
        unitsAfter_encodeOne _ (scalar c List.mem_cons_self)]
      exact congrArg (some c :: ·)
        (inductionHypothesis fun other member => scalar other (List.mem_cons_of_mem _ member))

/-- A text that has a byte form is read back from it. -/
theorem decode?_encode (scalar : ∀ c ∈ source, isScalar c = true) :
    decode? (encode source) = some source := by
  rw [decode?, units_encode scalar]
  induction source with
  | nil => rfl
  | cons c source inductionHypothesis =>
      rw [List.map_cons, List.mapM_cons,
        inductionHypothesis fun other member => scalar other (List.mem_cons_of_mem _ member)]
      rfl

/-- The byte form of a text is no shorter than the text. -/
theorem length_le_length_encode (source : Text) : source.length ≤ (encode source).length := by
  induction source with
  | nil => exact Nat.le_refl 0
  | cons c source inductionHypothesis =>
      have positive : 1 ≤ (encodeOne c).length := by
        unfold encodeOne
        split
        · exact Nat.le_refl 1
        · split
          · exact Nat.le_succ 1
          · split <;> simp
      rw [encode, List.flatMap_cons, List.length_append, List.length_cons]
      change source.length ≤ (source.flatMap encodeOne).length at inductionHypothesis
      omega

/-! ## Strings -/

/-- A code point that stands for a character is that of the character. -/
theorem toNat_ofNat {c : Nat} (scalar : isScalar c = true) : (Char.ofNat c).toNat = c := by
  have valid : c.isValidChar := by
    rcases isScalar_iff.mp scalar with ⟨bounded, unpaired⟩
    rw [Nat.isValidChar]
    omega
  rw [Char.ofNat, dif_pos valid]
  rfl

theorem map_toNat_ofNat (scalar : ∀ c ∈ source, isScalar c = true) :
    (source.map Char.ofNat).map Char.toNat = source := by
  rw [List.map_map]
  exact (List.map_congr_left fun c member => toNat_ofNat (scalar c member)).trans
    (List.map_id source)

/-- A text without surrogates is that of a string. -/
theorem text_ofList_map_ofNat (scalar : ∀ c ∈ source, isScalar c = true) :
    text (String.ofList (source.map Char.ofNat)) = source := by
  rw [text, String.toList_ofList, map_toNat_ofNat scalar]

theorem encodeOne_toNat (c : Char) :
    encodeOne c.toNat = (String.utf8EncodeChar c).map UInt8.toNat := by
  change encodeOne c.val.toNat = _
  have bounded : c.val.toNat < 0x110000 := by
    rcases c.valid with low | high
    · exact Nat.lt_trans low (by decide)
    · exact high.2
  unfold String.utf8EncodeChar encodeOne
  generalize c.val.toNat = n at bounded
  dsimp only
  split_ifs
  all_goals
    simp only [List.map_cons, List.map_nil, UInt8.toNat_ofNat', List.cons.injEq, and_true]
    omega

/-- The bytes of the text of a string are those of the string. -/
theorem encode_text (literal : String) :
    encode (text literal) = literal.toUTF8.data.toList.map UInt8.toNat := by
  have listed := @String.toByteArray_ofList literal.toList
  rw [String.ofList_toList] at listed
  rw [String.toUTF8, listed]
  simp only [text, encode, List.flatMap_map, encodeOne_toNat, List.utf8Encode,
    List.data_toByteArray, List.map_flatMap]

/-! ## What is read -/

/-- Bits that start a character, and all characters that start with them. -/
def Starts (bits missing : Nat) : Prop :=
  ∀ c, bits * 0x40 ^ missing ≤ c → c < (bits + 1) * 0x40 ^ missing → isScalar c = true

/-- However the bytes that are missing are chosen, a character comes out. -/
structure Partial.IsSound (before : Partial) : Prop where
  missing : 1 ≤ before.missing
  starts : ∀ b, before.least ≤ b → b ≤ before.greatest →
    Starts (before.bits * 0x40 + (b - 0x80)) (before.missing - 1)

theorem Starts.more {bits missing b : Nat} (starts : Starts bits (missing + 1)) (low : 0x80 ≤ b)
    (high : b ≤ 0xBF) : Starts (bits * 0x40 + (b - 0x80)) missing := by
  intro c least greatest
  have factor : 0x40 ^ (missing + 1) = 0x40 * 0x40 ^ missing := Nat.pow_succ'
  refine starts c ?_ ?_
  · calc bits * 0x40 ^ (missing + 1) = bits * 0x40 * 0x40 ^ missing := by
          rw [factor, Nat.mul_assoc]
      _ ≤ (bits * 0x40 + (b - 0x80)) * 0x40 ^ missing :=
          Nat.mul_le_mul_right _ (Nat.le_add_right _ _)
      _ ≤ c := least
  · calc c < (bits * 0x40 + (b - 0x80) + 1) * 0x40 ^ missing := greatest
      _ ≤ (bits + 1) * 0x40 * 0x40 ^ missing := Nat.mul_le_mul_right _ (by omega)
      _ = (bits + 1) * 0x40 ^ (missing + 1) := by rw [factor, Nat.mul_assoc]

/-- A first byte is a character, or a defect, or starts characters. -/
theorem readFirst_sound (b : Nat) :
    (∀ c, some c ∈ (readFirst b).1 → isScalar c = true) ∧
      ∀ after, (readFirst b).2 = some after → after.IsSound := by
  unfold readFirst
  split
  · refine ⟨?_, fun _ none => by cases none⟩
    intro c member
    rw [List.mem_singleton, Option.some.injEq] at member
    exact isScalar_iff.mpr (by omega)
  · split
    · exact ⟨fun c member => by simp at member, fun _ none => by cases none⟩
    · split
      · refine ⟨fun c member => absurd member List.not_mem_nil, ?_⟩
        intro after same
        rw [← Option.some.inj same]
        refine ⟨Nat.le_refl 1, fun next low high c least greatest => isScalar_iff.mpr ?_⟩
        simp only [Nat.sub_self, Nat.pow_zero, Nat.mul_one] at least greatest low high
        omega
      · split
        · refine ⟨fun c member => absurd member List.not_mem_nil, ?_⟩
          intro after same
          rw [← Option.some.inj same]
          refine ⟨Nat.le_add_left 1 _, fun next low high c least greatest => isScalar_iff.mpr ?_⟩
          have size : 0x40 ^ (2 - 1) = 0x40 := rfl
          simp only [size] at least greatest low high
          split at low <;> split at high <;> omega
        · split
          · refine ⟨fun c member => absurd member List.not_mem_nil, ?_⟩
            intro after same
            rw [← Option.some.inj same]
            refine ⟨Nat.le_add_left 1 _, fun next low high c least greatest => isScalar_iff.mpr ?_⟩
            have size : 0x40 ^ (3 - 1) = 0x1000 := rfl
            simp only [size] at least greatest low high
            split at low <;> split at high <;> omega
          · exact ⟨fun c member => by simp at member, fun _ none => by cases none⟩

/-- A next byte completes a character, or goes on with it, or starts anew. -/
theorem readNext_sound {before : Partial} (sound : before.IsSound) (b : Nat) :
    (∀ c, some c ∈ (readNext before b).1 → isScalar c = true) ∧
      ∀ after, (readNext before b).2 = some after → after.IsSound := by
  unfold readNext
  split
  · rename_i within
    rw [Bool.and_eq_true, decide_eq_true_eq, decide_eq_true_eq] at within
    have starts := sound.starts b within.1 within.2
    have positive := sound.missing
    dsimp only
    split
    · rename_i last
      refine ⟨?_, fun _ none => by cases none⟩
      intro c member
      rw [List.mem_singleton, Option.some.injEq] at member
      have none : before.missing - 1 = 0 := by omega
      rw [none] at starts
      exact starts c (by omega) (by omega)
    · rename_i more
      refine ⟨fun c member => absurd member List.not_mem_nil, ?_⟩
      intro after same
      rw [← Option.some.inj same]
      refine ⟨by dsimp only; omega, fun next low high => ?_⟩
      have onward : before.missing - 1 = before.missing - 1 - 1 + 1 := by omega
      rw [onward] at starts
      exact starts.more low high
  · have anew := readFirst_sound b
    exact ⟨fun c member => anew.1 c (by simpa using member), anew.2⟩

/-- What is read is made of characters. -/
theorem isScalar_of_mem_unitsAfter {state : Option Partial} {bytes : List Nat} {c : Nat}
    (sound : ∀ before, state = some before → before.IsSound)
    (member : some c ∈ unitsAfter state bytes) : isScalar c = true := by
  induction bytes generalizing state with
  | nil => cases state <;> simp [unitsAfter] at member
  | cons b rest inductionHypothesis =>
      cases state with
      | none =>
          rcases List.mem_append.mp member with member | member
          · exact (readFirst_sound b).1 c member
          · exact inductionHypothesis (readFirst_sound b).2 member
      | some before =>
          have next := readNext_sound (sound before rfl) b
          rcases List.mem_append.mp member with member | member
          · exact next.1 c member
          · exact inductionHypothesis next.2 member

theorem eq_map_some_of_mapM {units : List (Option Nat)} (read : units.mapM id = some source) :
    units = source.map some := by
  induction units generalizing source with
  | nil =>
      cases read
      rfl
  | cons unit units inductionHypothesis =>
      cases unit with
      | none => cases read
      | some c =>
          rw [List.mapM_cons] at read
          cases others : units.mapM id with
          | none =>
              rw [others] at read
              cases read
          | some rest =>
              rw [others] at read
              cases read
              rw [inductionHypothesis others]
              rfl

/-- A text that is read has a byte form. -/
theorem isScalar_of_decode? {bytes : List Nat} (decoded : decode? bytes = some source) :
    ∀ c ∈ source, isScalar c = true := by
  intro c member
  refine @isScalar_of_mem_unitsAfter none bytes _ (by simp) ?_
  change some c ∈ units bytes
  rw [eq_map_some_of_mapM decoded]
  exact List.mem_map_of_mem member

end Utf8

/-- The end of a part of a text is the same place in the bytes and in the
text. -/
theorem ByteIndex.charactersBefore_length_encode {first second : Text}
    (scalar : ∀ c ∈ first, isScalar c = true) :
    (ByteIndex.ofText (first ++ second)).charactersBefore (Utf8.encode first).length =
      first.length := by
  have firstBound := Utf8.length_le_length_encode first
  have secondBound := Utf8.length_le_length_encode second
  unfold charactersBefore ofText
  dsimp only
  split
  · rename_i same
    simp only [Utf8.encode_append, List.length_append, beq_iff_eq] at same
    omega
  · rw [Utf8.encode_append, List.take_left, Utf8.units_encode scalar, List.length_map]

end Respecify

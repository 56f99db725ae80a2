import Mathlib.Order.Basic
import Mathlib.Tactic.ByContra
import Respecify.Proofs.Text.Slice
import Respecify.Proofs.Text.Utf8

/-!
# Offsets in bytes

A character of a text starts at a byte of its UTF-8 form.  Later characters start at
later bytes, and the bytes between two of these places are the form of the text between
them, so offsets in bytes can be carried back to offsets in the text.
-/

namespace Respecify

namespace Utf8

/-! ## Bytes before a character -/

/-- The number of bytes before a character of a text. -/
def offsetOf (source : Text) (count : Nat) : Nat :=
  (encode (source.take count)).length

variable {source : Text} {one other : Nat}

/-- The bytes of the characters between two of them stand between their offsets. -/
theorem offsetOf_add_length (source : Text) (ordered : one ≤ other) :
    offsetOf source one + (encode (source.slice one other)).length = offsetOf source other := by
  rw [offsetOf, offsetOf, ← Text.take_append_slice source ordered, encode_append,
    List.length_append]

/-- Later characters have later bytes. -/
theorem offsetOf_lt_offsetOf (ahead : one < other) (inside : other ≤ source.length) :
    offsetOf source one < offsetOf source other := by
  have filled : 0 < (encode (source.slice one other)).length := by
    have atLeast := length_le_length_encode (source.slice one other)
    rw [Text.length_slice source one inside] at atLeast
    omega
  have between := offsetOf_add_length source ahead.le
  omega

theorem offsetOf_le_offsetOf_iff (inside : one ≤ source.length) (inside' : other ≤ source.length) :
    offsetOf source one ≤ offsetOf source other ↔ one ≤ other := by
  constructor
  · intro ordered
    by_contra behind
    have strict := offsetOf_lt_offsetOf (Nat.lt_of_not_le behind) inside
    omega
  · intro ordered
    rcases ordered.eq_or_lt with rfl | ahead
    · exact le_rfl
    · exact (offsetOf_lt_offsetOf ahead inside').le

/-- A character of one byte ends one byte behind its start. -/
theorem offsetOf_succ {c : Nat} (here : source[one]? = some c) (single : c < 0x80) :
    offsetOf source (one + 1) = offsetOf source one + 1 := by
  rcases List.getElem?_eq_some_iff.mp here with ⟨inside, rfl⟩
  rw [offsetOf, List.take_succ_eq_append_getElem inside, encode_append, List.length_append]
  simp [encode, encodeOne, single, offsetOf]

/-- The bytes of a text have the line feeds of the text. -/
theorem count_lineFeed_encode (source : Text) :
    (encode source).count lineFeed = source.count lineFeed := by
  induction source with
  | nil => rfl
  | cons c source inductionHypothesis =>
      have own : (encodeOne c).count lineFeed = [c].count lineFeed := by
        unfold encodeOne lineFeed
        split
        · rfl
        · rename_i long
          have differs : c ≠ 0x0A := by omega
          split
          · simp [List.count_cons, differs]
            omega
          · split
            · simp [List.count_cons, differs]
              omega
            · simp [List.count_cons, differs]
              omega
      rw [encode, List.flatMap_cons, List.count_append, own, ← encode, inductionHypothesis,
        ← List.count_append, List.singleton_append]

/-! ## Bytes between two characters -/

/-- The bytes between two offsets are the form of the text between the characters. -/
theorem slice_encode (source : Text) (ordered : one ≤ other) :
    Text.slice (encode source) (offsetOf source one) (offsetOf source other) =
      encode (source.slice one other) := by
  have whole : encode source =
      encode (source.take one) ++ encode (source.slice one other) ++
        encode (source.drop other) := by
    simp only [← encode_append, Text.take_append_slice source ordered, List.take_append_drop]
  rw [← offsetOf_add_length source ordered, whole]
  exact Text.slice_append_append _ _ _

/-- So they are read as that text. -/
theorem decode?_slice_encode (scalar : ∀ c ∈ source, isScalar c = true) (ordered : one ≤ other) :
    decode? (Text.slice (encode source) (offsetOf source one) (offsetOf source other)) =
      some (source.slice one other) := by
  rw [slice_encode source ordered]
  apply decode?_encode
  intro c member
  exact scalar c (List.mem_of_mem_take (List.mem_of_mem_drop member))

/-! ## Texts of single bytes -/

theorem length_encodeOne_eq_one_iff {c : Nat} : (encodeOne c).length = 1 ↔ c < 0x80 := by
  unfold encodeOne
  split
  · simp_all
  · split
    · simp_all
    · split <;> simp_all

/-- A text has as many bytes as characters exactly if each character is a byte. -/
theorem length_encode_eq_length_iff :
    (encode source).length = source.length ↔ ∀ c ∈ source, c < 0x80 := by
  induction source with
  | nil => simp [encode]
  | cons c source inductionHypothesis =>
      have own := length_le_length_encode [c]
      have others := length_le_length_encode source
      have whole : (encode (c :: source)).length = (encode source).length + (encode [c]).length := by
        rw [← List.singleton_append, encode_append, List.length_append, Nat.add_comm]
      have single : (encode [c]).length = 1 ↔ c < 0x80 := by
        rw [← length_encodeOne_eq_one_iff]
        simp [encode]
      rw [List.forall_mem_cons, ← single, ← inductionHypothesis, whole]
      simp only [List.length_cons, List.length_nil] at own ⊢
      omega

end Utf8

variable {source : Text}

/-- The byte at which a character starts is carried to the character. -/
theorem charactersBefore_offsetOf (scalar : ∀ c ∈ source, isScalar c = true) (count : Nat)
    (inside : count ≤ source.length) :
    (ByteIndex.ofText source).charactersBefore (Utf8.offsetOf source count) = count := by
  have told := @ByteIndex.charactersBefore_length_encode (source.take count) (source.drop count)
    fun c member => scalar c (List.mem_of_mem_take member)
  rwa [List.take_append_drop, List.length_take_of_le inside] at told

/-- The map of a text without surrogates holds the bytes of the string with its
characters.  It carries offsets in them back to the characters before which they stand,
and so many characters are read from the bytes up to there.  The offsets are taken for
offsets in the text exactly if bytes and text have one length, which is the case exactly
if each character is a byte.  And the bytes between two offsets are read as the text
between the characters. -/
theorem ByteIndex.ofText_carries (scalar : ∀ c ∈ source, isScalar c = true) :
    (∃ literal, text literal = source ∧
        (ofText source).bytes = literal.toUTF8.data.toList.map UInt8.toNat) ∧
      (∀ count ≤ source.length,
        (ofText source).charactersBefore (Utf8.offsetOf source count) = count ∧
          Utf8.decode? ((ofText source).bytes.take (Utf8.offsetOf source count)) =
            some (source.take count)) ∧
      ((ofText source).identity = true ↔ (ofText source).bytes.length = source.length) ∧
      ((ofText source).identity = true ↔ ∀ c ∈ source, c < 0x80) ∧
      ∀ start stop, start ≤ stop →
        Utf8.decode? (Text.slice (ofText source).bytes (Utf8.offsetOf source start)
            (Utf8.offsetOf source stop)) = some (source.slice start stop) := by
  have chosen : (ofText source).identity = true ↔ (ofText source).bytes.length = source.length :=
    beq_iff_eq
  refine ⟨?_, ?_, chosen, chosen.trans Utf8.length_encode_eq_length_iff, ?_⟩
  · have written := Utf8.encode_text (String.ofList (source.map Char.ofNat))
    rw [Utf8.text_ofList_map_ofNat scalar] at written
    exact ⟨_, Utf8.text_ofList_map_ofNat scalar, written⟩
  · intro count inside
    constructor
    · exact charactersBefore_offsetOf scalar count inside
    · exact Utf8.decode?_slice_encode scalar (Nat.zero_le count)
  · intro start stop ordered
    exact Utf8.decode?_slice_encode scalar ordered

/-- Characters of one, two, three and four bytes. -/
theorem ByteIndex.ofText_carries_wide :
    let source : Text := [0x61, 0xE9, 0x20AC, 0x1F600]
    (∀ c ∈ source, isScalar c = true) ∧ (ofText source).identity = false ∧
      Utf8.offsetOf source 1 = 1 ∧ Utf8.offsetOf source 3 = 6 ∧
      (ofText source).charactersBefore 6 = 3 ∧
      Utf8.decode? (Text.slice (ofText source).bytes 1 6) = some [0xE9, 0x20AC] := by
  intro source
  have scalar : ∀ c ∈ source, isScalar c = true := by decide
  obtain ⟨_, carried, _, single, read⟩ := ofText_carries scalar
  refine ⟨scalar, ?_, rfl, rfl, (carried 3 (by decide)).1, read 1 3 (by decide)⟩
  rw [← Bool.not_eq_true, single]
  decide

end Respecify

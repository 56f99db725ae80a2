import Respecify.Text.Basic

/-!
# Ranges of a source text

A range runs from one offset of a text up to another one that does not come
before it.  Ranges are built from arbitrary integers, so building one can
fail.
-/

namespace Respecify

/-- What makes two integers no range; the word says what the range was for. -/
structure RangeError where
  purpose : String
  start : Int
  stop : Int
deriving DecidableEq, Repr

/-- The wording of the error. -/
def RangeError.message (error : RangeError) : Text :=
  text "Invalid " ++ text error.purpose ++ text " range: [" ++ Text.ofInt error.start ++
    text ", " ++ Text.ofInt error.stop ++ text ")"

/-- A stretch of a source text. -/
structure TextRange where
  start : Nat
  stop : Nat
  start_le_stop : start ≤ stop := by omega
deriving DecidableEq, Repr

/-- Ordered integers that are no less than zero stay ordered as naturals. -/
theorem toNat_le_toNat_of_ordered {start stop : Int} (ordered : 0 ≤ start ∧ start ≤ stop) :
    start.toNat ≤ stop.toNat := by
  omega

namespace TextRange

/-- The range between two integers; the first is no less than zero and no
greater than the second. -/
def ofInts? (start stop : Int) : Except RangeError TextRange :=
  if ordered : 0 ≤ start ∧ start ≤ stop then
    .ok ⟨start.toNat, stop.toNat, toNat_le_toNat_of_ordered ordered⟩
  else
    .error ⟨"source", start, stop⟩

/-- The number of characters of the range. -/
def length (range : TextRange) : Nat :=
  range.stop - range.start

/-- Does the range contain every character of another one, and its ends? -/
def contains (range other : TextRange) : Bool :=
  range.start ≤ other.start && other.stop ≤ range.stop

/-- The part of a text that the range covers. -/
def slice (range : TextRange) (source : Text) : Text :=
  source.slice range.start range.stop

/-- How a message shows the range. -/
def display (range : TextRange) : Text :=
  text "SourceRange(start=" ++ Text.ofNat range.start ++ text ", end=" ++
    Text.ofNat range.stop ++ text ")"

/-- The longest range whose length a machine word can hold. -/
def greatestLength : Nat := 0x7FFFFFFFFFFFFFFF

/-- The length of the range, if a machine word can hold it. -/
def length? (range : TextRange) : Option Nat :=
  if range.length ≤ greatestLength then some range.length else none

theorem ofInts?_eq_error_iff {start stop : Int} {error : RangeError} :
    ofInts? start stop = .error error ↔
      ¬(0 ≤ start ∧ start ≤ stop) ∧ error = ⟨"source", start, stop⟩ := by
  unfold ofInts?
  split
  · simp_all
  · simp_all [eq_comm]

end TextRange

end Respecify

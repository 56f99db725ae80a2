import Respecify.Text.Basic

/-!
# UTF-8

The byte form of texts; a byte is a number below 256.  Reading is one pass that yields a character or a
defect for each stretch of bytes: a defect is a longest stretch that starts
like a character and cannot be completed, or one byte that starts none.  The
strict reading accepts bytes without defects, and the lenient one puts a
replacement character for each.

The syntax trees of scripts count bytes and everything else counts
characters, so a `ByteIndex` carries offsets from one count to the other.
-/

namespace Respecify

namespace Utf8

/-- The bytes of one code point. -/
def encodeOne (c : Nat) : List Nat :=
  if c < 0x80 then [c]
  else if c < 0x800 then [0xC0 + c / 0x40, 0x80 + c % 0x40]
  else if c < 0x10000 then [0xE0 + c / 0x1000, 0x80 + c / 0x40 % 0x40, 0x80 + c % 0x40]
  else
    [0xF0 + c / 0x40000, 0x80 + c / 0x1000 % 0x40, 0x80 + c / 0x40 % 0x40, 0x80 + c % 0x40]

/-- The bytes of a text. -/
def encode (source : Text) : List Nat :=
  source.flatMap encodeOne

/-- The bytes of a text, if it holds no surrogate: those have none. -/
def encode? (source : Text) : Option (List Nat) :=
  if source.all isScalar then some (encode source) else none

/-- A character of which some bytes have been read: the bits read so far, the
number of bytes that are missing, and the least and the greatest next byte. -/
structure Partial where
  bits : Nat
  missing : Nat
  least : Nat
  greatest : Nat

/-- Read a byte that starts a character, or is one, or is a defect. -/
def readFirst (b : Nat) : List (Option Nat) × Option Partial :=
  if b < 0x80 then ([some b], none)
  else if b < 0xC2 then ([none], none)
  else if b < 0xE0 then ([], some ⟨b - 0xC0, 1, 0x80, 0xBF⟩)
  else if b < 0xF0 then
    ([], some ⟨b - 0xE0, 2, if b = 0xE0 then 0xA0 else 0x80, if b = 0xED then 0x9F else 0xBF⟩)
  else if b < 0xF5 then
    ([], some ⟨b - 0xF0, 3, if b = 0xF0 then 0x90 else 0x80, if b = 0xF4 then 0x8F else 0xBF⟩)
  else ([none], none)

/-- Read the next byte of a character; a byte that cannot belong to it makes
what was read a defect and starts anew. -/
def readNext (before : Partial) (b : Nat) : List (Option Nat) × Option Partial :=
  if before.least ≤ b && b ≤ before.greatest then
    let bits := before.bits * 0x40 + (b - 0x80)
    if before.missing ≤ 1 then ([some bits], none)
    else ([], some ⟨bits, before.missing - 1, 0x80, 0xBF⟩)
  else
    let (units, after) := readFirst b
    (none :: units, after)

/-- The characters and defects of a sequence of bytes that follows the start
of a character. -/
def unitsAfter : Option Partial → List Nat → List (Option Nat)
  | none, [] => []
  | some _, [] => [none]
  | none, b :: rest =>
      let (units, after) := readFirst b
      units ++ unitsAfter after rest
  | some before, b :: rest =>
      let (units, after) := readNext before b
      units ++ unitsAfter after rest

/-- The characters and defects of a sequence of bytes. -/
def units (bytes : List Nat) : List (Option Nat) :=
  unitsAfter none bytes

/-- The text of a sequence of bytes, if it has no defect. -/
def decode? (bytes : List Nat) : Option Text :=
  (units bytes).mapM id

/-- The text of a sequence of bytes, with a replacement character for each
defect. -/
def decodeLenient (bytes : List Nat) : Text :=
  (units bytes).map (·.getD 0xFFFD)

end Utf8

/-- A map from byte offsets in the UTF-8 form of a text to offsets in the text.
Where the two have one length, the offsets agree. -/
structure ByteIndex where
  bytes : List Nat
  identity : Bool

namespace ByteIndex

/-- The map for a text. -/
def ofText (source : Text) : ByteIndex :=
  let bytes := Utf8.encode source
  ⟨bytes, bytes.length == source.length⟩

/-- The number of characters before a byte offset, which lies between two
characters. -/
def charactersBefore (map : ByteIndex) (offset : Nat) : Nat :=
  if map.identity then offset else (Utf8.units (map.bytes.take offset)).length

end ByteIndex

end Respecify

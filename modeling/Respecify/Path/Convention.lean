import Respecify.Path.Basic

/-!
# When two paths mean the same script

Imports name scripts from the root.  The slash at the start and the extension
`.js` may be missing on both sides, and the specifier may still carry the old
root marker.
-/

namespace Respecify.Path

/-- Two names of the same file: they differ at most in the slash at the start. -/
def sameFile (one other : Text) : Bool :=
  rooted one == rooted other

/-- The name with the extension that an import may leave out. -/
def withExtension (name : Text) : Text :=
  if name.endsWith moduleExtension then name else name ++ moduleExtension

/-- Does the specifier name the module in the file of that name? -/
def namesModule (name specifier : Text) : Bool :=
  sameFile (withExtension name) (withExtension (specifier.dropStart rootMarker))

/-! ## Addresses outside the server -/

/-- A letter of the Latin alphabet without accents. -/
def isLatinLetter (c : Nat) : Bool :=
  (0x41 ≤ c && c ≤ 0x5A) || (0x61 ≤ c && c ≤ 0x7A)

/-- A character that may follow the first letter of a URL scheme. -/
def isSchemePart (c : Nat) : Bool :=
  isLatinLetter c || (0x30 ≤ c && c ≤ 0x39) || (text "+.-").contains c

/-- Does the specifier start with a URL scheme and a colon? -/
def isUrl : Text → Bool
  | [] => false
  | c :: rest => isLatinLetter c && (rest.dropWhile isSchemePart).head? == some 0x3A

/-! ## Laws -/

/-- A name means the same file as itself. -/
theorem sameFile_self (name : Text) : sameFile name name = true := by
  simp [sameFile]

/-- Being the same file does not depend on the order of the two names. -/
theorem sameFile_comm (one other : Text) :
    sameFile one other = sameFile other one := by
  simp only [sameFile, Bool.beq_comm]

/-- A slash at the start of a name does not change which file is meant. -/
theorem sameFile_rooted (one other : Text) :
    sameFile (rooted one) other = sameFile one other := by
  simp only [sameFile, rooted_rooted]

end Respecify.Path

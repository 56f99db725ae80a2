import Respecify.Record.Value
import Respecify.Text.Blank

/-!
# Reading records

A record is read field by field, and all that is wrong with it is told: each
issue says what is wrong and where.  Fields that are not asked for are passed
over.
-/

namespace Respecify

/-- What is wrong with a value. -/
inductive IssueKind where
  | missing
  | noText
  | noList
  | noRecord
  | noInteger
  | unreadableInteger
  | noChoice
deriving DecidableEq, Repr

/-- The word for what is wrong. -/
def IssueKind.label : IssueKind → String
  | .missing => "missing"
  | .noText => "string_type"
  | .noList => "list_type"
  | .noRecord => "model_type"
  | .noInteger => "int_type"
  | .unreadableInteger => "int_parsing"
  | .noChoice => "enum"

/-- One step from a value to a part of it. -/
inductive Step where
  | field (name : String)
  | item (index : Nat)
deriving DecidableEq, Repr

/-- Something that is wrong with a part of a value. -/
structure Issue where
  kind : IssueKind
  place : List Step
deriving DecidableEq, Repr

/-- The issue, seen from one step further out. -/
def Issue.inside (step : Step) (issue : Issue) : Issue :=
  { issue with place := step :: issue.place }

/-- What reading a value gives: all issues, if there are any. -/
abbrev Reading (α : Type) := Except (List Issue) α

namespace Reading

variable {α β : Type}

/-- A value that cannot be read. -/
def issue (kind : IssueKind) : Reading α :=
  .error [⟨kind, []⟩]

/-- The reading, seen from one step further out. -/
def inside (step : Step) : Reading α → Reading α
  | .ok value => .ok value
  | .error issues => .error (issues.map (Issue.inside step))

/-- Two readings; the issues of the first come first. -/
def both : Reading α → Reading β → Reading (α × β)
  | .ok first, .ok second => .ok (first, second)
  | .ok _, .error issues => .error issues
  | .error issues, .ok _ => .error issues
  | .error issues, .error others => .error (issues ++ others)

/-- Read each item of a list; the index is that of the first item. -/
def items (read : Value → Reading α) : Nat → List Value → Reading (List α)
  | _, [] => .ok []
  | index, value :: rest =>
      (both ((read value).inside (.item index)) (items read (index + 1) rest)).map
        fun (first, others) => first :: others

end Reading

/-! ## Digits -/

namespace Text

/-- The value of a decimal digit. -/
def digit? (c : Nat) : Option Nat :=
  if 0x30 ≤ c && c ≤ 0x39 then some (c - 0x30) else none

/-- The number with the given digits after those read so far.  Single
underscores may stand between digits. -/
def digits? (value : Nat) : Text → Option Nat
  | [] => some value
  | 0x5F :: c :: rest =>
      match digit? c with
      | some digit => digits? (10 * value + digit) rest
      | none => none
  | c :: rest =>
      match digit? c with
      | some digit => digits? (10 * value + digit) rest
      | none => none

/-- The number that a text of digits stands for. -/
def natural? : Text → Option Nat
  | [] => none
  | c :: rest =>
      match digit? c with
      | some digit => digits? digit rest
      | none => none

/-- The text without a decimal point and the zeros after it. -/
def dropZeroFraction (source : Text) : Text :=
  match source.dropWhile (· != 0x2E) with
  | _ :: fraction => if fraction.all (· == 0x30) then source.takeWhile (· != 0x2E) else source
  | [] => source

/-- The integer that a text stands for. -/
def integer? (source : Text) : Option Int :=
  match dropZeroFraction source.strip with
  | 0x2D :: rest => (natural? rest).map fun n => -(n : Int)
  | 0x2B :: rest => (natural? rest).map Int.ofNat
  | digits => (natural? digits).map Int.ofNat

end Text

/-! ## Values -/

namespace Value

/-- Read a text. -/
def readText : Value → Reading Text
  | .text value => .ok value
  | _ => .issue .noText

/-- Read a text that may be null. -/
def readText? : Value → Reading (Option Text)
  | .null => .ok none
  | .text value => .ok (some value)
  | _ => .issue .noText

/-- Read an integer; a text may stand for one, and a truth value stands for
zero or one. -/
def readInteger : Value → Reading Int
  | .number value => .ok value
  | .boolean value => .ok (if value then 1 else 0)
  | .text value =>
      match value.integer? with
      | some integer => .ok integer
      | none => .issue .unreadableInteger
  | _ => .issue .noInteger

/-- Read one of several words. -/
def readChoice {α : Type} (ofLabel? : Text → Option α) : Value → Reading α
  | .text value =>
      match ofLabel? value with
      | some choice => .ok choice
      | none => .issue .noChoice
  | _ => .issue .noChoice

/-- Read a list. -/
def readList {α : Type} (read : Value → Reading α) : Value → Reading (List α)
  | .list items => Reading.items read 0 items
  | _ => .issue .noList

/-- Read a record. -/
def readRecord {α : Type} (read : Members → Reading α) : Value → Reading α
  | .record members => read members
  | _ => .issue .noRecord

end Value

namespace Members

variable {α : Type}

/-- Read a field that has to be there. -/
def required (members : Members) (name : String) (read : Value → Reading α) : Reading α :=
  Reading.inside (.field name)
    (match members.lookup name with
    | some value => read value
    | none => .issue .missing)

/-- Read a field that may be missing. -/
def optional (members : Members) (name : String) (fallback : α) (read : Value → Reading α) :
    Reading α :=
  match members.lookup name with
  | some value => Reading.inside (.field name) (read value)
  | none => .ok fallback

end Members

end Respecify

import Respecify.JavaScript.Failure
import Respecify.JavaScript.Tree
import Respecify.Text.Blank
import Respecify.Text.Utf8

/-!
# Faults in a tree of malformed code

A parser that goes on after an error gives a tree in which some nodes are
errors, and others were missing in the text and put in.  Nodes are marked when
there is such a node below them, so that the search for the first one need not
look at the whole tree.  The first one tells how malformed code fails.
-/

namespace Respecify.JavaScript

/-! ## The first fault -/

/-- Where a node of a tree of malformed code stands. -/
structure NodePlace where
  /-- The byte offsets of its ends. -/
  start : Int
  stop : Int
  /-- The line and the column of its start, which start at zero. -/
  row : Int
  column : Int

/-- A node of a tree of malformed code. -/
inductive RecoveredTree where
  | node (kind : Text) (isError isMissing hasError : Bool) (children : List RecoveredTree)
    (place : NodePlace := ⟨0, 0, 0, 0⟩)

namespace RecoveredTree

/-- The kind of the node. -/
def kind : RecoveredTree → Text
  | node kind _ _ _ _ _ => kind

/-- The node is an error, or was missing in the text. -/
def isFault : RecoveredTree → Bool
  | node _ isError isMissing _ _ _ => isError || isMissing

mutual

/-- The first fault of a tree; only below marked nodes is it looked for. -/
def firstFault? : RecoveredTree → Option RecoveredTree
  | node kind isError isMissing hasError children place =>
      if isError || isMissing then some (node kind isError isMissing hasError children place)
      else if hasError then firstFaultAmong? children
      else none

/-- The first fault of several trees. -/
def firstFaultAmong? : List RecoveredTree → Option RecoveredTree
  | [] => none
  | tree :: rest =>
      match firstFault? tree with
      | some fault => some fault
      | none => firstFaultAmong? rest

end

mutual

/-- All nodes of a tree, each before those below it. -/
def nodes : RecoveredTree → List RecoveredTree
  | node kind isError isMissing hasError children place =>
      node kind isError isMissing hasError children place :: nodesAmong children

/-- All nodes of several trees. -/
def nodesAmong : List RecoveredTree → List RecoveredTree
  | [] => []
  | tree :: rest => nodes tree ++ nodesAmong rest

end

end RecoveredTree

/-! ## The wording of a fault -/

/-- A node that is an error, or was missing in the text. -/
structure FaultyNode where
  kind : Text
  isMissing : Bool
  place : NodePlace

namespace FaultyNode

/-- An offset into a sequence of that length.  A negative one counts from the
end, and one outside the sequence stands for its nearest end. -/
def offset (length : Nat) (position : Int) : Nat :=
  min length (if position < 0 then (length + position).toNat else position.toNat)

/-- The text of the node, without blanks at its ends. -/
def snippet (bytes : List Nat) (node : FaultyNode) : Text :=
  let covered :=
    (bytes.take (offset bytes.length node.place.stop)).drop
      (offset bytes.length node.place.start)
  (Utf8.decodeLenient covered).strip

/-- The number of characters up to which a text is shown in full. -/
def shownLength : Nat := 40

/-- The text, cut where it is too long to be shown in full. -/
def shorten (part : Text) : Text :=
  if shownLength < part.length then part.take shownLength ++ text "..." else part

/-- What is wrong at the node. -/
def fault (bytes : List Nat) (node : FaultyNode) : Fault :=
  if node.isMissing then .missing node.kind
  else
    match node.snippet bytes with
    | [] => .malformed
    | part => .unexpected (shorten part)

/-- The failure that shows at the node. -/
def failure (bytes : List Nat) (node : FaultyNode) : Failure :=
  ⟨node.fault bytes, some ⟨node.place.row + 1, node.place.column + 1⟩⟩

end FaultyNode

/-- The node as a fault. -/
def RecoveredTree.faulty : RecoveredTree → FaultyNode
  | node kind _ isMissing _ _ place => ⟨kind, isMissing, place⟩

/-- The failure of malformed code, given its bytes and the tree to which a parser
recovers: it shows at the first fault, if there is a tree that has one. -/
def RecoveredTree.failureOf (bytes : List Nat) (recovered : Option RecoveredTree) : Failure :=
  match recovered.bind firstFault? with
  | some fault => fault.faulty.failure bytes
  | none => ⟨.malformed, none⟩

/-! ## Parsers -/

/-- A parser of scripts. -/
structure ScriptParser where
  /-- The tree of a text, or `none` where the text is no script. -/
  tree? : List Char → Option Tree
  /-- The tree to which the parser recovers where the text is no script, if it goes
  on after an error. -/
  recovered? : List Char → Option RecoveredTree := fun _ => none

/-- A parser that does not go on after an error. -/
instance : Coe (List Char → Option Tree) ScriptParser :=
  ⟨fun tree? => { tree? }⟩

end Respecify.JavaScript

import Respecify.Text.Utf8
import Respecify.JavaScript.Failure
import Respecify.JavaScript.Tree

/-!
# The source of a tree

A tree refers to its source by byte offsets.  A `Source` answers what those
stand for: the text of a node, and the line and column of its start.
-/

namespace Respecify.JavaScript

/-- A text that is parsed, with its UTF-8 form. -/
structure Source where
  text : Text
  bytes : List Nat

namespace Source

/-- The source with a given text. -/
def ofText (text : Text) : Source :=
  ⟨text, Utf8.encode text⟩

/-- The text that a node covers. -/
def textOf (source : Source) (span : Span) : Text :=
  Utf8.decodeLenient ((source.bytes.take span.stop).drop span.start)

/-- The line on which a byte offset lies: one more than the line feeds before
it. -/
def lineOf (source : Source) (offset : Nat) : Nat :=
  (source.bytes.take offset).count lineFeed + 1

/-- The column of a byte offset: one more than the bytes between it and the
start of its line. -/
def columnOf (source : Source) (offset : Nat) : Nat :=
  ((source.bytes.take offset).reverse.takeWhile (· != lineFeed)).length + 1

/-- The position of a byte offset. -/
def positionOf (source : Source) (offset : Nat) : Position :=
  ⟨source.lineOf offset, source.columnOf offset⟩

/-- A fault that shows at the start of a node. -/
def failure (source : Source) (fault : Fault) (tree : Tree) : Failure :=
  ⟨fault, some (source.positionOf tree.span.start)⟩

end Source

end Respecify.JavaScript

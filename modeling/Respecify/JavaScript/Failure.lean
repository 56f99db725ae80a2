import Respecify.Text.Quoted

/-!
# Why a script cannot be parsed

A failure has a fault and, where the fault belongs to one place of the script,
the position of that place.
-/

namespace Respecify.JavaScript

/-- What is wrong with a script. -/
inductive Fault where
  /-- The text holds a surrogate. -/
  | invalidCharacter (c : Nat)
  /-- The text is not generated by the grammar. -/
  | malformed
  /-- The text is not generated by the grammar, and this part of it is where
  that shows. -/
  | unexpected (part : Text)
  /-- The text would be generated by the grammar if this were inserted. -/
  | missing (kind : Text)
  /-- A `return` stands outside functions. -/
  | strayReturn
  /-- A `with` statement, which module code may not hold. -/
  | withStatement
  /-- An element of markup. -/
  | markup
  /-- A name is bound twice at the top of the script. -/
  | redeclared (name : Text)
  /-- An import declaration stands inside another statement. -/
  | nestedImport
deriving DecidableEq, Repr

/-- The wording of a fault. -/
def Fault.message : Fault → Text
  | .invalidCharacter c =>
      text "Invalid character " ++ Text.quoted [c] ++ text " (surrogates not allowed)"
  | .malformed => text "Unexpected token"
  | .unexpected part => text "Unexpected token " ++ Text.quoted part
  | .missing kind => text "Missing " ++ Text.quoted kind
  | .strayReturn => text "'return' outside of function"
  | .withStatement => text "'with' in strict mode"
  | .markup => text "Unexpected token '<'"
  | .redeclared name => text "Identifier '" ++ name ++ text "' has already been declared"
  | .nestedImport => text "'import' and 'export' may only appear at the top level"

/-- A place in a script: its line and column, which start at one. -/
structure Position where
  line : Int
  column : Int
deriving DecidableEq, Repr

/-- Why a script cannot be parsed. -/
structure Failure where
  fault : Fault
  position : Option Position
deriving DecidableEq, Repr

/-- The wording of a failure. -/
def Failure.message (failure : Failure) : Text :=
  text "Error processing script for migration, parse error: " ++ failure.fault.message ++
    match failure.position with
    | none => []
    | some position =>
        text " (" ++ Text.ofInt position.line ++ text ":" ++ Text.ofInt position.column ++ text ")"

end Respecify.JavaScript

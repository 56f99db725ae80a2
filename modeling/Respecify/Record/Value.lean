import Respecify.Text.Basic

/-!
# Loosely typed values

Records come from outside as values of any shape and are read field by field.
-/

namespace Respecify

/-- A value of any shape. -/
inductive Value where
  | null
  | boolean (value : Bool)
  | number (value : Int)
  | text (value : Text)
  | list (items : List Value)
  | record (members : List (String × Value))

/-- The members of a record, by their names. -/
abbrev Members := List (String × Value)

end Respecify

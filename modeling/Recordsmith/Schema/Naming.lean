import Recordsmith.Text.Words

/-!
# `Recordsmith.Schema.Naming`: styles of record field names

The fields of a record are named after the fields of the domain type, in a
style that the declaration chooses for all of them.
-/

set_option autoImplicit false

namespace Recordsmith.Schema

/-- A style of names. -/
inductive NamingStyle where
  | preserve
  | camel
  | pascal
  | snake
  deriving DecidableEq, Repr

namespace NamingStyle

/-- The style that a word stands for. -/
def ofWord? : String → Option NamingStyle
  | "preserve" => some .preserve
  | "camelCase" => some .camel
  | "PascalCase" => some .pascal
  | "snake_case" => some .snake
  | _ => none

/-- A name in the style. -/
def apply : NamingStyle → String → String
  | .preserve, name => name
  | .camel, name => String.ofList (Text.camel name.toList)
  | .pascal, name => String.ofList (Text.pascal name.toList)
  | .snake, name => String.ofList (Text.snake name.toList)

end NamingStyle

end Recordsmith.Schema

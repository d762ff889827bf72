import Recordsmith.Emit.AliasItem
import Recordsmith.Emit.RecordItem
import Recordsmith.Emit.TranslatorItem

/-!
# `Recordsmith.Emit.Expansion`: what is generated from a declaration

The three items that are generated from one declaration, as text.
-/

set_option autoImplicit false

namespace Recordsmith.Emit

open Recordsmith.Source Recordsmith.Schema

/-- The text of the generated items. -/
structure Expansion where
  record : String
  translator : String
  typeAlias : String
  deriving DecidableEq, Repr

/-- The items that are generated from a schema. -/
def Expansion.of (schema : Schema) : Expansion where
  record := Tree.print (RecordItem.of schema).trees
  translator := Tree.print (TranslatorItem.of schema).trees
  typeAlias := Tree.print (AliasItem.of schema).trees

/-- The items that are generated from the declaration that a text spells. -/
def Expansion.ofText (text : String) : Except Refusal Expansion :=
  (Schema.ofText text).map Expansion.of

end Recordsmith.Emit

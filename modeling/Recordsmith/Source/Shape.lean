import Recordsmith.Source.Attribute
import Recordsmith.Source.TypeExpr

/-!
# `Recordsmith.Source.Shape`: the shape of a declared type

A declared type has fields with names, fields without names, or none, or
it is an enumeration or a union. Only the fields of structures are kept.
-/

set_option autoImplicit false

namespace Recordsmith.Source

/-- A field. Fields of tuples have no name. -/
structure Field where
  attributes : List Attribute
  name : Option Ident
  type : TypeExpr

/-- The shape of a declared type. -/
inductive Shape where
  | named (fields : List Field)
  | unnamed (fields : List Field)
  | unit
  | enumeration
  | union

end Recordsmith.Source

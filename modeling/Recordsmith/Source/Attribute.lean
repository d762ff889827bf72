import Recordsmith.Source.Expression

/-!
# `Recordsmith.Source.Attribute`: attributes and the items in them

An attribute such as `#[doc = "x"]` has a path and a form: the path alone,
a list between delimiters, or a value. The list is kept as trees, since
what may stand in it is up to the reader of the attribute. A list that
holds items of the same forms is read as `MetaItem`s.
-/

set_option autoImplicit false

namespace Recordsmith.Source

/-- What follows the path of an attribute or item. -/
inductive MetaForm where
  | word
  | list (trees : List Tree)
  | value (form : ExpressionForm)

/-- An attribute. -/
structure Attribute where
  leading : Bool
  path : List Ident
  form : MetaForm

/-- One item of a list. -/
inductive MetaItem where
  | literal
  | entry (path : List Ident) (form : MetaForm)

namespace Attribute

/-- Whether the path of an attribute is the given word and nothing else. -/
def isNamed (attr : Attribute) (word : String) : Bool :=
  !attr.leading && attr.path.map Ident.spelled == [word]

/-- The text of a documentation attribute: its value, if that is a string. -/
def doc? (attr : Attribute) : Option String :=
  if attr.isNamed "doc" then
    match attr.form with
    | .value (.literal (.string text)) => some text
    | _ => none
  else none

end Attribute

end Recordsmith.Source

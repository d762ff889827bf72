import Recordsmith.Source.Attribute
import Recordsmith.Text.Blank

/-!
# `Recordsmith.Schema.Docs`: documentation of a declaration

The documentation of an item is the text of its documentation attributes,
each trimmed, one a line, trimmed as a whole. Its summary is the first line
with anything on it. An item whose attributes hold blanks only has neither.
-/

set_option autoImplicit false

namespace Recordsmith.Schema.Docs

open Recordsmith.Source (Attribute)
open Recordsmith.Text (trim)

/-- The texts of the documentation attributes among some attributes. -/
def values (attributes : List Attribute) : List (List Char) :=
  attributes.filterMap fun attr => attr.doc?.map String.toList

/-- Texts trimmed, put one a line, and trimmed as a whole. -/
def joined (values : List (List Char)) : List Char :=
  trim (List.intercalate ['\n'] (values.map trim))

/-- The first line that is not blank, trimmed. -/
def firstLine? (text : List Char) : Option (List Char) :=
  ((text.splitOn '\n').map trim).find? fun line => !line.isEmpty

/-- The whole documentation. -/
def comments? (attributes : List Attribute) : Option String :=
  let text := joined (values attributes)
  if text.isEmpty then none else some (String.ofList text)

/-- The first line of the documentation. -/
def summary? (attributes : List Attribute) : Option String :=
  (comments? attributes).bind fun text => (firstLine? text.toList).map String.ofList

end Recordsmith.Schema.Docs

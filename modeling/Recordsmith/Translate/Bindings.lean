import Recordsmith.Data.Codec
import Recordsmith.Schema.Basic
import Recordsmith.Schema.Plan
import Recordsmith.Translate.Translator

/-!
# `Recordsmith.Translate.Bindings`: what types mean at run time

A schema knows types by their names. `Bindings` say what stands behind the
names: the raw values of enumerations, the texts of addresses, zero and
default values, and the translators of nested types. A nested type is
translated by its own schema or by a translator made by hand (`Handler`).
-/

set_option autoImplicit false

namespace Recordsmith

open Recordsmith.Source Recordsmith.Schema

/-- The way a domain type is translated. -/
inductive Handler where
  /-- By its schema. -/
  | derived (schema : Schema)
  /-- By a translator made by hand. -/
  | custom (translator : Translator)

/-- The meaning of types. -/
structure Bindings where
  rawEnum : TypeExpr → RawEnum
  textForm : TypeExpr → TextForm
  /-- The zero value of the elements of a record field. -/
  zero : StoredElement → Value
  /-- The value that a field of a type has when nothing sets it. -/
  defaultValue : TypeExpr → Value
  /-- The way a nested type is translated, by the name of its translator. -/
  handler : TypeExpr → Handler

/-- The cell that a property starts with. -/
def freshCell (bindings : Bindings) (property : Property) : Cell :=
  match property.kind with
  | .nested _ _ => if property.isArray then .rows [] else .row none
  | _ =>
    match DefaultValue.of property with
    | .zero element => .plain (bindings.zero element)
    | .nullBox => .boxed .null
    | .absent => .optional none
    | .emptyList => .list .empty

/-- The record that a domain type starts with. -/
def Handler.fresh (bindings : Bindings) : Handler → Row
  | .derived schema => .mk .empty (schema.properties.map (freshCell bindings))
  | .custom translator => translator.fresh

namespace Schema.Transfer

/-- Reads one element. -/
def load (bindings : Bindings) (transfer : Transfer) (stored : Value) (label : String) :
    Run Value :=
  match transfer with
  | .raw enumeration => (bindings.rawEnum enumeration).expect stored label
  | .text type => (bindings.textForm type).expect (storedText stored) label
  | .copy => .done stored

/-- Reads the elements of a list, less those that are not valid. -/
def loadAll (bindings : Bindings) (transfer : Transfer) (stored : List Value)
    (label : String) : Run (List Value) :=
  match transfer with
  | .raw enumeration => (bindings.rawEnum enumeration).keepValid label stored
  | .text type => (bindings.textForm type).keepValid label (stored.map storedText)
  | .copy => .done stored

/-- The raw value that stands for nothing stored. -/
def defaultRaw (bindings : Bindings) : Transfer → Value
  | .raw enumeration => (bindings.rawEnum enumeration).defaultRaw
  | _ => default

/-- The stored form of one element. -/
def store (bindings : Bindings) (transfer : Transfer) (value : Value) : Value :=
  match transfer with
  | .raw enumeration => (bindings.rawEnum enumeration).rawOf value
  | .text type => .text ((bindings.textForm type).print value)
  | .copy => value

end Schema.Transfer

end Recordsmith

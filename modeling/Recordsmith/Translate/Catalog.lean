import Recordsmith.Data.Enumeration
import Recordsmith.Data.TextForms
import Recordsmith.Translate.Derived
import Recordsmith.Translate.Meaning

/-!
# `Recordsmith.Translate.Catalog`: domain types that know each other

A catalog lists enumerations and domain types. It says what types mean
(`Catalog.bindings`), so its domain types can hold each other, and
themselves, to any depth.

A domain type comes with two schemas, one for its own fields and one for
those of its record. For a type whose translator is derived they are the
same.
-/

set_option autoImplicit false

namespace Recordsmith

open Recordsmith.Source Recordsmith.Schema

/-- A domain type in a catalog. -/
structure DomainType where
  /-- The fields of the domain values. -/
  schema : Schema
  /-- The fields of the records. -/
  stored : Schema
  handler : Handler

namespace DomainType

/-- The domain type of a declaration, translated by its schema. -/
def derived? (declaration : String) : Option DomainType :=
  (Schema.ofText declaration).toOption.map fun schema => ⟨schema, schema, .derived schema⟩

/-- The domain type of two declarations, one for its values and one for its
records, with a translator made by hand. -/
def custom? (declaration stored : String) (translator : Translator) : Option DomainType := do
  let schema ← (Schema.ofText declaration).toOption
  let stored ← (Schema.ofText stored).toOption
  return ⟨schema, stored, .custom translator⟩

end DomainType

/-- Enumerations and domain types. -/
structure Catalog where
  enumerations : List Enumeration
  domains : List DomainType

namespace Catalog

/-- The enumeration with a name. -/
def enumeration? (catalog : Catalog) (name : String) : Option Enumeration :=
  catalog.enumerations.find? fun enumeration => enumeration.name == name

/-- The domain type with a name. -/
def domain? (catalog : Catalog) (name : String) : Option DomainType :=
  catalog.domains.find? fun domain => domain.schema.name.spelled == name

/-- The domain type whose translator has a name. -/
def translatedBy? (catalog : Catalog) (name : String) : Option DomainType :=
  catalog.domains.find? fun domain => domain.schema.translator.spelled == name

/-- The enumeration that a type names. -/
def enumerationOf? (catalog : Catalog) (type : TypeExpr) : Option Enumeration :=
  type.lastName?.bind fun name => catalog.enumeration? name.spelled

/-- The type of values that a type means. -/
def dataType (catalog : Catalog) (type : TypeExpr) : DataType :=
  (DataType.ofExpr? (catalog.enumerations.map (·.name)) type).getD default

/-- The type of values that the elements of a record field have. -/
def storedType (catalog : Catalog) : StoredElement → DataType
  | .raw enumeration => ((catalog.enumerationOf? enumeration).map (·.rawType)).getD default
  | .record _ => default
  | .text => .text
  | .same type => catalog.dataType type

/-- An enumeration without variants. -/
def unknownEnumeration : Enumeration :=
  ⟨"", default, []⟩

/-- The translator of a type that is not in a catalog: it refuses all. -/
def unknownTranslator (name : String) : Translator where
  fresh := default
  read _ := .fail (.misshapen name)
  write _ row := .fail row (.misshapen name)

/-- What the types mean. -/
def bindings (catalog : Catalog) : Bindings where
  rawEnum type := ((catalog.enumerationOf? type).getD unknownEnumeration).rawEnum
  textForm type := (TextForm.of? (catalog.dataType type)).getD TextForm.ofText
  zero element := (catalog.storedType element).zero?.getD default
  defaultValue type := (catalog.dataType type).defaultValue
  handler type :=
    match type.lastName?.bind fun name => catalog.translatedBy? name.spelled with
    | some domain => domain.handler
    | none => .custom (unknownTranslator type.print)

/-- The translator of a domain type. -/
def translator (catalog : Catalog) (domain : DomainType) : Translator :=
  domain.handler.translator catalog.bindings

end Catalog

end Recordsmith

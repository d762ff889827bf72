import Recordsmith.Emit.Terms
import Recordsmith.Schema.Basic

/-!
# `Recordsmith.Emit.RecordItem`: the generated record

The record of a domain type: a structure with the identity and one field
for each property, its default value, and access to its identity.
`RecordItem.of` decides what stands in it, and `RecordItem.trees` spells it
out.
-/

set_option autoImplicit false

namespace Recordsmith.Emit

open Recordsmith.Source Recordsmith.Source.Tree Recordsmith.Schema

/-- A field of a record. -/
structure RecordField where
  doc : Option String
  name : Ident
  type : StoredType

/-- A generated record. -/
structure RecordItem where
  doc : String
  visibility : List Tree
  name : Ident
  /-- Whether names that are not in snake case have to be allowed. -/
  allowsNames : Bool
  identity : Ident
  fields : List RecordField
  defaults : List (Ident × DefaultValue)

namespace RecordItem

/-- The documentation of the record. -/
def docOf (schema : Schema) : String :=
  match schema.doc with
  | some summary =>
    "Persisted record of [`" ++ schema.name.spelled ++ "`]: " ++ summary
  | none => "Persisted record of [`" ++ schema.name.spelled ++ "`]."

/-- The record of a schema. -/
def of (schema : Schema) : RecordItem where
  doc := docOf schema
  visibility := schema.visibility
  name := schema.record
  allowsNames := schema.hasNonSnakeNames
  identity := schema.identityModel
  fields := schema.properties.map fun property =>
    ⟨property.doc, property.modelName, StoredType.of property⟩
  defaults := schema.properties.map fun property =>
    (property.modelName, DefaultValue.of property)

/-- A field as trees. -/
def fieldTrees (field : RecordField) : List Tree :=
  (field.doc.map documented).getD [] ++ [word "pub", .ident field.name] ++ phrase ":" ++
    storedTypeTrees field.type

/-- The documentation of the identity, as it is written in every record. -/
def identityDoc : List Tree :=
  attributed (phrase "doc =" ++ [.literal "r\" Stable key shared with the domain value.\""])

/-- The structure. -/
def structureTrees (item : RecordItem) : List Tree :=
  let identity :=
    identityDoc ++ [word "pub", .ident item.identity] ++ phrase ":" ++ support "Identity"
  documented item.doc ++ listed "derive" ["Debug", "Clone", "PartialEq"] ++
    (if item.allowsNames then listed "allow" ["non_snake_case"] else []) ++
    item.visibility ++ [word "struct", .ident item.name,
      braces (commaTerminated (identity :: item.fields.map fieldTrees))]

/-- The default value. -/
def defaultImplTrees (item : RecordItem) : List Tree :=
  let identity :=
    [.ident item.identity] ++ phrase ":" ++ call (support "Identity :: default") []
  let others := item.defaults.map fun (name, value) =>
    [.ident name] ++ phrase ":" ++ defaultTrees value
  phrase "impl :: core :: default :: Default for" ++ [.ident item.name,
    braces (phrase "fn default" ++ [parens []] ++ phrase "-> Self" ++
      [braces [word "Self", braces (commaTerminated (identity :: others))]])]

/-- The access to the identity. -/
def identityImplTrees (item : RecordItem) : List Tree :=
  let field := phrase "self ." ++ [.ident item.identity]
  let reader := phrase "fn identity" ++ [parens (phrase "& self")] ++ phrase "-> &" ++
    support "Identity" ++ [braces (phrase "&" ++ field)]
  let writer := phrase "fn set_identity" ++
    [parens (phrase "& mut self , identity :" ++ support "Identity"),
      braces (field ++ phrase "= identity ;")]
  [word "impl"] ++ support "Record" ++ [word "for", .ident item.name, braces (reader ++ writer)]

/-- The whole item. -/
def trees (item : RecordItem) : List Tree :=
  item.structureTrees ++ item.defaultImplTrees ++ item.identityImplTrees

end RecordItem

end Recordsmith.Emit

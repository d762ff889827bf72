import Recordsmith.Emit.Terms
import Recordsmith.Schema.Basic

/-!
# `Recordsmith.Emit.AliasItem`: the generated alias

The alias names the type of repositories for a domain type. It has one
parameter, the type of the store, with the store in memory as its default.
The item also gives access to the identity of the domain type.
-/

set_option autoImplicit false

namespace Recordsmith.Emit

open Recordsmith.Source Recordsmith.Source.Tree Recordsmith.Schema

/-- A generated alias. -/
structure AliasItem where
  doc : String
  visibility : List Tree
  name : Ident
  parameter : Ident
  default : TypeTerm
  body : TypeTerm
  domain : Ident
  identity : Ident

namespace AliasItem

/-- The alias of a schema. -/
def of (schema : Schema) : AliasItem where
  doc := "Data-access object for [`" ++ schema.name.spelled ++ "`]."
  visibility := schema.visibility
  name := schema.typeAlias
  parameter := .plain "S"
  default := .supported "MemoryStore" [.named schema.record]
  body := .supported "Dao" [.named schema.name, .named schema.record,
    .named schema.translator, .named (.plain "S")]
  domain := schema.name
  identity := schema.identity

/-- Puts a closing angle bracket right behind trees that end in one. -/
def closedTogether : List Tree → List Tree
  | [] => phrase ">"
  | [.punct char _] => [.punct char true, .punct '>' false]
  | tree :: rest => tree :: closedTogether rest

/-- The alias itself. -/
def aliasTrees (item : AliasItem) : List Tree :=
  documented item.doc ++ item.visibility ++ [word "type", .ident item.name] ++ phrase "<" ++
    [.ident item.parameter] ++ phrase "=" ++ closedTogether item.default.trees ++ phrase "=" ++
    item.body.trees ++ phrase ";"

/-- The access to the identity. -/
def identityTrees (item : AliasItem) : List Tree :=
  [word "impl"] ++ support "Persistable" ++ [word "for", .ident item.domain,
    braces (phrase "fn identity" ++ [parens (phrase "& self")] ++ phrase "-> &" ++
      support "Identity" ++ [braces (phrase "& self ." ++ [.ident item.identity])])]

/-- The whole item. -/
def trees (item : AliasItem) : List Tree :=
  item.aliasTrees ++ item.identityTrees

end AliasItem

end Recordsmith.Emit

import Recordsmith.Emit.Expansion

/-!
# `Recordsmith.Proofs.Emit.Layout`: generated items tree by tree

The generated items are put together from phrases, calls and lists. Here each of them is
written down once more as it stands in the text, tree by tree, with places for what differs
from one declaration to the next. `RecordLayout`, `TranslatorLayout` and `AliasLayout` are
these places, and their `trees` are the text around them.

`RecordItem.trees_eq`, `TranslatorItem.trees_eq` and `AliasItem.trees_eq` say that the items
are laid out so, from the first tree to the last. Whatever is said of the places of a layout
is thereby said of what is printed, and in words that do not come from the code that prints
it.
-/

set_option autoImplicit false

namespace Recordsmith.Emit

open Recordsmith.Source Recordsmith.Source.Tree Recordsmith.Schema

/-! ### Plain trees -/

/-- Names with two colons before each: an absolute path, or what follows in a path. -/
def colons (names : List String) : List Tree :=
  names.flatMap fun name => [.punct ':' true, .punct ':' false, word name]

/-- The arrow in front of the type of a result. -/
def arrow : List Tree :=
  [.punct '-' true, .punct '>' false]

/-- Attributes by what stands in their brackets. -/
def attributeTrees (attributes : List (List Tree)) : List Tree :=
  attributes.flatMap fun body => [.punct '#' false, .group .bracket body]

/-- Entries with a comma behind each. -/
def entryTrees (entries : List (List Tree)) : List Tree :=
  entries.flatMap fun entry => entry ++ [.punct ',' false]

/-- A field with its default value, `name : :: core :: default :: Default :: default ()`. -/
def byDefault (name : Ident) : List Tree :=
  .ident name :: .punct ':' false :: (colons ["core", "default", "Default", "default"] ++
    [.group .paren []])

/-- A field with a copy of the identity of the record, `name : :: core :: clone :: Clone ::
clone (:: dao_core :: Record :: identity (record))`. -/
def byIdentity (name : Ident) : List Tree :=
  .ident name :: .punct ':' false :: (colons ["core", "clone", "Clone", "clone"] ++
    [.group .paren (colons ["dao_core", "Record", "identity"] ++ [.group .paren [word "record"]])])

/-- A function of a type that is a translator, `< Type as :: dao_core :: Translator > ::
function`. -/
def translatorMember (type : List Tree) (function : String) : List Tree :=
  .punct '<' false :: (type ++ (word "as" :: (colons ["dao_core", "Translator"] ++
    .punct '>' false :: colons [function])))

/-! ### Records -/

/-- The places of a record: the entries of its structure, those of its default value, and the
field that is its identity. -/
structure RecordLayout where
  attributes : List (List Tree)
  visibility : List Tree
  name : Ident
  fields : List (List Tree)
  initializers : List (List Tree)
  identity : Ident

namespace RecordLayout

/-- The structure. -/
def structureTrees (layout : RecordLayout) : List Tree :=
  [word "struct", .ident layout.name, .group .brace (entryTrees layout.fields)]

/-- The implementation of the default value. -/
def defaultTrees (layout : RecordLayout) : List Tree :=
  word "impl" :: (colons ["core", "default", "Default"] ++ [word "for", .ident layout.name,
    .group .brace ([word "fn", word "default", .group .paren []] ++ arrow ++ [word "Self",
      .group .brace [word "Self", .group .brace (entryTrees layout.initializers)]])])

/-- The implementation of the access to the identity. -/
def identityTrees (layout : RecordLayout) : List Tree :=
  word "impl" :: (colons ["dao_core", "Record"] ++ [word "for", .ident layout.name,
    .group .brace ([word "fn", word "identity",
        .group .paren [.punct '&' false, word "self"]] ++ arrow ++
      .punct '&' false :: (colons ["dao_core", "Identity"] ++ [.group .brace [.punct '&' false,
        word "self", .punct '.' false, .ident layout.identity],
      word "fn", word "set_identity", .group .paren ([.punct '&' false, word "mut", word "self",
        .punct ',' false, word "identity", .punct ':' false] ++ colons ["dao_core", "Identity"]),
      .group .brace [word "self", .punct '.' false, .ident layout.identity, .punct '=' false,
        word "identity", .punct ';' false]]))])

/-- The whole record. -/
def trees (layout : RecordLayout) : List Tree :=
  attributeTrees layout.attributes ++ (layout.visibility ++
    (layout.structureTrees ++ layout.defaultTrees ++ layout.identityTrees))

end RecordLayout

/-- What stands in the places of a record. -/
def RecordItem.layout (item : RecordItem) : RecordLayout where
  attributes := [phrase "doc =" ++ [string item.doc],
      [word "derive", parens (commaSeparated [[word "Debug"], [word "Clone"],
        [word "PartialEq"]])]] ++
    if item.allowsNames then [[word "allow", parens [word "non_snake_case"]]] else []
  visibility := item.visibility
  name := item.name
  fields := (RecordItem.identityDoc ++ [word "pub", .ident item.identity] ++ phrase ":" ++
    support "Identity") :: item.fields.map RecordItem.fieldTrees
  initializers := ([.ident item.identity] ++ phrase ":" ++
      call (support "Identity :: default") []) ::
    item.defaults.map fun (name, value) => [.ident name] ++ phrase ":" ++ defaultTrees value
  identity := item.identity

/-- A record is laid out as its structure, its default value and the access to its identity. -/
theorem RecordItem.trees_eq (item : RecordItem) : item.trees = item.layout.trees := by
  have hdefault : item.defaultImplTrees = item.layout.defaultTrees := rfl
  have hidentity : item.identityImplTrees = item.layout.identityTrees := rfl
  unfold RecordItem.trees RecordItem.structureTrees RecordLayout.trees
  rw [hdefault, hidentity]
  simp only [List.append_assoc]
  -- With the names known to be allowed or not, both sides are the same list of trees.
  cases hallows : item.allowsNames with
  | false => simp only [RecordItem.layout, hallows]; rfl
  | true => simp only [RecordItem.layout, hallows]; rfl

/-! ### Translators -/

/-- The places of a translator: the initializers of the value that is read, the attributes of
the function that writes, and the blocks of statements in it. -/
structure TranslatorLayout where
  attributes : List (List Tree)
  visibility : List Tree
  name : Ident
  domain : Ident
  record : Ident
  initializers : List (List Tree)
  lints : List (List Tree)
  blocks : List (List Tree)

namespace TranslatorLayout

/-- The function that reads a record. -/
def readerTrees (layout : TranslatorLayout) : List Tree :=
  [word "fn", word "from_record", .group .paren [word "record", .punct ':' false, .punct '&' false,
      .ident layout.record]] ++ arrow ++ colons ["dao_core", "Result"] ++
    [.punct '<' false, .ident layout.domain, .punct '>' false,
      .group .brace (colons ["core", "result", "Result", "Ok"] ++ [.group .paren [
        .ident layout.domain, .group .brace (entryTrees layout.initializers)]])]

/-- The function that writes a record. -/
def writerTrees (layout : TranslatorLayout) : List Tree :=
  attributeTrees layout.lints ++ ([word "fn", word "write_record",
      .group .paren [word "domain", .punct ':' false, .punct '&' false, .ident layout.domain,
        .punct ',' false, word "record", .punct ':' false, .punct '&' false, word "mut",
        .ident layout.record]] ++ arrow ++ colons ["dao_core", "Result"] ++
    [.punct '<' false, .group .paren [], .punct '>' false,
      .group .brace (layout.blocks.flatten ++ (colons ["core", "result", "Result", "Ok"] ++
        [.group .paren [.group .paren []]]))])

/-- The whole translator. -/
def trees (layout : TranslatorLayout) : List Tree :=
  attributeTrees layout.attributes ++ (layout.visibility ++
    [word "struct", .ident layout.name, .punct ';' false, word "impl"] ++
    colons ["dao_core", "Translator"] ++ [word "for", .ident layout.name, .group .brace (
      [word "type", word "Domain", .punct '=' false, .ident layout.domain, .punct ';' false,
        word "type", word "Record", .punct '=' false, .ident layout.record, .punct ';' false] ++
      (layout.readerTrees ++ layout.writerTrees))])

end TranslatorLayout

/-- What stands in the places of a translator. -/
def TranslatorItem.layout (item : TranslatorItem) : TranslatorLayout where
  attributes := [phrase "doc =" ++ [string item.doc],
    [word "derive", parens (commaSeparated [[word "Debug"], [word "Clone"], [word "Copy"],
      [word "Default"]])]]
  visibility := item.visibility
  name := item.name
  domain := item.domain
  record := item.record
  initializers := TranslatorItem.identityTrees item.identity ::
    item.skipped.map TranslatorItem.skippedTrees ++ item.reads.map TranslatorItem.fieldReadTrees
  lints := if item.writes.isEmpty then [[word "allow", parens [word "unused_variables"]]] else []
  blocks := item.writes.map fun write =>
    TranslatorItem.writeTrees write.plan write.name write.target

/-- A translator is laid out as its declaration and the two functions. -/
theorem TranslatorItem.trees_eq (item : TranslatorItem) : item.trees = item.layout.trees := by
  have hreader : item.fromRecordTrees = item.layout.readerTrees := rfl
  have hbody : item.writeBodyTrees = item.layout.blocks.flatten ++
      (colons ["core", "result", "Result", "Ok"] ++ [.group .paren [.group .paren []]]) := by
    rw [writeBodyTrees, List.flatMap_def]
    rfl
  have hwriter : item.writeRecordTrees = item.layout.writerTrees := by
    unfold writeRecordTrees TranslatorLayout.writerTrees
    rw [hbody]
    -- Only a translator with nothing to write allows unused variables.
    cases hempty : item.writes.isEmpty with
    | false => simp only [layout, hempty]; rfl
    | true => simp only [layout, hempty]; rfl
  unfold trees TranslatorLayout.trees
  rw [hreader, hwriter]
  simp only [List.append_assoc]
  rfl

/-- A field that is skipped starts with its default value. -/
theorem TranslatorItem.skippedTrees_eq_byDefault (name : Ident) :
    TranslatorItem.skippedTrees name = byDefault name :=
  skippedTrees_eq name

/-- The identity is copied from the record. -/
theorem TranslatorItem.identityTrees_eq_byIdentity (name : Ident) :
    TranslatorItem.identityTrees name = byIdentity name :=
  identityTrees_eq name

/-- The functions of a nested translator are members of its type. -/
theorem TranslatorItem.nestedMember_eq_translatorMember (translator : TypeExpr)
    {function : String} (h : phrase function = [word function]) :
    TranslatorItem.nestedMember translator function
      = translatorMember translator.trees function :=
  nestedMember_eq translator h

/-! ### Aliases -/

/-- The places of an alias: its parameter, the types that it mentions, and the field that is
the identity of the domain type. -/
structure AliasLayout where
  attributes : List (List Tree)
  visibility : List Tree
  name : Ident
  parameter : Ident
  domain : Ident
  record : Ident
  translator : Ident
  identity : Ident

/-- The whole alias. -/
def AliasLayout.trees (layout : AliasLayout) : List Tree :=
  attributeTrees layout.attributes ++ (layout.visibility ++
    ([word "type", .ident layout.name, .punct '<' false, .ident layout.parameter,
      .punct '=' false] ++ colons ["dao_core", "MemoryStore"] ++ [.punct '<' false,
      .ident layout.record, .punct '>' true, .punct '>' false, .punct '=' false] ++
    colons ["dao_core", "Dao"] ++ [.punct '<' false, .ident layout.domain, .punct ',' false,
      .ident layout.record, .punct ',' false, .ident layout.translator, .punct ',' false,
      .ident layout.parameter, .punct '>' false, .punct ';' false, word "impl"] ++
    colons ["dao_core", "Persistable"] ++ [word "for", .ident layout.domain, .group .brace (
      [word "fn", word "identity", .group .paren [.punct '&' false, word "self"]] ++ arrow ++
      .punct '&' false :: (colons ["dao_core", "Identity"] ++ [.group .brace [.punct '&' false,
        word "self", .punct '.' false, .ident layout.identity]]))]))

/-- What stands in the places of the alias of a schema. -/
def aliasLayout (schema : Schema) : AliasLayout where
  attributes := [phrase "doc =" ++ [string (AliasItem.of schema).doc]]
  visibility := schema.visibility
  name := schema.typeAlias
  parameter := .plain "S"
  domain := schema.name
  record := schema.record
  translator := schema.translator
  identity := schema.identity

/-- An alias is laid out as its declaration and the access to the identity. -/
theorem AliasItem.trees_eq (schema : Schema) :
    (AliasItem.of schema).trees = (aliasLayout schema).trees := by
  unfold AliasItem.trees AliasItem.aliasTrees AliasLayout.trees
  simp only [List.append_assoc]
  rfl

end Recordsmith.Emit

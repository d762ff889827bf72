import Recordsmith.Source.Grammar

/-!
# `Recordsmith.Source.Declaration`: declarations of types

A declaration has attributes, a visibility, a name and a shape. Its
parameters and its `where` clause are read, so that a malformed one is
noticed, but only their presence is kept.
-/

set_option autoImplicit false

namespace Recordsmith.Source

/-- The declaration of a type. -/
structure Declaration where
  attributes : List Attribute
  visibility : List Tree
  name : Ident
  hasParameters : Bool
  hasWhere : Bool
  shape : Shape

namespace Reader

/-- Reads a declaration. -/
def declaration : Reader Declaration := do
  let inner ← grammar
  let found ← Grammar.attributes inner
  let shown ← recorded Grammar.visibility?
  let body ←
    if ← sees (.word "struct") then pure (Grammar.structureBody inner)
    else if ← sees (.word "enum") then pure (Grammar.enumerationBody inner)
    else if ← sees (.word "union") then pure (Grammar.unionBody inner)
    else miss [.word "struct", .word "enum", .word "union"]
  let _ ← anyIdent
  let declared ← name
  let hasParameters ← Grammar.parameters inner
  let (hasWhere, shape) ← body
  return ⟨found, shown, declared, hasParameters, hasWhere, shape⟩

/-- Reads a field, with or without a name. -/
def field (named : Bool) : Reader Field := do
  let inner ← grammar
  if named then Grammar.namedField inner else Grammar.unnamedField inner

end Reader

/-- The declaration that a text spells. -/
def Declaration.ofText? (text : String) : Option Declaration :=
  (Tree.ofText? text).bind fun trees => (Reader.runAll Reader.declaration trees).toOption

/-- The field that a text spells, with or without a name. -/
def Field.ofText? (named : Bool) (text : String) : Option Field :=
  (Tree.ofText? text).bind fun trees => (Reader.runAll (Reader.field named) trees).toOption

end Recordsmith.Source

import Recordsmith.Source.Grammar.Basic

/-!
# `Recordsmith.Source.Grammar.Attributes`: the grammar of attributes

Readers for attributes, for the plain paths they and a few other things
are named by, and for the items of their lists.
-/

set_option autoImplicit false

namespace Recordsmith.Source.Grammar

open Reader

/-- Whether a row starts with a segment of a plain path. -/
def leadsWithSegment (row : List Tree) : Bool :=
  leadsWith row .name || leadsWithWord row ["super", "self", "Self", "crate"]

/-- Reads a path of plain names: whether it has leading colons, and the
names. -/
def plainPath : Reader (Bool × List Ident) := do
  let leading ← operator? "::"
  let first ← if leadsWithSegment (← row) then anyIdent else name
  let rest ← whileMore (sees (.operator "::")) do
    operator "::"
    if leadsWithSegment (← row) then anyIdent else want .segment
  return (leading, first :: rest)

/-- Reads a value. What is left may be a single literal, and then a minus
sign belongs to it; before anything else it is an operator. -/
def metaValue (inner : Grammar) : Reader ExpressionForm := do
  match literalAhead? (← row) with
  | some (_, _, []) => return .literal (← literal)
  | _ =>
    if (← sees (.operator "#")) && (← seesSecond (.group .bracket)) then
      fail .attributeAsValue
    return (← inner.expression true).form

/-- Reads what follows a path. -/
def metaForm (inner : Grammar) : Reader MetaForm := do
  match ← row with
  | .group _ body :: _ =>
    let _ ← anyGroup
    return .list body
  | _ => if ← operator? "=" then return .value (← metaValue inner) else return .word

/-- Reads what stands between the brackets of an attribute. -/
def attributeBody (inner : Grammar) : Reader Attribute := do
  let (leading, path) ←
    if ← sees (.word "unsafe") then pure (false, [← anyIdent]) else plainPath
  return ⟨leading, path, ← metaForm inner⟩

/-- Reads an attribute of what follows it. -/
def oneAttribute (inner : Grammar) : Reader Attribute := do
  operator "#"
  delimited .bracket (attributeBody inner)

/-- Reads the attributes of what follows them. -/
def attributes (inner : Grammar) : Reader (List Attribute) :=
  whileMore (sees (.operator "#")) (oneAttribute inner)

/-- Reads the attributes of what follows them, where only their trees
matter. -/
def marks (inner : Grammar) : Reader Unit := do
  let _ ← attributes inner

/-- Reads the attributes of what they stand in. -/
def innerMarks (inner : Grammar) : Reader Unit := do
  let more : Reader Bool := do
    return (← sees (.operator "#")) && (← seesSecond (.operator "!"))
  let _ ← whileMore more do
    operator "#"
    operator "!"
    let _ ← delimited .bracket (attributeBody inner)

/-- Reads a block that may start with attributes of its own. -/
def markedBlock (inner : Grammar) : Reader Unit :=
  delimited .brace do
    innerMarks inner
    inner.statements

/-! ### Items of a list -/

/-- Whether `true` or `false` comes next as the path of an item with a
value. -/
def seesTruthEntry : Reader Bool := do
  return (← seesWord ["true", "false"]) && (← seesSecond (.operator "="))

/-- Reads the path of an item. Reserved words may stand in it. -/
def itemPath : Reader (List Ident) := do
  let first ← anyIdent
  let rest ← whileMore (sees (.operator "::")) do
    operator "::"
    if leadsWithIdent (← row) then anyIdent else want .segment
  return first :: rest

/-- Reads an item of a list. -/
def metaItem (inner : Grammar) : Reader MetaItem := do
  if (← sees .literal) && !(← seesTruthEntry) then
    let _ ← literal
    return .literal
  else if leadsWithIdent (← row) then
    let path ← itemPath
    return .entry path (← metaForm inner)
  else want .entry

end Recordsmith.Source.Grammar

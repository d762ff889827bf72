import Recordsmith.Source.Grammar.Types

/-!
# `Recordsmith.Source.Grammar.Shapes`: visibilities, fields and variants

Readers for what declarations of types are made of, wherever they stand.
-/

set_option autoImplicit false

namespace Recordsmith.Source.Grammar

open Reader

/-! ### Visibility -/

/-- Whether the body of a group restricts a visibility: it is a single word
for a place, or it starts with `in`. -/
def isRestriction (body : List Tree) : Bool :=
  (leadsWithWord body ["crate", "self", "super"] && body.length == 1) ||
    leadsWith body (.word "in")

/-- Reads what a visibility is restricted to. -/
def restriction : Reader Unit := do
  if ← word? "in" then
    let _ ← plainPath
  else
    let _ ← anyIdent

/-- Reads a visibility, if there is one, and says whether there is. -/
def visibility? : Reader Bool := do
  if !(← word? "pub") then return false
  match ← row with
  | .group .paren body :: _ => if isRestriction body then delimited .paren restriction
  | _ => pure ()
  return true

/-! ### Fields -/

/-- Whether a structure or union comes next that is given in place of a
type. -/
def seesShapeInPlace : Reader Bool := do
  return (← sees (.word "struct")) ||
    ((← sees (.word "union")) && (← seesSecond (.group .brace)))

/-- Reads the type of a field. A field that is named `_` can have a structure
or union in place of a type, which is kept as it is written. -/
def fieldType (inner : Grammar) (name : Ident) : Reader TypeExpr := do
  if name.isWord "_" && (← seesShapeInPlace) then
    let start ← get
    let (_, _) ← captured do
      let _ ← anyIdent
      delimited .brace inner.fields
    let taken := start.rest.take 2
    write taken
    return .other taken
  else return (← inner.type true).type

/-- Reads a field with a name. -/
def namedField (inner : Grammar) : Reader Field := do
  let found ← attributes inner
  let _ ← visibility?
  let name ← nameOr "_"
  operator ":"
  return ⟨found, some name, ← fieldType inner name⟩

/-- Reads a field without a name. -/
def unnamedField (inner : Grammar) : Reader Field := do
  let found ← attributes inner
  let _ ← visibility?
  return ⟨found, none, (← inner.type true).type⟩

/-- Reads fields with names up to the end of the row. -/
def readFields (inner : Grammar) : Reader (List Field) := do
  return (← items (namedField inner)).1

/-- Reads fields with names in braces. -/
def namedFields (inner : Grammar) : Reader (List Field) :=
  delimited .brace inner.fields

/-- Reads fields without names in parentheses. -/
def unnamedFields (inner : Grammar) : Reader (List Field) :=
  delimited .paren do return (← items (unnamedField inner)).1

/-! ### Bodies -/

/-- Reads the rest of a structure after its parameters: whether it has a
`where` clause, and its shape. -/
def structureBody (inner : Grammar) : Reader (Bool × Shape) := do
  let early ← whereClause inner
  let signs := if early then [] else [.word "where", .group .paren]
  if !early && (← sees (.group .paren)) then
    let fields ← unnamedFields inner
    let late ← whereClause inner
    if !(← operator? ";") then
      miss (if late then [.operator ";"] else [.word "where", .operator ";"])
    return (late, .unnamed fields)
  else if ← sees (.group .brace) then return (early, .named (← namedFields inner))
  else if ← operator? ";" then return (early, .unit)
  else miss (signs ++ [.group .brace, .operator ";"])

/-- Reads one variant of an enumeration. Its visibility is not written. -/
def variant (inner : Grammar) : Reader Unit := do
  marks inner
  let _ ← silently visibility?
  let _ ← name
  if ← sees (.group .brace) then
    let _ ← namedFields inner
  else if ← sees (.group .paren) then
    let _ ← unnamedFields inner
  if ← operator? "=" then inner.expressionTrees

/-- Reads the rest of an enumeration after its parameters. -/
def enumerationBody (inner : Grammar) : Reader (Bool × Shape) := do
  let conditions ← whereClause inner
  let _ ← delimited .brace (items (variant inner))
  return (conditions, .enumeration)

/-- Reads the rest of a union after its parameters. -/
def unionBody (inner : Grammar) : Reader (Bool × Shape) := do
  let conditions ← whereClause inner
  let _ ← namedFields inner
  return (conditions, .union)

end Recordsmith.Source.Grammar

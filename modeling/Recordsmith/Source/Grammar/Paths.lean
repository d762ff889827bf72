import Recordsmith.Source.Grammar.Attributes

/-!
# `Recordsmith.Source.Grammar.Paths`: the grammar of paths

A path is a row of segments with colons between them, each a name with or
without arguments in angle brackets. In expressions the arguments need
colons before them, since `<` would compare. A path can also start with a
qualifier in angle brackets.

Paths are what types are looked into by, so they are read as `PathParts`
and `TypeExpr` and written from those.
-/

set_option autoImplicit false

namespace Recordsmith.Source.Grammar

open Reader

/-- A path on the way to a type: whether it has leading colons, the segments
before the last, and the last. -/
structure PathParts where
  leading : Bool
  before : List Segment
  last : Segment

namespace PathParts

/-- A path as a type. -/
def toType (parts : PathParts) : TypeExpr :=
  .path none parts.leading parts.before parts.last

/-- A path as trees. -/
def trees (parts : PathParts) : List Tree :=
  parts.toType.trees

/-- Whether a path is a plain row of names. -/
def isPlain (parts : PathParts) : Bool :=
  (parts.before ++ [parts.last]).all fun segment =>
    match segment.arguments with
    | .none => true
    | _ => false

/-- A path with one segment more. -/
def push (parts : PathParts) (segment : Segment) : PathParts :=
  { parts with before := parts.before ++ [parts.last], last := segment }

/-- A path whose last segment has lost its arguments. -/
def withoutArguments (parts : PathParts) : PathParts :=
  { parts with last := .bare parts.last.name }

end PathParts

/-- Reads the value of a constant argument. -/
def constantArgument (inner : Grammar) : Reader Unit := do
  if ← sees .literal then
    let _ ← literal
  else if ← sees .name then
    let _ ← name
  else if ← sees (.group .brace) then markedBlock inner
  else miss []

/-- Whether a constant comes next that is no name. -/
def seesConstant : Reader Bool := do
  return (← sees .literal) || (← sees (.group .brace))

/-- The name and arguments that an associated item can have, if a type has
that form. -/
def asItem? : TypeExpr → Option (List Tree)
  | .path none false [] segment => some segment.trees
  | _ => none

/-- Reads an argument in angle brackets. -/
def argument (inner : Grammar) : Reader Argument := do
  if (← sees .lifetime) && !(← seesSecond (.operator "+")) then
    return .lifetime (← recorded lifetime)
  if ← seesConstant then return .other (← recorded (constantArgument inner))
  let type := (← inner.type true).type
  match asItem? type with
  | none => return .type type
  | some item =>
    if ← operator? "=" then
      let value ← recorded do
        if ← seesConstant then constantArgument inner else inner.typeTrees true
      return .other (item ++ Tree.operator ['='] ++ value)
    else if ← operator? ":" then
      let closed : Reader Bool := do
        return leadsWithAny (← row) [.operator ",", .operator ">"]
      let bounds ← recorded (sum closed (inner.bound false true))
      return .other (item ++ Tree.operator [':'] ++ bounds)
    else return .type type

/-- Reads arguments in angle brackets; `colons` says whether colons stood
before them. -/
def angledArguments (inner : Grammar) (colons : Bool) : Reader Arguments := do
  operator "<"
  let (arguments, trailing) ← list (sees (.operator ">")) (argument inner)
  operator ">"
  return .angled colons arguments trailing

/-- Whether a row starts with colons and then, after both of them, a sign. -/
def leadsWithColonsThen (row : List Tree) (sign : Sign) : Bool :=
  match afterOperator? [':', ':'] row with
  | some rest => leadsWith rest sign
  | none => false

/-- Whether arguments in angle brackets come next. -/
def seesArguments (inExpression : Bool) : Reader Bool := do
  let trees ← row
  return (!inExpression && leadsWith trees (.operator "<") &&
    !leadsWith trees (.operator "<=")) || leadsWithColonsThen trees (.operator "<")

/-- Reads one segment of a path. In an expression, arguments need colons
before them. -/
def segment (inner : Grammar) (inExpression : Bool) : Reader Segment := do
  if ← seesWord ["super", "self", "crate", "try"] then return .bare (← anyIdent)
  let found ← nameOr "Self"
  if ← seesArguments inExpression then
    let colons ← operator? "::"
    return .mk found (← angledArguments inner colons)
  else return .bare found

/-- Reads a path without writing it in its printed form. -/
def pathParts (inner : Grammar) (inExpression : Bool) : Reader PathParts := do
  let leading ← operator? "::"
  let first ← segment inner inExpression
  let more : Reader Bool := do
    return (← sees (.operator "::")) && !leadsWithColonsThen (← row) (.group .paren)
  let rest ← whileMore more do
    operator "::"
    segment inner inExpression
  return rest.foldl PathParts.push ⟨leading, [], first⟩

/-- Reads a path. -/
def path (inner : Grammar) (inExpression : Bool) : Reader PathParts :=
  rendered PathParts.trees (pathParts inner inExpression)

/-- Reads a path with a qualifier in angle brackets. -/
def qualifiedPath (inner : Grammar) (inExpression : Bool) : Reader TypeExpr :=
  rendered TypeExpr.trees do
    let qualifier ← recorded do
      operator "<"
      inner.typeTrees true
      if ← word? "as" then
        let _ ← path inner false
      operator ">"
    operator "::"
    let first ← segment inner inExpression
    let rest ← whileMore (sees (.operator "::")) do
      operator "::"
      segment inner inExpression
    let parts := rest.foldl PathParts.push ⟨true, [], first⟩
    return .path (some qualifier) true parts.before parts.last

/-- A path of either kind, and whether it is a plain row of names. -/
structure AnyPath where
  type : TypeExpr
  isPlain : Bool

/-- Reads a path in an expression or pattern. -/
def anyPath (inner : Grammar) : Reader AnyPath := do
  if ← sees (.operator "<") then return ⟨← qualifiedPath inner true, false⟩
  let parts ← path inner true
  return ⟨parts.toType, parts.isPlain⟩

/-- Whether a path in an expression or pattern is called with an exclamation
mark. -/
def seesInvocation (isPlain : Bool) : Reader Bool := do
  return isPlain && leadsWithBang (← row)

/-- Reads an exclamation mark and a group, and gives its delimiter. -/
def invocation : Reader Delimiter := do
  operator "!"
  anyGroup

/-- Reads arguments that follow the name of a method. -/
def methodArguments (inner : Grammar) : Reader Arguments :=
  rendered Arguments.trees do
    operator "::"
    angledArguments inner true

end Recordsmith.Source.Grammar

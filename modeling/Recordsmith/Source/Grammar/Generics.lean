import Recordsmith.Source.Grammar.Paths

/-!
# `Recordsmith.Source.Grammar.Generics`: bounds, parameters and conditions

Readers for the bounds of a type, for the parameters that `for` binds or a
declaration has, and for the conditions of a `where` clause. Lifetimes
among the parameters are written first, and signs that introduce nothing
(an empty list, a colon without bounds, `where` without conditions) are
not written.
-/

set_option autoImplicit false

namespace Recordsmith.Source.Grammar

open Reader

/-! ### Parameters -/

/-- A parameter as it is printed, with whether it is a lifetime. -/
abbrev Parameter := Bool × List Tree

/-- Reads a type parameter. -/
def typeParameter (inner : Grammar) : Reader Unit := do
  let _ ← name
  if ← silently (operator? ":") then
    let closed : Reader Bool := do
      return (← atEnd) || leadsWithAny (← row) [.operator ",", .operator ">", .operator "="]
    ledBy (Tree.operator [':']) (sum closed (inner.bound false true))
  if ← operator? "=" then inner.typeTrees true

/-- Reads a lifetime with those that it outlives. -/
def lifetimeParameter : Reader Unit := do
  lifetime
  if ← silently (operator? ":") then
    let closed : Reader Bool := do
      return (← atEnd) || leadsWithAny (← row) [.operator ",", .operator ">"]
    ledBy (Tree.operator [':']) (sum closed lifetime)

/-- Reads a constant parameter. -/
def constantParameter (inner : Grammar) : Reader Unit := do
  word "const"
  let _ ← name
  operator ":"
  inner.typeTrees true
  if ← operator? "=" then constantArgument inner

/-- Reads a parameter that `for` binds. -/
def boundParameter (inner : Grammar) : Reader Unit := do
  marks inner
  if ← sees .name then typeParameter inner
  else if ← sees .lifetime then lifetimeParameter
  else if ← sees (.word "const") then constantParameter inner
  else miss [.name, .lifetime, .word "const"]

/-- Reads parameters that `for` binds. -/
def binder (inner : Grammar) : Reader Unit := do
  word "for"
  operator "<"
  let _ ← list (sees (.operator ">")) (boundParameter inner)
  operator ">"

/-- Reads parameters that `for` binds, if there are any, and says whether
there are. -/
def binder? (inner : Grammar) : Reader Bool := do
  if ← sees (.word "for") then
    binder inner
    return true
  else return false

/-- Whether a row starts with angle brackets that hold parameters rather than
the qualifier of a path. -/
def leadsWithParameters (row : List Tree) : Bool :=
  let second := afterFirst row
  let third := afterFirst second
  leadsWith row (.operator "<") &&
    (leadsWithAny second [.operator ">", .operator "#", .word "const"] ||
      (leadsWithAny second [.lifetime, .name] &&
        (leadsWithAny third [.operator ">", .operator ",", .operator "="] ||
          leadsWithColon third)))

/-- Reads a parameter of a declaration. -/
def parameter (inner : Grammar) : Reader Parameter :=
  captured do
    marks inner
    if ← sees .lifetime then
      lifetimeParameter
      return true
    if ← sees .name then typeParameter inner
    else if ← sees (.word "const") then constantParameter inner
    else if ← sees (.word "_") then word "_"
    else miss [.lifetime, .name, .word "const"]
    return false

/-- Reads the parameters of a declaration and says whether there are any. -/
def parameters (inner : Grammar) : Reader Bool := do
  if ← sees (.operator "<") then
    let (found, trailing) ← silently do
      operator "<"
      let found ← list (sees (.operator ">")) (parameter inner)
      operator ">"
      return found
    if found.isEmpty then return false
    write (Tree.operator ['<'] ++ orderArguments trailing found ++ Tree.operator ['>'])
    return true
  else return false

/-! ### Bounds -/

/-- Reads a parameter that a type captures. -/
def capturedParameter : Reader Parameter := do
  if ← sees .lifetime then return (true, ← recorded lifetime)
  else if (← sees .name) || (← sees (.word "Self")) then return (false, ← recorded anyIdent)
  else miss [.lifetime, .name, .operator ">"]

/-- Reads captured parameters up to the closing bracket, at most `limit` of
them. Gives them and whether a comma follows the last. -/
def capturedParameters : Nat → Reader (List Parameter × Bool)
  | 0 => return ([], true)
  | limit + 1 => do
    if ← sees (.operator ">") then return ([], true)
    let first ← capturedParameter
    if ← operator? "," then
      let (rest, trailing) ← capturedParameters limit
      return (first :: rest, trailing)
    else if ← sees (.operator ">") then return ([first], false)
    else miss [.operator ",", .operator ">"]

/-- Reads which parameters a type captures. -/
def capture : Reader Unit := do
  word "use"
  let (found, trailing) ← silently do
    operator "<"
    let found ← capturedParameters ((← row).length + 1)
    operator ">"
    return found
  write (Tree.operator ['<'] ++ orderArguments trailing found ++ Tree.operator ['>'])

/-- Reads the result type of a function, if there is one; the flag says
whether `A + B` may be it. -/
def resultType (inner : Grammar) (plus : Bool) : Reader Unit := do
  if ← operator? "->" then inner.typeTrees plus

/-- Reads the arguments and the result of a function trait. -/
def calledArguments (inner : Grammar) : Reader Unit := do
  let _ ← delimited .paren (items (inner.typeTrees true))
  resultType inner false

/-- Reads a mark that a trait is constant, if there is one, and says whether
there is. -/
def constMark? (allowed : Bool) : Reader Bool := do
  if ← sees (.group .bracket) then
    delimited .bracket (word "const")
    if allowed then return true else fail .conditionalConstRefused
  else if ← word? "const" then
    if allowed then return true else fail .constRefused
  else return false

/-- Reads a trait with the marks that a bound can have before it, and says
whether it is marked as constant. -/
def traitBound (inner : Grammar) (consts : Bool) : Reader Bool := do
  let early ← binder? inner
  let isConst ← constMark? consts
  let optional ← operator? "?"
  let late ← if optional && !early then binder? inner else pure false
  let parts ← silently (pathParts inner false)
  let trees ← row
  if parts.last.arguments.isEmpty &&
      (leadsWith trees (.group .paren) || leadsWithColonsThen trees (.group .paren)) then
    write parts.withoutArguments.trees
    let _ ← silently (operator? "::")
    calledArguments inner
  else write parts.trees
  if optional && (early || late) then fail .binderWithMark
  return isConst

/-- Reads one bound of a type parameter or trait object. A constant trait is
kept as it is written. -/
def readBound (inner : Grammar) (captures consts : Bool) : Reader Bound := do
  if ← lifetime? then return .lifetime
  if ← sees (.word "use") then
    capture
    if captures then return .capture else fail .captureRefused
  let start ← get
  let isConst ←
    if ← sees (.group .paren) then delimited .paren (traitBound inner consts)
    else traitBound inner consts
  if isConst then verbatimSince start
  return .trait

/-- Whether another bound can follow a plus sign. -/
def seesBound (consts : Bool) : Reader Bool := do
  let trees ← row
  return leadsWithIdent trees ||
    leadsWithAny trees [.operator "::", .operator "?", .lifetime, .group .paren] ||
    (consts && leadsWith trees (.group .bracket))

/-- Reads bounds with plus signs between them, at most `limit` of them and
only one if `plus` is not set. A plus sign may also stand last. Says whether
one of the bounds is a trait. -/
def boundsUpTo (inner : Grammar) (plus captures consts : Bool) : Nat → Reader Bool
  | 0 => return false
  | limit + 1 => do
    let first ← readBound inner captures consts
    let more ← if plus then operator? "+" else pure false
    if more && (← seesBound consts) then
      let others ← boundsUpTo inner plus captures consts limit
      return first.isTrait || others
    else return first.isTrait

/-- Reads bounds with plus signs between them, only one if `plus` is not set.
Says whether one of them is a trait. -/
def bounds (inner : Grammar) (plus captures consts : Bool) : Reader Bool := do
  boundsUpTo inner plus captures consts ((← row).length + 1)

/-- Reads further bounds, each of which has to be there. -/
def strictBounds (inner : Grammar) : Reader Unit := do
  let _ ← whileMore (sees (.operator "+")) do
    operator "+"
    readBound inner false false

/-! ### Conditions -/

/-- Whether the conditions of a `where` clause, or the bounds of one, are at
their end. -/
def atConditionEnd : Reader Bool := do
  let trees ← row
  return trees.isEmpty || leadsWithColon trees ||
    leadsWithAny trees [.group .brace, .operator ",", .operator ";", .operator "="]

/-- Reads one condition of a `where` clause. -/
def condition (inner : Grammar) : Reader Unit := do
  if (← sees .lifetime) && (← seesSecond (.operator ":")) then
    lifetime
    operator ":"
    let closed : Reader Bool := do
      return (← atConditionEnd) || (← sees (.operator ":"))
    sum closed lifetime
  else
    let _ ← binder? inner
    inner.typeTrees true
    operator ":"
    sum atConditionEnd (inner.bound false true)

/-- Reads the conditions of a `where` clause, at most `limit` of them. -/
def conditions (inner : Grammar) : Nat → Reader Unit
  | 0 => return
  | limit + 1 => do
    if !(← atConditionEnd) then
      condition inner
      if ← operator? "," then conditions inner limit

/-- Reads a `where` clause, if there is one, and says whether there is. -/
def whereClause (inner : Grammar) : Reader Bool := do
  if ← silently (word? "where") then
    ledBy [Tree.word "where"] do conditions inner ((← row).length + 1)
    return true
  else return false

end Recordsmith.Source.Grammar

import Recordsmith.Source.Grammar.Types

/-!
# `Recordsmith.Source.Grammar.Patterns`: the grammar of patterns

Patterns stand where values are taken apart: behind `let` and `for`, in
the arms of a `match`, and as parameters. They are only written, but the
rules around them ask a few things of one, which `PatternForm` tells.
-/

set_option autoImplicit false

namespace Recordsmith.Source.Grammar

open Reader

/-! ### Fields of structures and tuples -/

/-- The largest place that a tuple element can have. -/
def lastPlace : Nat := 4294967295

/-- The place that the text of a literal means. -/
def placeOf (isNegative : Bool) (text : String) : Except Fault Nat :=
  match Literal.ofText text with
  | .integer =>
    let (value, suffix) := Literal.whole text
    if !suffix.isEmpty then .error .suffixedPlace
    else if isNegative then .error .negativePlace
    else if value ≤ lastPlace then .ok value
    else .error .largePlace
  | _ => .error .fractionalPlace

/-- Writes the place that the text of a literal means. -/
def writePlace (isNegative : Bool) (text : String) : Reader Unit := do
  match placeOf isNegative text with
  | .ok place => write [.literal (toString place)]
  | .error fault => fail fault

/-- The text of the number that a row starts with, whether it has a minus
sign, and what follows it. -/
def numberAhead? (row : List Tree) : Option (Bool × String × List Tree) :=
  match literalAhead? row with
  | some (_, [.literal text], rest) =>
    if (Literal.ofText text).isNumber then some (false, text, rest) else none
  | some (_, [_, .literal text], rest) => some (true, text, rest)
  | _ => none

/-- Reads the name or the place of a field, and says whether it is a name. A
place is written in decimal digits. -/
def member : Reader Bool := do
  let trees ← row
  if leadsWith trees .name then
    let _ ← name
    return true
  match numberAhead? trees with
  | some (isNegative, text, rest) =>
    if Literal.ofText text = .integer then
      advance rest
      writePlace isNegative text
      return false
    else want .member
  | none => want .member

/-! ### Ranges -/

/-- Whether no bound of a range can come next. -/
def atRangeEnd : Reader Bool := do
  let trees ← row
  return trees.isEmpty || leadsWithColon trees || leadsWithAny trees
    [.operator "|", .operator "=", .operator ",", .operator ";", .word "if"]

/-- Reads a constant block. -/
def constBlock (inner : Grammar) : Reader Unit := do
  word "const"
  markedBlock inner

/-- Reads a bound of a range, if there is one, and says whether there is. -/
def rangeBound? (inner : Grammar) : Reader Bool := do
  if ← atRangeEnd then return false
  if ← sees .literal then
    let _ ← literal
  else if ← seesPath then
    let _ ← anyPath inner
  else if ← sees (.word "const") then constBlock inner
  else
    miss [.literal, .name, .operator "::", .operator "<", .word "self", .word "Self",
      .word "super", .word "crate", .word "const"]
  return true

/-- Reads the points between the bounds of a range, and says whether its end
belongs to it. Three points mean the same as two and an equals sign. -/
def rangePoints : Reader Bool := do
  if ← operator? "..=" then return true
  else if ← silently (operator? "...") then
    write (Tree.operator ['.', '.', '='])
    return true
  else
    operator ".."
    return false

/-- Reads the rest of a range after its start. -/
def rangeAfterStart (inner : Grammar) : Reader PatternForm := do
  let closed ← rangePoints
  if ← rangeBound? inner then return .other
  else if closed then want .rangeEnd
  else return .openRange

/-- Reads a range without a start, or two points alone. -/
def startlessRange (inner : Grammar) : Reader PatternForm := do
  let closed ← rangePoints
  if ← rangeBound? inner then return .openRange
  else if closed then want .rangeEnd
  else return .rest

/-! ### Patterns inside patterns -/

/-- Whether another alternative comes next. -/
def seesAlternative : Reader Bool := do
  let trees ← row
  return leadsWith trees (.operator "|") &&
    !leadsWithAny trees [.operator "||", .operator "|="]

/-- Reads alternatives with bars between them. A bar may also stand first. -/
def alternatives (inner : Grammar) : Reader PatternForm := do
  let leading ← operator? "|"
  let first ← inner.pattern
  let others ← whileMore seesAlternative do
    operator "|"
    inner.pattern
  return if leading || !others.isEmpty then .other else first

/-- Reads the patterns of a tuple. One alone without a comma is put in
parentheses. -/
def tupleItems (inner : Grammar) : Reader Unit := do
  let _ ← items (alternatives inner)

/-- Reads the patterns of a slice. -/
def sliceItems (inner : Grammar) : Reader Unit := do
  let _ ← items do
    if (← alternatives inner) = .openRange then fail .bareRangeInSlice

/-- Reads a field of a structure after its attributes. -/
def fieldPattern (inner : Grammar) : Reader Unit := do
  let boxed ← word? "box"
  let byReference ← word? "ref"
  let changing ← word? "mut"
  if boxed || byReference || changing then
    let _ ← name
  else
    let named ← member
    if !named || (← sees (.operator ":")) then
      operator ":"
      let _ ← alternatives inner

/-- Reads the fields of a structure, at most `limit` of them. Two points end
them. -/
def fieldPatterns (inner : Grammar) : Nat → Reader Unit
  | 0 => return
  | limit + 1 => do
    if ← atEnd then return
    marks inner
    if !(← operator? "..") then
      fieldPattern inner
      if !(← atEnd) then
        operator ","
        fieldPatterns inner limit

/-! ### Whole patterns -/

/-- Reads a pattern that starts with a path. -/
def pathPattern (inner : Grammar) : Reader PatternForm := do
  let found ← anyPath inner
  if ← seesInvocation found.isPlain then
    let _ ← invocation
    return .other
  else if ← sees (.group .brace) then
    delimited .brace do fieldPatterns inner ((← row).length + 1)
    return .other
  else if ← sees (.group .paren) then
    delimited .paren (tupleItems inner)
    return .other
  else if ← sees (.operator "..") then rangeAfterStart inner
  else return .other

/-- Reads a pattern that starts with a literal or a constant block. -/
def literalPattern (inner : Grammar) : Reader PatternForm := do
  let _ ← rangeBound? inner
  if ← sees (.operator "..") then rangeAfterStart inner else return .other

/-- Reads a name that a value is bound to, with a pattern it has to match. -/
def namePattern (inner : Grammar) : Reader Unit := do
  let _ ← word? "ref"
  let _ ← word? "mut"
  let _ ← nameOr "self"
  if ← operator? "@" then
    let _ ← inner.pattern

/-- Whether a row starts with a path that is more than a name to bind. -/
def leadsWithPathPattern (row : List Tree) : Bool :=
  let second := afterFirst row
  (leadsWith row .name && leadsWithAny second
    [.operator "::", .operator "!", .group .brace, .group .paren, .operator ".."]) ||
  (leadsWith row (.word "self") && leadsWith second (.operator "::")) ||
  leadsWithAny row [.operator "::", .operator "<"] ||
  leadsWithWord row ["Self", "super", "crate"]

/-- What a pattern can start with. Two points count unless a third follows. -/
def patternSigns (row : List Tree) : List Sign := [
  .name, .operator "::", .operator "<", .word "_", .literal, .word "const", .word "ref",
  .word "mut", .operator "&", .group .paren, .group .bracket] ++
  (if leadsWith row (.operator "..") then [] else [.operator ".."]) ++ [.word "const"]

/-- Reads a pattern without alternatives. -/
def readPattern (inner : Grammar) : Reader PatternForm := do
  let start ← get
  let trees := start.rest
  if leadsWithPathPattern trees then pathPattern inner
  else if leadsWith trees (.word "_") then
    word "_"
    return .other
  else if ← word? "box" then
    let _ ← inner.pattern
    verbatimSince start
    return .verbatim
  else if leadsWithAny trees [.operator "-", .literal, .word "const"] then
    literalPattern inner
  else if leadsWith trees .name || leadsWithWord trees ["ref", "mut", "self"] then
    namePattern inner
    return .other
  else if ← operator? "&" then
    let _ ← word? "mut"
    let _ ← inner.pattern
    return .other
  else if leadsWith trees (.group .paren) then
    delimited .paren (tupleItems inner)
    return .other
  else if leadsWith trees (.group .bracket) then
    delimited .bracket (sliceItems inner)
    return .other
  else if leadsWith trees (.operator "..") && !leadsWith trees (.operator "...") then
    startlessRange inner
  else miss (patternSigns trees)

end Recordsmith.Source.Grammar

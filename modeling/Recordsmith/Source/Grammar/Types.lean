import Recordsmith.Source.Grammar.Generics

/-!
# `Recordsmith.Source.Grammar.Types`: the grammar of types

Readers for every form of type. They follow the language closely, since a
type that is not well formed makes the whole declaration unreadable. A
type that is a path is given with its segments, any other form as the
trees it is printed with.
-/

set_option autoImplicit false

namespace Recordsmith.Source.Grammar

open Reader

/-- Reads a type that is kept as trees. -/
def otherType (reader : Reader Unit) : Reader ReadType := do
  return ⟨.other (← recorded reader), none⟩

/-- The bound that a type in parentheses is, if a plus sign follows it: a
path without a qualifier, or a trait object with a single bound. -/
def asBound? (read : ReadType) : Option (List Tree) :=
  match read.type with
  | .path none _ _ _ => some read.type.trees
  | _ => read.soleBound

/-- Reads bounds of which one at least is a trait. -/
def objectBounds (inner : Grammar) (plus : Bool) : Reader Unit := do
  if !(← bounds inner plus false false) then fail .objectWithoutTrait

/-- Reads a trait object whose first bound is an optional trait in
parentheses. -/
def optionalObject (inner : Grammar) : Reader ReadType := do
  let (_, first) ← captured (delimited .paren (traitBound inner false))
  if ← sees (.operator "+") then
    otherType do
      write first
      strictBounds inner
  else
    write first
    let sole := match first with
      | [.group .paren body] => some body
      | _ => none
    return ⟨.other first, sole⟩

/-- Reads what stands between parentheses: a type, and after a comma the
others of a tuple. Says whether it is a tuple. -/
def parenBody (inner : Grammar) : Reader (ReadType × Bool) := do
  let first ← inner.type true
  if ← operator? "," then
    let _ ← items (inner.typeTrees true)
    return (first, true)
  else return (first, false)

/-- Reads a type in parentheses: a tuple, a type put in parentheses, or the
first bound of a trait object. -/
def parenType (inner : Grammar) (plus : Bool) (body : List Tree) : Reader ReadType := do
  if body.isEmpty then otherType (delimited .paren (return ()))
  else if leadsWith body .lifetime then
    otherType (delimited .paren (objectBounds inner true))
  else if leadsWith body (.operator "?") then optionalObject inner
  else
    let ((first, isTuple), trees) ← captured (delimited .paren (parenBody inner))
    let continues ← sees (.operator "+")
    match asBound? first with
    | some bound =>
      if !isTuple && plus && continues then
        otherType do
          write [Tree.parens bound]
          strictBounds inner
      else otherType (write trees)
    | none => otherType (write trees)

/-- Reads the parameter for any number of further ones, with or without a
name. -/
def restParameter : Reader Unit := do
  if (← sees .name) || (← sees (.word "_")) then
    let _ ← anyIdent
    operator ":"
  operator "..."
  let _ ← operator? ","

/-- Whether the parameter for any number of further ones comes next. -/
def seesRestParameter : Reader Bool := do
  let trees ← row
  let second := afterFirst trees
  return leadsWith trees (.operator "...") ||
    ((leadsWith trees .name || leadsWith trees (.word "_")) &&
      leadsWith second (.operator ":") && leadsWith (afterFirst second) (.operator "..."))

/-- Whether `mut self` comes next. -/
def seesMutSelf : Reader Bool := do
  return (← sees (.word "mut")) && (← seesSecond (.word "self"))

/-- Reads a parameter of a function type: a type, with or without a name. Only
the first one can be `self`; with `mut` before it, it is kept as it is
written. -/
def functionParameter (inner : Grammar) (isFirst : Bool) : Reader Unit := do
  let start ← get
  let mutSelf := isFirst && (← seesMutSelf)
  if mutSelf then word "mut"
  let trees ← row
  let isSelf := isFirst && leadsWith trees (.word "self")
  let named := (leadsWith trees .name || leadsWith trees (.word "_") || isSelf) &&
    leadsWithColon (afterFirst trees)
  if named then
    let _ ← anyIdent
    operator ":"
  if isFirst && !(named && isSelf) && (← seesMutSelf) then
    word "mut"
    word "self"
    verbatimSince start
  else if mutSelf && !named then
    word "self"
    verbatimSince start
  else
    inner.typeTrees true
    if mutSelf then verbatimSince start

/-- Reads the parameters of a function type, at most `limit` of them. -/
def functionParameters (inner : Grammar) (isFirst : Bool) : Nat → Reader Unit
  | 0 => return
  | limit + 1 => do
    if ← atEnd then return
    marks inner
    if ← seesRestParameter then restParameter
    else
      functionParameter inner isFirst
      if !(← atEnd) then
        operator ","
        functionParameters inner false limit

/-- Reads the calling convention of a function, if there is one. -/
def convention : Reader Unit := do
  if ← word? "extern" then
    if ← sees .string then
      let _ ← literal

/-- Reads a function type after what it binds. -/
def functionType (inner : Grammar) : Reader Unit := do
  let _ ← word? "unsafe"
  convention
  word "fn"
  delimited .paren do functionParameters inner true ((← row).length + 1)
  resultType inner false

/-- Reads further bounds of a trait object without `dyn`. -/
def moreBounds (inner : Grammar) : Reader Unit := do
  if ← operator? "+" then
    if ← seesBound false then
      let _ ← bounds inner true false false

/-- Reads a type that starts with a path, after what it binds. -/
def pathType (inner : Grammar) (bound : Option (List Tree)) (plus : Bool) :
    Reader ReadType := do
  if ← sees (.operator "<") then return ⟨← qualifiedPath inner false, none⟩
  let parts ← silently (pathParts inner false)
  if ← seesInvocation parts.isPlain then
    otherType do
      write parts.trees
      let _ ← invocation
  else
    let continues := plus && (← sees (.operator "+"))
    if bound.isNone && !continues then
      write parts.trees
      return ⟨parts.toType, none⟩
    let first := bound.getD [] ++ parts.trees
    let read ← otherType do
      write first
      if continues then moreBounds inner
    return ⟨read.type, if continues then none else some first⟩

/-- Reads a type in brackets: a slice, or an array with its length. -/
def bracketType (inner : Grammar) : Reader Unit :=
  delimited .bracket do
    inner.typeTrees true
    if ← operator? ";" then inner.expressionTrees

/-- Reads a reference. -/
def referenceType (inner : Grammar) : Reader Unit := do
  operator "&"
  let _ ← lifetime?
  let _ ← word? "mut"
  inner.typeTrees false

/-- Reads a pointer. -/
def pointerType (inner : Grammar) : Reader Unit := do
  operator "*"
  if !(← word? "const") then
    if !(← word? "mut") then miss [.word "const", .word "mut"]
  inner.typeTrees false

/-- Reads a trait object with `dyn`. With a star it is kept as it is
written. -/
def dynType (inner : Grammar) (plus : Bool) : Reader Unit := do
  let start ← get
  word "dyn"
  let star ← operator? "*"
  objectBounds inner plus
  if star then verbatimSince start

/-- Reads a type of which only traits are known. -/
def implType (inner : Grammar) (plus : Bool) : Reader Unit := do
  word "impl"
  if !(← bounds inner plus true true) then fail .implWithoutTrait

/-- The words besides names that a path can start with. -/
def pathWords : List String := ["super", "self", "Self", "crate"]

/-- The words that a function type can start with. -/
def functionWords : List String := ["unsafe", "extern", "fn"]

/-- Whether a path comes next. -/
def seesPath : Reader Bool := do
  let trees ← row
  return leadsWithAny trees [.name, .operator "::", .operator "<"] ||
    leadsWithWord trees pathWords

/-- Reads a type that binds parameters with `for`. -/
def bindingType (inner : Grammar) (plus : Bool) : Reader ReadType := do
  let (_, bound) ← captured (binder inner)
  if ← seesWord functionWords then
    otherType do
      write bound
      functionType inner
  else if (← sees .name) || (← seesWord pathWords) then pathType inner (some bound) plus
  else
    miss [.name, .word "fn", .word "unsafe", .word "extern", .word "super", .word "self",
      .word "Self", .word "crate"]

/-- What a type can start with. -/
def typeSigns : List Sign := [
  .word "for", .group .paren, .word "fn", .word "unsafe", .word "extern", .name,
  .operator "::", .operator "<", .word "dyn", .group .bracket, .operator "*", .operator "&",
  .operator "!", .word "impl", .word "_", .lifetime]

/-- Reads a type. -/
def readType (inner : Grammar) (plus : Bool) : Reader ReadType := do
  match ← row with
  | .group .paren body :: _ => parenType inner plus body
  | trees =>
    if leadsWith trees (.word "for") then bindingType inner plus
    else if leadsWithWord trees functionWords then otherType (functionType inner)
    else if ← seesPath then pathType inner none plus
    else if leadsWith trees (.word "dyn") then otherType (dynType inner plus)
    else if leadsWith trees (.group .bracket) then otherType (bracketType inner)
    else if leadsWith trees (.operator "*") then otherType (pointerType inner)
    else if leadsWith trees (.operator "&") then otherType (referenceType inner)
    else if leadsWith trees (.operator "!") then otherType (operator "!")
    else if leadsWith trees (.word "impl") then otherType (implType inner plus)
    else if leadsWith trees (.word "_") then otherType (word "_")
    else if leadsWith trees .lifetime then otherType (objectBounds inner true)
    else miss typeSigns

end Recordsmith.Source.Grammar

import Recordsmith.Source.Grammar.Shapes
import Recordsmith.Source.Grammar.Statements

/-!
# `Recordsmith.Source.Grammar.Functions`: the grammar of functions

Readers for the signature of a function and for its body.
-/

set_option autoImplicit false

namespace Recordsmith.Source.Grammar

open Reader

/-- What a parameter of a function turned out to be. -/
inductive ParameterForm where
  | receiver
  | typed
  /-- The parameter for any number of further ones. -/
  | rest
  deriving DecidableEq

/-- Whether a row starts with the parameter `self`, which may be a reference
and may be changed. A path that starts with `self` is none. -/
def leadsWithReceiver (row : List Tree) : Bool :=
  let isReference := leadsWith row (.operator "&")
  let behindMark :=
    if isReference then
      let rest := afterFirst row
      if leadsWith rest .lifetime then afterFirst rest else rest
    else row
  let isChanged := leadsWith behindMark (.word "mut")
  let behindMut := if isChanged then afterFirst behindMark else behindMark
  leadsWith behindMut (.word "self") &&
    (isReference || isChanged || !leadsWith (afterFirst behindMut) (.operator "::"))

/-- Reads the parameter `self`. -/
def receiver (inner : Grammar) : Reader Unit := do
  let isReference ← operator? "&"
  if isReference then
    let _ ← lifetime?
  let _ ← word? "mut"
  word "self"
  if !isReference then
    if ← operator? ":" then inner.typeTrees true

/-- Reads a parameter of a function after its attributes. One that is only a
name with arguments is a type, and its pattern is left open. -/
def parameterForm (inner : Grammar) : Reader ParameterForm := do
  let trees ← row
  if ← operator? "..." then return .rest
  else if leadsWithReceiver trees then
    receiver inner
    return .receiver
  else if leadsWith trees .name && leadsWith (afterFirst trees) (.operator "<") then
    write [Tree.word "_", .punct ':' false]
    inner.typeTrees true
    return .typed
  else
    let _ ← inner.pattern
    operator ":"
    if ← operator? "..." then return .rest
    inner.typeTrees true
    return .typed

/-- Reads the parameters of a function, at most `limit` of them. Only the
first one can be `self`; `received` says whether it was. -/
def parameterList (inner : Grammar) (isFirst received : Bool) : Nat → Reader Unit
  | 0 => return
  | limit + 1 => do
    if ← atEnd then return
    marks inner
    let form ← parameterForm inner
    if form = .rest then
      if !(← atEnd) then operator ","
    else
      let isReceiver := decide (form = .receiver)
      if isReceiver && received then fail .secondReceiver
      if isReceiver && !isFirst then fail .lateReceiver
      if !(← atEnd) then
        operator ","
        parameterList inner false (received || isReceiver) limit

/-- Reads the signature of a function; `safe` may stand in it if the flag is
set. Says whether it does. -/
def signature (inner : Grammar) (allowsSafe : Bool) : Reader Bool := do
  let _ ← word? "const"
  let _ ← word? "async"
  let safe ← if allowsSafe then word? "safe" else pure false
  if !safe then
    let _ ← word? "unsafe"
  convention
  word "fn"
  let _ ← name
  let _ ← parameters inner
  delimited .paren do parameterList inner true false ((← row).length + 1)
  resultType inner true
  let _ ← whereClause inner
  return safe

/-- What follows a word at the front of a row, or the row itself if the word
does not stand there. -/
def afterWord (text : String) (row : List Tree) : List Tree :=
  if leadsWith row (.word text) then row.drop 1 else row

/-- Whether a row starts with the signature of a function. -/
def leadsWithSignature (allowsSafe : Bool) (row : List Tree) : Bool :=
  let row := afterWord "async" (afterWord "const" row)
  let row :=
    if allowsSafe && leadsWith row (.word "safe") then row.drop 1 else afterWord "unsafe" row
  let row :=
    if leadsWith row (.word "extern") then
      let rest := row.drop 1
      if leadsWith rest .string then rest.drop 1 else rest
    else row
  leadsWith row (.word "fn")

end Recordsmith.Source.Grammar

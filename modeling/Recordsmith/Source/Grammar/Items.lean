import Recordsmith.Source.Grammar.Functions

/-!
# `Recordsmith.Source.Grammar.Items`: the grammar of items

Items are what a block can declare: functions, types, traits and their
implementations, constants, modules and imports. The items of a trait, of
an implementation and of a block of foreign functions are read here too.

Many items have forms that the language can read but that mean nothing.
Such an item is kept as it is written, its attributes included
(`verbatimSince`).
-/

set_option autoImplicit false

namespace Recordsmith.Source.Grammar

open Reader

/-! ### Bodies -/

/-- Reads a group in braces that holds attributes of its own and then any
number of one thing. -/
def bodyOf (inner : Grammar) (entry : Reader Unit) : Reader Unit :=
  delimited .brace do
    innerMarks inner
    let _ ← untilEnd entry

/-- The signs of a path that is called with an exclamation mark as an item. -/
def invocationSigns : List Sign := [
  .name, .word "self", .word "super", .word "crate", .operator "::"]

/-- Reads a plain path that is called with an exclamation mark. A semicolon
follows unless braces do. -/
def invokedEntry : Reader Unit := do
  let _ ← plainPath
  let delimiter ← invocation
  if delimiter ≠ .brace then operator ";"

/-- Reads a value behind an equals sign, if there is one, and says whether
there is. -/
def value? (inner : Grammar) : Reader Bool := do
  if ← operator? "=" then
    inner.expressionTrees
    return true
  else return false

/-- Reads a constant after its keyword. Says whether it has a value, and
whether it has neither parameters nor conditions. -/
def constant (inner : Grammar) : Reader (Bool × Bool) := do
  if (← sees .name) || (← sees (.word "_")) then
    let _ ← anyIdent
  else miss [.name, .word "_"]
  let isPlain := !(← sees (.operator "<"))
  let _ ← parameters inner
  operator ":"
  inner.typeTrees true
  let hasValue ← value? inner
  let conditions ← whereClause inner
  operator ";"
  return (hasValue, isPlain && !conditions)

/-- Where the conditions of a type can stand. -/
inductive ConditionPlace where
  | beforeValue
  | behindValue
  | either
  deriving DecidableEq

/-- A type with a name that has been read: whether it has a colon for bounds,
and whether it has a value. -/
structure ReadTypeItem where
  hasBounds : Bool
  hasValue : Bool

/-- Reads a type with a name from its keyword on. -/
def typeItem (inner : Grammar) (place : ConditionPlace) : Reader ReadTypeItem := do
  word "type"
  let _ ← name
  let _ ← parameters inner
  let hasBounds ← silently (operator? ":")
  if hasBounds then
    let closed : Reader Bool := do
      return leadsWithAny (← row) [.word "where", .operator "=", .operator ";"]
    ledBy (Tree.operator [':']) (strictSum closed (inner.bound false true))
  let early ← if place = .behindValue then pure false else whereClause inner
  let hasValue ← operator? "="
  if hasValue then inner.typeTrees true
  if place ≠ .beforeValue && !early then
    let _ ← whereClause inner
  operator ";"
  return ⟨hasBounds, hasValue⟩

/-! ### Foreign items -/

/-- Whether a row starts with a foreign variable. -/
def leadsWithForeignStatic (row : List Tree) : Bool :=
  leadsWith row (.word "static") ||
    (leadsWithWord row ["unsafe", "safe"] && leadsWith (afterFirst row) (.word "static"))

/-- Reads a foreign variable, and says whether it is kept as it is written. -/
def foreignStatic (inner : Grammar) : Reader Bool := do
  let guarded ← word? "unsafe"
  let safe ← if guarded then pure false else word? "safe"
  word "static"
  let _ ← word? "mut"
  let _ ← name
  operator ":"
  inner.typeTrees true
  let hasValue ← value? inner
  operator ";"
  return guarded || safe || hasValue

/-- Reads a foreign function, and says whether it is kept as it is written. -/
def foreignFunction (inner : Grammar) : Reader Bool := do
  let safe ← signature inner true
  if ← sees (.group .brace) then
    markedBlock inner
    return true
  operator ";"
  return safe

/-- Reads an item of a block of foreign items. -/
def foreignEntry (inner : Grammar) : Reader Unit := do
  let start ← get
  marks inner
  let isVisible ← visibility?
  let trees ← row
  let kept ←
    if leadsWithSignature true trees then foreignFunction inner
    else if leadsWithForeignStatic trees then foreignStatic inner
    else if leadsWith trees (.word "type") then do
      let read ← typeItem inner .either
      pure (read.hasBounds || read.hasValue)
    else if !isVisible && leadsWithAny trees invocationSigns then do
      invokedEntry
      pure false
    else
      miss ([.word "fn", .word "static", .word "type"] ++
        if isVisible then [] else invocationSigns)
  if kept then verbatimSince start

/-- Reads a block of foreign items. -/
def foreignBlock (inner : Grammar) : Reader Unit := do
  let _ ← word? "unsafe"
  if !(← sees (.word "extern")) then miss [.word "extern"]
  convention
  bodyOf inner (foreignEntry inner)

/-! ### Traits -/

/-- Reads a function of a trait, with or without a body. -/
def traitFunction (inner : Grammar) : Reader Unit := do
  let _ ← signature inner false
  if ← sees (.group .brace) then markedBlock inner
  else if !(← operator? ";") then miss [.group .brace, .operator ";"]

/-- Reads a constant of a trait, and says whether it is kept as it is
written. -/
def traitConstant (inner : Grammar) : Reader Bool := do
  word "const"
  if !((← sees .name) || (← sees (.word "_"))) then
    miss [.name, .word "_", .word "async", .word "unsafe", .word "extern", .word "fn"]
  let (_, isPlain) ← constant inner
  return !isPlain

/-- Reads an item of a trait. One with a visibility or a default is kept as it
is written. -/
def traitEntry (inner : Grammar) : Reader Unit := do
  let start ← get
  marks inner
  let isVisible ← visibility?
  let isDefault ← word? "default"
  let trees ← row
  let isMarked := isVisible || isDefault
  let second := afterFirst trees
  let isFunction := leadsWithSignature false trees || (leadsWith trees (.word "const") &&
    leadsWithWord second ["async", "unsafe", "extern", "fn"])
  let kept ←
    if isFunction then do
      traitFunction inner
      pure false
    else if leadsWith trees (.word "const") then traitConstant inner
    else if leadsWith trees (.word "type") then do
      let _ ← typeItem inner .behindValue
      pure false
    else if !isMarked && leadsWithAny trees invocationSigns then do
      invokedEntry
      pure false
    else
      miss ([.word "fn", .word "const", .word "type"] ++
        if isMarked then [] else invocationSigns)
  if kept || isMarked then verbatimSince start

/-- Reads the rest of a trait after its parameters. -/
def traitBody (inner : Grammar) : Reader Unit := do
  if ← silently (operator? ":") then
    let closed : Reader Bool := do
      return leadsWithAny (← row) [.word "where", .group .brace]
    ledBy (Tree.operator [':']) (strictSum closed (inner.bound false true))
  let _ ← whereClause inner
  bodyOf inner (traitEntry inner)

/-- Reads the rest of a trait that stands for others, after its
parameters. -/
def traitSynonym (inner : Grammar) : Reader Unit := do
  operator "="
  let closed : Reader Bool := do
    return leadsWithAny (← row) [.word "where", .operator ";"]
  strictSum closed (inner.bound false true)
  let _ ← whereClause inner
  operator ";"

/-- Reads a trait from its keyword on. -/
def traitItem (inner : Grammar) : Reader Unit := do
  word "trait"
  let _ ← name
  let _ ← parameters inner
  if leadsWithAny (← row) [.group .brace, .operator ":", .word "where"] then traitBody inner
  else if ← sees (.operator "=") then traitSynonym inner
  else miss [.group .brace, .operator ":", .word "where", .operator "="]

/-- Reads a trait that starts with `unsafe` or `auto`. -/
def markedTrait (inner : Grammar) : Reader Unit := do
  let _ ← word? "unsafe"
  let _ ← word? "auto"
  word "trait"
  let _ ← name
  let _ ← parameters inner
  traitBody inner

/-! ### Implementations -/

/-- Whether a row starts with `default` as a mark and not as the name of
something called. -/
def leadsWithDefault (row : List Tree) : Bool :=
  leadsWith row (.word "default") && !leadsWith (afterFirst row) (.operator "!")

/-- Reads a function of an implementation, and says whether it is kept as it
is written, since it has no body. -/
def implFunction (inner : Grammar) : Reader Bool := do
  let _ ← signature inner false
  if ← operator? ";" then return true
  markedBlock inner
  return false

/-- Reads an item of an implementation. -/
def implEntry (inner : Grammar) : Reader Unit := do
  let start ← get
  marks inner
  let isVisible ← visibility?
  let isDefault := leadsWithDefault (← row)
  if isDefault then word "default"
  let trees ← row
  let isMarked := isVisible || isDefault
  let kept ←
    if leadsWithSignature false trees then implFunction inner
    else if leadsWith trees (.word "const") then do
      word "const"
      let (hasValue, isPlain) ← constant inner
      pure (!hasValue || !isPlain)
    else if leadsWith trees (.word "type") then do
      let read ← typeItem inner .behindValue
      pure (read.hasBounds || !read.hasValue)
    else if !isMarked && leadsWithAny trees invocationSigns then do
      invokedEntry
      pure false
    else
      miss ((if isDefault then [] else [.word "default"]) ++
        [.word "fn", .word "const", .word "type"] ++
        if isMarked then [] else invocationSigns)
  if kept then verbatimSince start

/-- Whether a type is a path without a qualifier, and so can name a trait. -/
def namesTrait : TypeExpr → Bool
  | .path none _ _ _ => true
  | _ => false

/-- Reads a mark that an implementation is constant, if there is one, and says
whether there is. -/
def implConst? : Reader Bool := do
  if (← sees (.operator "?")) && (← seesSecond (.word "const")) then operator "?"
  word? "const"

/-- Reads an implementation after its visibility, and says whether it is kept
as it is written. -/
def implementation (inner : Grammar) : Reader Bool := do
  let _ ← word? "default"
  let _ ← word? "unsafe"
  word "impl"
  if leadsWithParameters (← row) then
    let _ ← parameters inner
  let isConst ← implConst?
  let isNegative := (← sees (.operator "!")) && !(← seesSecond (.group .brace))
  if isNegative then operator "!"
  let first ← inner.type true
  let hasTrait ← word? "for"
  if hasTrait then inner.typeTrees true
  else if isNegative then fail .negativeInherent
  let _ ← whereClause inner
  bodyOf inner (implEntry inner)
  return isConst || (hasTrait && !namesTrait first.type)

/-! ### Imports -/

/-- Reads a new name for what is imported. -/
def newName : Reader Unit := do
  if (← sees .name) || (← sees (.word "_")) then
    let _ ← anyIdent
  else want .newName

/-- Reads trees of imported paths in braces, at most `limit` of them. Gives
whether none of them starts with colons. -/
def importGroup (inner : Grammar) (rooted : Bool) : Nat → Reader Bool
  | 0 => return true
  | limit + 1 => do
    if ← atEnd then return true
    let colons ← if rooted then operator? "::" else pure false
    let plain ← inner.imports (rooted && !colons)
    if ← atEnd then return plain && !colons
    operator ","
    let others ← importGroup inner rooted limit
    return plain && !colons && others

/-- Reads a tree of imported paths. -/
def readImports (inner : Grammar) (rooted : Bool) : Reader Bool := do
  let trees ← row
  if leadsWith trees .name || leadsWithWord trees ["self", "super", "crate", "try"] then
    let _ ← anyIdent
    if ← operator? "::" then inner.imports false
    else
      if ← word? "as" then newName
      return true
  else if ← operator? "*" then return true
  else if leadsWith trees (.group .brace) then
    delimited .brace do importGroup inner rooted ((← row).length + 1)
  else
    miss [.name, .word "self", .word "super", .word "crate", .word "try", .operator "*",
      .group .brace]

/-- Reads an import, and says whether it is kept as it is written. -/
def importItem (inner : Grammar) : Reader Bool := do
  word "use"
  let leading ← operator? "::"
  let plain ← readImports inner (!leading)
  operator ";"
  return !plain

/-! ### Other items -/

/-- Reads a function, and says whether it is kept as it is written, since it
has no body. -/
def functionItem (inner : Grammar) : Reader Bool := do
  let _ ← signature inner false
  if ← operator? ";" then return true
  markedBlock inner
  return false

/-- Reads an external library. -/
def libraryItem : Reader Unit := do
  word "extern"
  word "crate"
  let _ ← nameOr "self"
  if ← word? "as" then
    let _ ← nameOr "_"
  operator ";"

/-- Reads a variable, and says whether it is kept as it is written, since its
type or value is missing. -/
def staticItem (inner : Grammar) : Reader Bool := do
  word "static"
  let _ ← word? "mut"
  let _ ← name
  if ← value? inner then
    operator ";"
    return true
  operator ":"
  inner.typeTrees true
  if ← operator? ";" then return true
  operator "="
  inner.expressionTrees
  operator ";"
  return false

/-- Reads a module. -/
def moduleItem (inner : Grammar) : Reader Unit := do
  let _ ← word? "unsafe"
  word "mod"
  let _ ← nameOr "try"
  if !(← operator? ";") then
    if !(← sees (.group .brace)) then miss [.operator ";", .group .brace]
    bodyOf inner do
      let start ← get
      marks inner
      inner.item start

/-- Reads a declaration of a type after its keyword. -/
def declared (inner : Grammar) (body : Reader (Bool × Shape)) : Reader Unit := do
  let _ ← anyIdent
  let _ ← name
  let _ ← parameters inner
  let _ ← body

/-- Reads a rule for calls with an exclamation mark, which is kept as it is
written. -/
def ruleItem : Reader Unit := do
  word "macro"
  let _ ← name
  let hasParameters ← sees (.group .paren)
  if hasParameters then delimited .paren everything
  if ← sees (.group .brace) then delimited .brace everything
  else miss (if hasParameters then [.group .brace] else [.group .paren, .group .brace])

/-- Reads a plain path that is called with an exclamation mark and may define
a name. -/
def invokedItem : Reader Unit := do
  let _ ← plainPath
  operator "!"
  if (← sees .name) || (← sees (.word "try")) then
    let _ ← anyIdent
  let delimiter ← anyGroup
  if delimiter ≠ .brace then operator ";"

/-- Reads an item that starts with `extern` and is no function. -/
def externItem (inner : Grammar) (isVisible : Bool) : Reader Unit := do
  let second := afterFirst (← row)
  let body := if leadsWith second .string then afterFirst second else second
  if leadsWith second (.word "crate") then libraryItem
  else if leadsWith body (.group .brace) then
    if isVisible then miss [.word "extern"] else foreignBlock inner
  else
    advance body
    if leadsWith second .string then miss [.group .brace]
    else miss [.word "crate", .group .brace, .string]

/-- Reads an item that starts with `unsafe` and is no function. Says whether it
is kept as it is written. -/
def guardedItem (inner : Grammar) (isVisible : Bool) : Reader Bool := do
  let second := afterFirst (← row)
  if leadsWith second (.word "trait") || (leadsWith second (.word "auto") &&
      leadsWith (afterFirst second) (.word "trait")) then
    markedTrait inner
    return false
  else if leadsWith second (.word "impl") then
    return (← implementation inner) || isVisible
  else if leadsWith second (.word "extern") then
    if isVisible then miss [.word "extern"] else foreignBlock inner
    return false
  else if leadsWith second (.word "mod") then
    moduleItem inner
    return false
  else
    advance second
    miss [.word "trait", .word "auto", .word "impl", .word "extern", .word "mod"]

/-- What an item can start with. -/
def itemSigns (isVisible : Bool) : List Sign := [
  .word "fn", .word "extern", .word "use", .word "static", .word "const", .word "unsafe",
  .word "mod", .word "type", .word "struct", .word "enum", .word "union", .word "trait",
  .word "auto", .word "impl", .word "default", .word "macro"] ++
  if isVisible then [] else invocationSigns

/-- Reads an item after its visibility, and says whether it is kept as it is
written. -/
def itemBody (inner : Grammar) (isVisible : Bool) : Reader Bool := do
  let trees ← row
  let second := afterFirst trees
  let plainly (reader : Reader Unit) : Reader Bool := do
    reader
    return false
  if leadsWithSignature false trees then functionItem inner
  else if leadsWith trees (.word "extern") then plainly (externItem inner isVisible)
  else if leadsWith trees (.word "use") then importItem inner
  else if leadsWith trees (.word "static") then staticItem inner
  else if ← word? "const" then
    let (hasValue, isPlain) ← constant inner
    return !hasValue || !isPlain
  else if leadsWith trees (.word "unsafe") then guardedItem inner isVisible
  else if leadsWith trees (.word "mod") then plainly (moduleItem inner)
  else if leadsWith trees (.word "type") then
    let read ← typeItem inner .beforeValue
    return read.hasBounds || !read.hasValue
  else if leadsWith trees (.word "struct") then plainly (declared inner (structureBody inner))
  else if leadsWith trees (.word "enum") then plainly (declared inner (enumerationBody inner))
  else if leadsWith trees (.word "union") && leadsWith second .name then
    plainly (declared inner (unionBody inner))
  else if leadsWith trees (.word "trait") then plainly (traitItem inner)
  else if leadsWith trees (.word "auto") && leadsWith second (.word "trait") then
    plainly (markedTrait inner)
  else if leadsWith trees (.word "impl") || leadsWithDefault trees then
    return (← implementation inner) || isVisible
  else if leadsWith trees (.word "macro") then
    ruleItem
    return true
  else if !isVisible && leadsWithAny trees invocationSigns then plainly invokedItem
  else miss (itemSigns isVisible)

/-- Reads an item whose attributes have been read since `start`. -/
def readItem (inner : Grammar) (start : Cursor) : Reader Unit := do
  let isVisible ← visibility?
  let kept ← itemBody inner isVisible
  if kept then verbatimSince start

end Recordsmith.Source.Grammar

import Recordsmith.Source.Grammar.Expressions

/-!
# `Recordsmith.Source.Grammar.Statements`: the grammar of statements

A block holds statements: bindings with `let`, items, calls with an
exclamation mark, and expressions. Semicolons stand between them, but an
expression that its last brace ends needs none, and neither does a binding
or an item, which has its own.
-/

set_option autoImplicit false

namespace Recordsmith.Source.Grammar

open Reader

/-! ### What comes next -/

/-- Whether a row starts with the words before a function, after `const`,
`async` and the like. -/
def leadsWithFunctionWord (row : List Tree) : Bool :=
  leadsWithWord row functionWords

/-- Whether a row that starts with `const` goes on as an item, rather than as
a block or closure. -/
def isConstItem (second third : List Tree) : Bool :=
  !(leadsWithAny second [.group .brace, .operator "|"] ||
    leadsWithWord second ["static", "move"] ||
    (leadsWith second (.word "async") && !leadsWithFunctionWord third))

/-- Whether a row starts with an item, calls with an exclamation mark apart. -/
def leadsWithItem (row : List Tree) : Bool :=
  let second := afterFirst row
  let third := afterFirst second
  leadsWithWord row ["pub", "extern", "use", "fn", "mod", "type", "struct", "enum", "trait",
      "impl", "macro"] ||
    (leadsWith row (.word "crate") && !leadsWith second (.operator "::")) ||
    (leadsWith row (.word "static") && leadsWithAny second [.word "mut", .name]) ||
    (leadsWith row (.word "const") && isConstItem second third) ||
    (leadsWith row (.word "unsafe") && !leadsWith second (.group .brace)) ||
    (leadsWith row (.word "async") && leadsWithFunctionWord second) ||
    (leadsWith row (.word "union") && leadsWith second .name) ||
    (leadsWith row (.word "auto") && leadsWith second (.word "trait")) ||
    (leadsWith row (.word "default") && leadsWithWord second ["unsafe", "impl"])

/-- What a plain path with an exclamation mark at the front of a row is. -/
inductive Invoked where
  /-- An item: a name stands behind the mark. -/
  | item
  /-- A statement of its own: braces stand behind the mark, and nothing goes
  on behind them. -/
  | statement
  | neither
  deriving DecidableEq

/-- What a plain path with an exclamation mark at the front of a row is. -/
def invokedAhead (row : List Tree) : Invoked :=
  match Reader.after? plainPath row with
  | none => .neither
  | some rest =>
    let second := afterFirst rest
    let third := afterFirst second
    if !leadsWith rest (.operator "!") then .neither
    else if leadsWithAny second [.name, .word "try"] then .item
    else if leadsWith second (.group .brace) && !leadsWithPoint third &&
        !leadsWith third (.operator "?") then
      .statement
    else .neither

/-! ### Statements -/

/-- Reads a binding. A block behind `else` may follow its value unless that
ends in a block itself. -/
def binding (inner : Grammar) : Reader Unit := do
  word "let"
  let _ ← inner.pattern
  if ← operator? ":" then inner.typeTrees true
  if ← operator? "=" then
    let value ← inner.expression true
    if !value.endsInBlock then
      if ← word? "else" then inner.block
  operator ";"

/-- Reads an expression as a statement, after attributes that are printed as
given, and says whether a semicolon has to follow before another statement.
Attributes cannot be put on an operand that is kept as it is written. -/
def expressionStatement (inner : Grammar) (found : List Tree) : Reader Bool := do
  let (expression, trees) ← captured inner.bounded
  if !expression.startsVerbatim then write found
  write trees
  let separated ← operator? ";"
  return !separated && !expression.isBlockLike &&
    expression.form != .invocation .brace

/-- Reads a statement, and says whether a semicolon has to follow before
another one. -/
def statement (inner : Grammar) : Reader Bool := do
  let start ← get
  let (_, found) ← captured (marks inner)
  let trees ← row
  let invoked := invokedAhead trees
  if invoked = .statement then
    write found
    let _ ← plainPath
    let _ ← invocation
    let _ ← operator? ";"
    return false
  else if leadsWith trees (.word "let") then
    write found
    binding inner
    return false
  else if leadsWithItem trees || invoked = .item then
    write found
    inner.item start
    return false
  else expressionStatement inner found

/-- Reads statements up to the end of the row, at most `limit` of them. -/
def statementsUpTo (inner : Grammar) : Nat → Reader Unit
  | 0 => return
  | limit + 1 => do
    let _ ← whileMore (sees (.operator ";")) (operator ";")
    if ← atEnd then return
    let unfinished ← statement inner
    if ← atEnd then return
    if unfinished then fail .unseparated
    statementsUpTo inner limit

/-- Reads the statements of a block up to the end of the row. -/
def readStatements (inner : Grammar) : Reader Unit := do
  statementsUpTo inner ((← row).length + 1)

end Recordsmith.Source.Grammar

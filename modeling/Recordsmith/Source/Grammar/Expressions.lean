import Recordsmith.Source.Grammar.Operators
import Recordsmith.Source.Grammar.Patterns
import Recordsmith.Source.Lexeme

/-!
# `Recordsmith.Source.Grammar.Expressions`: the grammar of operands

Readers for everything that operators stand between: literals, paths,
calls, blocks, loops, closures and jumps, with the signs before them and
the fields, calls and indices behind them.

Where a block ends an expression, as a statement or an arm of a `match`,
the expression ends with it unless a point or a question mark follows
(`boundedExpression`).
-/

set_option autoImplicit false

namespace Recordsmith.Source.Grammar

open Reader

/-! ### Groups -/

/-- Reads expressions with commas between them up to the end of the row. -/
def expressions (inner : Grammar) : Reader (List Unit × Bool) :=
  items inner.expressionTrees

/-- Reads the arguments of a call. -/
def callArguments (inner : Grammar) : Reader Unit := do
  let _ ← delimited .paren (expressions inner)

/-- Reads an expression in parentheses, or a tuple. -/
def parenExpression (inner : Grammar) : Reader Expression := do
  let (found, trailing) ← delimited .paren (expressions inner)
  return .plain (if found.length == 1 && !trailing then .paren else .tuple)

/-- Reads an array, or an element with a number of repetitions. -/
def bracketExpression (inner : Grammar) : Reader Expression :=
  delimited .bracket do
    if ← atEnd then return .plain .array
    inner.expressionTrees
    if ← operator? ";" then
      inner.expressionTrees
      return .plain .repetition
    else if ← atEnd then return .plain .array
    else if ← operator? "," then
      let _ ← expressions inner
      return .plain .array
    else miss [.operator ",", .operator ";"]

/-! ### Paths -/

/-- The form of a path that stands alone. -/
def pathForm : TypeExpr → ExpressionForm
  | .path none false [] (.mk found .none) => .name found
  | _ => .path

/-- Reads a field of a structure with its value. The value of a field with a
name may be left out. -/
def fieldValue (inner : Grammar) : Reader Unit := do
  marks inner
  let named ← member
  if !named || (← sees (.operator ":")) then
    operator ":"
    inner.expressionTrees

/-- Reads the fields of a structure, at most `limit` of them. Two points end
them, with or without a structure that the other fields come from. -/
def fieldValues (inner : Grammar) : Nat → Reader Unit
  | 0 => return
  | limit + 1 => do
    if ← atEnd then return
    if ← operator? ".." then
      if !(← atEnd) then inner.expressionTrees
    else
      fieldValue inner
      if !(← atEnd) then
        operator ","
        fieldValues inner limit

/-- Reads what starts with a path: the path itself, an invocation with an
exclamation mark, or a structure. -/
def pathExpression (inner : Grammar) (structures : Bool) : Reader Expression := do
  let found ← anyPath inner
  if ← seesInvocation found.isPlain then
    let delimiter ← invocation
    return ⟨.invocation delimiter, delimiter == .brace, false⟩
  else if structures && (← sees (.group .brace)) then
    delimited .brace do fieldValues inner ((← row).length + 1)
    return .closed .structured
  else return .plain (pathForm found.type)

/-! ### Blocks and loops -/

/-- Reads a keyword and a block. -/
def keywordBlock (inner : Grammar) (keyword : String) (form : ExpressionForm) :
    Reader Expression := do
  word keyword
  markedBlock inner
  return .closed form

/-- Reads the condition of a loop or conditional. -/
def condExpression (inner : Grammar) : Reader Unit := do
  let _ ← inner.expression false

/-- Reads conditions and blocks with `else` between them, at most `limit` of
them. -/
def conditionalUpTo (inner : Grammar) : Nat → Reader Unit
  | 0 => return
  | limit + 1 => do
    word "if"
    condExpression inner
    inner.block
    if ← word? "else" then
      if ← sees (.word "if") then conditionalUpTo inner limit
      else if ← sees (.group .brace) then inner.block
      else miss [.word "if", .group .brace]

/-- Reads a conditional with its alternatives. -/
def conditional (inner : Grammar) : Reader Expression := do
  conditionalUpTo inner (← row).length
  return .closed .conditional

/-- Reads a loop with a condition. -/
def whileLoop (inner : Grammar) : Reader Expression := do
  word "while"
  condExpression inner
  markedBlock inner
  return .closed .whileLoop

/-- Reads a loop over the items of an expression. -/
def forLoop (inner : Grammar) : Reader Expression := do
  word "for"
  let _ ← alternatives inner
  word "in"
  condExpression inner
  markedBlock inner
  return .closed .forLoop

/-- Reads an arm of a `match`. A comma may be left out behind the last arm and
behind a block. -/
def arm (inner : Grammar) : Reader Unit := do
  marks inner
  let _ ← alternatives inner
  if ← word? "if" then inner.expressionTrees
  operator "=>"
  let body ← inner.bounded
  if body.isBlockLike || (← atEnd) then
    let _ ← operator? ","
  else operator ","

/-- Reads a `match` with its arms. -/
def matching (inner : Grammar) : Reader Expression := do
  word "match"
  condExpression inner
  delimited .brace do
    innerMarks inner
    let _ ← untilEnd (arm inner)
  return .closed .matching

/-- Reads a keyword and a block without attributes of its own. -/
def plainBlock (inner : Grammar) (keyword : String) (form : ExpressionForm) :
    Reader Expression := do
  word keyword
  inner.block
  return .closed form

/-- Reads an `async` block. -/
def asyncBlock (inner : Grammar) : Reader Expression := do
  word "async"
  let _ ← word? "move"
  inner.block
  return .closed .asyncBlock

/-- Reads a constant block as an expression. -/
def constExpression (inner : Grammar) : Reader Expression := do
  constBlock inner
  return .plain .constBlock

/-- Reads a block as an expression. -/
def blockExpression (inner : Grammar) : Reader Expression := do
  markedBlock inner
  return .closed .block

/-- Reads a loop or a block with a label before it. -/
def labelled (inner : Grammar) : Reader Expression := do
  lifetime
  operator ":"
  let trees ← row
  if leadsWith trees (.word "while") then whileLoop inner
  else if leadsWith trees (.word "for") then forLoop inner
  else if leadsWith trees (.word "loop") then keywordBlock inner "loop" .loop
  else if leadsWith trees (.group .brace) then blockExpression inner
  else want .labelled

/-! ### Closures and jumps -/

/-- Whether a row can start an expression. -/
def leadsWithExpression (row : List Tree) : Bool :=
  let bare (sign : String) (others : List String) : Bool :=
    leadsWith row (.operator sign) && !others.any fun other => leadsWith row (.operator other)
  (leadsWithIdent row && !leadsWith row (.word "as")) ||
    leadsWithAny row [.group .paren, .group .bracket, .group .brace, .literal, .lifetime,
      .operator "..", .operator "::", .operator "#"] ||
    bare "!" ["!="] || bare "-" ["-=", "->"] || bare "*" ["*="] ||
    bare "|" ["|="] || bare "&" ["&="] || bare "<" ["<=", "<<="]

/-- Reads an expression if one can start here. -/
def optionalValue (inner : Grammar) (form : ExpressionForm) : Reader Expression := do
  if leadsWithExpression (← row) then return .before form (← inner.expression true)
  else return .plain form

/-- Reads a `break`, which may name a loop and carry a value. -/
def breaking (inner : Grammar) (structures : Bool) : Reader Expression := do
  word "break"
  let trees ← row
  if leadsWith trees .lifetime && leadsWith (afterFirst trees) (.operator ":") then
    inner.expressionTrees
    fail .bareLabelled
  let _ ← lifetime?
  if !structures && (← sees (.group .brace)) then return .plain .breaking
  else optionalValue inner .breaking

/-- Reads a keyword that a value may follow. -/
def jump (inner : Grammar) (keyword : String) (form : ExpressionForm) :
    Reader Expression := do
  word keyword
  optionalValue inner form

/-- Reads a `continue`, which may name a loop. -/
def continuing : Reader Expression := do
  word "continue"
  let _ ← lifetime?
  return .plain .continuing

/-- Reads a form that is kept as it is written. -/
def keptAsWritten (reader : Reader Unit) : Reader Expression := do
  let start ← get
  reader
  verbatimSince start
  let taken := (← get).written
  return ⟨.verbatim, endsInBrace (taken.take 1), true⟩

/-- Reads a call that replaces the one it stands in. -/
def becoming (inner : Grammar) : Reader Expression :=
  keptAsWritten do
    word "become"
    inner.expressionTrees

/-- Reads a call of something built in. -/
def builtIn : Reader Expression :=
  keptAsWritten do
    word "builtin"
    operator "#"
    let _ ← name
    delimited .paren everything

/-- Reads a parameter of a closure. Attributes before a pattern that is kept
as it is written are dropped, unless it has a type. -/
def closureParameter (inner : Grammar) : Reader Unit := do
  let (_, found) ← captured (marks inner)
  let (form, trees) ← captured inner.pattern
  let typed ← sees (.operator ":")
  if form ≠ .verbatim || typed then write found
  write trees
  if typed then
    operator ":"
    inner.typeTrees true

/-- Reads a closure. With a result type its body has to be a block. -/
def closure (inner : Grammar) (structures : Bool) : Reader Expression := do
  let _ ← binder? inner
  let _ ← word? "const"
  let _ ← word? "static"
  let _ ← word? "async"
  let _ ← word? "move"
  operator "|"
  let _ ← list (sees (.operator "|")) (closureParameter inner)
  operator "|"
  if ← operator? "->" then
    inner.typeTrees true
    inner.block
    return .closed .closure
  else return .before .closure (← inner.expression structures)

/-- Reads a `let` in a condition. -/
def letting (inner : Grammar) (structures : Bool) : Reader Expression := do
  word "let"
  let _ ← alternatives inner
  operator "="
  let value ← inner.operand structures
  return .before .letting (← inner.climb structures compareLevel value)

/-! ### Behind an operand -/

/-- Reads a number behind a point that is the places of elements of nested
tuples. Says whether a point is left at its end, to be followed by another
field. -/
def nestedPlaces (isNegative : Bool) (text : String) : Reader Bool := do
  let trailing := text.toList.getLast? == some '.'
  let parts := (text.splitOn ".").filter (· != "")
  let places := parts.mapIdx fun index part => (index, part)
  let _ ← places.mapM fun (index, part) => do
    if index != 0 then write (Tree.operator ['.'])
    match Tree.ofText? part with
    | some [.literal place] => writePlace (isNegative && index == 0) place
    | _ => fail .unreadablePlace
  if trailing then write (Tree.operator ['.'])
  return trailing

/-- Reads a field, a call of a method, or `await` behind a point. -/
def selection (inner : Grammar) : Reader Expression := do
  if ← word? "await" then return .plain .awaiting
  let named ← member
  let hasArguments := named && (← sees (.operator "::"))
  if hasArguments then
    let _ ← methodArguments inner
  if hasArguments || (named && (← sees (.group .paren))) then
    callArguments inner
    return .plain .methodCall
  else return .plain .field

/-- Reads what stands behind a point. -/
def behindPoint (inner : Grammar) : Reader Expression := do
  match numberAhead? (← row) with
  | some (isNegative, text, rest) =>
    if Literal.ofText text = .decimal then
      advance rest
      if ← nestedPlaces isNegative text then selection inner else return .plain .field
    else selection inner
  | none => selection inner

/-- Reads everything that stands behind an operand, in at most `limit`
pieces. -/
def trailers (inner : Grammar) (left : Expression) : Nat → Reader Expression
  | 0 => return left
  | limit + 1 => do
    let trees ← row
    let isRange := left.form == .range
    if leadsWith trees (.group .paren) then
      callArguments inner
      trailers inner (.plain .call) limit
    else if leadsWithPoint trees && !isRange then
      operator "."
      trailers inner (← behindPoint inner) limit
    else if leadsWith trees (.group .bracket) then
      delimited .bracket inner.expressionTrees
      trailers inner (.plain .index) limit
    else if leadsWith trees (.operator "?") && !isRange then
      operator "?"
      trailers inner (.plain .trying) limit
    else return left

/-- Reads everything that stands behind an operand. -/
def withTrailers (inner : Grammar) (left : Expression) : Reader Expression := do
  trailers inner left (← row).length

/-! ### Operands -/

/-- Whether a row starts with a loop over some items, rather than with a
closure that binds parameters. -/
def leadsWithForLoop (row : List Tree) : Bool :=
  leadsWith row (.word "for") && !leadsWithParameters (afterFirst row)

/-- Whether a row starts with a closure. -/
def leadsWithClosure (row : List Tree) : Bool :=
  let second := afterFirst row
  leadsWith row (.operator "|") || leadsWithWord row ["move", "static"] ||
    (leadsWith row (.word "for") && leadsWithParameters second) ||
    (leadsWith row (.word "const") && !leadsWith second (.group .brace)) ||
    (leadsWith row (.word "async") && leadsWithAny second [.operator "|", .word "move"])

/-- Whether a row starts with an `async` block. -/
def leadsWithAsyncBlock (row : List Tree) : Bool :=
  let second := afterFirst row
  leadsWith row (.word "async") && (leadsWith second (.group .brace) ||
    (leadsWith second (.word "move") && leadsWith (afterFirst second) (.group .brace)))

/-- Reads an expression that its last brace ends, if one comes next. -/
def blockLike? (inner : Grammar) : Reader (Option Expression) := do
  let trees ← row
  let beforeBrace := leadsWith (afterFirst trees) (.group .brace)
  if leadsWith trees (.word "if") then return some (← conditional inner)
  else if leadsWith trees (.word "while") then return some (← whileLoop inner)
  else if leadsWithForLoop trees then return some (← forLoop inner)
  else if leadsWith trees (.word "loop") then return some (← keywordBlock inner "loop" .loop)
  else if leadsWith trees (.word "match") then return some (← matching inner)
  else if leadsWith trees (.word "try") && beforeBrace then
    return some (← plainBlock inner "try" .tryBlock)
  else if leadsWith trees (.word "unsafe") then
    return some (← keywordBlock inner "unsafe" .uncheckedBlock)
  else if leadsWith trees (.word "const") && beforeBrace then
    return some (← constExpression inner)
  else if leadsWith trees (.group .brace) then return some (← blockExpression inner)
  else if leadsWith trees .lifetime then return some (← labelled inner)
  else return none

/-- Whether a row starts with a path in an expression. -/
def leadsWithPath (row : List Tree) : Bool :=
  leadsWithAny row [.name, .operator "::", .operator "<"] || leadsWithWord row pathWords ||
    (leadsWith row (.word "try") &&
      leadsWithAny (afterFirst row) [.operator "!", .operator "::"])

/-- Reads an operand without anything before or behind it. -/
def atom (inner : Grammar) (structures : Bool) : Reader Expression := do
  let trees ← row
  if leadsWith trees .literal then return .plain (.literal (← literal))
  else if leadsWithAsyncBlock trees then asyncBlock inner
  else if leadsWithClosure trees then closure inner structures
  else if leadsWith trees (.word "builtin") && leadsWith (afterFirst trees) (.operator "#") then
    builtIn
  else if leadsWithPath trees then pathExpression inner structures
  else if leadsWith trees (.group .paren) then parenExpression inner
  else if leadsWith trees (.group .bracket) then bracketExpression inner
  else if leadsWith trees (.word "break") then breaking inner structures
  else if leadsWith trees (.word "continue") then continuing
  else if leadsWith trees (.word "return") then jump inner "return" .returning
  else if leadsWith trees (.word "yield") then jump inner "yield" .yielding
  else if leadsWith trees (.word "become") then becoming inner
  else if leadsWith trees (.word "let") then letting inner structures
  else if leadsWith trees (.operator "..") then rangeTail inner structures
  else if ← word? "_" then return .plain .hole
  else
    match ← blockLike? inner with
    | some found => return found
    | none => want .expression

/-- Reads an operand with what stands behind it. Attributes before one that is
kept as it is written are kept so as well. -/
def markedAtom (inner : Grammar) (structures : Bool) (start : Cursor) (isMarked : Bool) :
    Reader Expression := do
  let left ← atom inner structures
  let whole ← withTrailers inner left
  if whole.form = .verbatim then verbatimSince start
  else if isMarked && whole.form = .range then fail .attributedRange
  return whole

/-- Reads a reference. -/
def referenceTo (inner : Grammar) (structures : Bool) : Reader Expression := do
  operator "&"
  let second := afterFirst (← row)
  let isRaw := (← sees (.word "raw")) && leadsWithWord second ["mut", "const"]
  if isRaw then word "raw"
  let changing ← word? "mut"
  if isRaw && !changing then word "const"
  let operand ← inner.operand structures
  return .before (if isRaw then .rawReference else .reference) operand

/-- Reads an operand with what stands before and behind it. -/
def readOperand (inner : Grammar) (structures : Bool) : Reader Expression := do
  let start ← get
  let found ← attributes inner
  let trees ← row
  if leadsWith trees (.operator "&") then referenceTo inner structures
  else
    match ["*", "!", "-"].find? fun sign => leadsWith trees (.operator sign) with
    | some sign =>
      operator sign
      return .before .unary (← inner.operand structures)
    | none => markedAtom inner structures start (!found.isEmpty)

/-- Reads an expression that a block may end: after one that its last brace
ends, only a point or a question mark goes on. Attributes before an operand
that is kept as it is written are dropped. -/
def readBounded (inner : Grammar) : Reader Expression := do
  let (_, found) ← captured (marks inner)
  let (block, trees) ← captured (blockLike? inner)
  match block with
  | some block =>
    write (found ++ trees)
    let next ← row
    if leadsWithPoint next || leadsWith next (.operator "?") then
      inner.climb true 0 (← withTrailers inner block)
    else return block
  | none =>
    let (left, trees) ← captured (inner.operand true)
    if !(left.form = .verbatim) then write found
    write trees
    inner.climb true 0 left

end Recordsmith.Source.Grammar

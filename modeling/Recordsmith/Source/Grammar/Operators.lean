import Recordsmith.Source.Grammar.Types

/-!
# `Recordsmith.Source.Grammar.Operators`: expressions with operators

Binary operators are read by climbing: `climbFrom` goes on after a left
operand as long as the next operator binds at least as tightly as a given
level. The outermost operator of the result is the one that binds most
loosely, which is what decides the form of the expression.

Assignments, ranges and casts are levels among the others. A range ends
the climb, since nothing can follow one on its level, and after a cast
only another operator can follow.
-/

set_option autoImplicit false

namespace Recordsmith.Source.Grammar

open Reader

/-! ### Levels -/

/-- The level of assignments. -/
def assignLevel : Nat := 1

/-- The level of ranges. -/
def rangeLevel : Nat := 2

/-- The level of comparisons. -/
def compareLevel : Nat := 6

/-- The level of casts. -/
def castLevel : Nat := 13

/-- Operators of two operands with their levels. Of two operators that start
alike the longer one stands first. -/
def binaryOperators : List (String × Nat) := [
  ("<<=", 1), (">>=", 1), ("+=", 1), ("-=", 1), ("*=", 1), ("/=", 1), ("%=", 1), ("^=", 1),
  ("&=", 1), ("|=", 1), ("&&", 4), ("||", 3), ("<<", 10), (">>", 10), ("==", 6), ("<=", 6),
  ("!=", 6), (">=", 6), ("+", 11), ("-", 11), ("*", 12), ("/", 12), ("%", 12), ("^", 8),
  ("&", 9), ("|", 7), ("<", 6), (">", 6)]

/-- The operator of two operands that a row starts with, with its level. -/
def binaryAhead? (row : List Tree) : Option (String × Nat) :=
  binaryOperators.find? fun entry => leadsWith row (.operator entry.1)

/-- Whether a row starts with an assignment. -/
def leadsWithAssignment (row : List Tree) : Bool :=
  leadsWith row (.operator "=") && !leadsWith row (.operator "=>")

/-- The level of whatever operator a row starts with; zero if with none. -/
def levelAhead (row : List Tree) : Nat :=
  match binaryAhead? row with
  | some (_, level) => level
  | none =>
    if leadsWithAssignment row then assignLevel
    else if leadsWith row (.operator "..") then rangeLevel
    else if leadsWith row (.word "as") then castLevel
    else 0

/-! ### Right sides -/

/-- Goes on after a right operand with all that binds more tightly than the
given level, in at most `limit` rounds. Assignments group to the right. -/
def rightOperand (inner : Grammar) (structures : Bool) (level : Nat) (right : Expression) :
    Nat → Reader Expression
  | 0 => return right
  | limit + 1 => do
    let trees ← row
    let next := levelAhead trees
    if next > level || (next == level && level == assignLevel) then
      let longer ← inner.climb structures next right
      if (← row).length == trees.length then return longer
      else rightOperand inner structures level longer limit
    else return right

/-- Reads the right side of an operator. -/
def rightSide (inner : Grammar) (structures : Bool) (level : Nat) : Reader Expression := do
  let right ← inner.operand structures
  rightOperand inner structures level right (← row).length

/-- Whether a row goes on without the end of a range. -/
def leadsPastRange (structures : Bool) (row : List Tree) : Bool :=
  row.isEmpty || leadsWithPoint row || leadsWith row (.word "as") ||
    (!structures && leadsWith row (.group .brace)) ||
    leadsWithAny row [.operator ",", .operator ";", .operator "?", .operator "=>",
      .operator "=", .operator "+", .operator "/", .operator "%", .operator "^",
      .operator ">", .operator "<=", .operator "!=", .operator "-=", .operator "*=",
      .operator "&=", .operator "|=", .operator "<<="]

/-- Reads the points and the end of a range. -/
def rangeTail (inner : Grammar) (structures : Bool) : Reader Expression := do
  if ← sees (.operator "...") then miss [.operator "..="]
  let closed ← operator? "..="
  if !closed then operator ".."
  if !closed && leadsPastRange structures (← row) then return .plain .range
  else return .before .range (← rightSide inner structures rangeLevel)

/-! ### Casts -/

/-- What a row starts with that may not stand behind a cast. -/
def castTail? (row : List Tree) : Option CastTail :=
  let second := afterFirst row
  if leadsWithPoint row then
    if leadsWith second (.word "await") then some .awaiting
    else if leadsWith second .name &&
        leadsWithAny (afterFirst second) [.group .paren, .operator "::"] then
      some .methodCall
    else some .field
  else if leadsWith row (.operator "?") then some .question
  else if leadsWith row (.group .bracket) then some .index
  else if leadsWith row (.group .paren) then some .call
  else none

/-- Whether the last of some trees is a group in braces. -/
def endsInBrace (trees : List Tree) : Bool :=
  match trees.getLast? with
  | some (.group .brace _) => true
  | _ => false

/-- Reads a cast after what is cast. -/
def cast (inner : Grammar) (left : Expression) : Reader Expression := do
  word "as"
  let read ← inner.type false
  match castTail? (← row) with
  | some tail => fail (.castBefore tail)
  | none => return ⟨.cast, endsInBrace read.type.trees, left.startsVerbatim⟩

/-! ### Climbing -/

/-- Goes on after a left operand with operators of at least the given level,
at most `limit` of them. -/
def climbFrom (inner : Grammar) (structures : Bool) (base : Nat) (left : Expression) :
    Nat → Reader Expression
  | 0 => return left
  | limit + 1 => do
    if left.form = .range then return left
    let trees ← row
    match binaryAhead? trees with
    | some (found, level) =>
      if level < base then return left
      let compares := level == compareLevel
      if compares && left.form = .comparison then fail .chainedComparison
      operator found
      let right ← rightSide inner structures level
      let form := if compares then .comparison else .binary
      climbFrom inner structures base (.between form left right) limit
    | none =>
      if assignLevel ≥ base && leadsWithAssignment trees then
        operator "="
        let right ← rightSide inner structures assignLevel
        climbFrom inner structures base (.between .assignment left right) limit
      else if rangeLevel ≥ base && leadsWith trees (.operator "..") then
        rangeTail inner structures
      else if castLevel ≥ base && leadsWith trees (.word "as") then
        climbFrom inner structures base (← cast inner left) limit
      else return left

/-- Goes on after a left operand with operators of at least the given
level. -/
def readClimb (inner : Grammar) (structures : Bool) (base : Nat) (left : Expression) :
    Reader Expression := do
  climbFrom inner structures base left (← row).length

end Recordsmith.Source.Grammar

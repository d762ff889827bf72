import Recordsmith.Source.Reader
import Recordsmith.Source.Shape

/-!
# `Recordsmith.Source.Grammar.Basic`: grammars as a knot to be tied

Types hold types and expressions, expressions hold blocks, and blocks hold
everything. Each rule of the grammar is written as a reader that takes the
readers for what lies inside it as a `Grammar`. A grammar that reads
nothing allows no nesting; one step of the rules over a grammar allows one
level more. The knot is tied in `Recordsmith.Source.Grammar`, with more
steps than the text has room for.
-/

set_option autoImplicit false

namespace Recordsmith.Source

/-- A type that has been read. -/
structure ReadType where
  type : TypeExpr
  /-- The one bound of a trait object without `dyn` that has a single one. -/
  soleBound : Option (List Tree)

/-- A bound that has been read. -/
inductive Bound where
  | lifetime
  | capture
  | trait

/-- Whether a bound is a trait. -/
def Bound.isTrait : Bound → Bool
  | .trait => true
  | _ => false

/-- What the grammar asks of a pattern that has been read. -/
inductive PatternForm where
  /-- Two points that stand for any number of elements. -/
  | rest
  /-- A range without a start or without an end. -/
  | openRange
  /-- A pattern that is kept as it is written. -/
  | verbatim
  | other
  deriving DecidableEq

/-- Readers for what can lie inside a type, an expression or a block. -/
structure Grammar where
  /-- Reads a type; the flag says whether `A + B` may be one. -/
  type : Bool → Reader ReadType
  /-- Reads a bound; the flags say whether captured parameters and constant
  traits are allowed. -/
  bound : Bool → Bool → Reader Bound
  /-- Reads fields with names up to the end of the row. -/
  fields : Reader (List Field)
  /-- Reads a pattern without alternatives. -/
  pattern : Reader PatternForm
  /-- Reads an operand; the flag says whether it may be a structure with
  braces. -/
  operand : Bool → Reader Expression
  /-- Goes on after an operand with operators that bind at least as tightly
  as the level given. -/
  climb : Bool → Nat → Expression → Reader Expression
  /-- Reads an expression that a block may end. -/
  bounded : Reader Expression
  /-- Reads the statements of a block up to the end of the row. -/
  statements : Reader Unit
  /-- Reads an item whose attributes have been read since the cursor given. -/
  item : Cursor → Reader Unit
  /-- Reads a tree of imported paths; the flag says whether paths may start
  with colons. Gives whether none of them does. -/
  imports : Bool → Reader Bool

namespace Grammar

/-- The grammar that reads nothing. -/
def nothing : Grammar where
  type _ := Reader.miss []
  bound _ _ := Reader.miss []
  fields := Reader.miss []
  pattern := Reader.miss []
  operand _ := Reader.want .expression
  climb _ _ left := return left
  bounded := Reader.want .expression
  statements := Reader.miss []
  item _ := Reader.miss []
  imports _ := Reader.miss []

/-- Reads a type where only its trees matter. -/
def typeTrees (inner : Grammar) (plus : Bool) : Reader Unit := do
  let _ ← inner.type plus

/-- Reads an expression. -/
def expression (inner : Grammar) (structures : Bool) : Reader Expression := do
  let left ← inner.operand structures
  inner.climb structures 0 left

/-- Reads an expression where only its trees matter. -/
def expressionTrees (inner : Grammar) : Reader Unit := do
  let _ ← inner.expression true

/-- Reads a block. -/
def block (inner : Grammar) : Reader Unit :=
  Reader.delimited .brace inner.statements

end Grammar

end Recordsmith.Source

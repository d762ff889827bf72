import Recordsmith.Source.Grammar.Items

/-!
# `Recordsmith.Source.Grammar`: the grammar of source text

`Grammar.upTo` ties the rules of the grammar into one, down to a depth of
nesting: each of its readers is a rule over the grammar of one level less.
Few rules ask for something inside without having taken a tree, and never
more than a handful of them in a row, so the number of trees that are left
bounds the depth: `Reader.grammar` is deep enough for anything they spell.
-/

set_option autoImplicit false

namespace Recordsmith.Source

/-- The grammar with a bounded depth of nesting. -/
def Grammar.upTo : Nat → Grammar
  | 0 => Grammar.nothing
  | depth + 1 => {
    type := fun plus cursor => Grammar.readType (Grammar.upTo depth) plus cursor
    bound := fun captures consts cursor =>
      Grammar.readBound (Grammar.upTo depth) captures consts cursor
    fields := fun cursor => Grammar.readFields (Grammar.upTo depth) cursor
    pattern := fun cursor => Grammar.readPattern (Grammar.upTo depth) cursor
    operand := fun structures cursor =>
      Grammar.readOperand (Grammar.upTo depth) structures cursor
    climb := fun structures base left cursor =>
      Grammar.readClimb (Grammar.upTo depth) structures base left cursor
    bounded := fun cursor => Grammar.readBounded (Grammar.upTo depth) cursor
    statements := fun cursor => Grammar.readStatements (Grammar.upTo depth) cursor
    item := fun start cursor => Grammar.readItem (Grammar.upTo depth) start cursor
    imports := fun rooted cursor => Grammar.readImports (Grammar.upTo depth) rooted cursor }

namespace Reader

/-- The grammar for the trees that are left. -/
def grammar : Reader Grammar := do
  return Grammar.upTo (6 * Tree.size (← row) + 12)

/-- Reads a type. -/
def typeExpr : Reader TypeExpr := do
  return (← (← grammar).type true).type

end Reader

/-- The type that a text spells. -/
def TypeExpr.ofText? (text : String) : Option TypeExpr :=
  (Tree.ofText? text).bind fun trees => (Reader.runAll Reader.typeExpr trees).toOption

/-- The items of a list. -/
def MetaItem.ofTrees (trees : List Tree) : Except Complaint (List MetaItem) :=
  let items : Reader (List MetaItem × Bool) := do
    Reader.items (Grammar.metaItem (← Reader.grammar))
  (Reader.runAll items trees).map (·.1)

/-- The identifier that a text spells, alone but for blanks and comments. -/
def Ident.ofSource? (text : String) : Option Ident :=
  match Tree.ofText? text with
  | some [.ident name] => if name.isName then some name else none
  | _ => none

end Recordsmith.Source

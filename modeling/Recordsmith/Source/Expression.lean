import Recordsmith.Source.Literal

/-!
# `Recordsmith.Source.Expression`: values written in attributes and types

Expressions occur as values of attributes, as lengths of arrays and in
whatever blocks stand inside them. Of an expression its outermost form is
asked, for values that have to be of a certain kind. The grammar itself
asks a little more of one it has just read: how it ends, since that
decides whether something may follow, and whether attributes can be put
on it.
-/

set_option autoImplicit false

namespace Recordsmith.Source

/-- The outermost form of an expression. -/
inductive ExpressionForm where
  | literal (value : Literal)
  /-- A path that is a single name. -/
  | name (name : Ident)
  | path
  | array
  | assignment
  | asyncBlock
  | awaiting
  /-- An operator of two operands that compares them. -/
  | comparison
  /-- Any other operator of two operands. -/
  | binary
  | block
  | breaking
  | call
  | cast
  | closure
  | constBlock
  | continuing
  | field
  | forLoop
  | conditional
  | index
  | letting
  | hole
  | loop
  | invocation (delimiter : Delimiter)
  | matching
  | methodCall
  | paren
  | range
  | reference
  | rawReference
  | repetition
  | returning
  | structured
  | trying
  | tryBlock
  | tuple
  | unary
  | uncheckedBlock
  /-- A form that is kept as it is written. -/
  | verbatim
  | whileLoop
  | yielding
  deriving DecidableEq, Repr

/-- The name of a form in messages. -/
def ExpressionForm.typeName : ExpressionForm → String
  | .literal value => value.typeName
  | .name _ | .path => "path"
  | .array => "array"
  | .assignment => "assign"
  | .asyncBlock => "async"
  | .awaiting => "await"
  | .comparison | .binary => "binary"
  | .block => "block"
  | .breaking => "break"
  | .call => "call"
  | .cast => "cast"
  | .closure => "closure"
  | .constBlock => "const"
  | .continuing => "continue"
  | .field => "field"
  | .forLoop => "for_loop"
  | .conditional => "if"
  | .index => "index"
  | .letting => "let"
  | .hole => "infer"
  | .loop => "loop"
  | .invocation _ => "macro"
  | .matching => "match"
  | .methodCall => "method_call"
  | .paren => "paren"
  | .range => "range"
  | .reference => "reference"
  | .rawReference => "unknown"
  | .repetition => "repeat"
  | .returning => "return"
  | .structured => "struct"
  | .trying => "try"
  | .tryBlock => "try_block"
  | .tuple => "tuple"
  | .unary => "unary"
  | .uncheckedBlock => "unsafe"
  | .verbatim => "verbatim"
  | .whileLoop => "while"
  | .yielding => "yield"

/-- An expression that has been read. -/
structure Expression where
  form : ExpressionForm
  /-- Whether it ends in a block, so that no other block may follow. The block
  of a constant does not count. -/
  endsInBlock : Bool
  /-- Whether its leftmost operand is kept as it is written. Attributes cannot
  be put on such an expression. -/
  startsVerbatim : Bool

namespace Expression

/-- An expression that ends in no block. -/
def plain (form : ExpressionForm) : Expression :=
  ⟨form, false, decide (form = .verbatim)⟩

/-- An expression that ends in a block. -/
def closed (form : ExpressionForm) : Expression :=
  ⟨form, true, false⟩

/-- An expression that ends in another one. -/
def before (form : ExpressionForm) (last : Expression) : Expression :=
  ⟨form, last.endsInBlock, false⟩

/-- An expression that starts with one operand and ends in another. -/
def between (form : ExpressionForm) (first last : Expression) : Expression :=
  ⟨form, last.endsInBlock, first.startsVerbatim⟩

/-- Whether an expression is complete with its last brace, so that as an arm
or a statement it needs nothing behind it. -/
def isBlockLike (expression : Expression) : Bool :=
  match expression.form with
  | .conditional | .matching | .block | .uncheckedBlock | .whileLoop | .loop | .forLoop
  | .tryBlock | .constBlock => true
  | _ => false

end Expression

end Recordsmith.Source

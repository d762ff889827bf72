import Recordsmith.Source.Sign

/-!
# `Recordsmith.Source.Complaint`: why source text cannot be read

Reading stops at the first place where the text does not go on as it
should. A `Complaint` is the reason: signs that were looked for and not
found, something wider that was wanted, trees that were left over, or a
`Fault`, which is a mistake of its own. `Complaint.message` words it.

Most complaints say so if the text ended where something was looked for.
A missing operator does not.
-/

set_option autoImplicit false

namespace Recordsmith.Source

/-- Something wanted that is no single sign. -/
inductive Wanted where
  | delimiter
  | expression
  | member
  | entry
  | segment
  | labelled
  | rangeEnd
  | newName
  deriving DecidableEq, Repr

/-- The words for what was wanted. -/
def Wanted.label : Wanted → String
  | .delimiter => "delimiter"
  | .expression => "an expression"
  | .member => "identifier or integer"
  | .entry => "identifier or literal"
  | .segment => "path segment after `::`"
  | .labelled => "loop or block expression"
  | .rangeEnd => "range upper bound"
  | .newName => "identifier or underscore"

/-- What may not stand right behind a cast. -/
inductive CastTail where
  | awaiting
  | methodCall
  | field
  | question
  | index
  | call
  deriving DecidableEq, Repr

/-- The words for what stands behind a cast. -/
def CastTail.label : CastTail → String
  | .awaiting => "`.await`"
  | .methodCall => "a method call"
  | .field => "a field access"
  | .question => "`?`"
  | .index => "indexing"
  | .call => "a function call"

/-- A mistake that is more than something missing. -/
inductive Fault where
  /-- An attribute stands where the value of one was looked for. -/
  | attributeAsValue
  /-- Two statements stand side by side. -/
  | unseparated
  | chainedComparison
  | castBefore (tail : CastTail)
  /-- A loop with a label stands bare behind `break`. -/
  | bareLabelled
  /-- Attributes stand before a range without a start. -/
  | attributedRange
  | captureRefused
  | conditionalConstRefused
  | constRefused
  /-- Lifetimes are bound for a trait that is marked as optional. -/
  | binderWithMark
  | objectWithoutTrait
  | implWithoutTrait
  /-- The place of a tuple element has a suffix. -/
  | suffixedPlace
  | largePlace
  | negativePlace
  | fractionalPlace
  | unreadablePlace
  /-- A range without a start or an end stands bare in a slice pattern. -/
  | bareRangeInSlice
  | secondReceiver
  | lateReceiver
  | negativeInherent
  deriving DecidableEq, Repr

/-- The wording of a fault. -/
def Fault.message : Fault → String
  | .attributeAsValue => "unexpected attribute inside of attribute"
  | .unseparated => "unexpected token, expected `;`"
  | .chainedComparison => "comparison operators cannot be chained"
  | .castBefore tail => "casts cannot be followed by " ++ tail.label
  | .bareLabelled => "parentheses required"
  | .attributedRange => "attributes are not allowed on range expressions starting with `..`"
  | .captureRefused => "`use<...>` precise capturing syntax is not allowed here"
  | .conditionalConstRefused => "`[const]` is not allowed here"
  | .constRefused => "`const` is not allowed here"
  | .binderWithMark => "`for<...>` binder not allowed with `?` trait polarity modifier"
  | .objectWithoutTrait => "at least one trait is required for an object type"
  | .implWithoutTrait => "at least one trait must be specified"
  | .suffixedPlace => "expected unsuffixed integer"
  | .largePlace => "number too large to fit in target type"
  | .negativePlace => "invalid digit found in string"
  | .fractionalPlace => "expected integer literal"
  | .unreadablePlace => "cannot parse string into token stream"
  | .bareRangeInSlice => "range pattern is not allowed unparenthesized inside slice pattern"
  | .secondReceiver => "unexpected second method receiver"
  | .lateReceiver => "unexpected method receiver"
  | .negativeInherent => "inherent impls cannot be negative"

/-- Why reading stopped. -/
inductive Complaint where
  /-- None of the signs was found. -/
  | missing (signs : List Sign) (atEnd : Bool)
  | wanted (what : Wanted) (atEnd : Bool)
  /-- A reserved word stands where a name was looked for. -/
  | reserved (word : String)
  /-- Trees were left over, in a group of the given kind or at the end. -/
  | leftOver (within : Option Delimiter)
  | fault (mistake : Fault)
  deriving DecidableEq, Repr

/-- The words before what was looked for at the end of the text. -/
def endWords (atEnd : Bool) : String :=
  if atEnd then "unexpected end of input, " else ""

/-- The character that closes a group. -/
def Delimiter.closer : Delimiter → String
  | .paren => ")"
  | .bracket => "]"
  | .brace => "\x7d"

/-- The wording of a complaint. -/
def Complaint.message : Complaint → String
  | .missing [] atEnd => if atEnd then "unexpected end of input" else "unexpected token"
  | .missing [sign] atEnd => endWords atEnd ++ "expected " ++ sign.label
  | .missing [first, second] atEnd =>
    endWords atEnd ++ "expected " ++ first.label ++ " or " ++ second.label
  | .missing signs atEnd =>
    endWords atEnd ++ "expected one of: " ++ ", ".intercalate (signs.map Sign.label)
  | .wanted what atEnd => endWords atEnd ++ "expected " ++ what.label
  | .reserved word => "expected identifier, found keyword `" ++ word ++ "`"
  | .leftOver none => "unexpected token"
  | .leftOver (some delimiter) => "unexpected token, expected `" ++ delimiter.closer ++ "`"
  | .fault mistake => mistake.message

end Recordsmith.Source

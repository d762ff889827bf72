import Recordsmith.Source.Tree

/-!
# `Recordsmith.Source.Literal`: what a literal means

A literal tree keeps the text as it was written. `Literal.ofText` says what
kind of literal that is and, for strings, which text is meant.
`Literal.whole` reads the value and the suffix of a whole number.
-/

set_option autoImplicit false

namespace Recordsmith.Source

/-- A literal by its kind, with the value where it is needed. -/
inductive Literal where
  | string (text : String)
  | byteString
  | terminatedString
  | byte
  | char
  | integer
  | decimal
  | boolean (value : Bool)
  /-- A literal without a value. -/
  | placeholder
  deriving DecidableEq, Repr

namespace Literal

/-- Whether an exponent follows its mark: a sign or a digit, after any
underscores. -/
def startsExponent (cs : List Char) : Bool :=
  match cs.dropWhile (· == '_') with
  | c :: _ => c == '+' || c == '-' || c.isDigit
  | [] => false

/-- Whether the text of a number, without a sign, has a point or an
exponent. -/
def isDecimal (cs : List Char) : Bool :=
  match cs with
  | '0' :: 'x' :: _ | '0' :: 'o' :: _ | '0' :: 'b' :: _ => false
  | _ =>
    match cs.dropWhile fun c => c.isDigit || c == '_' with
    | '.' :: _ => true
    | 'e' :: rest | 'E' :: rest => startsExponent rest
    | _ => false

/-- The text that stands for a literal without a value. -/
def placeholderText : String := "(/*ERROR*/)"

/-- The literal that a text spells. -/
def ofText (text : String) : Literal :=
  let cs := text.toList
  match Text.Quoted.value? cs with
  | some value => .string (String.ofList value)
  | none =>
    match cs with
    | '(' :: _ => .placeholder
    | 'b' :: '\x27' :: _ => .byte
    | 'b' :: _ => .byteString
    | 'c' :: _ => .terminatedString
    | '\x27' :: _ => .char
    | _ => if isDecimal cs then .decimal else .integer

/-- Whether a literal is a number. -/
def isNumber : Literal → Bool
  | .integer | .decimal => true
  | _ => false

/-- The value of the digits of a whole number in a base, after digits with
the given value, and what follows them. Underscores do not count. -/
def digits (base value : Nat) : List Char → Nat × List Char
  | [] => (value, [])
  | c :: rest =>
    if c == '_' then digits base value rest
    else
      match Text.Hex.digitValue? c with
      | some digit =>
        if digit < base then digits base (base * value + digit) rest else (value, c :: rest)
      | none => (value, c :: rest)

/-- The value of a whole number without a sign, and its suffix. -/
def whole (text : String) : Nat × List Char :=
  match text.toList with
  | '0' :: 'x' :: rest => digits 16 0 rest
  | '0' :: 'o' :: rest => digits 8 0 rest
  | '0' :: 'b' :: rest => digits 2 0 rest
  | cs => digits 10 0 cs

/-- The name of a kind of literal in messages. -/
def typeName : Literal → String
  | .string _ => "string"
  | .byteString => "byte string"
  | .terminatedString => "unknown"
  | .byte => "byte"
  | .char => "char"
  | .integer => "int"
  | .decimal => "float"
  | .boolean _ => "bool"
  | .placeholder => "verbatim"

end Literal

end Recordsmith.Source

import Recordsmith.Source.Literal

/-!
# `Recordsmith.Source.Sign`: what a row of trees starts with

What comes next in a row of trees is decided by looking at its front. A
`Sign` is one thing that can be looked for there, `leadsWith` says whether
a row starts with it, and `Sign.label` is its name in messages. Looking
takes nothing away, so one row can be asked for any number of signs.

An operator stands at the front if its characters do and are kept
together; whatever follows its last character does not matter. So a row
that starts with `::` starts with `:` as well.
-/

set_option autoImplicit false

namespace Recordsmith.Source

/-- Something that a row can start with. -/
inductive Sign where
  | operator (text : String)
  /-- A word that is not raw. -/
  | word (text : String)
  /-- An identifier that can be used as a name. -/
  | name
  | lifetime
  | literal
  | string
  | group (delimiter : Delimiter)
  deriving DecidableEq, Repr

/-- A group in the words of messages. -/
def Delimiter.label : Delimiter → String
  | .paren => "parentheses"
  | .bracket => "square brackets"
  | .brace => "curly braces"

/-- A sign in the words of messages. -/
def Sign.label : Sign → String
  | .operator text | .word text => "`" ++ text ++ "`"
  | .name => "identifier"
  | .lifetime => "lifetime"
  | .literal => "literal"
  | .string => "string literal"
  | .group delimiter => delimiter.label

/-- What follows an operator, if a row starts with it. -/
def afterOperator? : List Char → List Tree → Option (List Tree)
  | [], trees => some trees
  | [c], .punct d _ :: rest => if c = d then some rest else none
  | c :: more, .punct d true :: rest => if c = d then afterOperator? more rest else none
  | _, _ => none

/-- The literal that a row starts with, the trees it is printed with, and what
follows it. A literal is a literal tree, `true` or `false`, or a number with
a minus sign in front. -/
def literalAhead? : List Tree → Option (Literal × List Tree × List Tree)
  | .literal text :: rest => some (Literal.ofText text, [.literal text], rest)
  | .ident name :: rest =>
    if name.isWord "true" || name.isWord "false" then
      some (.boolean (name.text == "true"), [.ident name], rest)
    else none
  | .punct '-' _ :: .literal text :: rest =>
    if (Literal.ofText text).isNumber then
      some (Literal.ofText text, [.punct '-' false, .literal text], rest)
    else none
  | _ => none

/-- Whether a row starts with an identifier of any kind. -/
def leadsWithIdent : List Tree → Bool
  | .ident _ :: _ => true
  | _ => false

/-- Whether a row starts with a sign. -/
def leadsWith (row : List Tree) : Sign → Bool
  | .operator text => (afterOperator? text.toList row).isSome
  | .word text =>
    match row with
    | .ident name :: _ => name.isWord text
    | _ => false
  | .name =>
    match row with
    | .ident name :: _ => name.isName
    | _ => false
  | .lifetime =>
    match row with
    | .punct '\x27' true :: .ident _ :: _ => true
    | _ => false
  | .literal => (literalAhead? row).isSome
  | .string =>
    match row with
    | .literal text :: _ =>
      match Literal.ofText text with
      | .string _ => true
      | _ => false
    | _ => false
  | .group delimiter =>
    match row with
    | .group found _ :: _ => found == delimiter
    | _ => false

/-- Whether a row starts with one of some signs. -/
def leadsWithAny (row : List Tree) (signs : List Sign) : Bool :=
  signs.any (leadsWith row)

/-- Whether a row starts with one of some words. -/
def leadsWithWord (row : List Tree) (words : List String) : Bool :=
  words.any fun word => leadsWith row (.word word)

/-- What follows the first thing of a row. A lifetime counts as one thing,
and each character of an operator as one. -/
def afterFirst (row : List Tree) : List Tree :=
  if leadsWith row .lifetime then row.drop 2 else row.drop 1

/-- Whether a row starts with a colon that is not part of a double colon. -/
def leadsWithColon (row : List Tree) : Bool :=
  leadsWith row (.operator ":") && !leadsWith row (.operator "::")

/-- Whether a row starts with a point that is not part of a range. -/
def leadsWithPoint (row : List Tree) : Bool :=
  leadsWith row (.operator ".") && !leadsWith row (.operator "..")

/-- Whether a row starts with an exclamation mark that is not part of a
comparison. -/
def leadsWithBang (row : List Tree) : Bool :=
  leadsWith row (.operator "!") && !leadsWith row (.operator "!=")

end Recordsmith.Source

import Recordsmith.Source.Ident

/-!
# `Recordsmith.Source.Tree`: token trees

Source text is a row of trees: identifiers, punctuation characters,
literals, and groups of trees between delimiters. A punctuation character
is `joint` if the next one follows it at once; that is how `::` is told
from two single colons.

`Tree.print` writes a row of trees on one line. Trees stand one space
apart, but nothing stands between a joint character and what follows it,
nor inside parentheses and brackets at either end. Braces have a space
inside, also when empty.
-/

set_option autoImplicit false

namespace Recordsmith.Source

/-- What a group stands between. -/
inductive Delimiter where
  | paren
  | bracket
  | brace
  deriving DecidableEq, Repr

/-- A token tree. -/
inductive Tree where
  | ident (name : Ident)
  | punct (char : Char) (joint : Bool)
  | literal (text : String)
  | group (delimiter : Delimiter) (body : List Tree)
  deriving Repr

namespace Delimiter

/-- The opening character as it is printed. -/
def opening : Delimiter → String
  | .paren => "("
  | .bracket => "["
  | .brace => "\x7b "

/-- The closing character as it is printed after a body. -/
def closing : Delimiter → List Tree → String
  | .paren, _ => ")"
  | .bracket, _ => "]"
  | .brace, [] => "\x7d"
  | .brace, _ :: _ => " \x7d"

end Delimiter

namespace Tree

/-- Whether the next tree is printed right after this one. -/
def isJoint : Tree → Bool
  | .punct _ joint => joint
  | _ => false

mutual

/-- One tree as text. -/
def printOne : Tree → String
  | .ident name => name.spelled
  | .punct char _ => String.singleton char
  | .literal text => text
  | .group delimiter body =>
    delimiter.opening ++ print body ++ delimiter.closing body

/-- A row of trees as text. -/
def print : List Tree → String
  | [] => ""
  | tree :: rest =>
    printOne tree ++ (if rest.isEmpty || isJoint tree then "" else " ") ++ print rest

end

mutual

/-- The number of trees in a tree, itself and its delimiters included. -/
def sizeOne : Tree → Nat
  | .group _ body => size body + 2
  | _ => 1

/-- The number of trees in a row, at every depth. -/
def size : List Tree → Nat
  | [] => 0
  | tree :: rest => sizeOne tree + size rest

end

/-- An identifier that is not raw. -/
def word (text : String) : Tree :=
  .ident (.plain text)

/-- An operator of one or more characters, which are kept together. -/
def operator : List Char → List Tree
  | [] => []
  | [c] => [.punct c false]
  | c :: rest => .punct c true :: operator rest

/-- Trees written down as words and operators with spaces between them. -/
def phrase (text : String) : List Tree :=
  (text.toList.splitOn ' ').flatMap fun
    | [] => []
    | c :: rest =>
      if Text.isIdentStart c then [word (String.ofList (c :: rest))] else operator (c :: rest)

/-- A group in parentheses. -/
def parens (body : List Tree) : Tree :=
  .group .paren body

/-- A group in brackets. -/
def brackets (body : List Tree) : Tree :=
  .group .bracket body

/-- A group in braces. -/
def braces (body : List Tree) : Tree :=
  .group .brace body

/-- A string literal that means the given text. -/
def string (text : String) : Tree :=
  .literal (Text.Quoted.literal text)

end Tree

end Recordsmith.Source

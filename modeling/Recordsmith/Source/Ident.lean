import Recordsmith.Text.IdentChar
import Recordsmith.Text.Quoted

/-!
# `Recordsmith.Source.Ident`: identifiers

An identifier is a text and the mark that says whether it is written raw,
with `r#` in front. Two identifiers are compared as they are spelled, so
`type` and `r#type` differ.

`Ident.ofText` makes an identifier from a computed text, such as a name
with a suffix. It can fail, and the reason is a `NameFault`. Reserved
words pass: whether a word may be used as a name is a question for the
place where it is read (`Ident.isName`).
-/

set_option autoImplicit false

namespace Recordsmith.Source

/-- An identifier, possibly raw. -/
structure Ident where
  raw : Bool
  text : String
  deriving DecidableEq, Repr

/-- Why a computed text is no identifier. -/
inductive NameFault where
  /-- The text is empty. -/
  | empty
  /-- The text consists of digits. -/
  | number
  /-- Some character stands where an identifier cannot have it. -/
  | invalid (text : String)
  deriving DecidableEq, Repr

/-- The wording of a fault. -/
def NameFault.message : NameFault → String
  | .empty => "Ident is not allowed to be empty; use Option<Ident>"
  | .number => "Ident cannot be a number; use Literal instead"
  | .invalid text => Text.Quoted.shown text ++ " is not a valid Ident"

namespace Ident

/-- An identifier that is not raw. -/
def plain (text : String) : Ident :=
  ⟨false, text⟩

/-- The identifier as it is written. -/
def spelled (name : Ident) : String :=
  if name.raw then "r#" ++ name.text else name.text

/-- The words that cannot be used as names unless they are written raw. -/
def reserved : List String := [
  "_", "abstract", "as", "async", "await", "become", "box", "break", "const", "continue",
  "crate", "do", "dyn", "else", "enum", "extern", "false", "final", "fn", "for", "if",
  "impl", "in", "let", "loop", "macro", "match", "mod", "move", "mut", "override", "priv",
  "pub", "ref", "return", "Self", "self", "static", "struct", "super", "trait", "true",
  "try", "type", "typeof", "unsafe", "unsized", "use", "virtual", "where", "while", "yield"]

/-- Whether an identifier can be used as a name. -/
def isName (name : Ident) : Bool :=
  name.raw || !reserved.contains name.text

/-- Whether an identifier is the given word, not raw. -/
def isWord (name : Ident) (word : String) : Bool :=
  !name.raw && name.text == word

/-- The identifier that a computed text spells. -/
def ofText (text : String) : Except NameFault Ident :=
  if text.toList.isEmpty then .error .empty
  else if text.toList.all Char.isDigit then .error .number
  else if Text.isIdentText text.toList then .ok (plain text)
  else .error (.invalid text)

/-- An identifier with an ending put on. A raw identifier keeps its mark in
front and so makes no identifier with it. -/
def withSuffix (name : Ident) (ending : String) : Except NameFault Ident :=
  ofText (name.spelled ++ ending)

end Ident

end Recordsmith.Source

import Recordsmith.Data.DataType

/-!
# `Recordsmith.Data.TextForms`: values written as text

The texts of the types that can be kept as text: numbers, truth values,
characters, texts, identities, and two kinds of addresses. A link is any
text with `://` in it. A resource is a scheme, a colon and the rest; its
scheme is written in lower case, while it is read as it stands.
-/

set_option autoImplicit false

namespace Recordsmith

namespace TextForm

/-- Whole numbers as text. -/
def ofInteger (type : IntegerType) : TextForm where
  parse text := (type.parse text).map .integer
  print
    | .integer value => toString value
    | _ => ""

/-- `true` and `false` as text. -/
def ofBoolean : TextForm where
  parse
    | "true" => .ok (.boolean true)
    | "false" => .ok (.boolean false)
    | _ => .error "provided string was not `true` or `false`"
  print
    | .boolean value => toString value
    | _ => ""

/-- Single characters as text. -/
def ofCharacter : TextForm where
  parse text :=
    match text.toList with
    | [] => .error "cannot parse char from empty string"
    | [c] => .ok (.character c)
    | _ => .error "too many characters in string"
  print
    | .character value => String.singleton value
    | _ => ""

/-- Texts as they are. -/
def ofText : TextForm where
  parse text := .ok (.text text)
  print := storedText

/-- Identities as text. -/
def ofIdentity : TextForm where
  parse text := .ok (.identity ⟨text⟩)
  print
    | .identity value => value.text
    | _ => ""

/-- Whether a text has `://` in it. -/
def hasSchemeMark : List Char → Bool
  | [] => false
  | ':' :: '/' :: '/' :: _ => true
  | _ :: rest => hasSchemeMark rest

/-- Links as text. -/
def ofLink : TextForm where
  parse text :=
    if hasSchemeMark text.toList then .ok (.link text)
    else .error ("missing scheme in " ++ text)
  print
    | .link text => text
    | _ => ""

/-- The parts of a resource: what stands before the first colon and what
stands after it. -/
def readResource (text : List Char) : Except String Value :=
  match text.takeWhile (· != ':'), text.dropWhile (· != ':') with
  | _, [] => .error "no colon"
  | [], _ :: _ => .error "empty scheme"
  | scheme, _ :: rest => .ok (.resource (String.ofList scheme) (String.ofList rest))

/-- Resources as text. -/
def ofResource : TextForm where
  parse text := readResource text.toList
  print
    | .resource scheme rest => scheme.map Char.toLower ++ ":" ++ rest
    | _ => ""

/-- The texts of a type, if it has any. -/
def of? : DataType → Option TextForm
  | .integer type => some (ofInteger type)
  | .boolean => some ofBoolean
  | .character => some ofCharacter
  | .text => some ofText
  | .identity => some ofIdentity
  | .link => some ofLink
  | .resource => some ofResource
  | _ => none

end TextForm

end Recordsmith

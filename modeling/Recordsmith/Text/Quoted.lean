import Recordsmith.Text.Hex
import Recordsmith.Text.Printable

/-!
# `Recordsmith.Text.Quoted`: texts between quotation marks

`literal` writes a text as a string literal and `shown` writes it for a
message. Both put it between quotation marks and escape what would not
survive there: the mark itself, the backslash, line ends, tabs, NUL, and
every character that is not shown plain (`isShownPlain`), which becomes
`\u` with its code point in braces. They differ in one point: a literal
writes NUL in the long form where a digit follows that could be taken for
part of an octal escape.

`readBody` is the way back. It reads what stands after an opening mark, up
to the closing one, and gives the characters that were meant. It knows
three forms of literals (`Form`), which differ in the escapes and
characters they allow.
-/

set_option autoImplicit false

namespace Recordsmith.Text.Quoted

/-- The escape of a character by its code point. -/
def byCode (c : Char) : List Char :=
  ['\\', 'u', '{'] ++ Hex.digits c.toNat ++ ['}']

/-- A character as it stands between quotation marks. -/
def escape (c : Char) : List Char :=
  if c = '"' then ['\\', '"']
  else if c = '\\' then ['\\', '\\']
  else if c = '\n' then ['\\', 'n']
  else if c = '\r' then ['\\', 'r']
  else if c = '\t' then ['\\', 't']
  else if c.toNat = 0 then ['\\', '0']
  else if isShownPlain c then [c]
  else byCode c

/-- Whether the text starts with an octal digit. -/
def startsOctal : List Char → Bool
  | [] => false
  | c :: _ => '0' ≤ c && c ≤ '7'

/-- The inside of a string literal. -/
def literalBody : List Char → List Char
  | [] => []
  | c :: rest =>
    (if c.toNat = 0 && startsOctal rest then ['\\', 'x', '0', '0'] else escape c) ++
      literalBody rest

/-- A text as a string literal. -/
def literal (text : String) : String :=
  String.ofList (['"'] ++ literalBody text.toList ++ ['"'])

/-- A text as messages show it. -/
def shown (text : String) : String :=
  String.ofList (['"'] ++ text.toList.flatMap escape ++ ['"'])

/-- The forms of literals between double quotation marks: texts, byte
strings, and texts that end with NUL and so cannot hold it. -/
inductive Form where
  | text
  | bytes
  | terminated
  deriving DecidableEq, Repr

/-- Whether a form may hold the character with this code point by an escape
of two hexadecimal digits. -/
def Form.allowsByte : Form → Nat → Bool
  | .text, n => n < 128
  | .bytes, _ => true
  | .terminated, n => n != 0

/-- Whether a form may hold a character as it is. -/
def Form.allowsChar : Form → Char → Bool
  | .text, _ => true
  | .bytes, c => c.toNat < 128
  | .terminated, c => c.toNat != 0

/-- Whether a code point is a character. -/
def isScalar (n : Nat) : Bool :=
  n < 0xD800 || (0xE000 ≤ n && n < 0x110000)

/-- Reads a code point in braces, after the opening brace: one to six digits
with underscores after the first. `digits` holds what was read, backwards. -/
def readCode (digits : List Char) : List Char → Option (Nat × List Char)
  | [] => none
  | c :: rest =>
    if c = '}' then
      if digits.isEmpty then none
      else if isScalar (Hex.value digits.reverse) then some (Hex.value digits.reverse, rest)
      else none
    else if c = '_' then
      if digits.isEmpty then none else readCode digits rest
    else if (Hex.digitValue? c).isSome && digits.length < 6 then readCode (c :: digits) rest
    else none

/-- Skips the blanks after an escaped line end. A carriage return has to be
part of a line end. -/
def skipIndent : List Char → Option (List Char)
  | '\r' :: '\n' :: rest => skipIndent rest
  | '\r' :: _ => none
  | ' ' :: rest => skipIndent rest
  | '\t' :: rest => skipIndent rest
  | '\n' :: rest => skipIndent rest
  | cs => some cs

/-- Whether a line end comes next. -/
def startsLineEnd : List Char → Bool
  | [] => false
  | c :: _ => c == '\n' || c == '\r'

/-- Reads an escape of one character, after its backslash. -/
def readEscape (form : Form) : List Char → Option (Char × List Char)
  | 'n' :: rest => some ('\n', rest)
  | 'r' :: rest => some ('\r', rest)
  | 't' :: rest => some ('\t', rest)
  | '\\' :: rest => some ('\\', rest)
  | '"' :: rest => some ('"', rest)
  | '\x27' :: rest => some ('\x27', rest)
  | '0' :: rest => if form = .terminated then none else some (Char.ofNat 0, rest)
  | 'x' :: a :: b :: rest =>
    match Hex.digitValue? a, Hex.digitValue? b with
    | some hi, some lo =>
      if form.allowsByte (16 * hi + lo) then some (Char.ofNat (16 * hi + lo), rest) else none
    | _, _ => none
  | 'u' :: '{' :: rest =>
    match readCode [] rest with
    | some (code, rest') =>
      if form = .bytes || (form = .terminated && code = 0) then none
      else some (Char.ofNat code, rest')
    | none => none
  | _ => none

/-- Reads the inside of a literal up to its closing mark: the characters
meant, and what follows the mark. A line end of two characters counts as
one, and a backslash at the end of a line takes the indentation of the
next line away. -/
def readBody (form : Form) (cs : List Char) : Option (List Char × List Char) :=
  match cs with
  | [] => none
  | '"' :: rest => some ([], rest)
  | '\r' :: '\n' :: rest =>
    (readBody form rest).map fun (value, rest) => ('\n' :: value, rest)
  | '\r' :: _ => none
  | '\\' :: rest =>
    if startsLineEnd rest then
      match skipIndent rest with
      | some rest' => if rest'.length ≤ rest.length then readBody form rest' else none
      | none => none
    else
      match readEscape form rest with
      | some (c, rest') =>
        if rest'.length ≤ rest.length then
          (readBody form rest').map fun (value, rest) => (c :: value, rest)
        else none
      | none => none
  | c :: rest =>
    if form.allowsChar c then
      (readBody form rest).map fun (value, rest) => (c :: value, rest)
    else none
termination_by cs.length

/-- Reads a raw literal after its opening mark: the characters up to a mark
followed by `hashes` hash signs. Nothing is an escape, but a carriage
return has to be part of a line end. -/
def readRaw (form : Form) (hashes : Nat) : List Char → Option (List Char × List Char)
  | [] => none
  | '\r' :: '\n' :: rest =>
    (readRaw form hashes rest).map fun (value, rest) => ('\r' :: '\n' :: value, rest)
  | '\r' :: _ => none
  | c :: rest =>
    if c = '"' && rest.take hashes = List.replicate hashes '#' then
      some ([], rest.drop hashes)
    else if form.allowsChar c then
      (readRaw form hashes rest).map fun (value, rest) => (c :: value, rest)
    else none

/-- The text that a string literal means, if the whole of `cs` starts with
such a literal. A suffix after it is not looked at. -/
def value? (cs : List Char) : Option (List Char) :=
  match cs with
  | '"' :: body => (readBody .text body).map (·.1)
  | 'r' :: rest =>
    let hashes := (rest.takeWhile (· == '#')).length
    match rest.drop hashes with
    | '"' :: body => (readRaw .text hashes body).map (·.1)
    | _ => none
  | _ => none

end Recordsmith.Text.Quoted

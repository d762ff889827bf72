import Recordsmith.Text.Casing
import Recordsmith.Text.Cluster

/-!
# `Recordsmith.Text.Words`: the words inside a name

A name such as `pageCount`, `page_count` or `HTTPCode` is made of words.
`words` finds them and `snake`, `pascal` and `camel` put them together
again.

The text is read sign by sign (`Cluster`). A word ends

* at an underscore, a dash or a space, which is dropped;
* between a lower-case and an upper-case sign;
* between a letter and a digit, either way round;
* after a capital, if a capital and then a lower-case sign follow, so that
  a run of capitals keeps its last one for the next word.

Nothing else is dropped, and a delimiter next to a delimiter or at an end
leaves an empty word.
-/

set_option autoImplicit false

namespace Recordsmith.Text

/-- What matters about a sign when words are divided. -/
inductive SignKind where
  | delimiter
  | upper
  | lower
  | digit
  | other
  deriving DecidableEq, Repr

/-- The kind of a sign. A sign has upper case if its two case forms differ
and it is the upper one. -/
def signKind (sign : List Char) : SignKind :=
  if sign = ['_'] ∨ sign = ['-'] ∨ sign = [' '] then .delimiter
  else if sign.all Char.isDigit then .digit
  else if upper sign = lower sign then .other
  else if sign = upper sign then .upper
  else if sign = lower sign then .lower
  else .other

/-- Whether a word ends between a sign of the first kind and the rest. -/
def endsWord : SignKind → List SignKind → Bool
  | .lower, .upper :: _ => true
  | .lower, .digit :: _ => true
  | .upper, .digit :: _ => true
  | .digit, .lower :: _ => true
  | .digit, .upper :: _ => true
  | .upper, .upper :: .lower :: _ => true
  | _, _ => false

/-- The words of a row of signs, the first of which has begun with
`current`. -/
def wordsFrom (current : List Char) : List (List Char) → List (List Char)
  | [] => [current]
  | sign :: rest =>
    if signKind sign = .delimiter then
      current :: wordsFrom [] rest
    else if endsWord (signKind sign) ((rest.take 2).map signKind) then
      (current ++ sign) :: wordsFrom [] rest
    else
      wordsFrom (current ++ sign) rest

/-- The words of a name. The empty name has none. -/
def words (cs : List Char) : List (List Char) :=
  if cs.isEmpty then [] else wordsFrom [] (clusters cs)

/-- A word with its first character in upper case and the rest lowered. -/
def capitalize : List Char → List Char
  | [] => []
  | c :: rest => upperChar c ++ lower rest

/-- Words in lower case with underscores between them. -/
def snake (cs : List Char) : List Char :=
  List.intercalate ['_'] ((words cs).map lower)

/-- Capitalized words, one after the other. -/
def pascal (cs : List Char) : List Char :=
  ((words cs).map capitalize).flatten

/-- The first word in lower case and the others capitalized. -/
def camel (cs : List Char) : List Char :=
  match words cs with
  | [] => []
  | first :: rest => lower first ++ (rest.map capitalize).flatten

end Recordsmith.Text

import Recordsmith.Text.Hex

/-!
# `Recordsmith.Text.CodeRanges`: sets of characters as ranges

A property of characters is kept as text, the way the character database
prints it: hexadecimal code points and ranges with blanks between them,
`AA B5 C0-D6`. `CodeRanges.ofLines` reads such text and
`CodeRanges.contains` answers membership.

The tables of this library hold no character below 128. Each predicate
that uses one decides the ASCII characters on its own, so that statements
about ASCII text never look into a table.
-/

set_option autoImplicit false

namespace Recordsmith.Text

/-- A set of characters: the first and last code point of each range. -/
structure CodeRanges where
  ranges : List (Nat × Nat)

namespace CodeRanges

/-- One word of a table: a code point, or two with a dash between them. -/
def ofWord (word : String) : Nat × Nat :=
  match word.splitOn "-" with
  | [first, last] => (Hex.value first.toList, Hex.value last.toList)
  | _ => (Hex.value word.toList, Hex.value word.toList)

/-- The set that the lines of a table describe. -/
def ofLines (lines : List String) : CodeRanges :=
  ⟨lines.flatMap fun line => (line.splitOn " ").map ofWord⟩

/-- Whether a character lies in one of the ranges. -/
def contains (set : CodeRanges) (c : Char) : Bool :=
  set.ranges.any fun range => range.1 ≤ c.toNat && c.toNat ≤ range.2

end CodeRanges

end Recordsmith.Text

/-!
# `Recordsmith.Text.Hex`: hexadecimal digits

Reading and writing numbers in base sixteen. Written numbers use lower
case and no leading zeros; read digits may be of either case.
-/

set_option autoImplicit false

namespace Recordsmith.Text.Hex

/-- The value of a hexadecimal digit of either case. -/
def digitValue? (c : Char) : Option Nat :=
  if '0' ≤ c ∧ c ≤ '9' then some (c.toNat - '0'.toNat)
  else if 'a' ≤ c ∧ c ≤ 'f' then some (c.toNat - 'a'.toNat + 10)
  else if 'A' ≤ c ∧ c ≤ 'F' then some (c.toNat - 'A'.toNat + 10)
  else none

/-- The number that a row of digits spells. Characters that are no digits
count as zero, so callers check first where that matters. -/
def value (digits : List Char) : Nat :=
  digits.foldl (fun n c => 16 * n + (digitValue? c).getD 0) 0

/-- The lower-case digits of a number, without leading zeros. -/
def digits (n : Nat) : List Char :=
  Nat.toDigits 16 n

/-- The lowest `width` digits of a number, filled up with zeros. -/
def padded (width n : Nat) : String :=
  let shown := digits n
  String.ofList (List.replicate (width - shown.length) '0' ++ shown)

end Recordsmith.Text.Hex

import Recordsmith.Data.Identity
import Recordsmith.Text.Quoted

/-!
# `Recordsmith.Data.Value`: values of elements

The values that properties hold, on the domain side and in records.
Numbers with a point are kept as bits, since they are only ever copied and
compared; dates are kept as text, or as the mark for a date taken from the
clock.
-/

set_option autoImplicit false

namespace Recordsmith

/-- A date. -/
inductive Moment where
  /-- A date that was given. -/
  | stated (text : String)
  /-- A date taken from the clock. -/
  | now
  deriving DecidableEq, Repr

/-- The value of an element. -/
inductive Value where
  | integer (value : Int)
  | float32 (bits : UInt32)
  | float64 (bits : UInt64)
  | boolean (value : Bool)
  | text (value : String)
  | character (value : Char)
  | identity (value : Identity)
  | date (moment : Moment)
  /-- A variant of an enumeration, by its name. -/
  | variant (name : String)
  /-- An address, as its text. -/
  | link (text : String)
  /-- An address in two parts. -/
  | resource (scheme rest : String)
  /-- The items of a tuple, an array or a vector. -/
  | sequence (items : List Value)
  | option (item : Option Value)
  deriving Repr

instance : Inhabited Value := ⟨.sequence []⟩

namespace Value

/-- Equality of numbers given by their bits below the sign: the two zeros are
equal, and what lies above infinity is not even equal to itself. -/
def equalBits (magnitudeA magnitudeB infinity : Nat) (sameSign : Bool) : Bool :=
  (magnitudeA == 0 && magnitudeB == 0) ||
    (sameSign && magnitudeA == magnitudeB && magnitudeA ≤ infinity)

/-- Equality of numbers of 32 bits. -/
def equal32 (a b : UInt32) : Bool :=
  let half := 0x80000000
  equalBits (a.toNat % half) (b.toNat % half) 0x7F800000 (a.toNat / half == b.toNat / half)

/-- Equality of numbers of 64 bits. -/
def equal64 (a b : UInt64) : Bool :=
  let half := 0x8000000000000000
  equalBits (a.toNat % half) (b.toNat % half) 0x7FF0000000000000
    (a.toNat / half == b.toNat / half)

mutual

/-- Whether two values are equal, numbers with a point by their own rules. -/
def equals : Value → Value → Bool
  | .integer a, .integer b => a == b
  | .float32 a, .float32 b => equal32 a b
  | .float64 a, .float64 b => equal64 a b
  | .boolean a, .boolean b => a == b
  | .text a, .text b => a == b
  | .character a, .character b => a == b
  | .identity a, .identity b => a == b
  | .date a, .date b => a == b
  | .variant a, .variant b => a == b
  | .link a, .link b => a == b
  | .resource a r, .resource b s => a == b && r == s
  | .sequence a, .sequence b => equalsAll a b
  | .option a, .option b => equalsOption a b
  | _, _ => false

/-- Whether two rows of values are equal. -/
def equalsAll : List Value → List Value → Bool
  | [], [] => true
  | a :: as, b :: bs => equals a b && equalsAll as bs
  | _, _ => false

/-- Whether two optional values are equal. -/
def equalsOption : Option Value → Option Value → Bool
  | none, none => true
  | some a, some b => equals a b
  | _, _ => false

end

/-- A raw value as messages show it. -/
def shown : Value → String
  | .integer value => toString value
  | .text value => Text.Quoted.shown value
  | .boolean value => toString value
  | _ => ""

end Value

end Recordsmith

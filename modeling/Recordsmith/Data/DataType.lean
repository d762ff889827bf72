import Recordsmith.Data.Codec

/-!
# `Recordsmith.Data.DataType`: types of values

The types that values of elements have, with their zero values and their
default values, and the way whole numbers are read from text.
-/

set_option autoImplicit false

namespace Recordsmith

/-- A type of whole numbers. -/
structure IntegerType where
  signed : Bool
  bits : Nat
  deriving DecidableEq, Repr

namespace IntegerType

/-- The least number of a type. -/
def least (type : IntegerType) : Int :=
  if type.signed then -Nat.pow 2 (type.bits - 1) else 0

/-- The greatest number of a type. -/
def greatest (type : IntegerType) : Int :=
  if type.signed then Nat.pow 2 (type.bits - 1) - 1 else Nat.pow 2 type.bits - 1

/-- The type of whole numbers with a name. -/
def ofName? : String → Option IntegerType
  | "i8" => some ⟨true, 8⟩
  | "i16" => some ⟨true, 16⟩
  | "i32" => some ⟨true, 32⟩
  | "i64" | "isize" => some ⟨true, 64⟩
  | "i128" => some ⟨true, 128⟩
  | "u8" => some ⟨false, 8⟩
  | "u16" => some ⟨false, 16⟩
  | "u32" => some ⟨false, 32⟩
  | "u64" | "usize" => some ⟨false, 64⟩
  | "u128" => some ⟨false, 128⟩
  | _ => none

/-- Reads digits from left to right onto a number, downwards if `negative`.
The first character that is no digit, or digit that leads out of the range,
ends the reading. -/
def readDigits (type : IntegerType) (negative : Bool) (value : Int) :
    List Char → Except String Int
  | [] => .ok value
  | c :: rest =>
    if c.isDigit then
      let digit : Int := c.toNat - '0'.toNat
      let next := if negative then 10 * value - digit else 10 * value + digit
      if next < type.least then .error "number too small to fit in target type"
      else if type.greatest < next then .error "number too large to fit in target type"
      else readDigits type negative next rest
    else .error "invalid digit found in string"

/-- Reads a number with or without a sign. Only types with negative numbers
know the minus sign. -/
def parse (type : IntegerType) (text : String) : Except String Int :=
  match text.toList with
  | [] => .error "cannot parse integer from empty string"
  | ['+'] | ['-'] => .error "invalid digit found in string"
  | '+' :: digits => type.readDigits false 0 digits
  | '-' :: digits =>
    if type.signed then type.readDigits true 0 digits
    else .error "invalid digit found in string"
  | digits => type.readDigits false 0 digits

end IntegerType

/-- A type of dates. -/
inductive DateType where
  | utc
  | zoned
  | fixedOffset
  | plainDateTime
  | plainDate
  | system
  deriving DecidableEq, Repr

/-- The type of a value. -/
inductive DataType where
  | integer (type : IntegerType)
  | float32
  | float64
  | boolean
  | text
  | character
  | identity
  | date (type : DateType)
  | link
  | resource
  | enumeration (name : String)
  /-- Values of several types in a fixed order. -/
  | tuple (items : List DataType)
  /-- A fixed number of values of one type. -/
  | array (item : DataType) (length : Nat)
  /-- Any number of values of one type. -/
  | sequence (item : DataType)
  | option (item : DataType)
  deriving Repr

instance : Inhabited DataType := ⟨.tuple []⟩

namespace DataType

/-- The type of numbers or texts with a name. -/
def ofName? (name : String) : Option DataType :=
  match IntegerType.ofName? name with
  | some type => some (.integer type)
  | none =>
    match name with
    | "f32" => some .float32
    | "f64" => some .float64
    | "bool" => some .boolean
    | "String" => some .text
    | "char" => some .character
    | "Identity" => some .identity
    | "Url" => some .link
    | "Uri" => some .resource
    | "NaiveDateTime" => some (.date .plainDateTime)
    | "NaiveDate" => some (.date .plainDate)
    | "SystemTime" => some (.date .system)
    | _ => none

/-- The type of dates with a time zone. -/
def ofZone? : String → Option DataType
  | "Utc" => some (.date .utc)
  | "Local" => some (.date .zoned)
  | "FixedOffset" => some (.date .fixedOffset)
  | _ => none

/-- The zero value of a type, if it has one. The zero of a date is the date
of the clock. -/
def zero? : DataType → Option Value
  | .integer _ => some (.integer 0)
  | .float32 => some (.float32 0)
  | .float64 => some (.float64 0)
  | .boolean => some (.boolean false)
  | .text => some (.text "")
  | .date _ => some (.date .now)
  | _ => none

mutual

/-- The value that a field of a type has when nothing sets it. -/
def defaultValue : DataType → Value
  | .integer _ => .integer 0
  | .float32 => .float32 0
  | .float64 => .float64 0
  | .boolean => .boolean false
  | .text => .text ""
  | .character => .character (Char.ofNat 0)
  | .identity => .identity .empty
  | .date _ => .date (.stated "1970-01-01T00:00:00Z")
  | .link => .link ""
  | .resource => .resource "" ""
  | .enumeration _ => .variant ""
  | .tuple items => .sequence (defaultValues items)
  | .array item length => .sequence (List.replicate length (defaultValue item))
  | .sequence _ => .sequence []
  | .option _ => .option none

/-- The values that fields of some types have when nothing sets them. -/
def defaultValues : List DataType → List Value
  | [] => []
  | item :: rest => defaultValue item :: defaultValues rest

end

end DataType

end Recordsmith

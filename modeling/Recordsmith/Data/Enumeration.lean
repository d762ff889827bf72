import Recordsmith.Data.DataType

/-!
# `Recordsmith.Data.Enumeration`: enumerations as tables

An enumeration lists its variants with their raw values. Several raw values
may stand for one variant; the first of them is the one that is written.
-/

set_option autoImplicit false

namespace Recordsmith

/-- A variant of an enumeration. -/
structure Variant where
  name : String
  /-- The raw value that is written. -/
  raw : Value
  /-- Further raw values that are read as the variant. -/
  others : List Value

/-- Whether a raw value stands for a variant. -/
def Variant.matches (variant : Variant) (raw : Value) : Bool :=
  (variant.raw :: variant.others).any fun known => known.equals raw

/-- An enumeration. -/
structure Enumeration where
  name : String
  /-- The type of the raw values. -/
  rawType : DataType
  variants : List Variant

namespace Enumeration

/-- The variant with a name. -/
def variant? (enumeration : Enumeration) (name : String) : Option Variant :=
  enumeration.variants.find? fun variant => variant.name == name

/-- The raw values of an enumeration. Nothing stored means the default value
of their type. -/
def rawEnum (enumeration : Enumeration) : RawEnum where
  rawOf
    | .variant name =>
      match enumeration.variant? name with
      | some variant => variant.raw
      | none => enumeration.rawType.defaultValue
    | _ => enumeration.rawType.defaultValue
  ofRaw? raw :=
    (enumeration.variants.find? fun variant => variant.matches raw).map fun variant =>
      .variant variant.name
  defaultRaw := enumeration.rawType.defaultValue

end Enumeration

end Recordsmith

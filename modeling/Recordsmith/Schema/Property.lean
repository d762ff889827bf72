import Recordsmith.Source.TypeExpr

/-!
# `Recordsmith.Schema.Property`: persisted fields

A `Property` is a field that is kept in the record. Its declared type is an
element with `Option` and `Vec` taken off; its kind says what the element
is, and for plain elements its scalar class says which family of types it
belongs to, judged by the last name of the type.

From these follow the storage of the property, that is the wrapper around
its elements in the record (`Storage.of`), the type of the elements there
(`StoredElement.of`), and the value that a fresh record starts with
(`DefaultValue.of`).
-/

set_option autoImplicit false

namespace Recordsmith.Schema

open Recordsmith.Source

/-- What the elements of a property are. -/
inductive PropertyKind where
  | primitive
  /-- An enumeration kept as an integer. -/
  | intEnum
  /-- An enumeration kept as a text. -/
  | stringEnum
  /-- A domain type of its own, with the types of its record and translator. -/
  | nested (record translator : TypeExpr)

namespace PropertyKind

/-- Whether elements are kept as raw values of an enumeration. -/
def isEnum : PropertyKind → Bool
  | .intEnum | .stringEnum => true
  | _ => false

/-- Whether elements are kept as they are. -/
def isPrimitive : PropertyKind → Bool
  | .primitive => true
  | _ => false

end PropertyKind

/-- A family of plain types. -/
inductive ScalarClass where
  | numeric
  | bool
  | text
  | url
  | date
  | other
  deriving DecidableEq, Repr

namespace ScalarClass

/-- The names of the types of numbers. -/
def numericNames : List String := [
  "i8", "i16", "i32", "i64", "i128", "isize", "u8", "u16", "u32", "u64", "u128", "usize",
  "f32", "f64"]

/-- The names of the types of dates that stand alone. -/
def dateNames : List String := ["NaiveDateTime", "NaiveDate", "SystemTime"]

/-- The names of the time zones of dates. -/
def zoneNames : List String := ["Utc", "Local", "FixedOffset"]

/-- The family of a type, by its last name. A `DateTime` is a date only with
a time zone that is known. -/
def of (type : TypeExpr) : ScalarClass :=
  match type.lastName?.map Ident.spelled with
  | none => .other
  | some name =>
    if numericNames.contains name then .numeric
    else if name = "bool" then .bool
    else if name = "String" then .text
    else if name = "Url" || name = "Uri" then .url
    else if name = "DateTime" then
      match type.timeZone? with
      | some zone => if zoneNames.contains zone.spelled then .date else .other
      | none => .other
    else if dateNames.contains name then .date
    else .other

/-- Whether the types of a family have a zero value. -/
def hasZero : ScalarClass → Bool
  | .other => false
  | _ => true

end ScalarClass

/-- A field that is kept in the record. -/
structure Property where
  name : Ident
  modelName : Ident
  declared : TypeExpr
  element : TypeExpr
  kind : PropertyKind
  isArray : Bool
  isOptional : Bool
  scalar : ScalarClass
  boxed : Bool
  doc : Option String

/-- Whether a property is plain and of one of some families. -/
def Property.isPrimitiveIn (property : Property) (classes : List ScalarClass) : Bool :=
  property.kind.isPrimitive && classes.contains property.scalar

/-- The wrapper around the elements of a property in the record. -/
inductive Storage where
  /-- The element itself. -/
  | plain
  /-- A box that may hold null. -/
  | boxed
  /-- An optional element. -/
  | nullable
  /-- A list of elements. -/
  | list
  deriving DecidableEq, Repr

/-- The storage of a property. -/
def Storage.of (property : Property) : Storage :=
  if property.isArray then .list
  else if property.boxed then .boxed
  else
    match property.kind with
    | .intEnum => .boxed
    | .primitive =>
      if property.isOptional then
        if property.isPrimitiveIn [.numeric, .bool] then .boxed else .nullable
      else if property.scalar.hasZero then .plain
      else .nullable
    | _ => .nullable

/-- The type of the elements of a property in the record. -/
inductive StoredElement where
  /-- The raw values of an enumeration. -/
  | raw (enumeration : TypeExpr)
  /-- The records of another domain type. -/
  | record (type : TypeExpr)
  | text
  /-- The type of the elements themselves. -/
  | same (type : TypeExpr)

/-- The type of the elements of a property in the record. Texts and what is
kept as text become texts. -/
def StoredElement.of (property : Property) : StoredElement :=
  match property.kind with
  | .intEnum | .stringEnum => .raw property.element
  | .nested type _ => .record type
  | .primitive =>
    if property.scalar = .text || property.scalar = .url then .text
    else .same property.element

/-- The type of a field of the record: a wrapper and what is in it. -/
structure StoredType where
  storage : Storage
  element : StoredElement

/-- The type of the record field of a property. -/
def StoredType.of (property : Property) : StoredType :=
  ⟨Storage.of property, StoredElement.of property⟩

/-- The value that a record field starts with. -/
inductive DefaultValue where
  /-- The zero value of the elements. -/
  | zero (element : StoredElement)
  /-- A box with null. -/
  | nullBox
  /-- No element. -/
  | absent
  /-- A list of no elements. -/
  | emptyList

/-- The value that the record field of a property starts with. -/
def DefaultValue.of (property : Property) : DefaultValue :=
  match Storage.of property with
  | .plain => .zero (StoredElement.of property)
  | .boxed => .nullBox
  | .nullable => .absent
  | .list => .emptyList

end Recordsmith.Schema

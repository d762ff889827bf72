import Recordsmith.Data.DataType
import Recordsmith.Source.Grammar

/-!
# `Recordsmith.Translate.Meaning`: the type of values that a type means

A type that is written in a declaration means the type of values that its
last name says: `Option<Vec<u8>>` means an optional sequence of numbers, and
`(i32, String)` a number and a text. Enumerations are known by their names.
-/

set_option autoImplicit false

namespace Recordsmith.DataType

open Recordsmith.Source

/-- The types of a tuple. -/
def tupleItems (body : List Tree) : List TypeExpr :=
  match Reader.runAll (Reader.items Reader.typeExpr) body with
  | .ok (items, _) => items
  | .error _ => []

/-- The type of the items of an array, and what follows it between the
brackets. -/
def arrayItem? (body : List Tree) : Option (TypeExpr × List Tree) :=
  match Reader.typeExpr.run ⟨body, [], none⟩ with
  | .ok (item, cursor) => some (item, cursor.rest)
  | .error _ => none

/-- The type of the items of an array and their number, from what stands
between its brackets. -/
def arrayParts? (body : List Tree) : Option (TypeExpr × Nat) :=
  match arrayItem? body with
  | some (item, [.punct ';' _, .literal length]) => length.toNat?.map fun n => (item, n)
  | _ => none

/-- The type that a name means, given the names of enumerations. -/
def ofWord? (enumerations : List String) (name : String) : Option DataType :=
  if enumerations.contains name then some (.enumeration name) else ofName? name

/-- The type that a written type means, down to a depth. -/
def ofExprUpTo (enumerations : List String) : Nat → TypeExpr → Option DataType
  | 0, _ => none
  | depth + 1, type =>
    match type.optionInner?, type.vecInner?, type.timeZone? with
    | some inner, _, _ => (ofExprUpTo enumerations depth inner).map .option
    | none, some inner, _ => (ofExprUpTo enumerations depth inner).map .sequence
    | none, none, some zone => ofZone? zone.spelled
    | none, none, none =>
      match type with
      | .other [.group .paren body] =>
        ((tupleItems body).mapM (ofExprUpTo enumerations depth)).map .tuple
      | .other [.group .bracket body] => do
        let (item, length) ← arrayParts? body
        return .array (← ofExprUpTo enumerations depth item) length
      | _ => type.lastName?.bind fun name => ofWord? enumerations name.spelled

/-- The type that a written type means, given the names of enumerations. -/
def ofExpr? (enumerations : List String) (type : TypeExpr) : Option DataType :=
  ofExprUpTo enumerations (Tree.size type.trees + 1) type

end Recordsmith.DataType

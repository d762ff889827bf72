import Recordsmith.Data.ItemList
import Recordsmith.Data.Nullable
import Recordsmith.Data.Value

/-!
# `Recordsmith.Data.Row`: entities and rows

An `Entity` is a value of a domain type: its identity, the values of the
fields that are skipped, and the values of its properties. A `Row` is its
record: the identity, and a cell for each property. Both list the
properties in the order of their schema.

Fields and cells come in the shapes that properties have: one element,
perhaps one, any number, perhaps any number; and in a record the wrappers
of storage. Elements are values, or entities and rows in their turn.
-/

set_option autoImplicit false

namespace Recordsmith

mutual

/-- A value of a domain type. -/
inductive Entity where
  | mk (identity : Identity) (skipped : List Value) (fields : List FieldValue)

/-- The value of a property on the domain side. -/
inductive FieldValue where
  | one (value : Value)
  | maybe (value : Option Value)
  | many (values : List Value)
  | maybeMany (values : Option (List Value))
  | child (entity : Entity)
  | maybeChild (entity : Option Entity)
  | children (entities : List Entity)
  | maybeChildren (entities : Option (List Entity))

end

mutual

/-- A record. -/
inductive Row where
  | mk (identity : Identity) (cells : List Cell)

/-- The value of a property in a record. -/
inductive Cell where
  | plain (value : Value)
  | boxed (box : Nullable Value)
  | optional (value : Option Value)
  | list (items : ItemList Value)
  | row (row : Option Row)
  | rows (rows : List Row)

end

instance : Inhabited FieldValue := ⟨.maybe none⟩

namespace Entity

instance : Inhabited Entity := ⟨.mk .empty [] []⟩

/-- The identity of an entity. -/
def identity : Entity → Identity
  | .mk identity _ _ => identity

/-- The values of the fields that are skipped. -/
def skipped : Entity → List Value
  | .mk _ skipped _ => skipped

/-- The values of the properties. -/
def fields : Entity → List FieldValue
  | .mk _ _ fields => fields

end Entity

namespace Row

instance : Inhabited Row := ⟨.mk .empty []⟩

/-- The identity of a record. -/
def identity : Row → Identity
  | .mk identity _ => identity

/-- The values of the properties. -/
def cells : Row → List Cell
  | .mk _ cells => cells

/-- The record with another identity. -/
def withIdentity (row : Row) (identity : Identity) : Row :=
  .mk identity row.cells

end Row

end Recordsmith

/-!
# `Recordsmith.Data.Nullable`: a box that may hold null

The wrapper of record fields whose null is not the same as the absence of
the field.
-/

set_option autoImplicit false

namespace Recordsmith

/-- A box with a value or null. -/
structure Nullable (α : Type) where
  value : Option α
  deriving DecidableEq, Repr

namespace Nullable

variable {α : Type}

/-- The box with null. -/
def null : Nullable α :=
  ⟨none⟩

/-- The box after a value was put in. -/
def set (_ : Nullable α) (value : α) : Nullable α :=
  ⟨some value⟩

/-- The box after its content was replaced. -/
def replace (_ : Nullable α) (value : Option α) : Nullable α :=
  ⟨value⟩

/-- The box after it was emptied. -/
def clear (_ : Nullable α) : Nullable α :=
  null

/-- Whether the box holds null. -/
def isNull (box : Nullable α) : Bool :=
  box.value.isNone

/-- The value, or another one for null. -/
def valueOr (box : Nullable α) (other : α) : α :=
  box.value.getD other

end Nullable

end Recordsmith

/-!
# `Recordsmith.Data.ItemList`: lists in records

The wrapper of record fields that hold any number of elements.
-/

set_option autoImplicit false

namespace Recordsmith

/-- A list of elements. -/
structure ItemList (α : Type) where
  items : List α
  deriving DecidableEq, Repr

namespace ItemList

variable {α : Type}

/-- The list without elements. -/
def empty : ItemList α :=
  ⟨[]⟩

/-- The list after it was emptied. -/
def clear (_ : ItemList α) : ItemList α :=
  empty

/-- The list with one element more at its end. -/
def push (list : ItemList α) (item : α) : ItemList α :=
  ⟨list.items ++ [item]⟩

/-- The list with further elements at its end. -/
def extend (list : ItemList α) (items : List α) : ItemList α :=
  ⟨list.items ++ items⟩

/-- The number of elements. -/
def length (list : ItemList α) : Nat :=
  list.items.length

/-- Whether there are no elements. -/
def isEmpty (list : ItemList α) : Bool :=
  list.items.isEmpty

/-- The first element. -/
def first? (list : ItemList α) : Option α :=
  list.items.head?

end ItemList

end Recordsmith

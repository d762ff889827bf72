import Recordsmith.Translate.Translator

/-!
# `Recordsmith.Store.Basic`: stores of records

A store keeps records by their identities. `ObjectStore` is what a store
can do; `upsert` writes an entity into a store, making a record for it
first if there is none.
-/

set_option autoImplicit false

namespace Recordsmith

/-- What a store of records can do. -/
class ObjectStore (σ : Type) where
  /-- The record with an identity. -/
  object? : σ → Identity → Option Row
  /-- The record with an identity, together with the way to put a changed one
  in its place. A store may have records and not let them be changed. -/
  edit? : σ → Identity → Option (Row × (Row → σ))
  /-- Takes a record in. -/
  insert : σ → Row → Step σ Unit
  /-- Removes the record with an identity and gives it back. -/
  remove : σ → Identity → σ × Option Row
  /-- All records, in the order of the store. -/
  objects : σ → List Row
  /-- The number of records. -/
  count : σ → Nat

namespace ObjectStore

variable {σ : Type} [ObjectStore σ]

/-- Whether a store has a record with an identity. -/
def contains (store : σ) (identity : Identity) : Bool :=
  (object? store identity).isSome

/-- Changes the record with an identity in its place, and gives the record.
There is nothing to change if the store has no such record or does not let
it be changed. -/
def modify? (store : σ) (identity : Identity) (change : Row → Row) : Option (σ × Row) :=
  (edit? store identity).map fun (row, put) => (put (change row), change row)

/-- Makes sure that a store has a record for an entity with an identity. -/
def prepare (translator : Translator) (store : σ) (identity : Identity) : Step σ Unit :=
  if contains store identity then .done store ()
  else (insert store (seedIdentity translator.fresh identity)).after [.creating identity]

/-- Writes an entity over its record in a store and gives the record. -/
def overwrite (translator : Translator) (store : σ) (entity : Entity) : Step σ Row :=
  match edit? store entity.identity with
  | none => .fail store (.refused (.missingRecord entity.identity))
  | some (row, put) =>
    let step := translator.write entity row
    ⟨put step.state, step.log, step.result.map fun _ => step.state⟩

/-- Writes an entity into a store, making a record for it first if there is
none, and gives the record. -/
def upsert (translator : Translator) (store : σ) (entity : Entity) : Step σ Row :=
  if entity.identity.isEmpty then .fail store (.refused .emptyIdentity)
  else
    (prepare translator store entity.identity).andThen fun store _ =>
      overwrite translator store entity

end ObjectStore

end Recordsmith

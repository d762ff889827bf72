import Recordsmith.Store.Memory

/-!
# `Recordsmith.Store.Repository`: entities in a store

The operations on the entities of one domain type that are kept in a store
as records. Each takes the translator of the domain type and the store, and
gives the store afterwards.
-/

set_option autoImplicit false

namespace Recordsmith.Repository

open ObjectStore

variable {σ : Type} [ObjectStore σ]

/-- Writes an entity. -/
def persist (translator : Translator) (store : σ) (entity : Entity) : Step σ Unit :=
  (upsert translator store entity).andThen fun store _ =>
    ⟨store, [.persisted entity.identity], .ok ()⟩

/-- Writes some entities one after the other, up to the first that fails.
`written` are those written before; the result is their number in all. -/
def persistFrom (translator : Translator) (written : Nat) (store : σ) :
    List Entity → Step σ Nat
  | [] => .done store written
  | entity :: rest =>
    let first := persist translator store entity
    match first.result with
    | .ok _ => (persistFrom translator (written + 1) first.state rest).after first.log
    | .error failure => ⟨first.state, first.log, .error failure⟩

/-- Writes some entities one after the other, up to the first that fails, and
gives their number. -/
def persistAll (translator : Translator) (store : σ) (entities : List Entity) : Step σ Nat :=
  persistFrom translator 0 store entities

/-- The entity with an identity. -/
def find (translator : Translator) (store : σ) (identity : Identity) : Run (Option Entity) :=
  match object? store identity with
  | none => .done none
  | some row => do
    return some (← translator.read row)

/-- All entities, in the order of the store. -/
def all (translator : Translator) (store : σ) : Run (List Entity) :=
  translator.fromRecords (objects store)

/-- Removes the entity with an identity and says whether there was one. -/
def delete (store : σ) (identity : Identity) : Step σ Bool :=
  match remove store identity with
  | (rest, some _) => ⟨rest, [.deleted identity], .ok true⟩
  | (rest, none) => .done rest false

end Recordsmith.Repository

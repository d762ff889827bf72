import Recordsmith.Data.Row
import Recordsmith.Data.Run

/-!
# `Recordsmith.Translate.Translator`: between entities and rows

A `Translator` knows the fresh record of a domain type, reads records and
writes entities into records. What can be done with any translator is
built on these three: reading and writing several, and `refresh`, which
writes an entity over the record it was read from, or over a fresh one if
that record belongs to another entity.
-/

set_option autoImplicit false

namespace Recordsmith

/-- The way between a domain type and its record. -/
structure Translator where
  /-- The record before anything is written to it. -/
  fresh : Row
  /-- The entity of a record. -/
  read : Row → Run Entity
  /-- Writes an entity into a record. What has been written when a failure
  occurs stays. -/
  write : Entity → Row → Step Row Unit

/-- Whether a record can be one of an entity, by their identities: one of
them has none, or they are equal. -/
def sameEntity (stored current : Identity) : Bool :=
  stored.isEmpty || current.isEmpty || stored == current

/-- The record with the given identity, unless it has one. -/
def seedIdentity (row : Row) (identity : Identity) : Row :=
  if row.identity.isEmpty then row.withIdentity identity else row

/-- The record that an entity with the given identity is written over: the
existing one if it can be a record of that entity, else a fresh one. -/
def startRow (fresh : Row) (identity : Identity) (existing : Option Row) : Row :=
  let kept := existing.filter fun row => sameEntity row.identity identity
  seedIdentity (kept.getD fresh) identity

/-- The end of a step that makes a record. -/
def Step.toRun (step : Step Row Unit) : Run Row :=
  ⟨step.log, step.result.map fun _ => step.state⟩

namespace Translator

/-- Writes an entity over an existing record, or over a fresh one. -/
def refresh (translator : Translator) (entity : Entity) (existing : Option Row) : Run Row :=
  (translator.write entity (startRow translator.fresh entity.identity existing)).toRun

/-- The record of an entity. -/
def toRecord (translator : Translator) (entity : Entity) : Run Row :=
  translator.refresh entity none

/-- The records of some entities. -/
def toRecords (translator : Translator) : List Entity → Run (List Row)
  | [] => .done []
  | entity :: rest => do
    let row ← translator.toRecord entity
    let rows ← translator.toRecords rest
    return row :: rows

/-- The entities of some records. -/
def fromRecords (translator : Translator) : List Row → Run (List Entity)
  | [] => .done []
  | row :: rest => do
    let entity ← translator.read row
    let entities ← translator.fromRecords rest
    return entity :: entities

end Translator

end Recordsmith

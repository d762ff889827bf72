import Recordsmith.Translate.Bindings

/-!
# `Recordsmith.Translate.Write`: writing records

`writeRow` writes an entity into a record by its schema: the properties in
order, each by its plan. It leaves the identity of the record alone.

Nested records are refreshed: a single one is taken out of its cell first
and put back when it is written, so a failure leaves the cell empty; a list
is emptied first and then filled with new records, all or none. A failure
ends the writing, and what has been written before stays.
-/

set_option autoImplicit false

namespace Recordsmith

open Recordsmith.Source Recordsmith.Schema

/-- Writes a property whose elements are values. -/
def writeScalar (bindings : Bindings) (label : String) (plan : WritePlan) (field : FieldValue)
    (cell : Cell) : Step Cell Unit :=
  match plan, field, cell with
  | .list transfer false, .many values, .list stored =>
    .done (.list (stored.clear.extend (values.map (transfer.store bindings)))) ()
  | .list transfer true, .maybeMany values, .list stored =>
    .done (.list (stored.clear.extend ((values.getD []).map (transfer.store bindings)))) ()
  | .plain transfer, .one value, .plain _ =>
    .done (.plain (transfer.store bindings value)) ()
  | .boxOptional transfer, .maybe value, .boxed box =>
    .done (.boxed (box.replace (value.map (transfer.store bindings)))) ()
  | .boxSet transfer, .one value, .boxed box =>
    .done (.boxed (box.set (transfer.store bindings value))) ()
  | .optional transfer, .maybe value, .optional _ =>
    .done (.optional (value.map (transfer.store bindings))) ()
  | .present transfer, .one value, .optional _ =>
    .done (.optional (some (transfer.store bindings value))) ()
  | _, _, _ => .fail cell (.misshapen label)

/-- The cell with a nested record after the record has been refreshed. -/
def refreshedCell (step : Step Row Unit) : Step Cell Unit :=
  match step.result with
  | .ok _ => ⟨.row (some step.state), step.log, .ok ()⟩
  | .error failure => ⟨.row none, step.log, .error failure⟩

/-- The cell with nested records after they have been made. -/
def refilledCell (run : Run (List Row)) : Step Cell Unit :=
  match run.result with
  | .ok rows => ⟨.rows rows, run.log, .ok ()⟩
  | .error failure => ⟨.rows [], run.log, .error failure⟩

mutual

/-- Writes an entity into a record. -/
def writeRow (bindings : Bindings) (handler : Handler) : Entity → Row → Step Row Unit
  | .mk identity skipped fields, row =>
    match handler with
    | .custom translator => translator.write (.mk identity skipped fields) row
    | .derived schema =>
      (writeFields bindings schema schema.properties fields row.cells).within
        (.mk row.identity)

/-- Writes the values of some properties into their cells. -/
def writeFields (bindings : Bindings) (schema : Schema) (properties : List Property) :
    List FieldValue → List Cell → Step (List Cell) Unit
  | [], cells => .done cells ()
  | field :: fields, cells =>
    match properties, cells with
    | property :: rest, cell :: cells =>
      let first := writeField bindings (schema.label property) (WritePlan.of property) field cell
      match first.result with
      | .error failure => ⟨first.state :: cells, first.log, .error failure⟩
      | .ok _ =>
        ((writeFields bindings schema rest fields cells).within (first.state :: ·)).after
          first.log
    | _, cells => .done cells ()

/-- Writes the value of a property into its cell. -/
def writeField (bindings : Bindings) (label : String) (plan : WritePlan) :
    FieldValue → Cell → Step Cell Unit
  | .child entity, cell =>
    match plan, cell with
    | .nestedRequired translator, .row existing =>
      let handler := bindings.handler translator
      refreshedCell (writeRow bindings handler entity
        (startRow (handler.fresh bindings) entity.identity existing))
    | _, _ => .fail cell (.misshapen label)
  | .maybeChild none, cell =>
    match plan, cell with
    | .nestedOptional _, .row _ => .done (.row none) ()
    | _, _ => .fail cell (.misshapen label)
  | .maybeChild (some entity), cell =>
    match plan, cell with
    | .nestedOptional translator, .row existing =>
      let handler := bindings.handler translator
      refreshedCell (writeRow bindings handler entity
        (startRow (handler.fresh bindings) entity.identity existing))
    | _, _ => .fail cell (.misshapen label)
  | .children entities, cell =>
    match plan, cell with
    | .nestedList translator false, .rows _ =>
      refilledCell (writeRows bindings (bindings.handler translator) entities)
    | _, _ => .fail cell (.misshapen label)
  | .maybeChildren none, cell =>
    match plan, cell with
    | .nestedList _ true, .rows _ => .done (.rows []) ()
    | _, _ => .fail cell (.misshapen label)
  | .maybeChildren (some entities), cell =>
    match plan, cell with
    | .nestedList translator true, .rows _ =>
      refilledCell (writeRows bindings (bindings.handler translator) entities)
    | _, _ => .fail cell (.misshapen label)
  | field, cell => writeScalar bindings label plan field cell

/-- The records of some entities. -/
def writeRows (bindings : Bindings) (handler : Handler) : List Entity → Run (List Row)
  | [] => .done []
  | entity :: rest => do
    let row ← (writeRow bindings handler entity
      (startRow (handler.fresh bindings) entity.identity none)).toRun
    let rows ← writeRows bindings handler rest
    return row :: rows

end

end Recordsmith

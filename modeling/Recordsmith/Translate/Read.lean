import Recordsmith.Translate.Bindings

/-!
# `Recordsmith.Translate.Read`: reading records

`readRow` reads a record by its schema: the properties in order, each by
its plan, and nested records by their own schemas to any depth. Fields that
are skipped get the default values of their types. The first property that
fails ends the reading.
-/

set_option autoImplicit false

namespace Recordsmith

open Recordsmith.Source Recordsmith.Schema

/-- Reads the inside of an option, if there is one. -/
def readOption (bindings : Bindings) (transfer : Transfer) (label : String) :
    Option Value → Run (Option Value)
  | none => .done none
  | some stored => do
    let value ← transfer.load bindings stored label
    return some value

/-- Reads a property whose elements are values. -/
def readScalar (bindings : Bindings) (label : String) (plan : ReadPlan) (cell : Cell) :
    Run FieldValue :=
  match plan, cell with
  | .list transfer optional, .list stored => do
    let values ← transfer.loadAll bindings stored.items label
    return if optional then .maybeMany (some values) else .many values
  | .plain transfer, .plain stored => do
    return .one (← transfer.load bindings stored label)
  | .boxOptional transfer, .boxed box => do
    return .maybe (← readOption bindings transfer label box.value)
  | .boxOrDefault transfer, .boxed box => do
    return .one (← transfer.load bindings (box.valueOr (transfer.defaultRaw bindings)) label)
  | .boxOrZero element, .boxed box => .done (.one (box.valueOr (bindings.zero element)))
  | .optional transfer, .optional stored => do
    return .maybe (← readOption bindings transfer label stored)
  | .orDefault transfer, .optional stored => do
    return .one (← transfer.load bindings (stored.getD (transfer.defaultRaw bindings)) label)
  | .required transfer, .optional stored => do
    let found ← expectPresent stored label
    return .one (← transfer.load bindings found label)
  | _, _ => .fail (.misshapen label)

mutual

/-- Reads a record. -/
def readRow (bindings : Bindings) (handler : Handler) : Row → Run Entity
  | .mk identity cells =>
    match handler with
    | .custom translator => translator.read (.mk identity cells)
    | .derived schema => do
      let fields ← readCells bindings schema schema.properties cells
      return .mk identity (schema.skipped.map fun field => bindings.defaultValue field.type)
        fields

/-- Reads the cells of some properties. -/
def readCells (bindings : Bindings) (schema : Schema) (properties : List Property) :
    List Cell → Run (List FieldValue)
  | [] => .done []
  | cell :: cells =>
    match properties with
    | [] => .done []
    | property :: rest => do
      let field ← readCell bindings (schema.label property) (ReadPlan.of property) cell
      let fields ← readCells bindings schema rest cells
      return field :: fields

/-- Reads the cell of a property. -/
def readCell (bindings : Bindings) (label : String) (plan : ReadPlan) : Cell → Run FieldValue
  | .rows rows =>
    match plan with
    | .nestedList translator optional => do
      let entities ← readRows bindings (bindings.handler translator) rows
      return if optional then .maybeChildren (some entities) else .children entities
    | _ => .fail (.misshapen label)
  | .row stored =>
    match plan with
    | .nestedOptional translator => do
      return .maybeChild (← readOptionalRow bindings (bindings.handler translator) stored)
    | .nestedRequired translator => do
      match ← readOptionalRow bindings (bindings.handler translator) stored with
      | some entity => return .child entity
      | none => .fail (.corrupt (.missing label))
    | _ => .fail (.misshapen label)
  | cell => readScalar bindings label plan cell

/-- Reads a record if there is one. -/
def readOptionalRow (bindings : Bindings) (handler : Handler) :
    Option Row → Run (Option Entity)
  | none => .done none
  | some row => do
    return some (← readRow bindings handler row)

/-- Reads the records of a list. -/
def readRows (bindings : Bindings) (handler : Handler) : List Row → Run (List Entity)
  | [] => .done []
  | row :: rows => do
    let entity ← readRow bindings handler row
    let entities ← readRows bindings handler rows
    return entity :: entities

end

end Recordsmith

import Recordsmith.Schema.Property

/-!
# `Recordsmith.Schema.Plan`: how a property is read and written

A plan says how a property gets from its record field to the domain value
(`ReadPlan`) and back (`WritePlan`). It is chosen once, from the kind and
the storage of the property. The code that is generated spells the plan
out, and running a translator carries it out, so the two agree.

`Transfer` is the part of a plan that concerns one element.
-/

set_option autoImplicit false

namespace Recordsmith.Schema

open Recordsmith.Source

/-- How one element is read and written. -/
inductive Transfer where
  /-- As the raw value of an enumeration. -/
  | raw (enumeration : TypeExpr)
  /-- As the text of a value of the type. -/
  | text (type : TypeExpr)
  /-- As it is. -/
  | copy

/-- How the elements of a property that is not nested are read and written. -/
def Transfer.of (property : Property) : Transfer :=
  if property.kind.isEnum then .raw property.element
  else if property.scalar = .url then .text property.element
  else .copy

/-- How a property is read from its record field. -/
inductive ReadPlan where
  /-- Every record of a list, with the result put in an option if `optional`. -/
  | nestedList (translator : TypeExpr) (optional : Bool)
  /-- A record if there is one. -/
  | nestedOptional (translator : TypeExpr)
  /-- A record that has to be there. -/
  | nestedRequired (translator : TypeExpr)
  /-- Every element of a list, less those that are not valid, with the result
  put in an option if `optional`. -/
  | list (transfer : Transfer) (optional : Bool)
  /-- The element. -/
  | plain (transfer : Transfer)
  /-- The element of a box if it is not null. -/
  | boxOptional (transfer : Transfer)
  /-- The element of a box, or the default raw value. -/
  | boxOrDefault (transfer : Transfer)
  /-- The element of a box, or the zero value. -/
  | boxOrZero (element : StoredElement)
  /-- The element if there is one. -/
  | optional (transfer : Transfer)
  /-- The element, or the default raw value. -/
  | orDefault (transfer : Transfer)
  /-- The element, which has to be there. -/
  | required (transfer : Transfer)

/-- The plan for reading a property. -/
def ReadPlan.of (property : Property) : ReadPlan :=
  match property.kind with
  | .nested _ translator =>
    if property.isArray then .nestedList translator property.isOptional
    else if property.isOptional then .nestedOptional translator
    else .nestedRequired translator
  | kind =>
    let transfer := Transfer.of property
    match Storage.of property with
    | .list => .list transfer property.isOptional
    | .plain => .plain transfer
    | .boxed =>
      if property.isOptional then .boxOptional transfer
      else if kind.isEnum then .boxOrDefault transfer
      else .boxOrZero (StoredElement.of property)
    | .nullable =>
      if property.isOptional then .optional transfer
      else if kind.isEnum then .orDefault transfer
      else .required transfer

/-- How a property is written to its record field. -/
inductive WritePlan where
  /-- The list is emptied and then filled with the records of the values,
  which are in an option if `optional`. -/
  | nestedList (translator : TypeExpr) (optional : Bool)
  /-- The record is taken out, refreshed and put back if there is a value. -/
  | nestedOptional (translator : TypeExpr)
  /-- The record is taken out, refreshed and put back. -/
  | nestedRequired (translator : TypeExpr)
  /-- The list is emptied and then filled with the elements, which are in an
  option if `optional`. -/
  | list (transfer : Transfer) (optional : Bool)
  /-- The element is replaced. -/
  | plain (transfer : Transfer)
  /-- The box gets the element or null. -/
  | boxOptional (transfer : Transfer)
  /-- The box gets the element. -/
  | boxSet (transfer : Transfer)
  /-- The element is replaced or left out. -/
  | optional (transfer : Transfer)
  /-- The element is put there. -/
  | present (transfer : Transfer)

/-- The plan for writing a property. -/
def WritePlan.of (property : Property) : WritePlan :=
  match property.kind with
  | .nested _ translator =>
    if property.isArray then .nestedList translator property.isOptional
    else if property.isOptional then .nestedOptional translator
    else .nestedRequired translator
  | _ =>
    let transfer := Transfer.of property
    match Storage.of property with
    | .list => .list transfer property.isOptional
    | .plain => .plain transfer
    | .boxed => if property.isOptional then .boxOptional transfer else .boxSet transfer
    | .nullable => if property.isOptional then .optional transfer else .present transfer

end Recordsmith.Schema

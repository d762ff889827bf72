import Recordsmith.Schema.Docs
import Recordsmith.Schema.Options
import Recordsmith.Schema.Property

/-!
# `Recordsmith.Schema.Classify`: what a field is

`classify` decides about one field: it is the identity, it is skipped, or
it is a property. The checks come in a fixed order, and the first that
fails is the issue of the field.

The name of the record field is the one given, or the name of the field in
the style of the declaration. Building it can fail in a way that is no
issue of the field but ends the whole run, a `NameFault`; the same goes for
the names of nested records. `FieldError` keeps the two apart.
-/

set_option autoImplicit false

namespace Recordsmith.Schema

open Recordsmith.Source

/-- A field with its options read. -/
structure FieldSpec where
  name : Option Ident
  type : TypeExpr
  doc : Option String
  options : FieldOptions

/-- Why a field has no class. -/
inductive FieldError where
  | issue (issue : Issue)
  | fault (fault : NameFault)
  deriving DecidableEq, Repr

/-- A field that is not kept in the record. -/
structure SkippedField where
  name : Ident
  type : TypeExpr

/-- What a field is. -/
inductive FieldClass where
  | identity (name modelName : Ident)
  | skipped (field : SkippedField)
  | property (property : Property)

/-- The name of the record field for a field. -/
def modelName (options : FieldOptions) (name : Ident) (style : NamingStyle) :
    Except FieldError Ident :=
  match options.modelName with
  | some text =>
    match Ident.ofSource? text with
    | some given => .ok given
    | none => .error (.issue (.invalidModelName text))
  | none =>
    if style = .preserve then .ok name
    else (Ident.ofText (style.apply name.text)).mapError .fault

/-- The kind of a field with the given element, and an issue if it is marked
as nested but its element has no name to build others from. -/
def propertyKind (options : FieldOptions) (element : TypeExpr) :
    Except FieldError PropertyKind :=
  if options.intEnum then .ok .intEnum
  else if options.stringEnum then .ok .stringEnum
  else if options.nested then
    match element.withSuffix "Record", element.withSuffix "Translator" with
    | some record, some translator => do
      let record ← record.mapError .fault
      let translator ← translator.mapError .fault
      return .nested record translator
    | _, _ => .error (.issue .nestedUnnamed)
  else .ok .primitive

/-- Whether elements of a kind and family can be put in a box. -/
def isBoxable (kind : PropertyKind) (scalar : ScalarClass) : Bool :=
  match kind with
  | .intEnum => true
  | .primitive => [ScalarClass.numeric, .bool, .text, .date].contains scalar
  | _ => false

/-- The declared type of a field taken apart. -/
structure Cardinality where
  element : TypeExpr
  isOptional : Bool
  isArray : Bool

/-- Takes `Option` and then `Vec` off a type. -/
def Cardinality.of (type : TypeExpr) : Cardinality :=
  let unwrapped := type.optionInner?.getD type
  ⟨unwrapped.vecInner?.getD unwrapped, type.optionInner?.isSome, unwrapped.vecInner?.isSome⟩

/-- The issue of a box that does not fit its field. -/
def checkBoxed (options : FieldOptions) (kind : PropertyKind) (scalar : ScalarClass)
    (isArray : Bool) : Except FieldError Unit :=
  if options.boxed && isArray then .error (.issue .boxedArray)
  else if options.boxed && !isBoxable kind scalar then .error (.issue .boxedKind)
  else .ok ()

/-- The property that a field is, if it is neither the identity nor skipped. -/
def propertyOf (field : FieldSpec) (name : Ident) (style : NamingStyle) :
    Except FieldError Property := do
  let shape := Cardinality.of field.type
  let kind ← propertyKind field.options shape.element
  let scalar := if kind.isPrimitive then ScalarClass.of shape.element else .other
  checkBoxed field.options kind scalar shape.isArray
  let model ← modelName field.options name style
  return {
    name
    modelName := model
    declared := field.type
    element := shape.element
    kind
    isArray := shape.isArray
    isOptional := shape.isOptional
    scalar
    boxed := field.options.boxed
    doc := field.doc }

/-- Decides what a field is. -/
def classify (style : NamingStyle) (field : FieldSpec) : Except FieldError FieldClass :=
  match field.name with
  | none => .error (.issue .unnamedField)
  | some name =>
    if field.options.markerCount > 1 then .error (.issue .conflictingMarkers)
    else if field.options.skip then
      if field.options.hasOptions then .error (.issue .skipWithOptions)
      else .ok (.skipped ⟨name, field.type⟩)
    else if field.type.isNamed "Identity" then
      if field.options.markerCount > 0 || field.options.boxed then
        .error (.issue .identityWithOptions)
      else (modelName field.options name style).map (.identity name)
    else (propertyOf field name style).map .property

end Recordsmith.Schema

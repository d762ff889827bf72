import Mathlib.Data.List.Forall2
import Recordsmith.Proofs.Schema.Accepted
import Recordsmith.Translate.Derived

/-!
# `Recordsmith.Proofs.Translate.Conform`: values that fit their schema

Entities and records are trees of values and do not say by themselves which
domain type they belong to. Two predicates do:

* `Entity.Meets demand bindings handler`: the entity is a value of the domain
  type that `handler` translates. Its fields stand for the properties of the
  schema one by one, each of the multiplicity that the property declares, and
  nested entities are values of their own domain types. A `Demand` says what
  else is asked of the elements, and of entities with a translator made by
  hand.
* `Row.Shaped bindings handler`: the record has a cell for each property, in
  the wrapper that the property is stored in, and nested records are shaped in
  their turn.

Both are inductive, so a statement about all values of a domain type is proved
by induction on the predicate: `Entity.Meets.induction` hands the hypothesis for
every nested entity to every field.
-/

set_option autoImplicit false

namespace Recordsmith

open Recordsmith.Source Recordsmith.Schema

/-! ### The form that a property declares -/

/-- How many elements a property has. -/
inductive Multiplicity where
  | one
  | maybe
  | many
  | maybeMany
  deriving DecidableEq, Repr

namespace Schema.Property

/-- Whether the elements of a property are of a domain type of their own. -/
def isNested (property : Property) : Bool :=
  match property.kind with
  | .nested _ _ => true
  | _ => false

/-- The name of the translator of nested elements. -/
def translator (property : Property) : TypeExpr :=
  match property.kind with
  | .nested _ translator => translator
  | _ => default

/-- How many elements a property has. -/
def multiplicity (property : Property) : Multiplicity :=
  match property.isArray, property.isOptional with
  | false, false => .one
  | false, true => .maybe
  | true, false => .many
  | true, true => .maybeMany

end Schema.Property

namespace FieldValue

/-- Whether the elements of a field are entities. -/
def isNested : FieldValue → Bool
  | .child _ | .maybeChild _ | .children _ | .maybeChildren _ => true
  | _ => false

/-- How many elements a field can have. -/
def multiplicity : FieldValue → Multiplicity
  | .one _ | .child _ => .one
  | .maybe _ | .maybeChild _ => .maybe
  | .many _ | .children _ => .many
  | .maybeMany _ | .maybeChildren _ => .maybeMany

/-- The elements of a field that are values. -/
def elements : FieldValue → List Value
  | .one value => [value]
  | .maybe value => value.toList
  | .many values => values
  | .maybeMany values => values.getD []
  | _ => []

/-- The elements of a field that are entities. -/
def nested : FieldValue → List Entity
  | .child entity => [entity]
  | .maybeChild entity => entity.toList
  | .children entities => entities
  | .maybeChildren entities => entities.getD []
  | _ => []

attribute [simp] isNested multiplicity elements nested

end FieldValue

/-- The records in a cell. -/
def Cell.nested : Cell → List Row
  | .row stored => stored.toList
  | .rows stored => stored
  | _ => []

/-! ### Entities of a domain type -/

/-- What is asked of the parts of an entity besides their form. -/
structure Demand where
  /-- What is asked of an element of a property. -/
  element : Property → Value → Prop
  /-- What is asked of an entity that has a translator made by hand. -/
  custom : Translator → Entity → Prop

namespace Demand

/-- Nothing but the form is asked for. -/
def shaped : Demand where
  element _ _ := True
  custom _ _ := True

/-- Whether a demand lets no translator made by hand pass. -/
def DerivedOnly (demand : Demand) : Prop :=
  ∀ translator entity, ¬ demand.custom translator entity

/-- All translators, down to any depth, are those of schemas. -/
def derived : Demand where
  element _ _ := True
  custom _ _ := False

/-- All translators are those of schemas, and every element can be read from
what is stored for it: a variant from its raw value, and what is kept as text
from its text. -/
def restorable (bindings : Bindings) : Demand where
  element property value :=
    if property.kind.isEnum then
      (bindings.rawEnum property.element).ofRaw?
        ((bindings.rawEnum property.element).rawOf value) = some value
    else if property.scalar = .url then
      (bindings.textForm property.element).parse
        ((bindings.textForm property.element).print value) = .ok value
    else True
  custom _ _ := False

/-- The demand for translators of schemas lets none made by hand pass. -/
theorem derivedOnly_derived : derived.DerivedOnly := fun _ _ h => h

/-- Nor does the demand that values can be restored. -/
theorem derivedOnly_restorable (bindings : Bindings) : (restorable bindings).DerivedOnly :=
  fun _ _ h => h

end Demand

/-- Whether a field has the form of a property, and its elements are as asked. -/
structure FieldValue.Fits (demand : Demand) (property : Property) (field : FieldValue) :
    Prop where
  isNested_eq : field.isNested = property.isNested
  multiplicity_eq : field.multiplicity = property.multiplicity
  elements_meet : ∀ value ∈ field.elements, demand.element property value

/-- Whether an entity is a value of the domain type that a handler translates. -/
inductive Entity.Meets (demand : Demand) (bindings : Bindings) : Handler → Entity → Prop where
  | custom (translator : Translator) (entity : Entity)
      (meets : demand.custom translator entity) :
      Meets demand bindings (.custom translator) entity
  | derived (schema : Schema) (entity : Entity) (accepted : schema.Accepted)
      (fits : List.Forall₂ (FieldValue.Fits demand) schema.properties entity.fields)
      (nested : ∀ property field, (property, field) ∈ schema.properties.zip entity.fields →
        ∀ child ∈ field.nested,
          Meets demand bindings (bindings.handler property.translator) child) :
      Meets demand bindings (.derived schema) entity

/-- Whether a field is a value of the declared type of a property. -/
structure FieldValue.Meets (demand : Demand) (bindings : Bindings) (property : Property)
    (field : FieldValue) : Prop extends FieldValue.Fits demand property field where
  nested_meet : ∀ child ∈ field.nested,
    child.Meets demand bindings (bindings.handler property.translator)

/-- A pointwise relation between two lists, with what is known of their pairs. -/
theorem forall₂_and_zip {α β : Type} {R Q : α → β → Prop} {as : List α} {bs : List β}
    (h : List.Forall₂ R as bs) (hq : ∀ a b, (a, b) ∈ as.zip bs → Q a b) :
    List.Forall₂ (fun a b => R a b ∧ Q a b) as bs := by
  obtain ⟨hlength, hr⟩ := List.forall₂_iff_zip.mp h
  exact List.forall₂_iff_zip.mpr ⟨hlength, fun hmem => ⟨hr hmem, hq _ _ hmem⟩⟩

namespace Entity.Meets

variable {demand : Demand} {bindings : Bindings} {schema : Schema} {entity : Entity}

/-- A schema that is met by an entity comes from an accepted declaration. -/
theorem accepted (h : entity.Meets demand bindings (.derived schema)) : schema.Accepted := by
  cases h with
  | derived _ _ accepted _ _ => exact accepted

/-- The fields of a value of a schema are values of its properties, one by one. -/
theorem fields (h : entity.Meets demand bindings (.derived schema)) :
    List.Forall₂ (FieldValue.Meets demand bindings) schema.properties entity.fields := by
  cases h with
  | derived _ _ _ fits nested =>
      exact (forall₂_and_zip fits nested).imp fun _ _ hpair => ⟨hpair.1, hpair.2⟩

/-- Fields that meet the properties one by one make an entity that meets the schema. -/
theorem of_fields (accepted : schema.Accepted)
    (h : List.Forall₂ (FieldValue.Meets demand bindings) schema.properties entity.fields) :
    entity.Meets demand bindings (.derived schema) := by
  refine .derived schema entity accepted (h.imp fun _ _ hfield => hfield.toFits) ?_
  intro property field hmem
  exact ((List.forall₂_iff_zip.mp h).2 hmem).nested_meet

/-- Where only translators of schemas pass, an entity has one. -/
theorem exists_schema (honly : demand.DerivedOnly) {handler : Handler}
    (h : entity.Meets demand bindings handler) : ∃ schema, handler = .derived schema := by
  cases h with
  | custom translator _ meets => exact absurd meets (honly translator entity)
  | derived schema _ _ _ _ => exact ⟨schema, rfl⟩

/-- Induction on values of domain types that all have translators of schemas:
what holds of the entities in every field holds of the entity. -/
theorem induction (honly : demand.DerivedOnly) {motive : Handler → Entity → Prop}
    (derived : ∀ (schema : Schema) (entity : Entity), schema.Accepted →
      List.Forall₂ (fun property field => FieldValue.Meets demand bindings property field ∧
        ∀ child ∈ field.nested, motive (bindings.handler property.translator) child)
        schema.properties entity.fields →
      motive (.derived schema) entity)
    {handler : Handler} {entity : Entity} (h : entity.Meets demand bindings handler) :
    motive handler entity := by
  -- The induction of the predicate has its hypothesis for pairs of the zipped
  -- lists; it is handed on field by field.
  induction h with
  | custom translator entity meets => exact absurd meets (honly translator entity)
  | derived schema entity accepted fits nested ih =>
      have hfields := (Meets.derived schema entity accepted fits nested).fields
      exact derived schema entity accepted (forall₂_and_zip hfields ih)

end Entity.Meets

/-! ### Records of a domain type -/

/-- Whether a cell has the wrapper that a property is stored in. -/
def Cell.HasForm (property : Property) : Cell → Prop
  | .plain _ => property.isNested = false ∧ Storage.of property = .plain
  | .boxed _ => property.isNested = false ∧ Storage.of property = .boxed
  | .optional _ => property.isNested = false ∧ Storage.of property = .nullable
  | .list _ => property.isNested = false ∧ Storage.of property = .list
  | .row _ => property.isNested = true ∧ property.isArray = false
  | .rows _ => property.isNested = true ∧ property.isArray = true

/-- Whether a record has the form that a handler gives its records. A translator
made by hand may use any form. -/
inductive Row.Shaped (bindings : Bindings) : Handler → Row → Prop where
  | custom (translator : Translator) (row : Row) : Shaped bindings (.custom translator) row
  | derived (schema : Schema) (row : Row)
      (forms : List.Forall₂ Cell.HasForm schema.properties row.cells)
      (nested : ∀ property cell, (property, cell) ∈ schema.properties.zip row.cells →
        ∀ child ∈ cell.nested, Shaped bindings (bindings.handler property.translator) child) :
      Shaped bindings (.derived schema) row

/-- Whether a cell has the form that a property gives it. -/
structure Cell.Shaped (bindings : Bindings) (property : Property) (cell : Cell) : Prop where
  form : cell.HasForm property
  nested_shaped : ∀ child ∈ cell.nested,
    child.Shaped bindings (bindings.handler property.translator)

namespace Row.Shaped

variable {bindings : Bindings} {schema : Schema} {row : Row}

/-- The cells of a row that is in shape are in shape one by one. -/
theorem cells (h : row.Shaped bindings (.derived schema)) :
    List.Forall₂ (Cell.Shaped bindings) schema.properties row.cells := by
  cases h with
  | derived _ _ forms nested =>
      exact (forall₂_and_zip forms nested).imp fun _ _ hpair => ⟨hpair.1, hpair.2⟩

/-- Cells that are in shape one by one make a row that is. -/
theorem of_cells
    (h : List.Forall₂ (Cell.Shaped bindings) schema.properties row.cells) :
    row.Shaped bindings (.derived schema) := by
  refine .derived schema row (h.imp fun _ _ hcell => hcell.form) ?_
  intro property cell hmem
  exact ((List.forall₂_iff_zip.mp h).2 hmem).nested_shaped

/-- The form of a record does not depend on its identity. -/
theorem withIdentity {handler : Handler} (h : row.Shaped bindings handler)
    (identity : Identity) : (row.withIdentity identity).Shaped bindings handler := by
  cases h with
  | custom translator _ => exact .custom translator _
  | derived schema _ forms nested => exact .derived schema _ forms nested

end Row.Shaped

/-- A fresh cell has the form of its property. -/
theorem shaped_freshCell (bindings : Bindings) (property : Property) :
    (freshCell bindings property).Shaped bindings property := by
  refine ⟨?_, ?_⟩
  · unfold freshCell DefaultValue.of
    -- Fresh cells are chosen by the same storage that says which form a cell has.
    cases hkind : property.kind with
    | nested _ _ => cases harray : property.isArray <;> simp [Cell.HasForm, Property.isNested, *]
    | _ =>
      cases hstorage : Storage.of property <;>
        simp [Cell.HasForm, Property.isNested, hkind, hstorage]
  · -- No fresh cell has a record in it.
    intro child hchild
    unfold freshCell at hchild
    split at hchild
    · split at hchild <;> cases hchild
    · split at hchild <;> cases hchild

/-- A fresh record has the form of its domain type. -/
theorem shaped_fresh (bindings : Bindings) (handler : Handler) :
    (handler.fresh bindings).Shaped bindings handler := by
  cases handler with
  | custom translator => exact .custom translator _
  | derived schema =>
      refine .of_cells ?_
      show List.Forall₂ _ schema.properties (schema.properties.map (freshCell bindings))
      rw [List.forall₂_map_right_iff]
      exact List.forall₂_same.mpr fun property _ => shaped_freshCell bindings property

end Recordsmith

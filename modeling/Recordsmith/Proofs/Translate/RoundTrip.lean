import Recordsmith.Data.TextForms
import Recordsmith.Proofs.Translate.Writing
import Recordsmith.Sample.Enumerations

/-!
# `Recordsmith.Proofs.Translate.RoundTrip`: reading undoes writing

What is read from the stored form of an entity is its normal form
(`readRow_row`). This is put together from the elements up: an element that
can be restored is read from what is stored for it, a field from its cell
whatever its kind, storage and multiplicity, and an entity from its record by
induction on its domain type.

Reading fails nowhere on the way and reports nothing, so all equations are
between whole runs.

The zero values of types are used for fresh records only. They are all
overwritten, so records and what is read from them do not depend on the zero
values (`Entity.row_withZero`), among which are dates taken from the clock.
-/

set_option autoImplicit false

namespace Recordsmith

open Recordsmith.Source Recordsmith.Schema

/-! ### The plan for reading a property -/

namespace Schema.ReadPlan

variable {property : Property}

/-- How a nested property is read depends on how many entities there may be. -/
theorem of_nested (h : property.isNested = true) :
    ReadPlan.of property =
      if property.isArray then .nestedList property.translator property.isOptional
      else if property.isOptional then .nestedOptional property.translator
      else .nestedRequired property.translator := by
  unfold ReadPlan.of
  cases hkind : property.kind with
  | nested _ _ => simp [Property.translator, hkind]
  | _ => simp [Property.isNested, hkind] at h

/-- How any other property is read depends on its storage, on whether it is optional and on its
kind. -/
theorem of_scalar (h : property.isNested = false) :
    ReadPlan.of property =
      match Storage.of property with
      | .list => .list (Transfer.of property) property.isOptional
      | .plain => .plain (Transfer.of property)
      | .boxed =>
        if property.isOptional then .boxOptional (Transfer.of property)
        else if property.kind.isEnum then .boxOrDefault (Transfer.of property)
        else .boxOrZero (StoredElement.of property)
      | .nullable =>
        if property.isOptional then .optional (Transfer.of property)
        else if property.kind.isEnum then .orDefault (Transfer.of property)
        else .required (Transfer.of property) := by
  unfold ReadPlan.of
  cases hkind : property.kind with
  | nested _ _ => simp [Property.isNested, hkind] at h
  | _ => rfl

end Schema.ReadPlan

section

variable {bindings : Bindings} {property : Property}

/-! ### Reading elements -/

/-- An element that can be restored is read from what is stored for it. -/
theorem load_store {value : Value} (label : String)
    (h : (Demand.restorable bindings).element property value) :
    (Transfer.of property).load bindings ((Transfer.of property).store bindings value) label
      = .done value := by
  -- What can be restored is what each check gives back: raw values, links, and anything that is
  -- copied.
  simp only [Demand.restorable] at h
  unfold Transfer.of
  split at h
  · rename_i henum
    simp [henum, Transfer.load, Transfer.store, RawEnum.expect, h]
  · rename_i henum
    split at h
    · rename_i hurl
      simp [henum, hurl, Transfer.load, Transfer.store, TextForm.expect, storedText, h]
    · rename_i hurl
      simp [henum, hurl, Transfer.load, Transfer.store]

/-- No raw value of a list is dropped if all variants can be restored. -/
theorem keepValid_rawOf {enumeration : RawEnum} {values : List Value} (label : String)
    (h : ∀ value ∈ values, enumeration.ofRaw? (enumeration.rawOf value) = some value) :
    enumeration.keepValid label (values.map enumeration.rawOf) = .done values := by
  induction values with
  | nil => rfl
  | cons value rest ih =>
      have hrest := ih fun value hmem => h value (List.mem_cons_of_mem _ hmem)
      rw [List.map_cons, RawEnum.keepValid, h value List.mem_cons_self, hrest]
      rfl

/-- No text of a list is dropped if all values can be restored. -/
theorem keepValid_print {form : TextForm} {values : List Value} (label : String)
    (h : ∀ value ∈ values, form.parse (form.print value) = .ok value) :
    form.keepValid label (values.map form.print) = .done values := by
  induction values with
  | nil => rfl
  | cons value rest ih =>
      have hrest := ih fun value hmem => h value (List.mem_cons_of_mem _ hmem)
      rw [List.map_cons, TextForm.keepValid, h value List.mem_cons_self, hrest]
      rfl

/-- Elements that can be restored are read from what is stored for them. -/
theorem loadAll_store {values : List Value} (label : String)
    (h : ∀ value ∈ values, (Demand.restorable bindings).element property value) :
    (Transfer.of property).loadAll bindings
        (values.map ((Transfer.of property).store bindings)) label
      = .done values := by
  simp only [Demand.restorable] at h
  by_cases henum : property.kind.isEnum = true
  · simp only [henum, if_true] at h
    simp only [Transfer.of, henum, if_true]
    exact keepValid_rawOf label h
  · by_cases hurl : property.scalar = .url
    · simp only [henum, hurl, if_true] at h
      simp only [Transfer.of, henum, hurl, if_true, Transfer.loadAll]
      -- What is stored are texts, so taking the text out again loses nothing.
      have htexts : (values.map (Transfer.store bindings (.text property.element))).map storedText
          = values.map (bindings.textForm property.element).print := by
        rw [List.map_map]
        rfl
      rw [if_neg Bool.false_ne_true, htexts]
      exact keepValid_print label h
    · have hcopy : Transfer.store bindings .copy = id := rfl
      simp [Transfer.of, henum, hurl, Transfer.loadAll, hcopy]

/-! ### Reading fields -/

/-- A field of values is read from its cell. -/
theorem readScalar_cell {field : FieldValue} (label : String) (hsound : property.Sound)
    (hfield : field.Fits (.restorable bindings) property) (hscalar : field.isNested = false) :
    readScalar bindings label (ReadPlan.of property) (field.cell bindings property)
      = .done (field.norm bindings property) := by
  have hnested : property.isNested = false := by rw [← hfield.isNested_eq, hscalar]
  have harray := Property.isArray_of_multiplicity hfield.multiplicity_eq
  have hoptional := Property.isOptional_of_multiplicity hfield.multiplicity_eq
  have hall := hfield.elements_meet
  -- The multiplicity and the storage between them fix the plan and the cell.
  rw [ReadPlan.of_scalar hnested, hoptional]
  cases field with
  | one value =>
      have hload := load_store label (hall value (by simp))
      simp only [FieldValue.cell, FieldValue.norm]
      cases hstorage : Storage.of property with
      | list => exact absurd hstorage (Storage.of_ne_list harray)
      | plain => simp [Storage.holdOne, readScalar, hload]
      | boxed =>
          cases henum : property.kind.isEnum with
          | true => simp [Storage.holdOne, readScalar, Nullable.valueOr, hload]
          | false =>
              -- The box is read as it is, which is right only since nothing was stored as text.
              have hcopy := hsound.transfer_of_boxed hstorage hoptional henum
              simp [Storage.holdOne, readScalar, Nullable.valueOr, hcopy, Transfer.store]
      | nullable =>
          cases henum : property.kind.isEnum with
          | true => simp [Storage.holdOne, readScalar, hload]
          | false => simp [Storage.holdOne, readScalar, expectPresent, hload]
  | maybe value =>
      have hread : readOption bindings (Transfer.of property) label
          (value.map ((Transfer.of property).store bindings)) = .done value := by
        cases value with
        | none => rfl
        | some value =>
            have hload := load_store label (hall value (by simp))
            simp [readOption, hload]
      simp only [FieldValue.cell, FieldValue.norm]
      rcases Storage.of_optional harray hoptional with hstorage | hstorage <;>
        simp [hstorage, Storage.holdMaybe, readScalar, hread]
  | many values =>
      have hload := loadAll_store label hall
      simp only [FieldValue.elements] at hload
      simp [Storage.of_eq_list harray, readScalar, hload]
  | maybeMany values =>
      have hload := loadAll_store label hall
      simp only [FieldValue.elements] at hload
      simp [Storage.of_eq_list harray, readScalar, hload]
  | child _ | maybeChild _ | children _ | maybeChildren _ => cases hscalar

/-- The cell of a property that is not nested is read as values. -/
theorem readCell_eq_readScalar {cell : Cell} {label : String} {plan : ReadPlan}
    (h : cell.HasForm property) (hscalar : property.isNested = false) :
    readCell bindings label plan cell = readScalar bindings label plan cell := by
  cases cell with
  | row stored => exact absurd h.1 (by simp [hscalar])
  | rows stored => exact absurd h.1 (by simp [hscalar])
  | _ => simp only [readCell]

/-- Whether what is read from the record of an entity is its normal form. -/
def Entity.ReadsBack (bindings : Bindings) (handler : Handler) (entity : Entity) : Prop :=
  readRow bindings handler (entity.row bindings handler)
    = .done (entity.norm bindings handler)

/-- Entities are read from their rows one by one. -/
theorem readRows_rows {handler : Handler} {entities : List Entity}
    (h : ∀ entity ∈ entities, entity.ReadsBack bindings handler) :
    readRows bindings handler (entities.map (Entity.row bindings handler))
      = .done (entities.map (Entity.norm bindings handler)) := by
  induction entities with
  | nil => rfl
  | cons entity rest ih =>
      have hfirst : readRow bindings handler (entity.row bindings handler) = _ :=
        h entity List.mem_cons_self
      have hrest := ih fun entity hmem => h entity (List.mem_cons_of_mem _ hmem)
      simp only [List.map_cons, readRows, hfirst, hrest, Run.done_bind, Run.pure_eq_done]

/-- A field is read from its cell. -/
theorem readCell_cell {field : FieldValue} (label : String) (hsound : property.Sound)
    (hfield : field.Fits (.restorable bindings) property)
    (hchild : ∀ child ∈ field.nested,
      child.ReadsBack bindings (bindings.handler property.translator)) :
    readCell bindings label (ReadPlan.of property) (field.cell bindings property)
      = .done (field.norm bindings property) := by
  have harray := Property.isArray_of_multiplicity hfield.multiplicity_eq
  have hoptional := Property.isOptional_of_multiplicity hfield.multiplicity_eq
  have hnested := hfield.isNested_eq.symm
  -- Each way to hold entities has a plan of its own; elements are read alike for all four.
  cases field with
  | child entity =>
      have hread : readRow bindings _ (entity.row bindings _) = _ :=
        hchild entity (by simp)
      rw [ReadPlan.of_nested hnested, harray, hoptional]
      simp [readCell, readOptionalRow, hread]
  | maybeChild entity =>
      rw [ReadPlan.of_nested hnested, harray, hoptional]
      cases entity with
      | none => rfl
      | some entity =>
          have hread : readRow bindings _ (entity.row bindings _) = _ :=
            hchild entity (by simp)
          simp [readCell, readOptionalRow, hread]
  | children entities =>
      have hread := readRows_rows hchild
      simp only [FieldValue.nested] at hread
      rw [ReadPlan.of_nested hnested, harray, hoptional]
      simp [readCell, hread]
  | maybeChildren entities =>
      rw [ReadPlan.of_nested hnested, harray, hoptional]
      cases entities with
      | none => rfl
      | some entities =>
          have hread := readRows_rows hchild
          simp only [FieldValue.nested, Option.getD_some] at hread
          simp [readCell, hread]
  | one _ | maybe _ | many _ | maybeMany _ =>
      rw [readCell_eq_readScalar (FieldValue.hasForm_cell hfield) hnested]
      exact readScalar_cell label hsound hfield rfl

/-! ### Reading entities -/

/-- Fields are read from their cells one by one. -/
theorem readCells_cells (schema : Schema) {properties : List Property}
    {fields : List FieldValue} (hsound : ∀ property ∈ properties, property.Sound)
    (hfields : List.Forall₂ (fun property field =>
      FieldValue.Meets (.restorable bindings) bindings property field ∧
        ∀ child ∈ field.nested,
          child.ReadsBack bindings (bindings.handler property.translator)) properties fields) :
    readCells bindings schema properties (FieldValue.cells bindings properties fields)
      = .done (FieldValue.normAll bindings properties fields) := by
  -- Fields and cells are computed from the same properties, so they are read in step.
  induction hfields with
  | nil => rfl
  | @cons property field properties fields hfield _ ih =>
      have hfirst := readCell_cell (schema.label property)
        (hsound property List.mem_cons_self) hfield.1.toFits hfield.2
      have hrest := ih fun property hmem => hsound property (List.mem_cons_of_mem _ hmem)
      simp only [FieldValue.cells, FieldValue.normAll, readCells, hfirst, hrest, Run.done_bind,
        Run.pure_eq_done]

/-- What is read from the record of an entity is its normal form. -/
theorem readRow_row {handler : Handler} {entity : Entity}
    (h : entity.Meets (.restorable bindings) bindings handler) :
    entity.ReadsBack bindings handler := by
  refine Entity.Meets.induction (Demand.derivedOnly_restorable bindings)
    (motive := Entity.ReadsBack bindings) ?_ h
  rintro schema ⟨identity, skipped, fields⟩ accepted hfields
  have hcells := readCells_cells schema accepted.sound hfields
  simp only [Entity.fields] at hcells
  simp only [Entity.ReadsBack, Entity.row, Entity.norm, readRow, hcells, Run.done_bind,
    Run.pure_eq_done]

/-- What is read from the records of entities are their normal forms. -/
theorem fromRecords_rows {handler : Handler} {entities : List Entity}
    (h : ∀ entity ∈ entities, entity.Meets (.restorable bindings) bindings handler) :
    (handler.translator bindings).fromRecords (entities.map (Entity.row bindings handler))
      = .done (entities.map (Entity.norm bindings handler)) := by
  induction entities with
  | nil => rfl
  | cons entity rest ih =>
      have hfirst : (handler.translator bindings).read (entity.row bindings handler) = _ :=
        readRow_row (h entity List.mem_cons_self)
      have hrest := ih fun entity hmem => h entity (List.mem_cons_of_mem _ hmem)
      simp only [List.map_cons, Translator.fromRecords, hfirst, hrest, Run.done_bind,
        Run.pure_eq_done]

end

/-! ### Zero values do not matter -/

/-- The same meaning of types with other zero values. -/
def Bindings.withZero (bindings : Bindings) (zero : StoredElement → Value) : Bindings :=
  { bindings with zero }

section

variable (bindings : Bindings) (zero : StoredElement → Value)

/-- Other zero values leave the handlers as they are. -/
@[simp] theorem Bindings.handler_withZero : (bindings.withZero zero).handler = bindings.handler :=
  rfl

/-- Other zero values do not matter for what is stored. -/
@[simp] theorem store_withZero (transfer : Transfer) :
    transfer.store (bindings.withZero zero) = transfer.store bindings := by
  cases transfer <;> rfl

mutual

/-- The record of an entity and its normal form do not depend on zero values. -/
theorem Entity.forms_withZero : ∀ (handler : Handler) (entity : Entity),
    entity.row (bindings.withZero zero) handler = entity.row bindings handler ∧
      entity.norm (bindings.withZero zero) handler = entity.norm bindings handler
  | .custom _, .mk _ _ _ => ⟨rfl, rfl⟩
  | .derived schema, .mk identity skipped fields => by
      obtain ⟨hcells, hnorm⟩ := FieldValue.allForms_withZero schema.properties fields
      simp only [Entity.row, Entity.norm, hcells, hnorm, true_and]
      rfl

/-- The same for fields. -/
theorem FieldValue.allForms_withZero : ∀ (properties : List Property) (fields : List FieldValue),
    FieldValue.cells (bindings.withZero zero) properties fields
        = FieldValue.cells bindings properties fields ∧
      FieldValue.normAll (bindings.withZero zero) properties fields
        = FieldValue.normAll bindings properties fields
  | _, [] => ⟨rfl, rfl⟩
  | [], _ :: _ => ⟨rfl, rfl⟩
  | property :: properties, field :: fields => by
      obtain ⟨hcell, hnorm⟩ := FieldValue.forms_withZero property field
      obtain ⟨hcells, hnorms⟩ := FieldValue.allForms_withZero properties fields
      simp only [FieldValue.cells, FieldValue.normAll, hcell, hnorm, hcells, hnorms, and_self]

/-- The same for a field. -/
theorem FieldValue.forms_withZero : ∀ (property : Property) (field : FieldValue),
    field.cell (bindings.withZero zero) property = field.cell bindings property ∧
      field.norm (bindings.withZero zero) property = field.norm bindings property
  | _, .one _ | _, .maybe _ | _, .many _ | _, .maybeMany _ => by simp
  | _, .maybeChild none | _, .maybeChildren none => ⟨rfl, rfl⟩
  | property, .child entity | property, .maybeChild (some entity) => by
      obtain ⟨hrow, hnorm⟩ :=
        Entity.forms_withZero (bindings.handler property.translator) entity
      simp only [FieldValue.cell, FieldValue.norm, Bindings.handler_withZero, hrow, hnorm,
        and_self]
  | property, .children entities | property, .maybeChildren (some entities) => by
      obtain ⟨hrows, hnorms⟩ :=
        Entity.eachForms_withZero (bindings.handler property.translator) entities
      simp only [FieldValue.cell, FieldValue.norm, Bindings.handler_withZero, hrows, hnorms,
        and_self]

/-- The same for the entities of a list. -/
theorem Entity.eachForms_withZero : ∀ (handler : Handler) (entities : List Entity),
    Entity.rows (bindings.withZero zero) handler entities
        = Entity.rows bindings handler entities ∧
      Entity.normEach (bindings.withZero zero) handler entities
        = Entity.normEach bindings handler entities
  | _, [] => ⟨rfl, rfl⟩
  | handler, entity :: rest => by
      obtain ⟨hrow, hnorm⟩ := Entity.forms_withZero handler entity
      obtain ⟨hrows, hnorms⟩ := Entity.eachForms_withZero handler rest
      simp only [Entity.rows, Entity.normEach, hrow, hnorm, hrows, hnorms, and_self]

end

/-- A value of a domain type stays one with other zero values. -/
theorem Entity.Meets.withZero {bindings : Bindings} (zero : StoredElement → Value)
    {demand : Demand} (honly : demand.DerivedOnly) {handler : Handler} {entity : Entity}
    (h : entity.Meets demand bindings handler) :
    entity.Meets demand (bindings.withZero zero) handler := by
  refine Entity.Meets.induction honly
    (motive := fun handler entity => entity.Meets demand (bindings.withZero zero) handler) ?_ h
  intro schema entity accepted hfields
  exact .of_fields accepted (hfields.imp fun _ _ hfield => ⟨hfield.1.toFits, hfield.2⟩)

end

/-! ### The round trip -/

/-- Every translator of a schema restores what it stores.

A value of an accepted schema, whose enumerations and texts can be restored,
has a record. What is read from the record is the normal form of the value: the
value with skipped fields at their defaults and with empty lists for absent
ones, at every depth. The normal form has the same record, so the next round is
exact. Neither depends on zero values. The same goes for lists. -/
theorem translator_restores (bindings : Bindings) (schema : Schema) :
    (∀ entity : Entity, entity.Meets (.restorable bindings) bindings (.derived schema) →
      ∃ row : Row,
        (Handler.translator bindings (.derived schema)).toRecord entity = .done row ∧
        (Handler.translator bindings (.derived schema)).read row
          = .done (entity.norm bindings (.derived schema)) ∧
        (Handler.translator bindings (.derived schema)).toRecord
          (entity.norm bindings (.derived schema)) = .done row ∧
        ∀ zero : StoredElement → Value,
          (Handler.translator (bindings.withZero zero) (.derived schema)).toRecord entity
            = .done row ∧
          (Handler.translator (bindings.withZero zero) (.derived schema)).read row
            = .done (entity.norm bindings (.derived schema))) ∧
    (∀ entities : List Entity,
      (∀ entity ∈ entities, entity.Meets (.restorable bindings) bindings (.derived schema)) →
      ∃ rows : List Row,
        (Handler.translator bindings (.derived schema)).toRecords entities = .done rows ∧
        (Handler.translator bindings (.derived schema)).fromRecords rows
          = .done (entities.map (Entity.norm bindings (.derived schema)))) := by
  have honly := Demand.derivedOnly_restorable bindings
  refine ⟨?_, ?_⟩
  · intro entity h
    refine ⟨entity.row bindings (.derived schema), toRecord_eq honly h, readRow_row h, ?_, ?_⟩
    · rw [toRecord_eq honly (h.norm honly), Entity.row_norm honly h]
    · intro zero
      obtain ⟨hrow, hnorm⟩ := Entity.forms_withZero bindings zero (.derived schema) entity
      -- Everything holds with the other zero values too, and their forms agree.
      have hzero := h.withZero zero honly
      rw [← hrow, ← hnorm]
      exact ⟨toRecord_eq honly hzero, readRow_row hzero⟩
  · intro entities h
    exact ⟨_, toRecords_eq honly h, fromRecords_rows h⟩

/-! ### A domain type with another one in it -/

namespace Sample

/-- The type with a name. -/
def named (name : String) : TypeExpr :=
  .path none false [] (.bare (.plain name))

/-- The type with a name and an argument. -/
def applied (name : String) (argument : TypeExpr) : TypeExpr :=
  .path none false [] (.mk (.plain name) (.angled false [.type argument] false))

/-- A field with options. -/
def field (options : List String) (name : String) (type : TypeExpr) : Field :=
  ⟨options.map fun option => ⟨false, [.plain "dao"], .list [.ident (.plain option)]⟩,
    some (.plain name), type⟩

/-- A declaration with fields. -/
def declared (name : String) (fields : List Field) : Declaration :=
  ⟨[], [], .plain name, false, false, .named fields⟩

/-- A property with one plain element. -/
def property (name : String) (type : TypeExpr) (scalar : ScalarClass) : Property where
  name := .plain name
  modelName := .plain name
  declared := type
  element := type
  kind := .primitive
  isArray := false
  isOptional := false
  scalar
  boxed := false
  doc := none

/-- A schema with its properties. -/
def schema (name : String) (skipped : List SkippedField) (properties : List Property) :
    Schema where
  name := .plain name
  visibility := []
  doc := none
  identity := .plain "id"
  identityModel := .plain "id"
  skipped
  properties
  record := .plain (name ++ "Record")
  translator := .plain (name ++ "Translator")
  typeAlias := .plain (name ++ "Dao")

/-- A leaf has a genre, and a hint that is skipped. -/
def leaf : Schema :=
  schema "Leaf" [⟨.plain "hint", named "u8"⟩] [
    { property "genre" (named "Genre") .other with kind := .stringEnum }]

/-- The kind of properties with leaves. -/
def leafKind : PropertyKind :=
  .nested (named "LeafRecord") (named "LeafTranslator")

/-- A branch has links, a number in a box, perhaps a first leaf, and leaves. -/
def branch : Schema :=
  schema "Branch" [] [
    { property "links" (named "Url") .url with
      declared := applied "Option" (applied "Vec" (named "Url"))
      isArray := true
      isOptional := true },
    { property "hits" (named "u32") .numeric with boxed := true },
    { property "first" (named "Leaf") .other with
      declared := applied "Option" (named "Leaf")
      kind := leafKind
      isOptional := true },
    { property "leaves" (named "Leaf") .other with
      declared := applied "Vec" (named "Leaf")
      kind := leafKind
      isArray := true }]

/-- The schema of leaves comes from a declaration. -/
theorem accepted_leaf : leaf.Accepted :=
  ⟨declared "Leaf" [field [] "id" (named "Identity"),
    field ["string_enum"] "genre" (named "Genre"), field ["skip"] "hint" (named "u8")], rfl⟩

/-- The schema of branches comes from a declaration. -/
theorem accepted_branch : branch.Accepted :=
  ⟨declared "Branch" [field [] "id" (named "Identity"),
    field [] "links" (applied "Option" (applied "Vec" (named "Url"))),
    field ["boxed"] "hits" (named "u32"),
    field ["nested"] "first" (applied "Option" (named "Leaf")),
    field ["nested"] "leaves" (applied "Vec" (named "Leaf"))], rfl⟩

/-- Leaves are translated by their schema. -/
def grove : Bindings where
  rawEnum _ := genre.rawEnum
  textForm _ := .ofLink
  zero _ := .integer 0
  defaultValue _ := .integer 0
  handler _ := .derived leaf

/-- A leaf of poetry. -/
def poetry (identity : Identity) : Entity :=
  .mk identity [.integer 7] [.one (.variant "Poetry")]

/-- A branch without links, whose first leaf has a given identity. -/
def twig (first : Identity) : Entity :=
  .mk ⟨"b"⟩ [] [.maybeMany none, .one (.integer 3), .maybeChild (some (poetry first)),
    .children [poetry ⟨"x"⟩]]

/-- A leaf can be restored. -/
theorem meets_poetry (identity : Identity) :
    (poetry identity).Meets (.restorable grove) grove (.derived leaf) := by
  refine .of_fields accepted_leaf (.cons ⟨⟨rfl, rfl, ?_⟩, ?_⟩ .nil)
  · simp only [FieldValue.elements, List.mem_singleton, forall_eq]
    show genre.rawEnum.ofRaw? _ = _
    rfl
  · simp

/-- A branch with two leaves can be restored. -/
theorem meets_twig (first : Identity) :
    (twig first).Meets (.restorable grove) grove (.derived branch) := by
  refine .of_fields accepted_branch (.cons ⟨⟨rfl, rfl, ?_⟩, ?_⟩ (.cons ⟨⟨rfl, rfl, ?_⟩, ?_⟩
    (.cons ⟨⟨rfl, rfl, ?_⟩, ?_⟩ (.cons ⟨⟨rfl, rfl, ?_⟩, ?_⟩ .nil))))
  · simp
  · simp
  · simp [Demand.restorable, property, PropertyKind.isEnum]
  · simp
  · simp
  · intro child hchild
    rw [List.mem_singleton.mp hchild]
    exact meets_poetry first
  · simp
  · intro child hchild
    rw [List.mem_singleton.mp hchild]
    exact meets_poetry ⟨"x"⟩

/-- The record of a branch whose first leaf has an identity, with a link and a genre
of that leaf. -/
def oldBranch (link genre : String) : Row :=
  .mk ⟨"b"⟩ [.list ⟨[.text link]⟩, .boxed .null,
    .row (some (.mk ⟨"l"⟩ [.optional (some (.text genre))])), .rows []]

/-- The record of an older branch is in shape. -/
theorem shaped_oldBranch (link genre : String) :
    (oldBranch link genre).Shaped grove (.derived branch) := by
  have hleaf : (Row.mk ⟨"l"⟩ [.optional (some (.text genre))]).Shaped grove (.derived leaf) :=
    .of_cells (.cons ⟨⟨rfl, rfl⟩, by simp [Cell.nested]⟩ .nil)
  refine .of_cells (.cons ⟨⟨rfl, rfl⟩, by simp [Cell.nested]⟩
    (.cons ⟨⟨rfl, rfl⟩, by simp [Cell.nested]⟩ (.cons ⟨⟨rfl, rfl⟩, ?_⟩
      (.cons ⟨⟨rfl, rfl⟩, by simp [Cell.nested]⟩ .nil))))
  intro child hchild
  rw [List.mem_singleton.mp hchild]
  exact hleaf

end Sample

/-- A branch is restored with an empty list of links, and with the hints of its
leaves at their default. -/
theorem translator_restores_twig :
    (Sample.twig .empty).norm Sample.grove (.derived Sample.branch)
      = .mk ⟨"b"⟩ [] [.maybeMany (some []), .one (.integer 3),
          .maybeChild (some (.mk .empty [.integer 0] [.one (.variant "Poetry")])),
          .children [.mk ⟨"x"⟩ [.integer 0] [.one (.variant "Poetry")]]] ∧
    ∃ row : Row,
      (Handler.translator Sample.grove (.derived Sample.branch)).toRecord (Sample.twig .empty)
        = .done row ∧
      (Handler.translator Sample.grove (.derived Sample.branch)).read row
        = .done ((Sample.twig .empty).norm Sample.grove (.derived Sample.branch)) := by
  obtain ⟨row, hstored, hread, _⟩ := (translator_restores Sample.grove Sample.branch).1
    (Sample.twig .empty) (Sample.meets_twig .empty)
  exact ⟨rfl, row, hstored, hread⟩

end Recordsmith

import Recordsmith.Proofs.Translate.Conform

/-!
# `Recordsmith.Proofs.Translate.Forms`: stored form, normal form, identities taken over

Four functions on entities, none of which reads or writes anything:

* `Entity.row` is the record of an entity, computed from the storage of each
  property alone. It does not look at the zero values of types.
* `Entity.norm` is what is left of an entity in its record: skipped fields go
  back to their default values, and an optional list that is absent becomes an
  empty one.
* `Entity.skeleton` and `Row.skeleton` keep the identities that a later write
  can take over: the own one, and those of the nested entities that are not in
  lists.
* `Entity.inherit` gives an entity the identities of a skeleton, as writing it
  over a record with that skeleton does. A nested entity takes over the
  identity that is stored for it unless it has one of its own.

The second half relates them: the record of an entity has its skeleton
(`skeleton_row`), its normal form is stored alike (`row_norm`), and taking over
identities and normalising commute (`norm_inherit`).
-/

set_option autoImplicit false

namespace Recordsmith

open Recordsmith.Source Recordsmith.Schema

/-! ### The stored form -/

namespace Schema.Storage

/-- The cell with one element. -/
def holdOne : Storage → Value → Cell
  | .plain, value => .plain value
  | .boxed, value => .boxed ⟨some value⟩
  | _, value => .optional (some value)

/-- The cell with one element or none. -/
def holdMaybe : Storage → Option Value → Cell
  | .boxed, value => .boxed ⟨value⟩
  | _, value => .optional value

end Schema.Storage

mutual

/-- The record of an entity. -/
def Entity.row (bindings : Bindings) (handler : Handler) : Entity → Row
  | .mk identity skipped fields =>
    match handler with
    | .custom translator =>
      (translator.write (.mk identity skipped fields)
        (seedIdentity translator.fresh identity)).state
    | .derived schema => .mk identity (FieldValue.cells bindings schema.properties fields)

/-- The cells of some fields. -/
def FieldValue.cells (bindings : Bindings) (properties : List Property) :
    List FieldValue → List Cell
  | [] => []
  | field :: fields =>
    match properties with
    | [] => []
    | property :: rest => field.cell bindings property :: FieldValue.cells bindings rest fields

/-- The cell of a field. -/
def FieldValue.cell (bindings : Bindings) (property : Property) : FieldValue → Cell
  | .one value => (Storage.of property).holdOne ((Transfer.of property).store bindings value)
  | .maybe value =>
    (Storage.of property).holdMaybe (value.map ((Transfer.of property).store bindings))
  | .many values => .list ⟨values.map ((Transfer.of property).store bindings)⟩
  | .maybeMany values =>
    .list ⟨(values.getD []).map ((Transfer.of property).store bindings)⟩
  | .child entity => .row (some (entity.row bindings (bindings.handler property.translator)))
  | .maybeChild none => .row none
  | .maybeChild (some entity) =>
    .row (some (entity.row bindings (bindings.handler property.translator)))
  | .children entities =>
    .rows (Entity.rows bindings (bindings.handler property.translator) entities)
  | .maybeChildren none => .rows []
  | .maybeChildren (some entities) =>
    .rows (Entity.rows bindings (bindings.handler property.translator) entities)

/-- The records of some entities. -/
def Entity.rows (bindings : Bindings) (handler : Handler) : List Entity → List Row
  | [] => []
  | entity :: rest => entity.row bindings handler :: Entity.rows bindings handler rest

end

/-! ### The normal form -/

mutual

/-- What is left of an entity in its record. -/
def Entity.norm (bindings : Bindings) (handler : Handler) : Entity → Entity
  | .mk identity skipped fields =>
    match handler with
    | .custom _ => .mk identity skipped fields
    | .derived schema =>
      .mk identity (schema.skipped.map fun field => bindings.defaultValue field.type)
        (FieldValue.normAll bindings schema.properties fields)

/-- What is left of some fields. -/
def FieldValue.normAll (bindings : Bindings) (properties : List Property) :
    List FieldValue → List FieldValue
  | [] => []
  | field :: fields =>
    match properties with
    | [] => []
    | property :: rest => field.norm bindings property :: FieldValue.normAll bindings rest fields

/-- What is left of a field. An optional list is always there. -/
def FieldValue.norm (bindings : Bindings) (property : Property) : FieldValue → FieldValue
  | .one value => .one value
  | .maybe value => .maybe value
  | .many values => .many values
  | .maybeMany values => .maybeMany (some (values.getD []))
  | .child entity => .child (entity.norm bindings (bindings.handler property.translator))
  | .maybeChild none => .maybeChild none
  | .maybeChild (some entity) =>
    .maybeChild (some (entity.norm bindings (bindings.handler property.translator)))
  | .children entities =>
    .children (Entity.normEach bindings (bindings.handler property.translator) entities)
  | .maybeChildren none => .maybeChildren (some [])
  | .maybeChildren (some entities) =>
    .maybeChildren (some
      (Entity.normEach bindings (bindings.handler property.translator) entities))

/-- What is left of some entities. -/
def Entity.normEach (bindings : Bindings) (handler : Handler) : List Entity → List Entity
  | [] => []
  | entity :: rest => entity.norm bindings handler :: Entity.normEach bindings handler rest

end

/-! ### Identities taken over -/

/-- The identities that a write can take over: the own one and, for each
property, those of a nested entity that is not in a list. -/
inductive Skeleton where
  | mk (identity : Identity) (parts : List (Option Skeleton))

namespace Skeleton

/-- The own identity. -/
def identity : Skeleton → Identity
  | .mk identity _ => identity

/-- The identities of nested entities. -/
def parts : Skeleton → List (Option Skeleton)
  | .mk _ parts => parts

/-- The identity of a skeleton that is made of one. -/
@[simp] theorem identity_mk (identity : Identity) (parts : List (Option Skeleton)) :
    (Skeleton.mk identity parts).identity = identity := rfl

/-- The parts of a skeleton that is made of them. -/
@[simp] theorem parts_mk (identity : Identity) (parts : List (Option Skeleton)) :
    (Skeleton.mk identity parts).parts = parts := rfl

/-- The identities that an entity is written over: the stored ones if they can
be those of the entity, else its own and nothing else. -/
def start (identity : Identity) (stored : Option Skeleton) : Skeleton :=
  match stored.filter fun skeleton => sameEntity skeleton.identity identity with
  | none => .mk identity []
  | some kept => if kept.identity.isEmpty then .mk identity kept.parts else kept

end Skeleton

mutual

/-- The identities in a record. -/
def Row.skeleton : Row → Skeleton
  | .mk identity cells => .mk identity (Cell.skeletons cells)

/-- The identities in some cells. -/
def Cell.skeletons : List Cell → List (Option Skeleton)
  | [] => []
  | cell :: cells => cell.skeleton? :: Cell.skeletons cells

/-- The identities in a cell. -/
def Cell.skeleton? : Cell → Option Skeleton
  | .row (some stored) => some stored.skeleton
  | _ => none

end

mutual

/-- The identities in an entity. -/
def Entity.skeleton : Entity → Skeleton
  | .mk identity _ fields => .mk identity (FieldValue.skeletons fields)

/-- The identities in some fields. -/
def FieldValue.skeletons : List FieldValue → List (Option Skeleton)
  | [] => []
  | field :: fields => field.skeleton? :: FieldValue.skeletons fields

/-- The identities in a field. -/
def FieldValue.skeleton? : FieldValue → Option Skeleton
  | .child entity => some entity.skeleton
  | .maybeChild (some entity) => some entity.skeleton
  | _ => none

end

mutual

/-- The entity with the identities of a record that it is written over. -/
def Entity.inherit (skeleton : Skeleton) : Entity → Entity
  | .mk _ skipped fields =>
    .mk skeleton.identity skipped (FieldValue.inheritAll skeleton.parts fields)

/-- Some fields with the identities of the cells that they are written over. -/
def FieldValue.inheritAll (parts : List (Option Skeleton)) :
    List FieldValue → List FieldValue
  | [] => []
  | field :: fields =>
    field.inherit parts.head?.join :: FieldValue.inheritAll parts.tail fields

/-- A field with the identities of the cell that it is written over. -/
def FieldValue.inherit (part : Option Skeleton) : FieldValue → FieldValue
  | .child entity => .child (entity.inherit (Skeleton.start entity.identity part))
  | .maybeChild (some entity) =>
    .maybeChild (some (entity.inherit (Skeleton.start entity.identity part)))
  | field => field

end

/-- The entity as it is after it has been written over an earlier one. -/
def Entity.fill (earlier : Option Entity) (entity : Entity) : Entity :=
  entity.inherit (Skeleton.start entity.identity (earlier.map Entity.skeleton))

attribute [simp] Entity.row FieldValue.cells FieldValue.cell Entity.norm FieldValue.normAll
  FieldValue.norm Row.skeleton Cell.skeleton? Entity.skeleton FieldValue.skeleton?
  Entity.inherit FieldValue.inheritAll FieldValue.inherit

/-! ### Lists of entities, fields and cells -/

/-- The records of some entities are those of each. -/
@[simp] theorem Entity.rows_eq_map (bindings : Bindings) (handler : Handler)
    (entities : List Entity) :
    Entity.rows bindings handler entities = entities.map (Entity.row bindings handler) := by
  induction entities with
  | nil => rfl
  | cons entity rest ih => rw [Entity.rows, ih, List.map_cons]

/-- The normal forms of some entities are those of each. -/
@[simp] theorem Entity.normEach_eq_map (bindings : Bindings) (handler : Handler)
    (entities : List Entity) :
    Entity.normEach bindings handler entities
      = entities.map (Entity.norm bindings handler) := by
  induction entities with
  | nil => rfl
  | cons entity rest ih => rw [Entity.normEach, ih, List.map_cons]

/-- The parts of a skeleton are those of each cell. -/
@[simp] theorem Cell.skeletons_eq_map (cells : List Cell) :
    Cell.skeletons cells = cells.map Cell.skeleton? := by
  induction cells with
  | nil => rfl
  | cons cell rest ih => rw [Cell.skeletons, ih, List.map_cons]

/-- The parts of a skeleton are those of each field. -/
@[simp] theorem FieldValue.skeletons_eq_map (fields : List FieldValue) :
    FieldValue.skeletons fields = fields.map FieldValue.skeleton? := by
  induction fields with
  | nil => rfl
  | cons field rest ih => rw [FieldValue.skeletons, ih, List.map_cons]

/-- An entity keeps its identity in its normal form. -/
@[simp] theorem Entity.identity_norm (bindings : Bindings) (handler : Handler)
    (entity : Entity) : (entity.norm bindings handler).identity = entity.identity := by
  cases entity
  cases handler <;> rfl

/-- The skeleton of a row has its identity. -/
@[simp] theorem Row.identity_skeleton (row : Row) : row.skeleton.identity = row.identity := by
  cases row
  rfl

/-- The skeleton of an entity has its identity. -/
@[simp] theorem Entity.identity_skeleton (entity : Entity) :
    entity.skeleton.identity = entity.identity := by
  cases entity
  rfl

/-! ### The storage of a property by its multiplicity -/

namespace Schema.Storage

variable {property : Property}

/-- A property that is a list is stored as one. -/
theorem of_eq_list (h : property.isArray = true) : Storage.of property = .list := by
  simp [Storage.of, h]

/-- Any other property is not. -/
theorem of_ne_list (h : property.isArray = false) : Storage.of property ≠ .list := by
  unfold Storage.of
  rw [if_neg (by simp [h])]
  split
  · simp
  · split
    · simp
    · split
      · split <;> simp
      · split <;> simp
    · simp

/-- A single optional element is stored in a box or as an option. -/
theorem of_optional (harray : property.isArray = false) (hoptional : property.isOptional = true) :
    Storage.of property = .boxed ∨ Storage.of property = .nullable := by
  unfold Storage.of
  rw [if_neg (by simp [harray])]
  split
  · exact .inl rfl
  · split
    · exact .inl rfl
    · split
      · exact .inl rfl
      · exact .inr rfl
    · exact .inr rfl

end Schema.Storage

/-! ### The skeleton of a record -/

section

variable {demand : Demand} {bindings : Bindings}

/-- An element has no identity to keep. -/
@[simp] theorem Schema.Storage.skeleton?_holdOne (storage : Storage) (value : Value) :
    (storage.holdOne value).skeleton? = none := by
  cases storage <;> rfl

/-- Nor has one that may be absent. -/
@[simp] theorem Schema.Storage.skeleton?_holdMaybe (storage : Storage) (value : Option Value) :
    (storage.holdMaybe value).skeleton? = none := by
  cases storage <;> rfl

/-- The cell of a field keeps its identities if the rows of nested entities keep theirs. -/
theorem FieldValue.skeleton?_cell {property : Property} {field : FieldValue}
    (hchild : ∀ child ∈ field.nested,
      (child.row bindings (bindings.handler property.translator)).skeleton = child.skeleton) :
    (field.cell bindings property).skeleton? = field.skeleton? := by
  cases field with
  | child entity =>
      simp only [FieldValue.cell, Cell.skeleton?, FieldValue.skeleton?]
      rw [hchild entity (by simp)]
  | maybeChild entity =>
      cases entity with
      | none => rfl
      | some entity =>
          simp only [FieldValue.cell, Cell.skeleton?, FieldValue.skeleton?]
          rw [hchild entity (by simp)]
  | maybeChildren entities => cases entities <;> rfl
  | _ => simp [FieldValue.cell, Cell.skeleton?, FieldValue.skeleton?]

/-- The record of an entity has the identities of the entity. -/
theorem Entity.skeleton_row (honly : demand.DerivedOnly) {handler : Handler} {entity : Entity}
    (h : entity.Meets demand bindings handler) :
    (entity.row bindings handler).skeleton = entity.skeleton := by
  refine Entity.Meets.induction honly
    (motive := fun handler entity => (entity.row bindings handler).skeleton = entity.skeleton)
    ?_ h
  rintro schema ⟨identity, skipped, fields⟩ _ hfields
  simp only [Entity.row, Row.skeleton, Entity.skeleton, Cell.skeletons_eq_map,
    FieldValue.skeletons_eq_map, Skeleton.mk.injEq, true_and]
  simp only [Entity.fields] at hfields
  -- The fields are gone through with their properties, here and in what follows.
  generalize schema.properties = properties at hfields ⊢
  induction hfields with
  | nil => rfl
  | cons hfield _ ih =>
      rw [FieldValue.cells, List.map_cons, List.map_cons, ih,
        FieldValue.skeleton?_cell hfield.2]

/-! ### The form of a record -/

/-- A property is a list if its fields may have many elements. -/
theorem Schema.Property.isArray_of_multiplicity {property : Property} {m : Multiplicity}
    (h : m = property.multiplicity) :
    property.isArray = (m == .many || m == .maybeMany) := by
  subst h
  unfold Property.multiplicity
  cases property.isArray <;> cases property.isOptional <;> rfl

/-- A property is optional if its fields may be absent. -/
theorem Schema.Property.isOptional_of_multiplicity {property : Property} {m : Multiplicity}
    (h : m = property.multiplicity) :
    property.isOptional = (m == .maybe || m == .maybeMany) := by
  subst h
  unfold Property.multiplicity
  cases property.isArray <;> cases property.isOptional <;> rfl

/-- The cell of a field that fits a property has the form of it. -/
theorem FieldValue.hasForm_cell {property : Property} {field : FieldValue}
    (h : field.Fits demand property) : (field.cell bindings property).HasForm property := by
  have hnested := h.isNested_eq.symm
  have harray := Property.isArray_of_multiplicity h.multiplicity_eq
  have hoptional := Property.isOptional_of_multiplicity h.multiplicity_eq
  cases field with
  | one value =>
      have hlist := Storage.of_ne_list harray
      -- One element that has to be there is stored in any way but as a list.
      cases hstorage : Storage.of property with
      | list => exact absurd hstorage hlist
      | _ => simp [FieldValue.cell, hstorage, Storage.holdOne, Cell.HasForm, hnested, isNested]
  | maybe value =>
      rcases Storage.of_optional harray hoptional with hstorage | hstorage <;>
        simp [FieldValue.cell, hstorage, Storage.holdMaybe, Cell.HasForm, hnested, isNested]
  | many values => exact ⟨hnested, Storage.of_eq_list harray⟩
  | maybeMany values => exact ⟨hnested, Storage.of_eq_list harray⟩
  | child entity => exact ⟨hnested, harray⟩
  | maybeChild entity => cases entity <;> exact ⟨hnested, harray⟩
  | children entities => exact ⟨hnested, harray⟩
  | maybeChildren entities => cases entities <;> exact ⟨hnested, harray⟩

/-- The rows in the cell of a field are those of its entities. -/
theorem FieldValue.nested_cell (bindings : Bindings) (property : Property) (field : FieldValue) :
    (field.cell bindings property).nested
      = field.nested.map (Entity.row bindings (bindings.handler property.translator)) := by
  cases field with
  | one value => cases hstorage : Storage.of property <;> simp [FieldValue.cell, hstorage,
      Storage.holdOne, Cell.nested, FieldValue.nested]
  | maybe value => cases hstorage : Storage.of property <;> simp [FieldValue.cell, hstorage,
      Storage.holdMaybe, Cell.nested, FieldValue.nested]
  | maybeChild entity => cases entity <;> simp [FieldValue.cell, Cell.nested, FieldValue.nested]
  | maybeChildren entities =>
      cases entities <;> simp [FieldValue.cell, Cell.nested, FieldValue.nested]
  | _ => simp [FieldValue.cell, Cell.nested, FieldValue.nested]

/-- The record of an entity has the form of its domain type. -/
theorem Entity.shaped_row (honly : demand.DerivedOnly) {handler : Handler} {entity : Entity}
    (h : entity.Meets demand bindings handler) :
    (entity.row bindings handler).Shaped bindings handler := by
  -- Induction over nested entities. All translators are those of schemas, so no case is left to
  -- others.
  refine Entity.Meets.induction honly
    (motive := fun handler entity => (entity.row bindings handler).Shaped bindings handler)
    ?_ h
  rintro schema ⟨identity, skipped, fields⟩ _ hfields
  refine .of_cells ?_
  simp only [Entity.row, Row.cells, Entity.fields] at hfields ⊢
  generalize schema.properties = properties at hfields ⊢
  induction hfields with
  | nil => exact .nil
  | cons hfield _ ih =>
      refine .cons ⟨FieldValue.hasForm_cell hfield.1.toFits, ?_⟩ ih
      rw [FieldValue.nested_cell]
      intro row hrow
      obtain ⟨child, hchild, rfl⟩ := List.mem_map.mp hrow
      exact hfield.2 child hchild

/-! ### Normal forms -/

/-- The normal form of a field is nested if the field is. -/
@[simp] theorem FieldValue.isNested_norm (bindings : Bindings) (property : Property)
    (field : FieldValue) : (field.norm bindings property).isNested = field.isNested := by
  cases field with
  | maybeChild entity => cases entity <;> rfl
  | maybeChildren entities => cases entities <;> rfl
  | _ => rfl

/-- The normal form of a field has as many elements as the field may have. -/
@[simp] theorem FieldValue.multiplicity_norm (bindings : Bindings) (property : Property)
    (field : FieldValue) :
    (field.norm bindings property).multiplicity = field.multiplicity := by
  cases field with
  | maybeChild entity => cases entity <;> rfl
  | maybeChildren entities => cases entities <;> rfl
  | _ => rfl

/-- The normal form of a field has its elements. -/
@[simp] theorem FieldValue.elements_norm (bindings : Bindings) (property : Property)
    (field : FieldValue) : (field.norm bindings property).elements = field.elements := by
  cases field with
  | maybeChild entity => cases entity <;> rfl
  | maybeChildren entities => cases entities <;> rfl
  | _ => rfl

/-- The entities in the normal form of a field are the normal forms of its entities. -/
@[simp] theorem FieldValue.nested_norm (bindings : Bindings) (property : Property)
    (field : FieldValue) :
    (field.norm bindings property).nested
      = field.nested.map (Entity.norm bindings (bindings.handler property.translator)) := by
  cases field with
  | maybeChild entity => cases entity <;> rfl
  | maybeChildren entities => cases entities <;> simp [FieldValue.nested]
  | _ => simp [FieldValue.nested]

/-- The normal form of a value of a domain type is one too. -/
theorem Entity.Meets.norm (honly : demand.DerivedOnly) {handler : Handler} {entity : Entity}
    (h : entity.Meets demand bindings handler) :
    (entity.norm bindings handler).Meets demand bindings handler := by
  refine Entity.Meets.induction honly
    (motive := fun handler entity => (entity.norm bindings handler).Meets demand bindings handler)
    ?_ h
  rintro schema ⟨identity, skipped, fields⟩ accepted hfields
  refine .of_fields accepted ?_
  simp only [Entity.norm, Entity.fields] at hfields ⊢
  generalize schema.properties = properties at hfields ⊢
  -- The fields are gone through beside their properties, with the claim for nested entities at
  -- hand.
  induction hfields with
  | nil => exact .nil
  | @cons property field _ _ hfield _ ih =>
      have hfits := hfield.1.toFits
      refine .cons ⟨⟨?_, ?_, ?_⟩, ?_⟩ ih
      · rw [FieldValue.isNested_norm, hfits.isNested_eq]
      · rw [FieldValue.multiplicity_norm, hfits.multiplicity_eq]
      · rw [FieldValue.elements_norm]
        exact hfits.elements_meet
      · rw [FieldValue.nested_norm]
        intro child hchild
        obtain ⟨original, horiginal, rfl⟩ := List.mem_map.mp hchild
        exact hfield.2 original horiginal

/-- The normal form of a field is stored alike if those of its entities are. -/
theorem FieldValue.cell_norm {property : Property} {field : FieldValue}
    (hchild : ∀ child ∈ field.nested,
      (child.norm bindings (bindings.handler property.translator)).row bindings
        (bindings.handler property.translator)
        = child.row bindings (bindings.handler property.translator)) :
    (field.norm bindings property).cell bindings property = field.cell bindings property := by
  -- Only what is nested is normalised, and only an absent list changes, to an empty one that is
  -- stored alike.
  cases field with
  | child entity =>
      simp only [FieldValue.norm, FieldValue.cell]
      rw [hchild entity (by simp)]
  | maybeChild entity =>
      cases entity with
      | none => rfl
      | some entity =>
          simp only [FieldValue.norm, FieldValue.cell]
          rw [hchild entity (by simp)]
  | children entities =>
      simp only [FieldValue.norm, FieldValue.cell, Entity.rows_eq_map, Entity.normEach_eq_map,
        List.map_map, Cell.rows.injEq]
      exact List.map_congr_left hchild
  | maybeChildren entities =>
      cases entities with
      | none => rfl
      | some entities =>
          simp only [FieldValue.norm, FieldValue.cell, Entity.rows_eq_map,
            Entity.normEach_eq_map, List.map_map, Cell.rows.injEq]
          exact List.map_congr_left hchild
  | _ => rfl

/-- The normal form of an entity is stored as the entity is. -/
theorem Entity.row_norm (honly : demand.DerivedOnly) {handler : Handler} {entity : Entity}
    (h : entity.Meets demand bindings handler) :
    (entity.norm bindings handler).row bindings handler = entity.row bindings handler := by
  refine Entity.Meets.induction honly
    (motive := fun handler entity =>
      (entity.norm bindings handler).row bindings handler = entity.row bindings handler)
    ?_ h
  rintro schema ⟨identity, skipped, fields⟩ _ hfields
  simp only [Entity.norm, Entity.row, Row.mk.injEq, true_and, Entity.fields] at hfields ⊢
  generalize schema.properties = properties at hfields ⊢
  induction hfields with
  | nil => rfl
  | cons hfield _ ih =>
      rw [FieldValue.normAll, FieldValue.cells, FieldValue.cells, ih,
        FieldValue.cell_norm hfield.2]

/-- The normal form of a field keeps its identities if those of its entities keep theirs. -/
theorem FieldValue.skeleton?_norm {property : Property} {field : FieldValue}
    (hchild : ∀ child ∈ field.nested,
      (child.norm bindings (bindings.handler property.translator)).skeleton = child.skeleton) :
    (field.norm bindings property).skeleton? = field.skeleton? := by
  cases field with
  | child entity =>
      simp only [FieldValue.norm, FieldValue.skeleton?]
      rw [hchild entity (by simp)]
  | maybeChild entity =>
      cases entity with
      | none => rfl
      | some entity =>
          simp only [FieldValue.norm, FieldValue.skeleton?]
          rw [hchild entity (by simp)]
  | maybeChildren entities => cases entities <;> rfl
  | _ => rfl

/-- The normal form of an entity has the identities of the entity. -/
theorem Entity.skeleton_norm (honly : demand.DerivedOnly) {handler : Handler} {entity : Entity}
    (h : entity.Meets demand bindings handler) :
    (entity.norm bindings handler).skeleton = entity.skeleton := by
  refine Entity.Meets.induction honly
    (motive := fun handler entity => (entity.norm bindings handler).skeleton = entity.skeleton)
    ?_ h
  rintro schema ⟨identity, skipped, fields⟩ _ hfields
  simp only [Entity.norm, Entity.skeleton, FieldValue.skeletons_eq_map, Skeleton.mk.injEq,
    true_and, Entity.fields] at hfields ⊢
  generalize schema.properties = properties at hfields ⊢
  induction hfields with
  | nil => rfl
  | cons hfield _ ih =>
      rw [FieldValue.normAll, List.map_cons, List.map_cons, ih,
        FieldValue.skeleton?_norm hfield.2]

/-! ### Identities taken over -/

/-- A field that takes over identities is nested if it was before. -/
@[simp] theorem FieldValue.isNested_inherit (part : Option Skeleton) (field : FieldValue) :
    (field.inherit part).isNested = field.isNested := by
  cases field with
  | maybeChild entity => cases entity <;> rfl
  | _ => rfl

/-- A field that takes over identities may have as many elements as before. -/
@[simp] theorem FieldValue.multiplicity_inherit (part : Option Skeleton) (field : FieldValue) :
    (field.inherit part).multiplicity = field.multiplicity := by
  cases field with
  | maybeChild entity => cases entity <;> rfl
  | _ => rfl

/-- A field that takes over identities has the elements that it had. -/
@[simp] theorem FieldValue.elements_inherit (part : Option Skeleton) (field : FieldValue) :
    (field.inherit part).elements = field.elements := by
  cases field with
  | maybeChild entity => cases entity <;> rfl
  | _ => rfl

/-- A field without entities takes over nothing. -/
theorem FieldValue.inherit_of_nested_nil {part : Option Skeleton} {field : FieldValue}
    (h : field.nested = []) : field.inherit part = field := by
  cases field with
  | child entity => cases h
  | maybeChild entity =>
      cases entity with
      | none => rfl
      | some entity => cases h
  | _ => rfl

/-- Each entity in a field with identities taken over was there before, perhaps
with other identities. -/
theorem FieldValue.mem_nested_inherit {part : Option Skeleton} {field : FieldValue}
    {child : Entity} (h : child ∈ (field.inherit part).nested) :
    ∃ original ∈ field.nested,
      child = original ∨ ∃ skeleton, child = original.inherit skeleton := by
  cases field with
  | child original =>
      exact ⟨original, by simp, .inr ⟨_, List.mem_singleton.mp h⟩⟩
  | maybeChild original =>
      cases original with
      | none => cases h
      | some original =>
          exact ⟨original, by simp, .inr ⟨_, List.mem_singleton.mp h⟩⟩
  | _ => exact ⟨child, h, .inl rfl⟩

/-- An entity of a domain type stays one with other identities. -/
theorem Entity.Meets.inherit (honly : demand.DerivedOnly) {handler : Handler} {entity : Entity}
    (h : entity.Meets demand bindings handler) (skeleton : Skeleton) :
    (entity.inherit skeleton).Meets demand bindings handler := by
  refine Entity.Meets.induction honly
    (motive := fun handler entity => ∀ skeleton : Skeleton,
      (entity.inherit skeleton).Meets demand bindings handler) ?_ h skeleton
  rintro schema ⟨identity, skipped, fields⟩ accepted hfields ⟨_, parts⟩
  refine .of_fields accepted ?_
  simp only [Entity.inherit, Skeleton.parts_mk, Entity.fields] at hfields ⊢
  generalize schema.properties = properties at hfields ⊢
  induction hfields generalizing parts with
  | nil => exact .nil
  | @cons property field _ _ hfield _ ih =>
      have hfits := hfield.1.toFits
      refine .cons ⟨⟨?_, ?_, ?_⟩, ?_⟩ (ih parts.tail)
      · rw [FieldValue.isNested_inherit, hfits.isNested_eq]
      · rw [FieldValue.multiplicity_inherit, hfits.multiplicity_eq]
      · rw [FieldValue.elements_inherit]
        exact hfits.elements_meet
      · intro child hchild
        -- Entities in lists stay as they are, others take identities over.
        obtain ⟨original, horiginal, rfl | ⟨taken, rfl⟩⟩ := FieldValue.mem_nested_inherit hchild
        · exact hfield.1.nested_meet child horiginal
        · exact hfield.2 original horiginal taken

/-- Taking over identities and normalising commute for a field if they do for its entities. -/
theorem FieldValue.norm_inherit {property : Property} {field : FieldValue}
    (part : Option Skeleton)
    (hchild : ∀ child ∈ field.nested, ∀ skeleton,
      (child.inherit skeleton).norm bindings (bindings.handler property.translator)
        = (child.norm bindings (bindings.handler property.translator)).inherit skeleton) :
    (field.inherit part).norm bindings property = (field.norm bindings property).inherit part := by
  -- Entities in lists take over nothing, so only single ones have to be looked at.
  cases field with
  | child entity =>
      simp only [FieldValue.inherit, FieldValue.norm, Entity.identity_norm]
      rw [hchild entity (by simp)]
  | maybeChild entity =>
      cases entity with
      | none => rfl
      | some entity =>
          simp only [FieldValue.inherit, FieldValue.norm, Entity.identity_norm]
          rw [hchild entity (by simp)]
  | maybeChildren entities => cases entities <;> rfl
  | _ => rfl

/-- Taking over identities and normalising can be done in either order. -/
theorem Entity.norm_inherit (honly : demand.DerivedOnly) {handler : Handler} {entity : Entity}
    (h : entity.Meets demand bindings handler) (skeleton : Skeleton) :
    (entity.inherit skeleton).norm bindings handler
      = (entity.norm bindings handler).inherit skeleton := by
  refine Entity.Meets.induction honly
    (motive := fun handler entity => ∀ skeleton,
      (entity.inherit skeleton).norm bindings handler
        = (entity.norm bindings handler).inherit skeleton) ?_ h skeleton
  rintro schema ⟨identity, skipped, fields⟩ _ hfields ⟨_, parts⟩
  simp only [Entity.inherit, Entity.norm, Skeleton.parts_mk, Entity.mk.injEq, true_and,
    Entity.fields] at hfields ⊢
  generalize schema.properties = properties at hfields ⊢
  -- The parts of the skeleton are taken from its front, one for each field.
  induction hfields generalizing parts with
  | nil => rfl
  | cons hfield _ ih =>
      rw [FieldValue.normAll, FieldValue.inheritAll, FieldValue.inheritAll, FieldValue.normAll,
        ih parts.tail, FieldValue.norm_inherit _ hfield.2]

/-- Where no identities are stored for nested entities, it does not matter how
many places there are for them. -/
theorem FieldValue.inheritAll_none {parts : List (Option Skeleton)}
    (h : ∀ part ∈ parts, part = none) (fields : List FieldValue) :
    FieldValue.inheritAll parts fields = FieldValue.inheritAll [] fields := by
  induction fields generalizing parts with
  | nil => rfl
  | cons field rest ih =>
      rw [FieldValue.inheritAll, FieldValue.inheritAll]
      cases parts with
      | nil => rfl
      | cons part tail =>
          rw [h part List.mem_cons_self]
          simp only [List.head?_cons, List.tail_cons, List.head?_nil, List.tail_nil,
            Option.join_some, Option.join_none]
          rw [ih fun part hmem => h part (List.mem_cons_of_mem _ hmem)]

mutual

/-- An entity that takes over nothing stays as it is. -/
theorem Entity.inherit_own : ∀ entity : Entity, entity.inherit (.mk entity.identity []) = entity
  | .mk identity skipped fields => by
      rw [Entity.inherit]
      simp only [Skeleton.identity_mk, Entity.identity, Skeleton.parts_mk]
      rw [FieldValue.inheritAll_nil fields]

/-- Fields that take over nothing stay as they are. -/
theorem FieldValue.inheritAll_nil : ∀ fields : List FieldValue,
    FieldValue.inheritAll [] fields = fields
  | [] => rfl
  | field :: fields => by
      rw [FieldValue.inheritAll, List.tail_nil, FieldValue.inheritAll_nil fields]
      simp only [List.head?_nil, Option.join_none]
      rw [FieldValue.inherit_none field]

/-- A field that takes over nothing stays as it is. -/
theorem FieldValue.inherit_none : ∀ field : FieldValue, field.inherit none = field
  | .child entity => by
      simp only [FieldValue.inherit, Skeleton.start, Option.filter_none]
      rw [Entity.inherit_own entity]
  | .maybeChild (some entity) => by
      simp only [FieldValue.inherit, Skeleton.start, Option.filter_none]
      rw [Entity.inherit_own entity]
  | .maybeChild none | .one _ | .maybe _ | .many _ | .maybeMany _ | .children _
  | .maybeChildren _ => rfl

end

end

end Recordsmith

import Recordsmith.Proofs.Translate.Forms

/-!
# `Recordsmith.Proofs.Translate.Writing`: what writing an entity leaves in a record

Writing a value of a domain type over a record of that type never fails, as
long as all translators down to any depth are those of schemas, and what it
leaves is known in full (`writeRow_eq`): the stored form of the entity, with
the identities that the record had. So of the old record nothing but its
skeleton matters.

`refresh_eq` and `toRecord_eq` say the same of the two ways to make a record.
For a fresh record nothing is taken over and the record is `Entity.row`.
-/

set_option autoImplicit false

namespace Recordsmith

open Recordsmith.Source Recordsmith.Schema

/-! ### Steps that cannot fail -/

namespace Step

variable {σ τ α : Type}

/-- A step that is done leaves its state. -/
@[simp] theorem state_done (state : σ) (value : α) : (Step.done state value).state = state := rfl

/-- A step that is done reports nothing. -/
@[simp] theorem log_done (state : σ) (value : α) : (Step.done state value).log = [] := rfl

/-- A step that is done does not fail. -/
@[simp] theorem result_done (state : σ) (value : α) :
    (Step.done state value).result = .ok value := rfl

/-- A step that is done is done inside of anything. -/
@[simp] theorem within_done (state : σ) (value : α) (put : σ → τ) :
    (Step.done state value).within put = Step.done (put state) value := rfl

/-- Nothing before a step leaves it as it is. -/
@[simp] theorem after_nil (step : Step σ α) : step.after [] = step := rfl

end Step

namespace Run

variable {α β : Type}

/-- A run that is done goes on with its value. -/
@[simp] theorem done_bind (value : α) (next : α → Run β) :
    (Run.done value >>= next) = next value := rfl

/-- A value alone is a run that is done. -/
@[simp] theorem pure_eq_done (value : α) : (pure value : Run α) = Run.done value := rfl

end Run

/-! ### The plans of a property -/

namespace Schema.WritePlan

variable {property : Property}

/-- How a nested property is written depends on how many entities there may be. -/
theorem of_nested (h : property.isNested = true) :
    WritePlan.of property =
      if property.isArray then .nestedList property.translator property.isOptional
      else if property.isOptional then .nestedOptional property.translator
      else .nestedRequired property.translator := by
  unfold WritePlan.of
  cases hkind : property.kind with
  | nested _ _ => simp [Property.translator, hkind]
  | _ => simp [Property.isNested, hkind] at h

/-- How any other property is written depends on its storage and on whether it is optional. -/
theorem of_scalar (h : property.isNested = false) :
    WritePlan.of property =
      match Storage.of property with
      | .list => .list (Transfer.of property) property.isOptional
      | .plain => .plain (Transfer.of property)
      | .boxed =>
        if property.isOptional then .boxOptional (Transfer.of property)
        else .boxSet (Transfer.of property)
      | .nullable =>
        if property.isOptional then .optional (Transfer.of property)
        else .present (Transfer.of property) := by
  unfold WritePlan.of
  cases hkind : property.kind with
  | nested _ _ => simp [Property.isNested, hkind] at h
  | _ => rfl

end Schema.WritePlan

/-! ### The record that a nested entity is written over -/

section

variable {demand : Demand} {bindings : Bindings}

/-- There are no identities in a fresh cell. -/
theorem skeleton?_freshCell (bindings : Bindings) (property : Property) :
    (freshCell bindings property).skeleton? = none := by
  unfold freshCell
  split
  · split <;> rfl
  · split <;> rfl

/-- A new identity changes the skeleton of a row at its top only. -/
theorem Row.skeleton_withIdentity (row : Row) (identity : Identity) :
    (row.withIdentity identity).skeleton = .mk identity row.skeleton.parts := by
  cases row
  rfl

/-- A fresh record has no nested records. -/
theorem Handler.parts_fresh (bindings : Bindings) (schema : Schema) :
    ∀ part ∈ (Handler.fresh bindings (.derived schema)).skeleton.parts, part = none := by
  intro part hpart
  simp only [Handler.fresh, Row.skeleton, Skeleton.parts_mk, Cell.skeletons_eq_map,
    List.map_map] at hpart
  obtain ⟨property, _, rfl⟩ := List.mem_map.mp hpart
  exact skeleton?_freshCell bindings property

/-- The record that an entity is written over is the stored one or a fresh one, up
to its identity. -/
theorem startRow_preserves {holds : Row → Prop} {fresh : Row} {existing : Option Row}
    (identity : Identity) (hidentity : ∀ row, holds row → holds (row.withIdentity identity))
    (hfresh : holds fresh) (h : ∀ row ∈ existing, holds row) :
    holds (startRow fresh identity existing) := by
  have hbase : holds ((existing.filter fun row => sameEntity row.identity identity).getD
      fresh) := by
    cases hkept : existing.filter fun row => sameEntity row.identity identity with
    | none => exact hfresh
    | some row => exact h row (Option.mem_def.mpr (Option.filter_eq_some_iff.mp hkept).1)
  -- Seeding changes nothing but the identity.
  show holds (seedIdentity _ identity)
  unfold seedIdentity
  split
  · exact hidentity _ hbase
  · exact hbase

/-- The record that an entity is written over has the form of its domain type,
if the stored one has. -/
theorem shaped_startRow {handler : Handler} {existing : Option Row} (identity : Identity)
    (h : ∀ row ∈ existing, row.Shaped bindings handler) :
    (startRow (handler.fresh bindings) identity existing).Shaped bindings handler :=
  startRow_preserves identity (fun _ hrow => hrow.withIdentity identity)
    (shaped_fresh bindings handler) h

/-- What an entity takes over from the record that it is written over. -/
theorem Entity.inherit_startRow (bindings : Bindings) (schema : Schema) (entity : Entity)
    (identity : Identity) (existing : Option Row) :
    entity.inherit
        (startRow (Handler.fresh bindings (.derived schema)) identity existing).skeleton
      = entity.inherit (Skeleton.start identity (existing.map Row.skeleton)) := by
  -- Both sides choose by the identity, so they choose the same record.
  have hfilter : (existing.map Row.skeleton).filter
        (fun skeleton => sameEntity skeleton.identity identity)
      = (existing.filter fun row => sameEntity row.identity identity).map Row.skeleton := by
    cases existing with
    | none => rfl
    | some row =>
        simp only [Option.map_some, Option.filter_some, Row.identity_skeleton]
        split <;> rfl
  unfold startRow Skeleton.start
  rw [hfilter]
  cases existing.filter fun row => sameEntity row.identity identity with
  | none =>
      -- A fresh record: its cells hold no nested record, so nothing is taken over.
      cases entity
      have hseed : (Handler.fresh bindings (.derived schema)).identity.isEmpty = true := rfl
      simp only [Option.getD_none, seedIdentity, hseed, if_true, Row.skeleton_withIdentity,
        Option.map_none, Entity.inherit, Skeleton.identity_mk, Skeleton.parts_mk]
      rw [FieldValue.inheritAll_none (Handler.parts_fresh bindings schema)]
  | some row =>
      simp only [Option.getD_some, seedIdentity, Option.map_some, Row.identity_skeleton]
      split
      · rw [Row.skeleton_withIdentity]
      · rfl

/-! ### Writing fields -/

/-- The storage of a property that is not nested says which cell it has. -/
theorem Cell.HasForm.eq_of_storage {property : Property} {cell : Cell}
    (h : cell.HasForm property) (hscalar : property.isNested = false) :
    match Storage.of property with
    | .plain => ∃ value, cell = .plain value
    | .boxed => ∃ box, cell = .boxed box
    | .nullable => ∃ value, cell = .optional value
    | .list => ∃ items, cell = .list items := by
  cases cell with
  | row stored => exact absurd h.1 (by simp [hscalar])
  | rows stored => exact absurd h.1 (by simp [hscalar])
  | _ =>
      rw [h.2]
      exact ⟨_, rfl⟩

/-- A single nested property has a cell for one record. -/
theorem Cell.HasForm.eq_row {property : Property} {cell : Cell} (h : cell.HasForm property)
    (hnested : property.isNested = true) (harray : property.isArray = false) :
    ∃ stored, cell = .row stored := by
  cases cell with
  | row stored => exact ⟨stored, rfl⟩
  | rows stored => exact absurd h.2 (by simp [harray])
  | _ => exact absurd h.1 (by simp [hnested])

/-- A nested list has a cell for any number of records. -/
theorem Cell.HasForm.eq_rows {property : Property} {cell : Cell} (h : cell.HasForm property)
    (hnested : property.isNested = true) (harray : property.isArray = true) :
    ∃ stored, cell = .rows stored := by
  cases cell with
  | rows stored => exact ⟨stored, rfl⟩
  | row stored => exact absurd h.2 (by simp [harray])
  | _ => exact absurd h.1 (by simp [hnested])

/-- A field of values is written as its stored form. -/
theorem writeScalar_eq {property : Property} {field : FieldValue} {cell : Cell} (label : String)
    (hfield : field.Fits demand property) (hscalar : field.isNested = false)
    (hcell : cell.HasForm property) :
    writeScalar bindings label (WritePlan.of property) field cell
      = .done (field.cell bindings property) () := by
  have hnested : property.isNested = false := by rw [← hfield.isNested_eq, hscalar]
  have harray := Property.isArray_of_multiplicity hfield.multiplicity_eq
  have hoptional := Property.isOptional_of_multiplicity hfield.multiplicity_eq
  have hform := hcell.eq_of_storage hnested
  rw [WritePlan.of_scalar hnested]
  -- The field says whether the plan is for an option, the storage which cell there is.
  cases field with
  | one value =>
      have hlist := Storage.of_ne_list harray
      cases hstorage : Storage.of property with
      | list => exact absurd hstorage hlist
      | _ =>
          rw [hstorage] at hform
          obtain ⟨stored, rfl⟩ := hform
          rw [hoptional]
          simp only [FieldValue.cell, hstorage]
          rfl
  | maybe value =>
      rcases Storage.of_optional harray hoptional with hstorage | hstorage <;>
      · rw [hstorage] at hform
        obtain ⟨stored, rfl⟩ := hform
        rw [hoptional]
        simp only [FieldValue.cell, hstorage]
        rfl
  | many values =>
      have hstorage := Storage.of_eq_list harray
      rw [hstorage] at hform
      obtain ⟨stored, rfl⟩ := hform
      rw [hoptional, hstorage]
      rfl
  | maybeMany values =>
      have hstorage := Storage.of_eq_list harray
      rw [hstorage] at hform
      obtain ⟨stored, rfl⟩ := hform
      rw [hoptional, hstorage]
      rfl
  | child _ | maybeChild _ | children _ | maybeChildren _ => cases hscalar

/-- What writing a field comes down to. Values and absent entities are stored at
once, a nested entity is written over the record in the cell or over a fresh one,
and the entities of a list are written over fresh records. -/
theorem writeField_cases {property : Property} {field : FieldValue} {cell : Cell}
    (label : String) (hfield : field.Fits demand property) (hcell : cell.HasForm property) :
    (field.nested = [] ∧
      writeField bindings label (WritePlan.of property) field cell
        = .done (field.cell bindings property) ()) ∨
    (∃ entity stored, (field = .child entity ∨ field = .maybeChild (some entity)) ∧
      cell = .row stored ∧
      writeField bindings label (WritePlan.of property) field cell
        = refreshedCell (writeRow bindings (bindings.handler property.translator) entity
            (startRow ((bindings.handler property.translator).fresh bindings) entity.identity
              stored))) ∨
    (∃ entities stored, (field = .children entities ∨ field = .maybeChildren (some entities)) ∧
      cell = .rows stored ∧
      writeField bindings label (WritePlan.of property) field cell
        = refilledCell (writeRows bindings (bindings.handler property.translator) entities)) := by
  have harray := Property.isArray_of_multiplicity hfield.multiplicity_eq
  have hoptional := Property.isOptional_of_multiplicity hfield.multiplicity_eq
  have hnested := hfield.isNested_eq.symm
  -- The form of the field fixes the plan and the cell, and the rest computes.
  cases field with
  | one _ | maybe _ | many _ | maybeMany _ =>
      exact .inl ⟨rfl, writeScalar_eq label hfield rfl hcell⟩
  | child entity =>
      obtain ⟨stored, rfl⟩ := hcell.eq_row hnested harray
      rw [WritePlan.of_nested hnested, harray, hoptional]
      exact .inr (.inl ⟨entity, stored, .inl rfl, rfl, rfl⟩)
  | maybeChild entity =>
      obtain ⟨stored, rfl⟩ := hcell.eq_row hnested harray
      rw [WritePlan.of_nested hnested, harray, hoptional]
      cases entity with
      | none => exact .inl ⟨rfl, rfl⟩
      | some entity => exact .inr (.inl ⟨entity, stored, .inr rfl, rfl, rfl⟩)
  | children entities =>
      obtain ⟨stored, rfl⟩ := hcell.eq_rows hnested harray
      rw [WritePlan.of_nested hnested, harray, hoptional]
      exact .inr (.inr ⟨entities, stored, .inl rfl, rfl, rfl⟩)
  | maybeChildren entities =>
      obtain ⟨stored, rfl⟩ := hcell.eq_rows hnested harray
      rw [WritePlan.of_nested hnested, harray, hoptional]
      cases entities with
      | none => exact .inl ⟨rfl, rfl⟩
      | some entities => exact .inr (.inr ⟨entities, stored, .inr rfl, rfl, rfl⟩)

/-! ### Writing entities -/

/-- A cell with a row in it keeps the identities of the row. -/
theorem Cell.skeleton?_row (stored : Option Row) :
    (Cell.row stored).skeleton? = stored.map Row.skeleton := by
  cases stored <;> rfl

/-- A row in a cell that is in shape is in shape itself. -/
theorem Cell.Shaped.row_shaped {property : Property} {stored : Option Row}
    (h : (Cell.row stored).Shaped bindings property) :
    ∀ row ∈ stored, row.Shaped bindings (bindings.handler property.translator) :=
  fun row hrow => h.nested_shaped row (Option.mem_toList.mpr hrow)

/-- Whether writing an entity over any record of its domain type leaves its
stored form, with the identities of the record. -/
def Entity.WritesInFull (bindings : Bindings) (handler : Handler) (entity : Entity) : Prop :=
  ∀ row : Row, row.Shaped bindings handler →
    writeRow bindings handler entity row
      = .done ((entity.inherit row.skeleton).row bindings handler) ()

/-- An entity written over a stored record or a fresh one. -/
theorem Entity.WritesInFull.startRow {handler : Handler} {entity : Entity}
    (h : entity.WritesInFull bindings handler) (honly : demand.DerivedOnly)
    (hmeets : entity.Meets demand bindings handler) {existing : Option Row}
    (hexisting : ∀ row ∈ existing, row.Shaped bindings handler) :
    writeRow bindings handler entity
        (startRow (handler.fresh bindings) entity.identity existing)
      = .done ((entity.inherit (Skeleton.start entity.identity
          (existing.map Row.skeleton))).row bindings handler) () := by
  rw [h _ (shaped_startRow entity.identity hexisting)]
  obtain ⟨schema, rfl⟩ := hmeets.exists_schema honly
  rw [Entity.inherit_startRow]

/-- An entity written over a fresh record. -/
theorem Entity.WritesInFull.fresh {handler : Handler} {entity : Entity}
    (h : entity.WritesInFull bindings handler) (honly : demand.DerivedOnly)
    (hmeets : entity.Meets demand bindings handler) :
    writeRow bindings handler entity
        (Recordsmith.startRow (handler.fresh bindings) entity.identity none)
      = .done (entity.row bindings handler) () := by
  have hnone : ∀ row ∈ (none : Option Row), row.Shaped bindings handler := by simp
  have hown : entity.inherit (Skeleton.start entity.identity none) = entity :=
    entity.inherit_own
  rw [h.startRow honly hmeets hnone, Option.map_none, hown]

/-- Entities written over fresh records. -/
theorem writeRows_eq (honly : demand.DerivedOnly) {handler : Handler} {entities : List Entity}
    (hwrites : ∀ entity ∈ entities, entity.WritesInFull bindings handler)
    (hmeets : ∀ entity ∈ entities, entity.Meets demand bindings handler) :
    writeRows bindings handler entities
      = .done (entities.map (Entity.row bindings handler)) := by
  induction entities with
  | nil => rfl
  | cons entity rest ih =>
      have hfirst := (hwrites entity List.mem_cons_self).fresh honly
        (hmeets entity List.mem_cons_self)
      have hrest := ih (fun entity hmem => hwrites entity (List.mem_cons_of_mem _ hmem))
        (fun entity hmem => hmeets entity (List.mem_cons_of_mem _ hmem))
      rw [writeRows, hfirst, hrest]
      rfl

/-- A field is written as its stored form, with the identities of the cell. -/
theorem writeField_eq (honly : demand.DerivedOnly) {property : Property} {field : FieldValue}
    {cell : Cell} (label : String) (hfield : field.Meets demand bindings property)
    (hcell : cell.Shaped bindings property)
    (hwrites : ∀ child ∈ field.nested,
      child.WritesInFull bindings (bindings.handler property.translator)) :
    writeField bindings label (WritePlan.of property) field cell
      = .done ((field.inherit cell.skeleton?).cell bindings property) () := by
  have hmeets := hfield.nested_meet
  rcases writeField_cases label hfield.toFits hcell.form with
    ⟨hnone, hwrite⟩ | ⟨entity, stored, hform, rfl, hwrite⟩ | ⟨entities, stored, hform, _, hwrite⟩
  · rw [hwrite, FieldValue.inherit_of_nested_nil hnone]
  · have hmem : entity ∈ field.nested := by rcases hform with rfl | rfl <;> simp
    -- The record in the cell is where the write starts, and nothing but its identities is left.
    have hentity := (hwrites entity hmem).startRow honly (hmeets entity hmem) hcell.row_shaped
    rw [hwrite, hentity, Cell.skeleton?_row]
    rcases hform with rfl | rfl <;> rfl
  · -- What stood in the list before is dropped, so no identity is taken over.
    have hall : field.nested = entities := by rcases hform with rfl | rfl <;> rfl
    rw [hall] at hwrites hmeets
    rw [hwrite, writeRows_eq honly hwrites hmeets]
    rcases hform with rfl | rfl <;> simp [refilledCell, Run.done, Step.done]

/-- Fields are written one by one as their stored forms. -/
theorem writeFields_eq (honly : demand.DerivedOnly) (schema : Schema)
    {properties : List Property} {fields : List FieldValue} {cells : List Cell}
    (hfields : List.Forall₂ (fun property field => field.Meets demand bindings property ∧
      ∀ child ∈ field.nested,
        child.WritesInFull bindings (bindings.handler property.translator)) properties fields)
    (hcells : List.Forall₂ (Cell.Shaped bindings) properties cells) :
    writeFields bindings schema properties fields cells
      = .done (FieldValue.cells bindings properties
          (FieldValue.inheritAll (cells.map Cell.skeleton?) fields)) () := by
  -- Properties, fields and cells go together one by one, and so do the parts of the skeleton.
  induction hfields generalizing cells with
  | nil =>
      cases hcells
      rfl
  | cons hfield _ ih =>
      cases hcells with
      | cons hcell hrest =>
          rw [writeFields]
          simp only [writeField_eq honly _ hfield.1 hcell hfield.2, Step.result_done,
            Step.state_done, Step.log_done, ih hrest, Step.within_done, Step.after_nil]
          rfl

/-- Writing a value of a domain type over a record of that type leaves its
stored form, with the identities of the record. -/
theorem writeRow_eq (honly : demand.DerivedOnly) {handler : Handler} {entity : Entity}
    (h : entity.Meets demand bindings handler) : entity.WritesInFull bindings handler := by
  refine Entity.Meets.induction honly (motive := Entity.WritesInFull bindings) ?_ h
  rintro schema ⟨identity, skipped, fields⟩ _ hfields ⟨stored, cells⟩ hrow
  -- The record keeps its identity, so `inherit` has it from the skeleton.
  have hwrite : writeFields bindings schema schema.properties fields cells = _ :=
    writeFields_eq honly schema hfields hrow.cells
  show (writeFields bindings schema schema.properties fields cells).within _ = _
  rw [hwrite, Step.within_done]
  simp only [Row.skeleton, Cell.skeletons_eq_map]
  rfl

/-! ### Making records -/

/-- Writing an entity over a stored record or a fresh one. -/
theorem refresh_eq (honly : demand.DerivedOnly) {handler : Handler} {entity : Entity}
    (h : entity.Meets demand bindings handler) {existing : Option Row}
    (hexisting : ∀ row ∈ existing, row.Shaped bindings handler) :
    (handler.translator bindings).refresh entity existing
      = .done ((entity.inherit (Skeleton.start entity.identity
          (existing.map Row.skeleton))).row bindings handler) := by
  have hwrite := (writeRow_eq honly h).startRow honly h hexisting
  show (writeRow bindings handler entity _).toRun = _
  exact congrArg Step.toRun hwrite

/-- The record of an entity is its stored form. -/
theorem toRecord_eq (honly : demand.DerivedOnly) {handler : Handler} {entity : Entity}
    (h : entity.Meets demand bindings handler) :
    (handler.translator bindings).toRecord entity = .done (entity.row bindings handler) := by
  have hwrite := (writeRow_eq honly h).fresh honly h
  show (writeRow bindings handler entity _).toRun = _
  exact congrArg Step.toRun hwrite

/-- The records of entities are their stored forms. -/
theorem toRecords_eq (honly : demand.DerivedOnly) {handler : Handler} {entities : List Entity}
    (h : ∀ entity ∈ entities, entity.Meets demand bindings handler) :
    (handler.translator bindings).toRecords entities
      = .done (entities.map (Entity.row bindings handler)) := by
  induction entities with
  | nil => rfl
  | cons entity rest ih =>
      rw [Translator.toRecords, toRecord_eq honly (h entity List.mem_cons_self),
        ih fun entity hmem => h entity (List.mem_cons_of_mem _ hmem)]
      rfl

end

end Recordsmith

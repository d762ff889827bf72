import Recordsmith.Proofs.Translate.Damage

/-!
# `Recordsmith.Proofs.Translate.DamagedReading`: reading records that may be damaged

`read_damaged` says how reading ends for any record of the right form: properties are
read in order up to the first that fails, and a property fails if what is stored for it
is damaged or if one of its nested records cannot be read. Nothing else fails, and a
list of values never does. The message names the field in which the damage lies, at
whatever depth this is.

Cells without nested records end with a value or with their damage (`Cell.Settles`).
Those with nested records end as reading the records one after the other ends
(`Run.each`). Both give the outcome of a cell (`Cell.Outcome`), and the outcomes of its
cells that of a record (`Row.Shaped.stops_iff`).
-/

set_option autoImplicit false

namespace Recordsmith

open Recordsmith.Source Recordsmith.Schema

section

variable {bindings : Bindings} {property : Property} {cell : Cell}

/-! ### Reading cells without nested records -/

/-- How reading a cell without nested records ends: with a value, or with its damage. -/
inductive Cell.Settles (bindings : Bindings) (label : String) (property : Property)
    (cell : Cell) : Run FieldValue → Prop where
  | read (field : FieldValue)
      (intact : ∀ corruption, ¬ cell.Damaged bindings label property corruption) :
      Settles bindings label property cell (.done field)
  | damaged {corruption : Corruption}
      (damaged : cell.Damaged bindings label property corruption) :
      Settles bindings label property cell (.fail (.corrupt corruption))

namespace Cell.Settles

variable {label : String} {run : Run FieldValue}

/-- A cell that settles reports nothing. -/
theorem log_eq (h : cell.Settles bindings label property run) : run.log = [] := by
  cases h <;> rfl

/-- A cell that settles fails on its own damage and on nothing else. -/
theorem failed_iff (h : cell.Settles bindings label property run) {failure : Failure} :
    run.result = .error failure ↔ ∃ corruption, failure = .corrupt corruption ∧
      cell.Damaged bindings label property corruption := by
  cases h with
  | read field intact =>
      constructor
      · intro hresult
        cases hresult
      · rintro ⟨corruption, _, hdamaged⟩
        exact absurd hdamaged (intact corruption)
  | @damaged corruption damaged =>
      constructor
      · intro hresult
        cases hresult
        exact ⟨corruption, rfl, damaged⟩
      · rintro ⟨other, rfl, hother⟩
        -- A cell has at most one damage, so it is this one.
        rw [damaged.unique hother]
        rfl

/-- The one element is read, if the check lets it pass. -/
theorem of_held (label : String) {stored : Value} (single : property.isArray = false)
    (held : cell.elements = [stored]) (wrap : Value → FieldValue) :
    cell.Settles bindings label property
      ((Transfer.of property).load bindings stored label >>= fun value => .done (wrap value)) := by
  rw [load_eq]
  cases hdecode : property.decode bindings stored with
  | error rejection => exact .damaged (.element single held hdecode)
  | ok value =>
      -- The cell is not null, so only a rejected element would be damage.
      refine .read (wrap value) fun corruption hdamaged => ?_
      cases hdamaged with
      | element _ held' rejected =>
          cases held.symm.trans held'
          rw [hdecode] at rejected
          cases rejected
      | standIn _ _ null _ => simp [elements_of_isNull null] at held
      | missing _ _ _ null => simp [elements_of_isNull null] at held

/-- The default raw value is read for null, if the check lets it pass. -/
theorem of_standIn (label : String) (required : property.isOptional = false)
    (enumeration : property.kind.isEnum = true) (null : cell.isNull = true)
    (wrap : Value → FieldValue) :
    cell.Settles bindings label property
      ((Transfer.of property).load bindings ((Transfer.of property).defaultRaw bindings) label
        >>= fun value => .done (wrap value)) := by
  have hraw : (Transfer.of property).defaultRaw bindings
      = (bindings.rawEnum property.element).defaultRaw := by
    simp [Transfer.of, enumeration, Transfer.defaultRaw]
  rw [load_eq, hraw]
  cases hdecode : property.decode bindings (bindings.rawEnum property.element).defaultRaw with
  | error rejection => exact .damaged (.standIn required enumeration null hdecode)
  | ok value =>
      -- The cell is null and its kind an enumeration, so only a rejected stand-in would be
      -- damage.
      refine .read (wrap value) fun corruption hdamaged => ?_
      cases hdamaged with
      | element _ held _ => simp [elements_of_isNull null] at held
      | standIn _ _ _ rejected =>
          rw [hdecode] at rejected
          cases rejected
      | missing _ _ zeroless _ => exact absurd enumeration (Property.not_enum_of_zeroless zeroless)

/-- Null is read as a value where it has a meaning of its own. -/
theorem of_null (label : String) (null : cell.isNull = true)
    (h : property.isOptional = true ∨
      property.kind.isEnum = false ∧ Storage.of property ≠ .nullable) (field : FieldValue) :
    cell.Settles bindings label property (.done field) := by
  refine .read field fun corruption hdamaged => ?_
  cases hdamaged with
  | element _ held _ => simp [elements_of_isNull null] at held
  | standIn required enumeration _ _ => simp [required, enumeration] at h
  | missing required storage _ _ => simp [required, storage] at h

/-- An option is read. -/
theorem of_option (label : String) {stored : Option Value} (single : property.isArray = false)
    (optional : property.isOptional = true) (held : cell.elements = stored.toList)
    (null : cell.isNull = stored.isNone) :
    cell.Settles bindings label property
      (readOption bindings (Transfer.of property) label stored
        >>= fun read => .done (.maybe read)) := by
  cases stored with
  | none => exact .of_null label null (.inl optional) (.maybe none)
  | some stored =>
      have hread : cell.Settles bindings label property _ :=
        .of_held label single held fun value => .maybe (some value)
      rw [readOption, Run.bind_bind]
      exact hread

/-- A raw value is read, or the default one for null. -/
theorem of_default (label : String) {stored : Option Value} (single : property.isArray = false)
    (required : property.isOptional = false) (enumeration : property.kind.isEnum = true)
    (held : cell.elements = stored.toList) (null : cell.isNull = stored.isNone) :
    cell.Settles bindings label property
      ((Transfer.of property).load bindings
          (stored.getD ((Transfer.of property).defaultRaw bindings)) label
        >>= fun value => .done (.one value)) := by
  cases stored with
  | none => exact of_standIn label required enumeration null .one
  | some stored => exact of_held label single held .one

end Cell.Settles

/-- The value of a box, or its damage. -/
theorem settles_readScalar_boxed (label : String) (hsound : property.Sound)
    (hscalar : property.isNested = false) (hsingle : property.isArray = false)
    (hstorage : Storage.of property = .boxed) (box : Nullable Value) :
    (Cell.boxed box).Settles bindings label property
      (readScalar bindings label (ReadPlan.of property) (.boxed box)) := by
  rw [ReadPlan.of_scalar hscalar, hstorage]
  cases hoptional : property.isOptional with
  | true => exact .of_option label hsingle hoptional rfl rfl
  | false =>
      cases henum : property.kind.isEnum with
      | true => exact .of_default label hsingle hoptional henum rfl rfl
      | false =>
          obtain ⟨stored⟩ := box
          cases stored with
          | none => exact .of_null label rfl (.inr ⟨henum, by simp [hstorage]⟩) _
          | some stored =>
              -- The element is taken unchecked, but it is one that is stored as it is.
              have hread : (Cell.boxed ⟨some stored⟩).Settles bindings label property _ :=
                .of_held label hsingle rfl .one
              rw [hsound.transfer_of_boxed hstorage hoptional henum] at hread
              exact hread

/-- The value of an option, or its damage. -/
theorem settles_readScalar_optional (label : String) (hscalar : property.isNested = false)
    (hsingle : property.isArray = false) (hstorage : Storage.of property = .nullable)
    (stored : Option Value) :
    (Cell.optional stored).Settles bindings label property
      (readScalar bindings label (ReadPlan.of property) (.optional stored)) := by
  rw [ReadPlan.of_scalar hscalar, hstorage]
  cases hoptional : property.isOptional with
  | true => exact .of_option label hsingle hoptional rfl rfl
  | false =>
      cases henum : property.kind.isEnum with
      | true => exact .of_default label hsingle hoptional henum rfl rfl
      | false =>
          cases stored with
          | none =>
              -- Of all that is stored as an option only this has no zero value.
              have hother := Storage.other_of_nullable hstorage hscalar hoptional henum
              exact .damaged (.missing hoptional hstorage (.inr hother) rfl)
          | some stored => exact .of_held label hsingle rfl .one

/-- The value of a property with one element at most, or its damage. -/
theorem settles_readScalar (label : String) (hsound : property.Sound)
    (hscalar : property.isNested = false) (hsingle : property.isArray = false)
    (hform : cell.HasForm property) :
    cell.Settles bindings label property
      (readScalar bindings label (ReadPlan.of property) cell) := by
  cases cell with
  | plain stored =>
      rw [ReadPlan.of_scalar hscalar, hform.2]
      exact .of_held label hsingle rfl .one
  | boxed box => exact settles_readScalar_boxed label hsound hscalar hsingle hform.2 box
  | optional stored => exact settles_readScalar_optional label hscalar hsingle hform.2 stored
  | list stored => exact absurd hform.2 (Storage.of_ne_list hsingle)
  | row stored => exact absurd hform.1 (by simp [hscalar])
  | rows stored => exact absurd hform.1 (by simp [hscalar])

/-- A nested record that is not there is no value or a damage. -/
theorem settles_readCell_null (label : String) (hsound : property.Sound)
    (hnested : property.isNested = true) (hsingle : property.isArray = false) :
    (Cell.row none).Settles bindings label property
      (readCell bindings label (ReadPlan.of property) (.row none)) := by
  rw [ReadPlan.of_nested hnested, hsingle]
  cases hoptional : property.isOptional with
  | true =>
      simp only [readCell, readOptionalRow]
      exact .of_null label rfl (.inl hoptional) (.maybeChild none)
  | false =>
      have hstorage := hsound.storage_of_nested hnested hsingle
      simp only [readCell, readOptionalRow]
      exact .damaged (.missing hoptional hstorage (.inl hnested) rfl)

/-! ### Reading cells -/

namespace Cell.Outcome

variable {label : String} {run : Run FieldValue}

/-- A cell without records ends as it settles. -/
theorem of_settles (h : cell.Settles bindings label property run) (hnested : cell.nested = [])
    (hsingle : property.isArray = false) (hquiet : cell.warnings bindings label property = []) :
    cell.Outcome bindings label property run where
  failed failure := by
    rw [h.failed_iff, hnested]
    constructor
    · exact .inl
    · rintro (hdamaged | ⟨child, hreached, _⟩)
      · exact hdamaged
      · exact absurd hreached Run.not_reaches_nil
  logged := by
    refine ⟨.done [], ?_, ?_⟩
    · rw [hnested]
      exact .all .nil
    · rw [h.log_eq, hquiet]
      rfl
  listed _ harray := by simp [hsingle] at harray

/-- A cell with records ends as reading them one by one does. -/
theorem of_each {wrap : List Entity → FieldValue} (hnested : property.isNested = true)
    (hnull : cell.isNull = false) (helements : cell.elements = [])
    (hquiet : cell.warnings bindings label property = [])
    (hrun : run = (Run.each (readRow bindings (bindings.handler property.translator)) cell.nested
      >>= fun entities => .done (wrap entities))) :
    cell.Outcome bindings label property run where
  failed failure := by
    -- Nested records have no elements, so all failures are those of the records.
    rw [hrun, Run.bind_done, ← Run.result_each_eq_error_iff]
    constructor
    · intro h
      exact .inr (error_of_map_eq_error h)
    · rintro (⟨corruption, _, hdamaged⟩ | hfailed)
      · exact absurd hdamaged (Damaged.not_of_isNull hnull (.inr helements))
      · simp only [hfailed]
        rfl
  logged := by
    refine ⟨_, Run.inOrder_each _ _, ?_⟩
    rw [hrun, Run.bind_done, hquiet]
    rfl
  listed hscalar := by simp [hnested] at hscalar

/-- A list of values is read, less what is left out. -/
theorem of_list (label : String) (hscalar : property.isNested = false) (stored : ItemList Value)
    (hstorage : Storage.of property = .list) :
    (Cell.list stored).Outcome bindings label property
      (readScalar bindings label (ReadPlan.of property) (.list stored)) := by
  have hrun : readScalar bindings label (ReadPlan.of property) (.list stored)
      = ⟨(Cell.list stored).warnings bindings label property,
          .ok (property.listed (stored.items.filterMap (property.kept? bindings)))⟩ := by
    rw [ReadPlan.of_scalar hscalar, hstorage]
    simp only [readScalar, loadAll_eq, Run.pure_eq_done, Run.bind_done]
    rfl
  -- What is rejected is left out with a warning, so there is no way to fail.
  rw [hrun]
  refine ⟨fun failure => ?_, ⟨.done [], .all .nil, (List.append_nil _).symm⟩, fun _ _ => rfl⟩
  constructor
  · intro h
    cases h
  · rintro (⟨corruption, _, hdamaged⟩ | ⟨child, hreached, _⟩)
    · exact absurd hdamaged (Damaged.not_of_isNull rfl (.inl (Storage.of_eq_list_iff.mp hstorage)))
    · exact absurd hreached Run.not_reaches_nil

end Cell.Outcome

/-- Rows are read one by one. -/
theorem readRows_eq_each (handler : Handler) (rows : List Row) :
    readRows bindings handler rows = Run.each (readRow bindings handler) rows := by
  induction rows with
  | nil => rfl
  | cons row rest ih => rw [readRows, Run.each, ih]

/-- Cells are read one by one, each for its property. -/
theorem readCells_eq_each (schema : Schema) (properties : List Property) (cells : List Cell) :
    readCells bindings schema properties cells
      = Run.each (readProperty bindings schema) (properties.zip cells) := by
  induction cells generalizing properties with
  | nil =>
      rw [List.zip_nil_right]
      rfl
  | cons cell rest ih =>
      cases properties with
      | nil => rfl
      | cons property properties =>
          simp only [readCells, ih]
          rfl

/-- A nested record that is there is read as one in a list is. -/
theorem outcome_readCell_row (label : String) (hnested : property.isNested = true)
    (hsingle : property.isArray = false) (row : Row) :
    (Cell.row (some row)).Outcome bindings label property
      (readCell bindings label (ReadPlan.of property) (.row (some row))) := by
  rw [ReadPlan.of_nested hnested, hsingle]
  -- A single record is a list of one, wrapped in another way.
  cases property.isOptional with
  | true =>
      have hread : readCell bindings label (.nestedOptional property.translator) (.row (some row))
          = (Run.each (readRow bindings (bindings.handler property.translator)) [row]
            >>= fun entities => .done (.maybeChild entities.head?)) := by
        simp only [readCell, readOptionalRow, Run.each, Run.bind_bind]
        rfl
      exact .of_each hnested rfl rfl rfl hread
  | false =>
      have hread : readCell bindings label (.nestedRequired property.translator) (.row (some row))
          = (Run.each (readRow bindings (bindings.handler property.translator)) [row]
            >>= fun entities => .done (.child (entities.headD default))) := by
        simp only [readCell, readOptionalRow, Run.each, Run.bind_bind]
        rfl
      exact .of_each hnested rfl rfl rfl hread

/-- A list of nested records is read one by one. -/
theorem outcome_readCell_rows (label : String) (hnested : property.isNested = true)
    (harray : property.isArray = true) (rows : List Row) :
    (Cell.rows rows).Outcome bindings label property
      (readCell bindings label (ReadPlan.of property) (.rows rows)) := by
  have hread : readCell bindings label (.nestedList property.translator property.isOptional)
      (.rows rows)
        = (Run.each (readRow bindings (bindings.handler property.translator)) rows
          >>= fun entities => .done (if property.isOptional then .maybeChildren (some entities)
            else .children entities)) := by
    simp only [readCell, readRows_eq_each]
    rfl
  rw [ReadPlan.of_nested hnested, harray]
  exact .of_each hnested rfl rfl rfl hread

/-- How reading the cell of a sound property ends. -/
theorem outcome_readCell (label : String) (hsound : property.Sound)
    (hform : cell.HasForm property) :
    cell.Outcome bindings label property
      (readCell bindings label (ReadPlan.of property) cell) := by
  -- The form of the cell follows from the property, so the cases are those of the
  -- property.
  cases hnested : property.isNested with
  | true =>
      cases harray : property.isArray with
      | true =>
          obtain ⟨rows, rfl⟩ := hform.eq_rows hnested harray
          exact outcome_readCell_rows label hnested harray rows
      | false =>
          obtain ⟨stored, rfl⟩ := hform.eq_row hnested harray
          cases stored with
          | none =>
              exact .of_settles (settles_readCell_null label hsound hnested harray) rfl harray rfl
          | some row => exact outcome_readCell_row label hnested harray row
  | false =>
      rw [readCell_eq_readScalar hform hnested]
      cases harray : property.isArray with
      | true =>
          have hstorage := Storage.of_eq_list harray
          have hstored := hform.eq_of_storage hnested
          rw [hstorage] at hstored
          obtain ⟨stored, rfl⟩ := hstored
          exact .of_list label hnested stored hstorage
      | false =>
          have hsettles : cell.Settles bindings label property _ :=
            settles_readScalar label hsound hnested harray hform
          cases cell with
          | list stored => exact absurd hform.2 (Storage.of_ne_list harray)
          | row stored => exact absurd hform.1 (by simp [hnested])
          | rows stored => exact absurd hform.1 (by simp [hnested])
          | _ => exact .of_settles hsettles rfl harray rfl

/-! ### Reading records -/

/-- Whether all nested types with schemas have ones that some declaration has. -/
def Bindings.Accepted (bindings : Bindings) : Prop :=
  ∀ name schema, bindings.handler name = .derived schema → schema.Accepted

/-- A record is read cell by cell, and what is skipped starts with its default. -/
theorem readRow_eq_each (schema : Schema) (row : Row) :
    readRow bindings (.derived schema) row
      = (Run.each (readProperty bindings schema) (schema.properties.zip row.cells)
        >>= fun fields => .done (.mk row.identity
          (schema.skipped.map fun field => bindings.defaultValue field.type) fields)) := by
  obtain ⟨identity, cells⟩ := row
  simp only [readRow, readCells_eq_each]
  rfl

/-- Each cell of a record of the right form ends as its property says. -/
theorem Row.Shaped.outcome {schema : Schema} {row : Row} (hschema : schema.Accepted)
    (h : row.Shaped bindings (.derived schema))
    (hmem : (property, cell) ∈ schema.properties.zip row.cells) :
    cell.Outcome bindings (schema.label property) property
      (readProperty bindings schema (property, cell)) := by
  have hsound := hschema.sound property (List.of_mem_zip hmem).1
  have hshaped := (List.forall₂_iff_zip.mp h.cells).2 hmem
  exact outcome_readCell (schema.label property) hsound hshaped.form

end

end Recordsmith

import Recordsmith.Proofs.Store.Memory
import Recordsmith.Proofs.Translate.RoundTrip
import Recordsmith.Sample.Tag

/-!
# `Recordsmith.Proofs.Store.Interrupted`: what a failing write leaves

A record is written in its place, field by field, and a new one is taken into
the store before anything is written to it. So a write that fails halfway shows.
Only a translator made by hand can fail on a value of a domain type, and it
fails inside the field of some nested property.

`Interrupted` says what is then left of the record: the fields before have been
written, the cell of the nested property is as in a fresh record, and the cells
after it are as they were. `FailedWrite` says what is left of the store: it is
as it was if the entity has no identity, and otherwise it differs only by the
interrupted record.

Where all translators are those of schemas no write fails but for want of an
identity, and a failure leaves everything as it was.
-/

set_option autoImplicit false

namespace Recordsmith

open Recordsmith.Source Recordsmith.Schema ObjectStore

/-! ### Less can be asked of an entity -/

/-- An entity meets every weaker demand. -/
theorem Entity.Meets.mono {demand weaker : Demand} {bindings : Bindings} {handler : Handler}
    {entity : Entity} (h : entity.Meets demand bindings handler)
    (helement : ∀ property value, demand.element property value →
      weaker.element property value)
    (hcustom : ∀ translator entity, demand.custom translator entity →
      weaker.custom translator entity) :
    entity.Meets weaker bindings handler := by
  induction h with
  | custom translator entity meets => exact .custom translator entity (hcustom _ _ meets)
  | derived schema entity accepted fits nested ih =>
      refine .derived schema entity accepted (fits.imp ?_) ih
      intro property field hfits
      exact ⟨hfits.isNested_eq, hfits.multiplicity_eq,
        fun value hvalue => helement property value (hfits.elements_meet value hvalue)⟩

/-- An entity that meets a demand is in shape, whatever the demand was. -/
theorem Entity.Meets.toShaped {demand : Demand} {bindings : Bindings} {handler : Handler}
    {entity : Entity} (h : entity.Meets demand bindings handler) :
    entity.Meets .shaped bindings handler :=
  h.mono (fun _ _ _ => trivial) (fun _ _ _ => trivial)

/-! ### Writing a field -/

section

variable {bindings : Bindings} {property : Property}

/-- A fresh cell of a nested property has no row in it. -/
theorem freshCell_of_nested (hnested : property.isNested = true) :
    freshCell bindings property = if property.isArray then .rows [] else .row none := by
  unfold freshCell
  cases hkind : property.kind with
  | nested _ _ => rfl
  | _ => simp [Property.isNested, hkind] at hnested

/-- Two runs end as the second does on the value of the first, or as the first if it fails. -/
theorem Run.result_bind {α β : Type} (first : Run α) (next : α → Run β) :
    (first >>= next).result
      = match first.result with
        | .ok value => (next value).result
        | .error failure => .error failure := by
  show (first.andThen next).result = _
  unfold Run.andThen
  cases first.result <;> rfl

/-- Whether writing an entity keeps the form of the record that it is written
over, also if it fails. -/
def Entity.KeepsForm (bindings : Bindings) (handler : Handler) (entity : Entity) : Prop :=
  ∀ row : Row, row.Shaped bindings handler →
    (writeRow bindings handler entity row).state.Shaped bindings handler

/-- Whether writing an entity over some record of its domain type fails. -/
def Entity.FailsWith (bindings : Bindings) (handler : Handler) (failure : Failure)
    (entity : Entity) : Prop :=
  ∃ row : Row, row.Shaped bindings handler ∧
    (writeRow bindings handler entity row).result = .error failure

/-- What the cell of a nested property is like after a write: it has its form,
and if the write failed it is a fresh one and some nested entity is the cause. -/
structure WrittenCell (bindings : Bindings) (property : Property) (field : FieldValue)
    (step : Step Cell Unit) : Prop where
  shaped : step.state.Shaped bindings property
  failed : ∀ {failure}, step.result = .error failure →
    property.isNested = true ∧ step.state = freshCell bindings property ∧
      ∃ child ∈ field.nested,
        child.FailsWith bindings (bindings.handler property.translator) failure

/-- A nested row leaves its cell in shape, or it fails for its entity and leaves no row. -/
theorem writtenCell_refreshed {field : FieldValue} {entity : Entity} {row : Row}
    (hentity : entity ∈ field.nested) (hnested : property.isNested = true)
    (harray : property.isArray = false)
    (hrow : row.Shaped bindings (bindings.handler property.translator))
    (hkeeps : entity.KeepsForm bindings (bindings.handler property.translator)) :
    WrittenCell bindings property field
      (refreshedCell (writeRow bindings (bindings.handler property.translator) entity row)) := by
  unfold refreshedCell
  split
  · -- The record is put back, in the form that the write left it in.
    refine ⟨⟨⟨hnested, harray⟩, ?_⟩, fun hfail => by cases hfail⟩
    intro child hchild
    rw [List.mem_singleton.mp hchild]
    exact hkeeps row hrow
  · -- The record was taken out and is lost.
    rename_i failure hresult
    refine ⟨⟨⟨hnested, harray⟩, fun child hchild => by cases hchild⟩, ?_⟩
    intro failure' hfail
    cases hfail
    refine ⟨hnested, ?_, entity, hentity, row, hrow, hresult⟩
    rw [freshCell_of_nested hnested, if_neg (by simp [harray])]

/-- The records of a list are all made, or one of them cannot be. -/
theorem writeRows_cases {handler : Handler} {entities : List Entity}
    (hkeeps : ∀ entity ∈ entities, entity.KeepsForm bindings handler) :
    (∃ rows, (writeRows bindings handler entities).result = .ok rows ∧
      ∀ row ∈ rows, row.Shaped bindings handler) ∨
    ∃ failure, (writeRows bindings handler entities).result = .error failure ∧
      ∃ entity ∈ entities, entity.FailsWith bindings handler failure := by
  induction entities with
  | nil => exact .inl ⟨[], rfl, by simp⟩
  | cons entity rest ih =>
      have hstart : (startRow (handler.fresh bindings) entity.identity none).Shaped bindings
          handler := shaped_startRow entity.identity (by simp)
      have hkept := hkeeps entity List.mem_cons_self _ hstart
      -- The first record that cannot be made ends the list, with none of those behind it made.
      cases hfirst : (writeRow bindings handler entity
          (startRow (handler.fresh bindings) entity.identity none)).result with
      | error failure =>
          refine .inr ⟨failure, ?_, entity, List.mem_cons_self, _, hstart, hfirst⟩
          simp [writeRows, Run.result_bind, Step.toRun, hfirst, Except.map]
      | ok _ =>
          rcases ih fun entity hmem => hkeeps entity (List.mem_cons_of_mem _ hmem) with
            ⟨rows, hrows, hshaped⟩ | ⟨failure, hfail, child, hchild, hcause⟩
          · refine .inl ⟨_ :: rows, ?_, List.forall_mem_cons.mpr ⟨hkept, hshaped⟩⟩
            simp [writeRows, Run.result_bind, Step.toRun, hfirst, Except.map, hrows, Run.done]
          · refine .inr ⟨failure, ?_, child, List.mem_cons_of_mem _ hchild, hcause⟩
            simp [writeRows, Run.result_bind, Step.toRun, hfirst, Except.map, hfail]

/-- Nested rows leave their cell in shape, or they fail for one of their entities and leave the
cell empty. -/
theorem writtenCell_refilled {field : FieldValue} {entities : List Entity}
    (hentities : ∀ entity ∈ entities, entity ∈ field.nested)
    (hnested : property.isNested = true) (harray : property.isArray = true)
    (hkeeps : ∀ entity ∈ entities,
      entity.KeepsForm bindings (bindings.handler property.translator)) :
    WrittenCell bindings property field
      (refilledCell (writeRows bindings (bindings.handler property.translator) entities)) := by
  rcases writeRows_cases hkeeps with
    ⟨rows, hrows, hshaped⟩ | ⟨failure, hfail, child, hchild, hcause⟩
  · simp only [refilledCell, hrows]
    exact ⟨⟨⟨hnested, harray⟩, hshaped⟩, fun hfail => by cases hfail⟩
  -- The old list was dropped before, and none of the new records is kept.
  · simp only [refilledCell, hfail]
    refine ⟨⟨⟨hnested, harray⟩, fun row hrow => by cases hrow⟩, ?_⟩
    intro failure' hfail'
    cases hfail'
    refine ⟨hnested, ?_, child, hentities child hchild, hcause⟩
    rw [freshCell_of_nested hnested, if_pos harray]

/-- A value of the declared type is written, or a nested entity fails and the
cell is emptied. -/
theorem writtenCell_writeField {field : FieldValue} {cell : Cell} (label : String)
    (hfield : field.Meets .shaped bindings property) (hcell : cell.Shaped bindings property)
    (hkeeps : ∀ child ∈ field.nested,
      child.KeepsForm bindings (bindings.handler property.translator)) :
    WrittenCell bindings property field
      (writeField bindings label (WritePlan.of property) field cell) := by
  rcases writeField_cases label hfield.toFits hcell.form with
    ⟨hnone, hwrite⟩ | ⟨entity, stored, hform, rfl, hwrite⟩ | ⟨entities, stored, hform, rfl, hwrite⟩
  · rw [hwrite]
    refine ⟨⟨FieldValue.hasForm_cell hfield.toFits, ?_⟩, fun hfail => by cases hfail⟩
    -- Without entities nothing can fail.
    rw [Step.state_done, FieldValue.nested_cell, hnone]
    simp
  · have hmem : entity ∈ field.nested := by rcases hform with rfl | rfl <;> simp
    rw [hwrite]
    exact writtenCell_refreshed hmem hcell.form.1 hcell.form.2
      (shaped_startRow entity.identity hcell.row_shaped) (hkeeps entity hmem)
  · have hall : field.nested = entities := by rcases hform with rfl | rfl <;> rfl
    rw [hwrite]
    exact writtenCell_refilled (fun _ hmem => hall ▸ hmem) hcell.form.1 hcell.form.2
      (hall ▸ hkeeps)

end

/-! ### Writing a record -/

section

variable {bindings : Bindings}

/-- What writing some fields leaves in their cells if it fails: the fields before
the one that fails are written, its cell is as in a fresh record, and the cells
after it are as they were. -/
inductive Interrupted (bindings : Bindings) (schema : Schema) (failure : Failure) :
    List Property → List FieldValue → List Cell → List Cell → Prop where
  | here (property : Property) (properties : List Property) (field : FieldValue)
      (fields : List FieldValue) (cell : Cell) (cells : List Cell)
      (nested : property.isNested = true)
      (cause : ∃ child ∈ field.nested,
        child.FailsWith bindings (bindings.handler property.translator) failure) :
      Interrupted bindings schema failure (property :: properties) (field :: fields)
        (cell :: cells) (freshCell bindings property :: cells)
  | later (property : Property) (properties : List Property) (field : FieldValue)
      (fields : List FieldValue) (cell : Cell) (cells left : List Cell)
      (written : (writeField bindings (schema.label property) (WritePlan.of property) field
        cell).result = .ok ())
      (rest : Interrupted bindings schema failure properties fields cells left) :
      Interrupted bindings schema failure (property :: properties) (field :: fields)
        (cell :: cells)
        ((writeField bindings (schema.label property) (WritePlan.of property) field
          cell).state :: left)

/-- Fields are written one by one up to the first that fails. The cells keep
their forms in any case. -/
theorem writeFields_cases (schema : Schema) {properties : List Property}
    {fields : List FieldValue} {cells : List Cell}
    (hfields : List.Forall₂ (fun property field => field.Meets .shaped bindings property ∧
      ∀ child ∈ field.nested,
        child.KeepsForm bindings (bindings.handler property.translator)) properties fields)
    (hcells : List.Forall₂ (Cell.Shaped bindings) properties cells) :
    List.Forall₂ (Cell.Shaped bindings) properties
        (writeFields bindings schema properties fields cells).state ∧
      ∀ failure, (writeFields bindings schema properties fields cells).result = .error failure →
        Interrupted bindings schema failure properties fields cells
          (writeFields bindings schema properties fields cells).state := by
  induction hfields generalizing cells with
  | nil =>
      cases hcells
      exact ⟨.nil, fun _ hfail => by cases hfail⟩
  | @cons property field properties fields hfield _ ih =>
      cases hcells with
      | @cons _ cell _ cells hcell hrest =>
          have hwritten := writtenCell_writeField (schema.label property) hfield.1 hcell hfield.2
          obtain ⟨hshaped, hinterrupted⟩ := ih hrest
          rw [writeFields]
          cases hfirst : (writeField bindings (schema.label property) (WritePlan.of property)
              field cell).result with
          | error failure =>
              -- The run ends here, and the cells behind are not touched.
              obtain ⟨hnested, hfresh, hcause⟩ := hwritten.failed hfirst
              refine ⟨.cons hwritten.shaped hrest, ?_⟩
              intro failure' hfail
              cases hfail
              rw [hfresh]
              exact .here property _ field _ cell _ hnested hcause
          | ok _ =>
              refine ⟨.cons hwritten.shaped hshaped, ?_⟩
              intro failure hfail
              exact .later property _ field _ cell _ _ hfirst (hinterrupted failure hfail)

/-- Some translator made by hand fails. -/
def FailsByHand (bindings : Bindings) (failure : Failure) : Prop :=
  ∃ name translator entity row, bindings.handler name = .custom translator ∧
    (translator.write entity row).result = .error failure

/-- Writing a value of a domain type keeps the form of its record. -/
theorem keepsForm_of_meets {handler : Handler} {entity : Entity}
    (h : entity.Meets .shaped bindings handler) : entity.KeepsForm bindings handler := by
  induction h with
  | custom translator entity _ => exact fun row _ => .custom translator _
  | derived schema entity accepted fits nested ih =>
      have hfields := (Entity.Meets.derived schema entity accepted fits nested).fields
      obtain ⟨identity, skipped, fields⟩ := entity
      rintro ⟨stored, cells⟩ hrow
      exact .of_cells (writeFields_cases schema (forall₂_and_zip hfields ih) hrow.cells).1

/-- A failing write of a value of a domain type leaves an interrupted record. -/
theorem interrupted_of_writeRow {schema : Schema} {entity : Entity} {row : Row}
    {failure : Failure} (h : entity.Meets .shaped bindings (.derived schema))
    (hrow : row.Shaped bindings (.derived schema))
    (hfail : (writeRow bindings (.derived schema) entity row).result = .error failure) :
    ∃ cells, Interrupted bindings schema failure schema.properties entity.fields row.cells cells ∧
      (writeRow bindings (.derived schema) entity row).state = .mk row.identity cells := by
  have hfields := h.fields.imp fun _ _ hfield =>
    And.intro hfield fun child hchild => keepsForm_of_meets (hfield.nested_meet child hchild)
  obtain ⟨identity, skipped, fields⟩ := entity
  obtain ⟨stored, cells⟩ := row
  exact ⟨_, (writeFields_cases schema hfields hrow.cells).2 failure hfail, rfl⟩

/-- Some nested entity is the cause of an interruption. -/
theorem Interrupted.exists_child {schema : Schema} {failure : Failure}
    {properties : List Property} {fields : List FieldValue} {cells left : List Cell}
    (h : Interrupted bindings schema failure properties fields cells left) :
    ∃ property field, (property, field) ∈ properties.zip fields ∧ ∃ child ∈ field.nested,
      child.FailsWith bindings (bindings.handler property.translator) failure := by
  induction h with
  | here property _ field _ _ _ _ cause => exact ⟨property, field, by simp, cause⟩
  | later _ _ _ _ _ _ _ _ _ ih =>
      obtain ⟨property, field, hmem, hcause⟩ := ih
      exact ⟨property, field, List.mem_cons_of_mem _ hmem, hcause⟩

/-- The failure of a write comes from a translator made by hand. -/
theorem failsByHand_of_failsWith {handler : Handler} {entity : Entity} {failure : Failure}
    (h : entity.Meets .shaped bindings handler) (hname : ∃ name, bindings.handler name = handler)
    (hfail : entity.FailsWith bindings handler failure) : FailsByHand bindings failure := by
  induction h with
  | custom translator entity _ =>
      obtain ⟨name, hname⟩ := hname
      obtain ⟨row, _, hresult⟩ := hfail
      cases entity
      exact ⟨name, translator, _, row, hname, hresult⟩
  | derived schema entity accepted fits nested ih =>
      obtain ⟨row, hrow, hresult⟩ := hfail
      obtain ⟨cells, hleft, _⟩ :=
        interrupted_of_writeRow (.derived schema entity accepted fits nested) hrow hresult
      -- The cause lies in a nested entity, one level further down.
      obtain ⟨property, field, hmem, child, hchild, hcause⟩ := hleft.exists_child
      exact ih property field hmem child hchild ⟨_, rfl⟩ hcause

/-- Writing is interrupted only by a translator that is made by hand. -/
theorem Interrupted.failsByHand {schema : Schema} {entity : Entity} {failure : Failure}
    {cells left : List Cell} (h : entity.Meets .shaped bindings (.derived schema))
    (hleft : Interrupted bindings schema failure schema.properties entity.fields cells left) :
    FailsByHand bindings failure := by
  obtain ⟨property, field, hmem, child, hchild, hcause⟩ := hleft.exists_child
  have hfield := (List.forall₂_iff_zip.mp h.fields).2 hmem
  exact failsByHand_of_failsWith (hfield.nested_meet child hchild) ⟨_, rfl⟩ hcause

end

/-! ### Writing into a store -/

/-- Whether all records of a store have the form of a domain type. -/
def MemoryStore.Shaped (bindings : Bindings) (schema : Schema) (store : MemoryStore) : Prop :=
  ∀ key row, store.get? key = some row → row.Shaped bindings (.derived schema)

/-- What a failing write of an entity leaves of a store. -/
inductive FailedWrite (bindings : Bindings) (schema : Schema) (store : MemoryStore)
    (entity : Entity) (failure : Failure) : MemoryStore → Prop where
  /-- Nothing happened, since the entity has no identity. -/
  | unidentified (empty : entity.identity.isEmpty = true)
      (refused : failure = .refused .emptyIdentity) :
      FailedWrite bindings schema store entity failure store
  /-- The record of the entity, which may be a new one, is written in part. -/
  | interrupted (nonempty : entity.identity.isEmpty = false) (cells : List Cell)
      (left : Interrupted bindings schema failure schema.properties entity.fields
        (store.recordFor (Handler.translator bindings (.derived schema)) entity.identity).cells
        cells)
      (byHand : FailsByHand bindings failure) :
      FailedWrite bindings schema store entity failure
        (store.put entity.identity (.mk
          (store.recordFor (Handler.translator bindings (.derived schema))
            entity.identity).identity cells))

section

variable {bindings : Bindings} {schema : Schema} {store : MemoryStore}

/-- The record that an entity is written into is in shape, be it stored or fresh. -/
theorem MemoryStore.Shaped.recordFor (h : store.Shaped bindings schema) (identity : Identity) :
    (store.recordFor (Handler.translator bindings (.derived schema)) identity).Shaped bindings
      (.derived schema) := by
  unfold MemoryStore.recordFor
  cases hget : store.get? identity with
  | some row => exact h identity row hget
  | none =>
      have hfresh : (startRow (Handler.fresh bindings (.derived schema)) identity none).Shaped
          bindings (.derived schema) := shaped_startRow identity (by simp)
      exact hfresh

/-- Persisting a value of the domain type keeps the forms of all records. -/
theorem MemoryStore.Shaped.persist (h : store.Shaped bindings schema) {entity : Entity}
    (hmeets : entity.Meets .shaped bindings (.derived schema)) :
    (Repository.persist (Handler.translator bindings (.derived schema)) store
      entity).state.Shaped bindings schema := by
  cases hid : entity.identity.isEmpty with
  | true =>
      rw [persist_of_empty hid]
      exact h
  | false =>
      rw [(persist_eq rfl hid rfl).1]
      intro key row hget
      -- The record of the entity is put back as it was left, in form even if the write failed.
      by_cases heq : key = entity.identity
      · rw [heq, get?_put_self] at hget
        rw [← Option.some.inj hget]
        exact keepsForm_of_meets hmeets _ (h.recordFor entity.identity)
      · rw [get?_put_of_ne heq] at hget
        exact h key row hget

/-- What a failing upsert leaves. -/
theorem failedWrite_of_upsert (hstore : store.Shaped bindings schema) {entity : Entity}
    {failure : Failure} (hmeets : entity.Meets .shaped bindings (.derived schema))
    (hfail : (upsert (Handler.translator bindings (.derived schema)) store entity).result
      = .error failure) :
    FailedWrite bindings schema store entity failure
      (upsert (Handler.translator bindings (.derived schema)) store entity).state := by
  cases hid : entity.identity.isEmpty with
  | true =>
      rw [upsert_of_empty hid] at hfail ⊢
      cases hfail
      exact .unidentified hid rfl
  | false =>
      rw [upsert_eq rfl hid rfl] at hfail ⊢
      have hwrite := error_of_map_eq_error hfail
      -- The record was put in before the failure was seen, so what is left of it is stored.
      obtain ⟨cells, hleft, hstate⟩ :=
        interrupted_of_writeRow hmeets (hstore.recordFor entity.identity) hwrite
      have hput := FailedWrite.interrupted hid cells hleft (hleft.failsByHand hmeets)
      rwa [← hstate] at hput

/-- What a failing persist leaves. -/
theorem failedWrite_of_persist (hstore : store.Shaped bindings schema) {entity : Entity}
    {failure : Failure} (hmeets : entity.Meets .shaped bindings (.derived schema))
    (hfail : (Repository.persist (Handler.translator bindings (.derived schema)) store
      entity).result = .error failure) :
    FailedWrite bindings schema store entity failure
      (Repository.persist (Handler.translator bindings (.derived schema)) store
        entity).state := by
  obtain ⟨hstate, hresult⟩ :=
    persist_eq_upsert (Handler.translator bindings (.derived schema)) store entity
  rw [hresult] at hfail
  rw [hstate]
  exact failedWrite_of_upsert hstore hmeets (error_of_map_eq_error hfail)

/-- A failing write leaves all other records as they are. -/
theorem FailedWrite.get?_of_ne {entity : Entity} {failure : Failure} {left : MemoryStore}
    (h : FailedWrite bindings schema store entity failure left) {other : Identity}
    (hother : other ≠ entity.identity) : left.get? other = store.get? other := by
  cases h with
  | unidentified _ _ => rfl
  | interrupted _ cells _ _ => exact MemoryStore.get?_put_of_ne hother

/-- Where all translators are those of schemas, an entity with an identity is
written in full. -/
theorem upsert_derived {demand : Demand} (honly : demand.DerivedOnly)
    (hstore : store.Shaped bindings schema) {entity : Entity}
    (hmeets : entity.Meets demand bindings (.derived schema))
    (hid : entity.identity.isEmpty = false) {skeleton : Skeleton}
    (hskeleton : (store.recordFor (Handler.translator bindings (.derived schema))
      entity.identity).skeleton = skeleton) :
    upsert (Handler.translator bindings (.derived schema)) store entity
      = ⟨store.put entity.identity ((entity.inherit skeleton).row bindings (.derived schema)),
          store.preparing entity.identity,
          .ok ((entity.inherit skeleton).row bindings (.derived schema))⟩ := by
  have hwrite := writeRow_eq honly hmeets _ (hstore.recordFor entity.identity)
  rw [hskeleton] at hwrite
  rw [upsert_eq rfl hid hwrite]
  simp [Step.done, Except.map]

/-- Where all translators are those of schemas, only an entity without an
identity is refused, and this changes nothing. -/
theorem unidentified_of_upsert {demand : Demand} (honly : demand.DerivedOnly)
    (hstore : store.Shaped bindings schema) {entity : Entity}
    (hmeets : entity.Meets demand bindings (.derived schema)) {failure : Failure}
    (hfail : (upsert (Handler.translator bindings (.derived schema)) store entity).result
      = .error failure) :
    entity.identity.isEmpty = true ∧
      (upsert (Handler.translator bindings (.derived schema)) store entity).state = store := by
  cases hid : entity.identity.isEmpty with
  | true =>
      rw [upsert_of_empty hid]
      exact ⟨rfl, rfl⟩
  | false =>
      rw [upsert_derived honly hstore hmeets hid rfl] at hfail
      cases hfail

/-- Where only derived translators pass, persisting fails for want of an identity only, and
leaves the store as it was. -/
theorem unidentified_of_persist {demand : Demand} (honly : demand.DerivedOnly)
    (hstore : store.Shaped bindings schema) {entity : Entity}
    (hmeets : entity.Meets demand bindings (.derived schema)) {failure : Failure}
    (hfail : (Repository.persist (Handler.translator bindings (.derived schema)) store
      entity).result = .error failure) :
    entity.identity.isEmpty = true ∧
      (Repository.persist (Handler.translator bindings (.derived schema)) store entity).state
        = store := by
  obtain ⟨hstate, hresult⟩ :=
    persist_eq_upsert (Handler.translator bindings (.derived schema)) store entity
  rw [hresult] at hfail
  rw [hstate]
  exact unidentified_of_upsert honly hstore hmeets (error_of_map_eq_error hfail)

/-- Persisting values of the domain type keeps the forms of all records. -/
theorem MemoryStore.Shaped.persistAll (h : store.Shaped bindings schema)
    {entities : List Entity}
    (hmeets : ∀ entity ∈ entities, entity.Meets .shaped bindings (.derived schema)) :
    (Repository.persistAll (Handler.translator bindings (.derived schema)) store
      entities).state.Shaped bindings schema :=
  persistFrom_preserves _ (fun _ entity hmem hstore => hstore.persist (hmeets entity hmem)) 0 h

/-- Several entities are written up to the first that fails. -/
theorem exists_failed_of_persistAll {translator : Translator} {entities : List Entity}
    {failure : Failure}
    (hfail : (Repository.persistAll translator store entities).result = .error failure) :
    ∃ before entity after, entities = before ++ entity :: after ∧
      (Repository.persistAll translator store before).result = .ok before.length ∧
      (Repository.persist translator (Repository.persistAll translator store before).state
        entity).result = .error failure ∧
      (Repository.persistAll translator store entities).state
        = (Repository.persist translator (Repository.persistAll translator store before).state
            entity).state := by
  -- The run stops at the first failure, with the store that it left.
  rcases persistFrom_cases translator entities 0 store with
    hok | ⟨before, entity, after, failure', hsplit, hbefore, hentity, hresult, hstate⟩
  · rw [Repository.persistAll, hok] at hfail
    cases hfail
  · rw [Repository.persistAll, hresult] at hfail
    cases hfail
    rw [Nat.zero_add] at hbefore
    exact ⟨before, entity, after, hsplit, hbefore, hentity, hstate⟩

end

/-- What a failing write leaves of a store with records of one domain type.

If the entity has no identity, the store is as it was. Otherwise a translator
made by hand failed in some nested property, and the record of the entity is
there with the fields before that property written, with that property as in a
fresh record, and with the rest as it was; all other records are as they were. A
failing write of several entities is the failing write of one after those before
it. If all translators are those of schemas, a failing write changes nothing. -/
theorem failed_write_leaves (bindings : Bindings) (schema : Schema) (store : MemoryStore)
    (hstore : store.Shaped bindings schema) (translator : Translator)
    (htranslator : translator = Handler.translator bindings (.derived schema)) :
    (∀ entity failure, entity.Meets .shaped bindings (.derived schema) →
      (upsert translator store entity).result = .error failure →
      FailedWrite bindings schema store entity failure
        (upsert translator store entity).state) ∧
    (∀ entity failure, entity.Meets .shaped bindings (.derived schema) →
      (Repository.persist translator store entity).result = .error failure →
      FailedWrite bindings schema store entity failure
        (Repository.persist translator store entity).state) ∧
    (∀ entity failure left, FailedWrite bindings schema store entity failure left →
      ∀ other, other ≠ entity.identity → left.get? other = store.get? other) ∧
    (∀ entities failure,
      (∀ entity ∈ entities, entity.Meets .shaped bindings (.derived schema)) →
      (Repository.persistAll translator store entities).result = .error failure →
      ∃ before entity after, entities = before ++ entity :: after ∧
        (Repository.persistAll translator store before).result = .ok before.length ∧
        FailedWrite bindings schema (Repository.persistAll translator store before).state
          entity failure (Repository.persistAll translator store entities).state) ∧
    (∀ entity failure, entity.Meets .derived bindings (.derived schema) →
      ((upsert translator store entity).result = .error failure →
        entity.identity.isEmpty = true ∧ (upsert translator store entity).state = store) ∧
      ((Repository.persist translator store entity).result = .error failure →
        entity.identity.isEmpty = true ∧
          (Repository.persist translator store entity).state = store)) ∧
    (∀ entities failure,
      (∀ entity ∈ entities, entity.Meets .derived bindings (.derived schema)) →
      (Repository.persistAll translator store entities).result = .error failure →
      ∃ before entity after, entities = before ++ entity :: after ∧
        entity.identity.isEmpty = true ∧
        (Repository.persistAll translator store entities).state
          = (Repository.persistAll translator store before).state) := by
  subst htranslator
  have honly := Demand.derivedOnly_derived
  refine ⟨fun _ _ => failedWrite_of_upsert hstore, fun _ _ => failedWrite_of_persist hstore,
    fun _ _ _ hleft _ => hleft.get?_of_ne, ?_, ?_, ?_⟩
  · intro entities failure hmeets hfail
    obtain ⟨before, entity, after, rfl, hbefore, hentity, hstate⟩ :=
      exists_failed_of_persistAll hfail
    -- The store that the failing entity meets still has records of the right form.
    have hreached := hstore.persistAll fun entity hmem =>
      hmeets entity (List.mem_append_left _ hmem)
    refine ⟨before, entity, after, rfl, hbefore, ?_⟩
    rw [hstate]
    exact failedWrite_of_persist hreached (hmeets entity (by simp)) hentity
  · intro entity failure hmeets
    exact ⟨unidentified_of_upsert honly hstore hmeets,
      unidentified_of_persist honly hstore hmeets⟩
  · intro entities failure hmeets hfail
    obtain ⟨before, entity, after, rfl, _, hentity, hstate⟩ := exists_failed_of_persistAll hfail
    have hreached := hstore.persistAll fun entity hmem =>
      (hmeets entity (List.mem_append_left _ hmem)).toShaped
    obtain ⟨hid, hsame⟩ :=
      unidentified_of_persist honly hreached (hmeets entity (by simp)) hentity
    exact ⟨before, entity, after, rfl, hid, hstate.trans hsame⟩

/-! ### A parcel with a tag that is refused -/

namespace Sample

/-- The kind of properties with tags. -/
def tagKind : PropertyKind :=
  .nested (named "TagRecord") (named "TagTranslator")

/-- A parcel has tags in every shape between two texts. -/
def parcelSchema : Schema :=
  schema "Parcel" [] [
    property "first" (named "String") .text,
    { property "tag" (named "Tag") .other with kind := tagKind },
    { property "spare" (named "Tag") .other with
      declared := applied "Option" (named "Tag")
      kind := tagKind
      isOptional := true },
    { property "tags" (named "Tag") .other with
      declared := applied "Vec" (named "Tag")
      kind := tagKind
      isArray := true },
    property "last" (named "String") .text]

/-- The schema of parcels comes from a declaration. -/
theorem accepted_parcelSchema : parcelSchema.Accepted :=
  ⟨declared "Parcel" [field [] "id" (named "Identity"), field [] "first" (named "String"),
    field ["nested"] "tag" (named "Tag"), field ["nested"] "spare" (applied "Option" (named "Tag")),
    field ["nested"] "tags" (applied "Vec" (named "Tag")), field [] "last" (named "String")], rfl⟩

/-- Tags are translated by hand. -/
def parcels : Bindings :=
  { grove with
    zero := fun _ => .text ""
    handler := fun _ => .custom Tag.translator }

/-- A parcel whose tag has no label. -/
def unlabelled : Entity :=
  .mk ⟨"p"⟩ [] [.one (.text "a"),
    .child (.mk ⟨"t"⟩ [] [.one (.text ""), .one (.integer 1)]), .maybeChild none, .children [],
    .one (.text "b")]

/-- A parcel without a label is in shape. -/
theorem meets_unlabelled : unlabelled.Meets .shaped parcels (.derived parcelSchema) := by
  refine .of_fields accepted_parcelSchema (.cons ⟨⟨rfl, rfl, ?_⟩, ?_⟩
    (.cons ⟨⟨rfl, rfl, ?_⟩, ?_⟩ (.cons ⟨⟨rfl, rfl, ?_⟩, ?_⟩ (.cons ⟨⟨rfl, rfl, ?_⟩, ?_⟩
      (.cons ⟨⟨rfl, rfl, ?_⟩, ?_⟩ .nil)))))
  all_goals first
    | exact fun _ _ => trivial
    | exact fun child _ => .custom Tag.translator child trivial

end Sample

/-- A refused tag leaves a new record in the store, with the text before the tag
written and the one after it not. -/
theorem persist_unlabelled_changes_store :
    Sample.unlabelled.Meets .shaped Sample.parcels (.derived Sample.parcelSchema) ∧
    (Repository.persist (Handler.translator Sample.parcels (.derived Sample.parcelSchema))
      MemoryStore.empty Sample.unlabelled).result
        = .error (.refused (.untranslatable "Tag.label" "label is empty")) ∧
    (Repository.persist (Handler.translator Sample.parcels (.derived Sample.parcelSchema))
      MemoryStore.empty Sample.unlabelled).state.get? ⟨"p"⟩
        = some (.mk ⟨"p"⟩ [.plain (.text "a"), .row none, .row none, .rows [],
            .plain (.text "")]) ∧
    MemoryStore.empty.get? ⟨"p"⟩ = none :=
  ⟨Sample.meets_unlabelled, rfl, rfl, rfl⟩

/-- A parcel without a label is not persisted, and what was written of it stays in the store. -/
theorem failed_write_leaves_unlabelled :
    FailedWrite Sample.parcels Sample.parcelSchema .empty Sample.unlabelled
      (.refused (.untranslatable "Tag.label" "label is empty"))
      (Repository.persist (Handler.translator Sample.parcels (.derived Sample.parcelSchema))
        MemoryStore.empty Sample.unlabelled).state := by
  have hstore : MemoryStore.empty.Shaped Sample.parcels Sample.parcelSchema :=
    fun _ _ hget => by cases hget
  exact (failed_write_leaves Sample.parcels Sample.parcelSchema .empty hstore _ rfl).2.1
    Sample.unlabelled _ Sample.meets_unlabelled rfl

end Recordsmith

import Recordsmith.Proofs.Translate.DamagedReading
import Recordsmith.Proofs.Translate.Quiet

/-!
# `Recordsmith.Proofs.Translate.Calls`: the calls of nested translators

A translator that calls a nested one twice, or for a record that is not there, may still
give the right values. So the calls are made visible: in `Bindings.observed` every nested
translator reports a note of each call in place of its own events, and otherwise does what
it did before.

`Noted` says that the notes in a log are those of the calls that were due, in order: all of
them if nothing failed, and else the first of them, up to the one that failed if a call did.
The calls that are due are read off what is to be translated: those for reading off the
record (`reads`), and those for writing off the entity alone (`writes`), whatever record it
is written into.

`Run.Observes` and `Step.Observes` say that notes are taken of the calls that are due and
that the outcome is the one without them. They hold of a nested call, and what is put
together from runs inherits them (`Run.Observes.bind`). This gives `nested_calls_in_order`.
-/

set_option autoImplicit false

namespace Recordsmith

open Recordsmith.Source Recordsmith.Schema

/-! ### Notes of calls -/

/-- A call of the translator of a nested type. -/
inductive Call where
  /-- A record is read. -/
  | read (translator : TypeExpr) (row : Row)
  /-- An entity is written into a record. -/
  | write (translator : TypeExpr) (entity : Entity)

/-- What is noted of a call and of its failure, if it fails. -/
abbrev Call.Note : Type :=
  Call → Option Failure → List (String × String)

/-- The failure that a run ended with. -/
def failure? {α : Type} : Except Failure α → Option Failure
  | .ok _ => none
  | .error failure => some failure

/-- The translator of a name, with a note of each call in place of its own events. -/
def Translator.observed (note : Call.Note) (name : TypeExpr) (translator : Translator) :
    Translator where
  fresh := translator.fresh
  read row :=
    let run := translator.read row
    ⟨[.notice "read" (note (.read name row) (failure? run.result))], run.result⟩
  write entity row :=
    let step := translator.write entity row
    ⟨step.state, [.notice "write" (note (.write name entity) (failure? step.result))], step.result⟩

/-- The types with the same meaning and notes of all calls of nested translators. -/
def Bindings.observed (bindings : Bindings) (note : Call.Note) : Bindings :=
  { bindings with
    handler := fun name =>
      .custom (((bindings.handler name).translator bindings).observed note name) }

/-- What is noted in a log. -/
def notes (log : List Event) : List (List (String × String)) :=
  log.filterMap fun event =>
    match event with
    | .notice _ fields => some fields
    | _ => none

/-- Whether the notes in a log are those of the calls that were due, given how the run
ended. -/
inductive Noted (note : Call.Note) (due : List Call) (log : List Event) :
    Option Failure → Prop where
  /-- All calls were made, and none failed. -/
  | all (noted : notes log = due.map (note · none)) : Noted note due log none
  /-- Something else failed, when the first calls had been made. -/
  | upTo (before after : List Call) {failure : Failure} (due_eq : due = before ++ after)
      (noted : notes log = before.map (note · none)) : Noted note due log (some failure)
  /-- A call failed, and it was the last. -/
  | failed (before : List Call) (call : Call) (after : List Call) {failure : Failure}
      (due_eq : due = before ++ call :: after)
      (noted : notes log = before.map (note · none) ++ [note call (some failure)]) :
      Noted note due log (some failure)

/-- Whether a run ends as another one does, and the calls that it notes are those due. -/
structure Run.Observes {α : Type} (note : Call.Note) (due : List Call) (observed plain : Run α) :
    Prop where
  result_eq : observed.result = plain.result
  noted : Noted note due observed.log (failure? observed.result)

/-- Whether a step leaves and ends as another one does, and the calls that it notes are
those due. -/
structure Step.Observes {σ α : Type} (note : Call.Note) (due : List Call)
    (observed plain : Step σ α) : Prop where
  state_eq : observed.state = plain.state
  result_eq : observed.result = plain.result
  noted : Noted note due observed.log (failure? observed.result)

/-! ### Calls that are due -/

namespace Schema

/-- The calls for reading a property: one for each record in its cell. -/
def Property.reads (property : Property) (cell : Cell) : List Call :=
  if property.isNested then cell.nested.map (.read property.translator) else []

/-- The calls for writing a property: one for each entity in its field. -/
def Property.writes (property : Property) (field : FieldValue) : List Call :=
  if property.isNested then field.nested.map (.write property.translator) else []

/-- The calls for reading a record. -/
def reads (schema : Schema) (row : Row) : List Call :=
  (schema.properties.zip row.cells).flatMap fun stored => stored.1.reads stored.2

/-- The calls for writing an entity. -/
def writes (schema : Schema) (entity : Entity) : List Call :=
  (schema.properties.zip entity.fields).flatMap fun given => given.1.writes given.2

/-- The calls for reading a cell by a plan. -/
def ReadPlan.calls (plan : ReadPlan) (cell : Cell) : List Call :=
  match plan with
  | .nestedList translator _ | .nestedOptional translator | .nestedRequired translator =>
    cell.nested.map (.read translator)
  | _ => []

/-- The calls for writing a field by a plan. -/
def WritePlan.calls (plan : WritePlan) (field : FieldValue) : List Call :=
  match plan with
  | .nestedList translator _ | .nestedOptional translator | .nestedRequired translator =>
    field.nested.map (.write translator)
  | _ => []

/-- The calls of the plan of a property are those that are due for reading it. -/
theorem ReadPlan.calls_of (property : Property) (cell : Cell) :
    (ReadPlan.of property).calls cell = property.reads cell := by
  unfold Property.reads
  cases hnested : property.isNested with
  | true =>
      rw [ReadPlan.of_nested hnested]
      cases property.isArray <;> cases property.isOptional <;> rfl
  | false =>
      rw [ReadPlan.of_scalar hnested]
      cases Storage.of property <;> cases property.isOptional <;> cases property.kind.isEnum <;> rfl

/-- The calls of the plan of a property are those that are due for writing it. -/
theorem WritePlan.calls_of (property : Property) (field : FieldValue) :
    (WritePlan.of property).calls field = property.writes field := by
  unfold Property.writes
  cases hnested : property.isNested with
  | true =>
      rw [WritePlan.of_nested hnested]
      cases property.isArray <;> cases property.isOptional <;> rfl
  | false =>
      rw [WritePlan.of_scalar hnested]
      cases Storage.of property <;> cases property.isOptional <;> rfl

end Schema

section

variable {note : Call.Note} {due later : List Call} {log events : List Event}
  {outcome : Option Failure} {α β ι σ : Type}

/-! ### Notes of one run after the other -/

/-- The notes of two logs are those of the first and then those of the second. -/
theorem notes_append (log events : List Event) :
    notes (log ++ events) = notes log ++ notes events :=
  List.filterMap_append

namespace Noted

/-- Calls that are due after a run without failure. -/
theorem append (h : Noted note due log none) (h' : Noted note later events outcome) :
    Noted note (due ++ later) (log ++ events) outcome := by
  cases h with
  | all noted =>
      cases h' with
      | all noted' => exact .all (by rw [notes_append, noted, noted', List.map_append])
      | upTo before after due_eq noted' =>
          refine .upTo (due ++ before) after ?_ ?_
          · rw [due_eq, List.append_assoc]
          · rw [notes_append, noted, noted', List.map_append]
      | failed before call after due_eq noted' =>
          refine .failed (due ++ before) call after ?_ ?_
          · rw [due_eq, List.append_assoc]
          · rw [notes_append, noted, noted', List.map_append, List.append_assoc]

/-- Calls that would be due after a failure are not made. -/
theorem missed {failure : Failure} (h : Noted note due log (some failure)) (later : List Call) :
    Noted note (due ++ later) log (some failure) := by
  cases h with
  | upTo before after due_eq noted =>
      exact .upTo before (after ++ later) (by rw [due_eq, List.append_assoc]) noted
  | failed before call after due_eq noted =>
      exact .failed before call (after ++ later) (by rw [due_eq, List.append_assoc]; rfl) noted

/-- A run without notes, where no calls are due. -/
theorem silent (h : notes log = []) : ∀ outcome, Noted note [] log outcome
  | none => .all h
  | some _ => .upTo [] [] rfl h

/-- A failure before all calls. -/
theorem none_made (due : List Call) (failure : Failure) : Noted note due [] (some failure) :=
  .upTo [] due rfl rfl

/-- The note of one call. -/
theorem one (call : Call) (message : String) :
    ∀ outcome, Noted note [call] [.notice message (note call outcome)] outcome
  | none => .all rfl
  | some _ => .failed [] call [] rfl rfl

end Noted

namespace Run.Observes

variable {observed plain : Run α}

/-- A run without notes of its own notes the calls of which there are none. -/
theorem silent {run : Run α} (h : notes run.log = []) : Observes note [] run run :=
  ⟨rfl, .silent h _⟩

/-- A failure may come before any call that is due. -/
theorem fail (failure : Failure) (due : List Call) :
    Observes note due (.fail failure : Run α) (.fail failure) :=
  ⟨rfl, .none_made due failure⟩

/-- The calls of one run come before those of the next. -/
theorem bind {nextObserved nextPlain : α → Run β} (h : Observes note due observed plain)
    (hnext : ∀ value, Observes note later (nextObserved value) (nextPlain value)) :
    Observes note (due ++ later) (observed >>= nextObserved) (plain >>= nextPlain) := by
  obtain ⟨log, result⟩ := observed
  obtain ⟨plainLog, plainResult⟩ := plain
  obtain rfl : result = plainResult := h.result_eq
  -- The two first runs end alike, so the next ones are both made or both not.
  cases result with
  | error failure => exact ⟨rfl, h.noted.missed later⟩
  | ok value => exact ⟨(hnext value).result_eq, h.noted.append (hnext value).noted⟩

/-- What makes no calls may follow. -/
theorem bind_silent {next : α → Run β} (h : Observes note due observed plain)
    (hnext : ∀ value, notes (next value).log = []) :
    Observes note due (observed >>= next) (plain >>= next) := by
  rw [← List.append_nil due]
  exact h.bind fun value => silent (hnext value)

/-- Runs of items, one after the other. -/
theorem each {observed plain : ι → Run α} {due : ι → List Call}
    (h : ∀ item, Observes note (due item) (observed item) (plain item)) (items : List ι) :
    Observes note (items.flatMap due) (Run.each observed items) (Run.each plain items) := by
  induction items with
  | nil => exact silent rfl
  | cons item rest ih =>
      rw [List.flatMap_cons]
      exact (h item).bind fun value => ih.bind_silent fun _ => rfl

end Run.Observes

/-! ### Reading -/

variable {bindings : Bindings}

/-- A loss is no note of a call. -/
theorem notes_eq_nil_of_onlyLosses (h : OnlyLosses log) : notes log = [] := by
  refine List.filterMap_eq_nil_iff.mpr fun event hevent => ?_
  have hloss := h event hevent
  cases event with
  | notice _ _ => cases hloss
  | _ => rfl

/-- A nested translator notes the one call of it. -/
theorem observes_nested_readRow (name : TypeExpr) (row : Row) :
    Run.Observes note [.read name row]
      (readRow (bindings.observed note) ((bindings.observed note).handler name) row)
      (readRow bindings (bindings.handler name) row) := by
  obtain ⟨identity, cells⟩ := row
  exact ⟨rfl, .one (.read name (.mk identity cells)) "read" _⟩

/-- Each row is read by one call, in order. -/
theorem observes_readRows (name : TypeExpr) (rows : List Row) :
    Run.Observes note (rows.map (.read name))
      (readRows (bindings.observed note) ((bindings.observed note).handler name) rows)
      (readRows bindings (bindings.handler name) rows) := by
  rw [readRows_eq_each, readRows_eq_each, List.map_eq_flatMap]
  exact .each (observes_nested_readRow name) rows

/-- A row is read by one call if it is there. -/
theorem observes_readOptionalRow (name : TypeExpr) (stored : Option Row) :
    Run.Observes note (stored.toList.map (.read name))
      (readOptionalRow (bindings.observed note) ((bindings.observed note).handler name) stored)
      (readOptionalRow bindings (bindings.handler name) stored) := by
  cases stored with
  | none => exact .silent rfl
  | some row => exact (observes_nested_readRow name row).bind_silent fun _ => rfl

/-- Reading values makes no calls. -/
theorem observes_readScalar (label : String) (plan : ReadPlan) {cell : Cell}
    (h : cell.nested = []) :
    Run.Observes note (plan.calls cell) (readScalar (bindings.observed note) label plan cell)
      (readScalar bindings label plan cell) := by
  have hcalls : plan.calls cell = [] := by
    cases plan <;> simp only [ReadPlan.calls, h, List.map_nil]
  rw [hcalls]
  exact .silent (notes_eq_nil_of_onlyLosses (onlyLosses_readScalar label plan cell))

/-- Each record in a cell is read by one call. -/
theorem observes_readCell (label : String) (plan : ReadPlan) (cell : Cell) :
    Run.Observes note (plan.calls cell) (readCell (bindings.observed note) label plan cell)
      (readCell bindings label plan cell) := by
  cases cell with
  | rows rows =>
      cases plan with
      | nestedList name optional =>
          simp only [readCell]
          exact (observes_readRows name rows).bind_silent fun _ => rfl
      | _ => exact .fail (.misshapen label) _
  | row stored =>
      cases plan with
      | nestedOptional name =>
          simp only [readCell]
          exact (observes_readOptionalRow name stored).bind_silent fun _ => rfl
      | nestedRequired name =>
          simp only [readCell]
          -- That the record has to be there is checked after the call, and without another.
          refine (observes_readOptionalRow name stored).bind_silent fun found => ?_
          cases found <;> rfl
      | _ => exact .fail (.misshapen label) _
  | plain _ | boxed _ | optional _ | list _ => exact observes_readScalar label plan rfl

/-- A record is read by the calls that are due for its cells. -/
theorem observes_readRow (schema : Schema) (row : Row) :
    Run.Observes note (schema.reads row) (readRow (bindings.observed note) (.derived schema) row)
      (readRow bindings (.derived schema) row) := by
  have hproperty : ∀ stored : Property × Cell, Run.Observes note (stored.1.reads stored.2)
      (readProperty (bindings.observed note) schema stored)
      (readProperty bindings schema stored) := by
    rintro ⟨property, cell⟩
    rw [← ReadPlan.calls_of]
    exact observes_readCell _ _ cell
  rw [readRow_eq_each, readRow_eq_each]
  exact (Run.Observes.each hproperty _).bind_silent fun _ => rfl

/-! ### Writing -/

namespace Step.Observes

/-- A step without events notes the calls of which there are none. -/
theorem silent {step : Step σ α} (h : step.log = []) : Observes note [] step step :=
  ⟨rfl, rfl, .silent (by rw [h]; rfl) _⟩

/-- A step that fails may do so before any call that is due. -/
theorem fail (state : σ) (failure : Failure) (due : List Call) :
    Observes note due (.fail state failure : Step σ α) (.fail state failure) :=
  ⟨rfl, rfl, .none_made due failure⟩

/-- A step makes the same calls inside of a larger state. -/
theorem within {τ : Type} {observed plain : Step σ α} (h : Observes note due observed plain)
    (put : σ → τ) : Observes note due (observed.within put) (plain.within put) :=
  ⟨congrArg put h.state_eq, h.result_eq, h.noted⟩

/-- A step makes the same calls when it is run for its state. -/
theorem toRun {observed plain : Step Row Unit} (h : Observes note due observed plain) :
    Run.Observes note due observed.toRun plain.toRun := by
  obtain ⟨state, log, result⟩ := observed
  obtain ⟨_, _, _⟩ := plain
  obtain ⟨rfl, rfl, noted⟩ := h
  cases result <;> exact ⟨rfl, noted⟩

/-- Putting a row back into its cell makes no call of its own. -/
theorem refreshedCell {observed plain : Step Row Unit} (h : Observes note due observed plain) :
    Observes note due (Recordsmith.refreshedCell observed) (Recordsmith.refreshedCell plain) := by
  obtain ⟨state, log, result⟩ := observed
  obtain ⟨_, _, _⟩ := plain
  obtain ⟨rfl, rfl, noted⟩ := h
  cases result <;> exact ⟨rfl, rfl, noted⟩

/-- The first of some cells is written before the others. -/
theorem cons {first plainFirst : Step Cell Unit} {rest plainRest : Step (List Cell) Unit}
    (hfirst : Observes note due first plainFirst) (hrest : Observes note later rest plainRest)
    (cells : List Cell) :
    Observes note (due ++ later)
      (match first.result with
        | .error failure => ⟨first.state :: cells, first.log, .error failure⟩
        | .ok _ => (rest.within (first.state :: ·)).after first.log)
      (match plainFirst.result with
        | .error failure => ⟨plainFirst.state :: cells, plainFirst.log, .error failure⟩
        | .ok _ => (plainRest.within (plainFirst.state :: ·)).after plainFirst.log) := by
  obtain ⟨state, log, result⟩ := first
  obtain ⟨_, _, _⟩ := plainFirst
  obtain ⟨rfl, rfl, noted⟩ := hfirst
  -- A failure of the first cell leaves the calls of the others unmade.
  cases result with
  | error failure => exact ⟨rfl, rfl, noted.missed later⟩
  | ok _ =>
      exact ⟨congrArg (state :: ·) hrest.state_eq, hrest.result_eq, noted.append hrest.noted⟩

end Step.Observes

/-- Putting rows back into their cell makes no call of its own. -/
theorem Run.Observes.refilledCell {observed plain : Run (List Row)}
    (h : Run.Observes note due observed plain) :
    Step.Observes note due (Recordsmith.refilledCell observed)
      (Recordsmith.refilledCell plain) := by
  obtain ⟨log, result⟩ := observed
  obtain ⟨_, _⟩ := plain
  obtain ⟨rfl, noted⟩ := h
  cases result <;> exact ⟨rfl, rfl, noted⟩

/-- A nested entity is written by one call. -/
theorem observes_nested_writeRow (name : TypeExpr) (entity : Entity) (row : Row) :
    Step.Observes note [.write name entity]
      (writeRow (bindings.observed note) ((bindings.observed note).handler name) entity row)
      (writeRow bindings (bindings.handler name) entity row) := by
  obtain ⟨identity, skipped, fields⟩ := entity
  exact ⟨rfl, rfl, .one (.write name (.mk identity skipped fields)) "write" _⟩

/-- Entities are written one by one, each into a fresh record. -/
theorem writeRows_eq_each (handler : Handler) (entities : List Entity) :
    writeRows bindings handler entities
      = Run.each (fun entity => (writeRow bindings handler entity
          (startRow (handler.fresh bindings) entity.identity none)).toRun) entities := by
  induction entities with
  | nil => rfl
  | cons entity rest ih => rw [writeRows, Run.each, ih]

/-- Each entity is written by one call, in order. -/
theorem observes_writeRows (name : TypeExpr) (entities : List Entity) :
    Run.Observes note (entities.map (.write name))
      (writeRows (bindings.observed note) ((bindings.observed note).handler name) entities)
      (writeRows bindings (bindings.handler name) entities) := by
  rw [writeRows_eq_each, writeRows_eq_each, List.map_eq_flatMap]
  exact .each (fun entity => (observes_nested_writeRow name entity _).toRun) entities

/-- Elements are written without any call. -/
theorem observes_writeScalar (label : String) (plan : WritePlan) {field : FieldValue}
    (h : field.nested = []) (cell : Cell) :
    Step.Observes note (plan.calls field)
      (writeScalar (bindings.observed note) label plan field cell)
      (writeScalar bindings label plan field cell) := by
  have hcalls : plan.calls field = [] := by
    cases plan <;> simp only [WritePlan.calls, h, List.map_nil]
  rw [hcalls]
  refine .silent ?_
  unfold writeScalar
  split <;> rfl

/-- Each entity in a field is written by one call. -/
theorem observes_writeField (label : String) (plan : WritePlan) (field : FieldValue)
    (cell : Cell) :
    Step.Observes note (plan.calls field)
      (writeField (bindings.observed note) label plan field cell)
      (writeField bindings label plan field cell) := by
  -- A plan that does not fit the field fails before it calls anything, which the calls that are
  -- due allow.
  cases field with
  | child entity =>
      unfold writeField
      split
      · exact (observes_nested_writeRow _ entity _).refreshedCell
      · exact .fail cell _ _
  | maybeChild stored =>
      cases stored with
      | none =>
          unfold writeField
          split
          · exact .silent rfl
          · exact .fail cell _ _
      | some entity =>
          unfold writeField
          split
          · exact (observes_nested_writeRow _ entity _).refreshedCell
          · exact .fail cell _ _
  | children entities =>
      unfold writeField
      split
      · exact (observes_writeRows _ entities).refilledCell
      · exact .fail cell _ _
  | maybeChildren stored =>
      cases stored with
      | none =>
          unfold writeField
          split
          · exact .silent rfl
          · exact .fail cell _ _
      | some entities =>
          unfold writeField
          split
          · exact (observes_writeRows _ entities).refilledCell
          · exact .fail cell _ _
  | one _ | maybe _ | many _ | maybeMany _ => exact observes_writeScalar label plan rfl cell

/-- Fields are written by the calls that are due for each of them, in order. -/
theorem observes_writeFields (schema : Schema) {properties : List Property}
    (fields : List FieldValue) {cells : List Cell} (h : cells.length = properties.length) :
    Step.Observes note
      ((properties.zip fields).flatMap fun given => given.1.writes given.2)
      (writeFields (bindings.observed note) schema properties fields cells)
      (writeFields bindings schema properties fields cells) := by
  induction fields generalizing properties cells with
  | nil =>
      rw [List.zip_nil_right]
      exact .silent rfl
  | cons field rest ih =>
      cases properties with
      | nil => exact .silent rfl
      | cons property properties =>
          -- There is a cell for each property, so none is passed over for want of a cell.
          cases cells with
          | nil => cases h
          | cons cell cells =>
              rw [List.zip_cons_cons, List.flatMap_cons, writeFields, writeFields]
              refine .cons ?_ (ih (Nat.succ.inj h)) cells
              rw [← WritePlan.calls_of]
              exact observes_writeField _ _ field cell

/-- An entity is written by the calls that are due for its fields. -/
theorem observes_writeRow (schema : Schema) (entity : Entity) {row : Row}
    (h : row.cells.length = schema.properties.length) :
    Step.Observes note (schema.writes entity)
      (writeRow (bindings.observed note) (.derived schema) entity row)
      (writeRow bindings (.derived schema) entity row) := by
  obtain ⟨identity, skipped, fields⟩ := entity
  exact (observes_writeFields schema fields h).within (Row.mk row.identity)

end

/-- The translator of a schema calls nested translators once for each nested record when it
reads one, and once for each nested entity when it writes one, in the order of the
properties and within a list in the order of its elements. A failure ends the calls. -/
theorem nested_calls_in_order (bindings : Bindings) (schema : Schema) (note : Call.Note) :
    (∀ row, Run.Observes note (schema.reads row)
      ((Handler.translator (bindings.observed note) (.derived schema)).read row)
      ((Handler.translator bindings (.derived schema)).read row)) ∧
    ∀ entity row, row.cells.length = schema.properties.length →
      Step.Observes note (schema.writes entity)
        ((Handler.translator (bindings.observed note) (.derived schema)).write entity row)
        ((Handler.translator bindings (.derived schema)).write entity row) :=
  ⟨observes_readRow schema, fun entity _ hcells => observes_writeRow schema entity hcells⟩

/-! ### The tags of a parcel -/

namespace Sample

/-- Calls are noted by the identity of what is translated. -/
def roll : Call.Note := fun call failure =>
  let subject :=
    match call with
    | .read _ row => ("read", row.identity.text)
    | .write _ entity => ("write", entity.identity.text)
  match failure with
  | none => [subject]
  | some _ => [subject, ("failed", "")]

/-- A tag with a label. -/
def tagEntity (identity label : String) : Entity :=
  .mk ⟨identity⟩ [] [.one (.text label), .one (.integer 1)]

/-- A parcel with no spare tag, and with a list of tags of which the second has no label. -/
def mislabelled : Entity :=
  .mk ⟨"p"⟩ [] [.one (.text "a"), .child (tagEntity "t" "x"), .maybeChild none,
    .children [tagEntity "u" "y", tagEntity "v" "", tagEntity "w" "z"], .one (.text "b")]

/-- The record of a parcel with a spare tag and no tags in its list. -/
def spareRow : Row :=
  .mk ⟨"p"⟩ [.plain (.text "a"), .row (some (Tag.row ⟨"t"⟩ (.text "x") (.integer 1) 0)),
    .row (some (Tag.row ⟨"s"⟩ (.text "y") (.integer 1) 0)), .rows [], .plain (.text "b")]

end Sample

/-- A tag without a label is the last that is written. The spare tag of the record that is
there has no part in this. -/
theorem nested_calls_in_order_mislabelled :
    Sample.spareRow.cells.length = Sample.parcelSchema.properties.length ∧
    Sample.parcelSchema.writes Sample.mislabelled
      = [Sample.tagEntity "t" "x", Sample.tagEntity "u" "y", Sample.tagEntity "v" "",
          Sample.tagEntity "w" "z"].map (.write (Sample.named "TagTranslator")) ∧
    Noted Sample.roll (Sample.parcelSchema.writes Sample.mislabelled)
      ((Handler.translator (Sample.parcels.observed Sample.roll)
        (.derived Sample.parcelSchema)).write Sample.mislabelled Sample.spareRow).log
      (some (Sample.Tag.refusal "label is empty")) ∧
    notes ((Handler.translator (Sample.parcels.observed Sample.roll)
        (.derived Sample.parcelSchema)).write Sample.mislabelled Sample.spareRow).log
      = [[("write", "t")], [("write", "u")], [("write", "v"), ("failed", "")]] := by
  have hwrite := (nested_calls_in_order Sample.parcels Sample.parcelSchema Sample.roll).2
    Sample.mislabelled Sample.spareRow rfl
  exact ⟨rfl, rfl, hwrite.noted, rfl⟩

end Recordsmith

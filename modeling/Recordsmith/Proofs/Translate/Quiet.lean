import Recordsmith.Sample.Tag
import Recordsmith.Translate.Derived

/-!
# `Recordsmith.Proofs.Translate.Quiet`: translators report nothing of a store

A translator made by hand may report what it likes, also that a store took in a
record. `Translator.Discreet` says that it reports nothing in the name of a
store, whatever it reads or writes.

Translating by a schema reports elements that are left out and whatever the
translators made by hand report, and nothing else. So the translators of schemas
are discreet if those made by hand are (`discreet_derived`).
-/

set_option autoImplicit false

namespace Recordsmith

open Recordsmith.Schema

/-- Whether an event is about the records of a store. -/
def Event.isOfStore : Event → Bool
  | .creating _ | .inserting _ | .persisted _ | .deleted _ => true
  | _ => false

/-- Whether some events are not about the records of a store. -/
def Quiet (events : List Event) : Prop :=
  ∀ event ∈ events, event.isOfStore = false

/-- Whether an event is about an element of a list that is left out. -/
def Event.isLoss : Event → Bool
  | .droppedRaw _ _ | .droppedText _ _ _ => true
  | _ => false

/-- Whether some events are only about elements that are left out. -/
def OnlyLosses (events : List Event) : Prop :=
  ∀ event ∈ events, event.isLoss = true

/-- Whether a translator reports nothing in the name of a store. -/
structure Translator.Discreet (translator : Translator) : Prop where
  write : ∀ entity row, Quiet (translator.write entity row).log
  read : ∀ row, Quiet (translator.read row).log

/-- Whether a domain type is translated by its schema or discreetly. -/
def Handler.Discreet : Handler → Prop
  | .derived _ => True
  | .custom translator => translator.Discreet

/-- Whether all translators made by hand are discreet. -/
def Bindings.Discreet (bindings : Bindings) : Prop :=
  ∀ name, (bindings.handler name).Discreet

section

variable {bindings : Bindings} {α β : Type} {log events : List Event}

/-- Nothing is reported by nothing. -/
theorem quiet_nil : Quiet [] := by
  intro event hevent
  cases hevent

/-- Two quiet logs are quiet together. -/
theorem Quiet.append (h : Quiet log) (h' : Quiet events) : Quiet (log ++ events) := by
  intro event hevent
  rcases List.mem_append.mp hevent with hmem | hmem
  · exact h event hmem
  · exact h' event hmem

/-- What holds of the events of two runs holds of those of one after the other. -/
theorem Run.forall_mem_log_bind {P : Event → Prop} {first : Run α} {next : α → Run β}
    (h : ∀ event ∈ first.log, P event) (hnext : ∀ value, ∀ event ∈ (next value).log, P event) :
    ∀ event ∈ (first >>= next).log, P event := by
  show ∀ event ∈ (first.andThen next).log, P event
  unfold Run.andThen
  split
  · exact List.forall_mem_append.mpr ⟨h, hnext _⟩
  · exact h

/-- A run is quiet if what comes first is and what follows on any value is. -/
theorem Quiet.bind {first : Run α} {next : α → Run β} (h : Quiet first.log)
    (hnext : ∀ value, Quiet (next value).log) : Quiet (first >>= next).log :=
  Run.forall_mem_log_bind h hnext

/-- A value alone reports nothing. -/
theorem quiet_pure (value : α) : Quiet (pure value : Run α).log := quiet_nil

/-! ### Writing -/

/-- Putting a row back into its cell reports nothing of its own. -/
theorem quiet_refreshedCell {step : Step Row Unit} (h : Quiet step.log) :
    Quiet (refreshedCell step).log := by
  unfold refreshedCell
  split <;> exact h

/-- Putting rows back into their cell reports nothing of its own. -/
theorem quiet_refilledCell {run : Run (List Row)} (h : Quiet run.log) :
    Quiet (refilledCell run).log := by
  unfold refilledCell
  split <;> exact h

/-- Writing elements reports nothing. -/
theorem quiet_writeScalar (label : String) (plan : WritePlan) (field : FieldValue)
    (cell : Cell) : Quiet (writeScalar bindings label plan field cell).log := by
  unfold writeScalar
  split <;> exact quiet_nil

mutual

/-- Writing an entity reports only what translators made by hand report. -/
theorem quiet_writeRow (h : bindings.Discreet) : ∀ (handler : Handler), handler.Discreet →
    ∀ (entity : Entity) (row : Row), Quiet (writeRow bindings handler entity row).log
  | .custom _, hhandler, .mk _ _ _, row => hhandler.write _ row
  | .derived schema, _, .mk _ _ fields, row =>
      quiet_writeFields h schema schema.properties fields row.cells

/-- So does writing fields. -/
theorem quiet_writeFields (h : bindings.Discreet) (schema : Schema) :
    ∀ (properties : List Property) (fields : List FieldValue) (cells : List Cell),
      Quiet (writeFields bindings schema properties fields cells).log
  | _, [], _ => quiet_nil
  | [], _ :: _, _ => quiet_nil
  | _ :: _, _ :: _, [] => quiet_nil
  | property :: properties, field :: fields, cell :: cells => by
      have hfirst := quiet_writeField h (schema.label property) (WritePlan.of property) field cell
      have hrest := quiet_writeFields h schema properties fields cells
      rw [writeFields]
      split
      · exact hfirst
      · exact hfirst.append hrest

/-- So does writing a field. -/
theorem quiet_writeField (h : bindings.Discreet) (label : String) (plan : WritePlan) :
    ∀ (field : FieldValue) (cell : Cell),
      Quiet (writeField bindings label plan field cell).log
  | .child entity, cell => by
      -- A plan that does not fit the field fails at once, before anything is reported.
      unfold writeField
      split
      · exact quiet_refreshedCell (quiet_writeRow h _ (h _) entity _)
      · exact quiet_nil
  | .maybeChild none, cell => by
      unfold writeField
      split <;> exact quiet_nil
  | .maybeChild (some entity), cell => by
      unfold writeField
      split
      · exact quiet_refreshedCell (quiet_writeRow h _ (h _) entity _)
      · exact quiet_nil
  | .children entities, cell => by
      unfold writeField
      split
      · exact quiet_refilledCell (quiet_writeRows h _ (h _) entities)
      · exact quiet_nil
  | .maybeChildren none, cell => by
      unfold writeField
      split <;> exact quiet_nil
  | .maybeChildren (some entities), cell => by
      unfold writeField
      split
      · exact quiet_refilledCell (quiet_writeRows h _ (h _) entities)
      · exact quiet_nil
  | .one value, cell => quiet_writeScalar label plan (.one value) cell
  | .maybe value, cell => quiet_writeScalar label plan (.maybe value) cell
  | .many values, cell => quiet_writeScalar label plan (.many values) cell
  | .maybeMany values, cell => quiet_writeScalar label plan (.maybeMany values) cell

/-- So does making records. -/
theorem quiet_writeRows (h : bindings.Discreet) : ∀ (handler : Handler), handler.Discreet →
    ∀ (entities : List Entity), Quiet (writeRows bindings handler entities).log
  | _, _, [] => quiet_nil
  | handler, hhandler, entity :: rest => by
      have hfirst := quiet_writeRow h handler hhandler entity
        (startRow (handler.fresh bindings) entity.identity none)
      rw [writeRows]
      refine Quiet.bind hfirst fun row => Quiet.bind ?_ fun rows => quiet_pure _
      exact quiet_writeRows h handler hhandler rest

end

/-! ### Reading -/

/-- Nothing is lost where nothing is reported. -/
theorem onlyLosses_nil : OnlyLosses [] := by
  intro event hevent
  cases hevent

/-- A run reports losses only if what comes first does and what follows on any value does. -/
theorem OnlyLosses.bind {first : Run α} {next : α → Run β} (h : OnlyLosses first.log)
    (hnext : ∀ value, OnlyLosses (next value).log) : OnlyLosses (first >>= next).log :=
  Run.forall_mem_log_bind h hnext

/-- A value alone reports nothing, so nothing but losses. -/
theorem onlyLosses_pure (value : α) : OnlyLosses (pure value : Run α).log := onlyLosses_nil

/-- Dropping raw values of no enumeration reports losses only. -/
theorem onlyLosses_keepValid_raw (enumeration : RawEnum) (label : String) (raws : List Value) :
    OnlyLosses (enumeration.keepValid label raws).log := by
  induction raws with
  | nil => exact onlyLosses_nil
  | cons raw rest ih =>
      rw [RawEnum.keepValid]
      split
      · exact OnlyLosses.bind ih fun _ => onlyLosses_pure _
      · refine OnlyLosses.bind ?_ fun _ => ih
        intro event hevent
        rw [List.mem_singleton.mp hevent]
        rfl

/-- Dropping texts that do not parse reports losses only. -/
theorem onlyLosses_keepValid_text (form : TextForm) (label : String) (texts : List String) :
    OnlyLosses (form.keepValid label texts).log := by
  induction texts with
  | nil => exact onlyLosses_nil
  | cons text rest ih =>
      rw [TextForm.keepValid]
      split
      · exact OnlyLosses.bind ih fun _ => onlyLosses_pure _
      · refine OnlyLosses.bind ?_ fun _ => ih
        intro event hevent
        rw [List.mem_singleton.mp hevent]
        rfl

/-- Loading a list reports losses only. -/
theorem onlyLosses_loadAll (transfer : Transfer) (stored : List Value) (label : String) :
    OnlyLosses (transfer.loadAll bindings stored label).log := by
  cases transfer with
  | raw enumeration => exact onlyLosses_keepValid_raw _ label stored
  | text type => exact onlyLosses_keepValid_text _ label _
  | copy => exact onlyLosses_nil

/-- Loading one element reports losses only. -/
theorem onlyLosses_load (transfer : Transfer) (stored : Value) (label : String) :
    OnlyLosses (transfer.load bindings stored label).log := by
  cases transfer with
  | raw enumeration =>
      show OnlyLosses (RawEnum.expect _ stored label).log
      unfold RawEnum.expect
      split <;> exact onlyLosses_nil
  | text type =>
      show OnlyLosses (TextForm.expect _ (storedText stored) label).log
      unfold TextForm.expect
      split <;> exact onlyLosses_nil
  | copy => exact onlyLosses_nil

/-- Reading an element that may be absent reports losses only. -/
theorem onlyLosses_readOption (transfer : Transfer) (label : String) (stored : Option Value) :
    OnlyLosses (readOption bindings transfer label stored).log := by
  cases stored with
  | none => exact onlyLosses_nil
  | some value => exact OnlyLosses.bind (onlyLosses_load transfer value label) fun _ =>
      onlyLosses_pure _

/-- Expecting an element to be present reports losses only. -/
theorem onlyLosses_expectPresent (value : Option α) (label : String) :
    OnlyLosses (expectPresent value label).log := by
  unfold expectPresent
  split <;> exact onlyLosses_nil

/-- Reading values reports only those that a list leaves out. -/
theorem onlyLosses_readScalar (label : String) (plan : ReadPlan) (cell : Cell) :
    OnlyLosses (readScalar bindings label plan cell).log := by
  unfold readScalar
  split
  · exact OnlyLosses.bind (onlyLosses_loadAll _ _ label) fun _ => onlyLosses_pure _
  · exact OnlyLosses.bind (onlyLosses_load _ _ label) fun _ => onlyLosses_pure _
  · exact OnlyLosses.bind (onlyLosses_readOption _ label _) fun _ => onlyLosses_pure _
  · exact OnlyLosses.bind (onlyLosses_load _ _ label) fun _ => onlyLosses_pure _
  · exact onlyLosses_nil
  · exact OnlyLosses.bind (onlyLosses_readOption _ label _) fun _ => onlyLosses_pure _
  · exact OnlyLosses.bind (onlyLosses_load _ _ label) fun _ => onlyLosses_pure _
  · exact OnlyLosses.bind (onlyLosses_expectPresent _ label) fun _ =>
      OnlyLosses.bind (onlyLosses_load _ _ label) fun _ => onlyLosses_pure _
  · exact onlyLosses_nil

/-- A loss is not an event of a store, so a log of losses is quiet. -/
theorem OnlyLosses.quiet (h : OnlyLosses events) : Quiet events := by
  intro event hevent
  have hloss := h event hevent
  cases event with
  | droppedRaw _ _ => rfl
  | droppedText _ _ _ => rfl
  | _ => cases hloss

/-- Reading elements is quiet. -/
theorem quiet_readScalar (label : String) (plan : ReadPlan) (cell : Cell) :
    Quiet (readScalar bindings label plan cell).log :=
  (onlyLosses_readScalar label plan cell).quiet

mutual

/-- Reading a record reports only lost elements and what translators made by
hand report. -/
theorem quiet_readRow (h : bindings.Discreet) : ∀ (handler : Handler), handler.Discreet →
    ∀ (row : Row), Quiet (readRow bindings handler row).log
  | .custom _, hhandler, .mk _ _ => hhandler.read _
  | .derived schema, _, .mk _ cells =>
      Quiet.bind (quiet_readCells h schema schema.properties cells) fun _ => quiet_pure _

/-- So does reading cells. -/
theorem quiet_readCells (h : bindings.Discreet) (schema : Schema) :
    ∀ (properties : List Property) (cells : List Cell),
      Quiet (readCells bindings schema properties cells).log
  | _, [] => quiet_nil
  | [], _ :: _ => quiet_nil
  | property :: properties, cell :: cells => by
      rw [readCells]
      refine Quiet.bind (quiet_readCell h _ _ cell) fun _ => Quiet.bind ?_ fun _ => quiet_pure _
      exact quiet_readCells h schema properties cells

/-- So does reading a cell. -/
theorem quiet_readCell (h : bindings.Discreet) (label : String) (plan : ReadPlan) :
    ∀ (cell : Cell), Quiet (readCell bindings label plan cell).log
  | .rows rows => by
      -- A plan that does not fit the cell fails before anything is read.
      unfold readCell
      split
      · exact Quiet.bind (quiet_readRows h _ (h _) rows) fun _ => quiet_pure _
      · exact quiet_nil
  | .row stored => by
      unfold readCell
      split
      · exact Quiet.bind (quiet_readOptionalRow h _ (h _) stored) fun _ => quiet_pure _
      · refine Quiet.bind (quiet_readOptionalRow h _ (h _) stored) fun found => ?_
        cases found <;> exact quiet_nil
      · exact quiet_nil
  | .plain value => quiet_readScalar label plan (.plain value)
  | .boxed box => quiet_readScalar label plan (.boxed box)
  | .optional value => quiet_readScalar label plan (.optional value)
  | .list items => quiet_readScalar label plan (.list items)

/-- So does reading a record if there is one. -/
theorem quiet_readOptionalRow (h : bindings.Discreet) : ∀ (handler : Handler),
    handler.Discreet → ∀ (stored : Option Row),
      Quiet (readOptionalRow bindings handler stored).log
  | _, _, none => quiet_nil
  | handler, hhandler, some row =>
      Quiet.bind (quiet_readRow h handler hhandler row) fun _ => quiet_pure _

/-- So does reading records. -/
theorem quiet_readRows (h : bindings.Discreet) : ∀ (handler : Handler), handler.Discreet →
    ∀ (rows : List Row), Quiet (readRows bindings handler rows).log
  | _, _, [] => quiet_nil
  | handler, hhandler, row :: rows => by
      rw [readRows]
      refine Quiet.bind (quiet_readRow h handler hhandler row) fun _ =>
        Quiet.bind ?_ fun _ => quiet_pure _
      exact quiet_readRows h handler hhandler rows

end

/-- The translator of a schema reports nothing in the name of a store, if those
made by hand do not. -/
theorem discreet_derived (h : bindings.Discreet) (schema : Schema) :
    (Handler.translator bindings (.derived schema)).Discreet where
  write entity row := quiet_writeRow h (.derived schema) trivial entity row
  read row := quiet_readRow h (.derived schema) trivial row

end

/-- The translator of tags reports only notices. -/
theorem Sample.discreet_tag : Tag.translator.Discreet where
  write entity row := by
    show Quiet (Tag.write entity row).log
    unfold Tag.write
    split
    · unfold Tag.overwrite
      -- A notice comes first, and then there is nothing but the way the writing ends.
      refine Quiet.append ?_ ?_
      · intro event hevent
        rw [List.mem_singleton.mp hevent]
        rfl
      · split
        · exact quiet_nil
        · split <;> exact quiet_nil
    · exact quiet_nil
  read row := by
    show Quiet (Tag.read row).log
    unfold Tag.read
    split
    · refine Quiet.bind ?_ fun _ => ?_
      · intro event hevent
        rw [List.mem_singleton.mp hevent]
        rfl
      · split <;> exact quiet_nil
    · exact quiet_nil

end Recordsmith

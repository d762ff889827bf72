import Recordsmith.Proofs.Store.Interrupted
import Recordsmith.Proofs.Translate.Typed

/-!
# `Recordsmith.Proofs.Translate.TypedReading`: reading records with the announced types

A record with the announced types is read as a value of its domain type, or reading
it fails in one of the ways that are documented (`readsTyped_of_typed`): what is
stored for some field is damaged, or a translator made by hand does not read a
nested record. So it never fails because a cell has the wrong form.

The cases of reading are chosen by storage, multiplicity and kind, and some of them
are right only because others are ruled out. A required box is read without looking
at its element, and a box with null as a zero value: both rest on what can be boxed.

`Run.Ends` says of a run what it may give and how it may fail, and `Run.Ends.bind`
puts two such runs together.
-/

set_option autoImplicit false

namespace Recordsmith

open Recordsmith.Source Recordsmith.Schema

section

variable {typing : Typing} {bindings : Bindings} {property : Property}

/-! ### Runs that end as expected -/

/-- Whether a run ends with a value that is as asked, or fails as expected. -/
def Run.Ends {α : Type} (asked : α → Prop) (expected : Failure → Prop) (run : Run α) : Prop :=
  match run.result with
  | .ok value => asked value
  | .error failure => expected failure

namespace Run.Ends

variable {α β : Type} {asked : α → Prop} {next : α → Run β} {wanted : β → Prop}
  {expected allowed : Failure → Prop} {run : Run α}

/-- A run that is done ends with its value. -/
theorem done {value : α} (h : asked value) : (Run.done value).Ends asked expected := h

/-- A run that fails ends with its failure. -/
theorem fail {failure : Failure} (h : expected failure) :
    (Run.fail failure : Run α).Ends asked expected := h

/-- A run ends as is asked if what comes first does and what follows on any such value does. -/
theorem bind (h : run.Ends asked expected)
    (hnext : ∀ value, asked value → (next value).Ends wanted expected) :
    (run >>= next).Ends wanted expected := by
  unfold Ends at h ⊢
  rw [Run.result_bind]
  cases hresult : run.result with
  | ok value =>
      rw [hresult] at h
      exact hnext value h
  | error failure =>
      rw [hresult] at h
      exact h

/-- Less may be asked of the end of a run. -/
theorem mono {weaker : α → Prop} (h : run.Ends asked expected)
    (hasked : ∀ value, asked value → weaker value)
    (hexpected : ∀ failure, expected failure → allowed failure) : run.Ends weaker allowed := by
  unfold Ends at h ⊢
  split at h
  · exact hasked _ h
  · exact hexpected _ h

end Run.Ends

/-! ### Reading values -/

/-- Whether a failure says that what is stored for a field is damaged. -/
def Failure.DamagedAt (label : String) (failure : Failure) : Prop :=
  ∃ corruption, failure = .corrupt corruption ∧ corruption.field = label

/-- A stored element is read as a value of its type, or it is damaged. -/
theorem ends_load (label : String) (hrespects : bindings.Respects typing)
    (hsound : property.Sound) (hscalar : property.isNested = false) {stored : Value}
    (h : typing.stored (StoredElement.of property) stored) :
    ((Transfer.of property).load bindings stored label).Ends
      (typing.value property.element) (Failure.DamagedAt label) := by
  rcases hsound.transfer_cases hscalar with
    ⟨htransfer, hstored⟩ | ⟨htransfer, hstored, hurl⟩ | ⟨htransfer, hcopy⟩
  · -- A raw value of the enumeration, but perhaps of none of its variants.
    rw [hstored] at h
    rw [htransfer]
    show (RawEnum.expect _ _ _).Ends _ _
    unfold RawEnum.expect
    cases hvalue : (bindings.rawEnum property.element).ofRaw? stored with
    | some value => exact .done (hrespects.ofRaw _ _ _ h hvalue)
    | none => exact .fail ⟨_, rfl, rfl⟩
  · -- Any text, which may parse or not.
    rw [htransfer]
    show (TextForm.expect _ _ _).Ends _ _
    unfold TextForm.expect
    cases hvalue : (bindings.textForm property.element).parse (storedText stored) with
    | ok value => exact .done (hrespects.parse _ _ _ hurl hvalue)
    | error reason => exact .fail ⟨_, rfl, rfl⟩
  · rw [htransfer]
    exact .done ((hrespects.stored_iff hcopy).mp h)

/-- The variants that are kept of a list of raw values. -/
theorem ends_keepValid_raw {enumeration : RawEnum} {asked : Value → Prop}
    {expected : Failure → Prop} (label : String) {raws : List Value}
    (h : ∀ raw ∈ raws, ∀ value, enumeration.ofRaw? raw = some value → asked value) :
    (enumeration.keepValid label raws).Ends (fun values => ∀ value ∈ values, asked value)
      expected := by
  induction raws with
  | nil => exact .done (by simp)
  | cons raw rest ih =>
      have hrest := ih fun raw hmem => h raw (List.mem_cons_of_mem _ hmem)
      rw [RawEnum.keepValid]
      cases hvalue : enumeration.ofRaw? raw with
      | some value =>
          have hfirst := h raw List.mem_cons_self value hvalue
          exact hrest.bind fun values hvalues => .done (List.forall_mem_cons.mpr ⟨hfirst, hvalues⟩)
      | none =>
          -- What is reported does not count for how the run ends.
          exact hrest

/-- The values that are kept of a list of texts. -/
theorem ends_keepValid_text {form : TextForm} {asked : Value → Prop}
    {expected : Failure → Prop} (label : String) {texts : List String}
    (h : ∀ text value, form.parse text = .ok value → asked value) :
    (form.keepValid label texts).Ends (fun values => ∀ value ∈ values, asked value)
      expected := by
  induction texts with
  | nil => exact .done (by simp)
  | cons text rest ih =>
      rw [TextForm.keepValid]
      cases hvalue : form.parse text with
      | ok value =>
          have hfirst := h text value hvalue
          exact ih.bind fun values hvalues => .done (List.forall_mem_cons.mpr ⟨hfirst, hvalues⟩)
      | error reason => exact ih

/-- A list of stored elements is always read, as values of their type. -/
theorem ends_loadAll {expected : Failure → Prop} (label : String)
    (hrespects : bindings.Respects typing) (hsound : property.Sound)
    (hscalar : property.isNested = false) {stored : List Value}
    (h : ∀ value ∈ stored, typing.stored (StoredElement.of property) value) :
    ((Transfer.of property).loadAll bindings stored label).Ends
      (fun values => ∀ value ∈ values, typing.value property.element value) expected := by
  -- A damaged element is dropped here, so unlike for a single one no case can fail.
  rcases hsound.transfer_cases hscalar with
    ⟨htransfer, hstored⟩ | ⟨htransfer, hstored, hurl⟩ | ⟨htransfer, hcopy⟩
  · rw [hstored] at h
    rw [htransfer]
    exact ends_keepValid_raw label fun raw hraw value => hrespects.ofRaw _ _ _ (h raw hraw)
  · rw [htransfer]
    exact ends_keepValid_text label fun text value => hrespects.parse _ _ _ hurl
  · rw [htransfer]
    exact .done fun value hvalue => (hrespects.stored_iff hcopy).mp (h value hvalue)

/-- An element that may be absent is read as a value of its type if it is there, or it is
damaged. -/
theorem ends_readOption (label : String) (hrespects : bindings.Respects typing)
    (hsound : property.Sound) (hscalar : property.isNested = false) {stored : Option Value}
    (h : ∀ value ∈ stored, typing.stored (StoredElement.of property) value) :
    (readOption bindings (Transfer.of property) label stored).Ends
      (fun read => ∀ value ∈ read, typing.value property.element value)
      (Failure.DamagedAt label) := by
  cases stored with
  | none => exact .done (by simp)
  | some stored =>
      have hload := ends_load label hrespects hsound hscalar (h stored rfl)
      exact hload.bind fun value hvalue => .done (by simpa using hvalue)

/-- The raw value that stands for nothing stored is a raw value. -/
theorem Bindings.Respects.stored_defaultRaw (h : bindings.Respects typing)
    (henum : property.kind.isEnum = true) :
    typing.stored (StoredElement.of property) ((Transfer.of property).defaultRaw bindings) := by
  have htransfer : Transfer.of property = .raw property.element := by simp [Transfer.of, henum]
  have hstored : StoredElement.of property = .raw property.element := by
    unfold StoredElement.of
    cases hkind : property.kind with
    | intEnum | stringEnum => rfl
    | primitive | nested _ _ => simp [hkind, PropertyKind.isEnum] at henum
  rw [htransfer, hstored]
  exact h.defaultRaw _

/-- A value that stands in for an absent one has the type if both would have it. -/
theorem typed_getD {stored : Option Value} {other : Value} {element : StoredElement}
    (h : ∀ value ∈ stored, typing.stored element value) (hother : typing.stored element other) :
    typing.stored element (stored.getD other) := by
  cases stored with
  | none => exact hother
  | some value => exact h value rfl

/-- Elements that are not in a list have the multiplicity of one element or of an
option. -/
theorem Schema.Storage.multiplicity_of_ne_list (h : Storage.of property ≠ .list) :
    property.multiplicity = if property.isOptional then .maybe else .one := by
  have harray : property.isArray = false :=
    Bool.eq_false_iff.mpr fun harray => h (Storage.of_eq_list harray)
  unfold Property.multiplicity
  rw [harray]
  cases property.isOptional <;> rfl

/-- Optional elements are never plain. -/
theorem Schema.Storage.isOptional_of_plain (h : Storage.of property = .plain) :
    property.isOptional = false := by
  have harray : property.isArray = false :=
    Bool.eq_false_iff.mpr fun harray => by simp [Storage.of_eq_list harray] at h
  refine Bool.eq_false_iff.mpr fun hoptional => ?_
  rcases Storage.of_optional harray hoptional with hother | hother <;> simp [hother] at h

/-- A value of the type of its element fits a property with one element. -/
theorem FieldValue.fits_one (hscalar : property.isNested = false)
    (hone : property.multiplicity = .one) {value : Value}
    (hvalue : typing.value property.element value) :
    (FieldValue.one value).Fits typing.demand property := by
  refine ⟨hscalar.symm, hone.symm, fun element helement => ?_⟩
  rw [List.mem_singleton.mp helement]
  exact hvalue

/-- A run that gives an element gives the value of a property with one element. -/
theorem Run.Ends.one {run : Run Value} {expected : Failure → Prop}
    (h : run.Ends (typing.value property.element) expected)
    (hscalar : property.isNested = false) (hone : property.multiplicity = .one) :
    (run >>= fun value => pure (FieldValue.one value)).Ends
      (FieldValue.Fits typing.demand property) expected :=
  h.bind fun _ hvalue => .done (FieldValue.fits_one hscalar hone hvalue)

/-- A run that gives an element or none gives the value of an optional property. -/
theorem Run.Ends.maybe {run : Run (Option Value)} {expected : Failure → Prop}
    (h : run.Ends (fun read => ∀ value ∈ read, typing.value property.element value) expected)
    (hscalar : property.isNested = false) (hmaybe : property.multiplicity = .maybe) :
    (run >>= fun read => pure (FieldValue.maybe read)).Ends
      (FieldValue.Fits typing.demand property) expected := by
  refine h.bind fun read hread => .done ⟨hscalar.symm, hmaybe.symm, ?_⟩
  intro value hvalue
  exact hread value (Option.mem_toList.mp hvalue)

/-- A box is read as a value of the declared type, or its element is damaged. -/
theorem ends_readScalar_boxed {box : Nullable Value} (label : String)
    (hrespects : bindings.Respects typing) (hsound : property.Sound)
    (hscalar : property.isNested = false) (hstorage : Storage.of property = .boxed)
    (hbox : ∀ value ∈ box.value, typing.stored (StoredElement.of property) value) :
    (readScalar bindings label (ReadPlan.of property) (.boxed box)).Ends
      (FieldValue.Fits typing.demand property) (Failure.DamagedAt label) := by
  have hmultiplicity : property.multiplicity = if property.isOptional then .maybe else .one :=
    Storage.multiplicity_of_ne_list (by simp [hstorage])
  cases hoptional : property.isOptional with
  | true =>
      rw [hoptional] at hmultiplicity
      rw [ReadPlan.of_scalar hscalar, hstorage, hoptional]
      exact (ends_readOption label hrespects hsound hscalar hbox).maybe hscalar hmultiplicity
  | false =>
      rw [hoptional] at hmultiplicity
      cases henum : property.kind.isEnum with
      | true =>
          have hstored := typed_getD hbox (hrespects.stored_defaultRaw henum)
          rw [ReadPlan.of_scalar hscalar, hstorage, hoptional, henum]
          exact (ends_load label hrespects hsound hscalar hstored).one hscalar hmultiplicity
      | false =>
          -- The box is read without parsing, and null as the zero value. Both are right
          -- since what can be boxed has a zero value and is stored as it is.
          have hplan : ReadPlan.of property = .boxOrZero (StoredElement.of property) := by
            rw [ReadPlan.of_scalar hscalar, hstorage, hoptional, henum]
            rfl
          obtain ⟨_, hkind, hclass⟩ := hsound.hasZero (.inr hplan)
          have hzero := hrespects.zero _ (hsound.hasZero_stored hkind hclass).2
          have hcopy := hsound.transfer_of_boxed hstorage hoptional henum
          have hload := ends_load label hrespects hsound hscalar (typed_getD hbox hzero)
          rw [hcopy] at hload
          rw [hplan]
          exact .done (FieldValue.fits_one hscalar hmultiplicity hload)

/-- An option is read as a value of the declared type, or its element is damaged. -/
theorem ends_readScalar_optional {stored : Option Value} (label : String)
    (hrespects : bindings.Respects typing) (hsound : property.Sound)
    (hscalar : property.isNested = false) (hstorage : Storage.of property = .nullable)
    (hall : ∀ value ∈ stored, typing.stored (StoredElement.of property) value) :
    (readScalar bindings label (ReadPlan.of property) (.optional stored)).Ends
      (FieldValue.Fits typing.demand property) (Failure.DamagedAt label) := by
  have hmultiplicity : property.multiplicity = if property.isOptional then .maybe else .one :=
    Storage.multiplicity_of_ne_list (by simp [hstorage])
  rw [ReadPlan.of_scalar hscalar, hstorage]
  cases hoptional : property.isOptional with
  | true =>
      rw [hoptional] at hmultiplicity
      exact (ends_readOption label hrespects hsound hscalar hall).maybe hscalar hmultiplicity
  | false =>
      rw [hoptional] at hmultiplicity
      cases henum : property.kind.isEnum with
      | true =>
          have hstored := typed_getD hall (hrespects.stored_defaultRaw henum)
          exact (ends_load label hrespects hsound hscalar hstored).one hscalar hmultiplicity
      | false =>
          -- No value can stand for nothing here, so it counts as damage.
          cases stored with
          | none => exact .fail ⟨_, rfl, rfl⟩
          | some found =>
              have hload := ends_load label hrespects hsound hscalar (hall found rfl)
              exact hload.one hscalar hmultiplicity

/-- A cell of values of the announced type is read as a value of the declared type,
or what is stored in it is damaged. -/
theorem ends_readScalar {cell : Cell} (label : String) (hrespects : bindings.Respects typing)
    (hsound : property.Sound) (hscalar : property.isNested = false)
    (hcell : cell.Inhabits typing (StoredType.of property)) :
    (readScalar bindings label (ReadPlan.of property) cell).Ends
      (FieldValue.Fits typing.demand property) (Failure.DamagedAt label) := by
  obtain ⟨hform, _⟩ := (Cell.inhabits_iff hsound).mp hcell
  cases cell with
  | plain stored =>
      have hone : property.multiplicity = .one := by
        rw [Storage.multiplicity_of_ne_list (by simp [hform.2]),
          Storage.isOptional_of_plain hform.2]
        rfl
      rw [ReadPlan.of_scalar hscalar, hform.2]
      exact (ends_load label hrespects hsound hscalar hcell.2).one hscalar hone
  | boxed box => exact ends_readScalar_boxed label hrespects hsound hscalar hform.2 hcell.2.2
  | optional stored =>
      exact ends_readScalar_optional label hrespects hsound hscalar hform.2 hcell.2.2
  | list stored =>
      -- A list drops what is damaged, and what is left has the type.
      rw [ReadPlan.of_scalar hscalar, hform.2]
      refine (ends_loadAll label hrespects hsound hscalar hcell.2.2).bind fun values hvalues => ?_
      have harray := Storage.of_eq_list_iff.mp hform.2
      cases hoptional : property.isOptional with
      | true =>
          refine .done ⟨hscalar.symm, ?_, hvalues⟩
          simp [Property.multiplicity, harray, hoptional]
      | false =>
          refine .done ⟨hscalar.symm, ?_, hvalues⟩
          simp [Property.multiplicity, harray, hoptional]
  | row stored => exact absurd hform.1 (by simp [hscalar])
  | rows stored => exact absurd hform.1 (by simp [hscalar])

/-! ### Reading records -/

/-- Whether reading a record may fail like this: something in it is damaged, or a
translator made by hand does not read it. -/
def FailsReading (bindings : Bindings) (failure : Failure) : Prop :=
  (∃ corruption, failure = .corrupt corruption) ∨
    ∃ name translator row, bindings.handler name = .custom translator ∧
      (translator.read row).result = .error failure

/-- Whether reading the cell of a property may fail like this: what is stored in it
is damaged, or one of its nested records cannot be read. -/
def FailsReadingCell (bindings : Bindings) (label : String) (property : Property)
    (failure : Failure) : Prop :=
  failure.DamagedAt label ∨ property.isNested = true ∧ FailsReading bindings failure

/-- A nested record that cannot be read fails its cell. -/
theorem FailsReading.inCell {failure : Failure} (h : FailsReading bindings failure)
    (label : String) (hnested : property.isNested = true) :
    FailsReadingCell bindings label property failure :=
  .inr ⟨hnested, h⟩

/-- A cell fails by damage or by what fails a nested record, so its record fails too. -/
theorem FailsReadingCell.failsReading {label : String} {failure : Failure}
    (h : FailsReadingCell bindings label property failure) : FailsReading bindings failure := by
  rcases h with ⟨corruption, hcorrupt, _⟩ | ⟨_, hnested⟩
  · exact .inl ⟨corruption, hcorrupt⟩
  · exact hnested

/-- Whether a record is read as a value of its domain type or fails in an expected
way. -/
def Row.ReadsTyped (typing : Typing) (bindings : Bindings) (handler : Handler) (row : Row) :
    Prop :=
  (readRow bindings handler row).Ends (Entity.Meets typing.demand bindings handler)
    (FailsReading bindings)

section

variable {handler : Handler}

/-- A row is read as an entity that meets the handler if it is there, or it fails as rows do. -/
theorem ends_readOptionalRow {stored : Option Row}
    (h : ∀ row ∈ stored, row.ReadsTyped typing bindings handler) :
    (readOptionalRow bindings handler stored).Ends
      (fun read => ∀ entity ∈ read, entity.Meets typing.demand bindings handler)
      (FailsReading bindings) := by
  cases stored with
  | none => exact .done (by simp)
  | some row =>
      have hrow : (readRow bindings handler row).Ends _ _ := h row rfl
      rw [readOptionalRow]
      exact hrow.bind fun entity hentity => .done (by simpa using hentity)

/-- Rows are read as entities that meet the handler, or one of them fails. -/
theorem ends_readRows {rows : List Row}
    (h : ∀ row ∈ rows, row.ReadsTyped typing bindings handler) :
    (readRows bindings handler rows).Ends
      (fun entities => ∀ entity ∈ entities, entity.Meets typing.demand bindings handler)
      (FailsReading bindings) := by
  induction rows with
  | nil => exact .done (by simp)
  | cons row rest ih =>
      have hrow : (readRow bindings handler row).Ends _ _ := h row List.mem_cons_self
      have hrest := ih fun row hmem => h row (List.mem_cons_of_mem _ hmem)
      rw [readRows]
      refine hrow.bind fun entity hentity => hrest.bind fun entities hentities => .done ?_
      exact List.forall_mem_cons.mpr ⟨hentity, hentities⟩

end

/-- A field without entities meets all demands on entities. -/
theorem FieldValue.Fits.meets_of_scalar {demand : Demand} {field : FieldValue}
    (h : field.Fits demand property) (hscalar : property.isNested = false) :
    field.Meets demand bindings property := by
  refine ⟨h, ?_⟩
  have hfield := h.isNested_eq.trans hscalar
  cases field with
  | one _ | maybe _ | many _ | maybeMany _ => simp
  | child _ | maybeChild _ | children _ | maybeChildren _ => cases hfield

/-- A cell with a nested record is read as a nested entity, or fails in an expected
way. -/
theorem ends_readCell_row {stored : Option Row} (label : String)
    (hnested : property.isNested = true) (harray : property.isArray = false)
    (hreads : ∀ row ∈ stored,
      row.ReadsTyped typing bindings (bindings.handler property.translator)) :
    (readCell bindings label (ReadPlan.of property) (.row stored)).Ends
      (FieldValue.Meets typing.demand bindings property)
      (FailsReadingCell bindings label property) := by
  have hread := (ends_readOptionalRow hreads).mono (fun _ h => h)
    fun _ hfailure => hfailure.inCell label hnested
  rw [ReadPlan.of_nested hnested, harray]
  cases hoptional : property.isOptional with
  | true =>
      have hmaybe : property.multiplicity = .maybe := by
        simp [Property.multiplicity, harray, hoptional]
      simp only [readCell]
      refine hread.bind fun read hmeets => .done ⟨⟨hnested.symm, hmaybe.symm, by simp⟩, ?_⟩
      exact fun child hchild => hmeets child (Option.mem_toList.mp hchild)
  | false =>
      have hone : property.multiplicity = .one := by
        simp [Property.multiplicity, harray, hoptional]
      simp only [readCell]
      refine hread.bind fun read hmeets => ?_
      cases read with
      | none =>
          -- A required record is missing, which counts as damage of this field.
          exact .fail (.inl ⟨_, rfl, rfl⟩)
      | some entity =>
          refine .done ⟨⟨hnested.symm, hone.symm, by simp⟩, fun child hchild => ?_⟩
          rw [List.mem_singleton.mp hchild]
          exact hmeets entity rfl

/-- A cell with nested records is read as nested entities, or fails in an expected
way. -/
theorem ends_readCell_rows {stored : List Row} (label : String)
    (hnested : property.isNested = true) (harray : property.isArray = true)
    (hreads : ∀ row ∈ stored,
      row.ReadsTyped typing bindings (bindings.handler property.translator)) :
    (readCell bindings label (ReadPlan.of property) (.rows stored)).Ends
      (FieldValue.Meets typing.demand bindings property)
      (FailsReadingCell bindings label property) := by
  have hread := (ends_readRows hreads).mono (fun _ h => h)
    fun _ hfailure => hfailure.inCell label hnested
  rw [ReadPlan.of_nested hnested, harray]
  simp only [if_true, readCell]
  refine hread.bind fun entities hmeets => ?_
  cases hoptional : property.isOptional with
  | true =>
      have hmany : property.multiplicity = .maybeMany := by
        simp [Property.multiplicity, harray, hoptional]
      exact .done ⟨⟨hnested.symm, hmany.symm, by simp⟩, hmeets⟩
  | false =>
      have hmany : property.multiplicity = .many := by
        simp [Property.multiplicity, harray, hoptional]
      exact .done ⟨⟨hnested.symm, hmany.symm, by simp⟩, hmeets⟩

/-- A cell of the announced type is read as a value of the declared type, or fails
in an expected way. -/
theorem ends_readCell {cell : Cell} (label : String) (hrespects : bindings.Respects typing)
    (hsound : property.Sound) (hcell : cell.Typed typing bindings property)
    (hreads : ∀ child ∈ cell.nested,
      child.ReadsTyped typing bindings (bindings.handler property.translator)) :
    (readCell bindings label (ReadPlan.of property) cell).Ends
      (FieldValue.Meets typing.demand bindings property)
      (FailsReadingCell bindings label property) := by
  have hform := hcell.form hsound
  -- Elements and records are read by different functions; the form of the cell tells which.
  cases hnested : property.isNested with
  | false =>
      rw [readCell_eq_readScalar hform hnested]
      refine (ends_readScalar label hrespects hsound hnested hcell.inhabits).mono ?_ ?_
      · exact fun field hfits => hfits.meets_of_scalar hnested
      · exact fun failure hdamaged => .inl hdamaged
  | true =>
      cases harray : property.isArray with
      | false =>
          obtain ⟨stored, rfl⟩ := hform.eq_row hnested harray
          exact ends_readCell_row label hnested harray fun row hrow =>
            hreads row (Option.mem_toList.mpr hrow)
      | true =>
          obtain ⟨stored, rfl⟩ := hform.eq_rows hnested harray
          exact ends_readCell_rows label hnested harray hreads

/-- Cells are read one by one, up to the first that fails. -/
theorem ends_readCells (schema : Schema) (hrespects : bindings.Respects typing)
    {properties : List Property} {cells : List Cell}
    (hsound : ∀ property ∈ properties, property.Sound)
    (hcells : List.Forall₂ (fun property cell => cell.Typed typing bindings property ∧
      ∀ child ∈ cell.nested,
        child.ReadsTyped typing bindings (bindings.handler property.translator))
      properties cells) :
    (readCells bindings schema properties cells).Ends
      (List.Forall₂ (FieldValue.Meets typing.demand bindings) properties)
      (FailsReading bindings) := by
  induction hcells with
  | nil => exact .done .nil
  | @cons property cell properties cells hcell _ ih =>
      -- Seen from the record it does not matter which field is damaged.
      have hfirst := (ends_readCell (schema.label property) hrespects
        (hsound property List.mem_cons_self) hcell.1 hcell.2).mono (fun _ h => h)
          fun _ hfailure => hfailure.failsReading
      have hrest := ih fun property hmem => hsound property (List.mem_cons_of_mem _ hmem)
      simp only [readCells]
      exact hfirst.bind fun field hfield => hrest.bind fun fields hfields =>
        .done (.cons hfield hfields)

/-- A record with the announced types is read as a value of its domain type, or
fails in an expected way. -/
theorem readsTyped_of_typed {handler : Handler} {row : Row} (hrespects : bindings.Respects typing)
    (h : row.Typed typing bindings handler) (hname : ∃ name, bindings.handler name = handler) :
    row.ReadsTyped typing bindings handler := by
  induction h with
  | custom translator row =>
      obtain ⟨name, hname⟩ := hname
      obtain ⟨identity, cells⟩ := row
      unfold Row.ReadsTyped Run.Ends
      simp only [readRow]
      split
      · exact .custom translator _ trivial
      · exact .inr ⟨name, translator, _, hname, ‹_›⟩
  | derived schema row accepted inhabit nested ih =>
      have hcells := (Row.Typed.derived schema row accepted inhabit nested).cells
      -- Nested records are read by a translator that has a name, so the hypothesis applies.
      have hreads := forall₂_and_zip hcells fun property cell hmem child hchild =>
        ih property cell hmem child hchild ⟨_, rfl⟩
      obtain ⟨identity, cells⟩ := row
      have hread := ends_readCells schema hrespects accepted.sound hreads
      unfold Row.ReadsTyped
      simp only [readRow]
      exact hread.bind fun fields hfields => .done (.of_fields accepted hfields)

end

end Recordsmith

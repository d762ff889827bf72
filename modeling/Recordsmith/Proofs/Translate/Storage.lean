import Recordsmith.Proofs.Translate.TypedReading

/-!
# `Recordsmith.Proofs.Translate.Storage`: the code for a property keeps to its type

Writing a value of a domain type keeps the announced types of all cells of its
record, also if it fails halfway (`keepsTypes_of_meets`). A single value is null
after it was written if it is absent, and only then (`isNull_writeField`).

`storage_sound` puts this together with what is known of default values and of
reading, for every field that classification accepts as a property.
-/

set_option autoImplicit false

namespace Recordsmith

open Recordsmith.Source Recordsmith.Schema

section

variable {typing : Typing} {bindings : Bindings} {property : Property}

/-! ### Writing -/

/-- What is stored for a field are the stored forms of its elements. -/
theorem FieldValue.elements_cell (bindings : Bindings) (property : Property)
    (field : FieldValue) :
    (field.cell bindings property).elements
      = field.elements.map ((Transfer.of property).store bindings) := by
  cases field with
  | one value => cases hstorage : Storage.of property <;> simp [FieldValue.cell, hstorage,
      Storage.holdOne, Cell.elements]
  | maybe value =>
      cases hstorage : Storage.of property <;> cases value <;> simp [FieldValue.cell, hstorage,
        Storage.holdMaybe, Cell.elements]
  | maybeChild entity => cases entity <;> rfl
  | maybeChildren entities => cases entities <;> rfl
  | _ => rfl

/-- A single value that is absent is stored as null, and no other. -/
theorem FieldValue.isNull_cell {field : FieldValue}
    (hsingle : field.multiplicity = .one ∨ field.multiplicity = .maybe) :
    (field.cell bindings property).isNull = field.isAbsent := by
  cases field with
  | one value => cases hstorage : Storage.of property <;> simp [FieldValue.cell, hstorage,
      Storage.holdOne, Cell.isNull, FieldValue.isAbsent, Nullable.isNull]
  | maybe value => cases hstorage : Storage.of property <;> simp [FieldValue.cell, hstorage,
      Storage.holdMaybe, Cell.isNull, FieldValue.isAbsent, Nullable.isNull]
  | child entity => rfl
  | maybeChild entity => cases entity <;> rfl
  | _ => simp at hsingle

/-- Whether writing an entity keeps the types of the record that it is written
over, also if it fails. -/
def Entity.KeepsTypes (typing : Typing) (bindings : Bindings) (handler : Handler)
    (entity : Entity) : Prop :=
  ∀ row : Row, row.Typed typing bindings handler →
    (writeRow bindings handler entity row).state.Typed typing bindings handler

/-- A record that was made is what the step has left. -/
theorem Step.ends_toRun {step : Step Row Unit} {holds : Row → Prop} (h : holds step.state) :
    step.toRun.Ends holds (fun _ => True) := by
  unfold Run.Ends Step.toRun
  cases step.result with
  | ok _ => exact h
  | error _ => trivial

/-- The records of a list have the announced types. -/
theorem typed_writeRows {demand : Demand} {handler : Handler} {entities : List Entity}
    (hrespects : bindings.Respects typing)
    (hmeets : ∀ entity ∈ entities, entity.Meets demand bindings handler)
    (hkeeps : ∀ entity ∈ entities, entity.KeepsTypes typing bindings handler) :
    (writeRows bindings handler entities).Ends
      (fun rows => ∀ row ∈ rows, row.Typed typing bindings handler) (fun _ => True) := by
  induction entities with
  | nil => exact .done (by simp)
  | cons entity rest ih =>
      -- Each record of a list is started afresh, so its types do not depend on what was stored.
      have hstart : (startRow (handler.fresh bindings) entity.identity none).Typed typing bindings
          handler := typed_startRow hrespects (hmeets entity List.mem_cons_self) (by simp)
      have hfirst := Step.ends_toRun (hkeeps entity List.mem_cons_self _ hstart)
      have hrest := ih (fun entity hmem => hmeets entity (List.mem_cons_of_mem _ hmem))
        (fun entity hmem => hkeeps entity (List.mem_cons_of_mem _ hmem))
      rw [writeRows]
      refine hfirst.bind fun row hrow => hrest.bind fun rows hrows => .done ?_
      exact List.forall_mem_cons.mpr ⟨hrow, hrows⟩

/-- A cell keeps its type when its record is refreshed. -/
theorem Cell.Typed.refreshed {stored : Option Row} {step : Step Row Unit}
    (h : (Cell.row stored).Typed typing bindings property)
    (hstep : step.state.Typed typing bindings (bindings.handler property.translator)) :
    (refreshedCell step).state.Typed typing bindings property := by
  -- Which type the cell has does not depend on what record is in it.
  unfold refreshedCell
  split
  · refine ⟨h.inhabits, fun child hchild => ?_⟩
    rw [List.mem_singleton.mp hchild]
    exact hstep
  · exact ⟨h.inhabits, fun _ hchild => absurd hchild List.not_mem_nil⟩

/-- A cell keeps its type when it is filled again. -/
theorem Cell.Typed.refilled {stored : List Row} {run : Run (List Row)}
    (h : (Cell.rows stored).Typed typing bindings property)
    (hrun : run.Ends (fun rows => ∀ row ∈ rows,
      row.Typed typing bindings (bindings.handler property.translator)) (fun _ => True)) :
    (refilledCell run).state.Typed typing bindings property := by
  unfold Run.Ends at hrun
  unfold refilledCell
  cases hresult : run.result with
  | ok rows =>
      rw [hresult] at hrun
      exact ⟨h.inhabits, hrun⟩
  | error failure => exact ⟨h.inhabits, fun _ hchild => absurd hchild List.not_mem_nil⟩

/-- A field with an element in it is not nested. -/
theorem FieldValue.isNested_of_mem_elements {field : FieldValue} {value : Value}
    (h : value ∈ field.elements) : field.isNested = false := by
  cases field with
  | one _ | maybe _ | many _ | maybeMany _ => rfl
  | child _ | maybeChild _ | children _ | maybeChildren _ => cases h

/-- Writing a value of the declared type leaves a cell of the announced type. -/
theorem typed_writeField {field : FieldValue} {cell : Cell} (label : String)
    (hrespects : bindings.Respects typing) (hsound : property.Sound)
    (hfield : field.Meets typing.demand bindings property)
    (hcell : cell.Typed typing bindings property)
    (hkeeps : ∀ child ∈ field.nested,
      child.KeepsTypes typing bindings (bindings.handler property.translator)) :
    (writeField bindings label (WritePlan.of property) field cell).state.Typed typing bindings
      property := by
  have hmeets := hfield.nested_meet
  rcases writeField_cases label hfield.toFits (hcell.form hsound) with
    ⟨hnone, hwrite⟩ | ⟨entity, stored, hform, rfl, hwrite⟩ | ⟨entities, stored, hform, rfl, hwrite⟩
  · -- Without entities the cell is the stored form of the field.
    rw [hwrite]
    refine ⟨(Cell.inhabits_iff hsound).mpr ⟨FieldValue.hasForm_cell hfield.toFits, ?_⟩, ?_⟩
    · intro value hvalue
      rw [Step.state_done, FieldValue.elements_cell] at hvalue
      obtain ⟨element, helement, rfl⟩ := List.mem_map.mp hvalue
      have hscalar : property.isNested = false := by
        rw [← hfield.isNested_eq, FieldValue.isNested_of_mem_elements helement]
      exact hrespects.stored_store hsound hscalar (hfield.elements_meet element helement)
    · rw [Step.state_done, FieldValue.nested_cell, hnone]
      simp
  · -- The record that was stored may be written over, so its types matter.
    have hmem : entity ∈ field.nested := by rcases hform with rfl | rfl <;> simp
    have hstored : ∀ row ∈ stored,
        row.Typed typing bindings (bindings.handler property.translator) :=
      fun row hrow => hcell.nested_typed row (Option.mem_toList.mpr hrow)
    rw [hwrite]
    exact hcell.refreshed
      (hkeeps entity hmem _ (typed_startRow hrespects (hmeets entity hmem) hstored))
  · -- All records of a list are new ones.
    have hall : field.nested = entities := by rcases hform with rfl | rfl <;> rfl
    rw [hall] at hmeets hkeeps
    rw [hwrite]
    exact hcell.refilled (typed_writeRows hrespects hmeets hkeeps)

/-- A single value that was written is null if it is absent, and only then. -/
theorem isNull_writeField {demand : Demand} {field : FieldValue} {cell : Cell} (label : String)
    (hfield : field.Fits demand property) (hcell : cell.HasForm property)
    (hsingle : property.isArray = false)
    (hok : (writeField bindings label (WritePlan.of property) field cell).result = .ok ()) :
    (writeField bindings label (WritePlan.of property) field cell).state.isNull
      = field.isAbsent := by
  rcases writeField_cases label hfield hcell with
    ⟨_, hwrite⟩ | ⟨entity, stored, hform, rfl, hwrite⟩ | ⟨entities, stored, hform, rfl, hwrite⟩
  · rw [hwrite]
    refine FieldValue.isNull_cell ?_
    -- A scalar that is no list is stored as a box or as itself, and it is absent only where it
    -- is optional.
    rw [hfield.multiplicity_eq]
    unfold Property.multiplicity
    rw [hsingle]
    cases property.isOptional <;> simp
  · -- A nested entity is there, and its record was put back since nothing failed.
    rw [hwrite] at hok ⊢
    have hpresent : field.isAbsent = false := by rcases hform with rfl | rfl <;> rfl
    rw [hpresent]
    unfold refreshedCell at hok ⊢
    split
    · rfl
    · rename_i hfail
      rw [hfail] at hok
      cases hok
  · exact absurd hcell.2 (by simp [hsingle])

/-- Only optional values can be absent. -/
theorem FieldValue.Fits.isOptional_of_absent {demand : Demand} {field : FieldValue}
    (h : field.Fits demand property) (habsent : field.isAbsent = true) :
    property.isOptional = true := by
  have hoptional := Property.isOptional_of_multiplicity h.multiplicity_eq
  cases field with
  | one _ | many _ | child _ | children _ => cases habsent
  | maybe _ | maybeMany _ | maybeChild _ | maybeChildren _ => exact hoptional

/-- Fields are written one by one, and the cells keep their types. -/
theorem typed_writeFields (schema : Schema) (hrespects : bindings.Respects typing)
    {properties : List Property} {fields : List FieldValue} {cells : List Cell}
    (hsound : ∀ property ∈ properties, property.Sound)
    (hfields : List.Forall₂ (fun property field => field.Meets typing.demand bindings property ∧
      ∀ child ∈ field.nested,
        child.KeepsTypes typing bindings (bindings.handler property.translator))
      properties fields)
    (hcells : List.Forall₂ (Cell.Typed typing bindings) properties cells) :
    List.Forall₂ (Cell.Typed typing bindings) properties
      (writeFields bindings schema properties fields cells).state := by
  induction hfields generalizing cells with
  | nil =>
      cases hcells
      exact .nil
  | @cons property field properties fields hfield _ ih =>
      cases hcells with
      | @cons _ cell _ cells hcell hrest =>
          have hfirst := typed_writeField (schema.label property) hrespects
            (hsound property List.mem_cons_self) hfield.1 hcell hfield.2
          rw [writeFields]
          -- A failure leaves the cells behind as they are.
          split
          · exact .cons hfirst hrest
          · exact .cons hfirst (ih (fun property hmem =>
              hsound property (List.mem_cons_of_mem _ hmem)) hrest)

/-- Writing a value of a domain type keeps the types of its record. -/
theorem keepsTypes_of_meets {handler : Handler} {entity : Entity}
    (hrespects : bindings.Respects typing) (h : entity.Meets typing.demand bindings handler) :
    entity.KeepsTypes typing bindings handler := by
  induction h with
  | custom translator entity _ => exact fun row _ => .custom translator _
  | derived schema entity accepted fits nested ih =>
      have hfields := (Entity.Meets.derived schema entity accepted fits nested).fields
      obtain ⟨identity, skipped, fields⟩ := entity
      rintro ⟨stored, cells⟩ hrow
      exact .of_cells accepted (typed_writeFields schema hrespects accepted.sound
        (forall₂_and_zip hfields ih) hrow.cells)

/-- A field that meets a demand is in shape, whatever the demand was. -/
theorem FieldValue.Meets.toShaped {demand : Demand} {field : FieldValue}
    (h : field.Meets demand bindings property) : field.Meets .shaped bindings property where
  isNested_eq := h.isNested_eq
  multiplicity_eq := h.multiplicity_eq
  elements_meet _ _ := trivial
  nested_meet child hchild := (h.nested_meet child hchild).toShaped

/-- Only a translator made by hand can keep a value of the declared type from
being written, and it does so in a nested property. -/
theorem failsByHand_of_writeField {demand : Demand} {field : FieldValue} {cell : Cell}
    (label : String) (hfield : field.Meets demand bindings property)
    (hcell : cell.Shaped bindings property) {failure : Failure}
    (hfail : (writeField bindings label (WritePlan.of property) field cell).result
      = .error failure) :
    property.isNested = true ∧ FailsByHand bindings failure := by
  have hmeets := hfield.toShaped.nested_meet
  have hwritten := writtenCell_writeField label hfield.toShaped hcell
    fun child hchild => keepsForm_of_meets (hmeets child hchild)
  obtain ⟨hnested, _, child, hchild, hcause⟩ := hwritten.failed hfail
  exact ⟨hnested, failsByHand_of_failsWith (hmeets child hchild) ⟨_, rfl⟩ hcause⟩

/-! ### From the declaration to the property -/

/-- A property has the element and the multiplicity of the declared type, and the
kind that its field is marked with. -/
theorem shape_of_propertyOf {field : FieldSpec} {name : Ident} {style : NamingStyle}
    (h : propertyOf field name style = .ok property) :
    Cardinality.of field.type = ⟨property.element, property.isOptional, property.isArray⟩ ∧
      propertyKind field.options property.element = .ok property.kind := by
  obtain ⟨kind, hkind, h⟩ := exists_of_bind_eq_ok h
  obtain ⟨_, _, h⟩ := exists_of_bind_eq_ok h
  obtain ⟨model, _, h⟩ := exists_of_bind_eq_ok h
  cases h
  exact ⟨rfl, hkind⟩

/-- The record and the translator of a nested property are named after its
element. -/
theorem names_of_propertyKind {options : FieldOptions} {element record translator : TypeExpr}
    (h : propertyKind options element = .ok (.nested record translator)) :
    element.withSuffix "Record" = some (.ok record) ∧
      element.withSuffix "Translator" = some (.ok translator) := by
  unfold propertyKind at h
  -- Of all kinds only the nested one asks for the two names.
  split at h
  · cases h
  · split at h
    · cases h
    · split at h
      · -- Both names exist, and none of them is a fault.
        split at h
        · rename_i recordName translatorName hrecord htranslator
          obtain ⟨record', hrecord', h⟩ := exists_of_bind_eq_ok h
          obtain ⟨translator', htranslator', h⟩ := exists_of_bind_eq_ok h
          cases h
          cases recordName with
          | error _ => cases hrecord'
          | ok _ =>
              cases translatorName with
              | error _ => cases htranslator'
              | ok _ =>
                  cases hrecord'
                  cases htranslator'
                  exact ⟨hrecord, htranslator⟩
        · cases h
      · cases h

end

/-! ### The storage of a property -/

/-- The code for a property keeps to the type of its record field.

Take a field that is classified as a property, whose type then says how many
elements there are, and any meaning of types that keeps to what their names say.

* The default value has the type of the record field.
* Writing a value of the declared type over any value of the record field leaves a
  value of the record field. A single value is null after that if it is optional and
  absent, and only then. Writing fails only by a translator of a nested type that is
  made by hand.
* Reading any value of the record field gives a value of the declared type. It fails
  only if what is stored for the field is damaged or a nested record cannot be read,
  so never for its form.
* Zero values are asked for only of plain elements of the families that have one. -/
theorem storage_sound (typing : Typing) (bindings : Bindings)
    (hrespects : bindings.Respects typing) (style : NamingStyle) (field : FieldSpec)
    (property : Property) (hclass : classify style field = .ok (.property property))
    (label : String) :
    Cardinality.of field.type = ⟨property.element, property.isOptional, property.isArray⟩ ∧
    ((DefaultValue.of property).HasType (StoredType.of property) ∧
      (freshCell bindings property).Typed typing bindings property) ∧
    (∀ (value : FieldValue) (cell : Cell), value.Meets typing.demand bindings property →
      cell.Typed typing bindings property →
      (writeField bindings label (WritePlan.of property) value cell).state.Typed typing bindings
        property ∧
      ((writeField bindings label (WritePlan.of property) value cell).result = .ok () →
        (StoredType.of property).storage = .boxed ∨
          (StoredType.of property).storage = .nullable →
        ((writeField bindings label (WritePlan.of property) value cell).state.isNull = true ↔
          property.isOptional = true ∧ value.isAbsent = true)) ∧
      ∀ failure,
        (writeField bindings label (WritePlan.of property) value cell).result = .error failure →
        property.isNested = true ∧ FailsByHand bindings failure) ∧
    (∀ cell : Cell, cell.Typed typing bindings property →
      (readCell bindings label (ReadPlan.of property) cell).Ends
        (FieldValue.Meets typing.demand bindings property)
        (FailsReadingCell bindings label property)) ∧
    (∀ element : StoredElement, DefaultValue.of property = .zero element ∨
      ReadPlan.of property = .boxOrZero element →
      element = (StoredType.of property).element ∧
        property.isPrimitiveIn [.numeric, .bool, .text, .url, .date] = true) ∧
    ∀ record translator, property.kind = .nested record translator →
      property.element.withSuffix "Record" = some (.ok record) ∧
        property.element.withSuffix "Translator" = some (.ok translator) := by
  obtain ⟨name, hproperty⟩ := propertyOf_of_classify hclass
  have hsound := sound_of_propertyOf hproperty
  obtain ⟨hshape, hkind⟩ := shape_of_propertyOf hproperty
  refine ⟨hshape, ⟨hsound.hasType_default, typed_freshCell hrespects hsound⟩, ?_, ?_, ?_, ?_⟩
  · intro value cell hvalue hcell
    refine ⟨?_, ?_, ?_⟩
    · exact typed_writeField label hrespects hsound hvalue hcell fun child hchild =>
        keepsTypes_of_meets hrespects (hvalue.nested_meet child hchild)
    · intro hok hstorage
      -- Neither of the two storages is that of a list.
      have hsingle : property.isArray = false := by
        refine Bool.eq_false_iff.mpr fun harray => ?_
        simp [StoredType.of, Storage.of_eq_list harray] at hstorage
      rw [isNull_writeField label hvalue.toFits (hcell.form hsound) hsingle hok]
      exact ⟨fun habsent => ⟨hvalue.isOptional_of_absent habsent, habsent⟩, And.right⟩
    · exact fun failure => failsByHand_of_writeField label hvalue (hcell.shaped hsound)
  · intro cell hcell
    exact ends_readCell label hrespects hsound hcell fun child hchild =>
      readsTyped_of_typed hrespects (hcell.nested_typed child hchild) ⟨_, rfl⟩
  · intro element hzero
    obtain ⟨heq, hprimitive, hclass⟩ := hsound.hasZero hzero
    exact ⟨heq, (hsound.hasZero_stored hprimitive hclass).1⟩
  · intro record translator hnested
    rw [hnested] at hkind
    exact names_of_propertyKind hkind

/-! ### A number in a box -/

namespace Sample

/-- Types of numbers have whole numbers, types of addresses have links, and types
that are not known by name have variants. Raw values are texts. -/
def sorts : Typing where
  value type value :=
    match ScalarClass.of type with
    | .numeric => ∃ number, value = .integer number
    | .bool => ∃ truth, value = .boolean truth
    | .text => ∃ text, value = .text text
    | .url => ∃ text, value = .link text
    | .date => ∃ moment, value = .date moment
    | .other => ∃ name, value = .variant name
  raw _ value := ∃ text, value = .text text

/-- The zero value of a family. -/
def zeroOf : ScalarClass → Value
  | .numeric => .integer 0
  | .bool => .boolean false
  | .date => .date .now
  | _ => .text ""

/-- Leaves are translated by their schema, and all enumerations are genres. -/
def orchard : Bindings :=
  { grove with
    rawEnum := fun type => if ScalarClass.of type = .other then genre.rawEnum
      else { genre.rawEnum with ofRaw? := fun _ => none }
    zero := fun
      | .same type => zeroOf (ScalarClass.of type)
      | _ => .text "" }

/-- The raw values of genres are texts. -/
theorem exists_rawOf_genre (value : Value) : ∃ text, genre.rawEnum.rawOf value = .text text := by
  cases value with
  | variant name =>
      simp only [Enumeration.rawEnum]
      cases hfound : genre.variant? name with
      | none => exact ⟨"", rfl⟩
      | some variant =>
          have hmem := List.mem_of_find?_eq_some hfound
          simp only [genre, textVariant, List.mem_cons, List.not_mem_nil, or_false] at hmem
          rcases hmem with rfl | rfl | rfl <;> exact ⟨_, rfl⟩
  | _ => exact ⟨"", rfl⟩

/-- The bindings of the orchard keep to what the names of types say. -/
theorem respects_orchard : orchard.Respects sorts where
  text_iff type value htext := by simp [sorts, htext]
  rawOf enumeration value _ := by
    simp only [orchard]
    split <;> exact exists_rawOf_genre value
  ofRaw enumeration raw value _ hvalue := by
    simp only [orchard] at hvalue
    split at hvalue
    · rename_i hother
      obtain ⟨variant, _, rfl⟩ := Option.map_eq_some_iff.mp hvalue
      simp [sorts, hother]
    · cases hvalue
  defaultRaw enumeration := by
    simp only [orchard]
    split <;> exact ⟨"", rfl⟩
  parse type text value hurl hvalue := by
    simp only [orchard, grove, TextForm.ofLink] at hvalue
    split at hvalue
    · cases hvalue
      simp [sorts, hurl]
    · cases hvalue
  zero element hzero := by
    cases element with
    | text => exact ⟨"", rfl⟩
    | same type =>
        simp only [StoredElement.hasZero] at hzero
        cases hclass : ScalarClass.of type <;>
          simp [hclass, Typing.stored, sorts, orchard, zeroOf] at hzero ⊢
    | raw _ | record _ => cases hzero

/-- A number that is put in a box on demand. -/
def hitsField : FieldSpec where
  name := some (.plain "hits")
  type := named "u32"
  doc := none
  options := { boxed := true }

/-- Its property. -/
def hits : Property :=
  { property "hits" (named "u32") .numeric with boxed := true }

end Sample

/-- A number is put in a box that has none before. The box is read as a number
before that and after it. -/
theorem storage_sound_hits :
    freshCell Sample.orchard Sample.hits = .boxed .null ∧
    (readCell Sample.orchard "Branch.hits" (ReadPlan.of Sample.hits) (.boxed .null)).Ends
      (FieldValue.Meets Sample.sorts.demand Sample.orchard Sample.hits)
      (FailsReadingCell Sample.orchard "Branch.hits" Sample.hits) ∧
    (writeField Sample.orchard "Branch.hits" (WritePlan.of Sample.hits) (.one (.integer 3))
      (.boxed .null)).state = .boxed ⟨some (.integer 3)⟩ ∧
    (readCell Sample.orchard "Branch.hits" (ReadPlan.of Sample.hits)
      (.boxed ⟨some (.integer 3)⟩)).Ends
      (FieldValue.Meets Sample.sorts.demand Sample.orchard Sample.hits)
      (FailsReadingCell Sample.orchard "Branch.hits" Sample.hits) := by
  have hclass : classify .preserve Sample.hitsField = .ok (.property Sample.hits) := rfl
  obtain ⟨_, ⟨_, hfresh⟩, hwrite, hread, _⟩ := storage_sound Sample.sorts Sample.orchard
    Sample.respects_orchard .preserve Sample.hitsField Sample.hits hclass "Branch.hits"
  have hthree : Sample.sorts.value (Sample.named "u32") (.integer 3) := ⟨3, rfl⟩
  have hmeets : (FieldValue.one (.integer 3)).Meets Sample.sorts.demand Sample.orchard
      Sample.hits := (FieldValue.fits_one rfl rfl hthree).meets_of_scalar rfl
  exact ⟨rfl, hread _ hfresh, rfl, hread _ (hwrite _ _ hmeets hfresh).1⟩

end Recordsmith

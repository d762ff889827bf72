import Recordsmith.Proofs.Translate.RoundTrip

/-!
# `Recordsmith.Proofs.Translate.Typed`: the types that record fields announce

The type of a record field is announced by the storage of its property and by the
type of its stored elements (`StoredType.of`). The default value, what writing
leaves and what reading expects are each chosen by cases of their own, so that
they fit this type is something to prove.

A `Typing` says which values a type has, and `Bindings.Respects` that the meaning
of types keeps to it: raw values of an enumeration are raw values, a text that
parses gives a value, texts are the values of types whose last name says so, and
zero values are there for the types that have them. `Cell.Inhabits` then says that
a cell is a value of a record field type, and `Row.Typed` says it of records to
any depth.

Here are the facts that do not depend on reading and writing: which properties ask
for zero values (`Property.Sound.hasZero`), how the type of an element and of what
is stored for it go together (`Property.Sound.transfer_cases`), and that fresh
cells and records have the announced types (`typed_freshCell`, `typed_fresh`).
-/

set_option autoImplicit false

namespace Recordsmith

open Recordsmith.Source Recordsmith.Schema

/-! ### Types of values -/

namespace Schema.StoredElement

/-- Whether elements are records. -/
def isRecord : StoredElement → Bool
  | .record _ => true
  | _ => false

/-- Whether elements have a zero value: texts, and the types of numbers, truth
values and dates. -/
def hasZero : StoredElement → Bool
  | .text => true
  | .same type => [ScalarClass.numeric, .bool, .date].contains (ScalarClass.of type)
  | _ => false

end Schema.StoredElement

/-- Which values types have. -/
structure Typing where
  /-- The values of a type. -/
  value : TypeExpr → Value → Prop
  /-- The raw values of an enumeration. -/
  raw : TypeExpr → Value → Prop

namespace Typing

/-- The values that elements of a record field have. Records are no values. -/
def stored (typing : Typing) : StoredElement → Value → Prop
  | .raw enumeration, value => typing.raw enumeration value
  | .record _, _ => False
  | .text, value => ∃ text, value = .text text
  | .same type, value => typing.value type value

/-- What is asked of domain values: their elements are values of their types. -/
def demand (typing : Typing) : Demand where
  element property value := typing.value property.element value
  custom _ _ := True

end Typing

/-- Whether the meaning of types keeps to a typing. -/
structure Bindings.Respects (bindings : Bindings) (typing : Typing) : Prop where
  /-- A type that is called a text is one. -/
  text_iff : ∀ type value, ScalarClass.of type = .text →
    (typing.value type value ↔ ∃ text, value = .text text)
  rawOf : ∀ enumeration value, typing.value enumeration value →
    typing.raw enumeration ((bindings.rawEnum enumeration).rawOf value)
  ofRaw : ∀ enumeration raw value, typing.raw enumeration raw →
    (bindings.rawEnum enumeration).ofRaw? raw = some value → typing.value enumeration value
  defaultRaw : ∀ enumeration, typing.raw enumeration (bindings.rawEnum enumeration).defaultRaw
  parse : ∀ type text value, ScalarClass.of type = .url →
    (bindings.textForm type).parse text = .ok value → typing.value type value
  zero : ∀ element, element.hasZero = true → typing.stored element (bindings.zero element)

/-! ### Types of cells -/

namespace Cell

/-- The elements of a cell that are values. -/
def elements : Cell → List Value
  | .plain value => [value]
  | .boxed box => box.value.toList
  | .optional value => value.toList
  | .list stored => stored.items
  | _ => []

/-- Whether a cell is a value of the type of a record field. Whether the records
in it have the right type is said apart. -/
def Inhabits (typing : Typing) (type : StoredType) : Cell → Prop
  | .plain value => type.storage = .plain ∧ typing.stored type.element value
  | .boxed box => type.storage = .boxed ∧ type.element.isRecord = false ∧
    ∀ value ∈ box.value, typing.stored type.element value
  | .optional stored => type.storage = .nullable ∧ type.element.isRecord = false ∧
    ∀ value ∈ stored, typing.stored type.element value
  | .list stored => type.storage = .list ∧ type.element.isRecord = false ∧
    ∀ value ∈ stored.items, typing.stored type.element value
  | .row _ => type.storage = .nullable ∧ type.element.isRecord = true
  | .rows _ => type.storage = .list ∧ type.element.isRecord = true

/-- Whether nothing is in a cell that may be null. -/
def isNull : Cell → Bool
  | .boxed box => box.isNull
  | .optional stored => stored.isNone
  | .row stored => stored.isNone
  | _ => false

end Cell

/-- Whether a domain value is absent. -/
def FieldValue.isAbsent : FieldValue → Bool
  | .maybe value => value.isNone
  | .maybeMany values => values.isNone
  | .maybeChild entity => entity.isNone
  | .maybeChildren entities => entities.isNone
  | _ => false

/-- Whether the cells of a record have the announced types. A translator made by
hand may use any. -/
inductive Row.Typed (typing : Typing) (bindings : Bindings) : Handler → Row → Prop where
  | custom (translator : Translator) (row : Row) : Typed typing bindings (.custom translator) row
  | derived (schema : Schema) (row : Row) (accepted : schema.Accepted)
      (inhabit : List.Forall₂ (fun property cell => cell.Inhabits typing (StoredType.of property))
        schema.properties row.cells)
      (nested : ∀ property cell, (property, cell) ∈ schema.properties.zip row.cells →
        ∀ child ∈ cell.nested,
          Typed typing bindings (bindings.handler property.translator) child) :
      Typed typing bindings (.derived schema) row

/-- Whether a cell has the type that its property announces, to any depth. -/
structure Cell.Typed (typing : Typing) (bindings : Bindings) (property : Property) (cell : Cell) :
    Prop where
  inhabits : cell.Inhabits typing (StoredType.of property)
  nested_typed : ∀ child ∈ cell.nested,
    child.Typed typing bindings (bindings.handler property.translator)

/-- Whether a default value has the type of a record field. -/
def Schema.DefaultValue.HasType (type : StoredType) : DefaultValue → Prop
  | .zero element => type.storage = .plain ∧ type.element = element ∧ element.hasZero = true
  | .nullBox => type.storage = .boxed
  | .absent => type.storage = .nullable
  | .emptyList => type.storage = .list

section

variable {typing : Typing} {bindings : Bindings} {property : Property}

/-- A plain value is never stored where a record is announced. -/
theorem Typing.isRecord_of_stored {element : StoredElement} {value : Value}
    (h : typing.stored element value) : element.isRecord = false := by
  cases element with
  | record type => exact absurd h id
  | _ => rfl

/-! ### Cells by their forms -/

/-- Records are stored for nested properties only. -/
theorem Schema.StoredElement.isRecord_of (property : Property) :
    (StoredElement.of property).isRecord = property.isNested := by
  unfold StoredElement.of Property.isNested
  cases property.kind with
  | primitive =>
      dsimp only
      split <;> rfl
  | _ => rfl

/-- Lists are the storage of lists and of nothing else. -/
theorem Schema.Storage.of_eq_list_iff : Storage.of property = .list ↔ property.isArray = true := by
  cases harray : property.isArray with
  | true => exact ⟨fun _ => rfl, fun _ => Storage.of_eq_list harray⟩
  | false => exact ⟨fun h => absurd h (Storage.of_ne_list harray), fun h => by cases h⟩

/-- A nested record is never put in a box. -/
theorem Schema.Property.Sound.storage_of_nested (h : property.Sound)
    (hnested : property.isNested = true) (harray : property.isArray = false) :
    Storage.of property = .nullable := by
  cases hkind : property.kind with
  | nested record translator =>
      have hboxed : property.boxed = false := by
        cases hboxed : property.boxed with
        | false => rfl
        | true =>
            have hboxable := h.boxed_boxable hboxed
            simp [isBoxable, hkind] at hboxable
      simp [Storage.of, harray, hboxed, hkind]
  | _ => simp [Property.isNested, hkind] at hnested

/-- A cell is a value of the announced type if it has the form of its property and
its elements have their type. -/
theorem Cell.inhabits_iff (hsound : property.Sound) {cell : Cell} :
    cell.Inhabits typing (StoredType.of property) ↔
      cell.HasForm property ∧
        ∀ value ∈ cell.elements, typing.stored (StoredElement.of property) value := by
  have hrecord := StoredElement.isRecord_of property
  have hswap : ∀ a b c : Prop, (a ∧ b ∧ c) ↔ ((b ∧ a) ∧ c) := by tauto
  -- Form and storage say the same about each kind of cell, in a different order.
  cases cell with
  | plain value =>
      simp only [Inhabits, HasForm, elements, List.mem_singleton, forall_eq, StoredType.of]
      constructor
      · -- The one case that does not say by itself that its element is no record.
        rintro ⟨hstorage, hvalue⟩
        exact ⟨⟨hrecord ▸ Typing.isRecord_of_stored hvalue, hstorage⟩, hvalue⟩
      · rintro ⟨⟨_, hstorage⟩, hvalue⟩
        exact ⟨hstorage, hvalue⟩
  | boxed box =>
      simp only [Inhabits, HasForm, elements, StoredType.of, hrecord, Option.mem_toList]
      exact hswap _ _ _
  | optional stored =>
      simp only [Inhabits, HasForm, elements, StoredType.of, hrecord, Option.mem_toList]
      exact hswap _ _ _
  | list stored =>
      simp only [Inhabits, HasForm, elements, StoredType.of, hrecord]
      exact hswap _ _ _
  | row stored =>
      simp only [Inhabits, HasForm, elements, StoredType.of, hrecord, List.not_mem_nil,
        false_imp_iff, implies_true, and_true]
      constructor
      · rintro ⟨hstorage, hnested⟩
        refine ⟨hnested, Bool.eq_false_iff.mpr fun harray => ?_⟩
        simp [Storage.of_eq_list harray] at hstorage
      · rintro ⟨hnested, harray⟩
        exact ⟨hsound.storage_of_nested hnested harray, hnested⟩
  | rows stored =>
      simp only [Inhabits, HasForm, elements, StoredType.of, hrecord, List.not_mem_nil,
        false_imp_iff, implies_true, and_true]
      constructor
      · rintro ⟨hstorage, hnested⟩
        exact ⟨hnested, Storage.of_eq_list_iff.mp hstorage⟩
      · rintro ⟨hnested, harray⟩
        exact ⟨Storage.of_eq_list_iff.mpr harray, hnested⟩

/-! ### Elements -/

/-- The three ways in which elements that are values are stored: as raw values, as
texts that are parsed, and as they are. -/
theorem Schema.Property.Sound.transfer_cases (h : property.Sound)
    (hscalar : property.isNested = false) :
    (Transfer.of property = .raw property.element ∧
      StoredElement.of property = .raw property.element) ∨
    (Transfer.of property = .text property.element ∧ StoredElement.of property = .text ∧
      ScalarClass.of property.element = .url) ∨
    (Transfer.of property = .copy ∧
      (StoredElement.of property = .text ∧ ScalarClass.of property.element = .text ∨
        StoredElement.of property = .same property.element)) := by
  have hclass := h.scalar_eq
  unfold Transfer.of StoredElement.of
  cases hkind : property.kind with
  | nested record translator => simp [Property.isNested, hkind] at hscalar
  | intEnum => exact .inl ⟨rfl, rfl⟩
  | stringEnum => exact .inl ⟨rfl, rfl⟩
  | primitive =>
      -- The scalar class is that of the element, which the stored type alone would not tell.
      simp only [hkind, PropertyKind.isPrimitive, if_true] at hclass
      rw [hclass]
      by_cases hurl : ScalarClass.of property.element = .url
      · exact .inr (.inl (by simp [PropertyKind.isEnum, hurl]))
      · by_cases htext : ScalarClass.of property.element = .text
        · exact .inr (.inr (by simp [PropertyKind.isEnum, htext]))
        · exact .inr (.inr (by simp [PropertyKind.isEnum, hurl, htext]))

/-- Elements that are stored as they are have the same type on both sides. -/
theorem Bindings.Respects.stored_iff (h : bindings.Respects typing) {value : Value}
    (hcopy : StoredElement.of property = .text ∧ ScalarClass.of property.element = .text ∨
      StoredElement.of property = .same property.element) :
    typing.stored (StoredElement.of property) value ↔ typing.value property.element value := by
  rcases hcopy with ⟨htext, hclass⟩ | hsame
  · rw [htext, h.text_iff _ _ hclass]
    rfl
  · rw [hsame]
    rfl

/-- What is stored for an element has the type of stored elements. -/
theorem Bindings.Respects.stored_store (h : bindings.Respects typing) (hsound : property.Sound)
    (hscalar : property.isNested = false) {value : Value}
    (hvalue : typing.value property.element value) :
    typing.stored (StoredElement.of property) ((Transfer.of property).store bindings value) := by
  rcases hsound.transfer_cases hscalar with
    ⟨htransfer, hstored⟩ | ⟨htransfer, hstored, _⟩ | ⟨htransfer, hcopy⟩
  · rw [htransfer, hstored]
    exact h.rawOf _ _ hvalue
  · rw [htransfer, hstored]
    exact ⟨_, rfl⟩
  · rw [htransfer]
    exact (h.stored_iff hcopy).mpr hvalue

/-! ### Zero values -/

/-- Plain elements are of a family with zero values. -/
theorem Schema.Storage.hasZero_of_plain (h : Storage.of property = .plain) :
    property.kind = .primitive ∧ property.scalar.hasZero = true := by
  unfold Storage.of at h
  split at h
  · cases h
  · split at h
    · cases h
    -- Lists and optional values have been told apart before, and so are kinds without zero
    -- values.
    · cases hkind : property.kind with
      | primitive =>
          simp only [hkind] at h
          split at h
          · split at h <;> cases h
          · split at h
            · exact ⟨rfl, ‹_›⟩
            · cases h
      | _ =>
          rw [hkind] at h
          cases h

/-- So are elements in a box of which the zero value is read. -/
theorem Schema.Property.Sound.hasZero_of_boxed (h : property.Sound)
    (hboxed : property.boxed = true) (henum : property.kind.isEnum = false) :
    property.kind = .primitive ∧ property.scalar.hasZero = true := by
  have hboxable := h.boxed_boxable hboxed
  unfold isBoxable at hboxable
  cases hkind : property.kind with
  | primitive =>
      rw [hkind] at hboxable
      cases hscalar : property.scalar with
      | other => simp [hscalar] at hboxable
      | _ => exact ⟨rfl, rfl⟩
  | nested record translator => simp [hkind] at hboxable
  | _ => simp [hkind, PropertyKind.isEnum] at henum

/-- The stored elements of a family with zero values have one. -/
theorem Schema.Property.Sound.hasZero_stored (h : property.Sound)
    (hkind : property.kind = .primitive) (hzero : property.scalar.hasZero = true) :
    property.isPrimitiveIn [.numeric, .bool, .text, .url, .date] = true ∧
      (StoredElement.of property).hasZero = true := by
  have hclass := h.scalar_eq
  simp only [hkind, PropertyKind.isPrimitive, if_true] at hclass
  unfold Property.isPrimitiveIn StoredElement.of
  cases hscalar : property.scalar with
  | other => simp [hscalar, ScalarClass.hasZero] at hzero
  | _ =>
      rw [hscalar] at hclass
      simp [hkind, PropertyKind.isPrimitive, StoredElement.hasZero, ← hclass]

/-- When the zero value stands for null in a box. -/
theorem Schema.ReadPlan.of_eq_boxOrZero {element : StoredElement}
    (h : ReadPlan.of property = .boxOrZero element) :
    Storage.of property = .boxed ∧ property.isOptional = false ∧
      property.kind.isEnum = false ∧ element = StoredElement.of property := by
  cases hscalar : property.isNested with
  | true =>
      rw [ReadPlan.of_nested hscalar] at h
      split at h
      · cases h
      · split at h <;> cases h
  | false =>
      rw [ReadPlan.of_scalar hscalar] at h
      -- Each storage has plans of its own, so the plan tells which one it is.
      split at h
      · cases h
      · cases h
      · rename_i hstorage
        split at h
        · cases h
        · rename_i hrequired
          split at h
          · cases h
          · rename_i henum
            cases h
            exact ⟨hstorage, Bool.eq_false_iff.mpr hrequired, Bool.eq_false_iff.mpr henum, rfl⟩
      · split at h
        · cases h
        · split at h <;> cases h

/-- A zero value is asked for only where elements have one. -/
theorem Schema.Property.Sound.hasZero (h : property.Sound) {element : StoredElement}
    (hzero : DefaultValue.of property = .zero element ∨
      ReadPlan.of property = .boxOrZero element) :
    element = StoredElement.of property ∧
      property.kind = .primitive ∧ property.scalar.hasZero = true := by
  rcases hzero with hdefault | hplan
  · unfold DefaultValue.of at hdefault
    cases hstorage : Storage.of property with
    | plain =>
        simp only [hstorage, DefaultValue.zero.injEq] at hdefault
        exact ⟨hdefault.symm, Storage.hasZero_of_plain hstorage⟩
    | _ => simp [hstorage] at hdefault
  · -- The box was asked for, and only elements with a zero value can be boxed.
    obtain ⟨hstorage, hrequired, henum, helement⟩ := ReadPlan.of_eq_boxOrZero hplan
    have hboxed := boxed_of_storage hstorage hrequired henum
    exact ⟨helement, h.hasZero_of_boxed hboxed henum⟩

/-! ### Typed records -/

namespace Row.Typed

variable {schema : Schema} {handler : Handler} {row : Row}

/-- The cells of a typed row are typed one by one. -/
theorem cells (h : row.Typed typing bindings (.derived schema)) :
    List.Forall₂ (Cell.Typed typing bindings) schema.properties row.cells := by
  cases h with
  | derived _ _ _ inhabit nested =>
      exact (forall₂_and_zip inhabit nested).imp fun _ _ hpair => ⟨hpair.1, hpair.2⟩

/-- Cells that are typed one by one make a typed row. -/
theorem of_cells (accepted : schema.Accepted)
    (h : List.Forall₂ (Cell.Typed typing bindings) schema.properties row.cells) :
    row.Typed typing bindings (.derived schema) := by
  refine .derived schema row accepted (h.imp fun _ _ hcell => hcell.inhabits) ?_
  intro property cell hmem
  exact ((List.forall₂_iff_zip.mp h).2 hmem).nested_typed

/-- The types of a record do not depend on its identity. -/
theorem withIdentity (h : row.Typed typing bindings handler) (identity : Identity) :
    (row.withIdentity identity).Typed typing bindings handler := by
  cases h with
  | custom translator _ => exact .custom translator _
  | derived schema _ accepted inhabit nested =>
      exact .derived schema _ accepted inhabit nested

/-- A record with the announced types has the form of its domain type. -/
theorem shaped (h : row.Typed typing bindings handler) : row.Shaped bindings handler := by
  induction h with
  | custom translator row => exact .custom translator row
  | derived schema row accepted inhabit nested ih =>
      -- The form follows from the type for sound properties only, so the pairs are
      -- looked at with their membership.
      refine .derived schema row (List.forall₂_iff_zip.mpr ⟨inhabit.length_eq, ?_⟩) ih
      intro property cell hmem
      have hsound := accepted.sound property (List.of_mem_zip hmem).1
      exact ((Cell.inhabits_iff hsound).mp ((List.forall₂_iff_zip.mp inhabit).2 hmem)).1

end Row.Typed

/-- A typed cell has the form of its property. -/
theorem Cell.Typed.form {cell : Cell} (h : cell.Typed typing bindings property)
    (hsound : property.Sound) : cell.HasForm property :=
  ((Cell.inhabits_iff hsound).mp h.inhabits).1

/-- A typed cell is in shape. -/
theorem Cell.Typed.shaped {cell : Cell} (h : cell.Typed typing bindings property)
    (hsound : property.Sound) : cell.Shaped bindings property :=
  ⟨h.form hsound, fun child hchild => (h.nested_typed child hchild).shaped⟩

/-- The default value of a property has the announced type. -/
theorem Schema.Property.Sound.hasType_default (h : property.Sound) :
    (DefaultValue.of property).HasType (StoredType.of property) := by
  unfold DefaultValue.of
  cases hstorage : Storage.of property with
  | plain =>
      obtain ⟨hkind, hzero⟩ := Storage.hasZero_of_plain hstorage
      exact ⟨hstorage, rfl, (h.hasZero_stored hkind hzero).2⟩
  | _ => exact hstorage

/-- There are no rows in a fresh cell. -/
theorem nested_freshCell (bindings : Bindings) (property : Property) :
    (freshCell bindings property).nested = [] := by
  unfold freshCell
  split
  · split <;> rfl
  · split <;> rfl

/-- A fresh cell has the announced type. -/
theorem typed_freshCell (hrespects : bindings.Respects typing) (hsound : property.Sound) :
    (freshCell bindings property).Typed typing bindings property := by
  have hshaped := shaped_freshCell bindings property
  have hzero : ∀ value ∈ (freshCell bindings property).elements,
      typing.stored (StoredElement.of property) value := by
    intro value hvalue
    unfold freshCell at hvalue
    split at hvalue
    · split at hvalue <;> cases hvalue
    · -- Of all default values only the zero value is an element.
      cases hdefault : DefaultValue.of property with
      | zero element =>
          obtain ⟨rfl, hkind, hclass⟩ := hsound.hasZero (.inl hdefault)
          simp only [hdefault, Cell.elements, List.mem_singleton] at hvalue
          rw [hvalue]
          exact hrespects.zero _ (hsound.hasZero_stored hkind hclass).2
      | _ =>
          rw [hdefault] at hvalue
          cases hvalue
  refine ⟨(Cell.inhabits_iff hsound).mpr ⟨hshaped.form, hzero⟩, ?_⟩
  -- There is nothing nested yet, so nothing nested can have the wrong type.
  rw [nested_freshCell]
  exact fun _ hchild => absurd hchild List.not_mem_nil

/-- A fresh record has the announced types. -/
theorem typed_fresh {handler : Handler} (hrespects : bindings.Respects typing)
    (haccepted : ∀ schema, handler = .derived schema → schema.Accepted) :
    (handler.fresh bindings).Typed typing bindings handler := by
  cases handler with
  | custom translator => exact .custom translator _
  | derived schema =>
      have hschema := haccepted schema rfl
      refine .of_cells hschema ?_
      show List.Forall₂ _ schema.properties (schema.properties.map (freshCell bindings))
      rw [List.forall₂_map_right_iff]
      exact List.forall₂_same.mpr fun property hmem =>
        typed_freshCell hrespects (hschema.sound property hmem)

/-- The record that an entity is written over has the announced types, if the
stored one has. -/
theorem typed_startRow {demand : Demand} {handler : Handler} {entity : Entity}
    {existing : Option Row} (hrespects : bindings.Respects typing)
    (hentity : entity.Meets demand bindings handler)
    (h : ∀ row ∈ existing, row.Typed typing bindings handler) :
    (startRow (handler.fresh bindings) entity.identity existing).Typed typing bindings
      handler := by
  -- That there is an entity of the domain type tells that its schema is accepted.
  have hfresh : (handler.fresh bindings).Typed typing bindings handler := by
    refine typed_fresh hrespects ?_
    rintro schema rfl
    exact hentity.accepted
  exact startRow_preserves entity.identity (fun _ hrow => hrow.withIdentity entity.identity)
    hfresh h

end

end Recordsmith

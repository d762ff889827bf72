import Recordsmith.Schema.Basic
import Recordsmith.Schema.Plan

/-!
# `Recordsmith.Proofs.Schema.Accepted`: what is known of the properties of a schema

A schema is accepted if some declaration has it. Each of its properties then
comes out of `propertyOf`, for a field that is neither the identity nor skipped,
so it has passed its checks (`Accepted.sound`). What these checks say is
collected in `Property.Sound`:

* the scalar class is the one of the element, and `other` for elements that
  are not plain;
* a box is never forced on a list, and only on elements that can be boxed.

The second point is what reading relies on: a required property in a box is
read without looking at its elements, which is right only because elements
that are kept as text cannot be boxed (`Property.Sound.transfer_of_boxed`).
-/

set_option autoImplicit false

namespace Recordsmith.Schema

open Recordsmith.Source

/-- Whether a schema is the one of some declaration. -/
def Accepted (schema : Schema) : Prop :=
  ∃ declaration, ofDeclaration declaration = .ok schema

/-- What classification guarantees of a property. -/
structure Property.Sound (property : Property) : Prop where
  scalar_eq : property.scalar =
    if property.kind.isPrimitive then ScalarClass.of property.element else .other
  boxed_single : property.boxed = true → property.isArray = false
  boxed_boxable : property.boxed = true → isBoxable property.kind property.scalar = true

/-- A box passes the check only on a single element that can be boxed. -/
theorem boxable_of_checkBoxed {options : FieldOptions} {kind : PropertyKind}
    {scalar : ScalarClass} {isArray : Bool}
    (h : checkBoxed options kind scalar isArray = .ok ()) (hb : options.boxed = true) :
    isArray = false ∧ isBoxable kind scalar = true := by
  simp only [checkBoxed, hb, Bool.true_and] at h
  split at h
  · cases h
  · split at h
    · cases h
    · simp_all

/-- A required property is in a box only as an enumeration or on demand. -/
theorem boxed_of_storage {property : Property} (hstorage : Storage.of property = .boxed)
    (hrequired : property.isOptional = false) (henum : property.kind.isEnum = false) :
    property.boxed = true := by
  unfold Storage.of at hstorage
  cases hboxed : property.boxed with
  | true => rfl
  | false =>
      cases hkind : property.kind with
      | intEnum => simp [PropertyKind.isEnum, hkind] at henum
      | _ =>
        simp only [hboxed, hrequired, hkind] at hstorage
        repeat' split at hstorage
        all_goals simp_all

/-- A required property in a box that is no enumeration is kept as it is. -/
theorem Property.Sound.transfer_of_boxed {property : Property} (h : property.Sound)
    (hstorage : Storage.of property = .boxed) (hrequired : property.isOptional = false)
    (henum : property.kind.isEnum = false) : Transfer.of property = .copy := by
  -- Without an enumeration the box was asked for, and addresses cannot be boxed.
  have hboxable := h.boxed_boxable (boxed_of_storage hstorage hrequired henum)
  have hurl : property.scalar ≠ .url := by
    intro hscalar
    rw [hscalar] at hboxable
    cases hkind : property.kind with
    | intEnum => simp [PropertyKind.isEnum, hkind] at henum
    | _ => simp [isBoxable, hkind] at hboxable
  simp [Transfer.of, henum, hurl]

/-- A run of two steps that succeeds has a first step that succeeds. -/
theorem exists_of_bind_eq_ok {ε α β : Type} {first : Except ε α} {next : α → Except ε β}
    {result : β} (h : (first >>= next) = .ok result) :
    ∃ value, first = .ok value ∧ next value = .ok result := by
  cases first with
  | error _ => cases h
  | ok value => exact ⟨value, rfl, h⟩

/-- A result that is converted comes from a value. -/
theorem exists_of_map_eq_ok {ε α β : Type} {first : Except ε α} {convert : α → β} {result : β}
    (h : first.map convert = .ok result) : ∃ value, first = .ok value ∧ convert value = result := by
  cases first with
  | error _ => cases h
  | ok value => exact ⟨value, rfl, Except.ok.inj h⟩

/-- Converting a result keeps its error. -/
theorem error_of_map_eq_error {ε α β : Type} {first : Except ε α} {convert : α → β} {error : ε}
    (h : first.map convert = .error error) : first = .error error := by
  cases first with
  | error _ => rw [Except.error.inj h]
  | ok _ => cases h

/-- A property that comes out of `propertyOf` is sound. -/
theorem sound_of_propertyOf {field : FieldSpec} {name : Ident} {style : NamingStyle}
    {property : Property} (h : propertyOf field name style = .ok property) :
    property.Sound := by
  -- The steps of `propertyOf` in order; only the check of the box tells something.
  obtain ⟨kind, _, h⟩ := exists_of_bind_eq_ok h
  obtain ⟨_, hcheck, h⟩ := exists_of_bind_eq_ok h
  obtain ⟨model, _, h⟩ := exists_of_bind_eq_ok h
  cases h
  have hbox := boxable_of_checkBoxed hcheck
  exact ⟨rfl, fun hb => (hbox hb).1, fun hb => (hbox hb).2⟩

/-- Every property of sorted fields is the class of one of the fields. -/
theorem exists_classify_of_sortFields {style : NamingStyle} {fields : List FieldSpec}
    {sorted : Sorted} (h : sortFields style fields = .ok sorted) {property : Property}
    (hp : property ∈ sorted.properties) :
    ∃ field ∈ fields, classify style field = .ok (.property property) := by
  induction fields generalizing sorted with
  | nil =>
      simp only [sortFields, Except.ok.injEq] at h
      subst h
      cases hp
  | cons field rest ih =>
      rw [sortFields] at h
      cases hrest : sortFields style rest with
      | error fault =>
          -- Whatever the class of the first field, the fault of the rest comes through.
          rw [hrest] at h
          split at h <;> cases h
      | ok s =>
          rw [hrest] at h
          have hlater : property ∈ s.properties →
              ∃ field' ∈ field :: rest, classify style field' = .ok (.property property) := by
            intro hmem
            obtain ⟨field', hfield', hclass⟩ := ih hrest hmem
            exact ⟨field', List.mem_cons_of_mem _ hfield', hclass⟩
          split at h
          · cases h
          · cases h; exact hlater hp
          · cases h; exact hlater hp
          · cases h; exact hlater hp
          · rename_i hclass
            cases h
            rcases List.mem_cons.mp hp with rfl | hmem
            · exact ⟨field, List.mem_cons_self, hclass⟩
            · exact hlater hmem

/-- A field whose class is a property gives it by `propertyOf`. -/
theorem propertyOf_of_classify {style : NamingStyle} {field : FieldSpec} {property : Property}
    (h : classify style field = .ok (.property property)) :
    ∃ name, propertyOf field name style = .ok property := by
  -- Every branch but the last gives an error or another class.
  unfold classify at h
  split at h
  · cases h
  · rename_i name _
    split at h
    · cases h
    · split at h
      · split at h <;> cases h
      · split at h
        · split at h
          · cases h
          · cases hm : modelName field.options name style <;> rw [hm] at h <;> cases h
        · cases hp : propertyOf field name style with
          | error _ => rw [hp] at h; cases h
          | ok found => rw [hp] at h; cases h; exact ⟨name, hp⟩

/-- The properties of an accepted schema are those of its sorted fields. -/
theorem exists_sortFields_of_accepted {schema : Schema} (h : schema.Accepted) :
    ∃ style fields sorted, sortFields style fields = .ok sorted ∧
      schema.properties = sorted.properties := by
  obtain ⟨declaration, hok⟩ := h
  unfold ofDeclaration at hok
  -- Each step before the last one only refuses, and the last one copies the properties.
  split at hok
  · cases hok
  · rename_i options fields _
    split at hok
    · cases hok
    · split at hok
      · cases hok
      · rename_i sorted hsorted
        refine ⟨options.naming, fields, sorted, hsorted, ?_⟩
        unfold assemble at hok
        split at hok
        · split at hok
          · cases hok
          · cases hok; rfl
        · cases hok

/-- Every property of an accepted schema is sound. -/
theorem Accepted.sound {schema : Schema} (h : schema.Accepted) :
    ∀ property ∈ schema.properties, property.Sound := by
  intro property hp
  obtain ⟨style, fields, sorted, hsorted, hprops⟩ := exists_sortFields_of_accepted h
  rw [hprops] at hp
  obtain ⟨field, _, hclass⟩ := exists_classify_of_sortFields hsorted hp
  obtain ⟨name, hof⟩ := propertyOf_of_classify hclass
  exact sound_of_propertyOf hof

end Recordsmith.Schema

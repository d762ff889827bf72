import Recordsmith.Proofs.Emit.Rearranged
import Recordsmith.Proofs.Emit.Uses

/-!
# `Recordsmith.Proofs.Emit.Agreement`: generated items agree field by field

Three items are generated from a declaration, and each goes through the fields
on its own. They have to agree: a field that the record has and the translator
does not initialize, or the other way round, would not compile or, worse, would
be lost in silence.

What they agree on is the schema. `Sorts` ties it to the fields of the
declaration: one field is the identity, and the others are skipped or are
properties, in the order of the declaration. `RecordRendering`,
`TranslatorRendering` and `AliasRendering` say what stands in the places of each
item as it is printed, field by field. `renderings_agree` puts them together for
every text from which items are generated.
-/

set_option autoImplicit false

namespace Recordsmith

open Recordsmith.Source Recordsmith.Source.Tree Recordsmith.Schema Recordsmith.Emit

/-! ### Fields and their parts of the schema -/

/-- The options of a field. -/
def Schema.optionsOf (field : Field) : FieldOptions :=
  (FieldOptions.ofAttributes field.attributes).options

/-- Whether a schema has the fields of a declaration by their roles: one is the
identity, and the skipped fields and the properties come in their order. Record
fields are named by the options and the name of their field. -/
structure Schema.Sorts (style : NamingStyle) (fields : List Field) (schema : Schema) : Prop where
  identity : ∃ field, withRole .identity fields = [field] ∧ field.name = some schema.identity ∧
    modelName (optionsOf field) schema.identity style = .ok schema.identityModel
  skipped : List.Forall₂
    (fun field skipped => field.name = some skipped.name ∧ field.type = skipped.type)
    (withRole .skipped fields) schema.skipped
  properties : List.Forall₂
    (fun field property => field.name = some property.name ∧ field.type = property.declared ∧
      modelName (optionsOf field) property.name style = .ok property.modelName)
    (withRole .property fields) schema.properties

/-- The schema of a declaration sorts its fields. -/
theorem Schema.sorts_of_ofDeclaration {declaration : Declaration} {fields : List Field}
    {schema : Schema} (hshape : declaration.shape = .named fields)
    (h : Schema.ofDeclaration declaration = .ok schema) :
    Sorts (styleOf declaration) fields schema := by
  obtain ⟨found, hfound, _, _, _, hall, hassemble⟩ := ofDeclaration_eq_ok_iff.mp h
  obtain rfl : found = fields := by simpa [hfound] using hshape
  obtain ⟨identity, model, record, translator, typeAlias, hone, _, _, rfl⟩ :=
    assemble_eq_ok_iff.mp hassemble
  have hidentity := forall₂_withRole FieldClass.role_eq_identity_iff hall
  rw [hone] at hidentity
  refine ⟨?_, ?_, ?_⟩
  -- There is one identity, so there is one field with this role.
  · obtain ⟨field, rest, ⟨class', hclass, hpick⟩, hrest, hfields⟩ :=
      List.forall₂_cons_right_iff.mp hidentity
    rw [List.forall₂_nil_right_iff.mp hrest] at hfields
    obtain ⟨_, hname, hmodel⟩ := class?_cases hclass
    cases class' with
    | identity _ _ =>
        cases hpick
        exact ⟨field, hfields, hname, hmodel⟩
    | _ => cases hpick
  · refine (forall₂_withRole FieldClass.role_eq_skipped_iff hall).imp ?_
    rintro field skipped ⟨class', hclass, hpick⟩
    obtain ⟨_, hname, htype⟩ := class?_cases hclass
    cases class' with
    | skipped _ =>
        cases hpick
        exact ⟨hname, htype.symm⟩
    | _ => cases hpick
  · refine (forall₂_withRole FieldClass.role_eq_property_iff hall).imp ?_
    rintro field property ⟨class', hclass, hpick⟩
    obtain ⟨_, hname, hrest⟩ := class?_cases hclass
    cases class' with
    | property _ =>
        cases hpick
        exact ⟨hname, hrest.1.symm, hrest.2⟩
    | _ => cases hpick

/-- Values that go together one by one make equal lists. -/
theorem map_eq_map_of_forall₂ {α β γ : Type} {R : α → β → Prop} {f : α → γ} {g : β → γ}
    {left : List α} {right : List β} (h : List.Forall₂ R left right)
    (heq : ∀ a b, R a b → f a = g b) : left.map f = right.map g := by
  induction h with
  | nil => rfl
  | cons hhead _ ih => rw [List.map_cons, List.map_cons, heq _ _ hhead, ih]

/-- The classes of the fields of a schema: the identity, the skipped fields, the properties. -/
def Schema.classes (schema : Schema) : List FieldClass :=
  .identity schema.identity schema.identityModel ::
    (schema.skipped.map .skipped ++ schema.properties.map .property)

/-- No record field stems from a skipped field. -/
theorem Schema.Sorts.recordNames {style : NamingStyle} {fields : List Field} {schema : Schema}
    (h : Sorts style fields schema) :
    List.Forall₂ (fun field model => ∃ name, field.name = some name ∧
        modelName (optionsOf field) name style = .ok model)
      (withRole .identity fields ++ withRole .property fields) schema.recordNames := by
  obtain ⟨field, hfield, hname, hmodel⟩ := h.identity
  rw [hfield]
  refine .cons ⟨_, hname, hmodel⟩ ?_
  rw [List.forall₂_map_right_iff]
  exact h.properties.imp fun _ property hboth => ⟨property.name, hboth.1, hboth.2.2⟩

/-! ### The record -/

/-- The name that an entry starts with, if a colon follows it. -/
def Emit.entryName? : List Tree → Option Ident
  | .ident name :: .punct ':' _ :: _ => some name
  | _ => none

/-- Whether trees declare a field of a structure: attributes, `pub`, a name and a
type. -/
def Emit.Declares (name : Ident) (entry : List Tree) : Prop :=
  ∃ (attributes : List (List Tree)) (type : List Tree), entry =
    attributeTrees attributes ++ word "pub" :: .ident name :: .punct ':' false :: type

/-- What stands in the record of a schema as it is printed: the structure and its default
value have the same fields, in the same order, with different names, and the identity is
accessed by its own. -/
structure Emit.RecordRendering (schema : Schema) (layout : RecordLayout) : Prop where
  name : layout.name = schema.record
  structured : List.Forall₂ Declares schema.recordNames layout.fields
  defaulted : layout.initializers.map entryName? = schema.recordNames.map some
  distinct : (schema.recordNames.map Ident.spelled).Nodup
  identity : layout.identity = schema.identityModel

/-- A field of a record has attributes, its name and its type. -/
theorem Emit.exists_attributes_fieldTrees (field : RecordField) :
    ∃ attributes, RecordItem.fieldTrees field = attributeTrees attributes ++
      word "pub" :: .ident field.name :: .punct ':' false :: storedTypeTrees field.type := by
  unfold RecordItem.fieldTrees
  cases field.doc with
  | none => exact ⟨[], by simp only [List.append_assoc]; rfl⟩
  | some doc =>
      exact ⟨[phrase "doc =" ++ [string doc]], by simp only [List.append_assoc]; rfl⟩

/-- The record of an accepted declaration is printed as its schema says. -/
theorem Emit.recordRendering_of {declaration : Declaration} {schema : Schema}
    (h : Schema.ofDeclaration declaration = .ok schema) :
    RecordRendering schema (RecordItem.of schema).layout where
  name := rfl
  structured := by
    refine .cons ?_ ?_
    -- The identity comes first, with documentation of its own.
    · exact ⟨[phrase "doc =" ++ [.literal "r\" Stable key shared with the domain value.\""]],
        support "Identity", rfl⟩
    · rw [List.forall₂_map_left_iff, List.forall₂_map_right_iff, RecordItem.of,
        List.forall₂_map_right_iff, List.forall₂_same]
      intro property _
      obtain ⟨attributes, hfield⟩ := exists_attributes_fieldTrees
        ⟨property.doc, property.modelName, StoredType.of property⟩
      exact ⟨attributes, _, hfield⟩
  defaulted := by
    have hothers : ∀ property : Property, entryName? ([.ident property.modelName] ++ phrase ":" ++
        defaultTrees (DefaultValue.of property)) = some property.modelName := fun _ => rfl
    simp only [RecordItem.layout, RecordItem.of, Schema.recordNames, List.map_cons, List.map_map,
      Function.comp_def, hothers]
    rfl
  distinct := recordNames_nodup h
  identity := rfl

/-! ### The translator -/

/-- The types that the code for a property may have in it. -/
def Schema.Property.types (property : Property) : List (List Tree) :=
  [property.declared.trees, property.element.trees] ++
    match property.kind with
    | .nested record translator => [record.trees, translator.trees]
    | _ => []

/-- The transfer of a property mentions its own types only. -/
theorem Emit.within_transfer (property : Property) :
    Transfer.Within property.types (Transfer.of property) := by
  unfold Transfer.of
  split
  · simp [Transfer.Within, Property.types]
  · split
    · simp [Transfer.Within, Property.types]
    · trivial

/-- The plan for reading a property mentions its own types only. -/
theorem Emit.within_readPlan (property : Property) :
    ReadPlan.Within property.types (ReadPlan.of property) := by
  have htransfer := within_transfer property
  unfold ReadPlan.of
  split
  · rename_i record translator hkind
    have hmem : translator.trees ∈ property.types := by simp [Property.types, hkind]
    split
    · exact hmem
    · split <;> exact hmem
  -- Without nesting the plan has the transfer of the property in it, or nothing.
  · dsimp only
    split
    · exact htransfer
    · exact htransfer
    · split
      · exact htransfer
      · split
        · exact htransfer
        · trivial
    · split
      · exact htransfer
      · split <;> exact htransfer

/-- The plan for writing a property mentions its own types only. -/
theorem Emit.within_writePlan (property : Property) :
    WritePlan.Within property.types (WritePlan.of property) := by
  have htransfer := within_transfer property
  unfold WritePlan.of
  split
  · rename_i record translator hkind
    have hmem : translator.trees ∈ property.types := by simp [Property.types, hkind]
    split
    · exact hmem
    · split <;> exact hmem
  · dsimp only
    split
    · exact htransfer
    · exact htransfer
    · split <;> exact htransfer
    · split <;> exact htransfer

/-- Whether trees initialize a field of the domain type: the identity by that of the record, a
skipped field by its default, and a property by something of its own record field. -/
inductive Emit.Initializes : FieldClass → List Tree → Prop where
  | identity {name model : Ident} : Initializes (.identity name model) (byIdentity name)
  | skipped {field : SkippedField} : Initializes (.skipped field) (byDefault field.name)
  | property {property : Property} {value : List Tree}
      (source : Uses property.types value [ofRecord property.modelName]) :
      Initializes (.property property) (.ident property.name :: .punct ':' false :: value)

/-- What stands in the translator of a schema as it is printed. Reading initializes the
identity from the record as a whole, each skipped field by its default, and each property
from its own record field. Writing is one block for each property, in order, that
writes its domain field to its record field; none of these is the identity. -/
structure Emit.TranslatorRendering (schema : Schema) (layout : TranslatorLayout) : Prop where
  name : layout.name = schema.translator
  domain : layout.domain = schema.name
  record : layout.record = schema.record
  reading : List.Forall₂ Initializes schema.classes layout.initializers
  writing : List.Forall₂ (fun property block =>
    WriteBlock property.types property.name property.modelName block)
      schema.properties layout.blocks
  keepsIdentity : ∀ property ∈ schema.properties,
    property.modelName.spelled ≠ schema.identityModel.spelled

/-- A property is initialized by reading its record field. -/
theorem Emit.initializes_fieldReadTrees (schema : Schema) (property : Property) :
    Initializes (.property property) (TranslatorItem.fieldReadTrees ⟨property.name,
      property.declared, property.modelName, schema.label property, ReadPlan.of property⟩) := by
  have hread := uses_readTrees (within_readPlan property) property.modelName
    (schema.label property)
  have htype : Uses property.types property.declared.trees [] :=
    uses_type (by simp [Property.types])
  exact .property (hread.argument ((htype.behind rfl).before rfl))

/-- The translator of an accepted declaration is printed as its schema says. -/
theorem Emit.translatorRendering_of {declaration : Declaration} {schema : Schema}
    (h : Schema.ofDeclaration declaration = .ok schema) :
    TranslatorRendering schema (TranslatorItem.of schema).layout where
  name := rfl
  domain := rfl
  record := rfl
  reading := by
    -- The initializers come in the order of the classes: the identity, what is skipped, the
    -- properties.
    refine .cons ?_ (List.rel_append ?_ ?_)
    · rw [TranslatorItem.identityTrees_eq_byIdentity]
      exact .identity
    · rw [List.forall₂_map_left_iff, List.forall₂_map_right_iff, TranslatorItem.of,
        List.forall₂_map_right_iff, List.forall₂_same]
      intro skipped _
      rw [TranslatorItem.skippedTrees_eq_byDefault]
      exact .skipped
    · rw [List.forall₂_map_left_iff, List.forall₂_map_right_iff, TranslatorItem.of,
        List.forall₂_map_right_iff, List.forall₂_same]
      exact fun property _ => initializes_fieldReadTrees schema property
  writing := by
    rw [TranslatorItem.layout, List.forall₂_map_right_iff, TranslatorItem.of,
      List.forall₂_map_right_iff, List.forall₂_same]
    intro property _
    exact writeBlock_writeTrees (within_writePlan property) property.name property.modelName
  keepsIdentity := by
    -- No two record fields share a name, so none shares that of the identity.
    have hdistinct := recordNames_nodup h
    rw [Schema.recordNames, List.map_cons, List.nodup_cons] at hdistinct
    intro property hproperty heq
    refine hdistinct.1 ?_
    rw [← heq, List.map_map]
    exact List.mem_map_of_mem hproperty

/-! ### The alias -/

/-- What stands in the alias of a schema as it is printed: it names the domain type, the
record and the translator as the other items do, and gives access to the identity that
reading initializes. -/
structure Emit.AliasRendering (schema : Schema) (layout : AliasLayout) : Prop where
  name : layout.name = schema.typeAlias
  domain : layout.domain = schema.name
  record : layout.record = schema.record
  translator : layout.translator = schema.translator
  identity : layout.identity = schema.identity

/-- The alias of a schema is printed with the names of the other items. -/
theorem Emit.aliasRendering_of (schema : Schema) : AliasRendering schema (aliasLayout schema) :=
  ⟨rfl, rfl, rfl, rfl, rfl⟩

/-! ### All items -/

end Recordsmith

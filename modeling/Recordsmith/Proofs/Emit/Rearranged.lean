import Recordsmith.Proofs.Emit.Layout
import Recordsmith.Proofs.Schema.Sorting
import Recordsmith.Proofs.Translate.RoundTrip

/-!
# `Recordsmith.Proofs.Emit.Rearranged`: places of fields that do not matter

What is generated from a declaration depends on the order of its properties,
since they are the fields of the record in that order. It does not depend on
where the identity and the skipped fields stand between them.

Classes are found field by field, so what sorting gives for each role depends on
the fields of that role alone. Hence two declarations with the same identity and
the same properties, in the same order, have schemas that differ in the skipped
fields at most (`ofDeclaration_withFields`). Skipped fields show only in the
translator, as initializers of the value that is read: in its layout, with which
it is printed, they have places of their own (`translator_layout_skipped`).
-/

set_option autoImplicit false

namespace Recordsmith

open Recordsmith.Source Recordsmith.Source.Tree Recordsmith.Schema Recordsmith.Emit

/-! ### Declarations with other fields -/

/-- The declaration with other fields. -/
def Source.Declaration.withFields (declaration : Declaration) (fields : List Field) :
    Declaration :=
  { declaration with shape := .named fields }

/-- The items that are generated from a declaration. -/
def Emit.Expansion.ofDeclaration (declaration : Declaration) : Except Refusal Expansion :=
  (Schema.ofDeclaration declaration).map Expansion.of

/-- Whether fields are put in another order that keeps the order of the
properties and that of the skipped fields. -/
structure Schema.Reordered (fields others : List Field) : Prop where
  perm : others.Perm fields
  properties : withRole .property others = withRole .property fields
  skipped : withRole .skipped others = withRole .skipped fields

/-- Whether a field has a name, and `skip` as its only option. -/
structure Schema.MarkedSkip (field : Field) : Prop where
  named : field.name.isSome = true
  readable : (FieldOptions.ofAttributes field.attributes).issues = []
  options : (FieldOptions.ofAttributes field.attributes).options = { skip := true }

/-- Whether fields differ only by skipped ones that are added or removed. -/
structure Schema.SameKept (fields others : List Field) : Prop where
  kept : others.filter (fun field => roleOf field ≠ .skipped)
    = fields.filter (fun field => roleOf field ≠ .skipped)
  skipped : ∀ field ∈ withRole .skipped others, MarkedSkip field

section

variable {style : NamingStyle} {fields others : List Field}

/-! ### Skipped fields -/

/-- A field with `skip` as its only option is skipped. -/
theorem Schema.MarkedSkip.class?_eq {field : Field} (h : MarkedSkip field)
    (style : NamingStyle) :
    ∃ name, field.name = some name ∧ class? style field = some (.skipped ⟨name, field.type⟩) := by
  obtain ⟨name, hname⟩ := Option.isSome_iff_exists.mp h.named
  refine ⟨name, hname, ?_⟩
  rw [class?_eq_some_iff]
  refine ⟨_, readField_eq_ok_iff.mpr ⟨h.readable, rfl⟩, ?_⟩
  simp [classify, hname, h.options, FieldOptions.markerCount, FieldOptions.hasOptions]

/-- The names of the skipped fields, in order. -/
def Schema.skippedNames (fields : List Field) : List Ident :=
  (withRole .skipped fields).filterMap (·.name)

/-- The skipped fields that are sorted out are the ones with that role. -/
theorem Schema.names_skipped
    (h : ∀ field ∈ withRole .skipped fields, (class? style field).isSome = true) :
    ((classesOf style fields).filterMap FieldClass.skipped?).map (·.name)
      = skippedNames fields := by
  have htwice : withRole .skipped (withRole .skipped fields) = withRole .skipped fields := by
    simp [withRole, List.filter_filter]
  have hall := forall₂_withRole FieldClass.role_eq_skipped_iff h
  rw [htwice, ← filterMap_classesOf FieldClass.role_eq_skipped_iff] at hall
  rw [skippedNames]
  -- Both lists come from the fields with the role, so they are gone through together.
  generalize withRole .skipped fields = marked at hall
  generalize (classesOf style fields).filterMap FieldClass.skipped? = skipped at hall
  induction hall with
  | nil => rfl
  | @cons field skipped _ _ hfield _ ih =>
      obtain ⟨found, hclass, hskipped⟩ := hfield
      have hname := (class?_cases hclass).2.1
      cases found with
      | skipped other =>
          cases hskipped
          rw [List.filterMap_cons_some hname, List.map_cons, ih]
          rfl
      | _ => cases hskipped

end

/-! ### Schemas of declarations with other fields -/

section

variable {declaration : Declaration} {fields others : List Field} {schema : Schema}

/-- With the same identity and properties the schema differs in the skipped
fields at most. -/
theorem Schema.ofDeclaration_withFields (hshape : declaration.shape = .named fields)
    (h : Schema.ofDeclaration declaration = .ok schema)
    (hidentity : (withRole .identity others).Perm (withRole .identity fields))
    (hproperty : withRole .property others = withRole .property fields)
    (hskipped : ∀ field ∈ withRole .skipped others,
      (class? (styleOf declaration) field).isSome = true) :
    Schema.ofDeclaration (declaration.withFields others)
      = .ok { schema with
          skipped := (classesOf (styleOf declaration) others).filterMap
            FieldClass.skipped? } := by
  obtain ⟨found, hfound, hissues, hparameters, hwhere, hall, hassemble⟩ :=
    ofDeclaration_eq_ok_iff.mp h
  obtain rfl : found = fields := by simpa [hfound] using hshape
  obtain ⟨identity, model, record, translator, typeAlias, hone, hnames, hitems, rfl⟩ :=
    assemble_eq_ok_iff.mp hassemble
  -- A field of the identity or of a property is one of the fields before.
  have hothers : ∀ field ∈ others, (class? (styleOf declaration) field).isSome = true := by
    intro field hfield
    have hmem : field ∈ withRole (roleOf field) others := by simpa [withRole] using hfield
    cases hrole : roleOf field with
    | identity =>
        rw [hrole, hidentity.mem_iff] at hmem
        exact hall field (List.mem_filter.mp hmem).1
    | skipped => exact hskipped field (hrole ▸ hmem)
    | property =>
        rw [hrole, hproperty] at hmem
        exact hall field (List.mem_filter.mp hmem).1
  refine ofDeclaration_eq_ok_iff.mpr
    ⟨others, rfl, hissues, hparameters, hwhere, hothers, assemble_eq_ok_iff.mpr ?_⟩
  have hstyle : styleOf (declaration.withFields others) = styleOf declaration := rfl
  -- There is one identity, so its place is the only one that it can have.
  have hidentities : (classesOf (styleOf declaration) others).filterMap FieldClass.identity?
      = [(identity, model)] := by
    have hperm := (hidentity.filterMap (class? (styleOf declaration))).filterMap
      FieldClass.identity?
    rw [← classesOf, ← classesOf, ← filterMap_classesOf FieldClass.role_eq_identity_iff,
      ← filterMap_classesOf FieldClass.role_eq_identity_iff, hone] at hperm
    exact List.perm_singleton.mp hperm
  have hproperties : (classesOf (styleOf declaration) others).filterMap FieldClass.property? = _ :=
    filterMap_classesOf_congr FieldClass.role_eq_property_iff hproperty
  refine ⟨identity, model, record, translator, typeAlias, ?_, ?_, hitems, ?_⟩
  · rw [hstyle, hidentities]
  · rw [hstyle, hproperties, hnames]
  · rw [hstyle, hproperties]
    rfl

/-- Kept fields that are the same are the same for each role. -/
theorem Schema.SameKept.withRole_eq (h : SameKept fields others) {role : Role}
    (hrole : role ≠ .skipped) : withRole role others = withRole role fields := by
  have hfilter : ∀ list : List Field,
      (list.filter fun field => roleOf field ≠ .skipped).filter (fun field => roleOf field = role)
        = withRole role list := by
    intro list
    rw [List.filter_filter, withRole]
    refine List.filter_congr fun field _ => ?_
    by_cases heq : roleOf field = role
    · simp [heq, hrole]
    · simp [heq]
  rw [← hfilter others, h.kept, hfilter fields]

/-- Another order of the fields gives the same schema. -/
theorem Schema.Reordered.ofDeclaration_eq (hshape : declaration.shape = .named fields)
    (h : Schema.ofDeclaration declaration = .ok schema) (hothers : Reordered fields others) :
    Schema.ofDeclaration (declaration.withFields others) = .ok schema := by
  obtain ⟨found, hfound, _, _, _, hall, hassemble⟩ := ofDeclaration_eq_ok_iff.mp h
  obtain rfl : found = fields := by simpa [hfound] using hshape
  have hskipped : ∀ field ∈ withRole .skipped others,
      (class? (styleOf declaration) field).isSome = true := by
    intro field hfield
    rw [hothers.skipped] at hfield
    exact hall field (List.mem_filter.mp hfield).1
  -- The skipped fields are in order still, so they are picked as before.
  have hsame : (classesOf (styleOf declaration) others).filterMap FieldClass.skipped?
      = schema.skipped := by
    obtain ⟨_, _, _, _, _, _, _, _, rfl⟩ := assemble_eq_ok_iff.mp hassemble
    exact filterMap_classesOf_congr FieldClass.role_eq_skipped_iff hothers.skipped
  rw [ofDeclaration_withFields hshape h (hothers.perm.filter _) hothers.properties hskipped, hsame]

/-- Other skipped fields give a schema with other skipped fields. -/
theorem Schema.SameKept.ofDeclaration_eq (hshape : declaration.shape = .named fields)
    (h : Schema.ofDeclaration declaration = .ok schema) (hothers : SameKept fields others) :
    ∃ skipped : List SkippedField,
      Schema.ofDeclaration (declaration.withFields others) = .ok { schema with skipped } ∧
      skipped.map (·.name) = skippedNames others := by
  have hidentity : withRole .identity others = withRole .identity fields :=
    hothers.withRole_eq (by decide)
  have hproperty : withRole .property others = withRole .property fields :=
    hothers.withRole_eq (by decide)
  -- Skipped fields that come in new are marked and nothing else, so each has its class.
  have hskipped : ∀ field ∈ withRole .skipped others,
      (class? (styleOf declaration) field).isSome = true := by
    intro field hfield
    obtain ⟨name, _, hclass⟩ := (hothers.skipped field hfield).class?_eq (styleOf declaration)
    rw [hclass]
    rfl
  exact ⟨_, ofDeclaration_withFields hshape h (.of_eq hidentity) hproperty hskipped,
    names_skipped hskipped⟩

end

/-! ### What is generated -/

/-- The initializers of a translator: the identity first, then the skipped fields, each with
its default value, then the properties. -/
theorem Emit.translator_layout_skipped (schema : Schema) (skipped : List SkippedField) :
    (TranslatorItem.of { schema with skipped }).layout
      = { (TranslatorItem.of schema).layout with
          initializers := byIdentity schema.identity :: (skipped.map (·.name)).map byDefault
            ++ (TranslatorItem.of schema).reads.map TranslatorItem.fieldReadTrees } := by
  have hskipped : (skipped.map (·.name)).map TranslatorItem.skippedTrees
      = (skipped.map (·.name)).map byDefault :=
    List.map_congr_left fun name _ => TranslatorItem.skippedTrees_eq_byDefault name
  unfold TranslatorItem.layout
  rw [← hskipped]
  rfl

/-- Items are generated from a text if it spells a declaration that has a schema. -/
theorem Emit.Expansion.ofText_eq_ok_iff {text : String} {expansion : Expansion} :
    Expansion.ofText text = .ok expansion ↔
      ∃ declaration schema, Declaration.ofText? text = some declaration ∧
        Schema.ofDeclaration declaration = .ok schema ∧ Expansion.of schema = expansion := by
  unfold Expansion.ofText Schema.ofText
  cases Declaration.ofText? text with
  | none => simp [Except.map]
  | some declaration =>
      cases hschema : Schema.ofDeclaration declaration with
      | error refusal => simp [hschema, Except.map]
      | ok schema => simp [hschema, Except.map]

/-- The items of a schema are generated from every text that spells its declaration. -/
theorem Emit.Expansion.ofText_of_schema {text : String} {declaration : Declaration}
    {schema : Schema} (htext : Declaration.ofText? text = some declaration)
    (hschema : Schema.ofDeclaration declaration = .ok schema) :
    Expansion.ofText text = .ok (.of schema) :=
  ofText_eq_ok_iff.mpr ⟨declaration, schema, htext, hschema, rfl⟩

/-- What is generated does not depend on the places of the identity and of
skipped fields.

Take any text from which items are generated, and put its fields in another order
that keeps the order of the properties and that of the skipped fields: the same
items are generated. Add or remove skipped fields anywhere: items are generated,
with the same texts of the record and of the alias, and with a translator that is
printed from the same layout but for the initializers of the skipped fields. So it
has the same function that writes a record. -/
theorem expansion_ignores_places (text : String) (expansion : Expansion)
    (h : Expansion.ofText text = .ok expansion) :
    ∃ declaration fields,
      Declaration.ofText? text = some declaration ∧ declaration.shape = .named fields ∧
      (∀ others, Reordered fields others →
        Expansion.ofDeclaration (declaration.withFields others) = .ok expansion ∧
        ∀ reordered, Declaration.ofText? reordered = some (declaration.withFields others) →
          Expansion.ofText reordered = .ok expansion) ∧
      ∃ (layout : TranslatorLayout) (identity : Ident) (properties : List (List Tree)),
        expansion.translator = Tree.print { layout with
          initializers := byIdentity identity :: (skippedNames fields).map byDefault
            ++ properties }.trees ∧
        ∀ others, SameKept fields others →
          ∃ changed : Expansion,
            Expansion.ofDeclaration (declaration.withFields others) = .ok changed ∧
            (∀ edited, Declaration.ofText? edited = some (declaration.withFields others) →
              Expansion.ofText edited = .ok changed) ∧
            changed.record = expansion.record ∧ changed.typeAlias = expansion.typeAlias ∧
            changed.translator = Tree.print { layout with
              initializers := byIdentity identity :: (skippedNames others).map byDefault
                ++ properties }.trees := by
  obtain ⟨declaration, schema, htext, hschema, rfl⟩ := Expansion.ofText_eq_ok_iff.mp h
  obtain ⟨fields, hshape, _, _, _, hall, hassemble⟩ := ofDeclaration_eq_ok_iff.mp hschema
  refine ⟨declaration, fields, htext, hshape, ?_, ?_⟩
  · intro others hothers
    have hsame := hothers.ofDeclaration_eq hshape hschema
    refine ⟨?_, fun reordered hreordered => ?_⟩
    · rw [Expansion.ofDeclaration, hsame]
      rfl
    · exact Expansion.ofText_of_schema hreordered hsame
  -- The initializers of skipped fields only depend on the names, which come from the fields in
  -- order.
  · have hown : schema.skipped.map (·.name) = skippedNames fields := by
      obtain ⟨_, _, _, _, _, _, _, _, rfl⟩ := assemble_eq_ok_iff.mp hassemble
      exact names_skipped fun field hfield => hall field (List.mem_filter.mp hfield).1
    refine ⟨(TranslatorItem.of schema).layout, schema.identity,
      (TranslatorItem.of schema).reads.map TranslatorItem.fieldReadTrees, ?_, ?_⟩
    · rw [← hown, ← translator_layout_skipped schema schema.skipped]
      exact congrArg Tree.print (TranslatorItem.trees_eq _)
    · intro others hothers
      obtain ⟨skipped, hchanged, hnames⟩ := hothers.ofDeclaration_eq hshape hschema
      refine ⟨Expansion.of { schema with skipped }, ?_, fun edited hedited => ?_, rfl, rfl, ?_⟩
      · rw [Expansion.ofDeclaration, hchanged]
        rfl
      · exact Expansion.ofText_of_schema hedited hchanged
      · rw [← hnames, ← translator_layout_skipped schema skipped]
        exact congrArg Tree.print (TranslatorItem.trees_eq _)

/-! ### A note with a hint -/

namespace Sample

/-- A note with a hint before its identity and a title behind it. -/
def noteText : String :=
  "struct Note \x7b #[dao(skip)] hint: u8, id: Identity, title: String \x7d"

/-- The roles of the fields that a text declares. -/
def rolesOf (text : String) : Option (List Role) :=
  (Declaration.ofText? text).bind fun declaration =>
    match declaration.shape with
    | .named fields => some (fields.map roleOf)
    | _ => none

/-- The names of the fields that a text declares. -/
def namesOf (text : String) : Option (List (Option Ident)) :=
  (Declaration.ofText? text).bind fun declaration =>
    match declaration.shape with
    | .named fields => some (fields.map (·.name))
    | _ => none

/-- Items are generated from a note. -/
theorem exists_expansion_note : ∃ expansion, Expansion.ofText noteText = .ok expansion := by
  have hsome : (Expansion.ofText noteText).toOption.isSome = true := by decide +kernel
  cases hof : Expansion.ofText noteText with
  | error refusal => rw [hof] at hsome; cases hsome
  | ok expansion => exact ⟨expansion, rfl⟩

/-- The hint of a note is skipped, and its title is a property behind the identity. -/
theorem rolesOf_noteText : rolesOf noteText = some [.skipped, .identity, .property] := by
  decide +kernel

/-- The fields of a note have names. -/
theorem namesOf_noteText :
    namesOf noteText = some [some (.plain "hint"), some (.plain "id"), some (.plain "title")] := by
  decide +kernel

/-- The fields of a note are its hint, its identity and its title. -/
theorem fields_noteText {declaration : Declaration} {fields : List Field}
    (htext : Declaration.ofText? noteText = some declaration)
    (hshape : declaration.shape = .named fields) :
    fields.map roleOf = [.skipped, .identity, .property] ∧
      fields.map (·.name) = [some (.plain "hint"), some (.plain "id"), some (.plain "title")] := by
  have hroles := rolesOf_noteText
  have hnames := namesOf_noteText
  exact ⟨by simpa [rolesOf, htext, hshape] using hroles,
    by simpa [namesOf, htext, hshape] using hnames⟩

/-- A field that can be added. -/
def spareField : Field :=
  field ["skip"] "spare" (named "u8")

/-- The spare field is marked to be skipped and nothing else. -/
theorem markedSkip_spareField : MarkedSkip spareField :=
  ⟨rfl, rfl, rfl⟩

end Sample

/-- The fields of a note are turned round, or the hint is replaced by a field at the end. Then
the translator is printed with the default value of that field in place of that of the hint. -/
theorem expansion_ignores_places_note :
    ∃ expansion declaration hint id title,
      Expansion.ofText Sample.noteText = .ok expansion ∧
      Declaration.ofText? Sample.noteText = some declaration ∧
      declaration.shape = .named [hint, id, title] ∧
      Expansion.ofDeclaration (declaration.withFields [title, id, hint]) = .ok expansion ∧
      ∃ (changed : Expansion) (layout : TranslatorLayout) (identity : Ident)
        (properties : List (List Tree)),
        Expansion.ofDeclaration (declaration.withFields [id, title, Sample.spareField])
          = .ok changed ∧
        changed.record = expansion.record ∧
        expansion.translator = Tree.print { layout with
          initializers := byIdentity identity :: byDefault (.plain "hint") :: properties }.trees ∧
        changed.translator = Tree.print { layout with
          initializers :=
            byIdentity identity :: byDefault (.plain "spare") :: properties }.trees := by
  obtain ⟨expansion, hexpansion⟩ := Sample.exists_expansion_note
  obtain ⟨declaration, fields, htext, hshape, hreordered, layout, identity, properties,
    htranslator, hkept⟩ := expansion_ignores_places Sample.noteText expansion hexpansion
  obtain ⟨hroles, hnames⟩ := Sample.fields_noteText htext hshape
  obtain ⟨hint, id, title, rfl⟩ : ∃ hint id title, fields = [hint, id, title] :=
    List.length_eq_three.mp (by simpa using congrArg List.length hroles)
  simp only [List.map_cons, List.map_nil, List.cons.injEq, and_true] at hroles hnames
  obtain ⟨hhint, hid, htitle⟩ := hroles
  have hspare : roleOf Sample.spareField = .skipped := rfl
  have hskipped : skippedNames [hint, id, title] = [.plain "hint"] := by
    simp [skippedNames, withRole, hhint, hid, htitle, hnames]
  have hothers : SameKept [hint, id, title] [id, title, Sample.spareField] := by
    refine ⟨by simp [hhint, hid, htitle, hspare], ?_⟩
    simpa [withRole, hhint, hid, htitle, hspare] using Sample.markedSkip_spareField
  have hadded : skippedNames [id, title, Sample.spareField] = [.plain "spare"] := by
    have hname : Sample.spareField.name = some (.plain "spare") := rfl
    simp [skippedNames, withRole, hid, htitle, hspare, hname]
  obtain ⟨changed, hchanged, _, hrecord, _, hchangedTranslator⟩ := hkept _ hothers
  rw [hskipped] at htranslator
  rw [hadded] at hchangedTranslator
  refine ⟨expansion, declaration, hint, id, title, hexpansion, htext, hshape, ?_, changed, layout,
    identity, properties, hchanged, hrecord, htranslator, hchangedTranslator⟩
  -- Turned round, the one property and the one skipped field are in order still.
  refine (hreordered [title, id, hint] ⟨?_, ?_, ?_⟩).1
  · exact List.reverse_perm [hint, id, title]
  · simp [withRole, hhint, hid, htitle]
  · simp [withRole, hhint, hid, htitle]

end Recordsmith

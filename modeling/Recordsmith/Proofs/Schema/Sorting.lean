import Mathlib.Data.List.Forall2
import Recordsmith.Proofs.Schema.Accepted

/-!
# `Recordsmith.Proofs.Schema.Sorting`: the fields of a declaration by their roles

A field is the identity, it is skipped, or it is a property. Its options and its
type alone decide which (`roleOf`), so the places of other fields do not matter.

Sorting fields is a loop that collects classes and issues. `ofDeclaration_eq_ok_iff`
says when it succeeds and with what: every field has a class, and the classes of
each role are kept in the order of the fields (`Sorted.ofClasses`). The rest of
this module says what is known of the classes (`class?_cases`) and of the names
of record fields (`recordNames_nodup`).
-/

set_option autoImplicit false

namespace Recordsmith.Schema

open Recordsmith.Source

/-! ### Roles -/

/-- What a field is for. -/
inductive Role where
  | identity
  | skipped
  | property
  deriving DecidableEq, Repr

/-- What a field is for, by its options and its type. -/
def roleOf (field : Field) : Role :=
  if (FieldOptions.ofAttributes field.attributes).options.skip then .skipped
  else if field.type.isNamed "Identity" then .identity
  else .property

/-- The fields for some role, in order. -/
def withRole (role : Role) (fields : List Field) : List Field :=
  fields.filter fun field => roleOf field = role

namespace FieldClass

/-- The role that a class belongs to. -/
def role : FieldClass → Role
  | .identity _ _ => .identity
  | .skipped _ => .skipped
  | .property _ => .property

/-- The name of the field that has a class. -/
def name : FieldClass → Ident
  | .identity name _ => name
  | .skipped field => field.name
  | .property kept => kept.name

/-- The identity and the name of its record field. -/
def identity? : FieldClass → Option (Ident × Ident)
  | .identity name model => some (name, model)
  | _ => none

/-- The field that is skipped. -/
def skipped? : FieldClass → Option SkippedField
  | .skipped field => some field
  | _ => none

/-- The property. -/
def property? : FieldClass → Option Property
  | .property kept => some kept
  | _ => none

end FieldClass

/-- The class of a field, if it has one. -/
def class? (style : NamingStyle) (field : Field) : Option FieldClass :=
  match readField field with
  | .ok spec => (classify style spec).toOption
  | .error _ => none

section

variable {style : NamingStyle} {field : Field} {spec : FieldSpec} {found : FieldClass}

/-- A field has a class if its options are read and the rules give it one. -/
theorem class?_eq_some_iff :
    class? style field = some found ↔
      ∃ spec, readField field = .ok spec ∧ classify style spec = .ok found := by
  unfold class?
  cases hread : readField field with
  | error issues => simp
  | ok spec =>
      cases hclass : classify style spec with
      | error error => simp [hclass, Except.toOption]
      | ok other => simp [hclass, Except.toOption]

/-- The options of a field are read as they are, or it has issues. -/
theorem readField_eq_ok_iff :
    readField field = .ok spec ↔
      (FieldOptions.ofAttributes field.attributes).issues = [] ∧
      spec = ⟨field.name, field.type, Docs.comments? field.attributes,
        (FieldOptions.ofAttributes field.attributes).options⟩ := by
  unfold readField
  by_cases hissues : (FieldOptions.ofAttributes field.attributes).issues = []
  · simp [hissues, eq_comm]
  · have hsome : (FieldOptions.ofAttributes field.attributes).issues.isEmpty = false := by
      simpa using hissues
    simp [hsome, hissues]

/-- What the class of a field is made of. -/
theorem classify_cases (h : classify style spec = .ok found) :
    ∃ name, spec.name = some name ∧
      ((spec.options.skip = true ∧ found = .skipped ⟨name, spec.type⟩) ∨
       (spec.options.skip = false ∧ spec.type.isNamed "Identity" = true ∧
          ∃ model, modelName spec.options name style = .ok model ∧
            found = .identity name model) ∨
       (spec.options.skip = false ∧ spec.type.isNamed "Identity" = false ∧
          ∃ property, propertyOf spec name style = .ok property ∧
            found = .property property)) := by
  unfold classify at h
  split at h
  · cases h
  · rename_i name hname
    refine ⟨name, hname, ?_⟩
    split at h
    · cases h
    -- What is left are the three roles: a field is skipped, or it is the identity by its type,
    -- or else a property.
    · cases hskip : spec.options.skip with
      | true =>
          rw [hskip, if_pos rfl] at h
          split at h
          · cases h
          · cases h
            exact .inl ⟨rfl, rfl⟩
      | false =>
          rw [hskip, if_neg Bool.false_ne_true] at h
          cases hidentity : spec.type.isNamed "Identity" with
          | true =>
              rw [hidentity, if_pos rfl] at h
              split at h
              · cases h
              · cases hmodel : modelName spec.options name style with
                | error error => rw [hmodel] at h; cases h
                | ok model =>
                    rw [hmodel] at h
                    cases h
                    exact .inr (.inl ⟨rfl, rfl, model, rfl, rfl⟩)
          | false =>
              rw [hidentity, if_neg Bool.false_ne_true] at h
              cases hproperty : propertyOf spec name style with
              | error error => rw [hproperty] at h; cases h
              | ok property =>
                  rw [hproperty] at h
                  cases h
                  exact .inr (.inr ⟨rfl, rfl, property, rfl, rfl⟩)

/-- A property has the name and the type of its field, and the name of its
record field is made from them. -/
theorem names_of_propertyOf {name : Ident} {property : Property}
    (h : propertyOf spec name style = .ok property) :
    property.name = name ∧ property.declared = spec.type ∧
      modelName spec.options name style = .ok property.modelName := by
  obtain ⟨kind, _, h⟩ := exists_of_bind_eq_ok h
  obtain ⟨_, _, h⟩ := exists_of_bind_eq_ok h
  obtain ⟨model, hmodel, h⟩ := exists_of_bind_eq_ok h
  cases h
  exact ⟨rfl, rfl, hmodel⟩

/-- What the class of a field of a declaration says: its role is that of the
field, and so are its name and type. Record fields are named by the options and
the name of their field. -/
theorem class?_cases (h : class? style field = some found) :
    found.role = roleOf field ∧ field.name = some found.name ∧
      match found with
      | .skipped skipped => skipped.type = field.type
      | .identity name model =>
        modelName (FieldOptions.ofAttributes field.attributes).options name style = .ok model
      | .property property =>
        property.declared = field.type ∧
        modelName (FieldOptions.ofAttributes field.attributes).options property.name style
          = .ok property.modelName := by
  obtain ⟨spec, hread, hclass⟩ := class?_eq_some_iff.mp h
  obtain ⟨_, rfl⟩ := readField_eq_ok_iff.mp hread
  obtain ⟨name, hname, hcases⟩ := classify_cases hclass
  dsimp only at hname hcases
  rcases hcases with ⟨hskip, rfl⟩ | ⟨hskip, htype, model, hmodel, rfl⟩ |
    ⟨hskip, htype, property, hproperty, rfl⟩
  · exact ⟨by simp [roleOf, FieldClass.role, hskip], hname, rfl⟩
  · exact ⟨by simp [roleOf, FieldClass.role, hskip, htype], hname, hmodel⟩
  · obtain ⟨rfl, hdeclared, hmodel⟩ := names_of_propertyOf hproperty
    exact ⟨by simp [roleOf, FieldClass.role, hskip, htype], hname, hdeclared, hmodel⟩

end

/-! ### Sorting -/

/-- Classes by their roles, in order. -/
def Sorted.ofClasses (classes : List FieldClass) : Sorted :=
  ⟨[], classes.filterMap FieldClass.identity?, classes.filterMap FieldClass.skipped?,
    classes.filterMap FieldClass.property?⟩

/-- The classes of the fields that have one. -/
def classesOf (style : NamingStyle) (fields : List Field) : List FieldClass :=
  fields.filterMap (class? style)

section

variable {style : NamingStyle}

/-- Taking one more field into account. -/
theorem sortFields_cons {spec : FieldSpec} {found : FieldClass}
    (h : classify style spec = .ok found) {rest : List FieldSpec} {classes : List FieldClass}
    (hrest : sortFields style rest = .ok (.ofClasses classes)) :
    sortFields style (spec :: rest) = .ok (.ofClasses (found :: classes)) := by
  rw [sortFields, h, hrest]
  cases found <;> rfl

/-- Without issues the first field has a class, and the rest has no issues. -/
theorem exists_class_of_sortFields_cons {spec : FieldSpec} {rest : List FieldSpec}
    {sorted : Sorted} (h : sortFields style (spec :: rest) = .ok sorted)
    (hissues : sorted.issues = []) :
    ∃ found others, classify style spec = .ok found ∧ sortFields style rest = .ok others ∧
      others.issues = [] := by
  rw [sortFields] at h
  cases hrest : sortFields style rest with
  | error fault =>
      rw [hrest] at h
      split at h <;> cases h
  | ok others =>
      rw [hrest] at h
      split at h
      · cases h
      · -- An issue of the first field would be kept.
        cases h
        cases hissues
      · rename_i hclass
        cases h
        exact ⟨_, others, hclass, rfl, hissues⟩
      · rename_i hclass
        cases h
        exact ⟨_, others, hclass, rfl, hissues⟩
      · rename_i hclass
        cases h
        exact ⟨_, others, hclass, rfl, hissues⟩

/-- Every field has a class if sorting goes without issues. -/
theorem isSome_class?_of_sortFields {fields : List Field} {specs : List FieldSpec}
    {sorted : Sorted} (hread : gather (fields.map readField) = .ok specs)
    (hsort : sortFields style specs = .ok sorted) (hissues : sorted.issues = []) :
    ∀ field ∈ fields, (class? style field).isSome = true := by
  -- Reading and sorting go through the fields side by side, so both lists get shorter together.
  induction fields generalizing specs sorted with
  | nil => simp
  | cons field rest ih =>
      rw [List.map_cons] at hread
      cases hfirst : readField field with
      | error issues =>
          rw [hfirst, gather] at hread
          split at hread <;> cases hread
      | ok spec =>
          rw [hfirst, gather] at hread
          cases hrest : gather (rest.map readField) with
          | error issues => rw [hrest] at hread; cases hread
          | ok others =>
              rw [hrest] at hread
              cases hread
              obtain ⟨found, next, hclass, hnext, hnone⟩ :=
                exists_class_of_sortFields_cons hsort hissues
              have hsome : class? style field = some found :=
                class?_eq_some_iff.mpr ⟨spec, hfirst, hclass⟩
              intro other hother
              rcases List.mem_cons.mp hother with rfl | hmem
              · rw [hsome]
                rfl
              · exact ih hrest hnext hnone other hmem

/-- If every field has a class, sorting gives the classes. -/
theorem sortFields_of_isSome_class? {fields : List Field}
    (h : ∀ field ∈ fields, (class? style field).isSome = true) :
    ∃ specs, gather (fields.map readField) = .ok specs ∧
      sortFields style specs = .ok (.ofClasses (classesOf style fields)) := by
  induction fields with
  | nil => exact ⟨[], rfl, rfl⟩
  | cons field rest ih =>
      obtain ⟨specs, hspecs, hsort⟩ := ih fun other hmem => h other (List.mem_cons_of_mem _ hmem)
      obtain ⟨found, hfound⟩ := Option.isSome_iff_exists.mp (h field List.mem_cons_self)
      obtain ⟨spec, hread, hclass⟩ := class?_eq_some_iff.mp hfound
      refine ⟨spec :: specs, ?_, ?_⟩
      · rw [List.map_cons, hread, gather, hspecs]
        rfl
      · rw [classesOf, List.filterMap_cons_some hfound]
        exact sortFields_cons hclass hsort

end

/-! ### Classes of one role -/

section

variable {style : NamingStyle} {fields : List Field} {α : Type}

/-- What is picked from classes of one role comes from the fields of that role,
one for each and in order. -/
theorem forall₂_withRole {pick : FieldClass → Option α} {role : Role}
    (hpick : ∀ found : FieldClass, found.role = role ↔ (pick found).isSome = true)
    (h : ∀ field ∈ fields, (class? style field).isSome = true) :
    List.Forall₂ (fun field value => ∃ found, class? style field = some found ∧
        pick found = some value)
      (withRole role fields) ((classesOf style fields).filterMap pick) := by
  induction fields with
  | nil => exact .nil
  | cons field rest ih =>
      obtain ⟨hfield, hothers⟩ := List.forall_mem_cons.mp h
      obtain ⟨found, hfound⟩ := Option.isSome_iff_exists.mp hfield
      have hrole := (class?_cases hfound).1
      rw [classesOf, List.filterMap_cons_some hfound, withRole]
      -- A field of the role gives one value, and any other field gives none.
      by_cases heq : roleOf field = role
      · obtain ⟨value, hvalue⟩ := Option.isSome_iff_exists.mp ((hpick found).mp (hrole.trans heq))
        rw [List.filter_cons_of_pos (by simpa using heq), List.filterMap_cons_some hvalue]
        exact .cons ⟨found, hfound, hvalue⟩ (ih hothers)
      · have hnone : pick found = none := by
          have hnot := mt (hpick found).mpr (hrole ▸ heq)
          simpa using hnot
        rw [List.filter_cons_of_neg (by simpa using heq), List.filterMap_cons_none hnone]
        exact ih hothers

/-- Fields of other roles do not matter for what is picked. -/
theorem filterMap_classesOf {pick : FieldClass → Option α} {role : Role}
    (hpick : ∀ found : FieldClass, found.role = role ↔ (pick found).isSome = true)
    (fields : List Field) :
    (classesOf style fields).filterMap pick
      = (classesOf style (withRole role fields)).filterMap pick := by
  induction fields with
  | nil => rfl
  | cons field rest ih =>
      unfold classesOf withRole at ih ⊢
      -- A field of another role may have a class, but nothing is picked from it.
      by_cases hrole : roleOf field = role
      · rw [List.filter_cons_of_pos (by simpa using hrole)]
        cases hclass : class? style field with
        | none => rw [List.filterMap_cons_none hclass, List.filterMap_cons_none hclass, ih]
        | some found =>
            rw [List.filterMap_cons_some hclass, List.filterMap_cons_some hclass,
              List.filterMap_cons, List.filterMap_cons, ih]
      · rw [List.filter_cons_of_neg (by simpa using hrole), ← ih]
        cases hclass : class? style field with
        | none => rw [List.filterMap_cons_none hclass]
        | some found =>
            have hnone : pick found = none := by
              have hnot := mt (hpick found).mpr ((class?_cases hclass).1 ▸ hrole)
              simpa using hnot
            rw [List.filterMap_cons_some hclass, List.filterMap_cons_none hnone]

/-- Fields with the same ones of some role give the same classes of that role. -/
theorem filterMap_classesOf_congr {pick : FieldClass → Option α} {role : Role}
    (hpick : ∀ found : FieldClass, found.role = role ↔ (pick found).isSome = true)
    {others : List Field} (h : withRole role others = withRole role fields) :
    (classesOf style others).filterMap pick = (classesOf style fields).filterMap pick := by
  rw [filterMap_classesOf hpick others, h, ← filterMap_classesOf hpick fields]

/-- The identity is picked from classes of its role, and from no others. -/
theorem FieldClass.role_eq_identity_iff :
    ∀ found : FieldClass, found.role = .identity ↔ found.identity?.isSome = true
  | .identity _ _ => by simp [role, identity?]
  | .skipped _ => by simp [role, identity?]
  | .property _ => by simp [role, identity?]

/-- A skipped field is picked from classes of its role, and from no others. -/
theorem FieldClass.role_eq_skipped_iff :
    ∀ found : FieldClass, found.role = .skipped ↔ found.skipped?.isSome = true
  | .identity _ _ => by simp [role, skipped?]
  | .skipped _ => by simp [role, skipped?]
  | .property _ => by simp [role, skipped?]

/-- A property is picked from classes of its role, and from no others. -/
theorem FieldClass.role_eq_property_iff :
    ∀ found : FieldClass, found.role = .property ↔ found.property?.isSome = true
  | .identity _ _ => by simp [role, property?]
  | .skipped _ => by simp [role, property?]
  | .property _ => by simp [role, property?]

end

/-! ### Accepted declarations -/

/-- The style of the names of record fields. -/
def styleOf (declaration : Declaration) : NamingStyle :=
  (StructOptions.ofAttributes declaration.attributes).options.naming

/-- Options are read only from a structure with named fields. -/
theorem readOptions_eq_ok {declaration : Declaration} {options : StructOptions}
    {specs : List FieldSpec} (h : readOptions declaration = .ok (options, specs)) :
    ∃ fields, declaration.shape = .named fields ∧ gather (fields.map readField) = .ok specs ∧
      (StructOptions.ofAttributes declaration.attributes).issues = [] ∧
      options = (StructOptions.ofAttributes declaration.attributes).options := by
  unfold readOptions at h
  -- The shape is read first, and it gives the fields.
  cases hshape : readShape declaration.shape with
  | error issues => rw [hshape] at h; cases h
  | ok found =>
      rw [hshape] at h
      dsimp only at h
      split at h
      · rename_i hissues
        cases h
        unfold readShape at hshape
        split at hshape
        · rename_i fields hfields
          exact ⟨fields, hfields, hshape, by simpa using hissues, rfl⟩
        all_goals cases hshape
      · cases h

/-- A schema is put together only where sorting left no issue. -/
theorem issues_of_assemble {declaration : Declaration} {options : StructOptions}
    {sorted : Sorted} {schema : Schema} (h : assemble declaration options sorted = .ok schema) :
    sorted.issues = [] := by
  unfold assemble at h
  split at h
  · rename_i hissues _
    simp only [Sorted.allIssues, List.append_eq_nil_iff] at hissues
    exact hissues.1.1
  · cases h

/-- Nothing is reported if there is exactly one identity and no name of a record
field comes twice. -/
theorem assemble_eq_ok_iff {declaration : Declaration} {options : StructOptions}
    {classes : List FieldClass} {schema : Schema} :
    assemble declaration options (.ofClasses classes) = .ok schema ↔
      ∃ identity model record translator typeAlias,
        classes.filterMap FieldClass.identity? = [(identity, model)] ∧
        repeatedNames [model.spelled] (classes.filterMap FieldClass.property?) = [] ∧
        itemNames options declaration.name = .ok (record, translator, typeAlias) ∧
        schema = {
          name := declaration.name
          visibility := declaration.visibility
          doc := Docs.summary? declaration.attributes
          identity
          identityModel := model
          skipped := classes.filterMap FieldClass.skipped?
          properties := classes.filterMap FieldClass.property?
          record
          translator
          typeAlias } := by
  unfold assemble Sorted.allIssues nameIssues Sorted.ofClasses
  -- The number of identities is reported first, so with any other than one there is no schema
  -- on either side.
  cases hidentities : classes.filterMap FieldClass.identity? with
  | nil => simp [identityIssues]
  | cons first others =>
      obtain ⟨identity, model⟩ := first
      cases others with
      | cons second more => simp [identityIssues]
      | nil =>
          simp only [identityIssues, List.map_nil, List.append_nil, List.nil_append]
          cases hnames : repeatedNames [model.spelled]
              (classes.filterMap FieldClass.property?) with
          | cons issue more =>
              simp only [reduceCtorEq, List.cons.injEq, Prod.mk.injEq, and_true, false_iff]
              rintro ⟨_, _, _, _, _, ⟨_, rfl⟩, hnone, _⟩
              rw [hnames] at hnone
              cases hnone
          | nil =>
              cases hitems : itemNames options declaration.name with
              | error fault => simp
              | ok items =>
                  obtain ⟨record, translator, typeAlias⟩ := items
                  constructor
                  · intro hok
                    cases hok
                    exact ⟨identity, model, record, translator, typeAlias, rfl, hnames, rfl, rfl⟩
                  · rintro ⟨_, _, _, _, _, hsame, _, hnamed, rfl⟩
                    cases hsame
                    cases hnamed
                    rfl

/-- A declaration is accepted if it is a structure with named fields and without
parameters, its options have no issues, every field has a class, and these make a
schema. -/
theorem ofDeclaration_eq_ok_iff {declaration : Declaration} {schema : Schema} :
    ofDeclaration declaration = .ok schema ↔
      ∃ fields, declaration.shape = .named fields ∧
        (StructOptions.ofAttributes declaration.attributes).issues = [] ∧
        declaration.hasParameters = false ∧ declaration.hasWhere = false ∧
        (∀ field ∈ fields, (class? (styleOf declaration) field).isSome = true) ∧
        assemble declaration (StructOptions.ofAttributes declaration.attributes).options
          (.ofClasses (classesOf (styleOf declaration) fields)) = .ok schema := by
  constructor
  · intro h
    unfold ofDeclaration at h
    split at h
    · cases h
    · rename_i options specs hread
      split at h
      · cases h
      · rename_i hplain
        split at h
        · cases h
        · rename_i sorted hsort
          obtain ⟨fields, hshape, hspecs, hissues, rfl⟩ := readOptions_eq_ok hread
          have hnone := issues_of_assemble h
          have hall := isSome_class?_of_sortFields hspecs hsort hnone
          -- The same fields are sorted once more, now by their classes.
          obtain ⟨others, hothers, hagain⟩ := sortFields_of_isSome_class? hall
          obtain rfl : others = specs := by simpa [hspecs] using hothers.symm
          obtain rfl : sorted = _ := by simpa [hsort] using hagain
          have hparts : declaration.hasParameters = false ∧ declaration.hasWhere = false := by
            simpa using hplain
          exact ⟨fields, hshape, hissues, hparts.1, hparts.2, hall, h⟩
  · rintro ⟨fields, hshape, hissues, hparameters, hwhere, hall, hassemble⟩
    obtain ⟨specs, hspecs, hsort⟩ := sortFields_of_isSome_class? hall
    have hread : readOptions declaration
        = .ok ((StructOptions.ofAttributes declaration.attributes).options, specs) := by
      simp [readOptions, hshape, readShape, hspecs, hissues]
    unfold ofDeclaration
    rw [hread]
    simp only [hparameters, hwhere, Bool.or_self, Bool.false_eq_true, if_false]
    rw [← styleOf, hsort]
    exact hassemble

/-- The record and the translator of a declaration have the names that are given, or that of
the declaration with an ending. -/
theorem givenOr_of_ofDeclaration {declaration : Declaration} {schema : Schema}
    (h : ofDeclaration declaration = .ok schema) :
    givenOr (StructOptions.ofAttributes declaration.attributes).options.record declaration.name
        "Record" = .ok schema.record ∧
      givenOr (StructOptions.ofAttributes declaration.attributes).options.translator
        declaration.name "Translator" = .ok schema.translator ∧
      schema.name = declaration.name := by
  obtain ⟨_, _, _, _, _, _, hassemble⟩ := ofDeclaration_eq_ok_iff.mp h
  obtain ⟨_, _, record, translator, typeAlias, _, _, hitems, rfl⟩ :=
    assemble_eq_ok_iff.mp hassemble
  obtain ⟨_, hrecord, hitems⟩ := exists_of_bind_eq_ok hitems
  obtain ⟨_, htranslator, hitems⟩ := exists_of_bind_eq_ok hitems
  obtain ⟨_, _, hitems⟩ := exists_of_bind_eq_ok hitems
  cases hitems
  exact ⟨hrecord, htranslator, rfl⟩

/-! ### Names of record fields -/

/-- No name comes twice, and none has been seen before. -/
theorem repeatedNames_eq_nil_iff {seen : List String} {properties : List Property} :
    repeatedNames seen properties = [] ↔
      (properties.map fun property => property.modelName.spelled).Nodup ∧
      ∀ property ∈ properties, property.modelName.spelled ∉ seen := by
  induction properties generalizing seen with
  | nil => simp [repeatedNames]
  | cons property rest ih =>
      rw [repeatedNames]
      by_cases hseen : property.modelName.spelled ∈ seen
      · simp [hseen]
      · simp only [List.contains_eq_mem, hseen, decide_false, Bool.false_eq_true, if_false, ih,
          List.map_cons, List.nodup_cons, List.mem_map, List.mem_cons]
        grind

/-- The fields of the record have different names. -/
theorem recordNames_nodup {declaration : Declaration} {schema : Schema}
    (h : ofDeclaration declaration = .ok schema) :
    (schema.recordNames.map Ident.spelled).Nodup := by
  obtain ⟨fields, _, _, _, _, _, hassemble⟩ := ofDeclaration_eq_ok_iff.mp h
  obtain ⟨identity, model, record, translator, typeAlias, _, hnames, _, rfl⟩ :=
    assemble_eq_ok_iff.mp hassemble
  obtain ⟨hnodup, hseen⟩ := repeatedNames_eq_nil_iff.mp hnames
  simp only [recordNames, List.map_cons, List.map_map, List.nodup_cons]
  refine ⟨?_, hnodup⟩
  intro hmem
  obtain ⟨property, hproperty, heq⟩ := List.mem_map.mp hmem
  exact hseen property hproperty (List.mem_singleton.mpr heq)

end Recordsmith.Schema

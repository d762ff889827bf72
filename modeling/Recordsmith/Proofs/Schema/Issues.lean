import Recordsmith.Proofs.Schema.Sorting

/-!
# `Recordsmith.Proofs.Schema.Issues`: acceptance and issues of a declaration

Once the options of a declaration are read, three things are looked at one after the
other: the classes of its fields, the number of identities among them, and the names of
the record fields. `issues_of_declaration` says when a declaration is accepted, and which
issues it has if it is not.

The three feed on each other. A field that has no class is neither an identity nor does
it take up a name, so a declaration may lack its identity only because the field for it
has an issue. Names are compared only if there is exactly one identity.

`findings` says what the issues are without going through the fields one by one:
identities are counted, and a name is repeated if the identity or an earlier property
has it. `sortFields_eq` and `repeatedNames_eq` show that the loops find the same.
-/

set_option autoImplicit false

namespace Recordsmith.Schema

open Recordsmith.Source

/-! ### What is found in fields -/

/-- The issue that a field has in place of a class. -/
def issue? (style : NamingStyle) (field : FieldSpec) : Option Issue :=
  match classify style field with
  | .error (.issue issue) => some issue
  | _ => none

/-- The classes of the fields that have one. -/
def classesIn (style : NamingStyle) (fields : List FieldSpec) : List FieldClass :=
  fields.filterMap fun field => (classify style field).toOption

/-- The identities among some fields. -/
def identitiesIn (style : NamingStyle) (fields : List FieldSpec) : List (Ident × Ident) :=
  (classesIn style fields).filterMap FieldClass.identity?

/-- The properties among some fields. -/
def propertiesIn (style : NamingStyle) (fields : List FieldSpec) : List Property :=
  (classesIn style fields).filterMap FieldClass.property?

/-- The name of the record field of a property. -/
def Property.recordName (property : Property) : String :=
  property.modelName.spelled

/-- One issue if there is no identity, and one for each after the first. -/
def countIssues (identities : Nat) : List Issue :=
  if identities = 0 then [.noIdentity] else List.replicate (identities - 1) .repeatedIdentity

/-- The issue of the property at a place, if its record field has the name of the
identity or that of an earlier property. -/
def clash? (identity : String) (properties : List Property) :
    Property × Nat → Option Issue
  | (property, place) =>
    if property.recordName ∈ identity :: (properties.take place).map Property.recordName then
      some (.repeatedRecordField property.recordName)
    else none

/-- The issues of names, which need exactly one identity. -/
def clashes (identities : List (Ident × Ident)) (properties : List Property) : List Issue :=
  match identities with
  | [(_, model)] => properties.zipIdx.filterMap (clash? model.spelled properties)
  | _ => []

/-- All that is wrong with some fields: the issues of those without a class, in order,
then those of the identities, then those of the names. -/
def findings (style : NamingStyle) (fields : List FieldSpec) : List Issue :=
  fields.filterMap (issue? style) ++ countIssues (identitiesIn style fields).length ++
    clashes (identitiesIn style fields) (propertiesIn style fields)

/-- Whether some fields make a schema: each has a class, exactly one is the identity,
and no two record fields have the same name. -/
def Consistent (style : NamingStyle) (fields : List FieldSpec) : Prop :=
  (∀ field ∈ fields, ∃ found, classify style field = .ok found) ∧
  ∃ identity model, identitiesIn style fields = [(identity, model)] ∧
    (model.spelled :: (propertiesIn style fields).map Property.recordName).Nodup

/-- Whether the names that fields ask for can all be built. -/
def Nameable (style : NamingStyle) (fields : List FieldSpec) : Prop :=
  ∀ field ∈ fields, ∀ fault, classify style field ≠ .error (.fault fault)

/-- The issues of the fields without a class, and the classes of the others by their
roles. -/
def Sorted.ofFields (style : NamingStyle) (fields : List FieldSpec) : Sorted where
  issues := fields.filterMap (issue? style)
  identities := identitiesIn style fields
  skipped := (classesIn style fields).filterMap FieldClass.skipped?
  properties := propertiesIn style fields

section

variable {style : NamingStyle} {fields : List FieldSpec}

/-! ### The classes of fields -/

/-- A field that has a class leaves no issue. -/
theorem issue?_of_ok {field : FieldSpec} {found : FieldClass}
    (h : classify style field = .ok found) : issue? style field = none := by
  rw [issue?, h]

/-- A field that is refused with an issue leaves it. -/
theorem issue?_of_issue {field : FieldSpec} {issue : Issue}
    (h : classify style field = .error (.issue issue)) : issue? style field = some issue := by
  rw [issue?, h]

/-- The class of the first field comes first. -/
theorem classesIn_cons_of_ok {field : FieldSpec} {found : FieldClass}
    (h : classify style field = .ok found) (rest : List FieldSpec) :
    classesIn style (field :: rest) = found :: classesIn style rest := by
  unfold classesIn
  rw [List.filterMap_cons, h]
  rfl

/-- A field without a class is passed over. -/
theorem classesIn_cons_of_error {field : FieldSpec} {error : FieldError}
    (h : classify style field = .error error) (rest : List FieldSpec) :
    classesIn style (field :: rest) = classesIn style rest := by
  unfold classesIn
  rw [List.filterMap_cons, h]
  rfl

/-- Sorting fields finds these. -/
theorem sortFields_eq (h : Nameable style fields) :
    sortFields style fields = .ok (.ofFields style fields) := by
  induction fields with
  | nil => rfl
  | cons field rest ih =>
      obtain ⟨hfield, hrest⟩ := List.forall_mem_cons.mp h
      unfold Sorted.ofFields identitiesIn propertiesIn at ih ⊢
      rw [sortFields, ih hrest]
      -- A field adds its issue or its class to what the rest gives.
      cases hclass : classify style field with
      | error error =>
          rw [classesIn_cons_of_error hclass]
          cases error with
          | fault fault => exact absurd hclass (hfield fault)
          | issue issue =>
              rw [List.filterMap_cons_some (issue?_of_issue hclass)]
              rfl
      | ok found =>
          rw [classesIn_cons_of_ok hclass, List.filterMap_cons_none (issue?_of_ok hclass)]
          cases found <;> rfl

/-- No field has an issue if each has a class. -/
theorem filterMap_issue?_eq_nil_iff (h : Nameable style fields) :
    fields.filterMap (issue? style) = [] ↔
      ∀ field ∈ fields, ∃ found, classify style field = .ok found := by
  rw [List.filterMap_eq_nil_iff]
  constructor
  · intro hnone field hmem
    cases hclass : classify style field with
    | ok found => exact ⟨found, rfl⟩
    | error error =>
        cases error with
        | fault fault => exact absurd hclass (h field hmem fault)
        | issue issue =>
            have hissue := hnone field hmem
            rw [issue?_of_issue hclass] at hissue
            cases hissue
  · intro hall field hmem
    obtain ⟨found, hfound⟩ := hall field hmem
    exact issue?_of_ok hfound

/-! ### Identities -/

/-- Issues of identities depend on their number only. -/
theorem identityIssues_eq (identities : List (Ident × Ident)) :
    identityIssues identities = countIssues identities.length := by
  cases identities with
  | nil => rfl
  | cons first others =>
      rw [identityIssues, List.map_const']
      rfl

/-- One identity is the right number, and the only one. -/
theorem countIssues_eq_nil_iff {identities : Nat} :
    countIssues identities = [] ↔ identities = 1 := by
  unfold countIssues
  split
  · rename_i hzero
    simp [hzero]
  · rename_i hsome
    rw [List.replicate_eq_nil_iff]
    omega

/-! ### Names -/

/-- Going on with the properties after some others, of which the names have been seen. -/
theorem repeatedNames_append {identity : String} {seen : List String} {before rest : List Property}
    (h : ∀ name, name ∈ seen ↔ name ∈ identity :: before.map Property.recordName) :
    repeatedNames seen rest
      = (rest.zipIdx before.length).filterMap (clash? identity (before ++ rest)) := by
  -- The names that have been seen are those before, so both move on by one property in each
  -- step.
  induction rest generalizing seen before with
  | nil => rfl
  | cons property rest ih =>
      have hsplit : before ++ property :: rest = (before ++ [property]) ++ rest := by simp
      have hlength : before.length + 1 = (before ++ [property]).length := by simp
      have hclash : clash? identity (before ++ property :: rest) (property, before.length)
          = if property.recordName ∈ seen then some (.repeatedRecordField property.recordName)
            else none := by
        simp only [clash?, List.take_left, h]
      rw [repeatedNames, List.zipIdx_cons]
      by_cases hseen : property.recordName ∈ seen
      · -- A name that is repeated adds nothing to those that have been seen.
        have hnext : ∀ name, name ∈ seen ↔
            name ∈ identity :: (before ++ [property]).map Property.recordName := by
          intro name
          have hname := (h property.recordName).mp hseen
          rw [h]
          simp only [List.map_append, List.map_cons, List.map_nil, List.mem_cons, List.mem_append,
            List.not_mem_nil, or_false]
          rw [List.mem_cons] at hname
          grind
        rw [if_pos hseen] at hclash
        rw [List.filterMap_cons_some hclash, hsplit, hlength, ← ih hnext]
        simp only [List.contains_eq_mem, decide_eq_true_eq]
        exact if_pos hseen
      · have hnext : ∀ name, name ∈ property.recordName :: seen ↔
            name ∈ identity :: (before ++ [property]).map Property.recordName := by
          intro name
          rw [List.mem_cons, h]
          simp only [List.map_append, List.map_cons, List.map_nil, List.mem_cons, List.mem_append,
            List.not_mem_nil, or_false]
          tauto
        rw [if_neg hseen] at hclash
        rw [List.filterMap_cons_none hclash, hsplit, hlength, ← ih hnext]
        simp only [List.contains_eq_mem, decide_eq_true_eq]
        exact if_neg hseen

/-- The loop over the properties finds each name that the identity or an earlier
property has. -/
theorem repeatedNames_eq (identity : String) (properties : List Property) :
    repeatedNames [identity] properties
      = properties.zipIdx.filterMap (clash? identity properties) := by
  have hstart : ∀ name, name ∈ [identity] ↔
      name ∈ identity :: ([] : List Property).map Property.recordName := by simp
  exact repeatedNames_append hstart

/-! ### All together -/

/-- Issues of names are the clashes of the properties with what comes before them. -/
theorem nameIssues_eq (sorted : Sorted) :
    nameIssues sorted = clashes sorted.identities sorted.properties := by
  unfold nameIssues
  split
  · rename_i hidentity
    rw [hidentity, repeatedNames_eq]
    rfl
  · rename_i hother
    unfold clashes
    split
    · exact absurd ‹_› (hother _ _)
    · rfl

/-- Sorting fields leaves the issues that the rules find. -/
theorem allIssues_ofFields (style : NamingStyle) (fields : List FieldSpec) :
    (Sorted.ofFields style fields).allIssues = findings style fields := by
  rw [Sorted.allIssues, identityIssues_eq, nameIssues_eq]
  rfl

/-- No name clashes if no record field has the name of another, the identity included. -/
theorem clashes_eq_nil_iff {identity model : Ident} {properties : List Property} :
    clashes [(identity, model)] properties = [] ↔
      (model.spelled :: properties.map Property.recordName).Nodup := by
  rw [clashes, ← repeatedNames_eq, repeatedNames_eq_nil_iff, List.nodup_cons, and_comm]
  refine and_congr_left fun _ => ?_
  simp only [List.mem_singleton, List.mem_map, not_exists, not_and]
  exact Iff.rfl

/-- Nothing is wrong with fields that make a schema, and with no others. -/
theorem findings_eq_nil_iff (h : Nameable style fields) :
    findings style fields = [] ↔ Consistent style fields := by
  unfold findings Consistent
  rw [List.append_eq_nil_iff, List.append_eq_nil_iff, filterMap_issue?_eq_nil_iff h,
    countIssues_eq_nil_iff, and_assoc]
  refine and_congr_right fun _ => ?_
  constructor
  · rintro ⟨hone, hclashes⟩
    obtain ⟨⟨identity, model⟩, hidentity⟩ := List.length_eq_one_iff.mp hone
    rw [hidentity] at hclashes
    exact ⟨identity, model, hidentity, clashes_eq_nil_iff.mp hclashes⟩
  · rintro ⟨identity, model, hidentity, hnodup⟩
    rw [hidentity]
    exact ⟨rfl, clashes_eq_nil_iff.mpr hnodup⟩

/-- Issues are reported in place of a schema. -/
theorem assemble_of_issues {declaration : Declaration} {options : StructOptions} {sorted : Sorted}
    (h : sorted.allIssues ≠ []) :
    assemble declaration options sorted = .error (.issues sorted.allIssues) := by
  unfold assemble
  split
  · rename_i hnone _
    exact absurd hnone h
  · rfl

/-- Without issues there is a schema, if its items can be named. -/
theorem exists_assemble {declaration : Declaration} {options : StructOptions} {sorted : Sorted}
    {names : Ident × Ident × Ident} (h : sorted.allIssues = [])
    (hnames : itemNames options declaration.name = .ok names) :
    ∃ schema, assemble declaration options sorted = .ok schema := by
  unfold assemble
  rw [h, hnames]
  cases hidentities : sorted.identities with
  | nil =>
      -- A missing identity would be an issue.
      rw [Sorted.allIssues, hidentities] at h
      simp [identityIssues] at h
  | cons first others => exact ⟨_, rfl⟩

/-- Fields that are read are sorted and assembled. -/
theorem ofDeclaration_eq_assemble {declaration : Declaration} {options : StructOptions}
    (hread : readOptions declaration = .ok (options, fields))
    (hparameters : declaration.hasParameters = false) (hwhere : declaration.hasWhere = false)
    (h : Nameable options.naming fields) :
    ofDeclaration declaration
      = assemble declaration options (.ofFields options.naming fields) := by
  unfold ofDeclaration
  rw [hread]
  simp only [hparameters, hwhere, Bool.or_self, Bool.false_eq_true, if_false]
  rw [sortFields_eq h]

end

/-- Take a declaration of named fields whose options are read without issues. With
parameters or a `where` clause, that is its one issue. Otherwise, if all names can be
built, it is accepted if and only if its fields are consistent, and if not its issues are
those of its fields, then those of its identities, then those of the names. -/
theorem issues_of_declaration (declaration : Declaration) (options : StructOptions)
    (fields : List FieldSpec) (hread : readOptions declaration = .ok (options, fields)) :
    (declaration.hasParameters = true ∨ declaration.hasWhere = true →
      ofDeclaration declaration = .error (.issues [.hasParameters])) ∧
    (declaration.hasParameters = false → declaration.hasWhere = false →
      Nameable options.naming fields →
      ((∃ names, itemNames options declaration.name = .ok names) →
        ((∃ schema, ofDeclaration declaration = .ok schema) ↔
          Consistent options.naming fields)) ∧
      (¬ Consistent options.naming fields →
        ofDeclaration declaration = .error (.issues (findings options.naming fields)))) := by
  refine ⟨?_, ?_⟩
  · intro hgeneric
    have hrefused : (declaration.hasParameters || declaration.hasWhere) = true := by
      simpa using hgeneric
    unfold ofDeclaration
    rw [hread]
    simp only [hrefused, if_true]
  · intro hparameters hwhere hnameable
    rw [ofDeclaration_eq_assemble hread hparameters hwhere hnameable]
    -- What is inconsistent has findings, and these are reported.
    have hissues : ¬ Consistent options.naming fields →
        assemble declaration options (.ofFields options.naming fields)
          = .error (.issues (findings options.naming fields)) := by
      intro hnot
      rw [← allIssues_ofFields]
      refine assemble_of_issues fun hnone => hnot ?_
      rw [allIssues_ofFields] at hnone
      exact (findings_eq_nil_iff hnameable).mp hnone
    refine ⟨?_, hissues⟩
    rintro ⟨names, hnames⟩
    constructor
    · rintro ⟨schema, hschema⟩
      by_contra hnot
      rw [hissues hnot] at hschema
      cases hschema
    · intro hconsistent
      have hnone := (findings_eq_nil_iff hnameable).mpr hconsistent
      rw [← allIssues_ofFields] at hnone
      exact exists_assemble hnone hnames

/-! ### A declaration with mistakes -/

namespace Sample

/-- A field that is a plain name with options, of a type that is a name. -/
def optionField (options : List String) (name type : String) : Field :=
  ⟨options.map fun option => ⟨false, [.plain "dao"], .list [.ident (.plain option)]⟩,
    some (.plain name), .path none false [] (.bare (.plain type))⟩

/-- A field is skipped though it has another option, and two have the same name. -/
def mistaken : Declaration :=
  ⟨[], [], .plain "Book", false, false, .named [
    optionField ["skip", "boxed"] "spare" "u8", optionField [] "title" "String",
    optionField [] "id" "Identity", optionField ["boxed"] "title" "u32"]⟩

/-- The fields of the declaration with their options read. -/
def mistakenFields : List FieldSpec :=
  let type := fun name => TypeExpr.path none false [] (.bare (.plain name))
  [⟨some (.plain "spare"), type "u8", none, { skip := true, boxed := true }⟩,
    ⟨some (.plain "title"), type "String", none, {}⟩,
    ⟨some (.plain "id"), type "Identity", none, {}⟩,
    ⟨some (.plain "title"), type "u32", none, { boxed := true }⟩]

/-- The options of the declaration with mistakes are read, and so are its fields. -/
theorem readOptions_mistaken : readOptions mistaken = .ok ({}, mistakenFields) := rfl

/-- Both mistakes are found, in the order of the fields. -/
theorem findings_mistaken : findings .preserve mistakenFields
    = [.skipWithOptions, .repeatedRecordField "title"] := rfl

/-- A name can be built for each of its fields. -/
theorem nameable_mistaken : Nameable .preserve mistakenFields := by
  intro field hfield fault
  simp only [mistakenFields, List.mem_cons, List.not_mem_nil, or_false] at hfield
  rcases hfield with rfl | rfl | rfl | rfl <;> exact nofun

end Sample

/-- A declaration with a field that has no class and two that have the same name has
these two issues. -/
theorem issues_of_declaration_mistaken :
    ofDeclaration Sample.mistaken
      = .error (.issues [.skipWithOptions, .repeatedRecordField "title"]) := by
  obtain ⟨_, hplain⟩ := issues_of_declaration Sample.mistaken {} Sample.mistakenFields
    Sample.readOptions_mistaken
  obtain ⟨_, hissues⟩ := hplain rfl rfl Sample.nameable_mistaken
  rw [← Sample.findings_mistaken]
  refine hissues fun hconsistent => ?_
  have hnone := (findings_eq_nil_iff Sample.nameable_mistaken).mpr hconsistent
  rw [Sample.findings_mistaken] at hnone
  cases hnone

end Recordsmith.Schema

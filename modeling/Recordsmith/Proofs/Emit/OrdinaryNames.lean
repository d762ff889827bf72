import Recordsmith.Proofs.Emit.RecordNames
import Recordsmith.Proofs.Schema.Issues
import Recordsmith.Proofs.Schema.Options
import Recordsmith.Proofs.Text.JoinedWords

/-!
# `Recordsmith.Proofs.Emit.OrdinaryNames`: names that are restored from their styles

An ordinary name is made of ordinary words with underscores between them. Snake case restores
it from every style (`IsOrdinary.snake_apply`), so no two ordinary names become the same in a
style.

Record fields can then not share a name because of the style. `ordinary_names_restored` says
so of the issues of a declaration: whatever else is wrong with one whose fields have different
ordinary names, and whatever its style, no record field is reported as repeated. That issue
can only come from a comparison of names (`not_mem_findings`), for the options and the classes
of fields have issues of their own.
-/

set_option autoImplicit false

namespace Recordsmith

open Recordsmith.Source Recordsmith.Schema Recordsmith.Text

/-! ### Ordinary names -/

/-- Whether a text consists of ordinary words with underscores between them. -/
def Schema.IsOrdinary (text : String) : Prop :=
  ∃ pieces : List (List Char), pieces ≠ [] ∧ OrdinaryWords pieces ∧
    text = String.ofList (List.intercalate ['_'] pieces)

section

variable {text other : String}

/-- Snake case restores an ordinary name from every style. -/
theorem Schema.IsOrdinary.snake_apply (h : IsOrdinary text) (style : NamingStyle) :
    NamingStyle.snake.apply (style.apply text) = text := by
  obtain ⟨pieces, _, hwords, rfl⟩ := h
  have hsnake := hwords.snake_eq
  cases style with
  | preserve => simp only [NamingStyle.apply, String.toList_ofList, hsnake]
  | camel => simp only [NamingStyle.apply, String.toList_ofList, hwords.snake_camel]
  | pascal => simp only [NamingStyle.apply, String.toList_ofList, hwords.snake_pascal]
  | snake => simp only [NamingStyle.apply, String.toList_ofList, hsnake]

/-- Ordinary names that are the same in some style are the same. -/
theorem Schema.IsOrdinary.eq_of_apply_eq {style : NamingStyle} (h : IsOrdinary text)
    (hother : IsOrdinary other) (heq : style.apply text = style.apply other) : text = other := by
  rw [← h.snake_apply style, heq, hother.snake_apply style]

/-- An ordinary name has no mark of a raw identifier in it. -/
theorem Schema.IsOrdinary.not_mem_hash (h : IsOrdinary text) : '#' ∉ text.toList := by
  obtain ⟨pieces, _, hwords, rfl⟩ := h
  rw [String.toList_ofList]
  intro hmem
  have hmem : '#' ∈ (List.intercalate ['_'] pieces).filter (· ≠ '_') :=
    List.mem_filter.mpr ⟨hmem, by decide⟩
  rw [filter_intercalate] at hmem
  obtain ⟨piece, hpiece, hhash⟩ := List.mem_flatten.mp (List.mem_filter.mp hmem).1
  rcases hwords.lettersOrNumber piece hpiece with ⟨_, hletters⟩ | ⟨_, hdigits⟩
  · exact absurd (hletters '#' hhash) (by decide)
  · exact absurd (hdigits '#' hhash) (by decide)

/-- Identifiers that are spelled alike have the same text, unless one has a mark in it. -/
theorem Source.Ident.text_eq_of_spelled_eq {name next : Ident} (h : '#' ∉ name.text.toList)
    (hnext : '#' ∉ next.text.toList) (heq : name.spelled = next.spelled) :
    name.text = next.text := by
  have hmark : ∀ text : String, '#' ∈ ("r#" ++ text).toList := by simp
  unfold Ident.spelled at heq
  cases hraw : name.raw <;> cases hraw' : next.raw <;>
    simp only [hraw, hraw', if_true, Bool.false_eq_true, if_false] at heq
  · exact heq
  · exact absurd (heq ▸ hmark next.text) h
  · exact absurd (heq ▸ hmark name.text) hnext
  · exact (String.append_right_inj _).mp heq

/-- An identifier has no mark of a raw one in its text. -/
theorem Source.not_mem_hash_of_isIdentText {cs : List Char} (h : isIdentText cs = true) :
    '#' ∉ cs := by
  cases cs with
  | nil => simp
  | cons c rest =>
      simp only [isIdentText, Bool.and_eq_true, List.all_eq_true] at h
      intro hmem
      rcases List.mem_cons.mp hmem with rfl | hrest
      · exact absurd h.1 (by decide)
      · exact absurd (h.2 _ hrest) (by decide)

end

/-- The name of a record field that is not given is the name of the field in the style. -/
theorem Schema.text_of_modelName {style : NamingStyle} {options : FieldOptions}
    {name model : Ident} (h : IsOrdinary name.text) (hnone : options.modelName = none)
    (hmodel : modelName options name style = .ok model) :
    model.text = style.apply name.text ∧ '#' ∉ model.text.toList := by
  rcases modelName_eq_ok_iff.mp hmodel with ⟨_, hsome, _⟩ | ⟨_, ⟨rfl, rfl⟩ | ⟨_, hbuilt⟩⟩
  · simp [hnone] at hsome
  · exact ⟨rfl, h.not_mem_hash⟩
  · obtain ⟨hident, rfl⟩ := Ident.ofText_eq_ok_iff.mp hbuilt
    exact ⟨rfl, not_mem_hash_of_isIdentText hident⟩

/-! ### Record names of fields -/

/-- The name of the record field of a class, if it has one. -/
def Schema.FieldClass.recordName? : FieldClass → Option String
  | .identity _ model => some model.spelled
  | .skipped _ => none
  | .property kept => some kept.recordName

/-- The names of the record fields are those of the identities and of the properties. -/
theorem Schema.filterMap_recordName?_perm (classes : List FieldClass) :
    (classes.filterMap FieldClass.recordName?).Perm
      ((classes.filterMap FieldClass.identity?).map (·.2.spelled) ++
        (classes.filterMap FieldClass.property?).map Property.recordName) := by
  induction classes with
  | nil => exact .nil
  | cons found rest ih =>
      cases found with
      | identity name model => exact ih.cons _
      | skipped field => exact ih
      | property property => exact (ih.cons _).trans List.perm_middle.symm

/-- Record fields with different names do not clash. -/
theorem Schema.clashes_of_nodup {style : NamingStyle} {fields : List FieldSpec}
    (h : ((classesIn style fields).filterMap FieldClass.recordName?).Nodup) :
    clashes (identitiesIn style fields) (propertiesIn style fields) = [] := by
  rw [(filterMap_recordName?_perm _).nodup_iff] at h
  change ((identitiesIn style fields).map (·.2.spelled) ++
    (propertiesIn style fields).map Property.recordName).Nodup at h
  match hidentities : identitiesIn style fields with
  | [(identity, model)] =>
      rw [hidentities] at h
      exact clashes_eq_nil_iff.mpr h
  | [] => rfl
  | _ :: _ :: _ => rfl

/-- The record field of a field is named by its options and its name. -/
theorem Schema.exists_of_recordName? {style : NamingStyle} {spec : FieldSpec} {record : String}
    (h : (classify style spec).toOption.bind FieldClass.recordName? = some record) :
    ∃ name model, spec.name = some name ∧ modelName spec.options name style = .ok model ∧
      model.spelled = record := by
  cases hclass : classify style spec with
  | error error => rw [hclass] at h; cases h
  | ok found =>
      rw [hclass] at h
      obtain ⟨name, hname, hcases⟩ := classify_cases hclass
      -- A skipped field has no record field; the other two keep the name that was built for it.
      rcases hcases with ⟨_, rfl⟩ | ⟨_, _, model, hmodel, rfl⟩ | ⟨_, _, property, hproperty, rfl⟩
      · cases h
      · cases h
        exact ⟨name, model, hname, hmodel, rfl⟩
      · cases h
        exact ⟨name, property.modelName, hname, (names_of_propertyOf hproperty).2.2, rfl⟩

/-- Whether a field has an ordinary name, and none is given for its record field. -/
def Schema.OrdinarilyNamed (spec : FieldSpec) : Prop :=
  spec.options.modelName = none ∧ ∀ name ∈ spec.name, IsOrdinary name.text

/-- Fields with different ordinary names have record fields with different names. -/
theorem Schema.recordNames_nodup_of_ordinary (style : NamingStyle) {specs : List FieldSpec}
    (h : ∀ spec ∈ specs, OrdinarilyNamed spec)
    (hnodup : (specs.map fun spec => spec.name.map Ident.text).Nodup) :
    ((classesIn style specs).filterMap FieldClass.recordName?).Nodup := by
  unfold classesIn
  rw [List.filterMap_filterMap]
  have hpairs : specs.Pairwise fun a b => OrdinarilyNamed a ∧ OrdinarilyNamed b ∧
      a.name.map Ident.text ≠ b.name.map Ident.text := by
    refine (List.pairwise_map.mp hnodup).imp_of_mem fun ha hb hne => ⟨h _ ha, h _ hb, hne⟩
  refine List.Pairwise.filterMap _ ?_ hpairs
  rintro a b ⟨⟨hnone, hordinary⟩, ⟨hnone', hordinary'⟩, hne⟩ record hrecord record' hrecord' rfl
  obtain ⟨name, model, hname, hmodel, hspelled⟩ := exists_of_recordName? hrecord
  obtain ⟨name', model', hname', hmodel', hspelled'⟩ := exists_of_recordName? hrecord'
  obtain ⟨htext, hmark⟩ := text_of_modelName (hordinary name hname) hnone hmodel
  obtain ⟨htext', hmark'⟩ := text_of_modelName (hordinary' name' hname') hnone' hmodel'
  -- Record fields of the same name would be those of fields of the same name.
  have hmodels : model.text = model'.text :=
    Ident.text_eq_of_spelled_eq hmark hmark' (hspelled.trans hspelled'.symm)
  rw [htext, htext'] at hmodels
  refine hne ?_
  rw [hname, hname']
  exact congrArg some ((hordinary name hname).eq_of_apply_eq (hordinary' name' hname') hmodels)

/-! ### Issues of fields -/

/-- Whether an issue is about a field on its own. -/
def Schema.Issue.IsOfField : Issue → Prop
  | .unnamedField | .conflictingMarkers | .skipWithOptions | .identityWithOptions
  | .nestedUnnamed | .boxedArray | .boxedKind | .invalidModelName _ => True
  | _ => False

section

variable {style : NamingStyle} {spec : FieldSpec} {options : FieldOptions} {issue : Issue}

/-- An issue of the name of a record field is about its field alone. -/
theorem Schema.isOfField_of_modelName {name : Ident}
    (h : modelName options name style = .error (.issue issue)) : issue.IsOfField := by
  rcases modelName_cases style options name with ⟨text, _, herror⟩ |
    ⟨_, ⟨fault, _, hfault⟩ | ⟨_, model, _, hok⟩⟩
  · cases herror.symm.trans h
    trivial
  · cases hfault.symm.trans h
  · cases hok.symm.trans h

/-- An issue of the kind of a property is about its field alone. -/
theorem Schema.isOfField_of_propertyKind {element : TypeExpr}
    (h : propertyKind options element = .error (.issue issue)) : issue.IsOfField := by
  unfold propertyKind at h
  split at h
  · cases h
  · split at h
    · cases h
    · split at h
      · split at h
        · rename_i record translator _ _
          cases record with
          | error fault => cases h
          | ok record => cases translator <;> cases h
        · cases h
          trivial
      · cases h

/-- An issue of a box is about its field alone. -/
theorem Schema.isOfField_of_checkBoxed {kind : PropertyKind} {scalar : ScalarClass}
    {isArray : Bool} (h : checkBoxed options kind scalar isArray = .error (.issue issue)) :
    issue.IsOfField := by
  unfold checkBoxed at h
  split at h
  · cases h
    trivial
  · split at h
    · cases h
      trivial
    · cases h

/-- A run of two steps fails in the first or in the second. -/
theorem Schema.error_of_bind {ε α β : Type} {first : Except ε α} {next : α → Except ε β} {error : ε}
    (h : (first >>= next) = .error error) :
    first = .error error ∨ ∃ value, next value = .error error := by
  cases first with
  | error found => exact .inl (congrArg _ (Except.error.inj h))
  | ok value => exact .inr ⟨value, h⟩

/-- An issue of a property is about its field alone. -/
theorem Schema.isOfField_of_propertyOf {name : Ident}
    (h : propertyOf spec name style = .error (.issue issue)) : issue.IsOfField := by
  unfold propertyOf at h
  rcases error_of_bind h with hkind | ⟨kind, h⟩
  · exact isOfField_of_propertyKind hkind
  · rcases error_of_bind h with hboxed | ⟨_, h⟩
    · exact isOfField_of_checkBoxed hboxed
    · rcases error_of_bind h with hmodel | ⟨_, h⟩
      · exact isOfField_of_modelName hmodel
      · cases h

/-- A field without a class has an issue of its own. -/
theorem Schema.isOfField_of_classify (h : classify style spec = .error (.issue issue)) :
    issue.IsOfField := by
  -- The checks are gone through in the order of the rules. None of them looks at another field.
  unfold classify at h
  split at h
  · cases h
    trivial
  · rename_i name _
    split at h
    · cases h
      trivial
    · split at h
      · split at h
        · cases h
          trivial
        · cases h
      · split at h
        · split at h
          · cases h
            trivial
          · exact isOfField_of_modelName (error_of_map_eq_error h)
        · exact isOfField_of_propertyOf (error_of_map_eq_error h)

end

/-- If fields can be sorted, all their names can be built. -/
theorem Schema.nameable_of_sortFields {style : NamingStyle} {specs : List FieldSpec}
    {sorted : Sorted} (h : sortFields style specs = .ok sorted) : Nameable style specs := by
  induction specs generalizing sorted with
  | nil =>
      intro spec hspec
      cases hspec
  | cons spec rest ih =>
      rw [sortFields] at h
      -- A fault of any field stops the sorting, so there was none in the rest and none in this
      -- one.
      cases hrest : sortFields style rest with
      | error fault =>
          rw [hrest] at h
          split at h <;> cases h
      | ok others =>
          refine List.forall_mem_cons.mpr ⟨fun fault hfault => ?_, ih hrest⟩
          rw [hfault] at h
          cases h

/-- Issues that are reported for sorted fields are what is found in the fields. -/
theorem Schema.issues_eq_findings {declaration : Declaration} {options : StructOptions}
    {style : NamingStyle} {specs : List FieldSpec} {sorted : Sorted} {issues : List Issue}
    (hsort : sortFields style specs = .ok sorted)
    (h : assemble declaration options sorted = .error (.issues issues)) :
    issues = findings style specs := by
  have hsame := (sortFields_eq (nameable_of_sortFields hsort)).symm.trans hsort
  cases hsame
  unfold assemble at h
  split at h
  · split at h <;> cases h
  · cases h
    exact allIssues_ofFields style specs

/-- What is wrong with fields whose record fields have different names is not a name. -/
theorem Schema.not_mem_findings {style : NamingStyle} {specs : List FieldSpec}
    (h : ((classesIn style specs).filterMap FieldClass.recordName?).Nodup) (record : String) :
    Issue.repeatedRecordField record ∉ findings style specs := by
  unfold findings
  rw [clashes_of_nodup h, List.append_nil, List.mem_append, not_or]
  constructor
  -- Without clashes there are the issues of single fields and those about the number of
  -- identities.
  · intro hmem
    obtain ⟨spec, _, hissue⟩ := List.mem_filterMap.mp hmem
    unfold issue? at hissue
    split at hissue
    · rename_i hclass
      cases hissue
      exact isOfField_of_classify hclass
    · cases hissue
  · unfold countIssues
    split
    · simp
    · simp

/-! ### Reading fields -/

/-- Fields that are all read are read one by one. -/
theorem Schema.eq_map_of_gather {fields : List Field} {specs : List FieldSpec}
    (h : gather (fields.map readField) = .ok specs) :
    specs = fields.map fun field =>
      ⟨field.name, field.type, Docs.comments? field.attributes, optionsOf field⟩ := by
  induction fields generalizing specs with
  | nil =>
      cases h
      rfl
  | cons field rest ih =>
      rw [List.map_cons] at h ⊢
      -- One field that is not read would leave no fields at all.
      cases hread : readField field with
      | error issues =>
          rw [hread, gather] at h
          split at h <;> cases h
      | ok spec =>
          rw [hread, gather] at h
          obtain ⟨others, hothers, rfl⟩ := exists_of_map_eq_ok h
          rw [(readField_eq_ok_iff.mp hread).2, ← ih hothers]
          rfl

/-- A field cannot be read only for its options. -/
theorem Schema.isOfOptions_of_readField {field : Field} {issues : List Issue}
    (h : readField field = .error issues) : ∀ issue ∈ issues, issue.IsOfOptions := by
  unfold readField at h
  dsimp only at h
  split at h
  · cases h
  · cases h
    exact Collected.mistaken_ofAttributes FieldOptions.complaining_defs {} field.attributes

/-- The issues of fields that cannot be read are issues of their options. -/
theorem Schema.isOfOptions_of_gather {fields : List Field} {issues : List Issue}
    (h : gather (fields.map readField) = .error issues) :
    ∀ issue ∈ issues, issue.IsOfOptions := by
  induction fields generalizing issues with
  | nil => cases h
  | cons field rest ih =>
      rw [List.map_cons] at h
      -- All issues are gathered, those of this field in front of those of the rest.
      cases hfield : readField field with
      | ok spec =>
          rw [hfield, gather] at h
          exact ih (error_of_map_eq_error h)
      | error found =>
          rw [hfield, gather] at h
          cases hrest : gather (rest.map readField) with
          | ok others =>
              rw [hrest] at h
              cases h
              exact isOfOptions_of_readField hfield
          | error more =>
              rw [hrest] at h
              cases h
              exact List.forall_mem_append.mpr ⟨isOfOptions_of_readField hfield, ih hrest⟩

/-- The issues of options that cannot be read are no repeated names. -/
theorem Schema.not_mem_of_readOptions {declaration : Declaration} {fields : List Field}
    {issues : List Issue} (hshape : declaration.shape = .named fields)
    (h : readOptions declaration = .error issues) (record : String) :
    Issue.repeatedRecordField record ∉ issues := by
  have hoptions := Collected.mistaken_ofAttributes StructOptions.complaining_defs {}
    declaration.attributes
  have hall : ∀ issue ∈ issues, issue.IsOfOptions := by
    unfold readOptions at h
    rw [hshape, readShape] at h
    -- The issues of the declaration come first, and those of its fields behind them.
    cases hread : gather (fields.map readField) with
    | ok specs =>
        rw [hread] at h
        dsimp only at h
        split at h
        · cases h
        · cases h
          exact hoptions
    | error more =>
        rw [hread] at h
        cases h
        exact List.forall_mem_append.mpr ⟨hoptions, isOfOptions_of_gather hread⟩
  exact fun hmem => hall _ hmem

/-! ### Ordinary names do not clash -/

/-- Ordinary names are restored from camel and Pascal case, so no style makes two of them the
same.

Take a structure whose fields have different names, all of them ordinary, and none given for
its record field. Whatever its style, and whatever else may be wrong with it, no record field
is reported as repeated. -/
theorem ordinary_names_restored :
    (∀ pieces : List (List Char), pieces ≠ [] → OrdinaryWords pieces →
      let name := String.ofList (List.intercalate ['_'] pieces)
      NamingStyle.snake.apply (NamingStyle.camel.apply name) = name ∧
      NamingStyle.snake.apply (NamingStyle.pascal.apply name) = name) ∧
    (∀ (style : NamingStyle) (text other : String), IsOrdinary text → IsOrdinary other →
      style.apply text = style.apply other → text = other) ∧
    (∀ (declaration : Declaration) (fields : List Field), declaration.shape = .named fields →
      (∀ field ∈ fields, (optionsOf field).modelName = none ∧
        ∀ name ∈ field.name, IsOrdinary name.text) →
      (fields.map fun field => field.name.map Ident.text).Nodup →
      ∀ issues, Schema.ofDeclaration declaration = .error (.issues issues) →
        ∀ record, Issue.repeatedRecordField record ∉ issues) := by
  refine ⟨?_, ?_, ?_⟩
  · intro pieces hsome hwords
    have hordinary : IsOrdinary (String.ofList (List.intercalate ['_'] pieces)) :=
      ⟨pieces, hsome, hwords, rfl⟩
    exact ⟨hordinary.snake_apply .camel, hordinary.snake_apply .pascal⟩
  · intro style text other htext hother heq
    exact htext.eq_of_apply_eq hother heq
  · intro declaration fields hshape hordinary hnodup issues hissues record
    unfold Schema.ofDeclaration at hissues
    cases hread : readOptions declaration with
    | error found =>
        -- The options cannot be read, and names are not compared at all.
        rw [hread] at hissues
        cases hissues
        exact not_mem_of_readOptions hshape hread record
    | ok found =>
        obtain ⟨options, specs⟩ := found
        rw [hread] at hissues
        dsimp only at hissues
        split at hissues
        · cases hissues
          simp
        · cases hsort : sortFields options.naming specs with
          | error fault => rw [hsort] at hissues; cases hissues
          | ok sorted =>
              rw [hsort] at hissues
              rw [issues_eq_findings hsort hissues]
              obtain ⟨found, hfound, hspecs, _, _⟩ := readOptions_eq_ok hread
              obtain rfl : fields = found := by simpa [hshape] using hfound
              obtain rfl := eq_map_of_gather hspecs
              refine not_mem_findings (recordNames_nodup_of_ordinary _ ?_ ?_) record
              · intro spec hspec
                obtain ⟨field, hfield, rfl⟩ := List.mem_map.mp hspec
                exact hordinary field hfield
              · rw [List.map_map]
                exact hnodup

namespace Sample

/-- The names of the fields that a text declares, each with the name that is given for its
record field. -/
def givenNames (text : String) : Option (List (Option Ident × Option String)) :=
  (Declaration.ofText? text).bind fun declaration =>
    match declaration.shape with
    | .named fields => some (fields.map fun field => (field.name, (optionsOf field).modelName))
    | _ => none

/-- The issues of a text. -/
def issuesOf (text : String) : List Issue :=
  match Schema.ofText text with
  | .error (.issues issues) => issues
  | _ => []

/-- A booklet with a list that cannot be in a box. -/
def bookletText : String :=
  "#[dao(rename_all = \"PascalCase\")] struct Booklet \x7b id: Identity, page_no: u32, " ++
    "#[dao(boxed)] line_2: Vec<u8>, r#type: String \x7d"

/-- The names of the fields of a booklet are ordinary, and none is given for a record field. -/
theorem givenNames_bookletText :
    givenNames bookletText = some [(some (.plain "id"), none), (some (.plain "page_no"), none),
      (some (.plain "line_2"), none), (some ⟨true, "type"⟩, none)] := by
  decide +kernel

/-- The one issue of a booklet is a list in a box. -/
theorem issuesOf_bookletText : issuesOf bookletText = [.boxedArray] := by decide +kernel

/-- A word is ordinary. -/
theorem isOrdinary_id : IsOrdinary "id" :=
  ⟨["id".toList], by decide, by decide, by decide⟩

/-- Two words with an underscore between them are ordinary. -/
theorem isOrdinary_pageNo : IsOrdinary "page_no" :=
  ⟨["page".toList, "no".toList], by decide, by decide, by decide⟩

/-- A word and a number are ordinary together. -/
theorem isOrdinary_line2 : IsOrdinary "line_2" :=
  ⟨["line".toList, "2".toList], by decide, by decide, by decide⟩

/-- A word that is reserved is ordinary still. -/
theorem isOrdinary_type : IsOrdinary "type" :=
  ⟨["type".toList], by decide, by decide, by decide⟩

/-- The issues of a text are those of its declaration. -/
theorem ofDeclaration_of_issuesOf {text : String} {declaration : Declaration}
    {issue : Issue} {more : List Issue} (htext : Declaration.ofText? text = some declaration)
    (h : issuesOf text = issue :: more) :
    Schema.ofDeclaration declaration = .error (.issues (issue :: more)) := by
  unfold issuesOf Schema.ofText at h
  rw [htext] at h
  dsimp only at h
  split at h
  · rename_i hissues
    rw [hissues, h]
  · cases h

end Sample

/-- `line_2` is restored from both styles. A booklet has an issue, but not because of its
names. -/
theorem ordinary_names_restored_booklet :
    NamingStyle.snake.apply (NamingStyle.camel.apply "line_2") = "line_2" ∧
    NamingStyle.snake.apply (NamingStyle.pascal.apply "line_2") = "line_2" ∧
    NamingStyle.camel.apply "line_2" ≠ NamingStyle.camel.apply "page_no" ∧
    ∃ declaration issues, Declaration.ofText? Sample.bookletText = some declaration ∧
      Schema.ofDeclaration declaration = .error (.issues issues) ∧
      issues = [.boxedArray] ∧ ∀ record, Issue.repeatedRecordField record ∉ issues := by
  obtain ⟨hrestored, hinjective, hissues⟩ := ordinary_names_restored
  obtain ⟨hcamel, hpascal⟩ := hrestored ["line".toList, "2".toList] (by decide) (by decide)
  refine ⟨hcamel, hpascal, ?_, ?_⟩
  · intro heq
    exact absurd (hinjective .camel _ _ Sample.isOrdinary_line2 Sample.isOrdinary_pageNo heq)
      (by decide)
  · have hnames := Sample.givenNames_bookletText
    unfold Sample.givenNames at hnames
    obtain ⟨declaration, htext, hnames⟩ := Option.bind_eq_some_iff.mp hnames
    split at hnames
    · rename_i fields hshape
      have hgiven := Option.some.inj hnames
      have hrefused := Sample.ofDeclaration_of_issuesOf htext Sample.issuesOf_bookletText
      refine ⟨declaration, _, htext, hrefused, rfl,
        hissues declaration fields hshape ?_ ?_ _ hrefused⟩
      · intro field hfield
        have hmem : (field.name, (optionsOf field).modelName) ∈ _ :=
          hgiven ▸ List.mem_map_of_mem hfield
        simp only [List.mem_cons, Prod.mk.injEq, List.not_mem_nil, or_false] at hmem
        -- Each of the four fields has a name that is made of words.
        rcases hmem with ⟨hname, hnone⟩ | ⟨hname, hnone⟩ | ⟨hname, hnone⟩ | ⟨hname, hnone⟩ <;>
          refine ⟨hnone, ?_⟩ <;> rw [hname] <;> rintro _ ⟨⟩
        · exact Sample.isOrdinary_id
        · exact Sample.isOrdinary_pageNo
        · exact Sample.isOrdinary_line2
        · exact Sample.isOrdinary_type
      · have htexts := congrArg (List.map fun pair => pair.1.map Ident.text) hgiven
        rw [List.map_map] at htexts
        change (fields.map fun field => field.name.map Ident.text) = _ at htexts
        rw [htexts]
        decide
    · cases hnames

end Recordsmith

import Recordsmith.Proofs.Emit.Agreement
import Recordsmith.Proofs.Schema.Naming
import Recordsmith.Proofs.Schema.Rules
import Recordsmith.Proofs.Source.Reading

/-!
# `Recordsmith.Proofs.Emit.RecordNames`: names that a record can have

The fields of a record get their names in three ways: a name is given, or the name of the
field is kept as it is, or it is brought into the style of the declaration. A structure needs
names that differ, the mark of a raw identifier aside, and none of them may be a reserved
word unless it is raw. Neither is checked in full.

* Names are compared as they are spelled. `recordNames_distinct_iff` says what this is worth:
  two fields can still share a name if one of them is raw and the other is not, and only
  then.
* A name that is given is read like any name, and so it is none of the words that the reader
  knows as reserved. One that is built in a style is not looked at again.
  `recordNames_legal_iff` says of each record field that its name is legal unless it is built
  as a reserved word, or given as one that the reader does not know.
-/

set_option autoImplicit false

namespace Recordsmith

open Recordsmith.Source Recordsmith.Schema Recordsmith.Emit Recordsmith.Text

/-! ### Where names come from -/

/-- The fields that have a record field. -/
def Schema.keptFields (fields : List Field) : List Field :=
  withRole .identity fields ++ withRole .property fields

/-- Fields that are kept are among all fields. -/
theorem Schema.mem_of_mem_keptFields {fields : List Field} {field : Field}
    (h : field ∈ keptFields fields) : field ∈ fields := by
  rcases List.mem_append.mp h with hidentity | hproperty
  · exact (List.mem_filter.mp hidentity).1
  · exact (List.mem_filter.mp hproperty).1

/-- Whether a field has a record field of this name. -/
def Schema.HasModelName (style : NamingStyle) (field : Field) (model : Ident) : Prop :=
  ∃ name, field.name = some name ∧ NamedAs style (optionsOf field) name model

/-- The name of a record field is the one that is given, the name of the field as it is, or the
one that is built from it. -/
theorem Schema.modelName_eq_ok_iff {style : NamingStyle} {options : FieldOptions}
    {name model : Ident} :
    modelName options name style = .ok model ↔ NamedAs style options name model := by
  unfold modelName NamedAs
  -- A given name wins, then the style that preserves names, and then the one that builds them.
  cases hgiven : options.modelName with
  | some text =>
      cases hsource : Ident.ofSource? text with
      | none => simp [hsource]
      | some given => simp [hsource]
  | none =>
      by_cases hstyle : style = .preserve
      · simp [hstyle, eq_comm]
      · cases hname : Ident.ofText (style.apply name.text) with
        | error fault => simp [hstyle, Except.mapError]
        | ok built => simp [hstyle, Except.mapError]

/-- Record fields have their names one by one. -/
theorem Schema.Sorts.forall₂_hasModelName {style : NamingStyle} {fields : List Field}
    {schema : Schema} (h : Sorts style fields schema) :
    List.Forall₂ (HasModelName style) (keptFields fields) schema.recordNames := by
  refine h.recordNames.imp ?_
  rintro field model ⟨name, hname, hmodel⟩
  exact ⟨name, hname, modelName_eq_ok_iff.mp hmodel⟩

/-- A field has one name in the record. -/
theorem Schema.HasModelName.unique {style : NamingStyle} {field : Field} {model other : Ident}
    (h : HasModelName style field model) (hother : HasModelName style field other) :
    model = other := by
  obtain ⟨name, hname, hmodel⟩ := h
  obtain ⟨again, hagain, hother⟩ := hother
  cases hname.symm.trans hagain
  exact Except.ok.inj
    ((modelName_eq_ok_iff.mpr hmodel).symm.trans (modelName_eq_ok_iff.mpr hother))

/-- The names of record fields are those of the fields that are kept. -/
theorem Schema.Sorts.mem_recordNames_iff {style : NamingStyle} {fields : List Field}
    {schema : Schema} (h : Sorts style fields schema) {model : Ident} :
    model ∈ schema.recordNames ↔ ∃ field ∈ keptFields fields, HasModelName style field model := by
  have hnames := h.forall₂_hasModelName
  generalize keptFields fields = kept at hnames
  generalize schema.recordNames = models at hnames
  induction hnames with
  | nil => simp
  | cons hfound _ ih =>
      simp only [List.mem_cons, exists_eq_or_imp, ih]
      refine or_congr ⟨?_, fun hmodel => hmodel.unique hfound⟩ Iff.rfl
      rintro rfl
      exact hfound

/-! ### Names that differ -/

/-- Names that differ in their spelling differ without their marks too, unless one is there
both raw and plain. -/
theorem Source.Ident.nodup_text_iff {names : List Ident}
    (h : (names.map Ident.spelled).Nodup) :
    (names.map Ident.text).Nodup ↔
      ¬ ∃ text, Ident.mk true text ∈ names ∧ Ident.plain text ∈ names := by
  rw [List.nodup_map_iff_inj_on (List.Nodup.of_map _ h)]
  constructor
  · rintro hinj ⟨text, hraw, hplain⟩
    cases hinj _ hraw _ hplain rfl
  · rintro hnone ⟨raw, text⟩ hmem ⟨otherRaw, other⟩ hother (rfl : text = other)
    -- Of two names that share their text one would be raw and the other plain.
    cases raw <;> cases otherRaw
    · rfl
    · exact absurd ⟨text, hother, hmem⟩ hnone
    · exact absurd ⟨text, hmem, hother⟩ hnone
    · rfl

/-- Record fields differ in their spelling. They differ without the mark of raw identifiers
too, so that a structure can have them, if and only if no field is named raw as another is
named plain. -/
theorem recordNames_distinct_iff (declaration : Declaration) (fields : List Field)
    (schema : Schema) (hshape : declaration.shape = .named fields)
    (h : Schema.ofDeclaration declaration = .ok schema) :
    (schema.recordNames.map Ident.spelled).Nodup ∧
    ((schema.recordNames.map Ident.text).Nodup ↔
      ¬ ∃ text,
        (∃ field ∈ keptFields fields, HasModelName (styleOf declaration) field ⟨true, text⟩) ∧
        ∃ field ∈ keptFields fields, HasModelName (styleOf declaration) field (.plain text)) := by
  have hspelled := recordNames_nodup h
  have hsorts := sorts_of_ofDeclaration hshape h
  refine ⟨hspelled, ?_⟩
  rw [Ident.nodup_text_iff hspelled]
  simp only [hsorts.mem_recordNames_iff]

namespace Sample

/-- Whether a text is accepted with these names of record fields, and passes a check. -/
def accepts (check : Declaration → List Field → Bool) (names : List Ident) (text : String) :
    Bool :=
  match Declaration.ofText? text with
  | none => false
  | some declaration =>
    match declaration.shape, Schema.ofDeclaration declaration with
    | .named fields, .ok schema => check declaration fields && schema.recordNames = names
    | _, _ => false

/-- A text that is accepted with a check has a declaration that passes the check, and a schema
with the names. -/
theorem exists_of_accepts {check : Declaration → List Field → Bool} {names : List Ident}
    {text : String} (h : accepts check names text = true) :
    ∃ declaration fields schema, Declaration.ofText? text = some declaration ∧
      declaration.shape = .named fields ∧ Schema.ofDeclaration declaration = .ok schema ∧
      check declaration fields = true ∧ schema.recordNames = names := by
  unfold accepts at h
  split at h
  · cases h
  · rename_i declaration htext
    split at h
    · rename_i fields schema hshape hschema
      rw [Bool.and_eq_true, decide_eq_true_eq] at h
      exact ⟨declaration, fields, schema, htext, hshape, hschema, h⟩
    · cases h

/-- A book with a subtitle that is given the name of its title, but raw. -/
def bookText : String :=
  "struct Book \x7b id: Identity, title: String, " ++
    "#[dao(model_name = \"r#title\")] subtitle: String \x7d"

/-- A book is accepted with two titles, one of them raw. -/
theorem accepts_bookText :
    accepts (fun _ _ => true) [.plain "id", .plain "title", ⟨true, "title"⟩] bookText = true := by
  decide +kernel

end Sample

/-- Of the names of a book one is there both raw and plain. -/
theorem recordNames_distinct_iff_book :
    ∃ declaration fields schema, Declaration.ofText? Sample.bookText = some declaration ∧
      declaration.shape = .named fields ∧ Schema.ofDeclaration declaration = .ok schema ∧
      ∃ text,
        (∃ field ∈ keptFields fields, HasModelName (styleOf declaration) field ⟨true, text⟩) ∧
        ∃ field ∈ keptFields fields, HasModelName (styleOf declaration) field (.plain text) := by
  obtain ⟨declaration, fields, schema, htext, hshape, hschema, _, hnames⟩ :=
    Sample.exists_of_accepts Sample.accepts_bookText
  refine ⟨declaration, fields, schema, htext, hshape, hschema, ?_⟩
  have hdistinct := (recordNames_distinct_iff declaration fields schema hshape hschema).2
  rw [hnames] at hdistinct
  exact not_not.mp (mt hdistinct.mpr (by decide))

/-- A book is accepted with a title and a raw title, though no structure has both. -/
theorem recordNames_share_title :
    ∃ declaration schema, Declaration.ofText? Sample.bookText = some declaration ∧
      Schema.ofDeclaration declaration = .ok schema ∧
      schema.recordNames = [.plain "id", .plain "title", ⟨true, "title"⟩] ∧
      ¬ (schema.recordNames.map Ident.text).Nodup := by
  obtain ⟨declaration, _, schema, htext, _, hschema, _, hnames⟩ :=
    Sample.exists_of_accepts Sample.accepts_bookText
  refine ⟨declaration, schema, htext, hschema, hnames, ?_⟩
  rw [hnames]
  decide

/-! ### Names that are legal -/

/-- Whether the name given for a record field is one of some words, and not raw. -/
def Schema.GivenAmong (words : List String) (field : Field) : Prop :=
  ∃ given text, (optionsOf field).modelName = some given ∧
    Ident.ofSource? given = some (.plain text) ∧ text ∈ words

/-- Whether no name is given and the style makes one of some words of that of the field. -/
def Schema.BuiltAmong (words : List String) (style : NamingStyle) (field : Field) : Prop :=
  (optionsOf field).modelName = none ∧ style ≠ .preserve ∧
    ∃ name, field.name = some name ∧ style.apply name.text ∈ words

/-- No reserved word can be given as a name unless it is raw. -/
theorem Schema.not_givenAmong_reserved {words : List String} (h : words ⊆ Ident.reserved)
    (field : Field) : ¬ GivenAmong words field := by
  rintro ⟨given, text, _, hsource, hmem⟩
  exact (Ident.isFieldName_of_ofSource? hsource).2 rfl (h hmem)

/-- Where no name is given, none is given among some words. -/
theorem Schema.not_givenAmong_of_none {words : List String} {field : Field}
    (h : (optionsOf field).modelName = none) : ¬ GivenAmong words field := by
  rintro ⟨given, _, hgiven, _⟩
  cases hgiven.symm.trans h

/-- A record field is legal unless its name is given or built as a reserved word. -/
theorem Schema.HasModelName.isFieldName_iff {words : List String} {style : NamingStyle}
    {field : Field} {model : Ident} (h : HasModelName style field model)
    (hlegal : ∀ name, field.name = some name → name.IsFieldName words) :
    model.IsFieldName words ↔ ¬ GivenAmong words field ∧ ¬ BuiltAmong words style field := by
  obtain ⟨name, hname, ⟨given, hgiven, hsource⟩ | ⟨hnone, ⟨rfl, rfl⟩ | ⟨hstyle, hbuilt⟩⟩⟩ := h
  · -- A name that is given can be written down, so only the words count.
    have hspelt := (Ident.isFieldName_of_ofSource? hsource).1
    have hother : ¬ BuiltAmong words style field := by
      rintro ⟨hnone, _⟩
      cases hgiven.symm.trans hnone
    rw [and_iff_left hother]
    constructor
    · rintro ⟨_, hword⟩ ⟨again, text, hagain, hplain, hmem⟩
      cases hgiven.symm.trans hagain
      cases hsource.symm.trans hplain
      exact hword rfl hmem
    · refine fun hnot => ⟨hspelt, fun hplain hmem => hnot ⟨given, model.text, hgiven, ?_, hmem⟩⟩
      rw [hsource, Ident.plain, ← hplain]
  · refine iff_of_true (hlegal model hname) ⟨not_givenAmong_of_none hnone, ?_⟩
    rintro ⟨_, hstyle, _⟩
    exact hstyle rfl
  · -- A name that is built has the form of an identifier and is never raw.
    obtain ⟨hident, rfl⟩ := Ident.ofText_eq_ok_iff.mp hbuilt
    rw [and_iff_right (not_givenAmong_of_none hnone)]
    constructor
    · rintro ⟨_, hword⟩ ⟨_, _, again, hagain, hmem⟩
      cases hname.symm.trans hagain
      exact hword rfl hmem
    · intro hnot
      refine ⟨⟨hident, ?_⟩, fun _ hmem => hnot ⟨hnone, hstyle, name, hname, hmem⟩⟩
      intro hraw
      cases hraw

/-- The names of the fields of a record are legal for structures, each unless it is given or
built as a reserved word that is not raw. Words that the reader knows as reserved cannot be
given. The names are those that the structure and the default value have as the record is
printed. -/
theorem recordNames_legal_iff (words : List String) (text : String) (expansion : Expansion)
    (declaration : Declaration) (fields : List Field)
    (h : Expansion.ofText text = .ok expansion)
    (hdeclaration : Declaration.ofText? text = some declaration)
    (hshape : declaration.shape = .named fields)
    (hlegal : ∀ field ∈ fields, ∀ name, field.name = some name → name.IsFieldName words) :
    ∃ schema, Schema.ofDeclaration declaration = .ok schema ∧
      expansion.record = Tree.print (RecordItem.of schema).trees ∧
      (RecordItem.of schema).trees = (RecordItem.of schema).layout.trees ∧
      RecordRendering schema (RecordItem.of schema).layout ∧
      List.Forall₂ (fun field model => model.IsFieldName words ↔
          ¬ GivenAmong words field ∧ ¬ BuiltAmong words (styleOf declaration) field)
        (keptFields fields) schema.recordNames ∧
      (words ⊆ Ident.reserved → ∀ field ∈ fields, ¬ GivenAmong words field) := by
  obtain ⟨found, schema, hfound, hschema, rfl⟩ := Expansion.ofText_eq_ok_iff.mp h
  obtain rfl : found = declaration := Option.some.inj (hfound.symm.trans hdeclaration)
  have hnames := (sorts_of_ofDeclaration hshape hschema).forall₂_hasModelName
  refine ⟨schema, hschema, rfl, RecordItem.trees_eq _, recordRendering_of hschema, ?_,
    fun hwords field _ => not_givenAmong_reserved hwords field⟩
  -- Skipped fields have names too, but no record field, so only the others are looked at.
  have hkept : ∀ field ∈ keptFields fields, ∀ name, field.name = some name →
      name.IsFieldName words :=
    fun field hfield => hlegal field (mem_of_mem_keptFields hfield)
  exact ((List.forall₂_and_left _ _).mpr ⟨hkept, hnames⟩).imp fun field model hboth =>
    hboth.2.isFieldName_iff hboth.1

namespace Sample

/-- Whether all fields have names that are legal with the words that the reader knows. -/
def areLegal (fields : List Field) : Bool :=
  fields.all fun field => field.name.all fun name => name.IsFieldName Ident.reserved

/-- Fields that pass the check have names that are legal for structures. -/
theorem isFieldName_of_areLegal {fields : List Field} (h : areLegal fields = true) :
    ∀ field ∈ fields, ∀ name, field.name = some name → name.IsFieldName Ident.reserved := by
  intro field hfield name hname
  have hlegal := List.all_eq_true.mp h field hfield
  simpa [hname] using hlegal

/-- A shelf whose names are brought into camel case. -/
def shelfText : String :=
  "#[dao(rename_all = \"camelCase\")] struct Shelf \x7b id: Identity, page_count: u8 \x7d"

/-- A book whose type has a raw name, to be brought into camel case. -/
def kindText : String :=
  "#[dao(rename_all = \"camelCase\")] struct Book \x7b id: Identity, r#type: u8 \x7d"

/-- A shelf is accepted, with a name in camel case. -/
theorem accepts_shelfText :
    accepts (fun _ => areLegal) [.plain "id", .plain "pageCount"] shelfText = true := by
  decide +kernel

/-- A book is accepted with a reserved word that is built from a raw name. -/
theorem accepts_kindText :
    accepts (fun _ => areLegal) [.plain "id", .plain "type"] kindText = true := by
  decide +kernel

end Sample

/-- The names of a shelf are legal, so none of them is given or built as a reserved word. -/
theorem recordNames_legal_iff_shelf :
    ∃ expansion declaration fields,
      Expansion.ofText Sample.shelfText = .ok expansion ∧
      Declaration.ofText? Sample.shelfText = some declaration ∧
      declaration.shape = .named fields ∧
      ∀ field ∈ keptFields fields, ¬ GivenAmong Ident.reserved field ∧
        ¬ BuiltAmong Ident.reserved (styleOf declaration) field := by
  obtain ⟨declaration, fields, schema, htext, hshape, hschema, hdeclared, hnames⟩ :=
    Sample.exists_of_accepts Sample.accepts_shelfText
  have hexpansion := Expansion.ofText_of_schema htext hschema
  obtain ⟨found, hfound, _, _, _, hlegal, _⟩ := recordNames_legal_iff Ident.reserved
    Sample.shelfText (.of schema) declaration fields hexpansion htext hshape
    (Sample.isFieldName_of_areLegal hdeclared)
  obtain rfl : found = schema := Except.ok.inj (hfound.symm.trans hschema)
  refine ⟨.of found, declaration, fields, hexpansion, htext, hshape, ?_⟩
  rw [hnames] at hlegal
  -- There are two names, so two fields are kept, and each has its name checked.
  generalize keptFields fields = kept at hlegal ⊢
  obtain _ | ⟨hid, _ | ⟨hcount, _ | _⟩⟩ := hlegal
  exact List.forall_mem_cons.mpr
    ⟨hid.mp (by decide), List.forall_mem_singleton.mpr (hcount.mp (by decide))⟩

/-- The raw name of a type is built as a reserved word that is not raw. -/
theorem recordNames_reserved_type :
    ∃ expansion declaration fields schema,
      Expansion.ofText Sample.kindText = .ok expansion ∧
      Declaration.ofText? Sample.kindText = some declaration ∧
      declaration.shape = .named fields ∧
      (∀ field ∈ fields, ∀ name, field.name = some name → name.IsFieldName Ident.reserved) ∧
      expansion.record = Tree.print (RecordItem.of schema).trees ∧
      (RecordItem.of schema).trees = (RecordItem.of schema).layout.trees ∧
      RecordRendering schema (RecordItem.of schema).layout ∧
      schema.recordNames = [.plain "id", .plain "type"] ∧
      ¬ (Ident.plain "type").IsFieldName Ident.reserved := by
  obtain ⟨declaration, fields, schema, htext, hshape, hschema, hdeclared, hnames⟩ :=
    Sample.exists_of_accepts Sample.accepts_kindText
  exact ⟨.of schema, declaration, fields, schema, Expansion.ofText_of_schema htext hschema, htext,
    hshape, Sample.isFieldName_of_areLegal hdeclared, rfl, RecordItem.trees_eq _,
    recordRendering_of hschema, hnames, by decide⟩

end Recordsmith

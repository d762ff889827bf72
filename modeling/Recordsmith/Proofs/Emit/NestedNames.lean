import Recordsmith.Proofs.Emit.RecordNames
import Recordsmith.Proofs.Translate.Storage

/-!
# `Recordsmith.Proofs.Emit.NestedNames`: nested types are named as they name themselves

A nested property refers to the record and the translator of its element. These are
generated from another declaration, which is not at hand, so their names are guessed from the
path of the element. `nested_names_agree` says that the guess is right: whatever the path is
and whatever wraps it, it ends in the names that the declaration of the element gives to its
own items, unless other names are given there.

Both sides put an ending on one name (`givenOr_of_ofDeclaration`, `Accepted.namesNested`), and
an ending keeps names apart (`Ident.withSuffix_inj`). Where the two types end up is told by
`Holds`, for trees that have others in them.
-/

set_option autoImplicit false

namespace Recordsmith

open Recordsmith.Source Recordsmith.Source.Tree Recordsmith.Schema Recordsmith.Emit

/-! ### The types of a nested property -/

/-- What is known of the types of a nested property. The declared type is the element with its
wrappers, of which none is a box, and the two types are the path of the element with an ending
each. -/
structure Schema.NamesNested (property : Property) (record translator : TypeExpr) : Prop where
  wrapped : Cardinality.of property.declared
    = ⟨property.element, property.isOptional, property.isArray⟩
  record : Suffixed "Record" property.element record
  translator : Suffixed "Translator" property.element translator
  unboxed : property.boxed = false

/-- A nested property of an accepted schema names the record and the translator after its
element. -/
theorem Schema.Accepted.namesNested {schema : Schema} (h : schema.Accepted) {property : Property}
    (hproperty : property ∈ schema.properties) {record translator : TypeExpr}
    (hkind : property.kind = .nested record translator) :
    NamesNested property record translator := by
  have hsound := h.sound property hproperty
  -- The property goes back to the field that was classified, whose kind was built from its
  -- element.
  obtain ⟨style, specs, sorted, hsorted, hproperties⟩ := exists_sortFields_of_accepted h
  rw [hproperties] at hproperty
  obtain ⟨spec, _, hclass⟩ := exists_classify_of_sortFields hsorted hproperty
  obtain ⟨name, hof⟩ := propertyOf_of_classify hclass
  obtain ⟨hshape, hmarked⟩ := shape_of_propertyOf hof
  rw [hkind] at hmarked
  obtain ⟨hrecord, htranslator⟩ := names_of_propertyKind hmarked
  refine ⟨?_, withSuffix_eq_ok_iff.mp hrecord, withSuffix_eq_ok_iff.mp htranslator, ?_⟩
  · rw [(names_of_propertyOf hof).2.1, hshape]
  · -- A box would have been refused.
    refine Bool.eq_false_iff.mpr fun hboxed => ?_
    have hboxable := hsound.boxed_boxable hboxed
    rw [hkind] at hboxable
    cases hboxable

/-- A path that ends in the name of a declaration, with an ending put on. -/
theorem Schema.Suffixed.eq_of_lastName? {ending : String} {type suffixed : TypeExpr}
    {name built : Ident} (h : Suffixed ending type suffixed) (hlast : type.lastName? = some name)
    (hbuilt : name.withSuffix ending = .ok built) :
    ∃ leading before arguments, type = .path none leading before (.mk name arguments) ∧
      suffixed = .path none leading before (.bare built) := by
  obtain ⟨leading, before, ⟨found, arguments⟩, other, rfl, hother, rfl⟩ := h
  obtain rfl : found = name := Option.some.inj hlast
  obtain rfl : other = built := Except.ok.inj (hother.symm.trans hbuilt)
  exact ⟨leading, before, arguments, rfl, rfl⟩

/-- A path is printed with its last name at the end. -/
theorem Source.TypeExpr.getLast?_trees_bare (leading : Bool) (before : List Segment)
    (name : Ident) :
    (TypeExpr.path none leading before (.bare name)).trees.getLast? = some (.ident name) := by
  rw [TypeExpr.trees, Segment.bare, Segment.trees, Arguments.trees]
  exact List.getLast?_concat

/-- Paths that end in different names have different names and trees with an ending put on. -/
theorem Schema.Suffixed.ne_of_lastName?_ne {ending : String}
    {type other suffixed otherSuffixed : TypeExpr} (h : Suffixed ending type suffixed)
    (hother : Suffixed ending other otherSuffixed) (hne : type.lastName? ≠ other.lastName?) :
    suffixed.lastName? ≠ otherSuffixed.lastName? ∧ suffixed.trees ≠ otherSuffixed.trees := by
  obtain ⟨leading, before, last, name, rfl, hname, rfl⟩ := h
  obtain ⟨otherLeading, otherBefore, otherLast, otherName, rfl, hotherName, rfl⟩ := hother
  have hnames : name ≠ otherName := by
    rintro rfl
    exact hne (congrArg some (Ident.withSuffix_inj hname hotherName))
  refine ⟨fun hlast => hnames (Option.some.inj hlast), fun htrees => ?_⟩
  -- Without arguments the last name is the last tree.
  have hlast := congrArg List.getLast? htrees
  rw [TypeExpr.getLast?_trees_bare, TypeExpr.getLast?_trees_bare] at hlast
  cases hlast
  exact hnames rfl

/-! ### Trees in others -/

/-- Whether trees have others in them, one right after the other, at any depth of groups. -/
inductive Emit.Holds (part : List Tree) : List Tree → Prop where
  | here {before after : List Tree} : Holds part (before ++ (part ++ after))
  | inside {before after inner : List Tree} {delimiter : Delimiter} (held : Holds part inner) :
      Holds part (before ++ .group delimiter inner :: after)

section

variable {part trees : List Tree}

/-- Trees hold themselves. -/
theorem Emit.holds_self : Holds part part := by
  have hhere : Holds part ([] ++ (part ++ [])) := .here
  simpa using hhere

/-- Trees hold a part with more in front of it. -/
theorem Emit.Holds.behind (h : Holds part trees) (more : List Tree) :
    Holds part (more ++ trees) := by
  cases h with
  | here =>
      rw [← List.append_assoc]
      exact .here
  | inside held =>
      rw [← List.append_assoc]
      exact .inside held

/-- Trees hold a part with more behind it. -/
theorem Emit.Holds.before (h : Holds part trees) (more : List Tree) :
    Holds part (trees ++ more) := by
  cases h with
  | here =>
      rw [List.append_assoc, List.append_assoc]
      exact .here
  | inside held =>
      rw [List.append_assoc]
      exact .inside held

/-- A call holds what its argument holds. -/
theorem Emit.Holds.argument (h : Holds part trees) (function : List Tree) :
    Holds part (call function [trees]) := by
  rw [Emit.call, commaSeparated_one]
  exact .inside h

/-- A call holds what its function holds. -/
theorem Emit.Holds.function (h : Holds part trees) (arguments : List (List Tree)) :
    Holds part (call trees arguments) :=
  h.before _

/-- Reading a nested property calls the translator of its element. -/
theorem Emit.holds_readTrees {property : Property} {record translator : TypeExpr}
    (hkind : property.kind = .nested record translator) (label : String) :
    Holds (translatorMember translator.trees
        (if property.isArray then "from_records" else "from_record"))
      (TranslatorItem.readTrees (ReadPlan.of property) property.modelName label) := by
  unfold ReadPlan.of
  rw [hkind]
  dsimp only
  -- Where the call stands depends on the form of the field, but there is one in each.
  cases property.isArray with
  | true =>
      rw [if_pos rfl, if_pos rfl, ← TranslatorItem.nestedMember_eq_translatorMember _ rfl]
      cases property.isOptional with
      | true => exact ((holds_self.function _).before _).argument _
      | false => exact (holds_self.function _).before _
  | false =>
      rw [if_neg Bool.false_ne_true, if_neg Bool.false_ne_true,
        ← TranslatorItem.nestedMember_eq_translatorMember _ rfl]
      cases property.isOptional with
      | true => exact (((holds_self.argument _).before _).function _).before _
      | false => exact (holds_self.function _).before _

/-- Writing a nested property calls the translator of its element. -/
theorem Emit.holds_writeTrees {property : Property} {record translator : TypeExpr}
    (hkind : property.kind = .nested record translator) :
    Holds (translatorMember translator.trees
        (if property.isArray then "to_records" else "refresh"))
      (TranslatorItem.writeTrees (WritePlan.of property) property.name property.modelName) := by
  unfold WritePlan.of
  rw [hkind]
  dsimp only
  cases property.isArray with
  | true =>
      rw [if_pos rfl, if_pos rfl, ← TranslatorItem.nestedMember_eq_translatorMember _ rfl]
      exact ((((holds_self.function _).before _).argument _).behind _).before _
  | false =>
      rw [if_neg Bool.false_ne_true, if_neg Bool.false_ne_true,
        ← TranslatorItem.nestedMember_eq_translatorMember _ rfl]
      cases property.isOptional with
      | true =>
          -- The call stands in the body of a function that is applied to the value.
          exact ((((((holds_self.function _).behind _).argument _).before _).function _).behind
            _).before _
      | false => exact ((((holds_self.function _).before _).argument _).behind _).before _

end

/-! ### The items of the parent -/

/-- Whether printed items use these two types for a property: the record field is a list or an
option of the one, and the initializer and the block of statements of the property have in
them a function of the other, seen as a translator. -/
structure Emit.UsesNested (property : Property) (record translator : TypeExpr)
    (recordLayout : RecordLayout) (translatorLayout : TranslatorLayout) : Prop where
  element : elementTrees (StoredElement.of property) = record.trees
  field : ∃ entry ∈ recordLayout.fields, ∃ attributes, entry = attributeTrees attributes ++
    word "pub" :: .ident property.modelName :: .punct ':' false ::
      (colons (if property.isArray then ["dao_core", "List"] else ["core", "option", "Option"]) ++
        .punct '<' false :: (record.trees ++ [.punct '>' false]))
  reading : ∃ entry ∈ translatorLayout.initializers, ∃ value,
    entry = .ident property.name :: .punct ':' false :: value ∧
    Holds (translatorMember translator.trees
      (if property.isArray then "from_records" else "from_record")) value
  writing : ∃ block ∈ translatorLayout.blocks,
    WriteBlock property.types property.name property.modelName block ∧
    Holds (translatorMember translator.trees
      (if property.isArray then "to_records" else "refresh")) block

/-- A nested property is kept in a list or in an option of its records. -/
theorem Emit.storedTypeTrees_of_nested {property : Property} {record translator : TypeExpr}
    (hkind : property.kind = .nested record translator) (hboxed : property.boxed = false) :
    storedTypeTrees (StoredType.of property)
      = colons (if property.isArray then ["dao_core", "List"] else ["core", "option", "Option"]) ++
          .punct '<' false :: (record.trees ++ [.punct '>' false]) := by
  have hstorage : Storage.of property = if property.isArray then .list else .nullable := by
    simp [Storage.of, hkind, hboxed]
  simp only [storedTypeTrees, StoredType.of, StoredElement.of, hkind, hstorage]
  cases property.isArray with
  | true => rfl
  | false => rfl

/-- The items of a schema use the two types of a nested property. -/
theorem Emit.usesNested_of {schema : Schema} {property : Property}
    (hproperty : property ∈ schema.properties) {record translator : TypeExpr}
    (hkind : property.kind = .nested record translator) (hboxed : property.boxed = false) :
    UsesNested property record translator (RecordItem.of schema).layout
      (TranslatorItem.of schema).layout where
  element := by
    rw [StoredElement.of, hkind]
    rfl
  field := by
    -- The identity comes first in the record, and the properties behind it.
    refine ⟨_, List.mem_cons_of_mem _ (List.mem_map_of_mem (List.mem_map_of_mem hproperty)), ?_⟩
    rw [← storedTypeTrees_of_nested hkind hboxed]
    exact exists_attributes_fieldTrees ⟨property.doc, property.modelName, StoredType.of property⟩
  reading := by
    refine ⟨_, List.mem_append_right _ (List.mem_map_of_mem (List.mem_map_of_mem hproperty)), _,
      rfl, ?_⟩
    exact (holds_readTrees hkind (schema.label property)).argument _
  writing := by
    refine ⟨_, List.mem_map_of_mem (List.mem_map_of_mem hproperty), ?_, holds_writeTrees hkind⟩
    exact writeBlock_writeTrees (within_writePlan property) property.name property.modelName

/-- Nested types are referred to by the names that they give to their own items.

Take a declaration that is accepted and gives no names of its own to its record and its
translator.

* A field that is marked as nested and has any path to the declaration as its element is
  classified with that path to the record and to the translator, without arguments.
* So is each nested property of an accepted schema whose element ends in the name of the
  declaration. These two types are what the items of that schema use for the property, as
  they are printed, single or in a list, optional or not.
* The record and the translator that are printed for the declaration have these names.
* Nested properties whose elements end in different names have different types. -/
theorem nested_names_agree (child : Declaration) (childSchema : Schema)
    (hchild : Schema.ofDeclaration child = .ok childSchema)
    (hrecord : (StructOptions.ofAttributes child.attributes).options.record = none)
    (htranslator : (StructOptions.ofAttributes child.attributes).options.translator = none) :
    (∀ (options : FieldOptions) (leading : Bool) (before : List Segment) (arguments : Arguments),
      options.intEnum = false → options.stringEnum = false → options.nested = true →
      propertyKind options (.path none leading before (.mk child.name arguments))
        = .ok (.nested (.path none leading before (.bare childSchema.record))
            (.path none leading before (.bare childSchema.translator)))) ∧
    (∀ (parent : Schema) (property : Property) (record translator : TypeExpr),
      parent.Accepted → property ∈ parent.properties →
      property.kind = .nested record translator →
      property.element.lastName? = some child.name →
      (∃ leading before arguments,
        property.element = .path none leading before (.mk child.name arguments) ∧
        record = .path none leading before (.bare childSchema.record) ∧
        translator = .path none leading before (.bare childSchema.translator)) ∧
      Cardinality.of property.declared
        = ⟨property.element, property.isOptional, property.isArray⟩ ∧
      (RecordItem.of parent).trees = (RecordItem.of parent).layout.trees ∧
      (TranslatorItem.of parent).trees = (TranslatorItem.of parent).layout.trees ∧
      UsesNested property record translator (RecordItem.of parent).layout
        (TranslatorItem.of parent).layout) ∧
    RecordRendering childSchema (RecordItem.of childSchema).layout ∧
    TranslatorRendering childSchema (TranslatorItem.of childSchema).layout ∧
    ∀ (parent otherParent : Schema) (property other : Property)
      (record translator otherRecord otherTranslator : TypeExpr),
      parent.Accepted → property ∈ parent.properties →
      property.kind = .nested record translator →
      otherParent.Accepted → other ∈ otherParent.properties →
      other.kind = .nested otherRecord otherTranslator →
      property.element.lastName? ≠ other.element.lastName? →
      (record.lastName? ≠ otherRecord.lastName? ∧ record.trees ≠ otherRecord.trees) ∧
        translator.lastName? ≠ otherTranslator.lastName? ∧
        translator.trees ≠ otherTranslator.trees := by
  obtain ⟨hrecordName, htranslatorName, _⟩ := givenOr_of_ofDeclaration hchild
  rw [hrecord, givenOr] at hrecordName
  rw [htranslator, givenOr] at htranslatorName
  refine ⟨?_, ?_, recordRendering_of hchild, translatorRendering_of hchild, ?_⟩
  · intro options leading before arguments hint hstring hnested
    unfold propertyKind
    rw [hint, hstring, hnested]
    simp only [Bool.false_eq_true, if_false, if_true, TypeExpr.withSuffix, Segment.name,
      hrecordName, htranslatorName]
    rfl
  · intro parent property record translator hparent hproperty hkind hlast
    have hnames := hparent.namesNested hproperty hkind
    obtain ⟨leading, before, arguments, helement, rfl⟩ :=
      hnames.record.eq_of_lastName? hlast hrecordName
    obtain ⟨leading', before', arguments', helement', rfl⟩ :=
      hnames.translator.eq_of_lastName? hlast htranslatorName
    -- Both types are made of the same path.
    cases helement.symm.trans helement'
    exact ⟨⟨leading, before, arguments, helement, rfl, rfl⟩, hnames.wrapped,
      RecordItem.trees_eq _, TranslatorItem.trees_eq _,
      usesNested_of hproperty hkind hnames.unboxed⟩
  · intro parent otherParent property other record translator otherRecord otherTranslator hparent
      hproperty hkind hotherParent hother hotherKind hne
    have hnames := hparent.namesNested hproperty hkind
    have hotherNames := hotherParent.namesNested hother hotherKind
    exact ⟨hnames.record.ne_of_lastName?_ne hotherNames.record hne,
      hnames.translator.ne_of_lastName?_ne hotherNames.translator hne⟩

namespace Sample

/-- An author, with no names given. -/
def authorText : String :=
  "struct Author \x7b id: Identity \x7d"

/-- A book with authors from elsewhere, if any are known, and a shop. -/
def novelText : String :=
  "struct Novel \x7b id: Identity, " ++
    "#[dao(nested)] authors: Option<Vec<::press<u8>::Author<u8>>>, " ++
    "#[dao(nested)] seller: trade::Shop \x7d"

/-- Whether a property is nested and its element ends in a name. -/
def endsIn (name : Ident) (property : Property) : Bool :=
  match property.kind with
  | .nested _ _ => property.element.lastName? = some name
  | _ => false

/-- A property whose type ends in a name is nested and has an element with this last name. -/
theorem exists_of_endsIn {name : Ident} {property : Property} (h : endsIn name property = true) :
    ∃ record translator, property.kind = .nested record translator ∧
      property.element.lastName? = some name := by
  unfold endsIn at h
  split at h
  · rename_i record translator hkind
    exact ⟨record, translator, hkind, of_decide_eq_true h⟩
  · cases h

/-- Whether a declaration has a name, and these are given for its record and its translator. -/
def givesNames (name : Ident) (record translator : Option Ident) (declaration : Declaration) :
    Bool :=
  let options := (StructOptions.ofAttributes declaration.attributes).options
  declaration.name = name && options.record = record && options.translator = translator

/-- A declaration gives the names that it is checked for. -/
theorem givesNames_iff {name : Ident} {record translator : Option Ident}
    {declaration : Declaration} :
    givesNames name record translator declaration = true ↔ declaration.name = name ∧
      (StructOptions.ofAttributes declaration.attributes).options.record = record ∧
      (StructOptions.ofAttributes declaration.attributes).options.translator = translator := by
  simp only [givesNames, Bool.and_eq_true, decide_eq_true_eq, and_assoc]

/-- Whether a text is accepted with two nested properties whose elements end in two names. -/
def nests (first second : Ident) (text : String) : Bool :=
  match Schema.ofText text with
  | .ok schema =>
    match schema.properties with
    | [property, other] => endsIn first property && endsIn second other
    | _ => false
  | .error _ => false

/-- A text with two nested properties has an accepted schema with these two. -/
theorem exists_of_nests {first second : Ident} {text : String}
    (h : nests first second text = true) :
    ∃ (schema : Schema) (property other : Property), schema.Accepted ∧
      schema.properties = [property, other] ∧
      endsIn first property = true ∧ endsIn second other = true := by
  unfold nests at h
  split at h
  · rename_i schema hschema
    have haccepted : schema.Accepted := by
      unfold Schema.ofText at hschema
      split at hschema
      · cases hschema
      · exact ⟨_, hschema⟩
    split at h
    · rename_i property other hproperties
      exact ⟨schema, property, other, haccepted, hproperties, Bool.and_eq_true_iff.mp h⟩
    · cases h
  · cases h

/-- An author is accepted and gives no names of its own. -/
theorem accepts_authorText :
    accepts (fun declaration _ => givesNames (.plain "Author") none none declaration)
      [.plain "id"] authorText = true := by
  decide +kernel

/-- A novel has authors and a shop nested in it. -/
theorem nests_novelText : nests (.plain "Author") (.plain "Shop") novelText = true := by
  decide +kernel

end Sample

/-- A novel refers to its authors as they name themselves, and to its shop by other names. -/
theorem nested_names_agree_novel :
    ∃ (childSchema parent : Schema) (authors seller : Property)
      (record translator shopRecord shopTranslator : TypeExpr),
      Schema.ofText Sample.authorText = .ok childSchema ∧
      parent.Accepted ∧ parent.properties = [authors, seller] ∧
      authors.kind = .nested record translator ∧
      record.lastName? = some childSchema.record ∧
      translator.lastName? = some childSchema.translator ∧
      (RecordItem.of parent).trees = (RecordItem.of parent).layout.trees ∧
      (TranslatorItem.of parent).trees = (TranslatorItem.of parent).layout.trees ∧
      UsesNested authors record translator (RecordItem.of parent).layout
        (TranslatorItem.of parent).layout ∧
      seller.kind = .nested shopRecord shopTranslator ∧
      record.lastName? ≠ shopRecord.lastName? ∧
      translator.lastName? ≠ shopTranslator.lastName? := by
  obtain ⟨child, _, childSchema, htext, _, hchild, hgiven, _⟩ :=
    Sample.exists_of_accepts Sample.accepts_authorText
  obtain ⟨hname, hrecord, htranslator⟩ := Sample.givesNames_iff.mp hgiven
  obtain ⟨parent, authors, seller, hparent, hproperties, hauthors, hseller⟩ :=
    Sample.exists_of_nests Sample.nests_novelText
  obtain ⟨record, translator, hkind, hlast⟩ := Sample.exists_of_endsIn hauthors
  obtain ⟨shopRecord, shopTranslator, hshopKind, hshopLast⟩ := Sample.exists_of_endsIn hseller
  have hmem : authors ∈ parent.properties := by simp [hproperties]
  have hshopMem : seller ∈ parent.properties := by simp [hproperties]
  -- The authors and the shop have types with different last names, so their records do too.
  have hne : authors.element.lastName? ≠ seller.element.lastName? := by
    rw [hlast, hshopLast]
    decide
  obtain ⟨_, hagree, _, _, hdiffer⟩ :=
    nested_names_agree child childSchema hchild hrecord htranslator
  obtain ⟨⟨leading, before, arguments, _, rfl, rfl⟩, _, hrecordTrees, htranslatorTrees, huses⟩ :=
    hagree parent authors record translator hparent hmem hkind (hname ▸ hlast)
  obtain ⟨hrecords, htranslators⟩ := hdiffer parent parent authors seller _ _ _ _ hparent hmem
    hkind hparent hshopMem hshopKind hne
  refine ⟨childSchema, parent, authors, seller, _, _, shopRecord, shopTranslator, ?_, hparent,
    hproperties, hkind, rfl, rfl, hrecordTrees, htranslatorTrees, huses, hshopKind, hrecords.1,
    htranslators.1⟩
  rw [Schema.ofText, htext]
  exact hchild

end Recordsmith

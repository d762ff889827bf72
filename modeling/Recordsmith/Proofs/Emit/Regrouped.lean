import Recordsmith.Proofs.Emit.Rearranged
import Recordsmith.Proofs.Schema.Options
import Recordsmith.Proofs.Source.PlainItems

/-!
# `Recordsmith.Proofs.Emit.Regrouped`: options in other attributes and another order

The options of a declaration or a field can be put into one `dao` attribute or into several,
before and behind other attributes. `Regrouped` relates attributes that hold the same items,
however these are grouped and ordered, and the same other attributes in the same order.

If the order of the items stays too, everything is the same, issues included. If it does not,
everything is the same as long as there are no issues: of two uses of one name, for instance,
the second is the issue, and the order decides which one that is. `Kept` is what both cases
have in common. It goes from attributes to fields (`FieldAlike.readField_eq`) and declarations
(`DeclarationAlike.ofDeclaration_eq`), and so to what is generated.

Items are compared as they are read. That is not always as they are written, for a minus sign
belongs to a number that ends its list, and is an operator before a comma. Plain items are read
as they are written, so for them attributes can be joined by commas (`regrouped_joined`).
-/

set_option autoImplicit false

namespace Recordsmith

open Recordsmith.Source Recordsmith.Schema Recordsmith.Emit

/-! ### Attributes -/

/-- Whether attributes hold the same items, in any grouping and order, and are otherwise the
same. -/
structure Schema.Regrouped (attributes others : List Attribute) : Prop where
  readable : Readable attributes ∧ Readable others
  foreign : foreign others = foreign attributes
  items : (itemsIn others).Perm (itemsIn attributes)

/-- Whether the options that some attributes give are kept: the items stay in order, or there
are no issues. -/
def Schema.Kept {σ : Type} (collect : List Attribute → Collected σ)
    (attributes others : List Attribute) : Prop :=
  Regrouped attributes others ∧
    (itemsIn others = itemsIn attributes ∨ (collect attributes).issues = [])

section

variable {σ : Type} {defs : List (OptionDef σ)} {attributes others : List Attribute}

/-- Items in the same order come to the same. -/
theorem Schema.Regrouped.ofAttributes_eq (h : Regrouped attributes others)
    (hitems : itemsIn others = itemsIn attributes) (initial : σ) :
    Collected.ofAttributes defs initial others
      = Collected.ofAttributes defs initial attributes := by
  rw [Collected.ofAttributes_eq_foldl h.readable.1, Collected.ofAttributes_eq_foldl h.readable.2,
    hitems]

/-- Attributes with the same items in the same order give the same options and the same issues.
-/
theorem Schema.Regrouped.collected_eq (h : Regrouped attributes others)
    (hitems : itemsIn others = itemsIn attributes) :
    StructOptions.ofAttributes others = StructOptions.ofAttributes attributes ∧
      FieldOptions.ofAttributes others = FieldOptions.ofAttributes attributes := by
  unfold StructOptions.ofAttributes FieldOptions.ofAttributes
  exact ⟨h.ofAttributes_eq hitems _, h.ofAttributes_eq hitems _⟩

/-- Items without issues come to the same options in any order. -/
theorem Schema.Regrouped.options_eq (hdefs : Independent defs) (h : Regrouped attributes others)
    (initial : σ) (hnone : (Collected.ofAttributes defs initial attributes).issues = []) :
    (Collected.ofAttributes defs initial others).options
        = (Collected.ofAttributes defs initial attributes).options ∧
      (Collected.ofAttributes defs initial others).issues = [] := by
  rw [Collected.ofAttributes_eq_foldl h.readable.1] at hnone ⊢
  rw [Collected.ofAttributes_eq_foldl h.readable.2]
  exact Collected.foldl_of_perm hdefs h.items initial hnone

/-- Options that are kept are the same, with the same issues. -/
theorem Schema.Kept.same (hdefs : Independent defs) {initial : σ}
    (h : Kept (Collected.ofAttributes defs initial) attributes others) :
    (Collected.ofAttributes defs initial others).options
        = (Collected.ofAttributes defs initial attributes).options ∧
      (Collected.ofAttributes defs initial others).issues
        = (Collected.ofAttributes defs initial attributes).issues := by
  obtain ⟨hregrouped, hitems | hnone⟩ := h
  · rw [hregrouped.ofAttributes_eq hitems]
    exact ⟨rfl, rfl⟩
  · obtain ⟨hoptions, hissues⟩ := hregrouped.options_eq hdefs initial hnone
    exact ⟨hoptions, hissues.trans hnone.symm⟩

/-- An attribute that holds options holds no documentation. -/
theorem Schema.doc?_of_isNamed {attr : Attribute} (h : attr.isNamed "dao" = true) :
    attr.doc? = none := by
  have hother : attr.isNamed "doc" = false := by
    simp only [Attribute.isNamed, Bool.and_eq_true, beq_iff_eq] at h
    simp [Attribute.isNamed, h.2]
  rw [Attribute.doc?, hother]
  rfl

/-- Documentation is found in the other attributes. -/
theorem Schema.values_foreign (attributes : List Attribute) :
    Docs.values (foreign attributes) = Docs.values attributes := by
  unfold Docs.values foreign
  rw [List.filterMap_filter]
  refine List.filterMap_congr fun attr _ => ?_
  cases hdao : attr.isNamed "dao" with
  | false => rfl
  | true => rw [doc?_of_isNamed hdao]; rfl

/-- The documentation of attributes does not depend on the grouping of options. -/
theorem Schema.Regrouped.comments?_eq (h : Regrouped attributes others) :
    Docs.comments? others = Docs.comments? attributes := by
  unfold Docs.comments?
  rw [← values_foreign others, h.foreign, values_foreign]

end

/-- One attribute can hold the items of several, wherever it stands among the others. -/
theorem Schema.regrouped_single {attributes before behind : List Attribute} {single : Attribute}
    (h : Readable attributes) (hdao : single.isNamed "dao" = true)
    (hitems : items? single = some (itemsIn attributes))
    (hforeign : foreign attributes = before ++ behind) :
    Regrouped attributes (before ++ single :: behind) ∧
      itemsIn (before ++ single :: behind) = itemsIn attributes := by
  have hothers : ∀ attr ∈ before ++ behind, attr.isNamed "dao" = false := by
    intro attr hattr
    rw [← hforeign] at hattr
    simpa using (List.mem_filter.mp hattr).2
  have hnone : ∀ attr ∈ before ++ behind, items? attr = some [] := by
    intro attr hattr
    simp [items?, hothers attr hattr]
  obtain ⟨hbefore, hbehind⟩ := List.forall_mem_append.mp hnone
  -- All other attributes are without items, so those of the single one are all there are.
  have hsame : itemsIn (before ++ single :: behind) = itemsIn attributes := by
    have hempty : ∀ {row : List Attribute}, (∀ attr ∈ row, items? attr = some []) →
        itemsIn row = [] := by
      intro row hrow
      rw [itemsIn, List.flatMap_eq_nil_iff]
      intro attr hattr
      rw [hrow attr hattr]
      rfl
    calc itemsIn (before ++ single :: behind)
        = itemsIn before ++ ((items? single).getD [] ++ itemsIn behind) := by simp [itemsIn]
      _ = itemsIn attributes := by rw [hempty hbefore, hempty hbehind, hitems]; simp
  refine ⟨⟨⟨h, ?_⟩, ?_, hsame ▸ .refl _⟩, hsame⟩
  · intro attr hattr
    rcases List.mem_append.mp hattr with hmem | hmem
    · rw [hbefore attr hmem]
      rfl
    · rcases List.mem_cons.mp hmem with rfl | hmem
      · rw [hitems]
        rfl
      · rw [hbehind attr hmem]
        rfl
  · have hfilter : foreign (before ++ behind) = before ++ behind :=
      List.filter_eq_self.mpr fun attr hattr => by simp [hothers attr hattr]
    rw [hforeign, ← hfilter]
    simp [foreign, hdao]

/-- An attribute that holds plain items, with commas between them. -/
def Schema.optionsAttribute (items : List PlainItem) : Attribute :=
  ⟨false, [.plain "dao"], .list (PlainItem.joined items)⟩

/-- The items of an attribute that is made of plain items are these items. -/
theorem Schema.items?_optionsAttribute (items : List PlainItem) :
    items? (optionsAttribute items) = some (items.map PlainItem.item) := by
  have hdao : (optionsAttribute items).isNamed "dao" = true := rfl
  rw [items?, if_pos hdao, optionsAttribute]
  dsimp only
  rw [MetaItem.ofTrees_joined]
  rfl

/-- Items are found in the attributes that are no others. -/
theorem Schema.itemsIn_filter (attributes : List Attribute) :
    itemsIn (attributes.filter (·.isNamed "dao")) = itemsIn attributes := by
  induction attributes with
  | nil => rfl
  | cons attr rest ih =>
      unfold itemsIn at ih ⊢
      cases hdao : attr.isNamed "dao" with
      | true =>
          rw [List.filter_cons_of_pos (by simp [hdao]), List.flatMap_cons, List.flatMap_cons, ih]
      | false =>
          have hnone : items? attr = some [] := by simp [items?, hdao]
          rw [List.filter_cons_of_neg (by simp [hdao]), List.flatMap_cons, hnone, ih]
          rfl

/-- Attributes of plain items can be joined to one, with commas between all items. -/
theorem Schema.regrouped_joined {attributes before behind : List Attribute}
    {groups : List (List PlainItem)}
    (h : attributes.filter (·.isNamed "dao") = groups.map optionsAttribute)
    (hforeign : foreign attributes = before ++ behind) :
    Regrouped attributes (before ++ optionsAttribute groups.flatten :: behind) ∧
      itemsIn (before ++ optionsAttribute groups.flatten :: behind) = itemsIn attributes := by
  have hreadable : Readable attributes := by
    intro attr hattr
    cases hdao : attr.isNamed "dao" with
    | false => simp [items?, hdao]
    | true =>
        have hmem : attr ∈ groups.map optionsAttribute := by
          rw [← h]
          exact List.mem_filter.mpr ⟨hattr, hdao⟩
        obtain ⟨items, _, rfl⟩ := List.mem_map.mp hmem
        rw [items?_optionsAttribute]
        rfl
  have hitems : itemsIn attributes = groups.flatten.map PlainItem.item := by
    rw [← itemsIn_filter, h, itemsIn, List.flatMap_map, List.map_flatten, ← List.flatMap_def]
    simp only [items?_optionsAttribute, Option.getD_some]
  -- Joined by commas, the items are those of one attribute.
  refine regrouped_single hreadable rfl ?_ hforeign
  rw [items?_optionsAttribute, hitems]

/-! ### Fields and declarations -/

/-- Whether a field is the same but for the grouping and order of its options, which are
kept. -/
structure Schema.FieldAlike (field other : Field) : Prop where
  name : other.name = field.name
  type : other.type = field.type
  attributes : Kept FieldOptions.ofAttributes field.attributes other.attributes

/-- Whether shapes are the same but for the grouping and order of options, which are kept. -/
inductive Schema.ShapeAlike : Shape → Shape → Prop
  | named {fields others : List Field} (h : List.Forall₂ FieldAlike fields others) :
      ShapeAlike (.named fields) (.named others)
  | unnamed {fields others : List Field} (h : List.Forall₂ FieldAlike fields others) :
      ShapeAlike (.unnamed fields) (.unnamed others)
  | same (shape : Shape) : ShapeAlike shape shape

/-- Whether declarations are the same but for the grouping and order of options, which are
kept. -/
structure Schema.DeclarationAlike (declaration other : Declaration) : Prop where
  attributes : Kept StructOptions.ofAttributes declaration.attributes other.attributes
  visibility : other.visibility = declaration.visibility
  name : other.name = declaration.name
  hasParameters : other.hasParameters = declaration.hasParameters
  hasWhere : other.hasWhere = declaration.hasWhere
  shape : ShapeAlike declaration.shape other.shape

/-- A field is read as before: with the same options, or with the same issues. -/
theorem Schema.FieldAlike.readField_eq {field other : Field} (h : FieldAlike field other) :
    readField other = readField field := by
  obtain ⟨hoptions, hissues⟩ := h.attributes.same FieldOptions.independent_defs
  unfold readField FieldOptions.ofAttributes
  dsimp only
  rw [hoptions, hissues, h.name, h.type, h.attributes.1.comments?_eq]

/-- Shapes with alike fields are read alike. -/
theorem Schema.ShapeAlike.readShape_eq {shape other : Shape} (h : ShapeAlike shape other) :
    readShape other = readShape shape := by
  cases h with
  | same => rfl
  | unnamed hfields =>
      cases hfields with
      | nil => rfl
      | cons _ hrest => cases hrest <;> rfl
  | named hfields =>
      have hread : ∀ {fields others : List Field}, List.Forall₂ FieldAlike fields others →
          others.map readField = fields.map readField := by
        intro fields others hall
        induction hall with
        | nil => rfl
        | cons hfield _ ih => rw [List.map_cons, List.map_cons, hfield.readField_eq, ih]
      rw [readShape, readShape, hread hfields]

/-- A declaration has the same schema as before, or is refused for the same reason. -/
theorem Schema.DeclarationAlike.ofDeclaration_eq {declaration other : Declaration}
    (h : DeclarationAlike declaration other) :
    Schema.ofDeclaration other = Schema.ofDeclaration declaration := by
  obtain ⟨hoptions, hissues⟩ := h.attributes.same StructOptions.independent_defs
  -- Attributes are looked at for options and for documentation, and for nothing else.
  have hread : readOptions other = readOptions declaration := by
    unfold readOptions StructOptions.ofAttributes
    dsimp only
    rw [h.shape.readShape_eq, hoptions, hissues]
  have hassemble : ∀ options sorted,
      assemble other options sorted = assemble declaration options sorted := by
    intro options sorted
    unfold assemble Docs.summary?
    rw [h.name, h.visibility, h.attributes.1.comments?_eq]
  unfold Schema.ofDeclaration
  rw [hread, h.hasParameters, h.hasWhere]
  simp only [hassemble]

/-! ### All together -/

/-- The grouping of options does not matter, and neither does their order if there are no
issues.

Several attributes are as good as one that holds all their items in the same order, wherever
it stands among the others: the options are the same, and so are the issues, in order. Plain
items make such an attribute by commas between them. If there are no issues, any grouping and
any order gives the same options. A field with such other attributes is read in the same way,
and a declaration has the same schema, or the same reason to be refused, and the same
expansion. -/
theorem options_ignore_grouping :
    (∀ (attributes before behind : List Attribute) (single : Attribute),
      Readable attributes → single.isNamed "dao" = true →
      items? single = some (itemsIn attributes) → foreign attributes = before ++ behind →
      StructOptions.ofAttributes (before ++ single :: behind)
        = StructOptions.ofAttributes attributes ∧
      FieldOptions.ofAttributes (before ++ single :: behind)
        = FieldOptions.ofAttributes attributes) ∧
    (∀ (attributes before behind : List Attribute) (groups : List (List PlainItem)),
      attributes.filter (·.isNamed "dao") = groups.map optionsAttribute →
      foreign attributes = before ++ behind →
      StructOptions.ofAttributes (before ++ optionsAttribute groups.flatten :: behind)
        = StructOptions.ofAttributes attributes ∧
      FieldOptions.ofAttributes (before ++ optionsAttribute groups.flatten :: behind)
        = FieldOptions.ofAttributes attributes) ∧
    (∀ attributes others : List Attribute, Regrouped attributes others →
      ((StructOptions.ofAttributes attributes).issues = [] →
        (StructOptions.ofAttributes others).options
          = (StructOptions.ofAttributes attributes).options ∧
        (StructOptions.ofAttributes others).issues = []) ∧
      ((FieldOptions.ofAttributes attributes).issues = [] →
        (FieldOptions.ofAttributes others).options
          = (FieldOptions.ofAttributes attributes).options ∧
        (FieldOptions.ofAttributes others).issues = [])) ∧
    (∀ field other : Field, FieldAlike field other →
      readField other = readField field ∧
      ∀ style, class? style other = class? style field) ∧
    (∀ declaration other : Declaration, DeclarationAlike declaration other →
      Schema.ofDeclaration other = Schema.ofDeclaration declaration ∧
      ∀ text edited, Declaration.ofText? text = some declaration →
        Declaration.ofText? edited = some other →
        Expansion.ofText edited = Expansion.ofText text) := by
  refine ⟨?_, ?_, ?_, ?_, ?_⟩
  · intro attributes before behind single hreadable hdao hitems hforeign
    obtain ⟨hregrouped, hsame⟩ := regrouped_single hreadable hdao hitems hforeign
    exact hregrouped.collected_eq hsame
  · intro attributes before behind groups hgroups hforeign
    obtain ⟨hregrouped, hsame⟩ := regrouped_joined hgroups hforeign
    exact hregrouped.collected_eq hsame
  · intro attributes others hregrouped
    exact ⟨hregrouped.options_eq StructOptions.independent_defs {},
      hregrouped.options_eq FieldOptions.independent_defs {}⟩
  · intro field other hfield
    -- Classes depend on a field only by what is read of it.
    have hread := hfield.readField_eq
    refine ⟨hread, fun style => ?_⟩
    rw [class?, class?, hread]
  · intro declaration other hdeclaration
    have hsame := hdeclaration.ofDeclaration_eq
    refine ⟨hsame, fun text edited htext hedited => ?_⟩
    unfold Expansion.ofText Schema.ofText
    rw [htext, hedited]
    dsimp only
    rw [hsame]

/-! ### A crate with options here and there -/

namespace Sample

/-- A documentation attribute. -/
def docAttribute (text : String) : Attribute :=
  ⟨false, [.plain "doc"], .value (.literal (.string text))⟩

def boxedItem : PlainItem :=
  ⟨.plain "boxed", .none, by decide⟩

def modelNameItem : PlainItem :=
  ⟨.plain "model_name", .literal "\"mass\"", by decide⟩

def renameItem : PlainItem :=
  ⟨.plain "rename_all", .literal "\"camelCase\"", by decide⟩

def recordItem : PlainItem :=
  ⟨.plain "record", .name (.plain "Row") (by decide), by decide⟩

/-- A crate, with attributes of its own and of its weight. -/
def crate (attributes weight : List Attribute) : Declaration :=
  { declared "Crate" [field [] "id" (named "Identity"),
      ⟨weight, some (.plain "full_weight"), named "u32"⟩] with attributes }

def splitAttributes : List Attribute :=
  [optionsAttribute [renameItem], docAttribute "A crate.", optionsAttribute [recordItem]]

def splitWeight : List Attribute :=
  [optionsAttribute [boxedItem], docAttribute "With its load.", optionsAttribute [modelNameItem]]

def joinedAttributes : List Attribute :=
  [docAttribute "A crate.", optionsAttribute [recordItem, renameItem]]

def joinedWeight : List Attribute :=
  [optionsAttribute [modelNameItem, boxedItem], docAttribute "With its load."]

/-- Documentation has no items. -/
theorem items?_docAttribute (text : String) : items? (docAttribute text) = some [] := rfl

/-- The attributes of a crate are grouped in another way. -/
theorem regrouped_attributes : Regrouped splitAttributes joinedAttributes where
  readable := by
    simp [Readable, splitAttributes, joinedAttributes, items?_optionsAttribute,
      items?_docAttribute]
  foreign := rfl
  items := by
    simpa [itemsIn, splitAttributes, joinedAttributes, items?_optionsAttribute,
      items?_docAttribute] using .swap ..

/-- The attributes of its weight are grouped in another way and in another order. -/
theorem regrouped_weight : Regrouped splitWeight joinedWeight where
  readable := by
    simp [Readable, splitWeight, joinedWeight, items?_optionsAttribute, items?_docAttribute]
  foreign := rfl
  items := by
    simpa [itemsIn, splitWeight, joinedWeight, items?_optionsAttribute,
      items?_docAttribute] using .swap ..

/-- The two declarations of a crate differ in the grouping of options only. -/
theorem crate_alike :
    DeclarationAlike (crate splitAttributes splitWeight) (crate joinedAttributes joinedWeight) where
  attributes := ⟨regrouped_attributes, .inr (by decide +kernel)⟩
  visibility := rfl
  name := rfl
  hasParameters := rfl
  hasWhere := rfl
  shape := by
    refine .named (.cons ⟨rfl, rfl, ⟨⟨?_, ?_⟩, rfl, .refl _⟩, .inl rfl⟩ (.cons ?_ .nil))
    · exact nofun
    · exact nofun
    · exact ⟨rfl, rfl, regrouped_weight, .inr (by decide +kernel)⟩

/-- A crate has a schema. -/
theorem exists_schema_crate :
    ∃ schema, Schema.ofDeclaration (crate splitAttributes splitWeight) = .ok schema := by
  have hsome : (Schema.ofDeclaration (crate splitAttributes splitWeight)).toOption.isSome
      = true := by decide +kernel
  cases hof : Schema.ofDeclaration (crate splitAttributes splitWeight) with
  | error refusal => rw [hof] at hsome; cases hsome
  | ok schema => exact ⟨schema, rfl⟩

end Sample

/-- A crate keeps its schema when its options are put together and turned round. -/
theorem options_ignore_grouping_crate :
    (∃ schema,
      Schema.ofDeclaration (Sample.crate Sample.splitAttributes Sample.splitWeight) = .ok schema ∧
      Schema.ofDeclaration (Sample.crate Sample.joinedAttributes Sample.joinedWeight)
        = .ok schema) ∧
    FieldOptions.ofAttributes
        [Sample.docAttribute "With its load.",
          optionsAttribute [Sample.boxedItem, Sample.modelNameItem]]
      = FieldOptions.ofAttributes Sample.splitWeight := by
  obtain ⟨_, hjoined, _, _, hdeclaration⟩ := options_ignore_grouping
  obtain ⟨schema, hschema⟩ := Sample.exists_schema_crate
  refine ⟨⟨schema, hschema, ?_⟩, ?_⟩
  · rw [(hdeclaration _ _ Sample.crate_alike).1, hschema]
  · exact (hjoined Sample.splitWeight [Sample.docAttribute "With its load."] []
      [[Sample.boxedItem], [Sample.modelNameItem]] rfl rfl).2

/-- The issues of the options of a field that a text spells. -/
def Sample.fieldIssues (text : String) : Option (List Issue) :=
  (Field.ofText? true text).map fun field => (FieldOptions.ofAttributes field.attributes).issues

/-- A negative number is a literal at the end of a list and an operation before a comma, so the
issue of two attributes differs from that of the one that is written with both items. -/
theorem regrouped_negative_number :
    Sample.fieldIssues "#[dao(skip = -1)] #[dao(boxed)] x: u8" = some [.wrongType "int"] ∧
    Sample.fieldIssues "#[dao(skip = -1, boxed)] x: u8" = some [.wrongType "unary"] := by
  constructor
  · decide +kernel
  · decide +kernel

end Recordsmith

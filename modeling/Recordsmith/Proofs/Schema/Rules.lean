import Recordsmith.Proofs.Schema.Sorting

/-!
# `Recordsmith.Proofs.Schema.Rules`: the rules by which a field is classified

What a field is follows from a list of rules, and the first that applies decides
(`rules`, `Decided`). A rule applies under a condition on the field and says what comes
of it: an issue, a class, or a name that cannot be built. `classify_decided` says that
`classify` keeps to the rules, for any type, name and options.

The rules speak of a type as it is written. It is a path that ends in some name with
arguments (`Wraps`), and taking `Option` and then `Vec` off it leaves an element
(`Strips`). So the element of `Option<Vec<E>>` is `E`, but that of `Vec<Option<E>>` is
`Option<E>`.

Names are built at two places, for the record field and for the types of a nested
record, and at both this may fail. The second comes before the checks of boxes.
-/

set_option autoImplicit false

namespace Recordsmith.Schema

open Recordsmith.Source

/-- What comes of a field. -/
abbrev Verdict := Except FieldError FieldClass

/-- Whether the first rule that applies gives a verdict. A rule that gives none does not
apply. -/
inductive Decided (verdict : Verdict) : List (Verdict → Prop) → Prop where
  | here {rule : Verdict → Prop} {others : List (Verdict → Prop)} (given : rule verdict) :
      Decided verdict (rule :: others)
  | later {rule : Verdict → Prop} {others : List (Verdict → Prop)}
      (silent : ∀ other, ¬ rule other) (decided : Decided verdict others) :
      Decided verdict (rule :: others)

/-! ### Types as they are written -/

/-- Whether a type is a path that ends in a name with arguments, of which the first is
the given type. -/
def Wraps (wrapper : String) (type inner : TypeExpr) : Prop :=
  ∃ qualifier leading before name colons more trailing,
    type = .path qualifier leading before
      (.mk name (.angled colons (.type inner :: more) trailing)) ∧
    name.spelled = wrapper

/-- Whether a type has an inside of this kind. -/
def IsWrapper (wrapper : String) (type : TypeExpr) : Prop :=
  ∃ inner, Wraps wrapper type inner

/-- What is left of a type when `Option` and then `Vec` are taken off it. -/
def Strips (type : TypeExpr) (shape : Cardinality) : Prop :=
  ∃ unwrapped,
    (if shape.isOptional then Wraps "Option" type unwrapped
      else unwrapped = type ∧ ¬ IsWrapper "Option" type) ∧
    (if shape.isArray then Wraps "Vec" unwrapped shape.element
      else shape.element = unwrapped ∧ ¬ IsWrapper "Vec" unwrapped)

/-- Whether a type is a path without a qualifier. -/
def IsPlainPath (type : TypeExpr) : Prop :=
  ∃ leading before last, type = .path none leading before last

/-- Whether a type is the one of identities: a path without a qualifier that ends in
`Identity` without arguments. -/
def IsIdentity (type : TypeExpr) : Prop :=
  ∃ leading before name, type = .path none leading before (.mk name .none) ∧
    name.spelled = "Identity"

/-- Whether a type is a path with an ending put on its last name. -/
def Suffixed (ending : String) (type suffixed : TypeExpr) : Prop :=
  ∃ leading before last name, type = .path none leading before last ∧
    last.name.withSuffix ending = .ok name ∧ suffixed = .path none leading before (.bare name)

/-- Whether putting an ending on the last name of a path gives no name. -/
def Unsuffixable (ending : String) (type : TypeExpr) (fault : NameFault) : Prop :=
  ∃ leading before last, type = .path none leading before last ∧
    last.name.withSuffix ending = .error fault

/-- Whether the record or the translator of a nested element cannot be named. The record
is named first. -/
def Unbuildable (element : TypeExpr) (fault : NameFault) : Prop :=
  Unsuffixable "Record" element fault ∨
  (∃ record, Suffixed "Record" element record) ∧ Unsuffixable "Translator" element fault

/-! ### Options and names -/

/-- Whether some marker is set. -/
def Marked (options : FieldOptions) : Prop :=
  options.stringEnum = true ∨ options.intEnum = true ∨ options.nested = true

/-- Whether a name is given that is no identifier. -/
def Misnamed (options : FieldOptions) (text : String) : Prop :=
  options.modelName = some text ∧ Ident.ofSource? text = none

/-- Whether no name is given and none can be built. -/
def Unnameable (style : NamingStyle) (options : FieldOptions) (name : Ident)
    (fault : NameFault) : Prop :=
  options.modelName = none ∧ style ≠ .preserve ∧
    Ident.ofText (style.apply name.text) = .error fault

/-- Whether a record field has this name: the one given, else that of the field, in the
style of the declaration. -/
def NamedAs (style : NamingStyle) (options : FieldOptions) (name model : Ident) : Prop :=
  (∃ text, options.modelName = some text ∧ Ident.ofSource? text = some model) ∨
  options.modelName = none ∧
    (style = .preserve ∧ model = name ∨
      style ≠ .preserve ∧ Ident.ofText (style.apply name.text) = .ok model)

/-- Whether the markers and the element of a field give this kind. -/
def HasKind (options : FieldOptions) (element : TypeExpr) : PropertyKind → Prop
  | .intEnum => options.intEnum = true
  | .stringEnum => options.stringEnum = true
  | .nested record translator => options.nested = true ∧
    Suffixed "Record" element record ∧ Suffixed "Translator" element translator
  | .primitive => ¬ Marked options

/-- Whether elements can be boxed. -/
def Boxable (options : FieldOptions) (element : TypeExpr) : Prop :=
  options.intEnum = true ∨ ¬ Marked options ∧
    (ScalarClass.of element = .numeric ∨ ScalarClass.of element = .bool ∨
      ScalarClass.of element = .text ∨ ScalarClass.of element = .date)

/-- Whether a property is what the options and the type of a field say. -/
structure Describes (style : NamingStyle) (field : FieldSpec) (name : Ident)
    (property : Property) : Prop where
  name_eq : property.name = name
  named : NamedAs style field.options name property.modelName
  declared_eq : property.declared = field.type
  strips : Strips field.type ⟨property.element, property.isOptional, property.isArray⟩
  kind : HasKind field.options property.element property.kind
  scalar_eq : property.scalar =
    if property.kind.isPrimitive then ScalarClass.of property.element else .other
  boxed_eq : property.boxed = field.options.boxed
  doc_eq : property.doc = field.doc

/-! ### The rules -/

/-- Rules that apply under a condition only. -/
def under (condition : Prop) (rules : List (Verdict → Prop)) : List (Verdict → Prop) :=
  rules.map fun rule verdict => condition ∧ rule verdict

/-- The rules for the name of a record field, and what comes of a field that has one. -/
def namingRules (style : NamingStyle) (options : FieldOptions) (name : Ident)
    (last : Verdict → Prop) : List (Verdict → Prop) := [
  fun verdict => ∃ text, Misnamed options text ∧
    verdict = .error (.issue (.invalidModelName text)),
  fun verdict => ∃ fault, Unnameable style options name fault ∧ verdict = .error (.fault fault),
  last]

/-- The rules for a field that is skipped. -/
def skipRules (field : FieldSpec) (name : Ident) : List (Verdict → Prop) := [
  fun verdict =>
    (Marked field.options ∨ field.options.boxed = true ∨ field.options.modelName ≠ none) ∧
    verdict = .error (.issue .skipWithOptions),
  fun verdict => verdict = .ok (.skipped ⟨name, field.type⟩)]

/-- The rules for a field of the type of identities. -/
def identityRules (style : NamingStyle) (field : FieldSpec) (name : Ident) :
    List (Verdict → Prop) :=
  (fun verdict => (Marked field.options ∨ field.options.boxed = true) ∧
    verdict = .error (.issue .identityWithOptions)) ::
  namingRules style field.options name fun verdict => ∃ model,
    NamedAs style field.options name model ∧ verdict = .ok (.identity name model)

/-- The rules for boxes. -/
def boxRules (field : FieldSpec) : List (Verdict → Prop) := [
  fun verdict => field.options.boxed = true ∧
    (∃ shape, Strips field.type shape ∧ shape.isArray = true) ∧
    verdict = .error (.issue .boxedArray),
  fun verdict => field.options.boxed = true ∧
    (∃ shape, Strips field.type shape ∧ ¬ Boxable field.options shape.element) ∧
    verdict = .error (.issue .boxedKind)]

/-- The rules for a field that can only be a property. -/
def propertyRules (style : NamingStyle) (field : FieldSpec) (name : Ident) :
    List (Verdict → Prop) := [
  fun verdict => field.options.nested = true ∧
    (∃ shape, Strips field.type shape ∧ ¬ IsPlainPath shape.element) ∧
    verdict = .error (.issue .nestedUnnamed),
  fun verdict => field.options.nested = true ∧ ∃ shape fault, Strips field.type shape ∧
    Unbuildable shape.element fault ∧ verdict = .error (.fault fault)] ++
  -- Boxes come after the names of nested types and before that of the record field.
  boxRules field ++
  namingRules style field.options name fun verdict => ∃ property,
    Describes style field name property ∧ verdict = .ok (.property property)

/-- The rules for a field with a name. -/
def namedRules (style : NamingStyle) (field : FieldSpec) (name : Ident) :
    List (Verdict → Prop) :=
  under (field.options.markerCount > 1) [(· = .error (.issue .conflictingMarkers))] ++
  (under (field.options.skip = true) (skipRules field name) ++
  (under (IsIdentity field.type) (identityRules style field name) ++
  propertyRules style field name))

/-- All rules for a field. -/
def rules (style : NamingStyle) (field : FieldSpec) : List (Verdict → Prop) :=
  under (field.name = none) [(· = .error (.issue .unnamedField))] ++
    field.name.toList.flatMap (namedRules style field)

section

variable {style : NamingStyle} {field : FieldSpec} {name : Ident} {options : FieldOptions}
  {type : TypeExpr}

/-! ### Taking types apart -/

/-- The argument of a wrapper is found in a type that it wraps, and in no other. -/
theorem argumentOf?_eq_some_iff {wrapper : String} {inner : TypeExpr} :
    type.argumentOf? wrapper = some inner ↔ Wraps wrapper type inner := by
  constructor
  · intro h
    unfold TypeExpr.argumentOf? at h
    split at h
    · split at h
      · rename_i hname
        cases h
        exact ⟨_, _, _, _, _, _, _, rfl, hname⟩
      · cases h
    · cases h
  · rintro ⟨qualifier, leading, before, name, colons, more, trailing, rfl, hname⟩
    exact if_pos hname

/-- No argument is found in a type that is not the wrapper. -/
theorem argumentOf?_eq_none_iff {wrapper : String} :
    type.argumentOf? wrapper = none ↔ ¬ IsWrapper wrapper type := by
  rw [← not_iff_not, not_not, ← ne_eq, Option.ne_none_iff_exists']
  exact exists_congr fun _ => argumentOf?_eq_some_iff

/-- A type has one shape, and this is the one that is worked out. -/
theorem strips_iff {shape : Cardinality} : Strips type shape ↔ shape = .of type := by
  -- Both sides come down to whether the two wrappers are found.
  obtain ⟨element, isOptional, isArray⟩ := shape
  unfold Strips Cardinality.of TypeExpr.optionInner? TypeExpr.vecInner?
  simp only [← argumentOf?_eq_some_iff, ← argumentOf?_eq_none_iff]
  cases hoption : type.argumentOf? "Option" with
  | none =>
      cases hvec : type.argumentOf? "Vec" with
      | none => cases isOptional <;> cases isArray <;> simp [hvec]
      | some inner => cases isOptional <;> cases isArray <;> simp [hvec, eq_comm]
  | some unwrapped =>
      cases hvec : unwrapped.argumentOf? "Vec" with
      | none => cases isOptional <;> cases isArray <;> simp [hvec]
      | some inner => cases isOptional <;> cases isArray <;> simp [hvec, eq_comm]

/-- The check for the type of identities is the rule about it. -/
theorem isNamed_iff : type.isNamed "Identity" = true ↔ IsIdentity type := by
  constructor
  · intro h
    unfold TypeExpr.isNamed at h
    split at h
    · exact ⟨_, _, _, rfl, by simpa using h⟩
    · cases h
  · rintro ⟨leading, before, name, rfl, hname⟩
    simp [TypeExpr.isNamed, hname]

/-- Only a plain path gets an ending, even where this fails. -/
theorem isPlainPath_of_withSuffix {ending : String} {suffixed : Except NameFault TypeExpr}
    (h : type.withSuffix ending = some suffixed) :
    IsPlainPath type := by
  unfold TypeExpr.withSuffix at h
  split at h
  · exact ⟨_, _, _, rfl⟩
  · cases h

/-- A type that is no plain path gets no ending, and every plain path gets one or fails. -/
theorem withSuffix_eq_none_iff {ending : String} :
    type.withSuffix ending = none ↔ ¬ IsPlainPath type := by
  constructor
  · rintro hnone ⟨leading, before, last, rfl⟩
    cases hnone
  · intro hnot
    cases hsuffix : type.withSuffix ending with
    | none => rfl
    | some suffixed => exact absurd (isPlainPath_of_withSuffix hsuffix) hnot

/-- A type with an ending is the path with the ending on its last name. -/
theorem withSuffix_eq_ok_iff {ending : String} {suffixed : TypeExpr} :
    type.withSuffix ending = some (.ok suffixed) ↔ Suffixed ending type suffixed := by
  constructor
  · intro h
    obtain ⟨leading, before, last, rfl⟩ := isPlainPath_of_withSuffix h
    rw [TypeExpr.withSuffix, Option.some.injEq] at h
    cases hname : last.name.withSuffix ending with
    | error fault => rw [hname] at h; cases h
    | ok name =>
        rw [hname] at h
        cases h
        exact ⟨leading, before, last, name, rfl, hname, rfl⟩
  · rintro ⟨leading, before, last, name, rfl, hname, rfl⟩
    rw [TypeExpr.withSuffix, hname]
    rfl

/-- A plain path gets no ending if the longer name cannot be built. -/
theorem withSuffix_eq_error_iff {ending : String} {fault : NameFault} :
    type.withSuffix ending = some (.error fault) ↔ Unsuffixable ending type fault := by
  constructor
  · intro h
    obtain ⟨leading, before, last, rfl⟩ := isPlainPath_of_withSuffix h
    rw [TypeExpr.withSuffix, Option.some.injEq] at h
    cases hname : last.name.withSuffix ending with
    | error other =>
        rw [hname] at h
        cases h
        exact ⟨leading, before, last, rfl, hname⟩
    | ok name => rw [hname] at h; cases h
  · rintro ⟨leading, before, last, rfl, hname⟩
    rw [TypeExpr.withSuffix, hname]
    rfl

/-! ### Options -/

/-- A field is marked if it has at least one marker. -/
theorem markerCount_pos_iff : options.markerCount > 0 ↔ Marked options := by
  unfold FieldOptions.markerCount Marked
  rw [gt_iff_lt, List.count_pos_iff]
  simp only [List.mem_cons, List.not_mem_nil, or_false]
  exact or_congr eq_comm (or_congr eq_comm eq_comm)

/-- A field has options if it is marked, boxed or given a name for its record field. -/
theorem hasOptions_iff : options.hasOptions = true ↔
    Marked options ∨ options.boxed = true ∨ options.modelName ≠ none := by
  simp only [FieldOptions.hasOptions, Bool.or_eq_true, decide_eq_true_eq, markerCount_pos_iff,
    Option.isSome_iff_ne_none, or_assoc]

/-- With at most one marker, each excludes the others. -/
theorem exclusive_of_markerCount (h : ¬ options.markerCount > 1) :
    (options.intEnum = true → options.stringEnum = false ∧ options.nested = false) ∧
    (options.stringEnum = true → options.intEnum = false ∧ options.nested = false) ∧
    (options.nested = true → options.intEnum = false ∧ options.stringEnum = false) := by
  unfold FieldOptions.markerCount at h
  cases hstring : options.stringEnum <;> cases hint : options.intEnum <;>
    cases hnested : options.nested <;> simp_all

/-! ### Names and kinds -/

/-- The name of a record field is given and wrong, or it cannot be built, or there is
one. -/
theorem modelName_cases (style : NamingStyle) (options : FieldOptions) (name : Ident) :
    (∃ text, Misnamed options text ∧
      modelName options name style = .error (.issue (.invalidModelName text))) ∨
    (∀ text, ¬ Misnamed options text) ∧
      ((∃ fault, Unnameable style options name fault ∧
        modelName options name style = .error (.fault fault)) ∨
      (∀ fault, ¬ Unnameable style options name fault) ∧
        ∃ model, NamedAs style options name model ∧ modelName options name style = .ok model) := by
  -- A name that is given is never built, so it can be wrong but not unnameable.
  cases hgiven : options.modelName with
  | some text =>
      cases hsource : Ident.ofSource? text with
      | none => exact .inl ⟨text, ⟨hgiven, hsource⟩, by simp [modelName, hgiven, hsource]⟩
      | some model =>
          have hmodel : modelName options name style = .ok model := by
            simp [modelName, hgiven, hsource]
          refine .inr ⟨?_, .inr ⟨?_, model, .inl ⟨text, hgiven, hsource⟩, hmodel⟩⟩
          · rintro other ⟨hother, hnone⟩
            cases hgiven.symm.trans hother
            simp [hsource] at hnone
          · rintro fault ⟨hnone, _⟩
            simp [hgiven] at hnone
  | none =>
      refine .inr ⟨?_, ?_⟩
      · rintro text ⟨hsome, _⟩
        simp [hgiven] at hsome
      · by_cases hstyle : style = .preserve
        · have hmodel : modelName options name style = .ok name := by
            simp [modelName, hgiven, hstyle]
          refine .inr ⟨?_, name, .inr ⟨hgiven, .inl ⟨hstyle, rfl⟩⟩, hmodel⟩
          rintro fault ⟨_, hother, _⟩
          exact hother hstyle
        · have hmodel : modelName options name style
              = (Ident.ofText (style.apply name.text)).mapError .fault := by
            simp [modelName, hgiven, hstyle]
          rw [hmodel]
          cases hname : Ident.ofText (style.apply name.text) with
          | error fault => exact .inl ⟨fault, ⟨hgiven, hstyle, hname⟩, rfl⟩
          | ok model =>
              refine .inr ⟨?_, model, .inr ⟨hgiven, .inr ⟨hstyle, hname⟩⟩, rfl⟩
              rintro fault ⟨_, _, hfault⟩
              rw [hname] at hfault
              cases hfault

/-- A nested element is no path, or its types cannot be named, or there is a kind. -/
theorem propertyKind_cases (h : ¬ options.markerCount > 1) (element : TypeExpr) :
    (options.nested = true ∧ ¬ IsPlainPath element ∧
      propertyKind options element = .error (.issue .nestedUnnamed)) ∨
    (options.nested = true → IsPlainPath element) ∧
      ((options.nested = true ∧ ∃ fault, Unbuildable element fault ∧
        propertyKind options element = .error (.fault fault)) ∨
      (options.nested = true → ∀ fault, ¬ Unbuildable element fault) ∧
        ∃ kind, HasKind options element kind ∧ propertyKind options element = .ok kind) := by
  obtain ⟨_, _, hexclusive⟩ := exclusive_of_markerCount h
  cases hnested : options.nested with
  | false =>
      refine .inr ⟨nofun, .inr ⟨nofun, ?_⟩⟩
      unfold propertyKind
      by_cases hint : options.intEnum = true
      · exact ⟨.intEnum, hint, if_pos hint⟩
      · by_cases hstring : options.stringEnum = true
        · exact ⟨.stringEnum, hstring, by simp [hint, hstring]⟩
        · exact ⟨.primitive, by simp [HasKind, Marked, hint, hstring, hnested],
            by simp [hint, hstring, hnested]⟩
  | true =>
      obtain ⟨hint, hstring⟩ := hexclusive hnested
      cases hrecord : element.withSuffix "Record" with
      | none =>
          refine .inl ⟨rfl, withSuffix_eq_none_iff.mp hrecord, ?_⟩
          simp [propertyKind, hint, hstring, hnested, hrecord]
      | some record =>
          have hpath := isPlainPath_of_withSuffix hrecord
          refine .inr ⟨fun _ => hpath, ?_⟩
          cases htranslator : element.withSuffix "Translator" with
          | none => exact absurd hpath (withSuffix_eq_none_iff.mp htranslator)
          | some translator =>
              have hkind : propertyKind options element = (do
                  let record ← record.mapError .fault
                  let translator ← translator.mapError .fault
                  return .nested record translator) := by
                simp [propertyKind, hint, hstring, hnested, hrecord, htranslator]
              rw [hkind]
              -- The name of the record is built first, so its fault is the one that shows.
              cases record with
              | error fault =>
                  have hfault := withSuffix_eq_error_iff.mp hrecord
                  exact .inl ⟨rfl, fault, .inl hfault, rfl⟩
              | ok record =>
                  have hnamed := withSuffix_eq_ok_iff.mp hrecord
                  cases translator with
                  | error fault =>
                      have hfault := withSuffix_eq_error_iff.mp htranslator
                      exact .inl ⟨rfl, fault, .inr ⟨⟨record, hnamed⟩, hfault⟩, rfl⟩
                  | ok translator =>
                      have htranslated := withSuffix_eq_ok_iff.mp htranslator
                      refine .inr ⟨?_, .nested record translator,
                        ⟨hnested, hnamed, htranslated⟩, rfl⟩
                      rintro _ fault (hfault | ⟨_, hfault⟩)
                      · rw [withSuffix_eq_error_iff.mpr hfault] at hrecord
                        cases hrecord
                      · rw [withSuffix_eq_error_iff.mpr hfault] at htranslator
                        cases htranslator

/-- The check of boxes lets the elements pass that can be boxed. -/
theorem isBoxable_iff (h : ¬ options.markerCount > 1) {element : TypeExpr} {kind : PropertyKind}
    (hkind : HasKind options element kind) :
    isBoxable kind (if kind.isPrimitive then ScalarClass.of element else .other) = true ↔
      Boxable options element := by
  obtain ⟨_, hstring, hnested⟩ := exclusive_of_markerCount h
  unfold Boxable Marked
  -- Each kind comes from its own marker, and at most one is set, so the others are out of the
  -- way.
  cases kind with
  | intEnum =>
      have hint : options.intEnum = true := hkind
      simp [isBoxable, hint]
  | stringEnum =>
      have hset : options.stringEnum = true := hkind
      simp [isBoxable, hset, (hstring hset).1]
  | nested record translator =>
      have hset : options.nested = true := hkind.1
      simp [isBoxable, hset, (hnested hset).1]
  | primitive =>
      have hnone : ¬ Marked options := hkind
      have hint : options.intEnum = false :=
        Bool.eq_false_iff.mpr fun hint => hnone (.inr (.inl hint))
      simp only [isBoxable, PropertyKind.isPrimitive, if_true, hint, Bool.false_eq_true, false_or]
      unfold Marked at hnone
      cases ScalarClass.of element <;> simp_all

/-- The check of boxes as it goes through its cases. -/
theorem checkBoxed_cases (options : FieldOptions) (kind : PropertyKind) (scalar : ScalarClass)
    (isArray : Bool) :
    (options.boxed = true ∧ isArray = true ∧
      checkBoxed options kind scalar isArray = .error (.issue .boxedArray)) ∨
    (options.boxed = true ∧ isArray = false ∧ isBoxable kind scalar = false ∧
      checkBoxed options kind scalar isArray = .error (.issue .boxedKind)) ∨
    ((options.boxed = true → isArray = false ∧ isBoxable kind scalar = true) ∧
      checkBoxed options kind scalar isArray = .ok ()) := by
  unfold checkBoxed
  cases options.boxed with
  | false => exact .inr (.inr ⟨nofun, rfl⟩)
  | true =>
      cases isArray with
      | true => exact .inl ⟨rfl, rfl, rfl⟩
      | false =>
          cases hboxable : isBoxable kind scalar with
          | false => exact .inr (.inl ⟨rfl, rfl, rfl, rfl⟩)
          | true => exact .inr (.inr ⟨fun _ => ⟨rfl, rfl⟩, rfl⟩)

/-! ### Keeping to the rules -/

/-- The property of a field with a kind and the name of a record field. -/
def propertyWith (field : FieldSpec) (name : Ident) (kind : PropertyKind) (model : Ident) :
    Property where
  name
  modelName := model
  declared := field.type
  element := (Cardinality.of field.type).element
  kind
  isArray := (Cardinality.of field.type).isArray
  isOptional := (Cardinality.of field.type).isOptional
  scalar := if kind.isPrimitive then ScalarClass.of (Cardinality.of field.type).element
    else .other
  boxed := field.options.boxed
  doc := field.doc

/-- A property whose kind is refused is refused for the same reason. -/
theorem propertyOf_of_error {error : FieldError}
    (h : propertyKind field.options (Cardinality.of field.type).element = .error error) :
    propertyOf field name style = .error error := by
  simp only [propertyOf, h]
  rfl

/-- Once the kind is known, the box is checked and then the name is looked at. -/
theorem propertyOf_of_kind {kind : PropertyKind}
    (h : propertyKind field.options (Cardinality.of field.type).element = .ok kind) :
    propertyOf field name style
      = (do
        checkBoxed field.options kind
          (if kind.isPrimitive then ScalarClass.of (Cardinality.of field.type).element else .other)
          (Cardinality.of field.type).isArray
        let model ← modelName field.options name style
        return propertyWith field name kind model) := by
  simp only [propertyOf, h]
  rfl

/-- Under a condition that holds, the rules for it decide. -/
theorem Decided.under {verdict : Verdict} {condition : Prop} {rules : List (Verdict → Prop)}
    (h : condition) (decided : Decided verdict rules) (others : List (Verdict → Prop)) :
    Decided verdict (under condition rules ++ others) := by
  induction decided with
  | here given => exact .here ⟨h, given⟩
  | later silent _ ih => exact .later (fun other hother => silent other hother.2) ih

/-- The rules for a condition that does not hold are passed over. -/
theorem Decided.past {verdict : Verdict} {condition : Prop} (h : ¬ condition)
    (rules : List (Verdict → Prop)) {others : List (Verdict → Prop)}
    (decided : Decided verdict others) :
    Decided verdict (Schema.under condition rules ++ others) := by
  induction rules with
  | nil => exact decided
  | cons rule rest ih => exact .later (fun _ hrule => h hrule.1) ih

/-- A rule that only refuses gives its issue. -/
theorem decided_refused (issue : Issue) :
    Decided (.error (.issue issue)) [(· = .error (.issue issue))] :=
  .here rfl

/-- A field that lacks nothing but the name of its record field is decided by this. -/
theorem decided_naming {last : Verdict → Prop} {next : Ident → FieldClass}
    (hlast : ∀ model, NamedAs style options name model → last (.ok (next model))) :
    Decided ((modelName options name style).map next) (namingRules style options name last) := by
  rcases modelName_cases style options name with
    ⟨text, hwrong, hmodel⟩ | ⟨hright, ⟨fault, hfault, hmodel⟩ | ⟨hnone, model, hnamed, hmodel⟩⟩
  · rw [hmodel]
    exact .here ⟨text, hwrong, rfl⟩
  · rw [hmodel]
    refine .later (fun _ ⟨text, hwrong, _⟩ => hright text hwrong) ?_
    exact .here ⟨fault, hfault, rfl⟩
  · rw [hmodel]
    refine .later (fun _ ⟨text, hwrong, _⟩ => hright text hwrong) ?_
    refine .later (fun _ ⟨fault, hfault, _⟩ => hnone fault hfault) ?_
    exact .here (hlast model hnamed)

/-- A field that is skipped may have no other options. -/
theorem decided_skip (field : FieldSpec) (name : Ident) :
    Decided
      (if field.options.hasOptions then .error (.issue .skipWithOptions)
      else .ok (.skipped ⟨name, field.type⟩))
      (skipRules field name) := by
  by_cases hoptions : field.options.hasOptions = true
  · rw [if_pos hoptions]
    exact .here ⟨hasOptions_iff.mp hoptions, rfl⟩
  · rw [if_neg hoptions]
    exact .later (fun _ h => hoptions (hasOptions_iff.mpr h.1)) (.here rfl)

/-- An identity may have a name for its record field, but no other options. -/
theorem decided_identity (style : NamingStyle) (field : FieldSpec) (name : Ident) :
    Decided
      (if field.options.markerCount > 0 || field.options.boxed then
        .error (.issue .identityWithOptions)
      else (modelName field.options name style).map (.identity name))
      (identityRules style field name) := by
  have hset : (field.options.markerCount > 0 || field.options.boxed) = true ↔
      Marked field.options ∨ field.options.boxed = true := by
    rw [Bool.or_eq_true, decide_eq_true_eq, markerCount_pos_iff]
  by_cases hoptions : Marked field.options ∨ field.options.boxed = true
  · rw [if_pos (hset.mpr hoptions)]
    exact .here ⟨hoptions, rfl⟩
  · rw [if_neg (mt hset.mp hoptions)]
    refine .later (fun _ h => hoptions h.1) (decided_naming fun model hnamed => ?_)
    exact ⟨model, hnamed, rfl⟩

/-- Once the kind of a property is known, only its name can be wrong. -/
theorem decided_describes {kind : PropertyKind}
    (hkind : HasKind field.options (Cardinality.of field.type).element kind) :
    Decided
      ((modelName field.options name style >>= fun model =>
        pure (propertyWith field name kind model)).map .property)
      (namingRules style field.options name fun verdict => ∃ property,
        Describes style field name property ∧ verdict = .ok (.property property)) := by
  have hdescribes : ∀ model, NamedAs style field.options name model →
      Describes style field name (propertyWith field name kind model) :=
    fun model hnamed => ⟨rfl, hnamed, rfl, strips_iff.mpr rfl, hkind, rfl, rfl, rfl⟩
  have hverdict : (modelName field.options name style >>= fun model =>
      pure (propertyWith field name kind model)).map FieldClass.property
        = (modelName field.options name style).map fun model =>
            .property (propertyWith field name kind model) := by
    cases modelName field.options name style <;> rfl
  rw [hverdict]
  exact decided_naming fun model hnamed => ⟨_, hdescribes model hnamed, rfl⟩

/-- Once the kind of a property is known, its box is looked at and then its name. -/
theorem decided_boxed (hone : ¬ field.options.markerCount > 1) {kind : PropertyKind}
    (hkind : HasKind field.options (Cardinality.of field.type).element kind) :
    Decided
      ((checkBoxed field.options kind
          (if kind.isPrimitive then ScalarClass.of (Cardinality.of field.type).element else .other)
          (Cardinality.of field.type).isArray >>= fun _ =>
        modelName field.options name style >>= fun model =>
          pure (propertyWith field name kind model)).map .property)
      (boxRules field ++ namingRules style field.options name fun verdict => ∃ property,
        Describes style field name property ∧ verdict = .ok (.property property)) := by
  have hown : Strips field.type (.of field.type) := strips_iff.mpr rfl
  -- A list in a box is refused before the element is looked at, so the second rule has to rule
  -- the first one out.
  rcases checkBoxed_cases field.options kind
    (if kind.isPrimitive then ScalarClass.of (Cardinality.of field.type).element else .other)
    (Cardinality.of field.type).isArray with
    ⟨hboxed, harray, hcheck⟩ | ⟨hboxed, hsingle, hkept, hcheck⟩ | ⟨hfine, hcheck⟩
  · rw [hcheck]
    exact .here ⟨hboxed, ⟨_, hown, harray⟩, rfl⟩
  · rw [hcheck]
    refine .later ?_ (.here ⟨hboxed, ⟨_, hown, ?_⟩, rfl⟩)
    · rintro other ⟨_, ⟨shape, hshape, harray⟩, _⟩
      rw [strips_iff.mp hshape, hsingle] at harray
      cases harray
    · rw [← isBoxable_iff hone hkind, hkept]
      exact Bool.false_ne_true
  · rw [hcheck]
    refine .later ?_ (.later ?_ (decided_describes hkind))
    · rintro other ⟨hboxed, ⟨shape, hshape, harray⟩, _⟩
      rw [strips_iff.mp hshape, (hfine hboxed).1] at harray
      cases harray
    · rintro other ⟨hboxed, ⟨shape, hshape, hnot⟩, _⟩
      rw [strips_iff.mp hshape] at hnot
      exact hnot ((isBoxable_iff hone hkind).mp (hfine hboxed).2)

/-- A field that can only be a property is decided by their rules. -/
theorem decided_property (hone : ¬ field.options.markerCount > 1) :
    Decided ((propertyOf field name style).map .property) (propertyRules style field name) := by
  -- The type has one shape, so a rule that speaks of some shape speaks of this one.
  have hown : Strips field.type (.of field.type) := strips_iff.mpr rfl
  rcases propertyKind_cases hone (Cardinality.of field.type).element with
    ⟨hnested, hpath, hkind⟩ |
    ⟨hpath, ⟨hnested, fault, hfault, hkind⟩ | ⟨hnone, kind, hkinds, hkind⟩⟩
  · rw [propertyOf_of_error hkind]
    exact .here ⟨hnested, ⟨_, hown, hpath⟩, rfl⟩
  · rw [propertyOf_of_error hkind]
    refine .later ?_ (.here ⟨hnested, _, fault, hown, hfault, rfl⟩)
    rintro other ⟨_, ⟨shape, hshape, hnot⟩, _⟩
    rw [strips_iff.mp hshape] at hnot
    exact hnot (hpath hnested)
  · rw [propertyOf_of_kind hkind]
    refine .later ?_ (.later ?_ (decided_boxed hone hkinds))
    · rintro other ⟨hnested, ⟨shape, hshape, hnot⟩, _⟩
      rw [strips_iff.mp hshape] at hnot
      exact hnot (hpath hnested)
    · rintro other ⟨hnested, shape, fault, hshape, hfault, _⟩
      rw [strips_iff.mp hshape] at hfault
      exact hnone hnested fault hfault

/-- A field with a name is decided by the rules for such fields. -/
theorem decided_of_name (hname : field.name = some name) :
    Decided (classify style field) (namedRules style field name) := by
  unfold classify
  rw [hname]
  dsimp only
  -- The checks and the rules stand in the same order: what a check lets pass, the rules under
  -- it do not decide.
  by_cases hmarkers : field.options.markerCount > 1
  · rw [if_pos hmarkers]
    exact .under hmarkers (decided_refused .conflictingMarkers) _
  · rw [if_neg hmarkers]
    refine .past hmarkers _ ?_
    by_cases hskip : field.options.skip = true
    · rw [if_pos hskip]
      exact .under hskip (decided_skip field name) _
    · rw [if_neg hskip]
      refine .past hskip _ ?_
      by_cases hidentity : IsIdentity field.type
      · rw [if_pos (isNamed_iff.mpr hidentity)]
        exact .under hidentity (decided_identity style field name) _
      · rw [if_neg (mt isNamed_iff.mp hidentity)]
        exact .past hidentity _ (decided_property hmarkers)

/-- The shape of a property is that of its declared type. -/
theorem strips_of_classify {property : Property}
    (h : classify style field = .ok (.property property)) :
    Strips field.type ⟨property.element, property.isOptional, property.isArray⟩ := by
  obtain ⟨name, hproperty⟩ := propertyOf_of_classify h
  obtain ⟨kind, _, hproperty⟩ := exists_of_bind_eq_ok hproperty
  obtain ⟨_, _, hproperty⟩ := exists_of_bind_eq_ok hproperty
  obtain ⟨model, _, hproperty⟩ := exists_of_bind_eq_ok hproperty
  cases hproperty
  exact strips_iff.mpr rfl

/-- A type with one name at its end has no other. -/
theorem Wraps.not_isWrapper {wrapper other : String} {inner : TypeExpr}
    (h : Wraps wrapper type inner) (hne : wrapper ≠ other) : ¬ IsWrapper other type := by
  obtain ⟨qualifier, leading, before, name, colons, more, trailing, rfl, hname⟩ := h
  rintro ⟨found, _, _, _, _, _, _, _, heq, hother⟩
  cases heq
  exact hne (hname.symm.trans hother)

/-- Both wrappers are taken off in one order: `Option` first, and `Vec` from what is
left. -/
theorem strips_forms {element : TypeExpr} (hoption : ¬ IsWrapper "Option" element)
    (hvec : ¬ IsWrapper "Vec" element) :
    (type = element → Strips type ⟨element, false, false⟩) ∧
    (Wraps "Option" type element → Strips type ⟨element, true, false⟩) ∧
    (Wraps "Vec" type element → Strips type ⟨element, false, true⟩) ∧
    (∀ list, Wraps "Option" type list → Wraps "Vec" list element →
      Strips type ⟨element, true, true⟩) := by
  refine ⟨?_, ?_, ?_, ?_⟩
  · rintro rfl
    exact ⟨type, ⟨rfl, hoption⟩, rfl, hvec⟩
  · intro hwraps
    exact ⟨element, hwraps, rfl, hvec⟩
  · intro hwraps
    exact ⟨type, ⟨rfl, hwraps.not_isWrapper (by decide)⟩, hwraps⟩
  · intro list hwraps hlist
    exact ⟨list, hwraps, hlist⟩

end

/-- A field is classified by the first rule that applies. A property is optional if its
declared type is an `Option` and a list if this, or what is inside, is a `Vec`; its
element is what remains. -/
theorem classify_decided (style : NamingStyle) (field : FieldSpec) :
    Decided (classify style field) (rules style field) ∧
    ∀ property, classify style field = .ok (.property property) →
      ∀ element, ¬ IsWrapper "Option" element → ¬ IsWrapper "Vec" element →
        let shape : Cardinality := ⟨property.element, property.isOptional, property.isArray⟩
        (field.type = element → shape = ⟨element, false, false⟩) ∧
        (Wraps "Option" field.type element → shape = ⟨element, true, false⟩) ∧
        (Wraps "Vec" field.type element → shape = ⟨element, false, true⟩) ∧
        (∀ list, Wraps "Option" field.type list → Wraps "Vec" list element →
          shape = ⟨element, true, true⟩) := by
  refine ⟨?_, ?_⟩
  · unfold rules
    -- A field without a name is refused before anything else is looked at.
    cases hname : field.name with
    | none =>
        have hclassify : classify style field = .error (.issue .unnamedField) := by
          rw [classify, hname]
        rw [hclassify]
        exact .under rfl (decided_refused .unnamedField) _
    | some name =>
        refine .past nofun _ ?_
        simpa using decided_of_name hname
  · intro property hproperty element hoption hvec
    have hown := strips_iff.mp (strips_of_classify hproperty)
    obtain ⟨hplain, hmaybe, hmany, hboth⟩ := strips_forms hoption hvec
    refine ⟨?_, ?_, ?_, ?_⟩
    · exact fun h => hown.trans (strips_iff.mp (hplain h)).symm
    · exact fun h => hown.trans (strips_iff.mp (hmaybe h)).symm
    · exact fun h => hown.trans (strips_iff.mp (hmany h)).symm
    · exact fun list h hlist => hown.trans (strips_iff.mp (hboth list h hlist)).symm

/-! ### Fields without options -/

namespace Sample

/-- A field without options. -/
def plainField (name : String) (type : TypeExpr) : FieldSpec :=
  ⟨some (.plain name), type, none, {}⟩

/-- A type of numbers. -/
def number : TypeExpr :=
  .path none false [] (.bare (.plain "u8"))

/-- A type with one argument, named by its full path. -/
def wrapped (home wrapper : String) (inner : TypeExpr) : TypeExpr :=
  .path none true [.bare (.plain "std"), .bare (.plain home)]
    (.mk (.plain wrapper) (.angled false [.type inner] false))

/-- A type that is named by its full path is wrapped as well as one with a short name. -/
theorem wraps_wrapped (home wrapper : String) (inner : TypeExpr) :
    Wraps wrapper (wrapped home wrapper inner) inner :=
  ⟨_, _, _, _, _, _, _, rfl, rfl⟩

end Sample

/-- An optional list of numbers is a property with numbers as its elements, also if its
wrappers are named by their full paths. -/
theorem classify_decided_numbers :
    ∃ property, classify .preserve (Sample.plainField "votes"
        (Sample.wrapped "option" "Option" (Sample.wrapped "vec" "Vec" Sample.number)))
          = .ok (.property property) ∧
      property.element = Sample.number ∧ property.isOptional = true ∧
        property.isArray = true := by
  obtain ⟨_, hshape⟩ := classify_decided .preserve (Sample.plainField "votes"
    (Sample.wrapped "option" "Option" (Sample.wrapped "vec" "Vec" Sample.number)))
  have hoption : ¬ IsWrapper "Option" Sample.number := argumentOf?_eq_none_iff.mp rfl
  have hvec : ¬ IsWrapper "Vec" Sample.number := argumentOf?_eq_none_iff.mp rfl
  obtain ⟨_, _, _, hboth⟩ := hshape _ rfl Sample.number hoption hvec
  have hnumbers := hboth _ (Sample.wraps_wrapped _ _ _) (Sample.wraps_wrapped _ _ _)
  exact ⟨_, rfl, congrArg Cardinality.element hnumbers, congrArg Cardinality.isOptional hnumbers,
    congrArg Cardinality.isArray hnumbers⟩

/-- A field without options that is not the identity is no property if the name of its
record field cannot be built: in camel case nothing but the digit is left of this name. -/
theorem classify_underscore_digit :
    (Sample.plainField "_1" Sample.number).name = some (.plain "_1") ∧
    (Sample.plainField "_1" Sample.number).options = {} ∧
    ¬ IsIdentity (Sample.plainField "_1" Sample.number).type ∧
    classify .camel (Sample.plainField "_1" Sample.number) = .error (.fault .number) ∧
    ∀ property,
      classify .camel (Sample.plainField "_1" Sample.number) ≠ .ok (.property property) := by
  have happly : NamingStyle.camel.apply "_1" = "1" := by decide +kernel
  have hmodel : modelName {} (.plain "_1") .camel = .error (.fault .number) := by
    show (Ident.ofText (NamingStyle.camel.apply "_1")).mapError FieldError.fault = _
    rw [happly]
    rfl
  -- No check before the name applies, so the field fails as its name does.
  have hclassify : classify .camel (Sample.plainField "_1" Sample.number)
      = .error (.fault .number) := by
    show (modelName {} (.plain "_1") .camel >>= fun model =>
      pure (propertyWith (Sample.plainField "_1" Sample.number) (.plain "_1") .primitive model)).map
        FieldClass.property = _
    rw [hmodel]
    rfl
  refine ⟨rfl, rfl, ?_, hclassify, ?_⟩
  · exact mt isNamed_iff.mpr (by decide)
  · intro property hproperty
    rw [hclassify] at hproperty
    cases hproperty

end Recordsmith.Schema

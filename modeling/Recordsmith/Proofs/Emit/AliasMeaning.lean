import Mathlib.Logic.Function.Basic
import Recordsmith.Proofs.Emit.NestedNames

/-!
# `Recordsmith.Proofs.Emit.AliasMeaning`: what the generated alias means

The alias of a domain type has a parameter, the type of the store, and its body mentions the
domain type, the record and the translator by their names. These names come from the
declaration and the name of the parameter does not, so a name may be taken for the parameter.
What an alias means is therefore said by what its names mean (`TypeTerm.meaning`), in a scope
where the parameter hides any other type of the same name (`Scope.bind`).

`alias_means_repository_iff` says when the alias means what it is there for: if and only if
neither the declaration nor a name that is given for the record or the translator is `S`, raw
or not. Names that do not mention the parameter are out of its reach
(`TypeTerm.meanings_bind`), and names that are built are longer than the parameter
(`text_eq_parameter_iff`). The other way round, a scope that tells the store from everything
else finds each name that is taken for the parameter (`markingScope`).
-/

set_option autoImplicit false

namespace Recordsmith

open Recordsmith.Source Recordsmith.Source.Tree Recordsmith.Schema Recordsmith.Emit

namespace Emit

/-! ### Names and what they mean -/

/-- What the names in a type mean: those in scope, which are told apart by their texts whether
they are raw or not, and those of the run-time support, with arguments. -/
structure Scope (τ : Type) where
  named : String → τ
  support : String → List τ → τ

/-- A scope with one more name, which hides any other of the same text. -/
def Scope.bind {τ : Type} (scope : Scope τ) (name : Ident) (type : τ) : Scope τ :=
  { scope with named := Function.update scope.named name.text type }

section

variable {τ : Type} (scope : Scope τ) (name : Ident) (type : τ)

/-- The new name means the new type, and every other name what it meant before. -/
theorem Scope.bind_named (text : String) :
    (scope.bind name type).named text = if text = name.text then type else scope.named text :=
  Function.update_apply scope.named name.text type text

/-- The run-time support is not hidden by a new name. -/
theorem Scope.bind_support : (scope.bind name type).support = scope.support := rfl

end

mutual

/-- The type that is meant. -/
def TypeTerm.meaning {τ : Type} (scope : Scope τ) : TypeTerm → τ
  | .named name => scope.named name.text
  | .supported path arguments => scope.support path (TypeTerm.meanings scope arguments)

/-- The types that are meant. -/
def TypeTerm.meanings {τ : Type} (scope : Scope τ) : List TypeTerm → List τ
  | [] => []
  | term :: rest => TypeTerm.meaning scope term :: TypeTerm.meanings scope rest

end

mutual

/-- The texts of the names in scope that a type mentions. -/
def TypeTerm.names : TypeTerm → List String
  | .named name => [name.text]
  | .supported _ arguments => TypeTerm.allNames arguments

/-- The texts of the names in scope that types mention. -/
def TypeTerm.allNames : List TypeTerm → List String
  | [] => []
  | term :: rest => TypeTerm.names term ++ TypeTerm.allNames rest

end

section

variable {τ : Type} (scope : Scope τ) {name : Ident} (type : τ)

mutual

/-- A name that is not mentioned does not matter. -/
theorem TypeTerm.meaning_bind : ∀ {term : TypeTerm}, name.text ∉ term.names →
    term.meaning (scope.bind name type) = term.meaning scope
  | .named other, h => by
      have hne : other.text ≠ name.text := by
        intro heq
        exact h (List.mem_singleton.mpr heq.symm)
      rw [TypeTerm.meaning, TypeTerm.meaning, Scope.bind_named, if_neg hne]
  | .supported path arguments, h => by
      rw [TypeTerm.meaning, TypeTerm.meaning, TypeTerm.meanings_bind h, Scope.bind_support]

/-- A name that none of some types mentions does not matter for them. -/
theorem TypeTerm.meanings_bind : ∀ {terms : List TypeTerm}, name.text ∉ TypeTerm.allNames terms →
    TypeTerm.meanings (scope.bind name type) terms = TypeTerm.meanings scope terms
  | [], _ => rfl
  | term :: rest, h => by
      rw [TypeTerm.allNames, List.mem_append, not_or] at h
      rw [TypeTerm.meanings, TypeTerm.meanings, TypeTerm.meaning_bind h.1,
        TypeTerm.meanings_bind h.2]

end

end

/-- The meanings of types are those of each, in order. -/
theorem TypeTerm.meanings_append {τ : Type} (scope : Scope τ) (terms others : List TypeTerm) :
    TypeTerm.meanings scope (terms ++ others)
      = TypeTerm.meanings scope terms ++ TypeTerm.meanings scope others := by
  induction terms with
  | nil => rfl
  | cons term rest ih =>
      rw [List.cons_append, TypeTerm.meanings, TypeTerm.meanings, ih, List.cons_append]

/-! ### Aliases -/

/-- The type that an alias is with an argument, or without. The argument takes the place of the
parameter. A default is looked up where the parameter has no type yet, so a default that
mentions it means nothing. -/
def AliasItem.instantiate {τ : Type} (item : AliasItem) (scope : Scope τ) : Option τ → Option τ
  | some store => some (item.body.meaning (scope.bind item.parameter store))
  | none =>
    if item.parameter.text ∈ item.default.names then none
    else some (item.body.meaning (scope.bind item.parameter (item.default.meaning scope)))

/-- The types that the alias of a schema is about. -/
def ownTypes (schema : Schema) : List TypeTerm :=
  [.named schema.name, .named schema.record, .named schema.translator]

/-- The type of repositories for the types of a schema, with a store. -/
def Scope.repository {τ : Type} (scope : Scope τ) (schema : Schema) (store : τ) : τ :=
  scope.support "Dao" [scope.named schema.name.text, scope.named schema.record.text,
    scope.named schema.translator.text, store]

/-- The type of stores in memory for the records of a schema. -/
def Scope.memoryStore {τ : Type} (scope : Scope τ) (schema : Schema) : τ :=
  scope.support "MemoryStore" [scope.named schema.record.text]

/-- Whether an alias means what it is there for, whatever names mean: with any type of stores
it is that of repositories with such a store, and alone it is that of repositories with a
store in memory. -/
def AliasItem.MeansRepository (item : AliasItem) (schema : Schema) : Prop :=
  ∀ (τ : Type) (scope : Scope τ),
    (∀ store, item.instantiate scope (some store) = some (scope.repository schema store)) ∧
    item.instantiate scope none = some (scope.repository schema (scope.memoryStore schema))

/-- With a store, the alias has its own types as the scope with the parameter finds them, and
the store behind them. -/
theorem AliasItem.instantiate_some {τ : Type} (schema : Schema) (scope : Scope τ) (store : τ) :
    (AliasItem.of schema).instantiate scope (some store)
      = some (scope.support "Dao"
          (TypeTerm.meanings (scope.bind (.plain "S") store) (ownTypes schema) ++ [store])) := by
  have hparameter : TypeTerm.meaning (scope.bind (.plain "S") store) (.named (.plain "S"))
      = store := by
    rw [TypeTerm.meaning, Scope.bind_named, if_pos rfl]
  have hbody : (AliasItem.of schema).body
      = .supported "Dao" (ownTypes schema ++ [.named (.plain "S")]) := rfl
  have hbind : (AliasItem.of schema).parameter = .plain "S" := rfl
  rw [instantiate, hbody, hbind, TypeTerm.meaning, TypeTerm.meanings_append, TypeTerm.meanings,
    hparameter, TypeTerm.meanings, Scope.bind_support]

/-- Alone, the alias is what it is with a store in memory, unless the record is named as the
parameter. -/
theorem AliasItem.instantiate_none {τ : Type} (schema : Schema) (scope : Scope τ)
    (h : schema.record.text ≠ "S") :
    (AliasItem.of schema).instantiate scope none
      = (AliasItem.of schema).instantiate scope (some (scope.memoryStore schema)) := by
  have hnames : "S" ∉ (AliasItem.of schema).default.names := by
    intro hmem
    exact h (List.mem_singleton.mp hmem).symm
  exact if_neg hnames

/-- A scope in which a type is a row of marks, one for each name in it, and no name is marked. -/
def markingScope : Scope (List Bool) :=
  ⟨fun _ => [false], fun _ arguments => arguments.flatten⟩

/-- An alias means what it is there for unless its parameter is among the names that it
mentions. -/
theorem AliasItem.meansRepository_iff (schema : Schema) :
    (AliasItem.of schema).MeansRepository schema ↔ "S" ∉ TypeTerm.allNames (ownTypes schema) := by
  constructor
  · intro h hmem
    -- Where only the store is marked, a name that is taken for it is marked too.
    have hsome := (h _ markingScope).1 [true]
    rw [instantiate_some] at hsome
    have hmarked : ∀ text, (markingScope.bind (.plain "S") [true]).named text
        = [decide (text = "S")] := by
      intro text
      rw [Scope.bind_named]
      by_cases heq : text = "S"
      · simp [heq, Ident.plain]
      · simp [heq, Ident.plain, markingScope]
    simp only [ownTypes, TypeTerm.meanings, TypeTerm.meaning, hmarked] at hsome
    have hunmarked : schema.name.text ≠ "S" ∧ schema.record.text ≠ "S" ∧
        schema.translator.text ≠ "S" := by
      simpa [markingScope, Scope.repository] using hsome
    simp [ownTypes, TypeTerm.allNames, TypeTerm.names, eq_comm (a := "S"), hunmarked] at hmem
  · intro hfresh τ scope
    have hsome : ∀ store,
        (AliasItem.of schema).instantiate scope (some store)
          = some (scope.repository schema store) := by
      intro store
      rw [instantiate_some, TypeTerm.meanings_bind scope store hfresh]
      rfl
    have hrecord : schema.record.text ≠ "S" := by
      intro heq
      simp [ownTypes, TypeTerm.allNames, TypeTerm.names, heq] at hfresh
    exact ⟨hsome, (instantiate_none schema scope hrecord).trans (hsome _)⟩

end Emit

/-- A name with an ending is longer than the parameter of the alias, so only a name that is
given can be the same. -/
theorem Schema.text_eq_parameter_iff {given : Option Ident} {name built : Ident} {ending : String}
    (h : givenOr given name ending = .ok built) (hlong : 1 < ending.length) :
    built.text = "S" ↔ ∃ found, given = some found ∧ found.text = "S" := by
  cases given with
  | some found =>
      cases h
      simp
  | none =>
      obtain ⟨_, rfl⟩ := Ident.withSuffix_eq_ok h
      refine iff_of_false ?_ (by simp)
      intro heq
      have hlength : (name.text ++ ending).length = 1 := congrArg String.length heq
      rw [String.length_append] at hlength
      omega

/-- The alias that is generated from a text means what it is there for, with every type of
stores and with none, if and only if its parameter is not among the names that the text gives:
that of the declaration and those for the record and the translator, raw or not. What is
printed is this alias, tree by tree. -/
theorem alias_means_repository_iff (text : String) (expansion : Expansion)
    (h : Expansion.ofText text = .ok expansion) :
    ∃ declaration schema, ∃ layout : AliasLayout,
      Declaration.ofText? text = some declaration ∧
      Schema.ofDeclaration declaration = .ok schema ∧ schema.name = declaration.name ∧
      expansion.typeAlias = Tree.print layout.trees ∧
      layout.trees = (AliasItem.of schema).trees ∧
      AliasRendering schema layout ∧ layout.parameter = .plain "S" ∧
      ((AliasItem.of schema).MeansRepository schema ↔
        declaration.name.text ≠ "S" ∧
        (∀ given, (StructOptions.ofAttributes declaration.attributes).options.record = some given →
          given.text ≠ "S") ∧
        ∀ given, (StructOptions.ofAttributes declaration.attributes).options.translator
          = some given → given.text ≠ "S") := by
  obtain ⟨declaration, schema, htext, hschema, rfl⟩ := Expansion.ofText_eq_ok_iff.mp h
  obtain ⟨hrecord, htranslator, hname⟩ := givenOr_of_ofDeclaration hschema
  have hlayout := AliasItem.trees_eq schema
  refine ⟨declaration, schema, aliasLayout schema, htext, hschema, hname,
    congrArg Tree.print hlayout, hlayout.symm, aliasRendering_of schema, rfl, ?_⟩
  have hrecordText := text_eq_parameter_iff hrecord (by decide)
  have htranslatorText := text_eq_parameter_iff htranslator (by decide)
  rw [AliasItem.meansRepository_iff, ← hname]
  simp only [ownTypes, TypeTerm.allNames, TypeTerm.names, List.mem_append, List.mem_singleton,
    List.not_mem_nil, or_false, not_or, eq_comm (a := "S"), hrecordText, htranslatorText,
    not_exists, not_and]

namespace Sample

/-- A shop whose translator has a name of its own. -/
def shopText : String :=
  "#[dao(translator = \"Clerk\")] struct Shop \x7b id: Identity \x7d"

/-- A type with the name of the parameter. -/
def shortText : String :=
  "struct S \x7b id: Identity \x7d"

/-- A shop is accepted and gives a name to its translator. -/
theorem accepts_shopText :
    accepts (fun declaration _ => givesNames (.plain "Shop") none (some (.plain "Clerk"))
      declaration) [.plain "id"] shopText = true := by
  decide +kernel

/-- A type with the name of the parameter is accepted. -/
theorem accepts_shortText :
    accepts (fun declaration _ => givesNames (.plain "S") none none declaration)
      [.plain "id"] shortText = true := by
  decide +kernel

end Sample

/-- The alias of a shop means what it is there for. -/
theorem alias_means_repository_iff_shop :
    ∃ expansion schema, ∃ layout : AliasLayout,
      Expansion.ofText Sample.shopText = .ok expansion ∧
      expansion.typeAlias = Tree.print layout.trees ∧
      layout.trees = (AliasItem.of schema).trees ∧
      AliasRendering schema layout ∧ layout.parameter = .plain "S" ∧
      (AliasItem.of schema).MeansRepository schema := by
  obtain ⟨declaration, _, schema, htext, _, hschema, hgiven, _⟩ :=
    Sample.exists_of_accepts Sample.accepts_shopText
  obtain ⟨hname, hrecord, htranslator⟩ := Sample.givesNames_iff.mp hgiven
  have hexpansion := Expansion.ofText_of_schema htext hschema
  obtain ⟨found, other, layout, hfound, _, _, halias, htrees, hnames, hparameter, hiff⟩ :=
    alias_means_repository_iff Sample.shopText (.of schema) hexpansion
  obtain rfl : found = declaration := Option.some.inj (hfound.symm.trans htext)
  refine ⟨.of schema, other, layout, hexpansion, halias, htrees, hnames, hparameter,
    hiff.mpr ⟨?_, ?_, ?_⟩⟩
  · rw [hname]
    decide
  · intro given hgivenRecord
    cases hgivenRecord.symm.trans hrecord
  · intro given hgivenTranslator
    cases hgivenTranslator.symm.trans htranslator
    decide

/-- The alias of a type with the name of the parameter is, for any store, that of repositories
for the store itself. -/
theorem alias_of_short_name :
    ∃ expansion schema, Expansion.ofText Sample.shortText = .ok expansion ∧
      expansion.typeAlias = Tree.print (AliasItem.of schema).trees ∧
      (AliasItem.of schema).trees = (aliasLayout schema).trees ∧
      (∀ (τ : Type) (scope : Scope τ) (store : τ),
        (AliasItem.of schema).instantiate scope (some store)
          = some (scope.support "Dao"
              [store, scope.named "SRecord", scope.named "STranslator", store])) ∧
      ¬ (AliasItem.of schema).MeansRepository schema := by
  obtain ⟨declaration, _, schema, htext, _, hschema, hgiven, _⟩ :=
    Sample.exists_of_accepts Sample.accepts_shortText
  obtain ⟨hname, hrecord, htranslator⟩ := Sample.givesNames_iff.mp hgiven
  obtain ⟨hrecordName, htranslatorName, hschemaName⟩ := givenOr_of_ofDeclaration hschema
  rw [hrecord, givenOr, hname] at hrecordName
  rw [htranslator, givenOr, hname] at htranslatorName
  rw [hname] at hschemaName
  have hrecordIs : schema.record = .plain "SRecord" := (Ident.withSuffix_eq_ok hrecordName).2
  have htranslatorIs : schema.translator = .plain "STranslator" :=
    (Ident.withSuffix_eq_ok htranslatorName).2
  refine ⟨.of schema, schema, Expansion.ofText_of_schema htext hschema, rfl,
    AliasItem.trees_eq schema, ?_, ?_⟩
  · intro τ scope store
    -- The name of the domain type is found as the parameter; those of the record and of the
    -- translator are longer.
    rw [AliasItem.instantiate_some, ownTypes, hschemaName, hrecordIs, htranslatorIs]
    simp [TypeTerm.meanings, TypeTerm.meaning, Scope.bind_named, Ident.plain]
  · rw [AliasItem.meansRepository_iff, ownTypes, hschemaName]
    simp [TypeTerm.allNames, TypeTerm.names, Ident.plain]

end Recordsmith

import Recordsmith.Schema.Classify

/-!
# `Recordsmith.Schema.Basic`: the schema of a declaration

A `Schema` is all that is known of a domain type: its names, its identity,
the fields that are skipped and the properties that are kept.

`Schema.ofDeclaration` makes it in stages. Each stage reports all of its
issues, and a later stage is reached only if the earlier ones have none:

1. the options of the declaration, then its shape or the options of its
   fields;
2. parameters and `where` clauses, which are refused;
3. the classes of the fields, then the identity, of which there has to be
   exactly one, then record fields of the same name, which are looked for
   only if there is exactly one identity.

A name that cannot be built ends the third stage at once.
-/

set_option autoImplicit false

namespace Recordsmith

open Recordsmith.Source

/-- The schema of a domain type. -/
structure Schema where
  name : Ident
  visibility : List Tree
  doc : Option String
  identity : Ident
  identityModel : Ident
  skipped : List Schema.SkippedField
  properties : List Schema.Property
  record : Ident
  translator : Ident
  typeAlias : Ident

namespace Schema

/-- The name of a property in messages. -/
def label (schema : Schema) (property : Property) : String :=
  schema.name.spelled ++ "." ++ property.name.spelled

/-- The names of the fields of the record, the identity first. -/
def recordNames (schema : Schema) : List Ident :=
  schema.identityModel :: schema.properties.map (·.modelName)

/-- Whether some field of the record has a name that is not in snake case. -/
def hasNonSnakeNames (schema : Schema) : Bool :=
  schema.recordNames.any fun name => name.spelled != NamingStyle.snake.apply name.spelled

/-! ### First stage: options and shape -/

/-- The options of a field, or its issues. -/
def readField (field : Field) : Except (List Issue) FieldSpec :=
  let collected := FieldOptions.ofAttributes field.attributes
  if collected.issues.isEmpty then
    .ok ⟨field.name, field.type, Docs.comments? field.attributes, collected.options⟩
  else .error collected.issues

/-- The values of a row of results, or all of their issues. -/
def gather {α : Type} : List (Except (List Issue) α) → Except (List Issue) (List α)
  | [] => .ok []
  | .ok value :: rest => (gather rest).map (value :: ·)
  | .error issues :: rest =>
    match gather rest with
    | .ok _ => .error issues
    | .error more => .error (issues ++ more)

/-- The fields of a declaration with their options read. -/
def readShape : Shape → Except (List Issue) (List FieldSpec)
  | .named fields => gather (fields.map readField)
  | .unnamed [_] => .error [.wrongShape .oneUnnamed]
  | .unnamed _ => .error [.wrongShape .unnamed]
  | .unit => .error [.wrongShape .unit]
  | .enumeration => .error [.wrongShape .enumeration]
  | .union => .error [.wrongShape .union]

/-- The options of a declaration and its fields. -/
def readOptions (declaration : Declaration) :
    Except (List Issue) (StructOptions × List FieldSpec) :=
  let collected := StructOptions.ofAttributes declaration.attributes
  match readShape declaration.shape with
  | .ok fields =>
    if collected.issues.isEmpty then .ok (collected.options, fields)
    else .error collected.issues
  | .error issues => .error (collected.issues ++ issues)

/-! ### Third stage: classes of fields -/

/-- The fields of a declaration by their classes, and the issues of those
that have none. -/
structure Sorted where
  issues : List Issue
  identities : List (Ident × Ident)
  skipped : List SkippedField
  properties : List Property

/-- The classes of some fields. The first name that cannot be built ends the
run. -/
def sortFields (style : NamingStyle) : List FieldSpec → Except NameFault Sorted
  | [] => .ok ⟨[], [], [], []⟩
  | field :: rest =>
    match classify style field with
    | .error (.fault fault) => .error fault
    | .error (.issue issue) =>
      (sortFields style rest).map fun s => { s with issues := issue :: s.issues }
    | .ok (.identity name model) =>
      (sortFields style rest).map fun s =>
        { s with identities := (name, model) :: s.identities }
    | .ok (.skipped field) =>
      (sortFields style rest).map fun s => { s with skipped := field :: s.skipped }
    | .ok (.property property) =>
      (sortFields style rest).map fun s => { s with properties := property :: s.properties }

/-- The issues of the identities of a declaration: one if there is none, and
one for each after the first. -/
def identityIssues : List (Ident × Ident) → List Issue
  | [] => [.noIdentity]
  | _ :: others => others.map fun _ => .repeatedIdentity

/-- One issue for each property whose record field has a name seen before. -/
def repeatedNames (seen : List String) : List Property → List Issue
  | [] => []
  | property :: rest =>
    let name := property.modelName.spelled
    if seen.contains name then .repeatedRecordField name :: repeatedNames seen rest
    else repeatedNames (name :: seen) rest

/-- The issues of record fields of the same name. They are looked for only if
there is exactly one identity. -/
def nameIssues (sorted : Sorted) : List Issue :=
  match sorted.identities with
  | [(_, model)] => repeatedNames [model.spelled] sorted.properties
  | _ => []

/-- All issues of the classes of fields. -/
def Sorted.allIssues (sorted : Sorted) : List Issue :=
  sorted.issues ++ identityIssues sorted.identities ++ nameIssues sorted

/-- A name that is given, or the name of the declaration with an ending. -/
def givenOr (given : Option Ident) (name : Ident) (ending : String) :
    Except NameFault Ident :=
  match given with
  | some found => .ok found
  | none => name.withSuffix ending

/-- The names of the items that are generated: the record, the translator and
the alias. -/
def itemNames (options : StructOptions) (name : Ident) :
    Except NameFault (Ident × Ident × Ident) := do
  let record ← givenOr options.record name "Record"
  let translator ← givenOr options.translator name "Translator"
  let typeAlias ← givenOr options.typeAlias name "Dao"
  return (record, translator, typeAlias)

/-- The schema made of classified fields. -/
def assemble (declaration : Declaration) (options : StructOptions) (sorted : Sorted) :
    Except Refusal Schema :=
  match sorted.allIssues, sorted.identities with
  | [], (identity, model) :: _ =>
    match itemNames options declaration.name with
    | .error fault => .error (.unnameable fault)
    | .ok (record, translator, typeAlias) =>
      .ok {
        name := declaration.name
        visibility := declaration.visibility
        doc := Docs.summary? declaration.attributes
        identity
        identityModel := model
        skipped := sorted.skipped
        properties := sorted.properties
        record
        translator
        typeAlias }
  | issues, _ => .error (.issues issues)

/-- The schema of a declaration. -/
def ofDeclaration (declaration : Declaration) : Except Refusal Schema :=
  match readOptions declaration with
  | .error issues => .error (.issues issues)
  | .ok (options, fields) =>
    if declaration.hasParameters || declaration.hasWhere then
      .error (.issues [.hasParameters])
    else
      match sortFields options.naming fields with
      | .error fault => .error (.unnameable fault)
      | .ok sorted => assemble declaration options sorted

/-- The schema of the declaration that a text spells. -/
def ofText (text : String) : Except Refusal Schema :=
  match Declaration.ofText? text with
  | none => .error .malformed
  | some declaration => ofDeclaration declaration

end Schema

end Recordsmith

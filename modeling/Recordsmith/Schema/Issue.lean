import Recordsmith.Source.Complaint

/-!
# `Recordsmith.Schema.Issue`: mistakes in a declaration

An `Issue` is a mistake that is reported to the author of a declaration.
All mistakes of a stage are reported together, in the order of the source.
A `Refusal` is the reason why a source text gives no schema at all: it
cannot be read, it has issues, or a name cannot be built.
-/

set_option autoImplicit false

namespace Recordsmith.Schema

open Recordsmith.Source (Complaint NameFault)

/-- A form in which an option was written but may not be. -/
inductive WrongForm where
  | word
  | list
  | literal
  deriving DecidableEq, Repr

/-- A shape of declaration that has no record. -/
inductive WrongShape where
  | enumeration
  | union
  | unit
  | oneUnnamed
  | unnamed
  deriving DecidableEq, Repr

/-- A mistake in a declaration. -/
inductive Issue where
  /-- The options of an attribute cannot be read. -/
  | unreadable (complaint : Complaint)
  /-- Options are given as a value instead of a list. -/
  | valueForm
  | wrongForm (form : WrongForm)
  | wrongType (type : String)
  | unknownValue (text : String)
  /-- An option is not known. If one that is known is alike, it is suggested. -/
  | unknownOption (name : String) (suggestion : Option String) (known : List String)
  | repeatedOption (name : String)
  | wrongShape (shape : WrongShape)
  | hasParameters
  | unnamedField
  | conflictingMarkers
  | skipWithOptions
  | identityWithOptions
  | nestedUnnamed
  | boxedArray
  | boxedKind
  | invalidModelName (text : String)
  | noIdentity
  | repeatedIdentity
  | repeatedRecordField (name : String)
  deriving DecidableEq, Repr

/-- Why a source text gives no schema. -/
inductive Refusal where
  /-- The text cannot be read. -/
  | malformed
  | issues (issues : List Issue)
  | unnameable (fault : NameFault)
  deriving DecidableEq, Repr

/-- A text between grave accents, as messages quote names. -/
def ticked (text : String) : String :=
  "`" ++ text ++ "`"

/-- The word for a form. -/
def WrongForm.label : WrongForm → String
  | .word => "word"
  | .list => "list"
  | .literal => "literal"

/-- The wording of a shape that has no record. -/
def WrongShape.message : WrongShape → String
  | .enumeration => "Unsupported shape `enum`. Expected struct with named fields."
  | .union => "Unsupported shape `union`. Expected struct with named fields."
  | .unit => "Unsupported shape `no fields`. Expected named fields."
  | .oneUnnamed => "Unsupported shape `one unnamed field`. Expected named fields."
  | .unnamed => "Unsupported shape `unnamed fields`. Expected named fields."

/-- The wording of an issue. -/
def Issue.message : Issue → String
  | .unreadable complaint => complaint.message
  | .valueForm => "Name-value arguments are not supported. Use #[dao(...)]"
  | .wrongForm form => "Unexpected meta-item format " ++ ticked form.label
  | .wrongType type => "Unexpected type " ++ ticked type
  | .unknownValue text => "Unknown value: " ++ ticked text
  | .unknownOption name (some suggestion) _ =>
    "Unknown field: " ++ ticked name ++ ". Did you mean " ++ ticked suggestion ++ "?"
  | .unknownOption name none known =>
    "Unknown field: " ++ ticked name ++ ". Available values: " ++
      ", ".intercalate (known.map ticked)
  | .repeatedOption name => "Duplicate field " ++ ticked name
  | .wrongShape shape => shape.message
  | .hasParameters => "Dao cannot be derived for generic structs"
  | .unnamedField => "Dao fields must be named"
  | .conflictingMarkers =>
    "conflicting kind markers: use at most one of `string_enum`, `int_enum`, `nested`"
  | .skipWithOptions => "`skip` cannot be combined with other `dao` options"
  | .identityWithOptions => "the identity field only accepts `model_name`"
  | .nestedUnnamed => "`nested` requires a named type"
  | .boxedArray => "`boxed` does not apply to array fields"
  | .boxedKind =>
    "`boxed` applies only to numeric, bool, string, date and `int_enum` fields"
  | .invalidModelName text => ticked text ++ " is not a valid field name"
  | .noIdentity => "Dao requires exactly one field of type `Identity`"
  | .repeatedIdentity => "duplicate `Identity` field"
  | .repeatedRecordField name => "record field " ++ ticked name ++ " is defined more than once"

/-- The wording of several issues, one a line. -/
def Issue.messages (issues : List Issue) : String :=
  "\n".intercalate (issues.map Issue.message)

end Recordsmith.Schema

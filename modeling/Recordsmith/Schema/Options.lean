import Recordsmith.Schema.Issue
import Recordsmith.Schema.Naming
import Recordsmith.Source.Declaration
import Recordsmith.Text.Similarity

/-!
# `Recordsmith.Schema.Options`: options in attributes

Options are written in `dao` attributes: `#[dao(boxed, model_name = "x")]`.
A kind of options has a list of definitions (`OptionDef`), each a name and
a way to read its value as a change of the options. `Collected.ofAttributes`
goes through the items of all `dao` attributes in order. Each item changes
the options or leaves an issue; a name counts as seen once its definition
has been tried, so a second use is an issue whatever became of the first.

There are two kinds: `StructOptions` for a whole declaration and
`FieldOptions` for a field.
-/

set_option autoImplicit false

namespace Recordsmith.Schema

open Recordsmith.Source

/-- The name of an option and the way its value is read. -/
structure OptionDef (σ : Type) where
  name : String
  read : MetaForm → Except Issue (σ → σ)

/-- Options on the way: what they are so far, which names have been seen, and
the issues met. -/
structure Collected (σ : Type) where
  options : σ
  seen : List String
  issues : List Issue

namespace Collected

variable {σ : Type}

/-- Adds an issue. -/
def report (collected : Collected σ) (issue : Issue) : Collected σ :=
  { collected with issues := collected.issues ++ [issue] }

/-- The issue for a name that is not among the definitions. -/
def unknown (defs : List (OptionDef σ)) (name : String) : Issue :=
  let known := (defs.map (·.name)).mergeSort
  .unknownOption name (Text.Similarity.suggest name known) known

/-- Takes one item into account. -/
def addItem (defs : List (OptionDef σ)) (collected : Collected σ) :
    MetaItem → Collected σ
  | .literal => collected.report (.wrongForm .literal)
  | .entry path form =>
    let name := "::".intercalate (path.map Ident.spelled)
    match defs.find? (·.name == name) with
    | none => collected.report (unknown defs name)
    | some found =>
      if collected.seen.contains name then collected.report (.repeatedOption name)
      else
        let tried := { collected with seen := name :: collected.seen }
        match found.read form with
        | .ok change => { tried with options := change tried.options }
        | .error issue => tried.report issue

/-- Takes one attribute into account. -/
def addAttribute (defs : List (OptionDef σ)) (collected : Collected σ)
    (attr : Attribute) : Collected σ :=
  if attr.isNamed "dao" then
    match attr.form with
    | .word => collected
    | .value _ => collected.report .valueForm
    | .list trees =>
      match MetaItem.ofTrees trees with
      | .ok items => items.foldl (addItem defs) collected
      | .error complaint => collected.report (.unreadable complaint)
  else collected

/-- The options that some attributes give, starting from `initial`. -/
def ofAttributes (defs : List (OptionDef σ)) (initial : σ) (attributes : List Attribute) :
    Collected σ :=
  attributes.foldl (addAttribute defs) ⟨initial, [], []⟩

end Collected

namespace OptionDef

/-- The issue for a value in a form that takes none, or in a list. A list that
cannot be read as items is reported as such. -/
def formIssue : MetaForm → Issue
  | .word => .wrongForm .word
  | .list trees =>
    match MetaItem.ofTrees trees with
    | .ok _ => .wrongForm .list
    | .error complaint => .unreadable complaint
  | .value form => .wrongType form.typeName

/-- Reads a value that is a string. -/
def readText : MetaForm → Except Issue String
  | .value (.literal (.string text)) => .ok text
  | form => .error (formIssue form)

/-- Reads a value that is true or false. The name alone means true. -/
def readFlag : MetaForm → Except Issue Bool
  | .word => .ok true
  | .value (.literal (.boolean value)) => .ok value
  | .value (.literal (.string text)) =>
    if text = "true" then .ok true
    else if text = "false" then .ok false
    else .error (.unknownValue text)
  | form => .error (formIssue form)

/-- Reads a value that is an identifier, as such or in a string. -/
def readIdent : MetaForm → Except Issue Ident
  | .value (.name name) => .ok name
  | .value (.literal (.string text)) =>
    match Ident.ofSource? text with
    | some name => .ok name
    | none => .error (.unknownValue text)
  | form => .error (formIssue form)

/-- Reads a style of names. -/
def readNaming (form : MetaForm) : Except Issue NamingStyle :=
  match readText form with
  | .ok text =>
    match NamingStyle.ofWord? text with
    | some style => .ok style
    | none => .error (.unknownValue text)
  | .error issue => .error issue

end OptionDef

/-- The options of a declaration. Names that are not given are built from the
name of the declaration. -/
structure StructOptions where
  record : Option Ident := none
  translator : Option Ident := none
  typeAlias : Option Ident := none
  naming : NamingStyle := .preserve
  deriving DecidableEq, Repr

/-- The options of a field. -/
structure FieldOptions where
  stringEnum : Bool := false
  intEnum : Bool := false
  nested : Bool := false
  skip : Bool := false
  boxed : Bool := false
  modelName : Option String := none
  deriving DecidableEq, Repr

namespace StructOptions

/-- The options that a declaration can have. -/
def defs : List (OptionDef StructOptions) := [
  ⟨"record", fun form => (OptionDef.readIdent form).map fun name options =>
    { options with record := some name }⟩,
  ⟨"translator", fun form => (OptionDef.readIdent form).map fun name options =>
    { options with translator := some name }⟩,
  ⟨"alias", fun form => (OptionDef.readIdent form).map fun name options =>
    { options with typeAlias := some name }⟩,
  ⟨"rename_all", fun form => (OptionDef.readNaming form).map fun style options =>
    { options with naming := style }⟩]

/-- The options that the attributes of a declaration give. -/
def ofAttributes (attributes : List Attribute) : Collected StructOptions :=
  Collected.ofAttributes defs {} attributes

end StructOptions

namespace FieldOptions

/-- The options that a field can have. -/
def defs : List (OptionDef FieldOptions) := [
  ⟨"string_enum", fun form => (OptionDef.readFlag form).map fun value options =>
    { options with stringEnum := value }⟩,
  ⟨"int_enum", fun form => (OptionDef.readFlag form).map fun value options =>
    { options with intEnum := value }⟩,
  ⟨"nested", fun form => (OptionDef.readFlag form).map fun value options =>
    { options with nested := value }⟩,
  ⟨"skip", fun form => (OptionDef.readFlag form).map fun value options =>
    { options with skip := value }⟩,
  ⟨"boxed", fun form => (OptionDef.readFlag form).map fun value options =>
    { options with boxed := value }⟩,
  ⟨"model_name", fun form => (OptionDef.readText form).map fun text options =>
    { options with modelName := some text }⟩]

/-- The options that the attributes of a field give. -/
def ofAttributes (attributes : List Attribute) : Collected FieldOptions :=
  Collected.ofAttributes defs {} attributes

/-- The number of markers that set the kind of a field. -/
def markerCount (options : FieldOptions) : Nat :=
  [options.stringEnum, options.intEnum, options.nested].count true

/-- Whether any option but `skip` is set. -/
def hasOptions (options : FieldOptions) : Bool :=
  options.markerCount > 0 || options.boxed || options.modelName.isSome

end FieldOptions

end Recordsmith.Schema

import Recordsmith.Emit.Terms
import Recordsmith.Schema.Basic
import Recordsmith.Schema.Plan

/-!
# `Recordsmith.Emit.TranslatorItem`: the generated translator

The translator of a domain type reads a record into a domain value and
writes a domain value into a record. Reading is one structure value with an
initializer for every field of the domain type; writing is one block of
statements for every property. Both spell out the plans of the properties
(`Recordsmith.Schema.Plan`).
-/

set_option autoImplicit false

namespace Recordsmith.Emit

open Recordsmith.Source Recordsmith.Source.Tree Recordsmith.Schema

/-- The initializer of a domain field: read from a record field, then checked
against the declared type. -/
structure FieldRead where
  name : Ident
  declared : TypeExpr
  source : Ident
  label : String
  plan : ReadPlan

/-- The statements that write a domain field to a record field. -/
structure FieldWrite where
  name : Ident
  target : Ident
  plan : WritePlan

/-- A generated translator. -/
structure TranslatorItem where
  doc : String
  visibility : List Tree
  name : Ident
  domain : Ident
  record : Ident
  identity : Ident
  skipped : List Ident
  reads : List FieldRead
  writes : List FieldWrite

namespace TranslatorItem

/-- The translator of a schema. -/
def of (schema : Schema) : TranslatorItem where
  doc := "Maps [`" ++ schema.name.spelled ++ "`] to [`" ++ schema.record.spelled ++
    "`] and back."
  visibility := schema.visibility
  name := schema.translator
  domain := schema.name
  record := schema.record
  identity := schema.identity
  skipped := schema.skipped.map (·.name)
  reads := schema.properties.map fun property =>
    ⟨property.name, property.declared, property.modelName, schema.label property,
      ReadPlan.of property⟩
  writes := schema.properties.map fun property =>
    ⟨property.name, property.modelName, WritePlan.of property⟩

/-! ### Reading -/

/-- A call of a decoding function for an element type. -/
def decoded (function : String) (arguments : List Tree) (value : List Tree) (label : String) :
    List Tree :=
  call (support ("decode :: " ++ function) ++ phrase ":: <" ++ arguments ++ phrase ">")
    [value, [string label]]

/-- Reads one element that an expression refers to. -/
def loadTrees (transfer : Transfer) (value : List Tree) (label : String) : List Tree :=
  match transfer with
  | .raw enumeration => decoded "expect_raw" enumeration.trees value label
  | .text type => decoded "expect_parsed" type.trees value label
  | .copy => cloned value

/-- Reads every element of a list. -/
def loadAllTrees (transfer : Transfer) (field : List Tree) (label : String) : List Tree :=
  match transfer with
  | .raw enumeration =>
    decoded "lossy_raw" (enumeration.trees ++ phrase ", _") (phrase "&" ++ field) label
  | .text type =>
    decoded "lossy_parse" (type.trees ++ phrase ", _") (phrase "&" ++ field) label
  | .copy => call (field ++ phrase ". to_vec") []

/-- A value, put in an option if `optional`. -/
def presentIf (optional : Bool) (value : List Tree) : List Tree :=
  if optional then present value else value

/-- Applies an expression in `value` to the inside of an option. -/
def mapped (option body : List Tree) : List Tree :=
  call (option ++ phrase ". map") [phrase "| value |" ++ body]

/-- The option that a record field refers to. -/
def asOption (field : List Tree) : List Tree :=
  call (field ++ phrase ". as_ref") []

/-- An option that has to be present. -/
def expected (field : List Tree) (label : String) : List Tree :=
  call (support "decode :: expect_present") [asOption field, [string label]]

/-- A function of a nested translator. -/
def nestedMember (translator : TypeExpr) (function : String) : List Tree :=
  memberOf translator.trees "Translator" function

/-- A function of a nested translator is `< T as :: dao_core :: Translator > :: function`. -/
theorem nestedMember_eq (translator : TypeExpr) {function : String}
    (h : phrase function = [word function]) :
    nestedMember translator function
      = .punct '<' false :: (translator.trees ++ [word "as", .punct ':' true, .punct ':' false,
          word "dao_core", .punct ':' true, .punct ':' false, word "Translator", .punct '>' false,
          .punct ':' true, .punct ':' false, word function]) := by
  unfold nestedMember memberOf
  rw [h]
  simp only [viewedAs, List.append_assoc]
  rfl

/-- The expression that reads a property from its record field. -/
def readTrees (plan : ReadPlan) (source : Ident) (label : String) : List Tree :=
  let field := phrase "record ." ++ [.ident source]
  match plan with
  | .nestedList translator optional =>
    presentIf optional
      (call (nestedMember translator "from_records") [phrase "&" ++ field] ++ phrase "?")
  | .nestedOptional translator =>
    call (call (asOption field ++ phrase ". map") [nestedMember translator "from_record"] ++
      phrase ". transpose") [] ++ phrase "?"
  | .nestedRequired translator =>
    call (nestedMember translator "from_record") [expected field label] ++ phrase "?"
  | .list transfer optional => presentIf optional (loadAllTrees transfer field label)
  | .plain transfer => loadTrees transfer (phrase "&" ++ field) label
  | .boxOptional transfer =>
    mapped (call (field ++ phrase ". get") []) (loadTrees transfer [word "value"] label)
  | .boxOrDefault transfer =>
    loadTrees transfer (phrase "&" ++ call (field ++ phrase ". value_or_default") []) label
  | .boxOrZero _ => call (field ++ phrase ". value_or_zero") []
  | .optional transfer => mapped (asOption field) (loadTrees transfer [word "value"] label)
  | .orDefault transfer =>
    loadTrees transfer
      (phrase "&" ++ call (cloned (phrase "&" ++ field) ++ phrase ". unwrap_or_default") [])
      label
  | .required transfer => loadTrees transfer (expected field label) label

/-- The initializer of a domain field. -/
def fieldReadTrees (read : FieldRead) : List Tree :=
  [.ident read.name] ++ phrase ":" ++
    call (phrase ":: core :: convert :: identity :: <" ++ read.declared.trees ++ phrase ">")
      [readTrees read.plan read.source read.label]

/-- The initializer of a field that is skipped. -/
def skippedTrees (name : Ident) : List Tree :=
  [.ident name] ++ phrase ":" ++ call (phrase ":: core :: default :: Default :: default") []

/-- A field that is skipped starts as `:: core :: default :: Default :: default ()`. -/
theorem skippedTrees_eq (name : Ident) :
    skippedTrees name = [.ident name, .punct ':' false,
      .punct ':' true, .punct ':' false, word "core",
      .punct ':' true, .punct ':' false, word "default",
      .punct ':' true, .punct ':' false, word "Default",
      .punct ':' true, .punct ':' false, word "default", .group .paren []] := rfl

/-- The initializer of the identity. -/
def identityTrees (name : Ident) : List Tree :=
  [.ident name] ++ phrase ":" ++
    cloned (call (support "Record :: identity") [[word "record"]])

/-- The identity is `:: core :: clone :: Clone :: clone` of what
`:: dao_core :: Record :: identity (record)` refers to. -/
theorem identityTrees_eq (name : Ident) :
    identityTrees name = [.ident name, .punct ':' false,
      .punct ':' true, .punct ':' false, word "core",
      .punct ':' true, .punct ':' false, word "clone",
      .punct ':' true, .punct ':' false, word "Clone",
      .punct ':' true, .punct ':' false, word "clone", .group .paren [
        .punct ':' true, .punct ':' false, word "dao_core",
        .punct ':' true, .punct ':' false, word "Record",
        .punct ':' true, .punct ':' false, word "identity", .group .paren [word "record"]]] := rfl

/-! ### Writing -/

/-- The stored form of one element that an expression refers to. -/
def storeTrees (transfer : Transfer) (value : List Tree) : List Tree :=
  match transfer with
  | .raw enumeration => call (memberOf enumeration.trees "RawEnum" "raw_value") [value]
  | .text _ => call (phrase ":: std :: string :: ToString :: to_string") [value]
  | .copy => cloned value

/-- The elements of a domain field. -/
def elementsTrees (field : List Tree) (optional : Bool) : List Tree :=
  let items := call (field ++ phrase ". iter") []
  if optional then call (items ++ phrase ". flatten") [] else items

/-- The statements that empty a list and fill it again. -/
def refilled (field values : List Tree) : List Tree :=
  call (field ++ phrase ". clear") [] ++ phrase ";" ++
    call (field ++ phrase ". extend") [values] ++ phrase ";"

/-- The statement that takes a record out of its field. -/
def takenOut (field : List Tree) : List Tree :=
  phrase "let existing =" ++ call (field ++ phrase ". take") [] ++ phrase ";"

/-- The statements that write a property to its record field. -/
def writeTrees (plan : WritePlan) (name target : Ident) : List Tree :=
  let field := phrase "record ." ++ [.ident target]
  let value := phrase "domain ." ++ [.ident name]
  let reference := phrase "&" ++ value
  match plan with
  | .nestedList translator optional =>
    refilled field
      (call (nestedMember translator "to_records") [elementsTrees value optional] ++ phrase "?")
  | .nestedOptional translator =>
    takenOut field ++ field ++ phrase "=" ++
      call (mapped (asOption value)
        (call (nestedMember translator "refresh") [[word "value"], [word "existing"]]) ++
        phrase ". transpose") [] ++ phrase "? ;"
  | .nestedRequired translator =>
    takenOut field ++ field ++ phrase "=" ++
      present (call (nestedMember translator "refresh") [reference, [word "existing"]] ++
        phrase "?") ++ phrase ";"
  | .list transfer optional =>
    refilled field (mapped (elementsTrees value optional) (storeTrees transfer [word "value"]))
  | .plain transfer => field ++ phrase "=" ++ storeTrees transfer reference ++ phrase ";"
  | .boxOptional transfer =>
    call (field ++ phrase ". replace")
      [mapped (asOption value) (storeTrees transfer [word "value"])] ++ phrase ";"
  | .boxSet transfer =>
    call (field ++ phrase ". set") [storeTrees transfer reference] ++ phrase ";"
  | .optional transfer =>
    field ++ phrase "=" ++ mapped (asOption value) (storeTrees transfer [word "value"]) ++
      phrase ";"
  | .present transfer =>
    field ++ phrase "=" ++ present (storeTrees transfer reference) ++ phrase ";"

/-! ### The item -/

/-- The function that reads a record. -/
def fromRecordTrees (item : TranslatorItem) : List Tree :=
  let fields := identityTrees item.identity :: item.skipped.map skippedTrees ++
    item.reads.map fieldReadTrees
  phrase "fn from_record" ++ [parens (phrase "record : &" ++ [.ident item.record])] ++
    phrase "->" ++ applied (support "Result") [.ident item.domain] ++
    [braces (call (phrase ":: core :: result :: Result :: Ok")
      [[.ident item.domain, braces (commaTerminated fields)]])]

/-- The body of the function that writes a record. -/
def writeBodyTrees (item : TranslatorItem) : List Tree :=
  item.writes.flatMap (fun write => writeTrees write.plan write.name write.target) ++
    call (phrase ":: core :: result :: Result :: Ok") [[parens []]]

/-- The function that writes a record. -/
def writeRecordTrees (item : TranslatorItem) : List Tree :=
  (if item.writes.isEmpty then listed "allow" ["unused_variables"] else []) ++
    phrase "fn write_record" ++
    [parens (phrase "domain : &" ++ [.ident item.domain] ++ phrase ", record : & mut" ++
      [.ident item.record])] ++
    phrase "->" ++ applied (support "Result") [parens []] ++ [braces item.writeBodyTrees]

/-- The whole item. -/
def trees (item : TranslatorItem) : List Tree :=
  documented item.doc ++ listed "derive" ["Debug", "Clone", "Copy", "Default"] ++
    item.visibility ++ [word "struct", .ident item.name] ++ phrase ";" ++
    [word "impl"] ++ support "Translator" ++ [word "for", .ident item.name,
      braces (phrase "type Domain =" ++ [.ident item.domain] ++ phrase "; type Record =" ++
        [.ident item.record] ++ phrase ";" ++ item.fromRecordTrees ++ item.writeRecordTrees)]

end TranslatorItem

end Recordsmith.Emit

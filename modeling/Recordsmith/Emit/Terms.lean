import Recordsmith.Schema.Property

/-!
# `Recordsmith.Emit.Terms`: types and values in generated code

The parts that all generated items share: types and default values of
record fields, attributes, and the paths of the run-time support.
-/

set_option autoImplicit false

namespace Recordsmith.Emit

open Recordsmith.Source Recordsmith.Source.Tree Recordsmith.Schema

/-- Something of the run-time support, by its path there. -/
def support (path : String) : List Tree :=
  phrase (":: dao_core :: " ++ path)

/-- A path with arguments in angle brackets. -/
def applied (path arguments : List Tree) : List Tree :=
  path ++ phrase "<" ++ arguments ++ phrase ">"

/-- Trees with commas between them. -/
def commaSeparated (items : List (List Tree)) : List Tree :=
  List.intercalate (phrase ",") items

/-- Trees with a comma after each. -/
def commaTerminated (items : List (List Tree)) : List Tree :=
  items.flatMap (· ++ phrase ",")

/-- A call with the arguments given. -/
def call (function : List Tree) (arguments : List (List Tree)) : List Tree :=
  function ++ [parens (commaSeparated arguments)]

/-- A copy of what an expression refers to. -/
def cloned (reference : List Tree) : List Tree :=
  call (phrase ":: core :: clone :: Clone :: clone") [reference]

/-- A present option. -/
def present (value : List Tree) : List Tree :=
  call (phrase ":: core :: option :: Option :: Some") [value]

/-- A type seen as an instance of a trait of the run-time support. -/
def viewedAs (type : List Tree) (trait : String) : List Tree :=
  phrase "<" ++ type ++ [word "as"] ++ support trait ++ phrase ">"

/-- A member of a type seen as an instance of a trait. -/
def memberOf (type : List Tree) (trait member : String) : List Tree :=
  viewedAs type trait ++ phrase "::" ++ phrase member

/-- An attribute with what stands in its brackets. -/
def attributed (body : List Tree) : List Tree :=
  phrase "#" ++ [brackets body]

/-- A documentation attribute. -/
def documented (text : String) : List Tree :=
  attributed (phrase "doc =" ++ [string text])

/-- An attribute whose arguments are words. -/
def listed (name : String) (arguments : List String) : List Tree :=
  attributed [word name, parens (commaSeparated (arguments.map fun item => [word item]))]

/-- The type of the elements of a record field. -/
def elementTrees : StoredElement → List Tree
  | .raw enumeration => memberOf enumeration.trees "RawEnum" "Raw"
  | .record type => type.trees
  | .text => phrase ":: std :: string :: String"
  | .same type => type.trees

/-- The type of a record field. -/
def storedTypeTrees (type : StoredType) : List Tree :=
  let element := elementTrees type.element
  match type.storage with
  | .plain => element
  | .boxed => applied (support "Nullable") element
  | .nullable => applied (phrase ":: core :: option :: Option") element
  | .list => applied (support "List") element

/-- The value that a record field starts with. -/
def defaultTrees : DefaultValue → List Tree
  | .zero element => call (memberOf (elementTrees element) "ZeroValue" "zero") []
  | .nullBox => call (support "Nullable :: null") []
  | .absent => phrase ":: core :: option :: Option :: None"
  | .emptyList => call (support "List :: new") []

/-- A type in generated code that is built from names: a name, or something
of the run-time support with arguments. -/
inductive TypeTerm where
  | named (name : Ident)
  | supported (path : String) (arguments : List TypeTerm)

mutual

/-- A type as trees. -/
def TypeTerm.trees : TypeTerm → List Tree
  | .named name => [.ident name]
  | .supported path [] => support path
  | .supported path (argument :: rest) =>
    support path ++ phrase "<" ++ TypeTerm.trees argument ++ TypeTerm.moreTrees rest ++
      phrase ">"

/-- Further arguments as trees, with a comma before each. -/
def TypeTerm.moreTrees : List TypeTerm → List Tree
  | [] => []
  | argument :: rest => phrase "," ++ TypeTerm.trees argument ++ TypeTerm.moreTrees rest

end

end Recordsmith.Emit

import Recordsmith.Source.Tree

/-!
# `Recordsmith.Source.TypeExpr`: types as they are written

Of a type only one form is looked into: a path, such as
`std::option::Option<Vec<u8>>`. A path is a row of segments of which the
last one matters, so it stands apart from those before it and there always
is one. Types of every other form (references, tuples, arrays, functions,
trait objects) are kept as the trees they are printed with.

Printing gives back what was written, but for the arguments in angle
brackets: lifetimes come first there, whatever their place in the source.
-/

set_option autoImplicit false

namespace Recordsmith.Source

mutual

/-- A type. -/
inductive TypeExpr where
  /-- A path. The qualifier is what stands between angle brackets in front,
  as in `<T as Trait>::Item`, brackets included; after it the path is always
  written with leading colons. -/
  | path (qualifier : Option (List Tree)) (leading : Bool) (before : List Segment)
      (last : Segment)
  /-- Any other form, as it is printed. -/
  | other (trees : List Tree)

/-- A name in a path with its arguments. -/
inductive Segment where
  | mk (name : Ident) (arguments : Arguments)

/-- The arguments of a name. -/
inductive Arguments where
  | none
  /-- Arguments in angle brackets, with or without colons before them and a
  comma behind the last. -/
  | angled (colons : Bool) (arguments : List Argument) (trailing : Bool)

/-- An argument in angle brackets. -/
inductive Argument where
  | type (type : TypeExpr)
  | lifetime (trees : List Tree)
  /-- A constant, or an associated item with its value or bounds. -/
  | other (trees : List Tree)

end

instance : Inhabited TypeExpr := ⟨.other []⟩

namespace Segment

/-- The name of a segment. -/
def name : Segment → Ident
  | .mk name _ => name

/-- The arguments of a segment. -/
def arguments : Segment → Arguments
  | .mk _ arguments => arguments

/-- A segment without arguments. -/
def bare (name : Ident) : Segment :=
  .mk name .none

end Segment

/-- Whether no argument is given. Empty angle brackets count as none. -/
def Arguments.isEmpty : Arguments → Bool
  | .none => true
  | .angled _ [] _ => true
  | _ => false

/-- Puts printed arguments one after the other. Each comes with whether a
comma follows it in the source; `owed` says that one is missing before the
next. -/
def joinArguments (owed : Bool) : List (List Tree × Bool) → List Tree
  | [] => []
  | (trees, comma) :: rest =>
    (if owed then Tree.operator [','] else []) ++ trees ++
      (if comma then Tree.operator [','] else []) ++ joinArguments (!comma) rest

/-- Marks every item as followed by a comma, but the last one as given. -/
def markCommas {α : Type} (trailing : Bool) : List α → List (α × Bool)
  | [] => []
  | [item] => [(item, trailing)]
  | item :: rest => (item, true) :: markCommas trailing rest

/-- Whether an argument is a lifetime. -/
def Argument.isLifetime : Argument → Bool
  | .lifetime _ => true
  | _ => false

/-- Arguments that have been printed, with lifetimes first. Each comes with
whether it is a lifetime. -/
def orderArguments (trailing : Bool) (printed : List (Bool × List Tree)) : List Tree :=
  let marked := markCommas trailing printed
  let (lifetimes, others) := marked.partition (·.1.1)
  joinArguments false ((lifetimes ++ others).map fun item => (item.1.2, item.2))

mutual

/-- A type as trees. -/
def TypeExpr.trees : TypeExpr → List Tree
  | .path qualifier leading before last =>
    qualifier.getD [] ++ (if leading then Tree.operator [':', ':'] else []) ++
      segmentTrees before ++ last.trees
  | .other trees => trees

/-- Segments as trees, with colons after each. -/
def segmentTrees : List Segment → List Tree
  | [] => []
  | segment :: rest => segment.trees ++ Tree.operator [':', ':'] ++ segmentTrees rest

/-- A segment as trees. -/
def Segment.trees : Segment → List Tree
  | .mk name arguments => .ident name :: arguments.trees

/-- Arguments as trees. -/
def Arguments.trees : Arguments → List Tree
  | .none => []
  | .angled colons arguments trailing =>
    (if colons then Tree.operator [':', ':'] else []) ++ Tree.operator ['<'] ++
      orderArguments trailing (argumentTrees arguments) ++ Tree.operator ['>']

/-- Each argument as trees, with whether it is a lifetime. -/
def argumentTrees : List Argument → List (Bool × List Tree)
  | [] => []
  | argument :: rest => (argument.isLifetime, argument.trees) :: argumentTrees rest

/-- An argument as trees. -/
def Argument.trees : Argument → List Tree
  | .type type => type.trees
  | .lifetime trees => trees
  | .other trees => trees

end

namespace TypeExpr

/-- A type on one line. -/
def print (type : TypeExpr) : String :=
  Tree.print type.trees

/-- The last name of a path. -/
def lastName? : TypeExpr → Option Ident
  | .path _ _ _ last => some last.name
  | .other _ => none

/-- The first argument of a path whose last name is `wrapper`, if that
argument is a type. -/
def argumentOf? (wrapper : String) : TypeExpr → Option TypeExpr
  | .path _ _ _ (.mk name (.angled _ (.type inner :: _) _)) =>
    if name.spelled = wrapper then some inner else none
  | _ => none

/-- The inside of an `Option`. -/
def optionInner? : TypeExpr → Option TypeExpr :=
  argumentOf? "Option"

/-- The inside of a `Vec`. -/
def vecInner? : TypeExpr → Option TypeExpr :=
  argumentOf? "Vec"

/-- The last name of the time zone of a `DateTime`. -/
def timeZone? (type : TypeExpr) : Option Ident :=
  (argumentOf? "DateTime" type).bind lastName?

/-- Whether a type is a path without a qualifier that ends in a name without
arguments. -/
def isNamed (word : String) : TypeExpr → Bool
  | .path none _ _ (.mk name .none) => name.spelled == word
  | _ => false

/-- A path with an ending put on its last name, whose arguments are dropped.
A type that is no path, or has a qualifier, has no such form. -/
def withSuffix (ending : String) : TypeExpr → Option (Except NameFault TypeExpr)
  | .path none leading before last =>
    some ((last.name.withSuffix ending).map fun name =>
      .path none leading before (.bare name))
  | _ => none

end TypeExpr

end Recordsmith.Source

import Recordsmith.Source.Complaint

/-!
# `Recordsmith.Source.Reader`: reading rows of token trees

A `Reader` takes trees off the front of a row and gives a value, or gives
up with a `Complaint`. While it reads it also writes: the trees as they
are to be printed. What is written differs from the source in spacing, in
that the last character of an operator is never joint to what follows,
and where a rule of the grammar leaves something out, adds something or
puts it elsewhere (`silently`, `write`, `captured`). `verbatimSince` goes
back to the trees of the source.

Trees that are left over in a group do not stop the reading. The first
group that has some is kept in mind, and `runAll` reports it in the end,
so a complaint about anything else comes first.
-/

set_option autoImplicit false

namespace Recordsmith.Source

/-- Where a reader stands. -/
structure Cursor where
  /-- The trees that are left. -/
  rest : List Tree
  /-- The trees that have been written, backwards. -/
  written : List Tree
  /-- The kind of the first group that had trees left over. -/
  leftOver : Option Delimiter

/-- A reader of token trees. -/
abbrev Reader (α : Type) := StateT Cursor (Except Complaint) α

namespace Reader

variable {α : Type}

/-! ### Looking -/

/-- The trees that are left. -/
def row : Reader (List Tree) := do
  return (← get).rest

/-- Whether no tree is left. -/
def atEnd : Reader Bool := do
  return (← row).isEmpty

/-- Whether a sign comes next. -/
def sees (sign : Sign) : Reader Bool := do
  return leadsWith (← row) sign

/-- Whether one of some words comes next. -/
def seesWord (words : List String) : Reader Bool := do
  return leadsWithWord (← row) words

/-- Whether a sign comes after the next thing. -/
def seesSecond (sign : Sign) : Reader Bool := do
  return leadsWith (afterFirst (← row)) sign

/-! ### Giving up -/

/-- Gives up, having looked for some signs. -/
def miss (signs : List Sign) : Reader α := do
  throw (.missing signs (← atEnd))

/-- Gives up, having wanted something. -/
def want (what : Wanted) : Reader α := do
  throw (.wanted what (← atEnd))

/-- Gives up because of a fault. -/
def fail (fault : Fault) : Reader α :=
  throw (.fault fault)

/-! ### Writing -/

/-- Writes some trees. -/
def write (trees : List Tree) : Reader Unit :=
  modify fun cursor => { cursor with written := trees.reverse ++ cursor.written }

/-- Goes on with other trees. -/
def advance (rest : List Tree) : Reader Unit :=
  modify fun cursor => { cursor with rest }

/-- Reads without writing, and gives back what would have been written. -/
def captured (reader : Reader α) : Reader (α × List Tree) := do
  let before := (← get).written
  modify fun cursor => { cursor with written := [] }
  let value ← reader
  let trees := (← get).written.reverse
  modify fun cursor => { cursor with written := before }
  return (value, trees)

/-- Reads without writing. -/
def silently (reader : Reader α) : Reader α := do
  return (← captured reader).1

/-- Reads and gives back what was written. -/
def recorded (reader : Reader α) : Reader (List Tree) := do
  let (_, trees) ← captured reader
  write trees
  return trees

/-- Reads a value and writes its own trees. -/
def rendered (trees : α → List Tree) (reader : Reader α) : Reader α := do
  let value ← silently reader
  write (trees value)
  return value

/-- Reads, and writes `lead` before what was written, if that is anything. -/
def ledBy (lead : List Tree) (reader : Reader α) : Reader α := do
  let (value, trees) ← captured reader
  if !trees.isEmpty then write (lead ++ trees)
  return value

/-- Writes what has been taken since `start` as it stands in the source, in
place of what was written since. -/
def verbatimSince (start : Cursor) : Reader Unit :=
  modify fun cursor =>
    let taken := start.rest.take (start.rest.length - cursor.rest.length)
    { cursor with written := taken.reverse ++ start.written }

/-! ### Single trees -/

/-- Takes an operator. -/
def operator (text : String) : Reader Unit := do
  match afterOperator? text.toList (← row) with
  | some rest =>
    advance rest
    write (Tree.operator text.toList)
  | none => throw (.missing [.operator text] false)

/-- Takes an operator if it comes next, and says whether it did. -/
def operator? (text : String) : Reader Bool := do
  if ← sees (.operator text) then
    operator text
    return true
  else return false

/-- Takes an identifier of any kind, reserved words included. -/
def anyIdent : Reader Ident := do
  match ← row with
  | .ident name :: rest =>
    advance rest
    write [.ident name]
    return name
  | _ => miss [.name]

/-- Takes a name. -/
def name : Reader Ident := do
  match ← row with
  | .ident name :: _ => if name.isName then anyIdent else throw (.reserved name.text)
  | _ => miss [.name]

/-- Takes a name or the given word. -/
def nameOr (word : String) : Reader Ident := do
  if ← sees (.word word) then anyIdent else name

/-- Takes a word. -/
def word (text : String) : Reader Unit := do
  if ← sees (.word text) then
    let _ ← anyIdent
  else miss [.word text]

/-- Takes a word if it comes next, and says whether it did. -/
def word? (text : String) : Reader Bool := do
  if ← sees (.word text) then
    word text
    return true
  else return false

/-- Takes a lifetime. -/
def lifetime : Reader Unit := do
  let trees ← row
  if leadsWith trees .lifetime then
    advance (trees.drop 2)
    write (trees.take 2)
  else miss [.lifetime]

/-- Takes a lifetime if it comes next, and says whether it did. -/
def lifetime? : Reader Bool := do
  if ← sees .lifetime then
    lifetime
    return true
  else return false

/-- Takes a literal. -/
def literal : Reader Literal := do
  match literalAhead? (← row) with
  | some (found, trees, rest) =>
    advance rest
    write trees
    return found
  | none => miss [.literal]

/-! ### Groups -/

/-- Reads the inside of a group. -/
def delimited (delimiter : Delimiter) (inside : Reader α) : Reader α := do
  let outer ← get
  match outer.rest with
  | .group found body :: rest =>
    if found = delimiter then
      set (Cursor.mk body [] outer.leftOver)
      let value ← inside
      let inner ← get
      let left := if inner.rest.isEmpty then none else some delimiter
      set (Cursor.mk rest (.group delimiter inner.written.reverse :: outer.written)
        (inner.leftOver.or left))
      return value
    else miss [.group delimiter]
  | _ => miss [.group delimiter]

/-- Takes a group of any kind as it is, and gives its delimiter. -/
def anyGroup : Reader Delimiter := do
  match ← row with
  | .group found body :: rest =>
    advance rest
    write [.group found body]
    return found
  | _ => want .delimiter

/-- Takes everything that is left as it is. -/
def everything : Reader Unit := do
  write (← row)
  advance []

/-! ### Repetition -/

/-- Repeats a reader as long as `more` holds, at most `limit` times. -/
def whileMoreUpTo (more : Reader Bool) (item : Reader α) : Nat → Reader (List α)
  | 0 => return []
  | limit + 1 => do
    if ← more then
      let first ← item
      let rest ← whileMoreUpTo more item limit
      return first :: rest
    else return []

/-- Repeats a reader as long as `more` holds. The reader has to take a tree
each time, so the length of the row bounds the number of rounds. -/
def whileMore (more : Reader Bool) (item : Reader α) : Reader (List α) := do
  whileMoreUpTo more item (← row).length

/-- Repeats a reader until no tree is left. -/
def untilEnd (item : Reader α) : Reader (List α) :=
  whileMore (return !(← atEnd)) item

/-- Reads items with commas between them until `closed` holds, at most
`limit` of them. Gives the items and whether a comma follows the last. -/
def commaList (closed : Reader Bool) (item : Reader α) : Nat → Reader (List α × Bool)
  | 0 => return ([], true)
  | limit + 1 => do
    if ← closed then return ([], true)
    let first ← item
    if ← closed then return ([first], false)
    operator ","
    let (rest, trailing) ← commaList closed item limit
    return (first :: rest, trailing)

/-- Reads items with commas between them until `closed` holds. Each comma
takes a tree, so the length of the row bounds their number. -/
def list (closed : Reader Bool) (item : Reader α) : Reader (List α × Bool) := do
  commaList closed item ((← row).length + 1)

/-- Reads items with commas between them up to the end of the row. -/
def items (item : Reader α) : Reader (List α × Bool) :=
  list atEnd item

/-- Reads items with plus signs between them until `closed` holds or no plus
sign follows, at most `limit` of them. -/
def plusList (closed : Reader Bool) (item : Reader α) : Nat → Reader Unit
  | 0 => return
  | limit + 1 => do
    if ← closed then return
    let _ ← item
    if ← operator? "+" then plusList closed item limit

/-- Reads items with plus signs between them until `closed` holds or no plus
sign follows. -/
def sum (closed : Reader Bool) (item : Reader α) : Reader Unit := do
  plusList closed item ((← row).length + 1)

/-- Reads items with plus signs between them until `closed` holds, at most
`limit` of them. -/
def strictPlusList (closed : Reader Bool) (item : Reader α) : Nat → Reader Unit
  | 0 => return
  | limit + 1 => do
    if ← closed then return
    let _ ← item
    if ← closed then return
    operator "+"
    strictPlusList closed item limit

/-- Reads items with plus signs between them until `closed` holds. -/
def strictSum (closed : Reader Bool) (item : Reader α) : Reader Unit := do
  strictPlusList closed item ((← row).length + 1)

/-! ### Whole rows -/

/-- Reads a whole row, and nothing else. -/
def runAll (reader : Reader α) (trees : List Tree) : Except Complaint α :=
  match reader.run ⟨trees, [], none⟩ with
  | .error complaint => .error complaint
  | .ok (value, cursor) =>
    match cursor.leftOver, cursor.rest with
    | some delimiter, _ => .error (.leftOver (some delimiter))
    | none, _ :: _ => .error (.leftOver none)
    | none, [] => .ok value

/-- What a reader leaves of a row, if it succeeds. -/
def after? (reader : Reader α) (trees : List Tree) : Option (List Tree) :=
  match reader.run ⟨trees, [], none⟩ with
  | .ok (_, cursor) => some cursor.rest
  | .error _ => none

end Reader

end Recordsmith.Source

import Recordsmith.Source.Literal
import Recordsmith.Text.Blank

/-!
# `Recordsmith.Source.Lexeme`: from characters to token trees

`Lexeme.scan` cuts a text into lexemes: opening and closing delimiters and
leaves. Blanks and comments are dropped, but documentation comments are
kept in the form they abbreviate: `/// x` is `#[doc = " x"]`.
`Lexeme.nest` puts what stands between matching delimiters into groups,
and `Tree.ofText?` does both.

Each scanning function takes the characters that are left and gives those
that remain after it, or nothing if its form does not stand there. The
order in which `leaf?` asks for the forms matters: a literal may look like
an identifier at first (`r"x"`, `b"x"`), and a character literal like a
lifetime.
-/

set_option autoImplicit false

namespace Recordsmith.Source

open Recordsmith.Text

/-- A piece of source text. -/
inductive Lexeme where
  | opens (delimiter : Delimiter)
  | closes (delimiter : Delimiter)
  | leaf (tree : Tree)
  deriving Repr

namespace Lexeme

/-- Whether a text starts with another. -/
def startsWith (cs : List Char) (start : String) : Bool :=
  start.toList.isPrefixOf cs

/-- The end of a line and what follows it. The line end belongs to neither
part, but its line feed still stands in the rest. -/
def untilLineEnd : List Char → List Char × List Char
  | [] => ([], [])
  | '\n' :: rest => ([], '\n' :: rest)
  | '\r' :: '\n' :: rest => ([], '\n' :: rest)
  | c :: rest =>
    let (line, after) := untilLineEnd rest
    (c :: line, after)

/-- The inside of a block comment that is open `depth + 1` times, and what
follows it. Block comments nest. -/
def untilBlockEnd (depth : Nat) : List Char → Option (List Char × List Char)
  | [] => none
  | '/' :: '*' :: rest =>
    (untilBlockEnd (depth + 1) rest).map fun (inside, after) => ('/' :: '*' :: inside, after)
  | '*' :: '/' :: rest =>
    match depth with
    | 0 => some ([], rest)
    | outer + 1 =>
      (untilBlockEnd outer rest).map fun (inside, after) => ('*' :: '/' :: inside, after)
  | c :: rest => (untilBlockEnd depth rest).map fun (inside, after) => (c :: inside, after)

/-- Whether a character separates lexemes. The two direction marks do,
though they are no blanks elsewhere. -/
def isSeparator (c : Char) : Bool :=
  isBlank c || c == Char.ofNat 0x200E || c == Char.ofNat 0x200F

/-- What follows a blank or a comment without documentation. -/
def skipOne? (cs : List Char) : Option (List Char) :=
  match cs with
  | [] => none
  | c :: rest =>
    if startsWith cs "//" && (!startsWith cs "///" || startsWith cs "////") &&
        !startsWith cs "//!" then
      some (untilLineEnd cs).2
    else if startsWith cs "/**/" then some (cs.drop 4)
    else if startsWith cs "/*" && (!startsWith cs "/**" || startsWith cs "/***") &&
        !startsWith cs "/*!" then
      (untilBlockEnd 0 (cs.drop 2)).map (·.2)
    else if isSeparator c then some rest
    else none

/-- Whether every carriage return is part of a line end. -/
def hasNoBareReturn : List Char → Bool
  | [] => true
  | '\r' :: '\n' :: rest => hasNoBareReturn rest
  | '\r' :: _ => false
  | _ :: rest => hasNoBareReturn rest

/-- A documentation comment: its text, and whether it describes what it
stands in rather than what it stands before. -/
def docComment? (cs : List Char) : Option ((List Char × Bool) × List Char) :=
  let found :=
    if startsWith cs "//!" then
      let (line, after) := untilLineEnd (cs.drop 3)
      some ((line, true), after)
    else if startsWith cs "/*!" then
      (untilBlockEnd 0 (cs.drop 2)).map fun (inside, after) => ((inside.drop 1, true), after)
    else if startsWith cs "///" && !startsWith cs "////" then
      let (line, after) := untilLineEnd (cs.drop 3)
      some ((line, false), after)
    else if startsWith cs "/**" && !startsWith cs "/***" then
      (untilBlockEnd 0 (cs.drop 2)).map fun (inside, after) => ((inside.drop 1, false), after)
    else none
  found.filter fun ((text, _), _) => hasNoBareReturn text

/-- The attribute that a documentation comment abbreviates. -/
def docAttribute (text : List Char) (inner : Bool) : List Lexeme :=
  [.leaf (.punct '#' false)] ++
    (if inner then [.leaf (.punct '!' false)] else []) ++
    [.leaf (Tree.brackets
      [Tree.word "doc", .punct '=' false, Tree.string (String.ofList text)])]

/-! ### Identifiers and punctuation -/

/-- An identifier without a raw mark, and what follows it. -/
def bareIdent? : List Char → Option (List Char × List Char)
  | [] => none
  | c :: rest =>
    if isIdentStart c then
      some (c :: rest.takeWhile isIdentContinue, rest.dropWhile isIdentContinue)
    else none

/-- The words that cannot be written raw. -/
def neverRaw : List String := ["_", "super", "self", "Self", "crate"]

/-- An identifier, raw or not. -/
def anyIdent? (cs : List Char) : Option (Ident × List Char) :=
  if startsWith cs "r#" then
    match bareIdent? (cs.drop 2) with
    | some (text, rest) =>
      if neverRaw.contains (String.ofList text) then none
      else some (⟨true, String.ofList text⟩, rest)
    | none => none
  else
    (bareIdent? cs).map fun (text, rest) => (Ident.plain (String.ofList text), rest)

/-- An identifier where no literal can start. -/
def ident? (cs : List Char) : Option (Ident × List Char) :=
  let literalStarts :=
    ["r\"", "r#\"", "r##", "b\"", "b'", "br\"", "br#", "c\"", "cr\"", "cr#"]
  if literalStarts.any (startsWith cs) then none else anyIdent? cs

/-- The characters of punctuation. -/
def isPunct (c : Char) : Bool :=
  "~!@#$%^&*-=+|;:,<.>/?'".toList.contains c

/-- A punctuation character that does not start a comment. -/
def punctChar? (cs : List Char) : Option (Char × List Char) :=
  match cs with
  | [] => none
  | c :: rest =>
    if startsWith cs "//" || startsWith cs "/*" then none
    else if isPunct c then some (c, rest)
    else none

/-- A punctuation character with its spacing. The mark of a lifetime needs a
name right behind it and no second mark behind that. -/
def punct? (cs : List Char) : Option (Tree × List Char) :=
  match punctChar? cs with
  | none => none
  | some (c, rest) =>
    if c == '\x27' then
      match anyIdent? rest with
      | none => none
      | some (_, after) =>
        if startsWith after "'" || (startsWith after "#" && !startsWith rest "r#") then none
        else some (.punct c true, rest)
    else some (.punct c (punctChar? rest).isSome, rest)

/-! ### Literals -/

/-- What follows the suffix of a literal, if it has one. -/
def skipSuffix (cs : List Char) : List Char :=
  match bareIdent? cs with
  | some (_, rest) => rest
  | none => cs

/-- What follows a raw literal whose letters have been taken. -/
def skipRaw? (form : Quoted.Form) (cs : List Char) : Option (List Char) :=
  let hashes := (cs.takeWhile (· == '#')).length
  match cs.drop hashes with
  | '"' :: body =>
    if hashes ≤ 255 then (Quoted.readRaw form hashes body).map fun (_, rest) => skipSuffix rest
    else none
  | _ => none

/-- What follows a literal between double quotation marks whose letters have
been taken. -/
def skipCooked? (form : Quoted.Form) (cs : List Char) : Option (List Char) :=
  match cs with
  | '"' :: body => (Quoted.readBody form body).map fun (_, rest) => skipSuffix rest
  | _ => none

/-- What follows a literal of one character, after its opening mark. -/
def skipSingle? (form : Quoted.Form) (cs : List Char) : Option (List Char) :=
  let inside :=
    match cs with
    | '\\' :: rest => (Quoted.readEscape form rest).map (·.2)
    | c :: rest => if form.allowsChar c then some rest else none
    | [] => none
  match inside with
  | some ('\x27' :: rest) => some (skipSuffix rest)
  | _ => none

/-- What follows a number whose digits have been taken: a suffix, and then
no character that would go on with a word. -/
def numberEnd? (cs : List Char) : Option (List Char) :=
  let rest := skipSuffix cs
  match rest with
  | c :: _ => if isIdentContinue c then none else some rest
  | [] => some rest

/-- The digits before an exponent. Gives whether a point was met, whether
the exponent mark was met, and what follows; the mark itself is left. -/
def mantissa (point : Bool) : List Char → Option (Bool × Bool × List Char)
  | [] => some (point, false, [])
  | c :: rest =>
    if c.isDigit || c == '_' then mantissa point rest
    else if c == '.' then
      if point then some (point, false, c :: rest)
      else
        match rest with
        | d :: _ => if d == '.' || isIdentStart d then none else mantissa true rest
        | [] => mantissa true rest
    else some (point, c == 'e' || c == 'E', c :: rest)

/-- What follows an exponent, after its mark, or nothing if it has no
digits. -/
def exponent? (sign digits : Bool) : List Char → Option (List Char)
  | [] => if digits then some [] else none
  | c :: rest =>
    if c == '+' || c == '-' then
      if digits then some (c :: rest)
      else if sign then none
      else exponent? true digits rest
    else if c.isDigit then exponent? sign true rest
    else if c == '_' then exponent? sign digits rest
    else if digits then some (c :: rest)
    else none

/-- What follows a number with a point or an exponent. -/
def skipFloat? (cs : List Char) : Option (List Char) :=
  match cs with
  | [] => none
  | c :: _ =>
    if !c.isDigit then none
    else
      match mantissa false cs with
      | none => none
      | some (point, false, rest) => if point then numberEnd? rest else none
      | some (point, true, rest) =>
        match exponent? false false (rest.drop 1) with
        | some after => numberEnd? after
        | none => if point then numberEnd? rest else none

/-- The digits of a whole number in the given base. `seen` says whether a
digit was met. -/
def wholeDigits? (base : Nat) (seen : Bool) : List Char → Option (List Char)
  | [] => if seen then some [] else none
  | c :: rest =>
    if c == '_' then
      if !seen && base == 10 then none else wholeDigits? base seen rest
    else
      match Hex.digitValue? c with
      | some value =>
        if value < base then wholeDigits? base true rest
        else if c.isDigit then none
        else if seen then some (c :: rest)
        else none
      | none => if seen then some (c :: rest) else none

/-- What follows a whole number. -/
def skipWhole? (cs : List Char) : Option (List Char) :=
  let digits :=
    if startsWith cs "0x" then wholeDigits? 16 false (cs.drop 2)
    else if startsWith cs "0o" then wholeDigits? 8 false (cs.drop 2)
    else if startsWith cs "0b" then wholeDigits? 2 false (cs.drop 2)
    else wholeDigits? 10 false cs
  digits.bind numberEnd?

/-- What follows a literal. -/
def skipLiteral? (cs : List Char) : Option (List Char) :=
  (skipCooked? .text cs)
    <|> (if startsWith cs "r" then skipRaw? .text (cs.drop 1) else none)
    <|> (if startsWith cs "b" then skipCooked? .bytes (cs.drop 1) else none)
    <|> (if startsWith cs "br" then skipRaw? .bytes (cs.drop 2) else none)
    <|> (if startsWith cs "c" then skipCooked? .terminated (cs.drop 1) else none)
    <|> (if startsWith cs "cr" then skipRaw? .terminated (cs.drop 2) else none)
    <|> (if startsWith cs "b'" then skipSingle? .bytes (cs.drop 2) else none)
    <|> (if startsWith cs "'" then skipSingle? .text (cs.drop 1) else none)
    <|> skipFloat? cs
    <|> skipWhole? cs

/-- A literal as it is written. -/
def literal? (cs : List Char) : Option (Tree × List Char) :=
  (skipLiteral? cs).map fun rest =>
    (.literal (String.ofList (cs.take (cs.length - rest.length))), rest)

/-- The text that stands for a literal without a value. -/
def placeholder? (cs : List Char) : Option (Tree × List Char) :=
  if startsWith cs Literal.placeholderText then
    some (.literal Literal.placeholderText, cs.drop Literal.placeholderText.length)
  else none

/-- A literal, a punctuation character or an identifier. -/
def leaf? (cs : List Char) : Option (Tree × List Char) :=
  literal? cs <|> punct? cs <|> (ident? cs).map (fun (name, rest) => (.ident name, rest))
    <|> placeholder? cs

/-! ### Whole texts -/

/-- The delimiter that a character opens. -/
def opened? (c : Char) : Option Delimiter :=
  if c == '(' then some .paren
  else if c == '[' then some .bracket
  else if c == '{' then some .brace
  else none

/-- The delimiter that a text starts with. The text for a literal without a
value starts with none, though its first character opens one elsewhere. -/
def opening? : List Char → Option Delimiter
  | [] => none
  | c :: rest => if (placeholder? (c :: rest)).isSome then none else opened? c

/-- The delimiter that a character closes. -/
def closed? (c : Char) : Option Delimiter :=
  if c == ')' then some .paren
  else if c == ']' then some .bracket
  else if c == '}' then some .brace
  else none

/-- The lexemes that stand next, none of them for blanks and comments, and
what follows them. -/
def next? (cs : List Char) : Option (List Lexeme × List Char) :=
  match cs with
  | [] => none
  | c :: rest =>
    match skipOne? cs with
    | some after => some ([], after)
    | none =>
      match docComment? cs with
      | some ((text, inner), after) => some (docAttribute text inner, after)
      | none =>
        match opening? cs, closed? c with
        | some delimiter, _ => some ([.opens delimiter], rest)
        | none, some delimiter => some ([.closes delimiter], rest)
        | none, none => (leaf? cs).map fun (tree, after) => ([.leaf tree], after)

/-- The lexemes of a text, or nothing if some character starts none. -/
def scan (cs : List Char) : Option (List Lexeme) :=
  if cs.isEmpty then some []
  else
    match next? cs with
    | none => none
    | some (lexemes, rest) =>
      if rest.length < cs.length then (scan rest).map (lexemes ++ ·) else none
termination_by cs.length

/-- Puts lexemes into groups. `outer` holds, from the inside out, the
delimiters that are open and the trees before each, backwards; `current`
holds the trees of the innermost group, backwards. -/
def nest (outer : List (Delimiter × List Tree)) (current : List Tree) :
    List Lexeme → Option (List Tree)
  | [] => if outer.isEmpty then some current.reverse else none
  | .leaf tree :: rest => nest outer (tree :: current) rest
  | .opens delimiter :: rest => nest ((delimiter, current) :: outer) [] rest
  | .closes delimiter :: rest =>
    match outer with
    | [] => none
    | (opened, before) :: outside =>
      if opened = delimiter then
        nest outside (.group delimiter current.reverse :: before) rest
      else none

end Lexeme

/-- The token trees of a text. A byte order mark in front is dropped. -/
def Tree.ofText? (text : String) : Option (List Tree) :=
  let cs := text.toList
  let cs := match cs with
    | c :: rest => if c == Char.ofNat 0xFEFF then rest else cs
    | [] => cs
  (Lexeme.scan cs).bind (Lexeme.nest [] [])

end Recordsmith.Source

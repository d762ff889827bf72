import Recordsmith.Data.Run

/-!
# `Recordsmith.Data.Codec`: stored forms of elements

An enumeration is stored as raw values (`RawEnum`), and an address as text
(`TextForm`). Stored values may be damaged. A single element is then a
corruption (`RawEnum.expect`, `TextForm.expect`, `expectPresent`), while a
list only loses the element and reports it (`RawEnum.keepValid`,
`TextForm.keepValid`).
-/

set_option autoImplicit false

namespace Recordsmith

/-- An enumeration and its raw values. -/
structure RawEnum where
  /-- The raw value of a variant. -/
  rawOf : Value → Value
  /-- The variant that a raw value stands for. Several may stand for one. -/
  ofRaw? : Value → Option Value
  /-- The raw value that stands for nothing stored. -/
  defaultRaw : Value

/-- A type and its texts. -/
structure TextForm where
  /-- The value that a text means, or why it means none. -/
  parse : String → Except String Value
  /-- The text of a value. -/
  print : Value → String

/-- The variant of a raw value that has to be valid. -/
def RawEnum.expect (enumeration : RawEnum) (raw : Value) (field : String) : Run Value :=
  match enumeration.ofRaw? raw with
  | some value => .done value
  | none => .fail (.corrupt (.strangeRaw field raw.shown))

/-- The variants of the raw values that are valid. Each other one is
reported. -/
def RawEnum.keepValid (enumeration : RawEnum) (field : String) :
    List Value → Run (List Value)
  | [] => .done []
  | raw :: rest =>
    match enumeration.ofRaw? raw with
    | some value => (enumeration.keepValid field rest).andThen fun values =>
        .done (value :: values)
    | none => (Run.report (.droppedRaw field raw.shown)).andThen fun _ =>
        enumeration.keepValid field rest

/-- The text that a stored value is. -/
def storedText : Value → String
  | .text text => text
  | _ => ""

/-- The value of a text that has to parse. -/
def TextForm.expect (form : TextForm) (text field : String) : Run Value :=
  match form.parse text with
  | .ok value => .done value
  | .error reason => .fail (.corrupt (.unparsed field text reason))

/-- The values of the texts that parse. Each other one is reported. -/
def TextForm.keepValid (form : TextForm) (field : String) : List String → Run (List Value)
  | [] => .done []
  | text :: rest =>
    match form.parse text with
    | .ok value => (form.keepValid field rest).andThen fun values => .done (value :: values)
    | .error reason => (Run.report (.droppedText field text reason)).andThen fun _ =>
        form.keepValid field rest

/-- A value that has to be there. -/
def expectPresent {α : Type} (value : Option α) (field : String) : Run α :=
  match value with
  | some found => .done found
  | none => .fail (.corrupt (.missing field))

end Recordsmith

import Recordsmith.Translate.Translator

/-!
# `Recordsmith.Sample.Tag`: a translator made by hand

A tag has a label and a weight, and its record also counts how often it was
written. Labels that are empty or longer than eight bytes are refused, but
only after the weight and the count have been written, so a tag shows what
a refusal leaves behind.
-/

set_option autoImplicit false

namespace Recordsmith.Sample.Tag

/-- The refusal of a label. -/
def refusal (message : String) : Failure :=
  .refused (.untranslatable "Tag.label" message)

/-- The record with a label, a weight and a count. -/
def row (identity : Identity) (label weight : Value) (writes : Int) : Row :=
  .mk identity [.plain label, .plain weight, .plain (.integer writes)]

/-- Reads a tag. -/
def read : Row → Run Entity
  | .mk identity [.plain (.text label), .plain weight, .plain _] => do
    Run.report (.notice "tag decode" [("label", label)])
    if label.isEmpty then .fail (refusal "stored label is empty")
    else return .mk identity [] [.one (.text label), .one weight]
  | _ => .fail (.misshapen "Tag")

/-- Writes a tag into a record with the given label and count. -/
def overwrite (identity : Identity) (stored : Value) (writes : Int) (label : String)
    (weight : Value) : Step Row Unit :=
  let refused (message : String) : Step Row Unit :=
    .fail (row identity stored weight (writes + 1)) (refusal message)
  if label.isEmpty then refused "label is empty"
  else if 8 < label.utf8ByteSize then refused ("`" ++ label ++ "` is too long")
  else .done (row identity (.text label) weight (writes + 1)) ()

/-- Writes a tag. -/
def write : Entity → Row → Step Row Unit
  | .mk _ _ [.one (.text label), .one weight],
      .mk identity [.plain stored, .plain _, .plain (.integer writes)] =>
    (overwrite identity stored writes label weight).after
      [.notice "tag encode" [("label", label)]]
  | _, row => .fail row (.misshapen "Tag")

/-- The translator of tags. -/
def translator : Translator where
  fresh := row .empty (.text "") (.integer 0) 0
  read := read
  write := write

end Recordsmith.Sample.Tag

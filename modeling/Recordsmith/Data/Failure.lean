import Recordsmith.Data.Value

/-!
# `Recordsmith.Data.Failure`: what can go wrong at run time

A `StoreError` is an outcome that callers have to expect. A `Corruption`
means that a record holds what the program never writes; reading stops
there. Each names the field it is about.
-/

set_option autoImplicit false

namespace Recordsmith

/-- An error of a store or a translator. -/
inductive StoreError where
  | emptyIdentity
  | duplicateIdentity (identity : Identity)
  | missingRecord (identity : Identity)
  /-- A translator does not accept a value. -/
  | untranslatable (field message : String)
  deriving DecidableEq, Repr

/-- The wording of an error. -/
def StoreError.message : StoreError → String
  | .emptyIdentity => "entity identity is empty"
  | .duplicateIdentity identity =>
    "a record with identity `" ++ identity.text ++ "` already exists"
  | .missingRecord identity => "no record with identity `" ++ identity.text ++ "`"
  | .untranslatable field message => "cannot translate `" ++ field ++ "`: " ++ message

/-- What is wrong with a stored value. -/
inductive Corruption where
  /-- A raw value that no variant has, as it is shown. -/
  | strangeRaw (field shown : String)
  /-- A text that does not parse, and why. -/
  | unparsed (field text reason : String)
  /-- Nothing is stored though something has to be. -/
  | missing (field : String)
  deriving DecidableEq, Repr

/-- The field that a corruption is about. -/
def Corruption.field : Corruption → String
  | .strangeRaw field _ | .unparsed field _ _ | .missing field => field

/-- The wording of a corruption. -/
def Corruption.message (corruption : Corruption) : String :=
  "corrupt stored value for `" ++ corruption.field ++ "`: " ++
    match corruption with
    | .strangeRaw _ shown => shown ++ " is not a valid raw value"
    | .unparsed _ text reason => Text.Quoted.shown text ++ " does not parse: " ++ reason
    | .missing _ => "required value is missing"

/-- Why a run stopped. -/
inductive Failure where
  | refused (error : StoreError)
  | corrupt (corruption : Corruption)
  /-- A value does not have the shape that its property asks for. Values that
  fit their schema never lead here. -/
  | misshapen (field : String)
  deriving DecidableEq, Repr

/-- The wording of a failure. -/
def Failure.message : Failure → String
  | .refused error => error.message
  | .corrupt corruption => corruption.message
  | .misshapen field => "value of `" ++ field ++ "` has the wrong shape"

end Recordsmith

import Recordsmith.Data.Identity

/-!
# `Recordsmith.Data.Event`: the log

What a run reports while it goes on, in order. Each event has a level, a
message, and named fields.
-/

set_option autoImplicit false

namespace Recordsmith

/-- How important an event is. -/
inductive Level where
  | trace
  | debug
  | info
  | warn
  deriving DecidableEq, Repr

/-- Something that a run reports. -/
inductive Event where
  /-- A record is about to be made for an entity that has none. -/
  | creating (identity : Identity)
  /-- A store takes a record in. -/
  | inserting (identity : Identity)
  /-- An entity has been written. -/
  | persisted (identity : Identity)
  /-- An entity has been removed. -/
  | deleted (identity : Identity)
  /-- An element of a list is left out, since no variant has its raw value. -/
  | droppedRaw (field shown : String)
  /-- An element of a list is left out, since its text does not parse. -/
  | droppedText (field text reason : String)
  /-- Something a custom translator reports. -/
  | notice (message : String) (fields : List (String × String))
  deriving DecidableEq, Repr

namespace Event

/-- The level of an event. -/
def level : Event → Level
  | .creating _ | .persisted _ | .deleted _ => .debug
  | .inserting _ => .trace
  | .droppedRaw _ _ | .droppedText _ _ _ => .warn
  | .notice _ _ => .info

/-- The message of an event. -/
def message : Event → String
  | .creating _ => "creating record"
  | .inserting _ => "inserting record"
  | .persisted _ => "persisted entity"
  | .deleted _ => "deleted entity"
  | .droppedRaw _ _ | .droppedText _ _ _ => "dropping invalid stored element"
  | .notice message _ => message

/-- The named fields of an event. -/
def fields : Event → List (String × String)
  | .creating identity | .inserting identity | .persisted identity | .deleted identity =>
    [("identity", identity.text)]
  | .droppedRaw field shown => [("field", field), ("raw", shown)]
  | .droppedText field text reason => [("field", field), ("text", text), ("error", reason)]
  | .notice _ fields => fields

end Event

end Recordsmith

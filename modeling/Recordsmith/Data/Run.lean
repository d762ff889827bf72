import Recordsmith.Data.Event
import Recordsmith.Data.Failure

/-!
# `Recordsmith.Data.Run`: runs that log and may fail

A `Run` reports events and ends with a value or a failure. Runs are put one
after the other with `do`: the events of the first come first, and a
failure ends the whole; the events before it stay.

A `Step` is a run that also changes something. What it leaves behind is
there whether it fails or not, so a step that fails halfway shows how far
it came.
-/

set_option autoImplicit false

namespace Recordsmith

/-- A run: its events, and a value or a failure. -/
structure Run (α : Type) where
  log : List Event
  result : Except Failure α

namespace Run

variable {α β : Type}

/-- The run that gives a value at once. -/
def done (value : α) : Run α :=
  ⟨[], .ok value⟩

/-- The run that fails at once. -/
def fail (failure : Failure) : Run α :=
  ⟨[], .error failure⟩

/-- The run that reports one event. -/
def report (event : Event) : Run Unit :=
  ⟨[event], .ok ()⟩

/-- One run after the other. -/
def andThen (first : Run α) (next : α → Run β) : Run β :=
  match first.result with
  | .ok value => ⟨first.log ++ (next value).log, (next value).result⟩
  | .error failure => ⟨first.log, .error failure⟩

instance : Monad Run where
  pure := done
  bind := andThen

end Run

/-- A run that changes something: what is left of it, its events, and a value
or a failure. -/
structure Step (σ α : Type) where
  state : σ
  log : List Event
  result : Except Failure α

namespace Step

variable {σ τ α β : Type}

/-- The step that changes nothing and gives a value. -/
def done (state : σ) (value : α) : Step σ α :=
  ⟨state, [], .ok value⟩

/-- The step that changes nothing and fails. -/
def fail (state : σ) (failure : Failure) : Step σ α :=
  ⟨state, [], .error failure⟩

/-- One step after the other. -/
def andThen (first : Step σ α) (next : σ → α → Step σ β) : Step σ β :=
  match first.result with
  | .ok value =>
    let second := next first.state value
    ⟨second.state, first.log ++ second.log, second.result⟩
  | .error failure => ⟨first.state, first.log, .error failure⟩

/-- The step with events before it. -/
def after (events : List Event) (step : Step σ α) : Step σ α :=
  { step with log := events ++ step.log }

/-- The step seen as a change of something larger. -/
def within (step : Step σ α) (put : σ → τ) : Step τ α :=
  ⟨put step.state, step.log, step.result⟩

end Step

end Recordsmith

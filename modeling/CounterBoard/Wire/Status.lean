import CounterBoard.Service
import CounterBoard.Wire.Chart

/-!
The JSON forms of a status and of an error, and the request for another selection.
-/

set_option autoImplicit false
set_option relaxedAutoImplicit false

namespace CounterBoard

open CounterBoard.Json

/-- Writes a data state; only a failure has a reason. -/
def DataState.write : DataState → List Char
  | .loading => writeObject [("state", writeString "loading")]
  | .ready => writeObject [("state", writeString "ready")]
  | .unavailable reason =>
    writeObject [("state", writeString "unavailable"), ("reason", writeString reason)]

def Status.write (s : Status) : List Char :=
  writeObject [("state", s.state.write), ("selection", s.selection.write)]

def writeError (message : String) : List Char :=
  writeObject [("error", writeString message)]

/-- The labels that a request selects by; an absent one keeps what is selected. -/
structure SelectionRequest where
  granularity : Option String
  lookback : Option String
  deriving DecidableEq

namespace SelectionRequest

structure Draft where
  granularity : Option (Option String)
  lookback : Option (Option String)

/-- The fields of a request; null counts as absent. -/
def fields : List (FieldReader Draft) := [
  .kept "granularity" Draft.granularity (fun d v => { d with granularity := some v })
    (nullable string),
  .kept "lookback" Draft.lookback (fun d v => { d with lookback := some v }) (nullable string)]

def complete? (d : Draft) : Option SelectionRequest :=
  some ⟨d.granularity.getD none, d.lookback.getD none⟩

def read : Reader SelectionRequest :=
  object ⟨none, none⟩ fields complete?

def command (r : SelectionRequest) : Command :=
  .select (r.granularity.map .ofLabel) (r.lookback.map .ofLabel)

end SelectionRequest

end CounterBoard

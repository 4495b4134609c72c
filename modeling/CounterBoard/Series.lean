import CounterBoard.Log.Counter
import CounterBoard.Selection

/-!
Resampled series: points at regular instants, each with a value for every counter.
-/

set_option autoImplicit false
set_option relaxedAutoImplicit false

namespace CounterBoard

open CounterBoard.Time

structure GridPoint where
  timestamp : Instant
  values : List UInt64
  deriving DecidableEq

def GridPoint.value (p : GridPoint) (index : Nat) : Except Fault UInt64 :=
  match p.values[index]? with
  | some value => .ok value
  | none => .error (.missingColumn p.values.length index)

/-- Points over a grid, the kinds of their columns, what was selected, and how many entries of the
log were used up. -/
structure Series where
  selection : Selection
  kinds : List CounterKind
  points : List GridPoint
  consumed : Nat
  deriving DecidableEq

namespace Series

def timestamps (s : Series) : List Instant :=
  s.points.map GridPoint.timestamp

def valuesAt (s : Series) (index : Nat) : Except Fault (List UInt64) :=
  s.points.mapM fun p => p.value index

/-- The values of the first counter of a kind, if there is one. -/
def column (s : Series) (kind : CounterKind) : Except Fault (Option (List UInt64)) :=
  match s.kinds.findIdx? (· = kind) with
  | some index => (s.valuesAt index).map some
  | none => .ok none

end Series

end CounterBoard

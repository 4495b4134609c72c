/-!
Faults: the ways in which a computation over instants, counts and columns leaves its domain, or a
service cannot be set up.
-/

set_option autoImplicit false
set_option relaxedAutoImplicit false

namespace CounterBoard

/-- The most commands that can wait in a line. -/
def mostWaiting : Nat := 2305843009213693951

/-- What stopped a computation that has no answer of its own for the case. -/
inductive Fault
  /-- An instant before the first one that can be written. -/
  | beforeFirstInstant
  /-- An instant after the last one that can be written. -/
  | afterLastInstant
  /-- A count above the largest one that can be kept. -/
  | countOverflow
  /-- A point with too few values for the column that was asked of it. -/
  | missingColumn (width index : Nat)
  /-- A line for more commands than can ever wait. -/
  | lineTooLong
  deriving DecidableEq

def Fault.message : Fault → String
  | .beforeFirstInstant => "`DateTime - TimeDelta` overflowed"
  | .afterLastInstant => "`DateTime + TimeDelta` overflowed"
  | .countOverflow => "attempt to add with overflow"
  | .missingColumn width index =>
    "index out of bounds: the len is " ++ toString width ++ " but the index is " ++ toString index
  | .lineTooLong =>
    "a semaphore may not have more than MAX_PERMITS permits (" ++ toString mostWaiting ++ ")"

end CounterBoard

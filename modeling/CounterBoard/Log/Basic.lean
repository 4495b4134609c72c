import CounterBoard.Log.Counter
import CounterBoard.Text.Quoted
import CounterBoard.Time.Instant

/-!
The log: the instants of its entries, and counters with a value for each of them. A log is built
only from counters that fit its entries. The entries need not be in the order of time.
-/

set_option autoImplicit false
set_option relaxedAutoImplicit false

namespace CounterBoard

open CounterBoard.Time

inductive LogError
  /-- A column is longer or shorter than the list of instants. -/
  | lengthMismatch (counter : CounterKind) (expected actual : Nat)
  /-- A text among the times names no instant. -/
  | invalidTimestamp (index : Nat) (text : String)
  deriving DecidableEq

def LogError.message : LogError → String
  | .lengthMismatch counter expected actual =>
    "counter " ++ counter.name ++ " has " ++ toString actual ++ " values, expected " ++
      toString expected ++ " (one per timestamp)"
  | .invalidTimestamp index text =>
    "invalid timestamp at index " ++ toString index ++ ": " ++ Text.quoted text

structure Log where
  times : List Instant
  counters : List Counter
  aligned : ∀ c ∈ counters, c.Fits times.length
  deriving DecidableEq

namespace Log

def empty : Log :=
  ⟨[], [], by simp⟩

/-- The log of the given columns, or the first counter whose column does not fit. -/
def ofColumns (times : List Instant) (counters : List Counter) : Except LogError Log :=
  match h : counters.find? fun c => ¬ c.Fits times.length with
  | some c => .error (.lengthMismatch c.kind times.length (c.columnLength?.getD 0))
  | none => .ok ⟨times, counters, by simpa using List.find?_eq_none.mp h⟩

def length (log : Log) : Nat :=
  log.times.length

def kinds (log : Log) : List CounterKind :=
  log.counters.map Counter.kind

/-- Whether no instant is before the one in front of it. -/
def isSortedFrom : List Instant → Bool
  | s :: t :: rest => s ≤ t && isSortedFrom (t :: rest)
  | _ => true

def isSorted (log : Log) : Bool :=
  isSortedFrom log.times

/-- The values of all counters before any entry. -/
def initialRow (log : Log) : List UInt64 :=
  log.counters.map Counter.initial

end Log

end CounterBoard

/-!
Counters of a log: a kind, and either one value for each entry or one value for all of them.
-/

set_option autoImplicit false
set_option relaxedAutoImplicit false

namespace CounterBoard

inductive CounterKind
  | connections | completed | torrents
  deriving DecidableEq

def CounterKind.name : CounterKind → String
  | .connections => "connections"
  | .completed => "completed"
  | .torrents => "torrents"

/-- The values of a counter: a column with a value for each entry, or a gauge that holds
throughout. -/
inductive Values
  | series (column : List UInt64)
  | constant (value : UInt64)
  deriving DecidableEq

structure Counter where
  kind : CounterKind
  values : Values
  deriving DecidableEq

namespace Counter

/-- The value before any entry. -/
def initial (c : Counter) : UInt64 :=
  match c.values with
  | .series _ => 0
  | .constant value => value

def valueAt (c : Counter) (position : Nat) : Option UInt64 :=
  match c.values with
  | .series column => column[position]?
  | .constant value => some value

/-- The number of values in the column of a counter; a gauge has no column. -/
def columnLength? (c : Counter) : Option Nat :=
  match c.values with
  | .series column => some column.length
  | .constant _ => none

/-- A counter fits a number of entries if its column, where it has one, is as long. -/
def Fits (c : Counter) (entries : Nat) : Prop :=
  ∀ length ∈ c.columnLength?, length = entries

instance (c : Counter) (entries : Nat) : Decidable (c.Fits entries) :=
  inferInstanceAs (Decidable (∀ length ∈ c.columnLength?, length = entries))

end Counter

end CounterBoard

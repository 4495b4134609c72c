import CounterBoard.Text.Blank
import CounterBoard.Time.Instant

/-!
What a viewer selects: the step of the time grid and how far it looks back. Labels of a selector
are understood in any case and between blanks, and a label that is not understood has a meaning
too.
-/

set_option autoImplicit false
set_option relaxedAutoImplicit false

namespace CounterBoard

open CounterBoard.Time

inductive Granularity
  | hour | minute
  deriving DecidableEq

inductive Lookback
  | oneHour | fiveHours | oneDay | threeDays
  deriving DecidableEq

/-- A label without the blanks around it, in lower case. Letters outside ASCII are left as they are:
none of them has a lower case that a known label holds. -/
def plainLabel (label : String) : String :=
  String.ofList ((Text.trim label.toList).map Char.toLower)

namespace Granularity

def step : Granularity → Nat
  | .hour => 3600
  | .minute => 60

theorem step_pos (g : Granularity) : 0 < g.step := by
  cases g <;> decide

/-- The granularity that a label asks for; a label of no known meaning asks for minutes. -/
def ofLabel (label : String) : Granularity :=
  if plainLabel label ∈ ["in hours", "hours", "hour"] then .hour else .minute

/-- Whether an instant lies in the half-open bucket that a grid point opens. The end of the bucket
is looked for only when the instant is not before its start. -/
def contains (g : Granularity) (grid t : Instant) : Except Fault Bool :=
  if grid ≤ t then do
    let stop ← grid.later g.step
    .ok (t < stop)
  else .ok false

end Granularity

namespace Lookback

/-- Every lookback, from the shortest to the longest. -/
def all : List Lookback :=
  [.oneHour, .fiveHours, .oneDay, .threeDays]

def hours : Lookback → Nat
  | .oneHour => 1
  | .fiveHours => 5
  | .oneDay => 24
  | .threeDays => 72

def span (l : Lookback) : Nat :=
  l.hours * 3600

/-- The lookback that a label asks for; a label of no known meaning asks for three days. -/
def ofLabel (label : String) : Lookback :=
  let plain := plainLabel label
  if plain ∈ ["last hour", "1", "1h"] then .oneHour
  else if plain ∈ ["last five hours", "5", "5h"] then .fiveHours
  else if plain ∈ ["last day", "24", "24h"] then .oneDay
  else .threeDays

end Lookback

structure Selection where
  granularity : Granularity
  lookback : Lookback
  deriving DecidableEq

namespace Selection

def standard : Selection :=
  ⟨.hour, .oneHour⟩

/-- The number of grid points that cover the lookback. -/
def gridLength (s : Selection) : Nat :=
  (s.lookback.span + s.granularity.step - 1) / s.granularity.step

end Selection

end CounterBoard

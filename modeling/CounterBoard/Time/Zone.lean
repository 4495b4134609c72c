import CounterBoard.Time.Calendar

/-!
Local time zones: from the seconds of UTC to the offset that wall clocks show, and from a wall
clock back to the offset it was set by. Seasonal zones change twice a year, in every year, so a
stretch of wall time is skipped and another is repeated.
-/

set_option autoImplicit false
set_option relaxedAutoImplicit false

namespace CounterBoard.Time

def secondsPerDay : Int := 86400

/-- A yearly moment of change: the `week`-th Sunday of a month, so many seconds into that day by
the wall clock in force until then. -/
structure Change where
  month : Nat
  week : Nat
  second : Int
  deriving DecidableEq

def Change.wall (c : Change) (year : Int) : Int :=
  sundayOfMonth year c.month c.week * secondsPerDay + c.second

/-- The rule of a local clock; offsets are seconds east of UTC. -/
inductive Zone
  | fixed (offset : Int)
  | seasonal (standard summer : Int) (starts ends : Change)
  deriving DecidableEq

namespace Zone

def utc : Zone := .fixed 0

def kolkata : Zone := .fixed 19800

/-- Five hours behind, four in summer, from the second Sunday of March, 02:00, to the first
Sunday of November, 02:00. -/
def newYork : Zone := .seasonal (-18000) (-14400) ⟨3, 2, 7200⟩ ⟨11, 1, 7200⟩

/-- Ten hours ahead, eleven in summer, from the first Sunday of October, 02:00, to the first
Sunday of April, 03:00. -/
def sydney : Zone := .seasonal 36000 39600 ⟨10, 1, 7200⟩ ⟨4, 1, 10800⟩

def yearOfSecond (seconds : Int) : Int :=
  (Date.ofDays (seconds / secondsPerDay)).year

def offsetAt : Zone → Int → Int
  | .fixed offset, _ => offset
  | .seasonal standard summer starts ends, seconds =>
    let year := yearOfSecond seconds
    let start := starts.wall year - standard
    let stop := ends.wall year - summer
    let inSummer :=
      if start ≤ stop then start ≤ seconds ∧ seconds < stop else seconds < stop ∨ start ≤ seconds
    if inSummer then summer else standard

/-- The offset under which a wall clock shows a second: none for a second that the start of summer
skips, and the standard one for a second that the end of summer repeats. Of the two ends of the
skipped stretch, the first is still shown where summer lies within the year, and the stretch
is skipped from its first second on where summer lies across the turn of the year. -/
def offsetOfWall? : Zone → Int → Option Int
  | .fixed offset, _ => some offset
  | .seasonal standard summer starts ends, wall =>
    let year := yearOfSecond wall
    let start := starts.wall year
    let stop := ends.wall year
    let gain := summer - standard
    if start ≤ stop then
      if wall ≤ start then some standard
      else if wall < start + gain then none
      else if wall < stop - gain then some summer
      else some standard
    else
      if wall < stop - gain then some summer
      else if wall < start then some standard
      else if wall < start + gain then none
      else some summer

end Zone

end CounterBoard.Time

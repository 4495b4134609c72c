import CounterBoard.Text.Digits
import CounterBoard.Time.Instant
import CounterBoard.Time.Zone

/-!
What a clock and a calendar on the wall show, as fields, and the texts that are written from it.
A leap second shows as second 60.
-/

set_option autoImplicit false
set_option relaxedAutoImplicit false

namespace CounterBoard.Time

open CounterBoard.Text

structure Clock where
  date : Date
  hour : Nat
  minute : Nat
  second : Nat
  fraction : Nat
  deriving DecidableEq

namespace Clock

def ofWall (wall : Int) (nanos : Nat) : Clock :=
  let ofDay := (wall % secondsPerDay).toNat
  { date := Date.ofDays (wall / secondsPerDay)
    hour := ofDay / 3600
    minute := ofDay / 60 % 60
    second := ofDay % 60 + nanos / nanosPerSecond
    fraction := nanos % nanosPerSecond }

/-- Whether the fields lie in the ranges of a clock; a minute may have a second 60. -/
def isValid (c : Clock) : Bool :=
  c.date.isValid && c.hour ≤ 23 && c.minute ≤ 59 && c.second ≤ 60

def toWall (c : Clock) : Int × Nat :=
  let leap := c.second / 60
  (c.date.toDays * secondsPerDay + (c.hour * 3600 + c.minute * 60 + (c.second - leap) : Nat),
    leap * nanosPerSecond + c.fraction)

/-- A year has four digits at least, and a sign where it is negative or has more. -/
def yearText (year : Int) : List Char :=
  if 0 ≤ year ∧ year ≤ 9999 then padded 4 year.toNat
  else (if year < 0 then '-' else '+') :: atLeast 4 year.natAbs

def dateText (d : Date) : List Char :=
  yearText d.year ++ '-' :: padded 2 d.month ++ '-' :: padded 2 d.day

def timeText (c : Clock) : List Char :=
  padded 2 c.hour ++ ':' :: padded 2 c.minute ++ ':' :: padded 2 c.second

/-- A fraction of a second has three, six or nine digits, the fewest that write it in full; none
is written for zero. -/
def fractionText (nanos : Nat) : List Char :=
  if nanos = 0 then []
  else if nanos % 1000000 = 0 then '.' :: padded 3 (nanos / 1000000)
  else if nanos % 1000 = 0 then '.' :: padded 6 (nanos / 1000)
  else '.' :: padded 9 nanos

/-- Date and time of day with their fraction, parted by the letter T. -/
def fullText (c : Clock) : List Char :=
  dateText c.date ++ 'T' :: timeText c ++ fractionText c.fraction

/-- Date and time of day in whole seconds, parted by a space. -/
def plainText (c : Clock) : List Char :=
  dateText c.date ++ ' ' :: timeText c

end Clock

namespace Instant

def utcClock (t : Instant) : Clock :=
  .ofWall t.seconds t.nanos

def localClock (t : Instant) (zone : Zone) : Clock :=
  .ofWall (t.seconds + zone.offsetAt t.seconds) t.nanos

/-- The text of an instant in charts and series: UTC, closed by the letter Z. -/
def zuluText (t : Instant) : List Char :=
  t.utcClock.fullText ++ ['Z']

/-- The text of an instant in snapshots: UTC, closed by the offset zero. -/
def offsetText (t : Instant) : List Char :=
  t.utcClock.fullText ++ "+00:00".toList

/-- The text under which a recorder in a zone notes an instant: local, in whole seconds, with no
word of the zone. -/
def localText (t : Instant) (zone : Zone) : List Char :=
  (t.localClock zone).plainText

end Instant

end CounterBoard.Time

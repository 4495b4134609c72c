/-!
The proleptic Gregorian calendar: the day with a given number, counted from the first day of
1970, and the number of a given day. Years run through zero into the negative numbers.
-/

set_option autoImplicit false
set_option relaxedAutoImplicit false

namespace CounterBoard.Time

def isLeapYear (year : Int) : Bool :=
  year % 4 == 0 && (year % 100 != 0 || year % 400 == 0)

def monthLengths (leap : Bool) : List Nat :=
  [31, if leap then 29 else 28, 31, 30, 31, 30, 31, 31, 30, 31, 30, 31]

def daysIn : List Nat → Nat
  | [] => 0
  | length :: lengths => length + daysIn lengths

/-- The days from the first day of the year 1 to the first day of a year. -/
def daysBeforeYear (year : Int) : Int :=
  let whole := year - 1
  365 * whole + whole / 4 - whole / 100 + whole / 400

/-- The days from the first day of the year 1 to the first day of 1970. -/
def epochDay : Int := 719162

/-- The year that holds the day so many days after the first day of the year 1: the mean length
of a year gives it up to one, and the first days of the years nearby decide. -/
def yearOfDay (days : Int) : Int :=
  let guess := 400 * days / 146097 + 1
  if days < daysBeforeYear guess then guess - 1
  else if daysBeforeYear (guess + 1) ≤ days then guess + 1
  else guess

/-- A day of the calendar; months and days of the month count from one. -/
structure Date where
  year : Int
  month : Nat
  day : Nat
  deriving DecidableEq

namespace Date

def isValid (d : Date) : Bool :=
  match d.month with
  | 0 => false
  | month + 1 =>
    match (monthLengths (isLeapYear d.year))[month]? with
    | some length => 1 ≤ d.day && d.day ≤ length
    | none => false

/-- The number of a date, counted from the first day of 1970. -/
def toDays (d : Date) : Int :=
  daysBeforeYear d.year - epochDay +
    daysIn ((monthLengths (isLeapYear d.year)).take (d.month - 1)) + d.day - 1

def monthAndDay : List Nat → Nat → Nat → Nat × Nat
  | [], month, days => (month, days + 1)
  | length :: lengths, month, days =>
    if days < length then (month, days + 1) else monthAndDay lengths (month + 1) (days - length)

def ofDays (days : Int) : Date :=
  let year := yearOfDay (days + epochDay)
  let dayOfYear := (days + epochDay - daysBeforeYear year).toNat
  let (month, day) := monthAndDay (monthLengths (isLeapYear year)) 1 dayOfYear
  { year, month, day }

end Date

/-- The day of the week of a numbered day, counted from Sunday as zero. -/
def weekday (days : Int) : Int :=
  (days + 4) % 7

/-- The number of the `week`-th Sunday of a month. -/
def sundayOfMonth (year : Int) (month week : Nat) : Int :=
  let first := Date.toDays { year, month, day := 1 }
  first + (-weekday first) % 7 + 7 * (week - 1 : Nat)

end CounterBoard.Time

import CounterBoard.Text.Digits

/-!
The moments of TOML 1.1: a date, a time of day, or both, with or without an offset. Nothing is
asked of a moment but whether it is well written, so that is all that is read of it.
-/

set_option autoImplicit false
set_option relaxedAutoImplicit false

namespace CounterBoard.Toml

open CounterBoard.Text

def daysOfMonth (year month : Nat) : Nat :=
  if month = 2 then
    if year % 4 = 0 ∧ (year % 100 ≠ 0 ∨ year % 400 = 0) then 29 else 28
  else if month = 4 ∨ month = 6 ∨ month = 9 ∨ month = 11 then 30
  else 31

def date? (t : List Char) : Option (List Char) := do
  let (year, t) ← digits? 4 t
  let t ← expect? '-' t
  let (month, t) ← digits? 2 t
  let t ← expect? '-' t
  let (day, t) ← digits? 2 t
  guard (1 ≤ month ∧ month ≤ 12 ∧ 1 ≤ day ∧ day ≤ daysOfMonth year month)
  some t

def seconds? : List Char → Option (List Char)
  | ':' :: t => do
    let (second, t) ← digits? 2 t
    guard (second ≤ 60)
    match t with
    | '.' :: t =>
      let rest := t.dropWhile Char.isDigit
      guard (rest.length < t.length)
      some rest
    | t => some t
  | t => some t

def hoursAndMinutes? (t : List Char) : Option (List Char) := do
  let (hour, t) ← digits? 2 t
  let t ← expect? ':' t
  let (minute, t) ← digits? 2 t
  guard (hour ≤ 23 ∧ minute ≤ 59)
  some t

def time? (t : List Char) : Option (List Char) := do
  let t ← hoursAndMinutes? t
  seconds? t

def momentOffset? : List Char → Option (List Char)
  | 'Z' :: t => some t
  | 'z' :: t => some t
  | '+' :: t => hoursAndMinutes? t
  | '-' :: t => hoursAndMinutes? t
  | t => some t

def dateAndTime? (t : List Char) : Option (List Char) := do
  let t ← date? t
  match t with
  | [] => some []
  | c :: t =>
    guard (c = 'T' ∨ c = 't' ∨ c = ' ')
    let t ← time? t
    momentOffset? t

/-- Whether a text is a moment: a date, a time of day, or both with or without an offset. -/
def isMoment (cs : List Char) : Bool :=
  dateAndTime? cs == some [] || time? cs == some []

end CounterBoard.Toml

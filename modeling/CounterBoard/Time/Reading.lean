import CounterBoard.Text.Blank
import CounterBoard.Time.Clock

/-!
Reading instants from text. Three grammars are tried in turn: the strict internet form, which
carries its offset, and two lenient forms of wall time in the zone of the server, which differ in
what parts date and time of day. A fourth grammar, the relaxed internet form, is that of
instants in charts and series.
-/

set_option autoImplicit false
set_option relaxedAutoImplicit false

namespace CounterBoard.Time

open CounterBoard.Text

/-- The instant at which a valid clock, so many seconds east of UTC, shows the given fields. -/
def instantOf? (c : Clock) (offset : Int) : Option Instant :=
  if c.isValid then
    let (wall, nanos) := c.toWall
    Instant.ofParts? (wall - offset) nanos
  else none

/-- Reads the nine decimals after a point; further digits are dropped. -/
def decimals? (t : List Char) : Option (Nat × List Char) :=
  match splitDigits 9 t with
  | ([], _) => none
  | (ds, rest) => some (number ds * tenTo (9 - ds.length), rest.dropWhile Char.isDigit)

def fraction? : List Char → Option (Nat × List Char)
  | '.' :: t => decimals? t
  | t => some (0, t)

/-- Reads the sign of an offset; the mathematical minus sign is one too. -/
def sign? : List Char → Option (Int × List Char)
  | '+' :: t => some (1, t)
  | '-' :: t => some (-1, t)
  | '−' :: t => some (-1, t)
  | _ => none

/-- Reads an offset in seconds: the letter Z, or a sign, hours, what parts them from the minutes,
and minutes. It is less than a day. -/
def offset? (part : List Char → Option (List Char)) : List Char → Option (Int × List Char)
  | 'Z' :: t => some (0, t)
  | 'z' :: t => some (0, t)
  | t => do
    let (sign, t) ← sign? t
    let (hours, t) ← digits? 2 t
    let t ← part t
    let (minutes, t) ← digits? 2 t
    guard (minutes ≤ 59 ∧ hours ≤ 23)
    some (sign * (hours * 3600 + minutes * 60 : Nat), t)

def isDateEnd (c : Char) : Bool :=
  c == 'T' || c == 't' || c == ' '

def dateEnd? : List Char → Option (List Char)
  | [] => none
  | c :: t => if isDateEnd c then some t else none

/-- The strict internet form: fields of fixed width, an optional fraction, an offset. -/
def strict? (t : List Char) : Option Instant := do
  let (year, t) ← digits? 4 t
  let t ← expect? '-' t
  let (month, t) ← digits? 2 t
  let t ← expect? '-' t
  let (day, t) ← digits? 2 t
  let t ← dateEnd? t
  let (hour, t) ← digits? 2 t
  let t ← expect? ':' t
  let (minute, t) ← digits? 2 t
  let t ← expect? ':' t
  let (second, t) ← digits? 2 t
  let (fraction, t) ← fraction? t
  let (offset, t) ← offset? (expect? ':') t
  guard t.isEmpty
  instantOf? ⟨⟨year, month, day⟩, hour, minute, second, fraction⟩ offset

/-- Reads a year after blanks: up to four digits, or a sign and any number of digits. -/
def year? (t : List Char) : Option (Int × List Char) :=
  match trimStart t with
  | '-' :: t => (digitsUpTo? t.length t).map fun (n, t) => (-n, t)
  | '+' :: t => (digitsUpTo? t.length t).map fun (n, t) => (n, t)
  | t => (digitsUpTo? 4 t).map fun (n, t) => (n, t)

def twoDigits? (t : List Char) : Option (Nat × List Char) :=
  digitsUpTo? 2 (trimStart t)

/-- Reads a date of lenient fields; `pause` says what may stand before a hyphen. -/
def looseDate? (pause : List Char → List Char) (t : List Char) : Option (Date × List Char) := do
  let (year, t) ← year? t
  let t ← expect? '-' (pause t)
  let (month, t) ← twoDigits? t
  let t ← expect? '-' (pause t)
  let (day, t) ← twoDigits? t
  some (⟨year, month, day⟩, t)

def looseTime? (pause : List Char → List Char) (t : List Char) :
    Option ((Nat × Nat × Nat) × List Char) := do
  let (hour, t) ← twoDigits? t
  let t ← expect? ':' (pause t)
  let (minute, t) ← twoDigits? t
  let t ← expect? ':' (pause t)
  let (second, t) ← twoDigits? t
  some ((hour, minute, second), t)

/-- A clock of lenient fields, with what `parting` reads between date and time of day. -/
def wallClock? (parting : List Char → Option (List Char)) (t : List Char) : Option Clock := do
  let (date, t) ← looseDate? id t
  let t ← parting t
  let ((hour, minute, second), t) ← looseTime? id t
  guard t.isEmpty
  let clock : Clock := ⟨date, hour, minute, second, 0⟩
  guard clock.isValid
  some clock

def yearInRange (year : Int) : Bool :=
  -262143 ≤ year && year ≤ 262142

/-- The instant at which the wall clocks of a zone show the given fields, the earliest offset
first; none for a time that no clock of the zone shows. -/
def instantOfWall? (zone : Zone) (c : Clock) : Option Instant := do
  guard (yearInRange c.date.year)
  let (wall, nanos) := c.toWall
  let offset ← zone.offsetOfWall? wall
  Instant.ofParts? (wall - offset) nanos

/-- Wall time with any blanks between date and time of day. -/
def spacedClock? (t : List Char) : Option Clock :=
  wallClock? (fun t => some (trimStart t)) t

/-- Wall time with the letter T between date and time of day. -/
def letteredClock? (t : List Char) : Option Clock :=
  wallClock? (expect? 'T') t

/-- The instant that a text of a snapshot names in a zone. -/
def parse? (zone : Zone) (text : String) : Option Instant :=
  let t := trim text.toList
  match strict? t with
  | some instant => some instant
  | none =>
    match (spacedClock? t).or (letteredClock? t) with
    | some clock => instantOfWall? zone clock
    | none => none

/-- Reads the offset of the relaxed internet form: the word UTC too stands for zero, and any
colons and blanks may part hours from minutes. -/
def relaxedOffset? (t : List Char) : Option (Int × List Char) :=
  match t with
  | u :: tee :: c :: rest =>
    if u.toUpper = 'U' ∧ tee.toUpper = 'T' ∧ c.toUpper = 'C' then some (0, rest)
    else offset? (fun t => some (t.dropWhile fun c => c == ':' || isBlank c)) t
  | _ => offset? (fun t => some (t.dropWhile fun c => c == ':' || isBlank c)) t

/-- The relaxed internet form: fields may be short and stand after blanks. -/
def relaxed? (t : List Char) : Option Instant := do
  let (date, t) ← looseDate? trimStart t
  let t ← dateEnd? t
  let ((hour, minute, second), t) ← looseTime? trimStart t
  let (fraction, t) ← fraction? t
  let (offset, t) ← relaxedOffset? (trimStart t)
  guard ((trimStart t).isEmpty ∧ yearInRange date.year)
  instantOf? ⟨date, hour, minute, second, fraction⟩ offset

end CounterBoard.Time

import CounterBoard.Text.Precision
import CounterBoard.Toml.Value

/-!
The numerals of TOML: integers in four bases, and floats. Underscores may stand between digits.
Whether a numeral is written well is one question and whether a number can be read from it another:
one that is too large, or that goes on with letters after an underscore, stands in a document
without harm for as long as nobody asks what it says.
-/

set_option autoImplicit false
set_option relaxedAutoImplicit false

namespace CounterBoard.Toml

open CounterBoard.Text

def inBase (base : Nat) (ds : List Char) : Nat :=
  ds.foldl (fun n c => base * n + (hexValue? c).getD 0) 0

def isDigitOf (base : Nat) (c : Char) : Bool :=
  (hexValue? c).any (· < base)

/-- Whether an integer fits one of the widths that integers are kept in. -/
def fits (n : Int) : Bool :=
  -Int.pow 2 127 ≤ n && n < Int.pow 2 128

def ofInteger (n : Int) : Value :=
  if fits n then .integer n else .unreadable

/-- A text without its underscores, if each of them stands between digits; `mayFollow` says whether
one may stand in front. -/
def dropUnderscores? (isDigit : Char → Bool) (mayFollow : Bool) : List Char → Option (List Char)
  | [] => some []
  | '_' :: t =>
    if mayFollow && t.head?.any isDigit then dropUnderscores? isDigit false t else none
  | c :: t => (dropUnderscores? isDigit (isDigit c) t).map (c :: ·)

/-- The text of a numeral without its underscores. None may stand in front, but one may follow the
first character whatever that is, so also a sign. -/
def plain? (isDigit : Char → Bool) : List Char → Option (List Char)
  | [] => some []
  | '_' :: _ => none
  | c :: t => (dropUnderscores? isDigit true t).map (c :: ·)

def dropSign : List Char → List Char
  | '+' :: cs => cs
  | '-' :: cs => cs
  | cs => cs

def hasLeadingZero : List Char → Bool
  | '0' :: _ :: _ => true
  | _ => false

def decimal? (cs : List Char) : Option Int :=
  let ds := dropSign cs
  if ds.all Char.isDigit then
    some (if cs.head? = some '-' then -(number ds : Int) else number ds)
  else none

/-- Reads a decimal integer. Underscores are held to stand between hexadecimal digits, and what is
more than decimal digits is no number. -/
def decimalInteger? (cs : List Char) : Option Value := do
  guard (!hasLeadingZero (dropSign cs))
  let cs ← plain? (isDigitOf 16) cs
  some ((decimal? cs).elim .unreadable ofInteger)

def basedInteger? (base : Nat) (cs : List Char) : Option Value := do
  guard (cs.all fun c => c == '_' || isDigitOf base c)
  let ds ← plain? (isDigitOf 16) cs
  some (if ds.isEmpty then .unreadable else ofInteger (inBase base ds))

/-- Reads one digit at least, with underscores anywhere, and leaves these out. -/
def digitRun? (t : List Char) : Option (List Char × List Char) :=
  let run := t.takeWhile fun c => c.isDigit || c == '_'
  if run.any Char.isDigit then some (run.filter Char.isDigit, t.drop run.length) else none

def decimals? : List Char → Option (List Char × List Char)
  | '.' :: t => digitRun? t
  | t => some ([], t)

def isExponentMark (c : Char) : Bool :=
  c == 'e' || c == 'E'

def exponent? : List Char → Option (Int × List Char)
  | [] => some (0, [])
  | c :: t =>
    if isExponentMark c then
      (digitRun? (dropSign t)).map fun (ds, rest) =>
        (if t.head? = some '-' then -(number ds : Int) else number ds, rest)
    else some (0, c :: t)

/-- The digits of a float without a sign, and the power of ten of the last of them. -/
def floatDigits? (cs : List Char) : Option (List Char × Int) := do
  let (whole, t) ← digitRun? cs
  guard (cs.head? ≠ some '0' ∨ whole.length ≤ 1)
  let (decimals, t) ← decimals? t
  let (scale, t) ← exponent? t
  guard t.isEmpty
  some (whole ++ decimals, scale - decimals.length)

def float? (cs : List Char) : Option Value := do
  let (digits, scale) ← floatDigits? (dropSign cs)
  guard (plain? Char.isDigit cs).isSome
  some (if exceedsDouble digits scale then .unreadable else .float)

end CounterBoard.Toml
